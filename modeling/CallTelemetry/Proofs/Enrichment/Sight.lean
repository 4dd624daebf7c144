import CallTelemetry.Proofs.Enrichment.Registry

/-!
# What enrichers see of a bag

The memory allocated for a bag is hidden from enrichers, so what one writes depends on a bag only through the
pairs in it (`Enricher.ReadsEntries`). A set of such enrichers leaves the same pairs in any two bags that held
the same pairs (`toList_bag_fanOut`). The enrichers that come with the library are such
(`readsEntries_of_builtin`).
-/

namespace CallTelemetry

/-- What an enricher writes depends on a bag only through its pairs. -/
def Enricher.ReadsEntries (e : Enricher) : Prop :=
  ∀ (a b : PropertyBag) (request : Request) (response : Option Response), a.toList = b.toList →
    (e.run a request response).1.toList = (e.run b request response).1.toList

theorem EnricherSet.toList_bag_fanOut {set : EnricherSet} (sees : ∀ e ∈ set, e.ReadsEntries)
    {a b : PropertyBag} (same : a.toList = b.toList) (request : Request) (response : Option Response) :
    (set.fanOut a request response).bag.toList = (set.fanOut b request response).bag.toList := by
  unfold fanOut
  rw [bag_foldl_step, bag_foldl_step]
  dsimp only
  induction set generalizing a b with
  | nil => exact same
  | cons e rest ih =>
    have first := sees e List.mem_cons_self a b request response same
    exact ih (fun e he => sees e (List.mem_cons_of_mem _ he)) first

namespace PropertyBag

variable {a b : PropertyBag}

theorem toList_add_congr (same : a.toList = b.toList) (key value : String) :
    (a.add key value).toList = (b.add key value).toList := by
  have keys : a.keys = b.keys := by
    unfold keys
    rw [same]
  rw [toList_add, toList_add, keys, same]

theorem toList_addAll_congr (same : a.toList = b.toList) (pairs : List (String × String)) :
    (a.addAll pairs).toList = (b.addAll pairs).toList := by
  unfold addAll
  induction pairs generalizing a b with
  | nil => exact same
  | cons p rest ih => exact ih (toList_add_congr same p.1 p.2)

end PropertyBag

theorem StaticProperties.readsEntries_enricher (pairs : List (String × String)) :
    (enricher pairs).ReadsEntries :=
  fun _ _ _ _ same => PropertyBag.toList_addAll_congr same pairs

theorem RequestNames.readsEntries_enricher (s : Settings) : (enricher s).ReadsEntries := by
  have addSome_congr : ∀ {a b : PropertyBag} (key : String) (value : Option String), a.toList = b.toList →
      (addSome a key value).toList = (addSome b key value).toList := by
    intro a b key value same
    cases value with
    | none => exact same
    | some value => exact PropertyBag.toList_add_congr same key value
  intro a b request response same
  unfold enricher
  dsimp only
  cases request.metadata with
  | none => exact same
  | some m => exact addSome_congr _ _ (addSome_congr _ _ same)

theorem CallId.readsEntries_enricher (newId : Request → String) (header : HeaderName) (key : String) :
    (enricher newId header key).ReadsEntries := by
  intro a b request response same
  unfold enricher
  dsimp only
  cases request.headers.first? header with
  | none => exact PropertyBag.toList_add_congr same key _
  | some value =>
    dsimp only
    cases value.visible? with
    | none => exact same
    | some id => exact PropertyBag.toList_add_congr same key id

theorem HeaderCopy.toList_copy_congr {a b : PropertyBag} (same : a.toList = b.toList) (targets : List Target)
    (headers : HeaderMap) : (copy targets headers a).toList = (copy targets headers b).toList := by
  unfold copy
  induction targets generalizing a b with
  | nil => exact same
  | cons target rest ih =>
    have first : (copyOne headers a target).toList = (copyOne headers b target).toList := by
      unfold copyOne
      cases headers.valuesOf target.1 with
      | nil => exact same
      | cons value values => exact PropertyBag.toList_add_congr same _ _
    exact ih first

theorem HeaderCopy.readsEntries_enricher (request response : List Target) :
    (enricher request response).ReadsEntries := by
  intro a b req resp same
  have copied := toList_copy_congr same request req.headers
  unfold enricher
  cases resp with
  | none => exact copied
  | some r => exact toList_copy_congr copied response r.headers

/-- No enricher of the library sees more of a bag than its pairs. -/
theorem readsEntries_of_builtin {newId : Request → String} {f : EnricherFactory}
    (known : f ∈ builtinFactories newId) {config : Json} {e : Enricher} (made : f.configure config = .ok e) :
    e.ReadsEntries := by
  unfold builtinFactories at known
  simp only [List.mem_cons, List.not_mem_nil, or_false] at known
  rcases known with rfl | rfl | rfl | rfl
  · obtain ⟨pairs, -, rfl⟩ := StaticProperties.configure_eq_ok_iff.1 made
    exact StaticProperties.readsEntries_enricher pairs
  · obtain ⟨s, -, request, -, response, -, rfl⟩ := HeaderCopy.configure_eq_ok_iff.1 made
    exact HeaderCopy.readsEntries_enricher request response
  · obtain ⟨s, -, rfl⟩ := RequestNames.configure_eq_ok_iff.1 made
    exact RequestNames.readsEntries_enricher s
  · obtain ⟨s, -, header, -, -, rfl⟩ := CallId.configure_eq_ok_iff.1 made
    exact CallId.readsEntries_enricher newId header s.key

end CallTelemetry
