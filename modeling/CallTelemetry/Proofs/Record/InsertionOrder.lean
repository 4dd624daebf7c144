import CallTelemetry.Proofs.Record.Names
import CallTelemetry.Record.Emission
import Mathlib.Data.Finset.Card
import Mathlib.Data.List.DropRight

/-!
# Bags as maps in insertion order

A bag is added to and emptied in any order, by enrichers and by the pool between two calls. All that it holds in the end
is told by the pairs that were added since it was emptied last (`BagUse.added`): its keys are the keys of these pairs,
each at the place of its first addition (`keys_run`), and the value of a key is that of its last addition
(`get?_run`). Whoever looks at the bag, its JSON text or a copy of a record with it sees just this
(`run_isInInsertionOrder`).
-/

namespace CallTelemetry

/-- One use of a bag. -/
inductive BagUse where
  | add (key value : String)
  | clear
  /-- The bag goes back to its pool, which hands it out again. -/
  | recycle

namespace BagUse

def pair? : BagUse → Option (String × String)
  | add key value => some (key, value)
  | clear | recycle => none

/-- The pairs that were added since the bag was emptied last. -/
def added (uses : List BagUse) : List (String × String) :=
  (uses.rtakeWhile fun u => u.pair?.isSome).filterMap pair?

theorem added_append_add (uses : List BagUse) (key value : String) :
    added (uses ++ [add key value]) = added uses ++ [(key, value)] := by
  unfold added
  rw [List.rtakeWhile_concat_pos _ _ _ rfl, List.filterMap_append]
  rfl

theorem added_append_of_pair?_eq_none {u : BagUse} (empties : u.pair? = none) (uses : List BagUse) :
    added (uses ++ [u]) = [] := by
  unfold added
  rw [List.rtakeWhile_concat_neg _ _ _ (by simp [empties])]
  rfl

end BagUse

/-- The value of a key in the last pair that has one. -/
def lastValue? (pairs : List (String × String)) (key : String) : Option String := pairs.reverse.lookup key

/-- Each key at the place where it comes first, with its last value. -/
def inInsertionOrder (pairs : List (String × String)) : List (String × String) :=
  (pairs.map (·.1)).eraseDups.filterMap fun key => (lastValue? pairs key).map (key, ·)

theorem lastValue?_append (pairs : List (String × String)) (key value other : String) :
    lastValue? (pairs ++ [(key, value)]) other = if other = key then some value else lastValue? pairs other := by
  unfold lastValue?
  rw [List.reverse_append, List.reverse_singleton, List.singleton_append, List.lookup_cons]
  by_cases same : other = key
  · rw [if_pos same, beq_iff_eq.2 same]
  · rw [if_neg same, beq_eq_false_iff_ne.2 same]

theorem eraseDups_append_singleton (keys : List String) (key : String) :
    (keys ++ [key]).eraseDups = if key ∈ keys.eraseDups then keys.eraseDups else keys.eraseDups ++ [key] := by
  rw [List.eraseDups_append]
  by_cases there : key ∈ keys <;> simp [List.removeAll, List.eraseDups_cons, there]

namespace PropertyBag

/-- A bag after a use. -/
def after (bag : PropertyBag) : BagUse → PropertyBag
  | .add key value => bag.add key value
  | .clear => bag.clear
  | .recycle => Recycle.reset bag

/-- A bag after several uses. -/
def run (bag : PropertyBag) (uses : List BagUse) : PropertyBag := uses.foldl after bag

theorem run_append_singleton (bag : PropertyBag) (uses : List BagUse) (u : BagUse) :
    bag.run (uses ++ [u]) = (bag.run uses).after u := by
  unfold run
  rw [List.foldl_append]
  rfl

theorem toList_after_of_pair?_eq_none {u : BagUse} (empties : u.pair? = none) (bag : PropertyBag) :
    (bag.after u).toList = [] := by
  cases u with
  | add key value => cases empties
  | clear => rfl
  | recycle => rfl

/-- The keys of a bag are those that were added since it was emptied, in the order in which they first were. -/
theorem keys_run (uses : List BagUse) :
    (({} : PropertyBag).run uses).keys = ((BagUse.added uses).map (·.1)).eraseDups := by
  induction uses using List.reverseRecOn with
  | nil => rfl
  | append_singleton uses u ih =>
    rw [run_append_singleton]
    cases pair : u.pair? with
    | some p =>
      cases u with
      | add key value =>
        rw [BagUse.added_append_add, List.map_append, List.map_singleton, eraseDups_append_singleton, ← ih]
        exact keys_add _ key value
      | clear => cases pair
      | recycle => cases pair
    | none =>
      rw [BagUse.added_append_of_pair?_eq_none pair, keys, toList_after_of_pair?_eq_none pair]
      rfl

/-- A key has the value that was added for it last. -/
theorem get?_run (uses : List BagUse) (key : String) :
    (({} : PropertyBag).run uses).get? key = lastValue? (BagUse.added uses) key := by
  induction uses using List.reverseRecOn with
  | nil => rfl
  | append_singleton uses u ih =>
    rw [run_append_singleton]
    cases pair : u.pair? with
    | some p =>
      cases u with
      | add k value =>
        rw [BagUse.added_append_add, lastValue?_append, ← ih]
        exact get?_add _ k value key
      | clear => cases pair
      | recycle => cases pair
    | none =>
      rw [BagUse.added_append_of_pair?_eq_none pair, get?, toList_after_of_pair?_eq_none pair]
      rfl

/-- As no key is there twice, the keys and their values are all that a bag has. -/
theorem toList_eq (bag : PropertyBag) : bag.toList = bag.keys.filterMap fun key => (bag.get? key).map (key, ·) := by
  have found : ∀ p ∈ bag.toList, bag.get? p.1 = some p.2 := fun p among => (lookup_eq_some_iff_mem bag.nodup_keys).2 among
  unfold keys
  rw [List.filterMap_map]
  calc
    bag.toList = bag.toList.filterMap some := List.filterMap_some.symm
    _ = bag.toList.filterMap _ := by
      refine List.filterMap_congr fun p among => ?_
      simp only [Function.comp, found p among, Option.map_some]

theorem toList_run (uses : List BagUse) :
    (({} : PropertyBag).run uses).toList = inInsertionOrder (BagUse.added uses) := by
  rw [toList_eq, keys_run]
  simp only [get?_run]
  rfl

theorem size_run (uses : List BagUse) :
    (({} : PropertyBag).run uses).size = ((BagUse.added uses).map (·.1)).toFinset.card := by
  have same : ((BagUse.added uses).map (·.1)).toFinset = (({} : PropertyBag).run uses).keys.toFinset := by
    ext key
    rw [keys_run, List.mem_toFinset, List.mem_toFinset, List.mem_eraseDups]
  rw [same, List.toFinset_card_of_nodup (nodup_keys _)]
  exact (List.length_map _).symm

/-- A reader that goes by the names of members finds the value of each key in the text of a bag. -/
theorem find?_text (bag : PropertyBag) (key : String) :
    (Json.parse? bag.toJson.render).bind (Json.find? [key]) = (bag.get? key).map .str := by
  have distinct : bag.toJson.hasDistinctNames = true :=
    (Json.hasDistinctNames_ofPairs bag.toList).trans (decide_eq_true bag.nodup_keys)
  have read : Json.parse? bag.toJson.render = some (bag.toJson.kept .sorted) :=
    Json.read?_render (Json.legible_ofPairs bag.toList)
  rw [read, Option.bind_some, Json.find?_kept_sorted distinct]
  show (((bag.toList.map fun p => (p.1, Json.str p.2)).lookup key).bind (Json.find? [])).map _ = _
  rw [lookup_map_snd, get?]
  cases bag.toList.lookup key <;> rfl

/-- After any uses a bag is a map from the keys that were added since it was emptied last to the values that were added
for them last, and its entries, its text and a copy of a record with it list the keys in the order in which they were
first added. -/
theorem run_isInInsertionOrder (uses : List BagUse) :
    let bag := ({} : PropertyBag).run uses
    let added := BagUse.added uses
    bag.toList = inInsertionOrder added ∧
      (∀ key, bag.get? key = lastValue? added key ∧ (bag.get? key = none ↔ key ∉ added.map (·.1))) ∧
      bag.size = (added.map (·.1)).toFinset.card ∧
      Json.read? .everything bag.toJson.render = some (Json.ofPairs (inInsertionOrder added)) ∧
      (∀ key, (Json.parse? bag.toJson.render).bind (Json.find? [key]) = (lastValue? added key).map .str) ∧
      ∀ (r : LogRecord) (severity : Severity) (failure : Option String) (timestamp key : String),
        let record := { r with enrichment := some bag }
        let copy := Emission.capture ⟨record, severity, failure⟩ timestamp
        copy.enrichment = inInsertionOrder added ∧ copy.enrichmentValue? key = lastValue? added key ∧
          record.enrichmentValue? key = lastValue? added key := by
  intro bag added
  have entries : bag.toList = inInsertionOrder added := toList_run uses
  have found : ∀ key, bag.get? key = lastValue? added key := get?_run uses
  refine ⟨entries, fun key => ⟨found key, ?_⟩, size_run uses, ?_, fun key => ?_, fun r severity failure timestamp key => ?_⟩
  · rw [get?_eq_none_iff, show bag.keys = _ from keys_run uses, List.mem_eraseDups]
  · rw [toJson, Json.read?_render (Json.legible_ofPairs bag.toList), Json.kept_everything, entries]
  · rw [find?_text, found]
  · exact ⟨entries, found key, found key⟩

/-- A key that is added again stays where it is, and what was there before the bag was emptied is gone. -/
example : (({} : PropertyBag).run
    [.add "a" "1", .recycle, .add "b" "2", .add "c" "3", .add "b" "4"]).toList = [("b", "4"), ("c", "3")] := by decide

end PropertyBag

end CallTelemetry
