import CallTelemetry.Proofs.Enrichment.CopiedHeaders
import CallTelemetry.Proofs.Text.Visible

/-!
# Labels of calls

The enricher for call ids labels every call whose request lacks the correlation header with a new id, and every other
call with the first value of the header, provided that this is a text in ASCII (`run_eq_done_iff`). Any other value it
refuses, UTF-8 or not (`run_eq_failed_iff`). The enricher that copies headers takes every text
(`HeaderCopy.get?_run_of_single`), so the two record the same one exactly if it is in ASCII (`labels_iff_ascii`).
-/

namespace CallTelemetry

/-- The enricher copies a header of the request to the key, and no header of the response. -/
def HeaderCopy.Copies (copier : Enricher) (name key : String) : Prop :=
  ∃ config s, settings config = .ok s ∧ factory.make config = .ok copier ∧
    Text.lower name ∈ s.request.map Text.lower ∧ Text.lower name ∉ s.response.map Text.lower ∧ key = s.key name

/-- A single value is copied as the text that it shows. -/
theorem HeaderCopy.get?_run_of_single {copier : Enricher} {name key : String} (copies : Copies copier name key)
    {header : HeaderName} (spelled : HeaderName.ofString? name = some header) {request : Request}
    {value : HeaderValue} (single : request.headers.valuesOf header = [value]) {text : String}
    (shows : value.Shows text) (bag : PropertyBag) (response : Option Response) :
    (copier.run bag request response).1.get? key = some text := by
  obtain ⟨config, s, read, made, among, elsewhere, rfl⟩ := copies
  have named : request.headers.valuesNamed name = [value] :=
    (HeaderMap.valuesOf_eq_valuesNamed spelled request.headers).symm.trans single
  have fromResponse : (response.bind fun r => copied? s.response r.headers name) = none := by
    cases response with
    | none => rfl
    | some r => exact if_neg fun both => elsewhere both.1
  have whole : HeaderCapture.joined (seen [value]) = text := by
    rw [← foldl_join, ← HeaderValue.lossy_eq_of_shows shows]
    exact String.empty_append
  have fromRequest : copied? s.request request.headers name = some text := by
    unfold copied?
    rw [named, whole, if_pos ⟨among, List.cons_ne_nil value []⟩]
  rw [get?_run read (make_eq_ok_iff.1 made), fromResponse, fromRequest]
  rfl

namespace CallId

variable {newId : Request → String} {header : HeaderName} {key : String} {request : Request}

theorem run_of_absent (absent : request.headers.valuesOf header = []) (bag : PropertyBag)
    (response : Option Response) :
    (enricher newId header key).run bag request response = (bag.add key (newId request), .done) := by
  have unset : request.headers.first? header = none := HeaderMap.first?_eq_none_iff.2 absent
  dsimp only [enricher]
  rw [unset]

variable {value : HeaderValue} {others : List HeaderValue}

theorem run_of_visible (found : request.headers.valuesOf header = value :: others) {text : String}
    (visible : value.visible? = some text) (bag : PropertyBag) (response : Option Response) :
    (enricher newId header key).run bag request response = (bag.add key text, .done) := by
  have first : request.headers.first? header = some value := congrArg List.head? found
  dsimp only [enricher]
  rw [first]
  dsimp only
  rw [visible]

theorem run_of_not_visible (found : request.headers.valuesOf header = value :: others)
    (hidden : value.visible? = none) (bag : PropertyBag) (response : Option Response) :
    (enricher newId header key).run bag request response = (bag, .failed [header.text ++ " is not valid UTF-8"]) := by
  have first : request.headers.first? header = some value := congrArg List.head? found
  dsimp only [enricher]
  rw [first]
  dsimp only
  rw [hidden]

/-- A text in the header becomes the label if it is in ASCII, and only then. -/
theorem run_eq_done_iff (found : request.headers.valuesOf header = value :: others) {text : String}
    (shows : value.Shows text) (bag : PropertyBag) (response : Option Response) :
    (enricher newId header key).run bag request response = (bag.add key text, .done) ↔ Text.IsAscii text := by
  constructor
  · intro labelled
    cases read : value.visible? with
    | none =>
      rw [run_of_not_visible found read, Prod.mk.injEq] at labelled
      cases labelled.2
    | some other =>
      obtain ⟨same, ascii⟩ := HeaderValue.visible?_eq_some_iff.1 read
      rw [Text.Utf8.encode_injective (shows.symm.trans same)]
      exact ascii
  · intro ascii
    exact run_of_visible found (HeaderValue.visible?_eq_some_iff.2 ⟨shows, ascii⟩) bag response

/-- The label is refused if the header does not show a text in ASCII, and only then. -/
theorem run_eq_failed_iff (found : request.headers.valuesOf header = value :: others) (bag : PropertyBag)
    (response : Option Response) :
    (enricher newId header key).run bag request response =
        (bag, .failed [header.text ++ " is not valid UTF-8"]) ↔
      ¬ ∃ text, value.Shows text ∧ Text.IsAscii text := by
  constructor
  · rintro refused ⟨text, shows, ascii⟩
    rw [(run_eq_done_iff found shows bag response).2 ascii, Prod.mk.injEq] at refused
    cases refused.2
  · intro other
    exact run_of_not_visible found (HeaderValue.visible?_eq_none_iff.2 other) bag response

/-- A call whose request has no correlation header is labelled with a new id. If it has one, the first value of it
becomes the label exactly if that is a text in ASCII, and otherwise the enricher fails and leaves the bag as it was.
A single value that is a text of any characters is recorded by the enricher that copies headers. -/
theorem labels_iff_ascii {config : Json} {s : Settings} (read : settings config = .ok s) {e : Enricher}
    (made : (factory newId).make config = .ok e) :
    ∃ header, HeaderName.ofString? s.header = some header ∧
      ∀ (bag : PropertyBag) (request : Request) (response : Option Response),
        (request.headers.valuesOf header = [] →
          e.run bag request response = (bag.add s.key (newId request), .done)) ∧
        ∀ value others, request.headers.valuesOf header = value :: others →
          (∀ text, value.Shows text →
            (e.run bag request response = (bag.add s.key text, .done) ↔ Text.IsAscii text) ∧
            (others = [] → ∀ copier copyKey, HeaderCopy.Copies copier s.header copyKey →
              (copier.run bag request response).1.get? copyKey = some text)) ∧
          (e.run bag request response = (bag, .failed [header.text ++ " is not valid UTF-8"]) ↔
            ¬ ∃ text, value.Shows text ∧ Text.IsAscii text) := by
  obtain ⟨again, reread, header, spelled, -, rfl⟩ := configure_eq_ok_iff.1 (make_eq_ok_iff.1 made)
  cases read.symm.trans reread
  refine ⟨header, spelled, fun bag request response => ⟨fun absent => run_of_absent absent bag response, ?_⟩⟩
  intro value others found
  refine ⟨fun text shows => ⟨run_eq_done_iff found shows bag response, ?_⟩, run_eq_failed_iff found bag response⟩
  rintro rfl copier copyKey copies
  exact HeaderCopy.get?_run_of_single copies spelled found shows bag response

/-- A call without the header, one with a text in it that is copied too, and one with a byte that is no UTF-8. -/
theorem labels_iff_ascii_of_three :
    let config : Json := .obj [("header", .str "X-Trace"), ("key", .str "trace")]
    let copying : Json := .obj [("prefix", .str "h."), ("request", .arr [.str "x-Trace"])]
    let name : HeaderName := ⟨"x-trace", by decide⟩
    let id : HeaderValue := ⟨[97, 45, 55], by decide⟩
    let stray : HeaderValue := ⟨[255], by decide⟩
    let request (fields : HeaderMap) : Request := ⟨"GET", ⟨none, none, "/", none⟩, fields, [], none⟩
    ∃ e copier, (factory fun _ => "new").make config = .ok e ∧ HeaderCopy.factory.make copying = .ok copier ∧
      e.run {} (request []) none = (({} : PropertyBag).add "trace" "new", .done) ∧
      e.run {} (request [(name, id)]) none = (({} : PropertyBag).add "trace" "a-7", .done) ∧
      (copier.run {} (request [(name, id)]) none).1.get? "h.x-trace" = some "a-7" ∧
      e.run {} (request [(name, stray), (name, id)]) none = ({}, .failed ["x-trace is not valid UTF-8"]) := by
  intro config copying name id stray request
  have read : settings config = .ok ⟨"X-Trace", "trace"⟩ := by rfl
  have made : ∃ e, (factory fun _ => "new").make config = .ok e := ⟨_, rfl⟩
  have copied : ∃ copier, HeaderCopy.factory.make copying = .ok copier := ⟨_, rfl⟩
  obtain ⟨e, made⟩ := made
  obtain ⟨copier, copied⟩ := copied
  obtain ⟨header, spelled, runs⟩ := labels_iff_ascii read made
  have named : HeaderName.ofString? "X-Trace" = some name := by rfl
  cases named.symm.trans spelled
  have shows : id.Shows "a-7" := by decide +kernel
  have copies : HeaderCopy.Copies copier "X-Trace" "h.x-trace" :=
    ⟨copying, ⟨"h.", ["x-Trace"], []⟩, rfl, copied, by decide +kernel, by decide, by decide +kernel⟩
  obtain ⟨-, present⟩ := runs {} (request [(name, id)]) none
  obtain ⟨labelled, taken⟩ := (present id [] (by decide +kernel)).1 "a-7" shows
  obtain ⟨-, unreadable⟩ := runs {} (request [(name, stray), (name, id)]) none
  obtain ⟨-, refused⟩ := unreadable stray [id] (by decide +kernel)
  have noText : stray.visible? = none := by decide
  exact ⟨e, copier, made, copied, (runs {} (request []) none).1 (by decide +kernel), labelled.2 (by decide),
    taken rfl copier _ copies, refused.2 (HeaderValue.visible?_eq_none_iff.1 noText)⟩

/-- A text with a letter beyond ASCII is copied, and refused as a label for not being UTF-8. -/
theorem utf8_label_refused :
    let request : Request :=
      ⟨"GET", ⟨none, none, "/", none⟩, [(⟨"x-request-id", by decide⟩, ⟨[195, 169], by decide⟩)], [], none⟩
    HeaderValue.Shows ⟨[195, 169], by decide⟩ "é" ∧ ∃ e copier,
      (factory fun _ => "new").make .null = .ok e ∧
      HeaderCopy.factory.make (.obj [("request", .arr [.str "x-request-id"])]) = .ok copier ∧
      (e.run {} request none).1.toList = [] ∧
      (e.run {} request none).2 = .failed ["x-request-id is not valid UTF-8"] ∧
      (copier.run {} request none).1.toList = [("x-request-id", "é")] := by
  refine ⟨by decide +kernel, _, _, rfl, rfl, ?_, ?_, ?_⟩
  · decide +kernel
  · decide +kernel
  · decide +kernel

end CallId

end CallTelemetry
