import CallTelemetry.Proofs.Json.Names
import CallTelemetry.Proofs.Record.WireForm

/-!
# Names in the text of a record

The members of a record have names of their own, and a bag keeps its keys distinct. So a name stands twice in an
object of the text only if it does among the path parameters or in a list of headers (`hasDistinctNames_details`).
-/

namespace CallTelemetry

namespace Json

theorem membersHaveDistinctNames_append (a b : List (String × Json)) :
    membersHaveDistinctNames (a ++ b) = (membersHaveDistinctNames a && membersHaveDistinctNames b) := by
  induction a with
  | nil => rfl
  | cons m rest ih => rw [List.cons_append, membersHaveDistinctNames, membersHaveDistinctNames, ih, Bool.and_assoc]

theorem hasDistinctNames_ofPairs (pairs : List (String × String)) :
    (ofPairs pairs).hasDistinctNames = decide (pairs.map (·.1)).Nodup := by
  have texts : membersHaveDistinctNames (pairs.map fun p => (p.1, Json.str p.2)) = true := by
    induction pairs with
    | nil => rfl
    | cons p rest ih => exact ih
  show (decide _ && _) = _
  rw [texts, Bool.and_true, List.map_map]
  rfl

end Json

namespace LogRecord

open Json (membersHaveDistinctNames)

theorem membersHaveDistinctNames_member {α : Type} (name : String) (write : α → Json) (o : Option α) :
    membersHaveDistinctNames (member name write o) = o.all fun a => (write a).hasDistinctNames := by
  cases o with
  | none => rfl
  | some a => exact Bool.and_true _

theorem names_details_sublist (r : LogRecord) : (r.details.map (·.1)).Sublist ["path_parameters", "request_headers",
    "response_headers", "request_body", "response_body", "enrichment"] := by
  have one : ∀ {α : Type} (name : String) (write : α → Json) (o : Option α),
      ((member name write o).map (·.1)).Sublist [name] := by
    intro α name write o
    cases o with
    | none => exact List.nil_sublist _
    | some a => exact List.Sublist.refl _
  have parameters : ((if r.pathParameters.isEmpty then [] else
      [("path_parameters", Json.ofPairs r.pathParameters)]).map (·.1)).Sublist ["path_parameters"] := by
    split
    · exact List.nil_sublist _
    · exact List.Sublist.refl _
  simp only [details, List.map_append]
  exact (((((parameters.append (one ..)).append (one ..)).append (one ..)).append (one ..)).append (one ..))

theorem nodup_names_details (r : LogRecord) : (r.details.map (·.1)).Nodup :=
  List.Nodup.sublist r.names_details_sublist (by decide)

theorem nodup_names_text (r : LogRecord) : ((r.scalars ++ r.details).map (·.1)).Nodup := by
  rw [List.map_append]
  refine List.Nodup.sublist ((List.Sublist.refl _).append r.names_details_sublist) ?_
  show List.Nodup ["method", "host", "path", "status_code", "duration_ms", "path_parameters", "request_headers",
    "response_headers", "request_body", "response_body", "enrichment"]
  decide

/-- Names are repeated in a record only if they are in its parameters or in its headers. -/
theorem hasDistinctNames_details (r : LogRecord) :
    (Json.obj r.details).hasDistinctNames = true ↔
      (r.pathParameters.map (·.1)).Nodup ∧ (∀ list ∈ r.requestHeaders, (list.items.map (·.1)).Nodup) ∧
        ∀ list ∈ r.responseHeaders, (list.items.map (·.1)).Nodup := by
  have parameters : membersHaveDistinctNames (if r.pathParameters.isEmpty then [] else
      [("path_parameters", Json.ofPairs r.pathParameters)]) = decide (r.pathParameters.map (·.1)).Nodup := by
    cases r.pathParameters with
    | nil => rfl
    | cons p rest => exact (Bool.and_true _).trans (Json.hasDistinctNames_ofPairs _)
  have texts : ∀ o : Option String, (o.all fun s => (Json.str s).hasDistinctNames) = true := by
    intro o
    cases o <;> rfl
  have bag : (r.enrichment.all fun bag => bag.toJson.hasDistinctNames) = true := by
    cases r.enrichment with
    | none => rfl
    | some bag => exact (Json.hasDistinctNames_ofPairs _).trans (decide_eq_true bag.nodup_keys)
  rw [Json.hasDistinctNames, decide_eq_true r.nodup_names_details, Bool.true_and]
  simp only [details, Json.membersHaveDistinctNames_append, membersHaveDistinctNames_member, parameters, texts, bag,
    Json.hasDistinctNames_ofPairs, Bool.and_true, Bool.and_eq_true, decide_eq_true_iff, Option.all_eq_true, and_assoc,
    Option.mem_def]

theorem hasDistinctNames_text (r : LogRecord) :
    (Json.obj (r.scalars ++ r.details)).hasDistinctNames = (Json.obj r.details).hasDistinctNames := by
  have scalars : membersHaveDistinctNames r.scalars = true := by
    unfold scalars membersHaveDistinctNames
    cases r.statusCode <;> rfl
  rw [Json.hasDistinctNames, Json.hasDistinctNames, decide_eq_true r.nodup_names_text,
    decide_eq_true r.nodup_names_details, Json.membersHaveDistinctNames_append, scalars, Bool.true_and]

end LogRecord

end CallTelemetry
