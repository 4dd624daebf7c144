/-!
# Severity of calls

A finished call is an error if its transport failed, if there is no status, or if the status lies from
400 to 599.
-/

namespace CallTelemetry

/-- How serious an emitted record is. -/
inductive Severity where
  | information
  | error
  deriving DecidableEq, Repr

namespace Severity

/-- The severity of a status by itself. -/
def ofStatus (status : Nat) : Severity :=
  if 400 ≤ status ∧ status ≤ 599 then .error else .information

/-- The severity of a finished call. -/
def ofCall (status : Option Nat) (failed : Bool) : Severity :=
  match failed, status with
  | false, some status => ofStatus status
  | _, _ => .error

/-- The name in text. -/
def label : Severity → String
  | .information => "information"
  | .error => "error"

/-- The names in serialized records. -/
def names : List (String × Severity) :=
  [("Information", .information), ("Error", .error)]

def name : Severity → String
  | .information => "Information"
  | .error => "Error"

theorem ofCall_eq_error_iff (status : Option Nat) (failed : Bool) :
    ofCall status failed = .error ↔
      failed = true ∨ status = none ∨ ∃ s, status = some s ∧ 400 ≤ s ∧ s ≤ 599 := by
  cases failed <;> cases status <;> simp [ofCall, ofStatus]

theorem lookup_name (s : Severity) : names.lookup s.name = some s := by
  cases s <;> decide

end Severity

end CallTelemetry
