/-!
# Errors of a call logger

The causes for which an operation of the library fails, and their texts. A call that is handed back
without its context, or with a context of another logger, is a mistake in the caller; such errors and
configuration errors are fatal, all others leave the call to be logged as well as possible.
-/

namespace CallTelemetry

/-- Why an operation failed. -/
inductive CallError where
  /-- A call was finished without the context that its start gave. -/
  | missingContext
  /-- A call was finished with the context of another logger. -/
  | foreignContext
  | unsupported (operation : String)
  | config (reason : String)
  | cancelled
  | body (reason : String)
  | enrichment (enricher reason : String)
  deriving DecidableEq, Repr

namespace CallError

/-- The text of an error. -/
def message : CallError → String
  | missingContext => "Missing call context: stop/fail invoked without a matching start"
  | foreignContext => "Invalid call context: not produced by this logger"
  | unsupported operation => "Unsupported operation: " ++ operation
  | config reason => "Config error: " ++ reason
  | cancelled => "Operation cancelled"
  | body reason => "Body read error: " ++ reason
  | enrichment enricher reason => "Enricher '" ++ enricher ++ "' failed: " ++ reason

/-- Whether a hook was called out of turn. -/
def isUsageError : CallError → Bool
  | missingContext | foreignContext => true
  | _ => false

/-- Whether an error must not be passed over. -/
def isFatal : CallError → Bool
  | config _ => true
  | e => e.isUsageError

theorem isFatal_of_isUsageError {e : CallError} (h : e.isUsageError = true) : e.isFatal = true := by
  cases e <;> simp_all [isUsageError, isFatal]

theorem isFatal_iff (e : CallError) :
    e.isFatal = true ↔ e.isUsageError = true ∨ ∃ reason, e = .config reason := by
  cases e <;> simp [isUsageError, isFatal]

end CallError

end CallTelemetry
