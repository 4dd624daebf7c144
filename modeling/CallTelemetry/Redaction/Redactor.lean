import CallTelemetry.Redaction.Classification

/-!
# Redactors

A redactor turns a sensitive value into the text that is logged for it, by itself (`redact`) or behind
a text that is already there (`redactInto`). The two that come with the library erase the value or put
it into a format whose places are marked by a zero in braces, and both append exactly what they redact
to (`erasing_appends`, `formatting_appends`). What is put in is never searched for places again.
-/

namespace CallTelemetry

/-- A way to show a sensitive value. -/
structure Redactor where
  redact : Classification → String → String
  /-- The shown value behind `out`. -/
  redactInto : Classification → String → (out : String) → String := fun c value out => out ++ redact c value

namespace Redactor

/-- The redactor writes behind a text what it would write alone. -/
def Appends (r : Redactor) : Prop :=
  ∀ c value out, r.redactInto c value out = out ++ r.redact c value

/-- The redactor shows the same for all values of a label. -/
def IgnoresValue (r : Redactor) : Prop :=
  ∀ c v w, r.redact c v = r.redact c w ∧ ∀ out, r.redactInto c v out = r.redactInto c w out

/-- Shows nothing. -/
def erasing : Redactor where
  redact _ _ := ""
  redactInto _ _ out := out

/-- A format with its places filled in, from left to right. -/
def fill (value : List Char) : List Char → List Char
  | [] => []
  | '\x7b' :: '0' :: '\x7d' :: rest => value ++ fill value rest
  | c :: rest => c :: fill value rest

/-- Shows a value through a format. -/
def formatting (format : String) : Redactor where
  redact _ value := String.ofList (fill value.toList format.toList)
  redactInto _ value out := out ++ String.ofList (fill value.toList format.toList)

/-- A value behind `out`: as it is if its label is safe, redacted otherwise. -/
def apply (r : Redactor) (c : Classification) (value out : String) : String :=
  if c.isSafe then out ++ value else r.redactInto c value out

/-- Shown for a parameter that has no label when every parameter is to be redacted. -/
def mark : String := "REDACTED"

theorem erasing_appends : erasing.Appends := by
  intro c value out
  simp [erasing]

theorem formatting_appends (format : String) : (formatting format).Appends :=
  fun _ _ _ => rfl

theorem apply_of_isSafe {r : Redactor} {c : Classification} (h : c.isSafe = true) (value out : String) :
    r.apply c value out = out ++ value := by
  simp [apply, h]

theorem apply_of_not_isSafe {r : Redactor} {c : Classification} (h : c.isSafe = false)
    (value out : String) : r.apply c value out = r.redactInto c value out := by
  simp [apply, h]

end Redactor

end CallTelemetry
