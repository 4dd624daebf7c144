/-!
# ASCII letter case

Header names, classification labels and media types are compared without regard to the case of the
letters `A` to `Z`; every other character stands for itself. `lower` is the one folding used, so two
texts are equal up to case exactly when their lower forms are equal (`eqIgnoreCase_iff`).
-/

namespace CallTelemetry.Text

/-- The text with `A` to `Z` made small. -/
def lower (s : String) : String :=
  String.ofList (s.toList.map Char.toLower)

/-- Equality up to the case of ASCII letters. -/
def eqIgnoreCase (a b : String) : Bool :=
  lower a == lower b

theorem toList_lower (s : String) : (lower s).toList = s.toList.map Char.toLower := by
  simp [lower]

theorem eqIgnoreCase_iff {a b : String} : eqIgnoreCase a b = true ↔ lower a = lower b := by
  simp [eqIgnoreCase]

end CallTelemetry.Text
