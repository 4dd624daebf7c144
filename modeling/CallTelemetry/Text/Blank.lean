/-!
# Blank characters

The characters with the Unicode property `White_Space`, and cutting them off both ends of a text.
The zero-width space is not one of them.
-/

namespace CallTelemetry.Text

/-- The code points that Unicode calls white space, as closed ranges. -/
def blankRanges : List (Nat × Nat) :=
  [(0x09, 0x0D), (0x20, 0x20), (0x85, 0x85), (0xA0, 0xA0), (0x1680, 0x1680), (0x2000, 0x200A),
   (0x2028, 0x2029), (0x202F, 0x202F), (0x205F, 0x205F), (0x3000, 0x3000)]

/-- Whether a character is white space. -/
def isBlank (c : Char) : Bool :=
  blankRanges.any fun r => r.1 ≤ c.toNat && c.toNat ≤ r.2

/-- The characters between the first and the last that are not blank. -/
def trimList (cs : List Char) : List Char :=
  ((cs.dropWhile isBlank).reverse.dropWhile isBlank).reverse

/-- The text without the blanks at either end. -/
def trim (s : String) : String :=
  String.ofList (trimList s.toList)

theorem isBlank_space : isBlank ' ' = true := by decide

@[simp] theorem trimList_nil : trimList [] = [] := rfl

theorem toList_trim (s : String) : (trim s).toList = trimList s.toList := by
  simp [trim]

end CallTelemetry.Text
