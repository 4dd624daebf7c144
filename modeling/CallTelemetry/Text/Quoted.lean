import CallTelemetry.Text.Printable
import CallTelemetry.Text.Extender

/-!
# Quoted text

How a text is shown inside a diagnostic: in double quotes, with `\0 \t \r \n \" \\` for those
characters and `\u` with a hexadecimal number in braces for every character that would not be seen on
its own. A list of texts is shown in square brackets.
-/

namespace CallTelemetry.Text

/-- A number in base 16 with small letters and no leading zero. -/
def hex (n : Nat) : List Char :=
  Nat.toDigits 16 n

/-- One character as it stands between quotes. -/
def quoteChar (c : Char) : List Char :=
  if c = Char.ofNat 0 then ['\\', '0']
  else if c = '\t' then ['\\', 't']
  else if c = '\r' then ['\\', 'r']
  else if c = '\n' then ['\\', 'n']
  else if c = '"' then ['\\', '"']
  else if c = '\\' then ['\\', '\\']
  else if 0x20 ≤ c.toNat && c.toNat < 0x7F then [c]
  else if isExtender c || !isPrintable c then ['\\', 'u', '\x7b'] ++ hex c.toNat ++ ['\x7d']
  else [c]

/-- A text in double quotes. -/
def quote (s : String) : String :=
  String.ofList ('"' :: s.toList.flatMap quoteChar ++ ['"'])

/-- Texts in double quotes, separated by commas, in square brackets. -/
def quoteList (names : List String) : String :=
  "[" ++ ", ".intercalate (names.map quote) ++ "]"

end CallTelemetry.Text
