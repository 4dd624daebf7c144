import CallTelemetry.Json.Basic

/-!
# Compact JSON text

The text of a value without any blank. Inside a string only the quote, the backslash and the
characters below the space are escaped; the members of an object stand in their order.
-/

namespace CallTelemetry.Json

open Decimal (Layout)

/-- The last digit of a `\u00` escape. -/
def hexDigit (n : Nat) : Char :=
  if n < 10 then Char.ofNat (48 + n) else Char.ofNat (87 + n)

/-- One character as it stands inside a string. -/
def escapeChar (c : Char) : List Char :=
  if c = '"' then ['\\', '"']
  else if c = '\\' then ['\\', '\\']
  else if c = '\n' then ['\\', 'n']
  else if c = '\r' then ['\\', 'r']
  else if c = '\t' then ['\\', 't']
  else if c = '\x08' then ['\\', 'b']
  else if c = '\x0c' then ['\\', 'f']
  else if c.toNat < 0x20 then ['\\', 'u', '0', '0', hexDigit (c.toNat / 16), hexDigit (c.toNat % 16)]
  else [c]

/-- A string in quotes. -/
def renderString (s : String) : List Char :=
  '"' :: s.toList.flatMap escapeChar ++ ['"']

/-- A whole number in base ten. -/
def renderInt (n : Int) : List Char :=
  if n < 0 then '-' :: Nat.toDigits 10 n.natAbs else Nat.toDigits 10 n.natAbs

mutual

/-- The characters of a value. -/
def renderList : Json → List Char
  | .null => ['n', 'u', 'l', 'l']
  | .bool true => ['t', 'r', 'u', 'e']
  | .bool false => ['f', 'a', 'l', 's', 'e']
  | .int n => renderInt n
  | .float d => if d.isFinite then (numberLayout.render d).toList else ['n', 'u', 'l', 'l']
  | .str s => renderString s
  | .arr items => '[' :: renderItems items
  | .obj members => '\x7b' :: renderMembers members

/-- The items of an array and its closing bracket. -/
def renderItems : List Json → List Char
  | [] => [']']
  | [item] => renderList item ++ [']']
  | item :: rest => renderList item ++ ',' :: renderItems rest

/-- The members of an object and its closing brace. -/
def renderMembers : List (String × Json) → List Char
  | [] => ['\x7d']
  | [(name, value)] => renderString name ++ ':' :: (renderList value ++ ['\x7d'])
  | (name, value) :: rest => renderString name ++ ':' :: (renderList value ++ ',' :: renderMembers rest)

end

/-- The compact text of a value. -/
def render (j : Json) : String :=
  String.ofList j.renderList

end CallTelemetry.Json
