import CallTelemetry.Yaml.Line
import CallTelemetry.Yaml.Scalar

/-!
# Quoted scalars

In single quotes a quote is written twice, and in double quotes a backslash starts an escape. A scalar
may run over several lines: a line break with the blanks around it becomes a space, and each further
line break stays.
-/

namespace CallTelemetry.Yaml

/-- Joins the parts of a scalar across a line break: one break becomes a space, and each further one a
line break. `done` holds the characters before, last one first. -/
def fold (done : List Char) (breaks : Nat) : List Char :=
  let done := done.dropWhile isBlank
  if breaks ≤ 1 then ' ' :: done else List.replicate (breaks - 1) '\n' ++ done

/-- Counts line breaks and skips the blanks between and after them. -/
def skipBreaks : Nat → List Char → Nat × List Char
  | n, [] => (n, [])
  | n, c :: rest =>
    if c = '\n' then skipBreaks (n + 1) rest
    else if isBlank c then skipBreaks n rest
    else (n, c :: rest)

/-- The rest of a text in single quotes, where two quotes stand for one. -/
def readSingle : Nat → List Char → List Char → Option (List Char × List Char)
  | 0, _, _ => none
  | _ + 1, _, [] => none
  | fuel + 1, done, c :: rest =>
    if c = '\'' then
      match rest with
      | '\'' :: rest => readSingle fuel ('\'' :: done) rest
      | rest => some (done.reverse, rest)
    else if c = '\n' then
      let (breaks, rest) := skipBreaks 1 rest
      readSingle fuel (fold done breaks) rest
    else readSingle fuel (c :: done) rest

/-- The character of a one-letter escape. -/
def escape? (c : Char) : Option Char :=
  [('0', 0), ('a', 7), ('b', 8), ('t', 9), ('\t', 9), ('n', 10), ('v', 11), ('f', 12), ('r', 13),
   ('e', 27), (' ', 32), ('"', 34), ('/', 47), ('\\', 92), ('N', 0x85), ('_', 0xA0), ('L', 0x2028),
   ('P', 0x2029)].lookup c |>.map Char.ofNat

/-- How many hexadecimal digits follow a letter in an escape. -/
def escapeDigits? (c : Char) : Option Nat :=
  [('x', 2), ('u', 4), ('U', 8)].lookup c

/-- The rest of a text in double quotes. -/
def readDouble : Nat → List Char → List Char → Option (List Char × List Char)
  | 0, _, _ => none
  | _ + 1, _, [] => none
  | fuel + 1, done, c :: rest =>
    if c = '"' then some (done.reverse, rest)
    else if c = '\n' then
      let (breaks, rest) := skipBreaks 1 rest
      readDouble fuel (fold done breaks) rest
    else if c = '\\' then
      match rest with
      | [] => none
      | '\n' :: rest => readDouble fuel done (skipBlanks rest)
      | e :: rest =>
        match escape? e with
        | some c => readDouble fuel (c :: done) rest
        | none => do
          let count ← escapeDigits? e
          let n ← digits? 16 (rest.take count)
          if rest.length < count || !n.isValidChar then none
          readDouble fuel (Char.ofNat n :: done) (rest.drop count)
    else readDouble fuel (c :: done) rest

end CallTelemetry.Yaml
