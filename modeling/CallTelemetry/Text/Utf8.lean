/-!
# UTF-8

The bytes of a text, and the text that a byte string shows. Reading never fails: every maximal run of
bytes that starts a character but cannot be completed, and every byte that starts none, is shown as one
U+FFFD. The reader is a machine that takes one byte at a time, so reading two byte strings one after
the other is reading their concatenation (`Decoder.feedAll_append`).
-/

namespace CallTelemetry.Text.Utf8

/-- The UTF-8 bytes of a text. -/
def encode (s : String) : List UInt8 :=
  s.toList.flatMap String.utf8EncodeChar

/-- A character part way through: the bits read so far, how many bytes are still owed, and the range in
which the next byte has to lie. -/
structure Pending where
  value : Nat
  owed : Nat
  low : Nat
  high : Nat
  deriving DecidableEq, Repr

/-- What a byte means between characters. -/
inductive Lead where
  | whole (c : Char)
  | opens (p : Pending)
  | stray
  deriving DecidableEq, Repr

/-- The meaning of a first byte. The second byte after `E0`, `ED`, `F0` and `F4` has a shorter range, so
that no character is written longer than needed, none is a surrogate and none lies above U+10FFFF. -/
def lead (b : UInt8) : Lead :=
  let n := b.toNat
  if n < 0x80 then .whole (Char.ofNat n)
  else if n < 0xC2 then .stray
  else if n < 0xE0 then .opens ⟨n - 0xC0, 1, 0x80, 0xBF⟩
  else if n < 0xF0 then
    .opens ⟨n - 0xE0, 2, if n = 0xE0 then 0xA0 else 0x80, if n = 0xED then 0x9F else 0xBF⟩
  else if n < 0xF5 then
    .opens ⟨n - 0xF0, 3, if n = 0xF0 then 0x90 else 0x80, if n = 0xF4 then 0x8F else 0xBF⟩
  else .stray

/-- The reader between two bytes: the characters read, last one first, and the open character. -/
structure Decoder where
  done : List Char := []
  pending : Option Pending := none
  deriving DecidableEq, Repr

namespace Decoder

/-- A byte between characters. -/
def first (done : List Char) (b : UInt8) : Decoder :=
  match lead b with
  | .whole c => ⟨c :: done, none⟩
  | .opens p => ⟨done, some p⟩
  | .stray => ⟨'\uFFFD' :: done, none⟩

/-- One byte. A byte that cannot continue the open character ends it as U+FFFD and is then read as a
first byte. -/
def feed (d : Decoder) (b : UInt8) : Decoder :=
  match d.pending with
  | none => Decoder.first d.done b
  | some p =>
    if p.low ≤ b.toNat ∧ b.toNat ≤ p.high then
      let value := p.value * 64 + b.toNat % 64
      if p.owed ≤ 1 then ⟨Char.ofNat value :: d.done, none⟩
      else ⟨d.done, some ⟨value, p.owed - 1, 0x80, 0xBF⟩⟩
    else Decoder.first ('\uFFFD' :: d.done) b

/-- All bytes of a list, in order. -/
def feedAll (d : Decoder) (bytes : List UInt8) : Decoder :=
  bytes.foldl feed d

/-- The characters read once the input is over. -/
def finish (d : Decoder) : List Char :=
  match d.pending with
  | none => d.done.reverse
  | some _ => ('\uFFFD' :: d.done).reverse

theorem feedAll_append (d : Decoder) (a b : List UInt8) :
    d.feedAll (a ++ b) = (d.feedAll a).feedAll b := by
  simp [feedAll, List.foldl_append]

end Decoder

/-- The characters that a byte string shows. -/
def decodeList (bytes : List UInt8) : List Char :=
  (Decoder.feedAll {} bytes).finish

/-- The text that a byte string shows, with U+FFFD for what is not UTF-8. -/
def decode (bytes : List UInt8) : String :=
  String.ofList (decodeList bytes)

@[simp] theorem decodeList_nil : decodeList [] = [] := rfl

end CallTelemetry.Text.Utf8
