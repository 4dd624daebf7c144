import CallTelemetry.Text.Ascii
import CallTelemetry.Text.Utf8

/-!
# Header fields

A header name is kept in small letters and a header value as its bytes, and both types hold only what
may stand in a message: `HeaderName.ofString?` and `HeaderValue.ofBytes?` are the only ways in. A
`HeaderMap` lists the fields of a message in the order of their arrival; a name may come several times.
-/

namespace CallTelemetry

/-- The characters of a token: letters, digits and fifteen signs. -/
def isTokenChar (c : Char) : Bool :=
  c.isAlphanum || "!#$%&'*+-.^_`|~".toList.contains c

/-- The longest header name, in bytes. -/
def maxHeaderName : Nat := 65535

/-- Whether a text is a header name in small letters. -/
def HeaderName.isCanonical (s : String) : Bool :=
  !s.toList.isEmpty && s.utf8ByteSize ≤ maxHeaderName && s.toList.all fun c => isTokenChar c && !c.isUpper

/-- The name of a header field, in small letters. -/
structure HeaderName where
  text : String
  canonical : HeaderName.isCanonical text = true
  deriving DecidableEq, Repr

namespace HeaderName

/-- The header name that a text spells, in any letter case. -/
def ofString? (s : String) : Option HeaderName :=
  if h : isCanonical (Text.lower s) = true then some ⟨Text.lower s, h⟩ else none

/-- Whether a text spells a header name. -/
def isValid (s : String) : Bool := (ofString? s).isSome

theorem text_of_ofString? {s : String} {n : HeaderName} (h : ofString? s = some n) :
    n.text = Text.lower s := by
  unfold ofString? at h
  split at h
  · simp only [Option.some.injEq] at h
    rw [← h]
  · simp at h

theorem text_ne_empty (n : HeaderName) : n.text ≠ "" := by
  intro h
  have := n.canonical
  simp [isCanonical, h] at this

def contentType : HeaderName := ⟨"content-type", by decide⟩

end HeaderName

/-- The bytes that a header value may hold: the tab, and all from the space on but the delete character. -/
def isValueByte (b : UInt8) : Bool :=
  b = 9 || (32 ≤ b && b ≠ 127)

/-- The visible bytes of ASCII, the space and the tab. -/
def isVisibleByte (b : UInt8) : Bool :=
  b = 9 || (32 ≤ b && b < 127)

/-- The value of a header field. -/
structure HeaderValue where
  bytes : List UInt8
  legal : bytes.all isValueByte = true
  deriving DecidableEq, Repr

namespace HeaderValue

def ofBytes? (bytes : List UInt8) : Option HeaderValue :=
  if h : bytes.all isValueByte = true then some ⟨bytes, h⟩ else none

/-- The value as text, with U+FFFD for what is not UTF-8. -/
def lossy (v : HeaderValue) : String := Text.Utf8.decode v.bytes

/-- The value as text if all of it is visible ASCII, blanks and tabs. -/
def visible? (v : HeaderValue) : Option String :=
  if v.bytes.all isVisibleByte then some (String.ofList (v.bytes.map fun b => Char.ofNat b.toNat)) else none

end HeaderValue

/-- The header fields of a message in the order of their arrival. -/
abbrev HeaderMap := List (HeaderName × HeaderValue)

namespace HeaderMap

/-- All values of a name, in the order of their arrival. -/
def valuesOf (map : HeaderMap) (name : HeaderName) : List HeaderValue :=
  (map.filter fun f => f.1 = name).map (·.2)

/-- The value of a name that arrived first. -/
def first? (map : HeaderMap) (name : HeaderName) : Option HeaderValue :=
  (map.valuesOf name).head?

theorem first?_eq_none_iff {map : HeaderMap} {name : HeaderName} :
    map.first? name = none ↔ map.valuesOf name = [] := by
  simp [first?]

end HeaderMap

end CallTelemetry
