import CallTelemetry.Config.Basic
import CallTelemetry.Error
import CallTelemetry.Http.Header
import CallTelemetry.Text.Blank

/-!
# Captured bodies

A body is logged only if its media type is on the list for its side. It is collected from a source that
gives chunks and errors and may make the reader wait; collecting stops once more than `sizeLimit` bytes
are there, when the source ends, at the first error, or when time is up. Time counts in milliseconds
from the start of the read and passes only while the source makes the reader wait. The text kept never
ends inside a character.
-/

namespace CallTelemetry

/-- The side of a call that a body belongs to. -/
inductive BodySide where
  | request
  | response
  deriving DecidableEq, Repr

def BodySide.other : BodySide → BodySide
  | request => response
  | response => request

/-- What a source of a body does next. -/
inductive SourceEvent where
  | chunk (bytes : List UInt8)
  | failure (message : String)
  /-- Nothing comes for some milliseconds. -/
  | wait (ms : Nat)
  /-- Nothing comes any more. -/
  | stall
  deriving DecidableEq, Repr

/-- Which bodies are logged, and how much of them. -/
structure BodyCapture where
  sizeLimit : Nat
  timeoutMs : Nat
  requestTypes : List String
  responseTypes : List String
  deriving DecidableEq, Repr

/-- The outcome of a read: the text, none if the body is not logged, and how many chunks and errors were
taken from the source. -/
structure BodyRead where
  text : Except CallError (Option String)
  pulled : Nat

namespace BodyCapture

/-- The capture that a configuration asks for, if it asks for any. -/
def ofConfig? (c : LoggingConfig) : Option BodyCapture :=
  if c.logBody then
    some {
      sizeLimit := c.bodySizeLimit.toNat
      timeoutMs := c.bodyReadTimeoutMs.toNat
      requestTypes := c.requestBodyContentTypes.map fun t => Text.lower (Text.trim t)
      responseTypes := c.responseBodyContentTypes.map fun t => Text.lower (Text.trim t) }
  else none

/-- The type and subtype in a `Content-Type` value, without parameters, in small letters. -/
def essence (contentType : String) : String :=
  Text.lower (Text.trim (String.ofList (contentType.toList.takeWhile (· ≠ ';'))))

/-- Whether a media type is meant by a pattern: `text/*` means all subtypes of `text`, anything else
means itself. -/
def typeMatches (pattern essence : List Char) : Bool :=
  match pattern.reverse with
  | '*' :: '/' :: kind => essence.contains '/' && essence.takeWhile (· ≠ '/') == kind.reverse
  | _ => pattern == essence

/-- Whether a body with these headers is logged. Only a `Content-Type` in visible ASCII counts. -/
def accepts (capture : BodyCapture) (side : BodySide) (headers : HeaderMap) : Bool :=
  let allowed := match side with
    | .request => capture.requestTypes
    | .response => capture.responseTypes
  match (headers.first? HeaderName.contentType).bind HeaderValue.visible? with
  | none => false
  | some value => allowed.any fun pattern => typeMatches pattern.toList (essence value).toList

/-- The error that ends a wait which would last until `stop`, none standing for ever: cancellation or
the timeout, whichever comes first, if one comes before. -/
def interruption (capture : BodyCapture) (cancelAt : Option Nat) (stop : Option Nat) : Option CallError :=
  let timedOut := CallError.body ("read timed out after " ++ showMilliseconds capture.timeoutMs)
  let (deadline, error) := match cancelAt with
    | some c => if c ≤ capture.timeoutMs then (c, CallError.cancelled) else (capture.timeoutMs, timedOut)
    | none => (capture.timeoutMs, timedOut)
  match stop with
  | some t => if deadline < t then some error else none
  | none => some error

/-- The bytes taken from a source at time `now`, when `size` bytes are there already, and how many
chunks and errors were taken. -/
def collect (capture : BodyCapture) (cancelAt : Option Nat) :
    (now size : Nat) → List SourceEvent → Except CallError (List UInt8) × Nat
  | _, _, [] => (.ok [], 0)
  | now, size, event :: rest =>
    if capture.sizeLimit < size then (.ok [], 0)
    else
      match event with
      | .chunk bytes =>
        let (more, pulled) := capture.collect cancelAt now (size + bytes.length) rest
        ((bytes ++ ·) <$> more, pulled + 1)
      | .failure message => (.error (.body message), 1)
      | .wait ms =>
        match capture.interruption cancelAt (some (now + ms)) with
        | some e => (.error e, 0)
        | none => capture.collect cancelAt (now + ms) size rest
      | .stall => (.error ((capture.interruption cancelAt none).getD .cancelled), 0)

/-- The number of bytes of the character that a byte starts, by the byte alone. -/
def characterWidth (b : UInt8) : Nat :=
  if b < 0xC0 then 1 else if b < 0xE0 then 2 else if b < 0xF0 then 3 else if b < 0xF8 then 4 else 1

/-- Whether a byte continues a character. -/
def isContinuation (b : UInt8) : Bool := 0x80 ≤ b && b < 0xC0

/-- How many bytes at an end belong to a character that the end cuts. The bytes are given last one
first, and `count` of them are known to be continuations. -/
def cutBytes (count : Nat) : List UInt8 → Nat
  | [] => 0
  | b :: before =>
    if isContinuation b then cutBytes (count + 1) before
    else if count + 1 < characterWidth b then count + 1
    else 0

/-- The first `limit` bytes without a character that the limit cuts. Only the last three bytes are
looked at. -/
def truncate (body : List UInt8) (limit : Nat) : List UInt8 :=
  if body.length ≤ limit then body
  else
    let kept := body.take limit
    kept.take (kept.length - cutBytes 0 (kept.reverse.take 3))

/-- The text of the kept part of a body. -/
def decode (body : List UInt8) (limit : Nat) : String :=
  Text.Utf8.decode (truncate body limit)

/-- Reads a body from a source. `cancelAt` is the time of cancellation, zero if it has happened. -/
def readStream (capture : BodyCapture) (side : BodySide) (headers : HeaderMap)
    (source : List SourceEvent) (cancelAt : Option Nat) : BodyRead :=
  if !capture.accepts side headers then ⟨.ok none, 0⟩
  else if cancelAt = some 0 then ⟨.error .cancelled, 0⟩
  else
    let (bytes, pulled) := capture.collect cancelAt 0 0 source
    ⟨(fun bytes => some (decode bytes capture.sizeLimit)) <$> bytes, pulled⟩

/-- Reads a body that is all there. -/
def read (capture : BodyCapture) (side : BodySide) (headers : HeaderMap) (body : List UInt8)
    (cancelAt : Option Nat) : Except CallError (Option String) :=
  (capture.readStream side headers [.chunk body] cancelAt).text

theorem cutBytes_le (count : Nat) (bytes : List UInt8) :
    cutBytes count bytes ≤ count + bytes.length := by
  induction bytes generalizing count with
  | nil => simp [cutBytes]
  | cons b before ih =>
    have := ih (count + 1)
    rw [cutBytes]
    split
    · simp only [List.length_cons]
      omega
    · split <;> simp only [List.length_cons] <;> omega

/-- What is kept is the start of the body. -/
theorem truncate_prefix (body : List UInt8) (limit : Nat) : truncate body limit <+: body := by
  unfold truncate
  split
  · exact List.prefix_refl _
  · exact (List.take_prefix _ _).trans (List.take_prefix _ _)

end BodyCapture

end CallTelemetry
