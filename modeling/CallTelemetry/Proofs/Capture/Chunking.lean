import CallTelemetry.Capture.Body
import Mathlib.Data.List.Infix

/-!
# Chunks do not show

A source that never makes the reader wait is read up to the shortest start whose chunks hold more bytes than the
limit, or to its end (`needed`). What is read is the first error in that start, or else the text of its bytes, and
nothing behind it is looked at (`collect_of_ready`, `collect_append`). The bytes behind the limit do not count
(`decode_append_of_lt`), so a body gives the same text however it is cut into chunks (`readStream_of_ready`).
-/

namespace CallTelemetry

namespace SourceEvent

/-- Whether an event comes without a wait. -/
def isReady : SourceEvent → Bool
  | chunk _ | failure _ => true
  | wait _ | stall => false

/-- The bytes that an event brings. -/
def bytes : SourceEvent → List UInt8
  | chunk bytes => bytes
  | _ => []

def failure? : SourceEvent → Option String
  | failure message => some message
  | _ => none

end SourceEvent

namespace BodyCapture

/-- The bytes of all chunks of a source. -/
def content (source : List SourceEvent) : List UInt8 := source.flatMap SourceEvent.bytes

/-- The shortest start of a source whose chunks hold more than `limit` bytes, all of it if there is none. -/
def needed (limit : Nat) (source : List SourceEvent) : List SourceEvent :=
  (source.inits.find? fun start => limit < (content start).length).getD source

/-- What some events bring: the first error among them, or the bytes of their chunks. -/
def gathered (events : List SourceEvent) : Except CallError (List UInt8) :=
  match events.findSome? SourceEvent.failure? with
  | some message => .error (.body message)
  | none => .ok (content events)

/-- How many of some events come up to the first error among them and with it, all if there is none. -/
def countThroughFailure (events : List SourceEvent) : Nat :=
  min (events.findIdx (·.failure?.isSome) + 1) events.length

theorem content_cons (event : SourceEvent) (rest : List SourceEvent) :
    content (event :: rest) = event.bytes ++ content rest := List.flatMap_cons

theorem content_chunks (chunks : List (List UInt8)) : content (chunks.map .chunk) = chunks.flatten := by
  induction chunks with
  | nil => rfl
  | cons chunk rest ih => rw [List.map_cons, content_cons, ih, List.flatten_cons]; rfl

theorem needed_cons (limit : Nat) (event : SourceEvent) (rest : List SourceEvent) :
    needed limit (event :: rest) =
      event :: if limit < event.bytes.length then [] else needed (limit - event.bytes.length) rest := by
  unfold needed
  have longer : ∀ start, (limit < (content (event :: start)).length) ↔
      limit < event.bytes.length + (content start).length := by
    intro start
    rw [content_cons, List.length_append]
  rw [List.inits_cons, List.find?_cons_of_neg (by simp [content]), List.find?_map]
  simp only [Function.comp_def, longer]
  split
  · rename_i enough
    cases rest <;> simp [Nat.lt_add_right _ enough]
  · rename_i few
    have rephrased : (fun start : List SourceEvent =>
        decide (limit < event.bytes.length + (content start).length)) =
        fun start => decide (limit - event.bytes.length < (content start).length) := by
      funext start
      exact decide_eq_decide.2 (by omega)
    rw [rephrased]
    cases rest.inits.find? fun start => limit - event.bytes.length < (content start).length <;> rfl

theorem needed_chunk (limit : Nat) (bytes : List UInt8) (rest : List SourceEvent) :
    needed limit (.chunk bytes :: rest) =
      .chunk bytes :: if limit < bytes.length then [] else needed (limit - bytes.length) rest :=
  needed_cons limit (.chunk bytes) rest

theorem needed_failure (limit : Nat) (message : String) (rest : List SourceEvent) :
    needed limit (.failure message :: rest) = .failure message :: needed limit rest := by
  rw [needed_cons]
  exact congrArg _ (if_neg (Nat.not_lt_zero limit))

theorem needed_isPrefix (limit : Nat) (source : List SourceEvent) : needed limit source <+: source := by
  unfold needed
  cases found : source.inits.find? fun start => limit < (content start).length with
  | none => exact List.prefix_refl source
  | some start => exact (List.mem_inits _ _).1 (List.mem_of_find?_eq_some found)

theorem lt_content_needed_or (limit : Nat) (source : List SourceEvent) :
    limit < (content (needed limit source)).length ∨ needed limit source = source := by
  unfold needed
  cases found : source.inits.find? fun start => limit < (content start).length with
  | none => exact Or.inr rfl
  | some start =>
    have enough := List.find?_some found
    exact Or.inl (of_decide_eq_true enough)

theorem gathered_chunk (bytes : List UInt8) (rest : List SourceEvent) :
    gathered (.chunk bytes :: rest) = (bytes ++ ·) <$> gathered rest := by
  unfold gathered
  rw [List.findSome?_cons, content_cons]
  dsimp only [SourceEvent.failure?]
  cases rest.findSome? SourceEvent.failure? <;> rfl

theorem countThroughFailure_chunk (bytes : List UInt8) (rest : List SourceEvent) :
    countThroughFailure (.chunk bytes :: rest) = countThroughFailure rest + 1 := by
  unfold countThroughFailure
  rw [List.findIdx_cons, List.length_cons]
  exact Nat.add_min_add_right ..

theorem countThroughFailure_failure (message : String) (rest : List SourceEvent) :
    countThroughFailure (.failure message :: rest) = 1 := by
  unfold countThroughFailure
  rw [List.findIdx_cons, List.length_cons]
  exact Nat.min_eq_left (Nat.le_add_left 1 rest.length)

theorem gathered_of_flawless {events : List SourceEvent} (flawless : ∀ event ∈ events, event.failure? = none) :
    gathered events = .ok (content events) := by
  unfold gathered
  rw [List.findSome?_eq_none_iff.2 flawless]

theorem countThroughFailure_of_flawless {events : List SourceEvent}
    (flawless : ∀ event ∈ events, event.failure? = none) : countThroughFailure events = events.length := by
  have none : events.findIdx (·.failure?.isSome) = events.length := by
    rw [List.findIdx_eq_length]
    intro event there
    rw [flawless event there]
    rfl
  unfold countThroughFailure
  omega

variable {capture : BodyCapture} {cancelAt : Option Nat}

/-- Nothing is taken from a source once there are enough bytes. -/
theorem collect_of_lt {size : Nat} (enough : capture.sizeLimit < size) (now : Nat) (source : List SourceEvent) :
    capture.collect cancelAt now size source = (.ok [], 0) := by
  cases source with
  | nil => rfl
  | cons event rest =>
    unfold collect
    rw [if_pos enough]

theorem collect_chunk {size : Nat} (room : ¬capture.sizeLimit < size) (now : Nat) (bytes : List UInt8)
    (rest : List SourceEvent) :
    capture.collect cancelAt now size (.chunk bytes :: rest) =
      ((bytes ++ ·) <$> (capture.collect cancelAt now (size + bytes.length) rest).1,
        (capture.collect cancelAt now (size + bytes.length) rest).2 + 1) := by
  rw [collect.eq_def]
  exact if_neg room

theorem collect_failure {size : Nat} (room : ¬capture.sizeLimit < size) (now : Nat) (message : String)
    (rest : List SourceEvent) :
    capture.collect cancelAt now size (.failure message :: rest) = (.error (.body message), 1) := by
  rw [collect.eq_def]
  exact if_neg room

/-- A source that never waits gives what is in the start of it that is needed. -/
theorem collect_of_ready {source : List SourceEvent} (ready : ∀ event ∈ source, event.isReady = true)
    (now : Nat) {size : Nat} (room : size ≤ capture.sizeLimit) :
    capture.collect cancelAt now size source =
      (gathered (needed (capture.sizeLimit - size) source),
        countThroughFailure (needed (capture.sizeLimit - size) source)) := by
  induction source generalizing size with
  | nil => rfl
  | cons event rest ih =>
    have later : ∀ event ∈ rest, event.isReady = true := fun e he => ready e (List.mem_cons_of_mem event he)
    cases event with
    | chunk bytes =>
      rw [collect_chunk (Nat.not_lt.2 room), needed_chunk, gathered_chunk, countThroughFailure_chunk]
      by_cases enough : capture.sizeLimit < size + bytes.length
      · rw [collect_of_lt enough, if_pos (by omega)]
        rfl
      · rw [ih later (Nat.not_lt.1 enough), if_neg (by omega), Nat.sub_sub]
    | failure message =>
      rw [collect_failure (Nat.not_lt.2 room), needed_failure, countThroughFailure_failure]
      rfl
    | wait ms => cases ready (.wait ms) List.mem_cons_self
    | stall => cases ready .stall List.mem_cons_self

/-- What stands behind enough bytes is not looked at, whatever it is. -/
theorem collect_append {seen : List SourceEvent} (ready : ∀ event ∈ seen, event.isReady = true) (now : Nat)
    {size : Nat} (enough : capture.sizeLimit < size + (content seen).length) (rest : List SourceEvent) :
    capture.collect cancelAt now size (seen ++ rest) = capture.collect cancelAt now size seen := by
  induction seen generalizing size with
  | nil => exact collect_of_lt enough now rest
  | cons event seen ih =>
    have later : ∀ event ∈ seen, event.isReady = true := fun e he => ready e (List.mem_cons_of_mem event he)
    rw [List.cons_append]
    by_cases full : capture.sizeLimit < size
    · rw [collect_of_lt full, collect_of_lt full]
    · cases event with
      | chunk bytes =>
        have onward : capture.sizeLimit < size + bytes.length + (content seen).length := by
          rw [content_cons, List.length_append, ← Nat.add_assoc] at enough
          exact enough
        rw [collect_chunk full, collect_chunk full, ih later onward]
      | failure message => rw [collect_failure full, collect_failure full]
      | wait ms => cases ready (.wait ms) List.mem_cons_self
      | stall => cases ready .stall List.mem_cons_self

/-- A text is cut by the bytes before the limit; those behind it only tell that there are more. -/
theorem decode_append_of_lt {limit : Nat} {body : List UInt8} (enough : limit < body.length)
    (more : List UInt8) : decode (body ++ more) limit = decode body limit := by
  have longer : ¬(body ++ more).length ≤ limit := by
    rw [List.length_append]
    omega
  unfold decode truncate
  rw [if_neg longer, if_neg (Nat.not_le.2 enough), List.take_append_of_le_length (Nat.le_of_lt enough)]

/-- What is needed of a source gives the text of all of it. -/
theorem decode_content_needed (limit : Nat) (source : List SourceEvent) :
    decode (content (needed limit source)) limit = decode (content source) limit := by
  rcases lt_content_needed_or limit source with enough | all
  · obtain ⟨rest, split⟩ := needed_isPrefix limit source
    have parts : content (needed limit source ++ rest) = content (needed limit source) ++ content rest :=
      List.flatMap_append
    rw [split] at parts
    rw [parts, decode_append_of_lt enough]
  · rw [all]

variable {side : BodySide} {headers : HeaderMap}

/-- A read that is neither refused nor cancelled beforehand shows what is collected. -/
theorem readStream_eq (accepted : capture.accepts side headers = true) (running : cancelAt ≠ some 0)
    (source : List SourceEvent) :
    capture.readStream side headers source cancelAt =
      ⟨(fun bytes => some (decode bytes capture.sizeLimit)) <$> (capture.collect cancelAt 0 0 source).1,
        (capture.collect cancelAt 0 0 source).2⟩ := by
  unfold readStream
  rw [accepted, if_neg running]
  rfl

/-- A read of chunks shows the text of their bytes, and takes as many of them as are needed. -/
theorem readStream_chunks (accepted : capture.accepts side headers = true) (running : cancelAt ≠ some 0)
    (chunks : List (List UInt8)) :
    capture.readStream side headers (chunks.map .chunk) cancelAt =
      ⟨.ok (some (decode chunks.flatten capture.sizeLimit)),
        (needed capture.sizeLimit (chunks.map .chunk)).length⟩ := by
  have ready : ∀ event ∈ chunks.map SourceEvent.chunk, event.isReady = true := by
    intro event he
    obtain ⟨bytes, -, rfl⟩ := List.mem_map.1 he
    rfl
  have flawless : ∀ event ∈ needed capture.sizeLimit (chunks.map .chunk), event.failure? = none := by
    intro event he
    obtain ⟨bytes, -, rfl⟩ := List.mem_map.1 ((needed_isPrefix _ _).subset he)
    rfl
  rw [readStream_eq accepted running, collect_of_ready ready 0 (Nat.zero_le _), Nat.sub_zero,
    gathered_of_flawless flawless, countThroughFailure_of_flawless flawless, ← content_chunks, ← decode_content_needed]
  rfl

theorem readStream_text_chunks (accepted : capture.accepts side headers = true) (running : cancelAt ≠ some 0)
    (chunks : List (List UInt8)) :
    (capture.readStream side headers (chunks.map .chunk) cancelAt).text =
      .ok (some (decode chunks.flatten capture.sizeLimit)) := by
  rw [readStream_chunks accepted running]

/-- A body gives the same text in one piece and in any chunks. More generally a source that never waits is read up
to the start of it that is needed: the first error there is the result, or else the text of the bytes there, and
what follows is not observed. -/
theorem readStream_of_ready (accepted : capture.accepts side headers = true) (running : cancelAt ≠ some 0) :
    (∀ chunks : List (List UInt8),
      (capture.readStream side headers (chunks.map .chunk) cancelAt).text =
          capture.read side headers chunks.flatten cancelAt ∧
        capture.read side headers chunks.flatten cancelAt =
          .ok (some (decode chunks.flatten capture.sizeLimit))) ∧
      ∀ source : List SourceEvent, (∀ event ∈ source, event.isReady = true) →
        let seen := needed capture.sizeLimit source
        (capture.readStream side headers source cancelAt).text =
            (match seen.findSome? SourceEvent.failure? with
              | some message => .error (.body message)
              | none => .ok (some (decode (content seen) capture.sizeLimit))) ∧
          (capture.readStream side headers source cancelAt).pulled = countThroughFailure seen ∧
          (capture.sizeLimit < (content seen).length →
            ∀ rest, capture.readStream side headers (seen ++ rest) cancelAt =
              capture.readStream side headers source cancelAt) := by
  refine ⟨fun chunks => ?_, fun source ready => ?_⟩
  · have whole : capture.read side headers chunks.flatten cancelAt =
        .ok (some (decode chunks.flatten capture.sizeLimit)) := by
      have one := readStream_text_chunks accepted running [chunks.flatten]
      rw [List.flatten_singleton] at one
      exact one
    exact ⟨(readStream_text_chunks accepted running chunks).trans whole.symm, whole⟩
  · intro seen
    have collected : capture.collect cancelAt 0 0 source = (gathered seen, countThroughFailure seen) :=
      collect_of_ready ready 0 (Nat.zero_le _)
    refine ⟨?_, ?_, fun enough rest => ?_⟩
    · rw [readStream_eq accepted running, collected]
      unfold gathered
      cases seen.findSome? SourceEvent.failure? <;> rfl
    · rw [readStream_eq accepted running, collected]
    · obtain ⟨behind, split⟩ := needed_isPrefix capture.sizeLimit source
      have readySeen : ∀ event ∈ seen, event.isReady = true :=
        fun event he => ready event ((needed_isPrefix _ _).subset he)
      have reached : capture.sizeLimit < 0 + (content seen).length := by
        rw [Nat.zero_add]
        exact enough
      have same : ∀ others, capture.collect cancelAt 0 0 (seen ++ others) = capture.collect cancelAt 0 0 seen :=
        collect_append readySeen 0 reached
      rw [readStream_eq accepted running, readStream_eq accepted running, same rest, ← split]
      rw [same behind]

/-- Chunks that cut a character at the limit, with an error behind them that is not seen and one before them that
is. -/
theorem readStream_of_ready_cut_character :
    let capture : BodyCapture := ⟨4, 1000, ["text/*"], []⟩
    let headers : HeaderMap :=
      [(HeaderName.contentType, ⟨[116, 101, 120, 116, 47, 112, 108, 97, 105, 110], by decide⟩)]
    let chunks : List (List UInt8) := [[97, 98], [], [99, 0xC3], [0xA9]]
    let source : List SourceEvent := chunks.map .chunk ++ [.failure "reset"]
    let faulty : List SourceEvent := [.chunk [97], .failure "reset"] ++ chunks.map .chunk
    capture.accepts .request headers = true ∧
      (capture.readStream .request headers (chunks.map .chunk) (some 7)).text =
        capture.read .request headers chunks.flatten (some 7) ∧
      (capture.readStream .request headers source (some 7)).text = .ok (some "abc") ∧
      (capture.readStream .request headers source (some 7)).pulled = 4 ∧
      (∀ rest, capture.readStream .request headers (chunks.map .chunk ++ rest) (some 7) =
        capture.readStream .request headers source (some 7)) ∧
      (capture.readStream .request headers faulty (some 7)).text = .error (.body "reset") := by
  intro capture headers chunks source faulty
  have accepted : capture.accepts .request headers = true := by decide +kernel
  obtain ⟨pieces, ready⟩ := readStream_of_ready accepted (show some 7 ≠ some 0 by decide)
  obtain ⟨text, pulled, unseen⟩ := ready source (by decide)
  obtain ⟨fault, -, -⟩ := ready faulty (by decide)
  exact ⟨accepted, (pieces chunks).1, text.trans (by decide +kernel), pulled.trans (by decide +kernel),
    unseen (by decide +kernel), fault⟩

end BodyCapture

end CallTelemetry
