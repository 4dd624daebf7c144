import CallTelemetry.Proofs.Capture.Chunking

/-!
# How much of a source is read

A read takes chunks until they hold more bytes than the limit, so what bounds the number of chunks taken is that chunks
hold bytes. One chunk more than the limit is the most that is taken, and the read of a long source is that of its start
of this length, exactly if the source comes to an end there or has brought enough bytes (`Settles`). That is so where
no chunk is empty (`settles_of_not_mem`). Empty chunks bring a read no nearer to its end: each of them may cost one
more (`pulled_le_count`), and of an endless source all is taken unless it ever brings more bytes than the limit
(`isOver_iff`).
-/

namespace CallTelemetry.BodyCapture

variable {capture : BodyCapture} {side : BodySide} {headers : HeaderMap} {cancelAt : Option Nat}

/-- One chunk more than the limit is enough: no more chunks come, or those hold more bytes than the limit. -/
def Settles (limit : Nat) (chunks : List (List UInt8)) : Prop :=
  chunks.length ≤ limit + 1 ∨ limit < (chunks.take (limit + 1)).flatten.length

/-- Nothing that a source brings behind these chunks is read. -/
def IsOver (capture : BodyCapture) (side : BodySide) (headers : HeaderMap) (cancelAt : Option Nat)
    (chunks : List (List UInt8)) : Prop :=
  ∀ rest : List SourceEvent, capture.readStream side headers (chunks.map .chunk ++ rest) cancelAt =
    capture.readStream side headers (chunks.map .chunk) cancelAt

/-- The first chunks of an endless source. -/
def firstChunks (source : Nat → List UInt8) (n : Nat) : List (List UInt8) := (List.range n).map source

/-! ## The start that is needed -/

theorem length_needed_le_iff {limit n : Nat} {source : List SourceEvent} :
    (needed limit source).length ≤ n ↔ source.length ≤ n ∨ limit < (content (source.take n)).length := by
  induction source generalizing limit n with
  | nil => exact iff_of_true (Nat.zero_le n) (Or.inl (Nat.zero_le n))
  | cons event rest ih =>
    cases n with
    | zero => simp [needed_cons, content]
    | succ n =>
      rw [needed_cons, List.take_succ_cons, content_cons, List.length_append, List.length_cons, List.length_cons,
        Nat.add_le_add_iff_right, Nat.add_le_add_iff_right]
      split
      next enough => exact iff_of_true (Nat.zero_le n) (Or.inr (by omega))
      next few =>
        rw [ih]
        omega

theorem needed_eq_self {limit : Nat} {source : List SourceEvent} (few : (content source).length ≤ limit) :
    needed limit source = source := by
  rcases lt_content_needed_or limit source with enough | all
  · obtain ⟨rest, split⟩ := needed_isPrefix limit source
    have shorter : (content (needed limit source)).length ≤ (content source).length := by
      conv_rhs => rw [← split]
      rw [content, content, List.flatMap_append, List.length_append]
      omega
    omega
  · exact all

/-- Chunks that are not empty hold a byte each. -/
theorem length_le_count_add (chunks : List (List UInt8)) :
    chunks.length ≤ chunks.count [] + chunks.flatten.length := by
  induction chunks with
  | nil => exact Nat.zero_le _
  | cons chunk rest ih =>
    rw [List.length_cons, List.count_cons, List.flatten_cons, List.length_append]
    cases chunk with
    | nil =>
      simp only [beq_self_eq_true, if_true]
      omega
    | cons b more =>
      rw [List.length_cons]
      omega

/-- Without empty chunks there are enough bytes as soon as there is one chunk more than the limit. -/
theorem settles_of_not_mem {limit : Nat} {chunks : List (List UInt8)} (full : [] ∉ chunks.take (limit + 1)) :
    Settles limit chunks := by
  have bytes := length_le_count_add (chunks.take (limit + 1))
  rw [List.count_eq_zero.2 full, List.length_take] at bytes
  unfold Settles
  omega

/-! ## Reads -/

theorem length_firstChunks (source : Nat → List UInt8) (n : Nat) : (firstChunks source n).length = n := by
  rw [firstChunks, List.length_map, List.length_range]

theorem isReady_of_mem_chunks {chunks : List (List UInt8)} {event : SourceEvent}
    (there : event ∈ chunks.map SourceEvent.chunk) : event.isReady = true := by
  obtain ⟨bytes, -, rfl⟩ := List.mem_map.1 there
  rfl

variable (accepted : capture.accepts side headers = true) (running : cancelAt ≠ some 0)

section
include accepted running

theorem pulled_le_iff {chunks : List (List UInt8)} {n : Nat} :
    (capture.readStream side headers (chunks.map .chunk) cancelAt).pulled ≤ n ↔
      chunks.length ≤ n ∨ capture.sizeLimit < (chunks.take n).flatten.length := by
  rw [readStream_chunks accepted running, length_needed_le_iff, List.length_map, ← List.map_take, content_chunks]

/-- A read is over when there are more bytes than the limit, and not before. -/
theorem isOver_iff {chunks : List (List UInt8)} :
    IsOver capture side headers cancelAt chunks ↔ capture.sizeLimit < chunks.flatten.length := by
  constructor
  · -- one more chunk would be taken if the bytes did not exceed the limit
    intro ended
    by_contra few
    have one := ended [.chunk []]
    have longer : chunks.map SourceEvent.chunk ++ [.chunk []] = (chunks ++ [[]]).map .chunk := by
      rw [List.map_append]
      rfl
    have same : (chunks ++ [[]]).flatten = chunks.flatten := by
      rw [List.flatten_append]
      exact List.append_nil _
    rw [longer, readStream_chunks accepted running, readStream_chunks accepted running, BodyRead.mk.injEq] at one
    rw [needed_eq_self, needed_eq_self] at one
    · simp at one
    · rw [content_chunks]
      omega
    · rw [content_chunks, same]
      omega
  · intro enough rest
    have bytes : capture.sizeLimit < 0 + (content (chunks.map .chunk)).length := by
      rw [content_chunks]
      omega
    rw [readStream_eq accepted running, readStream_eq accepted running,
      collect_append (fun _ there => isReady_of_mem_chunks there) 0 bytes rest]

/-- A read does not look behind one chunk more than the limit if that is enough, and only then. -/
theorem readStream_take_eq_iff {chunks : List (List UInt8)} :
    capture.readStream side headers (chunks.map .chunk) cancelAt =
        capture.readStream side headers ((chunks.take (capture.sizeLimit + 1)).map .chunk) cancelAt ↔
      Settles capture.sizeLimit chunks := by
  constructor
  · intro same
    apply (pulled_le_iff accepted running).1
    rw [same, pulled_le_iff accepted running]
    exact Or.inl (List.length_take_le _ _)
  · rintro (short | enough)
    · rw [List.take_of_length_le short]
    · have ended := (isOver_iff accepted running).2 enough
      rw [← ended ((chunks.drop (capture.sizeLimit + 1)).map .chunk), ← List.map_append, List.take_append_drop]

/-- Each chunk that is taken beyond the limit and one more is paid for by an empty one. -/
theorem pulled_le_count (chunks : List (List UInt8)) :
    let pulled := (capture.readStream side headers (chunks.map .chunk) cancelAt).pulled
    pulled ≤ capture.sizeLimit + 1 + (chunks.take pulled).count [] := by
  intro pulled
  by_contra many
  -- without the last one, the chunks that are taken hold no more bytes than the limit
  have unfinished : ¬ pulled ≤ pulled - 1 := by omega
  rw [pulled_le_iff accepted running, not_or] at unfinished
  have bytes := length_le_count_add (chunks.take (pulled - 1))
  have fewer : (chunks.take (pulled - 1)).count [] ≤ (chunks.take pulled).count [] :=
    (List.take_sublist_take_left (Nat.sub_le pulled 1)).count_le []
  rw [List.length_take] at bytes
  omega

end

/-- One chunk more than the limit is the most that is taken, and all that counts, exactly if it is enough; and that it
is where none of these chunks is empty. Otherwise there may be one more for each empty chunk. The read of an endless
source is over at some time exactly if the source brings more bytes than the limit. -/
theorem pulls_bounded_iff_settles (accepted : capture.accepts side headers = true) (running : cancelAt ≠ some 0) :
    (∀ chunks : List (List UInt8),
      let read := capture.readStream side headers (chunks.map .chunk) cancelAt
      let start := chunks.take (capture.sizeLimit + 1)
      (read.pulled ≤ capture.sizeLimit + 1 ↔ Settles capture.sizeLimit chunks) ∧
        (read = capture.readStream side headers (start.map .chunk) cancelAt ↔ Settles capture.sizeLimit chunks) ∧
        ([] ∉ start → Settles capture.sizeLimit chunks) ∧
        read.pulled ≤ capture.sizeLimit + 1 + (chunks.take read.pulled).count []) ∧
      ∀ source : Nat → List UInt8,
        ((∃ n, IsOver capture side headers cancelAt (firstChunks source n)) ↔
          ∃ n, capture.sizeLimit < (firstChunks source n).flatten.length) ∧
        ((∀ i, source i ≠ []) →
          IsOver capture side headers cancelAt (firstChunks source (capture.sizeLimit + 1))) := by
  refine ⟨fun chunks => ⟨pulled_le_iff accepted running, readStream_take_eq_iff accepted running,
    settles_of_not_mem, pulled_le_count accepted running chunks⟩, fun source => ⟨?_, fun full => ?_⟩⟩
  · simp only [isOver_iff accepted running]
  · rw [isOver_iff accepted running]
    have filled : [] ∉ firstChunks source (capture.sizeLimit + 1) := by
      intro there
      obtain ⟨i, -, empty⟩ := List.mem_map.1 there
      exact full i empty
    have bytes := length_le_count_add (firstChunks source (capture.sizeLimit + 1))
    rw [List.count_eq_zero.2 filled, length_firstChunks] at bytes
    omega

/-- With a limit of one byte, two chunks of one letter are all that counts of three, and of an endless source of
letters. -/
theorem pulls_bounded_iff_settles_of_letters :
    let capture : BodyCapture := ⟨1, 1000, ["text/*"], []⟩
    let headers : HeaderMap :=
      [(HeaderName.contentType, ⟨[116, 101, 120, 116, 47, 112, 108, 97, 105, 110], by decide⟩)]
    let read (chunks : List (List UInt8)) := capture.readStream .request headers (chunks.map .chunk) (some 7)
    capture.accepts .request headers = true ∧ (some 7 : Option Nat) ≠ some 0 ∧
      (read [[97], [98], [99]]).pulled ≤ 2 ∧ read [[97], [98], [99]] = read [[97], [98]] ∧
      IsOver capture .request headers (some 7) (firstChunks (fun _ => [97]) 2) := by
  intro capture headers read
  have accepted : capture.accepts .request headers = true := by decide +kernel
  obtain ⟨finite, endless⟩ := pulls_bounded_iff_settles accepted (show some 7 ≠ some 0 by decide)
  obtain ⟨bound, same, full, -⟩ := finite [[97], [98], [99]]
  have settles : Settles 1 [[97], [98], [99]] := full (by decide)
  exact ⟨accepted, by decide, bound.2 settles, same.2 settles, (endless fun _ => [97]).2 fun _ => by decide⟩

/-- Two empty chunks do not keep a third one from being read where the limit is one byte, and there is no end to the
read of a source that brings empty chunks for ever. -/
theorem empty_chunks_read :
    let capture : BodyCapture := ⟨1, 1000, ["text/*"], []⟩
    let headers : HeaderMap :=
      [(HeaderName.contentType, ⟨[116, 101, 120, 116, 47, 112, 108, 97, 105, 110], by decide⟩)]
    let read (chunks : List (List UInt8)) := capture.readStream .request headers (chunks.map .chunk) none
    capture.accepts .request headers = true ∧
      (read [[], [], [97]]).text = .ok (some "a") ∧ (read [[], [], [97]]).pulled = 3 ∧
      (read [[], []]).text = .ok (some "") ∧
      ¬ ∃ n, IsOver capture .request headers none (firstChunks (fun _ => []) n) := by
  intro capture headers read
  have accepted : capture.accepts .request headers = true := by decide +kernel
  refine ⟨accepted, by decide +kernel, by decide +kernel, by decide +kernel, ?_⟩
  rintro ⟨n, ended⟩
  have nothing : (firstChunks (fun _ => []) n).flatten = [] := by
    rw [List.flatten_eq_nil_iff]
    intro chunk there
    obtain ⟨i, -, rfl⟩ := List.mem_map.1 there
    rfl
  rw [isOver_iff accepted (show (none : Option Nat) ≠ some 0 by decide), nothing] at ended
  exact Nat.not_lt_zero _ ended

end CallTelemetry.BodyCapture
