import CallTelemetry.Proofs.Route.Separation
import Mathlib.Data.List.TakeWhile

/-!
# Walks by byte positions

A walk told by positions in the path, where a text is cut out only between two characters and inside the path and the
walk fails otherwise (`visitsFrom?`). It never fails, whatever the path is, and it meets the pieces of the walk that
carries the rest of the path along (`exists_visits`): a literal moves on to the first place between two characters
that is far enough (`advance_eq`), and a parameter stops at a slash or at the end. The ranges of its visits lie one
behind the other (`Along`), so no byte of the path is shown twice, and once the path is used up every parameter has
its default or the empty text (`walk_shows_ranges`).
-/

namespace CallTelemetry.Route

/-- A text parted behind some bytes, if that is between two characters. -/
def splitBytes? : Nat → List Char → Option (List Char × List Char)
  | 0, cs => some ([], cs)
  | _ + 1, [] => none
  | n + 1, c :: cs =>
    if c.utf8Size ≤ n + 1 then (splitBytes? (n + 1 - c.utf8Size) cs).map fun parts => (c :: parts.1, parts.2)
    else none

/-- The text of a range of bytes, if the range lies in the text and cuts no character. -/
def slice? (path : List Char) (start stop : Nat) : Option (List Char) :=
  if stop < start then none
  else do
    let (_, rest) ← splitBytes? start path
    let (found, _) ← splitBytes? (stop - start) rest
    return found

def isBoundary (path : List Char) (pos : Nat) : Bool := (splitBytes? pos path).isSome

/-- The first position between two characters that is some bytes further on, or the end if that is nearer. -/
def advance (path : List Char) (pos bytes : Nat) : Nat :=
  let next := min (pos + bytes) (byteLength path)
  ((List.range' next (byteLength path + 1 - next)).find? (isBoundary path)).getD (byteLength path)

/-- Where the text of a parameter stops that starts at a position. -/
def Parameter.stop? (p : Parameter) (path : List Char) (pos : Nat) : Option Nat :=
  if p.catchAll then some (byteLength path)
  else do
    let ahead ← slice? path pos (byteLength path)
    return if '/' ∈ ahead then pos + byteLength (ahead.takeWhile (· ≠ '/')) else byteLength path

/-- A piece that a walk meets, with the range of the path that stands for it. -/
structure Visit where
  piece : Piece
  start : Nat
  stop : Nat
  deriving DecidableEq, Repr

/-- The walk by positions. None means that a text is cut out of the path that is not there. -/
def visitsFrom? (path : List Char) : List Segment → Nat → Option (List Visit)
  | [], _ => some []
  | .literal text :: rest, pos => do
    let next := advance path pos text.utf8ByteSize
    let later ← visitsFrom? path rest next
    return ⟨.literal text, pos, next⟩ :: later
  | .parameter p :: rest, pos => do
    let stop ← p.stop? path pos
    let found ← slice? path pos stop
    let later ← visitsFrom? path rest stop
    return ⟨.parameter p (String.ofList found), pos, stop⟩ :: later

theorem splitBytes?_zero (cs : List Char) : splitBytes? 0 cs = some ([], cs) := by
  cases cs <;> rfl

theorem splitBytes?_add_append (n : Nat) (a b : List Char) :
    splitBytes? (byteLength a + n) (a ++ b) = (splitBytes? n b).map fun parts => (a ++ parts.1, parts.2) := by
  induction a with
  | nil =>
    rw [byteLength_nil, Nat.zero_add, List.nil_append]
    exact Option.map_id'.symm
  | cons c rest ih =>
    have wide := c.utf8Size_pos
    obtain ⟨m, split⟩ : ∃ m, byteLength (c :: rest) + n = m + 1 :=
      ⟨byteLength (c :: rest) + n - 1, by rw [byteLength_cons]; omega⟩
    have left : m + 1 - c.utf8Size = byteLength rest + n := by
      rw [byteLength_cons] at split
      omega
    have fits : c.utf8Size ≤ m + 1 := by
      rw [byteLength_cons] at split
      omega
    rw [split, List.cons_append, splitBytes?, if_pos fits, left, ih, Option.map_map]
    rfl

theorem splitBytes?_append (a b : List Char) : splitBytes? (byteLength a) (a ++ b) = some (a, b) := by
  have parted := splitBytes?_add_append 0 a b
  rw [Nat.add_zero] at parted
  rw [parted, splitBytes?_zero, Option.map_some, List.append_nil]

theorem slice?_append (before found after : List Char) :
    slice? (before ++ (found ++ after)) (byteLength before) (byteLength before + byteLength found) = some found := by
  unfold slice?
  rw [if_neg (by omega), splitBytes?_append, Nat.add_sub_cancel_left]
  simp only [Option.bind_eq_bind, Option.bind_some]
  rw [splitBytes?_append]
  rfl

theorem isBoundary_add_append (n : Nat) (a b : List Char) :
    isBoundary (a ++ b) (byteLength a + n) = isBoundary b n := by
  unfold isBoundary
  rw [splitBytes?_add_append, Option.isSome_map]

/-- Dropping bytes stops at the first place between two characters that is far enough. -/
theorem exists_front_of_dropBytes {n : Nat} {cs : List Char} (inside : n ≤ byteLength cs) :
    ∃ front, cs = front ++ dropBytes n cs ∧ n ≤ byteLength front ∧
      ∀ q, n ≤ q → q < byteLength front → isBoundary cs q = false := by
  induction cs generalizing n with
  | nil =>
    obtain rfl : n = 0 := Nat.le_zero.1 inside
    exact ⟨[], rfl, Nat.le_refl 0, fun q _ high => absurd high (Nat.not_lt_zero q)⟩
  | cons c rest ih =>
    cases n with
    | zero => exact ⟨[], rfl, Nat.le_refl 0, fun q _ high => absurd high (Nat.not_lt_zero q)⟩
    | succ n =>
      rw [byteLength_cons] at inside
      have later : n + 1 - c.utf8Size ≤ byteLength rest := by omega
      obtain ⟨front, split, far, none⟩ := ih later
      refine ⟨c :: front, congrArg (c :: ·) split, ?_, fun q low high => ?_⟩
      · rw [byteLength_cons]
        omega
      · rw [byteLength_cons] at high
        obtain ⟨m, rfl⟩ : ∃ m, q = m + 1 := ⟨q - 1, by omega⟩
        by_cases fits : c.utf8Size ≤ m + 1
        · have shifted := isBoundary_add_append (m + 1 - c.utf8Size) [c] rest
          have place : byteLength [c] + (m + 1 - c.utf8Size) = m + 1 := by
            rw [byteLength_cons, byteLength_nil]
            omega
          rw [place, List.singleton_append] at shifted
          rw [shifted]
          exact none _ (by omega) (by omega)
        · unfold isBoundary
          rw [splitBytes?, if_neg fits]
          rfl

theorem eq_nil_of_byteLength {cs : List Char} (none : byteLength cs = 0) : cs = [] := by
  cases cs with
  | nil => rfl
  | cons c rest =>
    have wide := c.utf8Size_pos
    rw [byteLength_cons] at none
    omega

theorem dropBytes_of_le {n : Nat} {cs : List Char} (all : byteLength cs ≤ n) : dropBytes n cs = [] := by
  have left := byteLength_dropBytes_le n cs
  exact eq_nil_of_byteLength (by omega)

theorem exists_front_of_dropBytes_min (n : Nat) (cs : List Char) :
    ∃ front, cs = front ++ dropBytes n cs ∧ min n (byteLength cs) ≤ byteLength front ∧
      ∀ q, min n (byteLength cs) ≤ q → q < byteLength front → isBoundary cs q = false := by
  by_cases inside : n ≤ byteLength cs
  · rw [Nat.min_eq_left inside]
    exact exists_front_of_dropBytes inside
  · rw [Nat.min_eq_right (Nat.le_of_not_le inside), dropBytes_of_le (Nat.le_of_not_le inside)]
    refine ⟨cs, (List.append_nil cs).symm, Nat.le_refl _, fun q low high => ?_⟩
    omega

/-- A literal moves a walk on to what dropping its bytes leaves. -/
theorem advance_eq (before after : List Char) (bytes : Nat) :
    ∃ front, after = front ++ dropBytes bytes after ∧
      advance (before ++ after) (byteLength before) bytes = byteLength (before ++ front) := by
  obtain ⟨front, split, far, none⟩ := exists_front_of_dropBytes_min bytes after
  refine ⟨front, split, ?_⟩
  have whole : byteLength after = byteLength front + byteLength (dropBytes bytes after) := by
    conv => lhs; rw [split]
    exact byteLength_append _ _
  unfold advance
  dsimp only
  have first : (List.range' (min (byteLength before + bytes) (byteLength (before ++ after)))
      (byteLength (before ++ after) + 1 - min (byteLength before + bytes) (byteLength (before ++ after)))).find?
        (isBoundary (before ++ after)) = some (byteLength (before ++ front)) := by
    rw [List.find?_range'_eq_some]
    refine ⟨?_, ?_, fun q low high => ?_⟩
    · rw [byteLength_append, isBoundary_add_append, split]
      unfold isBoundary
      rw [splitBytes?_append]
      rfl
    · rw [List.mem_range'_1, byteLength_append, byteLength_append]
      omega
    · rw [byteLength_append] at low high
      obtain ⟨m, rfl⟩ : ∃ m, q = byteLength before + m := ⟨q - byteLength before, by omega⟩
      rw [isBoundary_add_append, none m (by omega) (by omega)]
      rfl
  rw [first]
  rfl

/-- A range of a path holds a text: it lies in the path and ends between characters on both sides. -/
def IsSlice (path : List Char) (start stop : Nat) (text : List Char) : Prop :=
  ∃ before after, path = before ++ (text ++ after) ∧ byteLength before = start ∧ start + byteLength text = stop

theorem IsSlice.bounds {path text : List Char} {start stop : Nat} (slice : IsSlice path start stop text) :
    start ≤ stop ∧ stop ≤ byteLength path := by
  obtain ⟨before, after, rfl, rfl, rfl⟩ := slice
  rw [byteLength_append, byteLength_append]
  omega

/-- What a visit reports of the text in its range: a literal nothing, a parameter just that text, which has a slash
only if the parameter is a catch-all. -/
def Visit.Shows (v : Visit) (text : List Char) : Prop :=
  match v.piece with
  | .literal _ => True
  | .parameter p found => found.toList = text ∧ (p.catchAll = false → '/' ∉ text)

/-- Visits whose ranges lie one behind the other from a position on. -/
inductive Along (path : List Char) : Nat → List Visit → Prop where
  | nil {pos : Nat} : Along path pos []
  | cons {v : Visit} {later : List Visit} {text : List Char} (slice : IsSlice path v.start v.stop text)
      (shows : v.Shows text) (rest : Along path v.stop later) : Along path v.start (v :: later)

theorem Parameter.stop?_eq (p : Parameter) (before after : List Char) :
    p.stop? (before ++ after) (byteLength before) = some (byteLength before + byteLength (p.take after)) := by
  unfold Parameter.stop? Parameter.take
  split
  · rw [byteLength_append]
  · have ahead := slice?_append before after []
    rw [List.append_nil, ← byteLength_append] at ahead
    simp only [ahead, Option.bind_eq_bind, Option.bind_some, Option.pure_def]
    split
    · rfl
    · rename_i none
      have plain : ∀ c ∈ after, decide (c ≠ '/') = true := by
        intro c there
        rw [decide_eq_true_eq]
        rintro rfl
        exact none there
      rw [List.takeWhile_eq_self_iff.2 plain, byteLength_append]

theorem not_mem_take {p : Parameter} (single : p.catchAll = false) (path : List Char) : '/' ∉ p.take path := by
  unfold Parameter.take
  rw [single, if_neg Bool.false_ne_true]
  exact not_mem_beforeSlash path

/-- The walk by positions meets the pieces of the walk that carries the rest of the path along, and its ranges lie
one behind the other. -/
theorem exists_visits (segments : List Segment) (before after : List Char) :
    ∃ visits, visitsFrom? (before ++ after) segments (byteLength before) = some visits ∧
      visits.map (·.piece) = walkFrom segments after ∧ Along (before ++ after) (byteLength before) visits := by
  induction segments generalizing before after with
  | nil => exact ⟨[], rfl, rfl, .nil⟩
  | cons s rest ih =>
    cases s with
    | literal text =>
      obtain ⟨front, split, next⟩ := advance_eq before after text.utf8ByteSize
      obtain ⟨later, met, pieces, along⟩ := ih (before ++ front) (dropBytes text.utf8ByteSize after)
      rw [List.append_assoc, ← split] at met along
      have slice : IsSlice (before ++ after) (byteLength before) (byteLength (before ++ front)) front :=
        ⟨before, dropBytes text.utf8ByteSize after, congrArg _ split, rfl, (byteLength_append before front).symm⟩
      refine ⟨⟨.literal text, byteLength before, byteLength (before ++ front)⟩ :: later, ?_, ?_, ?_⟩
      · rw [visitsFrom?, next, met]
        rfl
      · rw [List.map_cons, pieces]
        rfl
      · have shows : Visit.Shows ⟨.literal text, byteLength before, byteLength (before ++ front)⟩ front := trivial
        exact .cons slice shows along
    | parameter p =>
      have parts := p.take_append_rest after
      obtain ⟨later, met, pieces, along⟩ := ih (before ++ p.take after) (p.rest after)
      rw [List.append_assoc, parts] at met along
      have found := slice?_append before (p.take after) (p.rest after)
      rw [parts] at found
      rw [byteLength_append] at met along
      have slice : IsSlice (before ++ after) (byteLength before) (byteLength before + byteLength (p.take after))
          (p.take after) := ⟨before, p.rest after, congrArg _ parts.symm, rfl, rfl⟩
      refine ⟨⟨.parameter p (String.ofList (p.take after)), byteLength before,
        byteLength before + byteLength (p.take after)⟩ :: later, ?_, ?_, ?_⟩
      · rw [visitsFrom?, p.stop?_eq]
        simp only [Option.bind_eq_bind, Option.bind_some, found, met]
        rfl
      · rw [List.map_cons, pieces]
        rfl
      · have shows : Visit.Shows ⟨.parameter p (String.ofList (p.take after)), byteLength before,
            byteLength before + byteLength (p.take after)⟩ (p.take after) :=
          ⟨String.toList_ofList, fun single => not_mem_take single after⟩
        exact .cons slice shows along

namespace Along

variable {path : List Char} {pos : Nat} {visits : List Visit}

theorem exists_slice (along : Along path pos visits) {v : Visit} (there : v ∈ visits) :
    pos ≤ v.start ∧ ∃ text, IsSlice path v.start v.stop text ∧ v.Shows text := by
  induction along with
  | nil => nomatch there
  | cons slice shows rest ih =>
    rcases List.mem_cons.1 there with rfl | there
    · exact ⟨Nat.le_refl _, _, slice, shows⟩
    · obtain ⟨behind, found⟩ := ih there
      exact ⟨Nat.le_trans slice.bounds.1 behind, found⟩

theorem ordered (along : Along path pos visits) : visits.Pairwise (fun u v => u.stop ≤ v.start) := by
  induction along with
  | nil => exact .nil
  | cons slice shows rest ih => exact .cons (fun v there => (rest.exists_slice there).1) ih

end Along

/-- The segment that a piece is met for. -/
def Piece.segment : Piece → Segment
  | .literal text => .literal text
  | .parameter p _ => .parameter p

theorem map_segment_walkFrom (segments : List Segment) (path : List Char) :
    (walkFrom segments path).map Piece.segment = segments := by
  induction segments generalizing path with
  | nil => rfl
  | cons s rest ih => cases s <;> exact congrArg _ (ih _)

theorem Parameter.value_eq_found {p : Parameter} {found : String} (kept : found ≠ "" ∨ p.default = none) :
    p.value found = found := by
  unfold Parameter.value
  split
  · rename_i none
    rw [kept.resolve_left fun some => some none, none]
    rfl
  · rfl

theorem Parameter.value_eq_default {p : Parameter} {default : String} (is : p.default = some default) :
    p.value "" = default := by
  unfold Parameter.value
  rw [if_pos rfl, is]
  rfl

/-- A walk along any path cuts out only texts that are there. It meets each segment once and in order, in ranges that
lie one behind the other, and each parameter reports the text of its range, or its default if that is empty. -/
theorem walk_shows_ranges (t : Template) (path : String) :
    let body := dropSlashes path.toList
    ∃ visits, visitsFrom? body t.segments 0 = some visits ∧ visits.map (·.piece) = t.walk path ∧
      (t.walk path).map Piece.segment = t.segments ∧
      (∀ v ∈ visits, v.start ≤ v.stop ∧ v.stop ≤ byteLength body) ∧
      visits.Pairwise (fun u v => u.stop ≤ v.start) ∧
      (∀ v ∈ visits, ∀ p found, v.piece = .parameter p found →
        IsSlice body v.start v.stop found.toList ∧ (p.catchAll = false → '/' ∉ found.toList) ∧
          (found ≠ "" ∨ p.default = none → p.value found = found) ∧
          ∀ default, found = "" → p.default = some default → p.value found = default) ∧
      visits.Pairwise fun u v => u.stop = byteLength body →
        ∀ p found, v.piece = .parameter p found → p.value found = p.default.getD "" := by
  intro body
  obtain ⟨visits, met, pieces, along⟩ := exists_visits t.segments [] body
  rw [List.nil_append] at along
  have inside : ∀ v ∈ visits, v.start ≤ v.stop ∧ v.stop ≤ byteLength body := by
    intro v there
    obtain ⟨-, text, slice, -⟩ := along.exists_slice there
    exact slice.bounds
  have shown : ∀ v ∈ visits, ∀ p found, v.piece = .parameter p found →
      IsSlice body v.start v.stop found.toList ∧ (p.catchAll = false → '/' ∉ found.toList) := by
    intro v there p found piece
    obtain ⟨-, text, slice, shows⟩ := along.exists_slice there
    unfold Visit.Shows at shows
    rw [piece] at shows
    obtain ⟨rfl, plain⟩ := shows
    exact ⟨slice, plain⟩
  refine ⟨visits, met, pieces, map_segment_walkFrom _ _, inside, along.ordered, ?_, ?_⟩
  · intro v there p found piece
    obtain ⟨slice, plain⟩ := shown v there p found piece
    exact ⟨slice, plain, Parameter.value_eq_found, fun default none is => none ▸ Parameter.value_eq_default is⟩
  · refine along.ordered.imp_of_mem fun {u v} _ there behind exhausted p found piece => ?_
    obtain ⟨slice, -⟩ := shown v there p found piece
    have bounds := inside v there
    obtain ⟨before, after, -, -, length⟩ := slice
    have none : found.toList = [] := eq_nil_of_byteLength (by omega)
    exact if_pos (String.toList_eq_nil_iff.1 none)

/-- A literal that ends inside a character of the path, and parameters behind the end of the path. -/
example :
    let id : Parameter := ⟨"id", none, false, false⟩
    let page : Parameter := ⟨"page", some "1", false, false⟩
    visitsFrom? "ab€/x".toList [.literal "é/", .parameter id, .literal "/x/", .parameter page] 0 =
      some [⟨.literal "é/", 0, 5⟩, ⟨.parameter id "", 5, 5⟩, ⟨.literal "/x/", 5, 7⟩, ⟨.parameter page "", 7, 7⟩] := by
  decide +kernel

end CallTelemetry.Route
