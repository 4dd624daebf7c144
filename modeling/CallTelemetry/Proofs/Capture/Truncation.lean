import CallTelemetry.Capture.Body
import CallTelemetry.Proofs.Text.Utf8

/-!
# Cut bodies end between characters

A body that is too long is cut at the limit, and a character that the limit cuts is dropped. The scan for it looks
back over at most three bytes. If it drops nothing no character is open at the limit, and otherwise what it keeps
is followed by a byte that begins a character (`exists_split_of_truncate`), so the text of what is kept is the start
of the text of the body, valid or not. Of a valid body the characters are kept that fit (`truncate_bytesOf`). Said by
positions, the scan never asks for a byte that the body does not have (`keptLength?_eq`).
-/

namespace CallTelemetry

open Text.Utf8 (IsTail lead tails bytesOf bytesOf_append bytesOf_cons Decoder)

namespace BodyCapture

theorem isContinuation_iff (b : UInt8) : isContinuation b = true ↔ IsTail b := by
  unfold isContinuation IsTail
  rw [Bool.and_eq_true, decide_eq_true_eq, decide_eq_true_eq, UInt8.le_iff_toNat_le, UInt8.lt_iff_toNat_lt]
  exact and_congr Iff.rfl Nat.lt_succ_iff

theorem characterWidth_eq (b : UInt8) : characterWidth b =
    if b.toNat < 0xC0 then 1 else if b.toNat < 0xE0 then 2 else if b.toNat < 0xF0 then 3
      else if b.toNat < 0xF8 then 4 else 1 := by
  unfold characterWidth
  simp only [UInt8.lt_iff_toNat_lt]
  rfl

theorem characterWidth_of_lead {b : UInt8} {p : Text.Utf8.Pending} (opens : lead b = .opens p) :
    characterWidth b = p.owed + 1 := by
  rw [characterWidth_eq]
  rcases (Text.Utf8.sound_of_lead opens).2 with ⟨owed, low, high⟩ | ⟨owed, low, high⟩ | ⟨owed, low, high⟩
  · rw [if_neg (by omega), if_pos (by omega), owed]
  · rw [if_neg (by omega), if_neg (by omega), if_pos (by omega), owed]
  · rw [if_neg (by omega), if_neg (by omega), if_neg (by omega), if_pos (by omega), owed]

/-- The scan passes bytes inside a character. -/
theorem cutBytes_append {inside : List UInt8} (tails : ∀ t ∈ inside, IsTail t) (count : Nat)
    (before : List UInt8) : cutBytes count (inside ++ before) = cutBytes (count + inside.length) before := by
  induction inside generalizing count with
  | nil => rfl
  | cons t rest ih =>
    have passed : isContinuation t = true := (isContinuation_iff t).2 (tails t List.mem_cons_self)
    rw [List.cons_append, cutBytes, if_pos passed, ih fun u hu => tails u (List.mem_cons_of_mem t hu),
      List.length_cons]
    congr 1
    omega

/-- The scan stops at a byte that begins a character. -/
theorem cutBytes_of_not_isTail {b : UInt8} (begins : ¬IsTail b) (count : Nat) (before : List UInt8) :
    cutBytes count (b :: before) = if count + 1 < characterWidth b then count + 1 else 0 := by
  rw [cutBytes, if_neg fun passed => begins ((isContinuation_iff b).1 passed)]

/-- What the scan drops starts with a byte that begins a character. -/
theorem exists_begin_of_cutBytes {count : Nat} {bytes : List UInt8} (cuts : cutBytes count bytes ≠ 0) :
    ∃ inside b before, bytes = inside ++ b :: before ∧ ¬IsTail b ∧
      cutBytes count bytes = count + inside.length + 1 := by
  induction bytes generalizing count with
  | nil => exact absurd rfl cuts
  | cons b before ih =>
    by_cases tail : IsTail b
    · rw [cutBytes, if_pos ((isContinuation_iff b).2 tail)] at cuts ⊢
      obtain ⟨inside, first, rest, split, begins, dropped⟩ := ih cuts
      refine ⟨b :: inside, first, rest, congrArg _ split, begins, ?_⟩
      rw [dropped, List.length_cons]
      omega
    · rw [cutBytes_of_not_isTail tail] at cuts ⊢
      refine ⟨[], b, before, rfl, tail, ?_⟩
      split at cuts
      · rename_i short
        exact if_pos short
      · exact absurd rfl cuts

/-- How many of the bytes before a cut are dropped. -/
def dropped (kept : List UInt8) : Nat := cutBytes 0 (kept.reverse.take 3)

theorem truncate_of_le {body : List UInt8} {limit : Nat} (fits : body.length ≤ limit) :
    truncate body limit = body := if_pos fits

theorem truncate_of_lt {body : List UInt8} {limit : Nat} (long : limit < body.length) :
    truncate body limit = (body.take limit).take (limit - dropped (body.take limit)) := by
  unfold truncate
  rw [if_neg (Nat.not_le.2 long)]
  dsimp only
  rw [List.length_take_of_le (Nat.le_of_lt long)]
  rfl

theorem dropped_le (kept : List UInt8) : dropped kept ≤ 3 := by
  have few := cutBytes_le 0 (kept.reverse.take 3)
  rw [List.length_take] at few
  unfold dropped
  omega

/-- Bytes that end in a character's first byte and at most two inside it. -/
theorem dropped_append (before : List UInt8) {inside : List UInt8} {b : UInt8} (begins : ¬IsTail b)
    (tails : ∀ t ∈ inside, IsTail t) (few : inside.length ≤ 2) :
    dropped (before ++ b :: inside) =
      if inside.length + 1 < characterWidth b then inside.length + 1 else 0 := by
  have tails' : ∀ t ∈ inside.reverse, IsTail t := fun t ht => tails t (List.mem_reverse.1 ht)
  have seen : (before ++ b :: inside).reverse.take 3 =
      inside.reverse ++ b :: before.reverse.take (2 - inside.length) := by
    rw [List.reverse_append, List.reverse_cons, List.append_assoc, List.singleton_append, List.take_append,
      List.length_reverse, List.take_of_length_le (by rw [List.length_reverse]; omega)]
    congr 1
    obtain ⟨room, count⟩ : ∃ room, 3 - inside.length = room + 1 := ⟨2 - inside.length, by omega⟩
    rw [count, List.take_succ_cons]
    congr 2
    omega
  unfold dropped
  rw [seen, cutBytes_append tails', cutBytes_of_not_isTail begins, List.length_reverse, Nat.zero_add]

/-- If the scan drops nothing, no character is open: it would have seen the first byte of an open one. -/
theorem pending_of_dropped {kept : List UInt8} (nothing : dropped kept = 0) :
    (Decoder.feedAll {} kept).pending = none := by
  by_contra open_
  obtain ⟨p, open_⟩ := Option.ne_none_iff_exists'.1 open_
  obtain ⟨sound, before, b, inside, start, split, opens, tails, owed⟩ := Text.Utf8.exists_lead_of_pending open_
  have shape := (Text.Utf8.sound_of_lead opens).2
  have waits := sound.owed
  have begins : ¬IsTail b := by
    unfold IsTail
    omega
  have drops := dropped_append before begins tails (by omega)
  rw [← split, characterWidth_of_lead opens, if_pos (by omega), nothing] at drops
  omega

/-- What the scan drops is a byte that begins a character and bytes inside it. -/
theorem exists_split_of_dropped {kept : List UInt8} (something : dropped kept ≠ 0) :
    ∃ front b inside, kept = front ++ b :: inside ∧ ¬IsTail b ∧ dropped kept = inside.length + 1 := by
  obtain ⟨inside, b, before, seen, begins, count⟩ := exists_begin_of_cutBytes something
  refine ⟨(before ++ kept.reverse.drop 3).reverse, b, inside.reverse, ?_, begins, ?_⟩
  · have joined := List.take_append_drop 3 kept.reverse
    rw [seen, List.append_assoc, List.cons_append] at joined
    have turned := congrArg List.reverse joined
    rw [List.reverse_append, List.reverse_cons, List.append_assoc, List.reverse_reverse] at turned
    exact turned.symm
  · unfold dropped
    rw [count, List.length_reverse, Nat.zero_add]

/-- What is kept of a body that is too long ends between characters, or is followed by a byte that begins one. -/
theorem exists_split_of_truncate {body : List UInt8} {limit : Nat} (long : limit < body.length) :
    ∃ b rest, body = truncate body limit ++ b :: rest ∧
      (¬IsTail b ∨ (Decoder.feedAll {} (truncate body limit)).pending = none) := by
  obtain ⟨kept, cut⟩ : ∃ kept, kept = body.take limit := ⟨_, rfl⟩
  have length : kept.length = limit := by rw [cut, List.length_take_of_le (Nat.le_of_lt long)]
  have whole : body = kept ++ body.drop limit := by rw [cut, List.take_append_drop]
  rw [truncate_of_lt long, ← cut]
  by_cases nothing : dropped kept = 0
  · have left : 0 < (body.drop limit).length := by
      rw [List.length_drop]
      omega
    obtain ⟨next, rest, more⟩ := List.exists_cons_of_length_pos left
    rw [nothing, Nat.sub_zero, List.take_of_length_le (Nat.le_of_eq length)]
    exact ⟨next, rest, whole.trans (congrArg _ more), Or.inr (pending_of_dropped nothing)⟩
  · obtain ⟨front, b, inside, split, begins, drops⟩ := exists_split_of_dropped nothing
    have size : front.length = limit - dropped kept := by
      have sizes := congrArg List.length split
      rw [List.length_append, List.length_cons] at sizes
      omega
    have stays : kept.take (limit - dropped kept) = front := by
      conv => lhs; arg 2; rw [split]
      exact List.take_left' size
    rw [stays]
    refine ⟨b, inside ++ body.drop limit, ?_, Or.inl begins⟩
    rw [← List.cons_append, ← List.append_assoc, ← split]
    exact whole

/-- Three bytes inside a character are all that the scan looks at. -/
theorem dropped_append_tails {inside : List UInt8} (tails : ∀ t ∈ inside, IsTail t) (three : inside.length = 3)
    (before : List UInt8) : dropped (before ++ inside) = 0 := by
  have tails' : ∀ t ∈ inside.reverse, IsTail t := fun t ht => tails t (List.mem_reverse.1 ht)
  have seen : (before ++ inside).reverse.take 3 = inside.reverse := by
    rw [List.reverse_append]
    exact List.take_left' (by rw [List.length_reverse, three])
  unfold dropped
  rw [seen, ← List.append_nil inside.reverse, cutBytes_append tails']
  rfl

/-- The bytes of a character, as the scan sees them. -/
theorem exists_begin_of_character (c : Char) :
    ∃ b inside, String.utf8EncodeChar c = b :: inside ∧ ¬IsTail b ∧ (∀ t ∈ inside, IsTail t) ∧
      characterWidth b = inside.length + 1 ∧ inside.length ≤ 3 := by
  rcases Text.Utf8.utf8EncodeChar_cases c with ⟨b, bytes, whole⟩ | ⟨b, k, p, bytes, opens, owed, -⟩
  · have small := Text.Utf8.toNat_lt_of_lead whole
    refine ⟨b, [], bytes, fun tail => ?_, by simp, ?_, Nat.zero_le 3⟩
    · unfold IsTail at tail
      omega
    · rw [characterWidth_eq, if_pos (by omega)]
      rfl
  · have shape := (Text.Utf8.sound_of_lead opens).2
    refine ⟨b, tails c.toNat (k + 1), bytes, fun tail => ?_, fun t => Text.Utf8.isTail_of_mem_tails, ?_, ?_⟩
    · unfold IsTail at tail
      omega
    · rw [characterWidth_of_lead opens, owed, Text.Utf8.length_tails]
    · rw [Text.Utf8.length_tails]
      omega

/-- The scan drops nothing of characters that are all there. -/
theorem dropped_bytesOf (cs : List Char) : dropped (bytesOf cs) = 0 := by
  induction cs using List.reverseRecOn with
  | nil => rfl
  | append_singleton before c =>
    obtain ⟨b, inside, bytes, begins, tails, width, few⟩ := exists_begin_of_character c
    have last : bytesOf [c] = b :: inside := (List.append_nil _).trans bytes
    rw [bytesOf_append, last]
    by_cases three : inside.length = 3
    · rw [← List.singleton_append, ← List.append_assoc]
      exact dropped_append_tails tails three _
    · rw [dropped_append _ begins tails (by omega), width, if_neg (Nat.lt_irrefl _)]

/-- The scan drops what there is of a character that is not all there. -/
theorem dropped_bytesOf_append (cs : List Char) {c : Char} {n : Nat}
    (part : n < (String.utf8EncodeChar c).length) :
    dropped (bytesOf cs ++ (String.utf8EncodeChar c).take n) = n := by
  cases n with
  | zero =>
    rw [List.take_zero, List.append_nil]
    exact dropped_bytesOf cs
  | succ n =>
    obtain ⟨b, inside, bytes, begins, tails, width, few⟩ := exists_begin_of_character c
    rw [bytes, List.length_cons] at part
    have length : (inside.take n).length = n := List.length_take_of_le (by omega)
    rw [bytes, List.take_succ_cons, dropped_append _ begins (fun t ht => tails t (List.mem_of_mem_take ht)) (by omega),
      length, width, if_pos (by omega)]

/-- Of a valid body the characters are kept that fit. -/
theorem truncate_bytesOf {limit : Nat} {fit rest : List Char} (small : (bytesOf fit).length ≤ limit)
    (full : ∀ c more, rest = c :: more → limit < (bytesOf fit).length + (String.utf8EncodeChar c).length) :
    truncate (bytesOf (fit ++ rest)) limit = bytesOf fit := by
  cases rest with
  | nil =>
    rw [List.append_nil]
    exact truncate_of_le small
  | cons c more =>
    have exceeds := full c more rfl
    have bytes : bytesOf (fit ++ c :: more) = bytesOf fit ++ (String.utf8EncodeChar c ++ bytesOf more) := by
      rw [bytesOf_append, bytesOf_cons]
    have long : limit < (bytesOf (fit ++ c :: more)).length := by
      rw [bytes, List.length_append, List.length_append]
      omega
    have kept : (bytesOf (fit ++ c :: more)).take limit =
        bytesOf fit ++ (String.utf8EncodeChar c).take (limit - (bytesOf fit).length) := by
      rw [bytes, List.take_append, List.take_of_length_le small, List.take_append_of_le_length (by omega)]
    rw [truncate_of_lt long, kept, dropped_bytesOf_append fit (by omega)]
    exact List.take_left' (by omega)

/-- The scan by positions of a body that is cut before `stop`: the first of the positions with a byte that begins a
character tells where to cut. None stands for a position that the body does not have. -/
def cutAt? (body : List UInt8) (stop : Nat) : List Nat → Option Nat
  | [] => some stop
  | start :: earlier =>
    match body[start]? with
    | none => none
    | some b =>
      if isContinuation b then cutAt? body stop earlier
      else some (if stop < start + characterWidth b then start else stop)

/-- How many bytes of a body are kept. The positions of the last three bytes before a cut are scanned, the last one
first. -/
def keptLength? (body : List UInt8) (limit : Nat) : Option Nat :=
  let stop := min body.length limit
  if stop < body.length then cutAt? body stop (List.range' (stop - 3) (stop - (stop - 3))).reverse
  else some stop

/-- The scan goes on with `tries` positions when it has passed `count` bytes inside a character. -/
theorem cutAt?_eq {body : List UInt8} {stop : Nat} (inside : stop ≤ body.length) {count tries : Nat}
    (enough : count + tries ≤ stop) :
    cutAt? body stop (List.range' (stop - count - tries) tries).reverse =
      some (stop - cutBytes count ((body.take (stop - count)).reverse.take tries)) := by
  induction tries generalizing count with
  | zero => rfl
  | succ tries ih =>
    obtain ⟨start, place⟩ : ∃ start, stop - count = start + 1 := ⟨stop - count - 1, by omega⟩
    have there : start < body.length := by omega
    have positions : (List.range' (stop - count - (tries + 1)) (tries + 1)).reverse =
        start :: (List.range' (stop - (count + 1) - tries) tries).reverse := by
      rw [List.range'_concat, List.reverse_append, List.reverse_singleton, List.singleton_append]
      congr 1
      · omega
      · congr 2
        omega
    have bytes : (body.take (stop - count)).reverse.take (tries + 1) =
        body[start] :: (body.take start).reverse.take tries := by
      rw [place, List.take_succ_eq_append_getElem there, List.reverse_append, List.reverse_singleton,
        List.singleton_append, List.take_succ_cons]
    rw [positions, bytes, cutAt?, List.getElem?_eq_getElem there]
    dsimp only
    rw [cutBytes]
    by_cases passed : isContinuation body[start] = true
    · have onward : stop - (count + 1) = start := by omega
      have fewer : count + 1 + tries ≤ stop := by omega
      have later := ih fewer
      rw [onward] at later
      rw [if_pos passed, if_pos passed, onward, later]
    · rw [if_neg passed, if_neg passed]
      by_cases short : count + 1 < characterWidth body[start]
      · rw [if_pos short, if_pos (by omega)]
        congr 1
        omega
      · rw [if_neg short, if_neg (by omega)]
        rfl

/-- No position is looked at that the body does not have, and the positions tell what the scan of the bytes tells. -/
theorem keptLength?_eq (body : List UInt8) (limit : Nat) :
    keptLength? body limit = some (truncate body limit).length := by
  unfold keptLength?
  dsimp only
  by_cases long : limit < body.length
  · have stop : min body.length limit = limit := Nat.min_eq_right (Nat.le_of_lt long)
    have length : (body.take limit).length = limit := List.length_take_of_le (Nat.le_of_lt long)
    have enough : 0 + (limit - (limit - 3)) ≤ limit := by omega
    have scanned := cutAt?_eq (Nat.le_of_lt long) enough
    have first : limit - 0 - (limit - (limit - 3)) = limit - 3 := by omega
    have seen : (body.take limit).reverse.take (limit - (limit - 3)) = (body.take limit).reverse.take 3 := by
      by_cases few : limit ≤ 3
      · have size : (body.take limit).reverse.length = limit := by rw [List.length_reverse, length]
        have short : (body.take limit).reverse.length ≤ limit - (limit - 3) := by omega
        have three : (body.take limit).reverse.length ≤ 3 := by omega
        rw [List.take_of_length_le short, List.take_of_length_le three]
      · congr 1
        omega
    rw [first, Nat.sub_zero, seen] at scanned
    rw [stop, if_pos long, scanned, truncate_of_lt long, List.length_take_of_le (by omega)]
    rfl
  · have stop : min body.length limit = body.length := Nat.min_eq_left (Nat.not_lt.1 long)
    rw [stop, if_neg (Nat.lt_irrefl _), truncate_of_le (Nat.not_lt.1 long)]

theorem truncate_eq_take (body : List UInt8) (limit : Nat) :
    truncate body limit = body.take (truncate body limit).length := by
  rw [← List.prefix_iff_eq_take]
  exact truncate_prefix body limit

theorem length_truncate (body : List UInt8) (limit : Nat) :
    min body.length limit ≤ (truncate body limit).length + 3 ∧
      (truncate body limit).length ≤ min body.length limit := by
  by_cases long : limit < body.length
  · have few := dropped_le (body.take limit)
    rw [truncate_of_lt long, List.length_take, List.length_take]
    omega
  · rw [truncate_of_le (Nat.not_lt.1 long)]
    omega

/-- The text of what is kept is the start of the text of the body. -/
theorem decodeList_truncate (body : List UInt8) (limit : Nat) :
    Text.Utf8.decodeList (truncate body limit) <+: Text.Utf8.decodeList body := by
  by_cases long : limit < body.length
  · obtain ⟨b, rest, split, clean⟩ := exists_split_of_truncate long
    conv => rhs; rw [split]
    rcases clean with begins | closed
    · exact Text.Utf8.decodeList_prefix_of_not_isTail _ begins rest
    · exact Text.Utf8.decodeList_prefix_of_closed closed _
  · refine ⟨[], ?_⟩
    rw [List.append_nil, truncate_of_le (Nat.not_lt.1 long)]

/-- The text kept of a body is the start of the text of all of it, and at most three bytes before the limit are
lost. Of a valid body it is the longest start that fits. -/
theorem decode_cuts_between_characters (body : List UInt8) (limit : Nat) :
    (decode body limit).toList <+: (Text.Utf8.decode body).toList ∧
      (body.length ≤ limit → decode body limit = Text.Utf8.decode body) ∧
      (∃ kept, keptLength? body limit = some kept ∧ decode body limit = Text.Utf8.decode (body.take kept) ∧
        min body.length limit ≤ kept + 3 ∧ kept ≤ min body.length limit) ∧
      ∀ text : String, body = Text.Utf8.encode text →
        (decode body limit).toList <+: text.toList ∧ (decode body limit).utf8ByteSize ≤ limit ∧
          ∀ start : String, start.toList <+: text.toList → start.utf8ByteSize ≤ limit →
            start.toList <+: (decode body limit).toList := by
  have shown : (decode body limit).toList = Text.Utf8.decodeList (truncate body limit) := String.toList_ofList
  refine ⟨?_, fun fits => ?_, ?_, fun text valid => ?_⟩
  · rw [shown, Text.Utf8.decode, String.toList_ofList]
    exact decodeList_truncate body limit
  · rw [decode, truncate_of_le fits]
  · refine ⟨(truncate body limit).length, keptLength?_eq body limit, ?_, length_truncate body limit⟩
    rw [← truncate_eq_take]
    rfl
  · obtain ⟨fit, rest, split, small, full⟩ := Text.Utf8.exists_fitting limit text.toList
    have bytes : body = bytesOf (fit ++ rest) := by
      rw [valid, ← split]
      rfl
    have kept : decode body limit = String.ofList fit := by
      rw [decode, bytes, truncate_bytesOf small full, Text.Utf8.decode, Text.Utf8.decodeList_bytesOf]
    rw [kept, String.toList_ofList, split]
    refine ⟨List.prefix_append fit rest, ?_, fun start begins fits => ?_⟩
    · rw [← Text.Utf8.length_bytesOf]
      exact small
    · refine Text.Utf8.prefix_of_fitting full begins ?_
      rw [Text.Utf8.length_bytesOf, String.ofList_toList]
      exact fits

/-- A limit inside the three bytes of a character, and one that no character crosses. -/
theorem decode_cuts_between_characters_of_euro :
    let body : List UInt8 := [0x61, 0xE2, 0x82, 0xAC, 0x62]
    body = Text.Utf8.encode "a\u20ACb" ∧ decode body 3 = "a" ∧ keptLength? body 3 = some 1 ∧
      (decode body 3).toList <+: "a\u20ACb".toList ∧ "a".toList <+: (decode body 3).toList ∧
      body.length ≤ 5 ∧ decode body 5 = Text.Utf8.decode body := by
  intro body
  have valid : body = Text.Utf8.encode "a\u20ACb" := by decide +kernel
  obtain ⟨start, -, longest⟩ := (decode_cuts_between_characters body 3).2.2.2 "a\u20ACb" valid
  have fits : body.length ≤ 5 := by decide
  refine ⟨valid, by decide +kernel, by decide +kernel, start, ?_, fits, ?_⟩
  · exact longest "a" (by decide +kernel) (by decide +kernel)
  · exact (decode_cuts_between_characters body 5).2.1 fits

/-- Bytes that are no text are cut in the same way. -/
example : decode [0xFF, 0x61, 0xE2, 0x82, 0xC3, 0xA9] 5 = "\uFFFDa\uFFFD" := by decide +kernel

end BodyCapture

end CallTelemetry
