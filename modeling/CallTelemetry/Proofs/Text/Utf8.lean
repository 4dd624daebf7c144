import CallTelemetry.Text.Utf8
import Mathlib.Algebra.Group.Nat.Defs
import Mathlib.Data.List.Induction

/-!
# Reading bytes

A reader never takes back a character it has read, so the text of a byte string begins with the text of each start
of it that ends between characters, and also of each start that is followed by a byte which can only begin a
character (`decodeList_prefix_of_closed`, `decodeList_prefix_of_not_isTail`). While a character is open, the last
bytes are its first byte and fewer bytes inside it than that one calls for (`exists_lead_of_pending`). The bytes of
a text are read as that text (`decodeList_bytesOf`), and only the empty byte string is read as the empty text
(`decodeList_eq_nil_iff`).
-/

namespace CallTelemetry.Text.Utf8

/-- A byte that can only stand inside a character. -/
def IsTail (b : UInt8) : Prop := 0x80 ≤ b.toNat ∧ b.toNat ≤ 0xBF

instance (b : UInt8) : Decidable (IsTail b) := inferInstanceAs (Decidable (_ ∧ _))

/-- An open character waits for at least one byte, and only for one that stands inside a character. -/
structure Pending.Sound (p : Pending) : Prop where
  low : 0x80 ≤ p.low
  high : p.high ≤ 0xBF
  owed : 1 ≤ p.owed

theorem Pending.Sound.isTail {p : Pending} (sound : p.Sound) {b : UInt8}
    (fits : p.low ≤ b.toNat ∧ b.toNat ≤ p.high) : IsTail b := by
  obtain ⟨low, high, -⟩ := sound
  constructor
  · omega
  · omega

/-- What a first byte means tells its range. -/
theorem lead_cases (b : UInt8) :
    (lead b = .whole (Char.ofNat b.toNat) ∧ b.toNat < 0x80) ∨ lead b = .stray ∨
      ∃ p, lead b = .opens p ∧ p.Sound ∧ ((p.owed = 1 ∧ 0xC2 ≤ b.toNat ∧ b.toNat < 0xE0) ∨
        (p.owed = 2 ∧ 0xE0 ≤ b.toNat ∧ b.toNat < 0xF0) ∨ (p.owed = 3 ∧ 0xF0 ≤ b.toNat ∧ b.toNat < 0xF5)) := by
  unfold lead
  dsimp only
  split
  · exact Or.inl ⟨rfl, by assumption⟩
  split
  · exact Or.inr (Or.inl rfl)
  split
  · refine Or.inr (Or.inr ⟨_, rfl, ⟨Nat.le_refl _, Nat.le_refl _, Nat.le_refl _⟩, Or.inl ⟨rfl, ?_, ?_⟩⟩)
    · omega
    · omega
  split
  · refine Or.inr (Or.inr ⟨_, rfl, ⟨?_, ?_, Nat.le_succ 1⟩, Or.inr (Or.inl ⟨rfl, ?_, ?_⟩)⟩)
    · dsimp only
      split <;> decide
    · dsimp only
      split <;> decide
    · omega
    · omega
  split
  · refine Or.inr (Or.inr ⟨_, rfl, ⟨?_, ?_, Nat.le_add_left 1 2⟩, Or.inr (Or.inr ⟨rfl, ?_, ?_⟩)⟩)
    · dsimp only
      split <;> decide
    · dsimp only
      split <;> decide
    · omega
    · omega
  · exact Or.inr (Or.inl rfl)

theorem toNat_lt_of_lead {b : UInt8} {c : Char} (whole : lead b = .whole c) : b.toNat < 0x80 := by
  rcases lead_cases b with ⟨-, small⟩ | stray | ⟨p, opens, -⟩
  · exact small
  · rw [whole] at stray
    cases stray
  · rw [whole] at opens
    cases opens

/-- How many bytes a first byte calls for tells its range. -/
theorem sound_of_lead {b : UInt8} {p : Pending} (opens : lead b = .opens p) :
    p.Sound ∧ ((p.owed = 1 ∧ 0xC2 ≤ b.toNat ∧ b.toNat < 0xE0) ∨
      (p.owed = 2 ∧ 0xE0 ≤ b.toNat ∧ b.toNat < 0xF0) ∨ (p.owed = 3 ∧ 0xF0 ≤ b.toNat ∧ b.toNat < 0xF5)) := by
  rcases lead_cases b with ⟨whole, -⟩ | stray | ⟨q, opened, sound⟩
  · rw [opens] at whole
    cases whole
  · rw [opens] at stray
    cases stray
  · rw [opens] at opened
    cases opened
    exact sound

namespace Decoder

theorem done_suffix_first (done : List Char) (b : UInt8) : done <:+ (Decoder.first done b).done := by
  unfold Decoder.first
  split
  · exact List.suffix_cons _ _
  · exact List.suffix_refl _
  · exact List.suffix_cons _ _

theorem done_suffix_feed (d : Decoder) (b : UInt8) : d.done <:+ (d.feed b).done := by
  unfold feed
  split
  · exact done_suffix_first d.done b
  · split
    · dsimp only
      split
      · exact List.suffix_cons _ _
      · exact List.suffix_refl _
    · exact (List.suffix_cons _ _).trans (done_suffix_first _ b)

/-- Characters that have been read stay. -/
theorem done_suffix_feedAll (d : Decoder) (bytes : List UInt8) : d.done <:+ (d.feedAll bytes).done := by
  induction bytes generalizing d with
  | nil => exact List.suffix_refl _
  | cons b rest ih => exact (done_suffix_feed d b).trans (ih (d.feed b))

theorem done_prefix_finish (d : Decoder) (bytes : List UInt8) : d.done.reverse <+: (d.feedAll bytes).finish := by
  have kept := done_suffix_feedAll d bytes
  unfold finish
  split
  · exact List.reverse_prefix.2 kept
  · exact List.reverse_prefix.2 (kept.trans (List.suffix_cons _ _))

theorem feedAll_concat (d : Decoder) (bytes : List UInt8) (b : UInt8) :
    d.feedAll (bytes ++ [b]) = (d.feedAll bytes).feed b := feedAll_append d bytes [b]

theorem finish_first_ne_nil (done : List Char) (b : UInt8) : (Decoder.first done b).finish ≠ [] := by
  unfold Decoder.first
  cases lead b with
  | whole c => exact List.reverse_ne_nil_iff.2 (List.cons_ne_nil _ _)
  | opens p => exact List.reverse_ne_nil_iff.2 (List.cons_ne_nil _ _)
  | stray => exact List.reverse_ne_nil_iff.2 (List.cons_ne_nil _ _)

/-- Each byte leaves something to show, if only that a character is open. -/
theorem finish_feed_ne_nil (d : Decoder) (b : UInt8) : (d.feed b).finish ≠ [] := by
  unfold feed
  split
  · exact finish_first_ne_nil d.done b
  · split
    · dsimp only
      split
      · exact List.reverse_ne_nil_iff.2 (List.cons_ne_nil _ _)
      · exact List.reverse_ne_nil_iff.2 (List.cons_ne_nil _ _)
    · exact finish_first_ne_nil _ b

/-- A byte that does not continue the open character begins one, and the open one is shown as it is at the end. -/
theorem feed_of_not_isTail {d : Decoder} (sound : ∀ p, d.pending = some p → p.Sound) {b : UInt8}
    (begins : ¬IsTail b) : d.feed b = Decoder.first d.finish.reverse b := by
  unfold feed finish
  cases open_ : d.pending with
  | none => exact congrArg (Decoder.first · b) (List.reverse_reverse _).symm
  | some p =>
    have unfit : ¬(p.low ≤ b.toNat ∧ b.toNat ≤ p.high) := fun fits => begins ((sound p open_).isTail fits)
    dsimp only
    rw [if_neg unfit, List.reverse_reverse]

theorem pending_first {done : List Char} {b : UInt8} {p : Pending}
    (opened : (Decoder.first done b).pending = some p) : lead b = .opens p := by
  unfold Decoder.first at opened
  split at opened
  · nomatch opened
  · rename_i opens
    rw [opens]
    exact congrArg _ (Option.some.inj opened)
  · nomatch opened

/-- A character that is open after a byte was opened by it, or was open before and owes one byte less. -/
theorem pending_feed {d : Decoder} {b : UInt8} {p : Pending} (opened : (d.feed b).pending = some p) :
    lead b = .opens p ∨ ∃ before, d.pending = some before ∧ (before.low ≤ b.toNat ∧ b.toNat ≤ before.high) ∧
      before.owed = p.owed + 1 ∧ p.Sound := by
  unfold feed at opened
  split at opened
  · exact Or.inl (pending_first opened)
  · rename_i before was
    split at opened
    · rename_i fits
      dsimp only at opened
      split at opened
      · nomatch opened
      · cases opened
        refine Or.inr ⟨before, was, fits, ?_, Nat.le_refl _, Nat.le_refl _, ?_⟩
        · dsimp only
          omega
        · dsimp only
          omega
    · exact Or.inl (pending_first opened)

end Decoder

/-- Only the empty byte string shows no text. -/
theorem decodeList_eq_nil_iff {bytes : List UInt8} : decodeList bytes = [] ↔ bytes = [] := by
  constructor
  · intro nothing
    rcases List.eq_nil_or_concat bytes with empty | ⟨front, b, rfl⟩
    · exact empty
    · unfold decodeList at nothing
      rw [List.concat_eq_append, Decoder.feedAll_concat] at nothing
      exact absurd nothing (Decoder.finish_feed_ne_nil _ b)
  · rintro rfl
    rfl

/-- While a character is open, the last bytes are its first byte and fewer bytes inside it than are called for. -/
theorem exists_lead_of_pending {bytes : List UInt8} {p : Pending}
    (opened : (Decoder.feedAll {} bytes).pending = some p) :
    p.Sound ∧ ∃ before b tails start, bytes = before ++ b :: tails ∧ lead b = .opens start ∧
      (∀ t ∈ tails, IsTail t) ∧ start.owed = tails.length + p.owed := by
  induction bytes using List.reverseRecOn generalizing p with
  | nil => nomatch opened
  | append_singleton bytes b ih =>
    rw [Decoder.feedAll_concat] at opened
    rcases Decoder.pending_feed opened with opens | ⟨was, open_, fits, owed, sound⟩
    · exact ⟨(sound_of_lead opens).1, bytes, b, [], p, rfl, opens, by simp, (Nat.zero_add _).symm⟩
    · obtain ⟨sound', before, first, tails, start, split, opens, inside, count⟩ := ih open_
      refine ⟨sound, before, first, tails ++ [b], start, ?_, opens, ?_, ?_⟩
      · rw [split, List.append_assoc, List.cons_append]
      · intro t ht
        rcases List.mem_append.1 ht with ht | ht
        · exact inside t ht
        · rw [List.mem_singleton.1 ht]
          exact sound'.isTail fits
      · rw [List.length_append, List.length_singleton]
        omega

/-- The text of a start that ends between characters is the start of the text. -/
theorem decodeList_prefix_of_closed {front : List UInt8} (closed : (Decoder.feedAll {} front).pending = none)
    (rest : List UInt8) : decodeList front <+: decodeList (front ++ rest) := by
  have shown : decodeList front = (Decoder.feedAll {} front).done.reverse := by
    unfold decodeList Decoder.finish
    rw [closed]
  rw [shown, decodeList, Decoder.feedAll_append]
  exact Decoder.done_prefix_finish _ rest

/-- A start that is followed by a byte which begins a character shows the start of the text, also where a character
is left open. -/
theorem decodeList_prefix_of_not_isTail (front : List UInt8) {b : UInt8} (begins : ¬IsTail b)
    (rest : List UInt8) : decodeList front <+: decodeList (front ++ b :: rest) := by
  have sound : ∀ p, (Decoder.feedAll {} front).pending = some p → p.Sound :=
    fun p opened => (exists_lead_of_pending opened).1
  have next : (Decoder.feedAll {} (front ++ [b])) = Decoder.first (decodeList front).reverse b := by
    rw [Decoder.feedAll_concat]
    exact Decoder.feed_of_not_isTail sound begins
  have kept : decodeList front <+: (Decoder.first (decodeList front).reverse b).done.reverse := by
    have read := List.reverse_prefix.2 (Decoder.done_suffix_first (decodeList front).reverse b)
    rwa [List.reverse_reverse] at read
  have whole : decodeList (front ++ b :: rest) = ((Decoder.first (decodeList front).reverse b).feedAll rest).finish := by
    rw [← next, ← Decoder.feedAll_append, List.append_assoc]
    rfl
  rw [whole]
  exact kept.trans (Decoder.done_prefix_finish _ rest)

/-- The lowest `k` groups of six bits of a number, each in a byte inside a character. -/
def tails (n : Nat) : Nat → List UInt8
  | 0 => []
  | k + 1 => UInt8.ofNat (n / 64 ^ k % 64 + 128) :: tails n k

theorem length_tails (n k : Nat) : (tails n k).length = k := by
  induction k with
  | zero => rfl
  | succ k ih => exact congrArg (· + 1) ih

theorem toNat_byte {n : Nat} (small : n < 256) : (UInt8.ofNat n).toNat = n := UInt8.toNat_ofNat_of_lt' small

theorem toNat_tail (n : Nat) : (UInt8.ofNat (n % 64 + 128)).toNat = n % 64 + 128 := toNat_byte (by omega)

theorem isTail_of_mem_tails {n k : Nat} {t : UInt8} (inside : t ∈ tails n k) : IsTail t := by
  induction k with
  | zero => nomatch inside
  | succ k ih =>
    rcases List.mem_cons.1 inside with rfl | inside
    · unfold IsTail
      rw [toNat_tail]
      omega
    · exact ih inside

/-- An open character that lacks the lowest groups of a number takes the next one of them. -/
theorem Decoder.feed_tail (done : List Char) {n k : Nat} {p : Pending} (owed : p.owed = k + 1)
    (value : p.value = n / 64 ^ (k + 1)) (low : p.low ≤ n / 64 ^ k % 64 + 128)
    (high : n / 64 ^ k % 64 + 128 ≤ p.high) :
    Decoder.feed ⟨done, some p⟩ (UInt8.ofNat (n / 64 ^ k % 64 + 128)) =
      if k = 0 then ⟨Char.ofNat n :: done, none⟩ else ⟨done, some ⟨n / 64 ^ k, k, 0x80, 0xBF⟩⟩ := by
  have grown : p.value * 64 + (n / 64 ^ k % 64 + 128) % 64 = n / 64 ^ k := by
    rw [value, Nat.pow_succ, ← Nat.div_div_eq_div_mul]
    omega
  unfold Decoder.feed
  dsimp only
  rw [toNat_tail, if_pos ⟨low, high⟩, grown, owed]
  cases k with
  | zero =>
    rw [Nat.pow_zero, Nat.div_one]
    rfl
  | succ k =>
    rw [if_neg (by omega), if_neg (Nat.succ_ne_zero k)]
    rfl

/-- An open character that lacks the lowest groups of a number reads all of them as the rest of it. -/
theorem Decoder.feedAll_tails (done : List Char) {n k : Nat} {p : Pending} (owed : p.owed = k + 1)
    (value : p.value = n / 64 ^ (k + 1)) (low : p.low ≤ n / 64 ^ k % 64 + 128)
    (high : n / 64 ^ k % 64 + 128 ≤ p.high) :
    Decoder.feedAll ⟨done, some p⟩ (tails n (k + 1)) = ⟨Char.ofNat n :: done, none⟩ := by
  induction k generalizing p with
  | zero => exact Decoder.feed_tail done owed value low high
  | succ k ih =>
    show Decoder.feedAll (Decoder.feed ⟨done, some p⟩ _) (tails n (k + 1)) = _
    rw [Decoder.feed_tail done owed value low high, if_neg (Nat.succ_ne_zero k)]
    refine ih rfl rfl ?_ ?_
    · dsimp only
      omega
    · dsimp only
      omega

/-- The first byte of a character of two, three or four bytes. -/
theorem lead_two {n : Nat} (low : 2 ≤ n) (high : n < 32) :
    lead (UInt8.ofNat (n + 192)) = .opens ⟨n, 1, 0x80, 0xBF⟩ := by
  unfold lead
  rw [toNat_byte (by omega)]
  dsimp only
  rw [if_neg (by omega), if_neg (by omega), if_pos (by omega), Nat.add_sub_cancel]

theorem lead_three {n : Nat} (high : n < 16) :
    lead (UInt8.ofNat (n + 224)) = .opens ⟨n, 2, if n = 0 then 0xA0 else 0x80, if n = 13 then 0x9F else 0xBF⟩ := by
  unfold lead
  rw [toNat_byte (by omega)]
  dsimp only
  rw [if_neg (by omega), if_neg (by omega), if_neg (by omega), if_pos (by omega), Nat.add_sub_cancel]
  simp

theorem lead_four {n : Nat} (high : n < 5) :
    lead (UInt8.ofNat (n + 240)) = .opens ⟨n, 3, if n = 0 then 0x90 else 0x80, if n = 4 then 0x8F else 0xBF⟩ := by
  unfold lead
  rw [toNat_byte (by omega)]
  dsimp only
  rw [if_neg (by omega), if_neg (by omega), if_neg (by omega), if_neg (by omega), if_pos (by omega),
    Nat.add_sub_cancel]
  simp

/-- The bytes of a character are a first byte and as many bytes inside it as that one calls for. -/
theorem utf8EncodeChar_cases (c : Char) :
    (∃ b, String.utf8EncodeChar c = [b] ∧ lead b = .whole c) ∨
      ∃ b k p, String.utf8EncodeChar c = b :: tails c.toNat (k + 1) ∧ lead b = .opens p ∧ p.owed = k + 1 ∧
        ∀ done, Decoder.feedAll ⟨done, some p⟩ (tails c.toNat (k + 1)) = ⟨c :: done, none⟩ := by
  have valid : c.toNat < 0xD800 ∨ (0xDFFF < c.toNat ∧ c.toNat < 0x110000) := c.valid
  obtain ⟨n, code⟩ : ∃ n, n = c.toNat := ⟨_, rfl⟩
  have same : c = Char.ofNat n := by rw [code, Char.ofNat_toNat]
  have bytes : String.utf8EncodeChar c =
      if n ≤ 127 then [UInt8.ofNat n]
      else if n ≤ 2047 then UInt8.ofNat (n / 64 % 32 + 192) :: tails n 1
      else if n ≤ 65535 then UInt8.ofNat (n / 4096 % 16 + 224) :: tails n 2
      else UInt8.ofNat (n / 262144 % 8 + 240) :: tails n 3 := by
    rw [code]
    simp only [tails, Nat.pow_zero, Nat.div_one]
    rfl
  rw [← code] at valid ⊢
  rw [bytes]
  by_cases one : n ≤ 127
  · refine Or.inl ⟨UInt8.ofNat n, if_pos one, ?_⟩
    unfold lead
    rw [toNat_byte (by omega), same]
    exact if_pos (by omega)
  refine Or.inr ?_
  rw [if_neg one]
  by_cases two : n ≤ 2047
  · have first : n / 64 % 32 = n / 64 := by omega
    rw [if_pos two, first]
    refine ⟨_, 0, _, rfl, lead_two (by omega) (by omega), rfl, fun done => ?_⟩
    rw [same]
    refine Decoder.feedAll_tails done rfl rfl ?_ ?_
    · dsimp only
      omega
    · dsimp only
      omega
  rw [if_neg two]
  by_cases three : n ≤ 65535
  · have first : n / 4096 % 16 = n / 4096 := by omega
    rw [if_pos three, first]
    refine ⟨_, 1, _, rfl, lead_three (by omega), rfl, fun done => ?_⟩
    rw [same]
    refine Decoder.feedAll_tails done rfl rfl ?_ ?_
    · dsimp only
      split <;> omega
    · dsimp only
      split <;> omega
  · have first : n / 262144 % 8 = n / 262144 := by omega
    rw [if_neg three, first]
    refine ⟨_, 2, _, rfl, lead_four (by omega), rfl, fun done => ?_⟩
    rw [same]
    refine Decoder.feedAll_tails done rfl rfl ?_ ?_
    · dsimp only
      split <;> omega
    · dsimp only
      split <;> omega

theorem Decoder.feedAll_utf8EncodeChar (done : List Char) (c : Char) :
    Decoder.feedAll ⟨done, none⟩ (String.utf8EncodeChar c) = ⟨c :: done, none⟩ := by
  rcases utf8EncodeChar_cases c with ⟨b, bytes, whole⟩ | ⟨b, k, p, bytes, opens, -, reads⟩
  · have read : Decoder.first done b = ⟨c :: done, none⟩ := by
      unfold Decoder.first
      rw [whole]
    rw [bytes]
    exact read
  · have opened : Decoder.first done b = ⟨done, some p⟩ := by
      unfold Decoder.first
      rw [opens]
    rw [bytes]
    show Decoder.feedAll (Decoder.first done b) _ = _
    rw [opened]
    exact reads done

/-- The bytes of some characters. -/
def bytesOf (cs : List Char) : List UInt8 := cs.flatMap String.utf8EncodeChar

theorem bytesOf_cons (c : Char) (cs : List Char) : bytesOf (c :: cs) = String.utf8EncodeChar c ++ bytesOf cs :=
  List.flatMap_cons

theorem bytesOf_append (a b : List Char) : bytesOf (a ++ b) = bytesOf a ++ bytesOf b := List.flatMap_append

theorem length_bytesOf (cs : List Char) : (bytesOf cs).length = (String.ofList cs).utf8ByteSize := by
  induction cs with
  | nil => rfl
  | cons c rest ih =>
    rw [bytesOf_cons, List.length_append, String.length_utf8EncodeChar, ih, String.ofList_cons,
      String.utf8ByteSize_append, String.utf8ByteSize_singleton]

theorem Decoder.feedAll_bytesOf (done cs : List Char) :
    Decoder.feedAll ⟨done, none⟩ (bytesOf cs) = ⟨cs.reverse ++ done, none⟩ := by
  induction cs generalizing done with
  | nil => rfl
  | cons c rest ih =>
    rw [bytesOf_cons, Decoder.feedAll_append, Decoder.feedAll_utf8EncodeChar, ih, List.reverse_cons,
      List.append_assoc]
    rfl

/-- The bytes of a text are read as that text. -/
theorem decodeList_bytesOf (cs : List Char) : decodeList (bytesOf cs) = cs := by
  unfold decodeList
  rw [Decoder.feedAll_bytesOf, List.append_nil]
  exact List.reverse_reverse cs

/-- A text has a longest start that fits in a number of bytes: the next character does not fit any more. -/
theorem exists_fitting (limit : Nat) (cs : List Char) :
    ∃ fit rest, cs = fit ++ rest ∧ (bytesOf fit).length ≤ limit ∧
      ∀ c more, rest = c :: more → limit < (bytesOf fit).length + (String.utf8EncodeChar c).length := by
  induction cs generalizing limit with
  | nil => exact ⟨[], [], rfl, Nat.zero_le _, fun c more there => nomatch there⟩
  | cons c cs ih =>
    by_cases fits : (String.utf8EncodeChar c).length ≤ limit
    · obtain ⟨fit, rest, split, small, full⟩ := ih (limit - (String.utf8EncodeChar c).length)
      refine ⟨c :: fit, rest, congrArg _ split, ?_, fun d more there => ?_⟩
      · rw [bytesOf_cons, List.length_append]
        omega
      · have exceeds := full d more there
        rw [bytesOf_cons, List.length_append]
        omega
    · refine ⟨[], c :: cs, rfl, Nat.zero_le _, fun d more there => ?_⟩
      cases there
      have none : (bytesOf []).length = 0 := rfl
      omega

theorem prefix_of_fitting {limit : Nat} {fit rest : List Char}
    (full : ∀ c more, rest = c :: more → limit < (bytesOf fit).length + (String.utf8EncodeChar c).length)
    {other : List Char} (start : other <+: fit ++ rest) (small : (bytesOf other).length ≤ limit) :
    other <+: fit := by
  rcases List.prefix_or_prefix_of_prefix start (List.prefix_append fit rest) with shorter | ⟨more, longer⟩
  · exact shorter
  · cases more with
    | nil =>
      rw [List.append_nil] at longer
      exact longer ▸ List.prefix_refl fit
    | cons c more =>
      obtain ⟨behind, whole⟩ := start
      rw [← longer, List.append_assoc] at whole
      have exceeds := full c (more ++ behind) (List.append_cancel_left whole).symm
      rw [← longer, bytesOf_append, bytesOf_cons, List.length_append, List.length_append] at small
      omega

end CallTelemetry.Text.Utf8
