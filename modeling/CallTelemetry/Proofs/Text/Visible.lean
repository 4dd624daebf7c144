import CallTelemetry.Http.Header
import CallTelemetry.Proofs.Text.Utf8

/-!
# Header values in ASCII

A character of ASCII is written as one byte, which is its number (`bytesOf_of_isAscii`), so a header value in visible
ASCII shows the text whose UTF-8 bytes it holds (`visible?_eq_some_iff`). No header value holds a control
character but the tab, so it is enough that the characters of that text are in ASCII.
-/

namespace CallTelemetry

/-- The text has characters of ASCII only. -/
def Text.IsAscii (s : String) : Prop := ∀ c ∈ s.toList, c.toNat < 128

-- only the characters of the text are looked at, not all that there are
instance (s : String) : Decidable (Text.IsAscii s) :=
  List.decidableBAll (fun c : Char => c.toNat < 128) s.toList

/-- The value is the UTF-8 of a text. -/
def HeaderValue.Shows (v : HeaderValue) (text : String) : Prop := v.bytes = Text.Utf8.encode text

instance (v : HeaderValue) (text : String) : Decidable (v.Shows text) :=
  inferInstanceAs (Decidable (v.bytes = Text.Utf8.encode text))

namespace Text.Utf8

theorem utf8EncodeChar_of_lt {c : Char} (small : c.toNat < 128) : String.utf8EncodeChar c = [UInt8.ofNat c.toNat] := by
  have size : c.utf8Size = 1 := by
    rw [Char.utf8Size_eq_one_iff, UInt32.le_iff_toNat_le]
    exact Nat.le_of_lt_succ small
  rw [String.utf8EncodeChar_eq_singleton size]
  rfl

theorem bytesOf_of_isAscii {cs : List Char} (ascii : ∀ c ∈ cs, c.toNat < 128) :
    bytesOf cs = cs.map fun c => UInt8.ofNat c.toNat := by
  induction cs with
  | nil => rfl
  | cons c rest ih =>
    rw [List.forall_mem_cons] at ascii
    rw [bytesOf_cons, utf8EncodeChar_of_lt ascii.1, ih ascii.2]
    rfl

theorem encode_injective {a b : String} (same : encode a = encode b) : a = b := by
  have read := congrArg decodeList same
  rwa [encode, encode, ← bytesOf, ← bytesOf, decodeList_bytesOf, decodeList_bytesOf, String.toList_inj] at read

theorem decode_encode (s : String) : decode (encode s) = s := by
  show String.ofList (decodeList (bytesOf s.toList)) = s
  rw [decodeList_bytesOf, String.ofList_toList]

end Text.Utf8

theorem toNat_lt_of_isVisibleByte {b : UInt8} (visible : isVisibleByte b = true) : b.toNat < 128 := by
  unfold isVisibleByte at visible
  simp only [Bool.or_eq_true, Bool.and_eq_true, decide_eq_true_iff, UInt8.lt_iff_toNat_lt] at visible
  rcases visible with rfl | ⟨-, high⟩
  · decide
  · exact Nat.lt_trans high (by decide)

theorem isVisibleByte_of_isValueByte {b : UInt8} (legal : isValueByte b = true) (small : b.toNat < 128) :
    isVisibleByte b = true := by
  have each : ∀ n < 128, isValueByte (UInt8.ofNat n) = true → isVisibleByte (UInt8.ofNat n) = true := by decide
  have here := each b.toNat small
  rw [UInt8.ofNat_toNat] at here
  exact here legal

/-- A byte of ASCII is the number of the character that it stands for. -/
theorem toNat_ofNat_toNat {b : UInt8} (small : b.toNat < 128) : (Char.ofNat b.toNat).toNat = b.toNat := by
  have valid : b.toNat.isValidChar := Or.inl (by omega)
  rw [Char.ofNat, dif_pos valid]
  rfl

theorem Text.Utf8.bytesOf_map_ofNat {bytes : List UInt8} (small : ∀ b ∈ bytes, b.toNat < 128) :
    bytesOf (bytes.map fun b => Char.ofNat b.toNat) = bytes := by
  have ascii : ∀ c ∈ bytes.map fun b => Char.ofNat b.toNat, c.toNat < 128 := by
    intro c there
    obtain ⟨b, among, rfl⟩ := List.mem_map.1 there
    rw [toNat_ofNat_toNat (small b among)]
    exact small b among
  rw [bytesOf_of_isAscii ascii, List.map_map, List.map_congr_left, List.map_id]
  intro b among
  rw [Function.comp_apply, toNat_ofNat_toNat (small b among), UInt8.ofNat_toNat]
  rfl

/-- A text whose bytes are all of ASCII is read off them. -/
theorem Text.Utf8.map_ofNat_encode {s : String} (small : ∀ b ∈ encode s, b.toNat < 128) :
    ((encode s).map fun b => Char.ofNat b.toNat) = s.toList := by
  have same : encode (String.ofList ((encode s).map fun b => Char.ofNat b.toNat)) = encode s := by
    rw [encode, String.toList_ofList]
    exact bytesOf_map_ofNat small
  have read := congrArg String.toList (encode_injective same)
  rwa [String.toList_ofList] at read

namespace HeaderValue

variable {v : HeaderValue} {text : String}

theorem exists_visible?_iff : (∃ text, v.visible? = some text) ↔ v.bytes.all isVisibleByte = true := by
  unfold visible?
  constructor
  · rintro ⟨text, found⟩
    split at found
    next visible => exact visible
    next => cases found
  · intro visible
    exact ⟨_, if_pos visible⟩

/-- What is read as visible text are the bytes, each for itself. -/
theorem toList_of_visible? (found : v.visible? = some text) :
    (∀ b ∈ v.bytes, b.toNat < 128) ∧ text.toList = v.bytes.map fun b => Char.ofNat b.toNat := by
  have visible := exists_visible?_iff.1 ⟨text, found⟩
  rw [visible?, if_pos visible, Option.some.injEq] at found
  rw [← found, String.toList_ofList]
  exact ⟨fun b there => toNat_lt_of_isVisibleByte (List.all_eq_true.1 visible b there), rfl⟩

/-- A value is read as visible text if it shows a text in ASCII, and then as that text. -/
theorem visible?_eq_some_iff : v.visible? = some text ↔ v.Shows text ∧ Text.IsAscii text := by
  constructor
  · intro found
    obtain ⟨small, read⟩ := toList_of_visible? found
    constructor
    · rw [Shows, Text.Utf8.encode, read]
      exact (Text.Utf8.bytesOf_map_ofNat small).symm
    · intro c there
      rw [read] at there
      obtain ⟨b, among, rfl⟩ := List.mem_map.1 there
      rw [toNat_ofNat_toNat (small b among)]
      exact small b among
  · rintro ⟨shows, ascii⟩
    have bytes : v.bytes = text.toList.map fun c => UInt8.ofNat c.toNat :=
      shows.trans (Text.Utf8.bytesOf_of_isAscii ascii)
    have small : ∀ b ∈ v.bytes, b.toNat < 128 := by
      intro b there
      rw [bytes] at there
      obtain ⟨c, among, rfl⟩ := List.mem_map.1 there
      rw [Text.Utf8.toNat_byte (Nat.lt_trans (ascii c among) (by decide))]
      exact ascii c among
    have visible : v.bytes.all isVisibleByte = true := by
      rw [List.all_eq_true]
      exact fun b there => isVisibleByte_of_isValueByte (List.all_eq_true.1 v.legal b there) (small b there)
    obtain ⟨other, found⟩ := exists_visible?_iff.2 visible
    have shown : other.toList = text.toList := by
      rw [(toList_of_visible? found).2, ← Text.Utf8.map_ofNat_encode (shows ▸ small), shows]
    rw [found, String.toList_inj.1 shown]

theorem visible?_eq_none_iff : v.visible? = none ↔ ¬ ∃ text, v.Shows text ∧ Text.IsAscii text := by
  simp only [← visible?_eq_some_iff, ← Option.isSome_iff_exists, Bool.not_eq_true, Option.isSome_eq_false_iff,
    Option.isNone_iff_eq_none]

/-- What a value shows is also its lossy reading. -/
theorem lossy_eq_of_shows (shows : v.Shows text) : v.lossy = text := by
  rw [lossy, shows]
  exact Text.Utf8.decode_encode text

end HeaderValue

end CallTelemetry
