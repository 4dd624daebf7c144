import CallTelemetry.Text.Ascii
import CallTelemetry.Text.Blank
import Mathlib.Data.List.DropRight

/-!
# Trimmed and folded texts

Folding changes letters into letters, and no letter is blank. So it makes no difference whether a text is folded or
trimmed first (`lower_trim`), and no sign comes or goes on the way: not with folding (`mem_lower_iff`), and with
trimming not unless it is blank (`mem_trim_iff`). Blanks around a text are no matter for its trimmed form
(`trimList_of_blanks`).
-/

namespace CallTelemetry.Text

/-- A letter is folded into a letter, any other character stays. -/
theorem toLower_eq_self_or (c : Char) : c.toLower = c ∨ c.isAlpha = true ∧ c.toLower.isAlpha = true := by
  cases capital : c.isUpper with
  | false => exact Or.inl (dif_neg (of_decide_eq_false capital))
  | true =>
    have letters : ∀ n < 91, 65 ≤ n → (Char.ofNat n).isAlpha = true ∧ (Char.ofNat n).toLower.isAlpha = true := by decide
    obtain ⟨low, high⟩ := of_decide_eq_true capital
    rw [← Char.ofNat_toNat c]
    exact Or.inr (letters c.toNat (Nat.lt_succ_of_le high) low)

/-- What folds into a sign is the sign. -/
theorem toLower_eq_iff {c sign : Char} (noLetter : sign.isAlpha = false) : c.toLower = sign ↔ c = sign := by
  constructor
  · rintro rfl
    rcases toLower_eq_self_or c with same | ⟨-, letter⟩
    · exact same.symm
    · rw [noLetter] at letter
      cases letter
  · rintro rfl
    rcases toLower_eq_self_or c with same | ⟨letter, -⟩
    · exact same
    · rw [noLetter] at letter
      cases letter

theorem mem_map_toLower_iff {cs : List Char} {sign : Char} (noLetter : sign.isAlpha = false) :
    sign ∈ cs.map Char.toLower ↔ sign ∈ cs := by
  simp only [List.mem_map, toLower_eq_iff noLetter, exists_eq_right]

theorem mem_lower_iff {s : String} {sign : Char} (noLetter : sign.isAlpha = false) :
    sign ∈ (lower s).toList ↔ sign ∈ s.toList := by
  rw [toList_lower, mem_map_toLower_iff noLetter]

theorem isBlank_of_isAlpha {c : Char} (letter : c.isAlpha = true) : isBlank c = false := by
  have letters : ∀ n < 123, (Char.ofNat n).isAlpha = true → isBlank (Char.ofNat n) = false := by decide
  have small : c.toNat < 123 := by
    rcases Bool.or_eq_true_iff.1 letter with capital | lowercase
    · obtain ⟨-, high⟩ := of_decide_eq_true capital
      exact Nat.lt_of_le_of_lt (UInt32.le_iff_toNat_le.1 high) (by decide)
    · obtain ⟨-, high⟩ := Bool.and_eq_true_iff.1 lowercase
      exact Nat.lt_of_le_of_lt (UInt32.le_iff_toNat_le.1 (of_decide_eq_true high)) (by decide)
  have here := letters c.toNat small
  rw [Char.ofNat_toNat] at here
  exact here letter

theorem isBlank_toLower (c : Char) : isBlank c.toLower = isBlank c := by
  rcases toLower_eq_self_or c with same | ⟨letter, folded⟩
  · rw [same]
  · rw [isBlank_of_isAlpha letter, isBlank_of_isAlpha folded]

theorem trimList_map_toLower (cs : List Char) : trimList (cs.map Char.toLower) = (trimList cs).map Char.toLower := by
  have dropped : ∀ l : List Char, (l.map Char.toLower).dropWhile isBlank = (l.dropWhile isBlank).map Char.toLower := by
    intro l
    rw [List.dropWhile_map]
    exact congrArg (fun p => (l.dropWhile p).map Char.toLower) (funext isBlank_toLower)
  rw [trimList, dropped, ← List.map_reverse, dropped, ← List.map_reverse]
  rfl

theorem lower_trim (s : String) : lower (trim s) = trim (lower s) := by
  rw [← String.toList_inj, toList_lower, toList_trim, toList_trim, toList_lower, trimList_map_toLower]

theorem trimList_of_blanks {before cs behind : List Char} (first : ∀ c ∈ before, isBlank c = true)
    (last : ∀ c ∈ behind, isBlank c = true) : trimList (before ++ cs ++ behind) = trimList cs := by
  have reversed : ∀ c ∈ behind.reverse, isBlank c = true := fun c there => last c (List.mem_reverse.1 there)
  have allBlank : behind.dropWhile isBlank = [] := List.dropWhile_eq_nil_iff.2 last
  unfold trimList
  rw [List.append_assoc, List.dropWhile_append_of_pos first, List.dropWhile_append]
  split
  next empty => rw [allBlank, List.isEmpty_iff.1 empty]
  next => rw [List.reverse_append, List.dropWhile_append_of_pos reversed]

theorem trimList_subset (cs : List Char) : trimList cs ⊆ cs := by
  have start : trimList cs <+: cs.dropWhile isBlank := List.rdropWhile_prefix isBlank (cs.dropWhile isBlank)
  exact List.Subset.trans start.subset (List.dropWhile_suffix isBlank).subset

theorem mem_trimList_iff {cs : List Char} {c : Char} (solid : isBlank c = false) : c ∈ trimList cs ↔ c ∈ cs := by
  have stays : ∀ {l : List Char}, c ∈ l → c ∈ l.dropWhile isBlank := by
    intro l there
    rw [← List.takeWhile_append_dropWhile (p := isBlank) (l := l), List.mem_append] at there
    rcases there with blank | kept
    · rw [List.mem_takeWhile_imp blank] at solid
      cases solid
    · exact kept
  constructor
  · exact fun kept => trimList_subset cs kept
  · intro there
    exact List.mem_reverse.2 (stays (List.mem_reverse.2 (stays there)))

theorem mem_trim_iff {s : String} {c : Char} (solid : isBlank c = false) : c ∈ (trim s).toList ↔ c ∈ s.toList := by
  rw [toList_trim, mem_trimList_iff solid]

end CallTelemetry.Text
