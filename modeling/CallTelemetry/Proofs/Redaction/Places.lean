import CallTelemetry.Proofs.Redaction.Blind

/-!
# The places of a format

A format is cut at its first place, then what is behind it at its first place, and so on until there is none left
(`Cut`). Every format can be cut in exactly one way (`exists_cut`, `Cut.unique`), which the value has no part in. To
redact a value is to put it between the pieces (`fill_of_cut`), so what stands in the value is never taken for a place,
and a format hides its value exactly if it has no place (`formatting_ignoresValue_iff`).
-/

namespace CallTelemetry.Redactor

/-- The place behind `before` is the first one of the text. -/
def IsFirst (before rest : List Char) : Prop :=
  ∀ b r, before ++ place ++ rest = b ++ place ++ r → before.length ≤ b.length

/-- The pieces of a format, cut at its places from left to right. -/
inductive Cut : List Char → List (List Char) → Prop where
  | whole {text : List Char} (none : ¬ place <:+: text) : Cut text [text]
  | place {before rest : List Char} {pieces : List (List Char)} (first : IsFirst before rest) (behind : Cut rest pieces) :
    Cut (before ++ Redactor.place ++ rest) (before :: pieces)

theorem isFirst_nil (rest : List Char) : IsFirst [] rest := fun b _ _ => Nat.zero_le b.length

theorem isFirst_cons_iff {c : Char} {before rest : List Char} :
    IsFirst (c :: before) rest ↔ ¬ place <+: c :: (before ++ place ++ rest) ∧ IsFirst before rest := by
  constructor
  · intro first
    refine ⟨?_, fun b r same => ?_⟩
    · rintro ⟨r, same⟩
      exact absurd (first [] r same.symm) (Nat.not_succ_le_zero _)
    · exact Nat.le_of_succ_le_succ (first (c :: b) r (congrArg (c :: ·) same))
  · rintro ⟨none, first⟩ b r same
    cases b with
    | nil => exact absurd ⟨r, same.symm⟩ none
    | cons d b => exact Nat.succ_le_succ (first b r (List.cons.inj same).2)

/-- A character in front goes to the first piece, unless a place begins with it. -/
theorem Cut.cons {c : Char} {rest piece : List Char} {pieces : List (List Char)} (cut : Cut rest (piece :: pieces))
    (none : ¬ Redactor.place <+: c :: rest) : Cut (c :: rest) ((c :: piece) :: pieces) := by
  cases cut with
  | whole nowhere => exact .whole fun there => (List.infix_cons_iff.1 there).elim none nowhere
  | place first behind => exact .place (isFirst_cons_iff.2 ⟨none, first⟩) behind

theorem exists_cut (text : List Char) : ∃ piece pieces, Cut text (piece :: pieces) := by
  fun_induction fill [] text with
  | case1 => exact ⟨[], [], .whole (by decide)⟩
  | case2 rest ih =>
    obtain ⟨piece, pieces, cut⟩ := ih
    exact ⟨[], piece :: pieces, .place (isFirst_nil rest) cut⟩
  | case3 c rest other ih =>
    obtain ⟨piece, pieces, cut⟩ := ih
    refine ⟨c :: piece, pieces, cut.cons ?_⟩
    rintro ⟨behind, same⟩
    obtain ⟨rfl, rfl⟩ := List.cons.inj same
    exact other behind rfl rfl

/-- No format can be cut in two ways. -/
theorem Cut.unique {text : List Char} {pieces others : List (List Char)} (cut : Cut text pieces)
    (cut' : Cut text others) : pieces = others := by
  induction cut generalizing others with
  | whole none =>
    cases cut' with
    | whole => rfl
    | @place before rest => exact absurd ⟨before, rest, rfl⟩ none
  | @place before rest pieces first _ ih =>
    generalize same : before ++ Redactor.place ++ rest = text at cut'
    cases cut' with
    | whole none => exact absurd ⟨before, rest, same⟩ none
    | @place before' rest' pieces' first' behind' =>
      have lengths := Nat.le_antisymm (first before' rest' same) (first' before rest same.symm)
      obtain ⟨front, rfl⟩ := List.append_inj same (by rw [List.length_append, List.length_append, lengths])
      rw [List.append_cancel_right front, ih behind']

theorem fill_of_isFirst {before rest : List Char} (first : IsFirst before rest) (value : List Char) :
    fill value (before ++ place ++ rest) = before ++ value ++ fill value rest := by
  induction before with
  | nil => rfl
  | cons c before ih =>
    obtain ⟨none, first⟩ := isFirst_cons_iff.1 first
    show fill value (c :: (before ++ place ++ rest)) = c :: (before ++ value ++ fill value rest)
    rw [fill_cons_of_no_place none, ih first]

/-- A value is put between the pieces of a format. -/
theorem fill_of_cut {text : List Char} {pieces : List (List Char)} (cut : Cut text pieces) (value : List Char) :
    fill value text = value.intercalate pieces := by
  induction cut with
  | whole none => rw [fill_of_no_place none, List.intercalate_singleton]
  | place first behind ih =>
    rw [fill_of_isFirst first, ih]
    cases behind <;> rw [List.intercalate_cons_cons]

theorem length_fill_nil_le (value text : List Char) : (fill [] text).length ≤ (fill value text).length := by
  fun_induction fill value text with
  | case1 => exact Nat.le_refl 0
  | case2 rest ih =>
    rw [List.length_append]
    exact Nat.le_add_left_of_le ih
  | case3 c rest other ih =>
    rw [fill.eq_3 [] c rest other]
    exact Nat.succ_le_succ ih

/-- A format hides its value if it has no place for it, and only then. -/
theorem formatting_ignoresValue_iff {format : String} :
    (formatting format).IgnoresValue ↔ ¬ place <:+: format.toList := by
  refine ⟨fun ignores there => ?_, formatting_ignoresValue⟩
  have same : fill "".toList format.toList = fill "x".toList format.toList :=
    String.ofList_injective (ignores Classification.unknown "" "x").1
  obtain ⟨piece, pieces, cut⟩ := exists_cut format.toList
  generalize format.toList = text at there same cut
  cases cut with
  | whole none => exact none there
  | @place _ rest _ first _ =>
    rw [fill_of_isFirst first, fill_of_isFirst first, List.append_assoc, List.append_assoc] at same
    have lengths := congrArg List.length (List.append_cancel_left same)
    have longer := length_fill_nil_le "x".toList rest
    change (fill [] rest).length = (fill "x".toList rest).length + 1 at lengths
    omega

/-- What is written for a value behind a text: the value as it is if its label reads `none`, and otherwise what it is
redacted to. -/
theorem apply_eq {r : Redactor} (appends : r.Appends) (c : Classification) (value out : String) :
    r.apply c value out = out ++ if Text.lower c.label = "none" then value else r.redact c value := by
  have safe : c.isSafe = true ↔ Text.lower c.label = "none" := Text.eqIgnoreCase_iff
  by_cases h : c.isSafe = true
  · rw [apply_of_isSafe h, if_pos (safe.1 h)]
  · rw [apply_of_not_isSafe (Bool.eq_false_iff.2 h), if_neg (mt safe.2 h), appends]

/-- A format is its pieces with the value between them, and the erasing redactor shows nothing. Both append what they
show, unless the label lets the value through. -/
theorem shows_value_between_pieces :
    (∀ format : String, ∃ pieces : List String,
      (∀ others : List String, Cut format.toList (others.map String.toList) ↔ others = pieces) ∧
        ∀ c value, (formatting format).redact c value = value.intercalate pieces) ∧
      (∀ c value, erasing.redact c value = "") ∧
      (∀ (format? : Option String) (c : Classification) (value out : String),
        let r := format?.elim erasing formatting
        r.redactInto c value out = out ++ r.redact c value ∧
          r.apply c value out = out ++ if Text.lower c.label = "none" then value else r.redact c value) ∧
      ∀ format : String, (formatting format).IgnoresValue ↔ ¬ place <:+: format.toList := by
  refine ⟨fun format => ?_, fun _ _ => rfl, fun format? => ?_, fun _ => formatting_ignoresValue_iff⟩
  · obtain ⟨piece, pieces, cut⟩ := exists_cut format.toList
    have spelled : ((piece :: pieces).map String.ofList).map String.toList = piece :: pieces := by
      rw [List.map_map, String.toList_comp_ofList, List.map_id]
    refine ⟨(piece :: pieces).map String.ofList, fun others => ⟨fun cut' => ?_, ?_⟩, fun c value => ?_⟩
    · have same : others.map String.toList = piece :: pieces := cut'.unique cut
      rw [← same, List.map_map, String.ofList_comp_toList, List.map_id]
    · rintro rfl
      rw [spelled]
      exact cut
    · rw [← String.toList_inj, String.toList_intercalate, spelled, ← fill_of_cut cut]
      exact String.toList_ofList
  · have appends : (format?.elim erasing formatting).Appends := by
      cases format? with
      | none => exact erasing_appends
      | some format => exact formatting_appends format
    exact fun c value out => ⟨appends c value out, apply_eq appends c value out⟩

/-- A value that looks like a place stays as it is. -/
example : (formatting "\x7b0\x7b0\x7d\x7d").redact .unknown "\x7b0\x7d" = "\x7b0\x7b0\x7d\x7d" := by decide

end CallTelemetry.Redactor
