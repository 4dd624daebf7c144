import CallTelemetry.Proofs.Route.Printing

/-!
# The braces of accepted templates

A template is accepted if its braces are well placed and each parameter has a name. What a brace does depends on
whether one stands open before it (`LeavesOpen`): behind an open one an opening brace is an ordinary character, and
only a closing brace ends the parameter. So the texts that are accepted are the bracketed ones (`exists_scan_iff`),
and those in which no brace opens behind an open one are the well-bracketed ones (`wellBracketed_iff`). In an accepted
template the braces are as many of both kinds just if it is well-bracketed (`accepts_iff_bracketed`).
-/

namespace CallTelemetry.Route

/-- The name in the text of a parameter: behind one or two stars, up to the first `:`, `=` or `?`. -/
def Parameter.nameText (inner : List Char) : List Char := (splitStar inner).2.takeWhile (!endsName ·)

/-- An opening brace of the text is not closed in it. -/
def LeavesOpen (cs : List Char) : Prop := ∃ before inner, cs = before ++ '\x7b' :: inner ∧ '\x7d' ∉ inner

/-- Every brace that opens is closed before another one opens, none closes that was not opened, and what stands
between the two has a name. -/
structure WellBracketed (cs : List Char) : Prop where
  closed : ∀ before after, cs = before ++ '\x7b' :: after →
    ∃ inner later, after = inner ++ '\x7d' :: later ∧ '\x7b' ∉ inner
  opened : ∀ before after, cs = before ++ '\x7d' :: after → LeavesOpen before
  named : ∀ before inner after, cs = before ++ '\x7b' :: (inner ++ '\x7d' :: after) → '\x7b' ∉ inner →
    '\x7d' ∉ inner → Parameter.nameText inner ≠ []

/-- As `WellBracketed`, but a brace that opens behind an open one does not count. -/
structure Bracketed (cs : List Char) : Prop where
  closed : ¬ LeavesOpen cs
  opened : ∀ before after, cs = before ++ '\x7d' :: after → LeavesOpen before
  named : ∀ before inner after, cs = before ++ '\x7b' :: (inner ++ '\x7d' :: after) → ¬ LeavesOpen before →
    '\x7d' ∉ inner → Parameter.nameText inner ≠ []

/-- A brace of the text opens behind an open one. -/
def Reopens (cs : List Char) : Prop := ∃ before after, cs = before ++ '\x7b' :: after ∧ LeavesOpen before

/-- A character of a text of two parts stands in one of them. -/
theorem append_eq_append_cons_iff {a b before after : List Char} {c : Char} :
    a ++ b = before ++ c :: after ↔
      (∃ m, a = before ++ c :: m ∧ after = m ++ b) ∨ ∃ m, before = a ++ m ∧ b = m ++ c :: after := by
  constructor
  · intro split
    rcases List.append_eq_append_iff.1 split with ⟨m, first, second⟩ | ⟨m, first, second⟩
    · exact Or.inr ⟨m, first, second⟩
    · cases m with
      | nil =>
        rw [List.append_nil] at first
        exact Or.inr ⟨[], first ▸ (List.append_nil before).symm, second.symm⟩
      | cons d m =>
        obtain ⟨rfl, rfl⟩ := List.cons.inj second
        exact Or.inl ⟨m, first, rfl⟩
  · rintro (⟨m, rfl, rfl⟩ | ⟨m, rfl, rfl⟩)
    · rw [List.append_assoc, List.cons_append]
    · rw [List.append_assoc]

theorem leavesOpen_append {a b : List Char} :
    LeavesOpen (a ++ b) ↔ LeavesOpen b ∨ (LeavesOpen a ∧ '\x7d' ∉ b) := by
  constructor
  · rintro ⟨before, inner, split, none⟩
    rcases append_eq_append_cons_iff.1 split with ⟨m, first, rfl⟩ | ⟨m, -, second⟩
    · rw [List.mem_append, not_or] at none
      exact Or.inr ⟨⟨before, m, first, none.1⟩, none.2⟩
    · exact Or.inl ⟨m, inner, second, none⟩
  · rintro (⟨before, inner, rfl, none⟩ | ⟨⟨before, inner, rfl, none⟩, none'⟩)
    · exact ⟨a ++ before, inner, (List.append_assoc ..).symm, none⟩
    · refine ⟨before, inner ++ b, ?_, ?_⟩
      · rw [List.append_assoc, List.cons_append]
      · rw [List.mem_append, not_or]
        exact ⟨none, none'⟩

theorem not_leavesOpen_of_not_mem {cs : List Char} (none : '\x7b' ∉ cs) : ¬ LeavesOpen cs := by
  rintro ⟨before, inner, rfl, -⟩
  exact none (by simp)

theorem not_leavesOpen_parameter (inner : List Char) : ¬ LeavesOpen ('\x7b' :: (inner ++ ['\x7d'])) := by
  intro stays
  have last : LeavesOpen (('\x7b' :: inner) ++ ['\x7d']) := stays
  rcases leavesOpen_append.1 last with stays | ⟨-, none⟩
  · exact not_leavesOpen_of_not_mem (by decide) stays
  · exact none (by decide)

theorem parameter_append (inner cs : List Char) :
    '\x7b' :: (inner ++ '\x7d' :: cs) = ('\x7b' :: (inner ++ ['\x7d'])) ++ cs := by
  rw [List.cons_append, List.append_assoc, List.singleton_append]

theorem leavesOpen_cons {inner : List Char} (none : '\x7d' ∉ inner) : LeavesOpen ('\x7b' :: inner) :=
  ⟨[], inner, rfl, none⟩

section Parts

variable {a cs : List Char} (settled : ¬ LeavesOpen a)

include settled

/-- Behind a text that leaves no brace open another one is bracketed by itself. -/
theorem leavesOpen_append_iff : LeavesOpen (a ++ cs) ↔ LeavesOpen cs := by
  rw [leavesOpen_append]
  exact or_iff_left fun stays => settled stays.1

theorem bracketed_append : Bracketed (a ++ cs) ↔ Bracketed a ∧ Bracketed cs := by
  have behind : ∀ m, LeavesOpen (a ++ m) ↔ LeavesOpen m := fun m => leavesOpen_append_iff settled
  constructor
  · intro whole
    refine ⟨⟨settled, fun before after split => ?_, fun before inner after split => ?_⟩,
      ⟨(behind cs).not.1 whole.closed, fun before after split => ?_, fun before inner after split fresh => ?_⟩⟩
    · exact whole.opened before (after ++ cs) (by rw [split, List.append_assoc, List.cons_append])
    · exact whole.named before inner (after ++ cs) (by simp [split])
    · exact (behind before).1 (whole.opened (a ++ before) after (by rw [split, List.append_assoc]))
    · exact whole.named (a ++ before) inner after (by rw [split, List.append_assoc]) ((behind before).not.2 fresh)
  · rintro ⟨first, second⟩
    refine ⟨(behind cs).not.2 second.closed, fun before after split => ?_, fun before inner after split fresh none => ?_⟩
    · rcases append_eq_append_cons_iff.1 split with ⟨m, inside, -⟩ | ⟨m, rfl, inside⟩
      · exact first.opened before m inside
      · exact (behind m).2 (second.opened m after inside)
    · rcases append_eq_append_cons_iff.1 split with ⟨m, inside, split⟩ | ⟨m, rfl, inside⟩
      · -- a parameter that starts in the first part ends there, because it would be left open otherwise
        rcases append_eq_append_cons_iff.1 split.symm with ⟨n, rfl, -⟩ | ⟨n, rfl, -⟩
        · exact first.named before inner n inside fresh none
        · rw [List.mem_append, not_or] at none
          exact absurd ⟨before, m, inside, none.1⟩ settled
      · exact second.named m inner after inside ((behind m).not.1 fresh) none

theorem reopens_append : Reopens (a ++ cs) ↔ Reopens a ∨ Reopens cs := by
  constructor
  · rintro ⟨before, after, split, stays⟩
    rcases append_eq_append_cons_iff.1 split with ⟨m, inside, -⟩ | ⟨m, rfl, inside⟩
    · exact Or.inl ⟨before, m, inside, stays⟩
    · exact Or.inr ⟨m, after, inside, (leavesOpen_append_iff settled).1 stays⟩
  · rintro (⟨before, after, rfl, stays⟩ | ⟨before, after, rfl, stays⟩)
    · exact ⟨before, after ++ cs, by rw [List.append_assoc, List.cons_append], stays⟩
    · exact ⟨a ++ before, after, by rw [List.append_assoc], (leavesOpen_append_iff settled).2 stays⟩

end Parts

theorem bracketed_of_not_mem {cs : List Char} (opens : '\x7b' ∉ cs) (closes : '\x7d' ∉ cs) : Bracketed cs := by
  refine ⟨not_leavesOpen_of_not_mem opens, fun before after split => ?_, fun before inner after split => ?_⟩
  · exact absurd (split ▸ List.mem_append_right before List.mem_cons_self) closes
  · exact absurd (split ▸ List.mem_append_right before List.mem_cons_self) opens

theorem not_reopens_of_not_mem {cs : List Char} (opens : '\x7b' ∉ cs) : ¬ Reopens cs := by
  rintro ⟨before, after, rfl, -⟩
  exact opens (List.mem_append_right before List.mem_cons_self)

theorem eq_nil_of_singleton_eq {m after : List Char} {c d : Char} (split : [d] = m ++ c :: after) :
    m = [] ∧ c = d := by
  cases m with
  | nil => exact ⟨rfl, (List.cons.inj split).1.symm⟩
  | cons x m => simp at split

/-- One parameter is bracketed if it has a name. -/
theorem bracketed_parameter {inner : List Char} (none : '\x7d' ∉ inner) :
    Bracketed ('\x7b' :: (inner ++ ['\x7d'])) ↔ Parameter.nameText inner ≠ [] := by
  constructor
  · intro whole
    exact whole.named [] inner [] rfl (not_leavesOpen_of_not_mem List.not_mem_nil) none
  · intro named
    refine ⟨not_leavesOpen_parameter inner, fun before after split => ?_, fun before other after split fresh none' => ?_⟩
    · have split : ('\x7b' :: inner) ++ ['\x7d'] = before ++ '\x7d' :: after := split
      rcases append_eq_append_cons_iff.1 split with ⟨m, inside, -⟩ | ⟨m, rfl, last⟩
      · have there : '\x7d' ∈ '\x7b' :: inner := inside ▸ List.mem_append_right before List.mem_cons_self
        exact absurd there (by simp [none])
      · obtain ⟨rfl, -⟩ := eq_nil_of_singleton_eq last
        rw [List.append_nil]
        exact leavesOpen_cons none
    · cases before with
      | nil =>
        obtain ⟨-, same⟩ := List.cons.inj split
        rcases append_eq_append_cons_iff.1 same with ⟨m, rfl, -⟩ | ⟨m, rfl, last⟩
        · exact absurd (List.mem_append_right other List.mem_cons_self) none
        · obtain ⟨rfl, -⟩ := eq_nil_of_singleton_eq last
          rw [List.append_nil]
          exact named
      | cons c before =>
        obtain ⟨rfl, same⟩ := List.cons.inj split
        rcases append_eq_append_cons_iff.1 same with ⟨m, rfl, -⟩ | ⟨m, rfl, last⟩
        · rw [List.mem_append, not_or] at none
          exact absurd (leavesOpen_cons none.1) fresh
        · exact absurd (eq_nil_of_singleton_eq last).2 (by decide)

theorem reopens_parameter {inner : List Char} (none : '\x7d' ∉ inner) :
    Reopens ('\x7b' :: (inner ++ ['\x7d'])) ↔ '\x7b' ∈ inner := by
  constructor
  · rintro ⟨before, after, split, stays⟩
    cases before with
    | nil => exact absurd stays (not_leavesOpen_of_not_mem List.not_mem_nil)
    | cons c before =>
      obtain ⟨rfl, same⟩ := List.cons.inj split
      rcases append_eq_append_cons_iff.1 same with ⟨m, rfl, -⟩ | ⟨m, -, last⟩
      · exact List.mem_append_right before List.mem_cons_self
      · exact absurd (eq_nil_of_singleton_eq last).2 (by decide)
  · intro there
    obtain ⟨front, back, rfl⟩ := List.append_of_mem there
    rw [List.mem_append, not_or] at none
    refine ⟨'\x7b' :: front, back ++ ['\x7d'], ?_, leavesOpen_cons none.1⟩
    rw [List.append_assoc]
    rfl

theorem Parameter.parse_eq (inner : List Char) : parse inner =
    if nameText inner = [] then .error .emptyName
    else
      let tail := (splitStar inner).2.dropWhile (!endsName ·)
      .ok ⟨String.ofList (nameText inner), defaultOf tail, tail.getLast? == some '?', (splitStar inner).1⟩ := by
  unfold parse nameText
  rcases splitStar inner with ⟨star, rest⟩
  simp only [List.isEmpty_iff]

theorem Parameter.exists_parse_iff {inner : List Char} : (∃ p, parse inner = .ok p) ↔ nameText inner ≠ [] := by
  rw [parse_eq]
  split
  next empty => exact iff_of_false (not_exists_error_eq_ok _) (not_not_intro empty)
  next named => exact iff_of_true ⟨_, rfl⟩ named

/-- A text is scanned to its end if it is bracketed, together with what has been read of the segment it starts in. -/
theorem exists_scan_iff {region : Region} {cs : List Char} (plain : region.Plain) :
    (∃ segments, scan region cs = .ok segments) ↔ Bracketed (region.text ++ cs) := by
  induction cs generalizing region with
  | nil =>
    rw [List.append_nil]
    cases region with
    | literal done =>
      refine iff_of_true ⟨_, rfl⟩ (bracketed_of_not_mem ?_ ?_)
      · exact fun there => plain.1 (List.mem_reverse.1 there)
      · exact fun there => plain.2 (List.mem_reverse.1 there)
    | parameter done =>
      refine iff_of_false (not_exists_error_eq_ok _) fun bracketed => bracketed.closed ?_
      exact leavesOpen_cons fun there => plain (List.mem_reverse.1 there)
  | cons c rest ih =>
    cases region with
    | literal done =>
      have opens : '\x7b' ∉ done.reverse := fun there => plain.1 (List.mem_reverse.1 there)
      have closes : '\x7d' ∉ done.reverse := fun there => plain.2 (List.mem_reverse.1 there)
      have settled := not_leavesOpen_of_not_mem opens
      rw [scan]
      split
      next close =>
        refine iff_of_false (not_exists_error_eq_ok _) fun bracketed => ?_
        exact settled (bracketed.opened done.reverse rest (by rw [close]; rfl))
      next close =>
        split
        next opening =>
          have before : Bracketed (done.reverse ++ '\x7b' :: rest) ↔ Bracketed ('\x7b' :: rest) :=
            (bracketed_append settled).trans (and_iff_right (bracketed_of_not_mem opens closes))
          rw [opening, exists_bind_eq_ok_iff]
          refine Iff.trans ?_ ((ih Region.plain_parameter_nil).trans before.symm)
          exact exists_congr fun _ => and_iff_left ⟨_, rfl⟩
        next opening =>
          rw [← Region.text_literal_cons]
          apply ih
          simp only [Region.Plain, List.mem_cons, not_or]
          exact ⟨⟨Ne.symm opening, plain.1⟩, Ne.symm close, plain.2⟩
    | parameter done =>
      have closes : '\x7d' ∉ done.reverse := fun there => plain (List.mem_reverse.1 there)
      rw [scan]
      split
      next close =>
        have parted : (Region.parameter done).text ++ c :: rest = ('\x7b' :: (done.reverse ++ ['\x7d'])) ++ rest := by
          rw [close, ← parameter_append]
          rfl
        have later : (∃ segments, scan (.literal []) rest = .ok segments) ↔ Bracketed rest := ih Region.plain_literal_nil
        rw [parted, bracketed_append (not_leavesOpen_parameter _), bracketed_parameter closes,
          ← Parameter.exists_parse_iff, ← later, exists_bind_eq_ok_iff, ← exists_and_right]
        refine exists_congr fun p => and_congr_right fun _ => ?_
        rw [exists_bind_eq_ok_iff]
        exact exists_congr fun _ => and_iff_left ⟨_, rfl⟩
      next close =>
        rw [← Region.text_parameter_cons]
        apply ih
        simp only [Region.Plain, List.mem_cons, not_or]
        exact ⟨Ne.symm close, plain⟩

/-- The well-bracketed texts are the bracketed ones in which no brace opens behind an open one. -/
theorem wellBracketed_iff {cs : List Char} : WellBracketed cs ↔ Bracketed cs ∧ ¬ Reopens cs := by
  constructor
  · rintro ⟨closed, opened, named⟩
    refine ⟨⟨?_, opened, ?_⟩, ?_⟩
    · rintro ⟨before, after, rfl, none⟩
      obtain ⟨inner, later, rfl, -⟩ := closed before after rfl
      exact none (List.mem_append_right inner List.mem_cons_self)
    · intro before inner after split _ none
      -- the brace that closes the parameter is the first one behind its opening brace
      refine named before inner after split (fun there => ?_) none
      obtain ⟨other, later, same, plain⟩ := closed before _ split
      rcases append_eq_append_cons_iff.1 same with ⟨m, rfl, -⟩ | ⟨m, rfl, -⟩
      · exact none (List.mem_append_right other List.mem_cons_self)
      · exact plain (List.mem_append_left m there)
    · rintro ⟨before, after, split, first, inner, rfl, none⟩
      obtain ⟨other, later, same, plain⟩ := closed first (inner ++ '\x7b' :: after)
        (by rw [split, List.append_assoc, List.cons_append])
      rcases append_eq_append_cons_iff.1 same with ⟨m, rfl, -⟩ | ⟨m, rfl, behind⟩
      · exact none (List.mem_append_right other List.mem_cons_self)
      · cases m with
        | nil => exact absurd (List.cons.inj behind).1 (by decide)
        | cons c m =>
          obtain ⟨rfl, -⟩ := List.cons.inj behind
          exact plain (List.mem_append_right inner List.mem_cons_self)
  · rintro ⟨bracketed, once⟩
    refine ⟨fun before after split => ?_, bracketed.opened, fun before inner after split _ none => ?_⟩
    · have closes : '\x7d' ∈ after := by
        by_contra none
        exact bracketed.closed ⟨before, after, split, none⟩
      obtain ⟨inner, later, rfl, none⟩ := List.eq_append_cons_of_mem closes
      refine ⟨inner, later, rfl, fun there => once ?_⟩
      obtain ⟨front, back, rfl⟩ := List.append_of_mem there
      rw [List.mem_append, not_or] at none
      exact ⟨before ++ '\x7b' :: front, back ++ '\x7d' :: later, by simp [split], before, front, rfl, none.1⟩
    · exact bracketed.named before inner after split (fun stays => once ⟨before, _, split, stays⟩) none

theorem Parameter.name_of_parse {inner : List Char} {p : Parameter} (describes : parse inner = .ok p) :
    p.name.toList ⊆ inner := by
  rw [parse_eq] at describes
  split at describes
  · cases describes
  · cases describes
    have star : (splitStar inner).2 <:+ inner := by
      unfold splitStar
      split
      · exact ⟨['*', '*'], rfl⟩
      · exact ⟨['*'], rfl⟩
      · exact List.suffix_refl _
    rw [String.toList_ofList]
    exact List.Subset.trans (List.takeWhile_prefix _).subset star.subset

/-- The opening braces of a template are at least as many as the closing ones, and as many if none of them opens
behind an open one. -/
theorem Written.count_braces {segments : List Segment} {cs : List Char} (written : Written segments cs) :
    cs.count '\x7d' ≤ cs.count '\x7b' ∧ (cs.count '\x7b' = cs.count '\x7d' ↔ ¬ Reopens cs) := by
  induction written with
  | nil => exact ⟨Nat.le_refl 0, iff_of_true rfl (not_reopens_of_not_mem List.not_mem_nil)⟩
  | @literal text segments cs plain alone later ih =>
    obtain ⟨-, opens, closes⟩ := plain
    rw [reopens_append (not_leavesOpen_of_not_mem opens), List.count_append, List.count_append,
      List.count_eq_zero_of_not_mem opens, List.count_eq_zero_of_not_mem closes, Nat.zero_add, Nat.zero_add,
      or_iff_right (not_reopens_of_not_mem opens)]
    exact ih
  | @parameter p inner cs segments closed describes later ih =>
    have opening : ('\x7b' :: (inner ++ '\x7d' :: cs)).count '\x7b' = inner.count '\x7b' + cs.count '\x7b' + 1 := by
      simp
    have closing : ('\x7b' :: (inner ++ '\x7d' :: cs)).count '\x7d' = cs.count '\x7d' + 1 := by
      simp [List.count_eq_zero.2 closed]
    rw [opening, closing, parameter_append, reopens_append (not_leavesOpen_parameter inner), reopens_parameter closed, not_or,
      ← ih.2, ← List.count_eq_zero]
    omega

theorem Written.names {segments : List Segment} {cs : List Char} (written : Written segments cs) {p : Parameter}
    (there : .parameter p ∈ segments) :
    '\x7d' ∉ p.name.toList ∧ ('\x7b' ∈ p.name.toList → Reopens cs) := by
  induction written with
  | nil => cases there
  | @literal text segments cs plain alone later ih =>
    have among : .parameter p ∈ segments := (List.mem_cons.1 there).resolve_left (fun same => nomatch same)
    rw [reopens_append (not_leavesOpen_of_not_mem plain.2.1)]
    exact ⟨(ih among).1, fun brace => Or.inr ((ih among).2 brace)⟩
  | @parameter q inner cs segments closed describes later ih =>
    rw [parameter_append, reopens_append (not_leavesOpen_parameter inner), reopens_parameter closed]
    rcases List.mem_cons.1 there with same | among
    · cases same
      have inside := Parameter.name_of_parse describes
      exact ⟨fun brace => closed (inside brace), fun brace => Or.inl (inside brace)⟩
    · exact ⟨(ih among).1, fun brace => Or.inr ((ih among).2 brace)⟩

theorem parse_eq_ok_iff {text : String} {t : Template} :
    Template.parse text = .ok t ↔ t.raw = text ∧ scan (.literal []) (dropSlashes text.toList) = .ok t.segments := by
  unfold Template.parse
  rw [bind_eq_ok_iff]
  constructor
  · rintro ⟨segments, scanned, made⟩
    cases made
    exact ⟨rfl, scanned⟩
  · rintro ⟨rfl, scanned⟩
    exact ⟨t.segments, scanned, rfl⟩

theorem exists_slashes (cs : List Char) : ∃ front, cs = front ++ dropSlashes cs ∧ '\x7b' ∉ front ∧ '\x7d' ∉ front := by
  have slash : ∀ c ∈ cs.takeWhile (· = '/'), c = '/' := by
    intro c there
    exact of_decide_eq_true (List.all_eq_true.1 List.all_takeWhile c there)
  refine ⟨cs.takeWhile (· = '/'), List.takeWhile_append_dropWhile.symm, fun there => ?_, fun there => ?_⟩
  · exact absurd (slash _ there) (by decide)
  · exact absurd (slash _ there) (by decide)

/-- A text is accepted as a template if it is bracketed, and it is well-bracketed if it is accepted and no brace in it
opens behind an open one. No name of an accepted template has a closing brace in it; an opening one is in a name only
if it opens behind an open one, and the template has as many opening as closing braces just if none does. -/
theorem accepts_iff_bracketed (text : String) :
    ((∃ t, Template.parse text = .ok t) ↔ Bracketed text.toList) ∧
      (WellBracketed text.toList ↔ (∃ t, Template.parse text = .ok t) ∧ ¬ Reopens text.toList) ∧
      ∀ t, Template.parse text = .ok t →
        (text.toList.count '\x7b' = text.toList.count '\x7d' ↔ ¬ Reopens text.toList) ∧
          ∀ p ∈ t.parameters, '\x7d' ∉ p.name.toList ∧ ('\x7b' ∈ p.name.toList → Reopens text.toList) := by
  obtain ⟨front, whole, opens, closes⟩ := exists_slashes text.toList
  have settled := not_leavesOpen_of_not_mem opens
  have accepts : (∃ t, Template.parse text = .ok t) ↔ Bracketed text.toList := by
    rw [whole, bracketed_append settled, and_iff_right (bracketed_of_not_mem opens closes),
      ← List.nil_append (dropSlashes text.toList)]
    refine Iff.trans ?_ (exists_scan_iff Region.plain_literal_nil)
    constructor
    · rintro ⟨t, parsed⟩
      exact ⟨t.segments, (parse_eq_ok_iff.1 parsed).2⟩
    · rintro ⟨segments, scanned⟩
      exact ⟨⟨text, segments⟩, parse_eq_ok_iff.2 ⟨rfl, scanned⟩⟩
  refine ⟨accepts, ?_, fun t parsed => ?_⟩
  · rw [accepts]
    exact wellBracketed_iff
  · have written := scan_eq_ok_iff.1 (parse_eq_ok_iff.1 parsed).2
    have reopens : Reopens text.toList ↔ Reopens (dropSlashes text.toList) := by
      conv_lhs => rw [whole]
      rw [reopens_append settled, or_iff_right (not_reopens_of_not_mem opens)]
    refine ⟨?_, fun p there => ?_⟩
    · conv_lhs => rw [whole]
      rw [List.count_append, List.count_append, List.count_eq_zero_of_not_mem opens,
        List.count_eq_zero_of_not_mem closes, Nat.zero_add, Nat.zero_add, reopens]
      exact written.count_braces.2
    · rw [reopens]
      obtain ⟨s, among, is⟩ := List.mem_filterMap.1 there
      cases s with
      | literal text => cases is
      | parameter q =>
        cases is
        exact written.names among

/-- Stars, a constraint and a default with a question mark do not matter to the braces. -/
theorem accepts_iff_bracketed_of_marks :
    ∃ t, Template.parse "//v1/\x7bid:int\x7d\x7b**rest=a?b\x7d" = .ok t ∧ t.parameters.map (·.name) = ["id", "rest"] ∧
      WellBracketed "//v1/\x7bid:int\x7d\x7b**rest=a?b\x7d".toList ∧
      ∀ p ∈ t.parameters, '\x7d' ∉ p.name.toList ∧ '\x7b' ∉ p.name.toList := by
  let t : Template := ⟨"//v1/\x7bid:int\x7d\x7b**rest=a?b\x7d",
    [.literal "v1/", .parameter ⟨"id", none, false, false⟩, .parameter ⟨"rest", some "a?b", false, true⟩]⟩
  have parsed : Template.parse t.raw = .ok t := by decide +kernel
  obtain ⟨-, well, each⟩ := accepts_iff_bracketed t.raw
  obtain ⟨balanced, names⟩ := each t parsed
  have once : ¬ Reopens t.raw.toList := balanced.1 (by decide +kernel)
  refine ⟨t, parsed, rfl, well.2 ⟨⟨t, parsed⟩, once⟩, fun p there => ?_⟩
  exact ⟨(names p there).1, fun brace => once ((names p there).2 brace)⟩

/-- A brace that opens behind an open one is taken for a character of a name. -/
theorem nested_brace_accepted :
    ∃ t, Template.parse "/v1/\x7ba\x7bb\x7d" = .ok t ∧ t.parameters.map (·.name) = ["a\x7bb"] ∧
      ¬ WellBracketed "/v1/\x7ba\x7bb\x7d".toList ∧
      "/v1/\x7ba\x7bb\x7d".toList.count '\x7b' = 2 ∧ "/v1/\x7ba\x7bb\x7d".toList.count '\x7d' = 1 := by
  refine ⟨⟨"/v1/\x7ba\x7bb\x7d", [.literal "v1/", .parameter ⟨"a\x7bb", none, false, false⟩]⟩, by decide +kernel, rfl,
    fun well => ?_, by decide +kernel, by decide +kernel⟩
  have reopens : Reopens "/v1/\x7ba\x7bb\x7d".toList :=
    ⟨"/v1/\x7ba".toList, "b\x7d".toList, by decide +kernel, "/v1/".toList, "a".toList, by decide +kernel, by decide⟩
  exact (wellBracketed_iff.1 well).2 reopens

end CallTelemetry.Route
