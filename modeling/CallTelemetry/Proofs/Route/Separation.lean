import CallTelemetry.Proofs.Route.Layout
import Mathlib.Data.List.Chain

/-!
# Templates whose parameters are separated

Where a slot has text before its next slash, a parameter takes that text together with its value, and the walk
then runs ahead of the path by as many bytes. In a separated template no walk runs so far ahead that it passes a
slash it should stop at, whatever the values are, and each parameter that is followed by another one stops at a
slash of its own (`separatedFrom`). Then every text that is found belongs to the value of one parameter
(`found_agree_of_separated`). If a template is not separated, and no two neighbours among its parameters have the
same name, a change in the value of one parameter shows in the text found for another one
(`exists_leak_of_not_separated`).
-/

namespace CallTelemetry.Route

/-- What stands before the first slash. -/
def beforeSlash (text : List Char) : List Char := text.takeWhile (· ≠ '/')

/-- By how many bytes a walk runs ahead behind a parameter with this text. -/
def gap (text : List Char) : Nat := byteLength (beforeSlash text)

/-- Whether a walk that comes to the first slot some bytes ahead of its value takes nothing of a value but at
its own slot. The shortest value is one byte long. -/
def separatedFrom : Nat → List Slot → Bool
  | _, [] => true
  | _, [_] => true
  | ahead, s :: next :: rest =>
    !s.parameter.catchAll && s.text.contains '/' && decide (ahead ≤ 1 + gap s.text) &&
      separatedFrom (gap s.text) (next :: rest)

/-- Every parameter but the last one ends at a slash that no walk passes, whatever the values are. -/
def Template.separated (t : Template) : Bool := separatedFrom 0 (slots t.segments)

/-- A text that may stand in the place of a parameter. -/
def IsValue (v : List Char) : Prop := v ≠ [] ∧ '/' ∉ v

theorem IsValue.one_le_byteLength {v : List Char} (h : IsValue v) : 1 ≤ byteLength v := by
  cases v with
  | nil => exact absurd rfl h.1
  | cons c rest =>
    have wide := c.utf8Size_pos
    rw [byteLength_cons]
    omega

/-- Two lists of values, one for each parameter, that agree but on the parameters of `secret`. -/
inductive AgreeBut {α : Type} (secret : Parameter → Prop) : List Parameter → List α → List α → Prop where
  | nil : AgreeBut secret [] [] []
  | cons {p : Parameter} {ps : List Parameter} {v w : α} {vs ws : List α} (first : ¬secret p → v = w)
      (rest : AgreeBut secret ps vs ws) : AgreeBut secret (p :: ps) (v :: vs) (w :: ws)

theorem AgreeBut.imp {α : Type} {secret wider : Parameter → Prop} {ps : List Parameter} {vs ws : List α}
    (h : AgreeBut secret ps vs ws) (widens : ∀ p, secret p → wider p) : AgreeBut wider ps vs ws := by
  induction h with
  | nil => exact .nil
  | cons first _ ih => exact .cons (fun plain => first fun hidden => plain (widens _ hidden)) ih

theorem AgreeBut.map {α β : Type} {secret : Parameter → Prop} {ps : List Parameter} {vs ws : List α}
    (h : AgreeBut secret ps vs ws) (f : α → β) : AgreeBut secret ps (vs.map f) (ws.map f) := by
  induction h with
  | nil => exact .nil
  | cons first _ ih => exact .cons (fun plain => congrArg f (first plain)) ih

theorem AgreeBut.length_eq {α : Type} {secret : Parameter → Prop} {ps : List Parameter} {vs ws : List α}
    (h : AgreeBut secret ps vs ws) : vs.length = ps.length ∧ ws.length = ps.length := by
  induction h with
  | nil => exact ⟨rfl, rfl⟩
  | cons _ _ ih => exact ⟨congrArg (· + 1) ih.1, congrArg (· + 1) ih.2⟩

theorem isValue_toList {values : List String} (isValue : ∀ v ∈ values, IsValue v.toList) :
    ∀ v ∈ values.map String.toList, IsValue v := by
  intro v hv
  obtain ⟨text, there, rfl⟩ := List.mem_map.1 hv
  exact isValue text there

theorem isValue_ofList {values : List (List Char)} (isValue : ∀ v ∈ values, IsValue v) :
    ∀ v ∈ values.map String.ofList, IsValue v.toList := by
  intro v hv
  obtain ⟨chars, there, rfl⟩ := List.mem_map.1 hv
  rw [String.toList_ofList]
  exact isValue chars there

theorem map_toList_ofList (values : List (List Char)) : (values.map String.ofList).map String.toList = values := by
  rw [List.map_map]
  exact List.map_id'' (fun _ => String.toList_ofList) values

/-- Slots with values in them do not start with a slash. -/
theorem head?_layout_ne {slots : List Slot} {values : List (List Char)} (isValue : ∀ v ∈ values, IsValue v) :
    (layout slots values).head? ≠ some '/' := by
  cases slots with
  | nil => simp [layout]
  | cons s slots =>
    cases values with
    | nil => simp [layout]
    | cons v values =>
      obtain ⟨nonempty, plain⟩ := isValue v List.mem_cons_self
      cases v with
      | nil => exact absurd rfl nonempty
      | cons c rest =>
        intro slash
        rw [Option.some.inj slash] at plain
        exact plain List.mem_cons_self

theorem not_mem_beforeSlash (text : List Char) : '/' ∉ beforeSlash text := by
  intro slash
  have kept := List.all_eq_true.1 List.all_takeWhile '/' slash
  simp at kept

theorem exists_beforeSlash {text : List Char} (slash : '/' ∈ text) :
    ∃ rest, text = beforeSlash text ++ '/' :: rest := by
  induction text with
  | nil => cases slash
  | cons c text ih =>
    by_cases e : c = '/'
    · refine ⟨text, ?_⟩
      unfold beforeSlash
      rw [List.takeWhile_cons_of_neg (by simp [e]), e]
      rfl
    · obtain ⟨rest, split⟩ := ih ((List.mem_cons.1 slash).resolve_left (Ne.symm e))
      refine ⟨rest, ?_⟩
      have kept : beforeSlash (c :: text) = c :: beforeSlash text := List.takeWhile_cons_of_pos (by simp [e])
      rw [kept, List.cons_append, ← split]

theorem Parameter.take_append (p : Parameter) {v : List Char} (whole : p.catchAll = true ∨ '/' ∉ v)
    (b : List Char) : p.take (v ++ b) = v ++ p.take b := by
  unfold Parameter.take
  split
  · rfl
  · rename_i single
    refine List.takeWhile_append_of_pos fun c hc => ?_
    have plain := whole.resolve_left single
    rw [decide_eq_true_eq]
    rintro rfl
    exact plain hc

/-- A walk that does not pass the slash behind a parameter finds its value there, and goes on as far ahead as
there is text before the slash. -/
theorem take_and_rest_of_gap {p : Parameter} {text v : List Char} {ahead : Nat} (single : p.catchAll = false)
    (slash : '/' ∈ text) (value : '/' ∉ v) (enough : ahead ≤ byteLength v + gap text) (later : List Char) :
    p.take (dropBytes ahead (v ++ (text ++ later))) = dropBytes ahead (v ++ beforeSlash text) ∧
      dropBytes (byteLength text) (p.rest (dropBytes ahead (v ++ (text ++ later)))) =
        dropBytes (gap text) later := by
  obtain ⟨behind, split⟩ := exists_beforeSlash slash
  have size : byteLength text = byteLength ('/' :: behind) + gap text := by
    conv => lhs; rw [split]
    rw [byteLength_append, Nat.add_comm]
    rfl
  have stop : dropBytes ahead (v ++ (text ++ later)) =
      dropBytes ahead (v ++ beforeSlash text) ++ '/' :: (behind ++ later) := by
    conv => lhs; rw [split]
    rw [List.append_assoc, ← List.append_assoc v]
    refine dropBytes_append_of_le ?_ _
    rw [byteLength_append]
    exact enough
  have plain : ∀ c ∈ dropBytes ahead (v ++ beforeSlash text), decide (c ≠ '/') = true := by
    intro c hc
    have there := (dropBytes_suffix ahead (v ++ beforeSlash text)).mem hc
    rw [decide_eq_true_eq]
    rintro rfl
    rcases List.mem_append.1 there with there | there
    · exact value there
    · exact not_mem_beforeSlash text there
  unfold Parameter.take Parameter.rest
  rw [stop, single]
  refine ⟨?_, ?_⟩
  · rw [if_neg Bool.false_ne_true, List.takeWhile_append_of_pos plain, List.takeWhile_cons_of_neg (by simp),
      List.append_nil]
  · rw [if_neg Bool.false_ne_true, List.dropWhile_append_of_pos plain, List.dropWhile_cons_of_neg (by simp), size]
    exact dropBytes_add_append (gap text) ('/' :: behind) later

theorem found_cons_of_gap {s : Slot} {v : List Char} {ahead : Nat} (slots : List Slot)
    (single : s.parameter.catchAll = false) (slash : '/' ∈ s.text) (value : '/' ∉ v)
    (enough : ahead ≤ byteLength v + gap s.text) (later : List Char) :
    found (s :: slots) (dropBytes ahead (v ++ (s.text ++ later))) =
      dropBytes ahead (v ++ beforeSlash s.text) :: found slots (dropBytes (gap s.text) later) := by
  obtain ⟨takes, goes⟩ := take_and_rest_of_gap single slash value enough later
  rw [found, takes, goes]

variable {secret : Parameter → Prop}

/-- In a separated template the text found at a slot depends on the value of that slot alone. -/
theorem found_agree_of_separated {ahead : Nat} {slots : List Slot} {vs ws : List (List Char)}
    (separated : separatedFrom ahead slots = true) (values : ∀ v ∈ vs, IsValue v) (others : ∀ w ∈ ws, IsValue w)
    (agree : AgreeBut secret (slots.map (·.parameter)) vs ws) :
    AgreeBut secret (slots.map (·.parameter)) (found slots (dropBytes ahead (layout slots vs)))
      (found slots (dropBytes ahead (layout slots ws))) := by
  induction slots generalizing ahead vs ws with
  | nil => exact .nil
  | cons s slots ih =>
    cases agree with
    | @cons _ _ v w vs ws first rest =>
      cases slots with
      | nil =>
        cases rest
        refine .cons (fun shown => ?_) .nil
        rw [first shown]
      | cons next slots =>
        unfold separatedFrom at separated
        simp only [Bool.and_eq_true, Bool.not_eq_true', List.contains_iff_mem, decide_eq_true_eq] at separated
        obtain ⟨⟨⟨single, slash⟩, close⟩, later⟩ := separated
        have enough : ∀ {u : List Char}, IsValue u → ahead ≤ byteLength u + gap s.text := by
          intro u value
          have := value.one_le_byteLength
          omega
        have value := values v List.mem_cons_self
        have other := others w List.mem_cons_self
        rw [layout, layout, found_cons_of_gap _ single slash value.2 (enough value),
          found_cons_of_gap _ single slash other.2 (enough other)]
        refine .cons (fun shown => ?_) ?_
        · rw [first shown]
        · exact ih later (fun v hv => values v (List.mem_cons_of_mem _ hv))
            (fun w hw => others w (List.mem_cons_of_mem _ hw)) rest

/-- What is listed for the texts found at slots if the parameters of one name are erased. -/
def shown (name : String) : List Slot → List (List Char) → List (String × String)
  | s :: slots, text :: texts =>
    (s.parameter.name, if s.parameter.name = name then "" else s.parameter.value (String.ofList text)) ::
      shown name slots texts
  | _, _ => []

/-- The values differ only for the parameters of one name, but more differs in what is shown. -/
structure Leak (ahead : Nat) (slots : List Slot) (name : String) (vs ws : List (List Char)) : Prop where
  values : ∀ v ∈ vs, IsValue v
  others : ∀ w ∈ ws, IsValue w
  agree : AgreeBut (fun p => p.name = name) (slots.map (·.parameter)) vs ws
  differs : shown name slots (found slots (dropBytes ahead (layout slots vs))) ≠
    shown name slots (found slots (dropBytes ahead (layout slots ws)))

/-- A value for each slot, for when it does not matter which. -/
def fillers (slots : List Slot) : List (List Char) := slots.map fun _ => ['x']

theorem agreeBut_refl (secret : Parameter → Prop) (slots : List Slot) :
    AgreeBut secret (slots.map (·.parameter)) (fillers slots) (fillers slots) := by
  induction slots with
  | nil => exact .nil
  | cons s rest ih => exact .cons (fun _ => rfl) ih

theorem isValue_fillers (slots : List Slot) : ∀ v ∈ fillers slots, IsValue v := by
  intro v hv
  obtain ⟨-, -, rfl⟩ := List.mem_map.1 hv
  exact ⟨by decide, by decide⟩

theorem isValue_replicate (n : Nat) {c : Char} (plain : c ≠ '/') : IsValue (List.replicate (n + 1) c) := by
  refine ⟨by simp, fun slash => ?_⟩
  exact plain (List.eq_of_mem_replicate slash).symm

theorem byteLength_replicate (n : Nat) {c : Char} (narrow : c.utf8Size = 1) :
    byteLength (List.replicate n c) = n := by
  induction n with
  | zero => rfl
  | succ n ih =>
    rw [List.replicate_succ, byteLength_cons, ih, narrow]
    omega

theorem dropBytes_replicate (n m : Nat) {c : Char} (narrow : c.utf8Size = 1) (b : List Char) :
    dropBytes n (List.replicate (n + m) c ++ b) = List.replicate m c ++ b := by
  have dropped := dropBytes_byteLength_append (List.replicate n c) (List.replicate m c ++ b)
  rw [byteLength_replicate n narrow] at dropped
  rw [← List.replicate_append_replicate, List.append_assoc]
  exact dropped

theorem Parameter.value_of_ne_nil (p : Parameter) {text : List Char} (h : text ≠ []) :
    p.value (String.ofList text) = String.ofList text := by
  unfold Parameter.value
  refine if_neg fun empty => h ?_
  have := congrArg String.toList empty
  rwa [String.toList_ofList] at this

theorem isValue_cons {first : List Char} {rest : List (List Char)} (h : IsValue first)
    (later : ∀ v ∈ rest, IsValue v) : ∀ v ∈ first :: rest, IsValue v := by
  intro v hv
  rcases List.mem_cons.1 hv with rfl | hv
  · exact h
  · exact later v hv

/-- A parameter that does not stop before the next one takes the value of that one too. -/
theorem exists_leak_of_open (ahead : Nat) {s next : Slot} (slots : List Slot)
    (opened : s.parameter.catchAll = true ∨ '/' ∉ s.text) (distinct : s.parameter.name ≠ next.parameter.name) :
    ∃ vs ws, Leak ahead (s :: next :: slots) next.parameter.name vs ws := by
  let values (c : Char) : List (List Char) := List.replicate (ahead + 1) 'x' :: [c] :: fillers slots
  let tail : List Char := s.parameter.take (next.text ++ layout slots (fillers slots))
  have whole : s.parameter.catchAll = true ∨ '/' ∉ 'x' :: s.text := by
    refine opened.imp_right fun none slash => ?_
    rcases List.mem_cons.1 slash with e | slash
    · exact absurd e (by decide)
    · exact none slash
  have shows : ∀ c, c ≠ '/' → ∃ later,
      shown next.parameter.name (s :: next :: slots)
          (found (s :: next :: slots) (dropBytes ahead (layout (s :: next :: slots) (values c)))) =
        (s.parameter.name, String.ofList ('x' :: (s.text ++ c :: tail))) :: later := by
    intro c plain
    have laid : dropBytes ahead (layout (s :: next :: slots) (values c)) =
        ('x' :: s.text) ++ ([c] ++ (next.text ++ layout slots (fillers slots))) :=
      dropBytes_replicate ahead 1 rfl _
    have one : s.parameter.catchAll = true ∨ '/' ∉ [c] :=
      Or.inr fun slash => plain (List.mem_singleton.1 slash).symm
    rw [laid, found, s.parameter.take_append whole, s.parameter.take_append one, shown, if_neg distinct]
    refine ⟨_, congrArg (fun text => (s.parameter.name, text) :: _) ?_⟩
    exact s.parameter.value_of_ne_nil (List.cons_ne_nil _ _)
  have isValue : ∀ c, c ≠ '/' → ∀ v ∈ values c, IsValue v := by
    intro c plain
    have second := isValue_cons (isValue_replicate 0 plain) (isValue_fillers slots)
    exact isValue_cons (isValue_replicate ahead (by decide)) second
  refine ⟨values '1', values '2', isValue '1' (by decide), isValue '2' (by decide), ?_, ?_⟩
  · exact .cons (fun _ => rfl) (.cons (fun shown => absurd rfl shown) (agreeBut_refl _ slots))
  · obtain ⟨later, left⟩ := shows '1' (by decide)
    obtain ⟨later', right⟩ := shows '2' (by decide)
    rw [left, right]
    intro same
    have texts := String.ofList_injective (Prod.mk.inj (List.cons.inj same).1).2
    have ends := List.append_cancel_left (List.cons.inj texts).2
    exact absurd (List.cons.inj ends).1 (by decide)

theorem byteLength_le_of_suffix {a b : List Char} (h : a <:+ b) : byteLength a ≤ byteLength b := by
  obtain ⟨before, rfl⟩ := h
  rw [byteLength_append]
  omega

theorem Parameter.rest_suffix (p : Parameter) (path : List Char) : p.rest path <:+ path :=
  ⟨p.take path, p.take_append_rest path⟩

theorem Parameter.length_take_le (p : Parameter) (path : List Char) : (p.take path).length ≤ path.length := by
  have whole := congrArg List.length (p.take_append_rest path)
  rw [List.length_append] at whole
  omega

/-- A walk that has lost a part of a long value finds less at its slot than one that has it before it. -/
theorem Parameter.length_take_lt (p : Parameter) {n : Nat} {b path : List Char} (long : b.length < n)
    (inside : path <:+ List.replicate n 'y' ++ b) (less : path ≠ List.replicate n 'y' ++ b) :
    (p.take path).length < (p.take (List.replicate n 'y' ++ b)).length := by
  have plain : ∀ m, p.catchAll = true ∨ '/' ∉ List.replicate m 'y' :=
    fun m => Or.inr fun slash => absurd (List.eq_of_mem_replicate slash) (by decide)
  rw [p.take_append (plain n), List.length_append, List.length_replicate]
  rcases List.suffix_or_suffix_of_suffix inside (List.suffix_append _ b) with within | ⟨kept, rfl⟩
  · have := p.length_take_le path
    have := within.length_le
    omega
  · obtain ⟨lost, whole⟩ := inside
    rw [← List.append_assoc, List.append_cancel_right_eq] at whole
    obtain ⟨-, -, kept_eq⟩ := List.append_eq_replicate_iff.1 whole
    have size := congrArg List.length whole
    rw [List.length_append, List.length_replicate] at size
    rw [kept_eq, p.take_append (plain _), List.length_append, List.length_replicate]
    have : lost.length ≠ 0 := by
      intro none
      rw [List.length_eq_zero_iff.1 none, List.nil_append] at whole
      exact less (by rw [whole])
    omega

theorem Parameter.length_value_lt (p : Parameter) {a b : List Char} (shorter : a.length < b.length)
    (long : (p.default.getD "").toList.length < b.length) :
    (p.value (String.ofList a)).toList.length < b.length := by
  by_cases none : a = []
  · rw [none]
    exact long
  · rw [p.value_of_ne_nil none, String.toList_ofList]
    exact shorter

/-- A walk that is far ahead of a short value starts behind the slash that comes after it. -/
theorem dropBytes_overrun {text behind : List Char} {ahead : Nat} (split : text = beforeSlash text ++ '/' :: behind)
    (overrun : 1 + gap text < ahead) (later : List Char) :
    dropBytes ahead (['x'] ++ (text ++ later)) = dropBytes (ahead - (gap text + 2)) (behind ++ later) := by
  have passed : byteLength ('x' :: (beforeSlash text ++ ['/'])) = gap text + 2 := by
    rw [byteLength_cons, byteLength_append]
    show 1 + (gap text + 1) = _
    omega
  have parts : ['x'] ++ (text ++ later) = 'x' :: (beforeSlash text ++ ['/']) ++ (behind ++ later) := by
    conv => lhs; rw [split]
    simp
  have sum : ahead = gap text + 2 + (ahead - (gap text + 2)) := by omega
  have dropped := dropBytes_add_append (ahead - (gap text + 2)) ('x' :: (beforeSlash text ++ ['/'])) (behind ++ later)
  rw [passed, ← sum] at dropped
  rw [parts]
  exact dropped

/-- Such a walk comes to the next slot with a part of the text lost that it should have before it there. -/
theorem overrun_suffix {p : Parameter} {text later whole : List Char} {ahead : Nat} (slash : '/' ∈ text)
    (overrun : 1 + gap text < ahead) (laid : later = List.replicate (gap text) 'y' ++ whole) (nonempty : whole ≠ []) :
    dropBytes (byteLength text) (p.rest (dropBytes ahead (['x'] ++ (text ++ later)))) <:+ whole ∧
      dropBytes (byteLength text) (p.rest (dropBytes ahead (['x'] ++ (text ++ later)))) ≠ whole := by
  obtain ⟨behind, split⟩ := exists_beforeSlash slash
  rw [dropBytes_overrun split overrun later]
  have at_rest := (p.rest_suffix _).trans (dropBytes_suffix (ahead - (gap text + 2)) (behind ++ later))
  have at_next := (dropBytes_suffix (byteLength text) _).trans at_rest
  have text_size : byteLength text = gap text + (1 + byteLength behind) := by
    conv => lhs; rw [split]
    rw [byteLength_append, byteLength_cons]
    rfl
  have later_size : byteLength later = gap text + byteLength whole := by
    rw [laid, byteLength_append, byteLength_replicate _ rfl]
  have whole_size : 0 < byteLength whole := by
    cases whole with
    | nil => exact absurd rfl nonempty
    | cons c rest =>
      have wide := c.utf8Size_pos
      rw [byteLength_cons]
      omega
  have smaller : byteLength (dropBytes (byteLength text)
      (p.rest (dropBytes (ahead - (gap text + 2)) (behind ++ later)))) < byteLength whole := by
    have dropped := byteLength_dropBytes_le (byteLength text)
      (p.rest (dropBytes (ahead - (gap text + 2)) (behind ++ later)))
    have rest_size := byteLength_le_of_suffix at_rest
    rw [byteLength_append] at rest_size
    omega
  have whole_suffix : whole <:+ behind ++ later := by
    rw [laid, ← List.append_assoc]
    exact List.suffix_append _ _
  refine ⟨?_, fun same => ?_⟩
  · rcases List.suffix_or_suffix_of_suffix at_next whole_suffix with inside | outside
    · exact inside
    · have := byteLength_le_of_suffix outside
      omega
  · rw [same] at smaller
    exact Nat.lt_irrefl _ smaller

/-- A walk that runs past the slash behind a short value misses a part of the next value. -/
theorem exists_leak_of_overrun {ahead : Nat} {s next : Slot} (slots : List Slot)
    (single : s.parameter.catchAll = false) (slash : '/' ∈ s.text) (overrun : 1 + gap s.text < ahead)
    (distinct : s.parameter.name ≠ next.parameter.name) :
    ∃ vs ws, Leak ahead (s :: next :: slots) s.parameter.name vs ws := by
  let later : List Char := next.text ++ layout slots (fillers slots)
  -- long enough to outlast the rest of the path and the default
  let n : Nat := later.length + (next.parameter.default.getD "").toList.length + 1
  let long : List Char := List.replicate (gap s.text + n) 'y'
  let whole : List Char := List.replicate n 'y' ++ later
  let ample : List Char := List.replicate (ahead + 1) 'x'
  have ample_value : IsValue ample := isValue_replicate ahead (by decide)
  have short_value : IsValue ['x'] := isValue_replicate 0 (by decide)
  have long_value : IsValue long := isValue_replicate (gap s.text + (n - 1)) (by decide)
  have second := isValue_cons long_value (isValue_fillers slots)
  have laid : long ++ later = List.replicate (gap s.text) 'y' ++ whole := by
    show List.replicate (gap s.text + n) 'y' ++ later = _
    rw [← List.replicate_append_replicate, List.append_assoc]
  have full : found (s :: next :: slots) (dropBytes ahead (ample ++ (s.text ++ (long ++ later)))) =
      dropBytes ahead (ample ++ beforeSlash s.text) :: found (next :: slots) whole := by
    have enough : ahead ≤ byteLength ample + gap s.text := by
      rw [byteLength_replicate _ rfl]
      omega
    have goes := found_cons_of_gap (next :: slots) single slash ample_value.2 enough (long ++ later)
    rwa [dropBytes_replicate (gap s.text) n rfl later] at goes
  have left : whole ≠ [] := List.append_ne_nil_of_left_ne_nil (List.cons_ne_nil _ _) later
  obtain ⟨inside, proper⟩ := overrun_suffix (p := s.parameter) slash overrun laid left
  have shorter := next.parameter.length_take_lt (b := later) (by omega) inside proper
  have outlasts : (next.parameter.default.getD "").toList.length < (next.parameter.take whole).length := by
    have plain : next.parameter.catchAll = true ∨ '/' ∉ List.replicate n 'y' :=
      Or.inr fun there => absurd (List.eq_of_mem_replicate there) (by decide)
    rw [next.parameter.take_append plain, List.length_append, List.length_replicate]
    omega
  have less := next.parameter.length_value_lt shorter outlasts
  have nonempty : next.parameter.take whole ≠ [] := List.ne_nil_of_length_pos (by omega)
  refine ⟨ample :: long :: fillers slots, ['x'] :: long :: fillers slots,
    isValue_cons ample_value second, isValue_cons short_value second,
    .cons (fun hidden => absurd rfl hidden) (.cons (fun _ => rfl) (agreeBut_refl _ slots)), ?_⟩
  show shown _ _ (found _ (dropBytes ahead (ample ++ (s.text ++ (long ++ later))))) ≠
    shown _ _ (found _ (dropBytes ahead (['x'] ++ (s.text ++ (long ++ later)))))
  rw [full, found, shown, shown, found, found, shown, shown, if_neg (Ne.symm distinct),
    if_neg (Ne.symm distinct)]
  intro same
  have texts := (Prod.mk.inj (List.cons.inj (List.cons.inj same).2).1).2
  rw [next.parameter.value_of_ne_nil nonempty] at texts
  rw [← texts, String.toList_ofList] at less
  exact Nat.lt_irrefl _ less

/-- A template that is not separated shows the value of one parameter in the text of another one. -/
theorem exists_leak_of_not_separated {ahead : Nat} {slots : List Slot}
    (distinct : (slots.map (·.parameter.name)).IsChain (· ≠ ·)) (mixed : separatedFrom ahead slots = false) :
    ∃ name vs ws, Leak ahead slots name vs ws := by
  induction slots generalizing ahead with
  | nil => cases mixed
  | cons s slots ih =>
    cases slots with
    | nil => cases mixed
    | cons next slots =>
      obtain ⟨names, others⟩ := List.isChain_cons_cons.1 distinct
      by_cases opened : s.parameter.catchAll = true ∨ '/' ∉ s.text
      · exact ⟨_, exists_leak_of_open ahead slots opened names⟩
      · obtain ⟨several, slash⟩ := not_or.1 opened
        have single := Bool.not_eq_true _ ▸ several
        have slash := Decidable.not_not.1 slash
        by_cases close : ahead ≤ 1 + gap s.text
        · have later : separatedFrom (gap s.text) (next :: slots) = false := by
            rw [separatedFrom, single, List.contains_iff_mem.2 slash, decide_eq_true close] at mixed
            exact mixed
          obtain ⟨name, vs, ws, leak⟩ := ih others later
          have enough : ahead ≤ byteLength ['x'] + gap s.text := close
          have value : IsValue ['x'] := isValue_replicate 0 (by decide)
          refine ⟨name, ['x'] :: vs, ['x'] :: ws, isValue_cons value leak.values, isValue_cons value leak.others,
            .cons (fun _ => rfl) leak.agree, ?_⟩
          rw [layout, layout, found_cons_of_gap _ single slash value.2 enough,
            found_cons_of_gap _ single slash value.2 enough, shown, shown]
          exact fun same => leak.differs (List.cons.inj same).2
        · exact ⟨_, exists_leak_of_overrun slots single slash (by omega) names⟩

end CallTelemetry.Route
