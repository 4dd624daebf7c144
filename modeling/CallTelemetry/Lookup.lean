/-!
# Values under names

Facts about lists of named values that are looked up by `List.lookup`. Taking the value of a name away leaves those of
the other names (`lookup_filter_ne`), and nothing is taken where there is nothing (`filter_ne_eq_self`). If no name
occurs twice, the value of a name is one of all values, next to those under other names (`perm_of_lookup`).
-/

namespace CallTelemetry

variable {α : Type} {entries : List (String × α)} {key : String}

theorem lookup_map_snd {β : Type} (g : α → β) (entries : List (String × α)) (key : String) :
    (entries.map fun p => (p.1, g p.2)).lookup key = (entries.lookup key).map g := by
  induction entries with
  | nil => rfl
  | cons p rest ih =>
    rw [List.map_cons, List.lookup_cons, List.lookup_cons, ih]
    cases key == p.1 <;> rfl

/-- A value that may be missing is found under its name alone. -/
theorem lookup_optional {β : Type} (name : String) (write : β → α) (o : Option β) (key : String) :
    ((o.map fun b => (name, write b)).toList).lookup key = if key = name then o.map write else none := by
  cases o with
  | none => exact (ite_self none).symm
  | some b =>
    show [(name, write b)].lookup key = _
    rw [List.lookup_cons]
    by_cases e : key = name
    · rw [if_pos e, beq_iff_eq.2 e]
      rfl
    · rw [if_neg e, beq_eq_false_iff_ne.2 e]
      rfl

theorem lookup_eq_none_iff_not_mem : entries.lookup key = none ↔ key ∉ entries.map (·.1) := by
  simp only [List.lookup_eq_none_iff, bne_iff_ne, List.mem_map, not_exists, not_and]
  exact forall₂_congr fun _ _ => ne_comm

theorem lookup_eq_some_iff_mem (distinct : (entries.map (·.1)).Nodup) {a : α} :
    entries.lookup key = some a ↔ (key, a) ∈ entries := by
  induction entries with
  | nil => exact iff_of_false nofun List.not_mem_nil
  | cons p rest ih =>
    rw [List.map_cons, List.nodup_cons] at distinct
    rw [List.lookup_cons, List.mem_cons]
    by_cases e : key = p.1
    · subst e
      have elsewhere : (p.1, a) ∉ rest := fun among => distinct.1 (List.mem_map.2 ⟨_, among, rfl⟩)
      rw [beq_self_eq_true]
      simp only [Option.some.injEq, elsewhere, or_false, Prod.ext_iff, true_and, eq_comm]
    · have other : (key, a) ≠ p := fun same => e (congrArg Prod.fst same)
      rw [beq_eq_false_iff_ne.2 e, or_iff_right other]
      exact ih distinct.2

/-- If a name has only one value, though maybe several times, that is the one that is found. -/
theorem lookup_eq_some_of_only {a : α} (there : (key, a) ∈ entries) (only : ∀ b, (key, b) ∈ entries → b = a) :
    entries.lookup key = some a := by
  cases found : entries.lookup key with
  | none => exact absurd (List.mem_map_of_mem there) (lookup_eq_none_iff_not_mem.1 found)
  | some b =>
    obtain ⟨before, behind, rfl, -⟩ := List.lookup_eq_some_iff.1 found
    rw [only b (List.mem_append_right _ List.mem_cons_self)]

/-- Where a name has its value replaced, the others keep theirs. -/
theorem lookup_map_replace (entries : List (String × α)) (key : String) (a : α) (other : String) :
    (entries.map fun p => if p.1 = key then (key, a) else p).lookup other =
      if other = key then (entries.lookup key).map fun _ => a else entries.lookup other := by
  induction entries with
  | nil => split <;> rfl
  | cons p rest ih =>
    rw [List.map_cons]
    by_cases mine : p.1 = key
    · rw [if_pos mine, List.lookup_cons, ih, List.lookup_cons, List.lookup_cons, mine, beq_self_eq_true]
      by_cases e : other = key
      · rw [if_pos e, if_pos e, beq_iff_eq.2 e]
        rfl
      · rw [if_neg e, if_neg e, beq_eq_false_iff_ne.2 e]
    · rw [if_neg mine, List.lookup_cons, ih, List.lookup_cons, List.lookup_cons, beq_eq_false_iff_ne.2 (Ne.symm mine)]
      cases found : other == p.1 with
      | false => rfl
      | true =>
        dsimp only
        rw [beq_iff_eq.1 found, if_neg mine]

/-- Nothing is taken from a name that has no value. -/
theorem filter_ne_eq_self (absent : entries.lookup key = none) : entries.filter (fun p => p.1 != key) = entries := by
  rw [List.filter_eq_self]
  intro p hp
  exact bne_iff_ne.2 (bne_iff_ne.1 (List.lookup_eq_none_iff.1 absent p hp)).symm

/-- A name whose value is taken has none any more, and the others keep theirs. -/
theorem lookup_filter_ne (entries : List (String × α)) (key other : String) :
    (entries.filter fun p => p.1 != key).lookup other = if other = key then none else entries.lookup other := by
  induction entries with
  | nil => split <;> rfl
  | cons p rest ih =>
    by_cases mine : p.1 = key
    · rw [List.filter_cons_of_neg (by simp [mine]), ih, List.lookup_cons]
      by_cases e : other = key
      · rw [if_pos e, if_pos e]
      · have apart : (other == p.1) = false := beq_eq_false_iff_ne.2 (mine ▸ e)
        rw [if_neg e, if_neg e, apart]
    · rw [List.filter_cons_of_pos (by simpa using mine), List.lookup_cons, List.lookup_cons, ih]
      cases found : other == p.1 with
      | false => rfl
      | true =>
        dsimp only
        rw [beq_iff_eq.1 found, if_neg mine]

theorem not_mem_names_filter_ne (entries : List (String × α)) (key : String) :
    key ∉ (entries.filter fun p => p.1 != key).map (·.1) := by
  intro h
  obtain ⟨p, hp, e⟩ := List.mem_map.1 h
  have := (List.mem_filter.1 hp).2
  rw [bne_iff_ne] at this
  exact this e

/-- Names stay distinct when a new one is added. -/
theorem nodup_names_append (distinct : (entries.map (·.1)).Nodup) (absent : key ∉ entries.map (·.1)) (a : α) :
    ((entries ++ [(key, a)]).map (·.1)).Nodup := by
  rw [List.map_append, List.nodup_append]
  refine ⟨distinct, by simp, ?_⟩
  intro x hx y hy e
  rw [List.map_singleton, List.mem_singleton] at hy
  rw [e, hy] at hx
  exact absent hx

/-- Names stay distinct when the value of one of them is put in the place of what it had. -/
theorem nodup_names_replace (distinct : (entries.map (·.1)).Nodup) (key : String) (a : α) :
    ((entries.filter (fun p => p.1 != key) ++ [(key, a)]).map (·.1)).Nodup :=
  nodup_names_append (distinct.sublist (List.Sublist.map _ List.filter_sublist))
    (not_mem_names_filter_ne entries key) a

theorem perm_of_lookup (distinct : (entries.map (·.1)).Nodup) {a : α} (found : entries.lookup key = some a) :
    (entries.map (·.2)).Perm (a :: (entries.filter fun p => p.1 != key).map (·.2)) := by
  induction entries with
  | nil => cases found
  | cons p rest ih =>
    rw [List.map_cons, List.nodup_cons] at distinct
    rw [List.lookup_cons] at found
    by_cases e : key = p.1
    · subst e
      simp only [beq_self_eq_true, Option.some.injEq] at found
      subst found
      have others := filter_ne_eq_self (lookup_eq_none_iff_not_mem.2 distinct.1)
      rw [List.filter_cons_of_neg (by simp), others, List.map_cons]
    · have apart : (key == p.1) = false := beq_eq_false_iff_ne.2 e
      rw [apart] at found
      rw [List.filter_cons_of_pos (by simpa using Ne.symm e), List.map_cons, List.map_cons]
      exact ((ih distinct.2 found).cons p.2).trans (List.Perm.swap a p.2 _)

end CallTelemetry
