import Mathlib.Data.List.Forall2

/-!
# Chains of steps that can fail

What the success of a chain says about its steps. A chain over a list gives a list that goes together with it item by
item (`mapM_eq_ok_iff`).
-/

namespace CallTelemetry

/-- A chain of two steps succeeds when both do. -/
theorem bind_eq_ok_iff {ε α β : Type} {x : Except ε α} {f : α → Except ε β} {b : β} :
    (x >>= f) = .ok b ↔ ∃ a, x = .ok a ∧ f a = .ok b := by
  cases x with
  | error e => simp [bind, Except.bind]
  | ok a => simp [bind, Except.bind]

/-- A step that gives nothing is only there to succeed. -/
theorem unit_bind_eq_ok_iff {ε β : Type} {x : Except ε Unit} {f : Unit → Except ε β} {b : β} :
    (x >>= f) = .ok b ↔ x = .ok () ∧ f () = .ok b := by
  rw [bind_eq_ok_iff]
  constructor
  · rintro ⟨⟨⟩, passed, later⟩
    exact ⟨passed, later⟩
  · rintro ⟨passed, later⟩
    exact ⟨(), passed, later⟩

/-- A chain of two steps comes to an end when the first one does and the second one after it. -/
theorem exists_bind_eq_ok_iff {ε α β : Type} {x : Except ε α} {f : α → Except ε β} :
    (∃ b, (x >>= f) = .ok b) ↔ ∃ a, x = .ok a ∧ ∃ b, f a = .ok b := by
  simp only [bind_eq_ok_iff]
  rw [exists_comm]
  exact exists_congr fun _ => exists_and_left

theorem not_exists_error_eq_ok {ε α : Type} (e : ε) : ¬ ∃ a : α, Except.error e = .ok a := by
  rintro ⟨a, failed⟩
  cases failed

theorem mapError_eq_ok_iff {ε ε' α : Type} {x : Except ε α} {f : ε → ε'} {a : α} :
    x.mapError f = .ok a ↔ x = .ok a := by
  cases x with
  | error e =>
    constructor
    · intro failed
      cases failed
    · intro failed
      cases failed
  | ok b =>
    show Except.ok b = Except.ok a ↔ _
    rw [Except.ok.injEq, Except.ok.injEq]

theorem pure_eq_ok_iff {ε α : Type} {a b : α} : (pure a : Except ε α) = .ok b ↔ b = a :=
  (Except.ok.injEq a b).to_iff.trans eq_comm

/-- A step for each item of a list: all of them succeed or none counts. -/
theorem mapM_eq_ok_iff {ε α β : Type} {f : α → Except ε β} {xs : List α} {ys : List β} :
    xs.mapM f = .ok ys ↔ List.Forall₂ (fun x y => f x = .ok y) xs ys := by
  induction xs generalizing ys with
  | nil =>
    rw [List.mapM_nil, List.forall₂_nil_left_iff]
    exact pure_eq_ok_iff
  | cons x rest ih =>
    rw [List.mapM_cons, bind_eq_ok_iff, List.forall₂_cons_left_iff]
    constructor
    · rintro ⟨y, first, made⟩
      obtain ⟨others, later, made⟩ := bind_eq_ok_iff.1 made
      cases made
      exact ⟨y, others, first, ih.1 later, rfl⟩
    · rintro ⟨y, others, first, later, rfl⟩
      exact ⟨y, first, bind_eq_ok_iff.2 ⟨others, ih.2 later, rfl⟩⟩

/-- A check of each item of a list passes when it passes for all of them. -/
theorem forM_eq_ok_iff {ε α : Type} {f : α → Except ε Unit} {xs : List α} :
    xs.forM f = .ok () ↔ ∀ x ∈ xs, f x = .ok () := by
  induction xs with
  | nil => exact iff_of_true rfl nofun
  | cons x rest ih =>
    show (f x >>= fun _ => rest.forM f) = _ ↔ _
    rw [unit_bind_eq_ok_iff, ih, List.forall_mem_cons]

/-- A chain over a list comes to an end if each item lets it go on, whatever came before. -/
theorem exists_foldlM_eq_ok_iff {ε α β : Type} {f : β → α → Except ε β} {admits : α → Prop}
    (each : ∀ b x, (∃ b', f b x = .ok b') ↔ admits x) {xs : List α} {b : β} :
    (∃ b', xs.foldlM f b = .ok b') ↔ ∀ x ∈ xs, admits x := by
  induction xs generalizing b with
  | nil => exact iff_of_true ⟨b, rfl⟩ nofun
  | cons x rest ih =>
    rw [List.foldlM_cons, exists_bind_eq_ok_iff, List.forall_mem_cons, ← each b x]
    simp only [ih]
    exact exists_and_right

/-- What stands in the first of two lists that go together has something to go with in the second. -/
theorem exists_of_mem_left {α β : Type} {R : α → β → Prop} {xs : List α} {ys : List β} (each : List.Forall₂ R xs ys)
    {x : α} (there : x ∈ xs) : ∃ y ∈ ys, R x y := by
  induction each with
  | nil => cases there
  | cons first _ ih =>
    rcases List.mem_cons.1 there with rfl | later
    · exact ⟨_, List.mem_cons_self, first⟩
    · obtain ⟨y, among, related⟩ := ih later
      exact ⟨y, List.mem_cons_of_mem _ among, related⟩

theorem exists_of_mem_right {α β : Type} {R : α → β → Prop} {xs : List α} {ys : List β} (each : List.Forall₂ R xs ys)
    {y : β} (there : y ∈ ys) : ∃ x ∈ xs, R x y :=
  exists_of_mem_left (List.Forall₂.flip each) there

/-- Something goes with each item of a list exactly if there is a list that goes with it. -/
theorem exists_forall₂_iff {α β : Type} {R : α → β → Prop} {xs : List α} :
    (∃ ys, List.Forall₂ R xs ys) ↔ ∀ x ∈ xs, ∃ y, R x y := by
  constructor
  · rintro ⟨ys, each⟩ x there
    obtain ⟨y, -, related⟩ := exists_of_mem_left each there
    exact ⟨y, related⟩
  · intro each
    induction xs with
    | nil => exact ⟨[], .nil⟩
    | cons x rest ih =>
      rw [List.forall_mem_cons] at each
      obtain ⟨y, first⟩ := each.1
      obtain ⟨ys, later⟩ := ih each.2
      exact ⟨y :: ys, .cons first later⟩

end CallTelemetry
