import CallTelemetry.Pool.Basic
import Mathlib.Algebra.Group.Nat.Defs
import Mathlib.Order.Bounds.Basic

/-!
# What stays allocated for a buffer

A buffer that is filled one item at a time grows by doubling, and what is allocated for it outlives its items. So the
allocation tells the most items that the buffer has ever held: nothing if it held none, and otherwise the least of
`floor`, `2 * floor`, `4 * floor` and so on that is enough for them (`Buffer.Fits`). Each change that adds one item at
the most keeps this (`Fits.next`), however often the buffer is emptied in between.
-/

namespace CallTelemetry

/-- Of the allocations that doubling leads to this is the least one that is enough for the items. -/
def IsLeastFor (floor items allocation : Nat) : Prop :=
  IsLeast {c | items ≤ c ∧ ∃ k, c = floor * 2 ^ k} allocation

namespace IsLeastFor

variable {floor items c : Nat}

theorem one (positive : 0 < floor) : IsLeastFor floor 1 floor := by
  refine ⟨⟨positive, 0, by simp⟩, ?_⟩
  rintro _ ⟨-, k, rfl⟩
  exact Nat.le_mul_of_pos_right floor (Nat.two_pow_pos k)

/-- As long as there is room the same allocation is the least one. -/
theorem succ_of_lt (least : IsLeastFor floor items c) (room : items < c) : IsLeastFor floor (items + 1) c := by
  refine ⟨⟨room, least.1.2⟩, ?_⟩
  rintro d ⟨enough, series⟩
  exact least.2 ⟨by omega, series⟩

/-- After the allocation that is full comes the one of twice its size. -/
theorem succ_of_full (least : IsLeastFor floor items items) (held : 0 < items) :
    IsLeastFor floor (items + 1) (2 * items) := by
  obtain ⟨-, k, series⟩ := least.1
  have twice : 2 * items = floor * 2 ^ (k + 1) := by
    rw [Nat.pow_succ, ← Nat.mul_assoc, ← series, Nat.mul_comm]
  refine ⟨⟨by omega, k + 1, twice⟩, ?_⟩
  rintro _ ⟨enough, j, rfl⟩
  have later : k < j := by
    by_contra notLater
    have earlier : floor * 2 ^ j ≤ floor * 2 ^ k :=
      Nat.mul_le_mul_left floor (Nat.pow_le_pow_right (by omega) (by omega))
    omega
  rw [twice]
  exact Nat.mul_le_mul_left floor (Nat.pow_le_pow_right (by omega) later)

/-- An allocation of the series is not exceeded exactly as long as it is enough for the items. -/
theorem le_iff (least : IsLeastFor floor items c) (k : Nat) : c ≤ floor * 2 ^ k ↔ items ≤ floor * 2 ^ k :=
  ⟨least.1.1.trans, fun enough => least.2 ⟨enough, k, rfl⟩⟩

theorem floor_le (least : IsLeastFor floor items c) : floor ≤ c := by
  obtain ⟨-, k, rfl⟩ := least.1
  exact Nat.le_mul_of_pos_right floor (Nat.two_pow_pos k)

end IsLeastFor

namespace Buffer

variable {floor peak : Nat} {α : Type} {b b' : Buffer floor α}

/-- What is made of a buffer by a change that adds one item at the most. -/
inductive Next (b : Buffer floor α) : Buffer floor α → Prop
  | push (x : α) : Next b (b.push x)
  /-- As many items take the place of those that are there. -/
  | overwrite {items : List α} (same : items.length = b.items.length) : Next b { b with items }
  | clear : Next b b.clear

/-- As much is allocated as a buffer needs that has never held more items. -/
structure Fits (b : Buffer floor α) (peak : Nat) : Prop where
  within : b.size ≤ peak
  unused : peak = 0 → b.allocated = 0
  least : 0 < peak → IsLeastFor floor peak b.allocated

theorem fits_blank : ({} : Buffer floor α).Fits 0 := ⟨Nat.le_refl 0, fun _ => rfl, nofun⟩

theorem Fits.le_allocated (h : b.Fits peak) : peak ≤ b.allocated := by
  rcases Nat.eq_zero_or_pos peak with rfl | held
  · exact Nat.zero_le _
  · exact (h.least held).1.1

theorem grown_eq_self (room : b.size < b.allocated) : b.grown 1 = b.allocated :=
  if_neg (by omega)

/-- One more item than ever before needs the next allocation if the last one is full. -/
theorem Fits.grown (h : b.Fits peak) (positive : 0 < floor) (most : b.size = peak) :
    IsLeastFor floor (peak + 1) (b.grown 1) := by
  have covered := h.le_allocated
  by_cases room : peak < b.allocated
  · have held : 0 < peak := by
      by_contra never
      have := h.unused (by omega)
      omega
    rw [grown_eq_self (by omega)]
    exact (h.least held).succ_of_lt room
  · have full : b.allocated = peak := by omega
    have doubled : b.grown 1 = max (max (2 * peak) (peak + 1)) floor := by
      unfold Buffer.grown
      rw [full, most, if_pos (by omega)]
    rw [doubled]
    rcases Nat.eq_zero_or_pos peak with rfl | held
    · rw [show max (max (2 * 0) (0 + 1)) floor = floor by omega]
      exact .one positive
    · have least := h.least held
      rw [full] at least
      have := least.floor_le
      rw [show max (max (2 * peak) (peak + 1)) floor = 2 * peak by omega]
      exact least.succ_of_full held

theorem Fits.push (h : b.Fits peak) (positive : 0 < floor) (x : α) : (b.push x).Fits (max peak (b.push x).size) := by
  have within := h.within
  have covered := h.le_allocated
  rw [size_push]
  by_cases room : b.size < peak
  · rw [show max peak (b.size + 1) = peak by omega]
    have same : (b.push x).allocated = b.allocated := grown_eq_self (by omega)
    refine ⟨by rw [size_push]; exact room, fun never => by omega, fun held => ?_⟩
    rw [same]
    exact h.least held
  · have most : b.size = peak := by omega
    rw [show max peak (b.size + 1) = peak + 1 by omega]
    exact ⟨by rw [size_push, most], nofun, fun _ => h.grown positive most⟩

/-- Such a change keeps the allocation fitting, with what is held then counted in. -/
theorem Fits.next (h : b.Fits peak) (positive : 0 < floor) (step : b.Next b') : b'.Fits (max peak b'.size) := by
  cases step with
  | push x => exact h.push positive x
  | @overwrite items same =>
    have size : ({ b with items } : Buffer floor α).size = b.size := same
    rw [size, Nat.max_eq_left h.within]
    exact ⟨size.le.trans h.within, h.unused, h.least⟩
  | clear =>
    rw [show b.clear.size = 0 from rfl, Nat.max_zero]
    exact ⟨Nat.zero_le peak, h.unused, h.least⟩

/-- The allocation is within one of the series exactly if the items have never been more than that. -/
theorem Fits.allocated_le_iff (h : b.Fits peak) (k : Nat) : b.allocated ≤ floor * 2 ^ k ↔ peak ≤ floor * 2 ^ k := by
  rcases Nat.eq_zero_or_pos peak with rfl | held
  · rw [h.unused rfl]
  · exact (h.least held).le_iff k

end Buffer

end CallTelemetry
