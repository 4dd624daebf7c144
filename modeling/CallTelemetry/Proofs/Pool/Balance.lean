import CallTelemetry.Record.Basic

/-!
# Balanced pools

A pool is balanced against a number of objects when its counts leave exactly that many of them out. The
idle objects of a balanced pool fit its capacity and are fresh: blank, or reset by a release. Taking an
object out adds one to the number (`Balanced.acquire`) and gives a fresh object (`Balanced.fresh_acquire`);
a release takes one off, whether the object is kept or given up (`Balanced.release`). Nothing happens to an object while
it is idle, so all idle objects are worth keeping, as they were when they came back (`Slim.release`).
-/

namespace CallTelemetry

/-- An object as a pool hands it out: blank, or reset. -/
def Recycle.Fresh {α : Type} [Recycle α] (a : α) : Prop :=
  a = Recycle.blank ∨ ∃ b, a = Recycle.reset b

/-- Whatever a record held, nothing of it is left when it is handed out again. -/
theorem LogRecord.eq_blank_of_fresh {r : LogRecord} (h : Recycle.Fresh r) : r = LogRecord.blank := by
  rcases h with rfl | ⟨b, rfl⟩
  · rfl
  · exact LogRecord.reset_eq_blank b

/-- A buffer that is handed out holds no items; only its allocation may be left from earlier. -/
theorem Buffer.items_eq_nil_of_fresh {floor : Nat} {α : Type} {b : Buffer floor α} (h : Recycle.Fresh b) :
    b.items = [] := by
  rcases h with rfl | ⟨b, rfl⟩ <;> rfl

theorem PropertyBag.toList_eq_nil_of_fresh {bag : PropertyBag} (h : Recycle.Fresh bag) :
    bag.toList = [] := by
  rcases h with rfl | ⟨b, rfl⟩
  · rfl
  · exact PropertyBag.toList_clear b

namespace Pool

variable {α : Type} [Recycle α] {p : Pool α} {out : Nat}

/-- `out` objects of the pool are out, and those that are idle are fresh and within the capacity. -/
structure Balanced (p : Pool α) (out : Nat) : Prop where
  within : p.idle.length ≤ p.capacity
  kept : p.returned = p.idle.length + p.reused
  settled : p.acquired = p.released + out
  fresh : ∀ a ∈ p.idle, Recycle.Fresh a

theorem balanced_ofCapacity (capacity : Nat) : (ofCapacity capacity : Pool α).Balanced 0 :=
  ⟨Nat.zero_le _, rfl, rfl, by simp [ofCapacity]⟩

theorem Balanced.acquire (h : p.Balanced out) : p.acquire.2.Balanced (out + 1) := by
  have settled : p.acquire.2.acquired = p.acquire.2.released + (out + 1) := by
    rw [acquired_acquire, released_acquire, h.settled]
    omega
  have within := h.within
  have kept := h.kept
  cases e : p.idle with
  | nil =>
    rw [acquire_of_idle_nil e] at settled ⊢
    exact ⟨within, kept, settled, h.fresh⟩
  | cons a rest =>
    rw [acquire_of_idle_cons e] at settled ⊢
    rw [e, List.length_cons] at within kept
    refine ⟨?_, ?_, settled, fun b hb => h.fresh b ?_⟩
    · dsimp only
      omega
    · dsimp only
      omega
    · rw [e]
      exact List.mem_cons_of_mem a hb

theorem Balanced.fresh_acquire (h : p.Balanced out) : Recycle.Fresh p.acquire.1 := by
  cases e : p.idle with
  | nil =>
    rw [acquire_of_idle_nil e]
    exact Or.inl rfl
  | cons a rest =>
    rw [acquire_of_idle_cons e]
    exact h.fresh a (by rw [e]; exact List.mem_cons_self)

theorem Balanced.release (h : p.Balanced (out + 1)) (a : α) : (p.release a).Balanced out := by
  have settled : (p.release a).acquired = (p.release a).released + out := by
    rw [acquired_release, released_release, h.settled]
    omega
  have within := h.within
  have kept := h.kept
  obtain ⟨-, room, taken⟩ | ⟨-, refused⟩ := p.release_cases a
  · rw [taken] at settled ⊢
    refine ⟨?_, ?_, settled, fun b hb => ?_⟩
    · rw [List.length_append, List.length_singleton]
      exact room
    · dsimp only
      rw [List.length_append, List.length_singleton]
      omega
    · rcases List.mem_append.1 hb with hb | hb
      · exact h.fresh b hb
      · exact Or.inr ⟨a, List.mem_singleton.1 hb⟩
  · rw [refused] at settled ⊢
    exact ⟨within, kept, settled, h.fresh⟩

theorem Balanced.outstanding_eq (h : p.Balanced out) : p.outstanding = out := by
  have := h.settled
  unfold outstanding
  omega

/-- Every object that was ever made is idle, out, or given up. -/
theorem Balanced.created_eq (h : p.Balanced out) :
    p.created = p.idle.length + p.outstanding + p.discarded := by
  have settled := h.settled
  have kept := h.kept
  rw [h.outstanding_eq]
  unfold acquired released at settled
  omega

/-- All idle objects are worth keeping. -/
def Slim (p : Pool α) : Prop := ∀ a ∈ p.idle, Recycle.keeps a = true

theorem Slim.acquire (h : p.Slim) : p.acquire.2.Slim := by
  unfold Pool.acquire
  split
  next a rest idle => exact fun b among => h b (idle ▸ List.mem_cons_of_mem a among)
  next => exact h

theorem Slim.release (h : p.Slim) (a : α) : (p.release a).Slim := by
  obtain ⟨worth, -, taken⟩ | ⟨-, refused⟩ := p.release_cases a
  · rw [taken]
    intro b among
    rcases List.mem_append.1 among with among | among
    · exact h b among
    · rw [List.mem_singleton.1 among]
      exact worth
  · rw [refused]
    exact h

theorem Slim.releaseOption (h : p.Slim) (o : Option α) : (p.releaseOption o).Slim := by
  cases o with
  | none => exact h
  | some a => exact h.release a

end Pool

end CallTelemetry
