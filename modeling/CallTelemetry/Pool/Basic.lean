import CallTelemetry.Pool.Buffer

/-!
# Pools of reusable objects

A pool hands out idle objects, those first that came back first, and makes a blank one when there is
none. An object that comes back is reset; it joins the idle ones unless it has grown too large or the
pool holds its capacity of idle objects already. The pool counts what it does, and an acquisition and a
release each count once (`acquired_acquire`, `released_release`).
-/

namespace CallTelemetry

/-- Objects that a pool can hand out again. -/
class Recycle (α : Type) where
  blank : α
  reset : α → α
  /-- Whether an object is worth keeping once it is reset. -/
  keeps : α → Bool

instance {floor : Nat} {α : Type} : Recycle (Buffer floor α) where
  blank := {}
  reset := Buffer.clear
  keeps b := b.allocated ≤ Buffer.maxRetained

/-- Idle objects, oldest first, and the counts of a pool. -/
structure Pool (α : Type) where
  capacity : Nat
  idle : List α := []
  /-- Objects made because none was idle. -/
  created : Nat := 0
  /-- Objects handed out again. -/
  reused : Nat := 0
  /-- Objects that came back and were kept. -/
  returned : Nat := 0
  /-- Objects that came back and were given up. -/
  discarded : Nat := 0
  deriving DecidableEq, Repr

namespace Pool

variable {α : Type}

def ofCapacity (capacity : Nat) : Pool α := { capacity }

def acquired (p : Pool α) : Nat := p.created + p.reused

def released (p : Pool α) : Nat := p.returned + p.discarded

/-- Objects that are handed out at present. -/
def outstanding (p : Pool α) : Nat := p.acquired - p.released

variable [Recycle α]

/-- Takes an object out of the pool. -/
def acquire (p : Pool α) : α × Pool α :=
  match p.idle with
  | a :: rest => (a, { p with idle := rest, reused := p.reused + 1 })
  | [] => (Recycle.blank, { p with created := p.created + 1 })

/-- Gives an object back. -/
def release (p : Pool α) (a : α) : Pool α :=
  let a := Recycle.reset a
  if Recycle.keeps a && p.idle.length < p.capacity then
    { p with idle := p.idle ++ [a], returned := p.returned + 1 }
  else { p with discarded := p.discarded + 1 }

/-- Gives an object back if there is one. -/
def releaseOption (p : Pool α) : Option α → Pool α
  | some a => p.release a
  | none => p

theorem acquire_of_idle_nil {p : Pool α} (h : p.idle = []) :
    p.acquire = (Recycle.blank, { p with created := p.created + 1 }) := by
  unfold acquire
  rw [h]

theorem acquire_of_idle_cons {p : Pool α} {a : α} {rest : List α} (h : p.idle = a :: rest) :
    p.acquire = (a, { p with idle := rest, reused := p.reused + 1 }) := by
  unfold acquire
  rw [h]

/-- An object that comes back is kept behind the idle ones, or given up. -/
theorem release_cases (p : Pool α) (a : α) :
    (Recycle.keeps (Recycle.reset a) = true ∧ p.idle.length < p.capacity ∧
      p.release a = { p with idle := p.idle ++ [Recycle.reset a], returned := p.returned + 1 }) ∨
    ((Recycle.keeps (Recycle.reset a) = false ∨ p.capacity ≤ p.idle.length) ∧
      p.release a = { p with discarded := p.discarded + 1 }) := by
  unfold release
  dsimp only
  by_cases room : p.idle.length < p.capacity
  · cases worth : Recycle.keeps (Recycle.reset a) with
    | true => simp [room]
    | false => simp
  · simp [room, Nat.not_lt.1 room]

theorem acquired_acquire (p : Pool α) : p.acquire.2.acquired = p.acquired + 1 := by
  unfold acquire acquired
  split <;> simp only <;> omega

theorem released_acquire (p : Pool α) : p.acquire.2.released = p.released := by
  unfold acquire released
  split <;> rfl

theorem released_release (p : Pool α) (a : α) : (p.release a).released = p.released + 1 := by
  unfold release released
  dsimp only
  split <;> simp only <;> omega

theorem acquired_release (p : Pool α) (a : α) : (p.release a).acquired = p.acquired := by
  unfold release acquired
  dsimp only
  split <;> rfl

theorem capacity_acquire (p : Pool α) : p.acquire.2.capacity = p.capacity := by
  unfold acquire
  split <;> rfl

theorem capacity_release (p : Pool α) (a : α) : (p.release a).capacity = p.capacity := by
  unfold release
  dsimp only
  split <;> rfl

end Pool

end CallTelemetry
