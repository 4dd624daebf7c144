import CallTelemetry.Lookup
import CallTelemetry.Proofs.Pool.Loans

/-!
# The lives of pooled objects

What has been done to an object since it was made, over all the holders that it has had, is its life: a list of uses,
of which going back to the pool is one (`Handling.Life`). A pool can be run on lives in the place of objects. It then
keeps, hands out and gives up the same ones, so that every object of a pool is told by its own life
(`Handling.map_ledger`).
-/

namespace CallTelemetry

/-! ## Views of objects -/

/-- A pool cannot tell an object from its view. -/
structure Recycle.View {α β : Type} [Recycle α] [Recycle β] (view : α → β) : Prop where
  blank : view Recycle.blank = Recycle.blank
  reset : ∀ a, view (Recycle.reset a) = Recycle.reset (view a)
  keeps : ∀ a, Recycle.keeps (view a) = Recycle.keeps a

section

variable {α β : Type} {view : α → β}

def Pool.map (view : α → β) (p : Pool α) : Pool β := { p with idle := p.idle.map view }

def Checkout.map (view : α → β) (c : Checkout α) : Checkout β where
  pool := c.pool.map view
  held := c.held.map fun h => (h.1, view h.2)

theorem Checkout.get?_map (c : Checkout α) (holder : String) : (c.map view).get? holder = (c.get? holder).map view :=
  lookup_map_snd view c.held holder

theorem Checkout.without_map (c : Checkout α) (holder : String) :
    (c.map view).without holder = (c.without holder).map fun h => (h.1, view h.2) := List.filter_map

theorem Checkout.modify_map {f : α → α} {g : β → β} (same : ∀ a, view (f a) = g (view a)) (c : Checkout α)
    (holder : String) : (c.map view).modify holder g = (c.modify holder f).map view := by
  have held : (c.map view).held.map (fun h => if h.1 == holder then (h.1, g h.2) else h) =
      (c.modify holder f).held.map fun h => (h.1, view h.2) := by
    show (c.held.map fun h => (h.1, view h.2)).map (fun h => if h.1 == holder then (h.1, g h.2) else h) =
      (c.held.map fun h => if h.1 == holder then (h.1, f h.2) else h).map fun h => (h.1, view h.2)
    rw [List.map_map, List.map_map]
    refine List.map_congr_left fun h _ => ?_
    dsimp only [Function.comp]
    split <;> simp [same]
  unfold modify
  rw [held]
  rfl

variable [Recycle α] [Recycle β] (h : Recycle.View view)
include h

theorem Pool.acquire_map (p : Pool α) : (p.map view).acquire = (view p.acquire.1, p.acquire.2.map view) := by
  cases e : p.idle with
  | nil =>
    have idle : (p.map view).idle = [] := by simp [Pool.map, e]
    rw [acquire_of_idle_nil e, acquire_of_idle_nil idle, h.blank]
    rfl
  | cons a rest =>
    have idle : (p.map view).idle = view a :: rest.map view := by simp [Pool.map, e]
    rw [acquire_of_idle_cons e, acquire_of_idle_cons idle]
    rfl

theorem Pool.release_map (p : Pool α) (a : α) : (p.map view).release (view a) = (p.release a).map view := by
  have length : (p.map view).idle.length = p.idle.length := List.length_map view
  unfold release
  simp only [← h.reset, h.keeps, length]
  show (if (Recycle.keeps (Recycle.reset a) && decide (p.idle.length < p.capacity)) = true then _ else _) = _
  split
  · simp [Pool.map]
  · rfl

theorem Pool.releaseOption_map (p : Pool α) (o : Option α) :
    (p.map view).releaseOption (o.map view) = (p.releaseOption o).map view := by
  cases o with
  | none => rfl
  | some a => exact p.release_map h a

theorem Checkout.acquire_map (c : Checkout α) (holder : String) :
    (c.map view).acquire holder = (c.acquire holder).map view := by
  have taken : (c.map view).pool.acquire = _ := c.pool.acquire_map h
  unfold acquire
  rw [taken, get?_map, without_map]
  dsimp only
  rw [Pool.releaseOption_map h]
  simp [Checkout.map]

theorem Checkout.release_map (c : Checkout α) (holder : String) :
    (c.map view).release holder = (c.release holder).map view := by
  have given : (c.map view).pool.releaseOption ((c.get? holder).map view) = _ := c.pool.releaseOption_map h _
  unfold release
  rw [get?_map, without_map, given]
  rfl

theorem Checkout.releaseAll_map (c : Checkout α) : (c.map view).releaseAll = c.releaseAll.map view := by
  have all : ∀ (held : List (String × α)) (p : Pool α),
      (held.map fun h => (h.1, view h.2)).foldl (fun p h => p.release h.2) (p.map view) =
        (held.foldl (fun p h => p.release h.2) p).map view := by
    intro held
    induction held with
    | nil => exact fun p => rfl
    | cons first rest ih =>
      intro p
      rw [List.map_cons, List.foldl_cons, List.foldl_cons, Pool.release_map h, ih]
  unfold releaseAll
  rw [show (c.map view).pool = c.pool.map view from rfl,
    show (c.map view).held = c.held.map fun h => (h.1, view h.2) from rfl, all]
  rfl

end

/-! ## Lives -/

/-- The uses that can be made of the objects of a pool, going back to it among them. -/
structure Handling (α ι : Type) [Recycle α] where
  after : α → ι → α
  recycle : ι
  after_recycle : ∀ a, after a recycle = Recycle.reset a

/-- One thing that can be done with a pool and its objects on loan, which are changed by single uses only. -/
inductive HandlingStep (ι : Type) where
  | acquire (handle : Nat) (holder : String)
  | use (holder : String) (u : ι)
  | release (holder : String)
  | releaseAll

def HandlingStep.toLoanStep {α ι : Type} (after : α → ι → α) : HandlingStep ι → LoanStep α
  | .acquire handle holder => .acquire handle holder
  | .use holder u => .modify holder fun a => after a u
  | .release holder => .release holder
  | .releaseAll => .releaseAll

namespace Handling

variable {α ι : Type} [Recycle α] (h : Handling α ι)

/-- A new object after some uses. -/
def run (uses : List ι) : α := uses.foldl h.after Recycle.blank

/-- All uses that have been made of an object since it was made, by all its holders and by the pool. -/
structure Life (h : Handling α ι) where
  uses : List ι

variable {h}

def Life.object (l : h.Life) : α := h.run l.uses

def Life.used (l : h.Life) (u : ι) : h.Life := ⟨l.uses ++ [u]⟩

theorem Life.object_used (l : h.Life) (u : ι) : (l.used u).object = h.after l.object u := List.foldl_append

instance : Recycle h.Life where
  blank := ⟨[]⟩
  reset l := l.used h.recycle
  keeps l := Recycle.keeps l.object

theorem view_object : Recycle.View (Life.object (h := h)) where
  blank := rfl
  reset l := (l.object_used h.recycle).trans (h.after_recycle l.object)
  keeps _ := rfl

variable (h)

/-- A new pool and its loans after some steps. -/
def checkout (capacity : Nat) (steps : List (HandlingStep ι)) : Checkout α :=
  ({ pool := .ofCapacity capacity } : Checkout α).run (steps.map (·.toLoanStep h.after))

/-- The same with lives in the place of the objects. -/
def ledger (capacity : Nat) (steps : List (HandlingStep ι)) : Checkout h.Life :=
  ({ pool := .ofCapacity capacity } : Checkout h.Life).run (steps.map (·.toLoanStep Life.used))

theorem after_map (c : Checkout h.Life) (s : HandlingStep ι) :
    (c.map Life.object).after (s.toLoanStep h.after) = (c.after (s.toLoanStep Life.used)).map Life.object := by
  cases s with
  | acquire handle holder => exact Checkout.acquire_map view_object c holder
  | use holder u =>
    show (c.map Life.object).modify holder (fun a => h.after a u) =
      (c.modify holder fun l => l.used u).map Life.object
    exact Checkout.modify_map (fun l => l.object_used u) c holder
  | release holder => exact Checkout.release_map view_object c holder
  | releaseAll => exact Checkout.releaseAll_map view_object c

/-- Each object of a pool is what its life makes of a new one. -/
theorem map_ledger (capacity : Nat) (steps : List (HandlingStep ι)) :
    (h.ledger capacity steps).map Life.object = h.checkout capacity steps := by
  have follow : ∀ c : Checkout h.Life, (c.run (steps.map (·.toLoanStep Life.used))).map Life.object =
      (c.map Life.object).run (steps.map (·.toLoanStep h.after)) := by
    induction steps with
    | nil => exact fun c => rfl
    | cons s rest ih =>
      intro c
      refine (ih (c.after (s.toLoanStep Life.used))).trans ?_
      rw [← after_map]
      rfl
  exact follow _

end Handling

end CallTelemetry
