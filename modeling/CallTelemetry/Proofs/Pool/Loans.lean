import CallTelemetry.Pool.Checkout
import CallTelemetry.Lookup
import CallTelemetry.Proofs.Pool.Balance

/-!
# The books of a pool

Holders acquire objects of a pool, change them and give them back in any order. To the pool this is a list of uses
(`Checkout.uses`), in which no object goes back that is not out (`Holds.run`). Over every such list the pool hands its
idle objects out in the order in which they came back, and if nothing it gets back is too large and its capacity is
not below the most objects that are ever out, it makes exactly that many and gives none up (`Tracks.run`). For buffers
this and the counts are put together in `Checkout.books_of_run`.
-/

namespace CallTelemetry

/-- One use of a pool: an object is acquired, or one goes back in the state in which its holder leaves it. -/
inductive PoolUse (α : Type) where
  | acquire
  | release (a : α)

/-- How many objects are out, and the most that were out at one time. -/
structure Load where
  out : Nat := 0
  peak : Nat := 0

namespace Load

variable {α : Type}

def after (load : Load) : PoolUse α → Load
  | .acquire => ⟨load.out + 1, max load.peak (load.out + 1)⟩
  | .release _ => ⟨load.out - 1, load.peak⟩

def run (load : Load) (uses : List (PoolUse α)) : Load := uses.foldl after load

/-- No object goes back that is not out. -/
def AllowsAll (load : Load) : List (PoolUse α) → Prop
  | [] => True
  | .acquire :: rest => (load.after (α := α) .acquire).AllowsAll rest
  | .release a :: rest => 0 < load.out ∧ (load.after (.release a)).AllowsAll rest

theorem allowsAll_append {load : Load} {uses more : List (PoolUse α)} :
    load.AllowsAll (uses ++ more) ↔ load.AllowsAll uses ∧ (load.run uses).AllowsAll more := by
  induction uses generalizing load with
  | nil => exact (and_iff_right trivial).symm
  | cons u rest ih =>
    cases u with
    | acquire => exact ih
    | release a =>
      show _ ∧ _ ↔ (_ ∧ _) ∧ _
      rw [and_assoc]
      exact and_congr_right fun _ => ih

theorem run_append (load : Load) (uses more : List (PoolUse α)) :
    load.run (uses ++ more) = (load.run uses).run more := List.foldl_append

theorem out_run_releases (load : Load) (as : List α) :
    (load.run (as.map .release)).out = load.out - as.length := by
  induction as generalizing load with
  | nil => rfl
  | cons a rest ih =>
    have later : (load.run ((a :: rest).map .release)).out = load.out - 1 - rest.length := ih _
    rw [later, List.length_cons]
    omega

/-- As many objects may go back as are out. -/
theorem allowsAll_releases {load : Load} {as : List α} (enough : as.length ≤ load.out) :
    load.AllowsAll (as.map .release) := by
  induction as generalizing load with
  | nil => trivial
  | cons a rest ih =>
    rw [List.length_cons] at enough
    refine ⟨by omega, ih ?_⟩
    show rest.length ≤ load.out - 1
    omega

end Load

namespace Pool

variable {α : Type} [Recycle α]

def after (p : Pool α) : PoolUse α → Pool α
  | .acquire => p.acquire.2
  | .release a => p.release a

def run (p : Pool α) (uses : List (PoolUse α)) : Pool α := uses.foldl after p

/-- The uses of a list, each with the pool that it finds. -/
def steps (p : Pool α) : List (PoolUse α) → List (Pool α × PoolUse α)
  | [] => []
  | u :: rest => (p, u) :: (p.after u).steps rest

/-- The object that a use hands out again, if the pool counts it as reused. -/
def reissued? : Pool α × PoolUse α → Option α
  | (p, .acquire) => if p.acquire.2.reused = p.reused then none else some p.acquire.1
  | (_, .release _) => none

/-- The object that a use adds to the idle ones, if the pool counts it as returned. -/
def kept? : Pool α × PoolUse α → Option α
  | (_, .acquire) => none
  | (p, .release a) => if (p.release a).returned = p.returned then none else some (Recycle.reset a)

/-- A pool with its load, after the uses of the past. -/
structure Tracks (p : Pool α) (load : Load) (past : List (Pool α × PoolUse α)) : Prop extends
    p.Balanced load.out where
  worthKeeping : ∀ a ∈ p.idle, Recycle.keeps a = true
  /-- The objects that were kept have been handed out again in their order, or are idle. -/
  oldestFirst : past.filterMap kept? = past.filterMap reissued? ++ p.idle
  /-- An object is given up only if it is not worth keeping or the pool is full. -/
  givenUp : ∀ q a, (q, .release a) ∈ past → ((q.release a).discarded = q.discarded + 1 ↔
    Recycle.keeps (Recycle.reset a) = false ∨ q.idle.length = p.capacity)
  frugal : (∀ q a, (q, .release a) ∈ past → Recycle.keeps (Recycle.reset a) = true) →
    load.peak ≤ p.capacity → p.discarded = 0 ∧ p.created = load.peak

variable {p : Pool α} {load : Load} {past : List (Pool α × PoolUse α)}

theorem tracks_ofCapacity (capacity : Nat) : (ofCapacity capacity : Pool α).Tracks {} [] where
  toBalanced := balanced_ofCapacity capacity
  worthKeeping := nofun
  oldestFirst := rfl
  givenUp := nofun
  frugal _ _ := ⟨rfl, rfl⟩

theorem Balanced.created_eq_out {out : Nat} (h : p.Balanced out) :
    p.created = p.idle.length + out + p.discarded := by
  rw [h.created_eq, h.outstanding_eq]

/-- A new object is made only when no object is idle, so all that exist are out then. -/
theorem Tracks.acquire (h : p.Tracks load past) :
    p.acquire.2.Tracks (load.after (α := α) .acquire) (past ++ [(p, .acquire)]) := by
  have balanced := h.toBalanced.acquire
  have slim : p.acquire.2.Slim := Slim.acquire h.worthKeeping
  have created := h.created_eq_out
  have before : ∀ q a, (q, .release a) ∈ past ++ [(p, .acquire)] → (q, .release a) ∈ past := by
    intro q a among
    rcases List.mem_append.1 among with among | among
    · exact among
    · cases List.mem_singleton.1 among
  have fifo : (past ++ [(p, PoolUse.acquire)]).filterMap kept? = past.filterMap reissued? ++ p.idle := by
    rw [List.filterMap_append, h.oldestFirst]
    exact List.append_nil _
  have economy : (∀ q a, (q, .release a) ∈ past ++ [(p, .acquire)] → Recycle.keeps (Recycle.reset a) = true) →
      max load.peak (load.out + 1) ≤ p.capacity → p.discarded = 0 ∧ p.created = load.peak := fun small room =>
    h.frugal (fun q a among => small q a (List.mem_append_left _ among))
      (Nat.le_trans (Nat.le_max_left _ _) room)
  cases e : p.idle with
  | nil =>
    have again : reissued? (p, .acquire) = none := by simp [reissued?, acquire_of_idle_nil e]
    rw [e] at created fifo
    rw [acquire_of_idle_nil e] at balanced slim ⊢
    refine ⟨balanced, slim, ?_, fun q a among => h.givenUp q a (before q a among), fun small room => ?_⟩
    · rw [fifo, List.filterMap_append, List.filterMap_cons, again, e]
      simp
    · obtain ⟨none, all⟩ := economy small room
      refine ⟨none, ?_⟩
      show p.created + 1 = max load.peak (load.out + 1)
      rw [List.length_nil] at created
      omega
  | cons a rest =>
    have again : reissued? (p, .acquire) = some a := by simp [reissued?, acquire_of_idle_cons e]
    rw [e] at created fifo
    rw [acquire_of_idle_cons e] at balanced slim ⊢
    refine ⟨balanced, slim, ?_, fun q a among => h.givenUp q a (before q a among), fun small room => ?_⟩
    · rw [fifo, List.filterMap_append, List.filterMap_cons, again]
      simp
    · obtain ⟨none, all⟩ := economy small room
      refine ⟨none, ?_⟩
      show p.created = max load.peak (load.out + 1)
      rw [List.length_cons] at created
      omega

/-- While no more objects were made than are allowed to be idle, there is room for one that comes back. -/
theorem Tracks.release (h : p.Tracks load past) (out : 0 < load.out) (a : α) :
    (p.release a).Tracks (load.after (.release a)) (past ++ [(p, .release a)]) := by
  have within := h.within
  have created := h.created_eq_out
  have balanced : (p.release a).Balanced (load.out - 1) := by
    refine Balanced.release ?_ a
    rw [Nat.sub_add_cancel out]
    exact h.toBalanced
  have slim : (p.release a).Slim := Slim.release h.worthKeeping a
  have last : ∀ q b, (q, .release b) ∈ past ++ [(p, .release a)] →
      (q, .release b) ∈ past ∨ q = p ∧ b = a := by
    intro q b among
    rcases List.mem_append.1 among with among | among
    · exact Or.inl among
    · cases List.mem_singleton.1 among
      exact Or.inr ⟨rfl, rfl⟩
  have again : (past ++ [(p, PoolUse.release a)]).filterMap reissued? = past.filterMap reissued? := by
    rw [List.filterMap_append]
    exact List.append_nil _
  have economy : (∀ q b, (q, .release b) ∈ past ++ [(p, .release a)] → Recycle.keeps (Recycle.reset b) = true) →
      load.peak ≤ p.capacity → p.discarded = 0 ∧ p.created = load.peak := fun small room =>
    h.frugal (fun q b among => small q b (List.mem_append_left _ among)) room
  obtain ⟨worth, room, taken⟩ | ⟨unfit, refused⟩ := p.release_cases a
  · have keeps : kept? (p, .release a) = some (Recycle.reset a) := by simp [kept?, taken]
    rw [taken] at balanced
    refine ⟨taken ▸ balanced, slim, ?_, fun q b among => ?_, fun small room => ?_⟩
    · rw [again, taken, List.filterMap_append, h.oldestFirst, List.filterMap_cons, keeps]
      simp
    · rw [capacity_release]
      rcases last q b among with among | ⟨rfl, rfl⟩
      · exact h.givenUp q b among
      · rw [taken]
        simp only [worth, Nat.left_eq_add, Nat.one_ne_zero, Bool.true_eq_false, false_or, false_iff]
        omega
    · rw [capacity_release] at room
      rw [taken]
      exact economy small room
  · have gone : kept? (p, .release a) = none := by simp [kept?, refused]
    rw [refused] at balanced
    refine ⟨refused ▸ balanced, slim, ?_, fun q b among => ?_, fun small room => ?_⟩
    · rw [again, refused, List.filterMap_append, h.oldestFirst, List.filterMap_cons, gone]
      simp
    · rw [capacity_release]
      rcases last q b among with among | ⟨rfl, rfl⟩
      · exact h.givenUp q b among
      · rw [refused]
        refine iff_of_true rfl (unfit.imp_right fun full => ?_)
        omega
    · rw [capacity_release] at room
      obtain ⟨none, all⟩ := economy small room
      have worth := small p a (List.mem_append_right _ (List.mem_singleton.2 rfl))
      have full : p.capacity ≤ p.idle.length := by
        rcases unfit with unfit | full
        · rw [worth] at unfit
          cases unfit
        · exact full
      have room : load.peak ≤ p.capacity := room
      omega

theorem Tracks.run (h : p.Tracks load past) {uses : List (PoolUse α)} (allowed : load.AllowsAll uses) :
    (p.run uses).Tracks (load.run uses) (past ++ p.steps uses) := by
  induction uses generalizing p load past with
  | nil =>
    rw [steps, List.append_nil]
    exact h
  | cons u rest ih =>
    have split : past ++ p.steps (u :: rest) = past ++ [(p, u)] ++ (p.after u).steps rest := by
      rw [List.append_assoc]
      rfl
    rw [split]
    cases u with
    | acquire => exact ih h.acquire allowed
    | release a => exact ih (h.release allowed.1 a) allowed.2

end Pool

/-- One thing that can be done with a pool and its objects on loan. A pool and its clones share one state, so an
object may be acquired through any of these handles. -/
inductive LoanStep (α : Type) where
  | acquire (handle : Nat) (holder : String)
  | modify (holder : String) (f : α → α)
  | release (holder : String)
  | releaseAll

namespace Checkout

variable {α : Type} [Recycle α]

def after (c : Checkout α) : LoanStep α → Checkout α
  | .acquire _ holder => c.acquire holder
  | .modify holder f => c.modify holder f
  | .release holder => c.release holder
  | .releaseAll => c.releaseAll

def run (c : Checkout α) (steps : List (LoanStep α)) : Checkout α := steps.foldl after c

/-- The objects that a step gives back. -/
def givenBack (c : Checkout α) : LoanStep α → List α
  | .acquire _ holder | .release holder => (c.get? holder).toList
  | .modify _ _ => []
  | .releaseAll => c.held.map (·.2)

/-- The uses that a step makes of the pool. A holder who has an object still has it while it acquires another one. -/
def usesOf (c : Checkout α) (s : LoanStep α) : List (PoolUse α) :=
  (match s with
    | .acquire _ _ => [.acquire]
    | _ => []) ++ (c.givenBack s).map .release

/-- The uses that a list of steps makes of the pool. -/
def uses (c : Checkout α) : List (LoanStep α) → List (PoolUse α)
  | [] => []
  | s :: rest => c.usesOf s ++ (c.after s).uses rest

/-- The uses that a list of steps makes of the pool, each with the pool that it finds. -/
def history (c : Checkout α) (steps : List (LoanStep α)) : List (Pool α × PoolUse α) := c.pool.steps (c.uses steps)

/-- No holder has two objects, and as many objects are held as are out. -/
structure Holds (c : Checkout α) (load : Load) : Prop where
  distinct : (c.held.map (·.1)).Nodup
  out : load.out = c.held.length

variable {c : Checkout α} {load : Load}

theorem pool_after (c : Checkout α) (s : LoanStep α) : (c.after s).pool = c.pool.run (c.usesOf s) := by
  cases s with
  | acquire handle holder =>
    show c.pool.acquire.2.releaseOption (c.get? holder) =
      c.pool.acquire.2.run ((c.get? holder).toList.map .release)
    cases c.get? holder <;> rfl
  | modify holder f => rfl
  | release holder =>
    show c.pool.releaseOption (c.get? holder) = c.pool.run ((c.get? holder).toList.map .release)
    cases c.get? holder <;> rfl
  | releaseAll =>
    show c.held.foldl (fun p h => p.release h.2) c.pool =
      ((c.held.map (·.2)).map PoolUse.release).foldl Pool.after c.pool
    rw [List.foldl_map, List.foldl_map]
    rfl

theorem pool_run (c : Checkout α) (steps : List (LoanStep α)) : (c.run steps).pool = c.pool.run (c.uses steps) := by
  induction steps generalizing c with
  | nil => rfl
  | cons s rest ih =>
    have later : ((c.after s).run rest).pool = (c.after s).pool.run ((c.after s).uses rest) := ih _
    rw [pool_after] at later
    exact later.trans List.foldl_append.symm

omit [Recycle α] in
/-- What a holder has is taken from what is held. -/
theorem Holds.length_without (h : c.Holds load) (holder : String) :
    (c.without holder).length + (c.get? holder).toList.length = load.out := by
  rw [h.out]
  unfold without get?
  cases held : c.held.lookup holder with
  | none =>
    rw [filter_ne_eq_self held]
    rfl
  | some a =>
    have same := (perm_of_lookup h.distinct held).length_eq
    rw [List.length_map, List.length_cons, List.length_map] at same
    exact same.symm

theorem Holds.after (h : c.Holds load) (s : LoanStep α) :
    load.AllowsAll (c.usesOf s) ∧ (c.after s).Holds (load.run (c.usesOf s)) := by
  cases s with
  | acquire handle holder =>
    have rest := h.length_without holder
    have enough : (c.get? holder).toList.length ≤ load.out + 1 := by omega
    refine ⟨Load.allowsAll_releases enough, nodup_names_replace h.distinct holder _, ?_⟩
    have out : (load.run (c.usesOf (.acquire handle holder))).out = load.out + 1 - (c.get? holder).toList.length :=
      Load.out_run_releases _ _
    rw [out]
    show _ = (c.without holder ++ [(holder, c.pool.acquire.1)]).length
    rw [List.length_append, List.length_singleton]
    omega
  | modify holder f =>
    have names : (c.modify holder f).held.map (·.1) = c.held.map (·.1) := by
      unfold modify
      rw [List.map_map]
      refine List.map_congr_left fun p _ => ?_
      show (if p.1 == holder then (p.1, f p.2) else p).1 = p.1
      split <;> rfl
    refine ⟨trivial, ?_, h.out.trans ?_⟩
    · show ((c.modify holder f).held.map (·.1)).Nodup
      rw [names]
      exact h.distinct
    · exact (List.length_map _).symm
  | release holder =>
    have rest := h.length_without holder
    have enough : (c.get? holder).toList.length ≤ load.out := by omega
    refine ⟨Load.allowsAll_releases enough, h.distinct.sublist (List.Sublist.map _ List.filter_sublist), ?_⟩
    have out : (load.run (c.usesOf (.release holder))).out = load.out - (c.get? holder).toList.length :=
      Load.out_run_releases _ _
    rw [out]
    show _ = (c.without holder).length
    omega
  | releaseAll =>
    have all : (c.held.map (·.2)).length = load.out := by rw [List.length_map, h.out]
    refine ⟨Load.allowsAll_releases (Nat.le_of_eq all), List.nodup_nil, ?_⟩
    have out : (load.run (c.usesOf .releaseAll)).out = load.out - (c.held.map (·.2)).length :=
      Load.out_run_releases _ _
    rw [out, all, Nat.sub_self]
    rfl

/-- Holders give back only what they hold. -/
theorem Holds.run (h : c.Holds load) (steps : List (LoanStep α)) :
    load.AllowsAll (c.uses steps) ∧ (c.run steps).Holds (load.run (c.uses steps)) := by
  induction steps generalizing c load with
  | nil => exact ⟨trivial, h⟩
  | cons s rest ih =>
    obtain ⟨now, next⟩ := h.after s
    obtain ⟨later, last⟩ := ih next
    refine ⟨Load.allowsAll_append.2 ⟨now, later⟩, ?_⟩
    show ((c.after s).run rest).Holds (load.run (c.usesOf s ++ (c.after s).uses rest))
    rw [Load.run_append]
    exact last

/-- After any steps a pool has done what its past requires. -/
theorem tracks_run (capacity : Nat) (steps : List (LoanStep α)) :
    let start : Checkout α := { pool := .ofCapacity capacity }
    (start.run steps).pool.Tracks (Load.run {} (start.uses steps)) (start.history steps) ∧
      (start.run steps).Holds (Load.run {} (start.uses steps)) := by
  intro start
  have begins : start.Holds {} := ⟨List.nodup_nil, rfl⟩
  obtain ⟨allowed, holds⟩ := begins.run steps
  have tracks := (Pool.tracks_ofCapacity capacity).run allowed
  rw [pool_run]
  exact ⟨tracks, holds⟩

/-- A holder who acquires an object gets what the pool hands out. -/
theorem get?_acquire (c : Checkout α) (holder : String) :
    (c.acquire holder).get? holder = some c.pool.acquire.1 := by
  show (c.without holder ++ [(holder, c.pool.acquire.1)]).lookup holder = _
  unfold without
  rw [List.lookup_append, lookup_filter_ne, if_pos rfl, List.lookup_cons_self]
  rfl

variable {floor : Nat} {β : Type}

/-- The books of a pool of buffers and its loans. `history` are the uses that were made of the pool, and `peak` is the
most buffers that were out at one time. -/
structure Books (capacity : Nat) (c : Checkout (Buffer floor β))
    (history : List (Pool (Buffer floor β) × PoolUse (Buffer floor β))) (peak : Nat) : Prop where
  /-- Whoever acquires a buffer now, through the pool or a clone, gets an empty one. -/
  empty : ∀ handle holder, ∃ b, (c.after (.acquire handle holder)).get? holder = some b ∧ b.items = []
  balance : c.pool.created + c.pool.reused = c.pool.returned + c.pool.discarded + c.held.length
  idle : c.pool.idle.length = c.pool.returned - c.pool.reused ∧ c.pool.reused ≤ c.pool.returned
  within : c.pool.idle.length ≤ capacity
  created : c.pool.created = c.pool.idle.length + c.held.length + c.pool.discarded
  /-- Of the buffers that were kept the first ones to come back were the first ones to be handed out again. -/
  oldestFirst : history.filterMap Pool.kept? = history.filterMap Pool.reissued? ++ c.pool.idle
  small : ∀ b ∈ c.pool.idle, b.allocated ≤ 256
  givenUp : ∀ q b, (q, .release b) ∈ history →
    ((q.release b).discarded = q.discarded + 1 ↔ 256 < b.allocated ∨ q.idle.length = capacity)
  frugal : (∀ q b, (q, .release b) ∈ history → b.allocated ≤ 256) → peak ≤ capacity →
    c.pool.discarded = 0 ∧ c.pool.created = peak

theorem capacity_poolRun (p : Pool α) (uses : List (PoolUse α)) : (p.run uses).capacity = p.capacity := by
  induction uses generalizing p with
  | nil => rfl
  | cons u rest ih =>
    refine (ih (p.after u)).trans ?_
    cases u with
    | acquire => exact p.capacity_acquire
    | release a => exact p.capacity_release a

theorem books_of_run (capacity : Nat) (steps : List (LoanStep (Buffer floor β))) :
    let start : Checkout (Buffer floor β) := { pool := .ofCapacity capacity }
    Books capacity (start.run steps) (start.history steps) (Load.run {} (start.uses steps)).peak := by
  intro start
  have tracks : (start.run steps).pool.Tracks (Load.run {} (start.uses steps)) (start.history steps) :=
    (tracks_run capacity steps).1
  have holds : (start.run steps).Holds (Load.run {} (start.uses steps)) := (tracks_run capacity steps).2
  have room : (start.run steps).pool.capacity = capacity := by
    rw [pool_run]
    exact capacity_poolRun _ _
  have settled := tracks.settled
  have kept := tracks.kept
  have keeps_iff : ∀ b : Buffer floor β, Recycle.keeps (Recycle.reset b) = true ↔ b.allocated ≤ 256 :=
    fun b => decide_eq_true_iff
  refine
    { empty := fun handle holder => ?_
      balance := ?_
      idle := by omega
      within := ?_
      created := ?_
      oldestFirst := tracks.oldestFirst
      small := fun b among => decide_eq_true_iff.1 (tracks.worthKeeping b among)
      givenUp := fun q b among => ?_
      frugal := fun small within => ?_ }
  · exact ⟨_, get?_acquire _ holder, Buffer.items_eq_nil_of_fresh tracks.fresh_acquire⟩
  · rw [holds.out] at settled
    exact settled
  · rw [← room]
    exact tracks.within
  · rw [← holds.out]
    exact tracks.created_eq_out
  · rw [tracks.givenUp q b among, room, ← Bool.not_eq_true, keeps_iff, Nat.not_le]
  · refine tracks.frugal (fun q b among => (keeps_iff b).2 (small q b among)) ?_
    rw [room]
    exact within

/-- Two of three holders have a buffer at one time, so two buffers are enough for all of them. -/
theorem books_of_three_holders :
    let start : Checkout (Buffer 8 Nat) := { pool := .ofCapacity 2 }
    let c := start.run
      [.acquire 0 "a", .acquire 1 "b", .modify "a" (·.push 7), .release "a", .acquire 0 "c", .releaseAll]
    c.pool.discarded = 0 ∧ c.pool.created = 2 := by
  intro start c
  have small : (start.history [.acquire 0 "a", .acquire 1 "b", .modify "a" (·.push 7), .release "a", .acquire 0 "c",
      .releaseAll]).all (fun (_, u) => match u with
        | .release b => b.allocated ≤ 256
        | .acquire => true) = true := by decide
  refine (books_of_run 2 _).frugal (fun q b among => ?_) (by decide)
  exact of_decide_eq_true (List.all_eq_true.1 small _ among)

end Checkout

end CallTelemetry
