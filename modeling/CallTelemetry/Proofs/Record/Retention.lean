import CallTelemetry.Proofs.Logger.Idle
import CallTelemetry.Proofs.Pool.Growth
import CallTelemetry.Proofs.Pool.Ledger
import CallTelemetry.Proofs.Record.InsertionOrder

/-!
# Which pair buffers are kept

Bags and header lists keep their pairs in a buffer and are filled one pair at a time, over all the holders that they
have (`PairStore`). What is allocated for one is told by the most pairs that it has held in its life
(`PairStore.fits_run`), and since the largest allocation that a pool keeps is one of those that doubling leads to, an
object is given up for its size exactly if it has ever held more pairs than that (`PairStore.retention`).
-/

namespace CallTelemetry

/-- The most that is held at any time of a history. -/
def mostHeld {ι : Type} (held : List ι → Nat) (uses : List ι) : Nat := (uses.inits.map held).foldl max 0

section

variable {ι : Type} {held : List ι → Nat}

theorem mostHeld_nil : mostHeld held [] = held [] := Nat.zero_max _

theorem mostHeld_append_singleton (uses : List ι) (u : ι) :
    mostHeld held (uses ++ [u]) = max (mostHeld held uses) (held (uses ++ [u])) := by
  unfold mostHeld
  rw [List.inits_append, List.map_append, List.foldl_append]
  rfl

theorem mostHeld_le_iff {uses : List ι} {n : Nat} :
    mostHeld held uses ≤ n ↔ ∀ past, past <+: uses → held past ≤ n := by
  induction uses using List.reverseRecOn with
  | nil => simp [mostHeld_nil]
  | append_singleton uses u ih =>
    simp only [mostHeld_append_singleton, Nat.max_le, ih, List.prefix_concat_iff, or_imp, forall_and, forall_eq]
    exact and_comm

end

/-- Objects that keep pairs in a buffer, and are kept for it, with uses that add one pair at the most. -/
structure PairStore (α ι : Type) [Recycle α] extends Handling α ι where
  pairs : α → PairBuffer
  view : Recycle.View pairs
  next : ∀ a u, (pairs a).Next (pairs (after a u))

namespace PairStore

variable {α ι : Type} [Recycle α] (s : PairStore α ι)

/-- How many pairs an object holds after some uses. -/
def held (uses : List ι) : Nat := (s.pairs (s.run uses)).size

/-- The most pairs that an object has ever held after some uses. -/
def peak (uses : List ι) : Nat := mostHeld s.held uses

/-- For how many pairs memory is allocated after some uses. -/
def allocated (uses : List ι) : Nat := (s.pairs (s.run uses)).allocated

/-- What is told by the most pairs that an object has ever held. -/
structure Retention : Prop where
  unused : ∀ uses, s.peak uses = 0 → s.allocated uses = 0
  doubled : ∀ uses, 0 < s.peak uses → IsLeastFor 4 (s.peak uses) (s.allocated uses)
  kept : ∀ uses, Recycle.keeps (Recycle.reset (s.run uses)) = true ↔ ∀ past, past <+: uses → s.held past ≤ 256
  /-- An object is given up for its size, or because the pool is full. -/
  givenUp : ∀ (p : Pool α) uses, (p.release (s.run uses)).discarded = p.discarded + 1 ↔
    256 < s.peak uses ∨ p.capacity ≤ p.idle.length
  /-- Each object of a pool is what its life makes of a new one. -/
  lives : ∀ capacity steps, s.checkout capacity steps = (s.ledger capacity steps).map Handling.Life.object
  idle : ∀ capacity steps, ∀ l ∈ (s.ledger capacity steps).pool.idle, s.peak l.uses ≤ 256 ∧ s.allocated l.uses ≤ 256

theorem fits_run (uses : List ι) : (s.pairs (s.run uses)).Fits (s.peak uses) := by
  unfold peak
  induction uses using List.reverseRecOn with
  | nil =>
    have blank : s.pairs (s.run []) = {} := s.view.blank
    rw [mostHeld_nil, held, blank]
    exact Buffer.fits_blank
  | append_singleton uses u ih =>
    have step : s.run (uses ++ [u]) = s.after (s.run uses) u := List.foldl_append
    rw [mostHeld_append_singleton, held, step]
    exact ih.next (by decide) (s.next _ u)

/-- The largest allocation that is kept is one of those that doubling leads to. -/
theorem allocated_le_iff (uses : List ι) : s.allocated uses ≤ 256 ↔ s.peak uses ≤ 256 :=
  (s.fits_run uses).allocated_le_iff 6

theorem keeps_run_iff (uses : List ι) : Recycle.keeps (s.run uses) = true ↔ s.peak uses ≤ 256 := by
  rw [← s.view.keeps, ← s.allocated_le_iff uses]
  exact decide_eq_true_iff

include s in
/-- Going back to the pool does not change what is allocated. -/
theorem keeps_reset (a : α) : Recycle.keeps (Recycle.reset a) = Recycle.keeps a := by
  rw [← s.view.keeps, ← s.view.keeps, s.view.reset]
  rfl

theorem discarded_release_iff (p : Pool α) (uses : List ι) :
    (p.release (s.run uses)).discarded = p.discarded + 1 ↔ 256 < s.peak uses ∨ p.capacity ≤ p.idle.length := by
  rw [← Nat.not_le, ← s.keeps_run_iff, ← s.keeps_reset]
  obtain ⟨worth, room, taken⟩ | ⟨unfit, refused⟩ := p.release_cases (s.run uses)
  · rw [taken]
    simp only [worth, not_true, false_or]
    omega
  · rw [refused]
    exact iff_of_true rfl (unfit.imp_left (by simp))

/-- The idle objects of a pool have never held more pairs than are kept. -/
theorem peak_le_of_idle {capacity : Nat} {steps : List (HandlingStep ι)} {l : s.Life}
    (idle : l ∈ (s.ledger capacity steps).pool.idle) : s.peak l.uses ≤ 256 := by
  have tracks := (Checkout.tracks_run (α := s.Life) capacity (steps.map (·.toLoanStep Handling.Life.used))).1
  have worth : Recycle.keeps l = true := tracks.worthKeeping l idle
  exact (s.keeps_run_iff l.uses).1 worth

theorem retention : s.Retention where
  unused uses := (s.fits_run uses).unused
  doubled uses := (s.fits_run uses).least
  kept uses := by
    rw [s.keeps_reset, s.keeps_run_iff]
    exact mostHeld_le_iff
  givenUp := s.discarded_release_iff
  lives capacity steps := (s.map_ledger capacity steps).symm
  idle _ _ l among := ⟨s.peak_le_of_idle among, (s.allocated_le_iff l.uses).2 (s.peak_le_of_idle among)⟩

end PairStore

/-! ## Bags and header lists -/

namespace PropertyBag

/-- A key that is there takes its new value in place, so only a new key needs room. -/
theorem next_add (bag : PropertyBag) (key value : String) : bag.entries.Next (bag.add key value).entries := by
  unfold add
  split
  next => exact .overwrite (List.length_map _)
  next => exact .push (key, value)

theorem next_after (bag : PropertyBag) (u : BagUse) : bag.entries.Next (bag.after u).entries := by
  cases u with
  | add key value => exact bag.next_add key value
  | clear => exact .clear
  | recycle => exact .clear

/-- Bags with their uses. -/
def store : PairStore PropertyBag BagUse where
  after := after
  recycle := .recycle
  after_recycle _ := rfl
  pairs := entries
  view := ⟨rfl, fun _ => rfl, fun _ => rfl⟩
  next := next_after

end PropertyBag

/-- One use of a header list. -/
inductive ListUse where
  | push (name value : String)
  | clear
  /-- The list goes back to its pool, which hands it out again. -/
  | recycle

namespace HeaderList

/-- A header list after a use. -/
def after (headers : HeaderList) : ListUse → HeaderList
  | .push name value => headers.push (name, value)
  | .clear => headers.clear
  | .recycle => Recycle.reset headers

theorem next_after (headers : HeaderList) (u : ListUse) : headers.Next (after headers u) := by
  cases u with
  | push name value => exact .push (name, value)
  | clear => exact .clear
  | recycle => exact .clear

/-- Header lists with their uses. -/
def store : PairStore HeaderList ListUse where
  after := after
  recycle := .recycle
  after_recycle _ := rfl
  pairs := id
  view := ⟨rfl, fun _ => rfl, fun _ => rfl⟩
  next := next_after

/-- A capture fills a list one header at a time. -/
theorem read_run (capture : HeaderCapture) (redactor : Redactor) (map : HeaderMap) (uses : List ListUse) :
    capture.read redactor map (store.run uses) =
      store.run (uses ++ (capture.filterMap (HeaderCapture.captured? redactor map)).map fun p => .push p.1 p.2) := by
  unfold Handling.run
  rw [List.foldl_append, List.foldl_map]
  rfl

end HeaderList

/-- Bags and header lists that are filled one pair at a time are given up for their size exactly if they have ever
held more than 256 pairs, and whatever is done to them, none that has room for more is left idle. -/
theorem pairs_retained_up_to_256 : PropertyBag.store.Retention ∧ HeaderList.store.Retention ∧
    ∀ (commands : List (Command Setup)), ∀ l ∈ (Fleet.run Setup.build {} commands).loggers,
      (∀ headers ∈ l.pools.headers.idle, headers.allocated ≤ 256) ∧
        ∀ bag ∈ l.pools.bags.idle, bag.entries.allocated ≤ 256 := by
  refine ⟨PropertyBag.store.retention, HeaderList.store.retention, fun commands l among => ?_⟩
  have slim : l.pools.Slim := Fleet.slim_run Fleet.makesIdle_setup commands l among
  exact ⟨fun headers idle => of_decide_eq_true (slim.headers headers idle),
    fun bag idle => of_decide_eq_true (slim.bags bag idle)⟩

/-- A bag that is handed out twice, and a call with a header whose list comes back to a pool. -/
theorem pairs_retained_up_to_256_two_holders :
    let uses : List BagUse := [.add "a" "1", .add "b" "2", .add "a" "3", .recycle, .add "c" "4"]
    let request : Request :=
      ⟨"GET", ⟨some "https", some "api.example", "/v1/units", none⟩, [⟨⟨"accept", rfl⟩, ⟨[42], rfl⟩⟩], [], none⟩
    let commands : List (Command Setup) :=
      [.create (.http ⟨{ requestHeaders := [⟨"accept", .safe⟩], poolCapacity := 1 }, .erasing, []⟩),
        .operate (.start 0 "a" request false), .operate (.drop "a")]
    IsLeastFor 4 2 (PropertyBag.store.allocated uses) ∧
      ∃ l, (Fleet.run Setup.build {} commands).loggers[0]? = some l ∧ l.pools.headers.idle.length = 1 ∧
        ∀ headers ∈ l.pools.headers.idle, headers.allocated ≤ 256 := by
  intro uses request commands
  obtain ⟨bags, -, idle⟩ := pairs_retained_up_to_256
  refine ⟨bags.doubled uses (by decide), ?_⟩
  have made : ((Fleet.run Setup.build {} commands).loggers[0]?.map (·.pools.headers.idle.length)) = some 1 := by
    decide +kernel
  obtain ⟨l, there, one⟩ := Option.map_eq_some_iff.1 made
  exact ⟨l, there, one, (idle commands l (List.mem_of_getElem? there)).1⟩

example :
    Recycle.keeps (HeaderList.store.run (List.replicate 256 (.push "a" "b"))) = true ∧
      Recycle.keeps (HeaderList.store.run (List.replicate 257 (.push "a" "b"))) = false := by
  decide +kernel

end CallTelemetry
