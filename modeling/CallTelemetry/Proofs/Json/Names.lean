import CallTelemetry.Lookup
import CallTelemetry.Proofs.Json.RoundTrip

/-!
# Objects without repeated names

A reader that keeps the last member of each name loses nothing of a value in whose objects no name stands twice: under
every path of names it finds what is written there (`writesAt_iff_of_read`).
-/

namespace CallTelemetry

namespace Json

mutual

/-- Whether no name stands twice in an object, here or further inside. -/
def hasDistinctNames : Json → Bool
  | .arr items => itemsHaveDistinctNames items
  | .obj members => decide (members.map (·.1)).Nodup && membersHaveDistinctNames members
  | _ => true

def itemsHaveDistinctNames : List Json → Bool
  | [] => true
  | item :: rest => item.hasDistinctNames && itemsHaveDistinctNames rest

def membersHaveDistinctNames : List (String × Json) → Bool
  | [] => true
  | (_, value) :: rest => value.hasDistinctNames && membersHaveDistinctNames rest

end

/-- A value holds another one under a path of names. -/
def WritesAt : List String → Json → Json → Prop
  | [], j, value => j = value
  | name :: path, .obj members, value => ∃ inner, (name, inner) ∈ members ∧ WritesAt path inner value
  | _ :: _, _, _ => False

/-- What is found under a path of names. -/
def find? : List String → Json → Option Json
  | [], j => some j
  | name :: path, .obj members => (members.lookup name).bind (find? path)
  | _ :: _, _ => none

theorem hasDistinctNames_of_mem {members : List (String × Json)} (distinct : membersHaveDistinctNames members = true)
    {name : String} {value : Json} (among : (name, value) ∈ members) : value.hasDistinctNames = true := by
  induction members with
  | nil => cases among
  | cons m rest ih =>
    rw [membersHaveDistinctNames, Bool.and_eq_true] at distinct
    rcases List.mem_cons.1 among with rfl | among
    · exact distinct.1
    · exact ih distinct.2 among

/-- Where no name is repeated, what stands under a path is what is found there. -/
theorem writesAt_iff_find? {path : List String} {j : Json} (distinct : j.hasDistinctNames = true) (value : Json) :
    WritesAt path j value ↔ find? path j = some value := by
  induction path generalizing j with
  | nil => exact (Option.some.injEq _ _).symm.to_iff
  | cons name path ih =>
    cases j with
    | obj members =>
      rw [hasDistinctNames, Bool.and_eq_true, decide_eq_true_iff] at distinct
      obtain ⟨names, inside⟩ := distinct
      show (∃ inner, (name, inner) ∈ members ∧ WritesAt path inner value) ↔
        (members.lookup name).bind (find? path) = some value
      rw [Option.bind_eq_some_iff]
      refine exists_congr fun inner => ?_
      rw [lookup_eq_some_iff_mem names]
      exact and_congr_right fun among => ih (hasDistinctNames_of_mem inside among)
    | null | bool b | int n | float d | str s | arr items => exact iff_of_false id nofun

theorem lookup_keptMembers (keeping : Keeping) (members : List (String × Json)) (name : String) :
    (keptMembers keeping members).lookup name = (members.lookup name).map (kept keeping) := by
  induction members with
  | nil => rfl
  | cons m rest ih =>
    rw [keptMembers, List.lookup_cons, List.lookup_cons, ih]
    cases name == m.1 <;> rfl

theorem map_fst_keptMembers (keeping : Keeping) (members : List (String × Json)) :
    (keptMembers keeping members).map (·.1) = members.map (·.1) := by
  induction members with
  | nil => rfl
  | cons m rest ih => rw [keptMembers, List.map_cons, List.map_cons, ih]

theorem lookup_insertMember {α : Type} (name : String) (value : α) (members : List (String × α)) (key : String) :
    (insertMember name value members).lookup key = if key = name then some value else members.lookup key := by
  have first : ∀ rest : List (String × α),
      ((name, value) :: rest).lookup key = if key = name then some value else rest.lookup key := by
    intro rest
    rw [List.lookup_cons]
    by_cases e : key = name
    · rw [if_pos e, beq_iff_eq.2 e]
    · rw [if_neg e, beq_eq_false_iff_ne.2 e]
  induction members with
  | nil => exact first []
  | cons m rest ih =>
    unfold insertMember
    split
    next same =>
      rw [first, List.lookup_cons, ← same]
      by_cases e : key = name
      · rw [if_pos e, if_pos e]
      · rw [if_neg e, if_neg e, beq_eq_false_iff_ne.2 e]
    next other =>
      split
      · exact first _
      · rw [List.lookup_cons, List.lookup_cons, ih]
        by_cases e : key = m.1
        · have apart : key ≠ name := fun same => other (same.symm.trans e)
          rw [if_neg apart, if_neg apart]
        · rw [beq_eq_false_iff_ne.2 e]

/-- Sorting loses no member of a list without repeated names. -/
theorem lookup_sortMembers {α : Type} {members : List (String × α)} (distinct : (members.map (·.1)).Nodup)
    (key : String) : (sortMembers members).lookup key = members.lookup key := by
  have onward : ∀ done : List (String × α), (members.foldl (fun acc m => insertMember m.1 m.2 acc) done).lookup key =
      (members.lookup key).or (done.lookup key) := by
    induction members with
    | nil => exact fun _ => rfl
    | cons m rest ih =>
      intro done
      rw [List.map_cons, List.nodup_cons] at distinct
      rw [List.foldl_cons, ih distinct.2, lookup_insertMember, List.lookup_cons]
      by_cases e : key = m.1
      · have absent := lookup_eq_none_iff_not_mem.2 distinct.1
        rw [e, absent, if_pos rfl, beq_self_eq_true]
        rfl
      · rw [if_neg e, beq_eq_false_iff_ne.2 e]
  exact (onward []).trans Option.or_none

theorem find?_kept_sorted {path : List String} {j : Json} (distinct : j.hasDistinctNames = true) :
    find? path (j.kept .sorted) = (find? path j).map (kept .sorted) := by
  induction path generalizing j with
  | nil => rfl
  | cons name path ih =>
    cases j with
    | obj members =>
      rw [hasDistinctNames, Bool.and_eq_true, decide_eq_true_iff] at distinct
      obtain ⟨names, inside⟩ := distinct
      show ((sortMembers (keptMembers .sorted members)).lookup name).bind (find? path) =
        ((members.lookup name).bind (find? path)).map (kept .sorted)
      rw [lookup_sortMembers (by rwa [map_fst_keptMembers]), lookup_keptMembers]
      cases found : members.lookup name with
      | none => rfl
      | some inner => exact ih (hasDistinctNames_of_mem inside ((lookup_eq_some_iff_mem names).1 found))
    | null | bool b | int n | float d | str s | arr items => rfl

/-- A reader finds every text under its path, and no other. -/
theorem writesAt_iff_of_read {j : Json} (legible : j.Legible .sorted) (distinct : j.hasDistinctNames = true)
    (path : List String) (text : String) :
    WritesAt path j (.str text) ↔ ∃ read, parse? j.render = some read ∧ find? path read = some (.str text) := by
  have read : parse? j.render = some (j.kept .sorted) := read?_render legible
  have only : ∀ k : Json, k.kept .sorted = .str text ↔ k = .str text := by
    intro k
    cases k <;> simp [kept]
  rw [writesAt_iff_find? distinct, read]
  simp only [Option.some.injEq, exists_eq_left', find?_kept_sorted distinct, Option.map_eq_some_iff, only]
  exact (exists_eq_right (p := fun k => find? path j = some k)).symm

end Json

end CallTelemetry
