import CallTelemetry.Redaction.Path
import Mathlib.Data.List.Forall2

/-!
# What a blind redactor withholds

A redactor that shows the same for all values of a label withholds what it is given: erasing does, and so does a
format without a place for the value (`formatting_ignoresValue`). A parameter is withheld if its value is given
to such a redactor or replaced outright (`PathPolicy.Withholds`), and then its text in a path does not matter
(`display_eq_of_withholds`). Two walks whose pieces are shown alike one by one give the same path and the same
list of parameters, so if all parameters of a template are withheld nothing of the path is seen
(`format_eq_of_withholds`, `collect_eq_of_withholds`).
-/

namespace CallTelemetry

open Route (Piece Template Parameter Segment)

namespace Redactor

/-- The mark of a place in a format. -/
def place : List Char := ['\x7b', '0', '\x7d']

theorem erasing_ignoresValue : erasing.IgnoresValue :=
  fun _ _ _ => ⟨rfl, fun _ => rfl⟩

theorem fill_cons_of_no_place {c : Char} {rest : List Char} (none : ¬ place <+: c :: rest) (value : List Char) :
    fill value (c :: rest) = c :: fill value rest := by
  refine fill.eq_3 value c rest ?_
  rintro behind rfl rfl
  exact none (List.prefix_append place behind)

theorem fill_of_no_place {format : List Char} (none : ¬ place <:+: format) (value : List Char) :
    fill value format = format := by
  induction format with
  | nil => rfl
  | cons c rest ih =>
    rw [List.infix_cons_iff, not_or] at none
    rw [fill_cons_of_no_place none.1, ih none.2]

/-- A format shows its value only where it has a place for it. -/
theorem formatting_ignoresValue {format : String} (none : ¬ place <:+: format.toList) :
    (formatting format).IgnoresValue := by
  intro c v w
  have same : fill v.toList format.toList = fill w.toList format.toList := by
    rw [fill_of_no_place none, fill_of_no_place none]
  unfold formatting
  dsimp only
  rw [same]
  exact ⟨rfl, fun _ => rfl⟩

theorem apply_eq_of_not_isSafe {r : Redactor} (ignores : r.IgnoresValue) {c : Classification}
    (sensitive : c.isSafe = false) (v w out : String) : r.apply c v out = r.apply c w out := by
  rw [apply_of_not_isSafe sensitive, apply_of_not_isSafe sensitive]
  exact (ignores c v w).2 out

end Redactor

namespace PathPolicy

variable {policy : PathPolicy}

/-- A parameter is not shown as it is: it has a label that is not safe, or it has none and every such parameter
is replaced. -/
def Withholds (policy : PathPolicy) (p : Parameter) : Prop :=
  match policy.mode, policy.classes.lookup p.name with
  | .verbatim, _ => False
  | _, some c => c.isSafe = false
  | .loose, none => False
  | .strict, none => True

theorem display_eq_of_withholds (ignores : policy.redactor.IgnoresValue) {p : Parameter}
    (withholds : policy.Withholds p) (v w out : String) : policy.display p v out = policy.display p w out := by
  unfold Withholds at withholds
  unfold display
  cases mode : policy.mode with
  | verbatim =>
    rw [mode] at withholds
    exact withholds.elim
  | loose =>
    cases label : policy.classes.lookup p.name with
    | none =>
      rw [mode, label] at withholds
      exact withholds.elim
    | some c =>
      rw [mode, label] at withholds
      exact Redactor.apply_eq_of_not_isSafe ignores withholds v w out
  | strict =>
    cases label : policy.classes.lookup p.name with
    | none => rfl
    | some c =>
      rw [mode, label] at withholds
      exact Redactor.apply_eq_of_not_isSafe ignores withholds v w out

/-- Two pieces leave the same text in a path and the same entry in a list of parameters. -/
structure Alike (policy : PathPolicy) (a b : Piece) : Prop where
  written : ∀ out, policy.writePiece out a = policy.writePiece out b
  listed : policy.pairOf a = policy.pairOf b

theorem alike_refl (a : Piece) : policy.Alike a a := ⟨fun _ => rfl, rfl⟩

theorem alike_of_display {p : Parameter} {v w : String}
    (same : ∀ out, policy.display p (p.value v) out = policy.display p (p.value w) out) :
    policy.Alike (.parameter p v) (.parameter p w) := by
  refine ⟨same, ?_⟩
  exact congrArg (fun shown => some (p.name, shown)) (same "")

theorem foldl_writePiece_of_alike {xs ys : List Piece} (alike : List.Forall₂ policy.Alike xs ys)
    (out : String) : xs.foldl policy.writePiece out = ys.foldl policy.writePiece out := by
  induction alike generalizing out with
  | nil => rfl
  | cons first _ ih => rw [List.foldl_cons, List.foldl_cons, first.written out, ih]

theorem filterMap_pairOf_of_alike {xs ys : List Piece} (alike : List.Forall₂ policy.Alike xs ys) :
    xs.filterMap policy.pairOf = ys.filterMap policy.pairOf := by
  induction alike with
  | nil => rfl
  | cons first _ ih => rw [List.filterMap_cons, List.filterMap_cons, first.listed, ih]

/-- If every parameter is withheld, the path does not matter at all, whether it fits the template or not. -/
theorem walkFrom_alike (ignores : policy.redactor.IgnoresValue) {segments : List Segment}
    (withholds : ∀ p, .parameter p ∈ segments → policy.Withholds p) (x y : List Char) :
    List.Forall₂ policy.Alike (Route.walkFrom segments x) (Route.walkFrom segments y) := by
  induction segments generalizing x y with
  | nil => exact .nil
  | cons s rest ih =>
    have later : ∀ p, .parameter p ∈ rest → policy.Withholds p :=
      fun p hp => withholds p (List.mem_cons_of_mem s hp)
    cases s with
    | literal text => exact .cons (alike_refl _) (ih later _ _)
    | parameter p =>
      refine .cons (alike_of_display fun out => ?_) (ih later _ _)
      exact display_eq_of_withholds ignores (withholds p List.mem_cons_self) _ _ out

variable {t : Template} (ignores : policy.redactor.IgnoresValue)
  (withholds : ∀ p ∈ t.parameters, policy.Withholds p)

include ignores withholds

theorem walk_alike (x y : String) : List.Forall₂ policy.Alike (t.walk x) (t.walk y) := by
  apply walkFrom_alike ignores
  intro p hp
  exact withholds p (List.mem_filterMap.2 ⟨.parameter p, hp, rfl⟩)

theorem format_eq_of_withholds (redacted : policy.mode ≠ .verbatim) (x y out : String) :
    policy.format t x out = policy.format t y out := by
  unfold format
  rw [if_neg redacted, if_neg redacted]
  exact foldl_writePiece_of_alike (walk_alike ignores withholds x y) out

theorem collect_eq_of_withholds (x y : String) (out : List (String × String)) :
    policy.collect t x out = policy.collect t y out := by
  unfold collect
  rw [filterMap_pairOf_of_alike (walk_alike ignores withholds x y)]

end PathPolicy

end CallTelemetry
