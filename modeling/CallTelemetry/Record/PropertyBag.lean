import CallTelemetry.Json.Writer
import CallTelemetry.Lookup
import CallTelemetry.Pool.Basic

/-!
# Property bags

The pairs that enrichers contribute to a record. A key keeps the place of its first addition and the
value of its last one, so no key is there twice. A bag carries the proof of this.
-/

namespace CallTelemetry

/-- Puts a pair at the place of its key if the key is there. -/
def replaceValue (key value : String) : List (String × String) → List (String × String) :=
  List.map fun p => if p.1 = key then (p.1, value) else p

theorem map_fst_replaceValue (key value : String) (pairs : List (String × String)) :
    (replaceValue key value pairs).map (·.1) = pairs.map (·.1) := by
  simp only [replaceValue, List.map_map]
  apply List.map_congr_left
  intro p _
  simp only [Function.comp]
  split <;> rfl

/-- Keys and values in the order in which the keys were first added. -/
structure PropertyBag where
  entries : PairBuffer := {}
  distinct : (entries.items.map (·.1)).Nodup := by exact List.nodup_nil
  deriving DecidableEq, Repr

namespace PropertyBag

def toList (bag : PropertyBag) : List (String × String) := bag.entries.items

def keys (bag : PropertyBag) : List String := bag.toList.map (·.1)

def size (bag : PropertyBag) : Nat := bag.entries.size

def isEmpty (bag : PropertyBag) : Bool := bag.toList.isEmpty

/-- The value of a key. -/
def get? (bag : PropertyBag) (key : String) : Option String := bag.toList.lookup key

/-- Adds a pair. A key that is there keeps its place and takes the new value. -/
def add (bag : PropertyBag) (key value : String) : PropertyBag :=
  if there : key ∈ bag.keys then
    { entries := { bag.entries with items := replaceValue key value bag.entries.items }
      distinct := by
        rw [map_fst_replaceValue]
        exact bag.distinct }
  else { entries := bag.entries.push (key, value), distinct := nodup_names_append bag.distinct there value }

/-- Adds pairs in their order. -/
def addAll (bag : PropertyBag) (pairs : List (String × String)) : PropertyBag :=
  pairs.foldl (fun bag p => bag.add p.1 p.2) bag

def clear (bag : PropertyBag) : PropertyBag := { entries := bag.entries.clear }

/-- The bag as a JSON object. -/
def toJson (bag : PropertyBag) : Json := Json.ofPairs bag.toList

instance : Recycle PropertyBag where
  blank := {}
  reset := clear
  keeps bag := Recycle.keeps bag.entries

theorem nodup_keys (bag : PropertyBag) : bag.keys.Nodup := bag.distinct

theorem toList_add (bag : PropertyBag) (key value : String) :
    (bag.add key value).toList =
      if key ∈ bag.keys then replaceValue key value bag.toList else bag.toList ++ [(key, value)] := by
  unfold add
  split <;> rfl

/-- A new key comes behind those that are there. -/
theorem keys_add (bag : PropertyBag) (key value : String) :
    (bag.add key value).keys = if key ∈ bag.keys then bag.keys else bag.keys ++ [key] := by
  show (bag.add key value).toList.map (·.1) = _
  rw [toList_add]
  split
  next => exact map_fst_replaceValue key value bag.toList
  next => rw [List.map_append, List.map_singleton, keys]

theorem mem_keys_add {bag : PropertyBag} {key value k : String} :
    k ∈ (bag.add key value).keys ↔ k ∈ bag.keys ∨ k = key := by
  rw [keys_add]
  split
  next there => exact (or_iff_left_of_imp fun e => e ▸ there).symm
  next => rw [List.mem_append, List.mem_singleton]

theorem get?_eq_none_iff {bag : PropertyBag} {key : String} : bag.get? key = none ↔ key ∉ bag.keys :=
  lookup_eq_none_iff_not_mem

/-- A key has the value that was added for it last. -/
theorem get?_add (bag : PropertyBag) (key value other : String) :
    (bag.add key value).get? other = if other = key then some value else bag.get? other := by
  unfold get?
  rw [toList_add]
  split
  next there =>
    have same : replaceValue key value bag.toList = bag.toList.map fun p => if p.1 = key then (key, value) else p := by
      unfold replaceValue
      refine List.map_congr_left fun p _ => ?_
      split
      next mine => rw [mine]
      next => rfl
    obtain ⟨old, found⟩ := Option.ne_none_iff_exists'.1 fun absent => get?_eq_none_iff.1 absent there
    rw [same, lookup_map_replace, show bag.toList.lookup key = some old from found]
    rfl
  next absent =>
    rw [List.lookup_append, List.lookup_cons]
    by_cases same : other = key
    · rw [if_pos same, same, lookup_eq_none_iff_not_mem.2 absent, beq_self_eq_true]
      rfl
    · rw [if_neg same, beq_eq_false_iff_ne.2 same]
      exact Option.or_none

@[simp] theorem toList_clear (bag : PropertyBag) : bag.clear.toList = [] := rfl

end PropertyBag

end CallTelemetry
