import CallTelemetry.Decimal.Shortest

/-!
# JSON values

A value keeps the members of an object as a list of pairs, in the order in which they are written; a
name may occur twice. Whole numbers from `-2 ^ 63` to `2 ^ 64 - 1` are integers and all other numbers
are doubles.
-/

namespace CallTelemetry

open Decimal (Double Layout)

/-- A JSON value. -/
inductive Json where
  | null
  | bool (b : Bool)
  | int (n : Int)
  | float (d : Double)
  | str (s : String)
  | arr (items : List Json)
  | obj (members : List (String × Json))
  deriving Repr

namespace Json

mutual

/-- Equality of values is decided by comparing them part by part. -/
def decEq : (a b : Json) → Decidable (a = b)
  | .null, .null => isTrue rfl
  | .bool a, .bool b => decidable_of_iff (a = b) (by simp)
  | .int a, .int b => decidable_of_iff (a = b) (by simp)
  | .float a, .float b => decidable_of_iff (a = b) (by simp)
  | .str a, .str b => decidable_of_iff (a = b) (by simp)
  | .arr a, .arr b =>
    match decEqItems a b with
    | isTrue h => isTrue (by rw [h])
    | isFalse h => isFalse (by simpa using h)
  | .obj a, .obj b =>
    match decEqMembers a b with
    | isTrue h => isTrue (by rw [h])
    | isFalse h => isFalse (by simpa using h)
  | .null, .bool _ | .null, .int _ | .null, .float _ | .null, .str _ | .null, .arr _ | .null, .obj _
  | .bool _, .null | .bool _, .int _ | .bool _, .float _ | .bool _, .str _ | .bool _, .arr _
  | .bool _, .obj _
  | .int _, .null | .int _, .bool _ | .int _, .float _ | .int _, .str _ | .int _, .arr _ | .int _, .obj _
  | .float _, .null | .float _, .bool _ | .float _, .int _ | .float _, .str _ | .float _, .arr _
  | .float _, .obj _
  | .str _, .null | .str _, .bool _ | .str _, .int _ | .str _, .float _ | .str _, .arr _ | .str _, .obj _
  | .arr _, .null | .arr _, .bool _ | .arr _, .int _ | .arr _, .float _ | .arr _, .str _ | .arr _, .obj _
  | .obj _, .null | .obj _, .bool _ | .obj _, .int _ | .obj _, .float _ | .obj _, .str _ | .obj _, .arr _ =>
    isFalse nofun

def decEqItems : (a b : List Json) → Decidable (a = b)
  | [], [] => isTrue rfl
  | [], _ :: _ | _ :: _, [] => isFalse nofun
  | x :: a, y :: b =>
    match decEq x y, decEqItems a b with
    | isTrue h, isTrue t => isTrue (by rw [h, t])
    | isFalse h, _ => isFalse (by simp [h])
    | _, isFalse t => isFalse (by simp [t])

def decEqMembers : (a b : List (String × Json)) → Decidable (a = b)
  | [], [] => isTrue rfl
  | [], _ :: _ | _ :: _, [] => isFalse nofun
  | (k, x) :: a, (l, y) :: b =>
    match (inferInstance : Decidable (k = l)), decEq x y, decEqMembers a b with
    | isTrue e, isTrue h, isTrue t => isTrue (by rw [e, h, t])
    | isFalse e, _, _ => isFalse (by simp [e])
    | _, isFalse h, _ => isFalse (by simp [h])
    | _, _, isFalse t => isFalse (by simp [t])

end

instance : DecidableEq Json := decEq

instance : Inhabited Json := ⟨.null⟩

/-- Numbers are positional from `0.00001` to sixteen digits, otherwise they have one digit before the
point and an exponent. -/
def numberLayout : Layout := ⟨16, 4⟩

/-- A count as a value. -/
def nat (n : Nat) : Json := .int n

/-- A value that may be missing, with `null` in its place. -/
def opt {α : Type} (write : α → Json) : Option α → Json
  | none => .null
  | some a => write a

/-- Pairs of texts as the members of an object, in their order. -/
def ofPairs (pairs : List (String × String)) : Json :=
  .obj (pairs.map fun p => (p.1, .str p.2))

/-- Whether a whole number is kept as an integer. -/
def isInteger (n : Int) : Bool :=
  -(Nat.pow 2 63 : Int) ≤ n && n < Nat.pow 2 64

mutual

/-- Whether all whole numbers in a value are in range. -/
def isInRange : Json → Bool
  | .int n => isInteger n
  | .arr items => itemsInRange items
  | .obj members => membersInRange members
  | _ => true

def itemsInRange : List Json → Bool
  | [] => true
  | item :: rest => item.isInRange && itemsInRange rest

def membersInRange : List (String × Json) → Bool
  | [] => true
  | (_, value) :: rest => value.isInRange && membersInRange rest

end

/-- Puts a member into a list that is sorted by name; a name that is already there takes the new value. -/
def insertMember {α : Type} (name : String) (value : α) : List (String × α) → List (String × α)
  | [] => [(name, value)]
  | (k, v) :: rest =>
    if name = k then (name, value) :: rest
    else if name < k then (name, value) :: (k, v) :: rest
    else (k, v) :: insertMember name value rest

/-- Members sorted by name, the last of several equal names counting. -/
def sortMembers {α : Type} (members : List (String × α)) : List (String × α) :=
  members.foldl (fun acc m => insertMember m.1 m.2 acc) []

/-- The object of a list of members, sorted by name. -/
def ofMembers (members : List (String × Json)) : Json := .obj (sortMembers members)

end Json

end CallTelemetry
