/-!
# Growing buffers

A buffer holds a list of items and remembers for how many items memory is allocated, which outlives
its contents. When items do not fit, the allocation at least doubles, and it never starts below
`floor`.
-/

namespace CallTelemetry

/-- Items and the number of items that memory is allocated for; `floor` is the least allocation. -/
structure Buffer (floor : Nat) (α : Type) where
  items : List α := []
  allocated : Nat := 0
  deriving DecidableEq, Repr

namespace Buffer

variable {floor : Nat} {α : Type}

/-- The largest allocation that a pool keeps. -/
def maxRetained : Nat := 256

def size (b : Buffer floor α) : Nat := b.items.length

/-- The allocation once there is room for `extra` more items. -/
def grown (b : Buffer floor α) (extra : Nat) : Nat :=
  if b.allocated < b.size + extra then max (max (2 * b.allocated) (b.size + extra)) floor
  else b.allocated

/-- One item more. -/
def push (b : Buffer floor α) (x : α) : Buffer floor α :=
  ⟨b.items ++ [x], b.grown 1⟩

/-- Several items more, for which room is made at once. -/
def append (b : Buffer floor α) (xs : List α) : Buffer floor α :=
  ⟨b.items ++ xs, b.grown xs.length⟩

/-- Room for exactly `extra` more items, if there is less. -/
def reserveExact (b : Buffer floor α) (extra : Nat) : Buffer floor α :=
  { b with allocated := max b.allocated (b.size + extra) }

/-- No items; the allocation stays. -/
def clear (b : Buffer floor α) : Buffer floor α :=
  { b with items := [] }

theorem size_push (b : Buffer floor α) (x : α) : (b.push x).size = b.size + 1 := by
  simp [push, size]

end Buffer

/-- A buffer of bytes. -/
abbrev ByteBuffer := Buffer 8 UInt8

/-- A buffer of pairs of texts. -/
abbrev PairBuffer := Buffer 4 (String × String)

/-- Headers as they were captured: name and value, in order. -/
abbrev HeaderList := PairBuffer

end CallTelemetry
