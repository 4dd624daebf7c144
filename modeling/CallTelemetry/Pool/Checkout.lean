import CallTelemetry.Pool.Basic

/-!
# Objects on loan

A pool together with the objects that are out, each under the name of its holder. Every object on loan
goes back exactly once: when its holder returns it, when the holder takes another one, or at the end.
-/

namespace CallTelemetry

/-- A pool and its objects on loan. -/
structure Checkout (α : Type) where
  pool : Pool α
  held : List (String × α) := []

namespace Checkout

variable {α : Type}

/-- The object that a holder has. -/
def get? (c : Checkout α) (holder : String) : Option α := c.held.lookup holder

/-- The loans without those of a holder. -/
def without (c : Checkout α) (holder : String) : List (String × α) :=
  c.held.filter fun h => h.1 != holder

/-- Changes the object of a holder, if there is one. -/
def modify (c : Checkout α) (holder : String) (f : α → α) : Checkout α :=
  { c with held := c.held.map fun h => if h.1 == holder then (h.1, f h.2) else h }

variable [Recycle α]

/-- A new object for a holder. An object that the holder still has goes back afterwards. -/
def acquire (c : Checkout α) (holder : String) : Checkout α :=
  let (a, pool) := c.pool.acquire
  { pool := pool.releaseOption (c.get? holder), held := c.without holder ++ [(holder, a)] }

/-- The object of a holder goes back, if there is one. -/
def release (c : Checkout α) (holder : String) : Checkout α :=
  { pool := c.pool.releaseOption (c.get? holder), held := c.without holder }

/-- Everything on loan goes back. -/
def releaseAll (c : Checkout α) : Checkout α :=
  { pool := c.held.foldl (fun p h => p.release h.2) c.pool, held := [] }

end Checkout

end CallTelemetry
