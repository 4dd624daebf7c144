import CallTelemetry.Record.Basic

/-!
# Pools of a logger

Each logger draws records, header lists and property bags from pools of its own. A record that is given
back takes its header lists and its bag with it, so one release returns everything that a call holds.
-/

namespace CallTelemetry

/-- The three pools of a logger. -/
structure Pools where
  records : Pool LogRecord
  headers : Pool HeaderList
  bags : Pool PropertyBag

namespace Pools

/-- Pools that each keep at most `capacity` idle objects. -/
def ofCapacity (capacity : Nat) : Pools :=
  ⟨.ofCapacity capacity, .ofCapacity capacity, .ofCapacity capacity⟩

/-- Objects that are out at present, in all three pools. -/
def outstanding (p : Pools) : Nat :=
  p.records.outstanding + p.headers.outstanding + p.bags.outstanding

/-- A header list if one is wanted. -/
def takeHeaders (p : Pools) (wanted : Bool) : Option HeaderList × Pools :=
  if wanted then
    let (buffer, headers) := p.headers.acquire
    (some buffer, { p with headers })
  else (none, p)

/-- Gives a header list back if there is one. -/
def releaseHeaders (p : Pools) (buffer : Option HeaderList) : Pools :=
  { p with headers := p.headers.releaseOption buffer }

/-- Gives a property bag back if there is one. -/
def releaseBag (p : Pools) (bag : Option PropertyBag) : Pools :=
  { p with bags := p.bags.releaseOption bag }

/-- Gives a record back with all that it has on loan: the header lists of the request and of the
response, the bag, and then the record itself. -/
def releaseRecord (p : Pools) (r : LogRecord) : Pools :=
  let p := ((p.releaseHeaders r.requestHeaders).releaseHeaders r.responseHeaders).releaseBag r.enrichment
  { p with records := p.records.release r }

end Pools

end CallTelemetry
