import Inetstack.Lib.Machine
import Inetstack.Lib.Table
import Inetstack.Tcp.Basic

/-!
# The cache with expiry (`collections/hashttlcache`)

A table of records, of which some expire. The clock is moved by the user. Expired records are moved to
the graveyard by `cleanup`, which every insertion runs first; `iter` leaves out what has expired, and
`get` does not look. The order in which the table is walked is the order of the list here.
-/

namespace Inetstack.Collections

open Tcp (Duration Fault Instant)

/-- A value, and when it expires, if it does. -/
structure Record (V : Type) where
  value : V
  expiration : Option Instant
  deriving DecidableEq, Repr

/-- A record expires at its deadline, not after it. -/
def Record.hasExpired {V : Type} (r : Record V) (now : Instant) : Bool :=
  match r.expiration with
  | some e => decide (e ≤ now)
  | none => false

/-- The records, the values of those that have expired, and the clock, which the user advances. -/
structure HashTtlCache (K V : Type) [DecidableEq K] where
  map : AList fun _ : K => Record V
  graveyard : AList fun _ : K => V
  defaultTtl : Option Duration
  clock : Instant

namespace HashTtlCache

variable {K V : Type} [DecidableEq K]

/-- The assertion on a time to live. -/
def assertTtl : Option Duration → Except Fault Unit
  | some ttl => if 0 < ttl then .ok () else .error .zeroTtl
  | none => .ok ()

def new (now : Instant) (defaultTtl : Option Duration) : Except Fault (HashTtlCache K V) := do
  assertTtl defaultTtl
  .ok { map := ∅, graveyard := ∅, defaultTtl := defaultTtl, clock := now }

/-- The expired values go too. -/
def clear (cache : HashTtlCache K V) : HashTtlCache K V :=
  { cache with map := ∅, graveyard := ∅ }

/-- The clock may stand still, but not go back. -/
def advanceClock (cache : HashTtlCache K V) (now : Instant) : Except Fault (HashTtlCache K V) :=
  if cache.clock ≤ now then .ok { cache with clock := now } else .error .clockBackwards

/-- The keys the first loop of `cleanup` collects. -/
def deadEntries (cache : HashTtlCache K V) : List K :=
  cache.map.entries.filterMap fun entry =>
    if entry.2.hasExpired cache.clock then some entry.1 else none

/-- The second loop of `cleanup`. -/
def bury (cache : HashTtlCache K V) : List K → Except Fault (HashTtlCache K V)
  | [] => .ok cache
  | k :: ks =>
    match cache.map.lookup k with
    | some v =>
      bury { cache with map := cache.map.erase k, graveyard := cache.graveyard.insert k v.value } ks
    | none => .error .missingEntry

/-- The expired records go to the graveyard. -/
def cleanup (cache : HashTtlCache K V) : Except Fault (HashTtlCache K V) :=
  cache.bury cache.deadEntries

/-- The deadline is taken before the expired records are removed. Returns the value replaced. -/
def insertWithTtl (cache : HashTtlCache K V) (key : K) (value : V) (ttl : Option Duration) :
    Except Fault (Option V × HashTtlCache K V) := do
  assertTtl ttl
  let expiration := ttl.map (cache.clock + ·)
  let cache ← cache.cleanup
  let r : Record V := { value := value, expiration := expiration }
  .ok ((cache.map.lookup key).map (·.value), { cache with map := cache.map.insert key r })

/-- With the default time to live. -/
def insert (cache : HashTtlCache K V) (key : K) (value : V) :
    Except Fault (Option V × HashTtlCache K V) :=
  cache.insertWithTtl key value cache.defaultTtl

/-- A record is found until `cleanup` has removed it, also when it has expired. -/
def get (cache : HashTtlCache K V) (key : K) : Option V :=
  (cache.map.lookup key).map (·.value)

/-- The records that have not expired. -/
def iter (cache : HashTtlCache K V) : List (K × V) :=
  cache.map.entries.filterMap fun entry =>
    if entry.2.hasExpired cache.clock then none else some (entry.1, entry.2.value)

/-- The calls that change a cache. -/
inductive Call (K V : Type) where
  | insert (key : K) (value : V)
  | insertWithTtl (key : K) (value : V) (ttl : Option Duration)
  | advanceClock (now : Instant)
  | cleanup
  | clear
  deriving DecidableEq, Repr

/-- A call without what it returns. -/
def step (cache : HashTtlCache K V) : Call K V → Except Fault (HashTtlCache K V)
  | .insert key value => (cache.insert key value).map (·.2)
  | .insertWithTtl key value ttl => (cache.insertWithTtl key value ttl).map (·.2)
  | .advanceClock now => cache.advanceClock now
  | .cleanup => cache.cleanup
  | .clear => .ok cache.clear

end HashTtlCache

end Inetstack.Collections
