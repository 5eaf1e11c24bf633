import Mathlib.Algebra.Order.Ring.Rat
import Mathlib.Logic.Function.Basic
import Inetstack.Collections.HashTtlCache

/-!
# The cache as a map with expiry

`ExpiringMap` says what the cache is for: every key has its last insertion, and an insertion counts until
its deadline. The cache keeps the insertions whose deadline was still to come when it last removed the
expired ones. Between two such sweeps the clock may pass a deadline; the record is then still found by
`get`, though `iter` leaves it out.
-/

namespace Inetstack.Collections

open Tcp (Duration Fault Instant)
open HashTtlCache (Call)

variable {K V : Type} [DecidableEq K]

/-! ## The map with expiry -/

/-- The last insertion of every key since the map was cleared, as a value and a deadline. -/
structure ExpiringMap (K V : Type) where
  inserted : K → Option (Record V)
  defaultTtl : Option Duration
  clock : Instant
  /-- The clock at the last call that removes what has expired. -/
  swept : Instant

namespace ExpiringMap

/-- Nothing is in the map, and the clock stands. -/
def new (now : Instant) (defaultTtl : Option Duration) : ExpiringMap K V where
  inserted := fun _ => none
  defaultTtl := defaultTtl
  clock := now
  swept := now

/-- The value and the time it expires at; without a time to live, never. -/
def insertWithTtl (m : ExpiringMap K V) (key : K) (value : V) (ttl : Option Duration) :
    ExpiringMap K V :=
  { m with
    inserted := Function.update m.inserted key (some ⟨value, ttl.map (m.clock + ·)⟩)
    swept := m.clock }

/-- What a call on the cache is to the map. -/
def step (m : ExpiringMap K V) : Call K V → ExpiringMap K V
  | .insert key value => m.insertWithTtl key value m.defaultTtl
  | .insertWithTtl key value ttl => m.insertWithTtl key value ttl
  | .advanceClock now => { m with clock := now }
  | .cleanup => { m with swept := m.clock }
  | .clear => { m with inserted := fun _ => none }

/-- The map after a list of calls. -/
def after (now : Instant) (defaultTtl : Option Duration) (calls : List (Call K V)) : ExpiringMap K V :=
  calls.foldl step (new now defaultTtl)

/-- The value of the last insertion, unless its deadline has come. -/
def get (m : ExpiringMap K V) (key : K) : Option V :=
  match m.inserted key with
  | some r => if r.hasExpired m.clock then none else some r.value
  | none => none

/-- The deadline of the last insertion has come, and no call that removes what has expired was made
since. -/
def Stale (m : ExpiringMap K V) (key : K) : Prop :=
  ∃ value deadline, m.inserted key = some ⟨value, some deadline⟩ ∧ m.swept < deadline ∧
    deadline ≤ m.clock

end ExpiringMap

/-! ## Removing what has expired -/

namespace HashTtlCache

/-- A dead entry is one that has expired by the clock of the cache. -/
theorem mem_deadEntries {cache : HashTtlCache K V} {key : K} :
    key ∈ cache.deadEntries ↔
      ∃ r, cache.map.lookup key = some r ∧ r.hasExpired cache.clock = true := by
  simp only [deadEntries, List.mem_filterMap, Option.ite_none_right_eq_some, Option.some.injEq]
  constructor
  · rintro ⟨⟨k, r⟩, member, expired, rfl⟩
    exact ⟨r, AList.mem_lookup_iff.mpr member, expired⟩
  · rintro ⟨r, found, expired⟩
    exact ⟨⟨key, r⟩, AList.mem_lookup_iff.mp found, expired, rfl⟩

/-- The list of dead entries names each key once. -/
theorem nodup_deadEntries (cache : HashTtlCache K V) : cache.deadEntries.Nodup := by
  apply Table.pairwise_filterMap
  intro e e' k k' keys read read'
  simp only [Option.ite_none_right_eq_some, Option.some.injEq] at read read'
  rw [← read.2, ← read'.2]
  exact keys

/-- The keys are removed, and nothing else. -/
theorem bury_eq {keys : List K} (distinct : keys.Nodup) {cache : HashTtlCache K V}
    (known : ∀ key ∈ keys, (cache.map.lookup key).isSome = true) :
    ∃ cache', cache.bury keys = .ok cache' ∧ cache'.clock = cache.clock ∧
      cache'.defaultTtl = cache.defaultTtl ∧
      ∀ key, cache'.map.lookup key = if key ∈ keys then none else cache.map.lookup key := by
  induction keys generalizing cache with
  | nil => exact ⟨cache, rfl, rfl, rfl, fun key => by simp⟩
  | cons k ks ih =>
    obtain ⟨notMem, distinct⟩ := List.nodup_cons.mp distinct
    obtain ⟨r, found⟩ := Option.isSome_iff_exists.mp (known k List.mem_cons_self)
    set next : HashTtlCache K V := { cache with
      map := cache.map.erase k, graveyard := cache.graveyard.insert k r.value }
    have rest : ∀ key ∈ ks, (next.map.lookup key).isSome = true := by
      intro key member
      have other : key ≠ k := fun same => notMem (same ▸ member)
      rw [AList.lookup_erase_ne other]
      exact known key (List.mem_cons_of_mem k member)
    obtain ⟨cache', buried, clock, defaultTtl, lookup⟩ := ih distinct rest
    refine ⟨cache', ?_, clock, defaultTtl, ?_⟩
    · simp only [bury, found]
      exact buried
    · intro key
      rw [lookup key, Table.lookup_erase]
      by_cases same : key = k <;> simp [same]

/-- A sweep keeps the records that have not expired. It never panics. -/
theorem cleanup_eq (cache : HashTtlCache K V) :
    ∃ cache', cache.cleanup = .ok cache' ∧ cache'.clock = cache.clock ∧
      cache'.defaultTtl = cache.defaultTtl ∧
      ∀ key, cache'.map.lookup key =
        (cache.map.lookup key).filter fun r => !r.hasExpired cache.clock := by
  have known : ∀ key ∈ cache.deadEntries, (cache.map.lookup key).isSome = true := by
    intro key member
    obtain ⟨r, found, -⟩ := mem_deadEntries.mp member
    rw [found]
    rfl
  obtain ⟨cache', buried, clock, defaultTtl, lookup⟩ := bury_eq cache.nodup_deadEntries known
  refine ⟨cache', buried, clock, defaultTtl, ?_⟩
  intro key
  rw [lookup key]
  cases found : cache.map.lookup key with
  | none => simp
  | some r =>
    have dead : key ∈ cache.deadEntries ↔ r.hasExpired cache.clock = true := by
      simp only [mem_deadEntries, found, Option.some.injEq, exists_eq_left']
    by_cases expired : r.hasExpired cache.clock = true
    · simp [dead.mpr expired, expired, Option.filter_some]
    · simp [mt dead.mp expired, expired, Option.filter_some]

/-- An insertion returns the value that was there, if that has not expired. -/
theorem insertWithTtl_eq {cache cache' : HashTtlCache K V} {key : K} {value : V}
    {ttl : Option Duration} {old : Option V}
    (ran : cache.insertWithTtl key value ttl = .ok (old, cache')) :
    (∀ d, ttl = some d → 0 < d) ∧ cache'.clock = cache.clock ∧ cache'.defaultTtl = cache.defaultTtl ∧
      ∀ key', cache'.map.lookup key' =
        if key' = key then some ⟨value, ttl.map (cache.clock + ·)⟩
        else (cache.map.lookup key').filter fun r => !r.hasExpired cache.clock := by
  obtain ⟨swept, cleaned, clock, defaultTtl, lookup⟩ := cache.cleanup_eq
  obtain ⟨_, asserted, ran⟩ := Machine.bind_eq_ok.mp ran
  simp only [cleaned, bind, Except.bind, Except.ok.injEq, Prod.mk.injEq] at ran
  obtain ⟨-, rfl⟩ := ran
  refine ⟨?_, clock, defaultTtl, ?_⟩
  · rintro d rfl
    by_contra zero
    simp only [assertTtl, if_neg zero, reduceCtorEq] at asserted
  · intro key'
    rw [Table.lookup_insert, lookup]

/-- Every call returns, unless it is one the two assertions refuse. -/
theorem step_ok_iff {cache : HashTtlCache K V} {call : Call K V} :
    (∃ cache', cache.step call = .ok cache') ↔
      match call with
      | .insert _ _ => ∀ d, cache.defaultTtl = some d → 0 < d
      | .insertWithTtl _ _ ttl => ∀ d, ttl = some d → 0 < d
      | .advanceClock now => cache.clock ≤ now
      | .cleanup => True
      | .clear => True := by
  have inserted (key : K) (value : V) (ttl : Option Duration) :
      (∃ cache', (cache.insertWithTtl key value ttl).map (·.2) = .ok cache') ↔
        ∀ d, ttl = some d → 0 < d := by
    constructor
    · rintro ⟨cache', ran⟩
      obtain ⟨⟨old, cache''⟩, ran, -⟩ := Machine.map_eq_ok _ ran
      exact (insertWithTtl_eq ran).1
    · intro positive
      obtain ⟨swept, cleaned, -⟩ := cache.cleanup_eq
      have asserted : assertTtl ttl = .ok () := by
        cases ttl with
        | none => rfl
        | some d => rw [assertTtl, if_pos (positive d rfl)]
      simp [insertWithTtl, asserted, cleaned, bind, Except.bind, Except.map]
  cases call with
  | insert key value => exact inserted key value cache.defaultTtl
  | insertWithTtl key value ttl => exact inserted key value ttl
  | advanceClock now =>
    by_cases forward : cache.clock ≤ now <;> simp [step, advanceClock, forward]
  | cleanup =>
    obtain ⟨swept, cleaned, -⟩ := cache.cleanup_eq
    simp [step, cleaned]
  | clear => simp [step]

end HashTtlCache

/-! ## The cache refines the map, up to its sweeps -/

/-- What has expired stays so. -/
theorem Record.hasExpired_mono {r : Record V} {earlier later : Instant} (le : earlier ≤ later)
    (expired : r.hasExpired earlier = true) : r.hasExpired later = true := by
  unfold Record.hasExpired at *
  split at expired
  · exact decide_eq_true (le_trans (of_decide_eq_true expired) le)
  · cases expired

/-- The cache holds the insertions whose deadline was to come at the last sweep. -/
structure HashTtlCache.Refines (cache : HashTtlCache K V) (m : ExpiringMap K V) : Prop where
  clock : cache.clock = m.clock
  defaultTtl : cache.defaultTtl = m.defaultTtl
  swept : m.swept ≤ m.clock
  lookup : ∀ key, cache.map.lookup key = (m.inserted key).filter fun r => !r.hasExpired m.swept

namespace HashTtlCache.Refines

variable {cache cache' : HashTtlCache K V} {m : ExpiringMap K V}

/-- A new cache is an empty map. -/
theorem new {now : Instant} {defaultTtl : Option Duration}
    (ran : HashTtlCache.new now defaultTtl = .ok cache) :
    cache.Refines (ExpiringMap.new now defaultTtl) := by
  obtain ⟨-, -, made⟩ := Machine.bind_eq_ok.mp ran
  cases made
  exact ⟨rfl, rfl, le_rfl, fun key => rfl⟩

/-- A sweep at the clock of the map. -/
theorem filter_lookup (h : cache.Refines m) (key : K) :
    ((cache.map.lookup key).filter fun r => !r.hasExpired cache.clock) =
      (m.inserted key).filter fun r => !r.hasExpired m.clock := by
  rw [h.lookup key, h.clock]
  cases m.inserted key with
  | none => rfl
  | some r =>
    by_cases expired : r.hasExpired m.swept = true
    · simp [expired, Record.hasExpired_mono h.swept expired, Option.filter_some]
    · simp [expired, Option.filter_some]

/-- An insert is an insert. -/
theorem insertWithTtl (h : cache.Refines m) {key : K} {value : V} {ttl : Option Duration}
    {old : Option V} (ran : cache.insertWithTtl key value ttl = .ok (old, cache')) :
    cache'.Refines (m.insertWithTtl key value ttl) := by
  obtain ⟨positive, clock, defaultTtl, lookup⟩ := insertWithTtl_eq ran
  refine ⟨clock.trans h.clock, defaultTtl.trans h.defaultTtl, le_rfl, ?_⟩
  intro key'
  rw [lookup key']
  by_cases same : key' = key
  · -- A time to live is positive, so the new deadline is still to come.
    have alive : Record.hasExpired ⟨value, ttl.map (m.clock + ·)⟩ m.clock = false := by
      cases ttl with
      | none => rfl
      | some d => exact decide_eq_false (not_le.mpr (lt_add_of_pos_right m.clock (positive d rfl)))
    simp [same, ExpiringMap.insertWithTtl, h.clock, alive, Option.filter_some]
  · have other : (m.insertWithTtl key value ttl).inserted key' = m.inserted key' :=
      Function.update_of_ne same _ _
    rw [if_neg same, h.filter_lookup key', other]
    rfl

/-- **One call** keeps the refinement. -/
theorem step (h : cache.Refines m) {call : Call K V} (ran : cache.step call = .ok cache') :
    cache'.Refines (m.step call) := by
  cases call with
  | insert key value =>
    obtain ⟨⟨old, next⟩, inserted, rfl⟩ := Machine.map_eq_ok _ ran
    rw [HashTtlCache.insert, h.defaultTtl] at inserted
    exact h.insertWithTtl inserted
  | insertWithTtl key value ttl =>
    obtain ⟨⟨old, next⟩, inserted, rfl⟩ := Machine.map_eq_ok _ ran
    exact h.insertWithTtl inserted
  | advanceClock now =>
    by_cases forward : cache.clock ≤ now
    · simp only [HashTtlCache.step, advanceClock, if_pos forward, Except.ok.injEq] at ran
      subst ran
      refine ⟨rfl, h.defaultTtl, ?_, h.lookup⟩
      exact le_trans h.swept (h.clock ▸ forward)
    · simp only [HashTtlCache.step, advanceClock, if_neg forward, reduceCtorEq] at ran
  | cleanup =>
    obtain ⟨swept, cleaned, clock, defaultTtl, lookup⟩ := cache.cleanup_eq
    cases cleaned.symm.trans ran
    refine ⟨clock.trans h.clock, defaultTtl.trans h.defaultTtl, le_rfl, ?_⟩
    intro key
    rw [lookup key, h.filter_lookup key]
    rfl
  | clear =>
    cases ran
    exact ⟨h.clock, h.defaultTtl, h.swept, fun key => rfl⟩

/-- **A run of calls** keeps the refinement. -/
theorem run (h : cache.Refines m) {calls : List (Call K V)}
    (ran : Machine.run HashTtlCache.step cache calls = .ok cache') :
    cache'.Refines (calls.foldl ExpiringMap.step m) := by
  induction calls generalizing cache m with
  | nil =>
    cases ran
    exact h
  | cons call calls ih =>
    obtain ⟨next, stepped, ran⟩ := Machine.run_cons_ok.mp ran
    exact ih (h.step stepped) ran

/-- A look at a key agrees with the map, unless what the cache still holds there has expired. -/
theorem get_eq (h : cache.Refines m) (key : K) :
    cache.get key = m.get key ↔ ¬m.Stale key := by
  rw [HashTtlCache.get, h.lookup key, ExpiringMap.get, ExpiringMap.Stale]
  cases m.inserted key with
  | none => simp
  | some r =>
    obtain ⟨value, _ | deadline⟩ := r
    · simp [Record.hasExpired, Option.filter_some]
    · by_cases before : deadline ≤ m.swept
      · simp [Record.hasExpired, Option.filter_some, before, le_trans before h.swept]
      · by_cases now : deadline ≤ m.clock
        · simp [Record.hasExpired, Option.filter_some, before, now, not_le.mp before]
        · simp [Record.hasExpired, Option.filter_some, before, now]

/-- The iterator yields what the map holds, whether or not there was a sweep. -/
theorem mem_iter (h : cache.Refines m) (key : K) (value : V) :
    (key, value) ∈ cache.iter ↔ m.get key = some value := by
  have listed : (key, value) ∈ cache.iter ↔
      ∃ r, (cache.map.lookup key).filter (fun r => !r.hasExpired cache.clock) = some r ∧
        r.value = value := by
    simp only [iter, List.mem_filterMap, Option.ite_none_left_eq_some, Option.some.injEq,
      Prod.mk.injEq, Option.filter_eq_some_iff]
    constructor
    · rintro ⟨⟨k, r⟩, member, alive, rfl, same⟩
      exact ⟨r, ⟨AList.mem_lookup_iff.mpr member, by simpa using alive⟩, same⟩
    · rintro ⟨r, ⟨found, alive⟩, same⟩
      exact ⟨⟨key, r⟩, AList.mem_lookup_iff.mp found, by simpa using alive, rfl, same⟩
  rw [listed, h.filter_lookup key, ExpiringMap.get]
  cases m.inserted key with
  | none => simp
  | some r => by_cases expired : r.hasExpired m.clock = true <;> simp [expired, Option.filter_some]

/-- The iterator yields what `get` finds exactly when no key is stale. -/
theorem iter_eq_get (h : cache.Refines m) :
    (∀ key value, (key, value) ∈ cache.iter ↔ cache.get key = some value) ↔
      ∀ key, ¬m.Stale key := by
  simp only [h.mem_iter, ← h.get_eq]
  constructor
  · intro same key
    exact Option.ext fun value => (same key value).symm
  · intro same key value
    rw [same key]

end HashTtlCache.Refines

/-- An iteration names each key once. -/
theorem HashTtlCache.nodup_iter (cache : HashTtlCache K V) : (cache.iter.map (·.1)).Nodup := by
  rw [List.Nodup, List.pairwise_map]
  apply Table.pairwise_filterMap
  intro e e' pair pair' keys read read'
  simp only [Option.ite_none_left_eq_some, Option.some.injEq] at read read'
  rw [← read.2, ← read'.2]
  exact keys

/-- After every run of calls, `get` finds what the map holds exactly at the keys that are not stale, and
the iterator, which always yields what the map holds and every key once, yields what `get` finds exactly
when no key is stale. -/
theorem HashTtlCache.get_eq_expiring_iff {now : Instant} {defaultTtl : Option Duration}
    {calls : List (Call K V)} {cache cache' : HashTtlCache K V}
    (made : HashTtlCache.new now defaultTtl = .ok cache)
    (ran : Machine.run step cache calls = .ok cache') :
    (∀ key, cache'.get key = (ExpiringMap.after now defaultTtl calls).get key ↔
      ¬(ExpiringMap.after now defaultTtl calls).Stale key) ∧
    ((∀ key value, (key, value) ∈ cache'.iter ↔ cache'.get key = some value) ↔
      ∀ key, ¬(ExpiringMap.after now defaultTtl calls).Stale key) ∧
    (∀ key value, (key, value) ∈ cache'.iter ↔
      (ExpiringMap.after now defaultTtl calls).get key = some value) ∧
    (cache'.iter.map (·.1)).Nodup := by
  have refines := (Refines.new made).run ran
  exact ⟨refines.get_eq, refines.iter_eq_get, refines.mem_iter, cache'.nodup_iter⟩

namespace HashTtlCache

/-- A record that lives for one second, and a second. -/
def expiringCalls : List (Call Nat Nat) := [.insertWithTtl 1 7 (some 1), .advanceClock 1]

def expiringCache : HashTtlCache Nat Nat where
  map := (∅ : AList fun _ : Nat => Record Nat).insert 1 ⟨7, some 1⟩
  graveyard := ∅
  defaultTtl := none
  clock := 1

theorem run_expiringCalls :
    ((HashTtlCache.new 0 none : Except Fault (HashTtlCache Nat Nat)) >>= fun cache =>
      Machine.run step cache expiringCalls) = .ok expiringCache := by
  have positive : (0 : Duration) < 1 := one_pos
  simp [HashTtlCache.new, assertTtl, expiringCalls, Machine.run, step, insertWithTtl, cleanup,
    deadEntries, bury, advanceClock, expiringCache, bind, Except.bind, Except.map, positive]

/-- The deadline has come, and `get` still finds the value; the map has none, and the iterator yields
none. -/
theorem get_finds_expired :
    ((HashTtlCache.new 0 none : Except Fault (HashTtlCache Nat Nat)) >>= fun cache =>
      Machine.run step cache expiringCalls) = .ok expiringCache ∧
    expiringCache.get 1 = some 7 ∧ expiringCache.iter = [] ∧
    (ExpiringMap.after 0 none expiringCalls).get 1 = none := by
  refine ⟨run_expiringCalls, rfl, ?_, ?_⟩
  · simp [iter, expiringCache, Record.hasExpired]
  · simp [ExpiringMap.after, expiringCalls, ExpiringMap.step, ExpiringMap.insertWithTtl, ExpiringMap.get,
      ExpiringMap.new, Record.hasExpired]

/-- A record that lives longer, and then the one that is over after a second. -/
def livingCalls : List (Call Nat Nat) := .insertWithTtl 2 8 (some 3) :: expiringCalls

def livingCache : HashTtlCache Nat Nat where
  map := ((∅ : AList fun _ : Nat => Record Nat).insert 2 ⟨8, some 3⟩).insert 1 ⟨7, some 1⟩
  graveyard := ∅
  defaultTtl := none
  clock := 1

theorem run_livingCalls :
    ((HashTtlCache.new 0 none : Except Fault (HashTtlCache Nat Nat)) >>= fun cache =>
      Machine.run step cache livingCalls) = .ok livingCache := by
  have one : (0 : Duration) < 1 := one_pos
  have three : (0 : Duration) < 3 := by decide
  simp [HashTtlCache.new, assertTtl, livingCalls, expiringCalls, Machine.run, step, insertWithTtl, cleanup,
    deadEntries, bury, advanceClock, livingCache, bind, Except.bind, Except.map, one, three,
    Record.hasExpired]

/-- What the map has of the two records when the second is over. -/
theorem after_livingCalls :
    (ExpiringMap.after 0 none livingCalls).inserted 1 = some ⟨7, some 1⟩ ∧
      (ExpiringMap.after 0 none livingCalls).inserted 2 = some ⟨8, some 3⟩ ∧
      (ExpiringMap.after 0 none livingCalls).swept = 0 ∧
      (ExpiringMap.after 0 none livingCalls).clock = 1 := by
  simp [ExpiringMap.after, livingCalls, expiringCalls, ExpiringMap.step, ExpiringMap.insertWithTtl,
    ExpiringMap.new]

/-- `get` finds the record that lives, as the map has it, and finds the stale one, which the map has not. -/
theorem get_eq_expiring_iff_expired :
    livingCache.get 2 = (ExpiringMap.after 0 none livingCalls).get 2 ∧ livingCache.get 2 = some 8 ∧
      livingCache.get 1 ≠ (ExpiringMap.after 0 none livingCalls).get 1 ∧ livingCache.get 1 = some 7 := by
  obtain ⟨first, second, swept, clock⟩ := after_livingCalls
  have lives : ¬(ExpiringMap.after 0 none livingCalls).Stale 2 := by
    rintro ⟨value, deadline, found, -, due⟩
    rw [second] at found
    cases found
    rw [clock] at due
    exact absurd due (by decide)
  have stale : (ExpiringMap.after 0 none livingCalls).Stale 1 :=
    ⟨7, 1, first, by rw [swept]; exact one_pos, clock.ge⟩
  obtain ⟨cache, made, ran⟩ := Machine.bind_eq_ok.mp run_livingCalls
  have found := (get_eq_expiring_iff made ran).1
  exact ⟨(found 2).mpr lives, rfl, fun same => (found 1).mp same stale, rfl⟩

end HashTtlCache

end Inetstack.Collections
