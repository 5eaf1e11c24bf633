import Inetstack.Laws.Arp.Peer
import Inetstack.Laws.Collections.HashTtlCache

/-!
# Receiving ARP packets

RFC 826's procedure, which the source quotes step by step. The sender's address is entered when it is in the
table already, or when the packet asks for the local address; a query that waits for it is told; a request
for the local address is answered with the sender and the target swapped. The entry is made in two places,
and made again for a reply, which changes nothing.

A waiter in the table need not be one that still listens: a query that was dropped or has given up leaves
its sender behind. A query that waits and is in the table has not heard of its answer, in every state a peer
can reach, also after two queries have clashed.
-/

namespace Inetstack.Arp

open Machine (bind_eq_ok)
open Tcp (Buffer Duration Fail Fault Instant Ipv4Addr MacAddress)

/-! ## The cache -/

namespace ArpCache

/-- The address has been entered at the clock of the cache, and what had expired is gone. -/
structure Maps (ttl : Duration) (ipv4Addr : Ipv4Addr) (linkAddr : MacAddress) (c c' : ArpCache) :
    Prop where
  entry : c'.cache.map.lookup ipv4Addr = some ⟨linkAddr, some (c.cache.clock + ttl)⟩
  others : ∀ other ≠ ipv4Addr, c'.cache.map.lookup other =
    (c.cache.map.lookup other).filter fun r => !r.hasExpired c.cache.clock
  clock : c'.cache.clock = c.cache.clock
  defaultTtl : c'.cache.defaultTtl = c.cache.defaultTtl
  disable : c'.disable = c.disable

variable {ttl : Duration} {ipv4Addr : Ipv4Addr} {linkAddr : MacAddress} {c c' c'' : ArpCache}

/-- What is entered for as long as the cache says. -/
theorem insert_maps {replaced : Option MacAddress} (lives : c.cache.defaultTtl = some ttl)
    (ran : c.insert ipv4Addr linkAddr = .ok (replaced, c')) : Maps ttl ipv4Addr linkAddr c c' := by
  obtain ⟨⟨old, cache⟩, inserted, ran⟩ := bind_eq_ok.mp ran
  cases ran
  obtain ⟨-, clock, defaultTtl, lookup⟩ := Collections.HashTtlCache.insertWithTtl_eq inserted
  refine ⟨?_, ?_, clock, defaultTtl, rfl⟩
  · rw [lookup, if_pos rfl, lives]
    rfl
  · intro other ne
    rw [lookup, if_neg ne]

/-- An insertion returns where the time to live is positive. -/
theorem insert_ok (lives : c.cache.defaultTtl = some ttl) (positive : 0 < ttl) (ipv4Addr : Ipv4Addr)
    (linkAddr : MacAddress) : ∃ r, c.insert ipv4Addr linkAddr = .ok r := by
  obtain ⟨cache, stepped⟩ : ∃ cache, c.cache.step (.insert ipv4Addr linkAddr) = .ok cache := by
    apply Collections.HashTtlCache.step_ok_iff.mpr
    intro d same
    cases lives.symm.trans same
    exact positive
  obtain ⟨⟨old, next⟩, inserted, -⟩ := Machine.map_eq_ok _ stepped
  exact ⟨_, bind_eq_ok.mpr ⟨_, inserted, rfl⟩⟩

/-- Entering an address twice is entering it once. -/
theorem Maps.again (h : Maps ttl ipv4Addr linkAddr c c') (h' : Maps ttl ipv4Addr linkAddr c' c'') :
    Maps ttl ipv4Addr linkAddr c c'' := by
  refine ⟨?_, ?_, h'.clock.trans h.clock, h'.defaultTtl.trans h.defaultTtl, h'.disable.trans h.disable⟩
  · rw [h'.entry, h.clock]
  · intro other ne
    rw [h'.others other ne, h.others other ne, h.clock, Option.filter_filter]
    simp only [Bool.and_self]

end ArpCache

/-! ## Waiters -/

/-- A query with a sender in the table under an address: it waits for the address and has not been told, or
listens no more. -/
def QueryTask.Listens (ipv4Addr : Ipv4Addr) : QueryTask → Prop
  | .created _ => False
  | .waiting asked _ response => asked = ipv4Addr ∧ response = .pending
  | .ready _ => True
  | .dropped => True

/-- The query has been sent the link address. -/
def QueryTask.completed (linkAddr : MacAddress) : QueryTask → QueryTask
  | .waiting asked left _ => .waiting asked left (.sent linkAddr)
  | task => task

namespace ArpPeer

variable {p p' : ArpPeer} {query other : QueryId} {ipv4Addr : Ipv4Addr} {left : Nat}
  {linkAddr : MacAddress} {event : ArpEvent} {task : QueryTask} {ttl : Duration}

/-- Every waiter in the table listens, if it still does, for its address. -/
def Listening (p : ArpPeer) : Prop :=
  ∀ ipv4Addr query, p.waiters.lookup ipv4Addr = some query →
    ∃ task, p.queries.lookup query = some task ∧ task.Listens ipv4Addr

/-- The peer has ARP enabled, and enters addresses for `ttl`. -/
structure Serving (ttl : Duration) (p : ArpPeer) : Prop where
  enabled : p.cache.disable = false
  defaultTtl : p.cache.cache.defaultTtl = some ttl
  positive : 0 < ttl
  listening : p.Listening

/-- What taking a sender out of the table changes. -/
theorem takeWaiter_eq (p : ArpPeer) (ipv4Addr : Ipv4Addr) (response : Response) :
    p.takeWaiter ipv4Addr response =
      { p with
        waiters := p.waiters.erase ipv4Addr
        queries := (p.takeWaiter ipv4Addr response).queries } := by
  unfold takeWaiter
  split
  next found =>
    unfold notify
    split
    · rfl
    · rfl
  next absent => rw [Table.erase_of_none absent]

/-- A query that is not in the table under the address hears nothing. -/
theorem takeWaiter_other (response : Response) (apart : p.waiters.lookup ipv4Addr ≠ some query) :
    (p.takeWaiter ipv4Addr response).queries.lookup query = p.queries.lookup query := by
  rcases lookup_takeWaiter p ipv4Addr response query with same | ⟨found, -⟩
  · exact same
  · exact (apart found).elim

/-- The query that is there is told. -/
theorem takeWaiter_told (h : p.Listening) (found : p.waiters.lookup ipv4Addr = some query)
    (linkAddr : MacAddress) :
    ∃ task, p.queries.lookup query = some task ∧ task.Listens ipv4Addr ∧
      (p.takeWaiter ipv4Addr (.sent linkAddr)).queries.lookup query = some (task.completed linkAddr) := by
  obtain ⟨task, known, listens⟩ := h ipv4Addr query found
  refine ⟨task, known, listens, ?_⟩
  unfold takeWaiter
  rw [found]
  simp only [notify, known]
  cases task with
  | created asked => exact listens.elim
  | waiting asked left response =>
    obtain ⟨rfl, rfl⟩ := listens
    exact AList.lookup_insert _
  | ready result => exact known
  | dropped => exact known

/-! ## The invariant -/

/-- A query is in the table under one address at most. -/
theorem Listening.unique (h : p.Listening) {asked : Ipv4Addr} {response : Response}
    (waiting : p.queries.lookup query = some (.waiting asked left response))
    (found : p.waiters.lookup ipv4Addr = some query) : ipv4Addr = asked := by
  obtain ⟨task, known, listens⟩ := h ipv4Addr query found
  cases waiting.symm.trans known
  exact listens.1.symm

/-- Taking a sender out of the table leaves the others as they are. -/
theorem Listening.take (h : p.Listening) (ipv4Addr : Ipv4Addr) (response : Response) :
    (p.takeWaiter ipv4Addr response).Listening := by
  intro addr query found
  rw [waiters_takeWaiter, Table.lookup_erase] at found
  split at found
  next => cases found
  next ne =>
    obtain ⟨task, known, listens⟩ := h addr query found
    rcases lookup_takeWaiter p ipv4Addr response query with same | ⟨there, asked, left, waiting, -⟩
    · exact ⟨task, same.trans known, listens⟩
    · exact (ne ((h.unique waiting found).trans (h.unique waiting there).symm)).elim

/-- A query may change as long as it is still one that may be in the table where it is. -/
theorem Listening.set (h : p.Listening)
    (stays : ∀ ipv4Addr, p.waiters.lookup ipv4Addr = some query → task.Listens ipv4Addr) :
    (p.setQuery query task).Listening := by
  intro ipv4Addr other found
  rw [lookup_setQuery]
  split
  next same => exact ⟨task, rfl, stays ipv4Addr (same ▸ found)⟩
  next => exact h ipv4Addr other found

/-- A query with no place in the table. -/
theorem Listening.not_found (h : p.Listening) (absent : ∀ task, p.queries.lookup query = some task →
    ∀ ipv4Addr, ¬task.Listens ipv4Addr) (ipv4Addr : Ipv4Addr) :
    p.waiters.lookup ipv4Addr ≠ some query := by
  intro found
  obtain ⟨task, known, listens⟩ := h ipv4Addr query found
  exact absent task known ipv4Addr listens

/-- A new query waits in the table. -/
theorem Listening.enter (h : p.Listening)
    (created : ∀ ipv4Addr, p.waiters.lookup ipv4Addr ≠ some query) (ipv4Addr : Ipv4Addr) (left : Nat) :
    ({ p with waiters := p.waiters.insert ipv4Addr query }.setQuery query
      (.waiting ipv4Addr left .pending)).Listening := by
  intro addr other found
  change (p.waiters.insert ipv4Addr query).lookup addr = some other at found
  rw [Table.lookup_insert] at found
  rw [lookup_setQuery]
  split at found
  next same =>
    cases found
    exact ⟨_, if_pos rfl, same.symm, rfl⟩
  next =>
    have ne : other ≠ query := by
      rintro rfl
      exact created addr found
    rw [if_neg ne]
    exact h addr other found

theorem start_listening (h : p.Listening) (created : p.queries.lookup query = some (.created ipv4Addr))
    (ran : p.start query ipv4Addr = .ok p') : p'.Listening ∧ p'.cache = p.cache := by
  have absent : ∀ addr, p.waiters.lookup addr ≠ some query := by
    apply h.not_found
    intro task known addr
    cases created.symm.trans known
    exact id
  unfold start at ran
  split at ran
  · cases ran
    exact ⟨h.set fun _ _ => trivial, rfl⟩
  next miss =>
    obtain ⟨⟨response, q⟩, waited, ran⟩ := bind_eq_ok.mp ran
    simp only [doWaitLinkAddr, miss] at waited
    split at waited
    · cases waited
    next free =>
      cases waited
      cases ran
      exact ⟨h.enter absent ipv4Addr p.retryCount, rfl⟩

theorem resume_listening (h : p.Listening) {response : Response} {s : Select}
    (waiting : p.queries.lookup query = some (.waiting ipv4Addr left response))
    (ran : p.resume query ipv4Addr left response s = .ok p') : p'.Listening ∧ p'.cache = p.cache := by
  unfold resume at ran
  split at ran
  · cases ran
    exact ⟨h, rfl⟩
  · cases ran
    exact ⟨h.set fun _ _ => trivial, rfl⟩
  · cases ran
  · split at ran
    · unfold iterate at ran
      dsimp only at ran
      split at ran
      · cases ran
        refine ⟨?_, rfl⟩
        exact Listening.set (p := p.transmit (p.requestFor ipv4Addr)) h fun addr found =>
          ⟨(h.unique waiting found).symm, rfl⟩
      · cases ran
        exact ⟨Listening.set (p := p.transmit (p.requestFor ipv4Addr)) h fun _ _ => trivial, rfl⟩
      · cases ran
    · cases ran
      refine ⟨(h.take ipv4Addr .cancelled).set fun _ _ => trivial, ?_⟩
      change (p.takeWaiter ipv4Addr .cancelled).cache = p.cache
      rw [takeWaiter_eq]

theorem poll_listening (h : p.Listening) {s : Select} (ran : p.poll query s = .ok p') :
    p'.Listening ∧ p'.cache = p.cache := by
  unfold poll at ran
  split at ran
  next created => exact start_listening h created ran
  next waiting => exact resume_listening h waiting ran
  next =>
    cases ran
    exact ⟨h, rfl⟩

/-! ## A packet -/

/-- The address is in the cache, and the waiter for it has been told and is gone. -/
structure Merged (ttl : Duration) (ipv4Addr : Ipv4Addr) (linkAddr : MacAddress) (p p' : ArpPeer) :
    Prop where
  cache : ArpCache.Maps ttl ipv4Addr linkAddr p.cache p'.cache
  waiters : p'.waiters = p.waiters.erase ipv4Addr
  completed : ∀ query, p.waiters.lookup ipv4Addr = some query →
    ∃ task, p.queries.lookup query = some task ∧ task.Listens ipv4Addr ∧
      p'.queries.lookup query = some (task.completed linkAddr)
  others : ∀ query, p.waiters.lookup ipv4Addr ≠ some query →
    p'.queries.lookup query = p.queries.lookup query

/-- RFC 826's answer to a request: the fields swapped, and the local hardware address in the sender's. -/
def answer (p : ArpPeer) (header : ArpHeader) : ArpMessage where
  ethernet2Hdr := .new header.senderHardwareAddr p.localLinkAddr .arp
  header :=
    { operation := .reply
      senderHardwareAddr := p.localLinkAddr
      senderProtocolAddr := header.targetProtocolAddr
      targetHardwareAddr := header.senderHardwareAddr
      targetProtocolAddr := header.senderProtocolAddr }

/-- What `do_insert` does. -/
theorem doInsert_eq (h : p.Serving ttl) (ipv4Addr : Ipv4Addr) (linkAddr : MacAddress) :
    ∃ cache queries, p.doInsert ipv4Addr linkAddr =
        .ok { p with cache := cache, waiters := p.waiters.erase ipv4Addr, queries := queries } ∧
      Merged ttl ipv4Addr linkAddr p
        { p with cache := cache, waiters := p.waiters.erase ipv4Addr, queries := queries } := by
  obtain ⟨⟨replaced, cache⟩, inserted⟩ :=
    ArpCache.insert_ok h.defaultTtl h.positive ipv4Addr linkAddr
  have taken := takeWaiter_eq p ipv4Addr (.sent linkAddr)
  refine ⟨cache, (p.takeWaiter ipv4Addr (.sent linkAddr)).queries, ?_,
    ArpCache.insert_maps h.defaultTtl inserted, rfl, ?_, ?_⟩
  · have same : (p.takeWaiter ipv4Addr (.sent linkAddr)).cache.insert ipv4Addr linkAddr =
        .ok (replaced, cache) := by
      rw [taken]
      exact inserted
    simp only [doInsert, same]
    rw [taken]
    rfl
  · intro query found
    exact takeWaiter_told h.listening found linkAddr
  · intro query apart
    exact takeWaiter_other (.sent linkAddr) apart

/-- The end of `receive` answers a request, and enters what a reply says once more. -/
theorem Merged.responds {header : ArpHeader} (h : p.Serving ttl)
    (merged : Merged ttl header.senderProtocolAddr header.senderHardwareAddr p p')
    (address : header.targetProtocolAddr = p'.localIpv4Addr) :
    ∃ q, p'.respond header = .ok (.ok (), q) ∧
      Merged ttl header.senderProtocolAddr header.senderHardwareAddr p q ∧
      q.transmitted = p'.transmitted ++
        (if header.operation = .request then [p'.answer header] else []) := by
  unfold ArpPeer.respond
  cases op : header.operation with
  | request =>
    refine ⟨_, rfl, ⟨merged.cache, merged.waiters, merged.completed, merged.others⟩, ?_⟩
    rw [if_pos rfl, answer, address]
    rfl
  | reply =>
    have lives := merged.cache.defaultTtl.trans h.defaultTtl
    obtain ⟨⟨replaced, cache⟩, inserted⟩ := ArpCache.insert_ok lives h.positive
      header.senderProtocolAddr header.senderHardwareAddr
    refine ⟨{ p' with cache := cache }, bind_eq_ok.mpr ⟨_, inserted, rfl⟩,
      ⟨merged.cache.again (ArpCache.insert_maps lives inserted), merged.waiters, merged.completed,
        merged.others⟩, ?_⟩
    simp

/-- What `receive` is to do with a packet: RFC 826's procedure. -/
structure Processed (ttl : Duration) (p : ArpPeer) (header : ArpHeader) (result : Except Fail Unit)
    (p' : ArpPeer) : Prop where
  merges : (p.cache.cache.map.lookup header.senderProtocolAddr).isSome = true ∨
      header.targetProtocolAddr = p.localIpv4Addr →
    result = .ok () ∧ Merged ttl header.senderProtocolAddr header.senderHardwareAddr p p'
  refuses : (p.cache.cache.map.lookup header.senderProtocolAddr).isSome = false →
      header.targetProtocolAddr ≠ p.localIpv4Addr →
    (∃ fail, result = .error fail) ∧ p' = p
  transmits : p'.transmitted = p.transmitted ++
    (if header.operation = .request ∧ header.targetProtocolAddr = p.localIpv4Addr then [p.answer header]
      else [])

/-- **A packet that is well formed is processed as RFC 826 says.** -/
theorem receive_processed (h : p.Serving ttl) {buf : Buffer} {header : ArpHeader}
    (parsed : ArpHeader.parse buf = pure header) :
    ∃ result p', p.receive buf = .ok (result, p') ∧ p.Processed ttl header result p' := by
  have read : (ArpHeader.parse buf).run = .ok (.ok header) := by rw [parsed]; rfl
  have known : (p.cache.get header.senderProtocolAddr).isSome =
      (p.cache.cache.map.lookup header.senderProtocolAddr).isSome := by
    rw [ArpCache.get, h.enabled, if_neg Bool.false_ne_true, Collections.HashTtlCache.get,
      Option.isSome_map]
  obtain ⟨cache, queries, inserted, merged⟩ :=
    doInsert_eq h header.senderProtocolAddr header.senderHardwareAddr
  unfold receive
  rw [read]
  simp only [known, bind, Except.bind]
  cases found : (p.cache.cache.map.lookup header.senderProtocolAddr).isSome with
  | true =>
    simp only [if_true, inserted]
    -- whoever asks for this host is answered, merged before or now
    by_cases mine : header.targetProtocolAddr = p.localIpv4Addr
    · obtain ⟨q, responded, merged', transmitted⟩ := merged.responds h mine
      rw [if_neg (not_not.mpr mine), responded]
      refine ⟨_, q, rfl, fun _ => ⟨rfl, merged'⟩, ?_, ?_⟩
      · intro absent
        cases found.symm.trans absent
      · rw [transmitted]
        simp only [mine, and_true]
        rfl
    · rw [if_pos mine]
      refine ⟨_, _, rfl, fun _ => ⟨rfl, merged⟩, ?_, ?_⟩
      · intro absent
        cases found.symm.trans absent
      · simp [mine]
  | false =>
    simp only [Bool.false_eq_true, if_false]
    by_cases mine : header.targetProtocolAddr = p.localIpv4Addr
    · obtain ⟨q, responded, merged', transmitted⟩ := merged.responds h mine
      rw [if_neg (not_not.mpr mine), inserted]
      refine ⟨_, q, responded, fun _ => ⟨rfl, merged'⟩, ?_, ?_⟩
      · intro _ other
        exact (other mine).elim
      · rw [transmitted]
        simp only [mine, and_true]
        rfl
    · rw [if_pos mine]
      refine ⟨_, p, rfl, ?_, fun _ _ => ⟨⟨_, rfl⟩, rfl⟩, by simp [mine]⟩
      rintro (known | asked)
      · cases found.symm.trans known
      · exact (mine asked).elim

/-! ## Runs -/

theorem Serving.merged (h : p.Serving ttl) (merged : Merged ttl ipv4Addr linkAddr p p') :
    p'.Serving ttl := by
  refine ⟨merged.cache.disable.trans h.enabled, merged.cache.defaultTtl.trans h.defaultTtl, h.positive, ?_⟩
  intro addr query found
  rw [merged.waiters, Table.lookup_erase] at found
  split at found
  next => cases found
  next ne =>
    obtain ⟨task, known, listens⟩ := h.listening addr query found
    -- the query that waited for this address is told and waits no more
    by_cases there : p.waiters.lookup ipv4Addr = some query
    · obtain ⟨task', known', listens', told⟩ := merged.completed query there
      cases known.symm.trans known'
      refine ⟨_, told, ?_⟩
      cases task with
      | created asked => exact listens
      | waiting asked left response => exact (ne (listens.1.symm.trans listens'.1)).elim
      | ready result => exact listens
      | dropped => exact listens
    · exact ⟨task, (merged.others query there).trans known, listens⟩

theorem step_serving (h : p.Serving ttl) (stepped : p.step event = .ok p') : p'.Serving ttl := by
  cases event with
  | query query ipv4Addr =>
    simp only [step] at stepped
    split at stepped
    · cases stepped
      exact h
    next new =>
      cases stepped
      refine ⟨h.enabled, h.defaultTtl, h.positive, h.listening.set fun addr found => ?_⟩
      obtain ⟨task, known, -⟩ := h.listening addr query found
      cases new.symm.trans known
  | poll query s =>
    obtain ⟨listening, cache⟩ := poll_listening h.listening stepped
    exact ⟨cache ▸ h.enabled, cache ▸ h.defaultTtl, h.positive, listening⟩
  | drop query =>
    simp only [step] at stepped
    split at stepped
    · cases stepped
      exact ⟨h.enabled, h.defaultTtl, h.positive, h.listening.set fun _ _ => trivial⟩
    · cases stepped
      exact h
  | receive buf =>
    obtain ⟨⟨result, q⟩, ran, stepped⟩ := bind_eq_ok.mp stepped
    cases stepped
    rcases receive_cases ran with ⟨-, rfl⟩ | ⟨header, parsed, -⟩
    · exact h
    · obtain ⟨result', q', ran', processed⟩ := receive_processed h parsed
      cases ran'.symm.trans ran
      cases found : (p.cache.cache.map.lookup header.senderProtocolAddr).isSome with
      | true => exact h.merged (processed.merges (.inl found)).2
      | false =>
        by_cases mine : header.targetProtocolAddr = p.localIpv4Addr
        · exact h.merged (processed.merges (.inr mine)).2
        · rw [(processed.refuses found mine).2]
          exact h
  | background now =>
    obtain ⟨cache, advanced, stepped⟩ := bind_eq_ok.mp stepped
    cases stepped
    obtain ⟨inner, moved, advanced⟩ := bind_eq_ok.mp advanced
    cases advanced
    unfold Collections.HashTtlCache.advanceClock at moved
    split at moved
    · cases moved
      exact ⟨h.enabled, h.defaultTtl, h.positive, h.listening⟩
    · cases moved

/-- Populating a new cache changes what it holds and nothing else. -/
theorem populate_frame {c c' : ArpCache} {values : List (Ipv4Addr × MacAddress)}
    (lives : c.cache.defaultTtl = some ttl) (ran : c.populate values = .ok c') :
    c'.disable = c.disable ∧ c'.cache.defaultTtl = some ttl := by
  induction values generalizing c with
  | nil =>
    cases ran
    exact ⟨rfl, lives⟩
  | cons value values ih =>
    obtain ⟨⟨replaced, next⟩, inserted, ran⟩ := bind_eq_ok.mp ran
    have maps := ArpCache.insert_maps lives inserted
    obtain ⟨disable, defaultTtl⟩ := ih (maps.defaultTtl.trans lives) ran
    exact ⟨disable.trans maps.disable, defaultTtl⟩

theorem serving_new {now : Instant} {localLinkAddr : MacAddress} {localIpv4Addr : Ipv4Addr}
    {options : ArpConfig} (made : new now localLinkAddr localIpv4Addr options = .ok p)
    (enabled : options.disableArp = false) : p.Serving options.cacheTtl := by
  obtain ⟨cache, populated, made⟩ := bind_eq_ok.mp made
  cases made
  obtain ⟨empty, created, populated⟩ := bind_eq_ok.mp populated
  obtain ⟨_, asserted, created⟩ := bind_eq_ok.mp created
  cases created
  obtain ⟨disable, defaultTtl⟩ := populate_frame rfl populated
  refine ⟨disable.trans enabled, defaultTtl, ?_, ?_⟩
  · by_contra zero
    simp only [Collections.HashTtlCache.assertTtl, if_neg zero, reduceCtorEq] at asserted
  · intro addr query found
    cases found

/-- **ARP packets are processed as RFC 826 says**, in every state a peer with ARP enabled can reach. -/
theorem receive_follows_rfc {now : Instant} {localLinkAddr : MacAddress} {localIpv4Addr : Ipv4Addr}
    {options : ArpConfig} {p₀ p : ArpPeer} {events : List ArpEvent}
    (made : new now localLinkAddr localIpv4Addr options = .ok p₀) (enabled : options.disableArp = false)
    (ran : Machine.run step p₀ events = .ok p) {buf : Buffer} {header : ArpHeader}
    (parsed : ArpHeader.parse buf = pure header) :
    ∃ result p', p.receive buf = .ok (result, p') ∧ p.Processed options.cacheTtl header result p' :=
  receive_processed (Machine.invariant (Serving options.cacheTtl) step_serving (serving_new made enabled) ran)
    parsed

/-- The request of 10.0.0.2 for 10.0.0.1, which has asked for 10.0.0.2 itself, is answered, and so is the
query. -/
theorem receive_follows_rfc_request :
    ∃ result p', sampleWaiting.receive (ArpHeader.new .request 9 0x0a000002 0 0x0a000001).bytes =
        .ok (result, p') ∧
      p'.transmitted = [samplePeer.requestFor 0x0a000002,
        sampleWaiting.answer (.new .request 9 0x0a000002 0 0x0a000001)] ∧
      p'.queries.lookup 1 = some (.waiting 0x0a000002 0 (.sent 9)) := by
  have parsed : ArpHeader.parse (ArpHeader.new .request 9 0x0a000002 0 0x0a000001).bytes =
      pure (.new .request 9 0x0a000002 0 0x0a000001) := by
    have parsed := (ArpHeader.new .request 9 0x0a000002 0 0x0a000001).parse_bytes []
    rwa [List.append_nil] at parsed
  have made : new 0 7 0x0a000001 sampleConfig = .ok samplePeer := rfl
  have arrived : Machine.run step samplePeer sampleQuery = .ok sampleWaiting := rfl
  obtain ⟨result, p', received, processed⟩ := receive_follows_rfc made rfl arrived parsed
  refine ⟨result, p', received, processed.transmits, ?_⟩
  obtain ⟨-, merged⟩ := processed.merges (.inr rfl)
  obtain ⟨task, known, -, told⟩ := merged.completed 1 rfl
  cases known
  exact told

end ArpPeer

end Inetstack.Arp
