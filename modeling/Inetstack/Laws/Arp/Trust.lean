import Inetstack.Laws.Arp.Receive
import Inetstack.Lib.Log

/-!
# What ARP says and what it believes

Whatever happens to a peer, each message it transmits gives its own two addresses as those of the sender.
What it believes it was configured with or was told: if every packet that arrives is from a host that owns
the addresses it gives, every link address in the cache and every answer to a query is that of the owner.
-/

namespace Inetstack.Arp

open Machine (bind_eq_ok)
open Tcp (Buffer Duration Fail Instant Ipv4Addr MacAddress)

/-- The address of a query that is not over. -/
def QueryTask.asked : QueryTask → Option Ipv4Addr
  | .created ipv4Addr => some ipv4Addr
  | .waiting ipv4Addr _ _ => some ipv4Addr
  | .ready _ => none
  | .dropped => none

/-! ## What a peer transmits -/

/-- A message that gives the addresses as those of its sender. -/
structure ArpMessage.From (localLinkAddr : MacAddress) (localIpv4Addr : Ipv4Addr)
    (message : ArpMessage) : Prop where
  ethernet2 : ∃ dstAddr, message.ethernet2Hdr = .new dstAddr localLinkAddr .arp
  senderHardwareAddr : message.header.senderHardwareAddr = localLinkAddr
  senderProtocolAddr : message.header.senderProtocolAddr = localIpv4Addr

namespace ArpPeer

variable {p q p' : ArpPeer} {query : QueryId} {ipv4Addr : Ipv4Addr}

/-- The addresses are the same, and what has been transmitted since gives them. -/
structure Speaks (p p' : ArpPeer) : Prop where
  localLinkAddr : p'.localLinkAddr = p.localLinkAddr
  localIpv4Addr : p'.localIpv4Addr = p.localIpv4Addr
  transmitted : Log.Adds (fun message => message.From p.localLinkAddr p.localIpv4Addr) p.transmitted
    p'.transmitted

theorem Speaks.of_same (localLinkAddr : p'.localLinkAddr = p.localLinkAddr)
    (localIpv4Addr : p'.localIpv4Addr = p.localIpv4Addr) (transmitted : p'.transmitted = p.transmitted) :
    p.Speaks p' := ⟨localLinkAddr, localIpv4Addr, .of_eq transmitted⟩

/-- What two steps say. -/
theorem Speaks.trans (h : p.Speaks q) (h' : q.Speaks p') : p.Speaks p' where
  localLinkAddr := h'.localLinkAddr.trans h.localLinkAddr
  localIpv4Addr := h'.localIpv4Addr.trans h.localIpv4Addr
  transmitted := by
    have later := h'.transmitted
    rw [h.localLinkAddr, h.localIpv4Addr] at later
    exact h.transmitted.trans later

/-- A packet from the addresses of the peer. -/
theorem Speaks.transmit (p : ArpPeer) {message : ArpMessage}
    (own : message.From p.localLinkAddr p.localIpv4Addr) : p.Speaks (p.transmit message) :=
  ⟨rfl, rfl, .one own _⟩

/-- Answering a query here says nothing on the network. -/
theorem takeWaiter_speaks (p : ArpPeer) (ipv4Addr : Ipv4Addr) (response : Response) :
    p.Speaks (p.takeWaiter ipv4Addr response) := by
  unfold takeWaiter
  split
  · unfold notify
    split
    · exact .of_same rfl rfl rfl
    · exact .of_same rfl rfl rfl
  · exact .of_same rfl rfl rfl

theorem doInsert_speaks {linkAddr : MacAddress} (ran : p.doInsert ipv4Addr linkAddr = .ok p') :
    p.Speaks p' := by
  obtain ⟨⟨replaced, cache⟩, -, ran⟩ := bind_eq_ok.mp ran
  cases ran
  exact (takeWaiter_speaks p ipv4Addr (.sent linkAddr)).trans (.of_same rfl rfl rfl)

/-- **An iteration of a query** says at most a request. -/
theorem iterate_speaks {left : Nat} {response : Response}
    (ran : p.iterate query ipv4Addr left response = .ok p') : p.Speaks p' := by
  have asks : p.Speaks (p.transmit (p.requestFor ipv4Addr)) := .transmit p ⟨⟨_, rfl⟩, rfl, rfl⟩
  cases response with
  | pending =>
    cases ran
    exact asks.trans (.of_same rfl rfl rfl)
  | sent linkAddr =>
    cases ran
    exact asks.trans (.of_same rfl rfl rfl)
  | cancelled => cases ran

theorem start_speaks (ran : p.start query ipv4Addr = .ok p') : p.Speaks p' := by
  unfold ArpPeer.start at ran
  split at ran
  · cases ran
    exact .of_same rfl rfl rfl
  · obtain ⟨⟨response, waiting⟩, waits, ran⟩ := bind_eq_ok.mp ran
    refine Speaks.trans ?_ (iterate_speaks ran)
    unfold doWaitLinkAddr at waits
    split at waits
    · cases waits
      exact .of_same rfl rfl rfl
    split at waits
    · cases waits
    · cases waits
      exact .of_same rfl rfl rfl

theorem resume_speaks {left : Nat} {response : Response} {s : Select}
    (ran : p.resume query ipv4Addr left response s = .ok p') : p.Speaks p' := by
  unfold resume at ran
  split at ran
  · cases ran
    exact .of_same rfl rfl rfl
  · cases ran
    exact .of_same rfl rfl rfl
  · cases ran
  split at ran
  · exact iterate_speaks ran
  · cases ran
    exact (takeWaiter_speaks p ipv4Addr .cancelled).trans (.of_same rfl rfl rfl)

/-- **A request** is answered from the addresses of the peer. -/
theorem respond_speaks {header : ArpHeader} {result : Except Fail Unit}
    (ran : p.respond header = .ok (result, p')) : p.Speaks p' := by
  unfold respond at ran
  split at ran
  · cases ran
    exact .transmit p ⟨⟨_, rfl⟩, rfl, rfl⟩
  · obtain ⟨⟨replaced, cache⟩, -, ran⟩ := bind_eq_ok.mp ran
    cases ran
    exact .of_same rfl rfl rfl

/-- **What a packet can do**: nothing, or enter the address of its sender, which may be answered. -/
theorem receive_moves {buf : Buffer} {result : Except Fail Unit} (ran : p.receive buf = .ok (result, p')) :
    p' = p ∨ ∃ header q, ArpHeader.parse buf = pure header ∧
      p.doInsert header.senderProtocolAddr header.senderHardwareAddr = .ok q ∧
      (p' = q ∨ ∃ result, q.respond header = .ok (result, p')) := by
  obtain ⟨parsed, read, ran⟩ := bind_eq_ok.mp ran
  cases parsed with
  | error fail =>
    cases ran
    exact .inl rfl
  | ok header =>
  dsimp only at ran
  split at ran
  next =>
    obtain ⟨q, entered, ran⟩ := bind_eq_ok.mp ran
    refine .inr ⟨header, q, read, entered, ?_⟩
    split at ran
    · cases ran
      exact .inl rfl
    · exact .inr ⟨result, ran⟩
  next =>
    obtain ⟨q, same, ran⟩ := bind_eq_ok.mp ran
    cases same
    split at ran
    · cases ran
      exact .inl rfl
    · obtain ⟨q, entered, ran⟩ := bind_eq_ok.mp ran
      exact .inr ⟨header, q, read, entered, .inr ⟨result, ran⟩⟩

/-- **A packet arrives.** -/
theorem receive_speaks {buf : Buffer} {result : Except Fail Unit}
    (ran : p.receive buf = .ok (result, p')) : p.Speaks p' := by
  rcases receive_moves ran with rfl | ⟨header, q, -, entered, rfl | ⟨answer, responds⟩⟩
  · exact .of_same rfl rfl rfl
  · exact doInsert_speaks entered
  · exact (doInsert_speaks entered).trans (respond_speaks responds)

/-- **A step of ARP transmits messages of its own.** -/
theorem step_speaks {event : ArpEvent} (stepped : p.step event = .ok p') : p.Speaks p' := by
  cases event with
  | query query ipv4Addr =>
    simp only [step] at stepped
    split at stepped
    · cases stepped
      exact .of_same rfl rfl rfl
    · cases stepped
      exact .of_same rfl rfl rfl
  | poll query s =>
    change p.poll query s = .ok p' at stepped
    unfold poll at stepped
    split at stepped
    · exact start_speaks stepped
    · exact resume_speaks stepped
    · cases stepped
      exact .of_same rfl rfl rfl
  | drop query =>
    simp only [step] at stepped
    split at stepped
    · cases stepped
      exact .of_same rfl rfl rfl
    · cases stepped
      exact .of_same rfl rfl rfl
  | receive buf =>
    obtain ⟨⟨result, q⟩, ran, stepped⟩ := bind_eq_ok.mp stepped
    cases stepped
    exact receive_speaks ran
  | background now =>
    obtain ⟨cache, -, stepped⟩ := bind_eq_ok.mp stepped
    cases stepped
    exact .of_same rfl rfl rfl

/-! ## What a peer believes -/

/-- Everything the peer has been told of link addresses is so. -/
structure Trusts (owns : Ipv4Addr → MacAddress → Prop) (p : ArpPeer) : Prop where
  cached : ∀ ipv4Addr record, p.cache.cache.map.lookup ipv4Addr = some record → owns ipv4Addr record.value
  told : ∀ query asked left linkAddr,
    p.queries.lookup query = some (.waiting asked left (.sent linkAddr)) → owns asked linkAddr

variable {owns : Ipv4Addr → MacAddress → Prop} {linkAddr : MacAddress} {ttl : Duration} {task : QueryTask}

theorem Trusts.of_same (h : p.Trusts owns) (cache : p'.cache.cache = p.cache.cache)
    (queries : p'.queries = p.queries) : p'.Trusts owns := by
  refine ⟨?_, ?_⟩
  · rw [cache]
    exact h.cached
  · rw [queries]
    exact h.told

/-- A query that has not been told, or is over. -/
theorem Trusts.set (h : p.Trusts owns) (query : QueryId)
    (untold : ∀ asked left linkAddr, task = .waiting asked left (.sent linkAddr) → owns asked linkAddr) :
    (p.setQuery query task).Trusts owns := by
  refine ⟨h.cached, ?_⟩
  intro other asked left linkAddr found
  rw [lookup_setQuery] at found
  split at found
  · exact untold asked left linkAddr (Option.some.inj found)
  · exact h.told other asked left linkAddr found

/-- A sender is dropped. -/
theorem Trusts.drop (h : p.Trusts owns) (ipv4Addr : Ipv4Addr) : (p.doDrop ipv4Addr).Trusts owns := by
  have taken := takeWaiter_eq p ipv4Addr .cancelled
  refine ⟨?_, ?_⟩
  · rw [doDrop, taken]
    exact h.cached
  · intro other asked left linkAddr found
    rcases lookup_takeWaiter p ipv4Addr .cancelled other with same | ⟨-, _, _, -, cancelled⟩
    · exact h.told other asked left linkAddr (same ▸ found)
    · cases cancelled.symm.trans found

/-- A waiter is told, and the address is in the cache. -/
theorem Trusts.merged (h : p.Trusts owns) (own : owns ipv4Addr linkAddr)
    (merged : Merged ttl ipv4Addr linkAddr p p') : p'.Trusts owns := by
  refine ⟨?_, ?_⟩
  · intro other record found
    by_cases same : other = ipv4Addr
    · subst same
      cases merged.cache.entry.symm.trans found
      exact own
    · rw [merged.cache.others other same] at found
      exact h.cached other record (Option.filter_eq_some_iff.mp found).1
  · intro other asked left said found
    by_cases there : p.waiters.lookup ipv4Addr = some other
    · obtain ⟨task, known, listens, told⟩ := merged.completed other there
      cases task with
      | created asked => exact listens.elim
      | waiting asked' left' response =>
        cases told.symm.trans found
        rw [listens.1]
        exact own
      | ready result => cases told.symm.trans found
      | dropped => cases told.symm.trans found
    · exact h.told other asked left said ((merged.others other there).symm.trans found)

/-- An iteration of a query makes nothing up. -/
theorem iterate_trusts (h : p.Trusts owns) {left : Nat} {response : Response}
    (ran : p.iterate query ipv4Addr left response = .ok p') : p'.Trusts owns := by
  have asks : (p.transmit (p.requestFor ipv4Addr)).Trusts owns := h.of_same rfl rfl
  cases response with
  | pending =>
    cases ran
    exact asks.set query fun _ _ _ waits => by cases waits
  | sent linkAddr =>
    cases ran
    exact asks.set query fun _ _ _ waits => by cases waits
  | cancelled => cases ran

/-- **A poll of a query** answers what the cache or a reply has told. -/
theorem poll_trusts (h : p.Trusts owns) {s : Select} (ran : p.poll query s = .ok p') : p'.Trusts owns := by
  unfold poll at ran
  split at ran
  next asked created =>
    unfold start at ran
    split at ran
    · cases ran
      exact h.set query fun _ _ _ waits => by cases waits
    · obtain ⟨⟨response, waiting⟩, waits, ran⟩ := bind_eq_ok.mp ran
      refine iterate_trusts ?_ ran
      unfold doWaitLinkAddr at waits
      split at waits
      · cases waits
        exact h
      split at waits
      · cases waits
      · cases waits
        exact h.of_same rfl rfl
  next asked left response waiting =>
    unfold resume at ran
    split at ran
    · cases ran
      exact h
    · cases ran
      exact h.set query fun _ _ _ waits => by cases waits
    · cases ran
    split at ran
    · exact iterate_trusts h ran
    · cases ran
      exact (h.drop asked).set query fun _ _ _ waits => by cases waits
  next =>
    cases ran
    exact h

/-- **A step keeps the trust**, if the packet that arrives gives the addresses of its sender. -/
theorem step_trusts {event : ArpEvent} (serving : p.Serving ttl) (h : p.Trusts owns)
    (true_ : ∀ buf header, event = .receive buf → ArpHeader.parse buf = pure header →
      owns header.senderProtocolAddr header.senderHardwareAddr)
    (stepped : p.step event = .ok p') : p'.Trusts owns := by
  cases event with
  | query query ipv4Addr =>
    simp only [step] at stepped
    split at stepped
    · cases stepped
      exact h
    · cases stepped
      exact h.set query fun _ _ _ waits => by cases waits
  | poll query s => exact poll_trusts h stepped
  | drop query =>
    simp only [step] at stepped
    split at stepped
    · cases stepped
      exact h.set query fun _ _ _ waits => by cases waits
    · cases stepped
      exact h
  | receive buf =>
    obtain ⟨⟨result, q⟩, ran, stepped⟩ := bind_eq_ok.mp stepped
    cases stepped
    rcases receive_cases ran with ⟨-, rfl⟩ | ⟨header, parsed, -⟩
    · exact h
    have own := true_ buf header rfl parsed
    obtain ⟨result', q', ran', processed⟩ := receive_processed serving parsed
    cases ran'.symm.trans ran
    -- the mapping is merged when its address is cached or the packet is for this host
    cases found : (p.cache.cache.map.lookup header.senderProtocolAddr).isSome with
    | true => exact h.merged own (processed.merges (.inl found)).2
    | false =>
      by_cases mine : header.targetProtocolAddr = p.localIpv4Addr
      · exact h.merged own (processed.merges (.inr mine)).2
      · rw [(processed.refuses found mine).2]
        exact h
  | background now =>
    obtain ⟨cache, advanced, stepped⟩ := bind_eq_ok.mp stepped
    cases stepped
    obtain ⟨inner, moved, advanced⟩ := bind_eq_ok.mp advanced
    cases advanced
    unfold Collections.HashTtlCache.advanceClock at moved
    split at moved
    · cases moved
      exact ⟨h.cached, h.told⟩
    · cases moved

/-- A cache that is populated holds the values. -/
theorem populate_trusts {c c' : ArpCache} {values : List (Ipv4Addr × MacAddress)}
    (lives : c.cache.defaultTtl = some ttl) (ran : c.populate values = .ok c')
    (cached : ∀ ipv4Addr record, c.cache.map.lookup ipv4Addr = some record → owns ipv4Addr record.value)
    (own : ∀ value ∈ values, owns value.1 value.2) :
    ∀ ipv4Addr record, c'.cache.map.lookup ipv4Addr = some record → owns ipv4Addr record.value := by
  induction values generalizing c with
  | nil =>
    cases ran
    exact cached
  | cons value values ih =>
    obtain ⟨⟨replaced, next⟩, inserted, ran⟩ := bind_eq_ok.mp ran
    have maps := ArpCache.insert_maps lives inserted
    refine ih (maps.defaultTtl.trans lives) ran ?_ fun value member =>
      own value (List.mem_cons_of_mem _ member)
    intro other record found
    by_cases same : other = value.1
    · subst same
      cases maps.entry.symm.trans found
      exact own value List.mem_cons_self
    · rw [maps.others other same] at found
      exact cached other record (Option.filter_eq_some_iff.mp found).1

/-- A new peer trusts what it was configured with. -/
theorem trusts_new {now : Instant} {localLinkAddr : MacAddress} {localIpv4Addr : Ipv4Addr}
    {options : ArpConfig} (made : new now localLinkAddr localIpv4Addr options = .ok p)
    (own : ∀ value ∈ options.initialValues, owns value.1 value.2) : p.Trusts owns := by
  obtain ⟨cache, populated, made⟩ := bind_eq_ok.mp made
  cases made
  obtain ⟨empty, created, populated⟩ := bind_eq_ok.mp populated
  obtain ⟨_, asserted, created⟩ := bind_eq_ok.mp created
  cases created
  refine ⟨populate_trusts rfl populated (fun _ _ found => by cases found) own, ?_⟩
  intro query asked left linkAddr found
  cases found

/-- The cache answers with what is so. -/
theorem Trusts.get (h : p.Trusts owns) (enabled : p.cache.disable = false)
    (found : p.cache.get ipv4Addr = some linkAddr) : owns ipv4Addr linkAddr := by
  simp only [ArpCache.get, enabled, Bool.false_eq_true, if_false] at found
  obtain ⟨record, known, rfl⟩ := Option.map_eq_some_iff.mp found
  exact h.cached ipv4Addr record known

/-- An answer before the timeout is the one that was sent. -/
theorem withTimeout_response {response : Response} {s : Select}
    (polled : response.withTimeout s = .response linkAddr) : response = .sent linkAddr := by
  unfold Response.withTimeout at polled
  split at polled
  · cases polled
  cases response with
  | pending =>
    simp only [Response.poll] at polled
    split at polled <;> cases polled
  | sent said =>
    cases polled
    rfl
  | cancelled => cases polled

/-- **A query is answered with what is so.** -/
theorem Trusts.answered (h : p.Trusts owns) (enabled : p.cache.disable = false)
    (known : p.queries.lookup query = some task) (asked : task.asked = some ipv4Addr) {s : Select}
    (ran : p.poll query s = .ok p') (ready : p'.queries.lookup query = some (.ready (.ok linkAddr))) :
    owns ipv4Addr linkAddr := by
  have set (q : ArpPeer) (task : QueryTask) : (q.setQuery query task).queries.lookup query = some task := by
    rw [lookup_setQuery, if_pos rfl]
  unfold poll at ran
  rw [known] at ran
  cases task with
  | created asked' =>
    cases asked
    dsimp only at ran
    unfold start at ran
    split at ran
    next answer hit =>
      cases ran
      cases (set p _).symm.trans ready
      exact h.get enabled hit
    next miss =>
      simp only [doWaitLinkAddr, miss] at ran
      split at ran
      · cases ran
      · cases ran
        cases (set _ _).symm.trans ready
  | waiting asked' left response =>
    cases asked
    dsimp only at ran
    unfold resume at ran
    split at ran
    next waits =>
      cases ran
      cases known.symm.trans ready
    next answer polled =>
      cases ran
      cases (set p _).symm.trans ready
      cases withTimeout_response polled
      exact h.told query ipv4Addr left linkAddr known
    next => cases ran
    next =>
      cases left with
      | zero =>
        cases ran
        cases (set _ _).symm.trans ready
      | succ left =>
        cases response with
        | pending =>
          cases ran
          cases (set _ _).symm.trans ready
        | sent said =>
          -- the timer was looked at first, and the answer is taken by the next iteration
          cases ran
          cases (set _ _).symm.trans ready
          exact h.told query ipv4Addr (left + 1) linkAddr known
        | cancelled => cases ran
  | ready result => cases asked
  | dropped => cases asked

end ArpPeer

end Inetstack.Arp
