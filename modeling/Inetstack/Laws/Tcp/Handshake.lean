import Inetstack.Tcp.Handshake
import Inetstack.Laws.Tcp.Established.Endpoint

/-!
# Handshake agreement

Whatever the network does with the segments of a handshake, and however often they are sent again, the
two ends come up with control blocks that fit together. The reason is that neither end ever told two
different things: every SYN of the client carries its one initial sequence number and its one set of
options, and so does every SYN+ACK of the server. For the server this needs an argument, since its
number comes from a generator that moves on: an in-flight entry is opened only while the client is
neither in flight, nor ready, nor established, and the client never leaves these again.
-/

namespace Inetstack.Tcp

open Machine (bind_eq_ok)

/-- The window the connecting side gives its receiver, as it computes it. -/
def TcpConfig.connectWindow (config : TcpConfig) : Except Fault UInt32 :=
  checkedShl16 config.receiveWindowSize config.windowScale.toUInt32.toNat

/-- The window the listening side gives its receiver, as it computes it. -/
def TcpConfig.listenWindow (config : TcpConfig) : Except Fault UInt32 :=
  checkedShl32 config.receiveWindowSize config.windowScale.toUInt32.toNat

/-- The window either side takes the peer to have. -/
def TcpConfig.announcedWindow (config : TcpConfig) : Except Fault UInt32 :=
  checkedShl16 config.receiveWindowSize config.windowScale.toNat

/-- A segment that has a SYN opens a connection at `isn` with the options and the window of `config`. -/
def TcpSegment.Opens (fallbackMss : Nat) (isn : SeqNumber) (config : TcpConfig)
    (segment : TcpSegment) : Prop :=
  segment.tcpHdr.syn = true → segment.tcpHdr.seqNum = isn ∧
    handshakeOptions fallbackMss segment.tcpHdr =
      (some config.windowScale, (UInt16.ofNat config.advertisedMss).toNat) ∧
    segment.tcpHdr.windowSize = config.receiveWindowSize

/-- A control block that starts at `localIsn` with a receive window of its own, against a peer that
starts at `remoteIsn` and advertises the options and the window of `remoteConfig`. -/
structure ControlBlock.Opened (localIsn remoteIsn : SeqNumber) (window : Except Fault UInt32)
    (remoteConfig : TcpConfig) (cb : ControlBlock CongestionControl.None) : Prop where
  sendNext : cb.sender.sendNext = localIsn + 1
  receiveNext : cb.receiver.receiveNext = remoteIsn + 1
  mss : cb.sender.mss = (UInt16.ofNat remoteConfig.advertisedMss).toNat
  windowScale : cb.sender.windowScale = remoteConfig.windowScale
  receiveBufferSize : window = .ok cb.receiveBufferSize
  sendWindow : remoteConfig.announcedWindow = .ok cb.sender.sendWindow

/-- Nothing is asked of a segment without a SYN. -/
theorem TcpSegment.Opens.of_noSyn {fallbackMss : Nat} {isn : SeqNumber} {config : TcpConfig}
    {segment : TcpSegment} (noSyn : segment.tcpHdr.syn = false) :
    segment.Opens fallbackMss isn config := fun syn => by
  rw [noSyn] at syn
  cases syn

/-- The options a handshake reads are the ones advertised. -/
theorem handshakeOptions_advertise (fallbackMss : Nat) (config : TcpConfig) {header : TcpHeader}
    (none : header.optionList = []) :
    handshakeOptions fallbackMss (header.advertise config) =
      (some config.windowScale, (UInt16.ofNat config.advertisedMss).toNat) := by
  simp only [handshakeOptions, TcpHeader.advertise, TcpHeader.pushOption, none, List.nil_append,
    List.cons_append, List.foldl_cons, List.foldl_nil]

namespace Runtime

/-- Nothing was sent since. -/
@[simp] theorem since_self (rt : Runtime) : rt.since rt = [] := List.drop_length

/-- One segment was sent since. -/
@[simp] theorem since_transmit (rt : Runtime) (segment : TcpSegment) :
    (rt.transmit segment).since rt = [segment] := List.drop_left

end Runtime

/-- An established connection sends no SYN. -/
theorem Endpoint.step_since_noSyn {e e' : Endpoint CongestionControl.None} {event : Event}
    (stepped : e.step event = .ok e') :
    ∀ segment ∈ e'.cb.rt.since e.cb.rt, segment.tcpHdr.syn = false := by
  have acks : e.cb.AcksOnly e'.cb →
      ∀ segment ∈ e'.cb.rt.since e.cb.rt, segment.tcpHdr.syn = false := by
    intro acks segment member
    obtain ⟨new, eq, pure⟩ := acks.transmitted
    rw [Runtime.since, eq, List.drop_left] at member
    exact (pure segment member).syn
  have one : ∀ {segment : TcpSegment}, segment.tcpHdr.syn = false →
      e'.cb.rt.transmitted = e.cb.rt.transmitted ++ [segment] →
      ∀ segment ∈ e'.cb.rt.since e.cb.rt, segment.tcpHdr.syn = false := by
    intro segment noSyn eq other member
    rw [Runtime.since, eq, List.drop_left] at member
    rwa [List.mem_singleton.mp member]
  have none : e'.cb.rt = e.cb.rt →
      ∀ segment ∈ e'.cb.rt.since e.cb.rt, segment.tcpHdr.syn = false := by
    intro same segment member
    rw [same, Runtime.since_self] at member
    cases member
  cases step_sendStep stepped with
  | quiet quiet task history window => exact acks quiet
  | waits quiet atTop unsent task history window => exact acks quiet
  | sent notDone small atOnce text sent task accepted transmitted => exact one text.syn sent.transmitted
  | queued notDone small below side same task window accepted first used => exact none same
  | sentFin notDone atOnce text sent closed task accepted transmitted =>
    refine one text.syn ?_
    rw [closed]
    exact sent.transmitted
  | queuedFin notDone notAtOnce side same task window history => exact none same
  | probed waiting queue text sent task accepted transmitted => exact one text.syn sent.transmitted
  | probedAgain probing text sent task history => exact one text.syn sent.transmitted
  | popped waiting queue room text sent task accepted transmitted =>
    exact one text.syn sent.transmitted

/-! ## The client -/

namespace ActiveOpenSocket

variable {fallbackMss : Nat}

/-- The identity of a connect attempt. -/
structure Same (s s' : ActiveOpenSocket) : Prop where
  localIsn : s'.localIsn = s.localIsn
  config : s'.rt.tcpOptions = s.rt.tcpOptions

theorem controlBlock_opened {s : ActiveOpenSocket} {header : TcpHeader} {isn : SeqNumber}
    {config : TcpConfig} {cb : ControlBlock CongestionControl.None}
    (seqNum : header.seqNum = isn)
    (options : handshakeOptions fallbackMss header =
      (some config.windowScale, (UInt16.ofNat config.advertisedMss).toNat))
    (window : header.windowSize = config.receiveWindowSize)
    (built : s.controlBlock fallbackMss header = .ok cb) :
    cb.Opened s.localIsn isn s.rt.tcpOptions.connectWindow config := by
  unfold controlBlock at built
  rw [options, window] at built
  dsimp only [negotiatedScales] at built
  split at built
  · obtain ⟨rx, received, built⟩ := bind_eq_ok.mp built
    obtain ⟨tx, announced, built⟩ := bind_eq_ok.mp built
    cases built
    exact ⟨rfl, by rw [← seqNum]; rfl, rfl, rfl, received, announced⟩
  · cases built

/-- **What a segment does to a connect attempt.** It sends at most an ACK, and a new result is an error
or the control block of a SYN+ACK. -/
theorem receive_cases {s s' : ActiveOpenSocket} {env : Env} {header : TcpHeader}
    (ran : s.receive fallbackMss env header = .ok s') :
    Same s s' ∧ (∀ segment ∈ s'.rt.since s.rt, segment.tcpHdr.syn = false) ∧
      (s'.result = s.result ∨ (∃ fail, s'.result = some (.error fail)) ∨
        header.syn = true ∧ ∃ socket cb, Same s socket ∧
          socket.controlBlock fallbackMss header = .ok cb ∧ s'.result = some (.ok cb)) := by
  unfold receive at ran
  dsimp only at ran
  split at ran
  · cases ran
    exact ⟨⟨rfl, rfl⟩, by simp, .inl rfl⟩
  split at ran
  · cases ran
    exact ⟨⟨rfl, rfl⟩, by simp [setResult], .inr (.inl ⟨_, rfl⟩)⟩
  split at ran
  · cases ran
    exact ⟨⟨rfl, rfl⟩, by simp, .inl rfl⟩
  next syn =>
    split at ran
    · cases ran
    next mac _ =>
      obtain ⟨cb, built, ran⟩ := bind_eq_ok.mp ran
      cases ran
      refine ⟨⟨rfl, rfl⟩, ?_,
        .inr (.inr ⟨by simpa using syn, _, cb, (by exact ⟨rfl, rfl⟩), built, rfl⟩)⟩
      simp [setResult, bareSegment, ackHeader, TcpHeader.new]

/-- **What a poll of the retry task does**: it sends a SYN, or gives up. -/
theorem background_cases (s : ActiveOpenSocket) (fallbackMss : Nat) (poll : RetryPoll) :
    Same s (s.background poll) ∧
      (∀ segment ∈ (s.background poll).rt.since s.rt,
        segment.Opens fallbackMss s.localIsn s.rt.tcpOptions) ∧
      ((s.background poll).result = s.result ∨
        ∃ fail, (s.background poll).result = some (.error fail)) := by
  unfold background
  dsimp only
  split
  · exact ⟨⟨rfl, rfl⟩, by simp, .inl rfl⟩
  · refine ⟨⟨rfl, rfl⟩, ?_, .inl rfl⟩
    simp only [Runtime.since_transmit, List.mem_singleton, forall_eq]
    exact fun _ => ⟨rfl, handshakeOptions_advertise fallbackMss s.rt.tcpOptions rfl, rfl⟩
  · exact ⟨⟨rfl, rfl⟩, by simp [setResult], .inr ⟨_, rfl⟩⟩

end ActiveOpenSocket

/-! ## The server -/

namespace PassiveSocket

variable {crc : List UInt8 → UInt32} {fallbackMss : Nat}

/-- An in-flight entry with the numbers of the handshake and the options the client advertised. -/
structure Inflight (localIsn remoteIsn : SeqNumber) (remoteConfig : TcpConfig)
    (accept : InflightAccept) : Prop where
  localIsn : accept.localIsn = localIsn
  remoteIsn : accept.remoteIsn = remoteIsn
  remoteWindowScale : accept.remoteWindowScale = some remoteConfig.windowScale
  mss : accept.mss = (UInt16.ofNat remoteConfig.advertisedMss).toNat
  headerWindowSize : accept.headerWindowSize = remoteConfig.receiveWindowSize

/-- The client is somewhere on its way through the listener. -/
def Knows (s : PassiveSocket) (clientAddr : SocketAddrV4) : Prop :=
  (s.inflight.lookup clientAddr).isSome = true ∨ clientAddr ∈ s.ready.endpoints

/-- **A listener that has heard of one client only.** Its entry for the client and the control blocks
it has made of it all have the first number of the generator; and while the client is not known
(`gone` told that it has been accepted), the generator has not been used. -/
structure Serves (crc : List UInt8 → UInt32) (nonce : UInt32)
    (clientAddr serverAddr : SocketAddrV4) (clientIsn : SeqNumber)
    (clientConfig serverConfig : TcpConfig) (gone : Prop) (s : PassiveSocket) : Prop where
  config : s.rt.tcpOptions = serverConfig
  localAddr : s.localAddr = serverAddr
  inflight : ∀ accept, s.inflight.lookup clientAddr = some accept →
    Inflight ((IsnGenerator.new nonce).generate crc serverAddr clientAddr).1 clientIsn clientConfig
      accept
  fresh : ¬ gone → ¬ s.Knows clientAddr → s.isnGenerator = IsnGenerator.new nonce
  blocks : ∀ cb ∈ producedBlocks s.ready.ready,
    cb.Opened ((IsnGenerator.new nonce).generate crc serverAddr clientAddr).1 clientIsn
      serverConfig.listenWindow clientConfig

variable {nonce : UInt32} {clientAddr serverAddr : SocketAddrV4} {clientIsn : SeqNumber}
  {clientConfig serverConfig : TcpConfig} {gone : Prop} {s s' : PassiveSocket}

theorem controlBlock_opened {remoteAddr : SocketAddrV4} {accept : InflightAccept}
    {localIsn remoteIsn : SeqNumber} {remoteConfig : TcpConfig}
    {cb : ControlBlock CongestionControl.None} (h : Inflight localIsn remoteIsn remoteConfig accept)
    (built : s.controlBlock remoteAddr accept = .ok cb) :
    cb.Opened localIsn remoteIsn s.rt.tcpOptions.listenWindow remoteConfig ∧
      cb.remoteAddr = remoteAddr := by
  unfold controlBlock at built
  rw [h.remoteWindowScale, h.headerWindowSize] at built
  dsimp only [negotiatedScales] at built
  obtain ⟨tx, announced, built⟩ := bind_eq_ok.mp built
  obtain ⟨rx, received, built⟩ := bind_eq_ok.mp built
  cases built
  exact ⟨⟨by rw [← h.localIsn]; rfl, by rw [← h.remoteIsn]; rfl, h.mss, rfl, received, announced⟩, rfl⟩

/-- The blocks of a queue are those of its results. -/
theorem producedBlocks_append (results : List OpenResult) (result : OpenResult) :
    producedBlocks (results ++ [result]) = producedBlocks results ++ result.toOption.toList := by
  unfold producedBlocks
  rw [List.filterMap_append]
  cases result <;> rfl

/-- **A segment of the client.** -/
theorem Serves.receive {header : TcpHeader} {result : Except Fail Unit}
    (h : s.Serves crc nonce clientAddr serverAddr clientIsn clientConfig serverConfig gone)
    (notGone : ¬ gone)
    (opens : header.syn = true → header.seqNum = clientIsn ∧ handshakeOptions fallbackMss header =
      (some clientConfig.windowScale, (UInt16.ofNat clientConfig.advertisedMss).toNat) ∧
      header.windowSize = clientConfig.receiveWindowSize)
    (ran : s.receive crc fallbackMss clientAddr header = .ok (result, s')) :
    s'.Serves crc nonce clientAddr serverAddr clientIsn clientConfig serverConfig gone ∧
      s'.rt = s.rt := by
  unfold PassiveSocket.receive at ran
  split at ran
  · cases ran
    exact ⟨h, rfl⟩
  next notReady =>
  cases known : s.inflight.lookup clientAddr with
  | some accept =>
    rw [known] at ran
    -- the last ACK of a handshake in flight: a block is built and the entry goes
    dsimp only [receiveInflight] at ran
    split at ran
    · cases ran
      exact ⟨h, rfl⟩
    split at ran
    · cases ran
      exact ⟨h, rfl⟩
    obtain ⟨cb, built, ran⟩ := bind_eq_ok.mp ran
    obtain ⟨ready, pushed, ran⟩ := bind_eq_ok.mp ran
    cases ran
    obtain ⟨opened, remote⟩ := controlBlock_opened (h.inflight accept known) built
    rw [h.config] at opened
    unfold ReadySockets.pushOk at pushed
    split at pushed
    · cases pushed
    cases pushed
    refine ⟨⟨h.config, h.localAddr, ?_, ?_, ?_⟩, rfl⟩
    · intro accept found
      rw [AList.lookup_erase] at found
      cases found
    -- the remote address stays known, as the address of a ready connection
    · intro _ unknown
      exact absurd (.inr (by rw [remote]; exact Finset.mem_insert_self _ _)) unknown
    · intro cb' made
      dsimp only at made
      rw [producedBlocks_append] at made
      rcases List.mem_append.mp made with old | new
      · exact h.blocks cb' old
      · cases List.mem_singleton.mp new
        exact opened
  | none =>
    rw [known] at ran
    -- a SYN from a remote that is neither in flight nor ready
    have unknown : ¬ s.Knows clientAddr := by
      rintro (found | ready)
      · rw [known] at found
        cases found
      · exact notReady ready
    have unused := h.fresh notGone unknown
    dsimp only [receiveNew] at ran
    split at ran
    · cases ran
      exact ⟨h, rfl⟩
    next flags =>
    split at ran
    · cases ran
      exact ⟨h, rfl⟩
    cases ran
    have syn : header.syn = true := by
      simp only [Bool.or_eq_true, Bool.not_eq_true', not_or, Bool.not_eq_false] at flags
      exact flags.1.1
    obtain ⟨seqNum, options, window⟩ := opens syn
    refine ⟨⟨h.config, h.localAddr, ?_, ?_, h.blocks⟩, rfl⟩
    · intro accept found
      dsimp only at found
      rw [AList.lookup_insert, Option.some.injEq] at found
      subst found
      exact ⟨by rw [unused, h.localAddr], seqNum, by rw [options], by rw [options], window⟩
    · intro _ unknown
      exact absurd (.inl (by dsimp only; rw [AList.lookup_insert]; rfl)) unknown

/-- **A poll of the retry task for the client.** It sends a SYN+ACK, or gives up and leaves the entry. -/
theorem Serves.background
    (h : s.Serves crc nonce clientAddr serverAddr clientIsn clientConfig serverConfig gone)
    (fallbackMss : Nat) (poll : RetryPoll) :
    (s.background clientAddr poll).Serves crc nonce clientAddr serverAddr clientIsn clientConfig
        serverConfig gone ∧
      ∀ segment ∈ (s.background clientAddr poll).rt.since s.rt, segment.Opens fallbackMss
        ((IsnGenerator.new nonce).generate crc serverAddr clientAddr).1 serverConfig := by
  unfold PassiveSocket.background
  cases known : s.inflight.lookup clientAddr with
  | none => exact ⟨h, by simp⟩
  | some accept =>
    have entry := h.inflight accept known
    -- the entry with its task moved on, whatever else changes
    have moved : ∀ (handle : RetryTask) (rt : Runtime) (ready : ReadySockets),
        rt.tcpOptions = s.rt.tcpOptions → ready.endpoints = s.ready.endpoints →
        producedBlocks ready.ready = producedBlocks s.ready.ready →
        ({ s with
          rt := rt, ready := ready
          inflight := s.inflight.insert clientAddr { accept with handle := handle } } :
            PassiveSocket).Serves crc nonce clientAddr serverAddr clientIsn clientConfig serverConfig
              gone := by
      intro handle rt ready config endpoints blocks
      refine ⟨config.trans h.config, h.localAddr, ?_, ?_,
        fun cb made => h.blocks cb (blocks ▸ made)⟩
      · intro other found
        dsimp only at found
        rw [AList.lookup_insert, Option.some.injEq] at found
        subst found
        exact ⟨entry.localIsn, entry.remoteIsn, entry.remoteWindowScale, entry.mss,
          entry.headerWindowSize⟩
      · intro _ unknown
        exact absurd (.inl (by dsimp only; rw [AList.lookup_insert]; rfl)) unknown
    dsimp only
    split
    · exact ⟨moved _ s.rt s.ready rfl rfl rfl, by simp⟩
    · refine ⟨moved _ _ s.ready rfl rfl rfl, ?_⟩
      simp only [Runtime.since_transmit, List.mem_singleton, forall_eq]
      rw [← h.config]
      exact fun _ =>
        ⟨entry.localIsn, handshakeOptions_advertise fallbackMss s.rt.tcpOptions rfl, rfl⟩
    · refine ⟨moved _ s.rt _ rfl rfl ?_, by simp⟩
      rw [ReadySockets.pushErr, producedBlocks_append]
      exact List.append_nil _

/-- Taking a result that is not a connection. -/
theorem Serves.polled {rest : List OpenResult} {result : OpenResult}
    (h : s.Serves crc nonce clientAddr serverAddr clientIsn clientConfig serverConfig gone)
    (queue : s.ready.ready = result :: rest) {endpoints : Finset SocketAddrV4} {gone' : Prop}
    (fresh : gone' ∨ endpoints = s.ready.endpoints ∧ gone' = gone) :
    ({ s with ready := ⟨rest, endpoints⟩ } : PassiveSocket).Serves crc nonce clientAddr serverAddr
      clientIsn clientConfig serverConfig gone' := by
  refine ⟨h.config, h.localAddr, h.inflight, ?_, ?_⟩
  · intro notGone unknown
    rcases fresh with gone | ⟨rfl, rfl⟩
    · exact absurd gone notGone
    · exact h.fresh notGone unknown
  · intro cb made
    refine h.blocks cb ?_
    rw [queue]
    unfold producedBlocks at made ⊢
    rw [List.filterMap_cons]
    split
    · exact made
    · exact List.mem_cons_of_mem _ made

end PassiveSocket

/-! ## The two ends and the network -/

namespace Handshake

/-- **Neither end ever told two different things.** -/
structure Agreed (crc : List UInt8 → UInt32) (fallbackMss : Nat) (nonce : UInt32)
    (clientAddr serverAddr : SocketAddrV4) (clientIsn serverIsn : SeqNumber)
    (clientConfig serverConfig : TcpConfig) (h : Handshake) : Prop where
  sameClient : h.clientAddr = clientAddr
  generated : serverIsn = ((IsnGenerator.new nonce).generate crc serverAddr clientAddr).1
  toServer : ∀ segment ∈ h.toServer, segment.Opens fallbackMss clientIsn clientConfig
  toClient : ∀ segment ∈ h.toClient, segment.Opens fallbackMss serverIsn serverConfig
  client : ∀ socket, h.client = .connecting socket → socket.localIsn = clientIsn ∧
    socket.rt.tcpOptions = clientConfig ∧
    ∀ cb, socket.result = some (.ok cb) →
      cb.Opened clientIsn serverIsn clientConfig.connectWindow serverConfig
  server : h.server.passive.Serves crc nonce clientAddr serverAddr clientIsn clientConfig
    serverConfig (h.server.established.isSome = true)
  clientBlocks : ∀ cb ∈ h.clientBlocks,
    cb.Opened clientIsn serverIsn clientConfig.connectWindow serverConfig
  serverBlocks : ∀ cb ∈ h.serverBlocks,
    cb.Opened serverIsn clientIsn serverConfig.listenWindow clientConfig

variable {crc : List UInt8 → UInt32} {fallbackMss : Nat} {nonce : UInt32}
  {clientAddr serverAddr : SocketAddrV4} {clientIsn serverIsn : SeqNumber}
  {clientConfig serverConfig : TcpConfig} {h h' : Handshake}

/-- More segments that say the same. -/
theorem opens_append {old new : List TcpSegment} {isn : SeqNumber} {config : TcpConfig}
    (said : ∀ segment ∈ old, segment.Opens fallbackMss isn config)
    (told : ∀ segment ∈ new, segment.Opens fallbackMss isn config) :
    ∀ segment ∈ old ++ new, segment.Opens fallbackMss isn config := by
  intro segment member
  rcases List.mem_append.mp member with old | new
  · exact said segment old
  · exact told segment new

/-- A segment for the client. -/
theorem Agreed.clientReceive
    (agreed : h.Agreed crc fallbackMss nonce clientAddr serverAddr clientIsn serverIsn clientConfig
      serverConfig) {env : Env} {segment : TcpSegment}
    (opens : segment.Opens fallbackMss serverIsn serverConfig)
    (ran : h.clientReceive fallbackMss env segment = .ok h') :
    h'.Agreed crc fallbackMss nonce clientAddr serverAddr clientIsn serverIsn clientConfig
      serverConfig := by
  unfold Handshake.clientReceive at ran
  cases side : h.client with
  | established e =>
    -- after the handshake the endpoint answers, and never with a SYN
    rw [side] at ran
    obtain ⟨e', stepped, ran⟩ := bind_eq_ok.mp ran
    cases ran
    exact { agreed with
      toServer := opens_append agreed.toServer fun segment member =>
        .of_noSyn (Endpoint.step_since_noSyn stepped segment member)
      client := fun _ connecting => by cases connecting }
  | connecting socket =>
    rw [side] at ran
    obtain ⟨socket', received, ran⟩ := bind_eq_ok.mp ran
    cases ran
    obtain ⟨same, quiet, result⟩ := ActiveOpenSocket.receive_cases received
    obtain ⟨localIsn, config, block⟩ := agreed.client socket side
    -- a block is made here or was there before; both are opened as agreed
    have produced : ∀ cb, socket'.result = some (.ok cb) →
        cb.Opened clientIsn serverIsn clientConfig.connectWindow serverConfig := by
      intro cb made
      rcases result with kept | ⟨fail, failed⟩ | ⟨syn, opener, cb', was, built, new⟩
      · exact block cb (kept ▸ made)
      · rw [failed] at made
        cases made
      · rw [new] at made
        cases made
        obtain ⟨seqNum, options, window⟩ := opens syn
        have opened := ActiveOpenSocket.controlBlock_opened seqNum options window built
        rwa [was.localIsn, was.config, localIsn, config] at opened
    refine { agreed with
      toServer := opens_append agreed.toServer fun segment member =>
        .of_noSyn (quiet segment member)
      client := ?_
      clientBlocks := ?_ }
    · intro other connecting
      cases connecting
      exact ⟨same.localIsn.trans localIsn, same.config.trans config, produced⟩
    · intro cb member
      rcases List.mem_append.mp member with old | new
      · exact agreed.clientBlocks cb old
      · refine produced cb ?_
        cases made : socket'.result with
        | none =>
          rw [made] at new
          cases new
        | some result =>
          rw [made] at new
          cases result with
          | ok cb' =>
            cases List.mem_singleton.mp new
            rfl
          | error fail => cases new
  | failed fail rt =>
    rw [side] at ran
    cases ran
    -- a refused attempt answers with an RST at most
    refine { agreed with
      toServer := opens_append agreed.toServer fun segment member => .of_noSyn ?_
      client := fun _ connecting => by cases connecting }
    unfold sendRst at member
    split at member
    · simp at member
    · simp only [Runtime.since_transmit, List.mem_singleton] at member
      subst member
      rfl

/-- A segment for the server. -/
theorem Agreed.serverReceive
    (agreed : h.Agreed crc fallbackMss nonce clientAddr serverAddr clientIsn serverIsn clientConfig
      serverConfig) {env : Env} {segment : TcpSegment}
    (opens : segment.Opens fallbackMss clientIsn clientConfig)
    (ran : h.serverReceive crc fallbackMss env segment = .ok h') :
    h'.Agreed crc fallbackMss nonce clientAddr serverAddr clientIsn serverIsn clientConfig
      serverConfig := by
  unfold Handshake.serverReceive at ran
  cases side : h.server.established with
  | some e =>
    rw [side] at ran
    obtain ⟨e', stepped, ran⟩ := bind_eq_ok.mp ran
    cases ran
    have server := agreed.server
    rw [side] at server
    exact { agreed with
      toClient := opens_append agreed.toClient fun segment member =>
        .of_noSyn (Endpoint.step_since_noSyn stepped segment member)
      server := server }
  | none =>
    rw [side] at ran
    obtain ⟨⟨result, passive⟩, received, ran⟩ := bind_eq_ok.mp ran
    cases ran
    rw [agreed.sameClient] at received
    obtain ⟨serves, quiet⟩ := agreed.server.receive (by rw [side]; decide) opens received
    refine { agreed with
      toClient := opens_append agreed.toClient ?_
      server := serves
      serverBlocks := ?_ }
    · intro segment member
      rw [quiet, Runtime.since_self] at member
      cases member
    · intro cb member
      rcases List.mem_append.mp member with old | new
      · exact agreed.serverBlocks cb old
      · rw [agreed.generated]
        exact serves.blocks cb new

/-- A poll of the connect future keeps the agreement. -/
theorem Agreed.pollConnect
    (agreed : h.Agreed crc fallbackMss nonce clientAddr serverAddr clientIsn serverIsn clientConfig
      serverConfig) :
    h.pollConnect.Agreed crc fallbackMss nonce clientAddr serverAddr clientIsn serverIsn clientConfig
      serverConfig := by
  unfold Handshake.pollConnect
  split
  next socket side =>
    obtain ⟨localIsn, config, -⟩ := agreed.client socket side
    cases taken : socket.result with
    | none =>
      simp only [ActiveOpenSocket.pollResult, taken]
      exact { agreed with
        client := fun other connecting => by
          cases connecting
          exact ⟨localIsn, config, fun _ none => by cases none⟩ }
    | some result =>
      cases result <;>
      · simp only [ActiveOpenSocket.pollResult, taken]
        exact { agreed with client := fun _ connecting => by cases connecting }
  · exact agreed

/-- So does a poll of the accept future. -/
theorem Agreed.pollAccept
    (agreed : h.Agreed crc fallbackMss nonce clientAddr serverAddr clientIsn serverIsn clientConfig
      serverConfig) (ran : h.pollAccept = .ok h') :
    h'.Agreed crc fallbackMss nonce clientAddr serverAddr clientIsn serverIsn clientConfig
      serverConfig := by
  obtain ⟨⟨result, passive⟩, polled, ran⟩ := bind_eq_ok.mp ran
  obtain ⟨⟨result', ready⟩, took, polled⟩ := bind_eq_ok.mp polled
  cases polled
  unfold ReadySockets.poll at took
  split at took
  · cases took
    cases ran
    exact { agreed with server := agreed.server }
  next cb rest queue =>
    split at took
    · cases took
      dsimp only at ran
      split at ran
      · cases ran
      · cases ran
        exact { agreed with server := agreed.server.polled queue (.inl rfl) }
    · cases took
  next fail rest queue =>
    cases took
    cases ran
    exact { agreed with server := agreed.server.polled queue (.inr ⟨rfl, rfl⟩) }

/-- **One event keeps the agreement.** -/
theorem step_agreed {event : HandshakeEvent}
    (agreed : h.Agreed crc fallbackMss nonce clientAddr serverAddr clientIsn serverIsn clientConfig
      serverConfig) (stepped : h.step crc fallbackMss event = .ok h') :
    h'.Agreed crc fallbackMss nonce clientAddr serverAddr clientIsn serverIsn clientConfig
      serverConfig := by
  cases event with
  | clientRetry poll =>
    -- a retry sends the SYN again or gives up; it builds no block
    simp only [step] at stepped
    split at stepped
    next socket side =>
      cases stepped
      obtain ⟨localIsn, config, block⟩ := agreed.client socket side
      obtain ⟨same, told, result⟩ := socket.background_cases fallbackMss poll
      rw [localIsn, config] at told
      refine { agreed with
        toServer := opens_append agreed.toServer told
        client := ?_ }
      intro other connecting
      cases connecting
      refine ⟨same.localIsn.trans localIsn, same.config.trans config, ?_⟩
      intro cb made
      rcases result with kept | ⟨fail, failed⟩
      · exact block cb (kept ▸ made)
      · rw [failed] at made
        cases made
    · cases stepped
      exact agreed
  | serverRetry poll =>
    cases stepped
    obtain ⟨serves, told⟩ := agreed.server.background fallbackMss poll
    -- the SYN+ACK of a retry carries the number generated for this client
    rw [← agreed.generated] at told
    refine { agreed with
      toClient := opens_append agreed.toClient ?_
      server := ?_ }
    · rw [agreed.sameClient]
      exact told
    · dsimp only
      rw [agreed.sameClient]
      exact serves
  | deliverToClient index env =>
    simp only [step] at stepped
    split at stepped
    next segment there =>
      exact agreed.clientReceive (agreed.toClient segment (List.mem_of_getElem? there)) stepped
    · cases stepped
      exact agreed
  | deliverToServer index env =>
    simp only [step] at stepped
    split at stepped
    next segment there =>
      exact agreed.serverReceive (agreed.toServer segment (List.mem_of_getElem? there)) stepped
    · cases stepped
      exact agreed
  | pollConnect =>
    cases stepped
    exact agreed.pollConnect
  | pollAccept => exact agreed.pollAccept stepped
  | clientCall call env =>
    simp only [step] at stepped
    split at stepped
    next e side =>
      obtain ⟨e', ran, stepped⟩ := bind_eq_ok.mp stepped
      cases stepped
      exact { agreed with
        toServer := opens_append agreed.toServer fun segment member =>
          .of_noSyn (Endpoint.step_since_noSyn ran segment member)
        client := fun _ connecting => by cases connecting }
    · cases stepped
      exact agreed
  | serverCall call env =>
    simp only [step] at stepped
    split at stepped
    next e side =>
      obtain ⟨e', ran, stepped⟩ := bind_eq_ok.mp stepped
      cases stepped
      have server := agreed.server
      rw [side] at server
      exact { agreed with
        toClient := opens_append agreed.toClient fun segment member =>
          .of_noSyn (Endpoint.step_since_noSyn ran segment member)
        server := server }
    · cases stepped
      exact agreed

/-- At the start nothing has been said. -/
theorem start_agreed (crc : List UInt8 → UInt32) (fallbackMss : Nat) (clientIsn : SeqNumber)
    (clientAddr serverAddr : SocketAddrV4) (clientRt serverRt : Runtime) (maxBacklog : Nat)
    (nonce : UInt32) :
    (Handshake.start clientIsn clientAddr serverAddr clientRt serverRt maxBacklog nonce).Agreed crc
      fallbackMss nonce clientAddr serverAddr clientIsn
      ((IsnGenerator.new nonce).generate crc serverAddr clientAddr).1 clientRt.tcpOptions
      serverRt.tcpOptions where
  sameClient := rfl
  generated := rfl
  toServer := fun _ none => by cases none
  toClient := fun _ none => by cases none
  client := by
    intro socket connecting
    cases connecting
    exact ⟨rfl, rfl, fun _ none => by cases none⟩
  server := ⟨rfl, rfl, fun _ none => (by cases none), fun _ _ => rfl, fun _ none => (by cases none)⟩
  clientBlocks := fun _ none => by cases none
  serverBlocks := fun _ none => by cases none

/-- **Two sides that only heard of each other agree.** -/
theorem run_agreed {clientRt serverRt : Runtime} {maxBacklog : Nat} {events : List HandshakeEvent}
    (ran : (Handshake.start clientIsn clientAddr serverAddr clientRt serverRt maxBacklog nonce).run crc
      fallbackMss events = .ok h) :
    h.Agreed crc fallbackMss nonce clientAddr serverAddr clientIsn
      ((IsnGenerator.new nonce).generate crc serverAddr clientAddr).1 clientRt.tcpOptions
      serverRt.tcpOptions := by
  refine Machine.invariant _ step_agreed ?_ ran
  exact start_agreed crc fallbackMss clientIsn clientAddr serverAddr clientRt serverRt maxBacklog nonce

/-- **Handshake agreement.** In any run of a connect attempt and a listener over a network that drops,
duplicates, delays and reorders segments, every control block of the client and every control block
of the server start at each other's numbers, and each has the MSS and the window scale the other end
advertised. -/
theorem handshake_agreement (crc : List UInt8 → UInt32) (fallbackMss : Nat) (clientIsn : SeqNumber)
    (clientAddr serverAddr : SocketAddrV4) (clientRt serverRt : Runtime) (maxBacklog : Nat)
    (nonce : UInt32) (events : List HandshakeEvent) (h : Handshake)
    (ran : (Handshake.start clientIsn clientAddr serverAddr clientRt serverRt maxBacklog nonce).run crc
      fallbackMss events = .ok h)
    (client server : ControlBlock CongestionControl.None) (clientProduced : client ∈ h.clientBlocks)
    (serverProduced : server ∈ h.serverBlocks) :
    client.sender.sendNext = clientIsn + 1 ∧
      server.receiver.receiveNext = client.sender.sendNext ∧
      server.sender.sendNext =
        ((IsnGenerator.new nonce).generate crc serverAddr clientAddr).1 + 1 ∧
      client.receiver.receiveNext = server.sender.sendNext ∧
      client.sender.mss = (UInt16.ofNat serverRt.tcpOptions.advertisedMss).toNat ∧
      client.sender.windowScale = serverRt.tcpOptions.windowScale ∧
      server.sender.mss = (UInt16.ofNat clientRt.tcpOptions.advertisedMss).toNat ∧
      server.sender.windowScale = clientRt.tcpOptions.windowScale := by
  have agreed := run_agreed ran
  have c := agreed.clientBlocks client clientProduced
  have s := agreed.serverBlocks server serverProduced
  exact ⟨c.sendNext, s.receiveNext.trans c.sendNext.symm, s.sendNext,
    c.receiveNext.trans s.sendNext.symm, c.mss, c.windowScale, s.mss, s.windowScale⟩

/-- A handshake with a lost SYN+ACK: the server's task sends it again, the first one arrives late, and
the client answers both. -/
def retriedHandshake : List HandshakeEvent :=
  [.clientRetry .first, .clientRetry (.arpReply (.ok 9)), .deliverToServer 0 sampleEnv,
    .serverRetry .first, .serverRetry (.arpReply (.ok 7)), .serverRetry .timeout,
    .serverRetry (.arpReply (.ok 7)), .deliverToClient 1 sampleEnv, .deliverToClient 0 sampleEnv,
    .deliverToServer 2 sampleEnv]

/-- A handshake in which the SYN+ACK is sent twice, and both arrive. -/
theorem handshake_agreement_retried :
    ∃ h client server,
      (Handshake.start ⟨100⟩ ⟨1, 10⟩ ⟨2, 20⟩ ⟨7, sampleConfig, []⟩ ⟨9, sampleConfig, []⟩ 4 0).run
        (fun _ => 500) 536 retriedHandshake = .ok h ∧
      client ∈ h.clientBlocks ∧ server ∈ h.serverBlocks ∧
      server.receiver.receiveNext = client.sender.sendNext ∧
      client.receiver.receiveNext = server.sender.sendNext := by
  obtain ⟨h, ran, view⟩ := Machine.map_eq_ok
    (x := (Handshake.start ⟨100⟩ ⟨1, 10⟩ ⟨2, 20⟩ ⟨7, sampleConfig, []⟩ ⟨9, sampleConfig, []⟩ 4 0).run
      (fun _ => 500) 536 retriedHandshake)
    (fun h => (h.clientBlocks.length, h.serverBlocks.length)) (t := (2, 1))
    (by decide +kernel)
  obtain ⟨clients, servers⟩ := Prod.mk.inj view
  obtain ⟨client, clientProduced⟩ := List.exists_mem_of_length_pos (l := h.clientBlocks) (by omega)
  obtain ⟨server, serverProduced⟩ := List.exists_mem_of_length_pos (l := h.serverBlocks) (by omega)
  have agreement := handshake_agreement (fun _ => 500) 536 ⟨100⟩ ⟨1, 10⟩ ⟨2, 20⟩
    ⟨7, sampleConfig, []⟩ ⟨9, sampleConfig, []⟩ 4 0 retriedHandshake h ran client server
    clientProduced serverProduced
  exact ⟨h, client, server, ran, clientProduced, serverProduced, agreement.2.1, agreement.2.2.2.1⟩

end Handshake

/-! ## Windows -/

/-- The window a configuration stands for. -/
def TcpConfig.windowBytes (config : TcpConfig) : Nat :=
  config.receiveWindowSize.toNat * 2 ^ config.windowScale.toNat

/-- A shift within 16 bits drops what does not fit. -/
theorem toNat_checkedShl16 {window : UInt16} {scale : Nat} {size : UInt32}
    (shifted : checkedShl16 window scale = .ok size) :
    size.toNat = window.toNat * 2 ^ scale % 65536 := by
  unfold checkedShl16 at shifted
  split at shifted
  next small =>
    cases shifted
    rw [UInt16.toNat_toUInt32, UInt16.toNat_shiftLeft, UInt16.toNat_ofNat',
      Nat.mod_eq_of_lt (show scale < 2 ^ 16 by omega), Nat.mod_eq_of_lt small, Nat.shiftLeft_eq]
  · cases shifted

/-- A shift within 32 bits drops nothing, as long as the scale is one a peer may announce. -/
theorem toNat_checkedShl32 {window : UInt16} {scale : Nat} {size : UInt32} (le : scale ≤ 14)
    (shifted : checkedShl32 window scale = .ok size) : size.toNat = window.toNat * 2 ^ scale := by
  unfold checkedShl32 at shifted
  rw [if_pos (by omega)] at shifted
  cases shifted
  have fits : window.toNat * 2 ^ scale < 2 ^ 32 := calc
    window.toNat * 2 ^ scale < 2 ^ 16 * 2 ^ 14 :=
      Nat.mul_lt_mul_of_lt_of_le window.toNat_lt (Nat.pow_le_pow_right (by decide) le) (by decide)
    _ < 2 ^ 32 := by decide
  rw [UInt32.toNat_shiftLeft, UInt16.toNat_toUInt32, UInt32.toNat_ofNat',
    Nat.mod_eq_of_lt (show scale < 2 ^ 32 by omega), Nat.mod_eq_of_lt (show scale < 32 by omega),
    Nat.shiftLeft_eq, Nat.mod_eq_of_lt fits]

namespace Handshake

/-- The two ends take each other for what they are, and each is what its configuration says. -/
structure SameWindows (clientConfig serverConfig : TcpConfig)
    (client server : ControlBlock CongestionControl.None) : Prop where
  toServer : client.sender.sendWindow = server.receiveBufferSize
  toClient : server.sender.sendWindow = client.receiveBufferSize
  client : client.receiveBufferSize.toNat = clientConfig.windowBytes
  server : server.receiveBufferSize.toNat = serverConfig.windowBytes

/-- **Window agreement.** In any run of a connect attempt and a listener, the control blocks of the two
ends have the same windows exactly when both configured windows fit into 16 bits after scaling. -/
theorem same_windows_iff (crc : List UInt8 → UInt32) (fallbackMss : Nat) (clientIsn : SeqNumber)
    (clientAddr serverAddr : SocketAddrV4) (clientRt serverRt : Runtime) (maxBacklog : Nat)
    (nonce : UInt32) (events : List HandshakeEvent) (h : Handshake)
    (ran : (Handshake.start clientIsn clientAddr serverAddr clientRt serverRt maxBacklog nonce).run crc
      fallbackMss events = .ok h)
    (serverScale : serverRt.tcpOptions.windowScale ≤ 14)
    (client server : ControlBlock CongestionControl.None) (clientProduced : client ∈ h.clientBlocks)
    (serverProduced : server ∈ h.serverBlocks) :
    SameWindows clientRt.tcpOptions serverRt.tcpOptions client server ↔
      clientRt.tcpOptions.windowBytes < 65536 ∧ serverRt.tcpOptions.windowBytes < 65536 := by
  have agreed := run_agreed ran
  have c := agreed.clientBlocks client clientProduced
  have s := agreed.serverBlocks server serverProduced
  have clientReceives : client.receiveBufferSize.toNat = clientRt.tcpOptions.windowBytes % 65536 := by
    have shifted := toNat_checkedShl16 c.receiveBufferSize
    rwa [UInt8.toNat_toUInt32] at shifted
  have clientSends : client.sender.sendWindow.toNat = serverRt.tcpOptions.windowBytes % 65536 :=
    toNat_checkedShl16 c.sendWindow
  have serverReceives : server.receiveBufferSize.toNat = serverRt.tcpOptions.windowBytes := by
    have shifted := toNat_checkedShl32
      (by rw [UInt8.toNat_toUInt32]; exact UInt8.le_iff_toNat_le.mp serverScale) s.receiveBufferSize
    rwa [UInt8.toNat_toUInt32] at shifted
  have serverSends : server.sender.sendWindow.toNat = clientRt.tcpOptions.windowBytes % 65536 :=
    toNat_checkedShl16 s.sendWindow
  constructor
  · rintro ⟨toServer, toClient, own, -⟩
    have toServer := congrArg UInt32.toNat toServer
    rw [clientSends, serverReceives] at toServer
    rw [clientReceives] at own
    exact ⟨by omega, by omega⟩
  · rintro ⟨clientFits, serverFits⟩
    refine ⟨?_, ?_, ?_, serverReceives⟩
    · apply UInt32.toNat_inj.mp
      rw [clientSends, serverReceives, Nat.mod_eq_of_lt serverFits]
    · apply UInt32.toNat_inj.mp
      rw [serverSends, clientReceives]
    · rw [clientReceives, Nat.mod_eq_of_lt clientFits]

/-- The same handshake, with the windows of both sides. -/
theorem same_windows_iff_retried :
    ∃ h client server,
      (Handshake.start ⟨100⟩ ⟨1, 10⟩ ⟨2, 20⟩ ⟨7, sampleConfig, []⟩ ⟨9, sampleConfig, []⟩ 4 0).run
        (fun _ => 500) 536 retriedHandshake = .ok h ∧
      client ∈ h.clientBlocks ∧ server ∈ h.serverBlocks ∧
      SameWindows sampleConfig sampleConfig client server := by
  obtain ⟨h, ran, view⟩ := Machine.map_eq_ok
    (x := (Handshake.start ⟨100⟩ ⟨1, 10⟩ ⟨2, 20⟩ ⟨7, sampleConfig, []⟩ ⟨9, sampleConfig, []⟩ 4 0).run
      (fun _ => 500) 536 retriedHandshake)
    (fun h => (h.clientBlocks.length, h.serverBlocks.length)) (t := (2, 1))
    (by decide +kernel)
  obtain ⟨clients, servers⟩ := Prod.mk.inj view
  obtain ⟨client, clientProduced⟩ := List.exists_mem_of_length_pos (l := h.clientBlocks) (by omega)
  obtain ⟨server, serverProduced⟩ := List.exists_mem_of_length_pos (l := h.serverBlocks) (by omega)
  have fits : sampleConfig.windowBytes < 65536 := by decide
  exact ⟨h, client, server, ran, clientProduced, serverProduced,
    (same_windows_iff (fun _ => 500) 536 ⟨100⟩ ⟨1, 10⟩ ⟨2, 20⟩ ⟨7, sampleConfig, []⟩
      ⟨9, sampleConfig, []⟩ 4 0 retriedHandshake h ran (by decide) client server clientProduced
      serverProduced).mpr ⟨fits, fits⟩⟩

/-- A window of 80000 bytes, as 40000 with a scale of one. -/
def scaledConfig : TcpConfig :=
  { sampleConfig with receiveWindowSize := 40000, windowScale := 1 }

/-- The server receives into 80000 bytes, and the client takes its window to be 14464. -/
theorem windows_differ :
    ∃ h client server,
      (Handshake.start ⟨100⟩ ⟨1, 10⟩ ⟨2, 20⟩ ⟨7, sampleConfig, []⟩ ⟨9, scaledConfig, []⟩ 4 0).run
        (fun _ => 500) 536 retriedHandshake = .ok h ∧
      client ∈ h.clientBlocks ∧ server ∈ h.serverBlocks ∧
      client.sender.sendWindow = 14464 ∧ server.receiveBufferSize = 80000 ∧
      ¬SameWindows sampleConfig scaledConfig client server := by
  obtain ⟨h, ran, view⟩ := Machine.map_eq_ok
    (x := (Handshake.start ⟨100⟩ ⟨1, 10⟩ ⟨2, 20⟩ ⟨7, sampleConfig, []⟩ ⟨9, scaledConfig, []⟩ 4 0).run
      (fun _ => 500) 536 retriedHandshake)
    (fun h => (h.clientBlocks.map (·.sender.sendWindow), h.serverBlocks.map (·.receiveBufferSize)))
    (t := ([14464, 14464], [80000])) (by decide +kernel)
  obtain ⟨clients, servers⟩ := Prod.mk.inj view
  obtain ⟨client, clientProduced, sends⟩ := List.mem_map.mp (clients ▸ List.mem_cons_self)
  obtain ⟨server, serverProduced, receives⟩ := List.mem_map.mp (servers ▸ List.mem_cons_self)
  refine ⟨h, client, server, ran, clientProduced, serverProduced, sends, receives, ?_⟩
  intro same
  have toServer := same.toServer
  rw [sends, receives] at toServer
  exact absurd toServer (by decide)

end Handshake

end Inetstack.Tcp
