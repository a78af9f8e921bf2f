import Vnts.Frame

/-
This file settles what the relay paths of `handle` do for a client that has a context. A
selective broadcast sends the inner packet once to each online client of the group whose
address is not excluded and whose `client_secret` is the inner packet's encryption flag,
over its TCP connection if it has one and over UDP otherwise, and to no other client: the
encrypted and the cleartext clients of a group are two broadcast domains.

The dispatch of the requests that need a context ends in its `Unknown` error whenever no
branch returns. That is the case for a pair it does not handle, and also for an IPv4 packet
that is not an ICMP echo request, and for a broadcast, after its copies are sent (lines
119-125 have no `return`).
-/

namespace Vnts

/-! ### Who a broadcast reaches -/

/-- A broadcast sends exactly one copy for each entry of the context's group that is online,
is not excluded and is in the inner packet's cohort, in the order of the entries: over the
entry's TCP connection when it has one, and otherwise over UDP to its address. No other
entry gets a copy. -/
theorem broadcast_sends_eligible (context : Context) (inner : NetPacket)
    (exclude : List (BitVec 32)) :
    List.Forall₂
      (fun (entry : Sigma fun _ : BitVec 32 => ClientInfo) send =>
        (∀ sender, entry.2.tcpSender = some sender → send = .tcp sender inner) ∧
        (entry.2.tcpSender = none → send = .udp entry.2.address inner))
      (context.networkInfo.clients.entries.filter fun entry =>
        entry.2.online ∧ entry.1 ∉ exclude ∧ entry.2.clientSecret = inner.encrypted)
      (broadcast context inner exclude) := by
  unfold broadcast
  induction context.networkInfo.clients.entries with
  | nil => exact .nil
  | cons entry rest inductionHypothesis =>
    simp only [List.filter_cons, List.filterMap_cons]
    by_cases chosen : entry.2.online = true ∧ entry.1 ∉ exclude
    · by_cases cohort : entry.2.clientSecret = inner.encrypted
      · simp only [chosen, cohort, if_true, and_self, decide_True]
        exact .cons ⟨fun sender held => by rw [held], fun absent => by rw [absent]⟩
          inductionHypothesis
      · simpa [chosen, cohort] using inductionHypothesis
    · have ineligible : ¬ (entry.2.online = true ∧ entry.1 ∉ exclude ∧
          entry.2.clientSecret = inner.encrypted) := fun eligible => chosen ⟨eligible.1, eligible.2.1⟩
      simpa [chosen, ineligible] using inductionHypothesis

/-! ### Where the dispatch of a packet that needs a context ends -/

/-- The pairs a branch of `handle` is written for: the two handshakes (lines 58-70), the
requests that need no context (`not_context`), and those that need one (lines 93-155). -/
def Protocol.dispatched : Protocol → Bool
  | .service .handshakeRequest | .service .secretHandshakeRequest
  | .service .registrationRequest | .service .pollDeviceList | .service .clientStatusInfo
  | .control .ping | .control .addrRequest | .ipTurn .ipv4 | .ipTurn .ipv4Broadcast => true
  | _ => false

/-- A mapped result is an error only when the result was: an encoder's failure is what a
sub-handler that maps over it returns. -/
theorem error_of_map_eq_error {α β : Type} {x : Except Error α} {f : α → β} {e : Error}
    (mapped : x.map f = .error e) : x = .error e := by
  cases x <;> simp_all [Except.map]

section Context

variable (codec : Codec) (cache : AppCache) (packet : NetPacket) (context : Context) (now : Nat)

/-- A pair that no branch of the dispatch is written for falls through to `Unknown`. -/
theorem handleContext_of_not_dispatched (unhandled : packet.protocol.dispatched = false) :
    handleContext codec cache packet context now = ⟨unknown, cache, []⟩ := by
  unfold handleContext
  split
  all_goals first
    | rfl
    | rename_i matched; rw [matched] at unhandled; cases unhandled

/-- An IPv4 packet whose datagram parses and is not an ICMP echo request falls through. -/
theorem handleContext_ipv4_unknown (ipv4 : IpV4Packet) (relayed : packet.protocol = .ipTurn .ipv4)
    (parsed : codec.ipv4Packet packet.payload = .ok ipv4)
    (notEcho : ipv4.protocol = .icmp → ∃ kind, codec.icmpKind ipv4.payload = .ok kind ∧
      kind ≠ .echoRequest) :
    handleContext codec cache packet context now = ⟨unknown, cache, []⟩ := by
  simp only [handleContext, relayed, parsed]
  split
  · obtain ⟨kind, parsedKind, other⟩ := notEcho ‹_›
    cases kind with
    | echoRequest => exact absurd rfl other
    | echoReply => simp only [parsedKind]
    | other value => simp only [parsedKind]
  · rfl

/-- An ICMP echo request is answered with the echo reply, the envelope's addresses swapped
and its gateway flag set. -/
theorem handleContext_echoRequest (ipv4 : IpV4Packet) (relayed : packet.protocol = .ipTurn .ipv4)
    (parsed : codec.ipv4Packet packet.payload = .ok ipv4) (icmp : ipv4.protocol = .icmp)
    (echo : codec.icmpKind ipv4.payload = .ok .echoRequest) :
    handleContext codec cache packet context now =
      ⟨.ok (some { packet with
          source := packet.destination
          destination := packet.source
          gateway := true
          payload := codec.echoReply packet.payload packet.destination packet.source }),
        cache, []⟩ := by
  simp only [handleContext, relayed, parsed, icmp, echo]

/-- A broadcast whose views parse sends its copies and leaves the state as it was. -/
theorem handleContext_broadcast (broadcastPacket : BroadcastPacket) (inner : NetPacket)
    (relayed : packet.protocol = .ipTurn .ipv4Broadcast)
    (parsed : codec.broadcastPacket packet.payload = .ok broadcastPacket)
    (parsedInner : (broadcastPacket.data >>= codec.netPacket) = .ok inner) :
    handleContext codec cache packet context now =
      ⟨unknown, cache, broadcast context inner broadcastPacket.addresses⟩ := by
  simp only [handleContext, relayed, parsed, parsedInner]

end Context

/-- Past the gate, a packet that needs a context from an address that has one goes to the
requests that need it. -/
theorem ServerPacketHandler.handle_of_context (handler : ServerPacketHandler) (codec : Codec)
    (cache : AppCache) (packet : NetPacket) (addr : SocketAddr) (tcpSender : Option TcpSender)
    (now : Nat) {decrypted : NetPacket} {context : Context}
    (handshake : packet.protocol ≠ .service .handshakeRequest)
    (secretHandshake : packet.protocol ≠ .service .secretHandshakeRequest)
    (gate : decryptGate codec cache packet addr = .ok decrypted)
    (registration : decrypted.protocol ≠ .service .registrationRequest)
    (addrRequest : decrypted.protocol ≠ .control .addrRequest)
    (found : cache.getContext addr = some context) :
    handler.handle codec cache packet addr tcpSender now =
      handleContext codec cache decrypted context now := by
  rw [handler.handle_of_gate codec cache packet addr tcpSender now handshake secretHandshake, gate]
  simp only [ServerPacketHandler.dispatch,
    handler.notContext_eq_none codec cache decrypted addr tcpSender registration addrRequest, found]

/-- How `handle` ends for a packet that passes the gate from an address that has a context,
the two handshakes apart. A pair that no branch is written for ends in the `Unknown` error,
and so does an IPv4 packet whose datagram parses and is not an ICMP echo request, with no
reply, no copy sent and the state as it was; an echo request is answered. A device list poll,
a status report and a ping end in their own result: an error they return is the one their
codec returned. A registration and an address request are answered before the context is
read. A broadcast whose views parse sends exactly its copies and leaves the state as it was;
what it returns is not stated here. -/
theorem handle_context_outcomes (handler : ServerPacketHandler) (codec : Codec)
    (cache : AppCache) (packet : NetPacket) (addr : SocketAddr) (tcpSender : Option TcpSender)
    (now : Nat) {decrypted : NetPacket} {context : Context}
    (handshake : packet.protocol ≠ .service .handshakeRequest)
    (secretHandshake : packet.protocol ≠ .service .secretHandshakeRequest)
    (gate : decryptGate codec cache packet addr = .ok decrypted)
    (found : cache.getContext addr = some context) :
    let handled := handler.handle codec cache packet addr tcpSender now
    (decrypted.protocol.dispatched = false → handled = ⟨unknown, cache, []⟩) ∧
    (∀ ipv4, decrypted.protocol = .ipTurn .ipv4 → codec.ipv4Packet decrypted.payload = .ok ipv4 →
      (ipv4.protocol = .icmp → ∃ kind, codec.icmpKind ipv4.payload = .ok kind ∧
        kind ≠ .echoRequest) →
      handled = ⟨unknown, cache, []⟩) ∧
    (∀ ipv4, decrypted.protocol = .ipTurn .ipv4 → codec.ipv4Packet decrypted.payload = .ok ipv4 →
      ipv4.protocol = .icmp → codec.icmpKind ipv4.payload = .ok .echoRequest →
      ∃ reply, handled = ⟨.ok (some reply), cache, []⟩) ∧
    (decrypted.protocol = .service .pollDeviceList → handled.cache = cache ∧
      ∀ e, handled.result = .error e → ∃ deviceList, codec.writeDeviceList deviceList = .error e) ∧
    (decrypted.protocol = .service .clientStatusInfo →
      ∀ e, handled.result = .error e → codec.parseClientStatusInfo decrypted.payload = .error e) ∧
    (decrypted.protocol = .control .ping → handled.cache = cache ∧
      ∀ e, handled.result = .error e → ∃ epoch, codec.pongPayload decrypted.payload epoch = .error e) ∧
    (decrypted.protocol = .service .registrationRequest →
      handled = ⟨(handler.register codec cache decrypted addr tcpSender).1,
        (handler.register codec cache decrypted addr tcpSender).2, []⟩) ∧
    (decrypted.protocol = .control .addrRequest → ∃ reply, handled = ⟨.ok reply, cache, []⟩) ∧
    (∀ broadcastPacket inner, decrypted.protocol = .ipTurn .ipv4Broadcast →
      codec.broadcastPacket decrypted.payload = .ok broadcastPacket →
      (broadcastPacket.data >>= codec.netPacket) = .ok inner →
      handled.sends = broadcast context inner broadcastPacket.addresses ∧ handled.cache = cache) := by
  have route := fun registration addrRequest =>
    handler.handle_of_context codec cache packet addr tcpSender now handshake secretHandshake gate
      registration addrRequest found
  have gated : handler.handle codec cache packet addr tcpSender now =
      handler.dispatch codec cache decrypted addr tcpSender now := by
    rw [handler.handle_of_gate codec cache packet addr tcpSender now handshake secretHandshake, gate]
  refine ⟨fun unhandled => ?_, fun ipv4 relayed parsed notEcho => ?_,
    fun ipv4 relayed parsed icmp echo => ?_, fun polled => ?_, fun reported => ?_,
    fun pinged => ?_, fun registration => ?_, fun addrRequest => ?_,
    fun broadcastPacket inner relayed parsed parsedInner => ?_⟩
  case refine_1 =>
    rw [route (fun same => by simp [same, Protocol.dispatched] at unhandled)
      (fun same => by simp [same, Protocol.dispatched] at unhandled)]
    exact handleContext_of_not_dispatched codec cache decrypted context now unhandled
  case refine_2 =>
    rw [route (by simp [relayed]) (by simp [relayed])]
    exact handleContext_ipv4_unknown codec cache decrypted context now ipv4 relayed parsed notEcho
  case refine_3 =>
    rw [route (by simp [relayed]) (by simp [relayed]),
      handleContext_echoRequest codec cache decrypted context now ipv4 relayed parsed icmp echo]
    exact ⟨_, rfl⟩
  case refine_4 =>
    have polledResult : handleContext codec cache decrypted context now =
        ⟨pollDeviceList codec context, cache, []⟩ := by
      simp only [handleContext, polled]
    rw [route (by simp [polled]) (by simp [polled]), polledResult]
    exact ⟨rfl, fun e failed => ⟨_, error_of_map_eq_error failed⟩⟩
  case refine_5 =>
    rw [route (by simp [reported]) (by simp [reported])]
    simp only [handleContext, reported]
    intro e failed
    split at failed
    · rename_i parseFailed; cases failed; exact parseFailed
    · cases failed
  case refine_6 =>
    have pingedResult : handleContext codec cache decrypted context now =
        ⟨controlPing codec decrypted context, cache, []⟩ := by
      simp only [handleContext, pinged]
    rw [route (by simp [pinged]) (by simp [pinged]), pingedResult]
    exact ⟨rfl, fun e failed => ⟨_, error_of_map_eq_error failed⟩⟩
  case refine_7 =>
    rw [gated]
    simp only [ServerPacketHandler.dispatch,
      handler.notContext_of_registration codec cache decrypted addr tcpSender registration]
  case refine_8 =>
    rw [gated]
    simp only [ServerPacketHandler.dispatch,
      handler.notContext_of_addrRequest codec cache decrypted addr tcpSender addrRequest]
    exact ⟨_, rfl⟩
  case refine_9 =>
    rw [route (by simp [relayed]) (by simp [relayed]),
      handleContext_broadcast codec cache decrypted context now broadcastPacket inner relayed parsed
        parsedInner]
    exact ⟨rfl, rfl⟩

/-- A codec that parses every view, at an address whose group holds two devices: a UDP
datagram ends in `Unknown`, an ICMP echo request is answered, and a broadcast that excludes
the sender reaches the other device. -/
theorem handle_context_outcomes_parsed :
    let handler : ServerPacketHandler :=
      ⟨⟨0x0A000001, 0xFFFFFF00, 0x0A0000FF, none⟩, none, "1.2.16"⟩
    let addr : SocketAddr := ⟨.v4 0xCB007105, 4000⟩
    let info := (handler.config.newNetwork.enroll 0x0A000002 ⟨"T", "A", "A", 0, false, false⟩ addr
      none).enroll 0x0A000003 ⟨"T", "B", "B", 0, false, false⟩ ⟨.v4 0xC6336407, 5000⟩ none
    let cache := (AppCache.empty.setNetwork "T" info).insertAddrSession addr ("T", 0x0A000002)
    let inner := NetPacket.reply (.other 0 0) []
    let codec : Codec := { (default : Codec) with
      ipv4Packet := fun payload => .ok ⟨if payload = [] then .other 17 else .icmp, payload⟩
      icmpKind := fun _ => .ok .echoRequest
      broadcastPacket := fun _ => .ok ⟨[0x0A000002], .ok []⟩
      netPacket := fun _ => .ok inner }
    handler.handle codec cache (.reply (.ipTurn .ipv4) []) addr none 0 = ⟨unknown, cache, []⟩ ∧
    (∃ reply, handler.handle codec cache (.reply (.ipTurn .ipv4) [8]) addr none 0 =
      ⟨.ok (some reply), cache, []⟩) ∧
    (handler.handle codec cache (.reply (.ipTurn .ipv4Broadcast) []) addr none 0).sends =
      [.udp ⟨.v4 0xC6336407, 5000⟩ inner] ∧
    (handler.handle codec cache (.reply (.ipTurn .ipv4Broadcast) []) addr none 0).cache = cache := by
  intro handler addr info cache inner codec
  have found : cache.getContext addr = some ⟨"T", info, 0x0A000002⟩ := rfl
  exact ⟨(handle_context_outcomes handler codec cache (.reply (.ipTurn .ipv4) []) addr none 0
      (by decide) (by decide) rfl found).2.1 _ rfl rfl fun icmp => absurd icmp (by decide),
    (handle_context_outcomes handler codec cache (.reply (.ipTurn .ipv4) [8]) addr none 0
      (by decide) (by decide) rfl found).2.2.1 _ rfl rfl rfl rfl,
    (handle_context_outcomes handler codec cache (.reply (.ipTurn .ipv4Broadcast) []) addr none 0
      (by decide) (by decide) rfl found).2.2.2.2.2.2.2.2 _ _ rfl rfl rfl⟩

/-- A UDP datagram that a registered client relays to the gateway ends in the `Unknown`
error, although `IpTurn`/`Ipv4` is a pair the dispatch is written for; and a selective
broadcast that excludes the sender ends in it too, after its copy to the group's other
client is sent. -/
theorem handle_relayed_unknown :
    let handler : ServerPacketHandler :=
      ⟨⟨0x0A000001, 0xFFFFFF00, 0x0A0000FF, none⟩, none, "1.2.16"⟩
    let addr : SocketAddr := ⟨.v4 0xCB007105, 4000⟩
    let info := (handler.config.newNetwork.enroll 0x0A000002 ⟨"T", "A", "A", 0, false, false⟩ addr
      none).enroll 0x0A000003 ⟨"T", "B", "B", 0, false, false⟩ ⟨.v4 0xC6336407, 5000⟩ none
    let cache := (AppCache.empty.setNetwork "T" info).insertAddrSession addr ("T", 0x0A000002)
    let inner := NetPacket.reply (.other 0 0) []
    let codec : Codec := { (default : Codec) with
      ipv4Packet := fun _ => .ok ⟨.other 17, []⟩
      broadcastPacket := fun _ => .ok ⟨[0x0A000002], .ok []⟩
      netPacket := fun _ => .ok inner }
    (cache.getContext addr).isSome ∧ (Protocol.ipTurn .ipv4).dispatched ∧
    (handler.handle codec cache (.reply (.ipTurn .ipv4) []) addr none 0).result =
      .error (.other "Unknown") ∧
    (handler.handle codec cache (.reply (.ipTurn .ipv4Broadcast) []) addr none 0).result =
      .error (.other "Unknown") ∧
    (handler.handle codec cache (.reply (.ipTurn .ipv4Broadcast) []) addr none 0).sends =
      [.udp ⟨.v4 0xC6336407, 5000⟩ inner] :=
  ⟨rfl, rfl, rfl, rfl, rfl⟩

end Vnts
