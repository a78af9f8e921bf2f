import Vnts.Relay
import Vnts.Server

/-
This file says what `handle` answers. Every reply it returns is the one paired with the
request it answers: a handshake response to a handshake, a registration response to a
registration, a device list to a poll, a pong to a ping, an address response to an address
request, and an IPv4 packet to an IPv4 packet; a status report, a broadcast and every other
pair get no reply.

The last section says what an error reply can hide. Most failed calls change nothing. Three
do: a registration the allocator refuses has still created its token's group, a registration
whose response fails to encode has still written the device's entry and both sessions of its
address, and a broadcast has sent its copies, since its reply is always the `Unknown` error.
-/

namespace Vnts

/-! ### Each reply answers its request -/

/-- The protocol pair of the reply to a request, by the request's pair; `none` for the pairs
that get no reply. -/
def Protocol.answer : Protocol → Option Protocol
  | .service .handshakeRequest => some (.service .handshakeResponse)
  | .service .secretHandshakeRequest => some (.service .secretHandshakeResponse)
  | .service .registrationRequest => some (.service .registrationResponse)
  | .service .pollDeviceList => some (.service .pushDeviceList)
  | .control .ping => some (.control .pong)
  | .control .addrRequest => some (.control .addrResponse)
  | .ipTurn .ipv4 => some (.ipTurn .ipv4)
  | _ => none

/-- A reply built around an encoded payload has the protocol pair it was built with. -/
theorem reply_protocol_of_map {protocol : Protocol} {encoded : Except Error (List UInt8)}
    {reply : NetPacket}
    (answered : encoded.map (fun bytes => some (NetPacket.reply protocol bytes)) = .ok (some reply)) :
    reply.protocol = protocol := by
  cases encoded with
  | error e => cases answered
  | ok bytes =>
    cases answered
    rfl

section Answer

variable (handler : ServerPacketHandler) (codec : Codec) (cache : AppCache) (packet : NetPacket)
  (addr : SocketAddr) (tcpSender : Option TcpSender) (now : Nat) {reply : NetPacket}

theorem handleContext_answer (context : Context)
    (answered : (handleContext codec cache packet context now).result = .ok (some reply)) :
    packet.protocol.answer = some reply.protocol := by
  unfold handleContext at answered
  split at answered
  · rename_i polled
    rw [polled, reply_protocol_of_map answered]; rfl
  · split at answered <;> cases answered
  · rename_i pinged
    rw [pinged, reply_protocol_of_map answered]; rfl
  · split at answered
    · cases answered
    · split at answered <;> cases answered
  · rename_i relayed
    split at answered
    · cases answered
    · split at answered
      · split at answered
        · cases answered
        · cases answered
          rw [relayed]; rfl
        · cases answered
      · cases answered
  · cases answered

theorem ServerPacketHandler.register_answer
    (answered : (handler.register codec cache packet addr tcpSender).1 = .ok (some reply)) :
    reply.protocol = .service .registrationResponse := by
  unfold ServerPacketHandler.register at answered
  split at answered
  · cases answered
  split at answered
  · cases answered
  split at answered
  · cases answered
  · cases answered; rfl

theorem ServerPacketHandler.dispatch_answer
    (answered : (handler.dispatch codec cache packet addr tcpSender now).result = .ok (some reply)) :
    packet.protocol.answer = some reply.protocol := by
  by_cases registration : packet.protocol = .service .registrationRequest
  · simp only [ServerPacketHandler.dispatch,
      handler.notContext_of_registration codec cache packet addr tcpSender registration] at answered
    rw [registration, handler.register_answer codec cache packet addr tcpSender answered]; rfl
  by_cases addrRequest : packet.protocol = .control .addrRequest
  · simp only [ServerPacketHandler.dispatch,
      handler.notContext_of_addrRequest codec cache packet addr tcpSender addrRequest,
      controlAddrRequest] at answered
    obtain ⟨_, -, rfl⟩ := Option.map_eq_some'.1 (Except.ok.inj answered)
    rw [addrRequest]; rfl
  simp only [ServerPacketHandler.dispatch,
    handler.notContext_eq_none codec cache packet addr tcpSender registration addrRequest]
    at answered
  split at answered
  · exact handleContext_answer codec cache packet now _ answered
  · cases answered

end Answer

/-- Every reply `handle` returns is the one paired with the request it answers: the packet
itself for the two handshakes, and otherwise the packet as the decryption gate let it through.
A request whose pair has no answer, a status report or a broadcast among them, gets none. -/
theorem handle_answers_request (handler : ServerPacketHandler) (codec : Codec) (cache : AppCache)
    (packet : NetPacket) (addr : SocketAddr) (tcpSender : Option TcpSender) (now : Nat)
    {reply : NetPacket}
    (answered : (handler.handle codec cache packet addr tcpSender now).result = .ok (some reply)) :
    ∃ request : NetPacket, request.protocol.answer = some reply.protocol ∧
      ((request = packet ∧ (packet.protocol = .service .handshakeRequest ∨
          packet.protocol = .service .secretHandshakeRequest)) ∨
        decryptGate codec cache packet addr = .ok request) := by
  by_cases handshake : packet.protocol = .service .handshakeRequest
  · simp only [ServerPacketHandler.handle, handshake, ServerPacketHandler.handshake] at answered
    refine ⟨packet, ?_, .inl ⟨rfl, .inl handshake⟩⟩
    rw [handshake, reply_protocol_of_map answered]; rfl
  by_cases secretHandshake : packet.protocol = .service .secretHandshakeRequest
  · simp only [ServerPacketHandler.handle, secretHandshake] at answered
    refine ⟨packet, ?_, .inl ⟨rfl, .inr secretHandshake⟩⟩
    unfold ServerPacketHandler.secretHandshake at answered
    split at answered
    · cases answered
    split at answered
    · cases answered
    split at answered
    · cases answered
      rw [secretHandshake]; rfl
    · cases answered
  rw [handler.handle_of_gate codec cache packet addr tcpSender now handshake secretHandshake]
    at answered
  split at answered
  · cases answered
  · rename_i decrypted gate
    exact ⟨decrypted, handler.dispatch_answer codec cache decrypted addr tcpSender now answered,
      .inr gate⟩

theorem handle_answers_request_ping :
    let handler : ServerPacketHandler :=
      ⟨⟨0x0A000001, 0xFFFFFF00, 0x0A0000FF, none⟩, none, "1.2.16"⟩
    let codec : Codec := { (default : Codec) with pongPayload := fun payload _ => .ok payload }
    let info := (NetworkInfo.new 0x0A000000 0xFFFFFF00 0x0A000001)
    let cache := (AppCache.empty.setNetwork "T" info).insertAddrSession ⟨.v4 0xCB007105, 4000⟩
      ("T", 0x0A000002)
    let packet := NetPacket.reply (.control .ping) [1, 2]
    (handler.handle codec cache packet ⟨.v4 0xCB007105, 4000⟩ none 0).result =
      .ok (some (.reply (.control .pong) [1, 2])) ∧
    ∃ request : NetPacket, request.protocol.answer = some (Protocol.control .pong) ∧
      ((request = packet ∧ (packet.protocol = .service .handshakeRequest ∨
          packet.protocol = .service .secretHandshakeRequest)) ∨
        decryptGate codec cache packet ⟨.v4 0xCB007105, 4000⟩ = .ok request) :=
  by
  intro handler codec info cache packet
  have answered : (handler.handle codec cache packet ⟨.v4 0xCB007105, 4000⟩ none 0).result =
      .ok (some (.reply (.control .pong) [1, 2])) := rfl
  exact ⟨answered, handle_answers_request handler codec cache packet _ none 0 answered⟩

/-! ### What an error reply hides -/

/-- Of the requests that need a context, only a broadcast sends copies, and it answers
`Unknown` with the state as it was. -/
theorem handleContext_sends_or_unknown (codec : Codec) (cache : AppCache) (packet : NetPacket)
    (context : Context) (now : Nat) :
    let handled := handleContext codec cache packet context now
    handled.sends = [] ∨
      packet.protocol = .ipTurn .ipv4Broadcast ∧ handled.result = unknown ∧ handled.cache = cache := by
  unfold handleContext
  split <;> (repeat' split) <;> first | exact .inl rfl | exact .inr ⟨‹_›, rfl, rfl⟩

/-- Of all the packets `handle` takes, only a broadcast past the decryption gate sends
copies, and it answers `Unknown` with the state as it was. -/
theorem ServerPacketHandler.handle_sends_or_unknown (handler : ServerPacketHandler)
    (codec : Codec) (cache : AppCache) (packet : NetPacket) (addr : SocketAddr)
    (tcpSender : Option TcpSender) (now : Nat) :
    let handled := handler.handle codec cache packet addr tcpSender now
    handled.sends = [] ∨
      (∃ decrypted, decryptGate codec cache packet addr = .ok decrypted ∧
        decrypted.protocol = .ipTurn .ipv4Broadcast) ∧
      handled.result = unknown ∧ handled.cache = cache := by
  by_cases handshake : packet.protocol = .service .handshakeRequest
  · exact .inl (by simp [ServerPacketHandler.handle, handshake])
  by_cases secretHandshake : packet.protocol = .service .secretHandshakeRequest
  · exact .inl (by simp [ServerPacketHandler.handle, secretHandshake])
  rw [handler.handle_of_gate codec cache packet addr tcpSender now handshake secretHandshake]
  rcases decryptGate codec cache packet addr with _ | decrypted
  · exact .inl rfl
  dsimp only
  unfold ServerPacketHandler.dispatch
  split
  · exact .inl rfl
  · split
    · exact (handleContext_sends_or_unknown codec cache decrypted _ now).imp_right
        fun ⟨relayed, answered⟩ => ⟨⟨decrypted, rfl, relayed⟩, answered⟩
    · exact .inl rfl

/-- An error reply does not mean that nothing happened. A call that returns an error has sent
copies only if it is a broadcast past the decryption gate, whose reply is always `Unknown`,
with the state as it was. And it has left the state as it was, except for a registration
that got past `check_reg` and the allowlist: refused by the allocator, it has still written its
token's group, created as `NetworkInfo::new` if it had none; committed with a response that
failed to encode, it has still written the device's entry and inserted both sessions of its
address, though the client is told it failed. -/
theorem error_reply_effects (handler : ServerPacketHandler) (codec : Codec) (cache : AppCache)
    (packet : NetPacket) (addr : SocketAddr) (tcpSender : Option TcpSender) (now : Nat)
    {e : Error} (failed : (handler.handle codec cache packet addr tcpSender now).result = .error e) :
    let handled := handler.handle codec cache packet addr tcpSender now
    (handled.sends = [] ∨
      (∃ decrypted, decryptGate codec cache packet addr = .ok decrypted ∧
        decrypted.protocol = .ipTurn .ipv4Broadcast) ∧
      e = .other "Unknown" ∧ handled.cache = cache) ∧
    (handled.cache = cache ∨
      ∃ decrypted request, decryptGate codec cache packet addr = .ok decrypted ∧
        decrypted.protocol = .service .registrationRequest ∧
        codec.parseRegistrationRequest decrypted.payload = .ok request ∧
        checkReg request = .ok () ∧ handler.config.allowsToken request.token = true ∧
        let info := (cache.virtualNetwork request.token).getD handler.config.newNetwork
        ((info.register handler.config request addr tcpSender = .error e ∧
            handled.cache = cache.setNetwork request.token info) ∨
          ∃ virtualIp info', info.register handler.config request addr tcpSender =
              .ok (virtualIp, info') ∧
            codec.writeRegistrationResponse (registrationResponse handler.config addr virtualIp info') =
              .error e ∧
            handled.cache = ((cache.setNetwork request.token info').insertIpSession
              (request.token, virtualIp) addr).insertAddrSession addr (request.token, virtualIp))) := by
  intro handled
  refine ⟨?_, ?_⟩
  · rcases handler.handle_sends_or_unknown codec cache packet addr tcpSender now with
      none | ⟨relayed, unknown', untouched⟩
    · exact .inl none
    · rw [unknown', unknown, Except.error.injEq] at failed
      exact .inr ⟨relayed, failed.symm, untouched⟩
  rcases handler.handle_cases codec cache packet addr tcpSender now with
    untouched | ⟨-, _, written⟩ | ⟨decrypted, -, -, gate, registration, written⟩ |
      ⟨_, _, _, -, -, -, -, written⟩
  · exact .inl untouched
  · rw [written] at failed; cases failed
  · simp only [handled, written] at failed ⊢
    rcases handler.register_cases codec cache decrypted addr tcpSender with
      untouched | ⟨request, parsed, checked, allowed, ⟨_, refused, -, registered⟩ |
        ⟨virtualIp, info', enrolled, committed, registered⟩⟩
    · exact .inl untouched
    · rw [registered] at failed ⊢
      cases failed
      exact .inr ⟨decrypted, request, gate, registration, parsed, checked, allowed, .inl ⟨refused, rfl⟩⟩
    · have locked : handler.registerLocked cache request addr tcpSender =
          (.ok (virtualIp, info'), (handler.registerLocked cache request addr tcpSender).2) :=
        Prod.ext committed rfl
      rw [handler.register_of_commit codec cache decrypted addr tcpSender parsed locked] at failed
      exact .inr ⟨decrypted, request, gate, registration, parsed, checked, allowed,
        .inr ⟨virtualIp, info', enrolled, error_of_map_eq_error failed, registered⟩⟩
  · rw [written] at failed; cases failed

/-- A first registration whose response fails to encode: the client is told it failed, yet
the device holds `10.0.0.2` and its address has its context. -/
theorem error_reply_effects_unencoded :
    let handler : ServerPacketHandler :=
      ⟨⟨0x0A000001, 0xFFFFFF00, 0x0A0000FF, none⟩, none, "1.2.16"⟩
    let codec : Codec := { (default : Codec) with
      parseRegistrationRequest := fun _ => .ok ⟨"T", "A", "A", 0, false, false⟩
      writeRegistrationResponse := fun _ => .error (.other "encode") }
    let packet := NetPacket.reply (.service .registrationRequest) []
    let addr : SocketAddr := ⟨.v4 0xCB007105, 4000⟩
    let handled := handler.handle codec AppCache.empty packet addr none 0
    handled.result = .error (.other "encode") ∧
    handled.cache.addrSession addr = some ("T", 0x0A000002) ∧
    (handled.sends = [] ∨
      (∃ decrypted, decryptGate codec AppCache.empty packet addr = .ok decrypted ∧
        decrypted.protocol = .ipTurn .ipv4Broadcast) ∧
      Error.other "encode" = .other "Unknown" ∧ handled.cache = AppCache.empty) ∧
    (handled.cache = AppCache.empty ∨
      ∃ decrypted request, decryptGate codec AppCache.empty packet addr = .ok decrypted ∧
        decrypted.protocol = .service .registrationRequest ∧
        codec.parseRegistrationRequest decrypted.payload = .ok request ∧
        checkReg request = .ok () ∧ handler.config.allowsToken request.token = true ∧
        let info := (AppCache.empty.virtualNetwork request.token).getD handler.config.newNetwork
        ((info.register handler.config request addr none = .error (.other "encode") ∧
            handled.cache = AppCache.empty.setNetwork request.token info) ∨
          ∃ virtualIp info', info.register handler.config request addr none =
              .ok (virtualIp, info') ∧
            codec.writeRegistrationResponse (registrationResponse handler.config addr virtualIp info') =
              .error (.other "encode") ∧
            handled.cache = ((AppCache.empty.setNetwork request.token info').insertIpSession
              (request.token, virtualIp) addr).insertAddrSession addr (request.token, virtualIp))) :=
  ⟨rfl, rfl, error_reply_effects _ _ _ _ _ _ _ rfl⟩

end Vnts
