import Vnts.Handler

/-
This file says what one call of `handle` can change. Three requests write the state: a
secret handshake sets the cipher session of its address, a registration writes its token's
group and the two sessions of its address, and a status report rewrites the status of one
entry of the reporter's group. Everything else, and every rejection before the allocator,
leaves the state as it was.

Each sub-handler gets one lemma that says every way it can end; `handle_cases` assembles
them along the path `handle` takes, and the results below are read off it.
-/

namespace Vnts

/-! ### One lemma per sub-handler -/

section Paths

variable (handler : ServerPacketHandler) (codec : Codec) (cache : AppCache) (packet : NetPacket)
  (addr : SocketAddr) (tcpSender : Option TcpSender) (now : Nat)

/-- A secret handshake either fails with the state untouched or sets the session cipher of
its address. -/
theorem ServerPacketHandler.secretHandshake_cases :
    (handler.secretHandshake codec cache packet addr).2 = cache ∨
      ∃ cipher, handler.secretHandshake codec cache packet addr =
        (.ok (some (.reply (.service .secretHandshakeResponse) [])),
          cache.insertCipherSession addr cipher) := by
  unfold ServerPacketHandler.secretHandshake
  split
  · exact .inl rfl
  · split
    · exact .inl rfl
    · split
      · exact .inr ⟨_, rfl⟩
      · exact .inl rfl

/-- Of the requests that need a context, only a status report that parses writes the
state. -/
theorem handleContext_cases (context : Context) :
    (handleContext codec cache packet context now).cache = cache ∨
      ∃ status, packet.protocol = .service .clientStatusInfo ∧
        codec.parseClientStatusInfo packet.payload = .ok status ∧
        handleContext codec cache packet context now =
          ⟨.ok none, cache.upClientStatusInfo context status now, []⟩ := by
  unfold handleContext
  split
  case h_2 statusReport =>
    split
    · exact .inl rfl
    · exact .inr ⟨_, statusReport, ‹_›, rfl⟩
  all_goals (repeat' split) <;> exact .inl rfl

theorem ServerPacketHandler.notContext_of_registration
    (registration : packet.protocol = .service .registrationRequest) :
    handler.notContext codec cache packet addr tcpSender =
      some (handler.register codec cache packet addr tcpSender) := by
  simp only [ServerPacketHandler.notContext, registration]

theorem ServerPacketHandler.notContext_of_addrRequest
    (addrRequest : packet.protocol = .control .addrRequest) :
    handler.notContext codec cache packet addr tcpSender =
      some (controlAddrRequest codec addr, cache) := by
  simp only [ServerPacketHandler.notContext, addrRequest]

theorem ServerPacketHandler.notContext_eq_none
    (registration : packet.protocol ≠ .service .registrationRequest)
    (addrRequest : packet.protocol ≠ .control .addrRequest) :
    handler.notContext codec cache packet addr tcpSender = none := by
  unfold ServerPacketHandler.notContext
  split <;> simp_all

/-- Past the gate, only a registration and a status report write the state. -/
theorem ServerPacketHandler.dispatch_cases :
    let dispatched := handler.dispatch codec cache packet addr tcpSender now
    dispatched.cache = cache ∨
      (packet.protocol = .service .registrationRequest ∧
        dispatched = ⟨(handler.register codec cache packet addr tcpSender).1,
          (handler.register codec cache packet addr tcpSender).2, []⟩) ∨
      ∃ context status, packet.protocol = .service .clientStatusInfo ∧
        cache.getContext addr = some context ∧
        codec.parseClientStatusInfo packet.payload = .ok status ∧
        dispatched = ⟨.ok none, cache.upClientStatusInfo context status now, []⟩ := by
  by_cases registration : packet.protocol = .service .registrationRequest
  · refine .inr (.inl ⟨registration, ?_⟩)
    simp only [ServerPacketHandler.dispatch,
      handler.notContext_of_registration codec cache packet addr tcpSender registration]
  by_cases addrRequest : packet.protocol = .control .addrRequest
  · refine .inl ?_
    simp only [ServerPacketHandler.dispatch,
      handler.notContext_of_addrRequest codec cache packet addr tcpSender addrRequest]
  simp only [ServerPacketHandler.dispatch,
    handler.notContext_eq_none codec cache packet addr tcpSender registration addrRequest]
  split
  · rename_i context found
    rcases handleContext_cases codec cache packet now context with
      untouched | ⟨status, statusReport, parsed, handled⟩
    · exact .inl untouched
    · exact .inr (.inr ⟨context, status, statusReport, found, parsed, handled⟩)
  · exact .inl rfl

/-- Every packet other than the two handshakes goes through the gate to `dispatch`. -/
theorem ServerPacketHandler.handle_of_gate
    (handshake : packet.protocol ≠ .service .handshakeRequest)
    (secretHandshake : packet.protocol ≠ .service .secretHandshakeRequest) :
    handler.handle codec cache packet addr tcpSender now =
      match decryptGate codec cache packet addr with
      | .error e => ⟨.error e, cache, []⟩
      | .ok packet => handler.dispatch codec cache packet addr tcpSender now := by
  unfold ServerPacketHandler.handle
  split
  · contradiction
  · contradiction
  · rfl

/-- Everything one call of `handle` can do to the state, by the path the packet takes. -/
theorem ServerPacketHandler.handle_cases :
    let handled := handler.handle codec cache packet addr tcpSender now
    handled.cache = cache ∨
      (packet.protocol = .service .secretHandshakeRequest ∧
        ∃ cipher, handled = ⟨.ok (some (.reply (.service .secretHandshakeResponse) [])),
          cache.insertCipherSession addr cipher, []⟩) ∨
      (∃ decrypted, packet.protocol ≠ .service .handshakeRequest ∧
        packet.protocol ≠ .service .secretHandshakeRequest ∧
        decryptGate codec cache packet addr = .ok decrypted ∧
        decrypted.protocol = .service .registrationRequest ∧
        handled = ⟨(handler.register codec cache decrypted addr tcpSender).1,
          (handler.register codec cache decrypted addr tcpSender).2, []⟩) ∨
      ∃ decrypted context status, decryptGate codec cache packet addr = .ok decrypted ∧
        decrypted.protocol = .service .clientStatusInfo ∧
        cache.getContext addr = some context ∧
        codec.parseClientStatusInfo decrypted.payload = .ok status ∧
        handled = ⟨.ok none, cache.upClientStatusInfo context status now, []⟩ := by
  by_cases handshake : packet.protocol = .service .handshakeRequest
  · left; simp only [ServerPacketHandler.handle, handshake]
  by_cases secretHandshake : packet.protocol = .service .secretHandshakeRequest
  · have handled : handler.handle codec cache packet addr tcpSender now =
        ⟨(handler.secretHandshake codec cache packet addr).1,
          (handler.secretHandshake codec cache packet addr).2, []⟩ := by
      simp only [ServerPacketHandler.handle, secretHandshake]
    rw [handled]
    rcases handler.secretHandshake_cases codec cache packet addr with untouched | ⟨cipher, written⟩
    · exact .inl untouched
    · exact .inr (.inl ⟨secretHandshake, cipher, by rw [written]⟩)
  rw [handler.handle_of_gate codec cache packet addr tcpSender now handshake secretHandshake]
  rcases gate : decryptGate codec cache packet addr with e | decrypted
  · exact .inl rfl
  rcases handler.dispatch_cases codec cache decrypted addr tcpSender now with
    untouched | ⟨registration, dispatched⟩ | ⟨context, status, statusReport, found, parsed, dispatched⟩
  · exact .inl untouched
  · exact .inr (.inr (.inl ⟨decrypted, handshake, secretHandshake, rfl, registration, dispatched⟩))
  · exact .inr (.inr (.inr ⟨decrypted, context, status, rfl, statusReport, found, parsed, dispatched⟩))

/-- A registration leaves the state as it was, or it passed the allowlist and wrote its
token's group: refused by the allocator after the get-or-create, or committed together
with the two sessions of its address. -/
theorem ServerPacketHandler.register_cases :
    let registered := handler.register codec cache packet addr tcpSender
    registered.2 = cache ∨
      ∃ request, codec.parseRegistrationRequest packet.payload = .ok request ∧
        checkReg request = .ok () ∧ handler.config.allowsToken request.token = true ∧
        let info := (cache.virtualNetwork request.token).getD handler.config.newNetwork
        ((∃ e, info.register handler.config request addr tcpSender = .error e ∧
            (handler.registerLocked cache request addr tcpSender).1 = .error e ∧
            registered = (.error e, cache.setNetwork request.token info)) ∨
          ∃ virtualIp info', info.register handler.config request addr tcpSender =
              .ok (virtualIp, info') ∧
            (handler.registerLocked cache request addr tcpSender).1 = .ok (virtualIp, info') ∧
            registered.2 = ((cache.setNetwork request.token info').insertIpSession
              (request.token, virtualIp) addr).insertAddrSession addr (request.token, virtualIp)) := by
  rcases parsed : codec.parseRegistrationRequest packet.payload with e | request
  · left; simp only [ServerPacketHandler.register, parsed]
  rcases handler.registerLocked_cases cache request addr tcpSender with
    ⟨e, -, locked⟩ | ⟨-, -, locked⟩ | ⟨checked, allowed, e, refused, locked⟩ |
      ⟨checked, allowed, virtualIp, info', committed, locked⟩
  · left; simp only [ServerPacketHandler.register, parsed, locked]
  · left; simp only [ServerPacketHandler.register, parsed, locked]
  · exact .inr ⟨request, rfl, checked, allowed, .inl ⟨e, refused, by rw [locked],
      by simp only [ServerPacketHandler.register, parsed, locked]⟩⟩
  · exact .inr ⟨request, rfl, checked, allowed, .inr ⟨virtualIp, info', committed, by rw [locked],
      by simp only [handler.register_snd, parsed, locked]⟩⟩

/-! ### Past the gate, no cipher session is read or written -/

variable (sessions : SocketAddr → Option Aes256GcmCipher)

theorem ServerPacketHandler.registerLocked_cipherSession (request : RegistrationRequest) :
    handler.registerLocked { cache with cipherSession := sessions } request addr tcpSender =
      let locked := handler.registerLocked cache request addr tcpSender
      (locked.1, { locked.2 with cipherSession := sessions }) := by
  unfold ServerPacketHandler.registerLocked
  simp only [AppCache.optionallyGetWith_eq]
  split <;> (repeat' split) <;> rfl

theorem ServerPacketHandler.register_cipherSession :
    handler.register codec { cache with cipherSession := sessions } packet addr tcpSender =
      let registered := handler.register codec cache packet addr tcpSender
      (registered.1, { registered.2 with cipherSession := sessions }) := by
  unfold ServerPacketHandler.register
  split
  · rfl
  · rename_i request _
    rw [handler.registerLocked_cipherSession]
    rcases handler.registerLocked cache request addr tcpSender with ⟨_ | ⟨virtualIp, info⟩, locked⟩
    · rfl
    · dsimp only
      split <;> rfl

theorem handleContext_cipherSession (context : Context) :
    handleContext codec { cache with cipherSession := sessions } packet context now =
      let handled := handleContext codec cache packet context now
      { handled with cache := { handled.cache with cipherSession := sessions } } := by
  unfold handleContext
  split <;> (repeat' split) <;> rfl

theorem AppCache.getContext_cipherSession :
    ({ cache with cipherSession := sessions } : AppCache).getContext addr = cache.getContext addr :=
  rfl

theorem ServerPacketHandler.dispatch_cipherSession :
    handler.dispatch codec { cache with cipherSession := sessions } packet addr tcpSender now =
      let dispatched := handler.dispatch codec cache packet addr tcpSender now
      { dispatched with cache := { dispatched.cache with cipherSession := sessions } } := by
  by_cases registration : packet.protocol = .service .registrationRequest
  · simp only [ServerPacketHandler.dispatch,
      handler.notContext_of_registration _ _ _ _ _ registration]
    rw [handler.register_cipherSession]
  by_cases addrRequest : packet.protocol = .control .addrRequest
  · simp only [ServerPacketHandler.dispatch,
      handler.notContext_of_addrRequest _ _ _ _ _ addrRequest]
  simp only [ServerPacketHandler.dispatch,
    handler.notContext_eq_none _ _ _ _ _ registration addrRequest,
    AppCache.getContext_cipherSession]
  split
  · exact handleContext_cipherSession codec cache packet now sessions _
  · rfl

end Paths

/-! ### What a call changes -/

/-- `handle` writes the state in three ways only. A secret handshake sets the cipher session
of its address. A registration writes its token's group, and when it commits, the ip
session of its token and virtual ip and the address session of its address. A status report
from an address with a context rewrites, in the context's group, the `client_status` of the
entry at the reported source, if there is one. Every other call leaves the state as it was,
and so does every call that fails, except a registration that passed `check_reg` and the
allowlist. -/
theorem handle_frame (handler : ServerPacketHandler) (codec : Codec) (cache : AppCache)
    (packet : NetPacket) (addr : SocketAddr) (tcpSender : Option TcpSender) (now : Nat) :
    let handled := handler.handle codec cache packet addr tcpSender now
    (handled.cache = cache ∨
      (packet.protocol = .service .secretHandshakeRequest ∧
        ∃ cipher, handled.cache = cache.insertCipherSession addr cipher) ∨
      (∃ decrypted request, decryptGate codec cache packet addr = .ok decrypted ∧
        decrypted.protocol = .service .registrationRequest ∧
        codec.parseRegistrationRequest decrypted.payload = .ok request ∧
        ∃ info, handled.cache = cache.setNetwork request.token info ∨
          ∃ virtualIp, handled.cache = ((cache.setNetwork request.token info).insertIpSession
            (request.token, virtualIp) addr).insertAddrSession addr (request.token, virtualIp)) ∨
      ∃ decrypted context clients source status, decryptGate codec cache packet addr = .ok decrypted ∧
        decrypted.protocol = .service .clientStatusInfo ∧ cache.getContext addr = some context ∧
        handled.cache = cache.setNetwork context.group { context.networkInfo with clients := clients } ∧
        ∀ ip, clients.lookup ip = (context.networkInfo.clients.lookup ip).map fun entry =>
          if ip = source then { entry with clientStatus := some status } else entry) ∧
    ((∃ e, handled.result = .error e) → handled.cache = cache ∨
      ∃ decrypted request, decryptGate codec cache packet addr = .ok decrypted ∧
        decrypted.protocol = .service .registrationRequest ∧
        codec.parseRegistrationRequest decrypted.payload = .ok request ∧
        checkReg request = .ok () ∧ handler.config.allowsToken request.token = true) := by
  rcases handler.handle_cases codec cache packet addr tcpSender now with
    untouched | ⟨secretHandshake, cipher, handled⟩ | ⟨decrypted, -, -, gate, registration, handled⟩ |
      ⟨decrypted, context, status, gate, statusReport, found, parsed, handled⟩
  · exact ⟨.inl untouched, fun _ => .inl untouched⟩
  · rw [handled]
    exact ⟨.inr (.inl ⟨secretHandshake, cipher, rfl⟩), fun ⟨_, failed⟩ => nomatch failed⟩
  · rw [handled]
    rcases handler.register_cases codec cache decrypted addr tcpSender with
      untouched | ⟨request, parsed, checked, allowed, ⟨e, -, -, refused⟩ | ⟨virtualIp, info', -, -, committed⟩⟩
    · exact ⟨.inl untouched, fun _ => .inl untouched⟩
    all_goals
      refine ⟨.inr (.inr (.inl ⟨decrypted, request, gate, registration, parsed, ?_⟩)),
        fun _ => .inr ⟨decrypted, request, gate, registration, parsed, checked, allowed⟩⟩
    · exact ⟨_, .inl (by rw [refused])⟩
    · exact ⟨info', .inr ⟨virtualIp, committed⟩⟩
  · rw [handled]
    exact ⟨.inr (.inr (.inr ⟨decrypted, context, _, status.source, status.toEntity now, gate,
      statusReport, found, rfl, upClientStatusInfo_lookup context.networkInfo status now⟩)),
      fun ⟨_, failed⟩ => nomatch failed⟩

/-! ### The decryption gate -/

/-- The gate of `handle`: an encrypted packet from an address without a cipher session is
rejected with `NoKey`, the state untouched and nothing sent; a cleartext packet is handled
the same whatever the cipher sessions hold, so a cleartext packet from an address that has
one is not rejected. -/
theorem handle_encryption_gate (handler : ServerPacketHandler) (codec : Codec)
    (cache : AppCache) (packet : NetPacket) (addr : SocketAddr) (tcpSender : Option TcpSender)
    (now : Nat) (handshake : packet.protocol ≠ .service .handshakeRequest)
    (secretHandshake : packet.protocol ≠ .service .secretHandshakeRequest) :
    (packet.encrypted = true → cache.cipherSession addr = none →
      handler.handle codec cache packet addr tcpSender now = ⟨.error .noKey, cache, []⟩) ∧
    (packet.encrypted = false → ∀ sessions : SocketAddr → Option Aes256GcmCipher,
      let handled := handler.handle codec cache packet addr tcpSender now
      handler.handle codec { cache with cipherSession := sessions } packet addr tcpSender now =
        { handled with cache := { handled.cache with cipherSession := sessions } }) := by
  constructor
  · intro encrypted absent
    rw [handler.handle_of_gate _ _ _ _ _ _ handshake secretHandshake]
    simp only [decryptGate, encrypted, absent, if_true]
  · intro cleartext sessions
    rw [handler.handle_of_gate _ _ _ _ _ _ handshake secretHandshake,
      handler.handle_of_gate _ _ _ _ _ _ handshake secretHandshake]
    simp only [decryptGate, cleartext]
    exact handler.dispatch_cipherSession codec cache packet addr tcpSender now sessions

/-- An encrypted ping from an address with no cipher is refused with `NoKey`; a cleartext ping
from an address that holds a cipher and a context is answered, exactly as it would be whatever
the cipher sessions held. -/
theorem handle_encryption_gate_ping :
    let handler : ServerPacketHandler := ⟨⟨0x0A000001, 0xFFFFFF00, 0x0A0000FF, none⟩, none, "1.2.16"⟩
    let codec : Codec := { (default : Codec) with pongPayload := fun payload _ => .ok payload }
    let addr : SocketAddr := ⟨.v4 0xCB007105, 4000⟩
    let encrypted : NetPacket := { NetPacket.reply (.control .ping) [] with encrypted := true }
    let cleartext := NetPacket.reply (.control .ping) []
    let cipher : Aes256GcmCipher := ⟨List.replicate 32 7, List.length_replicate 32 7, ⟨"T"⟩⟩
    let info := handler.config.newNetwork.enroll 0x0A000002 ⟨"T", "A", "A", 0, false, false⟩ addr none
    let cache := ((AppCache.empty.setNetwork "T" info).insertAddrSession addr
      ("T", 0x0A000002)).insertCipherSession addr cipher
    handler.handle codec AppCache.empty encrypted addr none 0 = ⟨.error .noKey, AppCache.empty, []⟩ ∧
    cache.cipherSession addr = some cipher ∧
    (handler.handle codec cache cleartext addr none 0).result =
      .ok (some (.reply (.control .pong) [])) ∧
    ∀ sessions : SocketAddr → Option Aes256GcmCipher,
      let handled := handler.handle codec cache cleartext addr none 0
      handler.handle codec { cache with cipherSession := sessions } cleartext addr none 0 =
        { handled with cache := { handled.cache with cipherSession := sessions } } := by
  intro handler codec addr encrypted cleartext cipher info cache
  exact ⟨(handle_encryption_gate handler codec AppCache.empty encrypted addr none 0 (by decide)
      (by decide)).1 rfl rfl, by simp [cache], rfl,
    (handle_encryption_gate handler codec cache cleartext addr none 0 (by decide) (by decide)).2 rfl⟩

/-- A cleartext address request from an address that holds a cipher session is answered. -/
theorem handle_cleartext_with_session :
    let handler : ServerPacketHandler := ⟨⟨0x0A000001, 0xFFFFFF00, 0x0A0000FF, none⟩, none, "1.2.16"⟩
    let addr : SocketAddr := ⟨.v4 0xCB007105, 4000⟩
    let cipher : Aes256GcmCipher := ⟨List.replicate 32 7, List.length_replicate 32 7, ⟨"T"⟩⟩
    let cache := AppCache.empty.insertCipherSession addr cipher
    let packet := NetPacket.reply (.control .addrRequest) []
    packet.encrypted = false ∧ cache.cipherSession addr = some cipher ∧
      (handler.handle default cache packet addr none 0).result =
        .ok (some (.reply (.control .addrResponse) [])) :=
  ⟨rfl, by simp, rfl⟩

/-! ### A failed registration -/

/-- A registration that fails to parse, or that `check_reg`, the allowlist or the allocator
refuses, returns an error and leaves every session and every group that existed as it was.
It can only create its token's group, as `NetworkInfo::new`, when it got past the
allowlist. -/
theorem register_failed_intact (handler : ServerPacketHandler) (codec : Codec)
    (cache : AppCache) (packet : NetPacket) (addr : SocketAddr) (tcpSender : Option TcpSender)
    (failed : (∃ e, codec.parseRegistrationRequest packet.payload = .error e) ∨
      ∃ request e, codec.parseRegistrationRequest packet.payload = .ok request ∧
        (handler.registerLocked cache request addr tcpSender).1 = .error e) :
    let registered := handler.register codec cache packet addr tcpSender
    (∃ e, registered.1 = .error e) ∧ registered.2.addrSession = cache.addrSession ∧
      registered.2.ipSession = cache.ipSession ∧
      registered.2.cipherSession = cache.cipherSession ∧
      ∀ group, registered.2.virtualNetwork group = cache.virtualNetwork group ∨
        (cache.virtualNetwork group = none ∧
          registered.2.virtualNetwork group = some handler.config.newNetwork ∧
          ∃ request, codec.parseRegistrationRequest packet.payload = .ok request ∧
            request.token = group ∧ checkReg request = .ok () ∧
            handler.config.allowsToken request.token = true) := by
  rcases failed with ⟨e, parseFailed⟩ | ⟨request, e, parsed, lockFailed⟩
  · have registered : handler.register codec cache packet addr tcpSender = (.error e, cache) := by
      simp only [ServerPacketHandler.register, parseFailed]
    rw [registered]
    exact ⟨⟨e, rfl⟩, rfl, rfl, rfl, fun _ => .inl rfl⟩
  have registered : handler.register codec cache packet addr tcpSender =
      (.error e, (handler.registerLocked cache request addr tcpSender).2) := by
    rcases locked : handler.registerLocked cache request addr tcpSender with ⟨_ | _, _⟩ <;>
      rw [locked] at lockFailed <;> cases lockFailed
    simp only [ServerPacketHandler.register, parsed, locked]
  rw [registered]
  refine ⟨⟨e, rfl⟩, ?_⟩
  rcases handler.registerLocked_cases cache request addr tcpSender with
    ⟨_, -, locked⟩ | ⟨-, -, locked⟩ | ⟨checked, allowed, _, -, locked⟩ | ⟨-, -, _, _, -, locked⟩ <;>
    rw [locked] at lockFailed ⊢
  · exact ⟨rfl, rfl, rfl, fun _ => .inl rfl⟩
  · exact ⟨rfl, rfl, rfl, fun _ => .inl rfl⟩
  · refine ⟨rfl, rfl, rfl, fun group => ?_⟩
    rcases cache.setNetwork_getD request.token group handler.config.newNetwork with
      untouched | ⟨rfl, absent, created⟩
    · exact .inl untouched
    · exact .inr ⟨absent, created, request, parsed, rfl, checked, allowed⟩
  · cases lockFailed

/-- A request for an address outside the range, sent to a group that already holds a device
and its sessions: `InvalidIp`, and the group and the sessions are left as they were. -/
theorem register_failed_intact_invalidIp :
    let handler : ServerPacketHandler := ⟨⟨0x0A000001, 0xFFFFFF00, 0x0A0000FF, none⟩, none, "1.2.16"⟩
    let request : RegistrationRequest := ⟨"T", "B", "B", 0x0B000002, false, false⟩
    let codec : Codec := { (default : Codec) with parseRegistrationRequest := fun _ => .ok request }
    let packet := NetPacket.reply (.service .registrationRequest) []
    let addr : SocketAddr := ⟨.v4 0xC6336407, 5000⟩
    let holder : SocketAddr := ⟨.v4 0xCB007105, 4000⟩
    let cache := ((AppCache.empty.setNetwork "T" (handler.config.newNetwork.enroll 0x0A000002
      ⟨"T", "A", "A", 0, false, false⟩ holder none)).insertIpSession ("T", 0x0A000002)
      holder).insertAddrSession holder ("T", 0x0A000002)
    let registered := handler.register codec cache packet addr none
    cache.addrSession holder = some ("T", 0x0A000002) ∧ (cache.virtualNetwork "T").isSome ∧
    (handler.registerLocked cache request addr none).1 = .error .invalidIp ∧
    (∃ e, registered.1 = .error e) ∧ registered.2.addrSession = cache.addrSession ∧
      registered.2.ipSession = cache.ipSession ∧
      registered.2.cipherSession = cache.cipherSession ∧
      ∀ group, registered.2.virtualNetwork group = cache.virtualNetwork group ∨
        (cache.virtualNetwork group = none ∧
          registered.2.virtualNetwork group = some handler.config.newNetwork ∧
          ∃ request, codec.parseRegistrationRequest packet.payload = .ok request ∧
            request.token = group ∧ checkReg request = .ok () ∧
            handler.config.allowsToken request.token = true) :=
  ⟨by simp, rfl, rfl, register_failed_intact _ _ _ _ _ none (by exact .inr ⟨_, _, rfl, rfl⟩)⟩

end Vnts
