import Vnts.Concurrent
import Vnts.Server

/-
This file follows the state of the server over whole runs, one call of `handle` after
another, map by map. Three results. The allowlist holds over every run: no call creates a
group whose token `white_token` refuses. No call removes anything: every group, entry and
session a state holds, every later state holds too, an address that has a context keeps one,
and the address session and the cipher session of an address change only at calls from that
address. And the sessions agree with the directories: in every state of a run from the empty
caches an ip session names the address of the entry at its key, and an address session
names a group whose directory holds an entry at its virtual ip, so an address has a context
exactly when it has an address session.

Each result is an invariant with a step lemma and a run lemma. The step lemmas read one
inversion lemma, `handle_cache_cases`, which lists the states one call can leave. A
registration is there what `Vnts.Concurrent` makes of it: its locked section, and when that
commits, its two session inserts. The last section says so of the two models: each call of
`handle` is one schedule of the concurrent model, with every session insert right after the
locked section it belongs to.
-/

namespace Vnts

/-! ### What the locked section writes -/

section Locked

variable (handler : ServerPacketHandler) (cache : AppCache) (request : RegistrationRequest)
  (addr : SocketAddr) (tcpSender : Option TcpSender)

/-- The locked section writes at most its token's group, and only past the allowlist. -/
theorem ServerPacketHandler.registerLocked_virtualNetwork (group : String) :
    (handler.registerLocked cache request addr tcpSender).2.virtualNetwork group =
        cache.virtualNetwork group ∨
      group = request.token ∧ handler.config.allowsToken request.token = true ∧
        ((handler.registerLocked cache request addr tcpSender).2.virtualNetwork group).isSome := by
  rcases handler.registerLocked_cases cache request addr tcpSender with
    ⟨_, -, locked⟩ | ⟨-, -, locked⟩ | ⟨-, allowed, _, -, locked⟩ | ⟨-, allowed, _, _, -, locked⟩ <;>
    rw [locked]
  · exact .inl rfl
  · exact .inl rfl
  all_goals
    by_cases same : group = request.token
    · exact .inr ⟨same, allowed, by simp [same]⟩
    · exact .inl (by simp [same])

end Locked

/-- A status report written through a context rewrites at most the `client_status` of one
entry of the context's group. -/
theorem AppCache.lookup_upClientStatusInfo {cache : AppCache} {context : Context}
    (current : cache.virtualNetwork context.group = some context.networkInfo)
    (status : Message.ClientStatusInfo) (now : Nat) (key : String × BitVec 32) :
    ((cache.upClientStatusInfo context status now).lookup key).map ClientInfo.withoutStatus =
      (cache.lookup key).map ClientInfo.withoutStatus := by
  rw [AppCache.upClientStatusInfo, AppCache.lookup_setNetwork]
  split_ifs with same
  · have held : cache.lookup key = context.networkInfo.clients.lookup key.2 := by
      simp only [AppCache.lookup, same, current, Option.some_bind]
    rw [held, context.networkInfo.sameRoster_upClientStatusInfo status now key.2]
  · rfl

/-! ### The states one call can leave -/

section Call

variable (handler : ServerPacketHandler) (codec : Codec) (cache : AppCache) (packet : NetPacket)
  (addr : SocketAddr) (tcpSender : Option TcpSender) (now : Nat)

/-- One call of `handle` leaves the state as it was; sets the cipher session of its address,
for a secret handshake; leaves the state the locked section of a refused registration left;
inserts the two sessions of a committed registration into the state its locked section left;
or writes a status report into its context's group. -/
theorem ServerPacketHandler.handle_cache_cases :
    let after := (handler.handle codec cache packet addr tcpSender now).cache
    after = cache ∨
      (packet.protocol = .service .secretHandshakeRequest ∧
        ∃ cipher, after = cache.insertCipherSession addr cipher) ∨
      (∃ request e, (handler.registerLocked cache request addr tcpSender).1 = .error e ∧
        after = (handler.registerLocked cache request addr tcpSender).2) ∨
      (∃ request virtualIp,
        (handler.registerLocked cache request addr tcpSender).1.map Prod.fst = .ok virtualIp ∧
        after = ((handler.registerLocked cache request addr tcpSender).2.insertIpSession
          (request.token, virtualIp) addr).insertAddrSession addr (request.token, virtualIp)) ∨
      ∃ context status, cache.getContext addr = some context ∧
        after = cache.upClientStatusInfo context status now := by
  rcases handler.handle_cases codec cache packet addr tcpSender now with
    untouched | ⟨secretHandshake, cipher, handled⟩ | ⟨decrypted, -, -, -, -, handled⟩ |
      ⟨-, context, status, -, -, found, -, handled⟩
  · exact .inl untouched
  · exact .inr (.inl ⟨secretHandshake, cipher, by rw [handled]⟩)
  · rw [handled]
    dsimp only
    rw [handler.register_snd]
    rcases codec.parseRegistrationRequest decrypted.payload with _ | request
    · exact .inl rfl
    dsimp only
    rcases locked : handler.registerLocked cache request addr tcpSender with
      ⟨e | ⟨virtualIp, info⟩, written⟩
    · exact .inr (.inr (.inl ⟨request, e, by rw [locked], by rw [locked]⟩))
    · exact .inr (.inr (.inr (.inl ⟨request, virtualIp, by rw [locked]; rfl, by rw [locked]⟩)))
  · exact .inr (.inr (.inr (.inr ⟨context, status, found, by rw [handled]⟩)))

/-- A call creates a group only for a registration whose token the allowlist admits. -/
theorem ServerPacketHandler.handle_created {group : String}
    (absent : cache.virtualNetwork group = none) {info : NetworkInfo}
    (created : (handler.handle codec cache packet addr tcpSender now).cache.virtualNetwork group =
      some info) :
    handler.config.allowsToken group = true := by
  have locked : ∀ request,
      ((handler.registerLocked cache request addr tcpSender).2.virtualNetwork group).isSome →
        handler.config.allowsToken group = true := fun request written => by
    rcases handler.registerLocked_virtualNetwork cache request addr tcpSender group with
      untouched | ⟨rfl, allowed, -⟩
    · rw [untouched, absent] at written; cases written
    · exact allowed
  rcases handler.handle_cache_cases codec cache packet addr tcpSender now with
    written | ⟨-, _, written⟩ | ⟨request, _, -, written⟩ | ⟨request, _, -, written⟩ |
      ⟨context, _, found, written⟩ <;>
    rw [written] at created
  · rw [created] at absent; cases absent
  · rw [AppCache.insertCipherSession_virtualNetwork, absent] at created; cases created
  · exact locked request (by rw [created]; rfl)
  · exact locked request (by rw [← AppCache.insertIpSession_virtualNetwork,
      ← AppCache.insertAddrSession_virtualNetwork, created]; rfl)
  · have other : group ≠ context.group := fun same => by
      rw [same, (AppCache.getContext_eq_some.1 found).2] at absent; cases absent
    rw [AppCache.upClientStatusInfo, AppCache.setNetwork_virtualNetwork,
      Function.update_noteq other, absent] at created
    cases created

end Call

/-! ### The allowlist holds over every run -/

/-- With `white_token` set, no run creates a group outside it: every group of every state of
a run from a state whose groups the allowlist admits, such as the empty caches, is one the
allowlist admits. -/
theorem run_groups_allowed (handler : ServerPacketHandler) (codec : Codec) {cache : AppCache}
    (admitted : ∀ group info, cache.virtualNetwork group = some info →
      handler.config.allowsToken group = true)
    (inbounds : List Inbound) :
    ∀ group info, (handler.run codec cache inbounds).virtualNetwork group = some info →
      handler.config.allowsToken group = true := by
  induction inbounds generalizing cache with
  | nil => exact admitted
  | cons inbound rest inductionHypothesis =>
    refine inductionHypothesis fun group info found => ?_
    cases current : cache.virtualNetwork group with
    | none => exact handler.handle_created codec cache _ _ _ _ current found
    | some info => exact admitted group info current

theorem run_groups_allowed_registrations :
    let handler : ServerPacketHandler :=
      ⟨⟨0x0A000001, 0xFFFFFF00, 0x0A0000FF, some ["T"]⟩, none, "1.2.16"⟩
    let codec : Codec := { (default : Codec) with
      parseRegistrationRequest := fun payload =>
        .ok ⟨if payload = [] then "T" else "U", "A", "A", 0, false, false⟩ }
    let inbounds : List Inbound :=
      [⟨.reply (.service .registrationRequest) [], ⟨.v4 0xCB007105, 4000⟩, none, 0⟩,
        ⟨.reply (.service .registrationRequest) [1], ⟨.v4 0xCB007105, 4000⟩, none, 1⟩]
    (∀ group info, AppCache.empty.virtualNetwork group = some info →
      handler.config.allowsToken group = true) ∧
    ∀ group info, (handler.run codec AppCache.empty inbounds).virtualNetwork group = some info →
      handler.config.allowsToken group = true :=
  have admitted : ∀ group info, AppCache.empty.virtualNetwork group = some info →
      (⟨0x0A000001, 0xFFFFFF00, 0x0A0000FF, some ["T"]⟩ : ConfigInfo).allowsToken group = true :=
    fun _ _ absent => nomatch absent
  ⟨admitted, run_groups_allowed _ _ admitted _⟩

/-! ### Nothing is removed -/

/-- `cache'` holds every group, every entry and every session that `cache` holds, and gives a
context to every address that `cache` gives one. -/
structure AppCache.Extends (cache cache' : AppCache) : Prop where
  virtualNetwork : ∀ group, (cache.virtualNetwork group).isSome →
    (cache'.virtualNetwork group).isSome
  lookup : ∀ key, (cache.lookup key).isSome → (cache'.lookup key).isSome
  ipSession : ∀ key, (cache.ipSession key).isSome → (cache'.ipSession key).isSome
  addrSession : ∀ addr, (cache.addrSession addr).isSome → (cache'.addrSession addr).isSome
  cipherSession : ∀ addr, (cache.cipherSession addr).isSome → (cache'.cipherSession addr).isSome
  context : ∀ addr, (cache.getContext addr).isSome → (cache'.getContext addr).isSome

theorem AppCache.Extends.refl (cache : AppCache) : cache.Extends cache :=
  ⟨fun _ => id, fun _ => id, fun _ => id, fun _ => id, fun _ => id, fun _ => id⟩

theorem AppCache.Extends.trans {cache cache' cache'' : AppCache} (first : cache.Extends cache')
    (second : cache'.Extends cache'') : cache.Extends cache'' where
  virtualNetwork group held := second.virtualNetwork group (first.virtualNetwork group held)
  lookup key held := second.lookup key (first.lookup key held)
  ipSession key held := second.ipSession key (first.ipSession key held)
  addrSession addr held := second.addrSession addr (first.addrSession addr held)
  cipherSession addr held := second.cipherSession addr (first.cipherSession addr held)
  context addr held := second.context addr (first.context addr held)

/-- An insert keeps every key the map had. -/
theorem isSome_update_some {α β : Type} [DecidableEq α] {f : α → Option β} {a x : α} {b : β}
    (held : (f x).isSome) : (Function.update f a (some b) x).isSome := by
  by_cases same : x = a
  · rw [same, Function.update_same]; rfl
  · rwa [Function.update_noteq same]

theorem AppCache.getContext_isSome {cache : AppCache} {addr : SocketAddr} :
    (cache.getContext addr).isSome ↔ ∃ group virtualIp,
      cache.addrSession addr = some (group, virtualIp) ∧ (cache.virtualNetwork group).isSome := by
  unfold AppCache.getContext
  split
  · rename_i group virtualIp session
    simp [session]
  · rename_i absent
    simp [absent]

/-- A write that keeps every group and every entry, and writes no session. -/
theorem AppCache.Extends.of_sessions {cache cache' : AppCache}
    (virtualNetwork : ∀ group, (cache.virtualNetwork group).isSome →
      (cache'.virtualNetwork group).isSome)
    (lookup : ∀ key, (cache.lookup key).isSome → (cache'.lookup key).isSome)
    (ipSession : cache'.ipSession = cache.ipSession)
    (addrSession : cache'.addrSession = cache.addrSession)
    (cipherSession : cache'.cipherSession = cache.cipherSession) : cache.Extends cache' where
  virtualNetwork := virtualNetwork
  lookup := lookup
  ipSession key held := by rwa [ipSession]
  addrSession addr held := by rwa [addrSession]
  cipherSession addr held := by rwa [cipherSession]
  context addr held := by
    obtain ⟨group, virtualIp, session, current⟩ := AppCache.getContext_isSome.1 held
    exact AppCache.getContext_isSome.2
      ⟨group, virtualIp, by rw [addrSession, session], virtualNetwork group current⟩

theorem AppCache.extends_insertIpSession (cache : AppCache) (key : String × BitVec 32)
    (addr : SocketAddr) : cache.Extends (cache.insertIpSession key addr) where
  virtualNetwork _ := id
  lookup _ := id
  ipSession _ := isSome_update_some
  addrSession _ := id
  cipherSession _ := id
  context _ := id

theorem AppCache.extends_insertCipherSession (cache : AppCache) (addr : SocketAddr)
    (cipher : Aes256GcmCipher) : cache.Extends (cache.insertCipherSession addr cipher) where
  virtualNetwork _ := id
  lookup _ := id
  ipSession _ := id
  addrSession _ := id
  cipherSession _ := isSome_update_some
  context _ := id

/-- An address session inserted for a group that exists gives its address a context. -/
theorem AppCache.extends_insertAddrSession {cache : AppCache} {session : String × BitVec 32}
    (current : (cache.virtualNetwork session.1).isSome) (addr : SocketAddr) :
    cache.Extends (cache.insertAddrSession addr session) where
  virtualNetwork _ := id
  lookup _ := id
  ipSession _ := id
  addrSession _ := isSome_update_some
  cipherSession _ := id
  context addr' held := by
    by_cases same : addr' = addr
    · exact AppCache.getContext_isSome.2 ⟨session.1, session.2, by simp [same], current⟩
    · obtain ⟨group, virtualIp, found, current'⟩ := AppCache.getContext_isSome.1 held
      exact AppCache.getContext_isSome.2 ⟨group, virtualIp,
        by rw [AppCache.insertAddrSession_addrSession, Function.update_noteq same, found], current'⟩

theorem ServerPacketHandler.registerLocked_extends (handler : ServerPacketHandler)
    (cache : AppCache) (request : RegistrationRequest) (addr : SocketAddr)
    (tcpSender : Option TcpSender) :
    cache.Extends (handler.registerLocked cache request addr tcpSender).2 := by
  obtain ⟨addrSession, cipherSession⟩ :=
    handler.registerLocked_addrSession_cipherSession cache request addr tcpSender
  refine .of_sessions (fun group held => ?_) (fun key held => ?_)
    (handler.registerLocked_ipSession cache request addr tcpSender) addrSession cipherSession
  · rcases handler.registerLocked_virtualNetwork cache request addr tcpSender group with
      same | ⟨-, -, written⟩
    · rwa [same]
    · exact written
  · rcases locked : (handler.registerLocked cache request addr tcpSender).1 with
      e | ⟨virtualIp, info⟩
    · rwa [handler.registerLocked_lookup_of_error cache request addr tcpSender locked]
    · obtain ⟨⟨entry, found, -⟩, other⟩ := handler.registerLocked_lookup_of_commit cache request
        addr tcpSender (by rw [locked]; rfl)
      by_cases same : key = (request.token, virtualIp)
      · rw [same, found]; rfl
      · rwa [other key same]

theorem AppCache.extends_upClientStatusInfo {cache : AppCache} {addr : SocketAddr}
    {context : Context} (found : cache.getContext addr = some context)
    (status : Message.ClientStatusInfo) (now : Nat) :
    cache.Extends (cache.upClientStatusInfo context status now) := by
  have current := (AppCache.getContext_eq_some.1 found).2
  refine .of_sessions (fun group held => ?_) (fun key held => ?_) rfl rfl rfl
  · rw [AppCache.upClientStatusInfo, AppCache.setNetwork_virtualNetwork]
    exact isSome_update_some held
  · have kept := congrArg Option.isSome (AppCache.lookup_upClientStatusInfo current status now key)
    simp only [Option.isSome_map'] at kept
    rwa [kept]

section Call

variable (handler : ServerPacketHandler) (codec : Codec) (cache : AppCache) (packet : NetPacket)
  (addr : SocketAddr) (tcpSender : Option TcpSender) (now : Nat)

/-- A call removes nothing. -/
theorem ServerPacketHandler.handle_extends :
    cache.Extends (handler.handle codec cache packet addr tcpSender now).cache := by
  rcases handler.handle_cache_cases codec cache packet addr tcpSender now with
    written | ⟨-, cipher, written⟩ | ⟨request, _, -, written⟩ |
      ⟨request, virtualIp, committed, written⟩ | ⟨context, status, found, written⟩ <;>
    rw [written]
  · exact .refl cache
  · exact cache.extends_insertCipherSession addr cipher
  · exact handler.registerLocked_extends cache request addr tcpSender
  · obtain ⟨⟨entry, held, -⟩, -⟩ :=
      handler.registerLocked_lookup_of_commit cache request addr tcpSender committed
    have current :
        ((handler.registerLocked cache request addr tcpSender).2.virtualNetwork request.token).isSome := by
      obtain ⟨info, current, -⟩ := Option.bind_eq_some.1 held
      rw [current]; rfl
    exact ((handler.registerLocked_extends cache request addr tcpSender).trans
      (AppCache.extends_insertIpSession _ _ _)).trans (AppCache.extends_insertAddrSession current addr)
  · exact AppCache.extends_upClientStatusInfo found status now

/-- A call writes the address session of its own address only, and the cipher session of its
own address only, for a secret handshake. -/
theorem ServerPacketHandler.handle_sessions_of_ne (addr' : SocketAddr) :
    let after := (handler.handle codec cache packet addr tcpSender now).cache
    (addr' ≠ addr → after.addrSession addr' = cache.addrSession addr') ∧
    (addr' ≠ addr ∨ packet.protocol ≠ .service .secretHandshakeRequest →
      after.cipherSession addr' = cache.cipherSession addr') := by
  rcases handler.handle_cache_cases codec cache packet addr tcpSender now with
    written | ⟨secretHandshake, cipher, written⟩ | ⟨request, _, -, written⟩ |
      ⟨request, virtualIp, -, written⟩ | ⟨context, status, -, written⟩ <;>
    rw [written]
  · exact ⟨fun _ => rfl, fun _ => rfl⟩
  · refine ⟨fun _ => rfl, fun other => ?_⟩
    rw [AppCache.insertCipherSession_cipherSession, Function.update_noteq]
    rcases other with other | other
    · exact other
    · exact absurd secretHandshake other
  · obtain ⟨addrSession, cipherSession⟩ :=
      handler.registerLocked_addrSession_cipherSession cache request addr tcpSender
    exact ⟨fun _ => by rw [addrSession], fun _ => by rw [cipherSession]⟩
  · obtain ⟨addrSession, cipherSession⟩ :=
      handler.registerLocked_addrSession_cipherSession cache request addr tcpSender
    refine ⟨fun other => ?_, fun _ => ?_⟩
    · rw [AppCache.insertAddrSession_addrSession, Function.update_noteq other,
        AppCache.insertIpSession_addrSession, addrSession]
    · rw [AppCache.insertAddrSession_cipherSession, AppCache.insertIpSession_cipherSession,
        cipherSession]
  · exact ⟨fun _ => rfl, fun _ => rfl⟩

end Call

section Run

variable (handler : ServerPacketHandler) (codec : Codec) (cache : AppCache)
  (inbounds : List Inbound) (addr : SocketAddr)

theorem ServerPacketHandler.run_extends : cache.Extends (handler.run codec cache inbounds) := by
  induction inbounds generalizing cache with
  | nil => exact .refl cache
  | cons inbound rest inductionHypothesis =>
    exact (handler.handle_extends codec cache _ _ _ _).trans (inductionHypothesis _)

theorem ServerPacketHandler.run_addrSession_of_ne (away : ∀ inbound ∈ inbounds, inbound.addr ≠ addr) :
    (handler.run codec cache inbounds).addrSession addr = cache.addrSession addr := by
  induction inbounds generalizing cache with
  | nil => rfl
  | cons inbound rest inductionHypothesis =>
    rw [ServerPacketHandler.run,
      inductionHypothesis _ fun other member => away other (List.mem_cons_of_mem _ member)]
    exact (handler.handle_sessions_of_ne codec cache inbound.packet inbound.addr inbound.tcpSender
      inbound.now addr).1 (away inbound (List.mem_cons_self _ _)).symm

theorem ServerPacketHandler.run_cipherSession_of_ne
    (away : ∀ inbound ∈ inbounds, inbound.addr ≠ addr ∨
      inbound.packet.protocol ≠ .service .secretHandshakeRequest) :
    (handler.run codec cache inbounds).cipherSession addr = cache.cipherSession addr := by
  induction inbounds generalizing cache with
  | nil => rfl
  | cons inbound rest inductionHypothesis =>
    rw [ServerPacketHandler.run,
      inductionHypothesis _ fun other member => away other (List.mem_cons_of_mem _ member)]
    exact (handler.handle_sessions_of_ne codec cache inbound.packet inbound.addr inbound.tcpSender
      inbound.now addr).2 ((away inbound (List.mem_cons_self _ _)).imp Ne.symm id)

end Run

/-- Nothing is ever removed, and sessions belong to their address. After every run in which
nothing expires, the state still holds every group, entry and session it held before, and every
address that had a context still has one. The address session of an address changes only at
calls from that address, and its cipher session only at secret handshakes from it. -/
theorem run_sessions_kept (handler : ServerPacketHandler) (codec : Codec) (cache : AppCache)
    (inbounds : List Inbound) (addr : SocketAddr) :
    let after := handler.run codec cache inbounds
    cache.Extends after ∧
    ((∀ inbound ∈ inbounds, inbound.addr ≠ addr) →
      after.addrSession addr = cache.addrSession addr) ∧
    ((∀ inbound ∈ inbounds, inbound.addr ≠ addr ∨
        inbound.packet.protocol ≠ .service .secretHandshakeRequest) →
      after.cipherSession addr = cache.cipherSession addr) :=
  ⟨handler.run_extends codec cache inbounds, handler.run_addrSession_of_ne codec cache inbounds addr,
    handler.run_cipherSession_of_ne codec cache inbounds addr⟩

/-- A client's encrypted traffic is decrypted with the key of its last secret handshake. After
a secret handshake from `addr` that succeeds with a 32-byte key, over any run with no later
secret handshake from `addr`, whatever other clients send, every encrypted packet from `addr`
goes through `decrypt_ipv4` with that key, under the finger of the handshake's token. -/
theorem encrypted_with_handshake_key (handler : ServerPacketHandler) (codec : Codec)
    (cache : AppCache) (packet : NetPacket) (addr : SocketAddr) (tcpSender : Option TcpSender)
    (now : Nat) {rsaCipher : RsaCipher} {request : SecretHandshakeRequest}
    (configured : handler.rsaCipher = some rsaCipher)
    (secretHandshake : packet.protocol = .service .secretHandshakeRequest)
    (decrypted : (rsaCipher.decrypt packet >>= codec.parseSecretHandshakeRequest) = .ok request)
    (keyLength : request.key.length = 32) (inbounds : List Inbound)
    (noRekey : ∀ inbound ∈ inbounds, inbound.addr ≠ addr ∨
      inbound.packet.protocol ≠ .service .secretHandshakeRequest)
    (encrypted : NetPacket) (flagged : encrypted.encrypted = true) :
    let after := handler.run codec (handler.handle codec cache packet addr tcpSender now).cache
      inbounds
    decryptGate codec after encrypted addr =
      codec.decryptIpv4 ⟨request.key, keyLength, ⟨request.token⟩⟩ encrypted := by
  intro after
  have installed : (handler.handle codec cache packet addr tcpSender now).cache =
      cache.insertCipherSession addr ⟨request.key, keyLength, ⟨request.token⟩⟩ := by
    simp only [ServerPacketHandler.handle, secretHandshake, ServerPacketHandler.secretHandshake,
      configured, decrypted, dif_pos keyLength]
  have kept : after.cipherSession addr = some ⟨request.key, keyLength, ⟨request.token⟩⟩ := by
    rw [handler.run_cipherSession_of_ne codec _ inbounds addr noRekey, installed,
      AppCache.insertCipherSession_cipherSession, Function.update_same]
  simp only [decryptGate, flagged, kept, if_true]

theorem encrypted_with_handshake_key_first :
    let rsaCipher : RsaCipher := ⟨[], "F", fun _ => .ok []⟩
    let handler : ServerPacketHandler :=
      ⟨⟨0x0A000001, 0xFFFFFF00, 0x0A0000FF, none⟩, some rsaCipher, "1.2.16"⟩
    let request : SecretHandshakeRequest := ⟨List.replicate 32 7, "T"⟩
    let codec : Codec := { (default : Codec) with parseSecretHandshakeRequest := fun _ => .ok request }
    let packet := NetPacket.reply (.service .secretHandshakeRequest) []
    let addr : SocketAddr := ⟨.v4 0xCB007105, 4000⟩
    let encrypted := { NetPacket.reply (.control .ping) [] with encrypted := true }
    let after := handler.run codec (handler.handle codec AppCache.empty packet addr none 0).cache []
    handler.rsaCipher = some rsaCipher ∧ packet.protocol = .service .secretHandshakeRequest ∧
    (rsaCipher.decrypt packet >>= codec.parseSecretHandshakeRequest) = .ok request ∧
    request.key.length = 32 ∧ encrypted.encrypted = true ∧
    decryptGate codec after encrypted addr =
      codec.decryptIpv4 ⟨request.key, List.length_replicate 32 7, ⟨request.token⟩⟩ encrypted :=
  by
  intro rsaCipher handler request codec packet addr encrypted after
  exact ⟨rfl, rfl, rfl, List.length_replicate 32 7, rfl,
    encrypted_with_handshake_key handler codec AppCache.empty packet addr none 0 rfl rfl rfl
      (List.length_replicate 32 7) [] (fun _ member => nomatch member) encrypted rfl⟩

/-! ### The sessions agree with the directories -/

/-- What the sessions of a state say of its directories: the ip sessions are the addresses of
the entries, key by key, and an address session names a key that holds an entry. -/
structure AppCache.Consistent (cache : AppCache) : Prop where
  ipSession : ∀ key, cache.ipSession key = (cache.lookup key).map ClientInfo.address
  addrSession : ∀ addr key, cache.addrSession addr = some key → ∃ entry, cache.lookup key = some entry

theorem AppCache.consistent_empty : AppCache.empty.Consistent where
  ipSession _ := rfl
  addrSession _ _ session := nomatch session

/-- A write that keeps an entry, `client_status` apart, keeps its address. -/
theorem AppCache.map_address_of_withoutStatus {cache cache' : AppCache} {key : String × BitVec 32}
    (kept : (cache'.lookup key).map ClientInfo.withoutStatus =
      (cache.lookup key).map ClientInfo.withoutStatus) :
    (cache'.lookup key).map ClientInfo.address = (cache.lookup key).map ClientInfo.address := by
  have addressed := congrArg (Option.map ClientInfo.address) kept
  simp only [Option.map_map] at addressed
  exact addressed

/-- A write that keeps both session maps and every entry, `client_status` apart, keeps the
sessions consistent. -/
theorem AppCache.Consistent.of_sameEntries {cache cache' : AppCache} (consistent : cache.Consistent)
    (ipSession : cache'.ipSession = cache.ipSession)
    (addrSession : cache'.addrSession = cache.addrSession)
    (entries : ∀ key, (cache'.lookup key).map ClientInfo.withoutStatus =
      (cache.lookup key).map ClientInfo.withoutStatus) :
    cache'.Consistent where
  ipSession key := by
    rw [ipSession, consistent.ipSession, AppCache.map_address_of_withoutStatus (entries key)]
  addrSession addr key session := by
    rw [addrSession] at session
    obtain ⟨entry, held⟩ := consistent.addrSession addr key session
    have kept := entries key
    rw [held, Option.map_some'] at kept
    obtain ⟨entry', held', -⟩ := Option.map_eq_some'.1 kept
    exact ⟨entry', held'⟩

/-- Inserting the two sessions of a registration after a write that put the registration's
address at its key, and changed no other entry and no session, keeps the sessions
consistent. -/
theorem AppCache.Consistent.commit {cache written : AppCache} (consistent : cache.Consistent)
    {key : String × BitVec 32} {addr : SocketAddr}
    (ipSession : written.ipSession = cache.ipSession)
    (addrSession : written.addrSession = cache.addrSession)
    (held : ∃ entry, written.lookup key = some entry ∧ entry.address = addr)
    (other : ∀ key', key' ≠ key → written.lookup key' = cache.lookup key') :
    ((written.insertIpSession key addr).insertAddrSession addr key).Consistent where
  ipSession key' := by
    simp only [AppCache.insertAddrSession_ipSession, AppCache.insertIpSession_ipSession,
      AppCache.lookup_insertAddrSession, AppCache.lookup_insertIpSession]
    by_cases same : key' = key
    · obtain ⟨entry, found, address⟩ := held
      rw [same, Function.update_same, found, Option.map_some', address]
    · rw [Function.update_noteq same, ipSession, other key' same, consistent.ipSession]
  addrSession addr' key' session := by
    rw [AppCache.insertAddrSession_addrSession] at session
    simp only [AppCache.lookup_insertAddrSession, AppCache.lookup_insertIpSession]
    by_cases same : key' = key
    · obtain ⟨entry, found, -⟩ := held
      exact ⟨entry, by rw [same]; exact found⟩
    · rw [other key' same]
      by_cases sameAddr : addr' = addr
      · rw [sameAddr, Function.update_same, Option.some.injEq] at session
        exact absurd session.symm same
      · rw [Function.update_noteq sameAddr, AppCache.insertIpSession_addrSession, addrSession]
          at session
        exact consistent.addrSession addr' key' session

/-- Every call keeps the sessions consistent. -/
theorem AppCache.Consistent.handle {cache : AppCache} (consistent : cache.Consistent)
    (handler : ServerPacketHandler) (codec : Codec) (packet : NetPacket) (addr : SocketAddr)
    (tcpSender : Option TcpSender) (now : Nat) :
    (handler.handle codec cache packet addr tcpSender now).cache.Consistent := by
  rcases handler.handle_cache_cases codec cache packet addr tcpSender now with
    written | ⟨-, _, written⟩ | ⟨request, _, refused, written⟩ |
      ⟨request, _, committed, written⟩ | ⟨context, status, found, written⟩ <;>
    rw [written]
  · exact consistent
  · exact consistent.of_sameEntries rfl rfl fun _ => rfl
  · exact consistent.of_sameEntries (handler.registerLocked_ipSession cache request addr tcpSender)
      (handler.registerLocked_addrSession_cipherSession cache request addr tcpSender).1
      fun key => by rw [handler.registerLocked_lookup_of_error cache request addr tcpSender refused]
  · obtain ⟨held, other⟩ :=
      handler.registerLocked_lookup_of_commit cache request addr tcpSender committed
    exact consistent.commit (handler.registerLocked_ipSession cache request addr tcpSender)
      (handler.registerLocked_addrSession_cipherSession cache request addr tcpSender).1 held other
  · exact consistent.of_sameEntries rfl rfl
      (AppCache.lookup_upClientStatusInfo (AppCache.getContext_eq_some.1 found).2 status now)

theorem AppCache.Consistent.run {cache : AppCache} (consistent : cache.Consistent)
    (handler : ServerPacketHandler) (codec : Codec) (inbounds : List Inbound) :
    (handler.run codec cache inbounds).Consistent := by
  induction inbounds generalizing cache with
  | nil => exact consistent
  | cons inbound rest inductionHypothesis => exact inductionHypothesis (consistent.handle ..)

/-- In every state of every run from the empty caches in which calls are handled one at a time
and nothing expires, the sessions agree with the directories. The ip sessions are exactly the
addresses of the entries: a key has an ip session when it holds an entry, and the session names
the entry's address. An address session names a group whose directory holds an entry at its
virtual ip, keyed by that virtual ip, so the address has that context. And an address has a
context exactly when it has an address session: past the gate, `handle` answers `Disconnect`
only to an address that has never registered. Under calls handled at the same time the ip
sessions can disagree with the entries (`sessions_disagree_reordered`); that every session
names an entry holds under every interleaving (`sessions_anchored`). -/
theorem run_sessions_consistent (handler : ServerPacketHandler) (codec : Codec)
    (inbounds : List Inbound) :
    let cache := handler.run codec AppCache.empty inbounds
    (∀ key, cache.ipSession key = (cache.lookup key).map ClientInfo.address) ∧
    (∀ addr group virtualIp, cache.addrSession addr = some (group, virtualIp) →
      ∃ info entry, cache.getContext addr = some ⟨group, info, virtualIp⟩ ∧
        info.clients.lookup virtualIp = some entry ∧ entry.virtualIp = virtualIp) ∧
    ∀ addr, cache.getContext addr = none ↔ cache.addrSession addr = none := by
  intro cache
  have consistent : cache.Consistent := AppCache.consistent_empty.run handler codec inbounds
  have reachable : cache.Reachable handler.config :=
    handler.run_reachable codec (AppCache.reachable_empty handler.config) inbounds
  have context : ∀ addr group virtualIp, cache.addrSession addr = some (group, virtualIp) →
      ∃ info entry, cache.getContext addr = some ⟨group, info, virtualIp⟩ ∧
        info.clients.lookup virtualIp = some entry ∧ entry.virtualIp = virtualIp := by
    intro addr group virtualIp session
    obtain ⟨entry, held⟩ := consistent.addrSession addr _ session
    obtain ⟨info, current, found⟩ := Option.bind_eq_some.1 held
    exact ⟨info, entry, AppCache.getContext_eq_some.2 ⟨session, current⟩, found,
      (reachable _ _ current).wellFormed.keyed _ _ found⟩
  refine ⟨consistent.ipSession, context, fun addr => ⟨fun absent => ?_, fun absent => ?_⟩⟩
  · rcases session : cache.addrSession addr with _ | ⟨group, virtualIp⟩
    · rfl
    · obtain ⟨_, _, found, -⟩ := context addr group virtualIp session
      rw [found] at absent
      cases absent
  · simp only [AppCache.getContext, absent]

/-! ### A call is a run of the concurrent model -/

/-- Each call of `handle` is a schedule of `Vnts.Concurrent`. A call that leaves the state as it
was or handles a registration is, on the state, a run of the concurrent model in which every
step keeps it ordered, from nothing in flight to nothing in flight: a refused registration is
its `refuse` step, a committed one its `commit` step followed at once by its two inserts. Any
other call, a secret handshake or a status report, writes no ip or address session and no
entry but its `client_status`. -/
theorem handle_refines_system (handler : ServerPacketHandler) (codec : Codec) (cache : AppCache)
    (packet : NetPacket) (addr : SocketAddr) (tcpSender : Option TcpSender) (now : Nat) :
    let after := (handler.handle codec cache packet addr tcpSender now).cache
    Relation.ReflTransGen
        (fun system system' => System.Step handler system system' ∧ system'.Ordered)
        ⟨cache, []⟩ ⟨after, []⟩ ∨
      (after.ipSession = cache.ipSession ∧ after.addrSession = cache.addrSession ∧
        ∀ key, (after.lookup key).map ClientInfo.withoutStatus =
          (cache.lookup key).map ClientInfo.withoutStatus) := by
  rcases handler.handle_cache_cases codec cache packet addr tcpSender now with
    written | ⟨-, _, written⟩ | ⟨request, e, refused, written⟩ |
      ⟨request, virtualIp, committed, written⟩ | ⟨context, status, found, written⟩ <;>
    rw [written]
  · exact .inl .refl
  · exact .inr ⟨rfl, rfl, fun _ => rfl⟩
  · exact .inl (.single ⟨.refuse request addr tcpSender e refused, List.nodup_nil⟩)
  · let pending : Pending := ⟨request.token, virtualIp, addr, false⟩
    refine .inl (.tail (.tail (.single ⟨.commit request addr tcpSender virtualIp committed, ?_⟩)
      ⟨.insertIpSession [] [] pending rfl rfl, ?_⟩)
      ⟨.insertAddrSession [] [] { pending with ipInserted := true } rfl rfl, List.nodup_nil⟩) <;>
      simp [System.Ordered]
  · exact .inr ⟨rfl, rfl,
      AppCache.lookup_upClientStatusInfo (AppCache.getContext_eq_some.1 found).2 status now⟩

end Vnts
