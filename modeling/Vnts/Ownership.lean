import Vnts.Sessions

/-
This file says, over whole runs, which call of the run each part of the state belongs to.

A cipher session belongs to a secret handshake: in every state of a run from the empty
caches, the session cipher of an address is the one that the last secret handshake from
that address to install a cipher installed, the client's key under the finger of its token.
An address with no such handshake has no cipher, so its encrypted packets are refused with
`NoKey`.

A context belongs to a registration: the group of the context of an address is the group of
the last registration from that address that committed. An address that never registered
has no context.

And a virtual ip belongs to the first device given it. Once a group's directory holds an
entry at a virtual ip, every later state holds one there for the same device id: no
registration, whatever it asks for, takes an address from the device that holds it.

Each result is the last-writer case analysis of one map: the state's value is the start
state's, untouched by the run, or the value the run's last write to it put there.
-/

namespace Vnts

/-! ### Cipher sessions -/

/-- Lines 420-430: the session cipher a secret handshake installs, if it installs one: the
32-byte key of the request the server's RSA key decrypts, under the finger of its token. It
does not depend on the state. -/
def ServerPacketHandler.handshakeCipher (handler : ServerPacketHandler) (codec : Codec)
    (packet : NetPacket) : Option Aes256GcmCipher :=
  match handler.rsaCipher with
  | none => none
  | some rsaCipher =>
    match rsaCipher.decrypt packet >>= codec.parseSecretHandshakeRequest with
    | .error _ => none
    | .ok request =>
      if keyLength : request.key.length = 32 then some ⟨request.key, keyLength, ⟨request.token⟩⟩
      else none

/-- No secret handshake from `addr` among `inbounds` installs a cipher. -/
def ServerPacketHandler.NoHandshakeFrom (handler : ServerPacketHandler) (codec : Codec)
    (addr : SocketAddr) (inbounds : List Inbound) : Prop :=
  ∀ inbound ∈ inbounds, inbound.addr = addr →
    inbound.packet.protocol = .service .secretHandshakeRequest →
      handler.handshakeCipher codec inbound.packet = none

section Call

variable (handler : ServerPacketHandler) (codec : Codec) (cache : AppCache) (packet : NetPacket)
  (addr : SocketAddr) (tcpSender : Option TcpSender) (now : Nat)

theorem ServerPacketHandler.secretHandshake_snd :
    (handler.secretHandshake codec cache packet addr).2 =
      match handler.handshakeCipher codec packet with
      | some cipher => cache.insertCipherSession addr cipher
      | none => cache := by
  unfold ServerPacketHandler.secretHandshake ServerPacketHandler.handshakeCipher
  cases handler.rsaCipher with
  | none => rfl
  | some rsaCipher =>
    dsimp only
    cases rsaCipher.decrypt packet >>= codec.parseSecretHandshakeRequest with
    | error => rfl
    | ok request => dsimp only; split_ifs <;> rfl

/-- A call sets the cipher session of its own address only, to the cipher its secret
handshake installs, if it installs one. -/
theorem ServerPacketHandler.handle_cipherSession (addr' : SocketAddr) :
    (handler.handle codec cache packet addr tcpSender now).cache.cipherSession addr' =
      if packet.protocol = .service .secretHandshakeRequest ∧ addr' = addr then
        (handler.handshakeCipher codec packet).or (cache.cipherSession addr')
      else cache.cipherSession addr' := by
  split_ifs with handshake
  · obtain ⟨secretHandshake, rfl⟩ := handshake
    simp only [ServerPacketHandler.handle, secretHandshake, handler.secretHandshake_snd]
    cases handler.handshakeCipher codec packet with
    | none => rfl
    | some cipher => simp
  · exact (handler.handle_sessions_of_ne codec cache packet addr tcpSender now addr').2
      (not_and_or.1 handshake).symm

end Call

/-- The cipher session of an address after a run is the start state's, with no secret
handshake from the address installing a cipher, or the cipher the last one installed. -/
theorem ServerPacketHandler.run_cipherSession_eq_some (handler : ServerPacketHandler)
    (codec : Codec) {cache : AppCache} {inbounds : List Inbound} {addr : SocketAddr}
    {cipher : Aes256GcmCipher}
    (found : (handler.run codec cache inbounds).cipherSession addr = some cipher) :
    (cache.cipherSession addr = some cipher ∧ handler.NoHandshakeFrom codec addr inbounds) ∨
    ∃ pre inbound post, inbounds = pre ++ inbound :: post ∧ inbound.addr = addr ∧
      inbound.packet.protocol = .service .secretHandshakeRequest ∧
      handler.handshakeCipher codec inbound.packet = some cipher ∧
      handler.NoHandshakeFrom codec addr post := by
  induction inbounds generalizing cache with
  | nil => exact .inl ⟨found, fun _ member => nomatch member⟩
  | cons inbound rest inductionHypothesis =>
    rw [ServerPacketHandler.run] at found
    rcases inductionHypothesis found with ⟨held, quiet⟩ |
      ⟨pre, inbound', post, rfl, from', handshake, installed, quiet⟩
    · rw [ServerPacketHandler.step, handler.handle_cipherSession] at held
      split_ifs at held with handshake
      · obtain ⟨secretHandshake, same⟩ := handshake
        cases installs : handler.handshakeCipher codec inbound.packet with
        | none =>
          rw [installs, Option.none_or] at held
          exact .inl ⟨held, List.forall_mem_cons.2 ⟨fun _ _ => installs, quiet⟩⟩
        | some cipher' =>
          rw [installs, Option.or_some] at held
          exact .inr ⟨[], inbound, rest, rfl, same.symm, secretHandshake, held ▸ installs, quiet⟩
      · exact .inl ⟨held, List.forall_mem_cons.2
          ⟨fun from' secretHandshake => absurd ⟨secretHandshake, from'.symm⟩ handshake, quiet⟩⟩
    · exact .inr ⟨inbound :: pre, inbound', post, rfl, from', handshake, installed, quiet⟩

/-- A session cipher is always the one a client sent. In every state of every run from the
empty caches in which nothing expires, the cipher session of an address is the cipher that the
last secret handshake from that address to install one installed; no later secret handshake
from it installs one. So an address with no such handshake has no cipher session. -/
theorem cipher_of_last_handshake (handler : ServerPacketHandler) (codec : Codec)
    (inbounds : List Inbound) (addr : SocketAddr) (cipher : Aes256GcmCipher)
    (found : (handler.run codec AppCache.empty inbounds).cipherSession addr = some cipher) :
    ∃ pre inbound post, inbounds = pre ++ inbound :: post ∧ inbound.addr = addr ∧
      inbound.packet.protocol = .service .secretHandshakeRequest ∧
      handler.handshakeCipher codec inbound.packet = some cipher ∧
      handler.NoHandshakeFrom codec addr post := by
  rcases handler.run_cipherSession_eq_some codec found with ⟨absent, -⟩ | last
  · cases absent
  · exact last

theorem cipher_of_last_handshake_first :
    let handler : ServerPacketHandler :=
      ⟨⟨0x0A000001, 0xFFFFFF00, 0x0A0000FF, none⟩, some ⟨[], "F", fun _ => .ok []⟩, "1.2.16"⟩
    let codec : Codec := { (default : Codec) with
      parseSecretHandshakeRequest := fun _ => .ok ⟨List.replicate 32 7, "T"⟩ }
    let inbounds : List Inbound :=
      [⟨.reply (.service .secretHandshakeRequest) [], ⟨.v4 0xCB007105, 4000⟩, none, 0⟩]
    ∃ cipher, (handler.run codec AppCache.empty inbounds).cipherSession ⟨.v4 0xCB007105, 4000⟩ =
        some cipher ∧
      ∃ pre inbound post, inbounds = pre ++ inbound :: post ∧
        inbound.addr = ⟨.v4 0xCB007105, 4000⟩ ∧
        inbound.packet.protocol = .service .secretHandshakeRequest ∧
        handler.handshakeCipher codec inbound.packet = some cipher ∧
        handler.NoHandshakeFrom codec ⟨.v4 0xCB007105, 4000⟩ post :=
  ⟨_, rfl, cipher_of_last_handshake _ _ _ _ _ rfl⟩

/-! ### Contexts -/

/-- No call of `inbounds` from `addr`, handled one after another from `cache`, commits a
registration. -/
def ServerPacketHandler.NoRegistrationFrom (handler : ServerPacketHandler) (codec : Codec)
    (addr : SocketAddr) : AppCache → List Inbound → Prop
  | _, [] => True
  | cache, inbound :: rest =>
    (inbound.addr = addr →
      handler.registeredIn codec cache inbound.packet inbound.addr inbound.tcpSender = none) ∧
    handler.NoRegistrationFrom codec addr (handler.step codec cache inbound).cache rest

section Call

variable (handler : ServerPacketHandler) (codec : Codec) (cache : AppCache) (packet : NetPacket)
  (addr : SocketAddr) (tcpSender : Option TcpSender) (now : Nat)

/-- A call that commits no registration writes no address session. -/
theorem ServerPacketHandler.handle_addrSession_of_none
    (registered : handler.registeredIn codec cache packet addr tcpSender = none)
    (addr' : SocketAddr) :
    (handler.handle codec cache packet addr tcpSender now).cache.addrSession addr' =
      cache.addrSession addr' := by
  rcases handler.handle_cases codec cache packet addr tcpSender now with
    untouched | ⟨-, _, handled⟩ |
      ⟨decrypted, handshake, secretHandshake, gate, registration, handled⟩ |
      ⟨_, _, _, -, -, -, -, handled⟩
  · rw [untouched]
  · rw [handled]; rfl
  · rw [handled]
    rcases handler.register_cases codec cache decrypted addr tcpSender with
      untouched | ⟨request, parsed, -, -, ⟨_, -, -, refused⟩ | ⟨_, _, -, committed, -⟩⟩
    · exact congrArg (AppCache.addrSession · addr') untouched
    · rw [refused]; rfl
    · rw [handler.registeredIn_of_route codec cache packet addr tcpSender handshake secretHandshake
        gate registration parsed, committed] at registered
      cases registered
  · rw [handled]; rfl

/-- A call that commits a registration into `group` gives its address an address session in
`group`. -/
theorem ServerPacketHandler.handle_addrSession_of_some {group : String}
    (registered : handler.registeredIn codec cache packet addr tcpSender = some group) :
    ∃ virtualIp, (handler.handle codec cache packet addr tcpSender now).cache.addrSession addr =
      some (group, virtualIp) := by
  obtain ⟨decrypted, request, handshake, secretHandshake, gate, registration, parsed, rfl, _, _,
    committed⟩ := handler.registeredIn_eq_some codec cache packet addr tcpSender _ registered
  rcases handler.registerLocked_cases cache request addr tcpSender with
    ⟨_, -, locked⟩ | ⟨-, -, locked⟩ | ⟨-, -, _, -, locked⟩ | ⟨-, -, _, _, -, locked⟩ <;>
    rw [locked] at committed <;> cases committed
  rw [handler.handle_of_gate _ _ _ _ _ _ handshake secretHandshake, gate]
  simp [ServerPacketHandler.dispatch, handler.notContext_of_registration _ _ _ _ _ registration,
    handler.register_snd, parsed, locked]

end Call

/-- The address session of an address after a run is the start state's, with no call from
the address committing a registration, or one in the group of the last call that did. -/
theorem ServerPacketHandler.run_addrSession_eq_some (handler : ServerPacketHandler)
    (codec : Codec) {cache : AppCache} {inbounds : List Inbound} {addr : SocketAddr}
    {key : String × BitVec 32}
    (found : (handler.run codec cache inbounds).addrSession addr = some key) :
    (cache.addrSession addr = some key ∧ handler.NoRegistrationFrom codec addr cache inbounds) ∨
    ∃ pre inbound post, inbounds = pre ++ inbound :: post ∧ inbound.addr = addr ∧
      handler.registeredIn codec (handler.run codec cache pre) inbound.packet addr
        inbound.tcpSender = some key.1 ∧
      handler.NoRegistrationFrom codec addr (handler.run codec cache (pre ++ [inbound])) post := by
  induction inbounds generalizing cache with
  | nil => exact .inl ⟨found, trivial⟩
  | cons inbound rest inductionHypothesis =>
    rw [ServerPacketHandler.run] at found
    rcases inductionHypothesis found with ⟨held, quiet⟩ |
      ⟨pre, inbound', post, rfl, from', registered, quiet⟩
    · rw [ServerPacketHandler.step] at held
      rcases registered :
          handler.registeredIn codec cache inbound.packet inbound.addr inbound.tcpSender with
        _ | group
      · rw [handler.handle_addrSession_of_none codec cache _ _ _ _ registered] at held
        exact .inl ⟨held, fun _ => registered, quiet⟩
      by_cases from' : inbound.addr = addr
      · subst from'
        obtain ⟨virtualIp, written⟩ :=
          handler.handle_addrSession_of_some codec cache _ _ _ inbound.now registered
        rw [written, Option.some.injEq] at held
        exact .inr ⟨[], inbound, rest, rfl, rfl, by rw [← held]; exact registered, quiet⟩
      · rw [(handler.handle_sessions_of_ne codec cache _ _ _ _ addr).1 (Ne.symm from')] at held
        exact .inl ⟨held, fun same => absurd same from', quiet⟩
    · exact .inr ⟨inbound :: pre, inbound', post, rfl, from', registered, quiet⟩

/-- A context is always given by a registration. In every state of every run from the empty
caches in which calls are handled one at a time and nothing expires, the context of an address
names the group of the last registration from that address that committed; no later call from
it commits one. So an address that never registered has no context, and a packet from it that
needs one gets `Disconnect`. When two registrations from one address are handled at the same
time, the context is the one whose address session insert ran last, which need not be the one
that committed last. -/
theorem context_of_last_registration (handler : ServerPacketHandler) (codec : Codec)
    (inbounds : List Inbound) (addr : SocketAddr) (context : Context)
    (found : (handler.run codec AppCache.empty inbounds).getContext addr = some context) :
    ∃ pre inbound post, inbounds = pre ++ inbound :: post ∧ inbound.addr = addr ∧
      handler.registeredIn codec (handler.run codec AppCache.empty pre) inbound.packet addr
        inbound.tcpSender = some context.group ∧
      handler.NoRegistrationFrom codec addr
        (handler.run codec AppCache.empty (pre ++ [inbound])) post := by
  rcases handler.run_addrSession_eq_some codec (AppCache.getContext_eq_some.1 found).1 with
    ⟨absent, -⟩ | last
  · cases absent
  · exact last

theorem context_of_last_registration_moved :
    let handler : ServerPacketHandler :=
      ⟨⟨0x0A000001, 0xFFFFFF00, 0x0A0000FF, none⟩, none, "1.2.16"⟩
    let codec : Codec := { (default : Codec) with
      parseRegistrationRequest := fun payload =>
        .ok ⟨if payload = [] then "T" else "U", "A", "A", 0, false, false⟩ }
    let inbounds : List Inbound :=
      [⟨.reply (.service .registrationRequest) [], ⟨.v4 0xCB007105, 4000⟩, none, 0⟩,
        ⟨.reply (.service .registrationRequest) [1], ⟨.v4 0xCB007105, 4000⟩, none, 1⟩]
    ∃ context, (handler.run codec AppCache.empty inbounds).getContext ⟨.v4 0xCB007105, 4000⟩ =
        some context ∧
      ∃ pre inbound post, inbounds = pre ++ inbound :: post ∧
        inbound.addr = ⟨.v4 0xCB007105, 4000⟩ ∧
        handler.registeredIn codec (handler.run codec AppCache.empty pre) inbound.packet
          ⟨.v4 0xCB007105, 4000⟩ inbound.tcpSender = some context.group ∧
        handler.NoRegistrationFrom codec ⟨.v4 0xCB007105, 4000⟩
          (handler.run codec AppCache.empty (pre ++ [inbound])) post :=
  ⟨_, rfl, context_of_last_registration _ _ _ _ _ rfl⟩

/-! ### Virtual ips -/

section Device

variable (handler : ServerPacketHandler) {cache : AppCache}
  (reachable : cache.Reachable handler.config) {key : String × BitVec 32} {entry : ClientInfo}
  (held : cache.lookup key = some entry)
include reachable held

/-- The locked section keeps every entry at its address, for its device. -/
theorem ServerPacketHandler.registerLocked_lookup_deviceId (request : RegistrationRequest)
    (addr : SocketAddr) (tcpSender : Option TcpSender) :
    ∃ entry', (handler.registerLocked cache request addr tcpSender).2.lookup key = some entry' ∧
      entry'.deviceId = entry.deviceId := by
  rcases handler.registerLocked_cases cache request addr tcpSender with
    ⟨_, -, locked⟩ | ⟨-, -, locked⟩ | ⟨-, -, _, -, locked⟩ | ⟨-, -, _, info', enrolled, locked⟩
  · rw [locked]; exact ⟨entry, held, rfl⟩
  · rw [locked]; exact ⟨entry, held, rfl⟩
  · refine ⟨entry, ?_, rfl⟩
    rw [handler.registerLocked_lookup_of_error cache request addr tcpSender (by rw [locked]), held]
  · rw [locked, AppCache.lookup_setNetwork]
    split_ifs with same
    · have before : ((cache.virtualNetwork request.token).getD handler.config.newNetwork).clients.lookup
          key.2 = some entry := by
        rw [← same, AppCache.lookup_getD handler cache key, held]
      have applied : ((cache.virtualNetwork request.token).getD handler.config.newNetwork).apply
          handler.config (.register request addr tcpSender) = info' := by
        simp only [NetworkInfo.apply, enrolled]
      rw [← applied]
      exact (reachable.getD request.token).wellFormed.apply_lookup before _
    · exact ⟨entry, held, rfl⟩

/-- A call keeps every entry at its address, for its device. -/
theorem ServerPacketHandler.handle_lookup_deviceId (codec : Codec) (packet : NetPacket)
    (addr : SocketAddr) (tcpSender : Option TcpSender) (now : Nat) :
    ∃ entry', (handler.handle codec cache packet addr tcpSender now).cache.lookup key = some entry' ∧
      entry'.deviceId = entry.deviceId := by
  rcases handler.handle_cache_cases codec cache packet addr tcpSender now with
    written | ⟨-, _, written⟩ | ⟨request, _, -, written⟩ | ⟨request, _, -, written⟩ |
      ⟨context, status, found, written⟩ <;>
    rw [written]
  · exact ⟨entry, held, rfl⟩
  · exact ⟨entry, held, rfl⟩
  · exact handler.registerLocked_lookup_deviceId reachable held request addr tcpSender
  · simp only [AppCache.lookup_insertAddrSession, AppCache.lookup_insertIpSession]
    exact handler.registerLocked_lookup_deviceId reachable held request addr tcpSender
  · have kept :=
      AppCache.lookup_upClientStatusInfo (AppCache.getContext_eq_some.1 found).2 status now key
    rw [held, Option.map_some'] at kept
    obtain ⟨entry', held', stripped⟩ := Option.map_eq_some'.1 kept
    exact ⟨entry', held', (congrArg ClientInfo.deviceId stripped :)⟩

end Device

theorem ServerPacketHandler.run_lookup_deviceId (handler : ServerPacketHandler) (codec : Codec)
    {cache : AppCache} (reachable : cache.Reachable handler.config) (inbounds : List Inbound)
    {key : String × BitVec 32} {entry : ClientInfo} (held : cache.lookup key = some entry) :
    ∃ entry', (handler.run codec cache inbounds).lookup key = some entry' ∧
      entry'.deviceId = entry.deviceId := by
  induction inbounds generalizing cache entry with
  | nil => exact ⟨entry, held, rfl⟩
  | cons inbound rest inductionHypothesis =>
    obtain ⟨entry', held', same⟩ := handler.handle_lookup_deviceId reachable held codec
      inbound.packet inbound.addr inbound.tcpSender inbound.now
    obtain ⟨entry'', held'', same'⟩ :=
      inductionHypothesis (handler.handle_reachable codec reachable _ _ _ _) held'
    exact ⟨entry'', held'', same'.trans same⟩

/-- A virtual ip never changes hands. Once a group's directory holds an entry at a virtual ip,
in a state of a run from the empty caches in which nothing expires, every later state of the
run holds an entry there for the same device id, whatever the registrations in between ask for.
-/
theorem virtual_ip_kept_by_device (handler : ServerPacketHandler) (codec : Codec)
    (pre post : List Inbound) {key : String × BitVec 32} {entry : ClientInfo}
    (held : (handler.run codec AppCache.empty pre).lookup key = some entry) :
    ∃ entry', (handler.run codec AppCache.empty (pre ++ post)).lookup key = some entry' ∧
      entry'.deviceId = entry.deviceId := by
  rw [handler.run_append]
  exact handler.run_lookup_deviceId codec
    (handler.run_reachable codec (AppCache.reachable_empty handler.config) pre) post held

theorem virtual_ip_kept_by_device_contested :
    let handler : ServerPacketHandler :=
      ⟨⟨0x0A000001, 0xFFFFFF00, 0x0A0000FF, none⟩, none, "1.2.16"⟩
    let codec : Codec := { (default : Codec) with
      parseRegistrationRequest := fun payload =>
        .ok (if payload = [] then ⟨"T", "A", "A", 0, false, false⟩
          else ⟨"T", "B", "B", 0x0A000002, false, true⟩) }
    let pre : List Inbound :=
      [⟨.reply (.service .registrationRequest) [], ⟨.v4 0xCB007105, 4000⟩, none, 0⟩]
    let post : List Inbound :=
      [⟨.reply (.service .registrationRequest) [1], ⟨.v4 0xC6336407, 5000⟩, none, 1⟩]
    ∃ entry, (handler.run codec AppCache.empty pre).lookup ("T", 0x0A000002) = some entry ∧
      ∃ entry', (handler.run codec AppCache.empty (pre ++ post)).lookup ("T", 0x0A000002) =
        some entry' ∧ entry'.deviceId = entry.deviceId :=
  ⟨_, rfl, virtual_ip_kept_by_device _ _ _ _ rfl⟩

end Vnts
