import Vnts.Frame

/-
This file proves that groups are isolated from each other. A packet acts on one group: the
token of the registration request it carries, or else the group of its source address's
session. Handled in two states that agree on that group's directory and on the address's
two sessions, it gets the same reply, the same broadcast copies and the same new directory
for the group; in each state every other group stays as it was, and every copy goes to a
client of the group.

Each sub-handler gets a congruence lemma (what it returns depends only on the part of the
state it reads) and a frame lemma (what it writes); `dispatch_isolated` assembles them past
the gate, and `handle_group_isolation` before it.
-/

namespace Vnts

/-! ### Isolation of two calls -/

/-- The group `dispatch` acts on for a packet past the gate: the token of a registration
request, and otherwise the group of the address session of `addr`. -/
def dispatchGroup (codec : Codec) (cache : AppCache) (packet : NetPacket) (addr : SocketAddr) :
    Option String :=
  if packet.protocol = .service .registrationRequest then
    (codec.parseRegistrationRequest packet.payload).toOption.map (·.token)
  else (cache.addrSession addr).map Prod.fst

/-- The group a packet from `addr` acts on, read past the gate as `dispatch` reads it. -/
def packetGroup (codec : Codec) (cache : AppCache) (packet : NetPacket) (addr : SocketAddr) :
    Option String :=
  match decryptGate codec cache packet addr with
  | .ok decrypted => dispatchGroup codec cache decrypted addr
  | .error _ => (cache.addrSession addr).map Prod.fst

/-- Two calls on two states are isolated to `target` when they return the same result and
copies, leave `target` the same directory, leave every other group as each state had it,
and send copies only to clients of `target`. -/
structure Isolated (target : Option String) (cache₁ cache₂ : AppCache)
    (handled₁ handled₂ : Handled) : Prop where
  sameResult : handled₁.result = handled₂.result
  sameSends : handled₁.sends = handled₂.sends
  sameTarget : ∀ group, target = some group →
    handled₁.cache.virtualNetwork group = handled₂.cache.virtualNetwork group
  othersUntouched : ∀ group, target ≠ some group →
    handled₁.cache.virtualNetwork group = cache₁.virtualNetwork group ∧
      handled₂.cache.virtualNetwork group = cache₂.virtualNetwork group
  sendsToTarget : ∀ send ∈ handled₁.sends, ∃ group info ip entry, target = some group ∧
    cache₁.virtualNetwork group = some info ∧ info.clients.lookup ip = some entry ∧
    send.Reaches entry

/-- Two calls that write nothing and send nothing, with the same result, are isolated to
any group the two states agree on. -/
theorem Isolated.of_untouched {target : Option String} {cache₁ cache₂ : AppCache}
    (result : Except Error (Option NetPacket))
    (sameGroup : ∀ group, target = some group →
      cache₁.virtualNetwork group = cache₂.virtualNetwork group) :
    Isolated target cache₁ cache₂ ⟨result, cache₁, []⟩ ⟨result, cache₂, []⟩ where
  sameResult := rfl
  sameSends := rfl
  sameTarget := sameGroup
  othersUntouched _ _ := ⟨rfl, rfl⟩
  sendsToTarget _ sent := nomatch sent

/-! ### Congruence and frame of the sub-handlers -/

theorem decryptGate_congr (codec : Codec) {cache₁ cache₂ : AppCache} (packet : NetPacket)
    {addr : SocketAddr} (sameCipherSession : cache₁.cipherSession addr = cache₂.cipherSession addr) :
    decryptGate codec cache₁ packet addr = decryptGate codec cache₂ packet addr := by
  simp only [decryptGate, sameCipherSession]

section Congr

variable (handler : ServerPacketHandler) (codec : Codec) {cache₁ cache₂ : AppCache}
  (packet : NetPacket) (addr : SocketAddr) (tcpSender : Option TcpSender) (now : Nat)

/-- The locked section reads the state only at the request's group. -/
theorem ServerPacketHandler.registerLocked_congr (request : RegistrationRequest)
    (sameGroup : cache₁.virtualNetwork request.token = cache₂.virtualNetwork request.token) :
    (handler.registerLocked cache₁ request addr tcpSender).1 =
        (handler.registerLocked cache₂ request addr tcpSender).1 ∧
      (handler.registerLocked cache₁ request addr tcpSender).2.virtualNetwork request.token =
        (handler.registerLocked cache₂ request addr tcpSender).2.virtualNetwork request.token := by
  unfold ServerPacketHandler.registerLocked
  simp only [AppCache.optionallyGetWith_eq, sameGroup]
  split <;> (repeat' split) <;> simp [sameGroup]

/-- A registration reads the state only at its request's group. -/
theorem ServerPacketHandler.register_congr
    (sameGroup : ∀ request, codec.parseRegistrationRequest packet.payload = .ok request →
      cache₁.virtualNetwork request.token = cache₂.virtualNetwork request.token) :
    (handler.register codec cache₁ packet addr tcpSender).1 =
        (handler.register codec cache₂ packet addr tcpSender).1 ∧
      ∀ request, codec.parseRegistrationRequest packet.payload = .ok request →
        (handler.register codec cache₁ packet addr tcpSender).2.virtualNetwork request.token =
          (handler.register codec cache₂ packet addr tcpSender).2.virtualNetwork request.token := by
  unfold ServerPacketHandler.register
  split
  · rename_i parseFailed
    exact ⟨rfl, fun _ parsed => nomatch parseFailed.symm.trans parsed⟩
  rename_i request parsed
  obtain ⟨sameResult, sameWritten⟩ :=
    handler.registerLocked_congr addr tcpSender request (sameGroup request parsed)
  generalize handler.registerLocked cache₁ request addr tcpSender = locked₁ at sameResult sameWritten ⊢
  generalize handler.registerLocked cache₂ request addr tcpSender = locked₂ at sameResult sameWritten ⊢
  rcases locked₁ with ⟨result, written₁⟩
  rcases locked₂ with ⟨result₂, written₂⟩
  dsimp only at sameResult sameWritten
  subst sameResult
  refine ⟨?_, fun request' parsed' => ?_⟩
  · rcases result with _ | ⟨virtualIp, info⟩
    · rfl
    · dsimp only
      split <;> rfl
  · cases parsed.symm.trans parsed'
    rcases result with _ | ⟨virtualIp, info⟩
    · exact sameWritten
    · dsimp only
      split <;> simpa using sameWritten

/-- A secret handshake's reply does not read the state. -/
theorem ServerPacketHandler.secretHandshake_congr :
    (handler.secretHandshake codec cache₁ packet addr).1 =
      (handler.secretHandshake codec cache₂ packet addr).1 := by
  unfold ServerPacketHandler.secretHandshake
  split <;> (repeat' split) <;> rfl

/-- A registration writes no group but its request's. -/
theorem ServerPacketHandler.register_other (cache : AppCache) (group : String)
    (other : ∀ request, codec.parseRegistrationRequest packet.payload = .ok request →
      request.token ≠ group) :
    (handler.register codec cache packet addr tcpSender).2.virtualNetwork group =
      cache.virtualNetwork group := by
  rcases handler.register_cases codec cache packet addr tcpSender with
    untouched | ⟨request, parsed, -, -, ⟨_, -, -, refused⟩ | ⟨_, _, -, -, committed⟩⟩
  · rw [untouched]
  · rw [refused]; simp [Ne.symm (other request parsed)]
  · rw [committed]; simp [Ne.symm (other request parsed)]

/-- Every copy a broadcast sends goes to a client of the context's group. -/
theorem broadcast_reaches (context : Context) (inner : NetPacket) (exclude : List (BitVec 32)) :
    ∀ send ∈ broadcast context inner exclude, ∃ ip entry,
      context.networkInfo.clients.lookup ip = some entry ∧ send.Reaches entry := by
  intro send sent
  obtain ⟨⟨ip, entry⟩, member, chosen⟩ := List.mem_filterMap.1 sent
  refine ⟨ip, entry, mem_entries_iff.1 member, ?_⟩
  dsimp only at chosen
  split_ifs at chosen
  cases chosen
  split <;> rename_i sender <;> simp [Send.Reaches, sender]

/-- The requests that need a context read the state only through the context, and write
only the context's group. -/
theorem handleContext_congr (context : Context)
    (sameGroup : cache₁.virtualNetwork context.group = cache₂.virtualNetwork context.group) :
    (handleContext codec cache₁ packet context now).result =
        (handleContext codec cache₂ packet context now).result ∧
      (handleContext codec cache₁ packet context now).sends =
        (handleContext codec cache₂ packet context now).sends ∧
      (handleContext codec cache₁ packet context now).cache.virtualNetwork context.group =
        (handleContext codec cache₂ packet context now).cache.virtualNetwork context.group := by
  unfold handleContext
  split <;> (repeat' split) <;> simp [sameGroup, AppCache.upClientStatusInfo]

theorem handleContext_other (cache : AppCache) (context : Context) (group : String)
    (other : context.group ≠ group) :
    (handleContext codec cache packet context now).cache.virtualNetwork group =
      cache.virtualNetwork group := by
  rcases handleContext_cases codec cache packet now context with untouched | ⟨_, -, -, handled⟩
  · rw [untouched]
  · rw [handled]; simp [AppCache.upClientStatusInfo, Ne.symm other]

theorem handleContext_sends (cache : AppCache) (context : Context) :
    ∀ send ∈ (handleContext codec cache packet context now).sends, ∃ ip entry,
      context.networkInfo.clients.lookup ip = some entry ∧ send.Reaches entry := by
  unfold handleContext
  split <;> (repeat' split) <;> first
    | exact fun _ sent => (List.not_mem_nil _ sent).elim
    | exact broadcast_reaches context _ _

/-- Past the gate, two calls on states that agree on the address session of `addr` and on
the group the packet acts on are isolated to that group. -/
theorem ServerPacketHandler.dispatch_isolated
    (sameAddrSession : cache₁.addrSession addr = cache₂.addrSession addr)
    (sameGroup : ∀ group, dispatchGroup codec cache₁ packet addr = some group →
      cache₁.virtualNetwork group = cache₂.virtualNetwork group) :
    Isolated (dispatchGroup codec cache₁ packet addr) cache₁ cache₂
      (handler.dispatch codec cache₁ packet addr tcpSender now)
      (handler.dispatch codec cache₂ packet addr tcpSender now) := by
  by_cases registration : packet.protocol = .service .registrationRequest
  · have target : dispatchGroup codec cache₁ packet addr =
        (codec.parseRegistrationRequest packet.payload).toOption.map (·.token) := by
      simp only [dispatchGroup, registration, if_true]
    rw [target] at sameGroup ⊢
    have sameRequest : ∀ request, codec.parseRegistrationRequest packet.payload = .ok request →
        cache₁.virtualNetwork request.token = cache₂.virtualNetwork request.token :=
      fun request parsed => sameGroup _ (by rw [parsed]; rfl)
    obtain ⟨sameResult, sameWritten⟩ := handler.register_congr codec packet addr tcpSender sameRequest
    simp only [ServerPacketHandler.dispatch,
      handler.notContext_of_registration _ _ _ _ _ registration]
    refine ⟨sameResult, rfl, fun group targeted => ?_, fun group other => ?_,
      fun _ sent => (List.not_mem_nil _ sent).elim⟩
    · rcases parsed : codec.parseRegistrationRequest packet.payload with _ | request <;>
        rw [parsed] at targeted <;> cases targeted
      exact sameWritten request parsed
    · have notToken : ∀ request, codec.parseRegistrationRequest packet.payload = .ok request →
          request.token ≠ group := fun request parsed same => other (by rw [parsed, ← same]; rfl)
      exact ⟨handler.register_other codec packet addr tcpSender _ group notToken,
        handler.register_other codec packet addr tcpSender _ group notToken⟩
  have target : dispatchGroup codec cache₁ packet addr = (cache₁.addrSession addr).map Prod.fst := by
    simp only [dispatchGroup, registration, if_false]
  rw [target] at sameGroup ⊢
  by_cases addrRequest : packet.protocol = .control .addrRequest
  · simp only [ServerPacketHandler.dispatch,
      handler.notContext_of_addrRequest _ _ _ _ _ addrRequest]
    exact .of_untouched _ sameGroup
  simp only [ServerPacketHandler.dispatch,
    handler.notContext_eq_none _ _ _ _ _ registration addrRequest,
    AppCache.getContext_congr sameAddrSession sameGroup]
  rcases found : cache₂.getContext addr with _ | context
  · exact .of_untouched _ sameGroup
  have ⟨session, current⟩ := AppCache.getContext_eq_some.1
    ((AppCache.getContext_congr sameAddrSession sameGroup).trans found)
  have targeted : (cache₁.addrSession addr).map Prod.fst = some context.group := by
    rw [session]; rfl
  obtain ⟨sameResult, sameSends, sameWritten⟩ :=
    handleContext_congr codec packet now context (sameGroup _ targeted)
  refine ⟨sameResult, sameSends, fun group chosen => ?_, fun group other => ?_, fun send sent => ?_⟩
  · rw [targeted] at chosen
    cases chosen
    exact sameWritten
  · have other : context.group ≠ group := fun same => other (by rw [targeted, same])
    exact ⟨handleContext_other codec packet now _ _ _ other,
      handleContext_other codec packet now _ _ _ other⟩
  · obtain ⟨ip, entry, held, reaches⟩ := handleContext_sends codec packet now _ context send sent
    exact ⟨context.group, context.networkInfo, ip, entry, targeted, current, held, reaches⟩

end Congr

/-! ### Group isolation -/

/-- Groups are isolated. Two states that agree on the directory of the group a packet from
`addr` acts on, and on the address and cipher sessions of `addr`, handle the packet with
the same reply, the same broadcast copies and the same new directory for that group; each
leaves every other group as it was, and every copy goes to a client of that group. -/
theorem handle_group_isolation (handler : ServerPacketHandler) (codec : Codec)
    {cache₁ cache₂ : AppCache} (packet : NetPacket) (addr : SocketAddr)
    (tcpSender : Option TcpSender) (now : Nat)
    (sameGroup : ∀ group, packetGroup codec cache₁ packet addr = some group →
      cache₁.virtualNetwork group = cache₂.virtualNetwork group)
    (sameAddrSession : cache₁.addrSession addr = cache₂.addrSession addr)
    (sameCipherSession : cache₁.cipherSession addr = cache₂.cipherSession addr) :
    Isolated (packetGroup codec cache₁ packet addr) cache₁ cache₂
      (handler.handle codec cache₁ packet addr tcpSender now)
      (handler.handle codec cache₂ packet addr tcpSender now) := by
  by_cases handshake : packet.protocol = .service .handshakeRequest
  · simp only [ServerPacketHandler.handle, handshake]
    exact .of_untouched _ sameGroup
  by_cases secretHandshake : packet.protocol = .service .secretHandshakeRequest
  · have written : ∀ cache, (handler.handle codec cache packet addr tcpSender now).cache.virtualNetwork =
        cache.virtualNetwork := fun cache => by
      simp only [ServerPacketHandler.handle, secretHandshake]
      rcases handler.secretHandshake_cases codec cache packet addr with untouched | ⟨_, written⟩
      · rw [untouched]
      · rw [written]; rfl
    have sends : ∀ cache, (handler.handle codec cache packet addr tcpSender now).sends = [] :=
      fun cache => by simp only [ServerPacketHandler.handle, secretHandshake]
    refine ⟨?_, by rw [sends, sends], fun group targeted => ?_, fun group _ => ?_,
      fun _ sent => (List.not_mem_nil _ (sends cache₁ ▸ sent)).elim⟩
    · simp only [ServerPacketHandler.handle, secretHandshake]
      exact handler.secretHandshake_congr codec packet addr
    · rw [written, written]; exact sameGroup group targeted
    · rw [written, written]; exact ⟨rfl, rfl⟩
  rw [handler.handle_of_gate _ _ _ _ _ _ handshake secretHandshake,
    handler.handle_of_gate _ _ _ _ _ _ handshake secretHandshake,
    ← decryptGate_congr codec packet sameCipherSession]
  rcases gate : decryptGate codec cache₁ packet addr with e | decrypted
  · simp only [packetGroup, gate] at sameGroup ⊢
    exact .of_untouched _ sameGroup
  simp only [packetGroup, gate] at sameGroup ⊢
  exact handler.dispatch_isolated codec decrypted addr tcpSender now sameAddrSession sameGroup

theorem handle_group_isolation_registration :
    let handler : ServerPacketHandler :=
      ⟨⟨0x0A000001, 0xFFFFFF00, 0x0A0000FF, none⟩, none, "1.2.16"⟩
    let request : RegistrationRequest := ⟨"T", "A", "A", 0, false, false⟩
    let codec : Codec := { (default : Codec) with parseRegistrationRequest := fun _ => .ok request }
    let cache := AppCache.empty.setNetwork "U" handler.config.newNetwork
    let packet := NetPacket.reply (.service .registrationRequest) []
    let addr : SocketAddr := ⟨.v4 0xCB007105, 4000⟩
    (∀ group, packetGroup codec AppCache.empty packet addr = some group →
      AppCache.empty.virtualNetwork group = cache.virtualNetwork group) ∧
    AppCache.empty.addrSession addr = cache.addrSession addr ∧
    AppCache.empty.cipherSession addr = cache.cipherSession addr ∧
    Isolated (packetGroup codec AppCache.empty packet addr) AppCache.empty cache
      (handler.handle codec AppCache.empty packet addr none 0)
      (handler.handle codec cache packet addr none 0) := by
  intro handler request codec cache packet addr
  have sameGroup : ∀ group, packetGroup codec AppCache.empty packet addr = some group →
      AppCache.empty.virtualNetwork group = cache.virtualNetwork group := by
    intro group targeted
    cases targeted
    rfl
  exact ⟨sameGroup, rfl, rfl, handle_group_isolation handler codec packet addr none 0 sameGroup rfl rfl⟩

end Vnts
