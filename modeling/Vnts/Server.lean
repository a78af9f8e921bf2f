import Mathlib.Algebra.Group.Nat.Basic
import Vnts.Frame
import Vnts.Invariant

/-
This file follows the server over whole runs: one call of `handle` after another, each on
the state the last one left, in any order the packets of any clients arrive in.

Two results tie the runs to the groups. Every directory a run holds is one that its group
reaches from `NetworkInfo::new` by the operations of `Vnts.Invariant`, so the directory
invariants proved there hold of every group of every run. And a group's epoch counts the
registrations committed into it: it goes up by one exactly at such a registration, and
every other call leaves it and the group's roster, statuses apart, as they were.
-/

namespace Vnts

/-! ### Runs -/

/-- A packet as the server receives it: the envelope, its source address, the TCP
connection it came on (`none` over UDP), and the time `Local::now()` reads while it is
handled. -/
structure Inbound where
  packet : NetPacket
  addr : SocketAddr
  tcpSender : Option TcpSender
  now : Nat

/-- One call of `handle` on an inbound packet. -/
def ServerPacketHandler.step (handler : ServerPacketHandler) (codec : Codec) (cache : AppCache)
    (inbound : Inbound) : Handled :=
  handler.handle codec cache inbound.packet inbound.addr inbound.tcpSender inbound.now

/-- The state after handling packets one after another: each call, its session inserts
included, ends before the next begins, and no cache entry expires on the way. The interleavings
of calls handled at the same time are those of `Vnts.Concurrent`. -/
def ServerPacketHandler.run (handler : ServerPacketHandler) (codec : Codec) :
    AppCache → List Inbound → AppCache
  | cache, [] => cache
  | cache, inbound :: rest => handler.run codec (handler.step codec cache inbound).cache rest

theorem ServerPacketHandler.run_append (handler : ServerPacketHandler) (codec : Codec)
    (cache : AppCache) (pre post : List Inbound) :
    handler.run codec cache (pre ++ post) = handler.run codec (handler.run codec cache pre) post := by
  induction pre generalizing cache with
  | nil => rfl
  | cons inbound rest inductionHypothesis => exact inductionHypothesis _

/-! ### The registration a call commits -/

/-- The group a call registers a device into: the token of a registration request that gets
past the gate, parses, and commits under the group's write lock. Its response may still fail
to encode; the directory has changed all the same. -/
def ServerPacketHandler.registeredIn (handler : ServerPacketHandler) (codec : Codec)
    (cache : AppCache) (packet : NetPacket) (addr : SocketAddr) (tcpSender : Option TcpSender) :
    Option String :=
  match packet.protocol with
  | .service .handshakeRequest => none
  | .service .secretHandshakeRequest => none
  | _ =>
    match decryptGate codec cache packet addr with
    | .error _ => none
    | .ok decrypted =>
      if decrypted.protocol = .service .registrationRequest then
        match codec.parseRegistrationRequest decrypted.payload with
        | .error _ => none
        | .ok request =>
          match (handler.registerLocked cache request addr tcpSender).1 with
          | .error _ => none
          | .ok _ => some request.token
      else none

section Group

variable (handler : ServerPacketHandler) (codec : Codec) (cache : AppCache) (packet : NetPacket)
  (addr : SocketAddr) (tcpSender : Option TcpSender) (now : Nat) (group : String)

/-- A call commits a registration into `group` only along the path to `register`, with a
request for `group` that the locked section commits. -/
theorem ServerPacketHandler.registeredIn_eq_some
    (registered : handler.registeredIn codec cache packet addr tcpSender = some group) :
    ∃ decrypted request, packet.protocol ≠ .service .handshakeRequest ∧
      packet.protocol ≠ .service .secretHandshakeRequest ∧
      decryptGate codec cache packet addr = .ok decrypted ∧
      decrypted.protocol = .service .registrationRequest ∧
      codec.parseRegistrationRequest decrypted.payload = .ok request ∧ request.token = group ∧
      ∃ virtualIp info', (handler.registerLocked cache request addr tcpSender).1 = .ok (virtualIp, info') := by
  unfold ServerPacketHandler.registeredIn at registered
  split at registered
  · cases registered
  · cases registered
  rename_i handshake secretHandshake
  split at registered
  · cases registered
  rename_i decrypted gate
  split at registered
  · rename_i registration
    split at registered
    · cases registered
    rename_i request parsed
    split at registered
    · cases registered
    rename_i result locked
    cases registered
    exact ⟨decrypted, request, handshake, secretHandshake, gate, registration, parsed, rfl,
      result.1, result.2, locked⟩
  · cases registered

/-- Along the path to `register`, a call commits a registration exactly when the locked
section does. -/
theorem ServerPacketHandler.registeredIn_of_route {decrypted : NetPacket}
    {request : RegistrationRequest}
    (handshake : packet.protocol ≠ .service .handshakeRequest)
    (secretHandshake : packet.protocol ≠ .service .secretHandshakeRequest)
    (gate : decryptGate codec cache packet addr = .ok decrypted)
    (registration : decrypted.protocol = .service .registrationRequest)
    (parsed : codec.parseRegistrationRequest decrypted.payload = .ok request) :
    handler.registeredIn codec cache packet addr tcpSender =
      match (handler.registerLocked cache request addr tcpSender).1 with
      | .error _ => none
      | .ok _ => some request.token := by
  unfold ServerPacketHandler.registeredIn
  split
  · contradiction
  · contradiction
  · simp only [gate, registration, if_true, parsed]

/-- A call that commits a registration into `group` leaves it the directory the locked
section of `register` made of the group's directory, or of a new one. -/
theorem ServerPacketHandler.handle_of_registeredIn
    (registered : handler.registeredIn codec cache packet addr tcpSender = some group) :
    ∃ request virtualIp info', ((cache.virtualNetwork group).getD handler.config.newNetwork).register
        handler.config request addr tcpSender = .ok (virtualIp, info') ∧
      (handler.handle codec cache packet addr tcpSender now).cache.virtualNetwork group = some info' := by
  obtain ⟨decrypted, request, handshake, secretHandshake, gate, registration, parsed, rfl, _, _,
    committed⟩ := handler.registeredIn_eq_some codec cache packet addr tcpSender _ registered
  rcases handler.registerLocked_cases cache request addr tcpSender with
    ⟨_, -, locked⟩ | ⟨-, -, locked⟩ | ⟨-, -, _, -, locked⟩ | ⟨-, -, _, _, enrolled, locked⟩ <;>
    rw [locked] at committed <;> cases committed
  refine ⟨request, _, _, enrolled, ?_⟩
  rw [handler.handle_of_gate _ _ _ _ _ _ handshake secretHandshake, gate]
  simp [ServerPacketHandler.dispatch, handler.notContext_of_registration _ _ _ _ _ registration,
    handler.register_snd, parsed, locked]

/-- Every other call leaves `group` as it was, creates it as `NetworkInfo::new`, or writes
a status report into it. -/
theorem ServerPacketHandler.handle_of_not_registeredIn
    (registered : handler.registeredIn codec cache packet addr tcpSender ≠ some group) :
    let after := (handler.handle codec cache packet addr tcpSender now).cache.virtualNetwork group
    after = cache.virtualNetwork group ∨
      (cache.virtualNetwork group = none ∧ after = some handler.config.newNetwork) ∨
      ∃ info status, cache.virtualNetwork group = some info ∧
        after = some (info.upClientStatusInfo status now) := by
  rcases handler.handle_cases codec cache packet addr tcpSender now with
    untouched | ⟨-, _, handled⟩ | ⟨decrypted, handshake, secretHandshake, gate, registration, handled⟩ |
      ⟨_, context, status, -, -, found, -, handled⟩
  · exact .inl (by rw [untouched])
  · exact .inl (by rw [handled]; rfl)
  · rw [handled]
    rcases handler.register_cases codec cache decrypted addr tcpSender with
      untouched | ⟨request, parsed, -, -, ⟨_, -, -, refused⟩ | ⟨_, _, -, committed, written⟩⟩
    · exact .inl (by rw [untouched])
    · rw [refused]
      rcases cache.setNetwork_getD request.token group handler.config.newNetwork with
        untouched | ⟨-, absent, created⟩
      · exact .inl untouched
      · exact .inr (.inl ⟨absent, created⟩)
    · have other : request.token ≠ group := fun same => registered (by
        rw [handler.registeredIn_of_route codec cache packet addr tcpSender handshake secretHandshake
          gate registration parsed, committed, same])
      exact .inl (by simp [written, Ne.symm other])
  · rw [handled]
    by_cases same : context.group = group
    · subst same
      exact .inr (.inr ⟨context.networkInfo, status, (AppCache.getContext_eq_some.1 found).2,
        by simp [AppCache.upClientStatusInfo]⟩)
    · exact .inl (by simp [AppCache.upClientStatusInfo, Ne.symm same])

end Group

/-! ### Every group of a run is a reachable directory -/

/-- Every group of the state holds a directory that the group reaches from its creation. -/
def AppCache.Reachable (config : ConfigInfo) (cache : AppCache) : Prop :=
  ∀ group info, cache.virtualNetwork group = some info → Vnts.Reachable config info

theorem AppCache.reachable_empty (config : ConfigInfo) : AppCache.empty.Reachable config :=
  fun _ _ absent => nomatch absent

/-- A group's directory as get-or-create returns it is reachable: the group's own, or a new one. -/
theorem AppCache.Reachable.getD {config : ConfigInfo} {cache : AppCache}
    (reachable : cache.Reachable config) (group : String) :
    Vnts.Reachable config ((cache.virtualNetwork group).getD config.newNetwork) := by
  cases current : cache.virtualNetwork group
  · exact .new
  · exact reachable _ _ current

theorem ServerPacketHandler.handle_reachable (handler : ServerPacketHandler) (codec : Codec)
    {cache : AppCache} (reachable : cache.Reachable handler.config) (packet : NetPacket)
    (addr : SocketAddr) (tcpSender : Option TcpSender) (now : Nat) :
    (handler.handle codec cache packet addr tcpSender now).cache.Reachable handler.config := by
  intro group info found
  have before := reachable.getD group
  by_cases registered : handler.registeredIn codec cache packet addr tcpSender = some group
  · obtain ⟨request, _, info', enrolled, after⟩ :=
      handler.handle_of_registeredIn codec cache packet addr tcpSender now group registered
    rw [after, Option.some.injEq] at found
    subst found
    have applied : ((cache.virtualNetwork group).getD handler.config.newNetwork).apply
        handler.config (.register request addr tcpSender) = info' := by
      simp only [NetworkInfo.apply, enrolled]
    exact applied ▸ before.apply _
  · rcases handler.handle_of_not_registeredIn codec cache packet addr tcpSender now group registered
      with untouched | ⟨-, created⟩ | ⟨_, status, current, updated⟩
    · exact reachable _ _ (untouched ▸ found)
    · rw [created] at found
      cases found
      exact .new
    · rw [updated] at found
      cases found
      exact (reachable _ _ current).apply (.upClientStatusInfo status now)

/-- Every group of every state of a run from a state whose groups are reachable, such as the
empty caches a server starts with, is reachable: the invariants of `Vnts.Invariant` hold of
all of them. -/
theorem ServerPacketHandler.run_reachable (handler : ServerPacketHandler) (codec : Codec)
    {cache : AppCache} (reachable : cache.Reachable handler.config) (inbounds : List Inbound) :
    (handler.run codec cache inbounds).Reachable handler.config := by
  induction inbounds generalizing cache with
  | nil => exact reachable
  | cons inbound rest inductionHypothesis =>
    exact inductionHypothesis (handler.handle_reachable codec reachable _ _ _ _)

/-! ### The epoch counts the registrations -/

/-- An entry with its `client_status` cleared, which is what a roster shows of it. -/
def ClientInfo.withoutStatus (entry : ClientInfo) : ClientInfo :=
  { entry with clientStatus := none }

/-- Two directories with the same entries at the same keys, `client_status` apart. -/
def NetworkInfo.SameRoster (info info' : NetworkInfo) : Prop :=
  ∀ ip, (info.clients.lookup ip).map ClientInfo.withoutStatus =
    (info'.clients.lookup ip).map ClientInfo.withoutStatus

theorem NetworkInfo.SameRoster.refl (info : NetworkInfo) : info.SameRoster info :=
  fun _ => rfl

theorem NetworkInfo.SameRoster.trans {info info' info'' : NetworkInfo}
    (first : info.SameRoster info') (second : info'.SameRoster info'') : info.SameRoster info'' :=
  fun ip => (first ip).trans (second ip)

theorem NetworkInfo.sameRoster_upClientStatusInfo (info : NetworkInfo)
    (status : Message.ClientStatusInfo) (now : Nat) :
    info.SameRoster (info.upClientStatusInfo status now) := by
  intro ip
  rw [upClientStatusInfo_lookup, Option.map_map]
  congr 1
  funext entry
  split_ifs <;> rfl

/-- The registrations committed into `group` along a run. -/
def ServerPacketHandler.registrations (handler : ServerPacketHandler) (codec : Codec)
    (group : String) : AppCache → List Inbound → Nat
  | _, [] => 0
  | cache, inbound :: rest =>
    (if handler.registeredIn codec cache inbound.packet inbound.addr inbound.tcpSender = some group
      then 1 else 0) + handler.registrations codec group (handler.step codec cache inbound).cache rest

section Epoch

variable (handler : ServerPacketHandler) (codec : Codec) (group : String)

/-- One call: the group's epoch goes up by one at a registration committed into it, and
otherwise the call leaves its epoch and roster as they were. An absent group counts as the
new directory it would be created as. -/
theorem ServerPacketHandler.step_epoch (cache : AppCache) (inbound : Inbound) :
    let before := (cache.virtualNetwork group).getD handler.config.newNetwork
    let after := ((handler.step codec cache inbound).cache.virtualNetwork group).getD
      handler.config.newNetwork
    (handler.registeredIn codec cache inbound.packet inbound.addr inbound.tcpSender = some group →
      after.epoch = before.epoch + 1) ∧
    (handler.registeredIn codec cache inbound.packet inbound.addr inbound.tcpSender ≠ some group →
      after.epoch = before.epoch ∧ before.SameRoster after) := by
  constructor
  · intro registered
    obtain ⟨_, _, _, enrolled, after⟩ := handler.handle_of_registeredIn codec cache inbound.packet
      inbound.addr inbound.tcpSender inbound.now group registered
    obtain ⟨-, rfl⟩ := register_eq_ok.1 enrolled
    simp only [ServerPacketHandler.step, after, Option.getD_some, enroll_epoch]
  · intro registered
    rcases handler.handle_of_not_registeredIn codec cache inbound.packet inbound.addr
      inbound.tcpSender inbound.now group registered with
      untouched | ⟨absent, created⟩ | ⟨info, status, current, updated⟩
    · rw [ServerPacketHandler.step, untouched]
      exact ⟨rfl, .refl _⟩
    · rw [ServerPacketHandler.step, absent, created]
      exact ⟨rfl, .refl _⟩
    · rw [ServerPacketHandler.step, current, updated]
      exact ⟨rfl, info.sameRoster_upClientStatusInfo status inbound.now⟩

/-- Over a run the epoch moves by the registrations committed into the group, modulo
`2^64`. -/
theorem ServerPacketHandler.run_epoch (cache : AppCache) (inbounds : List Inbound) :
    (((handler.run codec cache inbounds).virtualNetwork group).getD handler.config.newNetwork).epoch =
      ((cache.virtualNetwork group).getD handler.config.newNetwork).epoch +
        BitVec.ofNat 64 (handler.registrations codec group cache inbounds) := by
  induction inbounds generalizing cache with
  | nil => simp [ServerPacketHandler.run, ServerPacketHandler.registrations]
  | cons inbound rest inductionHypothesis =>
    obtain ⟨committed, other⟩ := handler.step_epoch codec group cache inbound
    rw [ServerPacketHandler.run, ServerPacketHandler.registrations, inductionHypothesis,
      BitVec.ofNat_add, ← BitVec.add_assoc]
    congr 1
    split_ifs with registered
    · rw [committed registered]; rfl
    · rw [(other registered).1]; simp

/-- A stretch of a run with no registration into the group leaves its roster as it was. -/
theorem ServerPacketHandler.run_sameRoster (cache : AppCache) (inbounds : List Inbound)
    (none : handler.registrations codec group cache inbounds = 0) :
    ((cache.virtualNetwork group).getD handler.config.newNetwork).SameRoster
      (((handler.run codec cache inbounds).virtualNetwork group).getD handler.config.newNetwork) := by
  induction inbounds generalizing cache with
  | nil => exact .refl _
  | cons inbound rest inductionHypothesis =>
    rw [ServerPacketHandler.registrations, Nat.add_eq_zero] at none
    have other : handler.registeredIn codec cache inbound.packet inbound.addr inbound.tcpSender ≠
        some group := fun registered => by simp [registered] at none
    exact ((handler.step_epoch codec group cache inbound).2 other).2.trans
      (inductionHypothesis _ none.2)

end Epoch

/-- The epoch of a group is a generation counter. One call raises it by one exactly when it
commits a registration into the group; any other call, a failed registration, a status
report, a poll, a ping, a broadcast, a handshake or an address request, leaves it and the
group's roster, statuses apart, as they were. From the group's creation, with fewer than
`2^64` registrations, the epoch is the number of registrations committed into it. And two
states of a run in which the group has the same epoch have the same roster. -/
theorem epoch_counts_registrations (handler : ServerPacketHandler) (codec : Codec)
    (group : String) :
    (∀ cache inbound,
      let before := (cache.virtualNetwork group).getD handler.config.newNetwork
      let after := ((handler.step codec cache inbound).cache.virtualNetwork group).getD
        handler.config.newNetwork
      (handler.registeredIn codec cache inbound.packet inbound.addr inbound.tcpSender = some group →
        after.epoch = before.epoch + 1) ∧
      (handler.registeredIn codec cache inbound.packet inbound.addr inbound.tcpSender ≠ some group →
        after.epoch = before.epoch ∧ before.SameRoster after)) ∧
    (∀ cache inbounds info, cache.virtualNetwork group = none →
      handler.registrations codec group cache inbounds < 2 ^ 64 →
      (handler.run codec cache inbounds).virtualNetwork group = some info →
      info.epoch.toNat = handler.registrations codec group cache inbounds) ∧
    (∀ cache pre mid info info', (handler.run codec cache pre).virtualNetwork group = some info →
      (handler.run codec cache (pre ++ mid)).virtualNetwork group = some info' →
      handler.registrations codec group (handler.run codec cache pre) mid < 2 ^ 64 →
      info.epoch = info'.epoch → info.SameRoster info') := by
  refine ⟨handler.step_epoch codec group, fun cache inbounds info absent fewer found => ?_,
    fun cache pre mid info info' found found' fewer same => ?_⟩
  · have counted := handler.run_epoch codec group cache inbounds
    rw [found, absent, Option.getD_some, Option.getD_none, ConfigInfo.newNetwork,
      NetworkInfo.new_epoch] at counted
    have moved := congrArg BitVec.toNat counted
    simp only [BitVec.toNat_add, BitVec.toNat_ofNat, BitVec.ofNat_eq_ofNat] at moved
    omega
  · have counted := handler.run_epoch codec group (handler.run codec cache pre) mid
    rw [← handler.run_append, found, found', Option.getD_some, Option.getD_some, same] at counted
    have none : handler.registrations codec group (handler.run codec cache pre) mid = 0 := by
      have moved := congrArg BitVec.toNat counted
      simp only [BitVec.toNat_add, BitVec.toNat_ofNat] at moved
      omega
    have roster := handler.run_sameRoster codec group _ mid none
    rwa [← handler.run_append, found, found', Option.getD_some, Option.getD_some] at roster

/-- One device registered from two addresses commits twice into group `T`: the first call
raises the epoch of the new group from 0 to 1, and after both the epoch is 2. -/
theorem epoch_counts_registrations_twice :
    let handler : ServerPacketHandler :=
      ⟨⟨0x0A000001, 0xFFFFFF00, 0x0A0000FF, none⟩, none, "1.2.16"⟩
    let codec : Codec := { (default : Codec) with
      parseRegistrationRequest := fun _ => .ok ⟨"T", "A", "A", 0, false, false⟩ }
    let first : Inbound := ⟨.reply (.service .registrationRequest) [], ⟨.v4 0xCB007105, 4000⟩, none, 0⟩
    let second : Inbound :=
      ⟨.reply (.service .registrationRequest) [], ⟨.v4 0xC6336407, 5000⟩, none, 1⟩
    handler.registeredIn codec AppCache.empty first.packet first.addr first.tcpSender = some "T" ∧
    (((handler.step codec AppCache.empty first).cache.virtualNetwork "T").getD
      handler.config.newNetwork).epoch = 1 ∧
    handler.registrations codec "T" AppCache.empty [first, second] = 2 ∧
    ∃ info, (handler.run codec AppCache.empty [first, second]).virtualNetwork "T" = some info ∧
      info.epoch.toNat = 2 :=
  have counts := epoch_counts_registrations
    ⟨⟨0x0A000001, 0xFFFFFF00, 0x0A0000FF, none⟩, none, "1.2.16"⟩
    { (default : Codec) with parseRegistrationRequest := fun _ => .ok ⟨"T", "A", "A", 0, false, false⟩ }
    "T"
  ⟨rfl, ((counts.1 AppCache.empty ⟨.reply (.service .registrationRequest) [],
      ⟨.v4 0xCB007105, 4000⟩, none, 0⟩).1 rfl).trans rfl, rfl, _, rfl,
    counts.2.1 AppCache.empty
      [⟨.reply (.service .registrationRequest) [], ⟨.v4 0xCB007105, 4000⟩, none, 0⟩,
        ⟨.reply (.service .registrationRequest) [], ⟨.v4 0xC6336407, 5000⟩, none, 1⟩]
      _ rfl (by decide) rfl⟩

end Vnts
