import Vnts.Reference
import Vnts.Server

/-
This file relates two levels of the design: the server, which handles packets one after
another on its four maps, and `Vnts.Invariant`, which describes one group as a directory that
the operations under the group's write lock act on one at a time.

Seen from one group, a run of the server is a run of that group's machine. Each call applies
at most one operation to at most one group: a registration that gets past `check_reg` and
the allowlist applies `register` to its token's group, created from `NetworkInfo::new` if it
has no directory yet, and a status report through a context applies `up_client_status_info`
to the context's group. So the directory of a group after any run is the group's directory
before it, or a new one, with the group's own operations applied in the order the run
handled them; from the empty caches it is `NetworkInfo::new` followed by them, and a group
with no operation has no directory.

Two results are read off a group's operations. The status of an entry is the one the last
status report naming its address wrote, whichever device of the group sent it. And a
registration that asks for no particular address commits whenever its group has an address
to give or already holds the device.
-/

namespace Vnts

/-! ### The operation a call applies -/

/-- Lines 79-155, past the decryption gate: the group a call writes and the operation it
applies there, if it writes one. -/
def ServerPacketHandler.dispatchOp (handler : ServerPacketHandler) (codec : Codec)
    (cache : AppCache) (packet : NetPacket) (addr : SocketAddr) (tcpSender : Option TcpSender)
    (now : Nat) : Option (String × GroupOp) :=
  match packet.protocol with
  | .service .registrationRequest =>
    match codec.parseRegistrationRequest packet.payload with
    | .error _ => none
    | .ok request =>
      if checkReg request = .ok () ∧ handler.config.allowsToken request.token = true then
        some (request.token, .register request addr tcpSender)
      else none
  | .service .clientStatusInfo =>
    match cache.getContext addr, codec.parseClientStatusInfo packet.payload with
    | some context, .ok status => some (context.group, .upClientStatusInfo status now)
    | _, _ => none
  | _ => none

/-- The group a call of `handle` writes and the operation it applies there: none for the two
handshakes and for a packet the decryption gate refuses. -/
def ServerPacketHandler.groupOp (handler : ServerPacketHandler) (codec : Codec)
    (cache : AppCache) (packet : NetPacket) (addr : SocketAddr) (tcpSender : Option TcpSender)
    (now : Nat) : Option (String × GroupOp) :=
  match packet.protocol with
  | .service .handshakeRequest => none
  | .service .secretHandshakeRequest => none
  | _ =>
    match decryptGate codec cache packet addr with
    | .error _ => none
    | .ok packet => handler.dispatchOp codec cache packet addr tcpSender now

/-- One operation under a group's write lock, on the group's directory as get-or-create
returns it. -/
def ConfigInfo.lockedApply (config : ConfigInfo) (current : Option NetworkInfo) (op : GroupOp) :
    Option NetworkInfo :=
  some ((current.getD config.newNetwork).apply config op)

/-- The state after a call, seen from `group`: the operation the call applies to it, if any. -/
def AppCache.afterOp (cache : AppCache) (config : ConfigInfo) (group : String) :
    Option (String × GroupOp) → Option NetworkInfo
  | some (group', op) =>
    if group' = group then config.lockedApply (cache.virtualNetwork group) op
    else cache.virtualNetwork group
  | none => cache.virtualNetwork group

/-- The operations a run applies to `group`, in the order it handles them. -/
def ServerPacketHandler.groupOps (handler : ServerPacketHandler) (codec : Codec)
    (group : String) : AppCache → List Inbound → List GroupOp
  | _, [] => []
  | cache, inbound :: rest =>
    let ops := handler.groupOps codec group (handler.step codec cache inbound).cache rest
    match handler.groupOp codec cache inbound.packet inbound.addr inbound.tcpSender
        inbound.now with
    | some (group', op) => if group' = group then op :: ops else ops
    | none => ops

/-! ### One call -/

section Call

variable (handler : ServerPacketHandler) (codec : Codec) (cache : AppCache) (packet : NetPacket)
  (addr : SocketAddr) (tcpSender : Option TcpSender) (now : Nat) (group : String)

theorem ServerPacketHandler.register_virtualNetwork :
    (handler.register codec cache packet addr tcpSender).2.virtualNetwork group =
      cache.afterOp handler.config group
        (match codec.parseRegistrationRequest packet.payload with
        | .error _ => none
        | .ok request =>
          if checkReg request = .ok () ∧ handler.config.allowsToken request.token = true then
            some (request.token, .register request addr tcpSender)
          else none) := by
  rw [handler.register_snd]
  rcases codec.parseRegistrationRequest packet.payload with _ | request
  · rfl
  dsimp only
  rcases handler.registerLocked_cases cache request addr tcpSender with
    ⟨_, checked, locked⟩ | ⟨-, refused, locked⟩ | ⟨checked, allowed, _, registered, locked⟩ |
      ⟨checked, allowed, _, _, registered, locked⟩ <;>
    rw [locked]
  · simp [AppCache.afterOp, checked]
  · simp [AppCache.afterOp, refused]
  all_goals
    by_cases same : request.token = group
    · subst same
      simp [AppCache.afterOp, checked, allowed, ConfigInfo.lockedApply, NetworkInfo.apply,
        registered]
    · simp [AppCache.afterOp, checked, allowed, same, Function.update_noteq (Ne.symm same)]

theorem ServerPacketHandler.dispatch_virtualNetwork :
    (handler.dispatch codec cache packet addr tcpSender now).cache.virtualNetwork group =
      cache.afterOp handler.config group
        (handler.dispatchOp codec cache packet addr tcpSender now) := by
  by_cases registration : packet.protocol = .service .registrationRequest
  · simp only [ServerPacketHandler.dispatch,
      handler.notContext_of_registration codec cache packet addr tcpSender registration,
      ServerPacketHandler.dispatchOp, registration]
    exact handler.register_virtualNetwork codec cache packet addr tcpSender group
  by_cases statusReport : packet.protocol = .service .clientStatusInfo
  · simp only [ServerPacketHandler.dispatch, ServerPacketHandler.dispatchOp, statusReport,
      handler.notContext_eq_none codec cache packet addr tcpSender registration
        (by rw [statusReport]; simp)]
    rcases found : cache.getContext addr with _ | context
    · rfl
    simp only [handleContext, statusReport]
    rcases codec.parseClientStatusInfo packet.payload with _ | status
    · rfl
    by_cases same : context.group = group
    · subst same
      simp [AppCache.afterOp, AppCache.upClientStatusInfo, ConfigInfo.lockedApply,
        NetworkInfo.apply, (AppCache.getContext_eq_some.1 found).2]
    · simp [AppCache.afterOp, AppCache.upClientStatusInfo, same,
        Function.update_noteq (Ne.symm same)]
  · have none : handler.dispatchOp codec cache packet addr tcpSender now = none := by
      unfold ServerPacketHandler.dispatchOp
      split <;> simp_all
    rw [none]
    rcases handler.dispatch_cases codec cache packet addr tcpSender now with
      untouched | ⟨registered, -⟩ | ⟨_, _, reported, -⟩
    · rw [untouched]; rfl
    · exact absurd registered registration
    · exact absurd reported statusReport

theorem ServerPacketHandler.groupOp_of_gate
    (handshake : packet.protocol ≠ .service .handshakeRequest)
    (secretHandshake : packet.protocol ≠ .service .secretHandshakeRequest) :
    handler.groupOp codec cache packet addr tcpSender now =
      match decryptGate codec cache packet addr with
      | .error _ => none
      | .ok packet => handler.dispatchOp codec cache packet addr tcpSender now := by
  unfold ServerPacketHandler.groupOp
  split
  · contradiction
  · contradiction
  · rfl

/-- A call changes a group's directory by the operation it applies to the group, and no
other group's. -/
theorem ServerPacketHandler.handle_virtualNetwork :
    (handler.handle codec cache packet addr tcpSender now).cache.virtualNetwork group =
      cache.afterOp handler.config group
        (handler.groupOp codec cache packet addr tcpSender now) := by
  by_cases handshake : packet.protocol = .service .handshakeRequest
  · simp only [ServerPacketHandler.handle, ServerPacketHandler.groupOp, handshake]; rfl
  by_cases secretHandshake : packet.protocol = .service .secretHandshakeRequest
  · simp only [ServerPacketHandler.handle, ServerPacketHandler.groupOp, secretHandshake]
    rcases handler.secretHandshake_cases codec cache packet addr with untouched | ⟨_, written⟩
    · rw [untouched]; rfl
    · rw [written]; rfl
  rw [handler.handle_of_gate codec cache packet addr tcpSender now handshake secretHandshake,
    handler.groupOp_of_gate codec cache packet addr tcpSender now handshake secretHandshake]
  rcases decryptGate codec cache packet addr with _ | decrypted
  · rfl
  · exact handler.dispatch_virtualNetwork codec cache decrypted addr tcpSender now group

end Call

/-! ### Whole runs -/

/-- Seen from one group, a run is the group's machine run on the group's operations: the
directory after the run is the directory before it, or a new one, with each operation the
run applies to the group applied in turn under the group's lock. -/
theorem ServerPacketHandler.run_virtualNetwork (handler : ServerPacketHandler) (codec : Codec)
    (cache : AppCache) (inbounds : List Inbound) (group : String) :
    (handler.run codec cache inbounds).virtualNetwork group =
      (handler.groupOps codec group cache inbounds).foldl handler.config.lockedApply
        (cache.virtualNetwork group) := by
  induction inbounds generalizing cache with
  | nil => rfl
  | cons inbound rest inductionHypothesis =>
    rw [ServerPacketHandler.run, inductionHypothesis, ServerPacketHandler.step,
      handler.handle_virtualNetwork, ServerPacketHandler.groupOps]
    rcases handler.groupOp codec cache inbound.packet inbound.addr inbound.tcpSender
        inbound.now with _ | ⟨group', op⟩
    · rfl
    · by_cases same : group' = group <;> simp [AppCache.afterOp, same, ServerPacketHandler.step]

/-- Once a group has a directory, its operations act on it as `NetworkInfo.run` does. -/
theorem ConfigInfo.foldl_lockedApply (config : ConfigInfo) (info : NetworkInfo)
    (ops : List GroupOp) :
    ops.foldl config.lockedApply (some info) = some (info.run config ops) := by
  induction ops generalizing info with
  | nil => rfl
  | cons op rest inductionHypothesis => exact inductionHypothesis _

/-- A run of the server, seen from one group, is a run of the group's machine of
`Vnts.Invariant`. From the empty caches, the directory of every group after any run in which
nothing expires is `NetworkInfo::new` with the group's own operations applied in the order the
run handled them: each registration that got past `check_reg` and the allowlist with the
group's token, and each status report through a context in the group. A group with no operation
has no directory. What the run does to other groups, and to the sessions, changes nothing else.
-/
theorem run_group_directory (handler : ServerPacketHandler) (codec : Codec)
    (inbounds : List Inbound) (group : String) :
    (handler.run codec AppCache.empty inbounds).virtualNetwork group =
      match handler.groupOps codec group AppCache.empty inbounds with
      | [] => none
      | ops => some (handler.config.newNetwork.run handler.config ops) := by
  rw [handler.run_virtualNetwork]
  rcases handler.groupOps codec group AppCache.empty inbounds with _ | ⟨op, rest⟩
  · rfl
  · exact handler.config.foldl_lockedApply _ rest

/-! ### Statuses -/

/-- What one operation does to the status of the entry at `ip`: it keeps the entry's status,
and is not a report naming `ip`; it leaves a new entry with no status; or it is a report
naming `ip` and writes the report's status. -/
theorem NetworkInfo.apply_clientStatus {config : ConfigInfo} {info : NetworkInfo}
    {op : GroupOp} {ip : BitVec 32} {entry : ClientInfo}
    (held : (info.apply config op).clients.lookup ip = some entry) :
    (∃ entry', info.clients.lookup ip = some entry' ∧ entry'.clientStatus = entry.clientStatus ∧
      ∀ report now, op = .upClientStatusInfo report now → report.source ≠ ip) ∨
    entry.clientStatus = none ∨
    ∃ report now, op = .upClientStatusInfo report now ∧ report.source = ip ∧
      entry.clientStatus = some (report.toEntity now) := by
  cases op with
  | register request addr tcpSender =>
    simp only [NetworkInfo.apply] at held
    split at held
    · rename_i registered
      obtain ⟨-, rfl⟩ := register_eq_ok.1 registered
      rw [enroll_lookup] at held
      split_ifs at held with same
      · cases held
        subst same
        rcases found : info.clients.lookup ip with _ | entry'
        · exact .inr (.inl (by simp [ClientInfo.update, ClientInfo.default]))
        · exact .inl ⟨entry', rfl, by simp [ClientInfo.update],
            fun _ _ report => by cases report⟩
      · exact .inl ⟨entry, held, rfl, fun _ _ report => by cases report⟩
    · exact .inl ⟨entry, held, rfl, fun _ _ report => by cases report⟩
  | upClientStatusInfo report now =>
    rw [NetworkInfo.apply, upClientStatusInfo_lookup] at held
    obtain ⟨entry', found, written⟩ := Option.map_eq_some'.1 held
    by_cases same : ip = report.source
    · rw [if_pos same] at written
      exact .inr (.inr ⟨report, now, rfl, same.symm, by rw [← written]⟩)
    · rw [if_neg same] at written
      exact .inl ⟨entry', found, by rw [written], fun _ _ named => by
        cases named; exact Ne.symm same⟩

/-- The status of an entry after operations on a directory is the one it had, with no report
naming its address among them, or the one the last report naming it wrote. -/
theorem NetworkInfo.run_clientStatus {config : ConfigInfo} {info : NetworkInfo}
    {ops : List GroupOp} {ip : BitVec 32} {entry : ClientInfo} {status : ClientStatusInfo}
    (held : (info.run config ops).clients.lookup ip = some entry)
    (reported : entry.clientStatus = some status) :
    (∃ entry', info.clients.lookup ip = some entry' ∧ entry'.clientStatus = some status ∧
      ∀ report now, GroupOp.upClientStatusInfo report now ∈ ops → report.source ≠ ip) ∨
    ∃ pre report now post, ops = pre ++ .upClientStatusInfo report now :: post ∧
      report.source = ip ∧ status = report.toEntity now ∧
      ∀ report' now', GroupOp.upClientStatusInfo report' now' ∈ post → report'.source ≠ ip := by
  induction ops generalizing info with
  | nil => exact .inl ⟨entry, held, reported, fun _ _ member => nomatch member⟩
  | cons op rest inductionHypothesis =>
    rcases inductionHypothesis held with ⟨entry', held', status', quiet⟩ |
      ⟨pre, report, now, post, rfl, source, written, quiet⟩
    · rcases NetworkInfo.apply_clientStatus held' with
        ⟨entry'', held'', same, unnamed⟩ | cleared | ⟨report, now, rfl, source, written⟩
      · refine .inl ⟨entry'', held'', same.trans status', fun report now member => ?_⟩
        rcases List.mem_cons.1 member with named | member
        · exact unnamed report now named.symm
        · exact quiet report now member
      · rw [cleared] at status'; cases status'
      · rw [written, Option.some.injEq] at status'
        exact .inr ⟨[], report, now, rest, rfl, source, status'.symm, quiet⟩
    · exact .inr ⟨op :: pre, report, now, post, rfl, source, written, quiet⟩

/-- A device's status is whatever the last report naming its address wrote, whoever sent it. In
every state of every run from the empty caches in which nothing expires, the `client_status` of
an entry was written by the last status report among its group's operations whose `source` is
the entry's virtual ip; no later one names it. A status report is an operation of the group of
the sender's context, so any device of the group can write the status of any other: the server
checks the sender's group, not that `source` is the sender's own virtual ip. -/
theorem status_of_last_report (handler : ServerPacketHandler) (codec : Codec)
    (inbounds : List Inbound) {group : String} {ip : BitVec 32} {entry : ClientInfo}
    {status : ClientStatusInfo}
    (held : (handler.run codec AppCache.empty inbounds).lookup (group, ip) = some entry)
    (reported : entry.clientStatus = some status) :
    ∃ pre report now post, handler.groupOps codec group AppCache.empty inbounds =
        pre ++ .upClientStatusInfo report now :: post ∧
      report.source = ip ∧ status = report.toEntity now ∧
      ∀ report' now', GroupOp.upClientStatusInfo report' now' ∈ post → report'.source ≠ ip := by
  have directory := handler.run_virtualNetwork codec AppCache.empty inbounds group
  obtain ⟨info, current, found⟩ := Option.bind_eq_some.1 held
  rw [current] at directory
  rcases ops : handler.groupOps codec group AppCache.empty inbounds with _ | ⟨op, rest⟩
  · rw [ops] at directory; cases directory
  have run : (op :: rest).foldl handler.config.lockedApply none =
      some (handler.config.newNetwork.run handler.config (op :: rest)) :=
    handler.config.foldl_lockedApply _ rest
  rw [ops] at directory
  change some info = (op :: rest).foldl handler.config.lockedApply none at directory
  rw [run, Option.some.injEq] at directory
  subst directory
  rcases NetworkInfo.run_clientStatus found reported with ⟨_, absent, -⟩ | last
  · simp [ConfigInfo.newNetwork] at absent
  · exact last

theorem status_of_last_report_other_device :
    let handler : ServerPacketHandler :=
      ⟨⟨0x0A000001, 0xFFFFFF00, 0x0A0000FF, none⟩, none, "1.2.16"⟩
    let codec : Codec := { (default : Codec) with
      parseRegistrationRequest := fun payload =>
        .ok (if payload = [] then ⟨"T", "A", "A", 0, false, false⟩
          else ⟨"T", "B", "B", 0, false, false⟩)
      parseClientStatusInfo := fun _ => .ok ⟨0x0A000002, [], 0, 0, .cone⟩ }
    let inbounds : List Inbound :=
      [⟨.reply (.service .registrationRequest) [], ⟨.v4 0xCB007105, 4000⟩, none, 0⟩,
        ⟨.reply (.service .registrationRequest) [1], ⟨.v4 0xC6336407, 5000⟩, none, 1⟩,
        ⟨.reply (.service .clientStatusInfo) [], ⟨.v4 0xC6336407, 5000⟩, none, 2⟩]
    ∃ entry status,
      (handler.run codec AppCache.empty inbounds).lookup ("T", 0x0A000002) = some entry ∧
      entry.clientStatus = some status ∧
      ∃ pre report now post, handler.groupOps codec "T" AppCache.empty inbounds =
          pre ++ .upClientStatusInfo report now :: post ∧
        report.source = 0x0A000002 ∧ status = report.toEntity now ∧
        ∀ report' now', GroupOp.upClientStatusInfo report' now' ∈ post →
          report'.source ≠ 0x0A000002 :=
  ⟨_, _, rfl, rfl, status_of_last_report _ _ _ rfl rfl⟩

/-! ### Registrations that commit -/

/-- A registration never fails for want of an address while its group has one to give. In
every state of every run from the empty caches, in a subnet whose network address is not all
ones, a cleartext registration whose request passes `check_reg` and the allowlist and asks for
no particular address commits into its token's group, provided the group has fewer devices
than its range has usable addresses, or already holds the device. -/
theorem registration_commits_unless_full (handler : ServerPacketHandler) (codec : Codec)
    (inbounds : List Inbound) (packet : NetPacket) (addr : SocketAddr)
    (tcpSender : Option TcpSender) {request : RegistrationRequest}
    (network : handler.config.gateway &&& handler.config.netmask ≠ BitVec.allOnes 32)
    (registration : packet.protocol = .service .registrationRequest)
    (cleartext : packet.encrypted = false)
    (parsed : codec.parseRegistrationRequest packet.payload = .ok request)
    (checked : checkReg request = .ok ())
    (allowed : handler.config.allowsToken request.token = true)
    (unrequested : request.virtualIp = 0)
    (room : let info := ((handler.run codec AppCache.empty inbounds).virtualNetwork
          request.token).getD handler.config.newNetwork
      info.clients.entries.length <
          (handler.config.rangeIps.filter fun ip => ip ≠ handler.config.gateway).length ∨
        ∃ ip entry, info.clients.lookup ip = some entry ∧ entry.deviceId = request.deviceId) :
    handler.registeredIn codec (handler.run codec AppCache.empty inbounds) packet addr
      tcpSender = some request.token := by
  have reachable := (handler.run_reachable codec (AppCache.reachable_empty handler.config)
    inbounds).getD request.token
  obtain ⟨ip, allocated⟩ := reachable.wellFormed.allocate_ok_of_unrequested network unrequested room
  rw [handler.registeredIn_of_route codec _ packet addr tcpSender (by simp [registration])
    (by simp [registration]) (by simp [decryptGate, cleartext]) registration parsed]
  rcases handler.registerLocked_cases (handler.run codec AppCache.empty inbounds) request addr
      tcpSender with
    ⟨_, failed, -⟩ | ⟨-, refused, -⟩ | ⟨-, -, _, failed, -⟩ | ⟨-, -, _, _, -, locked⟩
  · rw [checked] at failed; cases failed
  · rw [allowed] at refused; cases refused
  · rw [register_eq_error, allocated] at failed; cases failed
  · rw [locked]

theorem registration_commits_unless_full_again :
    let handler : ServerPacketHandler :=
      ⟨⟨0x0A000001, 0xFFFFFFF8, 0x0A000007, none⟩, none, "1.2.16"⟩
    let codec : Codec := { (default : Codec) with
      parseRegistrationRequest := fun _ => .ok ⟨"T", "A", "A", 0, false, false⟩ }
    let inbounds : List Inbound :=
      [⟨.reply (.service .registrationRequest) [], ⟨.v4 0xCB007105, 4000⟩, none, 0⟩]
    let packet := NetPacket.reply (.service .registrationRequest) []
    let request : RegistrationRequest := ⟨"T", "A", "A", 0, false, false⟩
    let info := ((handler.run codec AppCache.empty inbounds).virtualNetwork
      request.token).getD handler.config.newNetwork
    handler.config.gateway &&& handler.config.netmask ≠ BitVec.allOnes 32 ∧
    packet.protocol = .service .registrationRequest ∧ packet.encrypted = false ∧
    codec.parseRegistrationRequest packet.payload = .ok request ∧ checkReg request = .ok () ∧
    handler.config.allowsToken request.token = true ∧ request.virtualIp = 0 ∧
    (info.clients.entries.length <
        (handler.config.rangeIps.filter fun ip => ip ≠ handler.config.gateway).length ∨
      ∃ ip entry, info.clients.lookup ip = some entry ∧ entry.deviceId = request.deviceId) ∧
    handler.registeredIn codec (handler.run codec AppCache.empty inbounds) packet
      ⟨.v4 0xC6336407, 5000⟩ none = some request.token :=
  have held : ∃ ip entry, (((ServerPacketHandler.run
      ⟨⟨0x0A000001, 0xFFFFFFF8, 0x0A000007, none⟩, none, "1.2.16"⟩
      { (default : Codec) with
        parseRegistrationRequest := fun _ => .ok ⟨"T", "A", "A", 0, false, false⟩ }
      AppCache.empty
      [⟨.reply (.service .registrationRequest) [], ⟨.v4 0xCB007105, 4000⟩, none, 0⟩]).virtualNetwork
        "T").getD (ConfigInfo.newNetwork ⟨0x0A000001, 0xFFFFFFF8, 0x0A000007, none⟩)).clients.lookup
        ip = some entry ∧ entry.deviceId = "A" := ⟨0x0A000002, _, rfl, rfl⟩
  ⟨by decide, rfl, rfl, rfl, rfl, rfl, rfl, .inr held,
    registration_commits_unless_full _ _ _ _ _ none (by decide) rfl rfl rfl rfl rfl rfl
      (.inr held)⟩
end Vnts
