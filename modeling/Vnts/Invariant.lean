import Vnts.Directory

/-
This file proves the invariants of one group's directory. A group is created by
`register` as `NetworkInfo::new(gateway & netmask, netmask, gateway)` and is then changed
only under its write lock, by the locked section of `register` and by
`up_client_status_info`. Each of these runs atomically, so any interleaving of requests is
a sequence of them, and the reachable directories are those of `Reachable`.

The invariant `NetworkInfo.WellFormed` says that the subnet fields keep their creation
values, that every entry sits at its own `virtual_ip`, at a usable address of the range
that is not the gateway, and that no two entries share a `device_id`. The last part is
what makes the loop of `register` over `clients.values()` independent of the map's
iteration order, and what makes an address stick to the device that was given it.
-/

namespace Vnts

/-! ### Runs of a group -/

/-- The operations that take a group's write lock. -/
inductive GroupOp where
  | register (request : RegistrationRequest) (addr : SocketAddr) (tcpSender : Option TcpSender)
  | upClientStatusInfo (status : Message.ClientStatusInfo) (now : Nat)

/-- One operation on a group's directory. A failed registration returns before it writes. -/
def NetworkInfo.apply (config : ConfigInfo) (info : NetworkInfo) : GroupOp → NetworkInfo
  | .register request addr tcpSender =>
    match info.register config request addr tcpSender with
    | .ok (_, info') => info'
    | .error _ => info
  | .upClientStatusInfo status now => info.upClientStatusInfo status now

/-- A run of operations, in the order the write lock admitted them. -/
def NetworkInfo.run (config : ConfigInfo) (info : NetworkInfo) (ops : List GroupOp) :
    NetworkInfo :=
  ops.foldl (NetworkInfo.apply config) info

/-- The directories a group reaches from its creation. -/
inductive Reachable (config : ConfigInfo) : NetworkInfo → Prop
  | new : Reachable config config.newNetwork
  | apply {info : NetworkInfo} (op : GroupOp) :
      Reachable config info → Reachable config (info.apply config op)

theorem Reachable.run {config : ConfigInfo} {info : NetworkInfo} (reachable : Reachable config info)
    (ops : List GroupOp) : Reachable config (info.run config ops) := by
  induction ops generalizing info with
  | nil => exact reachable
  | cons op rest inductionHypothesis => exact inductionHypothesis (reachable.apply op)

/-! ### The invariant -/

/-- The directory invariant of a group created under `config`. -/
structure NetworkInfo.WellFormed (config : ConfigInfo) (info : NetworkInfo) : Prop where
  networkIp : info.networkIp = config.gateway &&& config.netmask
  maskIp : info.maskIp = config.netmask
  gatewayIp : info.gatewayIp = config.gateway
  keyed : ∀ ip entry, info.clients.lookup ip = some entry → entry.virtualIp = ip
  usable : ∀ ip ∈ info.clients, ip ≠ 0 ∧ config.InRange ip ∧ ip ≠ config.gateway
  deviceUnique : ∀ ip ip' entry entry', info.clients.lookup ip = some entry →
    info.clients.lookup ip' = some entry' → entry.deviceId = entry'.deviceId → ip = ip'

theorem wellFormed_newNetwork (config : ConfigInfo) : config.newNetwork.WellFormed config where
  networkIp := rfl
  maskIp := rfl
  gatewayIp := rfl
  keyed _ _ found := by simp [ConfigInfo.newNetwork] at found
  usable _ member := by simp [ConfigInfo.newNetwork] at member
  deviceUnique _ _ _ _ found := by simp [ConfigInfo.newNetwork] at found

section WellFormed

variable {config : ConfigInfo} {info : NetworkInfo} {request : RegistrationRequest}
  {ip : BitVec 32}

/-- What a successful allocation in a well-formed directory returns: a usable address,
where every entry with the device's id sits, and which is free or held by that device. -/
theorem NetworkInfo.WellFormed.allocate_eq_ok (wellFormed : info.WellFormed config)
    (allocated : allocate config info request = .ok ip) :
    (ip ≠ 0 ∧ config.InRange ip ∧ ip ≠ config.gateway) ∧
      (∀ key entry, info.clients.lookup key = some entry →
        entry.deviceId = request.deviceId → key = ip) ∧
      ∀ entry, info.clients.lookup ip = some entry → entry.deviceId = request.deviceId := by
  have nonzero : ∀ entry ∈ info.clients.entries, entry.2.virtualIp ≠ 0 := fun entry member => by
    have found := mem_entries_iff.1 member
    rw [wellFormed.keyed _ _ found]
    exact (wellFormed.usable _ (mem_of_lookup found)).1
  obtain ⟨nonzeroIp, sticky | ⟨absent, free, inRange, notGateway⟩⟩ :=
    Vnts.allocate_eq_ok wellFormed.gatewayIp nonzero allocated
  · obtain ⟨⟨key, holder⟩, member, same, chosen⟩ := sticky
    have found := mem_entries_iff.1 member
    obtain rfl : ip = key := chosen.symm.trans (wellFormed.keyed _ _ found)
    refine ⟨wellFormed.usable _ (mem_of_lookup found), fun key' entry held
      sameDevice => wellFormed.deviceUnique _ _ _ _ held found (sameDevice.trans same.symm),
      fun entry held => ?_⟩
    rw [found, Option.some.injEq] at held
    exact held ▸ same
  · exact ⟨⟨nonzeroIp, inRange, notGateway⟩,
      fun key entry held sameDevice => absurd sameDevice (absent ⟨key, entry⟩ (mem_entries_iff.2 held)),
      fun entry held => absurd (mem_of_lookup held) free⟩

/-- Writing the request at a usable address that every entry with its device's id sits at
keeps the invariant. -/
theorem NetworkInfo.WellFormed.enroll (wellFormed : info.WellFormed config)
    (usable : ip ≠ 0 ∧ config.InRange ip ∧ ip ≠ config.gateway)
    (owner : ∀ key entry, info.clients.lookup key = some entry →
      entry.deviceId = request.deviceId → key = ip)
    (addr : SocketAddr) (tcpSender : Option TcpSender) :
    (info.enroll ip request addr tcpSender).WellFormed config where
  networkIp := wellFormed.networkIp
  maskIp := wellFormed.maskIp
  gatewayIp := wellFormed.gatewayIp
  keyed key entry found := by
    rw [enroll_lookup] at found
    split_ifs at found with same
    · cases found; exact same.symm
    · exact wellFormed.keyed key entry found
  usable key member := by
    rcases mem_enroll.1 member with rfl | old
    · exact usable
    · exact wellFormed.usable key old
  deviceUnique key key' entry entry' found found' sameDevice := by
    rw [enroll_lookup] at found found'
    split_ifs at found found' with atIp atIp' atIp'
    · rw [atIp, atIp']
    · cases found
      exact atIp.trans (owner key' entry' found' sameDevice.symm).symm
    · cases found'
      exact (owner key entry found sameDevice).trans atIp'.symm
    · exact wellFormed.deviceUnique key key' entry entry' found found' sameDevice

theorem NetworkInfo.WellFormed.register (wellFormed : info.WellFormed config)
    {addr : SocketAddr} {tcpSender : Option TcpSender} {info' : NetworkInfo}
    (registered : info.register config request addr tcpSender = .ok (ip, info')) :
    info'.WellFormed config := by
  obtain ⟨allocated, rfl⟩ := register_eq_ok.1 registered
  obtain ⟨usable, owner, -⟩ := wellFormed.allocate_eq_ok allocated
  exact wellFormed.enroll usable owner addr tcpSender

/-- Once a registration is written, the allocator gives the same request the same address:
its requested address passes again, and the loop over the entries finds the device's one
entry there. -/
theorem NetworkInfo.WellFormed.allocate_enroll (wellFormed : info.WellFormed config)
    {addr : SocketAddr} {tcpSender : Option TcpSender}
    (allocated : allocate config info request = .ok ip) :
    allocate config (info.enroll ip request addr tcpSender) request = .ok ip := by
  have wellFormed' : (info.enroll ip request addr tcpSender).WellFormed config :=
    wellFormed.register (register_eq_ok.2 ⟨allocated, rfl⟩)
  obtain ⟨requested, accepted⟩ : ∃ requested, requestedIp config info request = .ok requested := by
    unfold allocate at allocated
    split at allocated
    · cases allocated
    · exact ⟨_, ‹_›⟩
  obtain ⟨requested', accepted'⟩ := requestedIp_enroll ip addr tcpSender accepted
  have nonzero : ip ≠ 0 := (wellFormed.allocate_eq_ok allocated).1.1
  have held := enroll_lookup info ip request addr tcpSender ip
  rw [if_pos rfl] at held
  have sticky : stickyIp (info.enroll ip request addr tcpSender).clients.entries request.deviceId
      requested' = ip := by
    have present : ∃ entry ∈ (info.enroll ip request addr tcpSender).clients.entries,
        entry.2.deviceId = request.deviceId := ⟨_, mem_entries_iff.2 held, rfl⟩
    obtain ⟨entry, member, same, result⟩ := stickyIp_of_mem requested' present
    have found := mem_entries_iff.1 member
    rw [result, wellFormed'.keyed _ _ found]
    exact wellFormed'.deviceUnique _ _ _ _ found held same
  rw [allocate, accepted']
  dsimp only
  rw [sticky, if_neg nonzero, if_neg nonzero]

/-- Registering the same request twice into a well-formed directory gives the same address,
and the second time only the epoch moves. -/
theorem NetworkInfo.WellFormed.register_register (wellFormed : info.WellFormed config)
    {addr : SocketAddr} {tcpSender : Option TcpSender} {info' : NetworkInfo}
    (registered : info.register config request addr tcpSender = .ok (ip, info')) :
    info'.register config request addr tcpSender = .ok (ip, { info' with epoch := info'.epoch + 1 }) := by
  obtain ⟨allocated, rfl⟩ := register_eq_ok.1 registered
  exact register_eq_ok.2
    ⟨wellFormed.allocate_enroll allocated, (info.enroll_enroll ip request addr tcpSender).symm⟩

theorem NetworkInfo.WellFormed.upClientStatusInfo (wellFormed : info.WellFormed config)
    (status : Message.ClientStatusInfo) (now : Nat) :
    (info.upClientStatusInfo status now).WellFormed config where
  networkIp := wellFormed.networkIp
  maskIp := wellFormed.maskIp
  gatewayIp := wellFormed.gatewayIp
  keyed key entry found := by
    rw [upClientStatusInfo_lookup] at found
    obtain ⟨old, held, rfl⟩ := Option.map_eq_some'.1 found
    split_ifs <;> exact wellFormed.keyed key old held
  usable key member := wellFormed.usable key (mem_upClientStatusInfo.1 member)
  deviceUnique key key' entry entry' found found' sameDevice := by
    rw [upClientStatusInfo_lookup] at found found'
    obtain ⟨old, held, rfl⟩ := Option.map_eq_some'.1 found
    obtain ⟨old', held', rfl⟩ := Option.map_eq_some'.1 found'
    refine wellFormed.deviceUnique key key' old old' held held' ?_
    split_ifs at sameDevice <;> exact sameDevice

theorem NetworkInfo.WellFormed.apply (wellFormed : info.WellFormed config) (op : GroupOp) :
    (info.apply config op).WellFormed config := by
  cases op with
  | register request addr tcpSender =>
    simp only [NetworkInfo.apply]
    split
    · rename_i registered
      exact wellFormed.register registered
    · exact wellFormed
  | upClientStatusInfo status now => exact wellFormed.upClientStatusInfo status now

/-- A registration or a status report keeps an entry at its address, with its device id. -/
theorem NetworkInfo.WellFormed.apply_lookup (wellFormed : info.WellFormed config) {entry : ClientInfo}
    (held : info.clients.lookup ip = some entry) (op : GroupOp) :
    ∃ entry', (info.apply config op).clients.lookup ip = some entry' ∧
      entry'.deviceId = entry.deviceId := by
  cases op with
  | register request addr tcpSender =>
    simp only [NetworkInfo.apply]
    split
    · rename_i ip' info' registered
      obtain ⟨allocated, rfl⟩ := register_eq_ok.1 registered
      rw [enroll_lookup]
      split_ifs with same
      · subst same
        exact ⟨_, rfl, ((wellFormed.allocate_eq_ok allocated).2.2 entry held).symm⟩
      · exact ⟨entry, held, rfl⟩
    · exact ⟨entry, held, rfl⟩
  | upClientStatusInfo status now =>
    rw [NetworkInfo.apply, upClientStatusInfo_lookup, held]
    split_ifs <;> exact ⟨_, rfl, rfl⟩

end WellFormed

theorem Reachable.wellFormed {config : ConfigInfo} {info : NetworkInfo}
    (reachable : Reachable config info) : info.WellFormed config := by
  induction reachable with
  | new => exact wellFormed_newNetwork config
  | apply op _ inductionHypothesis => exact inductionHypothesis.apply op

/-- A registration sets `online` on the entry it writes, and nothing clears it. -/
theorem NetworkInfo.apply_online {config : ConfigInfo} {info : NetworkInfo}
    (online : ∀ ip entry, info.clients.lookup ip = some entry → entry.online = true)
    (op : GroupOp) :
    ∀ ip entry, (info.apply config op).clients.lookup ip = some entry → entry.online = true := by
  intro ip entry found
  cases op with
  | register request addr tcpSender =>
    simp only [NetworkInfo.apply] at found
    split at found
    · rename_i registered
      obtain ⟨-, rfl⟩ := register_eq_ok.1 registered
      rw [enroll_lookup] at found
      split_ifs at found
      · cases found; rfl
      · exact online ip entry found
    · exact online ip entry found
  | upClientStatusInfo status now =>
    rw [NetworkInfo.apply, upClientStatusInfo_lookup] at found
    obtain ⟨entry', held, rfl⟩ := Option.map_eq_some'.1 found
    split_ifs <;> exact online ip entry' held

theorem Reachable.online {config : ConfigInfo} {info : NetworkInfo}
    (reachable : Reachable config info) :
    ∀ ip entry, info.clients.lookup ip = some entry → entry.online = true := by
  induction reachable with
  | new => exact fun _ _ found => by simp [ConfigInfo.newNetwork] at found
  | apply op _ inductionHypothesis => exact NetworkInfo.apply_online inductionHypothesis op

theorem Reachable.run_lookup {config : ConfigInfo} {info : NetworkInfo} {ip : BitVec 32}
    {entry : ClientInfo} (reachable : Reachable config info)
    (held : info.clients.lookup ip = some entry) (ops : List GroupOp) :
    ∃ entry', (info.run config ops).clients.lookup ip = some entry' ∧
      entry'.deviceId = entry.deviceId := by
  induction ops generalizing info entry with
  | nil => exact ⟨entry, held, rfl⟩
  | cons op rest inductionHypothesis =>
    obtain ⟨entry', held', same⟩ := reachable.wellFormed.apply_lookup held op
    obtain ⟨entry'', held'', same'⟩ := inductionHypothesis (reachable.apply op) held'
    exact ⟨entry'', held'', same'.trans same⟩

/-! ### The directory representation -/

theorem network_or_not_netmask (gateway netmask : BitVec 32) :
    (gateway &&& netmask) ||| ~~~netmask = gateway ||| ~~~netmask := by
  apply BitVec.eq_of_getLsbD_eq
  intro index
  simp only [BitVec.getLsbD_or, BitVec.getLsbD_and, BitVec.getLsbD_not]
  cases gateway.getLsbD index <;> cases netmask.getLsbD index <;> simp

theorem toNat_add_one_of_ne_allOnes {ip : BitVec 32} (notAllOnes : ip ≠ BitVec.allOnes 32) :
    (ip + 1).toNat = ip.toNat + 1 := by
  have notMax : ip.toNat ≠ 2 ^ 32 - 1 := fun max => notAllOnes (BitVec.eq_of_toNat_eq (by simp [max]))
  have := ip.isLt
  rw [BitVec.toNat_add]
  simp
  omega

/-- Every reachable directory of a group keeps its subnet fields, and each of its entries sits
at its own `virtual_ip`, strictly between the network address and the subnet broadcast
address, and not at the gateway. -/
theorem reachable_directory_representation {config : ConfigInfo}
    (network : config.gateway &&& config.netmask ≠ BitVec.allOnes 32) {info : NetworkInfo}
    (reachable : Reachable config info) :
    info.networkIp = config.gateway &&& config.netmask ∧ info.maskIp = config.netmask ∧
      info.gatewayIp = config.gateway ∧
      ∀ ip entry, info.clients.lookup ip = some entry →
        entry.virtualIp = ip ∧ info.networkIp.toNat + 1 ≤ ip.toNat ∧
          ip.toNat < (info.networkIp ||| ~~~info.maskIp).toNat ∧ ip ≠ info.gatewayIp := by
  have wellFormed := reachable.wellFormed
  refine ⟨wellFormed.networkIp, wellFormed.maskIp, wellFormed.gatewayIp, fun ip entry found => ?_⟩
  obtain ⟨-, ⟨low, high⟩, notGateway⟩ := wellFormed.usable ip (mem_of_lookup found)
  rw [wellFormed.networkIp, wellFormed.maskIp, wellFormed.gatewayIp, network_or_not_netmask,
    ← toNat_add_one_of_ne_allOnes network]
  exact ⟨wellFormed.keyed ip entry found, low, high, notGateway⟩

theorem reachable_directory_representation_registered :
    let config : ConfigInfo := ⟨0x0A000001, 0xFFFFFF00, 0x0A0000FF, none⟩
    let info := config.newNetwork.apply config
      (.register ⟨"T", "A", "A", 0, false, false⟩ ⟨.v4 0xCB007105, 4000⟩ none)
    config.gateway &&& config.netmask ≠ BitVec.allOnes 32 ∧ Reachable config info ∧
      info.networkIp = config.gateway &&& config.netmask ∧ info.maskIp = config.netmask ∧
      info.gatewayIp = config.gateway ∧
      ∀ ip entry, info.clients.lookup ip = some entry →
        entry.virtualIp = ip ∧ info.networkIp.toNat + 1 ≤ ip.toNat ∧
          ip.toNat < (info.networkIp ||| ~~~info.maskIp).toNat ∧ ip ≠ info.gatewayIp :=
  ⟨by decide, .apply _ .new, reachable_directory_representation (by decide) (.apply _ .new)⟩

/-! ### Device ids are unique -/

/-- In every reachable directory no two keys hold entries with one device id. So the loop of
`register` over `clients.values()` matches at most one entry, and the address it picks is
the same for every iteration order of the map. -/
theorem reachable_deviceId_unique {config : ConfigInfo} {info : NetworkInfo}
    (reachable : Reachable config info) (deviceId : String) :
    (∀ ip ip' entry entry', info.clients.lookup ip = some entry →
      info.clients.lookup ip' = some entry' → entry.deviceId = entry'.deviceId → ip = ip') ∧
    (∀ entry ∈ info.clients.entries, ∀ entry' ∈ info.clients.entries,
      entry.2.deviceId = deviceId → entry'.2.deviceId = deviceId → entry = entry') ∧
    ∀ entries, entries.Perm info.clients.entries → ∀ ip,
      stickyIp entries deviceId ip = stickyIp info.clients.entries deviceId ip := by
  have unique := reachable.wellFormed.deviceUnique
  have single : ∀ entry ∈ info.clients.entries, ∀ entry' ∈ info.clients.entries,
      entry.2.deviceId = deviceId → entry'.2.deviceId = deviceId → entry = entry' := by
    rintro ⟨ip, entry⟩ member ⟨ip', entry'⟩ member' same same'
    have found := mem_entries_iff.1 member
    have found' := mem_entries_iff.1 member'
    obtain rfl := unique ip ip' entry entry' found found' (same.trans same'.symm)
    rw [found, Option.some.injEq] at found'
    rw [found']
  exact ⟨unique, single, fun entries perm ip => stickyIp_perm perm single⟩

/-- A group that registered two devices: the loop over its entries finds the one entry of
device `A`, and finds it in every order of the entries. -/
theorem reachable_deviceId_unique_two :
    let config : ConfigInfo := ⟨0x0A000001, 0xFFFFFF00, 0x0A0000FF, none⟩
    let info := config.newNetwork.run config
      [.register ⟨"T", "A", "A", 0, false, false⟩ ⟨.v4 0xCB007105, 4000⟩ none,
        .register ⟨"T", "B", "B", 0, false, false⟩ ⟨.v4 0xC6336407, 5000⟩ none]
    Reachable config info ∧ info.clients.entries.length = 2 ∧
    stickyIp info.clients.entries "A" 0 = 0x0A000002 ∧
    (∀ ip ip' entry entry', info.clients.lookup ip = some entry →
      info.clients.lookup ip' = some entry' → entry.deviceId = entry'.deviceId → ip = ip') ∧
    (∀ entry ∈ info.clients.entries, ∀ entry' ∈ info.clients.entries,
      entry.2.deviceId = "A" → entry'.2.deviceId = "A" → entry = entry') ∧
    ∀ entries, entries.Perm info.clients.entries → ∀ ip,
      stickyIp entries "A" ip = stickyIp info.clients.entries "A" ip :=
  ⟨.run .new _, rfl, rfl, reachable_deviceId_unique (.run .new _) "A"⟩

/-! ### Addresses stick to their device -/

/-- Once a registration of a device succeeds with address `ip`, every later directory of the
run holds an entry of that device at `ip`; every later successful registration of the device
returns `ip`, whatever else it asks; and no successful registration of another device
returns `ip` or changes the entry there. -/
theorem register_address_sticky {config : ConfigInfo} {info info₁ : NetworkInfo}
    {request : RegistrationRequest} {addr : SocketAddr} {tcpSender : Option TcpSender}
    {ip : BitVec 32} (reachable : Reachable config info)
    (registered : info.register config request addr tcpSender = .ok (ip, info₁))
    (later : List GroupOp) :
    (∃ entry, (info₁.run config later).clients.lookup ip = some entry ∧
      entry.deviceId = request.deviceId) ∧
    ∀ request' addr' tcpSender' ip' info₃,
      (info₁.run config later).register config request' addr' tcpSender' = .ok (ip', info₃) →
        (request'.deviceId = request.deviceId → ip' = ip) ∧
        (request'.deviceId ≠ request.deviceId →
          ip' ≠ ip ∧ info₃.clients.lookup ip = (info₁.run config later).clients.lookup ip) := by
  have applied : info.apply config (.register request addr tcpSender) = info₁ := by
    simp [NetworkInfo.apply, registered]
  have reachable₁ : Reachable config info₁ := applied ▸ reachable.apply _
  obtain ⟨-, rfl⟩ := register_eq_ok.1 registered
  obtain ⟨entry, held, same⟩ := reachable₁.run_lookup
    (by rw [enroll_lookup, if_pos rfl]) later
  rw [update_deviceId] at same
  refine ⟨⟨entry, held, same⟩, fun request' addr' tcpSender' ip' info₃ registered' => ?_⟩
  obtain ⟨allocated, rfl⟩ := register_eq_ok.1 registered'
  obtain ⟨-, owner, holder⟩ := (reachable₁.run later).wellFormed.allocate_eq_ok allocated
  refine ⟨fun sameDevice => (owner ip entry held (same.trans sameDevice.symm)).symm,
    fun other => ?_⟩
  have moved : ip' ≠ ip := fun equal => other (by
    rw [← holder entry (equal ▸ held), same])
  exact ⟨moved, by rw [enroll_lookup, if_neg moved.symm]⟩

theorem register_address_sticky_first :
    let config : ConfigInfo := ⟨0x0A000001, 0xFFFFFF00, 0x0A0000FF, none⟩
    let request : RegistrationRequest := ⟨"T", "A", "A", 0, false, false⟩
    let addr : SocketAddr := ⟨.v4 0xCB007105, 4000⟩
    let info₁ := config.newNetwork.enroll 0x0A000002 request addr none
    let later := [GroupOp.register ⟨"T", "B", "B", 0x0A000002, false, true⟩ addr none]
    Reachable config config.newNetwork ∧
    config.newNetwork.register config request addr none = .ok (0x0A000002, info₁) ∧
    (∃ entry, (info₁.run config later).clients.lookup 0x0A000002 = some entry ∧
      entry.deviceId = request.deviceId) ∧
    ∀ request' addr' tcpSender' ip' info₃,
      (info₁.run config later).register config request' addr' tcpSender' = .ok (ip', info₃) →
        (request'.deviceId = request.deviceId → ip' = 0x0A000002) ∧
        (request'.deviceId ≠ request.deviceId →
          ip' ≠ 0x0A000002 ∧
            info₃.clients.lookup 0x0A000002 = (info₁.run config later).clients.lookup 0x0A000002) :=
  by
  intro config request addr info₁ later
  have registered : config.newNetwork.register config request addr none = .ok (0x0A000002, info₁) :=
    register_eq_ok.2 ⟨by decide, rfl⟩
  exact ⟨.new, registered, register_address_sticky .new registered later⟩

end Vnts
