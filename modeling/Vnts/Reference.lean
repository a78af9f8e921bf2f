import Vnts.Invariant

/-
This file compares the address choice of `register` with a reference written rule by rule
from its description: an invalid requested address is refused; a requested address held by
another device is refused unless the request allows a change; a device that holds an entry
gets its address back; a free requested address is granted; and otherwise the least free
address of the range is taken. The two agree on every reachable directory of a group whose
network address is not `255.255.255.255`. For that one subnet, `(gateway & netmask) + 1`
wraps to `0`, the scan finds `0.0.0.0` free, and `register` reports `AddressExhausted`
where the reference hands out `0.0.0.0`.

The last section reads the capacity of a group off the same steps: a reachable directory
never holds more entries than its range has usable addresses, and the allocator runs out only
when it holds that many. A request for no particular address is therefore granted one while
the directory has room, or when the device already holds an entry.
-/

namespace Vnts

/-! ### The reference -/

/-- The address choice as its description states it: the first rule that applies decides. -/
def referenceIp (config : ConfigInfo) (info : NetworkInfo) (request : RegistrationRequest) :
    Except Error (BitVec 32) :=
  if request.virtualIp ≠ 0 ∧ (request.virtualIp = config.gateway ∨
      request.virtualIp = config.broadcast ∨ ¬ config.InRange request.virtualIp) then
    .error .invalidIp
  else if request.virtualIp ≠ 0 ∧
      (info.clients.lookup request.virtualIp).any (·.deviceId ≠ request.deviceId) ∧
      ¬ request.allowIpChange then
    .error .ipAlreadyExists
  else
    match info.clients.entries.find? (·.2.deviceId = request.deviceId) with
    | some entry => .ok entry.1
    | none =>
      if request.virtualIp ≠ 0 ∧ request.virtualIp ∉ info.clients then .ok request.virtualIp
      else
        match config.rangeIps.find? fun ip => ip ≠ info.gatewayIp ∧ ip ∉ info.clients with
        | some ip => .ok ip
        | none => .error .addressExhausted

/-! ### The code's steps in a well-formed directory -/

section WellFormed

variable {config : ConfigInfo} {info : NetworkInfo}

/-- In a well-formed directory the loop returns the key of the device's entry, if it has one. -/
theorem NetworkInfo.WellFormed.stickyIp_eq (wellFormed : info.WellFormed config) (deviceId : String)
    (ip : BitVec 32) :
    stickyIp info.clients.entries deviceId ip =
      match info.clients.entries.find? (·.2.deviceId = deviceId) with
      | some entry => entry.1
      | none => ip := by
  cases found : info.clients.entries.find? (·.2.deviceId = deviceId) with
  | none =>
    exact stickyIp_of_forall_ne fun entry member same =>
      List.find?_eq_none.1 found entry member (decide_eq_true same)
  | some entry =>
    have member := List.mem_of_find?_eq_some found
    have same : entry.2.deviceId = deviceId := by simpa using List.find?_some found
    obtain ⟨entry', member', same', result⟩ := stickyIp_of_mem ip ⟨entry, member, same⟩
    have held := mem_entries_iff.1 member
    have held' := mem_entries_iff.1 member'
    rw [result, wellFormed.keyed _ _ held',
      wellFormed.deviceUnique _ _ _ _ held' held (same'.trans same.symm)]

theorem NetworkInfo.WellFormed.find?_deviceId_ne_zero (wellFormed : info.WellFormed config)
    {deviceId : String} {entry : Sigma fun _ : BitVec 32 => ClientInfo}
    (found : info.clients.entries.find? (·.2.deviceId = deviceId) = some entry) : entry.1 ≠ 0 :=
  (wellFormed.usable _ (mem_of_lookup (mem_entries_iff.1 (List.mem_of_find?_eq_some found)))).1

/-- In a subnet whose network address is not all ones, the scan never stops at `0`. -/
theorem scanIp_eq_find? (network : config.gateway &&& config.netmask ≠ BitVec.allOnes 32) :
    (if scanIp info config.ipRange.1 config.rangeCount = 0 then Except.error Error.addressExhausted
      else .ok (scanIp info config.ipRange.1 config.rangeCount)) =
      match config.rangeIps.find? fun ip => ip ≠ info.gatewayIp ∧ ip ∉ info.clients with
      | some ip => .ok ip
      | none => .error .addressExhausted := by
  have free : (config.rangeIps.find? fun ip => info.Free ip) =
      config.rangeIps.find? fun ip => ip ≠ info.gatewayIp ∧ ip ∉ info.clients := rfl
  rw [scanIp_range, free]
  cases found : config.rangeIps.find? fun ip => ip ≠ info.gatewayIp ∧ ip ∉ info.clients with
  | none => rfl
  | some ip =>
    have nonzero : ip ≠ 0 := fun zero => by
      have low := (mem_rangeIps.1 (List.mem_of_find?_eq_some found)).1
      rw [zero, ConfigInfo.ipRange, BitVec.le_def, toNat_add_one_of_ne_allOnes network] at low
      simp at low
    rw [Option.getD_some, if_neg nonzero]

/-- In a well-formed directory of a subnet whose network address is not all ones, the loop
and the scan of `allocate` are searches: for the device's entry, then for a free address. -/
theorem NetworkInfo.WellFormed.allocate_eq (wellFormed : info.WellFormed config)
    (network : config.gateway &&& config.netmask ≠ BitVec.allOnes 32)
    (request : RegistrationRequest) :
    allocate config info request =
      match requestedIp config info request with
      | .error e => .error e
      | .ok ip =>
        match info.clients.entries.find? (·.2.deviceId = request.deviceId) with
        | some entry => .ok entry.1
        | none =>
          if ip = 0 then
            match config.rangeIps.find? fun ip => ip ≠ info.gatewayIp ∧ ip ∉ info.clients with
            | some ip => .ok ip
            | none => .error .addressExhausted
          else .ok ip := by
  rw [allocate]
  cases requestedIp config info request with
  | error e => rfl
  | ok ip =>
    dsimp only
    rw [wellFormed.stickyIp_eq]
    cases found : info.clients.entries.find? (·.2.deviceId = request.deviceId) with
    | some entry =>
      have nonzero := wellFormed.find?_deviceId_ne_zero found
      dsimp only
      rw [if_neg nonzero, if_neg nonzero]
    | none =>
      dsimp only
      by_cases zero : ip = 0
      · rw [if_pos zero, if_pos zero, scanIp_eq_find? network]
      · rw [if_neg zero, if_neg zero, if_neg zero]

/-- Without a requested address, the device gets its entry's address or the first free one. -/
theorem NetworkInfo.WellFormed.allocate_unrequested (wellFormed : info.WellFormed config)
    (network : config.gateway &&& config.netmask ≠ BitVec.allOnes 32)
    {request : RegistrationRequest} (zero : request.virtualIp = 0) :
    allocate config info request = referenceIp config info request := by
  rw [wellFormed.allocate_eq network, referenceIp, requestedIp, if_pos zero]
  have invalid : ¬ (request.virtualIp ≠ 0 ∧ (request.virtualIp = config.gateway ∨
      request.virtualIp = config.broadcast ∨ ¬ config.InRange request.virtualIp)) :=
    fun rule => rule.1 zero
  have taken : ¬ (request.virtualIp ≠ 0 ∧
      (info.clients.lookup request.virtualIp).any (·.deviceId ≠ request.deviceId) ∧
      ¬ request.allowIpChange) := fun rule => rule.1 zero
  rw [if_neg invalid, if_neg taken]
  cases info.clients.entries.find? (·.2.deviceId = request.deviceId) with
  | some entry => rfl
  | none =>
    dsimp only
    rw [if_pos rfl, if_neg fun rule => rule.1 zero]

/-- With a requested address, the rules of the reference apply in order: an invalid address,
an address held by another device without `allow_ip_change`, the device's own entry, a free
requested address, and last the first free address of the range. -/
theorem NetworkInfo.WellFormed.allocate_requested (wellFormed : info.WellFormed config)
    (network : config.gateway &&& config.netmask ≠ BitVec.allOnes 32)
    {request : RegistrationRequest} (notZero : request.virtualIp ≠ 0) :
    allocate config info request = referenceIp config info request := by
  rw [wellFormed.allocate_eq network, referenceIp, requestedIp, if_neg notZero]
  by_cases invalid : config.gateway = request.virtualIp ∨ config.broadcast = request.virtualIp ∨
      ¬ config.InRange request.virtualIp
  · rw [if_pos invalid, if_pos ⟨notZero, by rcases invalid with h | h | h <;> simp [h]⟩]
  have valid : ¬ (request.virtualIp ≠ 0 ∧ (request.virtualIp = config.gateway ∨
      request.virtualIp = config.broadcast ∨ ¬ config.InRange request.virtualIp)) :=
    fun rule => invalid (by rcases rule.2 with h | h | h <;> simp [h])
  rw [if_neg invalid, if_neg valid]
  cases held : info.clients.lookup request.virtualIp with
  | none =>
    have absent : request.virtualIp ∉ info.clients := fun member => by
      rw [← AList.lookup_isSome, held] at member; cases member
    have free : ¬ (request.virtualIp ≠ 0 ∧
        (none : Option ClientInfo).any (·.deviceId ≠ request.deviceId) ∧ ¬ request.allowIpChange) :=
      fun rule => by simp at rule
    rw [if_neg free]
    dsimp only
    cases info.clients.entries.find? (·.2.deviceId = request.deviceId) with
    | some entry => rfl
    | none =>
      dsimp only
      rw [if_neg notZero, if_pos (show request.virtualIp ≠ 0 ∧ request.virtualIp ∉ info.clients from
        ⟨notZero, absent⟩)]
  | some holder =>
    dsimp only
    by_cases other : holder.deviceId ≠ request.deviceId
    · rw [if_pos other]
      cases allow : request.allowIpChange
      · have taken : request.virtualIp ≠ 0 ∧
            (some holder).any (·.deviceId ≠ request.deviceId) ∧ ¬ false = true :=
          ⟨notZero, by simpa using other, by simp⟩
        rw [if_pos (show ¬ false = true by simp), if_pos taken]
      · have kept : ¬ (request.virtualIp ≠ 0 ∧
            (some holder).any (·.deviceId ≠ request.deviceId) ∧ ¬ true = true) := by simp
        rw [if_neg (show ¬ ¬ true = true by simp), if_neg kept]
        cases info.clients.entries.find? (·.2.deviceId = request.deviceId) with
        | some entry => rfl
        | none =>
          dsimp only
          rw [if_pos rfl, if_neg fun rule => rule.2 (mem_of_lookup held)]
    · have kept : ¬ (request.virtualIp ≠ 0 ∧
          (some holder).any (·.deviceId ≠ request.deviceId) ∧ ¬ request.allowIpChange) := by
        simp [other]
      rw [if_neg other, if_neg kept]
      cases found : info.clients.entries.find? (·.2.deviceId = request.deviceId) with
      | some entry => rfl
      | none =>
        exact absurd (List.find?_eq_none.1 found ⟨_, holder⟩ (mem_entries_iff.2 held))
          (by simpa using other)

end WellFormed

/-! ### The allocator equals its reference -/

/-- On every reachable directory of a group whose network address is not all ones, the
address `register` chooses, or its error, is the reference's; and the entry at the chosen
address carries the request's device id, name and `client_secret`, the source address, the
TCP sender, and `online = true`. -/
theorem register_eq_referenceIp {config : ConfigInfo}
    (network : config.gateway &&& config.netmask ≠ BitVec.allOnes 32) {info : NetworkInfo}
    (reachable : Reachable config info) (request : RegistrationRequest) (addr : SocketAddr)
    (tcpSender : Option TcpSender) :
    (info.register config request addr tcpSender).map Prod.fst = referenceIp config info request ∧
    ∀ ip info', info.register config request addr tcpSender = .ok (ip, info') →
      ∃ entry, info'.clients.lookup ip = some entry ∧ entry.deviceId = request.deviceId ∧
        entry.name = request.name ∧ entry.clientSecret = request.clientSecret ∧
        entry.address = addr ∧ entry.online = true ∧ entry.tcpSender = tcpSender := by
  have wellFormed := reachable.wellFormed
  refine ⟨?_, fun ip info' registered => ?_⟩
  · have chosen : (info.register config request addr tcpSender).map Prod.fst =
        allocate config info request := by
      unfold NetworkInfo.register
      cases allocate config info request <;> rfl
    rw [chosen]
    by_cases zero : request.virtualIp = 0
    · exact wellFormed.allocate_unrequested network zero
    · exact wellFormed.allocate_requested network zero
  · obtain ⟨-, rfl⟩ := register_eq_ok.1 registered
    exact ⟨_, by rw [enroll_lookup, if_pos rfl], rfl, rfl, rfl, rfl, rfl, rfl⟩

theorem register_eq_referenceIp_registered :
    let config : ConfigInfo := ⟨0x0A000001, 0xFFFFFF00, 0x0A0000FF, none⟩
    let request : RegistrationRequest := ⟨"T", "B", "B", 0x0A000002, false, true⟩
    let addr : SocketAddr := ⟨.v4 0xC6336407, 5000⟩
    let info := config.newNetwork.apply config
      (.register ⟨"T", "A", "A", 0, false, false⟩ ⟨.v4 0xCB007105, 4000⟩ none)
    config.gateway &&& config.netmask ≠ BitVec.allOnes 32 ∧ Reachable config info ∧
    (info.register config request addr none).map Prod.fst = referenceIp config info request ∧
    ∀ ip info', info.register config request addr none = .ok (ip, info') →
      ∃ entry, info'.clients.lookup ip = some entry ∧ entry.deviceId = request.deviceId ∧
        entry.name = request.name ∧ entry.clientSecret = request.clientSecret ∧
        entry.address = addr ∧ entry.online = true ∧ entry.tcpSender = none :=
  ⟨by decide, .apply _ .new, register_eq_referenceIp (by decide) (.apply _ .new) _ _ _⟩

/-- In the subnet `255.255.255.255/32` the range wraps to start at `0.0.0.0`: the scan finds
`0.0.0.0` free and `register` reports `AddressExhausted`, while the reference hands out
`0.0.0.0` to a request that passes `check_reg` and has no allowlist to pass. Read over the
integers instead, the range `[2^32, 2^32 - 1)` is empty, and `register` grants `0.0.0.5`
although it lies outside it. -/
theorem register_allOnes_subnet_exhausted :
    let config : ConfigInfo := ⟨0xFFFFFFFF, 0xFFFFFFFF, 0xFFFFFFFF, none⟩
    let request : RegistrationRequest := ⟨"T", "A", "A", 0, false, false⟩
    let addr : SocketAddr := ⟨.v4 0xCB007105, 4000⟩
    Reachable config config.newNetwork ∧ checkReg request = .ok () ∧
    (config.newNetwork.register config request addr none).map Prod.fst =
      .error .addressExhausted ∧
    referenceIp config config.newNetwork request = .ok 0 ∧
    checkReg { request with virtualIp := 5 } = .ok () ∧
    (config.newNetwork.register config { request with virtualIp := 5 } addr none).map Prod.fst =
      .ok 5 ∧
    (5 : BitVec 32).toNat < (config.gateway &&& config.netmask).toNat + 1 :=
  ⟨.new, by decide, by decide, by decide, by decide, by decide, by decide⟩

/-! ### A group fills its range -/

/-- A requested address is refused only as invalid or as held by another device. -/
theorem requestedIp_ne_addressExhausted (config : ConfigInfo) (info : NetworkInfo)
    (request : RegistrationRequest) : requestedIp config info request ≠ .error .addressExhausted := by
  intro exhausted
  unfold requestedIp at exhausted
  split_ifs at exhausted <;> (try split at exhausted) <;> (try split_ifs at exhausted) <;>
    cases exhausted

/-- In a well-formed directory of a subnet whose network address is not all ones, the
allocator runs out of addresses only when every usable address of the range holds an
entry. -/
theorem NetworkInfo.WellFormed.full_of_exhausted {config : ConfigInfo} {info : NetworkInfo}
    (wellFormed : info.WellFormed config)
    (network : config.gateway &&& config.netmask ≠ BitVec.allOnes 32)
    {request : RegistrationRequest} (exhausted : allocate config info request = .error .addressExhausted) :
    ∀ ip ∈ config.rangeIps, ip ≠ config.gateway → ip ∈ info.clients := by
  rw [wellFormed.allocate_eq network] at exhausted
  rcases requested : requestedIp config info request with e | requestedIp'
  · rw [requested] at exhausted
    cases exhausted
    exact absurd requested (requestedIp_ne_addressExhausted config info request)
  rw [requested] at exhausted
  rcases found : info.clients.entries.find? (·.2.deviceId = request.deviceId) with _ | entry <;>
    rw [found] at exhausted
  · dsimp only at exhausted
    by_cases zero : requestedIp' = 0
    · rw [if_pos zero] at exhausted
      rcases free : config.rangeIps.find? (fun ip => ip ≠ info.gatewayIp ∧ ip ∉ info.clients)
        with _ | ip
      · intro ip member notGateway
        have taken := List.find?_eq_none.1 free ip member
        rw [wellFormed.gatewayIp] at taken
        simpa [notGateway] using taken
      · rw [free] at exhausted; cases exhausted
    · rw [if_neg zero] at exhausted; cases exhausted
  · cases exhausted

section Capacity

variable {config : ConfigInfo} {info : NetworkInfo} (wellFormed : info.WellFormed config)
include wellFormed

/-- The keys of a well-formed directory are usable addresses of the range. -/
theorem NetworkInfo.WellFormed.keys_subset :
    info.clients.entries.map Sigma.fst ⊆ config.rangeIps.filter fun ip => ip ≠ config.gateway := by
  intro ip member
  obtain ⟨-, inRange, notGateway⟩ := wellFormed.usable ip (AList.mem_keys.1 member)
  exact List.mem_filter.2 ⟨mem_rangeIps.2 inRange, by simpa using notGateway⟩

theorem NetworkInfo.WellFormed.length_le_capacity :
    info.clients.entries.length ≤ (config.rangeIps.filter fun ip => ip ≠ config.gateway).length := by
  have nodup : (info.clients.entries.map Sigma.fst).Nodup := info.clients.nodupKeys
  have bound := (List.subperm_of_subset nodup wellFormed.keys_subset).length_le
  rwa [List.length_map] at bound

/-- A directory that holds every usable address of the range holds exactly that many
entries. -/
theorem NetworkInfo.WellFormed.length_eq_capacity
    (full : ∀ ip ∈ config.rangeIps, ip ≠ config.gateway → ip ∈ info.clients) :
    info.clients.entries.length = (config.rangeIps.filter fun ip => ip ≠ config.gateway).length := by
  have nodup : (info.clients.entries.map Sigma.fst).Nodup := info.clients.nodupKeys
  have same : (info.clients.entries.map Sigma.fst).Perm
      (config.rangeIps.filter fun ip => ip ≠ config.gateway) :=
    (List.perm_ext_iff_of_nodup nodup (config.rangeIps_nodup.filter _)).2 fun ip =>
      ⟨(wellFormed.keys_subset ·), fun member => by
        obtain ⟨inRange, notGateway⟩ := List.mem_filter.1 member
        exact AList.mem_keys.2 (full ip inRange (by simpa using notGateway))⟩
  rw [← same.length_eq, List.length_map]

/-- A request that asks for no particular address gets one from the allocator when the
directory has room, or when the device already holds an entry there. -/
theorem NetworkInfo.WellFormed.allocate_ok_of_unrequested
    (network : config.gateway &&& config.netmask ≠ BitVec.allOnes 32)
    {request : RegistrationRequest} (unrequested : request.virtualIp = 0)
    (room : info.clients.entries.length <
        (config.rangeIps.filter fun ip => ip ≠ config.gateway).length ∨
      ∃ ip entry, info.clients.lookup ip = some entry ∧ entry.deviceId = request.deviceId) :
    ∃ ip, allocate config info request = .ok ip := by
  rcases allocated : allocate config info request with e | ip
  · have exhausted : e = .addressExhausted := by
      simp only [allocate, requestedIp, unrequested, if_true] at allocated
      split_ifs at allocated
      · cases allocated; rfl
    subst exhausted
    rcases room with room | ⟨ip, entry, found, device⟩
    · have full := wellFormed.length_eq_capacity (wellFormed.full_of_exhausted network allocated)
      omega
    · rw [wellFormed.allocate_eq network, requestedIp, if_pos unrequested] at allocated
      rcases held : info.clients.entries.find? (·.2.deviceId = request.deviceId) with _ | holder
      · exact absurd device (by simpa using List.find?_eq_none.1 held _ (mem_entries_iff.2 found))
      · rw [held] at allocated; cases allocated
  · exact ⟨ip, rfl⟩

end Capacity

/-- A group never holds more devices than its range has usable addresses, and it is refused
for want of an address only when it holds that many. Every reachable directory has at most as
many entries as the range has addresses other than the gateway; in a subnet whose network
address is not all ones, `register` reports `AddressExhausted` only when every such address
holds an entry, so that the directory holds exactly that many. -/
theorem reachable_capacity {config : ConfigInfo} {info : NetworkInfo}
    (reachable : Reachable config info) :
    info.clients.entries.length ≤ (config.rangeIps.filter fun ip => ip ≠ config.gateway).length ∧
    (config.gateway &&& config.netmask ≠ BitVec.allOnes 32 →
      ∀ request addr tcpSender,
        info.register config request addr tcpSender = .error .addressExhausted →
        (∀ ip ∈ config.rangeIps, ip ≠ config.gateway → ip ∈ info.clients) ∧
        info.clients.entries.length =
          (config.rangeIps.filter fun ip => ip ≠ config.gateway).length) := by
  have wellFormed := reachable.wellFormed
  exact ⟨wellFormed.length_le_capacity, fun network _ _ _ exhausted =>
    have full := wellFormed.full_of_exhausted network (register_eq_error.1 exhausted)
    ⟨full, wellFormed.length_eq_capacity full⟩⟩

theorem reachable_capacity_registered :
    let config : ConfigInfo := ⟨0x0A000001, 0xFFFFFF00, 0x0A0000FF, none⟩
    let info := config.newNetwork.apply config
      (.register ⟨"T", "A", "A", 0, false, false⟩ ⟨.v4 0xCB007105, 4000⟩ none)
    Reachable config info ∧
    info.clients.entries.length ≤ (config.rangeIps.filter fun ip => ip ≠ config.gateway).length ∧
    (config.gateway &&& config.netmask ≠ BitVec.allOnes 32 →
      ∀ request addr tcpSender,
        info.register config request addr tcpSender = .error .addressExhausted →
        (∀ ip ∈ config.rangeIps, ip ≠ config.gateway → ip ∈ info.clients) ∧
        info.clients.entries.length =
          (config.rangeIps.filter fun ip => ip ≠ config.gateway).length) :=
  ⟨.apply _ .new, reachable_capacity (.apply _ .new)⟩

end Vnts
