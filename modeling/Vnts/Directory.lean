import Vnts.Message

/-
This file models the directory operations of `core/service/server.rs`: `check_reg`, the
section of `register` that runs under the group's write lock (the choice of an address, the
entry update and the epoch increment), `clients_info`, and `up_client_status_info`.

The section under the lock is cut along the source's own steps: the check of a requested
address (`requestedIp`), the loop that hands a device back the address it holds
(`stickyIp`), the ascending scan for a free address (`scanIp`), and the entry update
(`NetworkInfo.enroll`). Each has its spec lemma here; the invariants of a group are built
from them in `Vnts/Invariant.lean`.
-/

namespace Vnts

/-! ### `check_reg` -/

/-- One length check of `check_reg`: the field's byte length lies in `1..=128`. -/
def lengthCheck (field message : String) : Except Error Unit :=
  if field.utf8ByteSize = 0 ∨ 128 < field.utf8ByteSize then .error (.other message) else .ok ()

/-- `check_reg`: the token, the device id and the name each have `1..=128` bytes. -/
def checkReg (request : RegistrationRequest) : Except Error Unit := do
  lengthCheck request.token "group length error"
  lengthCheck request.deviceId "device_id length error"
  lengthCheck request.name "name length error"

theorem lengthCheck_eq_ok {field message : String} :
    lengthCheck field message = .ok () ↔ 0 < field.utf8ByteSize ∧ field.utf8ByteSize ≤ 128 := by
  unfold lengthCheck
  split <;> simp_all <;> omega

/-- A sequence of two checks passes exactly when both do. -/
theorem bind_eq_ok_unit {x y : Except Error Unit} :
    (x >>= fun _ => y) = .ok () ↔ x = .ok () ∧ y = .ok () := by
  cases x <;> simp [bind, Except.bind]

/-- `check_reg` passes exactly when the three lengths lie in `1..=128`. -/
theorem checkReg_eq_ok {request : RegistrationRequest} :
    checkReg request = .ok () ↔
      (0 < request.token.utf8ByteSize ∧ request.token.utf8ByteSize ≤ 128) ∧
      (0 < request.deviceId.utf8ByteSize ∧ request.deviceId.utf8ByteSize ≤ 128) ∧
      (0 < request.name.utf8ByteSize ∧ request.name.utf8ByteSize ≤ 128) := by
  simp only [checkReg, bind_eq_ok_unit, lengthCheck_eq_ok]

theorem lengthCheck_eq_error {field message : String} {e : Error} :
    lengthCheck field message = .error e ↔
      ¬(0 < field.utf8ByteSize ∧ field.utf8ByteSize ≤ 128) ∧ e = .other message := by
  unfold lengthCheck
  split <;> simp_all [eq_comm]
  omega

/-- `check_reg` fails with the message of the first field, in the order token, device id,
name, whose length lies outside `1..=128`: every error names the field it checks. -/
theorem checkReg_eq_error {request : RegistrationRequest} {e : Error} :
    checkReg request = .error e ↔
      (¬(0 < request.token.utf8ByteSize ∧ request.token.utf8ByteSize ≤ 128) ∧
        e = .other "group length error") ∨
      ((0 < request.token.utf8ByteSize ∧ request.token.utf8ByteSize ≤ 128) ∧
        ¬(0 < request.deviceId.utf8ByteSize ∧ request.deviceId.utf8ByteSize ≤ 128) ∧
        e = .other "device_id length error") ∨
      ((0 < request.token.utf8ByteSize ∧ request.token.utf8ByteSize ≤ 128) ∧
        (0 < request.deviceId.utf8ByteSize ∧ request.deviceId.utf8ByteSize ≤ 128) ∧
        ¬(0 < request.name.utf8ByteSize ∧ request.name.utf8ByteSize ≤ 128) ∧
        e = .other "name length error") := by
  simp only [checkReg]
  rcases token : lengthCheck request.token "group length error" with e₁ | ⟨⟩
  · obtain ⟨bad, rfl⟩ := lengthCheck_eq_error.1 token
    simp [bind, Except.bind, bad, eq_comm]
  rcases device : lengthCheck request.deviceId "device_id length error" with e₂ | ⟨⟩
  · obtain ⟨bad, rfl⟩ := lengthCheck_eq_error.1 device
    simp [bind, Except.bind, bad, lengthCheck_eq_ok.1 token, eq_comm]
  rcases name : lengthCheck request.name "name length error" with e₃ | ⟨⟩
  · obtain ⟨bad, rfl⟩ := lengthCheck_eq_error.1 name
    simp [bind, Except.bind, bad, lengthCheck_eq_ok.1 token, lengthCheck_eq_ok.1 device, eq_comm]
  · simp [bind, Except.bind, lengthCheck_eq_ok.1 token, lengthCheck_eq_ok.1 device,
      lengthCheck_eq_ok.1 name]

/-! ### The allocatable range -/

/-- `ip_range`: `(gateway & netmask) + 1 .. gateway | !netmask`, in `u32` arithmetic. -/
def ConfigInfo.ipRange (config : ConfigInfo) : BitVec 32 × BitVec 32 :=
  ((config.gateway &&& config.netmask) + 1, config.gateway ||| ~~~config.netmask)

/-- The number of addresses `for ip in ip_range` visits. -/
def ConfigInfo.rangeCount (config : ConfigInfo) : Nat :=
  config.ipRange.2.toNat - config.ipRange.1.toNat

/-- `ip_range.contains(&ip)`. -/
def ConfigInfo.InRange (config : ConfigInfo) (ip : BitVec 32) : Prop :=
  config.ipRange.1 ≤ ip ∧ ip < config.ipRange.2

instance (config : ConfigInfo) (ip : BitVec 32) : Decidable (config.InRange ip) :=
  inferInstanceAs (Decidable (_ ∧ _))

/-- The directory `register` creates for a group that has none. -/
def ConfigInfo.newNetwork (config : ConfigInfo) : NetworkInfo :=
  NetworkInfo.new (config.gateway &&& config.netmask) config.netmask config.gateway

/-- The addresses `for ip in ip_range` visits, in ascending order. -/
def ConfigInfo.rangeIps (config : ConfigInfo) : List (BitVec 32) :=
  (List.range' config.ipRange.1.toNat config.rangeCount).map (BitVec.ofNat 32)

/-- The loop visits exactly the addresses `ip_range.contains` accepts. -/
theorem mem_rangeIps {config : ConfigInfo} {ip : BitVec 32} :
    ip ∈ config.rangeIps ↔ config.InRange ip := by
  simp only [ConfigInfo.rangeIps, ConfigInfo.rangeCount, ConfigInfo.InRange, List.mem_map,
    List.mem_range'_1, BitVec.le_def, BitVec.lt_def]
  constructor
  · rintro ⟨j, ⟨low, high⟩, rfl⟩
    have small : j < 2 ^ 32 := by have := config.ipRange.2.isLt; omega
    rw [BitVec.toNat_ofNat, Nat.mod_eq_of_lt small]
    omega
  · rintro ⟨low, high⟩
    exact ⟨ip.toNat, ⟨low, by omega⟩, by simp⟩

/-- The loop visits each address once. -/
theorem ConfigInfo.rangeIps_nodup (config : ConfigInfo) : config.rangeIps.Nodup := by
  refine (List.nodup_range' _ _).map_on fun low member high member' same => ?_
  simp only [List.mem_range'_1, ConfigInfo.rangeCount] at member member'
  have bound := config.ipRange.2.isLt
  have moved := congrArg BitVec.toNat same
  rwa [BitVec.toNat_ofNat, BitVec.toNat_ofNat, Nat.mod_eq_of_lt (by omega),
    Nat.mod_eq_of_lt (by omega)] at moved

/-! ### Choosing the address -/

/-- Lines 306-326 of `register`. A requested `virtual_ip` must be a usable address of the
range; one held by another device is refused, or given up (`0`) with `allow_ip_change`. -/
def requestedIp (config : ConfigInfo) (info : NetworkInfo) (request : RegistrationRequest) :
    Except Error (BitVec 32) :=
  if request.virtualIp = 0 then .ok 0
  else if config.gateway = request.virtualIp ∨ config.broadcast = request.virtualIp ∨
      ¬ config.InRange request.virtualIp then .error .invalidIp
  else
    match info.clients.lookup request.virtualIp with
    | some holder =>
      if holder.deviceId ≠ request.deviceId then
        if ¬ request.allowIpChange then .error .ipAlreadyExists else .ok 0
      else .ok request.virtualIp
    | none => .ok request.virtualIp

/-- Lines 327-331: the loop over `clients.values()` that hands a device back the address it
holds. The last entry with the device's id wins. -/
def stickyIp (entries : List (Sigma fun _ : BitVec 32 => ClientInfo)) (deviceId : String)
    (virtualIp : BitVec 32) : BitVec 32 :=
  entries.foldl (fun ip entry => if entry.2.deviceId = deviceId then entry.2.virtualIp else ip)
    virtualIp

/-- An address the scan takes: not the gateway, and with no entry. -/
def NetworkInfo.Free (info : NetworkInfo) (ip : BitVec 32) : Prop :=
  ip ≠ info.gatewayIp ∧ ip ∉ info.clients

instance (info : NetworkInfo) (ip : BitVec 32) : Decidable (info.Free ip) :=
  inferInstanceAs (Decidable (_ ∧ _))

/-- Lines 332-343: the ascending scan from `ip` over `count` addresses for the first one that
is not the gateway and has no entry, or `0`, the `virtual_ip` the scan starts from. -/
def scanIp (info : NetworkInfo) (ip : BitVec 32) : Nat → BitVec 32
  | 0 => 0
  | count + 1 =>
    if ip = info.gatewayIp then scanIp info (ip + 1) count
    else if ip ∉ info.clients then ip
    else scanIp info (ip + 1) count

/-- Lines 299-347: the address the request gets, or the error that ends `register`. -/
def allocate (config : ConfigInfo) (info : NetworkInfo) (request : RegistrationRequest) :
    Except Error (BitVec 32) :=
  match requestedIp config info request with
  | .error e => .error e
  | .ok ip =>
    let ip := stickyIp info.clients.entries request.deviceId ip
    let ip := if ip = 0 then scanIp info config.ipRange.1 config.rangeCount else ip
    if ip = 0 then .error .addressExhausted else .ok ip

/-! ### What the choice of an address can return -/

theorem requestedIp_eq_ok {config : ConfigInfo} {info : NetworkInfo}
    {request : RegistrationRequest} {ip : BitVec 32}
    (requested : requestedIp config info request = .ok ip) :
    ip = 0 ∨ (ip = request.virtualIp ∧ ip ≠ 0 ∧ config.gateway ≠ ip ∧ config.InRange ip ∧
      ∀ holder, info.clients.lookup ip = some holder → holder.deviceId = request.deviceId) := by
  unfold requestedIp at requested
  by_cases zero : request.virtualIp = 0
  · rw [if_pos zero] at requested
    exact .inl (Except.ok.inj requested).symm
  by_cases invalid : config.gateway = request.virtualIp ∨ config.broadcast = request.virtualIp ∨
      ¬ config.InRange request.virtualIp
  · rw [if_neg zero, if_pos invalid] at requested
    cases requested
  rw [if_neg zero, if_neg invalid] at requested
  push_neg at invalid
  obtain ⟨notGateway, -, inRange⟩ := invalid
  cases found : info.clients.lookup request.virtualIp with
  | none =>
    rw [found] at requested
    cases requested
    exact .inr ⟨rfl, zero, notGateway, inRange, fun _ held => by rw [found] at held; cases held⟩
  | some holder =>
    rw [found] at requested
    dsimp only at requested
    by_cases other : holder.deviceId ≠ request.deviceId
    · rw [if_pos other] at requested
      split at requested
      · cases requested
      · exact .inl (Except.ok.inj requested).symm
    · rw [if_neg other] at requested
      cases requested
      refine .inr ⟨rfl, zero, notGateway, inRange, fun _ held => ?_⟩
      rw [found, Option.some.injEq] at held
      exact held ▸ not_not.mp other

theorem stickyIp_of_forall_ne {entries : List (Sigma fun _ : BitVec 32 => ClientInfo)}
    {deviceId : String} {ip : BitVec 32} (absent : ∀ entry ∈ entries, entry.2.deviceId ≠ deviceId) :
    stickyIp entries deviceId ip = ip := by
  induction entries generalizing ip with
  | nil => rfl
  | cons entry rest inductionHypothesis =>
    rw [stickyIp, List.foldl_cons, if_neg (absent entry (List.mem_cons_self _ _))]
    exact inductionHypothesis fun other member => absent other (List.mem_cons_of_mem _ member)

/-- When some entry has the device's id, the loop ends on the address of one of them. -/
theorem stickyIp_of_mem {entries : List (Sigma fun _ : BitVec 32 => ClientInfo)}
    {deviceId : String} (ip : BitVec 32) (present : ∃ entry ∈ entries, entry.2.deviceId = deviceId) :
    ∃ entry ∈ entries, entry.2.deviceId = deviceId ∧ stickyIp entries deviceId ip = entry.2.virtualIp := by
  induction entries generalizing ip with
  | nil => obtain ⟨_, member, _⟩ := present; cases member
  | cons entry rest inductionHypothesis =>
    by_cases later : ∃ other ∈ rest, other.2.deviceId = deviceId
    · obtain ⟨other, member, same, result⟩ := inductionHypothesis _ later
      exact ⟨other, List.mem_cons_of_mem _ member, same, result⟩
    · push_neg at later
      obtain ⟨other, member, same⟩ := present
      obtain rfl : other = entry := by
        rcases List.mem_cons.1 member with equal | tail
        · exact equal
        · exact absurd same (later other tail)
      refine ⟨other, List.mem_cons_self _ _, same, ?_⟩
      rw [stickyIp, List.foldl_cons, if_pos same]
      exact stickyIp_of_forall_ne later

/-- When at most one entry has the device's id, the loop's result does not depend on the
order of the entries. -/
theorem stickyIp_perm {entries entries' : List (Sigma fun _ : BitVec 32 => ClientInfo)}
    {deviceId : String} {ip : BitVec 32} (perm : entries'.Perm entries)
    (single : ∀ entry ∈ entries, ∀ entry' ∈ entries, entry.2.deviceId = deviceId →
      entry'.2.deviceId = deviceId → entry = entry') :
    stickyIp entries' deviceId ip = stickyIp entries deviceId ip := by
  by_cases present : ∃ entry ∈ entries, entry.2.deviceId = deviceId
  · obtain ⟨entry, member, same, result⟩ := stickyIp_of_mem ip present
    have present' : ∃ entry ∈ entries', entry.2.deviceId = deviceId :=
      let ⟨other, member, same⟩ := present; ⟨other, perm.mem_iff.2 member, same⟩
    obtain ⟨entry', member', same', result'⟩ := stickyIp_of_mem ip present'
    rw [result, result', single entry' (perm.mem_iff.1 member') entry member same' same]
  · push_neg at present
    rw [stickyIp_of_forall_ne present,
      stickyIp_of_forall_ne fun entry member => present entry (perm.mem_iff.1 member)]

/-- The scan from `start` is a search of the addresses `start, start + 1, ...` for the first
free one. -/
theorem scanIp_ofNat (info : NetworkInfo) (start count : Nat) :
    scanIp info (BitVec.ofNat 32 start) count =
      (((List.range' start count).map (BitVec.ofNat 32)).find? fun ip => info.Free ip).getD 0 := by
  induction count generalizing start with
  | zero => rfl
  | succ count inductionHypothesis =>
    have next : BitVec.ofNat 32 start + 1 = BitVec.ofNat 32 (start + 1) := by
      rw [BitVec.ofNat_add]; rfl
    rw [scanIp, next, inductionHypothesis]
    by_cases gateway : BitVec.ofNat 32 start = info.gatewayIp <;>
      by_cases member : BitVec.ofNat 32 start ∈ info.clients <;>
      simp [List.range', NetworkInfo.Free, gateway, member]

/-- The scan of `register` returns the first free address of `ip_range`, or `0`. -/
theorem scanIp_range (config : ConfigInfo) (info : NetworkInfo) :
    scanIp info config.ipRange.1 config.rangeCount =
      (config.rangeIps.find? fun ip => info.Free ip).getD 0 := by
  rw [ConfigInfo.rangeIps, ← scanIp_ofNat, BitVec.ofNat_toNat, BitVec.setWidth_eq]

theorem scanIp_range_of_ne_zero {config : ConfigInfo} {info : NetworkInfo} {ip : BitVec 32}
    (scanned : scanIp info config.ipRange.1 config.rangeCount = ip) (nonzero : ip ≠ 0) :
    config.InRange ip ∧ info.Free ip := by
  rw [scanIp_range] at scanned
  cases found : config.rangeIps.find? fun ip => info.Free ip with
  | none => rw [found] at scanned; exact absurd scanned.symm nonzero
  | some ip' =>
    rw [found, Option.getD_some] at scanned
    subst scanned
    exact ⟨mem_rangeIps.1 (List.mem_of_find?_eq_some found), by simpa using List.find?_some found⟩

/-- What a successful allocation returns, in a directory whose entries have nonzero
addresses: the address of an entry with the device's id, or, when there is none, a usable
address of the range that has no entry. -/
theorem allocate_eq_ok {config : ConfigInfo} {info : NetworkInfo} {request : RegistrationRequest}
    {ip : BitVec 32} (gateway : info.gatewayIp = config.gateway)
    (nonzero : ∀ entry ∈ info.clients.entries, entry.2.virtualIp ≠ 0)
    (allocated : allocate config info request = .ok ip) :
    ip ≠ 0 ∧
      ((∃ entry ∈ info.clients.entries, entry.2.deviceId = request.deviceId ∧ entry.2.virtualIp = ip) ∨
        ((∀ entry ∈ info.clients.entries, entry.2.deviceId ≠ request.deviceId) ∧
          ip ∉ info.clients ∧ config.InRange ip ∧ ip ≠ config.gateway)) := by
  unfold allocate at allocated
  split at allocated
  · cases allocated
  rename_i requested hRequested
  generalize hSticky : stickyIp info.clients.entries request.deviceId requested = sticky at allocated
  by_cases exhausted : (if sticky = 0 then scanIp info config.ipRange.1 config.rangeCount
      else sticky) = 0
  · rw [if_pos exhausted] at allocated
    cases allocated
  rw [if_neg exhausted] at allocated
  cases allocated
  refine ⟨exhausted, ?_⟩
  by_cases present : ∃ entry ∈ info.clients.entries, entry.2.deviceId = request.deviceId
  · obtain ⟨entry, member, same, sticky⟩ := stickyIp_of_mem requested present
    rw [hSticky] at sticky
    subst sticky
    rw [if_neg (nonzero entry member)]
    exact .inl ⟨entry, member, same, rfl⟩
  push_neg at present
  refine .inr ⟨present, ?_⟩
  rw [stickyIp_of_forall_ne present] at hSticky
  subst hSticky
  rcases requestedIp_eq_ok hRequested with rfl | ⟨rfl, zero, notGateway, inRange, holder⟩
  · rw [if_pos rfl] at exhausted ⊢
    obtain ⟨inRange, notGateway, absent⟩ := scanIp_range_of_ne_zero rfl exhausted
    exact ⟨absent, inRange, gateway ▸ notGateway⟩
  · rw [if_neg zero]
    refine ⟨fun member => ?_, inRange, Ne.symm notGateway⟩
    obtain ⟨entry, found⟩ := Option.isSome_iff_exists.1 (AList.lookup_isSome.2 member)
    exact present ⟨_, entry⟩ (mem_entries_iff.2 found) (holder entry found)

/-! ### Updating the directory -/

/-- Lines 352-358: the fields `register` writes into the entry at the chosen address. -/
def ClientInfo.update (entry : ClientInfo) (virtualIp : BitVec 32) (request : RegistrationRequest)
    (addr : SocketAddr) (tcpSender : Option TcpSender) : ClientInfo :=
  { entry with
    name := request.name
    deviceId := request.deviceId
    clientSecret := request.clientSecret
    address := addr
    online := true
    virtualIp := virtualIp
    tcpSender := tcpSender }

/-- Lines 348-359: the entry at the chosen address (`or_insert_with` a default one) takes the
request's fields, and the epoch goes up by one. An existing entry keeps its `client_status`. -/
def NetworkInfo.enroll (info : NetworkInfo) (virtualIp : BitVec 32) (request : RegistrationRequest)
    (addr : SocketAddr) (tcpSender : Option TcpSender) : NetworkInfo :=
  { info with
    clients := info.clients.insert virtualIp
      (((info.clients.lookup virtualIp).getD ClientInfo.default).update virtualIp request addr
        tcpSender)
    epoch := info.epoch + 1 }

/-- The section of `register` under the group's write lock (lines 299-359): the chosen
address and the directory after the update. -/
def NetworkInfo.register (config : ConfigInfo) (info : NetworkInfo) (request : RegistrationRequest)
    (addr : SocketAddr) (tcpSender : Option TcpSender) : Except Error (BitVec 32 × NetworkInfo) :=
  match allocate config info request with
  | .error e => .error e
  | .ok ip => .ok (ip, info.enroll ip request addr tcpSender)

@[simp] theorem enroll_networkIp (info : NetworkInfo) (ip : BitVec 32) (request : RegistrationRequest)
    (addr : SocketAddr) (tcpSender : Option TcpSender) :
    (info.enroll ip request addr tcpSender).networkIp = info.networkIp := rfl

@[simp] theorem enroll_maskIp (info : NetworkInfo) (ip : BitVec 32) (request : RegistrationRequest)
    (addr : SocketAddr) (tcpSender : Option TcpSender) :
    (info.enroll ip request addr tcpSender).maskIp = info.maskIp := rfl

@[simp] theorem enroll_gatewayIp (info : NetworkInfo) (ip : BitVec 32) (request : RegistrationRequest)
    (addr : SocketAddr) (tcpSender : Option TcpSender) :
    (info.enroll ip request addr tcpSender).gatewayIp = info.gatewayIp := rfl

@[simp] theorem enroll_epoch (info : NetworkInfo) (ip : BitVec 32) (request : RegistrationRequest)
    (addr : SocketAddr) (tcpSender : Option TcpSender) :
    (info.enroll ip request addr tcpSender).epoch = info.epoch + 1 := rfl

@[simp] theorem update_deviceId (entry : ClientInfo) (ip : BitVec 32) (request : RegistrationRequest)
    (addr : SocketAddr) (tcpSender : Option TcpSender) :
    (entry.update ip request addr tcpSender).deviceId = request.deviceId := rfl

@[simp] theorem update_virtualIp (entry : ClientInfo) (ip : BitVec 32) (request : RegistrationRequest)
    (addr : SocketAddr) (tcpSender : Option TcpSender) :
    (entry.update ip request addr tcpSender).virtualIp = ip := rfl

/-- The entry update writes one key and leaves every other key as it was. -/
theorem enroll_lookup (info : NetworkInfo) (ip : BitVec 32) (request : RegistrationRequest)
    (addr : SocketAddr) (tcpSender : Option TcpSender) (key : BitVec 32) :
    (info.enroll ip request addr tcpSender).clients.lookup key =
      if key = ip then
        some (((info.clients.lookup ip).getD ClientInfo.default).update ip request addr tcpSender)
      else info.clients.lookup key := by
  split_ifs with same
  · subst same; exact AList.lookup_insert _
  · exact AList.lookup_insert_ne same

theorem mem_enroll {info : NetworkInfo} {ip : BitVec 32} {request : RegistrationRequest}
    {addr : SocketAddr} {tcpSender : Option TcpSender} {key : BitVec 32} :
    key ∈ (info.enroll ip request addr tcpSender).clients ↔ key = ip ∨ key ∈ info.clients :=
  AList.mem_insert _

/-- Writing the request's fields into an entry that already has them changes nothing. -/
theorem ClientInfo.update_update (entry : ClientInfo) (ip : BitVec 32) (request : RegistrationRequest)
    (addr : SocketAddr) (tcpSender : Option TcpSender) :
    (entry.update ip request addr tcpSender).update ip request addr tcpSender =
      entry.update ip request addr tcpSender := rfl

/-- The same entry update made twice moves only the epoch the second time. -/
theorem NetworkInfo.enroll_enroll (info : NetworkInfo) (ip : BitVec 32) (request : RegistrationRequest)
    (addr : SocketAddr) (tcpSender : Option TcpSender) :
    (info.enroll ip request addr tcpSender).enroll ip request addr tcpSender =
      { info.enroll ip request addr tcpSender with
        epoch := (info.enroll ip request addr tcpSender).epoch + 1 } := by
  simp only [NetworkInfo.enroll, AList.lookup_insert, Option.getD_some, ClientInfo.update_update,
    AList.insert_insert]

/-- A requested address that passed its checks passes them again once the request is
written: the only entry that changed carries the request's own device id. -/
theorem requestedIp_enroll {config : ConfigInfo} {info : NetworkInfo}
    {request : RegistrationRequest} (ip : BitVec 32) (addr : SocketAddr)
    (tcpSender : Option TcpSender) {requested : BitVec 32}
    (accepted : requestedIp config info request = .ok requested) :
    ∃ requested', requestedIp config (info.enroll ip request addr tcpSender) request = .ok requested' := by
  unfold requestedIp at accepted ⊢
  by_cases zero : request.virtualIp = 0
  · exact ⟨0, if_pos zero⟩
  by_cases invalid : config.gateway = request.virtualIp ∨ config.broadcast = request.virtualIp ∨
      ¬ config.InRange request.virtualIp
  · rw [if_neg zero, if_pos invalid] at accepted; cases accepted
  rw [if_neg zero, if_neg invalid] at accepted ⊢
  by_cases same : request.virtualIp = ip
  · rw [enroll_lookup, if_pos same]
    exact ⟨_, if_neg (by simp)⟩
  · rw [enroll_lookup, if_neg same]
    exact ⟨_, accepted⟩

theorem register_eq_ok {config : ConfigInfo} {info info' : NetworkInfo}
    {request : RegistrationRequest} {addr : SocketAddr} {tcpSender : Option TcpSender}
    {ip : BitVec 32} :
    info.register config request addr tcpSender = .ok (ip, info') ↔
      allocate config info request = .ok ip ∧ info' = info.enroll ip request addr tcpSender := by
  unfold NetworkInfo.register
  cases allocate config info request with
  | error e => simp
  | ok ip' =>
    simp only [Except.ok.injEq, Prod.mk.injEq]
    constructor <;> rintro ⟨rfl, rfl⟩ <;> exact ⟨rfl, rfl⟩

theorem register_eq_error {config : ConfigInfo} {info : NetworkInfo}
    {request : RegistrationRequest} {addr : SocketAddr} {tcpSender : Option TcpSender}
    {e : Error} :
    info.register config request addr tcpSender = .error e ↔ allocate config info request = .error e := by
  unfold NetworkInfo.register
  cases allocate config info request <;> simp

/-- `clients_info`: the roster of every entry whose `virtual_ip` is not `current_ip`. -/
def clientsInfo (clients : Clients) (currentIp : BitVec 32) : List DeviceInfo :=
  (clients.entries.filter fun entry => entry.2.virtualIp ≠ currentIp).map fun entry =>
    { virtualIp := entry.2.virtualIp
      name := entry.2.name
      deviceStatus := if entry.2.online then 0 else 1
      clientSecret := entry.2.clientSecret }

/-- The `ClientStatusInfo` that `up_client_status_info` builds from a report at time `now`. -/
def Message.ClientStatusInfo.toEntity (status : Message.ClientStatusInfo) (now : Nat) :
    Vnts.ClientStatusInfo where
  p2pList := status.p2pList
  upStream := status.upStream
  downStream := status.downStream
  isCone := status.natType = .cone
  updateTime := now

/-- `up_client_status_info` on the group's directory: the entry at the reported `source`, if
there is one, takes the new status. -/
def NetworkInfo.upClientStatusInfo (info : NetworkInfo) (status : Message.ClientStatusInfo)
    (now : Nat) : NetworkInfo :=
  { info with
    clients :=
      match info.clients.lookup status.source with
      | some entry =>
        info.clients.insert status.source { entry with clientStatus := some (status.toEntity now) }
      | none => info.clients }

/-- A status report rewrites the `client_status` of the entry at its `source`, and nothing
else. -/
theorem upClientStatusInfo_lookup (info : NetworkInfo) (status : Message.ClientStatusInfo)
    (now : Nat) (key : BitVec 32) :
    (info.upClientStatusInfo status now).clients.lookup key =
      (info.clients.lookup key).map fun entry =>
        if key = status.source then { entry with clientStatus := some (status.toEntity now) }
        else entry := by
  unfold NetworkInfo.upClientStatusInfo
  split
  · rename_i entry found
    by_cases same : key = status.source
    · subst same; simp [found]
    · simp [AList.lookup_insert_ne same, same]
  · rename_i absent
    by_cases same : key = status.source
    · subst same; simp [absent]
    · simp [same]

theorem mem_upClientStatusInfo {info : NetworkInfo} {status : Message.ClientStatusInfo}
    {now : Nat} {key : BitVec 32} :
    key ∈ (info.upClientStatusInfo status now).clients ↔ key ∈ info.clients := by
  rw [← AList.lookup_isSome, ← AList.lookup_isSome, upClientStatusInfo_lookup]
  simp

end Vnts
