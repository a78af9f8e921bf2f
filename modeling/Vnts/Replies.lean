import Vnts.Relay
import Vnts.Server

/-
This file settles what the two replies that carry a roster say: the `RegistrationResponse`
of `register` and the `DeviceList` of `poll_device_list`. Each takes its roster and its
epoch from one directory state, under one lock: for a registration the directory its own
update left, for a poll the group's directory as the call reads it. In every reachable state
the roster has one `DeviceInfo` per entry other than the caller's. `clients_info` filters on
the entry's `virtual_ip` field, not on its key, so this rests on the invariant that every
entry sits at its own `virtual_ip`.

A registration repeated from the same address gets the same address back, writes the same
entry and the same sessions again, and moves only its group's epoch.
-/

namespace Vnts

/-! ### Rosters -/

/-- What a roster says of a group's entries to the client at `self`: one `DeviceInfo` for
each entry whose key is not `self`, and none for `self` or for an address without an entry;
each carries its entry's key, name and `client_secret`, and `device_status` 0 exactly when
the entry is online. -/
structure RosterOf (clients : Clients) (self : BitVec 32) (roster : List DeviceInfo) : Prop where
  count : ∀ ip, roster.countP (fun device => device.virtualIp = ip) =
    if ip ≠ self ∧ ip ∈ clients then 1 else 0
  fields : ∀ device ∈ roster, ∃ entry, clients.lookup device.virtualIp = some entry ∧
    device.name = entry.name ∧ device.clientSecret = entry.clientSecret ∧
    (device.deviceStatus = 0 ↔ entry.online = true)

/-- A directory has one entry per key. -/
theorem countP_key_eq (clients : Clients) (ip : BitVec 32) :
    clients.entries.countP (fun entry => entry.1 = ip) = if ip ∈ clients then 1 else 0 := by
  have nodup : (clients.entries.map Sigma.fst).Nodup := clients.nodupKeys
  have counted : clients.entries.countP (fun entry => entry.1 = ip) =
      (clients.entries.map Sigma.fst).count ip := by
    rw [List.count, List.countP_map]
    congr
  rw [counted]
  split_ifs with member
  · exact List.count_eq_one_of_mem nodup member
  · exact List.count_eq_zero_of_not_mem member

/-- In a well-formed directory `clients_info` is the roster seen from `self`: its filter on
the entries' `virtual_ip` is a filter on their keys. -/
theorem NetworkInfo.WellFormed.rosterOf_clientsInfo {config : ConfigInfo} {info : NetworkInfo}
    (wellFormed : info.WellFormed config) (self : BitVec 32) :
    RosterOf info.clients self (clientsInfo info.clients self) where
  count ip := by
    have keyed : ∀ entry ∈ info.clients.entries, entry.2.virtualIp = entry.1 :=
      fun entry member => wellFormed.keyed _ _ (mem_entries_iff.1 member)
    simp only [clientsInfo, List.countP_map, List.countP_filter]
    calc _ = info.clients.entries.countP (fun entry => entry.1 = ip ∧ entry.1 ≠ self) :=
          List.countP_congr fun entry member => by simp [keyed entry member]
      _ = if ip ≠ self ∧ ip ∈ info.clients then 1 else 0 := by
          by_cases same : ip = self
          · subst same
            rw [if_neg fun other => other.1 rfl]
            exact List.countP_eq_zero.2 fun entry _ chosen => by simp at chosen
          · have keyOnly : info.clients.entries.countP (fun entry => entry.1 = ip ∧ entry.1 ≠ self) =
                info.clients.entries.countP (fun entry => entry.1 = ip) :=
              List.countP_congr fun entry _ => by
                simp only [decide_eq_true_eq]
                exact ⟨And.left, fun atIp => ⟨atIp, atIp ▸ same⟩⟩
            rw [keyOnly, countP_key_eq]
            simp [same]
  fields device member := by
    obtain ⟨entry, chosen, rfl⟩ := List.mem_map.1 member
    have held := mem_entries_iff.1 (List.mem_filter.1 chosen).1
    refine ⟨entry.2, ?_, rfl, rfl, ?_⟩
    · rw [wellFormed.keyed _ _ held]; exact held
    · cases entry.2.online <;> simp

/-- Roster and epoch come from one snapshot. In every reachable state, the response of a
registration committed at `virtualIp`, and the device list a `PollDeviceList` from an address
whose context is `virtualIp` gets, carry the roster of one directory of the group as seen
from `virtualIp` and that directory's epoch modulo `2^32`. For a registration the directory
is the one its own update left, which the call leaves in the group; for a poll it is the
group's directory, and the call changes no state. -/
theorem roster_epoch_snapshot (handler : ServerPacketHandler) (codec : Codec) {cache : AppCache}
    (reachable : cache.Reachable handler.config) :
    (∀ packet addr tcpSender request virtualIp info,
      codec.parseRegistrationRequest packet.payload = .ok request →
      (handler.registerLocked cache request addr tcpSender).1 = .ok (virtualIp, info) →
      let registered := handler.register codec cache packet addr tcpSender
      registered.2.virtualNetwork request.token = some info ∧
      ∃ response : RegistrationResponse, registered.1 = (codec.writeRegistrationResponse response).map
          (fun bytes => some (.reply (.service .registrationResponse) bytes)) ∧
        response.virtualIp = virtualIp ∧ RosterOf info.clients virtualIp response.deviceInfoList ∧
        response.epoch = info.epoch.setWidth 32) ∧
    (∀ packet decrypted addr tcpSender now group virtualIp info,
      packet.protocol ≠ .service .handshakeRequest →
      packet.protocol ≠ .service .secretHandshakeRequest →
      decryptGate codec cache packet addr = .ok decrypted →
      decrypted.protocol = .service .pollDeviceList →
      cache.addrSession addr = some (group, virtualIp) → cache.virtualNetwork group = some info →
      let handled := handler.handle codec cache packet addr tcpSender now
      handled.cache = cache ∧ handled.sends = [] ∧
      ∃ deviceList : DeviceList, handled.result = (codec.writeDeviceList deviceList).map
          (fun bytes => some (.reply (.service .pushDeviceList) bytes)) ∧
        RosterOf info.clients virtualIp deviceList.deviceInfoList ∧
        deviceList.epoch = info.epoch.setWidth 32) := by
  refine ⟨fun packet addr tcpSender request virtualIp info parsed committed => ?_,
    fun packet decrypted addr tcpSender now group virtualIp info handshake secretHandshake gate
      polled session current => ?_⟩
  · rcases handler.registerLocked_cases cache request addr tcpSender with
      ⟨_, -, locked⟩ | ⟨-, -, locked⟩ | ⟨-, -, _, -, locked⟩ | ⟨-, -, _, _, enrolled, locked⟩ <;>
      rw [locked] at committed <;> cases committed
    have wellFormed := (reachable.getD request.token).wellFormed.register enrolled
    rw [handler.register_of_commit codec cache packet addr tcpSender parsed locked]
    exact ⟨by simp, _, rfl, rfl, wellFormed.rosterOf_clientsInfo virtualIp, rfl⟩
  · have found : cache.getContext addr = some ⟨group, info, virtualIp⟩ :=
      AppCache.getContext_eq_some.2 ⟨session, current⟩
    have polledResult : handleContext codec cache decrypted ⟨group, info, virtualIp⟩ now =
        ⟨pollDeviceList codec ⟨group, info, virtualIp⟩, cache, []⟩ := by
      simp only [handleContext, polled]
    rw [handler.handle_of_context codec cache packet addr tcpSender now handshake secretHandshake
      gate (by simp [polled]) (by simp [polled]) found, polledResult]
    exact ⟨rfl, rfl, _, rfl, (reachable _ _ current).wellFormed.rosterOf_clientsInfo virtualIp, rfl⟩

/-- After device `A` registered: a registration of device `B` from another address commits,
and its response lists `A`; a poll from `A`'s address lists `B`'s group as it stands. -/
theorem roster_epoch_snapshot_registered :
    let handler : ServerPacketHandler :=
      ⟨⟨0x0A000001, 0xFFFFFF00, 0x0A0000FF, none⟩, none, "1.2.16"⟩
    let codec : Codec := { (default : Codec) with
      parseRegistrationRequest := fun payload => .ok (if payload = [] then
        ⟨"T", "A", "A", 0, false, false⟩ else ⟨"T", "B", "B", 0, false, false⟩) }
    let addr : SocketAddr := ⟨.v4 0xCB007105, 4000⟩
    let other : SocketAddr := ⟨.v4 0xC6336407, 5000⟩
    let cache := (handler.handle codec AppCache.empty (.reply (.service .registrationRequest) [])
      addr none 0).cache
    cache.Reachable handler.config ∧
    (∃ virtualIp info, (handler.registerLocked cache ⟨"T", "B", "B", 0, false, false⟩ other none).1 =
        .ok (virtualIp, info) ∧
      let registered := handler.register codec cache (.reply (.service .registrationRequest) [1])
        other none
      registered.2.virtualNetwork "T" = some info ∧
      ∃ response : RegistrationResponse, registered.1 = (codec.writeRegistrationResponse response).map
          (fun bytes => some (.reply (.service .registrationResponse) bytes)) ∧
        response.virtualIp = virtualIp ∧ RosterOf info.clients virtualIp response.deviceInfoList ∧
        response.epoch = info.epoch.setWidth 32) ∧
    (∃ info, cache.virtualNetwork "T" = some info ∧
      let handled := handler.handle codec cache (.reply (.service .pollDeviceList) []) addr none 0
      handled.cache = cache ∧ handled.sends = [] ∧
      ∃ deviceList : DeviceList, handled.result = (codec.writeDeviceList deviceList).map
          (fun bytes => some (.reply (.service .pushDeviceList) bytes)) ∧
        RosterOf info.clients 0x0A000002 deviceList.deviceInfoList ∧
        deviceList.epoch = info.epoch.setWidth 32) :=
  have reachable := ServerPacketHandler.handle_reachable _ _ (AppCache.reachable_empty _) _ _ none 0
  have snapshot := roster_epoch_snapshot ⟨⟨0x0A000001, 0xFFFFFF00, 0x0A0000FF, none⟩, none, "1.2.16"⟩
    { (default : Codec) with parseRegistrationRequest := fun payload => .ok (if payload = [] then
        ⟨"T", "A", "A", 0, false, false⟩ else ⟨"T", "B", "B", 0, false, false⟩) } reachable
  ⟨reachable, ⟨_, _, rfl, snapshot.1 (.reply (.service .registrationRequest) [1]) _ none
      ⟨"T", "B", "B", 0, false, false⟩ _ _ rfl rfl⟩,
    ⟨_, rfl, snapshot.2 (.reply (.service .pollDeviceList) []) _ _ none 0 "T" _ _ (by decide)
      (by decide) rfl rfl rfl rfl⟩⟩

/-! ### No device is ever offline -/

/-- No device is ever reported offline. In every state of every run from the empty caches in
which nothing expires, every entry of every group is online, since a registration sets `online`
and no code path clears it. So every roster `clients_info` builds, for a registration response
or a device list, reports `device_status` 0 for each device, and the `online` test of
`broadcast` never turns an entry away. -/
theorem run_devices_online (handler : ServerPacketHandler) (codec : Codec)
    (inbounds : List Inbound) :
    let cache := handler.run codec AppCache.empty inbounds
    (∀ key entry, cache.lookup key = some entry → entry.online = true) ∧
    ∀ group info, cache.virtualNetwork group = some info →
      ∀ currentIp, ∀ device ∈ clientsInfo info.clients currentIp, device.deviceStatus = 0 := by
  intro cache
  have reachable : cache.Reachable handler.config :=
    handler.run_reachable codec (AppCache.reachable_empty handler.config) inbounds
  refine ⟨fun key entry held => ?_, fun group info current currentIp device member => ?_⟩
  · obtain ⟨info, current, found⟩ := Option.bind_eq_some.1 held
    exact (reachable _ info current).online _ _ found
  · simp only [clientsInfo, List.mem_map, List.mem_filter] at member
    obtain ⟨⟨ip, entry⟩, ⟨entered, -⟩, rfl⟩ := member
    simp [(reachable _ info current).online ip entry (mem_entries_iff.1 entered)]

/-! ### Registering again -/

/-- Registering again. In every reachable state, a registration whose locked section commits
at `virtualIp`, repeated with the same request from the same address and TCP connection in
the state it left, commits at `virtualIp` again. The state after the second call is the one
after the first with the group's epoch one higher, and its response is the first one with
only the epoch changed: the same public address, gateway, netmask, virtual ip and roster. -/
theorem register_again_bumps_epoch (handler : ServerPacketHandler) (codec : Codec)
    {cache : AppCache} (reachable : cache.Reachable handler.config) (packet : NetPacket)
    (addr : SocketAddr) (tcpSender : Option TcpSender) {request : RegistrationRequest}
    (parsed : codec.parseRegistrationRequest packet.payload = .ok request) {virtualIp : BitVec 32}
    {info : NetworkInfo}
    (committed : (handler.registerLocked cache request addr tcpSender).1 = .ok (virtualIp, info)) :
    let registered := handler.register codec cache packet addr tcpSender
    let again := handler.register codec registered.2 packet addr tcpSender
    let info' : NetworkInfo := { info with epoch := info.epoch + 1 }
    registered.1 = (codec.writeRegistrationResponse
        (registrationResponse handler.config addr virtualIp info)).map
      (fun bytes => some (.reply (.service .registrationResponse) bytes)) ∧
    registered.2.virtualNetwork request.token = some info ∧
    (handler.registerLocked registered.2 request addr tcpSender).1 = .ok (virtualIp, info') ∧
    again.2 = registered.2.setNetwork request.token info' ∧
    again.1 = (codec.writeRegistrationResponse
        (registrationResponse handler.config addr virtualIp info')).map
      (fun bytes => some (.reply (.service .registrationResponse) bytes)) ∧
    registrationResponse handler.config addr virtualIp info' =
      { registrationResponse handler.config addr virtualIp info with
        epoch := info'.epoch.setWidth 32 } := by
  rcases handler.registerLocked_cases cache request addr tcpSender with
    ⟨_, -, locked⟩ | ⟨-, -, locked⟩ | ⟨-, -, _, -, locked⟩ |
      ⟨checked, allowed, virtualIp', info'', enrolled, locked⟩ <;>
    rw [locked] at committed <;> cases committed
  intro registered again info'
  have first := handler.register_of_commit codec cache packet addr tcpSender parsed locked
  have current : registered.2.virtualNetwork request.token = some info := by
    simp [registered, first]
  have twice := (reachable.getD request.token).wellFormed.register_register enrolled
  have lockedAgain : handler.registerLocked registered.2 request addr tcpSender =
      (.ok (virtualIp, info'), registered.2.setNetwork request.token info') := by
    simp only [ServerPacketHandler.registerLocked, checked, allowed, AppCache.optionallyGetWith_eq,
      current, Option.getD_some, twice, if_true, AppCache.setNetwork_setNetwork, info']
  have second := handler.register_of_commit codec registered.2 packet addr tcpSender parsed
    lockedAgain
  refine ⟨congrArg Prod.fst first, current, congrArg Prod.fst lockedAgain, ?_,
    congrArg Prod.fst second, registrationResponse_epoch _ _ _ _ _⟩
  show (handler.register codec registered.2 packet addr tcpSender).2 = _
  rw [second, AppCache.insertIpSession_of_eq, AppCache.insertAddrSession_of_eq] <;>
    simp [registered, first]

theorem register_again_bumps_epoch_first :
    let handler : ServerPacketHandler :=
      ⟨⟨0x0A000001, 0xFFFFFF00, 0x0A0000FF, none⟩, none, "1.2.16"⟩
    let request : RegistrationRequest := ⟨"T", "A", "A", 0, false, false⟩
    let codec : Codec := { (default : Codec) with parseRegistrationRequest := fun _ => .ok request }
    let packet := NetPacket.reply (.service .registrationRequest) []
    let addr : SocketAddr := ⟨.v4 0xCB007105, 4000⟩
    let info := handler.config.newNetwork.enroll 0x0A000002 request addr none
    let registered := handler.register codec AppCache.empty packet addr none
    let again := handler.register codec registered.2 packet addr none
    let info' : NetworkInfo := { info with epoch := info.epoch + 1 }
    AppCache.empty.Reachable handler.config ∧
    codec.parseRegistrationRequest packet.payload = .ok request ∧
    (handler.registerLocked AppCache.empty request addr none).1 = .ok (0x0A000002, info) ∧
    registered.1 = (codec.writeRegistrationResponse
        (registrationResponse handler.config addr 0x0A000002 info)).map
      (fun bytes => some (.reply (.service .registrationResponse) bytes)) ∧
    registered.2.virtualNetwork request.token = some info ∧
    (handler.registerLocked registered.2 request addr none).1 = .ok (0x0A000002, info') ∧
    again.2 = registered.2.setNetwork request.token info' ∧
    again.1 = (codec.writeRegistrationResponse
        (registrationResponse handler.config addr 0x0A000002 info')).map
      (fun bytes => some (.reply (.service .registrationResponse) bytes)) ∧
    registrationResponse handler.config addr 0x0A000002 info' =
      { registrationResponse handler.config addr 0x0A000002 info with
        epoch := info'.epoch.setWidth 32 } :=
  have committed : (ServerPacketHandler.registerLocked
      ⟨⟨0x0A000001, 0xFFFFFF00, 0x0A0000FF, none⟩, none, "1.2.16"⟩ AppCache.empty
      ⟨"T", "A", "A", 0, false, false⟩ ⟨.v4 0xCB007105, 4000⟩ none).1 =
      .ok (0x0A000002, ConfigInfo.newNetwork ⟨0x0A000001, 0xFFFFFF00, 0x0A0000FF, none⟩ |>.enroll
        0x0A000002 ⟨"T", "A", "A", 0, false, false⟩ ⟨.v4 0xCB007105, 4000⟩ none) := rfl
  ⟨AppCache.reachable_empty _, rfl, committed,
    register_again_bumps_epoch _ _ (AppCache.reachable_empty _) _ _ none rfl committed⟩

/-! ### Polling after a registration -/

/-- A client can poll at once after it registers, and the poll shows what the registration
response showed. In the state a registration from `addr` leaves once its locked section
commits, a cleartext `PollDeviceList` from `addr` is answered with a device list that has the
registration response's roster and epoch, and changes nothing. -/
theorem register_then_poll (handler : ServerPacketHandler) (codec : Codec) (cache : AppCache)
    (packet : NetPacket) (addr : SocketAddr) (tcpSender : Option TcpSender)
    {request : RegistrationRequest}
    (parsed : codec.parseRegistrationRequest packet.payload = .ok request) {virtualIp : BitVec 32}
    {info : NetworkInfo}
    (committed : (handler.registerLocked cache request addr tcpSender).1 = .ok (virtualIp, info))
    (poll : NetPacket) (polled : poll.protocol = .service .pollDeviceList)
    (cleartext : poll.encrypted = false) (pollTcpSender : Option TcpSender) (now : Nat) :
    let registered := (handler.register codec cache packet addr tcpSender).2
    let response := registrationResponse handler.config addr virtualIp info
    handler.handle codec registered poll addr pollTcpSender now =
      ⟨(codec.writeDeviceList ⟨response.epoch, response.deviceInfoList⟩).map
          (fun bytes => some (.reply (.service .pushDeviceList) bytes)),
        registered, []⟩ := by
  rcases handler.registerLocked_cases cache request addr tcpSender with
    ⟨_, -, locked⟩ | ⟨-, -, locked⟩ | ⟨-, -, _, -, locked⟩ | ⟨-, -, _, _, -, locked⟩ <;>
    rw [locked] at committed <;> cases committed
  intro registered response
  have written : registered = ((cache.setNetwork request.token info).insertIpSession
      (request.token, virtualIp) addr).insertAddrSession addr (request.token, virtualIp) :=
    congrArg Prod.snd (handler.register_of_commit codec cache packet addr tcpSender parsed locked)
  have found : registered.getContext addr = some ⟨request.token, info, virtualIp⟩ :=
    AppCache.getContext_eq_some.2 ⟨by simp [written], by simp [written]⟩
  have gate : decryptGate codec registered poll addr = .ok poll := by
    simp [decryptGate, cleartext]
  rw [handler.handle_of_context codec registered poll addr pollTcpSender now (by simp [polled])
    (by simp [polled]) gate (by simp [polled]) (by simp [polled]) found]
  simp only [handleContext, polled]
  rfl

theorem register_then_poll_first :
    let handler : ServerPacketHandler :=
      ⟨⟨0x0A000001, 0xFFFFFF00, 0x0A0000FF, none⟩, none, "1.2.16"⟩
    let request : RegistrationRequest := ⟨"T", "A", "A", 0, false, false⟩
    let codec : Codec := { (default : Codec) with parseRegistrationRequest := fun _ => .ok request }
    let packet := NetPacket.reply (.service .registrationRequest) []
    let poll := NetPacket.reply (.service .pollDeviceList) []
    let addr : SocketAddr := ⟨.v4 0xCB007105, 4000⟩
    let info := handler.config.newNetwork.enroll 0x0A000002 request addr none
    let registered := (handler.register codec AppCache.empty packet addr none).2
    let response := registrationResponse handler.config addr 0x0A000002 info
    codec.parseRegistrationRequest packet.payload = .ok request ∧
    (handler.registerLocked AppCache.empty request addr none).1 = .ok (0x0A000002, info) ∧
    poll.protocol = .service .pollDeviceList ∧ poll.encrypted = false ∧
    handler.handle codec registered poll addr none 0 =
      ⟨(codec.writeDeviceList ⟨response.epoch, response.deviceInfoList⟩).map
          (fun bytes => some (.reply (.service .pushDeviceList) bytes)),
        registered, []⟩ :=
  have committed : (ServerPacketHandler.registerLocked
      ⟨⟨0x0A000001, 0xFFFFFF00, 0x0A0000FF, none⟩, none, "1.2.16"⟩ AppCache.empty
      ⟨"T", "A", "A", 0, false, false⟩ ⟨.v4 0xCB007105, 4000⟩ none).1 =
      .ok (0x0A000002, ConfigInfo.newNetwork ⟨0x0A000001, 0xFFFFFF00, 0x0A0000FF, none⟩ |>.enroll
        0x0A000002 ⟨"T", "A", "A", 0, false, false⟩ ⟨.v4 0xCB007105, 4000⟩ none) := rfl
  ⟨rfl, committed, rfl, rfl,
    register_then_poll _ _ AppCache.empty _ _ none rfl committed _ rfl rfl none 0⟩

/-! ### The epochs the replies carry -/

/-- The epoch a reply carries moves by the registrations committed into the group, modulo the
width of its field. Over any run, the 16-bit epoch of a pong moves by their number modulo
`2^16`, and the 32-bit epoch of a device list or a registration response by their number
modulo `2^32`. So after a multiple of `2^16` registrations a ping is answered as before: a
client that watches the pongs cannot see that the group changed. -/
theorem reply_epochs_count_registrations (handler : ServerPacketHandler) (codec : Codec)
    (group : String) (cache : AppCache) (inbounds : List Inbound) :
    let info := (cache.virtualNetwork group).getD handler.config.newNetwork
    let info' := ((handler.run codec cache inbounds).virtualNetwork group).getD
      handler.config.newNetwork
    let registrations := handler.registrations codec group cache inbounds
    info'.epoch.setWidth 16 = info.epoch.setWidth 16 + BitVec.ofNat 16 registrations ∧
    info'.epoch.setWidth 32 = info.epoch.setWidth 32 + BitVec.ofNat 32 registrations ∧
    (registrations % 2 ^ 16 = 0 → ∀ packet virtualIp,
      controlPing codec packet ⟨group, info', virtualIp⟩ =
        controlPing codec packet ⟨group, info, virtualIp⟩) := by
  intro info info' registrations
  have counted : info'.epoch = info.epoch + BitVec.ofNat 64 registrations :=
    handler.run_epoch codec group cache inbounds
  have narrowed : ∀ width, width ≤ 64 →
      info'.epoch.setWidth width = info.epoch.setWidth width + BitVec.ofNat width registrations :=
    fun width narrow => by
      rw [counted, BitVec.setWidth_add _ _ narrow, BitVec.setWidth_ofNat_of_le narrow]
  refine ⟨narrowed 16 (by decide), narrowed 32 (by decide), fun wrapped packet virtualIp => ?_⟩
  have vanishes : BitVec.ofNat 16 registrations = 0#16 :=
    BitVec.eq_of_toNat_eq (by rw [BitVec.toNat_ofNat, wrapped]; rfl)
  simp only [controlPing, narrowed 16 (by decide), vanishes, BitVec.add_zero]

end Vnts
