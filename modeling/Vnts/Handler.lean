import Vnts.Directory
import Vnts.Packet

/-
This file models `ServerPacketHandler` of `core/service/server.rs`. `handle` answers the
two handshakes first, then passes every other packet through the decryption gate, then
serves the requests that need no context (registration and address reflection), and last
the requests that need the context of the source address.

The state is the four maps of `AppCache`. One call of `handle` is one step: it reads the
state and returns its result, the state after it and the broadcast copies it sent. Every
write to a group's directory happens under that group's write lock, so within one group
these steps are atomic. The one window the code leaves open inside a call is in
`register`, which drops the lock before it inserts the two sessions; `Vnts.Concurrent`
models that window.
-/

namespace Vnts

/-! ### The session caches -/

/-- Modelled from the spec: `AppCache` of `core/store/cache.rs`, which is not under src/:
the directory of each group by token, the group and virtual ip of each public address, the
public address of each group and virtual ip, and the session cipher of each public address.
Its entries expire after a time to live, which the model leaves out: every statement is
about runs in which nothing expires. -/
structure AppCache where
  virtualNetwork : String → Option NetworkInfo
  addrSession : SocketAddr → Option (String × BitVec 32)
  ipSession : String × BitVec 32 → Option SocketAddr
  cipherSession : SocketAddr → Option Aes256GcmCipher

/-- Modelled from the spec: the caches a server starts with. -/
def AppCache.empty : AppCache where
  virtualNetwork _ := none
  addrSession _ := none
  ipSession _ := none
  cipherSession _ := none

/-- A write through a group's shared directory handle, or the group's creation. -/
@[simps]
def AppCache.setNetwork (cache : AppCache) (group : String) (info : NetworkInfo) : AppCache :=
  { cache with virtualNetwork := Function.update cache.virtualNetwork group (some info) }

/-- Modelled from the spec: `insert_ip_session`. -/
@[simps]
def AppCache.insertIpSession (cache : AppCache) (key : String × BitVec 32) (addr : SocketAddr) :
    AppCache :=
  { cache with ipSession := Function.update cache.ipSession key (some addr) }

/-- Modelled from the spec: `insert_addr_session`. -/
@[simps]
def AppCache.insertAddrSession (cache : AppCache) (addr : SocketAddr)
    (session : String × BitVec 32) : AppCache :=
  { cache with addrSession := Function.update cache.addrSession addr (some session) }

/-- Modelled from the spec: `insert_cipher_session`. -/
@[simps]
def AppCache.insertCipherSession (cache : AppCache) (addr : SocketAddr)
    (cipher : Aes256GcmCipher) : AppCache :=
  { cache with cipherSession := Function.update cache.cipherSession addr (some cipher) }

/-- Modelled from the spec: `virtual_network.optionally_get_with(group, init)`, the group's
directory, created from `init` when the group has none. -/
def AppCache.optionallyGetWith (cache : AppCache) (group : String) (init : NetworkInfo) :
    NetworkInfo × AppCache :=
  match cache.virtualNetwork group with
  | some info => (info, cache)
  | none => (init, cache.setNetwork group init)

/-- Modelled from the spec: `Context`, the group of an address session, the group's
directory, and the address's virtual ip. -/
structure Context where
  group : String
  networkInfo : NetworkInfo
  virtualIp : BitVec 32

/-- Modelled from the spec: `get_context`, which needs an address session whose group
exists. -/
def AppCache.getContext (cache : AppCache) (addr : SocketAddr) : Option Context :=
  match cache.addrSession addr with
  | some (group, virtualIp) =>
    (cache.virtualNetwork group).map fun info => ⟨group, info, virtualIp⟩
  | none => none

/-- The entry of a group's directory at a virtual ip. -/
def AppCache.lookup (cache : AppCache) (key : String × BitVec 32) : Option ClientInfo :=
  (cache.virtualNetwork key.1).bind fun info => info.clients.lookup key.2

/-- Writing back the directory a group already has changes nothing. -/
theorem AppCache.setNetwork_of_eq {cache : AppCache} {group : String} {info : NetworkInfo}
    (current : cache.virtualNetwork group = some info) : cache.setNetwork group info = cache := by
  cases cache
  simp only [setNetwork, ← current, Function.update_eq_self]

/-- Inserting a session the cache already holds changes nothing. -/
theorem AppCache.insertIpSession_of_eq {cache : AppCache} {key : String × BitVec 32}
    {addr : SocketAddr} (current : cache.ipSession key = some addr) :
    cache.insertIpSession key addr = cache := by
  cases cache
  simp only [insertIpSession, ← current, Function.update_eq_self]

theorem AppCache.insertAddrSession_of_eq {cache : AppCache} {addr : SocketAddr}
    {session : String × BitVec 32} (current : cache.addrSession addr = some session) :
    cache.insertAddrSession addr session = cache := by
  cases cache
  simp only [insertAddrSession, ← current, Function.update_eq_self]

@[simp] theorem AppCache.setNetwork_setNetwork (cache : AppCache) (group : String)
    (info info' : NetworkInfo) :
    (cache.setNetwork group info).setNetwork group info' = cache.setNetwork group info' := by
  simp only [setNetwork, Function.update_idem]

/-- Get-or-create leaves the group with the directory it returns. -/
theorem AppCache.optionallyGetWith_eq (cache : AppCache) (group : String) (init : NetworkInfo) :
    cache.optionallyGetWith group init =
      ((cache.virtualNetwork group).getD init,
        cache.setNetwork group ((cache.virtualNetwork group).getD init)) := by
  unfold optionallyGetWith
  split
  · rename_i info current; rw [current, Option.getD_some, setNetwork_of_eq current]
  · rename_i absent; rw [absent]; rfl

/-- Writing back what get-or-create returned changes at most one group: an absent group,
which it creates. -/
theorem AppCache.setNetwork_getD (cache : AppCache) (token group : String) (init : NetworkInfo) :
    let written := cache.setNetwork token ((cache.virtualNetwork token).getD init)
    written.virtualNetwork group = cache.virtualNetwork group ∨
      group = token ∧ cache.virtualNetwork group = none ∧ written.virtualNetwork group = some init := by
  by_cases same : group = token
  · subst same
    cases current : cache.virtualNetwork group
    · exact .inr ⟨rfl, rfl, by simp [current]⟩
    · exact .inl (by simp [current])
  · exact .inl (by simp [same])

theorem AppCache.getContext_eq_some {cache : AppCache} {addr : SocketAddr} {context : Context} :
    cache.getContext addr = some context ↔
      cache.addrSession addr = some (context.group, context.virtualIp) ∧
        cache.virtualNetwork context.group = some context.networkInfo := by
  unfold getContext
  split
  · rename_i group virtualIp session
    rw [session, Option.map_eq_some']
    constructor
    · rintro ⟨info, found, rfl⟩; exact ⟨rfl, found⟩
    · rintro ⟨same, found⟩
      cases same
      exact ⟨_, found, rfl⟩
  · rename_i absent; simp [absent]

/-- Two states with the same session for `addr` and the same directory for its group give
`addr` the same context. -/
theorem AppCache.getContext_congr {cache₁ cache₂ : AppCache} {addr : SocketAddr}
    (sameSession : cache₁.addrSession addr = cache₂.addrSession addr)
    (sameGroup : ∀ group, (cache₁.addrSession addr).map Prod.fst = some group →
      cache₁.virtualNetwork group = cache₂.virtualNetwork group) :
    cache₁.getContext addr = cache₂.getContext addr := by
  unfold getContext
  rw [← sameSession]
  split
  · rename_i group virtualIp session
    rw [sameGroup group (by rw [session]; rfl)]
  · rfl

/-! ### The handler -/

/-- `ServerPacketHandler` without its two handles: the `AppCache` is the state a call is
applied to, and the UDP socket is where `Send.udp` copies go. `version` is the
`CARGO_PKG_VERSION` a handshake reports. -/
structure ServerPacketHandler where
  config : ConfigInfo
  rsaCipher : Option RsaCipher
  version : String

/-- What one call of `handle` produces: its result, the caches after it, and the broadcast
copies it sent. -/
structure Handled where
  result : Except Error (Option NetPacket)
  cache : AppCache
  sends : List Send

/-! ### Registration -/

/-- Lines 255-264: with `white_token` set, only its tokens may register. -/
def ConfigInfo.allowsToken (config : ConfigInfo) (token : String) : Bool :=
  match config.whiteToken with
  | some whiteToken => whiteToken.contains token
  | none => true

/-- The `RegistrationResponse` of a registration from `addr` that got `virtualIp`, with the
epoch and roster of the directory the write lock left (lines 265-286, 359-361, 370). -/
def registrationResponse (config : ConfigInfo) (addr : SocketAddr) (virtualIp : BitVec 32)
    (info : NetworkInfo) : RegistrationResponse :=
  let (publicIp, publicIpv6) : BitVec 32 × List UInt8 :=
    match addr.ip with
    | .v4 ip => (ip, [])
    | .v6 ip =>
      match toIpv4Mapped ip with
      | some ip => (ip, [])
      | none => (0, ipv6Octets ip)
  { publicIp := publicIp
    publicPort := addr.port.setWidth 32
    publicIpv6 := publicIpv6
    virtualIp := virtualIp
    virtualNetmask := config.netmask
    virtualGateway := config.gateway
    epoch := info.epoch.setWidth 32
    deviceInfoList := clientsInfo info.clients virtualIp }

/-- The response of a directory that differs only in its epoch differs only in its epoch. -/
theorem registrationResponse_epoch (config : ConfigInfo) (addr : SocketAddr)
    (virtualIp : BitVec 32) (info : NetworkInfo) (epoch : BitVec 64) :
    registrationResponse config addr virtualIp { info with epoch := epoch } =
      { registrationResponse config addr virtualIp info with epoch := epoch.setWidth 32 } :=
  rfl

/-- Lines 242-363 of `register` for a parsed request: `check_reg`, the allowlist, the
group's get-or-create, and the section under the group's write lock. On success, the
virtual ip and the directory as the lock leaves it. -/
def ServerPacketHandler.registerLocked (handler : ServerPacketHandler) (cache : AppCache)
    (request : RegistrationRequest) (addr : SocketAddr) (tcpSender : Option TcpSender) :
    Except Error (BitVec 32 × NetworkInfo) × AppCache :=
  match checkReg request with
  | .error e => (.error e, cache)
  | .ok () =>
    if handler.config.allowsToken request.token then
      let got := cache.optionallyGetWith request.token handler.config.newNetwork
      match got.1.register handler.config request addr tcpSender with
      | .error e => (.error e, got.2)
      | .ok (virtualIp, info) => (.ok (virtualIp, info), got.2.setNetwork request.token info)
    else (.error .tokenError, cache)

/-- `register`: parse the request and run the locked section; then, with the lock dropped,
insert the two sessions and encode the response. -/
def ServerPacketHandler.register (handler : ServerPacketHandler) (codec : Codec)
    (cache : AppCache) (packet : NetPacket) (addr : SocketAddr) (tcpSender : Option TcpSender) :
    Except Error (Option NetPacket) × AppCache :=
  match codec.parseRegistrationRequest packet.payload with
  | .error e => (.error e, cache)
  | .ok request =>
    match handler.registerLocked cache request addr tcpSender with
    | (.error e, cache) => (.error e, cache)
    | (.ok (virtualIp, info), cache) =>
      let cache := (cache.insertIpSession (request.token, virtualIp) addr).insertAddrSession addr
        (request.token, virtualIp)
      match codec.writeRegistrationResponse
          (registrationResponse handler.config addr virtualIp info) with
      | .error e => (.error e, cache)
      | .ok bytes => (.ok (some (.reply (.service .registrationResponse) bytes)), cache)

/-- The section under the lock can end in four ways: rejected before the group is touched,
refused by the allocator after the group's get-or-create, or committed. The group's
directory is `info`, as get-or-create returns it. -/
theorem ServerPacketHandler.registerLocked_cases (handler : ServerPacketHandler)
    (cache : AppCache) (request : RegistrationRequest) (addr : SocketAddr)
    (tcpSender : Option TcpSender) :
    let info := (cache.virtualNetwork request.token).getD handler.config.newNetwork
    (∃ e, checkReg request = .error e ∧
      handler.registerLocked cache request addr tcpSender = (.error e, cache)) ∨
    (checkReg request = .ok () ∧ handler.config.allowsToken request.token = false ∧
      handler.registerLocked cache request addr tcpSender = (.error .tokenError, cache)) ∨
    (checkReg request = .ok () ∧ handler.config.allowsToken request.token = true ∧
      ∃ e, info.register handler.config request addr tcpSender = .error e ∧
        handler.registerLocked cache request addr tcpSender =
          (.error e, cache.setNetwork request.token info)) ∨
    (checkReg request = .ok () ∧ handler.config.allowsToken request.token = true ∧
      ∃ virtualIp info', info.register handler.config request addr tcpSender = .ok (virtualIp, info') ∧
        handler.registerLocked cache request addr tcpSender =
          (.ok (virtualIp, info'), cache.setNetwork request.token info')) := by
  intro info
  unfold registerLocked
  rw [AppCache.optionallyGetWith_eq]
  rcases checked : checkReg request with e | ⟨⟩
  · exact .inl ⟨e, rfl, rfl⟩
  cases allowed : handler.config.allowsToken request.token
  · exact .inr (.inl ⟨rfl, rfl, rfl⟩)
  rcases registered : info.register handler.config request addr tcpSender with e | ⟨virtualIp, info'⟩
  · exact .inr (.inr (.inl ⟨rfl, rfl, e, rfl, by simp only [info] at registered ⊢; rw [registered]; rfl⟩))
  · refine .inr (.inr (.inr ⟨rfl, rfl, virtualIp, info', rfl, ?_⟩))
    simp only [info] at registered ⊢
    rw [registered]
    simp only [AppCache.setNetwork_setNetwork, ite_true]

/-- After the parse, the state `register` leaves is the one the locked section leaves, with
the two sessions inserted when it committed; encoding the response changes no state. -/
theorem ServerPacketHandler.register_snd (handler : ServerPacketHandler) (codec : Codec)
    (cache : AppCache) (packet : NetPacket) (addr : SocketAddr) (tcpSender : Option TcpSender) :
    (handler.register codec cache packet addr tcpSender).2 =
      match codec.parseRegistrationRequest packet.payload with
      | .error _ => cache
      | .ok request =>
        match handler.registerLocked cache request addr tcpSender with
        | (.error _, cache) => cache
        | (.ok (virtualIp, _), cache) =>
          (cache.insertIpSession (request.token, virtualIp) addr).insertAddrSession addr
            (request.token, virtualIp) := by
  unfold register
  split
  · rfl
  · split
    · rfl
    · split <;> rfl

/-- A registration whose locked section commits returns the encoding of its response, and
inserts the two sessions into the state the locked section left. -/
theorem ServerPacketHandler.register_of_commit (handler : ServerPacketHandler) (codec : Codec)
    (cache : AppCache) (packet : NetPacket) (addr : SocketAddr) (tcpSender : Option TcpSender)
    {request : RegistrationRequest} {virtualIp : BitVec 32} {info : NetworkInfo}
    {written : AppCache} (parsed : codec.parseRegistrationRequest packet.payload = .ok request)
    (locked : handler.registerLocked cache request addr tcpSender = (.ok (virtualIp, info), written)) :
    handler.register codec cache packet addr tcpSender =
      ((codec.writeRegistrationResponse (registrationResponse handler.config addr virtualIp info)).map
          fun bytes => some (.reply (.service .registrationResponse) bytes),
        (written.insertIpSession (request.token, virtualIp) addr).insertAddrSession addr
          (request.token, virtualIp)) := by
  simp only [register, parsed, locked]
  cases codec.writeRegistrationResponse (registrationResponse handler.config addr virtualIp info) <;>
    rfl

/-! ### The other sub-handlers -/

/-- `handshake`: the server's version and, with an RSA key pair, its public key and finger. -/
def ServerPacketHandler.handshake (handler : ServerPacketHandler) (codec : Codec) :
    Except Error (Option NetPacket) :=
  let response : HandshakeResponse :=
    match handler.rsaCipher with
    | some rsaCipher => ⟨handler.version, rsaCipher.publicKey, true, rsaCipher.finger⟩
    | none => ⟨handler.version, [], false, ""⟩
  (codec.writeHandshakeResponse response).map fun bytes =>
    some (.reply (.service .handshakeResponse) bytes)

/-- `secret_handshake`: with an RSA key pair, the session cipher of `addr` becomes the
32-byte key the client sent, under the finger of its token. -/
def ServerPacketHandler.secretHandshake (handler : ServerPacketHandler) (codec : Codec)
    (cache : AppCache) (packet : NetPacket) (addr : SocketAddr) :
    Except Error (Option NetPacket) × AppCache :=
  match handler.rsaCipher with
  | none => (.error (.other "no encryption"), cache)
  | some rsaCipher =>
    match rsaCipher.decrypt packet >>= codec.parseSecretHandshakeRequest with
    | .error e => (.error e, cache)
    | .ok request =>
      if keyLength : request.key.length = 32 then
        (.ok (some (.reply (.service .secretHandshakeResponse) [])),
          cache.insertCipherSession addr ⟨request.key, keyLength, ⟨request.token⟩⟩)
      else (.error (.other "key err"), cache)

/-- `control_addr_request`: the public IPv4 address and port of `addr`, and no reply for an
IPv6 address that is not IPv4-mapped. -/
def controlAddrRequest (codec : Codec) (addr : SocketAddr) : Except Error (Option NetPacket) :=
  let ipv4 : Option (BitVec 32) :=
    match addr.ip with
    | .v4 ip => some ip
    | .v6 ip => toIpv4Mapped ip
  .ok (ipv4.map fun ip => .reply (.control .addrResponse) (codec.addrPayload ip addr.port))

/-- `control_ping`: a pong with the ping's payload and the group's epoch cut to 16 bits. -/
def controlPing (codec : Codec) (packet : NetPacket) (context : Context) :
    Except Error (Option NetPacket) :=
  (codec.pongPayload packet.payload (context.networkInfo.epoch.setWidth 16)).map fun payload =>
    some (.reply (.control .pong) payload)

/-- `poll_device_list`: the roster of the caller's group without the caller, and the epoch
cut to 32 bits, both read under one read lock. -/
def pollDeviceList (codec : Codec) (context : Context) : Except Error (Option NetPacket) :=
  let deviceList : DeviceList :=
    ⟨context.networkInfo.epoch.setWidth 32,
      clientsInfo context.networkInfo.clients context.virtualIp⟩
  (codec.writeDeviceList deviceList).map fun bytes =>
    some (.reply (.service .pushDeviceList) bytes)

/-- `up_client_status_info`: the status write through the context's directory handle. -/
def AppCache.upClientStatusInfo (cache : AppCache) (context : Context)
    (status : Message.ClientStatusInfo) (now : Nat) : AppCache :=
  cache.setNetwork context.group (context.networkInfo.upClientStatusInfo status now)

/-- `broadcast`: a copy of the inner packet for each online client that is not excluded and
whose `client_secret` is the inner packet's encryption flag, over its TCP connection if it
has one and over UDP otherwise. -/
def broadcast (context : Context) (packet : NetPacket) (exclude : List (BitVec 32)) :
    List Send :=
  context.networkInfo.clients.entries.filterMap fun entry =>
    if entry.2.online ∧ entry.1 ∉ exclude then
      if entry.2.clientSecret = packet.encrypted then
        some (match entry.2.tcpSender with
          | some sender => .tcp sender packet
          | none => .udp entry.2.address packet)
      else none
    else none

/-! ### Dispatch -/

/-- Lines 156-163: the error of a packet no branch of the dispatch returned for. -/
def unknown : Except Error (Option NetPacket) :=
  .error (.other "Unknown")

/-- Lines 86-155: the requests that need the context of the source address. -/
def handleContext (codec : Codec) (cache : AppCache) (packet : NetPacket) (context : Context)
    (now : Nat) : Handled :=
  match packet.protocol with
  | .service .pollDeviceList => ⟨pollDeviceList codec context, cache, []⟩
  | .service .clientStatusInfo =>
    match codec.parseClientStatusInfo packet.payload with
    | .error e => ⟨.error e, cache, []⟩
    | .ok status => ⟨.ok none, cache.upClientStatusInfo context status now, []⟩
  | .control .ping => ⟨controlPing codec packet context, cache, []⟩
  | .ipTurn .ipv4Broadcast =>
    match codec.broadcastPacket packet.payload with
    | .error e => ⟨.error e, cache, []⟩
    | .ok broadcastPacket =>
      match broadcastPacket.data >>= codec.netPacket with
      | .error e => ⟨.error e, cache, []⟩
      | .ok inner => ⟨unknown, cache, broadcast context inner broadcastPacket.addresses⟩
  | .ipTurn .ipv4 =>
    match codec.ipv4Packet packet.payload with
    | .error e => ⟨.error e, cache, []⟩
    | .ok ipv4 =>
      match ipv4.protocol with
      | .icmp =>
        match codec.icmpKind ipv4.payload with
        | .error e => ⟨.error e, cache, []⟩
        | .ok .echoRequest =>
          ⟨.ok (some { packet with
              source := packet.destination
              destination := packet.source
              gateway := true
              payload := codec.echoReply packet.payload packet.destination packet.source }),
            cache, []⟩
        | .ok _ => ⟨unknown, cache, []⟩
      | .other _ => ⟨unknown, cache, []⟩
  | _ => ⟨unknown, cache, []⟩

/-- `not_context`: registration and address reflection. `none` is the `Err(net_packet)` that
hands the packet on to the requests that need a context. -/
def ServerPacketHandler.notContext (handler : ServerPacketHandler) (codec : Codec)
    (cache : AppCache) (packet : NetPacket) (addr : SocketAddr) (tcpSender : Option TcpSender) :
    Option (Except Error (Option NetPacket) × AppCache) :=
  match packet.protocol with
  | .service .registrationRequest => some (handler.register codec cache packet addr tcpSender)
  | .control .addrRequest => some (controlAddrRequest codec addr, cache)
  | _ => none

/-- Lines 71-78, the decryption gate: an encrypted packet needs the cipher session of its
source address. -/
def decryptGate (codec : Codec) (cache : AppCache) (packet : NetPacket) (addr : SocketAddr) :
    Except Error NetPacket :=
  if packet.encrypted then
    match cache.cipherSession addr with
    | some aes => codec.decryptIpv4 aes packet
    | none => .error .noKey
  else .ok packet

/-- Lines 79-155, past the decryption gate: the requests that need no context, then the
context of `addr` and the requests that need it. -/
def ServerPacketHandler.dispatch (handler : ServerPacketHandler) (codec : Codec)
    (cache : AppCache) (packet : NetPacket) (addr : SocketAddr) (tcpSender : Option TcpSender)
    (now : Nat) : Handled :=
  match handler.notContext codec cache packet addr tcpSender with
  | some (result, cache) => ⟨result, cache, []⟩
  | none =>
    match cache.getContext addr with
    | some context => handleContext codec cache packet context now
    | none => ⟨.error .disconnect, cache, []⟩

/-- `handle`: the handshakes, then the decryption gate, then `dispatch`. `now` is the time
`Local::now()` reads during the call. -/
def ServerPacketHandler.handle (handler : ServerPacketHandler) (codec : Codec)
    (cache : AppCache) (packet : NetPacket) (addr : SocketAddr) (tcpSender : Option TcpSender)
    (now : Nat) : Handled :=
  match packet.protocol with
  | .service .handshakeRequest => ⟨handler.handshake codec, cache, []⟩
  | .service .secretHandshakeRequest =>
    let handled := handler.secretHandshake codec cache packet addr
    ⟨handled.1, handled.2, []⟩
  | _ =>
    match decryptGate codec cache packet addr with
    | .error e => ⟨.error e, cache, []⟩
    | .ok packet => handler.dispatch codec cache packet addr tcpSender now

end Vnts
