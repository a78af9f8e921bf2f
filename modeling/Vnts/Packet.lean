import Mathlib.Tactic.Ring
import Vnts.Message

/-
This file models what the packet handler of `core/service/server.rs` reads from the
outside: the `NetPacket` envelope and the sub-protocols it dispatches on, the views it
takes of a payload (a selective broadcast, an IPv4 datagram, an ICMP message), the
ciphers, and the sends of a broadcast.

The envelope layout, the protobuf codec, the IPv4 and ICMP layouts and the AES and RSA
primitives live outside src/. They are the fields of `Codec`, and every statement about
the handler holds for every `Codec`: a parse that fails, an encoding that fails and a
decryption that fails are all cases the proofs cover.

The last section models the two functions of `std::net::Ipv6Addr` that the public address of
a registration response goes through: `to_ipv4_mapped` keeps the low 32 bits of `::ffff:a.b.c.d`,
and the sixteen bytes of `octets` spell the address, most significant first.
-/

namespace Vnts

/-! ### The envelope -/

/-- `service_packet::Protocol`, the transport protocols of the service class. -/
inductive ServiceProtocol where
  | registrationRequest
  | registrationResponse
  | pollDeviceList
  | pushDeviceList
  | handshakeRequest
  | handshakeResponse
  | secretHandshakeRequest
  | secretHandshakeResponse
  | clientStatusInfo
  | unknown (value : UInt8)
  deriving DecidableEq, Repr

/-- `control_packet::Protocol`, the transport protocols of the control class. -/
inductive ControlProtocol where
  | ping
  | pong
  | addrRequest
  | addrResponse
  | unknown (value : UInt8)
  deriving DecidableEq, Repr

/-- `ip_turn_packet::Protocol`, the transport protocols of relayed IP traffic. -/
inductive IpTurnProtocol where
  | ipv4
  | ipv4Broadcast
  | unknown (value : UInt8)
  deriving DecidableEq, Repr

/-- `net_packet.protocol()` together with `Protocol::from(net_packet.transport_protocol())`
for the class it names. The classes the handler does not dispatch on keep their two raw
header bytes. -/
inductive Protocol where
  | service (transport : ServiceProtocol)
  | control (transport : ControlProtocol)
  | ipTurn (transport : IpTurnProtocol)
  | other (protocol transport : UInt8)
  deriving DecidableEq, Repr

/-- A `NetPacket` as the handler reads and writes it: the header fields it touches and the
payload. -/
structure NetPacket where
  protocol : Protocol
  encrypted : Bool
  gateway : Bool
  source : BitVec 32
  destination : BitVec 32
  payload : List UInt8
  deriving DecidableEq, Repr

/-- A reply built by `NetPacket::new_encrypt` on a zeroed buffer, then `set_protocol`,
`set_transport_protocol` and `set_payload`. -/
def NetPacket.reply (protocol : Protocol) (payload : List UInt8) : NetPacket where
  protocol := protocol
  encrypted := false
  gateway := false
  source := 0
  destination := 0
  payload := payload

/-! ### Ciphers -/

/-- `Finger::new(token)`, the fingerprint of a group token. -/
structure Finger where
  token : String
  deriving DecidableEq, Repr

/-- `Aes256GcmCipher`, the session cipher of one source address. Its key is the `[u8; 32]`
the secret handshake's `try_into` produces. -/
structure Aes256GcmCipher where
  key : List UInt8
  key_length : key.length = 32
  finger : Finger
  deriving DecidableEq

/-- `RsaCipher`, the server's key pair: its public key, its finger, and its decryption of a
secret handshake into the body's data. -/
structure RsaCipher where
  publicKey : List UInt8
  finger : String
  decrypt : NetPacket → Except Error (List UInt8)

/-! ### Views of a payload -/

/-- `BroadcastPacket::new(payload)`: the excluded virtual addresses, and the inner packet's
bytes, which `data()` may fail to produce. -/
structure BroadcastPacket where
  addresses : List (BitVec 32)
  data : Except Error (List UInt8)

/-- `ipv4::protocol::Protocol`, as far as the handler reads it. -/
inductive Ipv4Protocol where
  | icmp
  | other (value : UInt8)
  deriving DecidableEq, Repr

/-- `IpV4Packet::new(payload)`: its protocol and its own payload. -/
structure IpV4Packet where
  protocol : Ipv4Protocol
  payload : List UInt8
  deriving DecidableEq, Repr

/-- `icmp::Kind`, as far as the handler reads it. -/
inductive IcmpKind where
  | echoRequest
  | echoReply
  | other (value : UInt8)
  deriving DecidableEq, Repr

/-! ### The codecs -/

/-- The code outside src/ that the handler calls. The parsers and encoders are fallible,
as their `?` is; the in-place edits of a packet are total once its views have parsed. -/
structure Codec where
  /-- `RegistrationRequest::parse_from_bytes`. -/
  parseRegistrationRequest : List UInt8 → Except Error RegistrationRequest
  /-- `message::ClientStatusInfo::parse_from_bytes`. -/
  parseClientStatusInfo : List UInt8 → Except Error Message.ClientStatusInfo
  /-- `SecretHandshakeRequest::parse_from_bytes`. -/
  parseSecretHandshakeRequest : List UInt8 → Except Error SecretHandshakeRequest
  /-- `RegistrationResponse::write_to_bytes`. -/
  writeRegistrationResponse : RegistrationResponse → Except Error (List UInt8)
  /-- `DeviceList::write_to_bytes`. -/
  writeDeviceList : DeviceList → Except Error (List UInt8)
  /-- `HandshakeResponse::write_to_bytes`. -/
  writeHandshakeResponse : HandshakeResponse → Except Error (List UInt8)
  /-- The pong payload: `set_payload` of the ping's payload and `PongPacket::set_epoch`. -/
  pongPayload : List UInt8 → BitVec 16 → Except Error (List UInt8)
  /-- The address payload: `AddrPacket::set_ipv4` and `set_port`. -/
  addrPayload : BitVec 32 → BitVec 16 → List UInt8
  /-- `BroadcastPacket::new`. -/
  broadcastPacket : List UInt8 → Except Error BroadcastPacket
  /-- `NetPacket::new` on a broadcast's inner bytes. -/
  netPacket : List UInt8 → Except Error NetPacket
  /-- `IpV4Packet::new`. -/
  ipv4Packet : List UInt8 → Except Error IpV4Packet
  /-- `IcmpPacket::new(..).kind()`. -/
  icmpKind : List UInt8 → Except Error IcmpKind
  /-- The IPv4 datagram an echo request becomes: the kind set to `EchoReply`, the new
  source and destination, and both checksums updated. -/
  echoReply : List UInt8 → BitVec 32 → BitVec 32 → List UInt8
  /-- `Aes256GcmCipher::decrypt_ipv4`, which decrypts the packet in place. -/
  decryptIpv4 : Aes256GcmCipher → NetPacket → Except Error NetPacket
  deriving Inhabited

/-! ### Sends -/

/-- A copy a broadcast sends: `try_send` on a client's TCP connection, or `try_send_to` on
the UDP socket. -/
inductive Send where
  | tcp (sender : TcpSender) (packet : NetPacket)
  | udp (address : SocketAddr) (packet : NetPacket)
  deriving DecidableEq, Repr

/-- The client a send reaches is the one whose connection or address it is sent to. -/
def Send.Reaches (entry : ClientInfo) : Send → Prop
  | .tcp sender _ => entry.tcpSender = some sender
  | .udp address _ => entry.address = address

/-! ### Public addresses -/

/-- `Ipv6Addr::to_ipv4_mapped`: the IPv4 address of `::ffff:a.b.c.d`. -/
def toIpv4Mapped (ip : BitVec 128) : Option (BitVec 32) :=
  if ip >>> 32 = 0xFFFF then some (ip.setWidth 32) else none

/-- `Ipv6Addr::octets`: the sixteen bytes, most significant first. -/
def ipv6Octets (ip : BitVec 128) : List UInt8 :=
  (List.range 16).reverse.map fun index => ((ip >>> (8 * index)).toNat % 256).toUInt8

/-- The number a list of bytes spells, most significant byte first. -/
def bigEndian (bytes : List UInt8) : Nat :=
  bytes.foldl (fun value byte => value * 256 + byte.toNat) 0

/-- Reading on from a value already read shifts it past the remaining bytes. -/
theorem foldl_bigEndian (value : Nat) (bytes : List UInt8) :
    bytes.foldl (fun value byte => value * 256 + byte.toNat) value =
      value * 256 ^ bytes.length + bigEndian bytes := by
  induction bytes generalizing value with
  | nil => simp [bigEndian]
  | cons byte rest inductionHypothesis =>
    simp only [List.foldl_cons, List.length_cons, inductionHypothesis]
    rw [show bigEndian (byte :: rest) = (0 * 256 + byte.toNat) * 256 ^ rest.length + bigEndian rest
      from inductionHypothesis _]
    ring

/-- The first byte of a list weighs `256` to the power of the bytes after it. -/
theorem bigEndian_cons (byte : UInt8) (rest : List UInt8) :
    bigEndian (byte :: rest) = byte.toNat * 256 ^ rest.length + bigEndian rest := by
  rw [bigEndian, List.foldl_cons, foldl_bigEndian, Nat.zero_mul, Nat.zero_add]

/-- The bytes of a number, most significant first, spell the number modulo their range. -/
theorem bigEndian_digits (value count : Nat) :
    bigEndian ((List.range count).reverse.map fun index => (value / 256 ^ index % 256).toUInt8) =
      value % 256 ^ count := by
  induction count with
  | zero => simp [bigEndian, Nat.mod_one]
  | succ count inductionHypothesis =>
    have digit : (value / 256 ^ count % 256).toUInt8.toNat = value / 256 ^ count % 256 :=
      UInt8.toNat_ofNat_of_lt (Nat.mod_lt _ (by norm_num))
    rw [List.range_succ, List.reverse_append, List.reverse_singleton, List.singleton_append,
      List.map_cons, bigEndian_cons, List.length_map, List.length_reverse, List.length_range,
      inductionHypothesis, digit, Nat.mod_pow_succ]
    ring

/-- `octets` is a faithful encoding: the sixteen octets of an IPv6 address spell the
address. -/
theorem bigEndian_ipv6Octets (ip : BitVec 128) : bigEndian (ipv6Octets ip) = ip.toNat := by
  have octets : ipv6Octets ip =
      (List.range 16).reverse.map fun index => (ip.toNat / 256 ^ index % 256).toUInt8 := by
    unfold ipv6Octets
    congr 1
    funext index
    rw [BitVec.toNat_ushiftRight, Nat.shiftRight_eq_div_pow, pow_mul]
    norm_num
  have bound : ip.toNat < 256 ^ 16 := by
    have := ip.isLt
    norm_num at this ⊢
    exact this
  rw [octets, bigEndian_digits, Nat.mod_eq_of_lt bound]

/-- An IPv4-mapped IPv6 address `::ffff:a.b.c.d` carries `a.b.c.d` in its low 32 bits. -/
theorem toNat_of_toIpv4Mapped {ip : BitVec 128} {ipv4 : BitVec 32}
    (mapped : toIpv4Mapped ip = some ipv4) : ip.toNat = 0xFFFF * 2 ^ 32 + ipv4.toNat := by
  unfold toIpv4Mapped at mapped
  split_ifs at mapped with high
  cases mapped
  have shifted := congrArg BitVec.toNat high
  rw [BitVec.toNat_ushiftRight, Nat.shiftRight_eq_div_pow, BitVec.ofNat_eq_ofNat,
    BitVec.toNat_ofNat] at shifted
  rw [BitVec.toNat_setWidth]
  have := Nat.div_add_mod ip.toNat (2 ^ 32)
  norm_num at shifted this ⊢
  omega

end Vnts
