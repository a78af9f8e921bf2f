import Vnts.Entity

/-
This file models the protobuf messages of `proto::message` that the packet handler reads
and writes, the server configuration it reads, and its error kinds. The messages carry
the fields the handler touches: `RegistrationRequest.version` and `is_fast` are only
logged, and are left out.
-/

namespace Vnts

/-! ### Messages -/

/-- `message::RegistrationRequest`. -/
structure RegistrationRequest where
  token : String
  deviceId : String
  name : String
  virtualIp : BitVec 32
  clientSecret : Bool
  allowIpChange : Bool
  deriving DecidableEq, Repr

/-- `message::DeviceInfo`, one row of a roster. `device_status` is `0` online, `1` offline. -/
structure DeviceInfo where
  virtualIp : BitVec 32
  name : String
  deviceStatus : BitVec 32
  clientSecret : Bool
  deriving DecidableEq, Repr

/-- `message::RegistrationResponse`. -/
structure RegistrationResponse where
  publicIp : BitVec 32
  publicPort : BitVec 32
  publicIpv6 : List UInt8
  virtualIp : BitVec 32
  virtualNetmask : BitVec 32
  virtualGateway : BitVec 32
  epoch : BitVec 32
  deviceInfoList : List DeviceInfo
  deriving DecidableEq, Repr

/-- `message::DeviceList`, the reply to a poll. -/
structure DeviceList where
  epoch : BitVec 32
  deviceInfoList : List DeviceInfo
  deriving DecidableEq, Repr

/-- `message::HandshakeResponse`. -/
structure HandshakeResponse where
  version : String
  publicKey : List UInt8
  secret : Bool
  keyFinger : String
  deriving DecidableEq, Repr

/-- `message::SecretHandshakeRequest`, the body the RSA key decrypts. -/
structure SecretHandshakeRequest where
  key : List UInt8
  token : String
  deriving DecidableEq, Repr

/-- `message::PunchNatType`, read through `enum_value_or_default`. -/
inductive PunchNatType where
  | symmetric
  | cone
  deriving DecidableEq, Repr

/-- `message::ClientStatusInfo`. Of each `p2p_list` item only `next_ip` is read. -/
structure Message.ClientStatusInfo where
  source : BitVec 32
  p2pList : List (BitVec 32)
  upStream : BitVec 64
  downStream : BitVec 64
  natType : PunchNatType
  deriving DecidableEq, Repr

/-! ### Configuration and errors -/

/-- The fields of `ConfigInfo` the handler reads: the group subnet, its broadcast address,
and the optional token allowlist. -/
structure ConfigInfo where
  gateway : BitVec 32
  netmask : BitVec 32
  broadcast : BitVec 32
  whiteToken : Option (List String)
  deriving DecidableEq, Repr

/-- Modelled from the spec: `crate::error::Error`, whose module is not under src/. It has
the kinds the handler names. A failure inside a codec (protobuf, packet layout, AES, RSA)
comes back as whatever `Error` its `?` conversion makes of it, so the model leaves those
values to the codec. -/
inductive Error where
  | noKey
  | disconnect
  | tokenError
  | invalidIp
  | ipAlreadyExists
  | addressExhausted
  | other (message : String)
  deriving DecidableEq, Repr, Inhabited

/-- Results of the handler's fallible steps are compared by `decide` in tests. -/
instance instDecidableEqExcept {ε α : Type} [DecidableEq ε] [DecidableEq α] :
    DecidableEq (Except ε α)
  | .error e, .error e' => decidable_of_iff (e = e') ⟨congrArg _, Except.error.inj⟩
  | .ok a, .ok a' => decidable_of_iff (a = a') ⟨congrArg _, Except.ok.inj⟩
  | .error _, .ok _ => isFalse Except.noConfusion
  | .ok _, .error _ => isFalse Except.noConfusion

end Vnts
