import Mathlib.Data.List.AList

/-
This file models the entities of `core/entity/mod.rs`: the `NetworkInfo` of a group,
the `ClientInfo` of each device registered in it, and the `ClientStatusInfo` a device
reports about itself.

Virtual addresses are the `u32` values the code stores, as `BitVec 32`, and the epoch is
the `u64` counter, as `BitVec 64`, so that its `+= 1` wraps as a release build does. The
`HashMap<u32, ClientInfo>` of a group is an `AList` keyed by the virtual ip: a finite map
whose keys are distinct by construction and whose entries are iterated in some order.
Every statement below that reads that order is proved for every order.
-/

namespace Vnts

/-! ### Transport addresses -/

/-- `std::net::IpAddr`. -/
inductive IpAddr where
  | v4 (ip : BitVec 32)
  | v6 (ip : BitVec 128)
  deriving DecidableEq, Repr

/-- `std::net::SocketAddr`, the public address a packet came from. -/
structure SocketAddr where
  ip : IpAddr
  port : BitVec 16
  deriving DecidableEq, Repr

/-- The `Sender<Vec<u8>>` of a TCP connection, known by the connection it writes to. -/
structure TcpSender where
  connection : Nat
  deriving DecidableEq, Repr

/-! ### Entities -/

/-- `ClientStatusInfo`: what a device last reported. `update_time` is the handler's reading
of `Local::now()`, which the model takes as an input. -/
structure ClientStatusInfo where
  p2pList : List (BitVec 32)
  upStream : BitVec 64
  downStream : BitVec 64
  isCone : Bool
  updateTime : Nat
  deriving DecidableEq, Repr

/-- `ClientInfo`, one registered device. The `server_secret` field is left out: it keeps its
default `None`, since no function of the handler writes or reads it. -/
structure ClientInfo where
  deviceId : String
  name : String
  clientSecret : Bool
  address : SocketAddr
  online : Bool
  virtualIp : BitVec 32
  tcpSender : Option TcpSender
  clientStatus : Option ClientStatusInfo
  deriving DecidableEq, Repr

/-- `ClientInfo::default()`, the entry `or_insert_with` creates before `register` fills it. -/
def ClientInfo.default : ClientInfo where
  deviceId := ""
  name := ""
  clientSecret := false
  address := ⟨.v4 0, 0⟩
  online := false
  virtualIp := 0
  tcpSender := none
  clientStatus := none

/-- The `HashMap<u32, ClientInfo>` of a group, keyed by virtual ip. -/
abbrev Clients := AList fun _ : BitVec 32 => ClientInfo

/-- `NetworkInfo`, the directory of one group. -/
structure NetworkInfo where
  networkIp : BitVec 32
  maskIp : BitVec 32
  gatewayIp : BitVec 32
  epoch : BitVec 64
  clients : Clients
  deriving DecidableEq

/-- `NetworkInfo::new`: a group with no clients at epoch `0`. -/
def NetworkInfo.new (networkIp maskIp gatewayIp : BitVec 32) : NetworkInfo where
  networkIp := networkIp
  maskIp := maskIp
  gatewayIp := gatewayIp
  epoch := 0
  clients := ∅

@[simp] theorem NetworkInfo.new_clients (networkIp maskIp gatewayIp : BitVec 32) :
    (NetworkInfo.new networkIp maskIp gatewayIp).clients = ∅ := rfl

@[simp] theorem NetworkInfo.new_epoch (networkIp maskIp gatewayIp : BitVec 32) :
    (NetworkInfo.new networkIp maskIp gatewayIp).epoch = 0 := rfl

/-! ### Reading the directory -/

/-- An entry of a map is a key the map looks up to that entry. -/
theorem mem_entries_iff {clients : Clients} {ip : BitVec 32} {info : ClientInfo} :
    (⟨ip, info⟩ : Sigma fun _ : BitVec 32 => ClientInfo) ∈ clients.entries ↔
      clients.lookup ip = some info :=
  AList.mem_lookup_iff.symm

theorem mem_of_lookup {clients : Clients} {ip : BitVec 32} {info : ClientInfo}
    (found : clients.lookup ip = some info) : ip ∈ clients :=
  AList.lookup_isSome.1 (by rw [found]; rfl)

end Vnts
