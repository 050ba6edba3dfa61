import CppGram.Network.TcpConnection

/-!
# Connecting

`DatacenterManager::get_dc`, `TcpConnection::connect` and `disconnect` (C++ `network.cpp`). What the
resolver and the socket calls of `connect` come to is one function of the address: the descriptor of
a connected socket, or none.
-/

namespace CppGram.Network

/-- C++ `struct DataCenter`, as far as a connection needs it. -/
structure DataCenter where
  ipV4 : String
  port : Int := 443
  deriving DecidableEq, Repr

/-- C++ `class DatacenterManager`, with the tables of `init_default_dcs`. -/
structure DatacenterManager where
  prodDcs : List (Int × DataCenter) := [
    (1, { ipV4 := "149.154.175.53" }), (2, { ipV4 := "149.154.167.51" }),
    (3, { ipV4 := "149.154.175.100" }), (4, { ipV4 := "149.154.167.91" }),
    (5, { ipV4 := "91.108.56.130" })]
  testDcs : List (Int × DataCenter) := [
    (1, { ipV4 := "149.154.175.10" }), (2, { ipV4 := "149.154.167.40" }),
    (3, { ipV4 := "149.154.175.117" })]
  deriving DecidableEq, Repr

/-- `DatacenterManager::get_dc`. -/
def DatacenterManager.getDc (m : DatacenterManager) (id : Int) (test : Bool) : Option DataCenter :=
  (if test then m.testDcs else m.prodDcs).lookup id

/-- The socket that a host, a port and a time-out lead to. -/
abbrev Dial := String → Int → Int → Option Nat

namespace TcpConnection

/-- `TcpConnection::disconnect`. -/
def disconnect (conn : TcpConnection) : TcpConnection :=
  { socketFd := if 0 ≤ conn.socketFd then -1 else conn.socketFd, rxBuffer := [] }

/-- `TcpConnection::connect`. -/
def connect (conn : TcpConnection) (host : String) (port timeoutMs : Int) (dial : Dial) :
    Bool × TcpConnection :=
  let conn := conn.disconnect
  match dial host port timeoutMs with
  | none => (false, conn)
  | some fd => (true, { socketFd := fd, rxBuffer := [] })

/-- Behind a `connect` that succeeds there is a connection. -/
lemma connect_connected {conn conn' : TcpConnection} {host port timeoutMs dial}
    (h : conn.connect host port timeoutMs dial = (true, conn')) : conn'.isConnected := by
  rw [connect] at h
  cases hd : dial host port timeoutMs with
  | none =>
    rw [hd] at h
    cases h
  | some fd =>
    rw [hd] at h
    cases h
    exact decide_eq_true (Int.natCast_nonneg fd)

end TcpConnection

end CppGram.Network
