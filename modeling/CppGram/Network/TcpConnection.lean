import CppGram.Transport.Codec

/-!
# TCP connections

`TcpConnection` (C++ `network.cpp`) over any codec: `send_bytes` and `send_packet`, `receive_bytes`
and `receive_packet`. The kernel is a script. `SendSocket` holds what the next `::send` calls return
and the bytes the socket has accepted; `ReceiveSocket` holds the readings of the steady clock and
what `poll` and `::recv` give, no bytes standing for a time-out, an error or a closed peer. A script
that runs out stands for a `::send` that keeps failing, a deadline that has passed, a peer that
sends nothing more.
-/

namespace CppGram.Network
open Transport

/-- C++ `class TcpConnection`. -/
structure TcpConnection where
  socketFd : Int := -1
  rxBuffer : List UInt8 := []
  deriving DecidableEq, Repr

/-- `is_connected`. -/
def TcpConnection.isConnected (conn : TcpConnection) : Bool := decide (0 ≤ conn.socketFd)

/-! ## Sending -/

/-- The kernel's side of a socket that is written to. -/
structure SendSocket where
  /-- What the next `::send` calls return, negative or zero for a failure. -/
  results : List Int
  /-- The bytes accepted so far. -/
  accepted : List UInt8 := []
  deriving DecidableEq, Repr

/-- The loop of `send_bytes` from `total_sent` on. `::send` accepts at most what it was asked to. -/
def sendLoop (data : List UInt8) : List Int → Nat → List UInt8 → Bool × SendSocket
  | results, totalSent, accepted =>
    if totalSent < data.length then
      match results with
      | [] => (false, ⟨[], accepted⟩)
      | result :: results =>
        if result ≤ 0 then (false, ⟨results, accepted⟩)
        else
          let sent := min result.toNat (data.length - totalSent)
          sendLoop data results (totalSent + sent) (accepted ++ Bytes.span data totalSent sent)
    else (true, ⟨results, accepted⟩)

/-- `TcpConnection::send_bytes`. -/
def sendBytes (conn : TcpConnection) (data : List UInt8) (sock : SendSocket) : Bool × SendSocket :=
  if conn.socketFd < 0 ∨ data = [] then (false, sock)
  else sendLoop data sock.results 0 sock.accepted

section
variable {κ : Type} [ITransportCodec κ]

/-- `TcpConnection::send_packet`. -/
def sendPacket (conn : TcpConnection) (codec : κ) (payload : List UInt8) (sock : SendSocket) :
    Bool × κ × SendSocket :=
  if !conn.isConnected then (false, codec, sock)
  else
    let (frame, codec) := ITransportCodec.encodePacket codec payload
    let (sent, sock) := sendBytes conn frame sock
    (sent, codec, sock)

/-- Successive `send_packet` calls on one connection. -/
def sendAll (conn : TcpConnection) : κ → List (List UInt8) → SendSocket → κ × SendSocket
  | codec, [], sock => (codec, sock)
  | codec, payload :: payloads, sock =>
    let (_, codec, sock) := sendPacket conn codec payload sock
    sendAll conn codec payloads sock

end

/-! ## Receiving -/

/-- The kernel's side of a socket that is read from. -/
structure ReceiveSocket where
  /-- Milliseconds since the start of the call, at the successive readings of the clock. -/
  clock : List Int
  /-- What `poll` and `::recv` give to the successive `receive_bytes` calls. -/
  inbox : List (List UInt8)
  deriving DecidableEq, Repr

/-- `TcpConnection::receive_bytes`. -/
def receiveBytes (conn : TcpConnection) (maxBytes : Nat) (inbox : List (List UInt8)) :
    List UInt8 × List (List UInt8) :=
  if conn.socketFd < 0 ∨ maxBytes = 0 then ([], inbox)
  else
    match inbox with
    | [] => ([], [])
    | chunk :: inbox => (chunk, inbox)

/-- `timeout_ms - static_cast<int>(elapsed)`. -/
def remainingMs (timeoutMs elapsed : Int) : Int := timeoutMs - elapsed.bmod (2 ^ 32)

/-- The second half of a turn of `receive_packet`: `none` is a `break`. -/
def await (conn : TcpConnection) (timeoutMs elapsed : Int) (inbox : List (List UInt8)) :
    Option (List UInt8) × List (List UInt8) :=
  if remainingMs timeoutMs elapsed ≤ 0 then (none, inbox)
  else
    match receiveBytes conn 4096 inbox with
    | ([], inbox) => (none, inbox)
    | (chunk, inbox) => (some chunk, inbox)

section
variable {κ : Type} [ITransportCodec κ]

/-- The first half of a turn of `receive_packet`: what it returns or throws, `none` to go on. -/
def feed (conn : TcpConnection) (codec : κ) :
    Option (Except Fault (List UInt8)) × TcpConnection × κ :=
  if conn.rxBuffer = [] then (none, conn, codec)
  else
    match ITransportCodec.decodePackets codec conn.rxBuffer with
    | (.ok (packet :: _), codec) => (some (.ok packet), { conn with rxBuffer := [] }, codec)
    -- `rx_buffer_` keeps what the codec has been fed, here and when it throws
    | (.ok [], codec) => (none, conn, codec)
    | (.error e, codec) => (some (.error e), conn, codec)

/-- The state after a call of `receive_packet`, with what it returned or threw. -/
structure Received (κ : Type) where
  result : Except Fault (List UInt8)
  conn : TcpConnection
  codec : κ
  sock : ReceiveSocket

/-- The loop of `receive_packet`. -/
def receiveLoop (timeoutMs : Int) :
    List Int → List (List UInt8) → TcpConnection → κ → Received κ
  | clock, inbox, conn, codec =>
    match feed conn codec with
    | (some result, conn, codec) => ⟨result, conn, codec, ⟨clock, inbox⟩⟩
    | (none, conn, codec) =>
      match clock with
      | [] => ⟨.ok [], conn, codec, ⟨[], inbox⟩⟩
      | elapsed :: clock =>
        match await conn timeoutMs elapsed inbox with
        | (none, inbox) => ⟨.ok [], conn, codec, ⟨clock, inbox⟩⟩
        | (some chunk, inbox) =>
          receiveLoop timeoutMs clock inbox { conn with rxBuffer := conn.rxBuffer ++ chunk } codec

/-- `TcpConnection::receive_packet`. -/
def receivePacket (conn : TcpConnection) (codec : κ) (timeoutMs : Int) (sock : ReceiveSocket) :
    Received κ :=
  if !conn.isConnected then ⟨.ok [], conn, codec, sock⟩
  else receiveLoop timeoutMs sock.clock sock.inbox conn codec

/-- Successive `receive_packet` calls on one connection, with their time-outs: what they returned or
    threw, and the last state. -/
def receiveAll (conn : TcpConnection) (codec : κ) :
    List Int → ReceiveSocket → List (Except Fault (List UInt8)) × TcpConnection × κ × ReceiveSocket
  | [], sock => ([], conn, codec, sock)
  | timeoutMs :: timeouts, sock =>
    let call := receivePacket conn codec timeoutMs sock
    let (results, last) := receiveAll call.conn call.codec timeouts call.sock
    (call.result :: results, last)

end

end CppGram.Network
