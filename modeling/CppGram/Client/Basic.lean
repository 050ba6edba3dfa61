import CppGram.Network.Connect
import CppGram.Session.Basic
import CppGram.Transport.Factory

/-!
# The client

`MtprotoClient` (C++ `mtproto_client.cpp`): a session, a connection and the codec of the connection.
The bytes of a message pass through all three. What comes from outside is an argument, as it is for
the parts: how the socket calls end, the reading of the clock and the random bytes. A
`send_encrypted` call may throw, as `pack_encrypted_message` does.
-/

namespace CppGram
open Network Transport

/-- C++ `struct ClientConfig`, as far as `MtprotoClient` connects by it. -/
structure ClientConfig where
  primaryDc : Int := 2
  testMode : Bool := false
  deriving DecidableEq, Repr

/-- C++ `class MtprotoClient`. A client that was moved from has no codec. -/
structure MtprotoClient (ssl : OpenSSL) where
  config : ClientConfig := {}
  dcMgr : DatacenterManager := {}
  codec : Option TransportCodec := some (createTransportCodec .Intermediate)
  connection : TcpConnection := {}
  session : Session ssl
  activeDcId : Int := 2
  activeProtocol : TransportProtocol := .Intermediate

namespace MtprotoClient

variable {ssl : OpenSSL}

/-- `MtprotoClient::MtprotoClient(ClientConfig)`, with the session id that is drawn. -/
def new (config : ClientConfig) (sessionId : UInt64) : MtprotoClient ssl :=
  { config, session := .new sessionId, activeDcId := config.primaryDc }

/-- `MtprotoClient::disconnect`. -/
def disconnect (c : MtprotoClient ssl) : MtprotoClient ssl :=
  { c with connection := c.connection.disconnect, codec := c.codec.map ITransportCodec.reset }

/-- `MtprotoClient::is_connected`. -/
def isConnected (c : MtprotoClient ssl) : Bool := c.connection.isConnected

/-- `MtprotoClient::connect`; `sock` is the socket that `dial` leads to. -/
def connect (c : MtprotoClient ssl) (dcId : Int) (proto : TransportProtocol) (timeoutMs : Int)
    (dial : Dial) (sock : SendSocket) : Bool × MtprotoClient ssl × SendSocket :=
  let c := c.disconnect
  match c.dcMgr.getDc dcId c.config.testMode with
  | none => (false, c, sock)
  | some dc =>
    let codec := createTransportCodec proto
    let (opened, connection) := c.connection.connect dc.ipV4 dc.port timeoutMs dial
    let c := { c with codec := some codec, activeDcId := dcId, activeProtocol := proto, connection }
    if !opened then (false, c, sock)
    else
      let header := ITransportCodec.getHeader codec
      if header = [] then (true, c, sock)
      else
        let (sent, sock) := sendBytes connection header sock
        if !sent then (false, { c with connection := connection.disconnect }, sock)
        else (true, c, sock)

/-- `MtprotoClient::send_encrypted`. -/
def sendEncrypted (c : MtprotoClient ssl) (payload : List UInt8) (isContentRelated : Bool)
    (draw : Nat → UInt8) (epochMs : Int64) (sock : SendSocket) :
    Except Fault Bool × MtprotoClient ssl × SendSocket :=
  if !c.isConnected then (.ok false, c, sock)
  else
    match c.codec with
    | none => (.ok false, c, sock)
    | some codec =>
      let (packed, session) := c.session.packEncryptedMessage payload isContentRelated draw epochMs
      match packed with
      | .error fault => (.error fault, { c with session }, sock)
      | .ok packet =>
        let (sent, codec, sock) := sendPacket c.connection codec packet sock
        (.ok sent, { c with session, codec := some codec }, sock)

end MtprotoClient

end CppGram
