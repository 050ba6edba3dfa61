import CppGram.Client.Requests
import CppGram.Network.Feeding
import CppGram.Transport.Duplex

/-!
# The lifetime of a client

A client connects, sends messages of all kinds, receives, disconnects and connects again, to any data
center and with any protocol; its session goes on meanwhile. `Life` is a client with the connections
it has had, as the kernel and the peers see them: each has its own socket, and the peer of each reads
what it gets with a codec of its own.
-/

namespace CppGram.MtprotoClient
open Network Transport

variable {ssl : OpenSSL}

/-- A message as the session makes it. -/
inductive Letter where
  /-- One of `pack_unencrypted_message`. -/
  | plain (msgId : Int64) (payload : List UInt8)
  /-- One of `pack_encrypted_message`, with the key. -/
  | encrypted (authKey : List UInt8) (message : MTProtoMessage)

/-- The identifier of a letter. -/
def Letter.msgId : Letter → Int64
  | .plain msgId _ => msgId
  | .encrypted _ message => message.msgId

/-- A connection that was made. -/
structure Link where
  proto : TransportProtocol
  socketFd : Int
  /-- What has been sent, and what the next `::send` calls return. -/
  sock : SendSocket
  /-- What the connection has in store for `poll` and `::recv`, from the start and from now on. -/
  script : ReceiveSocket
  left : ReceiveSocket
  /-- The letters whose packets were accepted, up to the first failure. -/
  sent : List Letter := []
  /-- A packet was not accepted as a whole. -/
  failed : Bool := false
  /-- The time-outs of the `receive_response` calls, and what these returned or threw. -/
  timeouts : List Int := []
  received : List (Except Fault (List UInt8)) := []

/-- A client, the connections it has closed, the one it has, and what its session has issued. -/
structure Life (ssl : OpenSSL) where
  client : MtprotoClient ssl
  closed : List Link := []
  link : Option Link := none
  events : List Session.Event := []

/-- What the owner of a client does, with what comes from outside. -/
inductive Action where
  | connect (dcId : Int) (proto : TransportProtocol) (timeoutMs : Int) (dial : Dial)
      (results : List Int) (script : ReceiveSocket)
  | disconnect
  | sendUnencrypted (payload : List UInt8) (epochMs : Int64)
  | sendEncrypted (message : Outgoing)
  /-- `send_with_layer`, of the query in the message. -/
  | sendWithLayer (layer : Int32) (message : Outgoing)
  | ping (pingId pingMs : Int64) (draw : Nat → UInt8) (epochMs : Int64)
  | receive (timeoutMs : Int)
  /-- A call of the session that `get_session` returns. -/
  | session (call : Session.Call)
  | setServerSalt (salt : UInt64)
  /-- The configuration that `get_config` returns is changed. -/
  | configure (config : ClientConfig)
  | registerCustomDc (id : Int) (dc : DataCenter) (isTest : Bool)

/-! ## What a call sends -/

/-- The message of a `send_with_layer` call. -/
def Outgoing.wrapped (layer : Int32) (m : Outgoing) : Outgoing :=
  { m with payload := buildInvokeWithLayerQuery layer m.payload }

/-- The message of a ping. -/
def Outgoing.ping (pingId : Int64) (draw : Nat → UInt8) (epochMs : Int64) : Outgoing :=
  ⟨buildPingQuery pingId, false, draw, epochMs⟩

/-- The letter of a message, unless there is no key for it. -/
def letter (s : Session ssl) (m : Outgoing) : Option Letter :=
  if s.authKey.length = 256 then
    some (.encrypted s.authKey
      ⟨(s.generateMsgId m.epochMs).1, (s.generateSeqNo m.isContentRelated).1, m.payload⟩)
  else none

/-- The letter of a call. -/
def Action.letter (s : Session ssl) : Action → Option Letter
  | .sendUnencrypted payload epochMs => some (.plain (s.generateMsgId epochMs).1 payload)
  | .sendEncrypted m => MtprotoClient.letter s m
  | .sendWithLayer layer m => MtprotoClient.letter s (m.wrapped layer)
  | .ping pingId pingMs draw epochMs =>
    if pingId = 0 then
      let (id, s) := s.generateMsgId pingMs
      MtprotoClient.letter s (.ping id draw epochMs)
    else MtprotoClient.letter s (.ping pingId draw epochMs)
  | _ => none

/-- The calls of the session that a call makes, on a client that is connected or not. -/
def Action.calls (connected : Bool) (s : Session ssl) : Action → List Session.Call
  | .session call => [call]
  | .sendUnencrypted payload epochMs =>
    if connected then [.packUnencryptedMessage payload epochMs] else []
  | .sendEncrypted m => if connected then [m.call] else []
  | .sendWithLayer layer m => if connected then [(m.wrapped layer).call] else []
  | .ping pingId pingMs draw epochMs =>
    if pingId = 0 then
      .generateMsgId pingMs ::
        if connected then [(Outgoing.ping (s.generateMsgId pingMs).1 draw epochMs).call] else []
    else if connected then [(Outgoing.ping pingId draw epochMs).call] else []
  | _ => []

/-! ## Steps -/

/-- A connection after a call that handed a letter to it. -/
def Link.posted (link : Link) (letter : Option Letter) (result : Except Fault Bool)
    (sock : SendSocket) : Link :=
  match result with
  | .ok true => { link with sock, sent := if link.failed then link.sent else link.sent ++ letter.toList }
  | .ok false => { link with sock, failed := true }
  | .error _ => { link with sock }

/-- What a call that sends makes of the life of a client. -/
def Life.posted (s : Life ssl) (a : Action)
    (call : SendSocket → Except Fault Bool × MtprotoClient ssl × SendSocket) : Life ssl :=
  let (result, client, sock) := call (s.link.elim ⟨[], []⟩ (·.sock))
  { s with
    client
    link := s.link.map (·.posted (a.letter s.client.session) result sock)
    events := s.events ++
      (s.client.session.run (a.calls s.client.isConnected s.client.session)).1 }

/-- One action in the life of a client. -/
def Life.step (s : Life ssl) : Action → Life ssl
  | .connect dcId proto timeoutMs dial results script =>
    let (connected, client, sock) := s.client.connect dcId proto timeoutMs dial ⟨results, []⟩
    let link :=
      if connected then
        some { proto, socketFd := client.connection.socketFd, sock, script, left := script }
      else none
    { s with client, closed := s.closed ++ s.link.toList, link }
  | .disconnect =>
    { s with client := s.client.disconnect, closed := s.closed ++ s.link.toList, link := none }
  | .sendUnencrypted payload epochMs =>
    s.posted (.sendUnencrypted payload epochMs) fun sock =>
      (s.client.sendUnencrypted payload epochMs sock).map .ok id
  | .sendEncrypted m =>
    s.posted (.sendEncrypted m)
      (s.client.sendEncrypted m.payload m.isContentRelated m.draw m.epochMs)
  | .sendWithLayer layer m =>
    s.posted (.sendWithLayer layer m)
      (s.client.sendWithLayer layer m.payload m.isContentRelated m.draw m.epochMs)
  | .ping pingId pingMs draw epochMs =>
    s.posted (.ping pingId pingMs draw epochMs) (s.client.ping pingId pingMs draw epochMs)
  | .receive timeoutMs =>
    match s.link with
    | none => { s with client := (s.client.receiveResponse timeoutMs ⟨[], []⟩).2.1 }
    | some link =>
      let (result, client, left) := s.client.receiveResponse timeoutMs link.left
      { s with
        client
        link := some { link with
          left, timeouts := link.timeouts ++ [timeoutMs], received := link.received ++ [result] } }
  | .session call =>
    let (event, session) := s.client.session.step call
    { s with client := { s.client with session }, events := s.events ++ [event] }
  | .setServerSalt salt =>
    { s with client := { s.client with session := s.client.session.setServerSalt salt } }
  | .configure config => { s with client := { s.client with config } }
  | .registerCustomDc id dc isTest =>
    { s with client := { s.client with dcMgr := s.client.dcMgr.registerCustomDc id dc isTest } }

/-- A life is its actions, one after the other. -/
def Life.run (s : Life ssl) (actions : List Action) : Life ssl := actions.foldl step s

/-- A new client. -/
def Life.start (config : ClientConfig) (sessionId : UInt64) : Life ssl where
  client := .new config sessionId

/-- The connections, the last one last. -/
def Life.links (s : Life ssl) : List Link := s.closed ++ s.link.toList

/-! ## Receiving -/

section
variable {κ κ' : Type} [ITransportCodec κ] [ITransportCodec κ'] {f : κ → κ'}

/-- What a call leaves when `f` is made of the codec. -/
def mapCodec (f : κ → κ') (r : Received κ) : Received κ' := ⟨r.result, r.conn, f r.codec, r.sock⟩

variable (decodes : ∀ c d, ITransportCodec.decodePackets (f c) d =
  ((ITransportCodec.decodePackets c d).1, f (ITransportCodec.decodePackets c d).2))
include decodes

/-- A codec that decodes as another one does is fed as it is. -/
lemma feed_map (conn : TcpConnection) (c : κ) :
    feed conn (f c) = ((feed conn c).1, (feed conn c).2.1, f (feed conn c).2.2) := by
  rw [feed, feed]
  split
  · rfl
  · rw [decodes]
    generalize ITransportCodec.decodePackets c conn.rxBuffer = fed
    obtain ⟨result, codec⟩ := fed
    cases result with
    | error e => rfl
    | ok packets =>
      cases packets with
      | nil | cons packet packets => rfl

/-- With a codec that decodes as another one does the loop receives the same. -/
lemma receiveLoop_map (timeoutMs clock inbox) (conn : TcpConnection) (c : κ) :
    receiveLoop timeoutMs clock inbox conn (f c) =
      mapCodec f (receiveLoop timeoutMs clock inbox conn c) := by
  induction clock generalizing inbox conn c with
  | nil =>
    rw [receiveLoop, receiveLoop, feed_map decodes]
    generalize feed conn c = fed
    obtain ⟨result, conn, c⟩ := fed
    cases result with
    | some result | none => rfl
  | cons elapsed clock ih =>
    rw [receiveLoop, receiveLoop, feed_map decodes]
    generalize feed conn c = fed
    obtain ⟨result, conn, c⟩ := fed
    cases result with
    | some result => rfl
    | none =>
      simp only
      generalize await conn timeoutMs elapsed inbox = got
      obtain ⟨chunk, inbox⟩ := got
      cases chunk with
      | none => rfl
      | some chunk => exact ih _ _ _

/-- With a codec that decodes as another one does a call receives the same. -/
lemma receivePacket_map (conn : TcpConnection) (c : κ) (timeoutMs sock) :
    receivePacket conn (f c) timeoutMs sock = mapCodec f (receivePacket conn c timeoutMs sock) := by
  rw [receivePacket, receivePacket]
  split
  · rfl
  · exact receiveLoop_map decodes _ _ _ _ _

end

section
variable {κ γ : Type} [ITransportCodec κ] {g : κ → γ}
variable (keeps : ∀ c d, g (ITransportCodec.decodePackets c d).2 = g c)
include keeps

/-- Being fed leaves alone what decoding leaves alone. -/
lemma feed_keeps (conn : TcpConnection) (c : κ) : g (feed conn c).2.2 = g c := by
  have fed := keeps c conn.rxBuffer
  rw [feed]
  split
  · rfl
  · generalize ITransportCodec.decodePackets c conn.rxBuffer = r at fed ⊢
    obtain ⟨result, codec⟩ := r
    cases result with
    | error e => exact fed
    | ok packets =>
      cases packets with
      | nil | cons packet packets => exact fed

/-- The loop that receives leaves alone what decoding leaves alone. -/
lemma receiveLoop_keeps (timeoutMs clock inbox) (conn : TcpConnection) (c : κ) :
    g (receiveLoop timeoutMs clock inbox conn c).codec = g c := by
  induction clock generalizing inbox conn c with
  | nil =>
    have fed := feed_keeps keeps conn c
    rw [receiveLoop]
    generalize feed conn c = r at fed ⊢
    obtain ⟨result, conn, codec⟩ := r
    cases result with
    | some result | none => exact fed
  | cons elapsed clock ih =>
    have fed := feed_keeps keeps conn c
    rw [receiveLoop]
    generalize feed conn c = r at fed ⊢
    obtain ⟨result, conn, codec⟩ := r
    cases result with
    | some result => exact fed
    | none =>
      simp only
      generalize await conn timeoutMs elapsed inbox = got
      obtain ⟨chunk, inbox⟩ := got
      cases chunk with
      | none => exact fed
      | some chunk => exact (ih _ _ _).trans fed

/-- A call that receives leaves alone what decoding leaves alone. -/
lemma receivePacket_keeps (conn : TcpConnection) (c : κ) (timeoutMs sock) :
    g (receivePacket conn c timeoutMs sock).codec = g c := by
  rw [receivePacket]
  split
  · rfl
  · exact receiveLoop_keeps keeps _ _ _ _ _

end

/-- One more call goes on where the others left off. -/
lemma receiveAll_concat {κ : Type} [ITransportCodec κ] (conn : TcpConnection) (c : κ)
    (timeouts timeoutMs sock) :
    receiveAll conn c (timeouts ++ [timeoutMs]) sock =
      let before := receiveAll conn c timeouts sock
      let call := receivePacket before.2.1 before.2.2.1 timeoutMs before.2.2.2
      (before.1 ++ [call.result], call.conn, call.codec, call.sock) := by
  induction timeouts generalizing conn c sock with
  | nil => rfl
  | cons first timeouts ih =>
    simp only [List.cons_append, receiveAll, ih]

/-! ## What a connection receives -/

/-- What a connection of its own would have received with the same calls. -/
def Link.alone (link : Link) :
    List (Except Fault (List UInt8)) × TcpConnection × TransportCodec × ReceiveSocket :=
  receiveAll ⟨link.socketFd, []⟩ (createTransportCodec link.proto) link.timeouts link.script

/-- A client with the connection it has: to what comes in, the codec and the buffer are what they would
    be on a connection of its own. -/
structure Listening (c : MtprotoClient ssl) (link : Link) : Prop where
  connected : c.isConnected
  alone : ∃ codec, c.codec.map TransportCodec.receiving = some codec ∧
    link.alone = (link.received, c.connection, codec, link.left)

/-- A `receive_response` call. -/
lemma Listening.receives {c c' : MtprotoClient ssl} {link : Link} {timeoutMs result left}
    (listening : Listening c link)
    (call : c.receiveResponse timeoutMs link.left = (result, c', left)) :
    c'.session = c.session ∧ Listening c' { link with
      left, timeouts := link.timeouts ++ [timeoutMs], received := link.received ++ [result] } := by
  obtain ⟨connected, half, has, alone⟩ := listening
  obtain ⟨codec, there, rfl⟩ := Option.map_eq_some_iff.mp has
  rw [receiveResponse, connected, there] at call
  cases call
  have open' : (receivePacket c.connection codec timeoutMs link.left).conn.isConnected =
      c.connection.isConnected := receivePacket_isConnected
  refine ⟨rfl, open'.trans connected, _, rfl, ?_⟩
  have same := receivePacket_map (f := TransportCodec.receiving) TransportCodec.decode_receiving
    c.connection codec timeoutMs link.left
  have more := receiveAll_concat ⟨link.socketFd, []⟩ (createTransportCodec link.proto) link.timeouts
    timeoutMs link.script
  rw [Link.alone] at alone
  simp only [alone, same] at more
  exact more

/-- What a call leaves alone that sends. -/
structure Frame (c c' : MtprotoClient ssl) : Prop where
  connection : c'.connection = c.connection
  codec : c'.codec.map TransportCodec.receiving = c.codec.map TransportCodec.receiving

/-- Who listens goes on listening when a call leaves the receiving side alone. -/
lemma Listening.framed {c c' : MtprotoClient ssl} {link : Link} (listening : Listening c link)
    (frame : Frame c c') : Listening c' link := by
  obtain ⟨connected, alone⟩ := listening
  rw [isConnected, ← frame.connection] at connected
  rw [← frame.connection, ← frame.codec] at alone
  exact ⟨connected, alone⟩

/-- What `send_encrypted` makes of a session. -/
def drawn (s : Session ssl) (m : Outgoing) : Session ssl :=
  if s.authKey.length = 256 then next s m else s

/-- What a message leaves of the session is what the call does. -/
lemma drawn_eq (s : Session ssl) (m : Outgoing) : drawn s m = (s.run [m.call]).2 := by
  change _ = (s.step m.call).2
  by_cases key : s.authKey.length = 256
  · rw [drawn, if_pos key, step_call key]
  · rw [drawn, if_neg key, Outgoing.call, Session.step_no_key key]

/-- To pack a message leaves the session as drawn. -/
lemma packEncryptedMessage_drawn (s : Session ssl) (m : Outgoing) :
    (s.packEncryptedMessage m.payload m.isContentRelated m.draw m.epochMs).2 = drawn s m := by
  by_cases key : s.authKey.length = 256
  · rw [drawn, if_pos key, Session.packEncryptedMessage, Session.compose_key key, next]
  · rw [drawn, if_neg key, Session.packEncryptedMessage, Session.compose_no_key key]

/-- To send a packet leaves the receiving half of the codec alone. -/
lemma sendPacket_receiving (conn : TcpConnection) (codec : TransportCodec) (packet sock) :
    (sendPacket conn codec packet sock).2.1.receiving = codec.receiving := by
  rw [sendPacket]
  split
  · rfl
  · exact codec.encode_receiving packet

/-- A `send_encrypted` call. -/
lemma sendEncrypted_frame (c : MtprotoClient ssl) (m : Outgoing) (sock : SendSocket) :
    let c' := (c.sendEncrypted m.payload m.isContentRelated m.draw m.epochMs sock).2.1
    Frame c c' ∧ (c.codec ≠ none →
      c'.session = if c.isConnected then drawn c.session m else c.session) := by
  rw [← packEncryptedMessage_drawn, sendEncrypted]
  cases c.isConnected with
  | false => exact ⟨⟨rfl, rfl⟩, fun _ => rfl⟩
  | true =>
    cases has : c.codec with
    | none => exact ⟨⟨rfl, rfl⟩, fun absent => absurd rfl absent⟩
    | some codec =>
      cases packed : c.session.packEncryptedMessage m.payload m.isContentRelated m.draw m.epochMs with
      | mk result session =>
        cases result with
        | error fault => exact ⟨⟨rfl, by rw [has]; rfl⟩, fun _ => rfl⟩
        | ok packet =>
          refine ⟨⟨rfl, ?_⟩, fun _ => rfl⟩
          rw [has]
          exact congrArg some (sendPacket_receiving c.connection codec packet sock)

/-- A `send_unencrypted` call. -/
lemma sendUnencrypted_frame (c : MtprotoClient ssl) (payload epochMs) (sock : SendSocket) :
    let c' := (c.sendUnencrypted payload epochMs sock).2.1
    Frame c c' ∧ (c.codec ≠ none →
      c'.session = if c.isConnected then (c.session.generateMsgId epochMs).2 else c.session) := by
  rw [sendUnencrypted]
  cases c.isConnected with
  | false => exact ⟨⟨rfl, rfl⟩, fun _ => rfl⟩
  | true =>
    cases has : c.codec with
    | none => exact ⟨⟨rfl, rfl⟩, fun absent => absurd rfl absent⟩
    | some codec =>
      refine ⟨⟨rfl, ?_⟩, fun _ => rfl⟩
      rw [has]
      exact congrArg some (sendPacket_receiving c.connection codec _ sock)

/-! ## Connecting -/

/-- Behind `disconnect` a client is not connected. -/
lemma disconnect_closed (c : MtprotoClient ssl) : c.disconnect.isConnected = false := by
  refine decide_eq_false ?_
  change ¬ 0 ≤ (if 0 ≤ c.connection.socketFd then (-1 : Int) else c.connection.socketFd)
  split
  · decide
  · assumption

/-- A `connect` call: the client has a connection with nothing but the header on it, or none. -/
lemma connect_cases {c c' : MtprotoClient ssl} {dcId proto timeoutMs dial results ok sock}
    (call : c.connect dcId proto timeoutMs dial ⟨results, []⟩ = (ok, c', sock)) :
    c'.session = c.session ∧ (c.codec ≠ none → c'.codec ≠ none) ∧
      if ok then
        c'.isConnected ∧ c'.codec = some (createTransportCodec proto) ∧ c'.connection.rxBuffer = [] ∧
          sock.accepted = ITransportCodec.getHeader (createTransportCodec proto)
      else c'.isConnected = false := by
  have closed := c.disconnect_closed
  simp only [connect] at call
  split at call
  · cases call
    exact ⟨rfl, fun has gone => has (Option.map_eq_none_iff.mp gone), closed⟩
  · rename_i dc _
    cases opened : c.disconnect.connection.connect dc.ipV4 dc.port timeoutMs dial with
    | mk made connection =>
      have empty : connection.rxBuffer = [] := by
        rw [TcpConnection.connect] at opened
        split at opened
        · cases opened
          rfl
        · cases opened
          rfl
      rw [opened] at call
      cases made with
      | false =>
        have shut : connection.isConnected = false := by
          rw [TcpConnection.connect] at opened
          split at opened
          · cases opened
            exact c.disconnect.disconnect_closed
          · cases opened
        cases call
        exact ⟨rfl, fun _ => Option.some_ne_none _, shut⟩
      | true =>
        have connected := TcpConnection.connect_connected opened
        simp only [Bool.not_true, Bool.false_eq_true, if_false] at call
        split at call
        · rename_i no_header
          cases call
          exact ⟨rfl, fun _ => Option.some_ne_none _, connected, rfl, empty, no_header.symm⟩
        · cases sent : sendBytes connection
            (ITransportCodec.getHeader (createTransportCodec proto)) ⟨results, []⟩ with
          | mk ok' sock' =>
            rw [sent] at call
            cases ok' with
            | false =>
              cases call
              exact ⟨rfl, fun _ => Option.some_ne_none _,
                disconnect_closed { c.disconnect with connection }⟩
            | true =>
              cases call
              exact ⟨rfl, fun _ => Option.some_ne_none _, connected, rfl, empty,
                sendBytes_accepted connected sent⟩

/-! ## What every call keeps -/

namespace Life

/-- A client is connected as long as it has a connection, and listens to it. -/
structure Open (s : Life ssl) : Prop where
  closed : ∀ link ∈ s.closed, link.alone.1 = link.received
  link : ∀ link, s.link = some link → Listening s.client link
  apart : s.link = none → s.client.isConnected = false
  codec : s.client.codec ≠ none

/-- All connections have received what they would have received on their own. -/
lemma Open.heard {s : Life ssl} (is_open : s.Open) :
    ∀ link ∈ s.links, link.alone.1 = link.received := by
  intro link member
  rcases List.mem_append.mp member with old | current
  · exact is_open.closed link old
  · obtain ⟨-, codec, -, alone⟩ := is_open.link link (Option.mem_toList.mp current)
    rw [alone]

lemma open_start (config : ClientConfig) (sessionId : UInt64) :
    (start config sessionId : Life ssl).Open :=
  ⟨nofun, nofun, fun _ => rfl, nofun⟩

/-- Something that lets the client listen on, and changes nothing of what a connection has received. -/
lemma Open.framed {s s' : Life ssl} (is_open : s.Open) (closed : s'.closed = s.closed)
    (frame : Frame s.client s'.client) {f : Link → Link} (link : s'.link = s.link.map f)
    (same : ∀ link, (f link).alone = link.alone ∧ (f link).received = link.received ∧
      (f link).left = link.left) : s'.Open := by
  refine ⟨closed ▸ is_open.closed, ?_, fun gone => ?_, fun gone => ?_⟩
  · rw [link]
    intro link' here
    obtain ⟨before, there, rfl⟩ := Option.map_eq_some_iff.mp here
    obtain ⟨connected, codec, has, alone⟩ := (is_open.link before there).framed frame
    obtain ⟨same, received, left⟩ := same before
    exact ⟨connected, codec, has, by rw [same, received, left, alone]⟩
  · rw [link, Option.map_eq_none_iff] at gone
    have shut := is_open.apart gone
    rw [isConnected, ← frame.connection] at shut
    exact shut
  · have none := frame.codec
    rw [gone] at none
    exact is_open.codec (Option.map_eq_none_iff.mp none.symm)

lemma Open.aside {s s' : Life ssl} (is_open : s.Open) (closed : s'.closed = s.closed)
    (frame : Frame s.client s'.client) (link : s'.link = s.link) : s'.Open :=
  is_open.framed (f := id) closed frame (by rw [link, Option.map_id]; rfl) fun _ => ⟨rfl, rfl, rfl⟩

/-- A call that sends leaves the client as open as it was. -/
lemma Open.posts {s : Life ssl} {a call} (is_open : s.Open)
    (frame : ∀ sock, Frame s.client (call sock).2.1) : (s.posted a call).Open := by
  refine is_open.framed rfl (frame _) rfl fun link => ?_
  unfold Link.posted
  split
  · exact ⟨rfl, rfl, rfl⟩
  · exact ⟨rfl, rfl, rfl⟩
  · exact ⟨rfl, rfl, rfl⟩

/-- The session of a client after a call. -/
def sessionAfter (s : Life ssl) : Action → Session ssl
  | .setServerSalt salt => s.client.session.setServerSalt salt
  | a => (s.client.session.run (a.calls s.client.isConnected s.client.session)).2

/-- A message that is to be encrypted. -/
lemma Open.encrypts {s : Life ssl} (is_open : s.Open) (m : Outgoing) :
    (s.step (.sendEncrypted m)).Open ∧
      (s.step (.sendEncrypted m)).client.session = s.sessionAfter (.sendEncrypted m) := by
  have frame := sendEncrypted_frame s.client m
  refine ⟨is_open.posts fun sock => (frame sock).1, ((frame _).2 is_open.codec).trans ?_⟩
  change _ = (s.client.session.run (if s.client.isConnected then [m.call] else [])).2
  cases s.client.isConnected with
  | false => rfl
  | true => exact drawn_eq _ _

/-- A ping without an identifier draws one, and is then one with this identifier. -/
lemma step_ping_zero (s : Life ssl) (pingMs draw epochMs) :
    s.step (.ping 0 pingMs draw epochMs) =
      (s.step (.session (.generateMsgId pingMs))).step
        (.sendEncrypted (.ping (s.client.session.generateMsgId pingMs).1 draw epochMs)) := by
  have split : ∀ calls, (s.client.session.run (.generateMsgId pingMs :: calls)).1 =
      .msgId (s.client.session.generateMsgId pingMs).1 ::
        ((s.client.session.generateMsgId pingMs).2.run calls).1 := fun _ => rfl
  simp only [step, posted, Action.calls, Action.letter, if_true, split, List.append_assoc]
  rfl

/-- A ping with a number of its own is an encrypted message. -/
lemma step_ping (s : Life ssl) {pingId} (given : pingId ≠ 0) (pingMs draw epochMs) :
    s.step (.ping pingId pingMs draw epochMs) =
      s.step (.sendEncrypted (.ping pingId draw epochMs)) := by
  have same : s.client.ping pingId pingMs draw epochMs =
      s.client.sendEncrypted (buildPingQuery pingId) false draw epochMs := by
    funext sock
    rw [ping, if_neg given]
  simp only [step, posted, Action.calls, Action.letter, if_neg given, same]
  rfl

/-- What a call makes of the session, and that the client listens to its connection. -/
lemma open_step {s : Life ssl} (is_open : s.Open) (a : Action) :
    (s.step a).Open ∧ (s.step a).client.session = s.sessionAfter a := by
  cases a with
  | connect dcId proto timeoutMs dial results script =>
    cases call : s.client.connect dcId proto timeoutMs dial ⟨results, []⟩ with
    | mk ok rest =>
      obtain ⟨c', sock⟩ := rest
      obtain ⟨same, has, made⟩ := connect_cases call
      simp only [step, call]
      cases ok with
      | false => exact ⟨⟨is_open.heard, by rintro _ ⟨⟩, fun _ => made, has is_open.codec⟩, same⟩
      | true =>
        obtain ⟨connected, codec, empty, -⟩ := made
        refine ⟨⟨is_open.heard, ?_, by rintro ⟨⟩, has is_open.codec⟩, same⟩
        rintro _ ⟨⟩
        refine ⟨connected, createTransportCodec proto, ?_, ?_⟩
        · rw [codec]
          exact congrArg some (createTransportCodec_receiving proto)
        · rw [Link.alone, ← empty]
          rfl
  | disconnect =>
    refine ⟨⟨is_open.heard, by rintro _ ⟨⟩, fun _ => s.client.disconnect_closed, ?_⟩, rfl⟩
    exact fun gone => is_open.codec (Option.map_eq_none_iff.mp gone)
  | sendUnencrypted payload epochMs =>
    have frame := sendUnencrypted_frame s.client payload epochMs
    have posts : (s.posted (.sendUnencrypted payload epochMs) fun sock =>
        (s.client.sendUnencrypted payload epochMs sock).map .ok id).Open :=
      is_open.posts fun sock => (frame sock).1
    refine ⟨posts, ((frame _).2 is_open.codec).trans ?_⟩
    change _ = (s.client.session.run
      (if s.client.isConnected then [.packUnencryptedMessage payload epochMs] else [])).2
    cases s.client.isConnected with
    | true | false => rfl
  | sendEncrypted m => exact is_open.encrypts m
  | sendWithLayer layer m => exact is_open.encrypts (m.wrapped layer)
  | ping pingId pingMs draw epochMs =>
    by_cases drawn : pingId = 0
    · subst drawn
      have named : (s.step (.session (.generateMsgId pingMs))).Open :=
        is_open.aside rfl ⟨rfl, rfl⟩ rfl
      rw [step_ping_zero]
      exact named.encrypts _
    · rw [step_ping s drawn]
      obtain ⟨is_open', after⟩ := is_open.encrypts (.ping pingId draw epochMs)
      refine ⟨is_open', after.trans ?_⟩
      change _ = (s.client.session.run (if pingId = 0 then _ else _)).2
      rw [if_neg drawn]
      rfl
  | receive timeoutMs =>
    cases here : s.link with
    | none =>
      have shut := is_open.apart here
      have same : (s.client.receiveResponse timeoutMs ⟨[], []⟩).2.1 = s.client := by
        rw [receiveResponse, shut]
        rfl
      simp only [step, here, same]
      exact ⟨is_open.aside rfl ⟨rfl, rfl⟩ here.symm, rfl⟩
    | some link =>
      cases call : s.client.receiveResponse timeoutMs link.left with
      | mk result rest =>
        obtain ⟨c', left⟩ := rest
        obtain ⟨same, listening⟩ := (is_open.link link here).receives call
        simp only [step, here, call]
        refine ⟨⟨is_open.closed, ?_, by rintro ⟨⟩, fun gone => ?_⟩, same⟩
        · rintro _ ⟨⟩
          exact listening
        · obtain ⟨-, codec, has, -⟩ := listening
          rw [show c'.codec = none from gone] at has
          cases has
  | session call => exact ⟨is_open.aside rfl ⟨rfl, rfl⟩ rfl, rfl⟩
  | setServerSalt salt => exact ⟨is_open.aside rfl ⟨rfl, rfl⟩ rfl, rfl⟩
  | configure config => exact ⟨is_open.aside rfl ⟨rfl, rfl⟩ rfl, rfl⟩
  | registerCustomDc id dc isTest => exact ⟨is_open.aside rfl ⟨rfl, rfl⟩ rfl, rfl⟩

/-- Through a whole lifetime a client listens to the connection that it has. -/
lemma open_run {s : Life ssl} (is_open : s.Open) (actions : List Action) :
    (s.run actions).Open := by
  induction actions generalizing s with
  | nil => exact is_open
  | cons a actions ih => exact ih (open_step is_open a).1

/-- Whatever a client does in its lifetime, the `receive_response` calls of a connection return and
    throw what they would on a connection with nothing else: neither what is sent in between nor what
    an earlier connection has left shows in them. -/
theorem run_receives (config : ClientConfig) (sessionId : UInt64) (actions : List Action) :
    let links := ((start config sessionId : Life ssl).run actions).links
    links.map (·.received) = links.map fun link =>
      (receiveAll ⟨link.socketFd, []⟩ (createTransportCodec link.proto) link.timeouts
        link.script).1 := by
  intro links
  refine List.map_congr_left fun link member => ?_
  exact ((open_run (open_start config sessionId) actions).heard link member).symm

end Life

end CppGram.MtprotoClient
