import CppGram.Client.Basic
import CppGram.Network.Send
import CppGram.Session.Identifiers

/-!
# The encrypted channel

What `send_encrypted` calls put on the wire is read back on the other side: `sendAllEncrypted_spec`
gives the packets of a run whose bytes the socket accepted, and `channel_delivers` what a new codec
of the same protocol and a session with the same key make of them.
-/

namespace CppGram.MtprotoClient
open Network Transport

variable {ssl : OpenSSL}

/-- What is handed to a `send_encrypted` call, and what the call draws. -/
structure Outgoing where
  payload : List UInt8
  isContentRelated : Bool
  draw : Nat → UInt8
  epochMs : Int64

/-- Successive `send_encrypted` calls: what they returned or threw, the client and the socket. -/
def sendAllEncrypted : MtprotoClient ssl → List Outgoing → SendSocket →
    List (Except Fault Bool) × MtprotoClient ssl × SendSocket
  | c, [], sock => ([], c, sock)
  | c, m :: ms, sock =>
    let (result, c, sock) := c.sendEncrypted m.payload m.isContentRelated m.draw m.epochMs sock
    let (results, c, sock) := sendAllEncrypted c ms sock
    (result :: results, c, sock)

/-! ## The connection -/

/-- A connection that was made has a new codec, and the header of the protocol is on the wire. -/
lemma connect_spec {c c' : MtprotoClient ssl} {dcId proto timeoutMs dial sock sock'}
    (h : c.connect dcId proto timeoutMs dial sock = (true, c', sock')) :
    c'.isConnected ∧ c'.codec = some (createTransportCodec proto) ∧ c'.session = c.session ∧
      sock'.accepted = sock.accepted ++ ITransportCodec.getHeader (createTransportCodec proto) := by
  simp only [connect] at h
  split at h
  · cases h
  · rename_i dc _
    cases opened : c.disconnect.connection.connect dc.ipV4 dc.port timeoutMs dial with
    | mk ok connection =>
      rw [opened] at h
      cases ok with
      | false => cases h
      | true =>
        -- the full codec has no header, and `send_bytes` of nothing would report a failure
        have connected := TcpConnection.connect_connected opened
        simp only [Bool.not_true, Bool.false_eq_true, if_false] at h
        split at h
        · rename_i no_header
          cases h
          exact ⟨connected, rfl, rfl, by rw [no_header, List.append_nil]⟩
        · cases sent : sendBytes connection
            (ITransportCodec.getHeader (createTransportCodec proto)) sock with
          | mk ok sock'' =>
            rw [sent] at h
            cases ok with
            | false => cases h
            | true =>
              cases h
              exact ⟨connected, rfl, rfl, sendBytes_accepted connected sent⟩

/-! ## The messages of a session -/

/-- The message as a call of the session. -/
def Outgoing.call (m : Outgoing) : Session.Call :=
  .packEncryptedMessage m.payload m.isContentRelated m.draw m.epochMs

/-- The session behind `pack_encrypted_message`. -/
def next (s : Session ssl) (m : Outgoing) : Session ssl :=
  ((s.generateMsgId m.epochMs).2.generateSeqNo m.isContentRelated).2

/-- The messages a session makes, with the identifiers and the sequence numbers it draws. -/
def messages : Session ssl → List Outgoing → List MTProtoMessage
  | _, [] => []
  | s, m :: ms =>
    ⟨(s.generateMsgId m.epochMs).1, (s.generateSeqNo m.isContentRelated).1, m.payload⟩ ::
      messages (next s m) ms

/-- The sequence numbers of messages of these kinds, after `k` content-related ones. -/
def seqNumbers : Nat → List Bool → List Int
  | _, [] => []
  | k, kind :: kinds => ↑(2 * k + kind.toNat) :: seqNumbers (kind.toNat + k) kinds

lemma next_key {s : Session ssl} {m} : (next s m).authKey = s.authKey :=
  s.authKey_drawn m.isContentRelated m.epochMs

lemma step_call {s : Session ssl} {m : Outgoing} (key : s.authKey.length = 256) :
    (s.step m.call).2 = next s m := by
  rw [Outgoing.call, Session.step_key key, next]

lemma clockOf_call {s : Session ssl} {m : Outgoing} (key : s.authKey.length = 256) :
    s.clockOf m.call = some m.epochMs := by
  rw [Outgoing.call, Session.clockOf, if_pos key]

/-- The messages have the payloads in turn. -/
lemma messages_payload {s : Session ssl} {ms} :
    (messages s ms).map (·.payload) = ms.map (·.payload) := by
  induction ms generalizing s with
  | nil => rfl
  | cons m ms ih => exact congrArg (m.payload :: ·) ih

/-- The identifiers of the messages grow. -/
lemma messages_msgId {s : Session ssl} {ms} (key : s.authKey.length = 256)
    (in_range : s.RunInRange (ms.map Outgoing.call)) :
    (∀ m ∈ messages s ms, s.lastMsgId.toInt < m.msgId.toInt) ∧
      (messages s ms).Pairwise fun a b => a.msgId < b.msgId := by
  -- on the messages, for any last identifier
  induction ms generalizing s with
  | nil => exact ⟨nofun, .nil⟩
  | cons m ms ih =>
    obtain ⟨here, later⟩ := in_range
    rw [step_call key] at later
    obtain ⟨larger, kept⟩ := Session.generateMsgId_larger (here m.epochMs (clockOf_call key))
    have last : (next s m).lastMsgId = (s.generateMsgId m.epochMs).1 := by
      rw [← kept, next]
      cases m.isContentRelated <;> rfl
    obtain ⟨after, sorted⟩ := ih (s := next s m) (by rw [next_key, key]) later
    rw [last] at after
    refine ⟨List.forall_mem_cons.mpr ⟨larger, fun m' hm => larger.trans (after m' hm)⟩, ?_⟩
    exact List.pairwise_cons.mpr ⟨fun m' hm => Int64.lt_iff_toInt_lt.mpr (after m' hm), sorted⟩

/-- The sequence numbers count the content-related messages. -/
lemma messages_seqNo {s : Session ssl} {ms : List Outgoing} {k : Nat}
    (counter : s.contentSeqNo.toInt = k) (few : ms.countP (·.isContentRelated) + k < 2 ^ 30) :
    (messages s ms).map (·.seqNo.toInt) = seqNumbers k (ms.map (·.isContentRelated)) := by
  -- on the messages, for any counter
  induction ms generalizing s k with
  | nil => rfl
  | cons m ms ih =>
    have count : (m :: ms).countP (·.isContentRelated) =
        m.isContentRelated.toNat + ms.countP (·.isContentRelated) := by
      rw [List.countP_cons, Nat.add_comm]
      cases m.isContentRelated <;> rfl
    rw [count] at few
    obtain ⟨number, counted⟩ := Session.generateSeqNo_spec m.isContentRelated counter (by omega)
    have kept : (next s m).contentSeqNo.toInt = ↑(m.isContentRelated.toNat + k) := by
      rw [← counted, next]
      cases m.isContentRelated <;> rfl
    have ih := ih kept (by omega)
    rw [messages, List.map_cons, ih, number]
    rfl

/-! ## Packets -/

/-- The length of the packet of a payload of `n` bytes. -/
def packetLen (n : Nat) : Nat := 24 + (32 + n + Session.padLen (32 + n))

/-- Every session with the key reads `m` from the packet, which has the length for its payload. -/
structure Carries (ssl : OpenSSL) (authKey : List UInt8) (packet : List UInt8)
    (m : MTProtoMessage) : Prop where
  length : packet.length = packetLen m.payload.length
  opens : ∀ (receiver : Session ssl) (out : MTProtoMessage), receiver.authKey = authKey →
    receiver.unpackEncryptedMessage packet out = .ok (true, m)

/-- The padding makes packets of whole words. -/
lemma packetLen_dvd {n} : 4 ∣ packetLen n := by
  obtain ⟨-, -, whole⟩ := Session.padLen_spec (32 + n)
  rw [packetLen]
  omega

/-- A packet is made of every payload, and carries it with the next numbers. -/
lemma pack_spec {s : Session ssl} {m : Outgoing} (inverts : ssl.Inverts)
    (key : s.authKey.length = 256) (fits : m.payload.length < 2 ^ 32) :
    ∃ packet, s.packEncryptedMessage m.payload m.isContentRelated m.draw m.epochMs =
        (.ok packet, next s m) ∧
      Carries ssl s.authKey packet ⟨(s.generateMsgId m.epochMs).1,
        (s.generateSeqNo m.isContentRelated).1, m.payload⟩ := by
  obtain ⟨packet, packed, len, opens⟩ := Session.unpack_packEncryptedMessage inverts key fits
    m.isContentRelated m.draw m.epochMs
  have left : (s.packEncryptedMessage m.payload m.isContentRelated m.draw m.epochMs).2 =
      next s m := by
    rw [Session.packEncryptedMessage, Session.compose_key key, next]
  refine ⟨packet, Prod.ext packed left, ?_, opens⟩
  change packet.length = packetLen m.payload.length
  rw [List.length_drop] at len
  rw [packetLen]
  omega

/-- A call with a key that the socket refuses nothing of returns true, and the frame of the packet
    is on the wire. -/
lemma sendEncrypted_spec {c c' : MtprotoClient ssl} {codec m sock sock' result}
    (inverts : ssl.Inverts) (connected : c.isConnected) (has : c.codec = some codec)
    (key : c.session.authKey.length = 256) (fits : m.payload.length < 2 ^ 32)
    (call : c.sendEncrypted m.payload m.isContentRelated m.draw m.epochMs sock =
      (result, c', sock')) (sent : result ≠ .ok false) :
    result = .ok true ∧ ∃ packet,
      Carries ssl c.session.authKey packet ⟨(c.session.generateMsgId m.epochMs).1,
        (c.session.generateSeqNo m.isContentRelated).1, m.payload⟩ ∧
      sock'.accepted = sock.accepted ++ (ITransportCodec.encodePacket codec packet).1 ∧
      c'.isConnected ∧ c'.codec = some (ITransportCodec.encodePacket codec packet).2 ∧
      c'.session = next c.session m := by
  obtain ⟨packet, packed, carries⟩ := pack_spec inverts key fits
  simp only [sendEncrypted, connected, Bool.not_true, Bool.false_eq_true, if_false, has, packed,
    sendPacket_open connected] at call
  cases out : sendBytes c.connection (ITransportCodec.encodePacket codec packet).1 sock with
  | mk ok sock'' =>
    rw [out] at call
    cases ok with
    | false =>
      cases call
      exact absurd rfl sent
    | true =>
      cases call
      exact ⟨rfl, packet, carries, sendBytes_accepted connected out, connected, rfl, rfl⟩

/-- A run with a key over a socket that refuses nothing: the packets of the messages of its session,
    framed one after the other. -/
lemma sendAllEncrypted_spec {c c' : MtprotoClient ssl} {codec ms sock sock' results}
    (inverts : ssl.Inverts) (connected : c.isConnected) (has : c.codec = some codec)
    (key : c.session.authKey.length = 256)
    (fits : ∀ m ∈ ms, m.payload.length < 2 ^ 32)
    (run : c.sendAllEncrypted ms sock = (results, c', sock')) (sent : .ok false ∉ results) :
    (∀ result ∈ results, result = .ok true) ∧
    ∃ packets, List.Forall₂ (Carries ssl c.session.authKey) packets (messages c.session ms) ∧
      sock'.accepted = sock.accepted ++ (encodeAll codec packets).1.flatten := by
  -- on the messages, for any client: one call leaves a connected client with a codec and the key
  induction ms generalizing c codec sock results with
  | nil =>
    cases run
    exact ⟨nofun, [], .nil, (List.append_nil _).symm⟩
  | cons m ms ih =>
    rw [sendAllEncrypted] at run
    cases call : c.sendEncrypted m.payload m.isContentRelated m.draw m.epochMs sock with
    | mk result rest =>
      obtain ⟨c₁, sock₁⟩ := rest
      rw [call] at run
      cases later : sendAllEncrypted c₁ ms sock₁ with
      | mk results₁ rest =>
        obtain ⟨c₂, sock₂⟩ := rest
        simp only [later] at run
        cases run
        obtain ⟨here, there⟩ := not_or.mp (mt List.mem_cons.mpr sent)
        obtain ⟨fits_here, fits⟩ := List.forall_mem_cons.mp fits
        obtain ⟨ok, packet, carries, accepted, connected', has', left⟩ :=
          sendEncrypted_spec inverts connected has key fits_here call (Ne.symm here)
        obtain ⟨all_ok, packets, carry, accepted'⟩ :=
          ih connected' has' (by rw [left, next_key, key]) fits later there
        rw [left, next_key] at carry
        refine ⟨List.forall_mem_cons.mpr ⟨ok, all_ok⟩, packet :: packets, .cons carries carry, ?_⟩
        rw [accepted', accepted, encodeAll, List.append_assoc]
        rfl

/-- Opening the packets one by one gives the messages. -/
lemma opens_all {authKey packets ms} {receiver : Session ssl}
    (carry : List.Forall₂ (Carries ssl authKey) packets ms) (same : receiver.authKey = authKey)
    (out : MTProtoMessage) :
    packets.map (fun packet => receiver.unpackEncryptedMessage packet out) =
      ms.map fun m => .ok (true, m) := by
  induction carry with
  | nil => rfl
  | cons carries _ ih => rw [List.map_cons, List.map_cons, carries.opens receiver out same, ih]

/-- The packets of small payloads are whole words within the limit. -/
lemma admissible_all {authKey packets ms}
    (carry : List.Forall₂ (Carries ssl authKey) packets ms)
    (small : ∀ payload ∈ ms.map MTProtoMessage.payload,
      packetLen payload.length + 12 ≤ 16 * 1024 * 1024) :
    ∀ packet ∈ packets, Admissible packet := by
  induction carry with
  | nil => nofun
  | cons carries _ ih =>
    obtain ⟨here, small⟩ := List.forall_mem_cons.mp small
    refine List.forall_mem_cons.mpr ⟨⟨?_, ?_⟩, ih small⟩
    · rw [carries.length]
      exact packetLen_dvd
    · rw [FullCodec.Admissible, carries.length]
      exact here

/-- The encrypted channel. A client with a complete key connects and sends; unless the socket
    refuses bytes, every call returns true, and what is on the wire behind the header is, for a new
    codec of the protocol and however it is cut, the packets from which every session with the key
    reads the payloads in order, under growing identifiers and the sequence numbers of their kinds.
    The packets are whole words, so every framing carries them. -/
theorem channel_delivers (inverts : ssl.Inverts) (proto : TransportProtocol)
    (c c₁ c₂ : MtprotoClient ssl) (dcId timeoutMs : Int) (dial : Dial)
    (sock sock₁ sock₂ : SendSocket)
    (ms : List Outgoing) (results : List (Except Fault Bool)) (k : Nat)
    (key : c.session.authKey.length = 256)
    (connected : c.connect dcId proto timeoutMs dial sock = (true, c₁, sock₁))
    (sent : c₁.sendAllEncrypted ms sock₁ = (results, c₂, sock₂))
    (none_refused : .ok false ∉ results)
    (small : ∀ m ∈ ms, packetLen m.payload.length + 12 ≤ 16 * 1024 * 1024)
    (in_range : c.session.RunInRange (ms.map Outgoing.call))
    (counter : c.session.contentSeqNo.toInt = k)
    (few : ms.countP (·.isContentRelated) + k < 2 ^ 30) :
    (∀ result ∈ results, result = .ok true) ∧
    ∃ (stream : List UInt8) (packets : List (List UInt8)) (received : List MTProtoMessage),
      sock₂.accepted = sock.accepted ++ ITransportCodec.getHeader (createTransportCodec proto) ++
        stream ∧
      (∀ chunks : List (List UInt8), chunks.flatten = stream →
        ∃ codec, decodeAll (createTransportCodec proto) chunks = (packets, none, codec)) ∧
      (∀ receiver : Session ssl, receiver.authKey = c.session.authKey → ∀ out,
        packets.map (fun packet => receiver.unpackEncryptedMessage packet out) =
          received.map fun m => .ok (true, m)) ∧
      received.map (·.payload) = ms.map (·.payload) ∧
      (received.Pairwise fun a b => a.msgId < b.msgId) ∧
      received.map (·.seqNo.toInt) = seqNumbers k (ms.map (·.isContentRelated)) ∧
      ∀ packet ∈ packets, 4 ∣ packet.length ∧ AbridgedCodec.Admissible packet := by
  obtain ⟨is_connected, has, same_session, header⟩ := connect_spec connected
  rw [← same_session] at key in_range counter ⊢
  obtain ⟨all_ok, packets, carry, accepted⟩ := sendAllEncrypted_spec inverts is_connected has key
    (fun m hm => by
      have bound := small m hm
      rw [packetLen] at bound
      omega) sent none_refused
  have admissible : ∀ packet ∈ packets, Admissible packet := by
    apply admissible_all carry
    rw [messages_payload, List.forall_mem_map]
    exact small
  refine ⟨all_ok, (encodeAll (createTransportCodec proto) packets).1.flatten, packets,
    messages c₁.session ms, ?_, ?_, ?_, messages_payload, (messages_msgId key in_range).2,
    messages_seqNo counter few, ?_⟩
  · rw [accepted, header]
  · intro chunks cut
    exact createTransportCodec_round_trip proto admissible cut
  · intro receiver same out
    exact opens_all carry same out
  · intro packet member
    exact ⟨(admissible packet member).1, (admissible packet member).abridged⟩

/-- A client whose session has the key of `Session.sender`. -/
def client : MtprotoClient reference :=
  { session := (Session.new 7).setAuthKey Session.sender.authKey }

/-- A content-related message, and one that is not, within the same millisecond. -/
def pings : List Outgoing := [⟨[0x70, 0x69, 0x6e, 0x67], true, fun _ => 0, 1700000000123⟩,
  ⟨[0x70, 0x6f, 0x6e, 0x67, 0x21], false, fun _ => 1, 1700000000123⟩]

lemma client_key : client.session.authKey.length = 256 := by
  simp [client, Session.sender, Session.setServerSalt, Session.setAuthKey]

/-- Its clock and its identifiers stay in their range. -/
lemma pings_in_range : client.session.RunInRange (pings.map Outgoing.call) := by
  refine ⟨?_, ?_, trivial⟩
  · intro epochMs clock
    rw [clockOf_call client_key] at clock
    cases clock
    exact ⟨by decide +kernel, by decide +kernel, by decide +kernel, by decide +kernel⟩
  · rw [step_call client_key]
    intro epochMs clock
    rw [clockOf_call (by rw [next_key, client_key])] at clock
    cases clock
    exact ⟨by decide +kernel, by decide +kernel, by decide +kernel, by decide +kernel⟩

/-- Two messages through short writes of the socket. -/
theorem channel_delivers_pings :
    let start := client.connect 2 .Abridged 5000 (fun _ _ _ => some 3) ⟨[1, 1000, 40, 60, 300], []⟩
    let sent := start.2.1.sendAllEncrypted pings start.2.2
    (∀ result ∈ sent.1, result = .ok true) ∧
    ∃ (stream : List UInt8) (packets : List (List UInt8)) (received : List MTProtoMessage),
      sent.2.2.accepted = [] ++ [0xef] ++ stream ∧
      (∀ chunks : List (List UInt8), chunks.flatten = stream →
        ∃ codec, decodeAll (createTransportCodec .Abridged) chunks = (packets, none, codec)) ∧
      (∀ receiver : Session reference, receiver.authKey = client.session.authKey → ∀ out,
        packets.map (fun packet => receiver.unpackEncryptedMessage packet out) =
          received.map fun m => .ok (true, m)) ∧
      received.map (·.payload) = [[0x70, 0x69, 0x6e, 0x67], [0x70, 0x6f, 0x6e, 0x67, 0x21]] ∧
      (received.Pairwise fun a b => a.msgId < b.msgId) ∧
      received.map (·.seqNo.toInt) = [1, 2] ∧
      ∀ packet ∈ packets, 4 ∣ packet.length ∧ AbridgedCodec.Admissible packet := by
  intro start sent
  have connected : start.1 = true := by decide +kernel
  have parts {α β γ : Type} (x : α × β × γ) : x = (x.1, x.2.1, x.2.2) := rfl
  have split : start = (true, start.2.1, start.2.2) := by rw [← connected]
  have none_refused : .ok false ∉ sent.1 := by decide +kernel
  exact channel_delivers reference_inverts .Abridged client start.2.1 sent.2.1 2 5000
    (fun _ _ _ => some 3) ⟨[1, 1000, 40, 60, 300], []⟩ start.2.2 sent.2.2 pings sent.1 0 client_key
    split (parts sent) none_refused (by decide) pings_in_range rfl (by decide)

end CppGram.MtprotoClient
