import CppGram.Client.Lifetime

/-!
# The letters of a client

What the peers get of a client in its lifetime. Each connection carries the header of its protocol and
the packets of its letters, framed as by a new codec; each letter can be read from its packet; and the
identifiers of the letters grow over all connections. `run_delivers` puts this together.
-/

namespace CppGram.MtprotoClient
open Network Transport

variable {ssl : OpenSSL}

/-! ## What a connection carries -/

/-- The peer reads the letter from the packet, with whatever the output holds. -/
def Letter.ReadFrom (ssl : OpenSSL) (packet : List UInt8) : Letter → Prop
  | .plain msgId payload => ∀ out : MTProtoMessage,
      Session.unpackUnencryptedMessage packet out = .ok (true, { out with msgId, payload })
  | .encrypted authKey message => ∀ (receiver : Session ssl) (out : MTProtoMessage),
      receiver.authKey = authKey →
        receiver.unpackEncryptedMessage packet out = .ok (true, message)

/-- On the wire are the header of the protocol, the frames that a new codec makes of the packets of the
    letters, and then something only if a packet was not accepted as a whole. -/
structure Link.Delivers (ssl : OpenSSL) (link : Link) (packets : List (List UInt8))
    (rest : List UInt8) : Prop where
  stream : link.sock.accepted = ITransportCodec.getHeader (createTransportCodec link.proto) ++
    (encodeAll (createTransportCodec link.proto) packets).1.flatten ++ rest
  whole : link.failed = false → rest = []
  read : List.Forall₂ (Letter.ReadFrom ssl) packets link.sent
  admissible : ∀ packet ∈ packets, Admissible packet

/-- Payloads that every framing carries. -/
def Action.Admissible : Action → Prop
  | .sendUnencrypted payload _ => 4 ∣ payload.length ∧ 20 + payload.length + 12 ≤ 16 * 1024 * 1024
  | .sendEncrypted m => packetLen m.payload.length + 12 ≤ 16 * 1024 * 1024
  | .sendWithLayer _ m => packetLen (8 + m.payload.length) + 12 ≤ 16 * 1024 * 1024
  | _ => True

/-- To send bytes only appends to what the socket has accepted. -/
lemma sendBytes_more {conn} (connected : conn.isConnected) (data) (sock : SendSocket) :
    ∃ more, (sendBytes conn data sock).2.accepted = sock.accepted ++ more := by
  by_cases empty : data = []
  · rw [sendBytes, if_pos (.inr empty)]
    exact ⟨[], (List.append_nil _).symm⟩
  · obtain ⟨more, accepted, -⟩ := (sendBytes_sends connected empty sock).accepted
    exact ⟨more, accepted⟩

/-- A packet whose bytes are handed to the socket of a connection. -/
lemma Link.Delivers.handed {link : Link} {codec : TransportCodec} {conn packets rest packet letter}
    (delivers : link.Delivers ssl packets rest) (connected : conn.isConnected)
    (sending : link.failed = false →
      codec.sending = (encodeAll (createTransportCodec link.proto) packets).2)
    (read : Letter.ReadFrom ssl packet letter) (admissible : Admissible packet) {ok sock}
    (call : sendBytes conn (codec.encodePacket packet).1 link.sock = (ok, sock)) :
    ∃ packets rest, (link.posted (some letter) (.ok ok) sock).Delivers ssl packets rest ∧
      ((link.posted (some letter) (.ok ok) sock).failed = false →
        (codec.encodePacket packet).2.sending =
          (encodeAll (createTransportCodec link.proto) packets).2) := by
  obtain ⟨more, accepted⟩ := sendBytes_more connected (codec.encodePacket packet).1 link.sock
  rw [call] at accepted
  have grown : sock.accepted = ITransportCodec.getHeader (createTransportCodec link.proto) ++
      (encodeAll (createTransportCodec link.proto) packets).1.flatten ++ (rest ++ more) := by
    rw [← List.append_assoc, ← delivers.stream]
    exact accepted
  cases ok with
  | false =>
    exact ⟨packets, rest ++ more, ⟨grown, nofun, delivers.read, delivers.admissible⟩, nofun⟩
  | true =>
    cases failed : link.failed with
    | true =>
      refine ⟨packets, rest ++ more, ⟨grown, ?_, ?_, delivers.admissible⟩, ?_⟩
      · exact fun working => absurd (failed.symm.trans working) nofun
      · simp only [Link.posted, failed, if_true]
        exact delivers.read
      · exact fun working => absurd (failed.symm.trans working) nofun
    | false =>
      -- the codec makes the frame that a new one makes after the packets so far
      obtain ⟨frame, after⟩ := codec.encode_sending packet
      rw [sending failed] at frame after
      have all := encodeAll_concat (createTransportCodec link.proto) packets packet
      refine ⟨packets ++ [packet], [], ⟨?_, fun _ => rfl, ?_, ?_⟩, fun _ => ?_⟩
      · change sock.accepted = _ ++ (encodeAll (createTransportCodec link.proto) _).1.flatten ++ _
        rw [sendBytes_accepted connected call, delivers.stream, delivers.whole failed, all, frame,
          List.flatten_append, List.flatten_singleton, List.append_nil, List.append_nil,
          List.append_assoc]
        rfl
      · simp only [Link.posted, failed, Bool.false_eq_true, if_false]
        exact List.rel_append delivers.read (.cons read .nil)
      · intro p member
        rcases List.mem_append.mp member with old | new
        · exact delivers.admissible p old
        · rw [List.mem_singleton.mp new]
          exact admissible
      · rw [all]
        exact after

/-- A client whose codec goes on where the packets of its connection end. -/
def Carrying (c : MtprotoClient ssl) (link : Link) : Prop :=
  ∃ codec packets rest, c.codec = some codec ∧ link.Delivers ssl packets rest ∧
    (link.failed = false → codec.sending = (encodeAll (createTransportCodec link.proto) packets).2)

/-- A `send_unencrypted` call. -/
lemma Carrying.plain {c : MtprotoClient ssl} {link : Link} {payload epochMs ok c' sock}
    (carrying : Carrying c link) (connected : c.isConnected)
    (admissible : (Action.sendUnencrypted payload epochMs).Admissible)
    (call : c.sendUnencrypted payload epochMs link.sock = (ok, c', sock)) :
    Carrying c' (link.posted (some (.plain (c.session.generateMsgId epochMs).1 payload))
      (.ok ok) sock) := by
  obtain ⟨words, small⟩ := admissible
  obtain ⟨codec, packets, rest, has, delivers, sending⟩ := carrying
  have length : (c.session.packUnencryptedMessage payload epochMs).1.length =
      20 + payload.length := by
    simp only [Session.packUnencryptedMessage, List.length_append, Bytes.toLE_length]
  have fits : Transport.Admissible (c.session.packUnencryptedMessage payload epochMs).1 := by
    rw [Transport.Admissible, FullCodec.Admissible, length]
    exact ⟨(Nat.dvd_add_right (by decide)).mpr words, small⟩
  have read : Letter.ReadFrom ssl (c.session.packUnencryptedMessage payload epochMs).1
      (.plain (c.session.generateMsgId epochMs).1 payload) := fun out =>
    Session.unpack_packUnencryptedMessage (by omega)
  have handed : c.connection.isConnected := connected
  simp only [sendUnencrypted, connected, has, sendPacket_open handed, Bool.not_true,
    Bool.false_eq_true, if_false] at call
  cases out : sendBytes c.connection
      (codec.encodePacket (c.session.packUnencryptedMessage payload epochMs).1).1 link.sock with
  | mk ok' sock' =>
    change (_, _, _) = _ at call
    rw [show ITransportCodec.encodePacket codec _ = codec.encodePacket _ from rfl, out] at call
    cases call
    obtain ⟨packets', rest', delivers', sending'⟩ := delivers.handed handed sending read fits out
    refine ⟨_, packets', rest', rfl, delivers', ?_⟩
    cases ok' with
    | true | false => exact sending'

/-- A `send_encrypted` call. -/
lemma Carrying.encrypted {c : MtprotoClient ssl} {link : Link} {m : Outgoing} {result c' sock}
    (inverts : ssl.Inverts) (carrying : Carrying c link) (connected : c.isConnected)
    (admissible : (Action.sendEncrypted m).Admissible)
    (call : c.sendEncrypted m.payload m.isContentRelated m.draw m.epochMs link.sock =
      (result, c', sock)) :
    Carrying c' (link.posted (letter c.session m) result sock) := by
  obtain ⟨codec, packets, rest, has, delivers, sending⟩ := carrying
  have handed : c.connection.isConnected := connected
  have small : packetLen m.payload.length + 12 ≤ 16 * 1024 * 1024 := admissible
  by_cases key : c.session.authKey.length = 256
  · have short : m.payload.length < 2 ^ 32 := by
      rw [packetLen] at small
      omega
    obtain ⟨packet, packed, carries⟩ := pack_spec inverts key short
    have fits : Transport.Admissible packet := by
      rw [Transport.Admissible, FullCodec.Admissible, carries.length]
      exact ⟨packetLen_dvd, small⟩
    simp only [sendEncrypted, connected, has, packed, sendPacket_open handed, Bool.not_true,
      Bool.false_eq_true, if_false] at call
    have read : Letter.ReadFrom ssl packet (.encrypted c.session.authKey
        ⟨(c.session.generateMsgId m.epochMs).1, (c.session.generateSeqNo m.isContentRelated).1,
          m.payload⟩) := carries.opens
    rw [letter, if_pos key]
    cases out : sendBytes c.connection (codec.encodePacket packet).1 link.sock with
    | mk ok' sock' =>
      rw [show ITransportCodec.encodePacket codec _ = codec.encodePacket _ from rfl, out] at call
      cases call
      obtain ⟨packets', rest', delivers', sending'⟩ :=
        delivers.handed handed sending read fits out
      refine ⟨_, packets', rest', rfl, delivers', ?_⟩
      cases ok' with
      | true | false => exact sending'
  · have packed : c.session.packEncryptedMessage m.payload m.isContentRelated m.draw m.epochMs =
        (.error (.runtimeError "AuthKey is not set or invalid for encrypted session"),
          c.session) := by
      rw [Session.packEncryptedMessage, Session.compose_no_key key]
      rfl
    simp only [sendEncrypted, connected, has, packed, Bool.not_true, Bool.false_eq_true,
      if_false] at call
    cases call
    exact ⟨codec, packets, rest, rfl, delivers, sending⟩

namespace Life

/-! ## What every call keeps -/

/-- Each connection carries its letters. -/
structure Carried (s : Life ssl) : Prop where
  closed : ∀ link ∈ s.closed, ∃ packets rest, link.Delivers ssl packets rest
  link : ∀ link, s.link = some link → Carrying s.client link

/-- Each connection, closed or not, carries its letters. -/
lemma Carried.all {s : Life ssl} (carried : s.Carried) :
    ∀ link ∈ s.links, ∃ packets rest, link.Delivers ssl packets rest := by
  intro link member
  rcases List.mem_append.mp member with old | current
  · exact carried.closed link old
  · obtain ⟨codec, packets, rest, -, delivers, -⟩ := carried.link link (Option.mem_toList.mp current)
    exact ⟨packets, rest, delivers⟩

lemma carried_start (config : ClientConfig) (sessionId : UInt64) :
    (start config sessionId : Life ssl).Carried :=
  ⟨nofun, nofun⟩

/-- A call that touches neither the connection nor the codec changes nothing. -/
lemma Carried.aside {s s' : Life ssl} (carried : s.Carried) (closed : s'.closed = s.closed)
    (codec : s'.client.codec = s.client.codec) (link : s'.link = s.link) : s'.Carried := by
  refine ⟨closed ▸ carried.closed, fun l here => ?_⟩
  obtain ⟨codec', packets, rest, has, delivers⟩ := carried.link l (link.symm.trans here)
  exact ⟨codec', packets, rest, codec.trans has, delivers⟩

/-- A call that sends leaves the connection carrying its letters, if it does so for the one there is. -/
lemma Carried.posts {s : Life ssl} {a call} (carried : s.Carried)
    (sends : ∀ link, s.link = some link → ∀ result c' sock, call link.sock = (result, c', sock) →
      Carrying c' (link.posted (a.letter s.client.session) result sock)) :
    (s.posted a call).Carried := by
  cases here : s.link with
  | none =>
    refine ⟨carried.closed, fun link gone => ?_⟩
    rw [posted, here] at gone
    cases gone
  | some link =>
    cases called : call link.sock with
    | mk result rest =>
      obtain ⟨c', sock⟩ := rest
      refine ⟨carried.closed, fun link' here' => ?_⟩
      simp only [posted, here, Option.elim_some, called, Option.map_some, Option.some.injEq] at here' ⊢
      rw [← here']
      exact sends link here result c' sock called

/-- An encrypted letter is carried. -/
lemma Carried.encrypts {s : Life ssl} (inverts : ssl.Inverts) (is_open : s.Open)
    (carried : s.Carried) {m : Outgoing} (admissible : (Action.sendEncrypted m).Admissible) :
    (s.step (.sendEncrypted m)).Carried :=
  carried.posts (a := .sendEncrypted m) fun link here _ _ _ call =>
    (carried.link link here).encrypted inverts (is_open.link link here).connected admissible call

/-- A ping is small enough. -/
lemma admissible_ping (pingId draw epochMs) :
    (Action.sendEncrypted (.ping pingId draw epochMs)).Admissible := by
  change packetLen (buildPingQuery pingId).length + 12 ≤ _
  rw [buildPingQuery_length]
  decide

/-- With the layer around it too. -/
lemma admissible_wrapped {layer} {m : Outgoing} (small : (Action.sendWithLayer layer m).Admissible) :
    (Action.sendEncrypted (m.wrapped layer)).Admissible := by
  have length : (buildInvokeWithLayerQuery layer m.payload).length = 8 + m.payload.length := by
    change ([] ++ Bytes.toLE 4 _ ++ Bytes.toLE 4 _ ++ m.payload).length = _
    simp only [List.nil_append, List.length_append, Bytes.toLE_length]
  change packetLen (buildInvokeWithLayerQuery layer m.payload).length + 12 ≤ _
  rw [length]
  exact small

/-- Each action keeps the connections carrying their letters. -/
lemma carried_step (inverts : ssl.Inverts) {s : Life ssl} (is_open : s.Open) (carried : s.Carried)
    {a : Action} (admissible : a.Admissible) : (s.step a).Carried := by
  cases a with
  | connect dcId proto timeoutMs dial results script =>
    cases call : s.client.connect dcId proto timeoutMs dial ⟨results, []⟩ with
    | mk ok rest =>
      obtain ⟨c', sock⟩ := rest
      obtain ⟨-, -, made⟩ := connect_cases call
      simp only [step, call]
      cases ok with
      | false => exact ⟨carried.all, by rintro _ ⟨⟩⟩
      | true =>
        obtain ⟨-, codec, -, header⟩ := made
        refine ⟨carried.all, ?_⟩
        rintro _ ⟨⟩
        refine ⟨_, [], [], codec, ⟨?_, fun _ => rfl, .nil, List.forall_mem_nil _⟩,
          fun _ => createTransportCodec_sending proto⟩
        rw [header]
        exact (List.append_nil _).symm.trans (List.append_nil _).symm
  | disconnect => exact ⟨carried.all, by rintro _ ⟨⟩⟩
  | sendUnencrypted payload epochMs =>
    have posts (sends) : (s.posted (.sendUnencrypted payload epochMs) fun sock =>
        (s.client.sendUnencrypted payload epochMs sock).map .ok id).Carried := carried.posts sends
    refine posts fun link here result c' sock call => ?_
    cases called : s.client.sendUnencrypted payload epochMs link.sock with
    | mk ok rest =>
      rw [called] at call
      cases call
      exact (carried.link link here).plain (is_open.link link here).connected admissible called
  | sendEncrypted m => exact carried.encrypts inverts is_open admissible
  | sendWithLayer layer m => exact carried.encrypts inverts is_open (admissible_wrapped admissible)
  | ping pingId pingMs draw epochMs =>
    by_cases drawn : pingId = 0
    · subst drawn
      have named : (s.step (.session (.generateMsgId pingMs))).Open :=
        is_open.aside rfl ⟨rfl, rfl⟩ rfl
      have carried' : (s.step (.session (.generateMsgId pingMs))).Carried :=
        carried.aside rfl rfl rfl
      rw [step_ping_zero]
      exact carried'.encrypts inverts named (admissible_ping _ draw epochMs)
    · rw [step_ping s drawn]
      exact carried.encrypts inverts is_open (admissible_ping pingId draw epochMs)
  | receive timeoutMs =>
    cases here : s.link with
    | none =>
      simp only [step, here]
      exact ⟨carried.closed, by rintro _ ⟨⟩⟩
    | some link =>
      obtain ⟨codec, packets, rest, has, delivers, sending⟩ := carried.link link here
      have connected := (is_open.link link here).connected
      simp only [step, here, receiveResponse, connected, has, Bool.not_true, Bool.false_eq_true,
        if_false]
      refine ⟨carried.closed, ?_⟩
      rintro _ ⟨⟩
      refine ⟨_, packets, rest, rfl, ⟨delivers.stream, delivers.whole, delivers.read,
        delivers.admissible⟩, fun working => ?_⟩
      have same := receivePacket_keeps TransportCodec.decode_sending s.client.connection codec
        timeoutMs link.left
      exact same.trans (sending working)
  | session call => exact carried.aside rfl rfl rfl
  | setServerSalt salt => exact carried.aside rfl rfl rfl
  | configure config => exact carried.aside rfl rfl rfl
  | registerCustomDc id dc isTest => exact carried.aside rfl rfl rfl

/-! ## Identifiers -/

/-- The letters that were accepted, on all connections. -/
def letters (s : Life ssl) : List Letter := s.links.flatMap (·.sent)

/-- A call that sends adds its letter at most. -/
lemma posted_letters (s : Life ssl) (a call) :
    ∃ more : List Letter, (s.posted a call).letters = s.letters ++ more ∧
      more.Sublist (if s.link.isSome then (a.letter s.client.session).toList else []) := by
  cases here : s.link with
  | none =>
    refine ⟨[], ?_, List.Sublist.refl _⟩
    rw [letters, links, posted, here, letters, links, here, List.append_nil]
    rfl
  | some link =>
    have adds (result sock) : ∃ more : List Letter,
        (link.posted (a.letter s.client.session) result sock).sent = link.sent ++ more ∧
          more.Sublist (a.letter s.client.session).toList := by
      have nothing : ∃ more : List Letter, link.sent = link.sent ++ more ∧
          more.Sublist (a.letter s.client.session).toList :=
        ⟨[], (List.append_nil _).symm, List.nil_sublist _⟩
      cases result with
      | error fault => exact nothing
      | ok sent =>
        cases sent with
        | false => exact nothing
        | true =>
          simp only [Link.posted]
          cases link.failed with
          | true => exact nothing
          | false => exact ⟨_, rfl, List.Sublist.refl _⟩
    obtain ⟨more, sent, sub⟩ := adds (call link.sock).1 (call link.sock).2.2
    refine ⟨more, ?_, sub⟩
    rw [letters, links, posted, here, letters, links, here]
    simp only [Option.elim_some, Option.map_some, Option.toList_some, List.flatMap_append,
      List.flatMap_singleton, sent, List.append_assoc]

end Life

/-- What a session has issued: growing identifiers, of which the letters have some, in this order. -/
structure Issued (s : Session ssl) (events : List Session.Event) (letters : List Letter) : Prop where
  inv : s.MsgIdInv
  below : ∀ id ∈ Session.msgIds events, id.toInt ≤ s.lastMsgId.toInt
  sorted : (Session.msgIds events).Pairwise fun a b => a.toInt < b.toInt
  letters : (letters.map Letter.msgId).Sublist (Session.msgIds events)

/-- What a call of the session leaves behind. -/
lemma last_step {s : Session ssl} {call} (inv : s.MsgIdInv)
    (range : ∀ epochMs, s.clockOf call = some epochMs → s.InRange epochMs) :
    (s.step call).2.MsgIdInv ∧ s.lastMsgId.toInt ≤ (s.step call).2.lastMsgId.toInt ∧
      ∀ id, (s.step call).1.issuedMsgId = some id →
        s.lastMsgId.toInt < id.toInt ∧ id.toInt = (s.step call).2.lastMsgId.toInt := by
  obtain ⟨issued, kept⟩ := s.step_msgId call
  cases clock : s.clockOf call with
  | none =>
    rw [clock] at issued kept
    have same : (s.step call).2.lastMsgId = s.lastMsgId := kept
    refine ⟨⟨same ▸ inv.nonneg, same ▸ inv.dvd⟩, same ▸ Int.le_refl _, ?_⟩
    rw [issued]
    nofun
  | some epochMs =>
    rw [clock] at issued kept
    obtain ⟨larger, dvd, -⟩ := Session.generateMsgId_spec inv (range epochMs clock)
    have last : (s.step call).2.lastMsgId = (s.generateMsgId epochMs).1 := kept
    have nonneg := inv.nonneg
    refine ⟨⟨?_, last ▸ dvd⟩, ?_, ?_⟩
    · rw [last]
      omega
    · rw [last]
      omega
    · rw [issued, last]
      rintro id ⟨⟩
      exact ⟨larger, rfl⟩

/-- A call of the session that sends what it issued. -/
lemma Issued.step {s : Session ssl} {events letters call} (issued : Issued s events letters)
    (range : ∀ epochMs, s.clockOf call = some epochMs → s.InRange epochMs) (more : List Letter)
    (sub : (more.map Letter.msgId).Sublist (s.step call).1.issuedMsgId.toList) :
    Issued (s.step call).2 (events ++ [(s.step call).1]) (letters ++ more) := by
  obtain ⟨inv, grows, last⟩ := last_step issued.inv range
  have ids : Session.msgIds (events ++ [(s.step call).1]) =
      Session.msgIds events ++ (s.step call).1.issuedMsgId.toList := by
    rw [Session.msgIds, List.filterMap_append, Session.msgIds, List.filterMap_cons]
    cases (s.step call).1.issuedMsgId with
    | none | some id => rfl
  refine ⟨inv, ?_, ?_, ?_⟩
  · rw [ids]
    intro id member
    rcases List.mem_append.mp member with old | new
    · exact (issued.below id old).trans grows
    · exact (last id (Option.mem_toList.mp new)).2.le
  · rw [ids]
    refine List.pairwise_append.mpr ⟨issued.sorted, ?_, ?_⟩
    · cases (s.step call).1.issuedMsgId with
      | none => exact .nil
      | some id => exact List.pairwise_singleton _ _
    · intro a old b new
      have below := issued.below a old
      have above := (last b (Option.mem_toList.mp new)).1
      omega
  · rw [ids, List.map_append]
    exact issued.letters.append sub

/-- What does not touch the last identifier changes nothing. -/
lemma Issued.same {s s' : Session ssl} {events letters} (issued : Issued s events letters)
    (last : s'.lastMsgId = s.lastMsgId) : Issued s' events letters :=
  ⟨⟨last ▸ issued.inv.nonneg, last ▸ issued.inv.dvd⟩, last ▸ issued.below, issued.sorted,
    issued.letters⟩

/-- The identifier of a letter is the one that the session issues for it. -/
lemma letter_issued (s : Session ssl) (m : Outgoing) :
    (letter s m).toList.map Letter.msgId = (s.step m.call).1.issuedMsgId.toList := by
  obtain ⟨issued, -⟩ := s.step_msgId m.call
  rw [issued]
  by_cases key : s.authKey.length = 256
  · rw [letter, if_pos key, clockOf_call key]
    rfl
  · rw [letter, if_neg key, Outgoing.call, Session.clockOf, if_neg key]
    rfl

namespace Life

/-- The identifiers are drawn where their arithmetic stays in 64 bits. -/
def InRange : Life ssl → List Action → Prop
  | _, [] => True
  | s, a :: actions =>
    s.client.session.RunInRange (a.calls s.client.isConnected s.client.session) ∧
      InRange (s.step a) actions

instance (s : Session ssl) (epochMs : Int64) : Decidable (s.InRange epochMs) :=
  decidable_of_iff (0 ≤ epochMs.toInt ∧ -2 ^ 63 ≤ s.exactSecond epochMs ∧
      s.exactSecond epochMs < 2 ^ 63 ∧
      (s.clockMsgId epochMs ≤ s.lastMsgId → s.lastMsgId.toInt + 4 < 2 ^ 63))
    ⟨fun ⟨now, low, high, bump⟩ => ⟨now, low, high, bump⟩, fun h => ⟨h.now, h.low, h.high, h.bump⟩⟩

/-- Whether a list of calls stays in range is decided call by call. -/
instance decideRunInRange : (s : Session ssl) → (calls : List Session.Call) →
    Decidable (s.RunInRange calls)
  | _, [] => isTrue trivial
  | s, call :: calls =>
    have := decideRunInRange (s.step call).2 calls
    have : Decidable (∀ epochMs, s.clockOf call = some epochMs → s.InRange epochMs) :=
      Option.decidableForallMem (s.clockOf call)
    instDecidableAnd

/-- Whether a lifetime stays in range is decided action by action. -/
instance decideInRange : (s : Life ssl) → (actions : List Action) → Decidable (s.InRange actions)
  | _, [] => isTrue trivial
  | s, a :: actions =>
    have := decideInRange (s.step a) actions
    instDecidableAnd

/-- The session has issued the identifiers of the letters. -/
def Numbered (s : Life ssl) : Prop := Issued s.client.session s.events s.letters

lemma numbered_start (config : ClientConfig) (sessionId : UInt64) :
    (start config sessionId : Life ssl).Numbered :=
  ⟨⟨Int.le_refl 0, Int.dvd_zero 4⟩, nofun, .nil, .slnil⟩

/-- A call that sends one letter, if there is a connection. -/
lemma Numbered.posts {s : Life ssl} {a : Action} {call send} (numbered : s.Numbered) (is_open : s.Open)
    (calls : a.calls s.client.isConnected s.client.session =
      if s.client.isConnected then [call] else [])
    (letter : ((a.letter s.client.session).toList.map Letter.msgId).Sublist
      (s.client.session.step call).1.issuedMsgId.toList)
    (after : (s.posted a send).client.session =
      (s.client.session.run (a.calls s.client.isConnected s.client.session)).2)
    (range : s.client.session.RunInRange (a.calls s.client.isConnected s.client.session)) :
    (s.posted a send).Numbered := by
  obtain ⟨more, letters, sub⟩ := posted_letters s a send
  have events : (s.posted a send).events = s.events ++
    (s.client.session.run (a.calls s.client.isConnected s.client.session)).1 := rfl
  rw [Numbered, after, events, letters]
  rw [calls] at range ⊢
  cases connected : s.client.isConnected with
  | false =>
    have gone : s.link = none := by
      cases here : s.link with
      | none => rfl
      | some link => exact absurd (connected.symm.trans (is_open.link link here).connected) nofun
    rw [gone] at sub
    rw [List.sublist_nil.mp sub, List.append_nil]
    exact (List.append_nil s.events).symm ▸ numbered
  | true =>
    rw [connected] at range
    refine Issued.step numbered range.1 more ((sub.map Letter.msgId).trans ?_)
    split
    · exact letter
    · exact List.nil_sublist _

/-- A call of the session that `get_session` returns. -/
lemma Numbered.named {s : Life ssl} {call} (numbered : s.Numbered)
    (range : ∀ epochMs, s.client.session.clockOf call = some epochMs →
      s.client.session.InRange epochMs) : (s.step (.session call)).Numbered := by
  have issued := Issued.step numbered range [] (List.nil_sublist _)
  rw [List.append_nil] at issued
  exact issued

/-- An encrypted letter has the identifier that was issued for it. -/
lemma Numbered.encrypts {s : Life ssl} (is_open : s.Open) (numbered : s.Numbered) {m : Outgoing}
    (range : s.client.session.RunInRange (if s.client.isConnected then [m.call] else [])) :
    (s.step (.sendEncrypted m)).Numbered := by
  refine numbered.posts is_open rfl ?_ (is_open.encrypts m).2 range
  exact (letter_issued s.client.session m) ▸ List.Sublist.refl _

/-- Each action keeps the letters numbered. -/
lemma numbered_step {s : Life ssl} (is_open : s.Open) (numbered : s.Numbered) {a : Action}
    (range : s.client.session.RunInRange (a.calls s.client.isConnected s.client.session)) :
    (s.step a).Numbered := by
  obtain ⟨-, after⟩ := open_step is_open a
  cases a with
  | connect dcId proto timeoutMs dial results script =>
    have same : (s.step (.connect dcId proto timeoutMs dial results script)).letters = s.letters := by
      simp only [letters, links, step]
      split
      · exact List.flatMap_append.trans (List.append_nil _)
      · exact congrArg _ (List.append_nil _)
    rw [Numbered, same]
    exact Issued.same numbered (congrArg Session.lastMsgId after)
  | disconnect =>
    have same : (s.step .disconnect).letters = s.letters := by
      rw [letters, letters, links, links]
      exact congrArg _ (List.append_nil _)
    rw [Numbered, same]
    exact Issued.same numbered rfl
  | sendUnencrypted payload epochMs =>
    refine numbered.posts is_open rfl ?_ after range
    obtain ⟨issued, -⟩ := s.client.session.step_msgId (.packUnencryptedMessage payload epochMs)
    rw [issued]
    exact List.Sublist.refl _
  | sendEncrypted m => exact numbered.encrypts is_open range
  | sendWithLayer layer m => exact numbered.encrypts is_open range
  | ping pingId pingMs draw epochMs =>
    change s.client.session.RunInRange (if pingId = 0 then _ else _) at range
    by_cases drawn : pingId = 0
    · subst drawn
      rw [if_pos rfl] at range
      have named : (s.step (.session (.generateMsgId pingMs))).Open :=
        is_open.aside rfl ⟨rfl, rfl⟩ rfl
      rw [step_ping_zero]
      exact (numbered.named range.1).encrypts named range.2
    · rw [if_neg drawn] at range
      rw [step_ping s drawn]
      exact numbered.encrypts is_open range
  | receive timeoutMs =>
    have same : (s.step (.receive timeoutMs)).letters = s.letters ∧
        (s.step (.receive timeoutMs)).events = s.events := by
      cases here : s.link with
      | none => simp only [letters, links, step, here, and_self]
      | some link => simp only [letters, links, step, here, Option.toList_some, List.flatMap_append,
          List.flatMap_singleton, and_self]
    rw [Numbered, same.1, same.2]
    exact Issued.same numbered (congrArg Session.lastMsgId after)
  | session call => exact numbered.named range.1
  | setServerSalt salt => exact Issued.same numbered rfl
  | configure config => exact numbered
  | registerCustomDc id dc isTest => exact numbered

/-! ## Runs -/

/-- Through a whole lifetime the connections carry their letters. -/
lemma carried_run (inverts : ssl.Inverts) {s : Life ssl} (is_open : s.Open) (carried : s.Carried)
    {actions : List Action} (admissible : ∀ a ∈ actions, a.Admissible) :
    (s.run actions).Carried := by
  induction actions generalizing s with
  | nil => exact carried
  | cons a actions ih =>
    obtain ⟨here, later⟩ := List.forall_mem_cons.mp admissible
    exact ih (open_step is_open a).1 (carried_step inverts is_open carried here) later

/-- Through a whole lifetime the letters stay numbered. -/
lemma numbered_run {s : Life ssl} (is_open : s.Open) (numbered : s.Numbered)
    {actions : List Action} (range : s.InRange actions) : (s.run actions).Numbered := by
  induction actions generalizing s with
  | nil => exact numbered
  | cons a actions ih =>
    exact ih (open_step is_open a).1 (numbered_step is_open numbered range.1) range.2

/-- Whatever a client does in its lifetime, the peer of each connection gets the header of the
    protocol and then, framed as by a new codec, the packets of the letters of this connection, up to
    the first that the socket refused a part of: however the stream is cut, a new codec decodes these
    packets, and everyone (for an encrypted letter, everyone with its key) reads the letters from them.
    All letters have identifiers of their own, which grow over all connections, and no ping has one of
    them. -/
theorem run_delivers (inverts : ssl.Inverts) (config : ClientConfig) (sessionId : UInt64)
    (actions : List Action) (admissible : ∀ a ∈ actions, a.Admissible)
    (range : (start config sessionId : Life ssl).InRange actions) :
    let s := (start config sessionId : Life ssl).run actions
    (∀ link ∈ s.links, ∃ stream packets rest,
      link.sock.accepted = ITransportCodec.getHeader (createTransportCodec link.proto) ++ stream ++
        rest ∧
      (link.failed = false → rest = []) ∧
      stream = (encodeAll (createTransportCodec link.proto) packets).1.flatten ∧
      (∀ chunks : List (List UInt8), chunks.flatten = stream → ∃ codec,
        decodeAll (createTransportCodec link.proto) chunks = (packets, none, codec)) ∧
      List.Forall₂ (Letter.ReadFrom ssl) packets link.sent) ∧
    (Session.msgIds s.events).Pairwise (· < ·) ∧
    (s.letters.map Letter.msgId).Sublist (Session.msgIds s.events) := by
  intro s
  have carried := carried_run inverts (open_start config sessionId)
    (carried_start config sessionId) admissible
  have numbered := numbered_run (open_start config sessionId) (numbered_start config sessionId) range
  refine ⟨fun link member => ?_, ?_, numbered.letters⟩
  · obtain ⟨packets, rest, delivers⟩ := carried.all link member
    refine ⟨_, packets, rest, delivers.stream, delivers.whole, rfl, fun chunks cut => ?_,
      delivers.read⟩
    exact createTransportCodec_round_trip link.proto delivers.admissible cut
  · exact numbered.sorted.imp fun less => Int64.lt_iff_toInt_lt.mpr less

/-- A plain message on one connection, a key, and a ping on the next. -/
def reconnects : List Action := [
  .connect 2 .Abridged 5000 (fun _ _ _ => some 3) [1, 24, 1000] ⟨[], []⟩,
  .sendUnencrypted [0x70, 0x69, 0x6e, 0x67] 1700000000123,
  .session (.setAuthKey Session.sender.authKey),
  .connect 1 .Full 5000 (fun _ _ _ => some 3) [1000] ⟨[], []⟩,
  .ping 0 1700000000123 (fun _ => 0) 1700000000123]

/-- Both connections are whole, and the identifiers are the one of the plain message, the one that the
    ping has drawn for itself, and the one of its message. -/
theorem run_delivers_reconnects :
    let s := (start {} 7 : Life reference).run reconnects
    s.links.map (fun link => (link.proto, link.failed, link.sent.length)) =
      [(.Abridged, false, 1), (.Full, false, 1)] ∧
    (Session.msgIds s.events).Pairwise (· < ·) ∧
    Session.msgIds s.events = [7301444403728280940, 7301444403728280944, 7301444403728280948] ∧
    ∀ link ∈ s.links, ∃ stream packets rest,
      link.sock.accepted = ITransportCodec.getHeader (createTransportCodec link.proto) ++ stream ++
        rest ∧
      (link.failed = false → rest = []) ∧
      stream = (encodeAll (createTransportCodec link.proto) packets).1.flatten ∧
      (∀ chunks : List (List UInt8), chunks.flatten = stream → ∃ codec,
        decodeAll (createTransportCodec link.proto) chunks = (packets, none, codec)) ∧
      List.Forall₂ (Letter.ReadFrom reference) packets link.sent := by
  have admissible : ∀ a ∈ reconnects, a.Admissible := by
    simp only [reconnects, List.forall_mem_cons, Action.Admissible]
    exact ⟨trivial, by decide, trivial, trivial, trivial, nofun⟩
  have range : (start {} 7 : Life reference).InRange reconnects := by decide +kernel
  obtain ⟨delivered, grow, -⟩ := run_delivers reference_inverts {} 7 reconnects admissible range
  exact ⟨by decide +kernel, grow, by decide +kernel, delivered⟩

end Life

end CppGram.MtprotoClient
