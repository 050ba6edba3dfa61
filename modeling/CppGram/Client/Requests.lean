import CppGram.Client.Channel
import CppGram.TL.Envelope

/-!
# The requests of the client

The other methods of `MtprotoClient` (C++ `mtproto_client.cpp`): plain messages, calls in the
envelope of a layer, pings and their answers, and what comes in.
-/

namespace CppGram
open Network Transport Reading

/-- The constructor of `ping`. -/
def TL_PING : UInt32 := 0x7abe77ec

/-- The constructor of `pong`. -/
def TL_PONG : UInt32 := 0x347773c5

/-- `DatacenterManager::register_custom_dc`, of the data center `id`. -/
def Network.DatacenterManager.registerCustomDc (m : DatacenterManager) (id : Int) (dc : DataCenter)
    (isTest : Bool) : DatacenterManager :=
  if isTest then { m with testDcs := (id, dc) :: m.testDcs }
  else { m with prodDcs := (id, dc) :: m.prodDcs }

namespace MtprotoClient

variable {ssl : OpenSSL}

/-- `MtprotoClient::send_unencrypted`. -/
def sendUnencrypted (c : MtprotoClient ssl) (payload : List UInt8) (epochMs : Int64)
    (sock : SendSocket) : Bool × MtprotoClient ssl × SendSocket :=
  if !c.isConnected then (false, c, sock)
  else
    match c.codec with
    | none => (false, c, sock)
    | some codec =>
      let (packet, session) := c.session.packUnencryptedMessage payload epochMs
      let (sent, codec, sock) := sendPacket c.connection codec packet sock
      (sent, { c with session, codec := some codec }, sock)

/-- `MtprotoClient::send_with_layer`. -/
def sendWithLayer (c : MtprotoClient ssl) (layer : Int32) (rpcQuery : List UInt8)
    (isContentRelated : Bool) (draw : Nat → UInt8) (epochMs : Int64) (sock : SendSocket) :
    Except Fault Bool × MtprotoClient ssl × SendSocket :=
  c.sendEncrypted (buildInvokeWithLayerQuery layer rpcQuery) isContentRelated draw epochMs sock

/-- `MtprotoClient::build_ping_query`. -/
def buildPingQuery (pingId : Int64) : List UInt8 :=
  ((({} : TLWriter).writeUint32 TL_PING).writeInt64 pingId).buffer

/-- `MtprotoClient::ping`, with a reading of the clock for an identifier of its own. -/
def ping (c : MtprotoClient ssl) (pingId : Int64) (pingMs : Int64) (draw : Nat → UInt8)
    (epochMs : Int64) (sock : SendSocket) : Except Fault Bool × MtprotoClient ssl × SendSocket :=
  let (pingId, c) :=
    if pingId = 0 then
      let (id, session) := c.session.generateMsgId pingMs
      (id, { c with session })
    else (pingId, c)
  c.sendEncrypted (buildPingQuery pingId) false draw epochMs sock

/-- The `try` block of `parse_pong_response`. -/
def readPong : TLReader.Method (Option Int64) := do
  let ctor ← TLReader.readUint32
  if ctor ≠ TL_PONG then return none
  let _msgId ← TLReader.readInt64
  return some (← TLReader.readInt64)

/-- `MtprotoClient::parse_pong_response`, with what `out_ping_id` holds. -/
def parsePongResponse (data : List UInt8) (outPingId : Int64) : Bool × Int64 :=
  if data.length < 20 then (false, outPingId)
  else
    match (readPong.on ⟨data, 0⟩).1 with
    | .ok (some pingId) => (true, pingId)
    | .ok none | .error _ => (false, outPingId)

/-- `MtprotoClient::receive_response`. -/
def receiveResponse (c : MtprotoClient ssl) (timeoutMs : Int) (sock : ReceiveSocket) :
    Except Fault (List UInt8) × MtprotoClient ssl × ReceiveSocket :=
  if !c.isConnected then (.ok [], c, sock)
  else
    match c.codec with
    | none => (.ok [], c, sock)
    | some codec =>
      let got := receivePacket c.connection codec timeoutMs sock
      (got.result, { c with connection := got.conn, codec := some got.codec }, got.sock)

/-! ## Pings and pongs -/

/-- The bytes of a pong. -/
def pong (msgId pingId : Int64) : List UInt8 :=
  Bytes.toLE 4 TL_PONG.toNat ++ Bytes.toLE 8 msgId.toUInt64.toNat ++
    Bytes.toLE 8 pingId.toUInt64.toNat

/-- A ping has twelve bytes. -/
lemma buildPingQuery_length (pingId : Int64) : (buildPingQuery pingId).length = 12 := by
  change ([] ++ Bytes.toLE 4 TL_PING.toNat ++ Bytes.toLE 8 pingId.toUInt64.toNat).length = 12
  rw [List.length_append, List.length_append, Bytes.toLE_length, Bytes.toLE_length]
  rfl

lemma reads_int64 (val : Int64) :
    Reads TLReader.readInt64 (Bytes.toLE 8 val.toUInt64.toNat) val :=
  (TLReader.reads_uint64 val.toUInt64).map UInt64.toInt64

/-- The front of twenty bytes as the words of a pong. -/
lemma exists_words {data : List UInt8} (long : 20 ≤ data.length) :
    ∃ (ctor : UInt32) (msgId pingId : Int64) (rest : List UInt8),
      data = Bytes.toLE 4 ctor.toNat ++ (Bytes.toLE 8 msgId.toUInt64.toNat ++
        (Bytes.toLE 8 pingId.toUInt64.toNat ++ rest)) := by
  have word (bs : List UInt8) (len : bs.length = 8) :
      ∃ val : Int64, Bytes.toLE 8 val.toUInt64.toNat = bs := by
    have bound := Bytes.ofLE_lt bs
    rw [len] at bound
    refine ⟨(UInt64.ofNat (Bytes.ofLE bs)).toInt64, ?_⟩
    rw [Int64.toUInt64, UInt64.toInt64, UInt64.toNat_ofNat_of_lt' bound]
    exact Bytes.toLE_ofLE_of_length len
  obtain ⟨msgId, first⟩ := word ((data.drop 4).take 8) (by
    rw [List.length_take, List.length_drop]
    omega)
  obtain ⟨pingId, second⟩ := word ((data.drop 12).take 8) (by
    rw [List.length_take, List.length_drop]
    omega)
  refine ⟨UInt32.ofNat (Bytes.ofLE (data.take 4)), msgId, pingId, data.drop 20, ?_⟩
  rw [TLReader.toLE_word (List.length_take_of_le (by omega)), first, second,
    show 20 = 12 + 8 from rfl, ← List.drop_drop, List.take_append_drop,
    show 12 = 4 + 8 from rfl, ← List.drop_drop, List.take_append_drop, List.take_append_drop]

/-- An answer is a pong exactly by its constructor. -/
lemma parsePongResponse_words (ctor : UInt32) (msgId pingId outPingId : Int64) (rest : List UInt8) :
    parsePongResponse (Bytes.toLE 4 ctor.toNat ++ (Bytes.toLE 8 msgId.toUInt64.toNat ++
        (Bytes.toLE 8 pingId.toUInt64.toNat ++ rest))) outPingId =
      if ctor = TL_PONG then (true, pingId) else (false, outPingId) := by
  generalize whole : Bytes.toLE 4 ctor.toNat ++ (Bytes.toLE 8 msgId.toUInt64.toNat ++
    (Bytes.toLE 8 pingId.toUInt64.toNat ++ rest)) = data
  have long : 20 ≤ data.length := by
    rw [← whole]
    simp only [List.length_append, Bytes.toLE_length]
    omega
  have start : (⟨data, 0⟩ : TLReader).ahead = Bytes.toLE 4 ctor.toNat ++
      (Bytes.toLE 8 msgId.toUInt64.toNat ++ (Bytes.toLE 8 pingId.toUInt64.toNat ++ rest)) :=
    whole.symm
  have first := (TLReader.reads_uint32 ctor).on_ahead (Nat.zero_le _) start
  rw [Bytes.toLE_length] at first
  rw [parsePongResponse, if_neg (not_lt.mpr long), readPong, on_bind_ok first]
  by_cases same : ctor = TL_PONG
  · have then_id : ((⟨data, 0⟩ : TLReader).advance 4).ahead = Bytes.toLE 8 msgId.toUInt64.toNat ++
        (Bytes.toLE 8 pingId.toUInt64.toNat ++ rest) := by
      rw [Cursor.ahead_advance, start, List.drop_left' Bytes.toLE_length]
    have second := (reads_int64 msgId).on_ahead (show 0 + 4 ≤ data.length by omega) then_id
    have then_ping : (((⟨data, 0⟩ : TLReader).advance 4).advance 8).ahead =
        Bytes.toLE 8 pingId.toUInt64.toNat ++ rest := by
      rw [Cursor.ahead_advance, then_id, List.drop_left' Bytes.toLE_length]
    have third := (reads_int64 pingId).on_ahead (show 0 + 4 + 8 ≤ data.length by omega) then_ping
    rw [Bytes.toLE_length] at second
    rw [if_neg (not_not.mpr same), if_pos same, on_bind_ok second, on_bind_ok third]
    rfl
  · rw [if_pos same, if_neg same]
    rfl

/-- A pong is what starts with one, and gives the identifier of the ping. -/
lemma parsePongResponse_iff {data : List UInt8} {outPingId pingId : Int64} :
    parsePongResponse data outPingId = (true, pingId) ↔ ∃ msgId, pong msgId pingId <+: data := by
  by_cases short : data.length < 20
  · have refused : parsePongResponse data outPingId = (false, outPingId) := if_pos short
    rw [refused]
    refine ⟨nofun, ?_⟩
    rintro ⟨msgId, front⟩
    have le := front.length_le
    rw [pong, List.length_append, List.length_append, Bytes.toLE_length, Bytes.toLE_length,
      Bytes.toLE_length] at le
    omega
  refine ⟨fun parsed => ?_, ?_⟩
  · obtain ⟨ctor, msgId, answered, rest, rfl⟩ := exists_words (not_lt.mp short)
    rw [parsePongResponse_words] at parsed
    split at parsed
    · next same =>
      cases parsed
      refine ⟨msgId, rest, ?_⟩
      rw [pong, same, List.append_assoc, List.append_assoc]
    · cases parsed
  · rintro ⟨msgId, rest, rfl⟩
    rw [pong, List.append_assoc, List.append_assoc, parsePongResponse_words, if_pos rfl]

end MtprotoClient

end CppGram
