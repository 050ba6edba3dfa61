import CppGram.Core.Crypto
import CppGram.Lib.ClientHello

/-!
# The fake ClientHello

`FakeTls::create_client_hello` (C++ `obfuscated.cpp`): a TLS record with a ClientHello for a domain. It
is written front to back with zeros in the place of the record, handshake and extension lengths, which
are patched once the end is reached; the lengths of the name are computed from the domain with counted
constants. `createClientHello_eq` says what bytes come of it, `createClientHello_parsed` what a TLS
parser makes of them.
-/

namespace CppGram.Transport
open CryptoUtils Ige Delimited

namespace FakeTls

/-- Two `push_back`s of a 16-bit length, highest byte first. -/
def push16 (ch : List UInt8) (len : UInt16) : List UInt8 :=
  ch ++ [((len >>> 8) &&& 0xff).toUInt8, (len &&& 0xff).toUInt8]

/-- Two assignments of a length, highest byte first. -/
def fill16 (ch : List UInt8) (pos len : Nat) : List UInt8 :=
  (ch.set pos ((len >>> 8) &&& 0xff).toUInt8).set (pos + 1) (len &&& 0xff).toUInt8

/-- Three assignments of a length, highest byte first. -/
def fill24 (ch : List UInt8) (pos len : Nat) : List UInt8 :=
  ((ch.set pos ((len >>> 16) &&& 0xff).toUInt8).set (pos + 1) ((len >>> 8) &&& 0xff).toUInt8).set
    (pos + 2) (len &&& 0xff).toUInt8

/-- `rand_bytes`: random, with as much of the payload as fits in front. -/
def randBytes (payload : List UInt8) (draw : Nat → UInt8) : List UInt8 :=
  let randBytes := generateRandomBytes draw 32
  if payload.isEmpty then randBytes
  else
    let copyLen := min payload.length 32
    payload.take copyLen ++ randBytes.drop copyLen

/-- `FakeTls::create_client_hello`, from the bytes that its two calls of `generate_random_bytes` draw. -/
def createClientHello (sniDomain payload : List UInt8) (drawRandom drawSessionId : Nat → UInt8) :
    List UInt8 :=
  let ch := [0x16, 0x03, 0x01]
  let recordLenPos := ch.length
  let ch := ch ++ [0, 0]
  let ch := ch ++ [0x01]
  let hsLenPos := ch.length
  let ch := ch ++ [0, 0, 0]
  let ch := ch ++ [0x03, 0x03]
  let ch := ch ++ randBytes payload drawRandom
  let ch := ch ++ [32]
  let ch := ch ++ generateRandomBytes drawSessionId 32
  let ch := ch ++ [0x00, 0x04, 0x13, 0x01, 0x13, 0x03]
  let ch := ch ++ [0x01, 0x00]
  let extLenPos := ch.length
  let ch := ch ++ [0, 0]
  let extStart := ch.length
  let ch := ch ++ [0x00, 0x00]
  let ch := push16 ch (UInt16.ofNat (sniDomain.length + 5))
  let ch := push16 ch (UInt16.ofNat (sniDomain.length + 3))
  let ch := ch ++ [0x00]
  let ch := push16 ch (UInt16.ofNat sniDomain.length)
  let ch := ch ++ sniDomain
  let ch := fill16 ch extLenPos (ch.length - extStart)
  let ch := fill24 ch hsLenPos (ch.length - (hsLenPos + 3))
  fill16 ch recordLenPos (ch.length - (recordLenPos + 2))

/-! ## The bytes that are written -/

/-- The random field has 32 bytes. -/
lemma randBytes_length {payload draw} : (randBytes payload draw).length = 32 := by
  rw [randBytes]
  split
  · exact generateRandomBytes_length
  · rw [List.length_append, List.length_take, List.length_drop, generateRandomBytes_length]
    omega

/-- The lowest byte of a 16-bit number. -/
lemma low_byte16 {x : UInt16} : (x &&& 0xff).toUInt8 = x.toNat.toUInt8 := by
  apply UInt8.toNat_inj.mp
  have mask : (x &&& 0xff).toNat = x.toNat % 256 :=
    (UInt16.toNat_and x 0xff).trans (Nat.and_two_pow_sub_one_eq_mod x.toNat 8)
  rw [UInt16.toNat_toUInt8, mask, Nat.mod_mod]
  exact UInt8.toNat_ofNat'.symm

/-- A number of two bytes, the highest first. -/
lemma push16_ofNat {ch len} (fits : len < 256 ^ 2) :
    push16 ch (UInt16.ofNat len) = ch ++ toBE 2 len := by
  have value : (UInt16.ofNat len).toNat = len := UInt16.toNat_ofNat_of_lt' fits
  have high : (UInt16.ofNat len >>> 8).toNat = len / 256 := by
    rw [UInt16.toNat_shiftRight, value]
    exact Nat.shiftRight_eq_div_pow len 8
  rw [push16, low_byte16, low_byte16, value, high]
  rfl

/-- A length that is filled in for two bytes. -/
lemma fill16_append {a b : List UInt8} {x y i n} (here : i = a.length) :
    fill16 (a ++ (x :: y :: b)) i n = a ++ (toBE 2 n ++ b) := by
  subst here
  rw [fill16, List.set_append_right _ _ (Nat.le_refl _),
    List.set_append_right _ _ (Nat.le_add_right _ _), Nat.sub_self, Nat.add_sub_cancel_left,
    masked_byte, masked_byte, Nat.shiftRight_eq_div_pow]
  rfl

/-- A length that is filled in for three bytes. -/
lemma fill24_append {a b : List UInt8} {x y z i n} (here : i = a.length) :
    fill24 (a ++ (x :: y :: z :: b)) i n = a ++ (toBE 3 n ++ b) := by
  subst here
  have high : n / 2 ^ 16 = n / 256 / 256 := by omega
  rw [fill24, List.set_append_right _ _ (Nat.le_refl _),
    List.set_append_right _ _ (Nat.le_add_right _ _),
    List.set_append_right _ _ (Nat.le_add_right _ _), Nat.sub_self, Nat.add_sub_cancel_left,
    Nat.add_sub_cancel_left, masked_byte, masked_byte, masked_byte, Nat.shiftRight_eq_div_pow,
    Nat.shiftRight_eq_div_pow, high]
  rfl

/-- The three fillings, from the last place to the first. -/
lemma fills_eq {a b c d : List UInt8} {p q r l m n l' m' n' : Nat} (record_pos : r = a.length)
    (hs_pos : q = a.length + 2 + b.length) (ext_pos : p = a.length + 2 + b.length + 3 + c.length)
    (ext_len : l = l') (hs_len : m = m') (record_len : n = n') :
    fill16 (fill24 (fill16 (a ++ (0 :: 0 :: (b ++ (0 :: 0 :: 0 :: (c ++ (0 :: 0 :: d)))))) p l) q m)
        r n =
      a ++ (toBE 2 n' ++ (b ++ (toBE 3 m' ++ (c ++ (toBE 2 l' ++ d))))) := by
  subst ext_len hs_len record_len
  have ext : a ++ (0 :: 0 :: (b ++ (0 :: 0 :: 0 :: (c ++ (0 :: 0 :: d))))) =
      (a ++ ([0, 0] ++ (b ++ ([0, 0, 0] ++ c)))) ++ (0 :: 0 :: d) := by
    simp only [List.append_assoc, List.cons_append, List.nil_append]
  have hs : (a ++ ([0, 0] ++ (b ++ ([0, 0, 0] ++ c)))) ++ (toBE 2 l ++ d) =
      (a ++ ([0, 0] ++ b)) ++ (0 :: 0 :: 0 :: (c ++ (toBE 2 l ++ d))) := by
    simp only [List.append_assoc, List.cons_append, List.nil_append]
  have record : (a ++ ([0, 0] ++ b)) ++ (toBE 3 m ++ (c ++ (toBE 2 l ++ d))) =
      a ++ (0 :: 0 :: (b ++ (toBE 3 m ++ (c ++ (toBE 2 l ++ d))))) := by
    simp only [List.append_assoc, List.cons_append, List.nil_append]
  rw [ext, fill16_append, hs, fill24_append, record, fill16_append record_pos]
  · simp only [List.length_append, List.length_cons, List.length_nil]
    omega
  · simp only [List.length_append, List.length_cons, List.length_nil]
    omega

@[simp]
lemma fill16_length {ch pos len} : (fill16 ch pos len).length = ch.length := by
  rw [fill16, List.length_set, List.length_set]

@[simp]
lemma fill24_length {ch pos len} : (fill24 ch pos len).length = ch.length := by
  rw [fill24, List.length_set, List.length_set, List.length_set]

/-- The name of the server, with its three lengths. -/
def sniBytes (sniDomain : List UInt8) : List UInt8 :=
  0x00 :: 0x00 :: (toBE 2 (sniDomain.length + 5) ++ (toBE 2 (sniDomain.length + 3) ++
    (0x00 :: (toBE 2 sniDomain.length ++ sniDomain))))

/-- The fields in front of the extensions. -/
def frontBytes (payload : List UInt8) (drawRandom drawSessionId : Nat → UInt8) : List UInt8 :=
  0x03 :: 0x03 :: (randBytes payload drawRandom ++ (32 :: (generateRandomBytes drawSessionId 32 ++
    [0x00, 0x04, 0x13, 0x01, 0x13, 0x03, 0x01, 0x00])))

/-- The extension is as much longer than the domain as its headers are. -/
lemma sniBytes_length {sniDomain : List UInt8} :
    (sniBytes sniDomain).length = sniDomain.length + 9 := by
  simp only [sniBytes, List.length_cons, List.length_append, toBE_length]
  omega

/-- The fields in front of the extensions have 75 bytes. -/
lemma frontBytes_length {payload drawRandom drawSessionId} :
    (frontBytes payload drawRandom drawSessionId).length = 75 := by
  simp only [frontBytes, List.length_cons, List.length_append, randBytes_length,
    generateRandomBytes_length, List.length_nil]

/-- All lengths are in their places. -/
lemma createClientHello_eq {sniDomain payload : List UInt8} {drawRandom drawSessionId}
    (bound : sniDomain.length ≤ 65445) :
    createClientHello sniDomain payload drawRandom drawSessionId =
      [0x16, 0x03, 0x01] ++ (toBE 2 (sniDomain.length + 90) ++ ([0x01] ++
        (toBE 3 (sniDomain.length + 86) ++ (frontBytes payload drawRandom drawSessionId ++
          (toBE 2 (sniDomain.length + 9) ++ sniBytes sniDomain))))) := by
  rw [createClientHello, push16_ofNat (by omega), push16_ofNat (by omega), push16_ofNat (by omega)]
  simp only [List.length_append, List.length_cons, List.length_nil, fill16_length, fill24_length,
    randBytes_length, generateRandomBytes_length, toBE_length]
  have written : [0x16, 0x03, 0x01] ++ [0, 0] ++ [0x01] ++ [0, 0, 0] ++ [0x03, 0x03] ++
      randBytes payload drawRandom ++ [32] ++ generateRandomBytes drawSessionId 32 ++
      [0x00, 0x04, 0x13, 0x01, 0x13, 0x03] ++ [0x01, 0x00] ++ [0, 0] ++ [0x00, 0x00] ++
      toBE 2 (sniDomain.length + 5) ++ toBE 2 (sniDomain.length + 3) ++ [0x00] ++
      toBE 2 sniDomain.length ++ sniDomain =
        [0x16, 0x03, 0x01] ++ (0 :: 0 :: ([0x01] ++ (0 :: 0 :: 0 ::
          (frontBytes payload drawRandom drawSessionId ++ (0 :: 0 :: sniBytes sniDomain))))) := by
    simp only [frontBytes, sniBytes, List.append_assoc, List.cons_append, List.nil_append]
  rw [written]
  refine fills_eq rfl rfl ?_ (by omega) (by omega) (by omega)
  rw [frontBytes_length]
  rfl

/-! ## What a parser makes of them -/

/-- The record that is meant. -/
def helloRecord (sniDomain payload : List UInt8) (drawRandom drawSessionId : Nat → UInt8) :
    Tls.Record where
  version := 0x0301
  hello := {
    version := 0x0303
    random := ⟨randBytes payload drawRandom, randBytes_length⟩
    sessionId := generateRandomBytes drawSessionId 32
    cipherSuites := [0x1301, 0x1303]
    compressionMethods := [0]
    extensions := [.serverName [⟨0, sniDomain⟩]] }

lemma names_encoded {sniDomain : List UInt8} :
    [(⟨0, sniDomain⟩ : Tls.ServerName)].flatMap Tls.ServerName.encoded =
      0x00 :: delimit 2 sniDomain := List.append_nil _

/-- The names with their lengths. -/
lemma name_body_length {sniDomain : List UInt8} :
    (Tls.Extension.body (.serverName [⟨0, sniDomain⟩])).length = sniDomain.length + 5 := by
  rw [Tls.Extension.body, names_encoded, delimit_length, List.length_cons, delimit_length]
  omega

/-- The name of the server is the body of its extension. -/
lemma extension_encoded {sniDomain : List UInt8} :
    Tls.Extension.encoded (.serverName [⟨0, sniDomain⟩]) = sniBytes sniDomain := by
  have list : (0x00 :: delimit 2 sniDomain).length = sniDomain.length + 3 := by
    rw [List.length_cons, delimit_length, Nat.add_comm 2]
  have type : toBE 2 0 = [0x00, 0x00] := by decide
  rw [Tls.Extension.encoded, Tls.Extension.type, type, delimit, name_body_length, Tls.Extension.body,
    names_encoded, delimit, list]
  rfl

/-- The fields of the message are those of the code. -/
lemma hello_encoded {sniDomain payload : List UInt8} {drawRandom drawSessionId} :
    (helloRecord sniDomain payload drawRandom drawSessionId).hello.encoded =
      frontBytes payload drawRandom drawSessionId ++
        (toBE 2 (sniDomain.length + 9) ++ sniBytes sniDomain) := by
  have version : toBE 2 0x0303 = [0x03, 0x03] := by decide
  have session_id : delimit 1 (generateRandomBytes drawSessionId 32) =
      32 :: generateRandomBytes drawSessionId 32 := by
    rw [delimit, generateRandomBytes_length]
    rfl
  have suites : delimit 2 ([0x1301, 0x1303].flatMap (toBE 2)) =
      [0x00, 0x04, 0x13, 0x01, 0x13, 0x03] := by decide
  have compression : delimit 1 [0] = [0x01, 0x00] := by decide
  have extensions : delimit 2 ([Tls.Extension.serverName [⟨0, sniDomain⟩]].flatMap
      Tls.Extension.encoded) = toBE 2 (sniDomain.length + 9) ++ sniBytes sniDomain := by
    rw [List.flatMap_cons, List.flatMap_nil, List.append_nil, extension_encoded, delimit,
      sniBytes_length]
  change toBE 2 0x0303 ++ (randBytes payload drawRandom ++
    (delimit 1 (generateRandomBytes drawSessionId 32) ++
      (delimit 2 ([0x1301, 0x1303].flatMap (toBE 2)) ++ (delimit 1 [0] ++
        delimit 2 ([Tls.Extension.serverName [⟨0, sniDomain⟩]].flatMap Tls.Extension.encoded))))) = _
  rw [version, session_id, suites, compression, extensions, frontBytes]
  simp only [List.cons_append, List.nil_append, List.append_assoc]

/-- The message with its header is 90 bytes longer than the domain. -/
lemma message_length {sniDomain payload : List UInt8} {drawRandom drawSessionId} :
    (0x01 :: delimit 3
      (helloRecord sniDomain payload drawRandom drawSessionId).hello.encoded).length =
        sniDomain.length + 90 := by
  simp only [List.length_cons, delimit_length, hello_encoded, List.length_append, frontBytes_length,
    toBE_length, sniBytes_length]
  omega

/-- The bytes that are written are those of the record that is meant. -/
lemma helloRecord_encoded {sniDomain payload : List UInt8} {drawRandom drawSessionId} :
    (helloRecord sniDomain payload drawRandom drawSessionId).encoded =
      [0x16, 0x03, 0x01] ++ (toBE 2 (sniDomain.length + 90) ++ ([0x01] ++
        (toBE 3 (sniDomain.length + 86) ++ (frontBytes payload drawRandom drawSessionId ++
          (toBE 2 (sniDomain.length + 9) ++ sniBytes sniDomain))))) := by
  have length : (helloRecord sniDomain payload drawRandom drawSessionId).hello.encoded.length =
      sniDomain.length + 86 := by
    simp only [hello_encoded, List.length_append, frontBytes_length, toBE_length, sniBytes_length]
    omega
  have version : toBE 2 0x0301 = [0x03, 0x01] := by decide
  change 0x16 :: (toBE 2 0x0301 ++ _) = _
  rw [version, delimit, message_length, delimit, length, hello_encoded]
  rfl

/-- Up to this bound all lengths have room in their fields. -/
lemma helloRecord_fits {sniDomain payload : List UInt8} {drawRandom drawSessionId}
    (bound : sniDomain.length ≤ 65445) :
    (helloRecord sniDomain payload drawRandom drawSessionId).Fits where
  version := (by decide : 0x0301 < 256 ^ 2)
  hello := {
    version := (by decide : 0x0303 < 256 ^ 2)
    sessionId := generateRandomBytes_length.trans_lt (by decide)
    cipherSuites := (by decide : ∀ suite ∈ [0x1301, 0x1303], suite < 256 ^ 2)
    cipherSuites_length := (by decide : ([0x1301, 0x1303].flatMap (toBE 2)).length < 256 ^ 2)
    compressionMethods := (by decide : 1 < 256 ^ 1)
    extensions := by
      intro e member
      cases List.mem_singleton.mp member
      refine ⟨(by decide : 0 < 256 ^ 2), ?_, ?_⟩
      · rw [name_body_length]
        omega
      · intro n member
        cases List.mem_singleton.mp member
        exact Nat.lt_of_le_of_lt bound (by decide)
    extensions_length := by
      change ([Tls.Extension.serverName [⟨0, sniDomain⟩]].flatMap Tls.Extension.encoded).length < _
      rw [List.flatMap_cons, List.flatMap_nil, List.append_nil, extension_encoded, sniBytes_length]
      omega }
  length := by
    rw [message_length]
    omega

/-- The random field begins with the payload. -/
lemma randBytes_prefix {payload : List UInt8} {draw} :
    (randBytes payload draw).take (min 32 payload.length) = payload.take (min 32 payload.length) := by
  cases payload with
  | nil => rfl
  | cons first rest =>
    have copied : ((first :: rest).take (min (first :: rest).length 32)).length =
        min (first :: rest).length 32 := List.length_take_of_le (Nat.min_le_left _ _)
    have some : ¬ (first :: rest).isEmpty = true := Bool.false_ne_true
    rw [randBytes, if_neg some, Nat.min_comm 32]
    exact List.take_left' copied

/-- For a domain of at most 65445 bytes the packet is one record with one ClientHello, every length in it
covering what it stands for, with the domain as the name of the server and the random field starting
with the payload. -/
theorem createClientHello_parsed (sniDomain payload : List UInt8)
    (drawRandom drawSessionId : Nat → UInt8) (bound : sniDomain.length ≤ 65445) :
    ∃ record, Tls.parse (createClientHello sniDomain payload drawRandom drawSessionId) = .ok record ∧
      record.hello.extensions = [.serverName [⟨0, sniDomain⟩]] ∧
      record.hello.random.toList.take (min 32 payload.length) =
        payload.take (min 32 payload.length) := by
  refine ⟨helloRecord sniDomain payload drawRandom drawSessionId, ?_, rfl, ?_⟩
  · rw [createClientHello_eq bound, ← helloRecord_encoded]
    exact Tls.parse_encoded (helloRecord_fits bound)
  · exact randBytes_prefix

/-- A short domain and a payload of two bytes. -/
theorem createClientHello_parsed_short :
    ∃ record, Tls.parse (createClientHello [97, 46, 98] [1, 2] (fun _ => 7) (fun _ => 9)) =
        .ok record ∧
      record.hello.extensions = [.serverName [⟨0, [97, 46, 98]⟩]] ∧
      record.hello.random.toList.take (min 32 2) = [1, 2] :=
  createClientHello_parsed [97, 46, 98] [1, 2] (fun _ => 7) (fun _ => 9) (by decide)

end FakeTls

end CppGram.Transport
