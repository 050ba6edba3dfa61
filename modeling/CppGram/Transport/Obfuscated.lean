import CppGram.Core.Reference
import CppGram.Transport.Intermediate

/-!
# The obfuscated codec

`ObfuscatedCodec` (C++ `obfuscated.cpp`): a codec inside of AES-256-CTR, whose keys are slices of a
random 64-byte header. The header is sent in front of the first packet with its last eight bytes
encrypted. Keys and iv have their sizes in their types, so `aes_ctr_encrypt` does not refuse them
(`aesCtrEncrypt_block`). `peerReads_iff` says what the other side makes of the header: it finds the
keys, and the protocol tag only where the keystream repeats, for the codec encrypts the tail with the
keystream from position 0 while the tail is at position 56.
-/

namespace CppGram.Transport
open CryptoUtils Ige

namespace ObfuscatedCodec

/-- `proto_tag`. -/
def protoTag : TransportProtocol → UInt32
  | .Abridged => 0xefefefef
  | .PaddedIntermediate => 0xdddddddd
  | _ => 0xeeeeeeee

/-- The tag as it stands in memory. -/
def tagBytes (tagProto : TransportProtocol) : List UInt8 := Bytes.toLE 4 (protoTag tagProto).toNat

lemma tagBytes_length {tagProto} : (tagBytes tagProto).length = 4 := Bytes.toLE_length

end ObfuscatedCodec

/-- C++ `class ObfuscatedCodec`. The keys, the header and its tag come from one payload, which
    `generate_keys` makes and nothing changes afterwards. -/
structure ObfuscatedCodec (ctr : Keystream) (κ : Type) where
  innerCodec : Option κ
  tagProto : TransportProtocol
  initPayload : Block UInt8 64
  encKey : Block UInt8 32
  encIv : AesBlock
  decKey : Block UInt8 32
  decIv : AesBlock
  handshakeHeader : Block UInt8 64
  handshakeSent : Bool
  enc_keys : encKey.toList = Bytes.span initPayload.toList 8 32 ∧
    encIv.toList = Bytes.span initPayload.toList 40 16
  dec_keys : decKey.toList = Bytes.span initPayload.toList.reverse 8 32 ∧
    decIv.toList = Bytes.span initPayload.toList.reverse 40 16
  tag : Bytes.span initPayload.toList 56 4 = ObfuscatedCodec.tagBytes tagProto
  header : handshakeHeader.toList = initPayload.toList.take 56 ++
    aesCtr ctr encKey encIv (initPayload.toList.drop 56)

namespace ObfuscatedCodec

variable {ctr : Keystream} {κ : Type}

/-- The `continue`s of the loop that draws the header. -/
def rejected (initPayload : Block UInt8 64) : Bool :=
  let front := initPayload.toList.take 4
  front.head? = some 0xef ∨
  front = ['G', 'E', 'T', ' '].map Char.toUInt8 ∨
  front = ['P', 'O', 'S', 'T'].map Char.toUInt8 ∨
  front = ['H', 'E', 'A', 'D'].map Char.toUInt8 ∨
  front = [0xee, 0xee, 0xee, 0xee] ∨
  Bytes.ofLE (Bytes.span initPayload.toList 4 4) = 0

/-- `while (!valid)` over the draws: `none` while all of them are rejected. -/
def drawPayload : List (Block UInt8 64) → Option (Block UInt8 64)
  | [] => none
  | drawn :: draws => if rejected drawn then drawPayload draws else some drawn

/-- `memcpy(init_payload_.data() + 56, &proto_tag, 4)`. -/
def tagPayload (tagProto : TransportProtocol) (drawn : Block UInt8 64) : Block UInt8 64 :=
  drawn.patch 56 (tagBytes tagProto) (by rw [tagBytes_length]; decide)

lemma tagPayload_take {tagProto} {drawn : Block UInt8 64} :
    (tagPayload tagProto drawn).toList.take 56 = drawn.toList.take 56 := by
  rw [tagPayload, Block.patch_take]

lemma tagPayload_drop {tagProto} {drawn : Block UInt8 64} :
    (tagPayload tagProto drawn).toList.drop 56 = tagBytes tagProto ++ drawn.toList.drop 60 := by
  rw [tagPayload, Block.patch_drop, tagBytes_length]

/-- The part of `generate_keys` behind the loop. -/
def setKeys (innerCodec : Option κ) (tagProto : TransportProtocol) (drawn : Block UInt8 64) :
    ObfuscatedCodec ctr κ :=
  let initPayload := tagPayload tagProto drawn
  let encKey := initPayload.slice 8 32 (by decide)
  let encIv := initPayload.slice 40 16 (by decide)
  let rev := initPayload.reverse
  let tail := initPayload.slice 56 8 (by decide)
  let encTail := aesCtr ctr encKey encIv tail.toList
  { innerCodec, tagProto, initPayload, encKey, encIv
    decKey := rev.slice 8 32 (by decide)
    decIv := rev.slice 40 16 (by decide)
    handshakeHeader := initPayload.patch 56 encTail (by rw [aesCtr_length, tail.length_eq])
    handshakeSent := false
    enc_keys := ⟨rfl, rfl⟩
    dec_keys := ⟨rfl, rfl⟩
    tag := by
      rw [Bytes.span, tagPayload_drop, List.take_left' tagBytes_length]
    header := by
      have whole : tail.toList = initPayload.toList.drop 56 := Block.slice_end rfl
      rw [Block.patch_end (by rw [aesCtr_length, tail.length_eq]), ← whole] }

/-- The header of a new codec: 56 bytes in the clear, and a tail masked from position 0. -/
lemma setKeys_header {innerCodec : Option κ} {tagProto} {drawn} {c : ObfuscatedCodec ctr κ}
    (made : c = setKeys innerCodec tagProto drawn) :
    c.handshakeHeader.toList = drawn.toList.take 56 ++
      StreamCipher.mask (ctr c.encKey c.encIv) 0 (tagBytes tagProto ++ drawn.toList.drop 60) := by
  have payload : c.initPayload = tagPayload tagProto drawn := by
    rw [made]
    rfl
  rw [header, payload, tagPayload_take, tagPayload_drop, aesCtr]

/-- `ObfuscatedCodec::ObfuscatedCodec`, from the 64-byte strings that are drawn until one of them is
    not rejected. -/
def new (innerCodec : Option κ) (tagProto : TransportProtocol) (draws : List (Block UInt8 64)) :
    Option (ObfuscatedCodec ctr κ) :=
  (drawPayload draws).map (setKeys innerCodec tagProto)

/-- `ObfuscatedCodec::get_header`. -/
def getHeader (c : ObfuscatedCodec ctr κ) : List UInt8 := c.handshakeHeader.toList

section
variable [ITransportCodec κ]

/-- `ObfuscatedCodec::encode_packet`. -/
def encodePacket (c : ObfuscatedCodec ctr κ) (data : List UInt8) :
    List UInt8 × ObfuscatedCodec ctr κ :=
  match c.innerCodec with
  | none => ([], c)
  | some inner =>
    let (framed, inner) := ITransportCodec.encodePacket inner data
    let enc := aesCtr ctr c.encKey c.encIv framed
    if c.handshakeSent then (enc, { c with innerCodec := some inner })
    else
      (c.handshakeHeader.toList ++ enc,
        { c with innerCodec := some inner, handshakeSent := true })

/-- `ObfuscatedCodec::decode_packets`. -/
def decodePackets (c : ObfuscatedCodec ctr κ) (data : List UInt8) :
    Except Fault (List (List UInt8)) × ObfuscatedCodec ctr κ :=
  match c.innerCodec with
  | none => (.ok [], c)
  | some inner =>
    if data.length = 0 then (.ok [], c)
    else
      let dec := aesCtr ctr c.decKey c.decIv data
      let (packets, inner) := ITransportCodec.decodePackets inner dec
      (packets, { c with innerCodec := some inner })

/-- `ObfuscatedCodec::reset`. -/
def reset (c : ObfuscatedCodec ctr κ) : ObfuscatedCodec ctr κ :=
  { c with handshakeSent := false, innerCodec := c.innerCodec.map ITransportCodec.reset }

instance : ITransportCodec (ObfuscatedCodec ctr κ) where
  getHeader := getHeader
  encodePacket := encodePacket
  decodePackets := decodePackets
  reset := reset

end

/-! ## The handshake header -/

/-- A peer that has the 64 header bytes only, takes the key and the iv from them and decrypts them as
    the start of one stream, finds the protocol tag at position 56; and from the reversed header it
    takes the key and the iv that this side decrypts with. -/
structure PeerReads (c : ObfuscatedCodec ctr κ) : Prop where
  tag : ∃ plain,
    aesCtrDecrypt ctr c.getHeader (Bytes.span c.getHeader 8 32) (Bytes.span c.getHeader 40 16) =
      .ok plain ∧
    Bytes.span plain 56 4 = tagBytes c.tagProto
  key : Bytes.span c.getHeader.reverse 8 32 = c.decKey.toList
  iv : Bytes.span c.getHeader.reverse 40 16 = c.decIv.toList

/-- The bytes of the header in front of the tail are those of the payload. -/
lemma getHeader_front (c : ObfuscatedCodec ctr κ) :
    c.getHeader.take 56 = c.initPayload.toList.take 56 := by
  have len : (c.initPayload.toList.take 56).length = 56 := by
    rw [List.length_take, c.initPayload.length_eq]
    rfl
  rw [getHeader, c.header, List.take_left' len]

/-- The header has the key and the vector in clear. -/
lemma getHeader_keys (c : ObfuscatedCodec ctr κ) :
    Bytes.span c.getHeader 8 32 = c.encKey.toList ∧
    Bytes.span c.getHeader 40 16 = c.encIv.toList := by
  have front {i m} (inside : i + m ≤ 56) :
      Bytes.span c.getHeader i m = Bytes.span c.initPayload.toList i m := by
    rw [← Bytes.span_take inside, getHeader_front, Bytes.span_take inside]
  rw [front (by decide), front (by decide), c.enc_keys.1, c.enc_keys.2]
  exact ⟨rfl, rfl⟩

/-- The keys of the other direction do not depend on the tail either. -/
lemma getHeader_reverse (c : ObfuscatedCodec ctr κ) :
    Bytes.span c.getHeader.reverse 8 32 = c.decKey.toList ∧
    Bytes.span c.getHeader.reverse 40 16 = c.decIv.toList := by
  have back {i m} : Bytes.span c.getHeader.reverse (8 + i) m =
      Bytes.span c.initPayload.toList.reverse (8 + i) m := by
    rw [← Bytes.span_drop, ← Bytes.span_drop, List.drop_reverse, List.drop_reverse,
      c.initPayload.length_eq, getHeader, c.handshakeHeader.length_eq]
    exact congrArg (fun s => Bytes.span s.reverse i m) c.getHeader_front
  rw [c.dec_keys.1, c.dec_keys.2]
  exact ⟨back (i := 0), back (i := 32)⟩

/-- The peer finds what stands at position 56 after it is masked from position 0 and from position
    56. -/
lemma peer_tag (c : ObfuscatedCodec ctr κ) :
    ∃ plain,
      aesCtrDecrypt ctr c.getHeader (Bytes.span c.getHeader 8 32) (Bytes.span c.getHeader 40 16) =
        .ok plain ∧
      Bytes.span plain 56 4 = StreamCipher.mask (ctr c.encKey c.encIv) 56
        (StreamCipher.mask (ctr c.encKey c.encIv) 0 (tagBytes c.tagProto)) := by
  obtain ⟨key, iv⟩ := c.getHeader_keys
  refine ⟨aesCtr ctr c.encKey c.encIv c.getHeader, ?_, ?_⟩
  · rw [key, iv, aesCtrDecrypt, aesCtrEncrypt_block]
  · have front : (c.initPayload.toList.take 56).length = 56 := by
      rw [List.length_take, c.initPayload.length_eq]
      rfl
    have tail : c.initPayload.toList.drop 56 =
        tagBytes c.tagProto ++ c.initPayload.toList.drop 60 := by
      have split := List.take_append_drop 4 (c.initPayload.toList.drop 56)
      rw [List.drop_drop] at split
      rw [← c.tag]
      exact split.symm
    rw [getHeader, c.header, aesCtr, aesCtr, tail, StreamCipher.mask_append, front,
      StreamCipher.mask_append, StreamCipher.mask_append]
    apply Bytes.span_middle
    · rw [StreamCipher.mask_length, front]
    · rw [StreamCipher.mask_length, StreamCipher.mask_length, tagBytes_length]

/-- The peer reads the tag exactly if the keystream repeats there. -/
lemma peerReads_of_repeats (c : ObfuscatedCodec ctr κ) :
    PeerReads c ↔ ∀ i < 4, ctr c.encKey c.encIv i = ctr c.encKey c.encIv (56 + i) := by
  have repeats := StreamCipher.mask_eq_iff (ctr c.encKey c.encIv) 0 56 (tagBytes c.tagProto)
  rw [tagBytes_length] at repeats
  simp only [Nat.zero_add] at repeats
  rw [← repeats]
  obtain ⟨plain, decrypted, found⟩ := c.peer_tag
  constructor
  · rintro ⟨⟨plain', decrypted', tag⟩, -, -⟩
    cases decrypted.symm.trans decrypted'
    rw [found] at tag
    have twice := StreamCipher.mask_mask (ctr c.encKey c.encIv) 56
      (StreamCipher.mask (ctr c.encKey c.encIv) 0 (tagBytes c.tagProto))
    rw [← twice, tag]
  · intro same
    rw [same, StreamCipher.mask_mask] at found
    obtain ⟨key, iv⟩ := c.getHeader_reverse
    exact ⟨⟨plain, decrypted, found⟩, key, iv⟩

/-- The peer reads the handshake header exactly when the keystream repeats its first four bytes at
    position 56; the keys of the reverse direction it always finds. -/
theorem peerReads_iff (innerCodec : Option κ) (tagProto : TransportProtocol)
    (draws : List (Block UInt8 64)) (c : ObfuscatedCodec ctr κ)
    (made : new innerCodec tagProto draws = some c) :
    (PeerReads c ↔ ∀ i < 4, ctr c.encKey c.encIv i = ctr c.encKey c.encIv (56 + i)) ∧
    c.tagProto = tagProto ∧
    Bytes.span c.getHeader.reverse 8 32 = c.decKey.toList ∧
    Bytes.span c.getHeader.reverse 40 16 = c.decIv.toList := by
  obtain ⟨drawn, -, rfl⟩ := Option.map_eq_some_iff.mp made
  exact ⟨peerReads_of_repeats _, rfl, getHeader_reverse _⟩

/-- A header of ones is drawn, and not rejected. -/
theorem peerReads_iff_ones :
    let c : ObfuscatedCodec referenceCtr IntermediateCodec :=
      setKeys (some {}) .Intermediate ⟨List.replicate 64 1, rfl⟩
    (PeerReads c ↔
      ∀ i < 4, referenceCtr c.encKey c.encIv i = referenceCtr c.encKey c.encIv (56 + i)) ∧
    c.tagProto = .Intermediate ∧
    Bytes.span c.getHeader.reverse 8 32 = c.decKey.toList ∧
    Bytes.span c.getHeader.reverse 40 16 = c.decIv.toList :=
  peerReads_iff (some {}) .Intermediate [⟨List.replicate 64 1, rfl⟩] _ rfl

/-- A header of ones is drawn: what the peer finds at position 56 is not the tag. -/
theorem ones_unreadable :
    let drawn : Block UInt8 64 := ⟨List.replicate 64 1, rfl⟩
    let c : ObfuscatedCodec referenceCtr IntermediateCodec :=
      setKeys (some {}) .Intermediate drawn
    new (some {}) .Intermediate [drawn] = some c ∧ ¬ PeerReads c := by
  refine ⟨rfl, ?_⟩
  rw [peerReads_of_repeats]
  intro repeats
  exact absurd (repeats 0 (by decide)) (by decide +kernel)

end ObfuscatedCodec

end CppGram.Transport
