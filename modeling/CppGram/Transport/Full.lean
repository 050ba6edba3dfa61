import CppGram.Transport.Codec

/-!
# The full codec

`FullCodec` (C++ `transport.cpp`): a frame is its own size, a sequence number, the payload and a
CRC32 of all that precedes it. The decoder counts the frames it takes but does not compare the
number they carry. `turn_eq` says that one turn of the loop implements the format `layout` on every
buffer, with its two errors; `encodePacket_cut` that an encoded packet is a frame of it whatever its
sequence number.
-/

namespace CppGram.Transport
open Framing

/-! ## CRC32 -/

/-- One of the eight steps that compute a table entry. -/
def crc32Shift (c : UInt32) : UInt32 :=
  if c &&& 1 ≠ 0 then (0xEDB88320 : UInt32) ^^^ (c >>> 1) else c >>> 1

/-- `kCrc32Table[index]` (C++ `class Crc32Table`). -/
def crc32Table (index : UInt8) : UInt32 := crc32Shift^[8] index.toUInt32

/-- C++ `class FullCodec`. -/
structure FullCodec where
  outSeqNo : UInt32 := 0
  inSeqNo : UInt32 := 0
  buffer : List UInt8 := []
  deriving DecidableEq, Repr

namespace FullCodec

/-- One byte into the checksum register. -/
def crc32Step (crc : UInt32) (byte : UInt8) : UInt32 :=
  let index := ((crc ^^^ byte.toUInt32) &&& 0xff).toUInt8
  (crc >>> 8) ^^^ crc32Table index

/-- `FullCodec::compute_crc32`. -/
def computeCrc32 (data : List UInt8) : UInt32 := data.foldl crc32Step 0xffffffff ^^^ 0xffffffff

/-! ## The codec -/

/-- The buffer of the codec. -/
def buf : Buffer FullCodec UInt8 where
  get c := c.buffer
  set c b := { c with buffer := b }
  get_set := rfl
  set_set := rfl
  set_get := rfl

/-- `FullCodec::get_header`. -/
def getHeader (_ : FullCodec) : List UInt8 := []

/-- What `encode_packet` pushes before the checksum. -/
def unsigned (seq : UInt32) (data : List UInt8) : List UInt8 :=
  let totalLen := (data.length + 12).toUInt32
  bytes32 totalLen ++ bytes32 seq ++ data

/-- `FullCodec::encode_packet`. -/
def encodePacket (c : FullCodec) (data : List UInt8) : List UInt8 × FullCodec :=
  let seq := c.outSeqNo
  let out := unsigned seq data
  (out ++ bytes32 (computeCrc32 out), { c with outSeqNo := c.outSeqNo + 1 })

/-- The largest length of a frame. -/
def maxTotal : Nat := 16 * 1024 * 1024

/-- `throw std::runtime_error("FullCodec invalid packet length: " + ...)`. -/
def invalidLength (totalLen : Nat) : Fault :=
  .runtimeError ("FullCodec invalid packet length: " ++ toString totalLen)

/-- What is thrown at a wrong checksum. -/
def crcMismatch : Fault := .runtimeError "FullCodec CRC32 mismatch"

/-- A turn once `total_len` is read: refuse the length, wait for the rest of the frame, compare the
    checksum, emit. -/
def takeFrame (c : FullCodec) (offset totalLen : Nat) : Turn FullCodec (List UInt8) Fault :=
  if hlen : totalLen < 12 ∨ totalLen > maxTotal then .fail (invalidLength totalLen)
  else if hend : c.buffer.length - offset < totalLen then .stop
  else
    let expected := word32 c.buffer[offset + totalLen - 4] c.buffer[offset + totalLen - 3]
      c.buffer[offset + totalLen - 2] c.buffer[offset + totalLen - 1]
    let calculated := computeCrc32 (Bytes.span c.buffer offset (totalLen - 4))
    if expected ≠ calculated then .fail crcMismatch
    else
      let payloadLen := totalLen - 12
      emitSpan { c with inSeqNo := c.inSeqNo + 1 } c.buffer (offset + 8) payloadLen
        (offset + totalLen)

/-- One turn of the loop of `FullCodec::decode_packets`. -/
def turn : CodecTurn FullCodec := fun c offset =>
  if h : offset + 12 ≤ c.buffer.length then
    let totalLen := word32 c.buffer[offset] c.buffer[offset + 1] c.buffer[offset + 2]
      c.buffer[offset + 3]
    takeFrame c offset totalLen.toNat
  else .stop

/-- `FullCodec::decode_packets`. -/
def decodePackets (c : FullCodec) (data : List UInt8) :
    Except Fault (List (List UInt8)) × FullCodec :=
  decodeStream buf turn c data

/-- `FullCodec::reset`. -/
def reset (_ : FullCodec) : FullCodec := { outSeqNo := 0, inSeqNo := 0, buffer := [] }

instance : ITransportCodec FullCodec where
  getHeader := getHeader
  encodePacket := encodePacket
  decodePackets := decodePackets
  reset := reset

/-! ## The frame layout -/

/-- The length of the frame ahead, if it can be read; lengths out of range are refused. -/
def total (s : List UInt8) : Option (Except Fault Nat) :=
  if s.length < 12 then none
  else if Bytes.ofLE (s.take 4) < 12 ∨ Bytes.ofLE (s.take 4) > maxTotal then
    some (.error (invalidLength (Bytes.ofLE (s.take 4))))
  else some (.ok (Bytes.ofLE (s.take 4)))

/-- The payload of a complete frame, whose last four bytes are the checksum of the others. -/
def unpack (f : List UInt8) : Except Fault (List UInt8) :=
  if Bytes.ofLE (f.drop (f.length - 4)) = (computeCrc32 (f.take (f.length - 4))).toNat then
    .ok (Bytes.span f 8 (f.length - 12))
  else .error crcMismatch

lemma total_short {s} (short : s.length < 12) : total s = none := if_pos short

/-- A length out of range is refused. -/
lemma total_error {s} (long : 12 ≤ s.length)
    (bad : Bytes.ofLE (s.take 4) < 12 ∨ Bytes.ofLE (s.take 4) > maxTotal) :
    total s = some (.error (invalidLength (Bytes.ofLE (s.take 4)))) := by
  rw [total, if_neg (Nat.not_lt.mpr long), if_pos bad]

/-- A length in range is that of the frame. -/
lemma total_ok {s} (long : 12 ≤ s.length)
    (good : ¬ (Bytes.ofLE (s.take 4) < 12 ∨ Bytes.ofLE (s.take 4) > maxTotal)) :
    total s = some (.ok (Bytes.ofLE (s.take 4))) := by
  rw [total, if_neg (Nat.not_lt.mpr long), if_neg good]

/-- The frames of the codec: the length comes first, the checksum last. -/
def layout : LengthPrefixed UInt8 (List UInt8) Fault where
  total := total
  unpack := unpack
  total_pos {s n} h := by
    rw [total] at h
    split at h
    · cases h
    · split at h
      · cases h
      · cases h
        omega
  total_append {s x} t h := by
    rw [total] at h ⊢
    split at h
    · cases h
    · rename_i long
      rwa [if_neg (by rw [List.length_append]; omega),
        List.take_append_of_le_length (by omega)]

@[simp]
lemma layout_total {s} : layout.total s = total s := rfl

@[simp]
lemma layout_unpack {f} : layout.unpack f = unpack f := rfl

/-- Four bytes of a list as a word. -/
lemma word32_span {s : List UInt8} {o i j k : Nat} (h : o + 4 ≤ s.length)
    (hi : i = o + 1) (hj : j = o + 2) (hk : k = o + 3) :
    (word32 s[o] s[i] s[j] s[k]).toNat = Bytes.ofLE (Bytes.span s o 4) := by
  subst hi hj hk
  rw [word32_toNat, Bytes.span, Bytes.drop_eq_cons4 h]
  rfl

/-- What a turn does to the counters when it emits. -/
def tick (c : FullCodec) : FullCodec := { c with inSeqNo := c.inSeqNo + 1 }

/-- A complete frame in a buffer unpacks when its last word is the checksum of what precedes it. -/
lemma unpack_take {s : List UInt8} {o n} (long : 12 ≤ n) (whole : o + n ≤ s.length) :
    unpack ((s.drop o).take n) =
      if word32 s[o + n - 4] s[o + n - 3] s[o + n - 2] s[o + n - 1] =
          computeCrc32 (Bytes.span s o (n - 4)) then
        .ok (Bytes.span (s.drop o) 8 (n - 12))
      else .error crcMismatch := by
  have len : ((s.drop o).take n).length = n := by
    rw [List.length_take, List.length_drop]
    omega
  have stored := word32_span (s := s) (o := o + n - 4) (i := o + n - 3) (j := o + n - 2)
    (k := o + n - 1) (by omega) (by omega) (by omega) (by omega)
  have tail : ((s.drop o).take n).drop (n - 4) = Bytes.span s (o + n - 4) 4 := by
    have h := Bytes.span_eq_drop (s := s.drop o) (i := n - 4) (n := 4)
    rw [Nat.sub_add_cancel (by omega), Bytes.span_drop] at h
    rw [← h, Nat.add_sub_assoc (by omega)]
  have body : ((s.drop o).take n).take (n - 4) = Bytes.span s o (n - 4) := by
    rw [List.take_take, Bytes.span, Nat.min_eq_left (by omega)]
  rw [unpack, len, tail, body, ← stored, Bytes.span_take (by omega)]
  simp only [UInt32.toNat_inj]

/-- A turn takes the frame that is cut, and counts it. -/
lemma takeFrame_eq {c : FullCodec} {offset n} (long : 12 ≤ n)
    (ht : layout.total (c.buffer.drop offset) = some (.ok n)) (small : n ≤ maxTotal) :
    takeFrame c offset n = (layout.cut (c.buffer.drop offset)).toTurn (tick c) offset := by
  rw [takeFrame, dif_neg (by omega)]
  by_cases short : c.buffer.length - offset < n
  · rw [dif_pos short, LengthPrefixed.cut_short ht (by rw [List.length_drop]; omega)]
    rfl
  · have whole : n ≤ (c.buffer.drop offset).length := by
      rw [List.length_drop]
      omega
    have check := unpack_take (s := c.buffer) (o := offset) long (by omega)
    rw [dif_neg short]
    by_cases valid : word32 c.buffer[offset + n - 4] c.buffer[offset + n - 3]
        c.buffer[offset + n - 2] c.buffer[offset + n - 1] =
          computeCrc32 (Bytes.span c.buffer offset (n - 4))
    · rw [if_pos valid] at check
      rw [if_neg (not_not.mpr valid), LengthPrefixed.cut_ok ht whole check,
        emitSpan_eq (by decide) (by omega)]
      rfl
    · rw [if_neg valid] at check
      rw [if_pos valid, LengthPrefixed.cut_invalid ht whole check]
      rfl

/-- One turn of the loop cuts the buffer by the full format. -/
lemma turn_eq {c : FullCodec} {offset} :
    turn c offset = (layout.cut (c.buffer.drop offset)).toTurn (tick c) offset := by
  by_cases h : offset + 12 ≤ c.buffer.length
  · have long : 12 ≤ (c.buffer.drop offset).length := by
      rw [List.length_drop]
      omega
    have front := word32_span (s := c.buffer) (o := offset) (by omega) rfl rfl rfl
    simp only [turn, dif_pos h]
    rw [front]
    change takeFrame c offset (Bytes.ofLE ((c.buffer.drop offset).take 4)) = _
    by_cases hlen : Bytes.ofLE ((c.buffer.drop offset).take 4) < 12 ∨
        Bytes.ofLE ((c.buffer.drop offset).take 4) > maxTotal
    · rw [takeFrame, dif_pos hlen, LengthPrefixed.cut_error (L := layout) (total_error long hlen)]
      rfl
    · exact takeFrame_eq (by omega) (total_ok long hlen) (by omega)
  · rw [turn, dif_neg h,
      LengthPrefixed.cut_none (L := layout) (total_short (by rw [List.length_drop]; omega))]
    rfl

lemma cuts : Cuts layout.format buf turn tick :=
  .of_toTurn (fun _ => turn_eq) rfl

/-- The frames taken are counted modulo `2 ^ 32`. -/
lemma iterate_tick {c : FullCodec} {n : Nat} :
    tick^[n] c = { c with inSeqNo := c.inSeqNo + UInt32.ofNat n } := by
  induction n generalizing c with
  | zero => simp
  | succ n ih =>
    rw [Function.iterate_succ_apply, ih, tick, UInt32.ofNat_add, UInt32.add_assoc,
      UInt32.add_comm (UInt32.ofNat n)]
    rfl

/-! ## The encoder against the layout -/

lemma unsigned_length {seq data} : (unsigned seq data).length = data.length + 8 := by
  simp only [unsigned, List.length_append, bytes32_length]
  omega

/-- A frame begins with its length. -/
lemma encodePacket_front {c payload} (fits : payload.length + 12 ≤ maxTotal) (t : List UInt8) :
    Bytes.ofLE (((encodePacket c payload).1 ++ t).take 4) = payload.length + 12 := by
  have lt : payload.length + 12 < 2 ^ 32 := by
    simp only [maxTotal] at fits
    omega
  have value : (payload.length + 12).toUInt32.toNat = payload.length + 12 :=
    UInt32.toNat_ofNat_of_lt' lt
  simp only [encodePacket, unsigned, List.append_assoc]
  rw [List.take_left' bytes32_length, bytes32_eq, value]
  exact Bytes.ofLE_toLE_of_lt lt

/-- A body with its checksum behind it is unpacked. -/
lemma unpack_signed {body crc} (len : crc.length = 4)
    (valid : Bytes.ofLE crc = (computeCrc32 body).toNat) :
    unpack (body ++ crc) = .ok (Bytes.span (body ++ crc) 8 (body.length - 8)) := by
  rw [unpack, List.length_append, len, Nat.add_sub_cancel, List.drop_left, List.take_left,
    if_pos valid]
  rfl

/-- A frame is unpacked to its payload. -/
lemma unpack_encodePacket {c payload} : unpack (encodePacket c payload).1 = .ok payload := by
  have crc : Bytes.ofLE (bytes32 (computeCrc32 (unsigned c.outSeqNo payload))) =
      (computeCrc32 (unsigned c.outSeqNo payload)).toNat := by
    rw [bytes32_eq]
    exact Bytes.ofLE_toLE_of_lt (UInt32.toNat_lt _)
  rw [encodePacket, unpack_signed bytes32_length crc, unsigned_length, unsigned,
    List.append_assoc _ payload, Bytes.span_middle (by simp) (by omega)]

/-- A payload that fits is encoded to a frame that carries it, whatever the counters. -/
lemma encodePacket_cut {c payload} (fits : payload.length + 12 ≤ maxTotal) (t : List UInt8) :
    layout.cut ((encodePacket c payload).1 ++ t) =
      .frame payload (encodePacket c payload).1.length := by
  have front := encodePacket_front (c := c) fits t
  have len : (encodePacket c payload).1.length = payload.length + 12 := by
    simp only [encodePacket, List.length_append, bytes32_length, unsigned_length]
  have ht : layout.total ((encodePacket c payload).1 ++ t) = some (.ok (payload.length + 12)) := by
    rw [layout_total, total_ok (by rw [List.length_append, len]; omega) (by omega), front]
  rw [len]
  refine LengthPrefixed.cut_ok ht (by rw [List.length_append, len]; omega) ?_
  rw [List.take_left' len]
  exact unpack_encodePacket

end FullCodec

end CppGram.Transport
