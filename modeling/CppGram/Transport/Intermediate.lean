import CppGram.Transport.Codec

/-!
# The intermediate codec

`IntermediateCodec` (C++ `transport.cpp`): a frame is a 32-bit length followed by the payload. The
decoder adds the 4 header bytes to that length in `uint32_t`, so the four lengths from `2 ^ 32 - 4`
on wrap around: `turn_eq` says that a turn of the loop implements the format `layout`, in which
those lengths are an error, wherever the format reports none, and `turn_overflow` what the turn does
where it does.
-/

namespace CppGram.Transport
open Framing

/-- C++ `class IntermediateCodec`. -/
structure IntermediateCodec where
  buffer : List UInt8 := []
  deriving DecidableEq, Repr

namespace IntermediateCodec

/-- The buffer of the codec. -/
def buf : Buffer IntermediateCodec UInt8 where
  get c := c.buffer
  set _ b := ⟨b⟩
  get_set := rfl
  set_set := rfl
  set_get := rfl

/-- `IntermediateCodec::get_header`. -/
def getHeader (_ : IntermediateCodec) : List UInt8 := [0xee, 0xee, 0xee, 0xee]

/-- `IntermediateCodec::encode_packet`. -/
def encodePacket (c : IntermediateCodec) (data : List UInt8) : List UInt8 × IntermediateCodec :=
  let len32 := data.length.toUInt32
  (bytes32 len32 ++ data, c)

/-- One turn of the loop of `IntermediateCodec::decode_packets`. -/
def turn : CodecTurn IntermediateCodec := fun c offset =>
  if h : offset + 4 ≤ c.buffer.length then
    let payloadLen := word32 c.buffer[offset] c.buffer[offset + 1] c.buffer[offset + 2]
      c.buffer[offset + 3]
    -- `4 + payload_len` is a `uint32_t`, the slice runs to `payload_start + payload_len` exactly
    if c.buffer.length - offset < (4 + payloadLen).toNat then .stop
    else emitSpan c c.buffer (offset + 4) payloadLen.toNat (offset + (4 + payloadLen).toNat)
  else .stop

/-- `IntermediateCodec::decode_packets`. -/
def decodePackets (c : IntermediateCodec) (data : List UInt8) :
    Except Fault (List (List UInt8)) × IntermediateCodec :=
  decodeStream buf turn c data

/-- `IntermediateCodec::reset`. -/
def reset (_ : IntermediateCodec) : IntermediateCodec := ⟨[]⟩

instance : ITransportCodec IntermediateCodec where
  getHeader := getHeader
  encodePacket := encodePacket
  decodePackets := decodePackets
  reset := reset

/-! ## The frame layout -/

/-- The lengths that `4 + payload_len` can carry without wrapping. -/
def maxPayload : Nat := 2 ^ 32 - 5

/-- The length of the frame ahead, if it can be read; a length that wraps is refused. -/
def total (s : List UInt8) : Option (Except Fault Nat) :=
  if s.length < 4 then none
  else if Bytes.ofLE (s.take 4) ≤ maxPayload then some (.ok (4 + Bytes.ofLE (s.take 4)))
  else some (.error .outOfBounds)

lemma total_short {s} (short : s.length < 4) : total s = none := if_pos short

lemma total_ok {s} (long : 4 ≤ s.length) (fits : Bytes.ofLE (s.take 4) ≤ maxPayload) :
    total s = some (.ok (4 + Bytes.ofLE (s.take 4))) := by
  rw [total, if_neg (Nat.not_lt.mpr long), if_pos fits]

lemma total_error {s} (long : 4 ≤ s.length) (wraps : maxPayload < Bytes.ofLE (s.take 4)) :
    total s = some (.error .outOfBounds) := by
  rw [total, if_neg (Nat.not_lt.mpr long), if_neg (Nat.not_le.mpr wraps)]

/-- The intermediate format: a length, refused when it wraps, and as many bytes. -/
def layout : LengthPrefixed UInt8 (List UInt8) Fault where
  total := total
  unpack f := .ok (f.drop 4)
  total_pos {s n} h := by
    rw [total] at h
    split at h
    · cases h
    · split at h
      · cases h
        omega
      · cases h
  total_append {s x} t h := by
    rw [total] at h ⊢
    split at h
    · cases h
    · rename_i long
      rwa [if_neg (by rw [List.length_append]; omega),
        List.take_append_of_le_length (by omega)]

@[simp]
lemma layout_total {s} : layout.total s = total s := rfl

@[simp]
lemma layout_unpack {f} : layout.unpack f = .ok (f.drop 4) := rfl

/-- Four bytes of a list as a word. -/
lemma word32_front {s : List UInt8} {o : Nat} (h : o + 4 ≤ s.length) :
    (word32 s[o] s[o + 1] s[o + 2] s[o + 3]).toNat = Bytes.ofLE ((s.drop o).take 4) := by
  rw [word32_toNat, Bytes.drop_eq_cons4 h]
  rfl

/-- Where the announced length does not wrap, a turn cuts the buffer by the format. -/
lemma turn_eq {c : IntermediateCodec} {offset}
    (fits : ∀ e, layout.cut (c.buffer.drop offset) ≠ .bad e) :
    turn c offset = (layout.cut (c.buffer.drop offset)).toTurn c offset := by
  by_cases h : offset + 4 ≤ c.buffer.length
  · have long : 4 ≤ (c.buffer.drop offset).length := by
      rw [List.length_drop]
      omega
    have front := word32_front h
    simp only [turn, dif_pos h]
    generalize word32 _ _ _ _ = payloadLen at front ⊢
    rcases Nat.lt_or_ge maxPayload payloadLen.toNat with wraps | small
    · rw [front] at wraps
      exact absurd (LengthPrefixed.cut_error (total_error long wraps)) (fits _)
    · have sum : (4 + payloadLen).toNat = 4 + payloadLen.toNat := by
        rw [UInt32.toNat_add]
        exact Nat.mod_eq_of_lt (by simp [maxPayload] at small ⊢; omega)
      have ht := total_ok long (front ▸ small)
      rw [← front] at ht
      rw [sum, ← List.length_drop]
      by_cases short : (c.buffer.drop offset).length < 4 + payloadLen.toNat
      · rw [if_pos short, LengthPrefixed.cut_short (L := layout) ht short]
        rfl
      · rw [if_neg short, emitSpan_eq (by decide) (Nat.not_lt.mp short), Bytes.span_eq_drop,
          LengthPrefixed.cut_ok (L := layout) ht (Nat.not_lt.mp short) layout_unpack]
        rfl
  · rw [turn, dif_neg h,
      LengthPrefixed.cut_none (L := layout) (total_short (by rw [List.length_drop]; omega))]
    rfl

/-- Where it wraps, the bounds check passes and the offset moves by less than a header. -/
lemma turn_overflow {c : IntermediateCodec} {o} (h : o + 4 ≤ c.buffer.length)
    (wraps : maxPayload < Bytes.ofLE ((c.buffer.drop o).take 4)) :
    turn c o = emitSpan c c.buffer (o + 4) (Bytes.ofLE ((c.buffer.drop o).take 4))
      (o + (Bytes.ofLE ((c.buffer.drop o).take 4) + 4 - 2 ^ 32)) := by
  have front := word32_front h
  simp only [turn, dif_pos h]
  generalize word32 _ _ _ _ = payloadLen at front ⊢
  have lt := payloadLen.toNat_lt
  rw [← front] at wraps ⊢
  have sum : (4 + payloadLen).toNat = payloadLen.toNat + 4 - 2 ^ 32 := by
    rw [UInt32.toNat_add]
    simp [maxPayload] at wraps ⊢
    omega
  rw [sum, if_neg (by simp [maxPayload] at wraps; omega)]

lemma cuts : Cuts layout.format buf turn id :=
  .of_toTurn turn_eq rfl

/-- A payload whose length does not wrap is encoded to a frame that carries it. -/
lemma encodePacket_cut {c payload} (fits : payload.length ≤ maxPayload) (t : List UInt8) :
    layout.cut ((encodePacket c payload).1 ++ t) =
      .frame payload (encodePacket c payload).1.length := by
  have lt : payload.length < 2 ^ 32 := by
    simp [maxPayload] at fits
    omega
  have value : payload.length.toUInt32.toNat = payload.length := UInt32.toNat_ofNat_of_lt' lt
  have front : Bytes.ofLE ((bytes32 payload.length.toUInt32 ++ payload ++ t).take 4) =
      payload.length := by
    rw [List.append_assoc, List.take_left' bytes32_length, bytes32_eq, value]
    exact Bytes.ofLE_toLE_of_lt lt
  have ht : layout.total (bytes32 payload.length.toUInt32 ++ payload ++ t) =
      some (.ok (4 + payload.length)) := by
    rw [layout_total, total_ok (by simp) (by rwa [front]), front]
  have len : (bytes32 payload.length.toUInt32 ++ payload).length = 4 + payload.length := by
    rw [List.length_append, bytes32_length]
  simp only [encodePacket]
  rw [len]
  refine LengthPrefixed.cut_ok ht (by rw [List.length_append, len]; omega) ?_
  rw [List.take_left' len, layout_unpack, List.drop_left' bytes32_length]

end IntermediateCodec

end CppGram.Transport
