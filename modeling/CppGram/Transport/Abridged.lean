import CppGram.Transport.Codec

/-!
# The abridged codec

`AbridgedCodec` (C++ `transport.cpp`): a frame is a word count in one byte, or `0x7f` and three
bytes, followed by the payload. `turn_eq` says that one turn of `decode_packets`' loop implements
the length-prefixed format `layout` on every buffer; `encodePacket_cut` says when an encoded packet
is a frame of it.
-/

namespace CppGram.Transport
open Framing

/-- C++ `class AbridgedCodec`. -/
structure AbridgedCodec where
  buffer : List UInt8 := []
  deriving DecidableEq, Repr

namespace AbridgedCodec

/-- The buffer of the codec. -/
def buf : Buffer AbridgedCodec UInt8 where
  get c := c.buffer
  set _ b := ⟨b⟩
  get_set := rfl
  set_set := rfl
  set_get := rfl

/-- `AbridgedCodec::get_header`. -/
def getHeader (_ : AbridgedCodec) : List UInt8 := [0xef]

/-- The header `encode_packet` pushes for a number of 4-byte words. -/
def wordsHeader (words : Nat) : List UInt8 :=
  if words < 127 then [words.toUInt8]
  else
    [0x7f, (words &&& 0xff).toUInt8, ((words >>> 8) &&& 0xff).toUInt8,
      ((words >>> 16) &&& 0xff).toUInt8]

/-- `AbridgedCodec::encode_packet`. -/
def encodePacket (c : AbridgedCodec) (data : List UInt8) : List UInt8 × AbridgedCodec :=
  let words := (data.length + 3) / 4
  (wordsHeader words ++ data, c)

/-- The end of a turn: `break` unless the announced frame is there, else emit its payload. -/
def takeFrame (c : AbridgedCodec) (offset headerLen payloadLen : Nat) :
    Turn AbridgedCodec (List UInt8) Fault :=
  if c.buffer.length - offset < headerLen + payloadLen then .stop
  else emitSpan c c.buffer (offset + headerLen) payloadLen (offset + (headerLen + payloadLen))

/-- One turn of the loop of `AbridgedCodec::decode_packets`. -/
def turn : CodecTurn AbridgedCodec := fun c offset =>
  if h : offset < c.buffer.length then
    let first := c.buffer[offset]
    if first < 0x7f then takeFrame c offset 1 (first.toNat * 4)
    else if h4 : c.buffer.length - offset < 4 then .stop
    else
      let words := word24 c.buffer[offset + 1] c.buffer[offset + 2] c.buffer[offset + 3]
      takeFrame c offset 4 (words.toNat * 4)
  else .stop

/-- `AbridgedCodec::decode_packets`. -/
def decodePackets (c : AbridgedCodec) (data : List UInt8) :
    Except Fault (List (List UInt8)) × AbridgedCodec :=
  decodeStream buf turn c data

/-- `AbridgedCodec::reset`. -/
def reset (_ : AbridgedCodec) : AbridgedCodec := ⟨[]⟩

instance : ITransportCodec AbridgedCodec where
  getHeader := getHeader
  encodePacket := encodePacket
  decodePackets := decodePackets
  reset := reset

/-! ## The frame layout -/

/-- How many bytes the header has. -/
def headerLen : List UInt8 → Nat
  | first :: _ => if first < 0x7f then 1 else 4
  | [] => 0

/-- The length of the frame ahead with its header, if the header is there. -/
def total : List UInt8 → Option Nat
  | [] => none
  | first :: rest =>
    if first < 0x7f then some (1 + first.toNat * 4)
    else
      match rest with
      | b0 :: b1 :: b2 :: _ => some (4 + (word24 b0 b1 b2).toNat * 4)
      | _ => none

/-- More bytes behind do not change the length. -/
lemma total_append {s n} (t : List UInt8) (h : total s = some n) : total (s ++ t) = some n := by
  match s with
  | [] => cases h
  | first :: rest =>
    rw [List.cons_append]
    simp only [total] at h ⊢
    split at h
    · rename_i small
      rwa [if_pos small]
    · rename_i large
      rw [if_neg large]
      match rest with
      | b0 :: b1 :: b2 :: rest => exact h
      | [] | [_] | [_, _] => cases h

/-- A long header needs three more bytes. -/
lemma total_short {first rest} (large : ¬ first < 0x7f) (short : rest.length < 3) :
    total (first :: rest) = none := by
  match rest with
  | [] | [_] | [_, _] => simp only [total, if_neg large]
  | _ :: _ :: _ :: _ =>
    simp only [List.length_cons] at short
    omega

/-- The frames of the codec: the header announces the length. -/
def layout : LengthPrefixed UInt8 (List UInt8) Fault where
  total s := (total s).map .ok
  unpack f := .ok (f.drop (headerLen f))
  total_pos {s n} h := by
    match s with
    | [] => cases h
    | first :: rest =>
      simp only [total] at h
      split at h
      · cases h
        omega
      · split at h
        · cases h
          omega
        · cases h
  total_append {s x} t h := by
    obtain ⟨n, hn, rfl⟩ := Option.map_eq_some_iff.mp h
    rw [total_append t hn]
    rfl

@[simp]
lemma layout_total {s} : layout.total s = (total s).map .ok := rfl

@[simp]
lemma layout_unpack {f} : layout.unpack f = .ok (f.drop (headerLen f)) := rfl

lemma cut_none {s} (h : total s = none) : layout.cut s = .more :=
  LengthPrefixed.cut_none (by rw [layout_total, h, Option.map_none])

/-- The header is seen by its first byte. -/
lemma headerLen_take {s : List UInt8} {n} (pos : 0 < n) : headerLen (s.take n) = headerLen s := by
  match s, n with
  | [], _ => rw [List.take_nil]
  | first :: rest, n + 1 => rfl

/-- A turn takes the frame that is cut. -/
lemma takeFrame_eq {c : AbridgedCodec} {offset header n} (pos : 0 < header)
    (hl : headerLen (c.buffer.drop offset) = header)
    (ht : total (c.buffer.drop offset) = some (header + n)) :
    takeFrame c offset header n = (layout.cut (c.buffer.drop offset)).toTurn c offset := by
  have ht : layout.total (c.buffer.drop offset) = some (.ok (header + n)) := by
    rw [layout_total, ht, Option.map_some]
  rw [takeFrame, ← List.length_drop]
  split
  · rename_i short
    rw [LengthPrefixed.cut_short ht short]
    rfl
  · rename_i whole
    have hp : layout.unpack ((c.buffer.drop offset).take (header + n)) =
        .ok (((c.buffer.drop offset).take (header + n)).drop header) := by
      rw [layout_unpack, headerLen_take (by omega), hl]
    rw [emitSpan_eq pos (by omega), Bytes.span_eq_drop, LengthPrefixed.cut_ok ht (by omega) hp]
    rfl

/-- One turn of the loop cuts the buffer by the abridged format. -/
lemma turn_eq {c : AbridgedCodec} {offset} :
    turn c offset = (layout.cut (c.buffer.drop offset)).toTurn c offset := by
  by_cases h : offset < c.buffer.length
  · have e := Bytes.drop_eq_cons h
    by_cases small : c.buffer[offset] < 0x7f
    · simp only [turn, dif_pos h, if_pos small]
      apply takeFrame_eq Nat.one_pos
      · rw [e, headerLen, if_pos small]
      · rw [e]
        simp only [total, if_pos small]
    · by_cases short : c.buffer.length - offset < 4
      · have len : (c.buffer.drop (offset + 1)).length < 3 := by
          rw [List.length_drop]
          omega
        simp only [turn, dif_pos h, if_neg small, dif_pos short]
        rw [e, cut_none (total_short small len)]
        rfl
      · have e := Bytes.drop_eq_cons4 (s := c.buffer) (o := offset) (by omega)
        simp only [turn, dif_pos h, if_neg small, dif_neg short]
        apply takeFrame_eq (by decide)
        · rw [e, headerLen, if_neg small]
        · rw [e]
          simp only [total, if_neg small]
  · rw [turn, dif_neg h, List.drop_eq_nil_of_le (by omega), cut_none rfl]
    rfl

/-- The loop stops at no frame. -/
lemma cut_of_stop {c : AbridgedCodec} {offset} (stop : turn c offset = .stop) :
    layout.cut (c.buffer.drop offset) = .more := by
  rw [turn_eq] at stop
  cases hc : layout.cut (c.buffer.drop offset) with
  | more => rfl
  | frame p n | bad e =>
    rw [hc] at stop
    cases stop

lemma cuts : Cuts layout.format buf turn id :=
  .of_toTurn (fun _ => turn_eq) rfl

/-! ## The encoder against the layout -/

lemma wordsHeader_small {words} (small : words < 127) : wordsHeader words = [words.toUInt8] :=
  if_pos small

lemma wordsHeader_large {words} (large : 127 ≤ words) :
    wordsHeader words = 0x7f :: Bytes.toLE 3 words := by
  rw [wordsHeader, if_neg (Nat.not_lt.mpr large), ← bytes24_eq, bytes24]

/-- A short header announces its words. -/
lemma total_small {words t} (small : words < 127) :
    total (wordsHeader words ++ t) = some (1 + words * 4) := by
  have value : words.toUInt8.toNat = words := by
    simp
    omega
  have first : words.toUInt8 < 0x7f := by
    rw [UInt8.lt_iff_toNat_lt, value]
    exact small
  rw [wordsHeader_small small]
  simp only [List.cons_append, total, if_pos first, value]

/-- A long header announces its words modulo 2^24. -/
lemma total_large {words t} (large : 127 ≤ words) :
    total (wordsHeader words ++ t) = some (4 + words % 2 ^ 24 * 4) := by
  have value := Bytes.ofLE_toLE (w := 3) (n := words)
  rw [wordsHeader_large large]
  simp only [Bytes.toLE, List.cons_append] at value ⊢
  rw [← word24_toNat] at value
  simp only [total, if_neg (by decide : ¬ (0x7f : UInt8) < 0x7f), value]
  rfl

/-- The header in front of an encoded packet is the one the decoder sees. -/
lemma headerLen_wordsHeader (words t) :
    headerLen (wordsHeader words ++ t) = (wordsHeader words).length := by
  rcases Nat.lt_or_ge words 127 with small | large
  · have first : words.toUInt8 < 0x7f := by
      rw [UInt8.lt_iff_toNat_lt]
      simp
      omega
    rw [wordsHeader_small small, List.cons_append, headerLen, if_pos first, List.length_singleton]
  · rw [wordsHeader_large large, List.cons_append, headerLen, if_neg (by decide),
      List.length_cons, Bytes.toLE_length]

/-- A header announces its words modulo 2^24. -/
lemma total_wordsHeader (words t) :
    total (wordsHeader words ++ t) = some ((wordsHeader words).length + words % 2 ^ 24 * 4) := by
  rcases Nat.lt_or_ge words 127 with small | large
  · rw [total_small small, wordsHeader_small small, List.length_singleton,
      Nat.mod_eq_of_lt (by omega)]
  · rw [total_large large, wordsHeader_large large, List.length_cons, Bytes.toLE_length]

/-- A payload of whole words, below `2 ^ 26` bytes, is encoded to a frame that carries it. -/
lemma encodePacket_cut {c payload} (words : 4 ∣ payload.length) (fits : payload.length < 2 ^ 26)
    (t : List UInt8) :
    layout.cut ((encodePacket c payload).1 ++ t) =
      .frame payload (encodePacket c payload).1.length := by
  have count : (payload.length + 3) / 4 % 2 ^ 24 * 4 = payload.length := by omega
  have ht := total_wordsHeader ((payload.length + 3) / 4) (payload ++ t)
  have hl := headerLen_wordsHeader ((payload.length + 3) / 4) payload
  rw [count] at ht
  rw [encodePacket, List.append_assoc, List.length_append]
  apply LengthPrefixed.cut_ok
  · rw [layout_total, ht, Option.map_some]
  · simp only [List.length_append]
    omega
  · rw [← List.append_assoc, ← List.length_append, List.take_left, layout_unpack, hl,
      List.drop_left]

/-! ## Synchronisation -/

/-- No frame is bad. -/
lemma cut_ne_bad {s e} : layout.cut s ≠ .bad e := by
  intro bad
  rcases LengthPrefixed.cut_bad_inv bad with ht | ⟨n, -, -, he⟩
  · rw [layout_total, Option.map_eq_some_iff] at ht
    obtain ⟨_, -, he⟩ := ht
    cases he
  · cases he

/-- The format has no errors, so a call always returns the complete frames. -/
lemma decodePackets_spec (c data) :
    ∃ ps r, layout.format.Parses (c.buffer ++ data) ps r ∧ layout.cut r = .more ∧
      decodePackets c data = (.ok ps, ⟨r⟩) := by
  obtain ⟨ps, r, h, more⟩ := Format.exists_parse_more (F := layout.format) (s := c.buffer ++ data)
    fun _ _ _ _ => cut_ne_bad
  have call := cuts.decode_more .endlessLoop (c := c) h more
  rw [Function.iterate_id] at call
  exact ⟨ps, r, h, more, call⟩

/-- A fresh decoder fed the frame of `payload` and `s` takes its first packet from exactly the
    frame, goes on with `s` as if it had been fed `s` alone, and the packet is `payload` but for at
    most three more bytes. -/
def TakesFrameOf (payload s : List UInt8) : Prop :=
  let frame := (encodePacket {} payload).1
  ∃ p ps c',
    turn ⟨frame ++ s⟩ 0 = .emit p frame.length ⟨frame ++ s⟩ ∧
    decodePackets {} (frame ++ s) = (.ok (p :: ps), c') ∧
    decodePackets {} s = (.ok ps, c') ∧
    payload <+: p ∧ p.length ≤ payload.length + 3

/-- The frame is as long as its header announces for whole words only. -/
lemma total_encodePacket_iff {payload} (fits : payload.length < 2 ^ 26) (t : List UInt8) :
    total ((encodePacket {} payload).1 ++ t) = some (encodePacket {} payload).1.length ↔
      4 ∣ payload.length := by
  rw [encodePacket, List.append_assoc, total_wordsHeader, List.length_append, Option.some_inj]
  omega

/-- A frame that is taken has the announced size. -/
lemma total_of_emit {buffer p n c'} (taken : turn ⟨buffer⟩ 0 = .emit p n c') :
    total buffer = some n := by
  rw [turn_eq, List.drop_zero] at taken
  cases hc : layout.cut buffer with
  | more | bad e =>
    rw [hc] at taken
    cases taken
  | frame q m =>
    rw [hc] at taken
    simp only [Cut.toTurn, Turn.emit.injEq, Nat.zero_add] at taken
    obtain ⟨ht, -⟩ := LengthPrefixed.cut_frame_inv hc
    rw [layout_total, Option.map_eq_some_iff] at ht
    obtain ⟨k, ht, hk⟩ := ht
    cases hk
    rw [ht, taken.2.1]

/-- Whole words that fit are taken off the stream as one frame. -/
lemma takesFrameOf_of_dvd {payload} (words : 4 ∣ payload.length) (fits : payload.length < 2 ^ 26)
    (s : List UInt8) : TakesFrameOf payload s := by
  have hc := encodePacket_cut (c := {}) words fits s
  obtain ⟨ps, r, h, more, call⟩ := decodePackets_spec {} s
  have parse : layout.format.Parses ((encodePacket {} payload).1 ++ s) (payload :: ps) r := by
    refine .frame hc ?_
    rwa [List.drop_left]
  have both := cuts.decode_more .endlessLoop (c := {}) parse more
  rw [Function.iterate_id] at both
  refine ⟨payload, ps, ⟨r⟩, ?_, both, call, List.prefix_rfl, Nat.le_add_right _ _⟩
  rw [turn_eq, List.drop_zero, hc, Cut.toTurn, Nat.zero_add]

/-- Abridged framing stays synchronised for payloads of whole words, and for no others: the header
    counts words rounded up, the body is copied without padding. -/
theorem takesFrameOf_iff (payload s : List UInt8) (fits : payload.length < 2 ^ 26) :
    (TakesFrameOf payload s ↔ 4 ∣ payload.length) ∧
    (total (encodePacket {} payload).1 = some (encodePacket {} payload).1.length ↔
      4 ∣ payload.length) := by
  refine ⟨⟨?_, fun words => takesFrameOf_of_dvd words fits s⟩, ?_⟩
  · rintro ⟨p, ps, c', taken, -⟩
    exact (total_encodePacket_iff fits s).mp (total_of_emit taken)
  · have h := total_encodePacket_iff fits []
    rwa [List.append_nil] at h

/-- A payload of eight bytes in front of the start of another frame. -/
theorem takesFrameOf_iff_aligned : TakesFrameOf [1, 2, 3, 4, 5, 6, 7, 8] [0x7f, 0xff] :=
  (takesFrameOf_iff [1, 2, 3, 4, 5, 6, 7, 8] [0x7f, 0xff] (by decide)).1.mpr (by decide)

/-- A payload of one byte swallows three bytes of what follows. -/
theorem one_byte_swallows_three :
    ¬ TakesFrameOf [0xaa] [1, 2, 3, 4] ∧
    decodePackets {} ((encodePacket {} [0xaa]).1 ++ [1, 2, 3, 4]) =
      (.ok [[0xaa, 1, 2, 3]], ⟨[4]⟩) := by
  refine ⟨?_, rfl⟩
  rintro ⟨p, ps, c', taken, -⟩
  have there : turn ⟨[1, 0xaa, 1, 2, 3, 4]⟩ 0 =
      .emit [0xaa, 1, 2, 3] 5 ⟨[1, 0xaa, 1, 2, 3, 4]⟩ := rfl
  cases there.symm.trans taken

end AbridgedCodec

end CppGram.Transport
