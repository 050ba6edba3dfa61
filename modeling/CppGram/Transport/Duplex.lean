import CppGram.Transport.Factory

/-!
# Both directions of a codec

One codec encodes what is sent and decodes what is received. `sending` and `receiving` are what each
direction needs of it: an `encode_packet` call is determined by the one and leaves the other alone,
and the other way round for `decode_packets`. So calls for one direction may come between calls for
the other.
-/

namespace CppGram.Transport
open Framing

/-! ## The counter of the full codec -/

namespace FullCodec

/-- The codec with another number for what goes out. -/
def numbered (n : UInt32) (c : FullCodec) : FullCodec := { c with outSeqNo := n }

/-- The number has no part in what is emitted. -/
lemma emitSpan_numbered (n : UInt32) (c : FullCodec) (b : List UInt8) (start len next : Nat) :
    emitSpan (c.numbered n) b start len next = (emitSpan c b start len next).map (numbered n) := by
  rw [emitSpan, emitSpan]
  cases Bytes.readSpan b start len with
  | none => rfl
  | some packet => rfl

/-- The number has no part in a turn of the loop. -/
lemma turn_numbered (n : UInt32) (c : FullCodec) (offset : Nat) :
    turn (c.numbered n) offset = (turn c offset).map (numbered n) := by
  obtain ⟨outSeqNo, inSeqNo, buffer⟩ := c
  have takes (totalLen) : takeFrame ⟨n, inSeqNo, buffer⟩ offset totalLen =
      (takeFrame ⟨outSeqNo, inSeqNo, buffer⟩ offset totalLen).map (numbered n) := by
    simp only [takeFrame]
    split
    · rfl
    · split
      · rfl
      · split
        · rfl
        · exact emitSpan_numbered n ⟨outSeqNo, inSeqNo + 1, buffer⟩ _ _ _ _
  change turn ⟨n, inSeqNo, buffer⟩ offset = _
  simp only [turn]
  split
  · exact takes _
  · rfl

/-- The number has no part in decoding. -/
lemma decodePackets_numbered (n : UInt32) (c : FullCodec) (data : List UInt8) :
    (c.numbered n).decodePackets data =
      ((c.decodePackets data).1, (c.decodePackets data).2.numbered n) :=
  decode_map (f := numbered n) (fun _ => rfl) (fun _ _ => rfl) (turn_numbered n) _ c data

/-- Decoding leaves the number alone. -/
lemma decodePackets_outSeqNo (c : FullCodec) (data : List UInt8) :
    (c.decodePackets data).2.outSeqNo = c.outSeqNo := by
  have same := decodePackets_numbered c.outSeqNo c data
  rw [show c.numbered c.outSeqNo = c from rfl] at same
  exact (congrArg (fun x => x.2.outSeqNo) same).trans rfl

end FullCodec

/-! ## The directions -/

namespace TransportCodec

/-- What `encode_packet` needs of a codec. -/
def sending : TransportCodec → TransportCodec
  | .abridged _ => .abridged {}
  | .intermediate _ => .intermediate {}
  | .full codec => .full { outSeqNo := codec.outSeqNo }

/-- What `decode_packets` needs of it. -/
def receiving : TransportCodec → TransportCodec
  | .abridged codec => .abridged codec
  | .intermediate codec => .intermediate codec
  | .full codec => .full (codec.numbered 0)

/-- To encode takes the sending half of a codec only. -/
lemma encode_sending (c : TransportCodec) (data : List UInt8) :
    (c.encodePacket data).1 = (c.sending.encodePacket data).1 ∧
      (c.encodePacket data).2.sending = (c.sending.encodePacket data).2 := by
  cases c with
  | abridged codec | intermediate codec | full codec => exact ⟨rfl, rfl⟩

/-- To encode leaves the receiving half of a codec alone. -/
lemma encode_receiving (c : TransportCodec) (data : List UInt8) :
    (c.encodePacket data).2.receiving = c.receiving := by
  cases c with
  | abridged codec | intermediate codec | full codec => rfl

/-- To decode takes the receiving half of a codec only. -/
lemma decode_receiving (c : TransportCodec) (data : List UInt8) :
    c.receiving.decodePackets data =
      ((c.decodePackets data).1, (c.decodePackets data).2.receiving) := by
  cases c with
  | abridged codec | intermediate codec => rfl
  | full codec =>
    rw [receiving, decodePackets, FullCodec.decodePackets_numbered]
    rfl

/-- To decode leaves the sending half of a codec alone. -/
lemma decode_sending (c : TransportCodec) (data : List UInt8) :
    (c.decodePackets data).2.sending = c.sending := by
  cases c with
  | abridged codec | intermediate codec => rfl
  | full codec =>
    have same := codec.decodePackets_outSeqNo data
    simp only [decodePackets, sending, Prod.map, same]

end TransportCodec

/-- The sending half of a new codec is a new codec. -/
lemma createTransportCodec_sending (proto : TransportProtocol) :
    (createTransportCodec proto).sending = createTransportCodec proto := by
  cases proto with
  | Abridged | Intermediate | PaddedIntermediate | Full => rfl

/-- The receiving half of a new codec is a new codec. -/
lemma createTransportCodec_receiving (proto : TransportProtocol) :
    (createTransportCodec proto).receiving = createTransportCodec proto := by
  cases proto with
  | Abridged | Intermediate | PaddedIntermediate | Full => rfl

/-- One more payload is encoded where the others have left the codec. -/
lemma encodeAll_concat {κ : Type} [ITransportCodec κ] (c : κ) (payloads payload) :
    encodeAll c (payloads ++ [payload]) =
      ((encodeAll c payloads).1 ++ [(ITransportCodec.encodePacket (encodeAll c payloads).2 payload).1],
        (ITransportCodec.encodePacket (encodeAll c payloads).2 payload).2) := by
  induction payloads generalizing c with
  | nil => rfl
  | cons p payloads ih =>
    simp only [List.cons_append, encodeAll, ih]

end CppGram.Transport
