import CppGram.Transport.Abridged
import CppGram.Transport.Full
import CppGram.Transport.Intermediate

/-!
# The framing round trip

What a fresh encoder puts on the stream is what a fresh decoder of the same kind takes off it,
however the stream is cut into chunks. `CodecFormat` is what the three codecs have in common: a
decoder loop that implements a length-prefixed format and an encoder that makes its frames.
`CodecFormat.decodeAll_frames` is the round trip for any such codec, `CodecFormat.decode_frames`
what one call makes of a chunk of whole frames, and `framing_round_trip` the result for the three
codecs.
-/

namespace CppGram.Transport
open Framing

/-- The decoder of a codec implements a length-prefixed format, and its encoder makes a frame of
    that format from every payload that fits. -/
structure CodecFormat (κ : Type) [ITransportCodec κ] (fits : List UInt8 → Prop) where
  L : LengthPrefixed UInt8 (List UInt8) Fault
  buf : Buffer κ UInt8
  turn : CodecTurn κ
  tick : κ → κ
  cuts : Cuts L.format buf turn tick
  loops : ∀ c d, ITransportCodec.decodePackets c d = decodeStream buf turn c d
  nothing : L.cut [] = .more
  encodes : ∀ (c : κ) p, fits p → ∀ t, L.cut ((ITransportCodec.encodePacket c p).1 ++ t) =
    .frame p (ITransportCodec.encodePacket c p).1.length

namespace CodecFormat

variable {κ : Type} [ITransportCodec κ] {fits : List UInt8 → Prop} (F : CodecFormat κ fits)

/-- The frames of payloads are cut out one by one, with nothing left. -/
lemma parses_encodeAll (c : κ) {payloads : List (List UInt8)} (fit : ∀ p ∈ payloads, fits p) :
    F.L.format.Parses (encodeAll c payloads).1.flatten payloads [] := by
  have carry : List.Forall₂ (fun f p => ∀ t, F.L.format.cut (f ++ t) = .frame p f.length)
      (encodeAll c payloads).1 payloads := by
    induction payloads generalizing c with
    | nil => exact .nil
    | cons p payloads ih =>
      refine .cons (F.encodes c p (fit p (.head _))) ?_
      exact ih _ fun q hq => fit q (.tail _ hq)
  have parse := Format.parses_of_frames carry []
  rwa [List.append_nil] at parse

/-- A decoder with nothing in its buffer returns the payloads of a chunk of whole frames and has
    nothing in its buffer again. -/
lemma decode_frames {c e : κ} {payloads : List (List UInt8)} (fresh : F.buf.get c = [])
    (fit : ∀ p ∈ payloads, fits p) :
    ITransportCodec.decodePackets c (encodeAll e payloads).1.flatten =
      (.ok payloads, F.buf.set (F.tick^[payloads.length] c) []) := by
  rw [F.loops]
  have parse : F.L.format.Parses (F.buf.get c ++ (encodeAll e payloads).1.flatten) payloads [] := by
    rw [fresh]
    exact F.parses_encodeAll e fit
  exact F.cuts.decode_more .endlessLoop parse F.nothing

/-- A decoder with nothing in its buffer that is fed the frames of some payloads, in any chunks,
    returns these payloads and has nothing in its buffer again. -/
lemma decodeAll_frames {c e : κ} {payloads chunks : List (List UInt8)}
    (fresh : F.buf.get c = []) (fit : ∀ p ∈ payloads, fits p)
    (cut : chunks.flatten = (encodeAll e payloads).1.flatten) :
    decodeAll c chunks = (payloads, none, F.buf.set (F.tick^[payloads.length] c) []) := by
  have parse := F.parses_encodeAll e fit
  rw [← cut] at parse
  have run := F.cuts.feedAll_eq .endlessLoop (c := c)
    (by rw [fresh]; exact F.nothing) (by rw [fresh]; exact parse) F.nothing
  rw [decodeAll, ← run]
  congr
  funext c d
  exact F.loops c d

end CodecFormat

/-- The payloads that the abridged format can carry. -/
def AbridgedCodec.Admissible (payload : List UInt8) : Prop :=
  4 ∣ payload.length ∧ payload.length < 2 ^ 26

/-- The payloads that the intermediate format can carry. -/
def IntermediateCodec.Admissible (payload : List UInt8) : Prop :=
  payload.length ≤ 2 ^ 32 - 5

/-- The payloads that the full format can carry. -/
def FullCodec.Admissible (payload : List UInt8) : Prop :=
  payload.length + 12 ≤ 16 * 1024 * 1024

instance : DecidablePred AbridgedCodec.Admissible := fun _ => instDecidableAnd

instance : DecidablePred IntermediateCodec.Admissible := fun _ => Nat.decLe _ _

instance : DecidablePred FullCodec.Admissible := fun _ => Nat.decLe _ _

/-- What the round trip needs of the abridged codec. -/
def AbridgedCodec.codecFormat : CodecFormat AbridgedCodec AbridgedCodec.Admissible where
  L := layout
  buf := buf
  turn := turn
  tick := id
  cuts := cuts
  loops _ _ := rfl
  nothing := rfl
  encodes _ _ fit := encodePacket_cut fit.1 fit.2

/-- What it needs of the intermediate codec. -/
def IntermediateCodec.codecFormat :
    CodecFormat IntermediateCodec IntermediateCodec.Admissible where
  L := layout
  buf := buf
  turn := turn
  tick := id
  cuts := cuts
  loops _ _ := rfl
  nothing := rfl
  encodes _ _ fit := encodePacket_cut fit

/-- What it needs of the full codec. -/
def FullCodec.codecFormat : CodecFormat FullCodec FullCodec.Admissible where
  L := layout
  buf := buf
  turn := turn
  tick := tick
  cuts := cuts
  loops _ _ := rfl
  nothing := rfl
  encodes _ _ fit := encodePacket_cut fit

/-- The codec has counted the payloads. -/
lemma FullCodec.encodeAll_outSeqNo {c : FullCodec} {payloads : List (List UInt8)} :
    (encodeAll c payloads).2.outSeqNo = c.outSeqNo + UInt32.ofNat payloads.length := by
  induction payloads generalizing c with
  | nil => exact (UInt32.add_zero _).symm
  | cons p payloads ih =>
    rw [List.length_cons, UInt32.ofNat_add, UInt32.add_comm (UInt32.ofNat _), ← UInt32.add_assoc]
    exact ih

/-- Framing round trip under any fragmentation, for the three codecs. -/
theorem framing_round_trip :
    (∀ payloads chunks : List (List UInt8),
      (∀ p ∈ payloads, 4 ∣ p.length ∧ p.length < 2 ^ 26) →
      chunks.flatten = (encodeAll ({} : AbridgedCodec) payloads).1.flatten →
      decodeAll ({} : AbridgedCodec) chunks = (payloads, none, { buffer := [] })) ∧
    (∀ payloads chunks : List (List UInt8),
      (∀ p ∈ payloads, p.length ≤ 2 ^ 32 - 5) →
      chunks.flatten = (encodeAll ({} : IntermediateCodec) payloads).1.flatten →
      decodeAll ({} : IntermediateCodec) chunks = (payloads, none, { buffer := [] })) ∧
    (∀ payloads chunks : List (List UInt8),
      (∀ p ∈ payloads, p.length + 12 ≤ 16 * 1024 * 1024) →
      chunks.flatten = (encodeAll ({} : FullCodec) payloads).1.flatten →
      (encodeAll ({} : FullCodec) payloads).2.outSeqNo = UInt32.ofNat payloads.length ∧
      decodeAll ({} : FullCodec) chunks =
        (payloads, none,
          { outSeqNo := 0, inSeqNo := UInt32.ofNat payloads.length, buffer := [] })) := by
  refine ⟨?_, ?_, ?_⟩
  · intro payloads chunks fit cut
    exact AbridgedCodec.codecFormat.decodeAll_frames rfl fit cut
  · intro payloads chunks fit cut
    exact IntermediateCodec.codecFormat.decodeAll_frames rfl fit cut
  · intro payloads chunks fit cut
    have run := FullCodec.codecFormat.decodeAll_frames (c := ({} : FullCodec)) rfl fit cut
    refine ⟨?_, ?_⟩
    · rw [FullCodec.encodeAll_outSeqNo]
      exact UInt32.zero_add _
    · rw [run, FullCodec.codecFormat, FullCodec.iterate_tick,
        show ({} : FullCodec).inSeqNo = 0 from rfl, UInt32.zero_add]
      rfl

/-- Two packets of the full codec, one of them empty, cut inside the first size word. -/
theorem framing_round_trip_fragmented :
    decodeAll ({} : FullCodec)
      [(encodeAll ({} : FullCodec) [[7], []]).1.flatten.take 2, [],
        (encodeAll ({} : FullCodec) [[7], []]).1.flatten.drop 2] =
      ([[7], []], none, { outSeqNo := 0, inSeqNo := 2, buffer := [] }) := by
  refine (framing_round_trip.2.2 [[7], []] _ ?_ ?_).2
  · intro p hp
    rcases List.mem_pair.mp hp with rfl | rfl <;> decide
  · simp only [List.flatten_cons, List.flatten_nil, List.nil_append, List.append_nil,
      List.take_append_drop]

end CppGram.Transport
