import CppGram.Transport.RoundTrip

/-!
# Codecs by protocol

`create_transport_codec` (C++ `transport.cpp`) gives out a codec behind the interface. Which one it
is shows only in what it does, so the framing round trip is stated here once for all protocols
(`createTransportCodec_round_trip`), for the payloads that every framing can carry.
-/

namespace CppGram.Transport

/-- What a `std::unique_ptr<ITransportCodec>` of `create_transport_codec` points to. -/
inductive TransportCodec where
  | abridged (codec : AbridgedCodec)
  | intermediate (codec : IntermediateCodec)
  | full (codec : FullCodec)
  deriving DecidableEq, Repr

namespace TransportCodec

/-- The header of the codec inside. -/
def getHeader : TransportCodec → List UInt8
  | .abridged codec => codec.getHeader
  | .intermediate codec => codec.getHeader
  | .full codec => codec.getHeader

/-- Encodes with the codec inside. -/
def encodePacket (c : TransportCodec) (data : List UInt8) : List UInt8 × TransportCodec :=
  match c with
  | .abridged codec => (codec.encodePacket data).map id .abridged
  | .intermediate codec => (codec.encodePacket data).map id .intermediate
  | .full codec => (codec.encodePacket data).map id .full

/-- Decodes with the codec inside. -/
def decodePackets (c : TransportCodec) (data : List UInt8) :
    Except Fault (List (List UInt8)) × TransportCodec :=
  match c with
  | .abridged codec => (codec.decodePackets data).map id .abridged
  | .intermediate codec => (codec.decodePackets data).map id .intermediate
  | .full codec => (codec.decodePackets data).map id .full

/-- Resets the codec inside. -/
def reset : TransportCodec → TransportCodec
  | .abridged codec => .abridged codec.reset
  | .intermediate codec => .intermediate codec.reset
  | .full codec => .full codec.reset

instance : ITransportCodec TransportCodec where
  getHeader := getHeader
  encodePacket := encodePacket
  decodePackets := decodePackets
  reset := reset

lemma passesOn_abridged : PassesOn abridged := ⟨fun _ _ => rfl, fun _ _ => rfl⟩

lemma passesOn_intermediate : PassesOn intermediate := ⟨fun _ _ => rfl, fun _ _ => rfl⟩

lemma passesOn_full : PassesOn full := ⟨fun _ _ => rfl, fun _ _ => rfl⟩

end TransportCodec

/-- `create_transport_codec`. -/
def createTransportCodec : TransportProtocol → TransportCodec
  | .Abridged => .abridged {}
  | .Intermediate | .PaddedIntermediate => .intermediate {}
  | .Full => .full {}

/-- A payload that every framing carries: whole words, and within the limit of the full codec. -/
def Admissible (payload : List UInt8) : Prop := 4 ∣ payload.length ∧ FullCodec.Admissible payload

/-- What every codec carries is carried by the abridged one. -/
lemma Admissible.abridged {payload} (h : Admissible payload) :
    AbridgedCodec.Admissible payload := by
  obtain ⟨words, fits⟩ := h
  rw [FullCodec.Admissible] at fits
  exact ⟨words, by omega⟩

/-- What every codec carries is carried by the intermediate one. -/
lemma Admissible.intermediate {payload} (h : Admissible payload) :
    IntermediateCodec.Admissible payload := by
  obtain ⟨-, fits⟩ := h
  rw [FullCodec.Admissible] at fits
  rw [IntermediateCodec.Admissible]
  omega

/-- The round trip of a codec is that of every pointer to it. -/
lemma PassesOn.round_trip {κ κ' : Type} [ITransportCodec κ] [ITransportCodec κ'] {f : κ → κ'}
    {fits : List UInt8 → Prop} (h : PassesOn f) (F : CodecFormat κ fits) {c : κ} {payloads chunks}
    (fresh : F.buf.get c = []) (fit : ∀ p ∈ payloads, fits p)
    (cut : chunks.flatten = (encodeAll (f c) payloads).1.flatten) :
    ∃ codec, decodeAll (f c) chunks = (payloads, none, codec) := by
  rw [h.encodeAll_eq] at cut
  rw [h.decodeAll_eq, F.decodeAll_frames fresh fit cut]
  exact ⟨_, rfl⟩

/-- What a new codec of a protocol encodes, another new codec of the protocol decodes, however the
    stream is cut. -/
theorem createTransportCodec_round_trip (proto : TransportProtocol) {payloads chunks}
    (fit : ∀ p ∈ payloads, Admissible p)
    (cut : chunks.flatten = (encodeAll (createTransportCodec proto) payloads).1.flatten) :
    ∃ codec, decodeAll (createTransportCodec proto) chunks = (payloads, none, codec) := by
  cases proto with
  | Abridged =>
    exact TransportCodec.passesOn_abridged.round_trip AbridgedCodec.codecFormat rfl
      (fun p hp => (fit p hp).abridged) cut
  | Intermediate | PaddedIntermediate =>
    exact TransportCodec.passesOn_intermediate.round_trip IntermediateCodec.codecFormat rfl
      (fun p hp => (fit p hp).intermediate) cut
  | Full =>
    exact TransportCodec.passesOn_full.round_trip FullCodec.codecFormat rfl
      (fun p hp => (fit p hp).2) cut

end CppGram.Transport
