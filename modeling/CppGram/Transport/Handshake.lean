import CppGram.Transport.ObfuscatedKeystream
import CppGram.Transport.RoundTrip

/-!
# The handshake header on the wire

The interface has a sender write `get_header()` when it has connected and then the result of
`encode_packet` for each payload, as `MtprotoClient::connect` and `send_encrypted` do. The frames of
the three plain codecs contain no header. `ObfuscatedCodec` gives out its header twice, by
`get_header` and in front of its first packet: `headerOnce_iff` says which senders put it on the wire
once.
-/

namespace CppGram.Transport
open CryptoUtils

/-- What a sender writes on a connection, call by call; `connect` writes no empty header. -/
def writes {κ : Type} [ITransportCodec κ] (c : κ) (payloads : List (List UInt8)) :
    List (List UInt8) :=
  let header := ITransportCodec.getHeader c
  (if header = [] then [] else [header]) ++ (encodeAll c payloads).1

/-- What is written is the header, and then the frames. -/
lemma writes_flatten {κ : Type} [ITransportCodec κ] (c : κ) (payloads : List (List UInt8)) :
    (writes c payloads).flatten =
      ITransportCodec.getHeader c ++ (encodeAll c payloads).1.flatten := by
  rw [writes, List.flatten_append]
  by_cases empty : ITransportCodec.getHeader c = []
  · rw [if_pos empty, empty]
    rfl
  · rw [if_neg empty, List.flatten_singleton]

/-! ## The frames of each codec -/

/-- A frame of the abridged format: the number of words and the payload. -/
def AbridgedCodec.frame (payload : List UInt8) : List UInt8 :=
  wordsHeader ((payload.length + 3) / 4) ++ payload

/-- A frame of the intermediate format: the number of bytes and the payload. -/
def IntermediateCodec.frame (payload : List UInt8) : List UInt8 :=
  bytes32 payload.length.toUInt32 ++ payload

/-- A frame of the full format: length, sequence number, payload and the CRC32 of them. -/
def FullCodec.frame (seq : UInt32) (payload : List UInt8) : List UInt8 :=
  unsigned seq payload ++ bytes32 (computeCrc32 (unsigned seq payload))

/-- The frames of successive sequence numbers. -/
def FullCodec.framesFrom : UInt32 → List (List UInt8) → List (List UInt8)
  | _, [] => []
  | seq, payload :: payloads => frame seq payload :: framesFrom (seq + 1) payloads

/-- The implementations of `ITransportCodec`; `κ` is the type of the codec inside of an obfuscated
    one. -/
inductive Implementation (ctr : Keystream) (κ : Type) where
  | abridged (codec : AbridgedCodec)
  | intermediate (codec : IntermediateCodec)
  | full (codec : FullCodec)
  | obfuscated (codec : ObfuscatedCodec ctr κ)

namespace Implementation

variable {ctr : Keystream} {κ : Type} [ITransportCodec κ]

/-- What a sender with this codec writes. -/
def writes (c : Implementation ctr κ) (payloads : List (List UInt8)) : List (List UInt8) :=
  match c with
  | abridged codec => Transport.writes codec payloads
  | intermediate codec => Transport.writes codec payloads
  | full codec => Transport.writes codec payloads
  | obfuscated codec => Transport.writes codec payloads

/-- The handshake header of the codec. -/
def header : Implementation ctr κ → List UInt8
  | abridged codec => codec.getHeader
  | intermediate codec => codec.getHeader
  | full codec => codec.getHeader
  | obfuscated codec => codec.getHeader

/-- One frame for each payload, and nothing else. An obfuscated codec encrypts the frames of the codec
    inside of it; without one there are none. -/
def frames (c : Implementation ctr κ) (payloads : List (List UInt8)) : List (List UInt8) :=
  match c with
  | abridged _ => payloads.map AbridgedCodec.frame
  | intermediate _ => payloads.map IntermediateCodec.frame
  | full codec => FullCodec.framesFrom codec.outSeqNo payloads
  | obfuscated codec =>
    (ObfuscatedCodec.frames codec.innerCodec payloads).map (aesCtr ctr codec.encKey codec.encIv)

/-- The wire carries the header, followed by exactly one frame for each payload. -/
def HeaderOnce (c : Implementation ctr κ) (payloads : List (List UInt8)) : Prop :=
  (c.frames payloads).length = payloads.length ∧
  (c.writes payloads).flatten = c.header ++ (c.frames payloads).flatten

/-- No obfuscated codec that has yet to send its header, or that has no codec inside. -/
def HeaderSettled : Implementation ctr κ → Prop
  | obfuscated codec => codec.innerCodec.isSome ∧ codec.handshakeSent = true
  | _ => True

end Implementation

/-- There is a frame for each payload. -/
lemma encodeAll_length {κ : Type} [ITransportCodec κ] (c : κ) (payloads : List (List UInt8)) :
    (encodeAll c payloads).1.length = payloads.length := by
  induction payloads generalizing c with
  | nil => rfl
  | cons p payloads ih =>
    have rest := ih (ITransportCodec.encodePacket c p).2
    exact congrArg (· + 1) rest

/-- A codec that stays as it is writes one frame after the other. -/
lemma encodeAll_map {κ : Type} [ITransportCodec κ] {c : κ} {frame : List UInt8 → List UInt8}
    (plain : ∀ p, ITransportCodec.encodePacket c p = (frame p, c)) (payloads : List (List UInt8)) :
    (encodeAll c payloads).1 = payloads.map frame := by
  induction payloads with
  | nil => rfl
  | cons p payloads ih =>
    have rest : (encodeAll c (p :: payloads)).1 =
        (ITransportCodec.encodePacket c p).1 ::
          (encodeAll (ITransportCodec.encodePacket c p).2 payloads).1 := rfl
    rw [rest, plain, ih, List.map_cons]

/-- The plain codecs, one payload at a time: a frame, and no header. -/
lemma AbridgedCodec.encodeAll_eq (c : AbridgedCodec) (payloads : List (List UInt8)) :
    (encodeAll c payloads).1 = payloads.map frame :=
  encodeAll_map (fun _ => rfl) payloads

lemma IntermediateCodec.encodeAll_eq (c : IntermediateCodec) (payloads : List (List UInt8)) :
    (encodeAll c payloads).1 = payloads.map frame :=
  encodeAll_map (fun _ => rfl) payloads

/-- The full codec numbers its frames. -/
lemma FullCodec.encodeAll_eq (c : FullCodec) (payloads : List (List UInt8)) :
    (encodeAll c payloads).1 = framesFrom c.outSeqNo payloads := by
  induction payloads generalizing c with
  | nil => rfl
  | cons p payloads ih =>
    exact congrArg (frame c.outSeqNo p :: ·) (ih { c with outSeqNo := c.outSeqNo + 1 })

/-- There is a number for each payload. -/
lemma FullCodec.framesFrom_length (seq : UInt32) (payloads : List (List UInt8)) :
    (framesFrom seq payloads).length = payloads.length := by
  induction payloads generalizing seq with
  | nil => rfl
  | cons p payloads ih => exact congrArg (· + 1) (ih (seq + 1))

namespace ObfuscatedCodec

lemma getHeader_length {ctr : Keystream} {κ : Type} (c : ObfuscatedCodec ctr κ) :
    c.getHeader.length = 64 :=
  c.handshakeHeader.length_eq

variable {ctr : Keystream} {κ : Type} [ITransportCodec κ]

/-- The first packet of a codec that has yet to send its header: the header, and then what is emitted
    once it is sent. -/
lemma encodeAll_unsent {c : ObfuscatedCodec ctr κ} {inner : κ} (has : c.innerCodec = some inner)
    (unsent : c.handshakeSent = false) (p : List UInt8) (payloads : List (List UInt8)) :
    (encodeAll c (p :: payloads)).1.flatten = c.getHeader ++
      ((encodeAll inner (p :: payloads)).1.map (aesCtr ctr c.encKey c.encIv)).flatten := by
  have first : encodePacket c p =
      (c.handshakeHeader.toList ++ aesCtr ctr c.encKey c.encIv
        (ITransportCodec.encodePacket inner p).1,
      { c with
        innerCodec := some (ITransportCodec.encodePacket inner p).2
        handshakeSent := true }) := by
    simp only [encodePacket, has, unsent, Bool.false_eq_true, if_false]
  change ((encodePacket c p).1 :: (encodeAll (encodePacket c p).2 payloads).1).flatten = _
  rw [first, encodeAll_sent payloads rfl rfl, List.flatten_cons, List.append_assoc]
  rfl

/-- The header goes out once exactly when nothing is sent behind it, or it had gone out before. -/
lemma obfuscated_headerOnce (c : ObfuscatedCodec ctr κ) (payloads : List (List UInt8)) :
    (Implementation.obfuscated c).HeaderOnce payloads ↔
      payloads = [] ∨ c.innerCodec.isSome ∧ c.handshakeSent = true := by
  have written : ((Implementation.obfuscated c).writes payloads).flatten =
      c.getHeader ++ (encodeAll c payloads).1.flatten := writes_flatten c payloads
  have carried : (Implementation.obfuscated c).header = c.getHeader := rfl
  cases payloads with
  | nil =>
    have nothing : (Implementation.obfuscated c).frames [] = [] := by
      rw [Implementation.frames]
      cases c.innerCodec <;> rfl
    have alone : (Implementation.obfuscated c).HeaderOnce [] := by
      rw [Implementation.HeaderOnce, nothing, written, carried]
      exact ⟨rfl, rfl⟩
    exact ⟨fun _ => .inl rfl, fun _ => alone⟩
  | cons p payloads =>
    have some_payload : p :: payloads ≠ [] := List.cons_ne_nil p payloads
    cases has : c.innerCodec with
    | none =>
      refine ⟨fun ⟨count, _⟩ => ?_, fun h => ?_⟩
      · rw [Implementation.frames, has] at count
        cases count
      · rcases h with empty | ⟨inside, -⟩
        · exact absurd empty some_payload
        · cases inside
    | some inner =>
      have count : ((Implementation.obfuscated c).frames (p :: payloads)).length =
          (p :: payloads).length := by
        rw [Implementation.frames, has, List.length_map]
        exact encodeAll_length inner (p :: payloads)
      have framed : (Implementation.obfuscated c).frames (p :: payloads) =
          (encodeAll inner (p :: payloads)).1.map (aesCtr ctr c.encKey c.encIv) := by
        rw [Implementation.frames, has]
        rfl
      cases sent : c.handshakeSent with
      | true =>
        refine ⟨fun _ => .inr ⟨rfl, rfl⟩, fun _ => ⟨count, ?_⟩⟩
        rw [written, carried, framed, encodeAll_sent (p :: payloads) has sent]
      | false =>
        refine ⟨fun ⟨_, wire⟩ => ?_, fun h => ?_⟩
        · -- the header in front of the first packet makes the wire 64 bytes too long
          rw [written, carried, framed, encodeAll_unsent has sent, List.append_right_inj] at wire
          have longer := congrArg List.length wire
          rw [List.length_append, getHeader_length] at longer
          omega
        · rcases h with empty | ⟨-, already⟩
          · exact absurd empty some_payload
          · cases already

end ObfuscatedCodec

/-- A sender of the interface puts the header on the wire once, and one frame for each payload behind
    it, exactly when it sends no payload or its codec is not an obfuscated one that has yet to send
    its header. -/
theorem headerOnce_iff {ctr : Keystream} {κ : Type} [ITransportCodec κ]
    (c : Implementation ctr κ) (payloads : List (List UInt8)) :
    c.HeaderOnce payloads ↔ payloads = [] ∨ c.HeaderSettled := by
  cases c with
  | abridged codec =>
    refine ⟨fun _ => .inr trivial, fun _ => ⟨List.length_map _, ?_⟩⟩
    exact (writes_flatten codec payloads).trans (by rw [codec.encodeAll_eq]; rfl)
  | intermediate codec =>
    refine ⟨fun _ => .inr trivial, fun _ => ⟨List.length_map _, ?_⟩⟩
    exact (writes_flatten codec payloads).trans (by rw [codec.encodeAll_eq]; rfl)
  | full codec =>
    refine ⟨fun _ => .inr trivial, fun _ => ⟨FullCodec.framesFrom_length _ _, ?_⟩⟩
    exact (writes_flatten codec payloads).trans (by rw [codec.encodeAll_eq]; rfl)
  | obfuscated codec => exact codec.obfuscated_headerOnce payloads

/-- A new obfuscated codec over the intermediate one sends its header twice with its first packet. -/
theorem new_codec_header_twice :
    ∃ c : ObfuscatedCodec referenceCtr IntermediateCodec,
      ObfuscatedCodec.new (some {}) .Intermediate [⟨List.replicate 64 1, rfl⟩] = some c ∧
      ((Implementation.obfuscated c).writes [[1, 2, 3, 4]]).flatten =
        c.getHeader ++ (c.getHeader ++
          ((Implementation.obfuscated c).frames [[1, 2, 3, 4]]).flatten) ∧
      ¬ (Implementation.obfuscated c).HeaderOnce [[1, 2, 3, 4]] := by
  refine ⟨.setKeys (some {}) .Intermediate ⟨List.replicate 64 1, rfl⟩, rfl, ?_, ?_⟩
  · exact (writes_flatten _ _).trans (congrArg _ (ObfuscatedCodec.encodeAll_unsent rfl rfl _ _))
  · rw [ObfuscatedCodec.obfuscated_headerOnce]
    rintro (empty | ⟨-, already⟩)
    · cases empty
    · cases already

end CppGram.Transport
