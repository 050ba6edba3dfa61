import CppGram.Core.Machine
import CppGram.Lib.Framing

/-!
# The codec interface

`ITransportCodec` (C++ `transport.hpp`): what every framing codec of the MTProto transport offers.
An encoder or decoder call is a function of the codec's state; a call that throws returns the state
it leaves behind next to the fault. `encodeAll` and `decodeAll` are the runs the results of the
later modules are about: the frames of a list of payloads, one call after the other, and the packets
returned while chunks of a stream are fed, up to the first fault.
-/

namespace CppGram.Transport
open Framing

/-- C++ `enum class TransportProtocol`. -/
inductive TransportProtocol where
  | Abridged
  | Intermediate
  | PaddedIntermediate
  | Full
  deriving DecidableEq, Repr

/-- A transport codec (C++ `class ITransportCodec`). -/
class ITransportCodec (κ : Type) where
  /-- `get_header`: the handshake bytes sent upon connection. -/
  getHeader : κ → List UInt8
  /-- `encode_packet`: one payload in one frame. -/
  encodePacket : κ → List UInt8 → List UInt8 × κ
  /-- `decode_packets`: feed a chunk, take out the completed payloads. -/
  decodePackets : κ → List UInt8 → Except Fault (List (List UInt8)) × κ
  /-- `reset`: drop partial packets and restart the counters. -/
  reset : κ → κ

section
variable {κ : Type} [ITransportCodec κ]

/-- The frames of successive `encode_packet` calls. -/
def encodeAll : κ → List (List UInt8) → List (List UInt8) × κ
  | c, [] => ([], c)
  | c, payload :: payloads =>
    let (frame, c') := ITransportCodec.encodePacket c payload
    let (frames, c'') := encodeAll c' payloads
    (frame :: frames, c'')

/-- Successive `decode_packets` calls: the packets returned before the first fault, that fault, and
    the codec that is left. -/
def decodeAll (c : κ) (chunks : List (List UInt8)) : List (List UInt8) × Option Fault × κ :=
  feedAll ITransportCodec.decodePackets c chunks

end

/-- A codec behind an interface pointer: `f` holds a `κ` and passes the calls on to it. -/
structure PassesOn {κ κ' : Type} [ITransportCodec κ] [ITransportCodec κ'] (f : κ → κ') : Prop where
  encode : ∀ c p, ITransportCodec.encodePacket (f c) p =
    ((ITransportCodec.encodePacket c p).1, f (ITransportCodec.encodePacket c p).2)
  decode : ∀ c d, ITransportCodec.decodePackets (f c) d =
    ((ITransportCodec.decodePackets c d).1, f (ITransportCodec.decodePackets c d).2)

namespace PassesOn

variable {κ κ' : Type} [ITransportCodec κ] [ITransportCodec κ'] {f : κ → κ'}

/-- Payloads are encoded as by the codec inside. -/
lemma encodeAll_eq (h : PassesOn f) (c : κ) (payloads) :
    encodeAll (f c) payloads = ((encodeAll c payloads).1, f (encodeAll c payloads).2) := by
  induction payloads generalizing c with
  | nil => rfl
  | cons p payloads ih =>
    simp only [encodeAll, h.encode, ih]

/-- Chunks are decoded as by the codec inside. -/
lemma decodeAll_eq (h : PassesOn f) (c : κ) (chunks) :
    decodeAll (f c) chunks =
      ((decodeAll c chunks).1, (decodeAll c chunks).2.1, f (decodeAll c chunks).2.2) := by
  induction chunks generalizing c with
  | nil => rfl
  | cons chunk chunks ih =>
    simp only [decodeAll] at ih
    simp only [decodeAll, feedAll, h.decode]
    cases ITransportCodec.decodePackets c chunk with
    | mk result c' =>
      cases result with
      | error e => rfl
      | ok ps => simp only [ih]

end PassesOn

/-- The decoder loop of a codec, as a C++ `while` over `offset`. -/
abbrev CodecTurn (κ : Type) := κ → Nat → Turn κ (List UInt8) Fault

/-- `buffer_.insert(end, data)`, the `while` loop, and `buffer_.erase(begin, begin + offset)`:
    `decode_packets` of every codec, which differ in one turn of the loop. -/
def decodeStream {κ : Type} (buffer : Buffer κ UInt8) (turn : CodecTurn κ) (c : κ)
    (data : List UInt8) : Except Fault (List (List UInt8)) × κ :=
  decode buffer turn .endlessLoop c data

/-- `packets.emplace_back(start, start + len)`, which reads `len` bytes of the buffer wherever that
    ends, and `offset = next`. -/
def emitSpan {κ : Type} (c : κ) (buffer : List UInt8) (start len next : Nat) :
    Turn κ (List UInt8) Fault :=
  match Bytes.readSpan buffer start len with
  | some packet => .emit packet next c
  | none => .fail .outOfBounds

/-- A payload that is all there is emitted. -/
lemma emitSpan_eq {κ : Type} {c : κ} {buffer : List UInt8} {offset header len next : Nat}
    (pos : 0 < header) (whole : header + len ≤ (buffer.drop offset).length) :
    emitSpan c buffer (offset + header) len next =
      .emit (Bytes.span (buffer.drop offset) header len) next c := by
  rw [List.length_drop] at whole
  rw [Bytes.span_drop, emitSpan, Bytes.readSpan_of_le (by omega)]

end CppGram.Transport
