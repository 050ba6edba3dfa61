import Mathlib.Data.List.Induction
import CppGram.Transport.Intermediate

/-!
# The intermediate codec on hostile input

`Safe chunks` is what a fresh decoder owes to any bytes a peer may send: every turn of its loop
stays in the buffer, takes a slice of exactly the announced length and moves on by at least a
header, and what it has consumed followed by what it keeps is what it was fed. `safe_iff` says when
`IntermediateCodec::decode_packets` does so: exactly when no length at a frame boundary of the
stream is one of the four that wrap around in `4 + payload_len`.
-/

namespace CppGram.Transport.IntermediateCodec
open Framing

/-- The offsets at which the loop of a call starts a turn. -/
inductive Visits (c : IntermediateCodec) : Nat → Prop where
  | start : Visits c 0
  | next {o p o' c'} :
    Visits c o →
    turn c o = .emit p o' c' →
    Visits c o'

/-- A turn that stays in the buffer: it raises no fault, and a packet it emits is the slice behind a
    header that announces its length, after which the loop goes on by at least a header. -/
structure SafeTurn (c : IntermediateCodec) (o : Nat) : Prop where
  inside : o ≤ c.buffer.length
  no_fault : ∀ f, turn c o ≠ .fail f
  slice : ∀ {p o' c'}, turn c o = .emit p o' c' →
    o + 4 ≤ o' ∧ o' ≤ c.buffer.length ∧
    o + 4 + p.length ≤ c.buffer.length ∧ p = Bytes.span c.buffer (o + 4) p.length ∧
    Bytes.ofLE (Bytes.span c.buffer o 4) = p.length

/-- Each turn of a call is safe. -/
def SafeCall (c : IntermediateCodec) (chunk : List UInt8) : Prop :=
  ∀ o, Visits ⟨c.buffer ++ chunk⟩ o → SafeTurn ⟨c.buffer ++ chunk⟩ o

/-- The frames of some packets, one after the other. -/
def frames (packets : List (List UInt8)) : List UInt8 :=
  (packets.map fun p => (encodePacket {} p).1).flatten

/-- A fresh decoder is safe on these chunks: no call faults, every turn of every call is safe, and
    after every call the frames of the packets returned so far and the buffer are the bytes received
    so far. -/
def Safe (chunks : List (List UInt8)) : Prop :=
  ∀ fed chunk rest, chunks = fed ++ chunk :: rest →
    ∃ ps c qs c',
      decodeAll ({} : IntermediateCodec) fed = (ps, none, c) ∧
      SafeCall c chunk ∧
      decodePackets c chunk = (.ok qs, c') ∧
      frames (ps ++ qs) ++ c'.buffer = (fed ++ [chunk]).flatten

/-- No length at a frame boundary of the stream wraps around: whenever the stream is whole frames
    and then a length, `4 + payload_len` fits in 32 bits. -/
def LengthsFit (s : List UInt8) : Prop :=
  ∀ ps r, (∀ p ∈ ps, p.length ≤ maxPayload) → s = frames ps ++ r → 4 ≤ r.length →
    Bytes.ofLE (r.take 4) ≤ maxPayload

/-! ## The layout -/

/-- A bad frame has a length that wraps. -/
lemma cut_bad_inv {s e} (h : layout.cut s = .bad e) :
    4 ≤ s.length ∧ maxPayload < Bytes.ofLE (s.take 4) := by
  rcases LengthPrefixed.cut_bad_inv h with ht | ⟨n, -, -, he⟩
  · rw [layout_total, total] at ht
    split at ht
    · cases ht
    · split at ht
      · cases ht
      · exact ⟨by omega, by omega⟩
  · cases he

/-- A frame is its length and its payload. -/
lemma cut_frame_inv {s p n} (h : layout.cut s = .frame p n) :
    p.length ≤ maxPayload ∧ n = 4 + p.length ∧ n ≤ s.length ∧ p = Bytes.span s 4 p.length ∧
      Bytes.ofLE (s.take 4) = p.length := by
  obtain ⟨ht, whole, hp⟩ := LengthPrefixed.cut_frame_inv h
  rw [layout_total, total] at ht
  split at ht
  · cases ht
  · split at ht
    · rename_i fits
      cases ht
      cases hp
      have len : ((s.take (4 + Bytes.ofLE (s.take 4))).drop 4).length = Bytes.ofLE (s.take 4) := by
        rw [List.length_drop, List.length_take]
        omega
      rw [len]
      exact ⟨fits, rfl, whole, Bytes.span_eq_drop.symm, rfl⟩
    · cases ht

/-- Parsing is cutting off encoder frames. -/
lemma parses_iff {s ps r} :
    layout.format.Parses s ps r ↔ (∀ p ∈ ps, p.length ≤ maxPayload) ∧ s = frames ps ++ r := by
  constructor
  · intro h
    induction h with
    | done => exact ⟨nofun, rfl⟩
    | @frame s p n ps r hc _ ih =>
      obtain ⟨fits, e, whole, hp, front⟩ := cut_frame_inv hc
      obtain ⟨fit, hs⟩ := ih
      have lt : p.length < 2 ^ 32 := by
        simp [maxPayload] at fits
        omega
      have head : bytes32 p.length.toUInt32 = s.take 4 := by
        have len : (s.take 4).length = 4 := by
          rw [List.length_take]
          omega
        have value : p.length.toUInt32.toNat = p.length := UInt32.toNat_ofNat_of_lt' lt
        rw [bytes32_eq, value, ← front]
        exact Bytes.toLE_ofLE_of_length len
      refine ⟨List.forall_mem_cons.mpr ⟨fits, fit⟩, ?_⟩
      calc s = s.take 4 ++ ((s.drop 4).take p.length ++ (s.drop 4).drop p.length) := by
            rw [List.take_append_drop, List.take_append_drop]
        _ = bytes32 p.length.toUInt32 ++ (p ++ (frames ps ++ r)) := by
            rw [head, ← hs, e, ← List.drop_drop]
            exact congrArg (fun q => _ ++ (q ++ _)) hp.symm
        _ = frames (p :: ps) ++ r := by
            simp only [frames, List.map_cons, List.flatten_cons, encodePacket, List.append_assoc]
  · rintro ⟨fit, rfl⟩
    apply Format.parses_of_frames
    rw [List.forall₂_map_left_iff, List.forall₂_same]
    intro p hp t
    exact encodePacket_cut (fit p hp) t

lemma cut_bad {s} (long : 4 ≤ s.length) (wraps : maxPayload < Bytes.ofLE (s.take 4)) :
    layout.cut s = .bad .outOfBounds :=
  LengthPrefixed.cut_error (L := layout) (total_error long wraps)

/-- In terms of the layout: no parse of the stream arrives at an error. -/
lemma lengthsFit_iff {s} :
    LengthsFit s ↔ ∀ ps r, layout.format.Parses s ps r → ∀ e, layout.cut r ≠ .bad e := by
  constructor
  · intro fit ps r h e bad
    obtain ⟨small, hs⟩ := parses_iff.mp h
    obtain ⟨long, wraps⟩ := cut_bad_inv bad
    have := fit ps r small hs long
    omega
  · intro good ps r small hs long
    by_contra wraps
    exact good ps r (parses_iff.mpr ⟨small, hs⟩) _ (cut_bad long (Nat.not_le.mp wraps))

/-- Lengths that fit do so from the beginning on. -/
lemma LengthsFit.of_append {s t} (fit : LengthsFit (s ++ t)) : LengthsFit s := by
  rw [lengthsFit_iff] at fit ⊢
  intro ps r h e bad
  exact fit ps (r ++ t) (h.append t) e (layout.format.bad_append t bad)

/-! ## Safe turns -/

/-- A turn that stops stands in front of an incomplete frame. -/
lemma cut_of_stop {c : IntermediateCodec} {o} (stop : turn c o = .stop) :
    layout.cut (c.buffer.drop o) = .more := by
  cases hc : layout.cut (c.buffer.drop o) with
  | more => rfl
  | frame p n =>
    rw [turn_eq (by rw [hc]; nofun), hc] at stop
    cases stop
  | bad e =>
    obtain ⟨long, wraps⟩ := cut_bad_inv hc
    rw [List.length_drop] at long
    rw [turn_overflow (by omega) wraps, emitSpan] at stop
    split at stop
    · cases stop
    · cases stop

/-- Where the length does not wrap, the turn is safe. -/
lemma safeTurn_of_cut {c : IntermediateCodec} {o} (inside : o ≤ c.buffer.length)
    (good : ∀ e, layout.cut (c.buffer.drop o) ≠ .bad e) : SafeTurn c o := by
  have eq := turn_eq good
  cases hc : layout.cut (c.buffer.drop o) with
  | more =>
    rw [hc] at eq
    exact ⟨inside, by rw [eq]; nofun, by rw [eq]; nofun⟩
  | bad e => exact absurd hc (good e)
  | frame p n =>
    rw [hc] at eq
    obtain ⟨-, hn, whole, hp, front⟩ := cut_frame_inv hc
    rw [List.length_drop] at whole
    refine ⟨inside, by rw [eq]; nofun, ?_⟩
    intro q o' c' taken
    rw [eq] at taken
    cases taken
    refine ⟨by omega, by omega, by omega, ?_, front⟩
    rw [← Bytes.span_drop]
    exact hp

/-- Where it wraps, it is not: the slice leaves the buffer or the offset moves by less than 4. -/
lemma not_safeTurn_of_bad {c : IntermediateCodec} {o e}
    (bad : layout.cut (c.buffer.drop o) = .bad e) : ¬ SafeTurn c o := by
  intro safe
  obtain ⟨long, wraps⟩ := cut_bad_inv bad
  have lt := Bytes.ofLE_lt ((c.buffer.drop o).take 4)
  have le : ((c.buffer.drop o).take 4).length ≤ 4 := List.length_take_le _ _
  have lt : Bytes.ofLE ((c.buffer.drop o).take 4) < 2 ^ 32 :=
    lt_of_lt_of_le lt (Nat.pow_le_pow_right (by decide) le)
  -- the slice has its announced length only if it is there, and then the offset falls short
  have eq := turn_overflow (c := c) (o := o) (by rw [List.length_drop] at long; omega) wraps
  rw [emitSpan] at eq
  split at eq
  · have := safe.slice eq
    omega
  · exact safe.no_fault _ eq

/-- The loop comes only to where frames end. -/
lemma Visits.parses {c : IntermediateCodec} {o} (fit : LengthsFit c.buffer) (h : Visits c o) :
    o ≤ c.buffer.length ∧ ∃ ps, layout.format.Parses c.buffer ps (c.buffer.drop o) := by
  induction h with
  | start => exact ⟨Nat.zero_le _, [], .done⟩
  | @next o p o' c' _ taken ih =>
    obtain ⟨inside, ps, h⟩ := ih
    have good := lengthsFit_iff.mp fit ps _ h
    rw [turn_eq good] at taken
    cases hc : layout.cut (c.buffer.drop o) with
    | more =>
      rw [hc] at taken
      cases taken
    | bad e => exact absurd hc (good e)
    | frame q n =>
      rw [hc] at taken
      cases taken
      have whole := layout.format.size_le hc
      rw [List.length_drop] at whole
      refine ⟨by omega, ps ++ [p], h.trans (.frame hc ?_)⟩
      rw [List.drop_drop]
      exact .done

/-- The loop comes to all places where frames end. -/
lemma visits_of_parses {c : IntermediateCodec} {o ps r} (h : Visits c o)
    (parse : layout.format.Parses (c.buffer.drop o) ps r) :
    ∃ o', Visits c o' ∧ c.buffer.drop o' = r := by
  generalize e : c.buffer.drop o = s at parse
  induction parse generalizing o with
  | done => exact ⟨o, h, e⟩
  | @frame s p n ps r hc _ ih =>
    subst e
    have taken := cuts.emit (c := c) hc
    exact ih (h.next taken) (by rw [List.drop_drop])

/-! ## Safe runs -/

/-- With lengths that fit the decoder takes all whole frames, and waits for more. -/
lemma decodeAll_of_fit {fed : List (List UInt8)} (fit : LengthsFit fed.flatten) :
    ∃ ps r, layout.format.Parses fed.flatten ps r ∧ layout.cut r = .more ∧
      decodeAll ({} : IntermediateCodec) fed = (ps, none, ⟨r⟩) := by
  obtain ⟨ps, r, h, more⟩ := Format.exists_parse_more (lengthsFit_iff.mp fit)
  have run := cuts.feedAll_eq .endlessLoop (c := {}) rfl h more
  rw [Function.iterate_id] at run
  exact ⟨ps, r, h, more, run⟩

/-- A run that is safe has taken all whole frames each time. -/
lemma Safe.parses {chunks : List (List UInt8)} (safe : Safe chunks) {fed rest}
    (h : chunks = fed ++ rest) :
    ∃ ps r, layout.format.Parses fed.flatten ps r ∧ layout.cut r = .more := by
  -- on the calls made so far, the last one of which starts from a buffer without a frame
  induction fed using List.reverseRecOn generalizing rest with
  | nil => exact ⟨[], [], .done, rfl⟩
  | append_singleton fed chunk ih =>
    rw [List.append_assoc, List.singleton_append] at h
    obtain ⟨ps, r, parse, more⟩ := ih h
    obtain ⟨_, c, _, _, run, calls, _, _⟩ := safe fed chunk rest h
    have run' := cuts.feedAll_eq .endlessLoop (c := {}) rfl parse more
    rw [Function.iterate_id] at run'
    have same : (ps, none, (⟨r⟩ : IntermediateCodec)) = _ := run'.symm.trans run
    simp only [Prod.mk.injEq] at same
    obtain ⟨rfl, -, rfl⟩ := same
    have good : ∀ qs u, layout.format.Parses (r ++ chunk) qs u → ∀ e, layout.cut u ≠ .bad e := by
      intro qs u parse' e bad
      obtain ⟨o, visit, rfl⟩ := visits_of_parses (c := ⟨r ++ chunk⟩) .start parse'
      exact not_safeTurn_of_bad bad (calls o visit)
    obtain ⟨qs, u, parse', more'⟩ := Format.exists_parse_more good
    refine ⟨ps ++ qs, u, ?_, more'⟩
    rw [List.flatten_append, List.flatten_singleton]
    exact (parse.append chunk).trans parse'

/-- `IntermediateCodec::decode_packets` is safe on hostile input exactly when no length at a frame
    boundary of the input is `2 ^ 32 - 4` or more. -/
theorem safe_iff (chunks : List (List UInt8)) : Safe chunks ↔ LengthsFit chunks.flatten := by
  constructor
  · intro safe
    -- a safe run ends where no frame starts, a wrapping length would be an error there
    obtain ⟨ps, r, parse, more⟩ := safe.parses (List.append_nil chunks).symm
    rw [lengthsFit_iff]
    intro qs u parse' e bad
    obtain ⟨-, rfl⟩ := parse.unique (Format.stuck_of_more more) parse' (Format.stuck_of_bad bad)
    rw [show layout.cut r = .more from more] at bad
    cases bad
  · rintro fit fed chunk rest rfl
    rw [List.flatten_append, List.flatten_cons, ← List.append_assoc] at fit
    have fit := fit.of_append
    obtain ⟨ps, r, parse, more, run⟩ := decodeAll_of_fit fit.of_append
    have fit_call : LengthsFit (r ++ chunk) := by
      rw [lengthsFit_iff] at fit ⊢
      intro qs u h
      exact fit (ps ++ qs) u ((parse.append chunk).trans h)
    obtain ⟨qs, u, parse', more'⟩ := Format.exists_parse_more (lengthsFit_iff.mp fit_call)
    have call := cuts.decode_more .endlessLoop (c := ⟨r⟩) parse' more'
    rw [Function.iterate_id] at call
    refine ⟨ps, ⟨r⟩, qs, ⟨u⟩, run, ?_, call, ?_⟩
    · intro o visit
      obtain ⟨inside, qs', parse''⟩ := visit.parses fit_call
      exact safeTurn_of_cut inside (lengthsFit_iff.mp fit_call qs' _ parse'')
    · rw [List.flatten_append, List.flatten_singleton]
      exact (parses_iff.mp ((parse.append chunk).trans parse')).2.symm

/-- Four bytes from the peer, the length `2 ^ 32 - 1`: the bounds check compares 4 with 3, passes,
    and the packet is read from behind the buffer. -/
theorem not_safe_max_length :
    ¬ Safe [[0xff, 0xff, 0xff, 0xff]] ∧
    decodePackets {} [0xff, 0xff, 0xff, 0xff] =
      (.error .outOfBounds, ⟨[0xff, 0xff, 0xff, 0xff]⟩) := by
  have fault : decodePackets {} [0xff, 0xff, 0xff, 0xff] =
      (.error .outOfBounds, ⟨[0xff, 0xff, 0xff, 0xff]⟩) := by
    decide
  refine ⟨?_, fault⟩
  intro safe
  obtain ⟨_, c, _, _, run, -, call, -⟩ := safe [] _ [] rfl
  cases run
  cases fault.symm.trans call

end CppGram.Transport.IntermediateCodec
