import CppGram.Transport.Abridged

/-!
# The abridged codec on arbitrary streams

`Frame` is the grammar of abridged frames, stated without the decoder. `decodeAll_grammar` says that
`AbridgedCodec::decode_packets` is the parser of this grammar on every stream a peer may send and
however it is cut: it returns the packets of the frames in front and keeps what is no frame yet.
-/

namespace CppGram.Transport.AbridgedCodec
open Framing

/-- A frame and its packet: a header of one byte below `0x7f`, or of four bytes whose first is at
    least `0x7f` and whose others are a word count, and four bytes for each word announced. -/
inductive Frame : List UInt8 → List UInt8 → Prop where
  | short {words packet} :
    words < 0x7f →
    packet.length = 4 * words.toNat →
    Frame (words :: packet) packet
  | long {first b0 b1 b2 packet} :
    0x7f ≤ first →
    packet.length = 4 * Bytes.ofLE [b0, b1, b2] →
    Frame (first :: b0 :: b1 :: b2 :: packet) packet

/-- A frame of the grammar is cut off, whatever follows it. -/
lemma Frame.cut {f p} (h : Frame f p) (t : List UInt8) :
    layout.cut (f ++ t) = .frame p f.length := by
  cases h with
  | @short words packet small len =>
    apply LengthPrefixed.cut_ok
    · rw [layout_total]
      simp only [List.cons_append, total, if_pos small, Option.map_some, List.length_cons, len,
        Option.some.injEq, Except.ok.injEq]
      omega
    · rw [List.length_append]
      exact Nat.le_add_right _ _
    · rw [List.take_left, layout_unpack, headerLen, if_pos small]
      rfl
  | @long first b0 b1 b2 packet large len =>
    have large : ¬ first < 0x7f := UInt8.not_lt.mpr large
    apply LengthPrefixed.cut_ok
    · rw [layout_total]
      simp only [List.cons_append, total, if_neg large, word24_toNat, Option.map_some,
        List.length_cons, len, Option.some.injEq, Except.ok.injEq]
      omega
    · rw [List.length_append]
      exact Nat.le_add_right _ _
    · rw [List.take_left, layout_unpack, headerLen, if_neg large]
      rfl

/-- What is cut off is a frame of the grammar. -/
lemma frame_of_cut {s p n} (h : layout.cut s = .frame p n) : Frame (s.take n) p := by
  obtain ⟨ht, whole, hp⟩ := LengthPrefixed.cut_frame_inv h
  rw [layout_total, Option.map_eq_some_iff] at ht
  obtain ⟨k, ht, hk⟩ := ht
  cases hk
  cases hp
  cases s with
  | nil => cases ht
  | cons first rest =>
    rw [List.length_cons] at whole
    by_cases small : first < 0x7f
    · simp only [total, if_pos small, Option.some.injEq] at ht
      subst ht
      rw [Nat.add_comm 1, List.take_succ_cons, headerLen, if_pos small]
      refine .short small ?_
      rw [List.length_take]
      omega
    · simp only [total, if_neg small] at ht
      rcases rest with - | ⟨b0, - | ⟨b1, - | ⟨b2, rest⟩⟩⟩
      · cases ht
      · cases ht
      · cases ht
      · cases ht
        simp only [List.length_cons] at whole
        rw [Nat.add_comm 4]
        simp only [List.take_succ_cons, headerLen, if_neg small]
        refine .long (UInt8.not_lt.mp small) ?_
        rw [← word24_toNat, List.length_take]
        omega

/-- A parse of a stream splits it into frames of the grammar and a rest. -/
lemma exists_frames {s ps r} (h : layout.format.Parses s ps r) :
    ∃ frames, s = frames.flatten ++ r ∧ List.Forall₂ Frame frames ps := by
  induction h with
  | done => exact ⟨[], rfl, .nil⟩
  | @frame s p n ps r hc _ ih =>
    obtain ⟨frames, hs, carry⟩ := ih
    refine ⟨s.take n :: frames, ?_, .cons (frame_of_cut hc) carry⟩
    rw [List.flatten_cons, List.append_assoc, ← hs, List.take_append_drop]

/-- Abridged decoding of arbitrary streams: in whatever chunks a stream arrives, the packets
    returned and the final buffer are those of one call, the stream is the frames of these packets
    followed by that buffer, and no frame stands in front of the buffer. -/
theorem decodeAll_grammar (chunks : List (List UInt8)) :
    ∃ frames packets rest,
      decodeAll ({} : AbridgedCodec) chunks = (packets, none, ⟨rest⟩) ∧
      decodePackets {} chunks.flatten = (.ok packets, ⟨rest⟩) ∧
      chunks.flatten = frames.flatten ++ rest ∧
      List.Forall₂ Frame frames packets ∧
      ∀ frame packet, Frame frame packet → ¬ frame <+: rest := by
  obtain ⟨ps, r, parse, more, call⟩ := decodePackets_spec {} chunks.flatten
  have run := cuts.feedAll_eq .endlessLoop (c := {}) rfl parse more
  rw [Function.iterate_id] at run
  obtain ⟨frames, hs, carry⟩ := exists_frames parse
  refine ⟨frames, ps, r, run, call, hs, carry, ?_⟩
  rintro frame packet valid ⟨t, rfl⟩
  rw [valid.cut] at more
  cases more

/-! ## Streams that carry the same packets -/

/-- Two streams are frames of the same packets, followed by the same rest. -/
def SameFrames (s t : List UInt8) : Prop :=
  ∃ fs gs packets rest, s = fs.flatten ++ rest ∧ t = gs.flatten ++ rest ∧
    List.Forall₂ Frame fs packets ∧ List.Forall₂ Frame gs packets

lemma parses_of_grammar {fs ps r} (carry : List.Forall₂ Frame fs ps) :
    layout.format.Parses (fs.flatten ++ r) ps r :=
  Format.parses_of_frames (carry.imp fun _ _ h => h.cut) r

/-- They do exactly when the decoder cuts them to the same packets and the same rest. -/
lemma sameFrames_iff {s t ps r qs u} (h : layout.format.Parses s ps r) (more : layout.cut r = .more)
    (h' : layout.format.Parses t qs u) (more' : layout.cut u = .more) :
    SameFrames s t ↔ ps = qs ∧ r = u := by
  constructor
  · rintro ⟨fs, gs, packets, rest, rfl, rfl, carry, carry'⟩
    obtain ⟨ps', rfl, parse⟩ := h.split (Format.stuck_of_more more) (parses_of_grammar carry)
    obtain ⟨qs', rfl, parse'⟩ := h'.split (Format.stuck_of_more more') (parses_of_grammar carry')
    obtain ⟨rfl, rfl⟩ := parse.unique (Format.stuck_of_more more) parse'
      (Format.stuck_of_more more')
    exact ⟨rfl, rfl⟩
  · rintro ⟨rfl, rfl⟩
    obtain ⟨fs, hs, carry⟩ := exists_frames h
    obtain ⟨gs, ht, carry'⟩ := exists_frames h'
    exact ⟨fs, gs, ps, r, hs, ht, carry, carry'⟩

/-- Frames in a stream of zeros are single zeros, which carry nothing. -/
lemma frames_of_zeros {fs ps r n} (carry : List.Forall₂ Frame fs ps)
    (zeros : fs.flatten ++ r = List.replicate n 0) :
    fs.flatten = List.replicate fs.length 0 ∧ ∀ p ∈ ps, p = [] := by
  induction carry generalizing n with
  | nil => exact ⟨rfl, nofun⟩
  | @cons f p fs ps valid _ ih =>
    cases valid with
    | @short words p small len =>
      cases n with
      | zero => cases zeros
      | succ n =>
        rw [List.replicate_succ, List.flatten_cons, List.append_assoc, List.cons_append,
          List.cons_eq_cons] at zeros
        obtain ⟨rfl, zeros⟩ := zeros
        obtain rfl := List.eq_nil_of_length_eq_zero len
        obtain ⟨flat, empty⟩ := ih zeros
        refine ⟨?_, List.forall_mem_cons.mpr ⟨rfl, empty⟩⟩
        rw [List.flatten_cons, flat, List.length_cons, List.replicate_succ]
        rfl
    | @long first b0 b1 b2 p large len =>
      cases n with
      | zero => cases zeros
      | succ n =>
        rw [List.replicate_succ, List.flatten_cons, List.append_assoc, List.cons_append,
          List.cons_eq_cons] at zeros
        obtain ⟨rfl, -⟩ := zeros
        exact absurd large (by decide)

/-- Frames that carry nothing take a byte each at least, and exactly one if they are zeros. -/
lemma frames_of_nothing {gs ps} (carry : List.Forall₂ Frame gs ps) (empty : ∀ p ∈ ps, p = []) :
    gs.length ≤ gs.flatten.length ∧
      (gs.flatten.length = gs.length → gs.flatten = List.replicate gs.length 0) := by
  induction carry with
  | nil => exact ⟨le_rfl, fun _ => rfl⟩
  | @cons g p gs ps valid _ ih =>
    obtain ⟨rfl, rest⟩ := List.forall_mem_cons.mp empty
    obtain ⟨le, zeros⟩ := ih rest
    rw [List.flatten_cons, List.length_append, List.length_cons]
    cases valid with
    | @short words p small len =>
      have zero : words = 0 := by
        apply UInt8.toNat_inj.mp
        rw [List.length_nil] at len
        exact (Nat.mul_eq_zero.mp len.symm).resolve_left (by decide)
      rw [zero, List.length_singleton]
      refine ⟨by omega, ?_⟩
      intro same
      rw [zeros (by omega), List.replicate_succ]
      rfl
    | @long first b0 b1 b2 p large len =>
      simp only [List.length_cons, List.length_nil]
      exact ⟨by omega, by omega⟩

/-- A stream of zeros carries the same packets as no other stream of its length. -/
lemma eq_of_sameFrames_zeros {s t n} (zeros : s = List.replicate n 0) (len : t.length = s.length)
    (same : SameFrames s t) : t = s := by
  obtain ⟨fs, gs, ps, r, hs, ht, carry, carry'⟩ := same
  obtain ⟨flat, empty⟩ := frames_of_zeros carry (hs.symm.trans zeros)
  obtain ⟨-, only_zeros⟩ := frames_of_nothing carry' empty
  have count : fs.length = gs.length := carry.length_eq.trans carry'.length_eq.symm
  have flat_length := congrArg List.length flat
  rw [hs, ht, List.length_append, List.length_append] at len
  rw [List.length_replicate] at flat_length
  rw [hs, ht, flat, count, only_zeros (by omega)]

end CppGram.Transport.AbridgedCodec
