import CppGram.Transport.Full

/-!
# The full codec on arbitrary streams

`Valid` and `Corrupt` say, without the decoder, what a frame of the full codec is and when the front
of a stream is none. `decodePackets_cases` is what one call of `FullCodec::decode_packets` does in
these terms, and `sameDelivery_iff` when the packets of a run up to its first throw do not depend on
the fragmentation: a throw drops the packets that the same call has already taken.
-/

namespace CppGram.Transport.FullCodec
open Framing

/-- A valid frame: between 12 bytes and 16 MiB long, it starts with its own length and ends with the
    checksum of what precedes it. -/
structure Valid (frame : List UInt8) : Prop where
  long : 12 ≤ frame.length
  small : frame.length ≤ maxTotal
  size : Bytes.ofLE (frame.take 4) = frame.length
  checksum : Bytes.ofLE (frame.drop (frame.length - 4)) =
    (computeCrc32 (frame.take (frame.length - 4))).toNat

/-- The payload of a frame. -/
def payload (frame : List UInt8) : List UInt8 := Bytes.span frame 8 (frame.length - 12)

/-- The sequence number of a frame. -/
def seqField (frame : List UInt8) : Nat := Bytes.ofLE (Bytes.span frame 4 4)

/-- An invalid frame stands in front: twelve bytes are there, and the length in the first four is
    out of range or announces a frame that is there and has another checksum. -/
def Corrupt (s : List UInt8) : Prop :=
  12 ≤ s.length ∧
    let n := Bytes.ofLE (s.take 4)
    n < 12 ∨ n > maxTotal ∨
      n ≤ s.length ∧ Bytes.ofLE (Bytes.span s (n - 4) 4) ≠ (computeCrc32 (s.take (n - 4))).toNat

/-- `s` is valid frames `fs` followed by `r`. -/
structure Frames (s : List UInt8) (fs : List (List UInt8)) (r : List UInt8) : Prop where
  valid : ∀ f ∈ fs, Valid f
  split : s = fs.flatten ++ r

/-! ## The layout -/

lemma implements : Implements layout.format buf turn tick := .of_toTurn turn_eq rfl

/-- A valid frame is cut out, whatever stands behind it. -/
lemma Valid.cut {f} (h : Valid f) (t : List UInt8) :
    layout.cut (f ++ t) = .frame (payload f) f.length := by
  have long := h.long
  have small := h.small
  have front : Bytes.ofLE ((f ++ t).take 4) = f.length := by
    rw [List.take_append_of_le_length (by omega)]
    exact h.size
  have whole : f.length ≤ (f ++ t).length := by
    rw [List.length_append]
    exact Nat.le_add_right _ _
  have ht := total_ok (s := f ++ t) (by omega) (by rw [front]; omega)
  rw [front] at ht
  refine LengthPrefixed.cut_ok (L := layout) ht whole ?_
  rw [List.take_left]
  exact if_pos h.checksum

/-- What the layout cuts off is a valid frame. -/
lemma valid_of_cut {s p n} (h : layout.cut s = .frame p n) :
    Valid (s.take n) ∧ p = payload (s.take n) := by
  obtain ⟨ht, whole, hp⟩ := LengthPrefixed.cut_frame_inv h
  have len : (s.take n).length = n := List.length_take_of_le whole
  simp only [layout_total, total] at ht
  split at ht
  · cases ht
  · split at ht
    · cases ht
    · rename_i range
      cases ht
      simp only [layout_unpack, unpack, len] at hp
      split at hp
      · rename_i valid
        cases hp
        refine ⟨⟨by omega, by omega, ?_, by rwa [len]⟩, by rw [payload, len]⟩
        rw [len, List.take_take, Nat.min_eq_left (by omega)]
      · cases hp

/-- The layout reports an error exactly in front of an invalid frame. -/
lemma corrupt_iff {s} : Corrupt s ↔ ∃ e, layout.cut s = .bad e := by
  have tail {n} (whole : n ≤ s.length) (long : 12 ≤ n) :
      (s.take n).drop (n - 4) = Bytes.span s (n - 4) 4 := by
    rw [Bytes.span_eq_drop, Nat.sub_add_cancel (by omega)]
  have body {n : Nat} : (s.take n).take (n - 4) = s.take (n - 4) := by
    rw [List.take_take, Nat.min_eq_left (Nat.sub_le _ _)]
  constructor
  · rintro ⟨long, h⟩
    by_cases range : Bytes.ofLE (s.take 4) < 12 ∨ Bytes.ofLE (s.take 4) > maxTotal
    · exact ⟨_, LengthPrefixed.cut_error (L := layout) (total_error long range)⟩
    · rcases h with h | h | ⟨whole, differs⟩
      · exact absurd (.inl h) range
      · exact absurd (.inr h) range
      · refine ⟨_, LengthPrefixed.cut_invalid (L := layout) (e := crcMismatch)
          (total_ok long range) whole ?_⟩
        rw [layout_unpack, unpack, List.length_take_of_le whole, tail whole (by omega), body]
        exact if_neg differs
  · rintro ⟨e, bad⟩
    rcases LengthPrefixed.cut_bad_inv bad with ht | ⟨n, ht, whole, he⟩
    · simp only [layout_total, total] at ht
      split at ht
      · cases ht
      · rename_i long
        split at ht
        · rename_i range
          refine ⟨by omega, ?_⟩
          rcases range with h | h
          · exact .inl h
          · exact .inr (.inl h)
        · cases ht
    · simp only [layout_total, total] at ht
      split at ht
      · cases ht
      · split at ht
        · cases ht
        · rename_i range
          cases ht
          simp only [layout_unpack, unpack, List.length_take_of_le whole] at he
          split at he
          · cases he
          · rename_i differs
            rw [tail whole (by omega), body] at differs
            exact ⟨by omega, .inr (.inr ⟨whole, differs⟩)⟩

/-! ## Frames of a stream -/

/-- Frames are cut out one by one. -/
lemma Frames.parses {s fs r} (h : Frames s fs r) :
    layout.format.Parses s (fs.map payload) r := by
  rw [h.split]
  apply Format.parses_of_frames
  rw [List.forall₂_map_right_iff, List.forall₂_same]
  exact fun f hf => (h.valid f hf).cut

/-- What is cut out are valid frames. -/
lemma exists_frames {s ps r} (h : layout.format.Parses s ps r) :
    ∃ fs, Frames s fs r ∧ ps = fs.map payload := by
  induction h with
  | done => exact ⟨[], ⟨nofun, rfl⟩, rfl⟩
  | @frame s p n ps r hc _ ih =>
    obtain ⟨fs, h, e⟩ := ih
    obtain ⟨valid, hp⟩ := valid_of_cut hc
    refine ⟨s.take n :: fs, ⟨List.forall_mem_cons.mpr ⟨valid, h.valid⟩, ?_⟩, ?_⟩
    · rw [List.flatten_cons, List.append_assoc, ← h.split, List.take_append_drop]
    · rw [List.map_cons, hp, e]

lemma Frames.nil {s} : Frames s [] s := ⟨nofun, rfl⟩

/-- Frames behind frames. -/
lemma Frames.trans {s fs r gs u} (h : Frames s fs r) (h' : Frames r gs u) :
    Frames s (fs ++ gs) u := by
  refine ⟨List.forall_mem_append.mpr ⟨h.valid, h'.valid⟩, ?_⟩
  rw [h.split, h'.split, List.flatten_append, List.append_assoc]

/-- Frames stay when more comes behind them. -/
lemma Frames.append {s fs r} (h : Frames s fs r) (t : List UInt8) :
    Frames (s ++ t) fs (r ++ t) := by
  refine ⟨h.valid, ?_⟩
  rw [h.split, List.append_assoc]

/-- Two valid frames in front of one stream are the same. -/
lemma Valid.unique {f g s t} (hf : Valid f) (hg : Valid g) (e : f ++ s = g ++ t) : f = g := by
  have cut := hf.cut s
  rw [e, hg.cut t] at cut
  simp only [Cut.frame.injEq] at cut
  exact (List.append_inj e cut.2.symm).1

/-- The frames that lead to a place where none starts begin with any others. -/
lemma Frames.begins {s fs r gs u} (h : Frames s fs r) (stuck : layout.format.Stuck r)
    (h' : Frames s gs u) : gs <+: fs := by
  induction gs generalizing s fs with
  | nil => exact List.nil_prefix
  | cons g gs ih =>
    obtain ⟨hg, valid'⟩ := List.forall_mem_cons.mp h'.valid
    have e := h'.split
    rw [List.flatten_cons, List.append_assoc] at e
    cases fs with
    | nil =>
      have here := h.split
      rw [List.flatten_nil, List.nil_append] at here
      rw [← here, e] at stuck
      exact absurd (hg.cut _) (stuck _ _)
    | cons f fs =>
      obtain ⟨hf, valid⟩ := List.forall_mem_cons.mp h.valid
      have e' := h.split
      rw [List.flatten_cons, List.append_assoc] at e'
      cases hf.unique hg (e'.symm.trans e)
      have rest : gs.flatten ++ u = fs.flatten ++ r := List.append_cancel_left (e.symm.trans e')
      rw [List.prefix_cons_inj]
      exact ih ⟨valid, rfl⟩ ⟨valid', rest.symm⟩

lemma Corrupt.stuck {r} (h : Corrupt r) : layout.format.Stuck r := by
  obtain ⟨e, bad⟩ := corrupt_iff.mp h
  exact Format.stuck_of_bad bad

/-- Behind a corrupt frame no more is waited for. -/
lemma Corrupt.not_more {r} (h : Corrupt r) : layout.cut r ≠ .more := by
  obtain ⟨e, bad⟩ := corrupt_iff.mp h
  rw [bad]
  nofun

/-- A stream has one sequence of frames up to where it is stuck. -/
lemma Frames.unique {s fs r gs u} (h : Frames s fs r) (stuck : layout.format.Stuck r)
    (h' : Frames s gs u) (stuck' : layout.format.Stuck u) : fs = gs ∧ r = u := by
  cases (h'.begins stuck' h).eq_of_length_le (h.begins stuck h').length_le
  exact ⟨rfl, List.append_cancel_left (h.split.symm.trans h'.split)⟩

/-- A corrupt frame stays corrupt when more comes behind it. -/
lemma Frames.corrupt_append {s fs r} (h : Frames s fs r) (corrupt : Corrupt r) (t : List UInt8) :
    Frames (s ++ t) fs (r ++ t) ∧ Corrupt (r ++ t) := by
  obtain ⟨e, bad⟩ := corrupt_iff.mp corrupt
  exact ⟨h.append t, corrupt_iff.mpr ⟨e, layout.format.bad_append t bad⟩⟩

/-! ## Calls and runs -/

/-- One call takes the valid frames in front of the buffer and counts them. If an invalid one
    follows it throws and keeps the buffer; otherwise it returns their payloads and keeps the
    rest. -/
lemma decodePackets_cases (c : FullCodec) (data : List UInt8) :
    ∃ fs r, Frames (c.buffer ++ data) fs r ∧
      (layout.cut r = .more ∧ decodePackets c data =
          (.ok (fs.map payload),
            { c with inSeqNo := c.inSeqNo + UInt32.ofNat fs.length, buffer := r }) ∨
        Corrupt r ∧ ∃ e, decodePackets c data =
          (.error e, { c with
            inSeqNo := c.inSeqNo + UInt32.ofNat fs.length, buffer := c.buffer ++ data })) := by
  obtain ⟨ps, r, parse, stuck⟩ := layout.format.exists_parse (c.buffer ++ data)
  obtain ⟨fs, h, rfl⟩ := exists_frames parse
  refine ⟨fs, r, h, ?_⟩
  rcases stuck.cases with more | ⟨e, bad⟩
  · refine .inl ⟨more, ?_⟩
    have call := cuts.decode_more .endlessLoop (c := c) parse more
    rw [iterate_tick, List.length_map] at call
    exact call
  · refine .inr ⟨corrupt_iff.mpr ⟨e, bad⟩, e, ?_⟩
    have call := implements.decode_error .endlessLoop (c := c) parse bad
    rw [iterate_tick, List.length_map] at call
    exact call

/-- The packets returned up to the first throw, if there is one: those of the frames `fs` that were
    complete before the chunk in which the invalid frame shows up, and not those of the frames `gs`
    that this chunk completes. -/
lemma decodeAll_cases (chunks : List (List UInt8)) :
    (∃ fs r, Frames chunks.flatten fs r ∧ layout.cut r = .more ∧
      (decodeAll ({} : FullCodec) chunks).1 = fs.map payload) ∨
    (∃ fed chunk rest fs u gs r, chunks = fed ++ chunk :: rest ∧
      Frames fed.flatten fs u ∧ layout.cut u = .more ∧
      Frames (fed ++ [chunk]).flatten (fs ++ gs) r ∧ Corrupt r ∧
      (decodeAll ({} : FullCodec) chunks).1 = fs.map payload) := by
  rcases implements.feedAll_cases .endlessLoop (c := {}) chunks rfl with
    ⟨ps, r, parse, more, run⟩ | ⟨fed, chunk, rest, ps, u, qs, r, e, split, parse, more, parse', h⟩
  · obtain ⟨fs, h, rfl⟩ := exists_frames parse
    exact .inl ⟨fs, r, h, more, congrArg Prod.fst run⟩
  · obtain ⟨bad, run⟩ := h
    obtain ⟨fs, h, rfl⟩ := exists_frames parse
    obtain ⟨gs, h', rfl⟩ := exists_frames parse'
    refine .inr ⟨fed, chunk, rest, fs, u, gs, r, split, h, more, ?_, corrupt_iff.mpr ⟨e, bad⟩,
      congrArg Prod.fst run⟩
    rw [List.flatten_concat]
    exact (h.append chunk).trans h'

/-- An invalid frame that shows up in some chunks is still there when more are received. -/
lemma Frames.corrupt_flatten {fed chunk fs r} (h : Frames (fed ++ [chunk]).flatten fs r)
    (rest : List (List UInt8)) (corrupt : Corrupt r) :
    Frames (fed ++ chunk :: rest).flatten fs (r ++ rest.flatten) ∧ Corrupt (r ++ rest.flatten) := by
  rw [List.append_cons, List.flatten_append]
  exact h.corrupt_append corrupt rest.flatten

/-! ## Delivery up to the first throw -/

/-- The valid frames in front of a stream are delivered when it arrives in these chunks. -/
def Complete (chunks : List (List UInt8)) : Prop :=
  ∀ fs r, Frames chunks.flatten fs r →
    fs.map payload <+: (decodeAll ({} : FullCodec) chunks).1

/-- Two ways of cutting a stream make no difference: the packets returned up to the first throw are
    the same, and those of all valid frames in front of the first invalid one are among them. -/
def SameDelivery (xs ys : List (List UInt8)) : Prop :=
  (decodeAll ({} : FullCodec) xs).1 = (decodeAll ({} : FullCodec) ys).1 ∧
    Complete xs ∧ Complete ys

/-- The chunk in which an invalid frame shows up completes no valid frame: those in front of it are
    there without the chunk. -/
def Apart (chunks : List (List UInt8)) : Prop :=
  ∀ fed chunk rest, chunks = fed ++ chunk :: rest →
    ∀ fs r, Frames (fed ++ [chunk]).flatten fs r → Corrupt r → ∃ u, Frames fed.flatten fs u

/-- A complete stream gives the payloads of its frames. -/
lemma Complete.eq {chunks fs r} (complete : Complete chunks) (h : Frames chunks.flatten fs r)
    (stuck : layout.format.Stuck r) : (decodeAll ({} : FullCodec) chunks).1 = fs.map payload := by
  rcases decodeAll_cases chunks with
    ⟨gs, u, h', more, run⟩ | ⟨fed, chunk, rest, gs, u, gs', r', rfl, -, -, h', corrupt, run⟩
  · rw [run, (h.unique stuck h' (Format.stuck_of_more more)).1]
  · obtain ⟨all, corrupt⟩ := h'.corrupt_flatten rest corrupt
    have begins := complete fs r h
    rw [(h.unique stuck all corrupt.stuck).1, run] at begins ⊢
    exact begins.eq_of_length_le (by simp) |>.symm

/-- What a throw loses are the frames completed by the chunk in which the invalid one shows up. -/
lemma complete_iff {chunks} : Complete chunks ↔ Apart chunks := by
  constructor
  · rintro complete fed chunk rest rfl fs r h corrupt
    obtain ⟨all, corrupt'⟩ := h.corrupt_flatten rest corrupt
    have delivered := complete.eq all corrupt'.stuck
    rcases decodeAll_cases (fed ++ chunk :: rest) with
      ⟨gs, u, h', more, -⟩ | ⟨fed', chunk', rest', gs, u, gs', r', e, h', more, h'', bad, run⟩
    · obtain ⟨-, rfl⟩ := all.unique corrupt'.stuck h' (Format.stuck_of_more more)
      exact absurd more corrupt'.not_more
    · have all' := h''.corrupt_flatten rest' bad
      rw [← e] at all'
      obtain ⟨rfl, -⟩ := all.unique corrupt'.stuck all'.1 all'.2.stuck
      -- nothing was lost, so the frames were complete before the chunk that made a call throw
      have none_lost : gs'.length = 0 := by
        have len := congrArg List.length (run.symm.trans delivered)
        simp only [List.length_map, List.length_append] at len
        omega
      rw [List.eq_nil_of_length_eq_zero none_lost, List.append_nil]
      rcases List.append_eq_append_iff.mp e with ⟨later, rfl, e'⟩ | ⟨later, rfl, -⟩
      · cases later with
        | nil =>
          rw [List.append_nil] at h'
          exact ⟨u, h'⟩
        | cons x later =>
          cases e'
          obtain ⟨early, corrupt''⟩ := h.corrupt_flatten later corrupt
          obtain ⟨-, rfl⟩ := early.unique corrupt''.stuck h' (Format.stuck_of_more more)
          exact absurd more corrupt''.not_more
      · rw [List.flatten_append]
        exact ⟨_, h'.append _⟩
  · intro apart
    rcases decodeAll_cases chunks with
      ⟨gs, u, h, more, run⟩ | ⟨fed, chunk, rest, gs, u, gs', r, rfl, h, more, h', corrupt, run⟩
    · intro fs r h'
      rw [run]
      exact (h.begins (Format.stuck_of_more more) h').map payload
    · obtain ⟨u', before⟩ := apart fed chunk rest rfl (gs ++ gs') r h' corrupt
      have none_lost := (h.begins (Format.stuck_of_more more) before).length_le
      obtain ⟨all, corrupt⟩ := h'.corrupt_flatten rest corrupt
      intro fs r h''
      have begins := (all.begins corrupt.stuck h'').map payload
      rw [List.length_append] at none_lost
      rw [List.eq_nil_of_length_eq_zero (by omega : gs'.length = 0), List.append_nil] at begins
      rwa [run]

/-- Delivery up to the first throw does not depend on the fragmentation exactly when, in both ways
    of cutting, the chunk in which an invalid frame shows up completes no valid frame. -/
theorem sameDelivery_iff (xs ys : List (List UInt8)) (same : xs.flatten = ys.flatten) :
    SameDelivery xs ys ↔ Apart xs ∧ Apart ys := by
  rw [← complete_iff, ← complete_iff]
  constructor
  · exact And.right
  · rintro ⟨hx, hy⟩
    refine ⟨?_, hx, hy⟩
    obtain ⟨ps, r, parse, stuck⟩ := layout.format.exists_parse xs.flatten
    obtain ⟨fs, h, -⟩ := exists_frames parse
    rw [hx.eq h stuck, hy.eq (same ▸ h) stuck]

/-! ## A throw loses frames -/

/-- An encoded packet is a valid frame. -/
lemma valid_encodePacket {c p} (fits : p.length + 12 ≤ maxTotal) :
    Valid (encodePacket c p).1 ∧ FullCodec.payload (encodePacket c p).1 = p := by
  have cut := encodePacket_cut (c := c) fits []
  rw [List.append_nil] at cut
  obtain ⟨valid, hp⟩ := valid_of_cut cut
  rw [List.take_length] at valid hp
  exact ⟨valid, hp.symm⟩

/-- A frame and twelve bytes that announce the length 0: in one chunk the frame is lost, in two it is
    delivered. -/
theorem same_chunk_loses_frame :
    let frame := (encodePacket {} [7]).1
    let invalid := List.replicate 12 0
    [frame ++ invalid].flatten = [frame, invalid].flatten ∧
    (decodeAll ({} : FullCodec) [frame ++ invalid]).1 = [] ∧
    (decodeAll ({} : FullCodec) [frame, invalid]).1 = [[7]] ∧
    ¬ SameDelivery [frame ++ invalid] [frame, invalid] := by
  have one : (decodeAll ({} : FullCodec)
      [(encodePacket {} [7]).1 ++ List.replicate 12 0]).1 = [] := by
    decide +kernel
  have two : (decodeAll ({} : FullCodec)
      [(encodePacket {} [7]).1, List.replicate 12 0]).1 = [[7]] := by
    decide +kernel
  refine ⟨rfl, one, two, ?_⟩
  rintro ⟨same, -⟩
  rw [one, two] at same
  cases same

/-- A valid frame and an invalid one, one byte at a time and in two chunks. -/
theorem sameDelivery_iff_bytes :
    let stream := (encodePacket {} [7]).1 ++ List.replicate 12 0
    SameDelivery (stream.map List.singleton) [(encodePacket {} [7]).1, List.replicate 12 0] ↔
      Apart (stream.map List.singleton) ∧
        Apart [(encodePacket {} [7]).1, List.replicate 12 0] :=
  sameDelivery_iff _ _ (by decide +kernel)

end CppGram.Transport.FullCodec
