import Mathlib.Data.List.Induction
import CppGram.Transport.FullStreams

/-!
# Runs of the full codec

Calls on one `FullCodec` that go on after a throw. `run` keeps, next to the codec, the packets it
has returned since it was made or reset. `counterExact_iff` says when `in_seq_no` counts these
packets: the loop counts a frame when it takes it, and a throw later in the same call takes the
frame from the caller but not from the counter. `inSequence_iff` says when the packets arrive with
the sequence numbers 0, 1, 2, …: when the frames sent carry them, as the number is never compared.
-/

namespace CppGram.Transport.FullCodec
open Framing

/-- The calls of a codec. -/
inductive Call where
  | encodePacket (data : List UInt8)
  | decodePackets (data : List UInt8)
  | reset

/-- A codec and the packets it has returned since it was made or reset. -/
structure Receiver where
  codec : FullCodec := {}
  returned : List (List UInt8) := []

/-- A call, and the packets returned since the last reset. -/
def Receiver.step (s : Receiver) : Call → Receiver
  | .encodePacket data => { s with codec := (encodePacket s.codec data).2 }
  | .decodePackets data =>
    match decodePackets s.codec data with
    | (.ok packets, c) => { codec := c, returned := s.returned ++ packets }
    | (.error _, c) => { s with codec := c }
  | .reset => { codec := reset s.codec, returned := [] }

/-- The calls made one after the other on a new codec, whether they throw or not. -/
def run (calls : List Call) : Receiver := calls.foldl Receiver.step {}

lemma run_concat {calls call} : run (calls ++ [call]) = (run calls).step call := by
  rw [run, List.foldl_concat, run]

/-! ## The counter -/

/-- `in_seq_no()` is the number of packets returned, modulo `2 ^ 32`. -/
def Receiver.Exact (s : Receiver) : Prop :=
  s.codec.inSeqNo = UInt32.ofNat s.returned.length

/-- The counter is exact in every state of a run, and no call that throws changes it. -/
def CounterExact (calls : List Call) : Prop :=
  ∀ made rest, calls = made ++ rest →
    (run made).Exact ∧
    ∀ data later, rest = .decodePackets data :: later →
      ∀ e c, decodePackets (run made).codec data = (.error e, c) →
        c.inSeqNo = (run made).codec.inSeqNo

/-- A call that does not throw behind valid frames: an invalid frame in the bytes then buffered has
    none in front of it, or a multiple of `2 ^ 32`. -/
def Clean (c : FullCodec) : Call → Prop
  | .decodePackets data =>
    ∀ fs r, Frames (c.buffer ++ data) fs r → Corrupt r → 4294967296 ∣ fs.length
  | _ => True

lemma ofNat_eq_zero {n} : UInt32.ofNat n = 0 ↔ 4294967296 ∣ n := by
  rw [← UInt32.toNat_inj, UInt32.toNat_ofNat', Nat.dvd_iff_mod_eq_zero]
  rfl

/-- A call that throws adds the number of valid frames in front of the invalid one. -/
lemma inSeqNo_of_error {c c' : FullCodec} {data e} (h : decodePackets c data = (.error e, c')) :
    ∃ fs r, Frames (c.buffer ++ data) fs r ∧ Corrupt r ∧
      c'.inSeqNo = c.inSeqNo + UInt32.ofNat fs.length := by
  obtain ⟨fs, r, frames, ⟨-, call⟩ | ⟨corrupt, e', call⟩⟩ := decodePackets_cases c data
  · cases h.symm.trans call
  · cases h.symm.trans call
    exact ⟨fs, r, frames, corrupt, rfl⟩

/-- From an exact counter a call leads to an exact counter when it is clean, and only then. -/
lemma Receiver.Exact.step_iff {s : Receiver} (exact : s.Exact) (call : Call) :
    (s.step call).Exact ↔ Clean s.codec call := by
  cases call with
  | encodePacket data => exact ⟨fun _ => trivial, fun _ => exact⟩
  | reset => exact ⟨fun _ => trivial, fun _ => rfl⟩
  | decodePackets data =>
    obtain ⟨fs, r, h, ⟨more, call⟩ | ⟨corrupt, e, call⟩⟩ := decodePackets_cases s.codec data
    · simp only [step, call, Exact, Clean]
      constructor
      · intro _ gs u h' corrupt
        obtain ⟨-, rfl⟩ := h'.unique corrupt.stuck h (Format.stuck_of_more more)
        exact absurd more corrupt.not_more
      · intro _
        rw [exact, List.length_append, List.length_map, UInt32.ofNat_add]
    · simp only [step, call, Exact, Clean]
      rw [exact, UInt32.add_eq_left, ofNat_eq_zero]
      constructor
      · intro whole gs u h' corrupt'
        obtain ⟨rfl, -⟩ := h'.unique corrupt'.stuck h corrupt.stuck
        exact whole
      · exact fun clean => clean fs r h corrupt

/-- The incoming counter is exact throughout a run exactly when every call of it is clean. -/
theorem counterExact_iff (calls : List Call) :
    CounterExact calls ↔
      ∀ made call rest, calls = made ++ call :: rest → Clean (run made).codec call := by
  constructor
  · rintro exact made call rest rfl
    have before := (exact made (call :: rest) rfl).1
    have after := (exact (made ++ [call]) rest (List.append_cons ..)).1
    rw [run_concat] at after
    exact (before.step_iff call).mp after
  · rintro clean made rest rfl
    have exact : (run made).Exact := by
      -- call by call
      induction made using List.reverseRecOn generalizing rest with
      | nil => rfl
      | append_singleton made call ih =>
        rw [run_concat]
        have before := ih (call :: rest) fun made' call' rest' e =>
          clean made' call' rest' ((List.append_cons ..).symm.trans e)
        exact (before.step_iff call).mpr (clean made call rest (List.append_cons ..).symm)
    refine ⟨exact, ?_⟩
    rintro data later rfl e c call
    obtain ⟨fs, r, h, corrupt, counted⟩ := inSeqNo_of_error call
    rw [counted, ofNat_eq_zero.mpr (clean made _ later rfl fs r h corrupt), UInt32.add_zero]

/-- A valid frame and twelve bytes that announce the length 0, then a retry without new bytes: no
    packet is returned, and the counter is 1 after the first throw and 2 after the second. -/
theorem retry_counts_again :
    let stream := (encodePacket {} [7]).1 ++ List.replicate 12 0
    let once := run [.decodePackets stream]
    let twice := run [.decodePackets stream, .decodePackets []]
    (once.returned = [] ∧ once.codec.inSeqNo = 1) ∧
    (twice.returned = [] ∧ twice.codec.inSeqNo = 2) ∧
    ¬ CounterExact [.decodePackets stream, .decodePackets []] := by
  have once : (run [.decodePackets ((encodePacket {} [7]).1 ++ List.replicate 12 0)]).returned =
        [] ∧
      (run [.decodePackets ((encodePacket {} [7]).1 ++ List.replicate 12 0)]).codec.inSeqNo = 1 := by
    decide +kernel
  refine ⟨once, by decide +kernel, ?_⟩
  intro exact
  have counted := (exact [.decodePackets ((encodePacket {} [7]).1 ++ List.replicate 12 0)]
    [.decodePackets []] rfl).1
  rw [Receiver.Exact, once.1, once.2] at counted
  exact absurd counted (by decide)

/-! ## The order of the packets -/

/-- The frames carry the sequence numbers 0, 1, 2, …, modulo `2 ^ 32`. -/
def Numbered (fs : List (List UInt8)) : Prop :=
  ∀ i (h : i < fs.length), seqField fs[i] = i % 4294967296

/-- `fs` are the frames of the packets returned while these chunks were fed to a new decoder. -/
structure Delivered (chunks fs : List (List UInt8)) : Prop where
  valid : ∀ f ∈ fs, Valid f
  received : fs.flatten <+: chunks.flatten
  returned : (run (chunks.map .decodePackets)).returned = fs.map payload

/-- The states and offsets at which the loop of a call starts a turn. -/
inductive Visits (start : FullCodec) : FullCodec → Nat → Prop
  | start : Visits start start 0
  | next {c o p o' c'} :
    Visits start c o →
    turn c o = .emit p o' c' →
    Visits start c' o'

/-- A new decoder that is fed these chunks, whether calls throw or not, returns packets in the order
    of their sequence numbers: the frames of the packets returned carry 0, 1, 2, …, and no call that
    returns has taken a frame with another number than `in_seq_no` had in that turn. -/
def InSequence (chunks : List (List UInt8)) : Prop :=
  (∃ fs, Delivered chunks fs ∧ Numbered fs) ∧
  ∀ fed data rest, chunks = fed ++ data :: rest →
    let s := (run (fed.map .decodePackets)).codec
    ∀ ps s', decodePackets s data = (.ok ps, s') →
      ∀ c o, Visits { s with buffer := s.buffer ++ data } c o →
        ∀ p o' c', turn c o = .emit p o' c' →
          Bytes.ofLE (Bytes.span c.buffer (o + 4) 4) = c.inSeqNo.toNat

/-- An invalid frame shows up behind valid ones. -/
def Revealed (s : List UInt8) : Prop := ∃ fs r, Frames s fs r ∧ Corrupt r

/-- The valid frames received before any invalid one shows up carry the sequence numbers 0, 1, 2, …
    in the order in which they arrive. -/
def SentInSequence (chunks : List (List UInt8)) : Prop :=
  ∀ fed rest, chunks = fed ++ rest → ¬ Revealed fed.flatten →
    ∀ fs r, Frames fed.flatten fs r → Numbered fs

/-- A run of `decode_packets` calls on a new decoder has returned the packets of the frames that
    were complete before an invalid one showed up, and since then it throws. -/
lemma run_cases (chunks : List (List UInt8)) :
    let s := run (chunks.map .decodePackets)
    ∃ fed rest fs u, chunks = fed ++ rest ∧ Frames fed.flatten fs u ∧ layout.cut u = .more ∧
      s.returned = fs.map payload ∧
      (rest = [] ∧ s.codec.buffer = u ∧ s.codec.inSeqNo = UInt32.ofNat fs.length ∨
        ∃ chunk later, rest = chunk :: later ∧ Revealed (fed ++ [chunk]).flatten ∧
          Revealed s.codec.buffer) := by
  induction chunks using List.reverseRecOn with
  | nil => exact ⟨[], [], [], [], rfl, .nil, rfl, rfl, .inl ⟨rfl, rfl, rfl⟩⟩
  | append_singleton chunks data ih =>
    obtain ⟨fed, rest, fs, u, rfl, h, more, returned, state⟩ := ih
    rw [List.map_append, List.map_singleton, run_concat]
    generalize run ((fed ++ rest).map .decodePackets) = s at returned state
    obtain ⟨gs, r, h', ⟨more', call⟩ | ⟨corrupt, e, call⟩⟩ := decodePackets_cases s.codec data
    · simp only [Receiver.step, call]
      rcases state with ⟨rfl, rfl, counted⟩ | ⟨chunk, later, rfl, -, gs', r', h'', corrupt⟩
      · rw [List.append_nil]
        refine ⟨fed ++ [data], [], fs ++ gs, r, (List.append_nil _).symm, ?_, more', ?_,
          .inl ⟨rfl, rfl, ?_⟩⟩
        · rw [List.flatten_concat]
          exact (h.append data).trans h'
        · rw [returned, List.map_append]
        · rw [counted, List.length_append, UInt32.ofNat_add]
      · -- a call after the throw finds the invalid frame again
        obtain ⟨h'', corrupt⟩ := h''.corrupt_append corrupt data
        obtain ⟨-, rfl⟩ := h''.unique corrupt.stuck h' (Format.stuck_of_more more')
        exact absurd more' corrupt.not_more
    · simp only [Receiver.step, call]
      refine ⟨fed, rest ++ [data], fs, u, List.append_assoc .., h, more, returned, .inr ?_⟩
      rcases state with ⟨rfl, rfl, -⟩ | ⟨chunk, later, rfl, before, -⟩
      · refine ⟨data, [], rfl, ⟨fs ++ gs, r, ?_, corrupt⟩, gs, r, h', corrupt⟩
        rw [List.flatten_concat]
        exact (h.append data).trans h'
      · exact ⟨chunk, later ++ [data], rfl, before, gs, r, h', corrupt⟩

/-- Frames of the stream whose packets have been returned are delivered, also when more comes. -/
lemma Frames.delivered {fed rest fs u} (h : Frames fed.flatten fs u)
    (returned : (run ((fed ++ rest).map .decodePackets)).returned = fs.map payload) :
    Delivered (fed ++ rest) fs := by
  refine ⟨h.valid, ?_, returned⟩
  rw [List.flatten_append, h.split, List.append_assoc]
  exact List.prefix_append ..

/-! ## Turns and sequence numbers -/

/-- A frame that is taken is a valid one in front of the offset. -/
lemma frame_of_emit {c o p o' c'} (taken : turn c o = .emit p o' c') :
    ∃ f t, Valid f ∧ c.buffer.drop o = f ++ t ∧ o' = o + f.length ∧ c' = tick c := by
  rw [turn_eq] at taken
  cases hc : layout.cut (c.buffer.drop o) with
  | more | bad e =>
    rw [hc] at taken
    cases taken
  | frame q n =>
    rw [hc] at taken
    cases taken
    have len : ((c.buffer.drop o).take n).length = n :=
      List.length_take_of_le (layout.format.size_le hc)
    refine ⟨_, (c.buffer.drop o).drop n, (valid_of_cut hc).1, ?_, ?_, rfl⟩
    · rw [List.take_append_drop]
    · rw [len]

/-- A turn of a call starts behind the frames the call has taken and counted. -/
lemma Visits.frames {start c : FullCodec} {o} (h : Visits start c o) :
    ∃ fs, Frames start.buffer fs (start.buffer.drop o) ∧
      c = { start with inSeqNo := start.inSeqNo + UInt32.ofNat fs.length } := by
  induction h with
  | start => exact ⟨[], .nil, congrArg (FullCodec.mk _ · _) (UInt32.add_zero _).symm⟩
  | @next c o p o' c' _ taken ih =>
    obtain ⟨fs, h, rfl⟩ := ih
    obtain ⟨f, t, valid, here, rfl, rfl⟩ := frame_of_emit taken
    have one : Frames (start.buffer.drop o) [f] (start.buffer.drop (o + f.length)) := by
      refine ⟨List.forall_mem_singleton.mpr valid, ?_⟩
      rw [← List.drop_drop, show start.buffer.drop o = f ++ t from here, List.drop_left,
        List.flatten_singleton]
    refine ⟨fs ++ [f], h.trans one, ?_⟩
    rw [tick, List.length_append, UInt32.ofNat_add, ← UInt32.add_assoc]
    rfl

/-- The sequence number is read behind the length of the frame. -/
lemma seqField_eq {buffer f t : List UInt8} {o} (valid : Valid f)
    (here : buffer.drop o = f ++ t) : Bytes.ofLE (Bytes.span buffer (o + 4) 4) = seqField f := by
  have long := valid.long
  have front := Bytes.span_take (s := f ++ t) (i := 4) (m := 4) (n := f.length) (by omega)
  rw [List.take_left] at front
  rw [seqField, front, ← here, Bytes.span_drop]

lemma Numbered.last {fs f} (h : Numbered (fs ++ [f])) : seqField f = fs.length % 4294967296 := by
  have last := h fs.length (by rw [List.length_append]; exact Nat.lt_add_one _)
  rwa [List.getElem_concat_length rfl] at last

/-- Frames in sequence are so from the beginning on. -/
lemma Numbered.of_prefix {fs gs} (h : Numbered gs) (le : fs <+: gs) : Numbered fs := by
  obtain ⟨t, rfl⟩ := le
  intro i hi
  have here := h i (by rw [List.length_append]; omega)
  rwa [List.getElem_append_left hi] at here

/-- Where the frames received so far are counted and numbered, a turn takes the frame whose number
    is the counter's. -/
lemma number_of_turn {s c : FullCodec} {stream data fs o p o' c'} (h : Frames stream fs s.buffer)
    (counted : s.inSeqNo = UInt32.ofNat fs.length)
    (visit : Visits { s with buffer := s.buffer ++ data } c o) (taken : turn c o = .emit p o' c')
    (numbered : ∀ gs r, Frames (stream ++ data) gs r → Numbered gs) :
    Bytes.ofLE (Bytes.span c.buffer (o + 4) 4) = c.inSeqNo.toNat := by
  obtain ⟨gs, h', rfl⟩ := visit.frames
  obtain ⟨f, t, valid, front, -, -⟩ := frame_of_emit taken
  have next : Frames ((s.buffer ++ data).drop o) [f] t := by
    refine ⟨List.forall_mem_singleton.mpr valid, ?_⟩
    rw [List.flatten_singleton]
    exact front
  have all := numbered _ _ (((h.append data).trans h').trans next)
  rw [seqField_eq valid front, all.last, List.length_append]
  change _ = (s.inSeqNo + UInt32.ofNat gs.length).toNat
  rw [counted, ← UInt32.ofNat_add, UInt32.toNat_ofNat']

/-- As long as more is waited for, nothing is revealed. -/
lemma not_revealed {s fs u} (h : Frames s fs u) (more : layout.cut u = .more) : ¬ Revealed s := by
  rintro ⟨gs, r, h', corrupt⟩
  obtain ⟨-, rfl⟩ := h'.unique corrupt.stuck h (Format.stuck_of_more more)
  exact corrupt.not_more more

/-- The frames of the packets returned are determined. -/
lemma Delivered.unique {chunks fs gs} (h : Delivered chunks fs) (h' : Delivered chunks gs) :
    fs = gs := by
  have len : fs.length = gs.length := by
    have same := congrArg List.length (h.returned.symm.trans h'.returned)
    rwa [List.length_map, List.length_map] at same
  obtain ⟨t, ht⟩ := h.received
  obtain ⟨t', ht'⟩ := h'.received
  obtain ⟨ps, r, parse, stuck⟩ := layout.format.exists_parse chunks.flatten
  obtain ⟨all, whole, -⟩ := exists_frames parse
  have before := whole.begins stuck ⟨h.valid, ht.symm⟩
  have before' := whole.begins stuck ⟨h'.valid, ht'.symm⟩
  exact (List.prefix_of_prefix_length_le before before' len.le).eq_of_length len

/-- The full codec returns packets in the order of their sequence numbers exactly when the frames
    were sent in this order: the numbers are carried along and never compared. -/
theorem inSequence_iff (chunks : List (List UInt8)) :
    InSequence chunks ↔ SentInSequence chunks := by
  constructor
  · rintro ⟨⟨ds, delivered, all⟩, -⟩ fed rest split clear fs r h
    obtain ⟨fed', rest', gs, u, split', h', more, returned, state⟩ := run_cases chunks
    rw [split'] at delivered returned
    rw [delivered.unique (h'.delivered returned)] at all
    have longer {t} (e : fed' = fed ++ t) : Numbered fs := by
      have h := h.append t.flatten
      rw [← List.flatten_append, ← e] at h
      exact all.of_prefix (h'.begins (Format.stuck_of_more more) h)
    rcases List.append_eq_append_iff.mp (split.symm.trans split') with
      ⟨t, e, -⟩ | ⟨t, e, e'⟩
    · exact longer e
    · cases t with
      | nil => exact longer (t := []) (by rw [e, List.append_nil, List.append_nil])
      | cons chunk t =>
        -- the run has thrown while `fed` was received, so an invalid frame shows up there
        rcases state with ⟨rfl, -, -⟩ | ⟨chunk', later, rfl, ⟨gs', r', h'', corrupt⟩, -⟩
        · cases e'
        · cases e'
          rw [e] at clear
          exact absurd ⟨gs', _, h''.corrupt_flatten t corrupt⟩ clear
  · intro sent
    refine ⟨?_, ?_⟩
    · obtain ⟨fed, rest, fs, u, rfl, h, more, returned, -⟩ := run_cases chunks
      exact ⟨fs, h.delivered returned, sent fed rest rfl (not_revealed h more) fs u h⟩
    · rintro fed data rest rfl s ps s' call c o visit p o' c' taken
      obtain ⟨fed', rest', fs, u, rfl, h, -, -, state⟩ := run_cases fed
      obtain ⟨hs, v, h', ⟨more, -⟩ | ⟨-, e, call'⟩⟩ := decodePackets_cases s data
      · rcases state with ⟨rfl, here, counted⟩ | ⟨-, -, -, -, gs, r, h'', corrupt⟩
        · rw [List.append_nil] at sent
          rw [← show s.buffer = u from here] at h
          refine number_of_turn h counted visit taken ?_
          have received := h.append data
          rw [← List.flatten_concat] at received ⊢
          exact sent (fed' ++ [data]) rest (List.append_cons ..)
            (not_revealed (received.trans h') more)
        · obtain ⟨h'', corrupt⟩ := h''.corrupt_append corrupt data
          exact absurd ⟨gs, _, h'', corrupt⟩ (not_revealed h' more)
      · cases call.symm.trans call'

/-- A frame that is sent twice is delivered twice, both times with the number 0. -/
theorem replay_is_delivered :
    let frame := (encodePacket {} [7]).1
    (run [.decodePackets frame, .decodePackets frame]).returned = [[7], [7]] ∧
    seqField frame = 0 ∧
    ¬ InSequence [frame, frame] := by
  have returned : (run [.decodePackets (encodePacket {} [7]).1,
      .decodePackets (encodePacket {} [7]).1]).returned = [[7], [7]] := by
    decide +kernel
  refine ⟨returned, rfl, ?_⟩
  rintro ⟨⟨fs, delivered, numbered⟩, -⟩
  obtain ⟨valid, carries⟩ := valid_encodePacket (c := {}) (p := [7]) (by decide)
  have twice : Delivered [(encodePacket {} [7]).1, (encodePacket {} [7]).1]
      [(encodePacket {} [7]).1, (encodePacket {} [7]).1] := by
    refine ⟨?_, List.prefix_rfl, returned.trans ?_⟩
    · intro f hf
      rcases List.mem_pair.mp hf with rfl | rfl <;> exact valid
    · rw [List.map_cons, List.map_singleton, carries]
  rw [delivered.unique twice] at numbered
  exact absurd (numbered 1 (by decide)) (by decide)

end CppGram.Transport.FullCodec
