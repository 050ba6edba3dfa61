import Mathlib.Data.List.Forall2
import Mathlib.Logic.Function.Iterate
import Mathlib.Tactic.Lemma

/-!
# Framed streams

A stream of tokens is cut into frames from the front. A `Format` says what the front of a stream
is: too short to tell, a frame, or an error; the answer, once given, must not change when more of
the stream arrives. `Format.Parses s ps r` is the relation "`s` is frames carrying `ps`, then `r`".
`LengthPrefixed.format` is the format of frames whose header announces their size.

The second half is about decoders that receive such a stream in chunks. `loop` is the usual
`while` over an offset into a buffer and `decode` the usual decoder around it: append the chunk,
run the loop, drop what was consumed. `Cuts` says that one turn of the loop implements a format,
and the main results follow from it for every format:

* `Cuts.decode_more`, `Cuts.decode_bad`: what one call returns and leaves in the buffer.
* `Cuts.feedAll_eq`: what a run over chunks returns depends on the stream only, not on where it
  was cut.
* `Implements.feedAll_cases`: what it returns when an error shows up in the stream.
* `decode_map`: what does not matter to the loop does not matter to the decoder.
-/

namespace Framing

/-- What the front of a stream is. -/
inductive Cut (β ε : Type*) where
  /-- A proper part of a frame. -/
  | more
  /-- A frame of `size` tokens that carries `packet`. -/
  | frame (packet : β) (size : Nat)
  /-- No frame, whatever follows. -/
  | bad (error : ε)

/-- A frame format: how to cut the front of a stream, with answers that are final. -/
structure Format (α β ε : Type*) where
  cut : List α → Cut β ε
  size_pos : ∀ {s p n}, cut s = .frame p n → 0 < n
  size_le : ∀ {s p n}, cut s = .frame p n → n ≤ s.length
  frame_append : ∀ {s p n} (t), cut s = .frame p n → cut (s ++ t) = .frame p n
  bad_append : ∀ {s e} (t), cut s = .bad e → cut (s ++ t) = .bad e

namespace Format

variable {α β ε : Type*} {F : Format α β ε}

/-- `F.Parses s ps r`: the stream `s` is frames that carry `ps`, followed by `r`. -/
inductive Parses (F : Format α β ε) : List α → List β → List α → Prop where
  | done {s} : Parses F s [] s
  | frame {s p n ps r} :
    F.cut s = .frame p n →
    Parses F (s.drop n) ps r →
    Parses F s (p :: ps) r

/-- No frame can be taken off the front. -/
def Stuck (F : Format α β ε) (s : List α) : Prop := ∀ p n, F.cut s ≠ .frame p n

/-- Without a whole frame nothing can be taken. -/
lemma stuck_of_more {s} (h : F.cut s = .more) : F.Stuck s := by
  intro p n e
  rw [h] at e
  cases e

/-- A bad frame cannot be taken. -/
lemma stuck_of_bad {s e} (h : F.cut s = .bad e) : F.Stuck s := by
  intro p n e'
  rw [h] at e'
  cases e'

/-- Where nothing can be taken there is no whole frame or a bad one. -/
lemma Stuck.cases {s} (h : F.Stuck s) : F.cut s = .more ∨ ∃ e, F.cut s = .bad e := by
  cases hc : F.cut s with
  | more => exact .inl rfl
  | frame p n => exact absurd hc (h p n)
  | bad e => exact .inr ⟨e, rfl⟩

/-- Frames behind frames. -/
lemma Parses.trans {s r u ps qs} (h : F.Parses s ps r) (h' : F.Parses r qs u) :
    F.Parses s (ps ++ qs) u := by
  induction h with
  | done => exact h'
  | frame hc _ ih => exact .frame hc (ih h')

/-- Frames stay frames when the stream goes on. -/
lemma Parses.append {s r ps} (h : F.Parses s ps r) (t : List α) :
    F.Parses (s ++ t) ps (r ++ t) := by
  induction h with
  | done => exact .done
  | @frame s p n ps r hc _ ih =>
    refine .frame (F.frame_append t hc) ?_
    rw [List.drop_append_of_le_length (F.size_le hc)]
    exact ih

/-- Each frame takes at least one element of the stream. -/
lemma Parses.length_add_le {s r ps} (h : F.Parses s ps r) : ps.length + r.length ≤ s.length := by
  induction h with
  | done => simp
  | @frame s p n ps r hc _ ih =>
    have pos := F.size_pos hc
    have le := F.size_le hc
    rw [List.length_drop] at ih
    rw [List.length_cons]
    omega

/-- The rest of a stream is found by its length. -/
lemma Parses.rest_eq {s r ps} (h : F.Parses s ps r) : s.drop (s.length - r.length) = r := by
  induction h with
  | done => simp
  | @frame s p n ps r hc h ih =>
    have le := F.size_le hc
    have short := h.length_add_le
    rw [List.length_drop] at short
    rw [List.drop_drop, List.length_drop] at ih
    rwa [show s.length - r.length = n + (s.length - n - r.length) by omega]

/-- Any parse is a beginning of the one that runs until the stream is stuck. -/
lemma Parses.split {s r u ps qs} (h : F.Parses s ps r) (stuck : F.Stuck r)
    (h' : F.Parses s qs u) : ∃ ps', ps = qs ++ ps' ∧ F.Parses u ps' r := by
  induction h' generalizing ps with
  | done => exact ⟨ps, rfl, h⟩
  | @frame s p n qs u hc _ ih =>
    cases h with
    | done => exact absurd hc (stuck p n)
    | frame hc' h =>
      rw [hc] at hc'
      cases hc'
      obtain ⟨ps', e, h⟩ := ih h
      exact ⟨ps', by rw [e, List.cons_append], h⟩

/-- A stream has one sequence of frames up to where it is stuck. -/
lemma Parses.unique {s r u ps qs} (h : F.Parses s ps r) (stuck : F.Stuck r)
    (h' : F.Parses s qs u) (stuck' : F.Stuck u) : ps = qs ∧ r = u := by
  obtain ⟨ps', e, h⟩ := h.split stuck h'
  cases h with
  | done => exact ⟨by rw [e, List.append_nil], rfl⟩
  | frame hc _ => exact absurd hc (stuck' _ _)

/-- What is an error in front of a stream is still one when the stream goes on. -/
lemma more_of_append {s t ps r} (h : F.Parses (s ++ t) ps r) (more : F.cut r = .more) :
    ∀ e, F.cut s ≠ .bad e := by
  intro e bad
  have bad := F.bad_append t bad
  obtain ⟨-, rfl⟩ := h.unique (stuck_of_more more) .done (stuck_of_bad bad)
  rw [bad] at more
  cases more

/-- Each stream is cut into frames up to where it is stuck. -/
lemma exists_parse (F : Format α β ε) (s : List α) : ∃ ps r, F.Parses s ps r ∧ F.Stuck r := by
  induction e : s.length using Nat.strongRecOn generalizing s with
  | ind k ih =>
    cases hc : F.cut s with
    | more => exact ⟨[], s, .done, stuck_of_more hc⟩
    | bad e => exact ⟨[], s, .done, stuck_of_bad hc⟩
    | frame p n =>
      have pos := F.size_pos hc
      have le := F.size_le hc
      obtain ⟨ps, r, h, stuck⟩ := ih (s.drop n).length (by rw [List.length_drop]; omega) _ rfl
      exact ⟨p :: ps, r, .frame hc h, stuck⟩

/-- A parse of a stream in two parts cuts the first part, and goes on with what is left of it. -/
lemma Parses.of_append {s t ps r} (h : F.Parses (s ++ t) ps r) (more : F.cut r = .more) :
    ∃ qs u qs', F.Parses s qs u ∧ F.cut u = .more ∧ ps = qs ++ qs' ∧ F.Parses (u ++ t) qs' r := by
  obtain ⟨qs, u, h', stuck⟩ := F.exists_parse s
  obtain ⟨qs', e, rest⟩ := h.split (stuck_of_more more) (h'.append t)
  refine ⟨qs, u, qs', h', ?_, e, rest⟩
  rcases stuck.cases with more' | ⟨e, bad⟩
  · exact more'
  · exact absurd bad (more_of_append rest more e)

/-- A stream none of whose parses meets an error can be cut until more is needed. -/
lemma exists_parse_more {s : List α} (good : ∀ ps r, F.Parses s ps r → ∀ e, F.cut r ≠ .bad e) :
    ∃ ps r, F.Parses s ps r ∧ F.cut r = .more := by
  obtain ⟨ps, r, h, stuck⟩ := F.exists_parse s
  refine ⟨ps, r, h, ?_⟩
  rcases stuck.cases with more | ⟨e, bad⟩
  · exact more
  · exact absurd bad (good ps r h e)

/-- Frames that are each recognised, whatever stands behind them, are cut out in turn. -/
lemma parses_of_frames {fs : List (List α)} {ps : List β}
    (h : List.Forall₂ (fun f p => ∀ t, F.cut (f ++ t) = .frame p f.length) fs ps) (t : List α) :
    F.Parses (fs.flatten ++ t) ps t := by
  induction h with
  | nil => exact .done
  | @cons f p fs ps hc _ ih =>
    rw [List.flatten_cons, List.append_assoc]
    refine .frame (hc _) ?_
    rwa [List.drop_left]

end Format

/-- A length-prefixed format: a header that announces the size of the whole frame, and the packet
    read from a frame of that size. -/
structure LengthPrefixed (α β ε : Type*) where
  /-- The size announced at the front of a stream, `none` while the header is incomplete. -/
  total : List α → Option (Except ε Nat)
  /-- The packet of a complete frame. -/
  unpack : List α → Except ε β
  total_pos : ∀ {s n}, total s = some (.ok n) → 0 < n
  total_append : ∀ {s x} (t), total s = some x → total (s ++ t) = some x

namespace LengthPrefixed

variable {α β ε : Type*} {L : LengthPrefixed α β ε}

/-- Cut a frame of the announced size once it is there. -/
def cut (L : LengthPrefixed α β ε) (s : List α) : Cut β ε :=
  match L.total s with
  | none => .more
  | some (.error e) => .bad e
  | some (.ok n) =>
    if s.length < n then .more
    else
      match L.unpack (s.take n) with
      | .ok p => .frame p n
      | .error e => .bad e

lemma cut_none {s} (h : L.total s = none) : L.cut s = .more := by
  rw [cut, h]

lemma cut_error {s e} (h : L.total s = some (.error e)) : L.cut s = .bad e := by
  rw [cut, h]

lemma cut_short {s n} (h : L.total s = some (.ok n)) (short : s.length < n) : L.cut s = .more := by
  simp only [cut, h, if_pos short]

lemma cut_ok {s n p} (h : L.total s = some (.ok n)) (whole : n ≤ s.length)
    (hp : L.unpack (s.take n) = .ok p) : L.cut s = .frame p n := by
  simp only [cut, h, if_neg (Nat.not_lt.mpr whole), hp]

lemma cut_invalid {s n e} (h : L.total s = some (.ok n)) (whole : n ≤ s.length)
    (he : L.unpack (s.take n) = .error e) : L.cut s = .bad e := by
  simp only [cut, h, if_neg (Nat.not_lt.mpr whole), he]

/-- What a frame was taken from: its length, its bytes and its payload. -/
lemma cut_frame_inv {s p n} (h : L.cut s = .frame p n) :
    L.total s = some (.ok n) ∧ n ≤ s.length ∧ L.unpack (s.take n) = .ok p := by
  simp only [cut] at h
  split at h
  · cases h
  · cases h
  · rename_i k ht
    split at h
    · cases h
    · rename_i whole
      split at h
      · rename_i q hq
        cases h
        exact ⟨ht, Nat.not_lt.mp whole, hq⟩
      · cases h

/-- Where a bad frame comes from: its length or its contents. -/
lemma cut_bad_inv {s e} (h : L.cut s = .bad e) :
    L.total s = some (.error e) ∨
      ∃ n, L.total s = some (.ok n) ∧ n ≤ s.length ∧ L.unpack (s.take n) = .error e := by
  simp only [cut] at h
  split at h
  · cases h
  · rename_i ht
    cases h
    exact .inl ht
  · rename_i k ht
    split at h
    · cases h
    · rename_i whole
      split at h
      · cases h
      · rename_i he
        cases h
        exact .inr ⟨k, ht, Nat.not_lt.mp whole, he⟩

/-- The format of the frames that carry their length in front. -/
def format (L : LengthPrefixed α β ε) : Format α β ε where
  cut := L.cut
  size_pos h := L.total_pos (cut_frame_inv h).1
  size_le h := (cut_frame_inv h).2.1
  frame_append t h := by
    obtain ⟨ht, whole, hp⟩ := cut_frame_inv h
    refine cut_ok (L.total_append t ht) (by rw [List.length_append]; omega) ?_
    rwa [List.take_append_of_le_length whole]
  bad_append t h := by
    rcases cut_bad_inv h with ht | ⟨n, ht, whole, he⟩
    · exact cut_error (L.total_append t ht)
    · refine cut_invalid (L.total_append t ht) (by rw [List.length_append]; omega) ?_
      rwa [List.take_append_of_le_length whole]

end LengthPrefixed

/-! ## Decoders that receive the stream in chunks -/

/-- A state with a carry-over buffer in it. -/
structure Buffer (κ α : Type*) where
  get : κ → List α
  set : κ → List α → κ
  get_set : ∀ {c b}, get (set c b) = b
  set_set : ∀ {c b b'}, set (set c b) b' = set c b'
  set_get : ∀ {c}, set c (get c) = c

/-- What one turn of a decoding loop does at an offset. -/
inductive Turn (κ β ε : Type*) where
  /-- Leave the loop. -/
  | stop
  /-- Emit a packet and go on at another offset in another state. -/
  | emit (packet : β) (next : Nat) (state : κ)
  /-- Leave the loop with an error. -/
  | fail (error : ε)

variable {α β ε κ : Type*}

/-- The turn that a cut at an offset asks for. -/
def Cut.toTurn (x : Cut β ε) (c : κ) (o : Nat) : Turn κ β ε :=
  match x with
  | .more => .stop
  | .frame p n => .emit p (o + n) c
  | .bad e => .fail e

/-- `while (true)` over turns, from an offset and with the packets emitted so far. A loop that is
    still running when the fuel is used up is reported as `endless`. -/
def loop (turn : κ → Nat → Turn κ β ε) (endless : ε) :
    Nat → κ → Nat → List β → Except ε (List β) × κ × Nat
  | 0, c, o, _ => (.error endless, c, o)
  | fuel + 1, c, o, ps =>
    match turn c o with
    | .stop => (.ok ps, c, o)
    | .emit p o' c' => loop turn endless fuel c' o' (ps ++ [p])
    | .fail e => (.error e, c, o)

/-- One call of a decoder: append the chunk to the buffer, run the loop from offset 0, and drop
    what it consumed. An error leaves the loop before anything is dropped. -/
def decode (buf : Buffer κ α) (turn : κ → Nat → Turn κ β ε) (endless : ε) (c : κ)
    (chunk : List α) : Except ε (List β) × κ :=
  let c := buf.set c (buf.get c ++ chunk)
  match loop turn endless ((buf.get c).length + 1) c 0 [] with
  | (.ok packets, c, offset) => (.ok packets, buf.set c ((buf.get c).drop offset))
  | (.error e, c, _) => (.error e, c)

/-- A loop that ends without an error ends with a turn that stops. -/
lemma loop_stop {turn : κ → Nat → Turn κ β ε} {endless : ε} {fuel c o acc ps c' o'}
    (h : loop turn endless fuel c o acc = (.ok ps, c', o')) : turn c' o' = .stop := by
  induction fuel generalizing c o acc with
  | zero => cases h
  | succ fuel ih =>
    rw [loop] at h
    split at h
    · rename_i stop
      cases h
      exact stop
    · exact ih h
    · cases h

/-- What a call without an error leaves in the buffer is what a turn has stopped in front of. -/
lemma decode_stop {buf : Buffer κ α} {turn : κ → Nat → Turn κ β ε} {endless : ε} {c chunk ps c'}
    (h : decode buf turn endless c chunk = (.ok ps, c')) :
    ∃ d o, turn d o = .stop ∧ c' = buf.set d ((buf.get d).drop o) := by
  rw [decode] at h
  split at h
  · rename_i ps' d o run
    cases h
    exact ⟨d, o, loop_stop run, rfl⟩
  · cases h

/-- Feed chunks one after the other: the packets returned up to the first error, that error, and
    the last state. -/
def feedAll (dec : κ → List α → Except ε (List β) × κ) :
    κ → List (List α) → List β × Option ε × κ
  | c, [] => ([], none, c)
  | c, chunk :: chunks =>
    match dec c chunk with
    | (.ok ps, c') =>
      let (qs, e, c'') := feedAll dec c' chunks
      (ps ++ qs, e, c'')
    | (.error e, c') => ([], some e, c')

/-- One turn of the loop implements the format `F` wherever `F` reports no error; `tick` is what a
    turn does to the rest of the state when it emits. -/
structure Cuts (F : Format α β ε) (buf : Buffer κ α) (turn : κ → Nat → Turn κ β ε)
    (tick : κ → κ) : Prop where
  stop : ∀ {c o}, F.cut ((buf.get c).drop o) = .more → turn c o = .stop
  emit : ∀ {c o p n}, F.cut ((buf.get c).drop o) = .frame p n → turn c o = .emit p (o + n) (tick c)
  tick_set : ∀ {c b}, tick (buf.set c b) = buf.set (tick c) b

namespace Cuts

variable {F : Format α β ε} {buf : Buffer κ α} {turn : κ → Nat → Turn κ β ε} {tick : κ → κ}
variable (endless : ε)

/-- It does when a turn is what the cut at its offset asks for, unless that is an error. -/
lemma of_toTurn (h : ∀ {c o}, (∀ e, F.cut ((buf.get c).drop o) ≠ .bad e) →
      turn c o = (F.cut ((buf.get c).drop o)).toTurn (tick c) o)
    (tick_set : ∀ {c b}, tick (buf.set c b) = buf.set (tick c) b) : Cuts F buf turn tick where
  stop more := by
    rw [h (by rw [more]; nofun), more]
    rfl
  emit frame := by
    rw [h (by rw [frame]; nofun), frame]
    rfl
  tick_set := tick_set

/-- A tick leaves the buffer as it is. -/
lemma get_tick (cuts : Cuts F buf turn tick) {c} : buf.get (tick c) = buf.get c := by
  have h := cuts.tick_set (c := c) (b := buf.get c)
  rw [buf.set_get] at h
  rw [h, buf.get_set]

/-- Ticks and the buffer do not depend on each other. -/
lemma iterate_set (cuts : Cuts F buf turn tick) {c b} (n : Nat) :
    tick^[n] (buf.set c b) = buf.set (tick^[n] c) b := by
  induction n generalizing c with
  | zero => rfl
  | succ n ih => rw [Function.iterate_succ_apply, cuts.tick_set, ih, Function.iterate_succ_apply]

/-- The loop runs through the frames of the buffer and arrives at what is left. -/
lemma loop_frames (cuts : Cuts F buf turn tick) {c o ps r} (acc : List β) (fuel : Nat)
    (h : F.Parses ((buf.get c).drop o) ps r) (inside : o ≤ (buf.get c).length) :
    loop turn endless (ps.length + fuel) c o acc =
      loop turn endless fuel (tick^[ps.length] c) ((buf.get c).length - r.length) (acc ++ ps) := by
  generalize e : (buf.get c).drop o = s at h
  induction h generalizing c o acc with
  | done =>
    have here : (buf.get c).length - ((buf.get c).drop o).length = o := by
      rw [List.length_drop]
      omega
    subst e
    rw [here, List.append_nil, List.length_nil, Nat.zero_add]
    rfl
  | @frame s p n ps r hc _ ih =>
    subst e
    have le := F.size_le hc
    rw [List.length_drop] at le
    have rest : (buf.get (tick c)).drop (o + n) = ((buf.get c).drop o).drop n := by
      rw [cuts.get_tick, List.drop_drop]
    have ih := ih (acc ++ [p]) (by rw [cuts.get_tick]; omega) rest
    rw [cuts.get_tick, List.append_assoc] at ih
    rw [List.length_cons, Nat.add_right_comm, loop, cuts.emit hc, Function.iterate_succ_apply]
    exact ih

/-- A call takes the whole frames of its buffer, one a turn. -/
lemma loop_call (cuts : Cuts F buf turn tick) {c b ps r} (h : F.Parses b ps r) :
    loop turn endless (b.length + 1) (buf.set c b) 0 [] =
      loop turn endless (b.length - ps.length + 1) (buf.set (tick^[ps.length] c) b)
        (b.length - r.length) ps := by
  have len := h.length_add_le
  have run := cuts.loop_frames endless (c := buf.set c b) (o := 0) []
    (b.length - ps.length + 1) (by rwa [buf.get_set]) (Nat.zero_le _)
  rw [cuts.iterate_set, buf.get_set, List.nil_append] at run
  rwa [show b.length + 1 = ps.length + (b.length - ps.length + 1) by omega]

/-- A call that meets no error returns the complete frames and keeps the rest. -/
theorem decode_more (cuts : Cuts F buf turn tick) {c chunk ps r}
    (h : F.Parses (buf.get c ++ chunk) ps r) (more : F.cut r = .more) :
    decode buf turn endless c chunk = (.ok ps, buf.set (tick^[ps.length] c) r) := by
  have stop : turn (buf.set (tick^[ps.length] c) (buf.get c ++ chunk))
      ((buf.get c ++ chunk).length - r.length) = .stop := by
    apply cuts.stop
    rwa [buf.get_set, h.rest_eq]
  simp only [decode, buf.get_set, cuts.loop_call endless h]
  simp only [loop, stop, buf.get_set, buf.set_set, h.rest_eq]

/-- A call that meets an error returns nothing, keeps the whole buffer, and has ticked once for
    each frame before the error. -/
theorem decode_bad (cuts : Cuts F buf turn tick) {c chunk ps r e}
    (h : F.Parses (buf.get c ++ chunk) ps r)
    (bad : ∀ {c o}, (buf.get c).drop o = r → turn c o = .fail e) :
    decode buf turn endless c chunk =
      (.error e, buf.set (tick^[ps.length] c) (buf.get c ++ chunk)) := by
  have fail : turn (buf.set (tick^[ps.length] c) (buf.get c ++ chunk))
      ((buf.get c ++ chunk).length - r.length) = .fail e := by
    apply bad
    rw [buf.get_set, h.rest_eq]
  simp only [decode, buf.get_set, cuts.loop_call endless h]
  simp only [loop, fail]

/-- A run over chunks returns the frames of the whole stream, wherever it was cut. -/
theorem feedAll_eq (cuts : Cuts F buf turn tick) {c ps r} {chunks : List (List α)}
    (start : F.cut (buf.get c) = .more) (h : F.Parses (buf.get c ++ chunks.flatten) ps r)
    (more : F.cut r = .more) :
    feedAll (decode buf turn endless) c chunks =
      (ps, none, buf.set (tick^[ps.length] c) r) := by
  induction chunks generalizing c ps with
  | nil =>
    rw [List.flatten_nil, List.append_nil] at h
    obtain ⟨rfl, rfl⟩ := h.unique (Format.stuck_of_more more) .done (Format.stuck_of_more start)
    exact congrArg (fun s => (_, _, s)) buf.set_get.symm
  | cons chunk chunks ih =>
    rw [List.flatten_cons, ← List.append_assoc] at h
    -- an error in the first chunk would still be there at the end of the stream
    obtain ⟨qs, u, ps', h1, more1, rfl, h2⟩ := h.of_append more
    have ih := ih (c := buf.set (tick^[qs.length] c) u) (by rwa [buf.get_set])
      (by rwa [buf.get_set])
    rw [cuts.iterate_set, buf.set_set, ← Function.iterate_add_apply] at ih
    rw [feedAll, cuts.decode_more endless h1 more1]
    simp only [ih, List.length_append, Nat.add_comm]

end Cuts

/-- One turn of the loop implements `F` everywhere: it fails where `F` reports an error. -/
structure Implements (F : Format α β ε) (buf : Buffer κ α) (turn : κ → Nat → Turn κ β ε)
    (tick : κ → κ) : Prop extends Cuts F buf turn tick where
  fail : ∀ {c o e}, F.cut ((buf.get c).drop o) = .bad e → turn c o = .fail e

namespace Implements

variable {F : Format α β ε} {buf : Buffer κ α} {turn : κ → Nat → Turn κ β ε} {tick : κ → κ}
variable (endless : ε)

/-- A turn that decides as the format does, failures included, implements it. -/
lemma of_toTurn (h : ∀ {c o}, turn c o = (F.cut ((buf.get c).drop o)).toTurn (tick c) o)
    (tick_set : ∀ {c b}, tick (buf.set c b) = buf.set (tick c) b) :
    Implements F buf turn tick where
  toCuts := .of_toTurn (fun _ => h) tick_set
  fail bad := by
    rw [h, bad]
    rfl

/-- A bad frame ends the call; the buffer and what came before it stay. -/
lemma decode_error (impl : Implements F buf turn tick) {c chunk ps r e}
    (h : F.Parses (buf.get c ++ chunk) ps r) (bad : F.cut r = .bad e) :
    decode buf turn endless c chunk =
      (.error e, buf.set (tick^[ps.length] c) (buf.get c ++ chunk)) := by
  apply impl.toCuts.decode_bad endless h
  intro c o here
  apply impl.fail
  rw [here]
  exact bad

/-- A run over chunks from a state whose buffer starts no frame: either no error shows up in the
    stream and the run returns all its frames, or it returns those that were complete before the
    chunk in which the error shows up, and not the frames `qs` that this chunk completes. -/
theorem feedAll_cases (impl : Implements F buf turn tick) {c} (chunks : List (List α))
    (start : F.cut (buf.get c) = .more) :
    (∃ ps r, F.Parses (buf.get c ++ chunks.flatten) ps r ∧ F.cut r = .more ∧
      feedAll (decode buf turn endless) c chunks =
        (ps, none, buf.set (tick^[ps.length] c) r)) ∨
    (∃ fed chunk rest ps u qs r e, chunks = fed ++ chunk :: rest ∧
      F.Parses (buf.get c ++ fed.flatten) ps u ∧ F.cut u = .more ∧
      F.Parses (u ++ chunk) qs r ∧ F.cut r = .bad e ∧
      feedAll (decode buf turn endless) c chunks =
        (ps, some e, buf.set (tick^[ps.length + qs.length] c) (u ++ chunk))) := by
  induction chunks generalizing c with
  | nil =>
    refine .inl ⟨[], buf.get c, ?_, start, ?_⟩
    · rw [List.flatten_nil, List.append_nil]
      exact .done
    · exact congrArg (fun s => (_, _, s)) buf.set_get.symm
  | cons chunk chunks ih =>
    obtain ⟨ps, r, h, stuck⟩ := F.exists_parse (buf.get c ++ chunk)
    rcases stuck.cases with more | ⟨e, bad⟩
    · have ih := ih (c := buf.set (tick^[ps.length] c) r) (by rwa [buf.get_set])
      have call := impl.toCuts.decode_more endless h more
      simp only [buf.get_set, impl.toCuts.iterate_set, buf.set_set] at ih
      rcases ih with ⟨qs, u, h', more', run⟩ | ⟨fed, chunk', rest, qs, u, qs', r', e, rfl, h', rest'⟩
      · refine .inl ⟨ps ++ qs, u, ?_, more', ?_⟩
        · rw [List.flatten_cons, ← List.append_assoc]
          exact (h.append _).trans h'
        · rw [feedAll, call]
          simp only [run, List.length_append, Nat.add_comm ps.length, Function.iterate_add_apply]
      · obtain ⟨more', h'', bad, run⟩ := rest'
        refine .inr ⟨chunk :: fed, chunk', rest, ps ++ qs, u, qs', r', e, rfl, ?_, more', h'', bad,
          ?_⟩
        · rw [List.flatten_cons, ← List.append_assoc]
          exact (h.append _).trans h'
        · rw [feedAll, call]
          simp only [run, List.length_append, ← Function.iterate_add_apply]
          rw [Nat.add_comm (qs.length + qs'.length), Nat.add_assoc]
    · refine .inr ⟨[], chunk, chunks, [], buf.get c, ps, r, e, rfl, ?_, start, h, bad, ?_⟩
      · rw [List.flatten_nil, List.append_nil]
        exact .done
      · rw [feedAll, impl.decode_error endless h bad, List.length_nil, Nat.zero_add]

end Implements

/-! ## Decoders that hold more -/

section
variable {κ' : Type*} {buf : Buffer κ α} {buf' : Buffer κ' α} {f : κ → κ'}
variable {turn : κ → Nat → Turn κ β ε} {turn' : κ' → Nat → Turn κ' β ε}

/-- A turn on what `f` makes of the state. -/
def Turn.map (f : κ → κ') : Turn κ β ε → Turn κ' β ε
  | .stop => .stop
  | .emit packet next state => .emit packet next (f state)
  | .fail error => .fail error

/-- A loop goes on alike in two states if each turn does. -/
lemma loop_map (turns : ∀ c o, turn' (f c) o = (turn c o).map f) (endless : ε) (fuel c o acc) :
    loop turn' endless fuel (f c) o acc =
      ((loop turn endless fuel c o acc).1, f (loop turn endless fuel c o acc).2.1,
        (loop turn endless fuel c o acc).2.2) := by
  induction fuel generalizing c o acc with
  | zero => rfl
  | succ fuel ih =>
    rw [loop, loop, turns]
    cases turn c o with
    | stop => rfl
    | fail e => rfl
    | emit p o' c' => exact ih c' o' _

/-- A decoder whose turns and buffer do not depend on what `f` changes of the state decodes the same
    before and after. -/
lemma decode_map (gets : ∀ c, buf'.get (f c) = buf.get c)
    (sets : ∀ c b, buf'.set (f c) b = f (buf.set c b))
    (turns : ∀ c o, turn' (f c) o = (turn c o).map f) (endless : ε) (c chunk) :
    decode buf' turn' endless (f c) chunk =
      ((decode buf turn endless c chunk).1, f (decode buf turn endless c chunk).2) := by
  rw [decode, decode, gets, sets, gets]
  simp only [loop_map turns]
  generalize loop turn endless _ _ 0 [] = run
  obtain ⟨result, c', o⟩ := run
  cases result with
  | error e => rfl
  | ok ps =>
    simp only
    rw [gets, sets]

end

end Framing
