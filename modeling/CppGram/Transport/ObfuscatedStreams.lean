import CppGram.Transport.AbridgedStreams
import CppGram.Transport.IntermediateSafety
import CppGram.Transport.Obfuscated
import CppGram.Transport.RoundTrip

/-!
# Segmentation and the obfuscated codec

`decode_packets` decrypts each chunk with the keystream from position 0, so what two chunks are
decrypted to is not what they are decrypted to together. `sameAsOneCall_iff` reduces the question
whether the codec notices to the two plaintext streams, for any inner codec that cuts a framed
stream; `segmentation_iff` answers it for the abridged and the intermediate codec.
-/

namespace CppGram.Transport.ObfuscatedCodec
open Framing CryptoUtils StreamCipher

variable {ctr : Keystream} {κ : Type}

/-- What two calls decrypt `a` and `b` to. -/
def twoCalls (c : ObfuscatedCodec ctr κ) (a b : List UInt8) : List UInt8 :=
  mask (ctr c.decKey c.decIv) 0 a ++ mask (ctr c.decKey c.decIv) 0 b

/-- What one call decrypts them to. -/
def oneCall (c : ObfuscatedCodec ctr κ) (a b : List UInt8) : List UInt8 :=
  mask (ctr c.decKey c.decIv) 0 a ++ mask (ctr c.decKey c.decIv) a.length b

/-- The two plaintext streams are the same where the keystream repeats, and only there. -/
lemma twoCalls_eq_iff {c : ObfuscatedCodec ctr κ} {a b : List UInt8} (s : List UInt8) :
    s ++ twoCalls c a b = s ++ oneCall c a b ↔
      ∀ i < b.length, ctr c.decKey c.decIv i = ctr c.decKey c.decIv (a.length + i) := by
  have same := mask_eq_iff (ctr c.decKey c.decIv) 0 a.length b
  simp only [Nat.zero_add] at same
  rw [twoCalls, oneCall, List.append_right_inj, List.append_right_inj, same]

variable [ITransportCodec κ]

/-- The states of a codec that was made around `inner`: whatever has been encoded and decoded since,
    as long as the calls returned. -/
inductive Reachable (inner : κ) : ObfuscatedCodec ctr κ → Prop where
  | new {tagProto draws c} :
    new (some inner) tagProto draws = some c →
    Reachable inner c
  | encode {c} (data) :
    Reachable inner c →
    Reachable inner (encodePacket c data).2
  | decode {c data ps c'} :
    Reachable inner c →
    decodePackets c data = (.ok ps, c') →
    Reachable inner c'
  | reset {c} :
    Reachable inner c →
    Reachable inner (reset c)

/-- Two calls return together what one call returns and leave the same inner codec. -/
def SameAsOneCall (c : ObfuscatedCodec ctr κ) (a b : List UInt8) : Prop :=
  ∃ ps c' qs c'' rs d,
    decodePackets c a = (.ok ps, c') ∧ decodePackets c' b = (.ok qs, c'') ∧
    decodePackets c (a ++ b) = (.ok rs, d) ∧
    ps ++ qs = rs ∧ c''.innerCodec = d.innerCodec

section
variable {fits : List UInt8 → Prop} (F : CodecFormat κ fits)

/-- A call on a codec whose inner buffer starts no frame. -/
lemma decodePackets_inner {c : ObfuscatedCodec ctr κ} {inner : κ} (data : List UInt8) {ps r}
    (has : c.innerCodec = some inner) (start : F.L.cut (F.buf.get inner) = .more)
    (parse : F.L.format.Parses (F.buf.get inner ++ mask (ctr c.decKey c.decIv) 0 data) ps r)
    (more : F.L.cut r = .more) :
    decodePackets c data =
      (.ok ps, { c with innerCodec := some (F.buf.set (F.tick^[ps.length] inner) r) }) := by
  cases data with
  | nil =>
    rw [mask, List.append_nil] at parse
    obtain ⟨rfl, rfl⟩ := parse.unique (Format.stuck_of_more more) .done (Format.stuck_of_more start)
    simp only [decodePackets, has, List.length_nil, if_true, Function.iterate_zero, id]
    rw [F.buf.set_get, ← has]
  | cons b data =>
    have call := F.cuts.decode_more .endlessLoop parse more
    have inner_call := (F.loops inner (aesCtr ctr c.decKey c.decIv (b :: data))).trans call
    simp only [decodePackets, has, List.length_cons, Nat.succ_ne_zero, if_false, inner_call]

/-- Whether two calls can be told from one shows in how the two plaintext streams are cut. -/
theorem sameAsOneCall_iff {c : ObfuscatedCodec ctr κ} {inner : κ} {a b ps r qs u}
    (has : c.innerCodec = some inner) (start : F.L.cut (F.buf.get inner) = .more)
    (two : F.L.format.Parses (F.buf.get inner ++ twoCalls c a b) ps r) (more : F.L.cut r = .more)
    (one : F.L.format.Parses (F.buf.get inner ++ oneCall c a b) qs u)
    (more' : F.L.cut u = .more) :
    SameAsOneCall c a b ↔ ps = qs ∧ r = u := by
  rw [twoCalls, ← List.append_assoc] at two
  obtain ⟨ps₁, r₁, ps₂, parse₁, more₁, rfl, parse₂⟩ := two.of_append more
  have first := decodePackets_inner F a has start parse₁ more₁
  have second := decodePackets_inner F (c := { c with
      innerCodec := some (F.buf.set (F.tick^[ps₁.length] inner) r₁) }) b rfl
    (by rwa [F.buf.get_set]) (by rwa [F.buf.get_set]) more
  have both := decodePackets_inner F (a ++ b) has start (by
    rw [mask_append, Nat.zero_add]
    exact one) more'
  rw [F.cuts.iterate_set, F.buf.set_set, ← Function.iterate_add_apply, Nat.add_comm ps₂.length,
    ← List.length_append] at second
  constructor
  · rintro ⟨_, _, _, _, _, _, call₁, call₂, call, packets, left⟩
    cases first.symm.trans call₁
    cases second.symm.trans call₂
    cases both.symm.trans call
    have same := congrArg F.buf.get (Option.some.inj left)
    rw [F.buf.get_set, F.buf.get_set] at same
    exact ⟨packets, same⟩
  · rintro ⟨rfl, rfl⟩
    exact ⟨_, _, _, _, _, _, first, second, both, rfl, rfl⟩

end

/-! ## The two inner codecs -/

/-- `ObfuscatedCodec` does not touch the buffer of a reachable inner codec but through its decoder,
    which leaves no frame in it. -/
lemma Reachable.exists_inner {fits : List UInt8 → Prop} (F : CodecFormat κ fits) {fresh : κ}
    (empty : F.buf.get fresh = [])
    (encodes : ∀ (k : κ) data, F.buf.get (ITransportCodec.encodePacket k data).2 = F.buf.get k)
    (resets : ∀ k : κ, F.buf.get (ITransportCodec.reset k) = [])
    (stops : ∀ (k : κ) o, F.turn k o = .stop → F.L.cut ((F.buf.get k).drop o) = .more)
    {c : ObfuscatedCodec ctr κ} (h : Reachable fresh c) :
    ∃ inner, c.innerCodec = some inner ∧ F.L.cut (F.buf.get inner) = .more := by
  induction h with
  | new made =>
    obtain ⟨drawn, -, rfl⟩ := Option.map_eq_some_iff.mp made
    exact ⟨fresh, rfl, by rw [empty]; exact F.nothing⟩
  | @encode c data _ ih =>
    obtain ⟨inner, has, start⟩ := ih
    refine ⟨(ITransportCodec.encodePacket inner data).2, ?_, by rwa [encodes]⟩
    simp only [encodePacket, has]
    split <;> rfl
  | @decode c data ps c' _ call ih =>
    obtain ⟨inner, has, start⟩ := ih
    simp only [decodePackets, has] at call
    split at call
    · cases call
      exact ⟨inner, has, start⟩
    · cases hd : ITransportCodec.decodePackets inner (aesCtr ctr c.decKey c.decIv data) with
      | mk result left =>
        rw [hd] at call
        cases call
        rw [F.loops] at hd
        obtain ⟨k, o, stop, rfl⟩ := decode_stop hd
        exact ⟨_, rfl, by rw [F.buf.get_set]; exact stops k o stop⟩
  | @reset c _ ih =>
    obtain ⟨inner, has, -⟩ := ih
    refine ⟨ITransportCodec.reset inner, ?_, by rw [resets]; exact F.nothing⟩
    rw [ObfuscatedCodec.reset, has]
    rfl

/-- Whatever the abridged codec inside has been fed, it has taken all whole frames. -/
lemma Reachable.abridged_starts {c : ObfuscatedCodec ctr AbridgedCodec} {inner : AbridgedCodec}
    (h : Reachable {} c) (has : c.innerCodec = some inner) :
    AbridgedCodec.layout.cut inner.buffer = .more := by
  obtain ⟨_, has', start⟩ := h.exists_inner AbridgedCodec.codecFormat rfl (fun _ _ => rfl)
    (fun _ => rfl) fun _ _ => AbridgedCodec.cut_of_stop
  cases has.symm.trans has'
  exact start

/-- Whatever the intermediate codec inside has been fed, it has taken all whole frames. -/
lemma Reachable.intermediate_starts {c : ObfuscatedCodec ctr IntermediateCodec}
    {inner : IntermediateCodec} (h : Reachable {} c) (has : c.innerCodec = some inner) :
    IntermediateCodec.layout.cut inner.buffer = .more := by
  obtain ⟨_, has', start⟩ := h.exists_inner IntermediateCodec.codecFormat rfl (fun _ _ => rfl)
    (fun _ => rfl) fun _ _ => IntermediateCodec.cut_of_stop
  cases has.symm.trans has'
  exact start

/-- Over the abridged codec two calls return what one call does exactly when what they decrypt the
    bytes to carries the same packets. -/
lemma abridged_iff {c : ObfuscatedCodec ctr AbridgedCodec} {inner : AbridgedCodec}
    (h : Reachable {} c) (has : c.innerCodec = some inner) (a b : List UInt8) :
    SameAsOneCall c a b ↔ AbridgedCodec.SameFrames (inner.buffer ++ twoCalls c a b)
      (inner.buffer ++ oneCall c a b) := by
  have good (s : List UInt8) := Format.exists_parse_more (F := AbridgedCodec.layout.format)
    (s := s) fun _ _ _ _ => AbridgedCodec.cut_ne_bad
  obtain ⟨ps, r, two, more⟩ := good (inner.buffer ++ twoCalls c a b)
  obtain ⟨qs, u, one, more'⟩ := good (inner.buffer ++ oneCall c a b)
  rw [AbridgedCodec.sameFrames_iff two more one more']
  exact sameAsOneCall_iff AbridgedCodec.codecFormat has (h.abridged_starts has) two more one more'

/-- Over the intermediate codec they do exactly when the bytes are decrypted to the same. -/
lemma intermediate_iff {c : ObfuscatedCodec ctr IntermediateCodec} {inner : IntermediateCodec}
    (h : Reachable {} c) (has : c.innerCodec = some inner) {a b : List UInt8}
    (fit_two : IntermediateCodec.LengthsFit (inner.buffer ++ twoCalls c a b))
    (fit_one : IntermediateCodec.LengthsFit (inner.buffer ++ oneCall c a b)) :
    SameAsOneCall c a b ↔
      ∀ i < b.length, ctr c.decKey c.decIv i = ctr c.decKey c.decIv (a.length + i) := by
  obtain ⟨ps, r, two, more⟩ := Format.exists_parse_more
    (IntermediateCodec.lengthsFit_iff.mp fit_two)
  obtain ⟨qs, u, one, more'⟩ := Format.exists_parse_more
    (IntermediateCodec.lengthsFit_iff.mp fit_one)
  have reduced := sameAsOneCall_iff IntermediateCodec.codecFormat has (h.intermediate_starts has)
    two more one more'
  rw [reduced, ← twoCalls_eq_iff inner.buffer]
  have two' := (IntermediateCodec.parses_iff.mp two).2
  have one' := (IntermediateCodec.parses_iff.mp one).2
  constructor
  · rintro ⟨rfl, rfl⟩
    exact two'.trans one'.symm
  · intro same
    rw [same] at two
    exact two.unique (Format.stuck_of_more more) one (Format.stuck_of_more more')

/-- Over a new abridged codec, all bytes of two given lengths are decoded alike in two calls and in
    one exactly when the keystream repeats. -/
lemma abridged_lengths_iff {c : ObfuscatedCodec ctr AbridgedCodec} (h : Reachable {} c)
    (fresh : c.innerCodec = some {}) (m n : Nat) :
    (∀ a b : List UInt8, a.length = m → b.length = n → SameAsOneCall c a b) ↔
      ∀ i < n, ctr c.decKey c.decIv i = ctr c.decKey c.decIv (m + i) := by
  constructor
  · intro all
    let ks := ctr c.decKey c.decIv
    have len (k : Nat) : (mask ks 0 (List.replicate k 0)).length = k := by
      rw [mask_length, List.length_replicate]
    have same := (abridged_iff h fresh _ _).mp (all _ _ (len m) (len n))
    have zeros : twoCalls c (mask ks 0 (List.replicate m 0)) (mask ks 0 (List.replicate n 0)) =
        List.replicate (m + n) 0 := by
      rw [twoCalls, mask_mask, mask_mask, List.replicate_append_replicate]
    have equal := AbridgedCodec.eq_of_sameFrames_zeros zeros (by simp [twoCalls, oneCall]) same
    have repeats := (twoCalls_eq_iff []).mp equal.symm
    rwa [len, len] at repeats
  · rintro repeats a b rfl rfl
    rw [abridged_iff h fresh, (twoCalls_eq_iff _).mpr repeats]
    exact ⟨[], [], [], _, rfl, rfl, .nil, .nil⟩

/-- Decoding depends on the segmentation by the restart of the keystream only. Over the intermediate
    codec two calls do what one call does exactly when the keystream repeats itself for the length of
    the second chunk; over the abridged codec exactly when the two plaintext streams are frames of
    the same packets, and for all bytes of given lengths exactly when the keystream repeats. -/
theorem segmentation_iff (ctr : Keystream) :
    (∀ (c : ObfuscatedCodec ctr IntermediateCodec) (inner : IntermediateCodec) (a b : List UInt8),
      Reachable {} c → c.innerCodec = some inner →
      IntermediateCodec.LengthsFit (inner.buffer ++ twoCalls c a b) →
      IntermediateCodec.LengthsFit (inner.buffer ++ oneCall c a b) →
      (SameAsOneCall c a b ↔
        ∀ i < b.length, ctr c.decKey c.decIv i = ctr c.decKey c.decIv (a.length + i))) ∧
    (∀ (c : ObfuscatedCodec ctr AbridgedCodec) (inner : AbridgedCodec) (a b : List UInt8),
      Reachable {} c → c.innerCodec = some inner →
      (SameAsOneCall c a b ↔ AbridgedCodec.SameFrames (inner.buffer ++ twoCalls c a b)
        (inner.buffer ++ oneCall c a b))) ∧
    (∀ (c : ObfuscatedCodec ctr AbridgedCodec) (m n : Nat),
      Reachable {} c → c.innerCodec = some {} →
      ((∀ a b : List UInt8, a.length = m → b.length = n → SameAsOneCall c a b) ↔
        ∀ i < n, ctr c.decKey c.decIv i = ctr c.decKey c.decIv (m + i))) := by
  refine ⟨?_, ?_, ?_⟩
  · intro c inner a b h has fit_two fit_one
    exact intermediate_iff h has fit_two fit_one
  · intro c inner a b h has
    exact abridged_iff h has a b
  · intro c m n h fresh
    exact abridged_lengths_iff h fresh m n

/-- A new decoder that receives two bytes has no room for a length field. -/
lemma two_bytes_fit {c : ObfuscatedCodec ctr IntermediateCodec} {x y} :
    IntermediateCodec.LengthsFit ([] ++ twoCalls c [x] [y]) ∧
    IntermediateCodec.LengthsFit ([] ++ oneCall c [x] [y]) := by
  constructor
  all_goals
    intro ps r _ split enough
    have len := congrArg List.length split
    simp only [List.length_append, twoCalls, oneCall, mask_length, List.length_cons,
      List.length_nil] at len
    omega

/-- A header of ones is drawn, and two single bytes are received. -/
theorem segmentation_iff_ones :
    let c : ObfuscatedCodec referenceCtr IntermediateCodec :=
      setKeys (some {}) .Intermediate ⟨List.replicate 64 1, rfl⟩
    let d : ObfuscatedCodec referenceCtr AbridgedCodec :=
      setKeys (some {}) .Abridged ⟨List.replicate 64 1, rfl⟩
    (SameAsOneCall c [1] [2] ↔
      ∀ i < 1, referenceCtr c.decKey c.decIv i = referenceCtr c.decKey c.decIv (1 + i)) ∧
    (SameAsOneCall d [1] [2] ↔
      AbridgedCodec.SameFrames ([] ++ twoCalls d [1] [2]) ([] ++ oneCall d [1] [2])) ∧
    ((∀ a b : List UInt8, a.length = 1 → b.length = 1 → SameAsOneCall d a b) ↔
      ∀ i < 1, referenceCtr d.decKey d.decIv i = referenceCtr d.decKey d.decIv (1 + i)) := by
  intro c d
  have made : new (some {}) .Intermediate [⟨List.replicate 64 1, rfl⟩] = some c := rfl
  have made' : new (some {}) .Abridged [⟨List.replicate 64 1, rfl⟩] = some d := rfl
  have reach : Reachable {} c := .new made
  have reach' : Reachable {} d := .new made'
  exact ⟨(segmentation_iff referenceCtr).1 c {} [1] [2] reach rfl two_bytes_fit.1 two_bytes_fit.2,
    (segmentation_iff referenceCtr).2.1 d {} [1] [2] reach' rfl,
    (segmentation_iff referenceCtr).2.2 d 1 1 reach' rfl⟩

/-- Two bytes received one by one are decrypted with the same byte of the keystream, received
    together with two of them. -/
theorem two_bytes_apart :
    let c : ObfuscatedCodec referenceCtr IntermediateCodec :=
      setKeys (some {}) .Intermediate ⟨List.replicate 64 1, rfl⟩
    Reachable {} c ∧ IntermediateCodec.LengthsFit ([] ++ twoCalls c [1] [2]) ∧
    IntermediateCodec.LengthsFit ([] ++ oneCall c [1] [2]) ∧ ¬ SameAsOneCall c [1] [2] := by
  intro c
  have made : new (some {}) .Intermediate [⟨List.replicate 64 1, rfl⟩] = some c := rfl
  have reach : Reachable {} c := .new made
  refine ⟨reach, two_bytes_fit.1, two_bytes_fit.2, ?_⟩
  rw [intermediate_iff reach rfl two_bytes_fit.1 two_bytes_fit.2]
  intro repeats
  exact absurd (repeats 0 (by decide)) (by decide +kernel)

end CppGram.Transport.ObfuscatedCodec
