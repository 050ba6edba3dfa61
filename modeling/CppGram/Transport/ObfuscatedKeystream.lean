import CppGram.Transport.Obfuscated

/-!
# Keystream reuse in the obfuscated codec

`encode_packet` encrypts each frame with the keystream from position 0, where the tail of the header
has been encrypted already. `MaskedAt` says what is XORed with what, from the emitted bytes alone;
`reuse_iff` says which runs of `encode_packet` do not use a position for two different bytes, and
which use successive parts of the keystream.
-/

namespace CppGram.Transport.ObfuscatedCodec
open CryptoUtils Ige StreamCipher

variable {κ : Type} [ITransportCodec κ]
variable (innerCodec : Option κ) (tagProto : TransportProtocol) (draws : List (Block UInt8 64))
variable (payloads : List (List UInt8))

/-- Byte `j` of what a new codec emits for these payloads is `b` XORed with byte `i` of the keystream
    under `enc_key_` and `enc_iv_`, whatever the keystream is. -/
def MaskedAt (j i : Nat) (b : UInt8) : Prop :=
  ∀ (ctr : Keystream) (c : ObfuscatedCodec ctr κ), new innerCodec tagProto draws = some c →
    (encodeAll c payloads).1.flatten[j]? = some (b ^^^ ctr c.encKey c.encIv i)

/-- No position of the keystream is XORed with two different bytes. -/
def NoReuse : Prop :=
  ∀ i b b' j j', MaskedAt innerCodec tagProto draws payloads j i b →
    MaskedAt innerCodec tagProto draws payloads j' i b' → b = b'

/-- The emitted bytes are masked with successive parts of the keystream: its positions increase. -/
def Successive : Prop :=
  ∀ j j' i i' b b', j < j' → MaskedAt innerCodec tagProto draws payloads j i b →
    MaskedAt innerCodec tagProto draws payloads j' i' b' → i < i'

/-- The frames that are encrypted. -/
def frames : List (List UInt8) :=
  match innerCodec with
  | some inner => (encodeAll inner payloads).1
  | none => []

/-- What is encrypted with `enc_key_` and `enc_iv_` and emitted: if there is a frame, the tail of the
    header and the frames. -/
def pieces (drawn : Block UInt8 64) : List (List UInt8) :=
  match frames innerCodec payloads with
  | [] => []
  | fs => (tagBytes tagProto ++ drawn.toList.drop 60) :: fs

variable {ctr : Keystream}

/-- Behind the handshake each frame is masked from the start of the keystream. -/
lemma encodeAll_sent {c : ObfuscatedCodec ctr κ} {inner : κ} (has : c.innerCodec = some inner)
    (sent : c.handshakeSent = true) :
    (encodeAll c payloads).1 =
      (encodeAll inner payloads).1.map (aesCtr ctr c.encKey c.encIv) := by
  induction payloads generalizing c inner with
  | nil => rfl
  | cons p payloads ih =>
    have first : encodePacket c p = (aesCtr ctr c.encKey c.encIv
        (ITransportCodec.encodePacket inner p).1,
        { c with innerCodec := some (ITransportCodec.encodePacket inner p).2 }) := by
      simp only [encodePacket, has, sent, if_true]
    change (encodePacket c p).1 :: (encodeAll (encodePacket c p).2 payloads).1 = _
    rw [first]
    exact congrArg (_ :: ·) (ih rfl sent)

/-- The emitted bytes with the keystream left open. -/
def emission (drawn : Block UInt8 64) : List Symbol :=
  match frames innerCodec payloads with
  | [] => []
  | fs =>
    (drawn.toList.take 56).map .clear ++
      (symbols 0 (tagBytes tagProto ++ drawn.toList.drop 60) ++ (fs.map (symbols 0)).flatten)

/-- Without a codec inside nothing is emitted. -/
lemma encodeAll_none {c : ObfuscatedCodec ctr κ} (empty : c.innerCodec = none) :
    (encodeAll c payloads).1.flatten = [] := by
  induction payloads with
  | nil => rfl
  | cons p payloads ih =>
    have nothing : encodePacket c p = ([], c) := by
      simp only [encodePacket, empty]
    change ((encodePacket c p).1 :: (encodeAll (encodePacket c p).2 payloads).1).flatten = []
    rw [nothing]
    exact ih

/-- A new codec emits the first 56 bytes of the header in the clear and masks the rest of it, and
    every frame, from position 0. -/
lemma emitted_eq {c : ObfuscatedCodec ctr κ} {drawn : Block UInt8 64}
    (made : c = setKeys innerCodec tagProto drawn) :
    (encodeAll c payloads).1.flatten =
      (emission innerCodec tagProto payloads drawn).map (Symbol.eval (ctr c.encKey c.encIv)) := by
  cases innerCodec with
  | none =>
    rw [encodeAll_none payloads (by rw [made]; rfl)]
    rfl
  | some inner =>
    cases payloads with
    | nil => rfl
    | cons p payloads =>
      have first : encodePacket c p =
          (c.handshakeHeader.toList ++ aesCtr ctr c.encKey c.encIv
            (ITransportCodec.encodePacket inner p).1,
          { c with
            innerCodec := some (ITransportCodec.encodePacket inner p).2
            handshakeSent := true }) := by
        rw [made]
        rfl
      change ((encodePacket c p).1 :: (encodeAll (encodePacket c p).2 payloads).1).flatten = _
      rw [first, encodeAll_sent payloads rfl rfl, setKeys_header made]
      simp only [emission, frames, encodeAll, List.map_append, List.map_cons, List.map_map,
        List.flatten_cons, eval_symbols, List.map_flatten, List.append_assoc]
      have clear : Symbol.eval (ctr c.encKey c.encIv) ∘ Symbol.clear = id := rfl
      have piece : List.map (Symbol.eval (ctr c.encKey c.encIv)) ∘ symbols 0 =
          aesCtr ctr c.encKey c.encIv := funext fun _ => eval_symbols
      rw [clear, List.map_id, piece]
      rfl

/-- What is masked where in the emitted bytes does not depend on the keystream. -/
lemma maskedAt_iff {drawn : Block UInt8 64} (accepted : drawPayload draws = some drawn) {j i b} :
    MaskedAt innerCodec tagProto draws payloads j i b ↔
      (emission innerCodec tagProto payloads drawn)[j]? = some (.masked b i) := by
  have made {ctr : Keystream} {c : ObfuscatedCodec ctr κ} :
      new innerCodec tagProto draws = some c ↔ c = setKeys innerCodec tagProto drawn := by
    rw [new, accepted, Option.map_some, Option.some_inj, eq_comm]
  constructor
  · intro masked
    have every (ks : Nat → UInt8) : (emission innerCodec tagProto payloads drawn)[j]?.map
        (Symbol.eval ks) = some (b ^^^ ks i) := by
      have here := masked (fun _ _ => ks) _ (made.mpr rfl)
      rwa [emitted_eq innerCodec tagProto payloads rfl, List.getElem?_map] at here
    cases hs : (emission innerCodec tagProto payloads drawn)[j]? with
    | none =>
      have here := every fun _ => 0
      rw [hs] at here
      cases here
    | some x =>
      rw [Option.some_inj, ← Symbol.eval_eq_iff]
      intro ks
      have here := every ks
      rw [hs] at here
      exact Option.some.inj here
  · intro here ctr c h
    rw [emitted_eq innerCodec tagProto payloads (made.mp h), List.getElem?_map, here]
    rfl

/-- The emission of a codec that emits something: the clear part of the header, its tail, and the
    frames. -/
lemma emission_eq (drawn : Block UInt8 64) (some_frame : frames innerCodec payloads ≠ []) :
    emission innerCodec tagProto payloads drawn =
      (drawn.toList.take 56).map .clear ++
        (symbols 0 (tagBytes tagProto ++ drawn.toList.drop 60) ++
          ((frames innerCodec payloads).map (symbols 0)).flatten) := by
  rw [emission]
  split
  · rename_i none_there
    exact absurd none_there some_frame
  · rfl

/-- In what is emitted first only bytes behind the first 56 are masked. -/
lemma clear_getElem? {drawn : Block UInt8 64} {rest : List Symbol} {j i b}
    (h : ((drawn.toList.take 56).map .clear ++ rest)[j]? = some (.masked b i)) :
    56 ≤ j ∧ rest[j - 56]? = some (.masked b i) := by
  have len : ((drawn.toList.take 56).map Symbol.clear).length = 56 := by
    rw [List.length_map, List.length_take, drawn.length_eq]
    rfl
  rw [List.getElem?_append, len] at h
  split at h
  · rw [List.getElem?_map, Option.map_eq_some_iff] at h
    obtain ⟨c, -, e⟩ := h
    cases e
  · rename_i behind
    exact ⟨Nat.le_of_not_lt behind, h⟩

/-- Behind the first 56 bytes comes the rest. -/
lemma clear_append_getElem? (drawn : Block UInt8 64) (rest : List Symbol) (j : Nat) :
    ((drawn.toList.take 56).map .clear ++ rest)[56 + j]? = rest[j]? := by
  have len : ((drawn.toList.take 56).map Symbol.clear).length = 56 := by
    rw [List.length_map, List.length_take, drawn.length_eq]
    rfl
  rw [List.getElem?_append_right (by omega), len, Nat.add_sub_cancel_left]

/-- A frame with a byte is masked from position 0. -/
lemma masked_mem_flatten {fs : List (List UInt8)} {b f} (h : b :: f ∈ fs) :
    .masked b 0 ∈ (fs.map (symbols 0)).flatten := by
  refine List.mem_flatten.mpr ⟨symbols 0 (b :: f), List.mem_map_of_mem h, ?_⟩
  exact List.mem_cons_self

/-- What is masked is a byte of a piece, at its place in the piece. -/
lemma masked_mem_emission {drawn : Block UInt8 64} {b i} :
    .masked b i ∈ emission innerCodec tagProto payloads drawn ↔
      ∃ x ∈ pieces innerCodec tagProto payloads drawn, x[i]? = some b := by
  have clear : .masked b i ∉ (drawn.toList.take 56).map Symbol.clear := by
    rw [List.mem_map]
    rintro ⟨_, -, e⟩
    cases e
  rw [emission, pieces]
  split
  · exact ⟨nofun, nofun⟩
  · rw [List.mem_append, or_iff_right clear]
    simp [masked_mem_symbols]

/-- A frame with a byte starts at position 0, as the tail before it does. -/
lemma frame_restarts {drawn : Block UInt8 64} {b f} (hf : b :: f ∈ frames innerCodec payloads) :
    ∃ t j, 56 < j ∧ (emission innerCodec tagProto payloads drawn)[56]? = some (.masked t 0) ∧
      (emission innerCodec tagProto payloads drawn)[j]? = some (.masked b 0) := by
  have tail_first : ∃ t rest, tagBytes tagProto ++ drawn.toList.drop 60 = t :: rest := ⟨_, _, rfl⟩
  obtain ⟨t, rest, tail_eq⟩ := tail_first
  obtain ⟨k, hk⟩ := List.mem_iff_getElem?.mp (masked_mem_flatten hf)
  rw [emission_eq innerCodec tagProto payloads drawn (List.ne_nil_of_mem hf), tail_eq]
  refine ⟨t, 56 + ((symbols 0 (t :: rest)).length + k), ?_, ?_, ?_⟩
  · rw [symbols, List.length_cons]
    omega
  · exact clear_append_getElem? drawn _ 0
  · rw [clear_append_getElem?, List.getElem?_append_right (Nat.le_add_right _ _),
      Nat.add_sub_cancel_left, hk]

/-- Without a byte in a frame only the tail is masked. -/
lemma increasing_of_empty {drawn : Block UInt8 64}
    (empty : ∀ f ∈ frames innerCodec payloads, f = []) :
    Increasing (emission innerCodec tagProto payloads drawn) := by
  by_cases some_frame : frames innerCodec payloads = []
  · have nothing : emission innerCodec tagProto payloads drawn = [] := by
      rw [emission, some_frame]
    rw [nothing]
    nofun
  · have no_more : ((frames innerCodec payloads).map (symbols 0)).flatten = [] := by
      rw [List.flatten_eq_nil_iff]
      intro l hl
      obtain ⟨f, hf, rfl⟩ := List.mem_map.mp hl
      rw [empty f hf]
      rfl
    rw [emission_eq innerCodec tagProto payloads drawn some_frame, no_more, List.append_nil]
    intro j j' i i' b b' lt h h'
    obtain ⟨le, h⟩ := clear_getElem? h
    obtain ⟨le', h'⟩ := clear_getElem? h'
    rw [symbols_getElem?, Option.map_eq_some_iff] at h h'
    obtain ⟨_, -, e⟩ := h
    obtain ⟨_, -, e'⟩ := h'
    cases e
    cases e'
    omega

/-- Successive parts are used exactly when all frames are empty. -/
lemma increasing_iff (drawn : Block UInt8 64) :
    Increasing (emission innerCodec tagProto payloads drawn) ↔
      ∀ f ∈ frames innerCodec payloads, f = [] := by
  constructor
  · intro increasing f hf
    cases f with
    | nil => rfl
    | cons b f =>
      obtain ⟨t, j, behind, tail, frame⟩ := frame_restarts innerCodec tagProto payloads hf
      exact absurd (increasing _ _ _ _ _ _ behind tail frame) (Nat.lt_irrefl 0)
  · exact increasing_of_empty innerCodec tagProto payloads

/-- Which runs of `encode_packet` on a new codec reuse keystream: no position is XORed with two
    different bytes exactly when, of the tail of the header and the frames, any two agree where both
    have a byte; and successive parts of the keystream are used exactly when no frame has a byte. -/
theorem reuse_iff (drawn : Block UInt8 64) (accepted : drawPayload draws = some drawn) :
    (NoReuse innerCodec tagProto draws payloads ↔
      ∀ x ∈ pieces innerCodec tagProto payloads drawn,
        ∀ y ∈ pieces innerCodec tagProto payloads drawn, x <+: y ∨ y <+: x) ∧
    (Successive innerCodec tagProto draws payloads ↔
      ∀ f ∈ frames innerCodec payloads, f = []) := by
  have at_iff {j i b} := maskedAt_iff innerCodec tagProto draws payloads (j := j) (i := i) (b := b)
    accepted
  refine ⟨?_, ?_⟩
  · simp only [NoReuse, at_iff, prefix_or_iff]
    constructor
    · intro reuse x hx y hy i b b' hb hb'
      obtain ⟨j, hj⟩ := List.mem_iff_getElem?.mp
        ((masked_mem_emission innerCodec tagProto payloads).mpr ⟨x, hx, hb⟩)
      obtain ⟨j', hj'⟩ := List.mem_iff_getElem?.mp
        ((masked_mem_emission innerCodec tagProto payloads).mpr ⟨y, hy, hb'⟩)
      exact reuse i b b' j j' hj hj'
    · intro agree i b b' j j' hj hj'
      obtain ⟨x, hx, hb⟩ := (masked_mem_emission innerCodec tagProto payloads).mp
        (List.mem_of_getElem? hj)
      obtain ⟨y, hy, hb'⟩ := (masked_mem_emission innerCodec tagProto payloads).mp
        (List.mem_of_getElem? hj')
      exact agree x hx y hy i b b' hb hb'
  · simp only [Successive, at_iff]
    exact increasing_iff innerCodec tagProto payloads drawn

/-- Whatever the run, for a header of ones. -/
theorem reuse_iff_ones :
    (NoReuse (some ({} : IntermediateCodec)) .Intermediate [⟨List.replicate 64 1, rfl⟩] [[7]] ↔
      ∀ x ∈ pieces (some ({} : IntermediateCodec)) .Intermediate [[7]] ⟨List.replicate 64 1, rfl⟩,
        ∀ y ∈ pieces (some ({} : IntermediateCodec)) .Intermediate [[7]]
          ⟨List.replicate 64 1, rfl⟩, x <+: y ∨ y <+: x) ∧
    (Successive (some ({} : IntermediateCodec)) .Intermediate [⟨List.replicate 64 1, rfl⟩] [[7]] ↔
      ∀ f ∈ frames (some ({} : IntermediateCodec)) [[7]], f = []) :=
  reuse_iff _ _ _ _ _ rfl

/-- One packet of one byte: position 0 is XORed with the first byte of the tag in the header and with
    the first byte of the frame. -/
theorem tag_and_frame_share_keystream :
    let draws : List (Block UInt8 64) := [⟨List.replicate 64 1, rfl⟩]
    MaskedAt (some ({} : IntermediateCodec)) .Intermediate draws [[7]] 56 0 0xee ∧
    MaskedAt (some ({} : IntermediateCodec)) .Intermediate draws [[7]] 64 0 1 ∧
    ¬ NoReuse (some ({} : IntermediateCodec)) .Intermediate draws [[7]] := by
  have tag : MaskedAt (some ({} : IntermediateCodec)) .Intermediate
      [⟨List.replicate 64 1, rfl⟩] [[7]] 56 0 0xee :=
    (maskedAt_iff _ _ _ _ rfl).mpr rfl
  have frame : MaskedAt (some ({} : IntermediateCodec)) .Intermediate
      [⟨List.replicate 64 1, rfl⟩] [[7]] 64 0 1 :=
    (maskedAt_iff _ _ _ _ rfl).mpr rfl
  refine ⟨tag, frame, ?_⟩
  intro once
  cases once 0 0xee 1 56 64 tag frame

end CppGram.Transport.ObfuscatedCodec
