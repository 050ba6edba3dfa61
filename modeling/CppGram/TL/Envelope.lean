import CppGram.TL.RoundTrip

/-!
# Envelopes with a layer

`write_invoke_with_layer` puts a word and a layer in front of a query, `read_invoke_with_layer` takes
both off again and leaves the rest of the buffer as the query. It accepts exactly what has the word and
a layer ahead, and touches nothing otherwise (`readInvokeWithLayer_found`,
`readInvokeWithLayer_refused`).
-/

namespace CppGram
open Ige Reading

namespace TLReader

/-- The little-endian word ahead. -/
def nextWord (r : TLReader) : UInt32 := UInt32.ofNat (Bytes.ofLE (r.ahead.take 4))

/-- A word is written to the bytes it was read from. -/
lemma toLE_word {bs : List UInt8} (len : bs.length = 4) :
    Bytes.toLE 4 (UInt32.ofNat (Bytes.ofLE bs)).toNat = bs := by
  have bound := Bytes.ofLE_lt bs
  rw [len] at bound
  rw [UInt32.toNat_ofNat_of_lt' bound]
  exact Bytes.toLE_ofLE_of_length len

/-- The word ahead is the one that was written. -/
lemma nextWord_of_ahead {r : TLReader} {word : UInt32} {rest}
    (ahead : r.ahead = Bytes.toLE 4 word.toNat ++ rest) : nextWord r = word := by
  rw [nextWord, ahead, List.take_left' Bytes.toLE_length, Bytes.ofLE_toLE_of_lt word.toNat_lt,
    UInt32.ofNat_toNat]

/-- A reader with bytes ahead is inside of its data. -/
lemma inside_of_enough {r : TLReader} {n} (some : 0 < n) (enough : n ≤ r.ahead.length) :
    r.offset ≤ r.data.length := by
  rw [r.ahead_length] at enough
  omega

/-- What is ahead begins with the bytes of the next word. -/
lemma ahead_word {r : TLReader} (enough : 4 ≤ r.ahead.length) :
    r.ahead = Bytes.toLE 4 r.nextWord.toNat ++ r.ahead.drop 4 := by
  have len : (r.ahead.take 4).length = 4 := List.length_take_of_le enough
  rw [nextWord, toLE_word len, List.take_append_drop]

/-- A word is read. -/
lemma readUint32_ahead {r : TLReader} (enough : 4 ≤ r.ahead.length) :
    readUint32.on r = (.ok r.nextWord, r.advance 4) := by
  have read := (reads_uint32 r.nextWord).on_ahead (inside_of_enough (by decide) enough)
    (ahead_word enough)
  rwa [Bytes.toLE_length] at read

/-- A signed word is read. -/
lemma readInt32_ahead {r : TLReader} (enough : 4 ≤ r.ahead.length) :
    readInt32.on r = (.ok r.nextWord.toInt32, r.advance 4) := by
  rw [readInt32, on_bind_ok (readUint32_ahead enough)]
  rfl

/-! ## Reading an envelope -/

variable {outLayer : Int32} {outQuery : List UInt8}

/-- `read_invoke_with_layer` has an envelope ahead. -/
def EnvelopeAhead (r : TLReader) : Prop := 8 ≤ remainingBytes r ∧ r.nextWord = TL_INVOKE_WITH_LAYER

instance (r : TLReader) : Decidable (EnvelopeAhead r) := inferInstanceAs (Decidable (_ ∧ _))

lemma hasRemaining_eight {r : TLReader} : r.hasRemaining 8 = decide (8 ≤ r.ahead.length) :=
  Cursor.hasRemaining_pos (by decide)

lemma remainingBytes_ahead {r : TLReader} : remainingBytes r = r.ahead.length := by
  rw [remainingBytes_eq, r.ahead_length]

/-- An envelope is opened: the layer, and all that is behind it. -/
lemma readInvokeWithLayer_found {r : TLReader} (here : EnvelopeAhead r) :
    (readInvokeWithLayer outLayer outQuery).on r =
      (.ok (true, (nextWord (r.advance 4)).toInt32, r.ahead.drop 8),
        r.advance r.ahead.length) := by
  obtain ⟨enough, word⟩ := here
  rw [remainingBytes_ahead] at enough
  have layer : 4 ≤ (r.advance 4).ahead.length := by
    rw [Cursor.ahead_advance, List.length_drop]
    omega
  have behind : ((r.advance 4).advance 4).ahead = r.ahead.drop 8 := by
    rw [Cursor.advance_advance, Cursor.ahead_advance]
  have inside : ((r.advance 4).advance 4).offset ≤ ((r.advance 4).advance 4).data.length := by
    rw [r.ahead_length] at enough
    simp only [Cursor.advance_data, Cursor.advance_offset]
    omega
  have whole : 4 + (4 + (r.ahead.length - 8)) = r.ahead.length := by omega
  obtain ⟨block, taken, query⟩ := on_take TLFault.outOfBounds inside
    (@remainingBytes_ahead ((r.advance 4).advance 4)).le
  rw [readInvokeWithLayer, on_bind_ok on_get, hasRemaining_eight, decide_eq_true enough]
  simp only [Bool.not_true, Bool.false_eq_true, if_false]
  rw [on_bind_ok (readUint32_ahead (by omega)), if_neg (not_not_intro word),
    on_bind_ok (readInt32_ahead layer), on_bind_ok on_get, on_bind_ok taken, query, behind,
    remainingBytes_ahead, behind, List.take_length, List.length_drop, Cursor.advance_advance,
    Cursor.advance_advance, whole]
  rfl

/-- Nothing else is opened, and nothing is touched. -/
lemma readInvokeWithLayer_refused {r : TLReader} (other : ¬ EnvelopeAhead r) :
    (readInvokeWithLayer outLayer outQuery).on r = (.ok (false, outLayer, outQuery), r) := by
  by_cases enough : 8 ≤ r.ahead.length
  · have word : r.nextWord ≠ TL_INVOKE_WITH_LAYER := fun same =>
      other ⟨enough.trans_eq remainingBytes_ahead.symm, same⟩
    rw [readInvokeWithLayer, on_bind_ok on_get, hasRemaining_eight, decide_eq_true enough]
    simp only [Bool.not_true, Bool.false_eq_true, if_false]
    rw [on_bind_ok (readUint32_ahead (by omega)), if_pos word]
    rfl
  · rw [readInvokeWithLayer, on_bind_ok on_get, hasRemaining_eight, decide_eq_false enough]
    rfl

end TLReader

/-! ## Envelopes in envelopes -/

/-- `MtprotoClient::build_invoke_with_layer_query`. -/
def MtprotoClient.buildInvokeWithLayerQuery (layer : Int32) (rpcQuery : List UInt8) : List UInt8 :=
  (TLWriter.writeInvokeWithLayer {} layer rpcQuery).buffer

/-- The query wrapped once for each layer, the first innermost. -/
def wrap (build : Int32 → List UInt8 → List UInt8) (layers : List Int32) (query : List UInt8) :
    List UInt8 :=
  layers.foldl (fun query layer => build layer query) query

namespace TLReader

/-- `read_invoke_with_layer` on a packet and then on each query it returns, `n` times in all: the
layers, and the last query. -/
def unwrap (outLayer : Int32) (outQuery : List UInt8) :
    Nat → List UInt8 → Option (List Int32 × List UInt8)
  | 0, packet => some ([], packet)
  | n + 1, packet =>
    match (readInvokeWithLayer outLayer outQuery).on ⟨packet, 0⟩ with
    | (.ok (true, layer, query), _) =>
      (unwrap outLayer outQuery n query).map fun (layers, last) => (layer :: layers, last)
    | _ => none

/-- What was wrapped is opened: the layer and the query, and nothing remains. -/
lemma readInvokeWithLayer_built {layer : Int32} {query : List UInt8} :
    let packet := MtprotoClient.buildInvokeWithLayerQuery layer query
    (readInvokeWithLayer outLayer outQuery).on ⟨packet, 0⟩ =
      (.ok (true, layer, query), ⟨packet, packet.length⟩) := by
  intro packet
  let r : TLReader := ⟨packet, 0⟩
  have ahead : r.ahead = Bytes.toLE 4 TL_INVOKE_WITH_LAYER.toNat ++
      (Bytes.toLE 4 layer.toUInt32.toNat ++ query) := List.append_assoc _ _ _
  have behind : (r.advance 4).ahead = Bytes.toLE 4 layer.toUInt32.toNat ++ query := by
    rw [Cursor.ahead_advance, ahead, List.drop_left' Bytes.toLE_length]
  have rest : r.ahead.drop 8 = query := by
    rw [show 8 = 4 + 4 from rfl, ← List.drop_drop, ← Cursor.ahead_advance, behind,
      List.drop_left' Bytes.toLE_length]
  have long : 8 ≤ remainingBytes r := by
    rw [remainingBytes_ahead, ahead]
    simp only [List.length_append, Bytes.toLE_length]
    omega
  have opened := @readInvokeWithLayer_found outLayer outQuery r ⟨long, nextWord_of_ahead ahead⟩
  rw [nextWord_of_ahead behind, rest] at opened
  have finish : r.advance r.ahead.length = ⟨packet, packet.length⟩ :=
    congrArg (Cursor.mk packet) (Nat.zero_add _)
  rw [finish] at opened
  exact opened

/-- As many calls as there are layers open them all, the last one first. -/
lemma unwrap_wrap (layers : List Int32) (query : List UInt8) :
    unwrap outLayer outQuery layers.length
        (wrap MtprotoClient.buildInvokeWithLayerQuery layers query) =
      some (layers.reverse, query) := by
  induction layers using List.reverseRecOn with
  | nil => rfl
  | append_singleton layers layer ih =>
    rw [wrap, List.foldl_append, List.length_append, List.length_singleton, unwrap,
      List.foldl_cons, List.foldl_nil, readInvokeWithLayer_built, ← wrap]
    dsimp only
    rw [ih, List.reverse_append]
    rfl

end TLReader

open TLReader

/-- A query wrapped once for each layer is opened as many times, with the layers in reverse order and the
query last, by the writer's method as by `build_invoke_with_layer_query`. `read_invoke_with_layer`
returns true exactly on eight bytes that start with `TL_INVOKE_WITH_LAYER`, and leaves the offset and
the outputs as they were when it returns false. -/
theorem invokeWithLayer_opened :
    (∀ (outLayer : Int32) (outQuery : List UInt8) (layers : List Int32) (query : List UInt8),
      unwrap outLayer outQuery layers.length
          (wrap (fun layer query => (TLWriter.writeInvokeWithLayer {} layer query).buffer) layers
            query) = some (layers.reverse, query) ∧
      unwrap outLayer outQuery layers.length
          (wrap MtprotoClient.buildInvokeWithLayerQuery layers query) =
        some (layers.reverse, query)) ∧
    ∀ (r : TLReader) (outLayer : Int32) (outQuery : List UInt8),
      ∃ returned layer query r',
        (readInvokeWithLayer outLayer outQuery).on r = (.ok (returned, layer, query), r') ∧
        (returned = true ↔ 8 ≤ remainingBytes r ∧
          UInt32.ofNat (Bytes.ofLE (Bytes.span r.data r.offset 4)) = TL_INVOKE_WITH_LAYER) ∧
        (returned = false → r' = r ∧ layer = outLayer ∧ query = outQuery) := by
  refine ⟨fun outLayer outQuery layers query => ⟨unwrap_wrap layers query, unwrap_wrap layers query⟩,
    fun r outLayer outQuery => ?_⟩
  by_cases here : EnvelopeAhead r
  · refine ⟨true, _, _, _, readInvokeWithLayer_found here, iff_of_true rfl here, ?_⟩
    exact fun this => by cases this
  · refine ⟨false, _, _, _, readInvokeWithLayer_refused here, iff_of_false ?_ here, ?_⟩
    · exact Bool.false_ne_true
    · exact fun _ => ⟨rfl, rfl, rfl⟩

end CppGram
