import CppGram.TL.Strings

/-!
# Reading back what was written

A value is written to the same bytes whatever is in the buffer (`write_buffer`), the read of its
type makes the value of them again (`reads_encoded`), and their number is a multiple of four
(`encoded_aligned`). So lists of values are read back as they were written (`readAll_writeAll`).
-/

namespace CppGram
open Ige Reading

/-- The types `TLWriter` writes and `TLReader` reads. -/
inductive TLType where
  | int32 | uint32 | int64 | uint64 | int128 | int256 | double | string | bytes | vectorHeader
  deriving DecidableEq, Repr

/-- Their values. -/
inductive TLValue where
  | int32 (val : Int32)
  | uint32 (val : UInt32)
  | int64 (val : Int64)
  | uint64 (val : UInt64)
  | int128 (val : Block UInt8 16)
  | int256 (val : Block UInt8 32)
  | double (val : Block UInt8 8)
  | string (val : List UInt8)
  | bytes (val : List UInt8)
  | vectorHeader (count : Nat)

namespace TLValue

/-- The type of a value. -/
def type : TLValue → TLType
  | .int32 _ => .int32
  | .uint32 _ => .uint32
  | .int64 _ => .int64
  | .uint64 _ => .uint64
  | .int128 _ => .int128
  | .int256 _ => .int256
  | .double _ => .double
  | .string _ => .string
  | .bytes _ => .bytes
  | .vectorHeader _ => .vectorHeader

/-- The length or the count has room in its field. -/
def Fits : TLValue → Prop
  | .string val | .bytes val => val.length < 16777216
  | .vectorHeader count => count < 4294967296
  | _ => True

end TLValue

namespace TLWriter

/-- The call that writes a value. -/
def write (w : TLWriter) : TLValue → TLWriter
  | .int32 val => w.writeInt32 val
  | .uint32 val => w.writeUint32 val
  | .int64 val => w.writeInt64 val
  | .uint64 val => w.writeUint64 val
  | .int128 val => w.writeInt128 val
  | .int256 val => w.writeInt256 val
  | .double val => w.writeDouble val
  | .string val => w.writeString val
  | .bytes val => w.writeBytes val
  | .vectorHeader count => w.writeVectorHeader count

/-- Successive writes. -/
def writeAll (w : TLWriter) (vs : List TLValue) : TLWriter := vs.foldl write w

end TLWriter

namespace TLReader

/-- The call that reads a value of a type. -/
def read : TLType → Method TLValue
  | .int32 => do return .int32 (← readInt32)
  | .uint32 => do return .uint32 (← readUint32)
  | .int64 => do return .int64 (← readInt64)
  | .uint64 => do return .uint64 (← readUint64)
  | .int128 => do return .int128 (← readInt128)
  | .int256 => do return .int256 (← readInt256)
  | .double => do return .double (← readDouble)
  | .string => do return .string (← readString)
  | .bytes => do return .bytes (← readBytes)
  | .vectorHeader => do return .vectorHeader (← readVectorHeader).toNat

/-- Successive reads. -/
def readAll (types : List TLType) : Method (List TLValue) := types.mapM read

end TLReader

/-! ## Values -/

/-- What `write_bytes` appends. -/
def framed (bytes : List UInt8) : List UInt8 := (TLWriter.writeBytes {} bytes).buffer

/-- What writing a value appends. -/
def TLValue.encoded (v : TLValue) : List UInt8 := (TLWriter.write {} v).buffer

namespace TLWriter

@[simp]
lemma insert_buffer {w : TLWriter} {bytes} : (w.insert bytes).buffer = w.buffer ++ bytes := rfl

/-- Bytes are appended framed. -/
lemma writeBytes_buffer {w : TLWriter} {bytes} :
    (w.writeBytes bytes).buffer = w.buffer ++ framed bytes := by
  simp only [framed, writeBytes]
  split
  all_goals simp only [insert_buffer, List.nil_append, List.append_assoc]

/-- A value is appended encoded. -/
lemma write_buffer {w : TLWriter} {v} : (w.write v).buffer = w.buffer ++ v.encoded := by
  cases v with
  | string val | bytes val => exact writeBytes_buffer
  | vectorHeader count => exact List.append_assoc _ _ _
  | _ => rfl

/-- Values are appended one after the other. -/
lemma writeAll_buffer {w : TLWriter} {vs} :
    (w.writeAll vs).buffer = w.buffer ++ vs.flatMap TLValue.encoded := by
  induction vs generalizing w with
  | nil => exact (List.append_nil _).symm
  | cons v vs ih =>
    have rest := ih (w := w.write v)
    rw [write_buffer, List.append_assoc] at rest
    exact rest

/-- A short string: one byte for its length, and padding. -/
lemma framed_small {bytes : List UInt8} (small : bytes.length ≤ 253) :
    framed bytes =
      [bytes.length.toUInt8] ++ (bytes ++ List.replicate (pad 1 bytes.length) 0) := by
  simp only [framed, writeBytes, if_pos small, insert_buffer, List.nil_append, List.append_assoc]

/-- A long string: the mark, three bytes for its length, and padding. -/
lemma framed_large {bytes : List UInt8} (large : 253 < bytes.length) :
    framed bytes =
      0xfe :: bytes24 bytes.length ++ (bytes ++ List.replicate (pad 4 bytes.length) 0) := by
  simp only [framed, writeBytes, if_neg (Nat.not_le.mpr large), insert_buffer, List.nil_append,
    List.append_assoc]

/-- The padding ends a string on a multiple of four bytes. -/
lemma framed_aligned {bytes : List UInt8} : 4 ∣ (framed bytes).length := by
  rcases Nat.lt_or_ge 253 bytes.length with large | small
  · rw [framed_large large, bytes24]
    simp only [List.length_append, List.length_cons, List.length_nil, List.length_replicate, pad]
    omega
  · rw [framed_small small]
    simp only [List.length_append, List.length_cons, List.length_nil, List.length_replicate, pad]
    omega

end TLWriter

namespace TLReader
open TLWriter

lemma reads_fixed {n} (what : String) (b : Block UInt8 n) :
    Reads (readFixed n what) b.toList b :=
  (Reads.take b.length_eq).require b.length_eq.ge

/-- A number of four bytes is read back. -/
lemma reads_uint32 (val : UInt32) : Reads readUint32 (Bytes.toLE 4 val.toNat) val := by
  have read := (reads_fixed "uint32" ⟨Bytes.toLE 4 val.toNat, Bytes.toLE_length⟩).map
    fun b => UInt32.ofNat (Bytes.ofLE b.toList)
  rwa [Bytes.ofLE_toLE_of_lt val.toNat_lt, UInt32.ofNat_toNat] at read

/-- A number of eight bytes is read back. -/
lemma reads_uint64 (val : UInt64) : Reads readUint64 (Bytes.toLE 8 val.toNat) val := by
  have read := (reads_fixed "uint64" ⟨Bytes.toLE 8 val.toNat, Bytes.toLE_length⟩).map
    fun b => UInt64.ofNat (Bytes.ofLE b.toList)
  rwa [Bytes.ofLE_toLE_of_lt val.toNat_lt, UInt64.ofNat_toNat] at read

/-- A length of three bytes is put together again. -/
lemma word24_bytes24 {len} (fits : len < 2 ^ 24) :
    (word24 (len &&& 0xff).toUInt8 ((len >>> 8) &&& 0xff).toUInt8
      ((len >>> 16) &&& 0xff).toUInt8).toNat = len := by
  rw [word24_toNat, ← bytes24, bytes24_eq, Bytes.ofLE_toLE_of_lt fits]

/-- A long length stands in three bytes behind the mark. -/
lemma reads_length_large {len} (fits : len < 2 ^ 24) :
    Reads readLength (0xfe :: bytes24 len) (len, 4) := by
  have read : Reads readLength (0xfe :: bytes24 len) _ := reads_length_word
  rwa [word24_bytes24 fits] at read

/-- What `write_bytes` writes is a string where the length has room in its field. -/
lemma framed_string {bytes : List UInt8} (fits : bytes.length < 2 ^ 24) :
    TLString (framed bytes) bytes := by
  -- the two header forms, each with the padding that counts its own header
  rcases Nat.lt_or_ge 253 bytes.length with large | small
  · rw [framed_large large]
    have value := word24_bytes24 fits
    refine .long value.symm ?_
    rw [value, List.length_replicate]
  · rw [framed_small small]
    have value : bytes.length.toUInt8.toNat = bytes.length := by
      simp
      omega
    have first : bytes.length.toUInt8 ≤ 253 := by
      rw [UInt8.le_iff_toNat_le, value]
      exact small
    refine .short first value.symm ?_
    rw [value, List.length_replicate]

/-- `read_bytes` undoes `write_bytes` where the length has room in its field. -/
lemma reads_framed {bytes : List UInt8} (fits : bytes.length < 2 ^ 24) :
    Reads readBytes (framed bytes) bytes :=
  reads_string (framed_string fits)

lemma reads_vector (count : UInt32) :
    Reads readVectorHeader (Bytes.toLE 4 TL_VECTOR.toNat ++ Bytes.toLE 4 count.toNat) count :=
  (reads_uint32 TL_VECTOR).bind (reads_uint32 count)

/-- The count of a vector is read back as a value. -/
lemma reads_vector_header {count} (fits : count < 4294967296) :
    Reads (do return TLValue.vectorHeader (← readVectorHeader).toNat)
      (TLValue.encoded (.vectorHeader count)) (.vectorHeader count) := by
  have value : (UInt32.ofNat count).toNat = count := UInt32.toNat_ofNat_of_lt' fits
  have read : Reads readVectorHeader (TLValue.encoded (.vectorHeader count))
      (UInt32.ofNat count) := reads_vector _
  have whole := read.map fun count => TLValue.vectorHeader count.toNat
  rwa [value] at whole

/-- The read of a value's type makes the value of its bytes. -/
lemma reads_encoded {v : TLValue} (fits : v.Fits) : Reads (read v.type) v.encoded v := by
  cases v with
  | int32 val => exact ((reads_uint32 val.toUInt32).map UInt32.toInt32).map TLValue.int32
  | uint32 val => exact (reads_uint32 val).map TLValue.uint32
  | int64 val => exact ((reads_uint64 val.toUInt64).map UInt64.toInt64).map TLValue.int64
  | uint64 val => exact (reads_uint64 val).map TLValue.uint64
  | int128 val => exact (reads_fixed _ val).map TLValue.int128
  | int256 val => exact (reads_fixed _ val).map TLValue.int256
  | double val => exact (reads_fixed _ val).map TLValue.double
  | string val => exact (reads_framed fits).map TLValue.string
  | bytes val => exact (reads_framed fits).map TLValue.bytes
  | vectorHeader count => exact reads_vector_header fits

/-- Every value is written to a multiple of four bytes. -/
lemma encoded_aligned {v : TLValue} : 4 ∣ v.encoded.length := by
  cases v with
  | int32 val | uint32 val => exact ⟨1, Bytes.toLE_length⟩
  | int64 val | uint64 val => exact ⟨2, Bytes.toLE_length⟩
  | int128 val => exact ⟨4, val.length_eq⟩
  | int256 val => exact ⟨8, val.length_eq⟩
  | double val => exact ⟨2, val.length_eq⟩
  | string val | bytes val => exact framed_aligned
  | vectorHeader count =>
    refine ⟨2, ?_⟩
    rfl

/-- Values that stand in a buffer are read by their types, wherever they stand. -/
lemma reads_all {vs : List TLValue} (fits : ∀ v ∈ vs, v.Fits) :
    Reads (readAll (vs.map TLValue.type)) (vs.flatMap TLValue.encoded) vs :=
  Reads.mapM fun v member => reads_encoded (fits v member)

/-- Reading the types of values that were written behind `w`, from where they start. -/
lemma readAll_written {w : TLWriter} {vs : List TLValue} {behind : List UInt8}
    (fits : ∀ v ∈ vs, v.Fits) :
    (readAll (vs.map TLValue.type)).on ⟨(w.writeAll vs).buffer ++ behind, w.size⟩ =
      (.ok vs, ⟨(w.writeAll vs).buffer ++ behind, (w.writeAll vs).size⟩) := by
  have read := reads_all fits w.buffer behind
  rw [← List.append_assoc, ← writeAll_buffer, ← List.length_append, ← writeAll_buffer] at read
  exact read

end TLReader

/-! ## Sequences -/

/-- The values `write_init_connection` writes in front of the query. -/
def initConnection (apiId : Int32)
    (deviceModel systemVersion appVersion systemLangCode langPack langCode : List UInt8) :
    List TLValue :=
  [.uint32 TL_INIT_CONNECTION, .uint32 0, .int32 apiId, .string deviceModel, .string systemVersion,
    .string appVersion, .string systemLangCode, .string langPack, .string langCode]

open TLWriter TLReader

/-- The values in front of a list's end are read while more is there. -/
lemma readAll_done {w : TLWriter} {done rest : List TLValue} (fits : ∀ v ∈ done, v.Fits) :
    (readAll (done.map TLValue.type)).on ⟨(w.writeAll (done ++ rest)).buffer, w.size⟩ =
      (.ok done, ⟨(w.writeAll (done ++ rest)).buffer, (w.writeAll done).size⟩) := by
  have written : (w.writeAll (done ++ rest)).buffer =
      (w.writeAll done).buffer ++ rest.flatMap TLValue.encoded := by
    rw [writeAll_buffer, writeAll_buffer, List.flatMap_append, List.append_assoc]
  rw [written]
  exact readAll_written fits

lemma write_size {w : TLWriter} {v : TLValue} : ∃ k, (w.write v).size = w.size + 4 * k := by
  obtain ⟨k, len⟩ := encoded_aligned (v := v)
  exact ⟨k, by rw [size, write_buffer, List.length_append, len, size]⟩

/-- Behind the fields of `write_init_connection` a reader has the query in front of it. -/
lemma readAll_initConnection {w : TLWriter} {apiId : Int32}
    {deviceModel systemVersion appVersion systemLangCode langPack langCode : List UInt8}
    (query : List UInt8)
    (fits : ∀ str ∈ [deviceModel, systemVersion, appVersion, systemLangCode, langPack, langCode],
      str.length < 2 ^ 24) :
    let fields := initConnection apiId deviceModel systemVersion appVersion systemLangCode langPack
      langCode
    let buffer := (w.writeInitConnection apiId deviceModel systemVersion appVersion systemLangCode
      langPack langCode query).buffer
    ∃ offset,
      (readAll (fields.map TLValue.type)).on ⟨buffer, w.size⟩ = (.ok fields, ⟨buffer, offset⟩) ∧
      buffer.drop offset = query ∧ remainingBytes ⟨buffer, offset⟩ = query.length := by
  intro fields buffer
  have fields_fit : ∀ v ∈ fields, v.Fits := by
    intro v member
    simp only [fields, initConnection, List.mem_cons, List.not_mem_nil, or_false] at member fits
    rcases member with rfl | rfl | rfl | rfl | rfl | rfl | rfl | rfl | rfl
    all_goals first | trivial | exact fits _ (by simp)
  have written : buffer = (w.writeAll fields).buffer ++ query := rfl
  refine ⟨(w.writeAll fields).size, ?_, ?_, ?_⟩
  · rw [written]
    exact readAll_written fields_fit
  · rw [written, size, List.drop_left]
  · rw [remainingBytes_eq, written, List.length_append, size, Nat.add_sub_cancel_left]

/-- Values written one after the other are read back by their types: after each read the reader has
    got to where the writer was, each value takes a multiple of four bytes, and nothing remains. The
    fields of `write_init_connection` are read back, and the query remains. -/
theorem readAll_writeAll :
    (∀ (w : TLWriter) (vs : List TLValue), (∀ v ∈ vs, v.Fits) →
      (∀ done rest, vs = done ++ rest →
        (readAll (done.map TLValue.type)).on ⟨(w.writeAll vs).buffer, w.size⟩ =
          (.ok done, ⟨(w.writeAll vs).buffer, (w.writeAll done).size⟩)) ∧
      remainingBytes ⟨(w.writeAll vs).buffer, (w.writeAll vs).size⟩ = 0) ∧
    (∀ (w : TLWriter) (v : TLValue), ∃ k, (w.write v).size = w.size + 4 * k) ∧
    (∀ (w : TLWriter) (apiId : Int32)
      (deviceModel systemVersion appVersion systemLangCode langPack langCode query : List UInt8),
      (∀ str ∈ [deviceModel, systemVersion, appVersion, systemLangCode, langPack, langCode],
        str.length < 2 ^ 24) →
      let fields := initConnection apiId deviceModel systemVersion appVersion systemLangCode
        langPack langCode
      let buffer := (w.writeInitConnection apiId deviceModel systemVersion appVersion systemLangCode
        langPack langCode query).buffer
      ∃ offset,
        (readAll (fields.map TLValue.type)).on ⟨buffer, w.size⟩ = (.ok fields, ⟨buffer, offset⟩) ∧
        buffer.drop offset = query ∧ remainingBytes ⟨buffer, offset⟩ = query.length) := by
  refine ⟨?_, ?_, ?_⟩
  · intro w vs fits
    refine ⟨?_, ?_⟩
    · rintro done rest rfl
      exact readAll_done fun v member => fits v (List.mem_append_left rest member)
    · rw [remainingBytes_eq]
      exact Nat.sub_self _
  · intro w v
    exact write_size
  · intro w apiId deviceModel systemVersion appVersion systemLangCode langPack langCode query fits
    exact readAll_initConnection query fits

/-- A number, a string and a vector header; and the fields of a connection. -/
theorem readAll_writeAll_hello :
    let vs : List TLValue := [.int32 (-12345), .string [104, 101, 108, 108, 111], .vectorHeader 4]
    let fields := initConnection 1 [80, 67] [49] [49, 46, 48] [101, 110] [] [101, 110]
    let buffer :=
      (writeInitConnection {} 1 [80, 67] [49] [49, 46, 48] [101, 110] [] [101, 110] [7, 8]).buffer
    (readAll [.int32, .string, .vectorHeader]).on ⟨(writeAll {} vs).buffer, 0⟩ =
      (.ok vs, ⟨(writeAll {} vs).buffer, 20⟩) ∧
    remainingBytes ⟨(writeAll {} vs).buffer, 20⟩ = 0 ∧
    (∃ k, (write {} (.string [104, 101, 108, 108, 111])).size = size {} + 4 * k) ∧
    ∃ offset,
      (readAll (fields.map TLValue.type)).on ⟨buffer, 0⟩ = (.ok fields, ⟨buffer, offset⟩) ∧
      buffer.drop offset = [7, 8] ∧ remainingBytes ⟨buffer, offset⟩ = 2 := by
  intro vs fields buffer
  have fits : ∀ v ∈ vs, v.Fits := by
    simp [vs, TLValue.Fits]
  obtain ⟨each, nothing⟩ := readAll_writeAll.1 {} vs fits
  exact ⟨each vs [] rfl, nothing, readAll_writeAll.2.1 {} _,
    readAll_writeAll.2.2 {} 1 _ _ _ _ _ _ [7, 8] (by decide)⟩

end CppGram
