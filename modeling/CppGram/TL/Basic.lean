import CppGram.Core.Machine
import CppGram.Lib.Reading

/-!
# TL serialization

`TLWriter` and `TLReader` (C++ `tl.cpp`). A writer is its buffer. A reader is a span and an offset
in it; a read that throws leaves the offset where it got to. The reads of a fixed number of bytes
differ in the number and in the name their error gives, so they are `readFixed` at these. A `double`
is the eight bytes `memcpy` moves, a `std::string` the bytes it holds.
-/

namespace CppGram
open Ige Reading

/-- The constructor of `vector`. -/
def TL_VECTOR : UInt32 := 0x1cb5c415

/-- The constructor of `invokeWithLayer`. -/
def TL_INVOKE_WITH_LAYER : UInt32 := 0xda9b0d0d

/-- The constructor of `initConnection`. -/
def TL_INIT_CONNECTION : UInt32 := 0xc1cd5ea9

/-! ## Writing -/

/-- C++ `class TLWriter`. -/
structure TLWriter where
  buffer : List UInt8 := []
  deriving DecidableEq, Repr

namespace TLWriter

/-- `buffer_.insert(buffer_.end(), …)`. -/
def insert (w : TLWriter) (bytes : List UInt8) : TLWriter := ⟨w.buffer ++ bytes⟩

/-- `TLWriter::size`. -/
def size (w : TLWriter) : Nat := w.buffer.length

/-- `TLWriter::write_uint32`. -/
def writeUint32 (w : TLWriter) (val : UInt32) : TLWriter := w.insert (Bytes.toLE 4 val.toNat)

/-- `TLWriter::write_int32`. -/
def writeInt32 (w : TLWriter) (val : Int32) : TLWriter := w.writeUint32 val.toUInt32

/-- `TLWriter::write_uint64`. -/
def writeUint64 (w : TLWriter) (val : UInt64) : TLWriter := w.insert (Bytes.toLE 8 val.toNat)

/-- `TLWriter::write_int64`. -/
def writeInt64 (w : TLWriter) (val : Int64) : TLWriter := w.writeUint64 val.toUInt64

/-- `TLWriter::write_int128`. -/
def writeInt128 (w : TLWriter) (val : Block UInt8 16) : TLWriter := w.insert val.toList

/-- `TLWriter::write_int256`. -/
def writeInt256 (w : TLWriter) (val : Block UInt8 32) : TLWriter := w.insert val.toList

/-- `TLWriter::write_double`. -/
def writeDouble (w : TLWriter) (val : Block UInt8 8) : TLWriter := w.insert val.toList

/-- `pad`, behind a header and a content of these lengths. -/
def pad (headerLen len : Nat) : Nat := (4 - (headerLen + len) % 4) % 4

/-- `TLWriter::write_bytes`. -/
def writeBytes (w : TLWriter) (bytes : List UInt8) : TLWriter :=
  let len := bytes.length
  if len ≤ 253 then
    (w.insert [len.toUInt8]).insert bytes |>.insert (List.replicate (pad 1 len) 0)
  else
    (w.insert (0xfe :: bytes24 len)).insert bytes |>.insert (List.replicate (pad 4 len) 0)

/-- `TLWriter::write_string`. -/
def writeString (w : TLWriter) (str : List UInt8) : TLWriter := w.writeBytes str

/-- `TLWriter::write_vector_header`. -/
def writeVectorHeader (w : TLWriter) (count : Nat) : TLWriter :=
  (w.writeUint32 TL_VECTOR).writeUint32 (UInt32.ofNat count)

/-- `TLWriter::write_invoke_with_layer`. -/
def writeInvokeWithLayer (w : TLWriter) (layer : Int32) (query : List UInt8) : TLWriter :=
  ((w.writeUint32 TL_INVOKE_WITH_LAYER).writeInt32 layer).insert query

/-- `TLWriter::write_init_connection`. -/
def writeInitConnection (w : TLWriter) (apiId : Int32)
    (deviceModel systemVersion appVersion systemLangCode langPack langCode query : List UInt8) :
    TLWriter :=
  let w := w.writeUint32 TL_INIT_CONNECTION
  let w := w.writeUint32 0
  let w := w.writeInt32 apiId
  let w := w.writeString deviceModel
  let w := w.writeString systemVersion
  let w := w.writeString appVersion
  let w := w.writeString systemLangCode
  let w := w.writeString langPack
  let w := w.writeString langCode
  w.insert query

end TLWriter

/-! ## Reading -/

/-- What a `TLReader` throws, or a byte outside of its span. -/
inductive TLFault where
  /-- `throw std::underflow_error(what)`. -/
  | underflowError (what : String)
  /-- `throw std::runtime_error(what)`. -/
  | runtimeError (what : String)
  /-- `throw std::out_of_range(what)`. -/
  | outOfRange (what : String)
  /-- A read outside of the span. -/
  | outOfBounds
  deriving DecidableEq, Repr

/-- C++ `class TLReader`: `data_` and `offset_`. -/
abbrev TLReader := Cursor UInt8

namespace TLReader

/-- A method of `TLReader`. -/
abbrev Method := Read UInt8 TLFault

/-- `TLReader::remaining_bytes`. -/
def remainingBytes (r : TLReader) : Nat :=
  if r.offset < r.data.length then r.data.length - r.offset else 0

/-- What remains is what lies behind the offset. -/
lemma remainingBytes_eq {r : TLReader} : remainingBytes r = r.data.length - r.offset := by
  rw [remainingBytes]
  split
  · rfl
  · omega

/-- `TLReader::set_offset`. -/
def setOffset (offset : Nat) : Method Unit := do
  let r ← get
  if r.data.length < offset then throw (.outOfRange "TLReader offset out of range")
  set { r with offset }

/-- `if (!has_remaining(bytes)) throw std::underflow_error(…)`. -/
def requireRemaining (bytes : Nat) (what : String) : Method Unit :=
  require bytes (.underflowError ("TLReader buffer underflow while reading " ++ what))

/-- A check, a `memcpy` and `offset_ += n`. -/
def readFixed (n : Nat) (what : String) : Method (Block UInt8 n) := do
  requireRemaining n what
  take n .outOfBounds

/-- `TLReader::read_uint32`. -/
def readUint32 : Method UInt32 := do
  return UInt32.ofNat (Bytes.ofLE (← readFixed 4 "uint32").toList)

/-- `TLReader::read_int32`. -/
def readInt32 : Method Int32 := do return (← readUint32).toInt32

/-- `TLReader::read_uint64`. -/
def readUint64 : Method UInt64 := do
  return UInt64.ofNat (Bytes.ofLE (← readFixed 8 "uint64").toList)

/-- `TLReader::read_int64`. -/
def readInt64 : Method Int64 := do return (← readUint64).toInt64

/-- `TLReader::read_int128`. -/
def readInt128 : Method (Block UInt8 16) := readFixed 16 "int128"

/-- `TLReader::read_int256`. -/
def readInt256 : Method (Block UInt8 32) := readFixed 32 "int256"

/-- `TLReader::read_double`. -/
def readDouble : Method (Block UInt8 8) := readFixed 8 "double"

/-- The first part of `read_bytes`: `len` and `header_len`. -/
def readLength : Method (Nat × Nat) := do
  requireRemaining 1 "string/bytes length"
  let firstByte ← next .outOfBounds
  if firstByte ≤ 253 then return (firstByte.toNat, 1)
  else if firstByte = 0xfe then
    requireRemaining 3 "extended length"
    let b0 ← next .outOfBounds
    let b1 ← next .outOfBounds
    let b2 ← next .outOfBounds
    return ((word24 b0 b1 b2).toNat, 4)
  else throw (.runtimeError "Invalid TL length prefix byte")

/-- The second part of `read_bytes`: the content and the padding. -/
def readContent (len headerLen : Nat) : Method (List UInt8) := do
  requireRemaining len "string/bytes content"
  let result ← take len .outOfBounds
  let pad := (4 - (headerLen + len) % 4) % 4
  requireRemaining pad "padding"
  skip pad
  return result.toList

/-- `TLReader::read_bytes`. -/
def readBytes : Method (List UInt8) := do
  let (len, headerLen) ← readLength
  readContent len headerLen

/-- `TLReader::read_string`. -/
def readString : Method (List UInt8) := readBytes

/-- `TLReader::read_vector_header`. -/
def readVectorHeader : Method UInt32 := do
  let ctor ← readUint32
  if ctor ≠ TL_VECTOR then throw (.runtimeError "Invalid vector constructor ID")
  readUint32

/-- `TLReader::read_invoke_with_layer`, with what `out_layer` and `out_query` hold. -/
def readInvokeWithLayer (outLayer : Int32) (outQuery : List UInt8) :
    Method (Bool × Int32 × List UInt8) := do
  let r ← get
  if !r.hasRemaining 8 then return (false, outLayer, outQuery)
  let saveOffset := r.offset
  let ctor ← readUint32
  if ctor ≠ TL_INVOKE_WITH_LAYER then
    modify fun r => { r with offset := saveOffset }
    return (false, outLayer, outQuery)
  let layer ← readInt32
  let rem := remainingBytes (← get)
  let query ← take rem .outOfBounds
  return (true, layer, query.toList)

end TLReader

end CppGram
