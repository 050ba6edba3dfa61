import CppGram.Lib.Delimited

/-!
# The record of a ClientHello

The TLS record that holds one ClientHello and nothing else. Nine lengths stand in it: of the record, the
handshake message, the session id, the cipher suites, the compression methods, the extensions, each
extension and, in the one that names servers, of the list and of each name. `parse` is strict about all
of them: each has to cover exactly what is read behind it.
-/

namespace Tls
open Ige Reading Delimited

/-- A name in the extension of server names. -/
structure ServerName where
  nameType : UInt8
  name : List UInt8
  deriving DecidableEq

/-- An extension: server names (type 0) are parsed, the data of others is kept. -/
inductive Extension where
  | serverName (names : List ServerName)
  | other (type : Nat) (data : List UInt8)
  deriving DecidableEq

/-- The fields of the message. -/
structure ClientHello where
  version : Nat
  random : Block UInt8 32
  sessionId : List UInt8
  cipherSuites : List Nat
  compressionMethods : List UInt8
  extensions : List Extension

/-- A handshake record with a client hello in it. -/
structure Record where
  version : Nat
  hello : ClientHello

/-! ## Reading -/

/-- Reads a server name. -/
def serverName : Reader ServerName := do
  let nameType ← next ()
  let name ← vector 2 rest
  return ⟨nameType, name⟩

/-- Reads an extension: its type, and its data up to the announced length. -/
def extension : Reader Extension := do
  let type ← number 2
  if type = 0 then return .serverName (← vector 2 (vector 2 (items serverName)))
  else return .other type (← vector 2 rest)

/-- Reads the fields of a client hello up to its end. -/
def clientHello : Reader ClientHello := do
  let version ← number 2
  let random ← take 32 ()
  let sessionId ← vector 1 rest
  let cipherSuites ← vector 2 (items (number 2))
  let compressionMethods ← vector 1 rest
  let extensions ← vector 2 (items extension)
  return ⟨version, random, sessionId, cipherSuites, compressionMethods, extensions⟩

/-- A handshake message of the type of a ClientHello. -/
def handshake : Reader ClientHello := do
  expect 0x01
  vector 3 clientHello

/-- A record of the type of handshake messages. -/
def record : Reader Record := do
  expect 0x16
  let version ← number 2
  let hello ← vector 2 handshake
  return ⟨version, hello⟩

/-- A record, and nothing behind it. -/
def parse (s : List UInt8) : Except Unit Record := exactly record s

/-! ## Writing -/

namespace ServerName

/-- The bytes of a server name. -/
def encoded (n : ServerName) : List UInt8 := n.nameType :: delimit 2 n.name

/-- Every length has room in its field. -/
def Fits (n : ServerName) : Prop := n.name.length < 256 ^ 2

end ServerName

namespace Extension

/-- The number of the type. -/
def type : Extension → Nat
  | .serverName _ => 0
  | .other type _ => type

/-- The data of an extension. -/
def body : Extension → List UInt8
  | .serverName names => delimit 2 (names.flatMap ServerName.encoded)
  | .other _ data => data

/-- The bytes of an extension. -/
def encoded (e : Extension) : List UInt8 := toBE 2 e.type ++ delimit 2 e.body

/-- Type and data have room in their fields, and type 0 is of server names only. -/
def Fits (e : Extension) : Prop :=
  e.type < 256 ^ 2 ∧ e.body.length < 256 ^ 2 ∧
    match e with
    | .serverName names => ∀ n ∈ names, n.Fits
    | .other type _ => type ≠ 0

end Extension

namespace ClientHello

/-- The bytes of the message, field by field. -/
def encoded (h : ClientHello) : List UInt8 :=
  toBE 2 h.version ++ (h.random.toList ++ (delimit 1 h.sessionId ++
    (delimit 2 (h.cipherSuites.flatMap (toBE 2)) ++ (delimit 1 h.compressionMethods ++
      delimit 2 (h.extensions.flatMap Extension.encoded)))))

/-- All numbers and lengths have room in their fields. -/
structure Fits (h : ClientHello) : Prop where
  version : h.version < 256 ^ 2
  sessionId : h.sessionId.length < 256 ^ 1
  cipherSuites : ∀ suite ∈ h.cipherSuites, suite < 256 ^ 2
  cipherSuites_length : (h.cipherSuites.flatMap (toBE 2)).length < 256 ^ 2
  compressionMethods : h.compressionMethods.length < 256 ^ 1
  extensions : ∀ e ∈ h.extensions, e.Fits
  extensions_length : (h.extensions.flatMap Extension.encoded).length < 256 ^ 2

end ClientHello

namespace Record

/-- The bytes of a record. -/
def encoded (r : Record) : List UInt8 :=
  0x16 :: (toBE 2 r.version ++ delimit 2 (0x01 :: delimit 3 r.hello.encoded))

/-- Numbers and lengths of the record have room in their fields. -/
structure Fits (r : Record) : Prop where
  version : r.version < 256 ^ 2
  hello : r.hello.Fits
  length : (0x01 :: delimit 3 r.hello.encoded).length < 256 ^ 2

end Record

/-! ## Reading what was written -/

/-- A server name is read back. -/
lemma reads_serverName {n : ServerName} (fits : n.Fits) : Reads serverName n.encoded n :=
  Reads.next.bind ((reads_vector whole_rest fits).map fun name => (⟨n.nameType, name⟩ : ServerName))

/-- An extension is read back. -/
lemma reads_extension {e : Extension} (fits : e.Fits) : Reads extension e.encoded e := by
  obtain ⟨kind, length, inner⟩ := fits
  refine (reads_number kind).bind ?_
  cases e with
  | serverName names =>
    have each : ∀ n ∈ names, Reads serverName n.encoded n ∧ n.encoded ≠ [] := fun n member =>
      ⟨reads_serverName (inner n member), List.cons_ne_nil _ _⟩
    have list : (names.flatMap ServerName.encoded).length < 256 ^ 2 := by
      simp only [Extension.body, delimit_length] at length
      omega
    have read := reads_vector (whole_of_reads (reads_vector (whole_items each) list)) length
    exact read.map Extension.serverName
  | other type data =>
    have other : ¬ Extension.type (.other type data) = 0 := inner
    rw [if_neg other]
    exact (reads_vector whole_rest length).map (Extension.other type)

/-- The fields of a client hello are read back. -/
lemma reads_clientHello {h : ClientHello} (fits : h.Fits) : Reads clientHello h.encoded h := by
  have suites : ∀ suite ∈ h.cipherSuites, Reads (number 2) (toBE 2 suite) suite ∧
      toBE 2 suite ≠ [] := fun suite member =>
    ⟨reads_number (fits.cipherSuites suite member), List.ne_nil_of_length_pos (by simp)⟩
  have extensions : ∀ e ∈ h.extensions, Reads extension e.encoded e ∧ e.encoded ≠ [] :=
    fun e member => ⟨reads_extension (fits.extensions e member),
      List.ne_nil_of_length_pos (by simp [Extension.encoded])⟩
  refine (reads_number fits.version).bind ((Reads.take h.random.length_eq).bind ?_)
  refine (reads_vector whole_rest fits.sessionId).bind ?_
  refine (reads_vector (whole_items suites) fits.cipherSuites_length).bind ?_
  refine (reads_vector whole_rest fits.compressionMethods).bind ?_
  exact (reads_vector (whole_items extensions) fits.extensions_length).map fun extensions =>
    (⟨_, _, _, _, _, extensions⟩ : ClientHello)

/-- A record whose lengths have room in their fields is parsed from its bytes. -/
theorem parse_encoded {r : Record} (fits : r.Fits) : parse r.encoded = .ok r := by
  have hello : r.hello.encoded.length < 256 ^ 3 := by
    have length := fits.length
    simp only [List.length_cons, delimit_length] at length
    omega
  have message : Reads handshake (0x01 :: delimit 3 r.hello.encoded) r.hello :=
    reads_expect.bind (reads_vector (whole_of_reads (reads_clientHello fits.hello)) hello)
  refine exactly_whole (whole_of_reads (reads_expect.bind ?_))
  refine (reads_number fits.version).bind ?_
  exact (reads_vector (whole_of_reads message) fits.length).map fun hello =>
    (⟨r.version, hello⟩ : Record)

end Tls
