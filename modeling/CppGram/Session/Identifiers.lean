import CppGram.Session.Envelope

/-!
# Identifiers and sequence numbers

A run of a session is a list of calls, with what each takes from outside: a reading of the clock,
which may go back, and the random bytes. An identifier may be returned or sit in a packet, so
`Event` is what a call issues and `Event.issuedMsgId`, `Event.issuedSeqNo` read the fields back out
of it. `generateMsgId_spec` is what one identifier owes to the one before, and `run_issues` the
result for whole runs from a fresh session: identifiers grow strictly, sequence numbers count the
content-related messages.
-/

namespace CppGram.Session

variable {ssl : OpenSSL}

/-! ## One identifier -/

/-- Clearing the two low bits rounds down to a multiple of 4. -/
lemma clear_low {x : Nat} (small : x < 2 ^ 64) : x &&& (2 ^ 64 - 1 - 3) = x / 4 * 4 := by
  -- both sides keep the bits from 2 to 63
  have mask : 2 ^ 64 - 1 - 3 = (2 ^ 62 - 1) <<< 2 := by decide
  have round : x / 4 * 4 = (x >>> 2) <<< 2 := by
    rw [Nat.shiftLeft_eq, Nat.shiftRight_eq_div_pow]
  rw [mask, round]
  apply Nat.eq_of_testBit_eq
  intro i
  rw [Nat.testBit_and, Nat.testBit_shiftLeft, Nat.testBit_shiftLeft, Nat.testBit_shiftRight,
    Nat.testBit_two_pow_sub_one]
  rcases Nat.lt_or_ge i 2 with low | high
  · simp [Nat.not_le.mpr low]
  · rcases Nat.lt_or_ge i 64 with inside | outside
    · simp [high, show i - 2 < 62 by omega, show 2 + (i - 2) = i by omega]
    · have zero : x.testBit i = false := Nat.testBit_lt_two_pow
        (Nat.lt_of_lt_of_le small (Nat.pow_le_pow_right (by decide) outside))
      simp [high, zero, show 2 + (i - 2) = i by omega]

/-- The clock's identifier: the second, a fraction of 32 bits, rounded down to a multiple of 4. -/
lemma clockMsgId_toNat (s : Session ssl) (epochMs : Int64) :
    ∃ fraction < 2 ^ 32, (s.clockMsgId epochMs).toBitVec.toNat =
      ((s.seconds epochMs).toBitVec.toNat % 2 ^ 32 * 2 ^ 32 + fraction) / 4 * 4 := by
  refine ⟨(epochMs % 1000 * 4294967).toBitVec.toNat % 2 ^ 32, Nat.mod_lt _ (by decide), ?_⟩
  rw [clockMsgId]
  generalize s.seconds epochMs = sec
  generalize epochMs % 1000 * 4294967 = frac
  have bits : (((sec <<< 32) ||| (frac &&& 0xffffffff)) &&& ~~~3).toBitVec.toNat =
      ((sec.toBitVec.toNat <<< 32 % 2 ^ 64) ||| (frac.toBitVec.toNat &&& 2 ^ 32 - 1)) &&&
        (2 ^ 64 - 1 - 3) := by
    simp
  have shifted : sec.toBitVec.toNat <<< 32 % 2 ^ 64 = (sec.toBitVec.toNat % 2 ^ 32) <<< 32 := by
    rw [Nat.shiftLeft_eq, Nat.shiftLeft_eq]
    omega
  rw [bits, shifted, Nat.and_two_pow_sub_one_eq_mod, Nat.or_comm,
    or_shift (Nat.mod_lt _ (by decide)), clear_low (by omega), Nat.add_comm, Nat.mul_comm (2 ^ 32)]

/-- The value of a signed number, by its bits. -/
lemma toInt_cond {x : Int64} : x.toInt =
    if x.toBitVec.toNat < 2 ^ 63 then (x.toBitVec.toNat : Int) else x.toBitVec.toNat - 2 ^ 64 := by
  rw [← Int64.toInt_toBitVec, BitVec.toInt_eq_toNat_cond]
  split <;> split <;> omega

/-- A message id of the clock is divisible by four. -/
lemma clockMsgId_dvd {s : Session ssl} {epochMs : Int64} : 4 ∣ (s.clockMsgId epochMs).toInt := by
  obtain ⟨fraction, -, bits⟩ := clockMsgId_toNat s epochMs
  rw [toInt_cond, bits]
  split <;> omega

/-- The second that the clock shows, without overflow. -/
def exactSecond (s : Session ssl) (epochMs : Int64) : Int :=
  epochMs.toInt / 1000 + s.timeOffset.toInt

/-- In range the second is computed exactly. -/
lemma toInt_seconds {s : Session ssl} {epochMs : Int64} (now : 0 ≤ epochMs.toInt)
    (low : -2 ^ 63 ≤ s.exactSecond epochMs) (high : s.exactSecond epochMs < 2 ^ 63) :
    (s.seconds epochMs).toInt = s.exactSecond epochMs := by
  rw [exactSecond] at low high ⊢
  rw [seconds, Int64.toInt_add, Int64.toInt_div_of_ne_right _ _ (by decide),
    Int.tdiv_eq_ediv_of_nonneg now]
  exact Int.bmod_eq_of_le (by norm_num; exact low) (by norm_num; exact high)

/-- The high half of the clock's identifier is the second, as long as that is in 31 bits. -/
lemma clockMsgId_high {s : Session ssl} {epochMs : Int64} (now : 0 ≤ epochMs.toInt)
    (low : 0 ≤ s.exactSecond epochMs) (high : s.exactSecond epochMs < 2 ^ 31) :
    (s.clockMsgId epochMs).toInt / 2 ^ 32 = s.exactSecond epochMs := by
  have value := toInt_seconds now (by omega) (by omega : s.exactSecond epochMs < 2 ^ 63)
  obtain ⟨fraction, small, bits⟩ := clockMsgId_toNat s epochMs
  rw [toInt_cond] at value
  rw [toInt_cond, bits, ← value]
  rw [← value] at low high
  split at value <;> split <;> omega

/-- The arithmetic of one identifier stays in 64 bits: the second does, and so does the successor of
    the last identifier where that is taken. -/
structure InRange (s : Session ssl) (epochMs : Int64) : Prop where
  now : 0 ≤ epochMs.toInt
  low : -2 ^ 63 ≤ s.exactSecond epochMs
  high : s.exactSecond epochMs < 2 ^ 63
  bump : s.clockMsgId epochMs ≤ s.lastMsgId → s.lastMsgId.toInt + 4 < 2 ^ 63

/-- The last identifier is one that may be issued, or zero. -/
structure MsgIdInv (s : Session ssl) : Prop where
  nonneg : 0 ≤ s.lastMsgId.toInt
  dvd : 4 ∣ s.lastMsgId.toInt

/-- Taking the successor of the last identifier does not wrap. -/
lemma toInt_bump {s : Session ssl} (fits : s.lastMsgId.toInt + 4 < 2 ^ 63) :
    (s.lastMsgId + 4).toInt = s.lastMsgId.toInt + 4 := by
  have low := s.lastMsgId.le_toInt
  rw [Int64.toInt_add, show (4 : Int64).toInt = 4 from rfl]
  exact Int.bmod_eq_of_le (by norm_num at low ⊢; omega) (by norm_num; omega)

/-- An identifier is larger than the last one and the last one from then on. -/
lemma generateMsgId_larger {s : Session ssl} {epochMs : Int64} (range : s.InRange epochMs) :
    s.lastMsgId.toInt < (s.generateMsgId epochMs).1.toInt ∧
      (s.generateMsgId epochMs).2.lastMsgId = (s.generateMsgId epochMs).1 := by
  by_cases behind : s.clockMsgId epochMs ≤ s.lastMsgId
  · simp only [generateMsgId, if_pos behind, toInt_bump (range.bump behind)]
    exact ⟨by omega, trivial⟩
  · simp only [generateMsgId, if_neg behind]
    rw [Int64.le_iff_toInt_le, not_le] at behind
    exact ⟨behind, trivial⟩

/-- An identifier is larger than the last one, divisible by 4 and the last one from then on. -/
lemma generateMsgId_spec {s : Session ssl} {epochMs : Int64} (inv : s.MsgIdInv)
    (range : s.InRange epochMs) :
    s.lastMsgId.toInt < (s.generateMsgId epochMs).1.toInt ∧
      4 ∣ (s.generateMsgId epochMs).1.toInt ∧
      (s.generateMsgId epochMs).2.lastMsgId = (s.generateMsgId epochMs).1 := by
  obtain ⟨larger, kept⟩ := generateMsgId_larger range
  refine ⟨larger, ?_, kept⟩
  by_cases behind : s.clockMsgId epochMs ≤ s.lastMsgId
  · simp only [generateMsgId, if_pos behind, toInt_bump (range.bump behind)]
    exact Int.dvd_add inv.dvd (by decide)
  · simp only [generateMsgId, if_neg behind]
    exact clockMsgId_dvd

/-! ## Calls -/

/-- The calls of a session that draw numbers or change what they are drawn from. -/
inductive Call where
  | generateMsgId (epochMs : Int64)
  | generateSeqNo (isContentRelated : Bool)
  | packUnencryptedMessage (payload : List UInt8) (epochMs : Int64)
  | packEncryptedMessage (payload : List UInt8) (isContentRelated : Bool) (draw : Nat → UInt8)
      (epochMs : Int64)
  | setTimeOffset (offsetSeconds : Int64)
  | setAuthKey (key : List UInt8)

/-- What a call issues. -/
inductive Event where
  | msgId (id : Int64)
  | seqNo (isContentRelated : Bool) (number : Int32)
  | packet (bytes : List UInt8)
  /-- An encrypted packet, with the plaintext that was encrypted in it. -/
  | encrypted (isContentRelated : Bool) (plaintext : List UInt8) (bytes : Except Fault (List UInt8))
  | threw (fault : Fault)
  | nothing

/-- The identifier that was issued, from inside the packet where it is in one. -/
def Event.issuedMsgId : Event → Option Int64
  | .msgId id => some id
  | .packet bytes => some (UInt64.ofNat (Bytes.ofLE (Bytes.span bytes 8 8))).toInt64
  | .encrypted _ plaintext _ => some (msgIdOf plaintext)
  | _ => none

/-- The sequence number that was issued, and whether for a content-related message. -/
def Event.issuedSeqNo : Event → Option (Bool × Int32)
  | .seqNo isContentRelated number => some (isContentRelated, number)
  | .encrypted isContentRelated plaintext _ => some (isContentRelated, seqNoOf plaintext)
  | _ => none

/-- One call: what is seen of it, and the session behind it. -/
def step (s : Session ssl) : Call → Event × Session ssl
  | .generateMsgId epochMs =>
    let (id, s) := s.generateMsgId epochMs
    (.msgId id, s)
  | .generateSeqNo isContentRelated =>
    let (seqNo, s) := s.generateSeqNo isContentRelated
    (.seqNo isContentRelated seqNo, s)
  | .packUnencryptedMessage payload epochMs =>
    let (packet, s) := s.packUnencryptedMessage payload epochMs
    (.packet packet, s)
  | .packEncryptedMessage payload isContentRelated draw epochMs =>
    let (packet, s') := s.packEncryptedMessage payload isContentRelated draw epochMs
    match (s.compose payload isContentRelated draw epochMs).1 with
    | .ok plaintext => (.encrypted isContentRelated plaintext packet, s')
    | .error fault => (.threw fault, s')
  | .setTimeOffset offsetSeconds => (.nothing, s.setTimeOffset offsetSeconds)
  | .setAuthKey key => (.nothing, s.setAuthKey key)

/-- A run of calls, with all that is seen. -/
def run : Session ssl → List Call → List Event × Session ssl
  | s, [] => ([], s)
  | s, call :: calls =>
    let (event, s) := s.step call
    let (events, s) := s.run calls
    (event :: events, s)

/-- The reading of the clock that a call draws an identifier at, if it does. -/
def clockOf (s : Session ssl) : Call → Option Int64
  | .generateMsgId epochMs => some epochMs
  | .packUnencryptedMessage _ epochMs => some epochMs
  | .packEncryptedMessage _ _ _ epochMs => if s.authKey.length = 256 then some epochMs else none
  | _ => none

/-- The kind of the sequence number that a call draws, if it does. -/
def kindOf (s : Session ssl) : Call → Option Bool
  | .generateSeqNo isContentRelated => some isContentRelated
  | .packEncryptedMessage _ isContentRelated _ _ =>
    if s.authKey.length = 256 then some isContentRelated else none
  | _ => none

/-- Every identifier of a run is drawn in range. -/
def RunInRange : Session ssl → List Call → Prop
  | _, [] => True
  | s, call :: calls =>
    (∀ epochMs, s.clockOf call = some epochMs → s.InRange epochMs) ∧
      RunInRange (s.step call).2 calls

/-! ## What a call does to the counters -/

/-- The packet has the message id that was drawn for it. -/
lemma msgId_packUnencryptedMessage {s : Session ssl} {payload epochMs} :
    (UInt64.ofNat (Bytes.ofLE
      (Bytes.span (s.packUnencryptedMessage payload epochMs).1 8 8))).toInt64 =
      (s.generateMsgId epochMs).1 := by
  have at_8 : Bytes.span (s.packUnencryptedMessage payload epochMs).1 8 8 =
      Bytes.toLE 8 (s.generateMsgId epochMs).1.toUInt64.toNat := by
    simp only [packUnencryptedMessage, List.append_assoc]
    exact Bytes.span_middle Bytes.toLE_length.symm Bytes.toLE_length.symm
  rw [at_8, Bytes.ofLE_toLE_of_lt (UInt64.toNat_lt _), UInt64.ofNat_toNat]
  rfl

/-- Without a key nothing is composed or drawn. -/
lemma compose_no_key {s : Session ssl} {payload isContentRelated draw epochMs}
    (no_key : s.authKey.length ≠ 256) :
    s.compose payload isContentRelated draw epochMs =
      (.error (.runtimeError "AuthKey is not set or invalid for encrypted session"), s) :=
  if_pos no_key

/-- With a key an encrypted packet is made of the next numbers. -/
lemma step_key {s : Session ssl} {payload isContentRelated draw epochMs}
    (key : s.authKey.length = 256) :
    s.step (.packEncryptedMessage payload isContentRelated draw epochMs) =
      (.encrypted isContentRelated
          (((s.generateMsgId epochMs).2.generateSeqNo isContentRelated).2.innerPlaintext
            (s.generateMsgId epochMs).1 (s.generateSeqNo isContentRelated).1 payload draw)
          (s.packEncryptedMessage payload isContentRelated draw epochMs).1,
        ((s.generateMsgId epochMs).2.generateSeqNo isContentRelated).2) := by
  simp only [step, packEncryptedMessage, compose_key key]

/-- Without a key the call throws, and nothing is drawn. -/
lemma step_no_key {s : Session ssl} {payload isContentRelated draw epochMs}
    (no_key : s.authKey.length ≠ 256) :
    s.step (.packEncryptedMessage payload isContentRelated draw epochMs) =
      (.threw (.runtimeError "AuthKey is not set or invalid for encrypted session"), s) := by
  simp only [step, packEncryptedMessage, compose_no_key no_key]

/-- A call issues the identifier that it draws, and keeps it. -/
lemma step_msgId (s : Session ssl) (call) :
    (s.step call).1.issuedMsgId =
        (s.clockOf call).map (fun epochMs => (s.generateMsgId epochMs).1) ∧
      (s.step call).2.lastMsgId =
        ((s.clockOf call).map (fun epochMs => (s.generateMsgId epochMs).1)).getD s.lastMsgId := by
  cases call with
  | generateMsgId epochMs => exact ⟨rfl, rfl⟩
  | generateSeqNo isContentRelated => cases isContentRelated <;> exact ⟨rfl, rfl⟩
  | packUnencryptedMessage payload epochMs =>
    exact ⟨congrArg some msgId_packUnencryptedMessage, rfl⟩
  | packEncryptedMessage payload isContentRelated draw epochMs =>
    by_cases key : s.authKey.length = 256
    · rw [step_key key, clockOf, if_pos key]
      refine ⟨congrArg some msgIdOf_innerPlaintext, ?_⟩
      cases isContentRelated <;> rfl
    · rw [step_no_key key, clockOf, if_neg key]
      exact ⟨rfl, rfl⟩
  | setTimeOffset offsetSeconds => exact ⟨rfl, rfl⟩
  | setAuthKey key => exact ⟨rfl, rfl⟩

/-- A call issues the sequence number that it draws, and counts it. -/
lemma step_seqNo (s : Session ssl) (call) :
    (s.step call).1.issuedSeqNo =
        (s.kindOf call).map (fun kind => (kind, (s.generateSeqNo kind).1)) ∧
      (s.step call).2.contentSeqNo =
        ((s.kindOf call).map (fun kind => (s.generateSeqNo kind).2.contentSeqNo)).getD
          s.contentSeqNo := by
  cases call with
  | generateMsgId epochMs => exact ⟨rfl, rfl⟩
  | generateSeqNo isContentRelated => cases isContentRelated <;> exact ⟨rfl, rfl⟩
  | packUnencryptedMessage payload epochMs => exact ⟨rfl, rfl⟩
  | packEncryptedMessage payload isContentRelated draw epochMs =>
    by_cases key : s.authKey.length = 256
    · rw [step_key key, kindOf, if_pos key]
      refine ⟨?_, ?_⟩
      · rw [Event.issuedSeqNo, seqNoOf_innerPlaintext]
        rfl
      · cases isContentRelated <;> rfl
    · rw [step_no_key key, kindOf, if_neg key]
      exact ⟨rfl, rfl⟩
  | setTimeOffset offsetSeconds => exact ⟨rfl, rfl⟩
  | setAuthKey key => exact ⟨rfl, rfl⟩

/-! ## Runs -/

/-- The message ids that were issued, in order. -/
def msgIds (events : List Event) : List Int64 := events.filterMap Event.issuedMsgId

/-- The sequence numbers that were issued, in order, each with its kind. -/
def seqNos (events : List Event) : List (Bool × Int32) := events.filterMap Event.issuedSeqNo

/-- The identifiers of a run are divisible by 4 and larger than all before them. -/
lemma run_msgIds {s : Session ssl} {calls} (inv : s.MsgIdInv) (range : s.RunInRange calls) :
    (∀ id ∈ msgIds (s.run calls).1, s.lastMsgId.toInt < id.toInt ∧ 4 ∣ id.toInt) ∧
      (msgIds (s.run calls).1).Pairwise fun a b => a.toInt < b.toInt := by
  -- on the calls, for any last identifier: `MsgIdInv` carries over to the one that is drawn
  induction calls generalizing s with
  | nil => exact ⟨nofun, .nil⟩
  | cons call calls ih =>
    obtain ⟨issued, kept⟩ := step_msgId s call
    obtain ⟨here, later⟩ := range
    rw [run]
    simp only [msgIds, List.filterMap_cons, issued]
    cases clock : s.clockOf call with
    | none =>
      rw [clock] at kept
      have ih := ih ⟨by rw [kept]; exact inv.nonneg, by rw [kept]; exact inv.dvd⟩ later
      rw [kept] at ih
      exact ih
    | some epochMs =>
      rw [clock] at kept
      obtain ⟨larger, dvd, -⟩ := generateMsgId_spec inv (here epochMs clock)
      have nonneg := inv.nonneg
      have ih := ih ⟨by rw [kept]; exact (by omega : 0 ≤ (s.generateMsgId epochMs).1.toInt),
        by rw [kept]; exact dvd⟩ later
      rw [kept] at ih
      obtain ⟨after, sorted⟩ := ih
      refine ⟨List.forall_mem_cons.mpr ⟨⟨larger, dvd⟩, fun id hid => ?_⟩,
        List.pairwise_cons.mpr ⟨fun id hid => (after id hid).1, sorted⟩⟩
      exact ⟨larger.trans (after id hid).1, (after id hid).2⟩

/-- The content-related messages among those that were numbered. -/
def contentCount (numbered : List (Bool × Int32)) : Nat := numbered.countP Prod.fst

/-- The messages that count are those related to content. -/
lemma contentCount_cons {kind n numbered} :
    contentCount ((kind, n) :: numbered) = kind.toNat + contentCount numbered := by
  rw [contentCount, List.countP_cons, Nat.add_comm, contentCount]
  cases kind <;> rfl

/-- A sequence number is twice the messages that counted before, and one more if this one counts. -/
lemma generateSeqNo_spec {s : Session ssl} (kind : Bool) {k : Nat}
    (counter : s.contentSeqNo.toInt = k) (few : kind.toNat + k < 2 ^ 30) :
    (s.generateSeqNo kind).1.toInt = ↑(2 * k + kind.toNat) ∧
      (s.generateSeqNo kind).2.contentSeqNo.toInt = ↑(kind.toNat + k) := by
  have double : (s.contentSeqNo * 2).toInt = ↑(2 * k) := by
    rw [Int32.toInt_mul, counter, show (2 : Int32).toInt = 2 from rfl,
      Int.bmod_eq_of_le (by norm_num; omega) (by norm_num; omega)]
    omega
  cases kind with
  | false => exact ⟨double, by rw [Bool.toNat_false, Nat.zero_add]; exact counter⟩
  | true =>
    rw [Bool.toNat_true] at few ⊢
    rw [generateSeqNo, if_pos rfl]
    simp only [Int32.toInt_add, double, counter, show (1 : Int32).toInt = 1 from rfl]
    rw [Int.bmod_eq_of_le (by norm_num; omega) (by norm_num; omega),
      Int.bmod_eq_of_le (by norm_num; omega) (by norm_num; omega)]
    omega

/-- The sequence numbers of a run count its content-related messages. -/
lemma run_seqNos {s : Session ssl} {calls} {k : Nat} (counter : s.contentSeqNo.toInt = k)
    (few : contentCount (seqNos (s.run calls).1) + k < 2 ^ 30) :
    (∀ before kind n after, seqNos (s.run calls).1 = before ++ (kind, n) :: after →
      n.toInt = ↑(2 * (contentCount before + k) + kind.toNat)) ∧
    (∀ p ∈ seqNos (s.run calls).1, ↑(2 * k) ≤ p.2.toInt) ∧
      (seqNos (s.run calls).1).Pairwise fun a b => a.2.toInt ≤ b.2.toInt := by
  -- on the calls, for any counter: `k` messages were content-related before the run
  induction calls generalizing s k with
  | nil =>
    refine ⟨fun before kind n after e => ?_, nofun, .nil⟩
    exact absurd e.symm (List.append_ne_nil_of_right_ne_nil _ (List.cons_ne_nil _ _))
  | cons call calls ih =>
    obtain ⟨issued, counted⟩ := step_seqNo s call
    cases kinds : s.kindOf call with
    | none =>
      rw [kinds] at counted issued
      have same : seqNos (s.run (call :: calls)).1 = seqNos ((s.step call).2.run calls).1 := by
        rw [run, seqNos, List.filterMap_cons, issued]
        rfl
      rw [same] at few ⊢
      exact ih (by rw [counted]; exact counter) few
    | some kind =>
      rw [kinds] at counted issued
      have more : seqNos (s.run (call :: calls)).1 =
          (kind, (s.generateSeqNo kind).1) :: seqNos ((s.step call).2.run calls).1 := by
        rw [run, seqNos, List.filterMap_cons, issued]
        rfl
      rw [more] at few ⊢
      rw [contentCount_cons] at few
      obtain ⟨first, next⟩ := generateSeqNo_spec kind counter (by omega)
      obtain ⟨formula, least, sorted⟩ := ih (k := kind.toNat + k) (by rw [counted]; exact next)
        (by omega)
      have one : kind.toNat ≤ 1 := Bool.toNat_le kind
      refine ⟨?_, ?_, ?_⟩
      · intro before kind' n after e
        cases before with
        | nil =>
          cases e
          rw [first, contentCount, List.countP_nil, Nat.zero_add]
        | cons p before =>
          rw [List.cons_append, List.cons.injEq] at e
          obtain ⟨rfl, e⟩ := e
          rw [formula before kind' n after e, contentCount_cons]
          congr 3
          omega
      · refine List.forall_mem_cons.mpr ⟨?_, fun p hp => ?_⟩
        · rw [first]
          omega
        · have le := least p hp
          omega
      · refine List.pairwise_cons.mpr ⟨fun p hp => ?_, sorted⟩
        have le := least p hp
        rw [first]
        omega

/-- Each call of a run in range is in range. -/
lemma RunInRange.at {s : Session ssl} {before call after} {epochMs : Int64}
    (range : s.RunInRange (before ++ call :: after))
    (clock : (s.run before).2.clockOf call = some epochMs) : (s.run before).2.InRange epochMs := by
  induction before generalizing s with
  | nil => exact range.1 epochMs clock
  | cons first before ih => exact ih range.2 clock

/-- Identifiers and sequence numbers over a whole run of a fresh session. -/
theorem run_issues (sessionId : UInt64) (calls : List Call)
    (in_range : RunInRange (new sessionId : Session ssl) calls)
    (few : contentCount (seqNos (run (new sessionId : Session ssl) calls).1) < 2 ^ 30) :
    let start : Session ssl := new sessionId
    let events := (start.run calls).1
    (∀ id ∈ msgIds events, 0 < id.toInt ∧ 4 ∣ id.toInt) ∧
    ((msgIds events).Pairwise fun a b => a.toInt < b.toInt) ∧
    (∀ before call after epochMs, calls = before ++ call :: after →
      let s := (start.run before).2
      s.clockOf call = some epochMs →
      s.lastMsgId < s.clockMsgId epochMs →
      0 ≤ s.exactSecond epochMs → s.exactSecond epochMs < 2 ^ 31 →
      ∃ id, (s.step call).1.issuedMsgId = some id ∧
        id.toInt / 2 ^ 32 = s.exactSecond epochMs) ∧
    (∀ before kind n after, seqNos events = before ++ (kind, n) :: after →
      n.toInt = ↑(2 * contentCount before + kind.toNat)) ∧
    ((seqNos events).Pairwise fun a b => a.2.toInt ≤ b.2.toInt) ∧
    (∀ (s : Session ssl) payload isContentRelated draw epochMs, s.authKey.length ≠ 256 →
      s.packEncryptedMessage payload isContentRelated draw epochMs =
        (.error (.runtimeError "AuthKey is not set or invalid for encrypted session"), s)) := by
  obtain ⟨ids, increasing⟩ := run_msgIds (s := new sessionId) ⟨Int.le_refl 0, Int.dvd_zero 4⟩
    in_range
  obtain ⟨formula, -, sorted⟩ := run_seqNos (s := new sessionId) (k := 0) rfl few
  refine ⟨ids, increasing, ?_, formula, sorted, ?_⟩
  · rintro before call after epochMs rfl s clock ahead low high
    obtain ⟨issued, -⟩ := step_msgId s call
    rw [clock] at issued
    refine ⟨_, issued, ?_⟩
    have drawn : (s.generateMsgId epochMs).1 = s.clockMsgId epochMs := by
      rw [Int64.lt_iff_toInt_lt, ← not_le, ← Int64.le_iff_toInt_le] at ahead
      exact if_neg ahead
    simp only [drawn]
    exact clockMsgId_high (in_range.at clock).now low high
  · intro s payload isContentRelated draw epochMs no_key
    rw [packEncryptedMessage, compose_no_key no_key]
    rfl

/-- Calls with a clock that goes back, a correction of an hour, a packet for which there is no key, and
    one that is encrypted with a key. -/
def clockGoesBack : List Call := [
  .generateMsgId 1700000000123, .packUnencryptedMessage [0x70] 1699999999000, .generateSeqNo true,
  .packEncryptedMessage [0x70] true (fun _ => 0) 1700000000500, .setTimeOffset 3600,
  .generateMsgId 1700000001000, .setAuthKey (List.replicate 256 1),
  .packEncryptedMessage [0x70] true (fun _ => 0) 1700000001000, .generateSeqNo false]

/-- The second identifier is 4 more than the first, the third is an hour later, and that of the encrypted
    packet 4 more; no number is lost to the packet that was not packed. -/
theorem run_issues_clock_goes_back :
    let events := (run (new 7 : Session reference) clockGoesBack).1
    msgIds events =
        [7301444403728280940, 7301444403728280944, 7301459869377232896, 7301459869377232900] ∧
      seqNos events = [(true, 1), (true, 3), (false, 4)] ∧
      (msgIds events).Pairwise fun a b => a.toInt < b.toInt := by
  have in_range : RunInRange (new 7 : Session reference) clockGoesBack := by
    refine ⟨?_, ?_, nofun, ?_, nofun, ?_, nofun, ?_, nofun, trivial⟩ <;> intro epochMs clock
    case refine_5 =>
      -- there is a key now
      cases (clock.symm.trans (by decide +kernel) : some epochMs = some (1700000001000 : Int64))
      exact ⟨by decide +kernel, by decide +kernel, by decide +kernel, by decide +kernel⟩
    all_goals cases clock
    all_goals exact ⟨by decide, by decide, by decide, by decide⟩
  obtain ⟨-, increasing, -⟩ := run_issues 7 clockGoesBack in_range (by decide +kernel)
  exact ⟨by decide +kernel, by decide +kernel, increasing⟩

end CppGram.Session
