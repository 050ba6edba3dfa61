import CppGram.Network.TcpConnection
import CppGram.Transport.RoundTrip

/-!
# What the codec is fed

`receive_packet` appends each chunk to `rx_buffer_` and feeds the codec, which has a buffer of its
own, the whole of it; only a packet empties `rx_buffer_`. `Logged` writes down what a codec is fed
and nothing else (`receiveAll_logged`). `feedsOnce_iff` says when the codec is fed a beginning of
the received bytes: exactly when no call starts with bytes in `rx_buffer_` and no chunk is received
behind one in which the codec found no packet. A frame split over two chunks is fed one and a half
times (`split_frame_fed_twice`).
-/

namespace CppGram.Network
open Transport

/-- A codec with the byte strings passed to its `decode_packets`. -/
structure Logged (κ : Type) where
  codec : κ
  fed : List (List UInt8) := []

/-! ## Waiting -/

/-- A chunk that is awaited is the next one, and has a byte. -/
lemma await_some {conn timeoutMs elapsed inbox chunk inbox'}
    (h : await conn timeoutMs elapsed inbox = (some chunk, inbox')) :
    chunk ≠ [] ∧ inbox = chunk :: inbox' := by
  simp only [await, receiveBytes] at h
  split at h
  · cases h
  · split at h
    · cases h
    · rename_i first rest ne e
      cases h
      split at e
      · cases e
        exact absurd rfl ne
      · cases inbox with
        | nil => cases e; exact absurd rfl ne
        | cons first inbox => cases e; exact ⟨ne, rfl⟩

/-- Waiting in vain takes no byte out of the inbox. -/
lemma await_none {conn timeoutMs elapsed inbox inbox'}
    (h : await conn timeoutMs elapsed inbox = (none, inbox')) :
    ∃ got, inbox = got ++ inbox' ∧ got.flatten = [] := by
  simp only [await, receiveBytes] at h
  split at h
  · cases h
    exact ⟨[], rfl, rfl⟩
  · split at h
    · rename_i rest e
      cases h
      split at e
      · cases e
        exact ⟨[], rfl, rfl⟩
      · cases inbox with
        | nil => cases e; exact ⟨[], rfl, rfl⟩
        | cons first inbox => cases e; exact ⟨[[]], rfl, rfl⟩
    · cases h

/-- Between two states of a run, `got` was taken out of the inbox and `fed` was fed. -/
structure Moves {κ : Type} (c : Logged κ) (inbox : List (List UInt8)) (c' : Logged κ)
    (inbox' : List (List UInt8)) (got fed : List UInt8) : Prop where
  taken : ∃ chunks, inbox = chunks ++ inbox' ∧ chunks.flatten = got
  logged : c'.fed.flatten = c.fed.flatten ++ fed

/-- What one part of a run takes and feeds, and then the other. -/
lemma Moves.trans {κ : Type} {c c' c'' : Logged κ} {inbox inbox' inbox'' got got' fed fed'}
    (h : Moves c inbox c' inbox' got fed) (h' : Moves c' inbox' c'' inbox'' got' fed') :
    Moves c inbox c'' inbox'' (got ++ got') (fed ++ fed') := by
  obtain ⟨chunks, e, rfl⟩ := h.taken
  obtain ⟨chunks', e', rfl⟩ := h'.taken
  refine ⟨⟨chunks ++ chunks', ?_, List.flatten_append⟩, ?_⟩
  · rw [e, e', List.append_assoc]
  · rw [h'.logged, h.logged, List.append_assoc]

/-- What a run has taken out of the inbox is what is not left in it. -/
lemma Moves.received {κ : Type} {c c' : Logged κ} {inbox inbox' got fed received}
    (moves : Moves c inbox c' inbox' got fed) (split : inbox = received ++ inbox') :
    received.flatten = got := by
  obtain ⟨chunks, e, rfl⟩ := moves.taken
  rw [List.append_cancel_right (split.symm.trans e)]

/-- To wait takes a chunk at most, and feeds nothing. -/
lemma Moves.waits {κ : Type} {conn timeoutMs elapsed inbox chunk inbox'} (c : Logged κ)
    (h : await conn timeoutMs elapsed inbox = (chunk, inbox')) :
    Moves c inbox c inbox' (chunk.getD []) [] := by
  refine ⟨?_, (List.append_nil _).symm⟩
  cases chunk with
  | none => exact await_none h
  | some chunk =>
    obtain ⟨-, rfl⟩ := await_some h
    exact ⟨[chunk], rfl, List.flatten_singleton⟩

section
variable {κ : Type} [ITransportCodec κ]

/-- A logged codec encodes and decodes as the codec does. -/
instance : ITransportCodec (Logged κ) where
  getHeader c := ITransportCodec.getHeader c.codec
  encodePacket c payload :=
    let (frame, codec) := ITransportCodec.encodePacket c.codec payload
    (frame, { c with codec := codec })
  decodePackets c data :=
    let (packets, codec) := ITransportCodec.decodePackets c.codec data
    (packets, { codec := codec, fed := c.fed ++ [data] })
  reset c := { c with codec := ITransportCodec.reset c.codec }

/-- The outcome without the log. -/
def Received.erase (r : Received (Logged κ)) : Received κ :=
  ⟨r.result, r.conn, r.codec.codec, r.sock⟩

/-- Over the whole run the codec was fed a beginning of the bytes that were received. -/
def FeedsOnce (fd : Int) (codec : κ) (timeouts : List Int) (sock : ReceiveSocket) : Prop :=
  let (_, _, last, sock') := receiveAll ⟨fd, []⟩ (⟨codec, []⟩ : Logged κ) timeouts sock
  ∃ received, sock.inbox = received ++ sock'.inbox ∧ last.fed.flatten <+: received.flatten

/-- A call starts with nothing in `rx_buffer_`, and when the codec finds no packet in the first
    chunk that the call receives, it receives no second one. -/
def CallFresh (conn : TcpConnection) (codec : κ) (timeoutMs : Int) (sock : ReceiveSocket) : Prop :=
  conn.rxBuffer = [] ∧
  ∀ {first second clock chunk inbox},
    sock.clock = first :: second :: clock →
    await conn timeoutMs first sock.inbox = (some chunk, inbox) →
    (ITransportCodec.decodePackets codec chunk).1 = .ok [] →
    (await conn timeoutMs second inbox).1 = none

/-- Each call of a run starts fresh. -/
def RunFresh (conn : TcpConnection) (codec : κ) : List Int → ReceiveSocket → Prop
  | [], _ => True
  | timeoutMs :: timeouts, sock =>
    let call := receivePacket conn codec timeoutMs sock
    CallFresh conn codec timeoutMs sock ∧ RunFresh call.conn call.codec timeouts call.sock

/-- Whenever all calls of a run are fresh and it receives the frames of payloads that the format can
    carry, wherever these are cut, the codec returns the payloads. -/
def DecodesSplitFrames (codec : κ) (admissible : List UInt8 → Prop) (fd : Int)
    (timeouts : List Int) (sock : ReceiveSocket) : Prop :=
  ∀ payloads received,
    RunFresh ⟨fd, []⟩ codec timeouts sock →
    (∀ p ∈ payloads, admissible p) →
    let (_, _, last, sock') := receiveAll ⟨fd, []⟩ (⟨codec, []⟩ : Logged κ) timeouts sock
    sock.inbox = received ++ sock'.inbox →
    received.flatten = (encodeAll codec payloads).1.flatten →
    ∃ c, decodeAll codec last.fed = (payloads, none, c)

/-! ## One turn of the loop -/

lemma feed_empty {conn : TcpConnection} {c : κ} (empty : conn.rxBuffer = []) :
    feed conn c = (none, conn, c) :=
  if_pos empty

/-- Without a packet the buffer stays. -/
lemma feed_none {conn : TcpConnection} {c : κ} (h : (feed conn c).1 = none) :
    (feed conn c).2.1 = conn := by
  rw [feed] at h ⊢
  split
  · rfl
  · rename_i ne
    rw [if_neg ne] at h
    split at h
    · cases h
    · simp only [*]
    · cases h

/-- The loop goes on after `rx_buffer_` was fed when no packet came out. -/
lemma feed_none_iff {conn : TcpConnection} {c : κ} (ne : conn.rxBuffer ≠ []) :
    (feed conn c).1 = none ↔ (ITransportCodec.decodePackets c conn.rxBuffer).1 = .ok [] := by
  rw [feed, if_neg ne]
  generalize ITransportCodec.decodePackets c conn.rxBuffer = r
  obtain ⟨result, codec⟩ := r
  cases result with
  | error e => exact iff_of_false nofun nofun
  | ok packets =>
    cases packets with
    | nil => exact iff_of_true rfl rfl
    | cons packet packets => exact iff_of_false nofun nofun

/-! ## The log changes nothing -/

/-- To feed a logged codec is to feed the codec. -/
lemma feed_logged {conn : TcpConnection} {c : Logged κ} :
    feed conn c.codec = ((feed conn c).1, (feed conn c).2.1, (feed conn c).2.2.codec) := by
  simp only [feed]
  split
  · rfl
  · simp only [ITransportCodec.decodePackets]
    generalize ITransportCodec.decodePackets c.codec conn.rxBuffer = r
    obtain ⟨result, codec⟩ := r
    cases result with
    | error e => rfl
    | ok packets =>
      cases packets with
      | nil => rfl
      | cons packet packets => rfl

/-- The loop does with a logged codec what it does with the codec. -/
lemma receiveLoop_logged {timeoutMs clock inbox} {conn : TcpConnection} {c : Logged κ} :
    receiveLoop timeoutMs clock inbox conn c.codec =
      (receiveLoop timeoutMs clock inbox conn c).erase := by
  induction clock generalizing inbox conn c with
  | nil =>
    rw [receiveLoop, receiveLoop, feed_logged]
    generalize feed conn c = f
    obtain ⟨result, conn, c⟩ := f
    cases result with
    | some result => rfl
    | none => rfl
  | cons elapsed clock ih =>
    rw [receiveLoop, receiveLoop, feed_logged]
    generalize feed conn c = f
    obtain ⟨result, conn, c⟩ := f
    cases result with
    | some result => rfl
    | none =>
      simp only
      generalize await conn timeoutMs elapsed inbox = a
      obtain ⟨chunk, inbox⟩ := a
      cases chunk with
      | none => rfl
      | some chunk => exact ih

/-- A call does with a logged codec what it does with the codec. -/
lemma receivePacket_logged {conn : TcpConnection} {c : Logged κ} {timeoutMs sock} :
    receivePacket conn c.codec timeoutMs sock = (receivePacket conn c timeoutMs sock).erase := by
  rw [receivePacket, receivePacket]
  split
  · rfl
  · exact receiveLoop_logged

/-- What is fed is what the buffer holds. -/
lemma feed_fed {conn : TcpConnection} {c : Logged κ} :
    (feed conn c).2.2.fed.flatten = c.fed.flatten ++ conn.rxBuffer := by
  rw [feed]
  split
  · rename_i empty
    rw [empty, List.append_nil]
  · simp only [ITransportCodec.decodePackets]
    generalize ITransportCodec.decodePackets c.codec conn.rxBuffer = r
    obtain ⟨result, codec⟩ := r
    have logged : (c.fed ++ [conn.rxBuffer]).flatten = c.fed.flatten ++ conn.rxBuffer := by
      rw [List.flatten_append, List.flatten_singleton]
    cases result with
    | error e => exact logged
    | ok packets =>
      cases packets with
      | nil | cons => exact logged

/-! ## Fed and received bytes -/

/-- Without a packet the loop goes on with the next chunk. -/
lemma receiveLoop_more {timeoutMs elapsed clock inbox chunk inbox'} {conn : TcpConnection} {c : κ}
    (undelivered : (feed conn c).1 = none)
    (received : await conn timeoutMs elapsed inbox = (some chunk, inbox')) :
    receiveLoop timeoutMs (elapsed :: clock) inbox conn c =
      receiveLoop timeoutMs clock inbox' { conn with rxBuffer := conn.rxBuffer ++ chunk }
        (feed conn c).2.2 := by
  have same := feed_none undelivered
  rw [receiveLoop]
  generalize feed conn c = f at undelivered same ⊢
  obtain ⟨result, conn', c'⟩ := f
  cases undelivered
  cases same
  simp only [received]

lemma Moves.feeds (conn : TcpConnection) (c : Logged κ) (inbox) :
    Moves c inbox (feed conn c).2.2 inbox [] conn.rxBuffer :=
  ⟨⟨[], rfl, rfl⟩, feed_fed⟩

/-- A turn feeds `rx_buffer_` and then ends the call, or receives one more chunk. -/
lemma receiveLoop_turn (timeoutMs clock inbox) (conn : TcpConnection) (c : Logged κ) :
    Moves c inbox (receiveLoop timeoutMs clock inbox conn c).codec
      (receiveLoop timeoutMs clock inbox conn c).sock.inbox [] conn.rxBuffer ∨
    ∃ elapsed rest chunk inbox', clock = elapsed :: rest ∧ (feed conn c).1 = none ∧
      await conn timeoutMs elapsed inbox = (some chunk, inbox') := by
  have feeds := Moves.feeds conn c inbox
  have same : (feed conn c).1 = none → (feed conn c).2.1 = conn := feed_none
  cases clock with
  | nil =>
    left
    rw [receiveLoop]
    generalize feed conn c = f at feeds ⊢
    obtain ⟨result, conn', c'⟩ := f
    cases result with
    | some result | none => exact feeds
  | cons elapsed rest =>
    rw [receiveLoop]
    generalize feed conn c = f at feeds same ⊢
    obtain ⟨result, conn', c'⟩ := f
    cases result with
    | some result => exact .inl feeds
    | none =>
      cases same rfl
      obtain ⟨chunk, inbox', a⟩ : ∃ chunk inbox', await conn' timeoutMs elapsed inbox =
        (chunk, inbox') := ⟨_, _, rfl⟩
      cases chunk with
      | none =>
        have waits := feeds.trans (.waits c' a)
        rw [List.append_nil] at waits
        simp only [a]
        exact .inl waits
      | some chunk => exact .inr ⟨elapsed, rest, chunk, inbox', rfl, rfl, a⟩

/-- The loop feeds what is in `rx_buffer_` and, at least once, what it receives. -/
lemma receiveLoop_moves (timeoutMs clock inbox) (conn : TcpConnection) (c : Logged κ) :
    ∃ got fed, Moves c inbox (receiveLoop timeoutMs clock inbox conn c).codec
      (receiveLoop timeoutMs clock inbox conn c).sock.inbox got fed ∧
      conn.rxBuffer.length + got.length ≤ fed.length := by
  induction clock generalizing inbox conn c with
  | nil =>
    rcases receiveLoop_turn timeoutMs [] inbox conn c with ends | ⟨_, _, _, _, e, -⟩
    · exact ⟨_, _, ends, Nat.le_refl _⟩
    · cases e
  | cons elapsed clock ih =>
    rcases receiveLoop_turn timeoutMs (elapsed :: clock) inbox conn c with
      ends | ⟨_, _, chunk, inbox', e, undelivered, received⟩
    · exact ⟨_, _, ends, Nat.le_refl _⟩
    · cases e
      obtain ⟨got, fed, moves, le⟩ := ih inbox' { conn with rxBuffer := conn.rxBuffer ++ chunk }
        (feed conn c).2.2
      rw [receiveLoop_more undelivered received]
      refine ⟨_, _, ((Moves.feeds ..).trans (.waits _ received)).trans moves, ?_⟩
      simp only [List.length_append, List.length_nil, Option.getD_some] at le ⊢
      omega

/-- A call that starts fresh feeds just what it takes. -/
lemma receiveLoop_fresh {timeoutMs clock inbox} {conn : TcpConnection} {c : Logged κ}
    (fresh : CallFresh conn c.codec timeoutMs ⟨clock, inbox⟩) :
    ∃ got, Moves c inbox (receiveLoop timeoutMs clock inbox conn c).codec
      (receiveLoop timeoutMs clock inbox conn c).sock.inbox got got := by
  obtain ⟨empty, alone⟩ := fresh
  rcases receiveLoop_turn timeoutMs clock inbox conn c with
    ends | ⟨first, rest, chunk, inbox', rfl, -, received⟩
  · rw [empty] at ends
    exact ⟨[], ends⟩
  · have some_byte := (await_some received).1
    have undelivered : (feed conn c).1 = none := by rw [feed_empty empty]
    have waits := Moves.waits c received
    rw [receiveLoop_more undelivered received, feed_empty empty, empty, List.nil_append]
    rcases receiveLoop_turn timeoutMs rest inbox' { conn with rxBuffer := chunk } c with
      ends | ⟨second, rest, chunk', inbox'', rfl, nothing, received'⟩
    · have moves := waits.trans ends
      rw [List.append_nil] at moves
      exact ⟨_, moves⟩
    · -- the call would receive a second chunk behind one without a packet
      have nothing := (feed_none_iff some_byte).mp nothing
      have undecoded : (ITransportCodec.decodePackets c.codec chunk).1 = .ok [] := nothing
      have broke := alone rfl received undecoded
      have received'' : await conn timeoutMs second inbox' = (some chunk', inbox'') := received'
      rw [received''] at broke
      cases broke

/-- Any other call feeds some byte once more. -/
lemma receiveLoop_stale {timeoutMs clock inbox} {conn : TcpConnection} {c : Logged κ}
    (stale : ¬ CallFresh conn c.codec timeoutMs ⟨clock, inbox⟩) :
    ∃ got fed, Moves c inbox (receiveLoop timeoutMs clock inbox conn c).codec
      (receiveLoop timeoutMs clock inbox conn c).sock.inbox got fed ∧ got.length < fed.length := by
  by_cases empty : conn.rxBuffer = []
  -- the first chunk is fed without a packet, and once more together with the second one
  · simp only [CallFresh, empty, true_and, not_forall] at stale
    obtain ⟨first, second, rest, chunk, inbox', rfl, received, undecoded, more⟩ := stale
    obtain ⟨some_byte, -⟩ := await_some received
    have undelivered : (feed conn c).1 = none := by rw [feed_empty empty]
    rw [receiveLoop_more undelivered received, feed_empty empty, empty, List.nil_append]
    have nothing : (feed { conn with rxBuffer := chunk } c).1 = none :=
      (feed_none_iff some_byte).mpr undecoded
    obtain ⟨chunk', inbox'', received'⟩ : ∃ chunk' inbox'',
        await conn timeoutMs second inbox' = (some chunk', inbox'') := by
      cases a : await conn timeoutMs second inbox' with
      | mk next inbox'' =>
        cases next with
        | none => exact absurd (congrArg Prod.fst a) more
        | some chunk' => exact ⟨chunk', inbox'', rfl⟩
    rw [receiveLoop_more nothing received']
    obtain ⟨got, fed, moves, le⟩ := receiveLoop_moves timeoutMs rest inbox''
      { conn with rxBuffer := chunk ++ chunk' } (feed { conn with rxBuffer := chunk } c).2.2
    have first_two := (Moves.waits c received).trans
      (Moves.feeds { conn with rxBuffer := chunk } c inbox')
    refine ⟨_, _, (first_two.trans (.waits _ received')).trans moves, ?_⟩
    have pos := List.length_pos_of_ne_nil some_byte
    simp only [List.length_append, List.length_nil, Option.getD_some] at le ⊢
    omega
  -- what an earlier call left in `rx_buffer_` has been fed by that call
  · obtain ⟨got, fed, moves, le⟩ := receiveLoop_moves timeoutMs clock inbox conn c
    have pos := List.length_pos_of_ne_nil empty
    exact ⟨got, fed, moves, by omega⟩

/-! ## Calls and runs -/

/-- On a connection a call is its loop. -/
lemma receivePacket_open {conn : TcpConnection} {c : κ} {timeoutMs sock}
    (connected : conn.isConnected) :
    receivePacket conn c timeoutMs sock = receiveLoop timeoutMs sock.clock sock.inbox conn c := by
  simp only [receivePacket, connected, Bool.not_true, Bool.false_eq_true, if_false]

/-- A call on an open connection feeds what it receives if it is fresh, and more if it is not. -/
lemma receivePacket_moves {conn : TcpConnection} (connected : conn.isConnected) (c : Logged κ)
    (timeoutMs sock) :
    ∃ got fed, Moves c sock.inbox (receivePacket conn c timeoutMs sock).codec
      (receivePacket conn c timeoutMs sock).sock.inbox got fed ∧
      (CallFresh conn c.codec timeoutMs sock → fed = got) ∧
      (¬ CallFresh conn c.codec timeoutMs sock → got.length < fed.length) := by
  rw [receivePacket_open connected]
  by_cases fresh : CallFresh conn c.codec timeoutMs sock
  · obtain ⟨got, moves⟩ := receiveLoop_fresh fresh
    exact ⟨got, got, moves, fun _ => rfl, fun stale => absurd fresh stale⟩
  · obtain ⟨got, fed, moves, lt⟩ := receiveLoop_stale fresh
    exact ⟨got, fed, moves, fun h => absurd h fresh, fun _ => lt⟩

/-- Feeding leaves the socket alone. -/
lemma feed_socketFd (conn : TcpConnection) (c : κ) :
    (feed conn c).2.1.socketFd = conn.socketFd := by
  rw [feed]
  split
  · rfl
  · split <;> rfl

/-- The loop leaves the socket alone. -/
lemma receiveLoop_socketFd {timeoutMs clock inbox} {conn : TcpConnection} {c : κ} :
    (receiveLoop timeoutMs clock inbox conn c).conn.socketFd = conn.socketFd := by
  induction clock generalizing inbox conn c with
  | nil =>
    have same := feed_socketFd conn c
    rw [receiveLoop]
    generalize feed conn c = f at same ⊢
    obtain ⟨result, conn', c'⟩ := f
    cases result with
    | some result | none => exact same
  | cons elapsed clock ih =>
    have same := feed_socketFd conn c
    rw [receiveLoop]
    generalize feed conn c = f at same ⊢
    obtain ⟨result, conn', c'⟩ := f
    cases result with
    | some result => exact same
    | none =>
      simp only
      split
      · exact same
      · exact ih.trans same

/-- A call neither opens nor closes the connection. -/
lemma receivePacket_isConnected {conn : TcpConnection} {c : κ} {timeoutMs sock} :
    (receivePacket conn c timeoutMs sock).conn.isConnected = conn.isConnected := by
  rw [receivePacket]
  split
  · rfl
  · rw [TcpConnection.isConnected, TcpConnection.isConnected, receiveLoop_socketFd]

/-- A run on an open connection feeds what it receives if all its calls are fresh, and more if one
    is not. -/
lemma receiveAll_moves {conn : TcpConnection} (connected : conn.isConnected) (c : Logged κ)
    (timeouts sock) :
    ∃ got fed, Moves c sock.inbox (receiveAll conn c timeouts sock).2.2.1
      (receiveAll conn c timeouts sock).2.2.2.inbox got fed ∧
      (RunFresh conn c.codec timeouts sock → fed = got) ∧
      (¬ RunFresh conn c.codec timeouts sock → got.length < fed.length) := by
  induction timeouts generalizing conn c sock with
  | nil =>
    exact ⟨[], [], ⟨⟨[], rfl, rfl⟩, (List.append_nil _).symm⟩, fun _ => rfl,
      fun stale => absurd trivial stale⟩
  | cons timeoutMs timeouts ih =>
    obtain ⟨got, fed, moves, same, more⟩ := receivePacket_moves connected c timeoutMs sock
    have still : (receivePacket conn c timeoutMs sock).conn.isConnected :=
      receivePacket_isConnected.trans connected
    obtain ⟨got', fed', moves', same', more'⟩ := ih still
      (receivePacket conn c timeoutMs sock).codec (receivePacket conn c timeoutMs sock).sock
    refine ⟨got ++ got', fed ++ fed', moves.trans moves', ?_, ?_⟩
    · rintro ⟨fresh, fresh'⟩
      rw [receivePacket_logged] at fresh'
      rw [same fresh, same' fresh']
    · intro stale
      rw [List.length_append, List.length_append]
      -- a stale call feeds more than it receives, and no call feeds less
      by_cases fresh : CallFresh conn c.codec timeoutMs sock
      · have stale' : ¬ RunFresh (receivePacket conn c timeoutMs sock).conn
            (receivePacket conn c timeoutMs sock).codec.codec timeouts
            (receivePacket conn c timeoutMs sock).sock := by
          intro fresh'
          refine stale ⟨fresh, ?_⟩
          rw [receivePacket_logged]
          exact fresh'
        have lt := more' stale'
        rw [same fresh]
        omega
      · have lt := more fresh
        by_cases fresh' : RunFresh (receivePacket conn c timeoutMs sock).conn
            (receivePacket conn c timeoutMs sock).codec.codec timeouts
            (receivePacket conn c timeoutMs sock).sock
        · rw [same' fresh']
          omega
        · have lt' := more' fresh'
          omega

/-- Without a connection a run does nothing. -/
lemma receiveAll_closed {conn : TcpConnection} {c : κ} {timeouts sock}
    (closed : conn.isConnected = false) :
    (receiveAll conn c timeouts sock).2 = (conn, c, sock) ∧
      (conn.rxBuffer = [] → RunFresh conn c timeouts sock) := by
  have call {timeoutMs} : receivePacket conn c timeoutMs sock = ⟨.ok [], conn, c, sock⟩ := by
    simp only [receivePacket, closed, Bool.not_false, if_true]
  have fd : conn.socketFd < 0 := not_le.mp (of_decide_eq_false closed)
  induction timeouts with
  | nil => exact ⟨rfl, fun _ => trivial⟩
  | cons timeoutMs timeouts ih =>
    refine ⟨?_, fun empty => ⟨⟨empty, ?_⟩, ?_⟩⟩
    · rw [receiveAll, call]
      exact ih.1
    · intro first second rest chunk inbox _ received
      simp only [await, receiveBytes, fd, true_or, if_true] at received
      split at received <;> cases received
    · rw [call]
      exact ih.2 empty

/-- Over a run on a fresh connection the codec is fed what is received, and more if a call is not
    fresh. -/
lemma run_moves (fd : Int) (codec : κ) (timeouts sock) :
    ∃ got fed, Moves ⟨codec, []⟩ sock.inbox
      (receiveAll ⟨fd, []⟩ (⟨codec, []⟩ : Logged κ) timeouts sock).2.2.1
      (receiveAll ⟨fd, []⟩ (⟨codec, []⟩ : Logged κ) timeouts sock).2.2.2.inbox got fed ∧
      (RunFresh ⟨fd, []⟩ codec timeouts sock → fed = got) ∧
      (¬ RunFresh ⟨fd, []⟩ codec timeouts sock → got.length < fed.length) := by
  cases connected : (⟨fd, []⟩ : TcpConnection).isConnected with
  | true => exact receiveAll_moves connected ⟨codec, []⟩ timeouts sock
  | false =>
    rw [(receiveAll_closed connected).1]
    refine ⟨[], [], ⟨⟨[], rfl, rfl⟩, rfl⟩, fun _ => rfl, fun stale => ?_⟩
    exact absurd ((receiveAll_closed connected).2 rfl) stale

/-- A codec with a format gets whole frames back from a fresh run. -/
lemma decodesSplitFrames {fits : List UInt8 → Prop} (F : CodecFormat κ fits) {codec : κ}
    (fresh : F.buf.get codec = []) {fd timeouts sock} :
    DecodesSplitFrames codec fits fd timeouts sock := by
  intro payloads received run_fresh fit split whole
  obtain ⟨got, fed, moves, same, -⟩ := run_moves fd codec timeouts sock
  have logged : _ = fed := moves.logged
  refine ⟨_, F.decodeAll_frames fresh fit (e := codec) ?_⟩
  rw [logged, same run_fresh, ← moves.received split, whole]

end

/-- The codec is fed each received byte once, in order, exactly in the runs all of whose calls are
    fresh; and in these a frame that was cut is decoded to its payload. -/
theorem feedsOnce_iff {κ : Type} [ITransportCodec κ] (codec : κ) (fd : Int) (timeouts : List Int)
    (sock : ReceiveSocket) :
    (FeedsOnce fd codec timeouts sock ↔ RunFresh ⟨fd, []⟩ codec timeouts sock) ∧
    DecodesSplitFrames ({} : AbridgedCodec) AbridgedCodec.Admissible fd timeouts sock ∧
    DecodesSplitFrames ({} : IntermediateCodec) IntermediateCodec.Admissible fd timeouts sock ∧
    DecodesSplitFrames ({} : FullCodec) FullCodec.Admissible fd timeouts sock := by
  refine ⟨?_, decodesSplitFrames AbridgedCodec.codecFormat rfl,
    decodesSplitFrames IntermediateCodec.codecFormat rfl,
    decodesSplitFrames FullCodec.codecFormat rfl⟩
  obtain ⟨got, fed, moves, same, more⟩ := run_moves fd codec timeouts sock
  have logged : _ = fed := moves.logged
  constructor
  · rintro ⟨received, split, front⟩
    by_contra stale
    have le := front.length_le
    rw [logged, moves.received split] at le
    have lt := more stale
    omega
  · intro fresh
    obtain ⟨chunks, e, taken⟩ := moves.taken
    refine ⟨chunks, e, ?_⟩
    have all : _ = chunks.flatten := logged.trans ((same fresh).trans taken.symm)
    exact all ▸ List.prefix_rfl

/-- Two frames cut in the second one, each call completing a packet. -/
theorem feedsOnce_iff_cut :
    ∃ c, decodeAll ({} : IntermediateCodec) [[1, 0, 0, 0, 7, 1, 0], [0, 0, 8]] =
      ([[7], [8]], none, c) := by
  refine (feedsOnce_iff ({} : IntermediateCodec) 3 [1000, 1000]
    ⟨[0, 0], [[1, 0, 0, 0, 7, 1, 0], [0, 0, 8]]⟩).2.2.1
    [[7], [8]] [[1, 0, 0, 0, 7, 1, 0], [0, 0, 8]] ?_ ?_ rfl rfl
  · refine ⟨⟨rfl, ?_⟩, ⟨rfl, ?_⟩, trivial⟩
    · intro first second clock chunk inbox e received undecoded
      cases e
      cases received
      cases undecoded
    · intro first second clock chunk inbox e
      cases e
  · intro p hp
    rcases List.mem_pair.mp hp with rfl | rfl <;> decide

/-- A frame cut in its length is fed together with the part that was fed before, and its payload is
    never returned. -/
theorem split_frame_fed_twice :
    ¬ FeedsOnce 3 ({} : IntermediateCodec) [1000] ⟨[0, 0, 0], [[4, 0, 0], [0, 1, 2, 3, 4]]⟩ ∧
    (encodeAll ({} : IntermediateCodec) [[1, 2, 3, 4]]).1.flatten = [4, 0, 0] ++ [0, 1, 2, 3, 4] ∧
    (receiveAll ⟨3, []⟩ (⟨{}, []⟩ : Logged IntermediateCodec) [1000]
      ⟨[0, 0, 0], [[4, 0, 0], [0, 1, 2, 3, 4]]⟩).1 = [.ok []] := by
  have run : receiveAll ⟨3, []⟩ (⟨{}, []⟩ : Logged IntermediateCodec) [1000]
      ⟨[0, 0, 0], [[4, 0, 0], [0, 1, 2, 3, 4]]⟩ =
      ([.ok []], ⟨3, [4, 0, 0, 0, 1, 2, 3, 4]⟩,
        ⟨⟨[4, 0, 0, 4, 0, 0, 0, 1, 2, 3, 4]⟩, [[4, 0, 0], [4, 0, 0, 0, 1, 2, 3, 4]]⟩,
        ⟨[], []⟩) := rfl
  refine ⟨?_, rfl, congrArg Prod.fst run⟩
  rw [FeedsOnce, run]
  rintro ⟨received, split, front⟩
  rw [List.append_nil] at split
  rw [← split] at front
  exact absurd front (by decide)

end CppGram.Network
