import Kmsync.DataPlane.Security
import Kmsync.ProofKit.Framing

/-! The stream of a reliable lane.  It starts with the byte of the lane and carries every envelope
behind its length; the task that reads it opens the envelopes one after the other and hands the
answers on.  Whatever part of the stream has arrived, the task hands on the answers for exactly the
envelopes that have arrived whole. -/

namespace Kmsync

open ProofKit

def quicStreamFrameLimitBytes : Nat := 16 * 1024 * 1024

/-- What comes behind the bytes of a stream that have arrived: more of them, the end that the sender
has set, or a failure with its text. -/
inductive StreamEnding where
  | more
  | finished
  | failed (error : String)
  deriving DecidableEq

/-- The part of a stream that has not been read. -/
structure RecvStream where
  bytes : List UInt8
  ending : StreamEnding

/-- How `read_exact` ends; while there may be more bytes it waits for them. -/
inductive ReadExact where
  | read (buffer : List UInt8) (stream : RecvStream)
  | waits
  | finishedEarly (read : Nat)
  | readError (error : String)

def RecvStream.readExact (stream : RecvStream) (size : Nat) : ReadExact :=
  if size ≤ stream.bytes.length then
    .read (stream.bytes.take size) { stream with bytes := stream.bytes.drop size }
  else
    match stream.ending with
    | .more => .waits
    | .finished => .finishedEarly stream.bytes.length
    | .failed error => .readError error

/-- What one turn of the loop of `read_quic_stream` comes to before an envelope is opened. -/
inductive StreamTurn where
  | envelope (sealed : List UInt8) (stream : RecvStream)
  | waits
  | stops
  | refuses (text : String)

section Task

variable (earlyText : Nat → String)

/-- `earlyText` prints how many bytes were read when the stream finished. -/
def readStreamTurn (stream : RecvStream) : StreamTurn :=
  match stream.readExact 4 with
  | .waits => .waits
  | .finishedEarly 0 => .stops
  | .finishedEarly read =>
    .refuses s!"failed to read QUIC stream frame length: {earlyText read}"
  | .readError error => .refuses s!"failed to read QUIC stream frame length: {error}"
  | .read lenBuffer stream =>
    let len := leValue lenBuffer
    if len > quicStreamFrameLimitBytes then
      .refuses s!"QUIC stream frame exceeds limit: {len} > {quicStreamFrameLimitBytes}"
    else
      match stream.readExact len with
      | .waits => .waits
      | .finishedEarly read => .refuses s!"failed to read QUIC stream frame body: {earlyText read}"
      | .readError error => .refuses s!"failed to read QUIC stream frame body: {error}"
      | .read buffer stream => .envelope buffer stream

theorem RecvStream.length_of_readExact {stream rest : RecvStream} {size : Nat}
    {buffer : List UInt8} (h : stream.readExact size = .read buffer rest) :
    rest.bytes.length + size = stream.bytes.length := by
  unfold readExact at h
  split at h
  · cases h
    rw [List.length_drop]
    omega
  · split at h <;> cases h

theorem length_lt_of_readStreamTurn {stream rest : RecvStream} {sealed : List UInt8}
    (h : readStreamTurn earlyText stream = .envelope sealed rest) :
    rest.bytes.length < stream.bytes.length := by
  unfold readStreamTurn at h
  split at h
  case h_5 lenBuffer behind hLength =>
    dsimp only at h
    split at h
    · cases h
    · split at h <;> cases h
      next hBody =>
        have hFirst := RecvStream.length_of_readExact hLength
        have hSecond := RecvStream.length_of_readExact hBody
        omega
  all_goals cases h

variable {σ : Type}

/-- The answers that the task hands on for the envelopes of its stream, and the state of the opener
behind them. -/
def readStreamFrames (openFrame : List UInt8 → EStateM (Fault String) σ ProtocolFrame)
    (stream : RecvStream) (opener : σ) : List (Checked String ProtocolFrame) × σ :=
  match h : readStreamTurn earlyText stream with
  | .waits => ([], opener)
  | .stops => ([], opener)
  | .refuses text => ([refuse text], opener)
  | .envelope sealed rest =>
    have := length_lt_of_readStreamTurn earlyText h
    match openFrame sealed opener with
    | .ok frame opener =>
      let (answers, opener) := readStreamFrames openFrame rest opener
      (.ok frame :: answers, opener)
    | .error e opener =>
      let (answers, opener) := readStreamFrames openFrame rest opener
      (.error e :: answers, opener)
termination_by stream.bytes.length

def readQuicStream (openFrame : QuicLane → List UInt8 → EStateM (Fault String) σ ProtocolFrame)
    (stream : RecvStream) (opener : σ) : List (Checked String ProtocolFrame) × σ :=
  match stream.bytes with
  | [] =>
    match stream.ending with
    | .more => ([], opener)
    | .finished => ([], opener)
    | .failed error => ([refuse s!"failed to read QUIC stream lane header: {error}"], opener)
  | laneByte :: bytes =>
    match decodeQuicLane laneByte with
    | .error e => ([.error e], opener)
    | .ok lane => readStreamFrames earlyText (openFrame lane) { stream with bytes } opener

end Task

section Arrival

variable {earlyText : Nat → String} {σ : Type}
  {openFrame : List UInt8 → EStateM (Fault String) σ ProtocolFrame}

/-- The answers for envelopes that are opened one after the other. -/
def openAll (openFrame : List UInt8 → EStateM (Fault String) σ ProtocolFrame) :
    List (List UInt8) → σ → List (Checked String ProtocolFrame) × σ
  | [], opener => ([], opener)
  | sealed :: rest, opener =>
    match openFrame sealed opener with
    | .ok frame opener => (.ok frame :: (openAll openFrame rest opener).1,
        (openAll openFrame rest opener).2)
    | .error e opener => (.error e :: (openAll openFrame rest opener).1,
        (openAll openFrame rest opener).2)

/-- What the task comes to where no envelope is whole. -/
def stopTurn (earlyText : Nat → String) : Stop → StreamEnding → StreamTurn
  | .tooLong length, _ =>
    .refuses s!"QUIC stream frame exceeds limit: {length} > {quicStreamFrameLimitBytes}"
  | .inLength _, .more | .inMessage _, .more => .waits
  | .inLength 0, .finished => .stops
  | .inLength read, .finished =>
    .refuses s!"failed to read QUIC stream frame length: {earlyText read}"
  | .inLength _, .failed error => .refuses s!"failed to read QUIC stream frame length: {error}"
  | .inMessage read, .finished =>
    .refuses s!"failed to read QUIC stream frame body: {earlyText read}"
  | .inMessage _, .failed error => .refuses s!"failed to read QUIC stream frame body: {error}"

theorem stopTurn_ne_envelope (stop : Stop) (ending : StreamEnding) (sealed : List UInt8)
    (stream : RecvStream) : stopTurn earlyText stop ending ≠ .envelope sealed stream := by
  unfold stopTurn
  split <;> simp

/-- What a turn hands on itself. -/
def StreamTurn.handsOn : StreamTurn → List (Checked String ProtocolFrame)
  | .refuses text => [refuse text]
  | _ => []

/-- A turn reads the message at the front of what has arrived. -/
theorem readStreamTurn_eq (earlyText : Nat → String) (stream : RecvStream) :
    readStreamTurn earlyText stream =
      match front quicStreamFrameLimitBytes stream.bytes with
      | .ok (sealed, bytes) => .envelope sealed { stream with bytes }
      | .error stop => stopTurn earlyText stop stream.ending := by
  obtain ⟨bytes, ending⟩ := stream
  unfold readStreamTurn
  by_cases hLength : 4 ≤ bytes.length
  · rw [RecvStream.readExact, if_pos hLength, front_of_le hLength rfl]
    dsimp only
    by_cases hLong : quicStreamFrameLimitBytes < leValue (bytes.take 4)
    · rw [if_pos hLong, if_pos hLong]
      rfl
    · rw [if_neg hLong, if_neg hLong, RecvStream.readExact]
      by_cases hBody : 4 + leValue (bytes.take 4) ≤ bytes.length
      · rw [if_pos (by rw [List.length_drop]; omega), if_pos hBody, List.drop_drop]
      · rw [if_neg (by rw [List.length_drop]; omega), if_neg hBody, List.length_drop]
        cases ending <;> rfl
  · rw [RecvStream.readExact, if_neg hLength, front_short (not_le.mp hLength)]
    dsimp only
    cases ending with
    | more => rfl
    | failed error => rfl
    | finished => cases bytes.length <;> rfl

/-- The task opens the messages on its stream, and stops where there is none. -/
theorem readStreamFrames_eq (stream : RecvStream) (opener : σ) :
    readStreamFrames earlyText openFrame stream opener =
      let (envelopes, stop) := readMessages quicStreamFrameLimitBytes stream.bytes
      ((openAll openFrame envelopes opener).1 ++ (stopTurn earlyText stop stream.ending).handsOn,
        (openAll openFrame envelopes opener).2) := by
  induction hLength : stream.bytes.length using Nat.strongRecOn generalizing stream opener with
  | ind length ih =>
    have hTurn := readStreamTurn_eq earlyText stream
    cases hFront : front quicStreamFrameLimitBytes stream.bytes with
    | error stop =>
      rw [hFront] at hTurn
      dsimp only at hTurn
      rw [readMessages_of_error hFront, readStreamFrames]
      dsimp only
      split <;> rename_i hRead
      case h_4 => exact absurd (hTurn.symm.trans hRead) (stopTurn_ne_envelope _ _ _ _)
      all_goals rw [← hTurn, hRead]; rfl
    | ok part =>
      obtain ⟨sealed, bytes⟩ := part
      rw [hFront] at hTurn
      rw [readMessages_of_ok hFront, readStreamFrames]
      split <;> rename_i hRead <;> cases hTurn.symm.trans hRead
      have hLess := length_lt_of_front hFront
      dsimp only
      split <;> rename_i hOpen
      · rw [ih _ (hLength ▸ hLess) _ _ rfl, openAll, hOpen]
        rfl
      · rw [ih _ (hLength ▸ hLess) _ _ rfl, openAll, hOpen]
        rfl

/-- Whatever part of a stream has arrived, and however it ends behind it, the task hands on the
answers for the envelopes that are whole, up to one that is too long, and at most one error behind
them. -/
theorem readQuicStream_take
    (openFrame : QuicLane → List UInt8 → EStateM (Fault String) σ ProtocolFrame) (lane : QuicLane)
    {envelopes : List (List UInt8)} (hFits : ∀ sealed ∈ envelopes, sealed.length < 2 ^ 32) (n : ℕ)
    (ending : StreamEnding) (opener : σ) :
    ∃ taken stop, Cut quicStreamFrameLimitBytes n envelopes taken stop ∧
      readQuicStream earlyText openFrame
          ⟨encodeQuicLane lane :: (envelopes.flatMap delimited).take n, ending⟩ opener =
        ((openAll (openFrame lane) taken opener).1 ++ (stopTurn earlyText stop ending).handsOn,
          (openAll (openFrame lane) taken opener).2) := by
  refine ⟨_, _, readMessages_take _ hFits n, ?_⟩
  rw [readQuicStream]
  dsimp only
  rw [decodeQuicLane_encode]
  exact readStreamFrames_eq _ _

/-- The second of two envelopes is cut off. -/
theorem readQuicStream_take_second : ∃ taken stop,
    Cut quicStreamFrameLimitBytes 11 [[1, 2], [3, 4]] taken stop ∧
      readQuicStream (fun read => s!"stream finished early ({read} bytes read)")
          (fun _ _ => throw (.error "not a frame"))
          ⟨encodeQuicLane .clipboard :: ([[1, 2], [3, 4]].flatMap delimited).take 11, .finished⟩ () =
        ((openAll (fun _ => throw (.error "not a frame")) taken ()).1 ++
            (stopTurn (fun read => s!"stream finished early ({read} bytes read)") stop
              .finished).handsOn,
          (openAll (fun _ => throw (.error "not a frame")) taken ()).2) :=
  readQuicStream_take (fun _ _ => throw (.error "not a frame")) .clipboard (by decide) 11
    .finished ()

end Arrival

end Kmsync
