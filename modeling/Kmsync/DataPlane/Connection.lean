import Kmsync.DataPlane.Lanes
import Kmsync.DataPlane.Streams
import Kmsync.ProofKit.Transition

/-! Both ends of a connection.  The sender has one stream for each reliable lane and sends the
unreliable one as datagrams; the receiver has a task for each stream and one for the datagrams, all
with the same opener, and one queue that they hand their answers to. -/

namespace Kmsync

open ProofKit

section Sender

def quicDatagramFrameBytes : Nat := 1200

/-- A stream at its sender: the bytes it has taken, and the error that ended it. -/
structure SendStream where
  written : List UInt8
  broken : Option String := none

/-- What becomes of a `write_all`; when it fails, the stream has taken some of the bytes. -/
inductive WriteFate where
  | done
  | fails (taken : Nat) (error : String)

/-- A stream that has failed takes no more bytes. -/
def SendStream.writeAll (context : String) (bytes : List UInt8) (fate : WriteFate) :
    EStateM (Fault String) SendStream Unit := do
  let stream ← get
  match stream.broken, fate with
  | some error, _ => throw (.error s!"{context}: {error}")
  | none, .done => set { stream with written := stream.written ++ bytes }
  | none, .fails taken error =>
    set { stream with written := stream.written ++ bytes.take taken, broken := some error }
    throw (.error s!"{context}: {error}")

/-- What the network answers while a frame is sent. -/
structure NetworkAnswers where
  openUni : Option String := none
  header : WriteFate := .done
  length : WriteFate := .done
  body : WriteFate := .done
  sendDatagram : Option String := none

/-- The datagrams are those that the connection has taken, in their order. -/
structure QuicEventSender where
  sealer : DataPlaneSealer
  inputReliable : Option SendStream
  clipboard : Option SendStream
  control : Option SendStream
  datagrams : List (List UInt8)

namespace QuicEventSender

def new (sealer : DataPlaneSealer) : QuicEventSender := ⟨sealer, none, none, none, []⟩

def stream (sender : QuicEventSender) : QuicLane → Option SendStream
  | .inputReliable => sender.inputReliable
  | .clipboard => sender.clipboard
  | .control => sender.control
  | .inputUnreliable => none

def setStream (lane : QuicLane) (stream : SendStream) (sender : QuicEventSender) :
    QuicEventSender :=
  match lane with
  | .inputReliable => { sender with inputReliable := some stream }
  | .clipboard => { sender with clipboard := some stream }
  | .control => { sender with control := some stream }
  | .inputUnreliable => sender

def setSealer (sealer : DataPlaneSealer) (sender : QuicEventSender) : QuicEventSender :=
  { sender with sealer }

variable {κ : Type} (crypto : FrameCrypto κ) (answers : NetworkAnswers)

/-- A stream whose header cannot be written is dropped. -/
def openLaneStream (lane : QuicLane) : Checked String SendStream :=
  match answers.openUni with
  | some error => refuse s!"failed to open QUIC {lane.debug} stream: {error}"
  | none =>
    let write := SendStream.writeAll s!"failed to write QUIC {lane.debug} stream header"
      [encodeQuicLane lane] answers.header
    match write ⟨[], none⟩ with
    | .ok () stream => .ok stream
    | .error e _ => .error e

def ensureLaneStream (lane : QuicLane) : EStateM (Fault String) QuicEventSender Unit := do
  if lane = .inputUnreliable then
    throw (.error "input_unreliable must use QUIC datagrams")
  else if ((← get).stream lane).isNone then
    let stream ← MonadExcept.ofExcept (openLaneStream answers lane)
    modify (setStream lane stream)

/-- `u32::try_from(sealed.len())`, little-endian -/
def frameLength (sealed : List UInt8) : Checked String (List UInt8) :=
  if sealed.length < 2 ^ 32 then .ok (toLeBytes (UInt32.ofNat sealed.length))
  else refuse "QUIC stream frame is too large"

def streamNotOpen : QuicLane → String
  | .inputReliable => "QUIC input_reliable stream is not open"
  | .clipboard => "QUIC clipboard stream is not open"
  | .control => "QUIC control stream is not open"
  | .inputUnreliable => "input_unreliable must use QUIC datagrams"

def sendStreamFrame (lane : QuicLane) (frame : ProtocolFrame) :
    EStateM (Fault String) QuicEventSender Unit := do
  ensureLaneStream answers lane
  let sealed ← onPart sealer setSealer (DataPlaneSealer.sealFrame crypto lane frame)
  let len ← MonadExcept.ofExcept (frameLength sealed)
  match (← get).stream lane with
  | none => throw (.error (streamNotOpen lane))
  | some stream =>
    onPart (fun _ => stream) (setStream lane) do
      SendStream.writeAll "failed to write QUIC stream frame length" len answers.length
      SendStream.writeAll "failed to write QUIC stream frame" sealed answers.body

def sendDatagramFrame (lane : QuicLane) (frame : ProtocolFrame) :
    EStateM (Fault String) QuicEventSender Unit := do
  if lane ≠ .inputUnreliable then
    throw (.error s!"QUIC datagram lane must be input_unreliable, got {lane.debug}")
  else
    let sealed ← onPart sealer setSealer (DataPlaneSealer.sealFrame crypto lane frame)
    if sealed.length > quicDatagramFrameBytes then
      throw (.error (s!"encrypted QUIC datagram frame is too large: {sealed.length}" ++
        s!" > {quicDatagramFrameBytes}"))
    else
      match answers.sendDatagram with
      | some error => throw (.error s!"failed to send QUIC datagram: {error}")
      | none => modify fun sender => { sender with datagrams := sender.datagrams ++ [sealed] }

def sendFrame (frame : ProtocolFrame) : EStateM (Fault String) QuicEventSender Unit :=
  match quicDeliveryModeForFrame frame with
  | .datagram lane => sendDatagramFrame crypto answers lane frame
  | .reliableStream lane => sendStreamFrame crypto answers lane frame

end QuicEventSender

end Sender

section Receiver

/-- A task of the receiver: the lane from the header of its stream, how many bytes it has read, and
the answer that it has not handed on. -/
structure ReadTask where
  lane : Option QuicLane := none
  read : Nat := 0
  pending : Option (Checked String ProtocolFrame) := none
  ended : Bool := false

structure QuicConnection where
  sender : QuicEventSender
  opener : DataPlaneOpener
  /-- the task of the stream of each lane, and that of the datagrams -/
  tasks : QuicLane → ReadTask
  received : List (Checked String ProtocolFrame)

inductive QuicEvent where
  | send (frame : ProtocolFrame) (answers : NetworkAnswers)
  /-- The task goes on when so many bytes of its stream have arrived. -/
  | readStream (lane : QuicLane) (arrived : Nat) (ending : StreamEnding)
  | readDatagram (index : Nat)
  | failDatagrams (error : String)
  | handOn (lane : QuicLane)

namespace QuicConnection

variable {κ : Type} (crypto : FrameCrypto κ) (earlyText : Nat → String)

def start (config : DataPlaneSecurityConfig) : QuicConnection :=
  ⟨.new (.new config), .new config, fun _ => {}, []⟩

def setTask (lane : QuicLane) (task : ReadTask) (c : QuicConnection) : QuicConnection :=
  { c with tasks := Function.update c.tasks lane task }

@[simp] theorem tasks_setTask_self (lane : QuicLane) (task : ReadTask) (c : QuicConnection) :
    (c.setTask lane task).tasks lane = task := by
  simp [setTask]

theorem tasks_setTask_ne {lane other : QuicLane} (h : other ≠ lane) (task : ReadTask)
    (c : QuicConnection) : (c.setTask lane task).tasks other = c.tasks other := by
  simp [setTask, Function.update_of_ne h]

@[simp] theorem received_setTask (lane : QuicLane) (task : ReadTask) (c : QuicConnection) :
    (c.setTask lane task).received = c.received := rfl

@[simp] theorem sender_setTask (lane : QuicLane) (task : ReadTask) (c : QuicConnection) :
    (c.setTask lane task).sender = c.sender := rfl

@[simp] theorem opener_setTask (lane : QuicLane) (task : ReadTask) (c : QuicConnection) :
    (c.setTask lane task).opener = c.opener := rfl

/-- The task takes the answer for an envelope and has read up to `read`. -/
def openEnvelope (task lane : QuicLane) (sealed : List UInt8) (read : Nat) (c : QuicConnection) :
    QuicConnection :=
  match DataPlaneOpener.openFrame crypto lane sealed c.opener with
  | .ok frame opener =>
    { c with opener }.setTask task { c.tasks task with pending := some (.ok frame), read }
  | .error e opener =>
    { c with opener }.setTask task { c.tasks task with pending := some (.error e), read }

/-- The part of a lane's stream that has arrived and that its task has not read. -/
def unread (c : QuicConnection) (lane : QuicLane) (stream : SendStream) (arrived : Nat)
    (ending : StreamEnding) : RecvStream :=
  ⟨(stream.written.take arrived).drop (c.tasks lane).read, ending⟩

def readStream (lane : QuicLane) (rest : RecvStream) (c : QuicConnection) :
    Option QuicConnection :=
  let task := c.tasks lane
  match task.lane with
  | none =>
    match rest.bytes with
    | laneByte :: _ =>
      match decodeQuicLane laneByte with
      | .ok lane' => some (c.setTask lane { task with lane := some lane', read := 1 })
      | .error e => some (c.setTask lane { task with pending := some (.error e), ended := true })
    | [] =>
      match rest.ending with
      | .more => none
      | .finished => some (c.setTask lane { task with ended := true })
      | .failed error =>
        let answer := refuse s!"failed to read QUIC stream lane header: {error}"
        some (c.setTask lane { task with pending := some answer, ended := true })
  | some lane' =>
    match readStreamTurn earlyText rest with
    | .waits => none
    | .stops => some (c.setTask lane { task with ended := true })
    | .refuses text =>
      some (c.setTask lane { task with pending := some (refuse text), ended := true })
    | .envelope sealed behind =>
      some (c.openEnvelope crypto lane lane' sealed
        (task.read + (rest.bytes.length - behind.bytes.length)))

def step (c : QuicConnection) : QuicEvent → Option QuicConnection
  | .send frame answers =>
    match QuicEventSender.sendFrame crypto answers frame c.sender with
    | .ok () sender => some { c with sender }
    | .error _ sender => some { c with sender }
  | .readStream lane arrived ending =>
    let task := c.tasks lane
    if task.ended then none
    else
      match c.sender.stream lane, task.pending with
      | some stream, none => c.readStream crypto earlyText lane (c.unread lane stream arrived ending)
      | _, _ => none
  | .readDatagram index =>
    let task := c.tasks .inputUnreliable
    if task.ended then none
    else
      match c.sender.datagrams[index]?, task.pending with
      | some sealed, none =>
        some (c.openEnvelope crypto .inputUnreliable .inputUnreliable sealed task.read)
      | _, _ => none
  | .failDatagrams error =>
    let task := c.tasks .inputUnreliable
    if task.ended then none
    else
      match task.pending with
      | none =>
        let answer := refuse s!"failed to read QUIC datagram: {error}"
        some (c.setTask .inputUnreliable { task with pending := some answer, ended := true })
      | some _ => none
  | .handOn lane =>
    let task := c.tasks lane
    match task.pending with
    | none => none
    | some answer =>
      some ({ c with received := c.received ++ [answer] }.setTask lane { task with pending := none })

end QuicConnection

end Receiver

end Kmsync
