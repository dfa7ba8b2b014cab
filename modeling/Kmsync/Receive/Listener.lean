import Kmsync.Receive.Loop
import Kmsync.ProofKit.BoundedChannel
import Mathlib.Logic.Function.Basic

/-! The threads of the listener.  Two loops receive frames, one from the connections to this machine
and one from the relay; what they receive goes through bounded channels to three working threads,
and the main thread waits for the results of all of them. -/

namespace Kmsync

open ProofKit

section Parts

/-- Where a frame has been received. -/
inductive Origin where
  | direct | relay
  deriving DecidableEq

structure ReceivedClipboardFrame where
  clipboard : ClipboardText
  receivedAt : Instant

structure ReceivedControlFrame where
  message : ControlMessage
  receivedAt : Instant

/-- `received_frame_is_unreliable_mouse_move` -/
def ReceivedInputFrame.isUnreliableMouseMove (received : ReceivedInputFrame) : Bool :=
  match received.frame.payload with
  | .input input =>
    input.channel = .inputUnreliable &&
      match input.event with
      | .mouse (.move _ _) => true
      | _ => false
  | _ => false

/-- Where a loop of `receive_remote_frames` is.  It is over or not connected, or waits for a frame,
or waits for room in the channel of the input frames. -/
inductive ReceiveLoop where
  | stopped
  | receiving
  | sending (received : ReceivedInputFrame)

def ReceiveLoop.isStopped : ReceiveLoop → Bool
  | .stopped => true
  | .receiving | .sending _ => false

/-- A thread with its variables, or what it has returned. -/
inductive WorkerThread (σ : Type) where
  | running (s : σ)
  | ended (result : Except String Unit)

def WorkerThread.isRunning {σ : Type} : WorkerThread σ → Bool
  | .running _ => true
  | .ended _ => false

inductive ListenerThreadResult where
  | receive (result : Except String Unit)
  | injection (result : Except String Unit)
  | clipboard (result : Except String Unit)
  | control (result : Except String Unit)

/-- The variables of `wait_listener_results` -/
structure ListenerResults where
  receive : Option (Except String Unit)
  injection : Option (Except String Unit)
  clipboard : Option (Except String Unit)
  control : Option (Except String Unit)

end Parts

section Waiting

def combineListenerResults (results : List (Except String Unit)) : Except String Unit :=
  let combinedError := results.foldl
    (fun combinedError result =>
      match result with
      | .ok () => combinedError
      | .error error =>
        match combinedError with
        | some existing => some s!"{existing}; {error}"
        | none => some error)
    none
  match combinedError with
  | none => .ok ()
  | some error => .error error

namespace ListenerResults

def none : ListenerResults := ⟨.none, .none, .none, .none⟩

/-- The end of a round of `wait_listener_results` -/
def combined (results : ListenerResults) : Option (Except String Unit) := do
  let receive ← results.receive
  let injection ← results.injection
  let clipboard ← results.clipboard
  let control ← results.control
  return combineListenerResults [receive, injection, clipboard, control]

/-- One round of `wait_listener_results`: the variables, and what it returns if it does. -/
def wait (results : ListenerResults) :
    ListenerThreadResult → ListenerResults × Option (Except String Unit)
  | .receive result =>
    let results := { results with receive := some result }
    (results, results.combined)
  | .injection (.error error) | .clipboard (.error error) | .control (.error error) =>
    (results, some (.error error))
  | .injection (.ok ()) =>
    let results := { results with injection := some (.ok ()) }
    (results, results.combined)
  | .clipboard (.ok ()) =>
    let results := { results with clipboard := some (.ok ()) }
    (results, results.combined)
  | .control (.ok ()) =>
    let results := { results with control := some (.ok ()) }
    (results, results.combined)

end ListenerResults

end Waiting

/-- The listener, with the input frames that the loops have received, those that have come into the
channel, and those that the injecting thread has taken. -/
structure Listener where
  loops : Origin → ReceiveLoop
  hasRelay : Bool
  inputs : BoundedChannel (Origin × ReceivedInputFrame)
  clipboards : BoundedChannel ReceivedClipboardFrame
  controls : BoundedChannel ReceivedControlFrame
  injection : WorkerThread LoopState
  clipboard : WorkerThread Unit
  control : WorkerThread Unit
  resultRx : List ListenerThreadResult
  results : ListenerResults
  returned : Option (Except String Unit)
  received : List (Origin × ReceivedInputFrame)
  queued : List (Origin × ReceivedInputFrame)
  taken : List (Origin × ReceivedInputFrame)

inductive ListenerStep where
  /-- A loop gets a frame or an error, at a time that the wall clock may fail to tell. -/
  | receive (origin : Origin) (answer : Except String ProtocolFrame) (receivedAt : Instant)
      (nowMicros : Except String UInt64)
  /-- A loop that waits for room looks again. -/
  | send (origin : Origin)
  | connectRelay
  /-- A turn of the injecting thread, which takes a frame in some of them. -/
  | inject (turn : Turn)
  | closeInjection (fuel : ℕ)
  /-- The clipboard thread takes a frame, and may fail to put it on the clipboard. -/
  | applyClipboard (result : Except String Unit)
  | closeClipboard
  | handleControl
  | closeControl
  | wait

namespace Listener

/-- `run_listener_with_relay` once all threads are there -/
def start (hasRelay : Bool) : Listener where
  loops origin := if origin = .direct then .receiving else .stopped
  hasRelay
  inputs := .empty 1024
  clipboards := .empty 16
  controls := .empty 32
  injection := .running .start
  clipboard := .running ()
  control := .running ()
  resultRx := []
  results := .none
  returned := none
  received := []
  queued := []
  taken := []

/-- Somebody holds a sender of the channels: the main thread until it returns, the direct loop until
it is over, and the relay loop for good. -/
def hasSenders (s : Listener) : Bool :=
  s.returned.isNone || s.hasRelay || !(s.loops .direct).isStopped

def setLoop (s : Listener) (origin : Origin) (loop : ReceiveLoop) : Listener :=
  { s with loops := Function.update s.loops origin loop }

/-- `receive_remote_frames` returns an error: the thread of the direct loop sends it as its result,
and the relay loop connects again some time. -/
def failLoop (s : Listener) (origin : Origin) (error : String) : Listener :=
  let s := s.setLoop origin .stopped
  match origin with
  | .direct => { s with resultRx := s.resultRx ++ [.receive (.error error)] }
  | .relay => s

/-- `input_tx.send` and `input_tx.try_send`, of which the first waits for room. -/
def sendInput (s : Listener) (origin : Origin) (received : ReceivedInputFrame) : Listener :=
  match s.inputs.trySend (origin, received) with
  | .ok inputs =>
    { s.setLoop origin .receiving with inputs, queued := s.queued ++ [(origin, received)] }
  | .error .disconnected => s.failLoop origin "input injection thread is disconnected"
  | .error .full =>
    if received.isUnreliableMouseMove then s.setLoop origin .receiving
    else s.setLoop origin (.sending received)

def queueReceivedInputFrame (s : Listener) (origin : Origin) (frame : ProtocolFrame)
    (receivedAt : Instant) : Listener :=
  let received : ReceivedInputFrame := ⟨frame, receivedAt⟩
  { s with received := s.received ++ [(origin, received)] }.sendInput origin received

/-- One round of `receive_remote_frames` with a frame -/
def receiveRemoteFrame (s : Listener) (origin : Origin) (frame : ProtocolFrame)
    (receivedAt : Instant) (nowMicros : Except String UInt64) : Listener :=
  match frame.payload with
  | .input _ =>
    match nowMicros with
    | .error error => s.failLoop origin error
    | .ok _ => s.queueReceivedInputFrame origin frame receivedAt
  | .clipboardText clipboard =>
    match s.clipboards.trySend ⟨clipboard, receivedAt⟩ with
    | .ok clipboards => { s with clipboards }
    | .error .full => s
    | .error .disconnected => s.failLoop origin "clipboard thread is disconnected"
  | .clipboardFiles _ | .fileChunk _ => s
  | .control message =>
    match s.controls.trySend ⟨message, receivedAt⟩ with
    | .ok controls => { s with controls }
    | .error .full => s
    | .error .disconnected => s.failLoop origin "control thread is disconnected"

def endInjection (s : Listener) (result : Except String Unit) : Listener :=
  { s with
    injection := .ended result, inputs := s.inputs.close
    resultRx := s.resultRx ++ [.injection result] }

def endClipboard (s : Listener) (result : Except String Unit) : Listener :=
  { s with
    clipboard := .ended result, clipboards := s.clipboards.close
    resultRx := s.resultRx ++ [.clipboard result] }

def endControl (s : Listener) : Listener :=
  { s with
    control := .ended (.ok ()), controls := s.controls.close
    resultRx := s.resultRx ++ [.control (.ok ())] }

/-- The result of a turn of `inject_received_frames`, or of its end. -/
def injected (s : Listener) : EStateM.Result String LoopState Unit → Listener
  | .ok () loop => { s with injection := .running loop }
  | .error error _ => s.endInjection (.error error)

/-- A turn takes the first frame of the channel if it takes one. -/
def takeInput (s : Listener) : Turn → Option Listener
  | .receive _ received =>
    match s.inputs.items with
    | first :: items =>
      if first.2 = received then
        some { s with inputs := { s.inputs with items }, taken := s.taken ++ [first] }
      else none
    | [] => none
  | _ => some s

variable (w : World)

def step (s : Listener) : ListenerStep → Option Listener
  | .receive origin answer receivedAt nowMicros =>
    match s.loops origin, answer with
    | .receiving, .ok frame => some (s.receiveRemoteFrame origin frame receivedAt nowMicros)
    | .receiving, .error error => some (s.failLoop origin error)
    | .stopped, _ | .sending _, _ => none
  | .send origin =>
    match s.loops origin with
    | .sending received => some (s.sendInput origin received)
    | .stopped | .receiving => none
  | .connectRelay =>
    match s.loops .relay with
    | .stopped => if s.hasRelay then some (s.setLoop .relay .receiving) else none
    | .receiving | .sending _ => none
  | .inject t =>
    match s.injection with
    | .running loop => (s.takeInput t).bind fun s => (turn w loop t).map s.injected
    | .ended _ => none
  | .closeInjection fuel =>
    match s.injection, s.inputs.items with
    | .running loop, [] =>
      if s.hasSenders then none
      else
        (finish w fuel loop).map fun result =>
          match result with
          | .ok () _ => s.endInjection (.ok ())
          | .error error _ => s.endInjection (.error error)
    | _, _ => none
  | .applyClipboard result =>
    match s.clipboard, s.clipboards.items with
    | .running (), _ :: items =>
      let s := { s with clipboards := { s.clipboards with items } }
      match result with
      | .ok () => some s
      | .error error => some (s.endClipboard (.error error))
    | _, _ => none
  | .closeClipboard =>
    match s.clipboard, s.clipboards.items with
    | .running (), [] => if s.hasSenders then none else some (s.endClipboard (.ok ()))
    | _, _ => none
  | .handleControl =>
    match s.control, s.controls.items with
    | .running (), _ :: items => some { s with controls := { s.controls with items } }
    | _, _ => none
  | .closeControl =>
    match s.control, s.controls.items with
    | .running (), [] => if s.hasSenders then none else some s.endControl
    | _, _ => none
  | .wait =>
    match s.returned, s.resultRx with
    | none, result :: resultRx =>
      let (results, returned) := s.results.wait result
      some { s with resultRx, results, returned }
    | _, _ => none

end Listener

end Kmsync
