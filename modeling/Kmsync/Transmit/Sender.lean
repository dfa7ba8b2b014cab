import Kmsync.Capture.Router
import Kmsync.ProofKit.Postcondition
import Mathlib.Logic.Function.Basic

/-! The sending side of the desktop capture.  Every target has one connection, which is opened for
the first event and given up when a send fails; each connection counts its frames from 1 on. -/

namespace Kmsync

open ProofKit

/-- The transport is known by the connection it stands for, and the compiled profile by what it does
to an event. -/
structure DesktopTargetSender (τ : Type) where
  transport : τ
  transform : InputEvent F32 → InputEvent F32
  sourceDeviceId : DeviceId
  targetDeviceId : DeviceId
  sequence : UInt64

/-- What the surroundings answer to one call. -/
structure TransmitAnswers (τ : Type) where
  /-- `CompiledProfile::compile` -/
  compile : Except String (InputEvent F32 → InputEvent F32)
  /-- the configuration, the identity, and the two device ids read from them -/
  deviceIds : Except String (DeviceId × DeviceId)
  /-- `connect_desktop_target_transport` -/
  connect : Except String τ
  /-- `now_micros()` -/
  nowMicros : Except String UInt64
  /-- `send_event` of the transport -/
  sendEvent : Except String Unit

/-- The senders of a machine, and the frames that its connections took. -/
structure SenderState (τ : Type) where
  senders : String → Option (DesktopTargetSender τ)
  sent : τ → List ProtocolFrame

section Programs

variable {τ : Type} [DecidableEq τ] (answers : TransmitAnswers τ)

/-- The first part: a target without a sender gets one. -/
def connectDesktopTarget (targetDeviceId : String) : EStateM String (SenderState τ) Unit := do
  let s ← get
  if (s.senders targetDeviceId).isNone then
    match answers.compile, answers.deviceIds, answers.connect with
    | .error error, _, _ => throw error
    | .ok _, .error error, _ => throw error
    | .ok _, .ok _, .error error => throw error
    | .ok transform, .ok (sourceDeviceId, targetId), .ok transport =>
      let sender : DesktopTargetSender τ := ⟨transport, transform, sourceDeviceId, targetId, 1⟩
      set { s with senders := Function.update s.senders targetDeviceId (some sender) }

/-- `send_input_event` sends this frame. -/
def inputEventFrame (sourceDeviceId targetDeviceId : DeviceId) (event : ProtocolEvent) :
    ProtocolFrame :=
  ⟨event.sequence, event.timestampMicros, .input (.current sourceDeviceId targetDeviceId event.event)⟩

def transmitDesktopCaptureEvent (queued : TargetedQueuedInputEvent F32) :
    EStateM String (SenderState τ) Unit := do
  connectDesktopTarget answers queued.targetDeviceId
  let s ← get
  match s.senders queued.targetDeviceId with
  | none => throw "desktop capture sender missing after connect"
  | some target =>
    let mapped := target.transform queued.event
    match answers.nowMicros with
    | .error error => throw error
    | .ok timestamp =>
      let event : ProtocolEvent := ⟨target.sequence, timestamp, mapped⟩
      let frame := inputEventFrame target.sourceDeviceId target.targetDeviceId event
      match answers.sendEvent with
      | .ok () =>
        set { s with
          senders := Function.update s.senders queued.targetDeviceId
            (some { target with sequence := saturatingNext target.sequence })
          sent := Function.update s.sent target.transport (s.sent target.transport ++ [frame]) }
      | .error error =>
        set { s with senders := Function.update s.senders queued.targetDeviceId none }
        throw error

end Programs

end Kmsync
