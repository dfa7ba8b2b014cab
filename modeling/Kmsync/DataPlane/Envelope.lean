import Kmsync.Core.Decode

/-! The lanes of a connection, and the header and the nonce of a sealed frame. -/

namespace Kmsync

open ProofKit

/-- A refusal with its text. -/
def refuse {α : Type} (text : String) : Checked String α := .error (.error text)

inductive QuicLane where
  | inputUnreliable | inputReliable | clipboard | control
  deriving DecidableEq

namespace QuicLane

def transportLane : QuicLane → TransportLane
  | .inputUnreliable => .inputUnreliable
  | .inputReliable => .inputReliable
  | .clipboard => .clipboard
  | .control => .control

/-- The name of the lane in texts, as `{:?}` prints it. -/
def debug : QuicLane → String
  | .inputUnreliable => "InputUnreliable"
  | .inputReliable => "InputReliable"
  | .clipboard => "Clipboard"
  | .control => "Control"

end QuicLane

/-- The name of the lane in texts, as `{:?}` prints it. -/
def TransportLane.debug : TransportLane → String
  | .inputUnreliable => "InputUnreliable"
  | .inputReliable => "InputReliable"
  | .clipboard => "Clipboard"
  | .control => "Control"

def quicLaneForTransportLane : TransportLane → QuicLane
  | .inputUnreliable => .inputUnreliable
  | .inputReliable => .inputReliable
  | .clipboard => .clipboard
  | .control => .control

inductive QuicDeliveryMode where
  | datagram (lane : QuicLane)
  | reliableStream (lane : QuicLane)
  deriving DecidableEq

def quicDeliveryModeForFrame (frame : ProtocolFrame) : QuicDeliveryMode :=
  match quicLaneForTransportLane frame.payload.transportLane with
  | .inputUnreliable => .datagram .inputUnreliable
  | .inputReliable => .reliableStream .inputReliable
  | .clipboard => .reliableStream .clipboard
  | .control => .reliableStream .control

/-- The lane that a frame is sent on. -/
def QuicDeliveryMode.lane : QuicDeliveryMode → QuicLane
  | .datagram lane | .reliableStream lane => lane

theorem transportLane_delivery (frame : ProtocolFrame) :
    (quicDeliveryModeForFrame frame).lane.transportLane = frame.payload.transportLane := by
  unfold quicDeliveryModeForFrame
  cases frame.payload.transportLane <;> rfl

def encodeQuicLane : QuicLane → UInt8
  | .inputUnreliable => 1
  | .inputReliable => 2
  | .clipboard => 3
  | .control => 4

def decodeQuicLane (value : UInt8) : Checked String QuicLane :=
  if value = 1 then .ok .inputUnreliable
  else if value = 2 then .ok .inputReliable
  else if value = 3 then .ok .clipboard
  else if value = 4 then .ok .control
  else refuse s!"unknown QUIC lane {value}"

@[simp] theorem decodeQuicLane_encode (lane : QuicLane) :
    decodeQuicLane (encodeQuicLane lane) = .ok lane := by
  cases lane <;> rfl

section Header

/-- "SYE1" -/
def dataPlaneMagic : List UInt8 := [0x53, 0x59, 0x45, 0x31]

def dataPlaneVersion : UInt8 := 1

def dataPlaneHeaderLen : Nat := 22

structure DataPlaneHeader where
  lane : QuicLane
  epoch : UInt64
  sequence : UInt64
  deriving DecidableEq

def dataPlaneHeader (lane : QuicLane) (epoch sequence : UInt64) : List UInt8 :=
  dataPlaneMagic ++ dataPlaneVersion :: encodeQuicLane lane :: toLeBytes epoch ++ toLeBytes sequence

@[simp] theorem dataPlaneHeader_length (lane : QuicLane) (epoch sequence : UInt64) :
    (dataPlaneHeader lane epoch sequence).length = dataPlaneHeaderLen := by
  simp [dataPlaneHeader, dataPlaneMagic, dataPlaneHeaderLen]

def dataPlaneParseHeader (sealed : List UInt8) : Checked String DataPlaneHeader := do
  if sealed.length < dataPlaneHeaderLen then
    refuse "data-plane envelope is too short"
  else
    let start ← readSlice sealed 0 4
    if start ≠ dataPlaneMagic then
      refuse "data-plane envelope has bad magic"
    else
      let version ← readByte sealed 4
      if version ≠ dataPlaneVersion then
        refuse s!"unsupported data-plane envelope version {version}"
      else
        let lane ← decodeQuicLane (← readByte sealed 5)
        let epoch ← readLe UInt64 sealed 6 14
        let sequence ← readLe UInt64 sealed 14 22
        return ⟨lane, epoch, sequence⟩

/-- A header is read back from the front of the envelope that it starts. -/
@[simp] theorem dataPlaneParseHeader_append (lane : QuicLane) (epoch sequence : UInt64)
    (ciphertext : List UInt8) :
    dataPlaneParseHeader (dataPlaneHeader lane epoch sequence ++ ciphertext) =
      .ok ⟨lane, epoch, sequence⟩ := by
  have hStart : readSlice (dataPlaneHeader lane epoch sequence ++ ciphertext) 0 4 =
      (.ok dataPlaneMagic : Checked String (List UInt8)) := by
    have hLength : 4 = dataPlaneMagic.length := rfl
    rw [dataPlaneHeader, List.append_assoc, List.append_assoc, readSlice,
      slice?_append_here hLength, orPanic_some]
  rw [dataPlaneParseHeader, if_neg (by simp), hStart]
  simp [dataPlaneHeader, dataPlaneMagic, readByte, readLe]

/-- The nonce has room for the low half of the epoch only; a larger epoch is refused. -/
def dataPlaneNonce (epoch sequence : UInt64) : Checked String (List UInt8) :=
  if epoch.toNat < 2 ^ 32 then
    .ok (toLeBytes epoch.toUInt32 ++ toLeBytes sequence)
  else
    refuse "data-plane key epoch exceeded nonce space"

end Header

end Kmsync
