import Kmsync.DataPlane.Envelope
import Kmsync.ProofKit.Postcondition
import Mathlib.Logic.Function.Basic

/-! Sealing and opening of frames.  The sealer numbers all frames of a connection with one counter
and changes its key every so many frames; the opener checks an envelope in many ways, the last of
which is the replay window of its key epoch. -/

namespace Kmsync

open ProofKit

/-- `Option::ok_or`, with the text of the refusal -/
def orRefuse {α : Type} (text : String) : Option α → Checked String α
  | some x => .ok x
  | none => refuse text

@[simp] theorem orRefuse_some {α : Type} (text : String) (x : α) :
    orRefuse text (some x) = .ok x := rfl

theorem orRefuse_eq_ok {α : Type} {text : String} {o : Option α} {x : α} :
    orRefuse text o = .ok x ↔ o = some x := by
  cases o <;> simp [orRefuse, refuse]

/-- The primitives that the frames are protected with, for ciphers of type `κ`. -/
structure FrameCrypto (κ : Type) where
  /-- `Hkdf::<Sha256>::new(salt, secret)` and `expand(info)` into a key -/
  expand (salt secret info : List UInt8) : Option (List UInt8)
  /-- `ChaCha20Poly1305::new_from_slice` -/
  newFromSlice (key : List UInt8) : Option κ
  encrypt (cipher : κ) (nonce msg aad : List UInt8) : Option (List UInt8)
  decrypt (cipher : κ) (nonce msg aad : List UInt8) : Option (List UInt8)

/-- Decryption inverts encryption, under the same cipher, nonce and associated data. -/
def FrameCrypto.Inverts {κ : Type} (crypto : FrameCrypto κ) : Prop :=
  ∀ cipher nonce msg aad ciphertext,
    crypto.encrypt cipher nonce msg aad = some ciphertext →
      crypto.decrypt cipher nonce ciphertext aad = some msg

section Config

def dataPlaneReplayWindow : UInt64 := 64

def dataPlaneDefaultRotationFrames : UInt64 := 4096

structure DataPlaneSecurityConfig where
  secret : List UInt8
  rotationFrames : UInt64
  replayWindow : UInt64

def DataPlaneSecurityConfig.fromSecret (secret : List UInt8) : DataPlaneSecurityConfig :=
  ⟨secret, dataPlaneDefaultRotationFrames, dataPlaneReplayWindow⟩

def DataPlaneSecurityConfig.keyForEpoch {κ : Type} (crypto : FrameCrypto κ)
    (config : DataPlaneSecurityConfig) (epoch : UInt64) : Checked String (List UInt8) :=
  orRefuse "failed to derive data-plane frame key"
    (crypto.expand (asBytes "kmsync-data-plane-key-v1") config.secret
      (asBytes "frame-key-epoch-" ++ toLeBytes epoch))

end Config

section Sealer

structure DataPlaneSealer where
  config : DataPlaneSecurityConfig
  epoch : UInt64
  framesInEpoch : UInt64
  nextSequence : UInt64

namespace DataPlaneSealer

def new (config : DataPlaneSecurityConfig) : DataPlaneSealer := ⟨config, 0, 0, 1⟩

/-- A new epoch starts when the one before has had its frames. -/
def rotate (sealer : DataPlaneSealer) : DataPlaneSealer :=
  if sealer.framesInEpoch ≥ max sealer.config.rotationFrames 1 then
    { sealer with epoch := saturatingNext sealer.epoch, framesInEpoch := 0 }
  else
    sealer

/-- Both counters move on before anything can fail. -/
def count (sealer : DataPlaneSealer) : DataPlaneSealer :=
  { sealer with
    nextSequence := saturatingNext sealer.nextSequence
    framesInEpoch := saturatingNext sealer.framesInEpoch }

end DataPlaneSealer

variable {κ : Type} (crypto : FrameCrypto κ)

/-- The envelope of a frame whose epoch and number are given. -/
def sealEnvelope (config : DataPlaneSecurityConfig) (lane : QuicLane) (epoch sequence : UInt64)
    (frame : ProtocolFrame) : Checked String (List UInt8) := do
  let encoded := frame.encodeVec
  let header := dataPlaneHeader lane epoch sequence
  let key ← config.keyForEpoch crypto epoch
  let cipher ← orRefuse "failed to initialize data-plane cipher" (crypto.newFromSlice key)
  let nonce ← dataPlaneNonce epoch sequence
  let ciphertext ← orRefuse "failed to encrypt data-plane frame"
    (crypto.encrypt cipher nonce encoded header)
  return header ++ ciphertext

def DataPlaneSealer.sealFrame (lane : QuicLane) (frame : ProtocolFrame) :
    EStateM (Fault String) DataPlaneSealer (List UInt8) := do
  modify DataPlaneSealer.rotate
  let sealer ← get
  modify DataPlaneSealer.count
  MonadExcept.ofExcept
    (sealEnvelope crypto sealer.config lane sealer.epoch sealer.nextSequence frame)

end Sealer

section Replay

structure DataPlaneReplayWindow where
  highest : UInt64 := 0
  seen : BitVec 128 := 0

/-- The window is at most 128, so that every offset inside it is the place of a bit. -/
def DataPlaneReplayWindow.accept (sequence window : UInt64) :
    EStateM (Fault String) DataPlaneReplayWindow Unit := do
  let self ← get
  if sequence > self.highest then
    let shift := sequence - self.highest
    set
      { highest := sequence
        seen := if shift ≥ 128 then 1#128 else self.seen <<< shift.toNat ||| 1#128 :
        DataPlaneReplayWindow }
  else
    let offset := self.highest - sequence
    if offset ≥ window then
      throw (.error s!"data-plane replay window rejected old sequence {sequence}")
    else
      let bit := 1#128 <<< offset.toNat
      if self.seen &&& bit ≠ 0 then
        throw (.error s!"data-plane replay detected duplicate sequence {sequence}")
      else
        set { self with seen := self.seen ||| bit }

structure DataPlaneReplayGuard where
  window : UInt64
  epochs : UInt64 → Option DataPlaneReplayWindow

namespace DataPlaneReplayGuard

def new (window : UInt64) : DataPlaneReplayGuard := ⟨min (max window 1) 128, fun _ => none⟩

/-- `entry(epoch).or_default()` -/
def entry (epoch : UInt64) (replayGuard : DataPlaneReplayGuard) : DataPlaneReplayWindow :=
  (replayGuard.epochs epoch).getD {}

def setEntry (epoch : UInt64) (window : DataPlaneReplayWindow)
    (replayGuard : DataPlaneReplayGuard) : DataPlaneReplayGuard :=
  { replayGuard with epochs := Function.update replayGuard.epochs epoch (some window) }

def accept (epoch sequence : UInt64) : EStateM (Fault String) DataPlaneReplayGuard Unit := do
  let replayGuard ← get
  onPart (entry epoch) (setEntry epoch) (DataPlaneReplayWindow.accept sequence replayGuard.window)

end DataPlaneReplayGuard

end Replay

section Opener

def controlSourceDeviceId : ControlMessage → DeviceId
  | .heartbeat sourceDeviceId _ _ | .capabilities sourceDeviceId _ _
  | .configVersion sourceDeviceId _ | .sessionState sourceDeviceId _ _ => sourceDeviceId

def frameDeviceIds (frame : ProtocolFrame) : List DeviceId :=
  match frame.payload with
  | .input input => [input.sourceDeviceId, input.targetDeviceId]
  | .clipboardText clipboard => [clipboard.sourceId]
  | .clipboardFiles files => [files.sourceId]
  | .fileChunk chunk => [chunk.sourceId]
  | .control message => [controlSourceDeviceId message]

def revokedFrameDeviceId (frame : ProtocolFrame) (revokedDevices : List DeviceId) :
    Option DeviceId :=
  if revokedDevices.isEmpty then none
  else (frameDeviceIds frame).find? revokedDevices.contains

/-- The name of the error in texts, as `{:?}` prints it. -/
def DecodeError.debug : DecodeError → String
  | .tooShort => "TooShort"
  | .badMagic => "BadMagic"
  | .unknownEventType value => s!"UnknownEventType({value})"
  | .unknownInputChannel value => s!"UnknownInputChannel({value})"
  | .unknownClipboardFormat value => s!"UnknownClipboardFormat({value})"
  | .unknownControlMessage value => s!"UnknownControlMessage({value})"
  | .unknownControlSessionState value => s!"UnknownControlSessionState({value})"
  | .unknownKey value => s!"UnknownKey({value})"
  | .unknownButton value => s!"UnknownButton({value})"
  | .unknownState value => s!"UnknownState({value})"
  | .invalidUtf8 => "InvalidUtf8"
  | .lengthOverflow => "LengthOverflow"

def formatDecodeError (error : DecodeError) : String := s!"decode error: {error.debug}"

/-- `map_err(format_decode_error)` -/
def mapDecodeError {α : Type} : Decoded α → Checked String α
  | .ok x => .ok x
  | .error (.error error) => refuse (formatDecodeError error)
  | .error .panic => .error .panic

structure DataPlaneOpener where
  config : DataPlaneSecurityConfig
  replayGuard : DataPlaneReplayGuard
  revokedDevices : List DeviceId

namespace DataPlaneOpener

def new (config : DataPlaneSecurityConfig) : DataPlaneOpener :=
  ⟨config, .new config.replayWindow, []⟩

def withRevokedDevices (opener : DataPlaneOpener) (revokedDevices : List DeviceId) :
    DataPlaneOpener :=
  { opener with revokedDevices }

variable {κ : Type} (crypto : FrameCrypto κ)

/-- The checks of `open_frame` before the replay window; they only read the opener. -/
def checkFrame (opener : DataPlaneOpener) (expectedLane : QuicLane) (sealed : List UInt8) :
    Checked String (DataPlaneHeader × ProtocolFrame) := do
  let header ← dataPlaneParseHeader sealed
  if header.lane ≠ expectedLane then
    refuse s!"data-plane lane mismatch: header={header.lane.debug} expected={expectedLane.debug}"
  else
    let key ← opener.config.keyForEpoch crypto header.epoch
    let cipher ← orRefuse "failed to initialize data-plane cipher" (crypto.newFromSlice key)
    let ciphertext ← readFrom sealed dataPlaneHeaderLen
    let nonce ← dataPlaneNonce header.epoch header.sequence
    let aad ← readSlice sealed 0 dataPlaneHeaderLen
    let plaintext ← orRefuse "failed to decrypt data-plane frame"
      (crypto.decrypt cipher nonce ciphertext aad)
    let frame ← mapDecodeError (ProtocolFrame.decode plaintext)
    let expected := expectedLane.transportLane
    let carried := frame.payload.transportLane
    if carried ≠ expected then
      refuse s!"data-plane payload lane mismatch: expected={expected.debug} frame={carried.debug}"
    else
      match revokedFrameDeviceId frame opener.revokedDevices with
      | some deviceId => refuse s!"revoked device {deviceId.toNat} attempted data-plane frame"
      | none => return (header, frame)

def setReplayGuard (replayGuard : DataPlaneReplayGuard) (opener : DataPlaneOpener) :
    DataPlaneOpener :=
  { opener with replayGuard }

def openFrame (expectedLane : QuicLane) (sealed : List UInt8) :
    EStateM (Fault String) DataPlaneOpener ProtocolFrame := do
  let opener ← get
  let (header, frame) ← MonadExcept.ofExcept (opener.checkFrame crypto expectedLane sealed)
  onPart replayGuard setReplayGuard (DataPlaneReplayGuard.accept header.epoch header.sequence)
  return frame

end DataPlaneOpener

end Opener

end Kmsync
