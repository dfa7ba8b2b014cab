import Kmsync.Core.Encode
import Kmsync.ProofKit.Checked

/-! The decoder.  Every slice and index of the source is a checked read here, and every sum of
lengths a checked sum, so that a read out of bounds or an overflow would show as a panic. -/

namespace Kmsync

open ProofKit

inductive DecodeError where
  | tooShort | badMagic
  | unknownEventType (value : UInt8)
  | unknownInputChannel (value : UInt8)
  | unknownClipboardFormat (value : UInt8)
  | unknownControlMessage (value : UInt8)
  | unknownControlSessionState (value : UInt8)
  | unknownKey (value : UInt16)
  | unknownButton (value : UInt8)
  | unknownState (value : UInt8)
  | invalidUtf8 | lengthOverflow
  deriving DecidableEq

abbrev Decoded (α : Type) := Checked DecodeError α

def fail {α : Type} (error : DecodeError) : Decoded α := .error (.error error)

/-- A sum of `usize`.  One that overflows is a panic. -/
def addUsize (a b : Nat) : Decoded Nat := orPanic (checkedAdd a b)

theorem addUsize_of_lt {a b : Nat} (h : a + b < 2 ^ 64) : addUsize a b = .ok (a + b) := by
  rw [addUsize, checkedAdd, if_pos h]
  rfl

/-- `core::str::from_utf8`, with the result copied into a `String` -/
def fromUtf8 (bytes : List UInt8) : Decoded String :=
  match String.fromUTF8? ⟨bytes.toArray⟩ with
  | some text => .ok text
  | none => fail .invalidUtf8

section Fields

def decodeInputChannel (value : UInt8) : Decoded InputChannel :=
  if value = 1 then .ok .inputUnreliable
  else if value = 2 then .ok .inputReliable
  else fail (.unknownInputChannel value)

def decodeKeyState (value : UInt8) : Decoded KeyState :=
  if value = 1 then .ok .pressed
  else if value = 2 then .ok .released
  else fail (.unknownState value)

def decodeMouseButton (value : UInt8) : Decoded MouseButton :=
  if value = 1 then .ok .left
  else if value = 2 then .ok .right
  else if value = 3 then .ok .middle
  else if value = 4 then .ok .back
  else if value = 5 then .ok .forward
  else fail (.unknownButton value)

def decodeControlChannelFlags (value : UInt8) : ControlChannelFlags where
  inputUnreliable := value &&& 0b0001 != 0
  inputReliable := value &&& 0b0010 != 0
  clipboard := value &&& 0b0100 != 0
  control := value &&& 0b1000 != 0

def decodeControlSessionState (value : UInt8) : Decoded ControlSessionState :=
  if value = 1 then .ok .starting
  else if value = 2 then .ok .active
  else if value = 3 then .ok .suspended
  else if value = 4 then .ok .closing
  else fail (.unknownControlSessionState value)

def decodeClipboardFormat (value : UInt8) : Decoded ClipboardFormat :=
  if value = 0 then .ok .plainText
  else if value = 1 then .ok .url
  else if value = 2 then .ok .html
  else if value = 3 then .ok .image
  else fail (.unknownClipboardFormat value)

/-- The two bit patterns that a move, a position or a scroll event carries. -/
def readCoordinates (input : List UInt8) : Decoded (F32 × F32) :=
  if input.length < 9 then
    fail .tooShort
  else do
    let x ← readLe F32 input 1 5
    let y ← readLe F32 input 5 9
    return (x, y)

def decodeInputEvent (input : List UInt8) : Decoded (InputEvent F32) :=
  match input with
  | [] => fail .tooShort
  | kind :: _ =>
    if kind = eventKey then
      if input.length < 5 then
        fail .tooShort
      else do
        let keyRaw ← readLe UInt16 input 1 3
        match Key.fromU16 keyRaw with
        | none => fail (.unknownKey keyRaw)
        | some key =>
          let state ← decodeKeyState (← readByte input 3)
          let modifiers ← readByte input 4
          return .key ⟨key, state, Modifiers.fromBits modifiers⟩
    else if kind = eventMouseMove then do
      let (dx, dy) ← readCoordinates input
      return .mouse (.move dx dy)
    else if kind = eventMousePosition then do
      let (xRatio, yRatio) ← readCoordinates input
      return .mouse (.position xRatio yRatio)
    else if kind = eventMouseButton then
      if input.length < 3 then
        fail .tooShort
      else do
        let button ← decodeMouseButton (← readByte input 1)
        let state ← decodeKeyState (← readByte input 2)
        return .mouse (.button button state)
    else if kind = eventScroll then do
      let (dx, dy) ← readCoordinates input
      return .scroll ⟨dx, dy⟩
    else
      fail (.unknownEventType kind)

end Fields

/-- `ProtocolEvent::decode` -/
def ProtocolEvent.decode (input : List UInt8) : Decoded ProtocolEvent :=
  if input.length < 21 then
    fail .tooShort
  else do
    let start ← readSlice input 0 4
    if start ≠ magic then
      fail .badMagic
    else
      let sequence ← readLe UInt64 input 4 12
      let timestampMicros ← readLe UInt64 input 12 20
      let event ← decodeInputEvent (← readFrom input 20)
      return ⟨sequence, timestampMicros, event⟩

section Payloads

def decodeInput (payloadBytes : List UInt8) : Decoded InputEventEnvelope :=
  if payloadBytes.length < inputMetadataLen + 1 then
    fail .tooShort
  else do
    let sourceDeviceId ← readLe DeviceId payloadBytes 0 16
    let targetDeviceId ← readLe DeviceId payloadBytes 16 32
    let protocolVersion ← readLe UInt16 payloadBytes 32 34
    let channel ← decodeInputChannel (← readByte payloadBytes 34)
    let event ←
      decodeInputEvent (← readFrom payloadBytes inputMetadataLen)
    return ⟨sourceDeviceId, targetDeviceId, protocolVersion, channel, event⟩

def decodeClipboardText (payloadBytes : List UInt8) : Decoded ClipboardText :=
  if payloadBytes.length < clipboardMetadataLen then
    fail .tooShort
  else do
    let sourceId ← readLe DeviceId payloadBytes 0 16
    let version ← readLe UInt64 payloadBytes 16 24
    let text ← fromUtf8 (← readFrom payloadBytes clipboardMetadataLen)
    return .new sourceId version text

def clipboardFromParts (sourceId : DeviceId) (version : UInt64) (format : ClipboardFormat)
    (text : String) (html : Option String) : ClipboardText :=
  match format with
  | .plainText => .new sourceId version text
  | .url => .url sourceId version text
  | .html => .newHtml sourceId version (html.getD "") text
  | .image => .newImage sourceId version 0 0 []

def decodeClipboardContent (payloadBytes : List UInt8) : Decoded ClipboardText :=
  if payloadBytes.length < clipboardContentMetadataLen then
    fail .tooShort
  else do
    let sourceId ← readLe DeviceId payloadBytes 0 16
    let version ← readLe UInt64 payloadBytes 16 24
    let format ← decodeClipboardFormat (← readByte payloadBytes 32)
    let firstLen ← readLe UInt32 payloadBytes 33 37
    let secondLen ← readLe UInt32 payloadBytes 37 41
    let textLen := firstLen.toNat
    let htmlLen := secondLen.toNat
    match (checkedAdd clipboardContentMetadataLen textLen).bind (checkedAdd · htmlLen) with
    | none => fail .lengthOverflow
    | some required =>
      if payloadBytes.length < required then
        fail .tooShort
      else if format = .image then
        let imageBytes ← readFrom payloadBytes clipboardContentMetadataLen
        return .newImage sourceId version firstLen secondLen imageBytes
      else
        let textStart := clipboardContentMetadataLen
        let textEnd ← addUsize textStart textLen
        let htmlEnd ← addUsize textEnd htmlLen
        let text ← fromUtf8 (← readSlice payloadBytes textStart textEnd)
        let html ←
          if htmlLen = 0 then
            pure none
          else
            some <$> (readSlice payloadBytes textEnd htmlEnd >>= fromUtf8)
        return clipboardFromParts sourceId version format text html

/-- The loop of `decode_clipboard_files` over the entries that are left, from `cursor` on. -/
def decodeFileEntries (payloadBytes : List UInt8) :
    Nat → Nat → Decoded (List ClipboardFileMetadata)
  | 0, _ => .ok []
  | fileCount + 1, cursor => do
    if payloadBytes.length < (← addUsize cursor clipboardFileEntryMetadataLen) then
      fail .tooShort
    else
      let byteLen ← readLe UInt64 payloadBytes cursor (← addUsize cursor 8)
      let cursor ← addUsize cursor 8
      let contentHash ← readLe UInt64 payloadBytes cursor (← addUsize cursor 8)
      let cursor ← addUsize cursor 8
      let nameLen ← readLe UInt16 payloadBytes cursor (← addUsize cursor 2)
      let cursor ← addUsize cursor 2
      let nameLen := nameLen.toNat
      if payloadBytes.length < (← addUsize cursor nameLen) then
        fail .tooShort
      else
        let name ← fromUtf8 (← readSlice payloadBytes cursor (← addUsize cursor nameLen))
        let cursor ← addUsize cursor nameLen
        let files ← decodeFileEntries payloadBytes fileCount cursor
        return .new name byteLen contentHash :: files

def decodeClipboardFiles (payloadBytes : List UInt8) : Decoded ClipboardFiles :=
  if payloadBytes.length < clipboardFilesMetadataLen then
    fail .tooShort
  else do
    let sourceId ← readLe DeviceId payloadBytes 0 16
    let version ← readLe UInt64 payloadBytes 16 24
    let fileCount ← readLe UInt16 payloadBytes 32 34
    let files ← decodeFileEntries payloadBytes fileCount.toNat clipboardFilesMetadataLen
    return .new sourceId version files

def decodeIsFinal (value : UInt8) : Decoded Bool :=
  if value = 0 then .ok false
  else if value = 1 then .ok true
  else fail (.unknownState value)

def decodeFileChunk (payloadBytes : List UInt8) : Decoded FileTransferChunk :=
  if payloadBytes.length < fileChunkMetadataLen then
    fail .tooShort
  else do
    let final ← readByte payloadBytes 56
    let isFinal ← decodeIsFinal final
    let transferId ← readLe (BitVec 128) payloadBytes 0 16
    let sourceId ← readLe DeviceId payloadBytes 16 32
    let fileIndex ← readLe UInt32 payloadBytes 32 36
    let offset ← readLe UInt64 payloadBytes 36 44
    let totalSize ← readLe UInt64 payloadBytes 44 52
    let chunkIndex ← readLe UInt32 payloadBytes 52 56
    let data ← readFrom payloadBytes fileChunkMetadataLen
    return ⟨transferId, sourceId, fileIndex, offset, totalSize, chunkIndex, isFinal, data⟩

def decodeControlMessage (payloadBytes : List UInt8) : Decoded ControlMessage :=
  match payloadBytes with
  | [] => fail .tooShort
  | kind :: _ =>
    if kind = controlHeartbeat then
      if payloadBytes.length < 41 then
        fail .tooShort
      else do
        let sourceDeviceId ← readLe DeviceId payloadBytes 1 17
        let sessionId ← readLe (BitVec 128) payloadBytes 17 33
        let sequence ← readLe UInt64 payloadBytes 33 41
        return .heartbeat sourceDeviceId sessionId sequence
    else if kind = controlCapabilities then
      if payloadBytes.length < 22 then
        fail .tooShort
      else do
        let sourceDeviceId ← readLe DeviceId payloadBytes 1 17
        let min ← readLe UInt16 payloadBytes 17 19
        let max ← readLe UInt16 payloadBytes 19 21
        let channels ← readByte payloadBytes 21
        return .capabilities sourceDeviceId ⟨min, max⟩ (decodeControlChannelFlags channels)
    else if kind = controlConfigVersion then
      if payloadBytes.length < 25 then
        fail .tooShort
      else do
        let sourceDeviceId ← readLe DeviceId payloadBytes 1 17
        let version ← readLe UInt64 payloadBytes 17 25
        return .configVersion sourceDeviceId version
    else if kind = controlSessionState then
      if payloadBytes.length < 34 then
        fail .tooShort
      else do
        let sourceDeviceId ← readLe DeviceId payloadBytes 1 17
        let sessionId ← readLe (BitVec 128) payloadBytes 17 33
        let state ← decodeControlSessionState (← readByte payloadBytes 33)
        return .sessionState sourceDeviceId sessionId state
    else
      fail (.unknownControlMessage kind)

/-- The payload of an input event without an envelope. -/
def legacyInput (event : ProtocolEvent) : ProtocolPayload := .input (.legacy event.event)

/-- The `match payload_type` of `ProtocolFrame::decode` -/
def decodePayload (payloadType : UInt8) (payloadBytes : List UInt8) : Decoded ProtocolPayload :=
  if payloadType = 0 then
    legacyInput <$> ProtocolEvent.decode payloadBytes
  else if payloadType = payloadInput then
    .input <$> decodeInput payloadBytes
  else if payloadType = payloadClipboardTextLegacy then
    (.clipboardText ∘ .legacy) <$> fromUtf8 payloadBytes
  else if payloadType = payloadClipboardText then
    .clipboardText <$> decodeClipboardText payloadBytes
  else if payloadType = payloadClipboardContent then
    .clipboardText <$> decodeClipboardContent payloadBytes
  else if payloadType = payloadClipboardFiles then
    .clipboardFiles <$> decodeClipboardFiles payloadBytes
  else if payloadType = payloadFileChunk then
    .fileChunk <$> decodeFileChunk payloadBytes
  else if payloadType = payloadControl then
    .control <$> decodeControlMessage payloadBytes
  else
    fail (.unknownEventType payloadType)

end Payloads

/-- `ProtocolFrame::decode` -/
def ProtocolFrame.decode (input : List UInt8) : Decoded ProtocolFrame :=
  if input.length < 25 then
    fail .tooShort
  else do
    let start ← readSlice input 0 4
    if start ≠ frameMagic then
      let event ← ProtocolEvent.decode input
      return ⟨event.sequence, event.timestampMicros, legacyInput event⟩
    else
      let sequence ← readLe UInt64 input 4 12
      let timestampMicros ← readLe UInt64 input 12 20
      let payloadType ← readByte input 20
      let len ← readLe UInt32 input 21 25
      let len := len.toNat
      if input.length < (← addUsize 25 len) then
        fail .tooShort
      else
        let payloadBytes ← readSlice input 25 (← addUsize 25 len)
        let payload ← decodePayload payloadType payloadBytes
        return ⟨sequence, timestampMicros, payload⟩

end Kmsync
