import Kmsync.Core.Protocol

/-! The vector encoder.  A length that does not fit its field is written as zero. -/

namespace Kmsync

open ProofKit

/-- "SYN1" -/
def magic : List UInt8 := [0x53, 0x59, 0x4e, 0x31]

/-- "SYN2" -/
def frameMagic : List UInt8 := [0x53, 0x59, 0x4e, 0x32]

section Tags

def eventKey : UInt8 := 1

def eventMouseMove : UInt8 := 2

def eventMouseButton : UInt8 := 3

def eventScroll : UInt8 := 4

def eventMousePosition : UInt8 := 5

def payloadInput : UInt8 := 1

def payloadClipboardTextLegacy : UInt8 := 10

def payloadClipboardText : UInt8 := 11

def payloadClipboardContent : UInt8 := 12

def payloadClipboardFiles : UInt8 := 13

def payloadFileChunk : UInt8 := 14

def payloadControl : UInt8 := 20

def controlHeartbeat : UInt8 := 1

def controlCapabilities : UInt8 := 2

def controlConfigVersion : UInt8 := 3

def controlSessionState : UInt8 := 4

end Tags

section Lengths

def inputMetadataLen : Nat := 35

def clipboardMetadataLen : Nat := 32

def clipboardContentMetadataLen : Nat := 41

def clipboardFilesMetadataLen : Nat := 34

def clipboardFileEntryMetadataLen : Nat := 18

def fileChunkMetadataLen : Nat := 57

/-- `u16::try_from` of a length -/
def u16TryFrom (n : Nat) : Option UInt16 := if n < 2 ^ 16 then some (UInt16.ofNat n) else none

/-- `u32::try_from` of a length -/
def u32TryFrom (n : Nat) : Option UInt32 := if n < 2 ^ 32 then some (UInt32.ofNat n) else none

/-- `usize::checked_add`, on a 64-bit machine -/
def checkedAdd (a b : Nat) : Option Nat := if a + b < 2 ^ 64 then some (a + b) else none

end Lengths

inductive EncodeError where
  | bufferTooSmall | lengthOverflow
  deriving DecidableEq, Repr

section Fields

def encodeInputChannel : InputChannel → UInt8
  | .inputUnreliable => 1
  | .inputReliable => 2

def encodeKeyState : KeyState → UInt8
  | .pressed => 1
  | .released => 2

def encodeMouseButton : MouseButton → UInt8
  | .left => 1
  | .right => 2
  | .middle => 3
  | .back => 4
  | .forward => 5

def encodeControlChannelFlags (flags : ControlChannelFlags) : UInt8 :=
  flags.inputUnreliable.toUInt8 ||| flags.inputReliable.toUInt8 <<< 1 |||
    flags.clipboard.toUInt8 <<< 2 ||| flags.control.toUInt8 <<< 3

def encodeControlSessionState : ControlSessionState → UInt8
  | .starting => 1
  | .active => 2
  | .suspended => 3
  | .closing => 4

/-- The bytes `encode_input_event` writes; the size it returns is their number. -/
def encodeInputEvent : InputEvent F32 → List UInt8
  | .key event =>
    eventKey :: toLeBytes event.key.toU16 ++ [encodeKeyState event.state, event.modifiers.bits]
  | .mouse (.move dx dy) => eventMouseMove :: toLeBytes dx ++ toLeBytes dy
  | .mouse (.position xRatio yRatio) =>
    eventMousePosition :: toLeBytes xRatio ++ toLeBytes yRatio
  | .mouse (.button button state) =>
    [eventMouseButton, encodeMouseButton button, encodeKeyState state]
  | .scroll event => eventScroll :: toLeBytes event.dx ++ toLeBytes event.dy

/-- The bytes `ProtocolEvent::encode` writes; the size it returns is their number. -/
def ProtocolEvent.encode (event : ProtocolEvent) : List UInt8 :=
  magic ++ toLeBytes event.sequence ++ toLeBytes event.timestampMicros ++
    encodeInputEvent event.event

end Fields

section Clipboard

def clipboardUsesContentFrame (clipboard : ClipboardText) : Bool :=
  clipboard.format != .plainText || clipboard.html.isSome || clipboard.image.isSome

def htmlBytes (clipboard : ClipboardText) : List UInt8 := asBytes (clipboard.html.getD "")

def imageBytes (clipboard : ClipboardText) : List UInt8 :=
  clipboard.image.elim [] ClipboardImage.rgba

/-- `clipboard_content_lengths`: an image stores its width and height in the two length fields. -/
def clipboardContentLengths (clipboard : ClipboardText) (textBytes htmlBytes : List UInt8) :
    Except EncodeError (UInt32 × UInt32) :=
  match clipboard.format with
  | .image =>
    match clipboard.image with
    | some image => .ok (image.width, image.height)
    | none => .error .lengthOverflow
  | _ =>
    match u32TryFrom textBytes.length, u32TryFrom htmlBytes.length with
    | some textLen, some htmlLen => .ok (textLen, htmlLen)
    | _, _ => .error .lengthOverflow

def encodeClipboardContentVec (clipboard : ClipboardText) : List UInt8 :=
  let textBytes := asBytes clipboard.text
  let htmlBytes := htmlBytes clipboard
  let imageBytes := imageBytes clipboard
  let lengths := ((clipboardContentLengths clipboard textBytes htmlBytes).toOption).getD (0, 0)
  let payloadLen :=
    clipboardContentMetadataLen + textBytes.length + htmlBytes.length + imageBytes.length
  [payloadClipboardContent] ++ toLeBytes ((u32TryFrom payloadLen).getD 0) ++
    (toLeBytes clipboard.sourceId ++ toLeBytes clipboard.version ++
      toLeBytes clipboard.contentHash ++ [encodeClipboardFormat clipboard.format] ++
      toLeBytes lengths.1 ++ toLeBytes lengths.2 ++ textBytes ++ htmlBytes ++ imageBytes)

end Clipboard

section Files

/-- `clipboard_files_payload_len` -/
def clipboardFilesPayloadLen (files : ClipboardFiles) : Except EncodeError Nat :=
  let entriesLen := files.files.foldlM
    (fun total file =>
      (checkedAdd total clipboardFileEntryMetadataLen).bind (checkedAdd · (asBytes file.name).length))
    0
  match entriesLen.bind (checkedAdd clipboardFilesMetadataLen) with
  | some len => .ok len
  | none => .error .lengthOverflow

def encodeFileEntryVec (file : ClipboardFileMetadata) : List UInt8 :=
  let nameBytes := asBytes file.name
  toLeBytes file.byteLen ++ toLeBytes file.contentHash ++
    toLeBytes ((u16TryFrom nameBytes.length).getD 0) ++ nameBytes

def encodeClipboardFilesVec (files : ClipboardFiles) : List UInt8 :=
  let payloadLen := ((clipboardFilesPayloadLen files).toOption).getD 0
  let fileCount := (u16TryFrom files.files.length).getD 0
  [payloadClipboardFiles] ++ toLeBytes ((u32TryFrom payloadLen).getD 0) ++
    (toLeBytes files.sourceId ++ toLeBytes files.version ++ toLeBytes files.contentHash ++
      toLeBytes fileCount ++ files.files.flatMap encodeFileEntryVec)

end Files

/-- The bytes `write_file_chunk_metadata` writes. -/
def writeFileChunkMetadata (chunk : FileTransferChunk) : List UInt8 :=
  toLeBytes chunk.transferId ++ toLeBytes chunk.sourceId ++ toLeBytes chunk.fileIndex ++
    toLeBytes chunk.offset ++ toLeBytes chunk.totalSize ++ toLeBytes chunk.chunkIndex ++
    [chunk.isFinal.toUInt8]

def encodeFileChunkVec (chunk : FileTransferChunk) : List UInt8 :=
  [payloadFileChunk] ++
    toLeBytes ((u32TryFrom (fileChunkMetadataLen + chunk.data.length)).getD 0) ++
    (writeFileChunkMetadata chunk ++ chunk.data)

def controlPayloadLen : ControlMessage → Nat
  | .heartbeat _ _ _ => 41
  | .capabilities _ _ _ => 22
  | .configVersion _ _ => 25
  | .sessionState _ _ _ => 34

/-- The bytes `write_control_payload` writes. -/
def writeControlPayload : ControlMessage → List UInt8
  | .heartbeat sourceDeviceId sessionId sequence =>
    controlHeartbeat :: (toLeBytes sourceDeviceId ++ toLeBytes sessionId ++ toLeBytes sequence)
  | .capabilities sourceDeviceId protocol channels =>
    controlCapabilities :: (toLeBytes sourceDeviceId ++ toLeBytes protocol.min ++
      toLeBytes protocol.max ++ [encodeControlChannelFlags channels])
  | .configVersion sourceDeviceId version =>
    controlConfigVersion :: (toLeBytes sourceDeviceId ++ toLeBytes version)
  | .sessionState sourceDeviceId sessionId state =>
    controlSessionState :: (toLeBytes sourceDeviceId ++ toLeBytes sessionId ++
      [encodeControlSessionState state])

def encodeControlVec (message : ControlMessage) : List UInt8 :=
  [payloadControl] ++ toLeBytes ((u32TryFrom (controlPayloadLen message)).getD 0) ++
    writeControlPayload message

/-- `ProtocolFrame::encode_vec` -/
def ProtocolFrame.encodeVec (frame : ProtocolFrame) : List UInt8 :=
  frameMagic ++ toLeBytes frame.sequence ++ toLeBytes frame.timestampMicros ++
    match frame.payload with
    | .input input =>
      let event := encodeInputEvent input.event
      [payloadInput] ++ toLeBytes ((u32TryFrom (inputMetadataLen + event.length)).getD 0) ++
        (toLeBytes input.sourceDeviceId ++ toLeBytes input.targetDeviceId ++
          toLeBytes input.protocolVersion ++ [encodeInputChannel input.channel] ++ event)
    | .clipboardText clipboard =>
      if clipboardUsesContentFrame clipboard then
        encodeClipboardContentVec clipboard
      else
        let bytes := asBytes clipboard.text
        [payloadClipboardText] ++
          toLeBytes ((u32TryFrom (clipboardMetadataLen + bytes.length)).getD 0) ++
          (toLeBytes clipboard.sourceId ++ toLeBytes clipboard.version ++
            toLeBytes clipboard.contentHash ++ bytes)
    | .clipboardFiles files => encodeClipboardFilesVec files
    | .fileChunk chunk => encodeFileChunkVec chunk
    | .control message => encodeControlVec message

end Kmsync
