import Kmsync.Core.Encode
import Kmsync.ProofKit.BufferWriter

/-! The buffer encoder.  A length that does not fit its field is reported here, where the vector
encoder writes a zero. -/

namespace Kmsync

open ProofKit BufferM

/-- `clipboard_payload_len` -/
def clipboardPayloadLen (clipboard : ClipboardText) : Option Nat :=
  (checkedAdd clipboardContentMetadataLen (asBytes clipboard.text).length).bind fun size =>
    (checkedAdd size (htmlBytes clipboard).length).bind fun size =>
      checkedAdd size (imageBytes clipboard).length

def encodeClipboardContentInto (clipboard : ClipboardText) : BufferM EncodeError Nat := do
  let payloadLen ← orThrow .lengthOverflow (clipboardPayloadLen clipboard)
  let required ← orThrow .lengthOverflow (checkedAdd 25 payloadLen)
  let len ← size
  if len < required then report .bufferTooSmall
  else do
    let payloadLen ← orThrow .lengthOverflow (u32TryFrom payloadLen)
    let textBytes := asBytes clipboard.text
    let htmlBytes := htmlBytes clipboard
    let imageBytes := imageBytes clipboard
    let lengths ← orThrow .lengthOverflow
      (clipboardContentLengths clipboard textBytes htmlBytes).toOption
    write 20 [payloadClipboardContent]
    write 21 (toLeBytes payloadLen)
    write 25 (toLeBytes clipboard.sourceId)
    write 41 (toLeBytes clipboard.version)
    write 49 (toLeBytes clipboard.contentHash)
    write 57 [encodeClipboardFormat clipboard.format]
    write 58 (toLeBytes lengths.1)
    write 62 (toLeBytes lengths.2)
    write 66 textBytes
    write (66 + textBytes.length) htmlBytes
    write (66 + textBytes.length + htmlBytes.length) imageBytes
    return required

/-- The loop of `encode_clipboard_files_into` over the files that are left, from `cursor` on. -/
def encodeFileEntriesInto : List ClipboardFileMetadata → Nat → BufferM EncodeError Unit
  | [], _ => pure ()
  | file :: files, cursor => do
    let nameBytes := asBytes file.name
    let nameLen ← orThrow .lengthOverflow (u16TryFrom nameBytes.length)
    write cursor (toLeBytes file.byteLen)
    write (cursor + 8) (toLeBytes file.contentHash)
    write (cursor + 16) (toLeBytes nameLen)
    write (cursor + 18) nameBytes
    encodeFileEntriesInto files (cursor + 18 + nameBytes.length)

def encodeClipboardFilesInto (files : ClipboardFiles) : BufferM EncodeError Nat := do
  let payloadLen ← orThrow .lengthOverflow (clipboardFilesPayloadLen files).toOption
  let required ← orThrow .lengthOverflow (checkedAdd 25 payloadLen)
  let len ← size
  if len < required then report .bufferTooSmall
  else do
    let payloadLen ← orThrow .lengthOverflow (u32TryFrom payloadLen)
    let fileCount ← orThrow .lengthOverflow (u16TryFrom files.files.length)
    write 20 [payloadClipboardFiles]
    write 21 (toLeBytes payloadLen)
    write 25 (toLeBytes files.sourceId)
    write 41 (toLeBytes files.version)
    write 49 (toLeBytes files.contentHash)
    write 57 (toLeBytes fileCount)
    encodeFileEntriesInto files.files 59
    return required

def encodeFileChunkInto (chunk : FileTransferChunk) : BufferM EncodeError Nat := do
  let payloadLen ← orThrow .lengthOverflow (checkedAdd fileChunkMetadataLen chunk.data.length)
  let required ← orThrow .lengthOverflow (checkedAdd 25 payloadLen)
  let len ← size
  if len < required then report .bufferTooSmall
  else do
    let payloadLen ← orThrow .lengthOverflow (u32TryFrom payloadLen)
    write 20 [payloadFileChunk]
    write 21 (toLeBytes payloadLen)
    write 25 (writeFileChunkMetadata chunk)
    write 82 chunk.data
    return required

def encodeControlInto (message : ControlMessage) : BufferM EncodeError Nat := do
  let payloadLen := controlPayloadLen message
  let required ← orThrow .lengthOverflow (checkedAdd 25 payloadLen)
  let len ← size
  if len < required then report .bufferTooSmall
  else do
    let payloadLen ← orThrow .lengthOverflow (u32TryFrom payloadLen)
    write 20 [payloadControl]
    write 21 (toLeBytes payloadLen)
    write 25 (writeControlPayload message)
    return required

/-- The match of `encode_into` over the payload, behind the part of the header that all share. -/
def encodePayloadInto : ProtocolPayload → BufferM EncodeError Nat
  | .input input => do
    let event := encodeInputEvent input.event
    let payloadLen ← orThrow .lengthOverflow (u32TryFrom (inputMetadataLen + event.length))
    let required := 25 + inputMetadataLen + event.length
    let len ← size
    if len < required then report .bufferTooSmall
    else do
      write 20 [payloadInput]
      write 21 (toLeBytes payloadLen)
      write 25 (toLeBytes input.sourceDeviceId)
      write 41 (toLeBytes input.targetDeviceId)
      write 57 (toLeBytes input.protocolVersion)
      write 59 [encodeInputChannel input.channel]
      write 60 event
      return required
  | .clipboardText clipboard =>
    if clipboardUsesContentFrame clipboard then
      encodeClipboardContentInto clipboard
    else do
      let bytes := asBytes clipboard.text
      let payloadLen ← orThrow .lengthOverflow (u32TryFrom (clipboardMetadataLen + bytes.length))
      let required := 25 + clipboardMetadataLen + bytes.length
      let len ← size
      if len < required then report .bufferTooSmall
      else do
        write 20 [payloadClipboardText]
        write 21 (toLeBytes payloadLen)
        write 25 (toLeBytes clipboard.sourceId)
        write 41 (toLeBytes clipboard.version)
        write 49 (toLeBytes clipboard.contentHash)
        write 57 bytes
        return required
  | .clipboardFiles files => encodeClipboardFilesInto files
  | .fileChunk chunk => encodeFileChunkInto chunk
  | .control message => encodeControlInto message

/-- `ProtocolFrame::encode_into` -/
def ProtocolFrame.encodeInto (frame : ProtocolFrame) : BufferM EncodeError Nat := do
  let len ← size
  if len < 25 then report .bufferTooSmall
  else do
    write 0 frameMagic
    write 4 (toLeBytes frame.sequence)
    write 12 (toLeBytes frame.timestampMicros)
    encodePayloadInto frame.payload

end Kmsync
