import Kmsync.Core.Layout

/-! Every payload that its constructors build decodes to itself, whatever follows it on the wire.
File lists, whose names the decoder sanitises again, are in `FileNames`. -/

namespace Kmsync

open ProofKit

section Fields

@[simp] theorem fromUtf8_asBytes (text : String) : fromUtf8 (asBytes text) = .ok text := by
  have hBytes : (⟨(asBytes text).toArray⟩ : ByteArray) = text.toByteArray := rfl
  rw [fromUtf8, hBytes, String.fromUTF8?, dif_pos text.isValidUTF8]
  rfl

@[simp] theorem decodeInputChannel_encode (channel : InputChannel) :
    decodeInputChannel (encodeInputChannel channel) = .ok channel := by
  cases channel <;> rfl

@[simp] theorem decodeKeyState_encode (state : KeyState) :
    decodeKeyState (encodeKeyState state) = .ok state := by
  cases state <;> rfl

@[simp] theorem decodeMouseButton_encode (button : MouseButton) :
    decodeMouseButton (encodeMouseButton button) = .ok button := by
  cases button <;> rfl

@[simp] theorem decodeControlSessionState_encode (state : ControlSessionState) :
    decodeControlSessionState (encodeControlSessionState state) = .ok state := by
  cases state <;> rfl

@[simp] theorem decodeIsFinal_toUInt8 (isFinal : Bool) :
    decodeIsFinal isFinal.toUInt8 = .ok isFinal := by
  cases isFinal <;> rfl

@[simp] theorem decodeClipboardFormat_encode (format : ClipboardFormat) :
    decodeClipboardFormat (encodeClipboardFormat format) = .ok format := by
  cases format <;> rfl

@[simp] theorem decodeControlChannelFlags_encode (flags : ControlChannelFlags) :
    decodeControlChannelFlags (encodeControlChannelFlags flags) = flags := by
  obtain ⟨a, b, c, d⟩ := flags
  cases a <;> cases b <;> cases c <;> cases d <;> decide

end Fields

section InputPayload

theorem readCoordinates_encode (kind : UInt8) (x y : F32) :
    readCoordinates (kind :: (toLeBytes x ++ toLeBytes y)) = .ok (x, y) := by
  simp [readCoordinates, readLe]

@[simp] theorem decodeInputEvent_encode (event : InputEvent F32) :
    decodeInputEvent (encodeInputEvent event) = .ok event := by
  cases event with
  | key event =>
    simp [encodeInputEvent, decodeInputEvent, readLe, readByte, eventKey]
  | mouse event =>
    cases event with
    | move dx dy =>
      simp [encodeInputEvent, decodeInputEvent, eventMouseMove, eventKey, readCoordinates_encode]
    | position xRatio yRatio =>
      simp [encodeInputEvent, decodeInputEvent, eventMousePosition, eventMouseMove, eventKey,
        readCoordinates_encode]
    | button button state =>
      simp [encodeInputEvent, decodeInputEvent, eventMousePosition, eventMouseMove,
        eventMouseButton, eventKey, readByte]
  | scroll event =>
    simp [encodeInputEvent, decodeInputEvent, eventMousePosition, eventMouseMove,
      eventMouseButton, eventScroll, eventKey, readCoordinates_encode]

theorem encodeInputEvent_length_pos (event : InputEvent F32) :
    1 ≤ (encodeInputEvent event).length := by
  cases event with
  | mouse event => cases event <;> simp [encodeInputEvent]
  | _ => simp [encodeInputEvent]

theorem decodeInput_body (envelope : InputEventEnvelope) :
    decodeInput (ProtocolPayload.input envelope).body = .ok envelope := by
  have hLen := body_length_input envelope
  have hPos := encodeInputEvent_length_pos envelope.event
  rw [decodeInput, if_neg (by omega)]
  simp [ProtocolPayload.body, readLe, readByte, readFrom, inputMetadataLen]

end InputPayload

theorem decodeFileChunk_body (chunk : FileTransferChunk) :
    decodeFileChunk (ProtocolPayload.fileChunk chunk).body = .ok chunk := by
  rw [decodeFileChunk, if_neg (by rw [body_length_chunk]; omega)]
  simp [ProtocolPayload.body, writeFileChunkMetadata, readLe, readByte, readFrom,
    fileChunkMetadataLen]

theorem decodeControlMessage_body (message : ControlMessage) :
    decodeControlMessage (ProtocolPayload.control message).body = .ok message := by
  cases message with
  | heartbeat sourceDeviceId sessionId sequence =>
    simp [ProtocolPayload.body, writeControlPayload, decodeControlMessage, controlHeartbeat, readLe]
  | capabilities sourceDeviceId protocol channels =>
    simp [ProtocolPayload.body, writeControlPayload, decodeControlMessage, controlHeartbeat,
      controlCapabilities, readLe, readByte]
  | configVersion sourceDeviceId version =>
    simp [ProtocolPayload.body, writeControlPayload, decodeControlMessage, controlHeartbeat,
      controlCapabilities, controlConfigVersion, readLe]
  | sessionState sourceDeviceId sessionId state =>
    simp [ProtocolPayload.body, writeControlPayload, decodeControlMessage, controlHeartbeat,
      controlCapabilities, controlConfigVersion, controlSessionState, readLe, readByte]

section ClipboardPayload

variable {clipboard : ClipboardText}

/-- A text without a content header is read as plain text, and its hash is computed anew. -/
theorem decodeClipboardText_body (h : ¬ clipboardUsesContentFrame clipboard) :
    decodeClipboardText (ProtocolPayload.clipboardText clipboard).body =
      .ok (.new clipboard.sourceId clipboard.version clipboard.text) := by
  rw [decodeClipboardText, if_neg (by rw [body_length_text h]; omega)]
  simp [ProtocolPayload.body, h, readLe, readFrom, clipboardMetadataLen]

theorem clipboardContentLengths_eq (hFormat : clipboard.format ≠ .image)
    {textBytes htmlBytes : List UInt8} (hText : textBytes.length < 2 ^ 32)
    (hHtml : htmlBytes.length < 2 ^ 32) :
    clipboardContentLengths clipboard textBytes htmlBytes =
      .ok (UInt32.ofNat textBytes.length, UInt32.ofNat htmlBytes.length) := by
  unfold clipboardContentLengths
  split
  next h => exact absurd h hFormat
  next => rw [u32TryFrom_of_lt hText, u32TryFrom_of_lt hHtml]

/-- The fields that `decode_clipboard_content` finds in front of the text. -/
structure ContentHeader (clipboard : ClipboardText) (bytes : List UInt8) (first second : UInt32) :
    Prop where
  source : leAt? DeviceId bytes 0 16 = some clipboard.sourceId
  version : leAt? UInt64 bytes 16 24 = some clipboard.version
  format : bytes[32]? = some (encodeClipboardFormat clipboard.format)
  first : leAt? UInt32 bytes 33 37 = some first
  second : leAt? UInt32 bytes 37 41 = some second
  text : slice? bytes 41 (41 + (asBytes clipboard.text).length) = some (asBytes clipboard.text)
  html : slice? bytes (41 + (asBytes clipboard.text).length)
    (41 + (asBytes clipboard.text).length + (htmlBytes clipboard).length) =
      some (htmlBytes clipboard)
  rest : sliceFrom? bytes 41 =
    some (asBytes clipboard.text ++ htmlBytes clipboard ++ imageBytes clipboard)

theorem contentHeader_body (hContent : clipboardUsesContentFrame clipboard) {first second : UInt32}
    (hLengths : ((clipboardContentLengths clipboard (asBytes clipboard.text)
      (htmlBytes clipboard)).toOption).getD (0, 0) = (first, second)) :
    ContentHeader clipboard (ProtocolPayload.clipboardText clipboard).body first second := by
  simp only [ProtocolPayload.body, if_pos hContent, hLengths]
  constructor
  case html => exact slice?_mid _ _ _ (by simp; omega) rfl
  all_goals simp

/-- A text that is not an image comes back as its parts, an empty html part as none. -/
theorem decodeClipboardContent_body (hContent : clipboardUsesContentFrame clipboard)
    (hFormat : clipboard.format ≠ .image)
    (hLen : (ProtocolPayload.clipboardText clipboard).body.length < 2 ^ 32) :
    decodeClipboardContent (ProtocolPayload.clipboardText clipboard).body =
      .ok (clipboardFromParts clipboard.sourceId clipboard.version clipboard.format clipboard.text
        (if (htmlBytes clipboard).length = 0 then none else some (clipboard.html.getD ""))) := by
  have hBody := body_length_content hContent
  have hText : (UInt32.ofNat (asBytes clipboard.text).length).toNat =
      (asBytes clipboard.text).length := UInt32.toNat_ofNat_of_lt' (by simp [UInt32.size]; omega)
  have hHtml : (UInt32.ofNat (htmlBytes clipboard).length).toNat = (htmlBytes clipboard).length :=
    UInt32.toNat_ofNat_of_lt' (by simp [UInt32.size]; omega)
  have hHeader : ContentHeader clipboard (ProtocolPayload.clipboardText clipboard).body
      (UInt32.ofNat (asBytes clipboard.text).length)
      (UInt32.ofNat (htmlBytes clipboard).length) :=
    contentHeader_body hContent
      (by rw [clipboardContentLengths_eq hFormat (by omega) (by omega)]; rfl)
  have hRequired : (checkedAdd clipboardContentMetadataLen (asBytes clipboard.text).length).bind
      (checkedAdd · (htmlBytes clipboard).length) = some (clipboardContentMetadataLen +
        ((asBytes clipboard.text).length + (htmlBytes clipboard).length)) := by
    rw [checkedAdd_bind, checkedAdd, if_pos (by omega)]
  rw [decodeClipboardContent, if_neg (by omega)]
  simp only [readLe, readByte, readFrom, readSlice, hHeader.source, hHeader.version, hHeader.format,
    hHeader.first, hHeader.second, orPanic_some, ok_bind, decodeClipboardFormat_encode, hText,
    hHtml, hRequired, if_neg hFormat]
  rw [if_neg (by omega), addUsize_of_lt (by omega), ok_bind, addUsize_of_lt (by omega),
    clipboardContentMetadataLen]
  simp only [hHeader.text, hHeader.html, orPanic_some, ok_bind, fromUtf8_asBytes]
  split
  next => rfl
  next => simp [htmlBytes]

/-- An image is everything behind the header, if that has as many bytes as the two length fields
announce together. -/
theorem decodeClipboardContent_image (hContent : clipboardUsesContentFrame clipboard)
    (hFormat : clipboard.format = .image) {first second : UInt32}
    (hLengths : ((clipboardContentLengths clipboard (asBytes clipboard.text)
      (htmlBytes clipboard)).toOption).getD (0, 0) = (first, second)) :
    decodeClipboardContent (ProtocolPayload.clipboardText clipboard).body =
      if (ProtocolPayload.clipboardText clipboard).body.length <
        clipboardContentMetadataLen + (first.toNat + second.toNat) then fail .tooShort
      else .ok (.newImage clipboard.sourceId clipboard.version first second
        (asBytes clipboard.text ++ htmlBytes clipboard ++ imageBytes clipboard)) := by
  have hBody := body_length_content hContent
  have hHeader := contentHeader_body hContent hLengths
  have hFirst := first.toNat_lt
  have hSecond := second.toNat_lt
  have hMeta : clipboardContentMetadataLen = 41 := rfl
  rw [decodeClipboardContent, if_neg (by omega)]
  simp only [readLe, readByte, readFrom, hHeader.source, hHeader.version, hHeader.format,
    hHeader.first, hHeader.second, orPanic_some, ok_bind, decodeClipboardFormat_encode,
    checkedAdd_bind]
  rw [checkedAdd, if_pos (by omega)]
  simp only [if_pos hFormat, hMeta, hHeader.rest, orPanic_some, ok_bind]
  rfl

end ClipboardPayload

/-- The payloads that input events, control messages, file chunks and the text constructors give. -/
inductive Built : ProtocolPayload → Prop where
  | input (envelope : InputEventEnvelope) : Built (.input envelope)
  | control (message : ControlMessage) : Built (.control message)
  | fileChunk (chunk : FileTransferChunk) : Built (.fileChunk chunk)
  | text (sourceId : DeviceId) (version : UInt64) (text : String) :
      Built (.clipboardText (.new sourceId version text))
  | url (sourceId : DeviceId) (version : UInt64) (text : String) :
      Built (.clipboardText (.url sourceId version text))
  | html (sourceId : DeviceId) (version : UInt64) (html text : String) :
      Built (.clipboardText (.newHtml sourceId version html text))

theorem asBytes_length_eq_zero {text : String} (h : (asBytes text).length = 0) : text = "" := by
  rw [← String.toByteArray_inj]
  apply ByteArray.ext
  exact Array.toList_inj.mp (List.eq_nil_of_length_eq_zero h)

section Dispatch

variable (bytes : List UInt8)

theorem decodePayload_input :
    decodePayload payloadInput bytes = .input <$> decodeInput bytes := rfl

theorem decodePayload_clipboardText :
    decodePayload payloadClipboardText bytes = .clipboardText <$> decodeClipboardText bytes := rfl

theorem decodePayload_clipboardContent :
    decodePayload payloadClipboardContent bytes =
      .clipboardText <$> decodeClipboardContent bytes := rfl

theorem decodePayload_clipboardFiles :
    decodePayload payloadClipboardFiles bytes =
      .clipboardFiles <$> decodeClipboardFiles bytes := rfl

theorem decodePayload_fileChunk :
    decodePayload payloadFileChunk bytes = .fileChunk <$> decodeFileChunk bytes := rfl

theorem decodePayload_control :
    decodePayload payloadControl bytes = .control <$> decodeControlMessage bytes := rfl

end Dispatch

theorem decodePayload_body {payload : ProtocolPayload} (h : Built payload)
    (hLen : payload.body.length < 2 ^ 32) :
    decodePayload payload.tag payload.body = .ok payload := by
  cases h with
  | input envelope =>
    rw [ProtocolPayload.tag, decodePayload_input, decodeInput_body]
    rfl
  | control message =>
    rw [ProtocolPayload.tag, decodePayload_control, decodeControlMessage_body]
    rfl
  | fileChunk chunk =>
    rw [ProtocolPayload.tag, decodePayload_fileChunk, decodeFileChunk_body]
    rfl
  | text sourceId version text =>
    have hPlain : ¬ clipboardUsesContentFrame (.new sourceId version text) := Bool.false_ne_true
    rw [ProtocolPayload.tag, if_neg hPlain, decodePayload_clipboardText,
      decodeClipboardText_body hPlain]
    rfl
  | url sourceId version text =>
    have hContent : clipboardUsesContentFrame (.url sourceId version text) := rfl
    rw [ProtocolPayload.tag, if_pos hContent, decodePayload_clipboardContent,
      decodeClipboardContent_body hContent ClipboardFormat.noConfusion hLen]
    rfl
  | html sourceId version html text =>
    have hContent : clipboardUsesContentFrame (.newHtml sourceId version html text) := rfl
    rw [ProtocolPayload.tag, if_pos hContent, decodePayload_clipboardContent,
      decodeClipboardContent_body hContent ClipboardFormat.noConfusion hLen]
    -- An empty html part is read as none, which `newHtml` fills in again.
    by_cases hHtml : (htmlBytes (.newHtml sourceId version html text)).length = 0
    · obtain rfl : html = "" := asBytes_length_eq_zero hHtml
      rw [if_pos hHtml]
      rfl
    · rw [if_neg hHtml]
      rfl

/-- A frame comes back from its bytes, whatever follows them. -/
theorem decode_encodeVec_append (frame : ProtocolFrame) (rest : List UInt8)
    (hBuilt : Built frame.payload) (hLen : frame.payload.body.length < 2 ^ 32) :
    ProtocolFrame.decode (frame.encodeVec ++ rest) = .ok frame := by
  rw [decode_encodeVec frame rest hLen, decodePayload_body hBuilt hLen]
  rfl

/-- An html text with an empty html part, and a byte behind the frame. -/
theorem decode_encodeVec_append_html :
    ProtocolFrame.decode
        ((⟨7, 9, .clipboardText (.newHtml 1 2 "" "hi")⟩ : ProtocolFrame).encodeVec ++ [255]) =
      .ok ⟨7, 9, .clipboardText (.newHtml 1 2 "" "hi")⟩ :=
  decode_encodeVec_append _ [255] (.html 1 2 "" "hi") (by decide)

end Kmsync
