import Kmsync.Core.Decode

/-! The layout that all payloads share: a header of 25 bytes with a tag and a length field, then the
body.  The decoder takes from a frame the header and the first bytes of the body, as many as the
length field says. -/

namespace Kmsync

open ProofKit

namespace ProtocolPayload

def tag : ProtocolPayload → UInt8
  | input _ => payloadInput
  | clipboardText clipboard =>
    if clipboardUsesContentFrame clipboard then payloadClipboardContent else payloadClipboardText
  | clipboardFiles _ => payloadClipboardFiles
  | fileChunk _ => payloadFileChunk
  | control _ => payloadControl

/-- The bytes behind the header. -/
def body : ProtocolPayload → List UInt8
  | input envelope =>
    toLeBytes envelope.sourceDeviceId ++ toLeBytes envelope.targetDeviceId ++
      toLeBytes envelope.protocolVersion ++ [encodeInputChannel envelope.channel] ++
      encodeInputEvent envelope.event
  | clipboardText clipboard =>
    if clipboardUsesContentFrame clipboard then
      let lengths := ((clipboardContentLengths clipboard (asBytes clipboard.text)
        (htmlBytes clipboard)).toOption).getD (0, 0)
      toLeBytes clipboard.sourceId ++ toLeBytes clipboard.version ++
        toLeBytes clipboard.contentHash ++ [encodeClipboardFormat clipboard.format] ++
        toLeBytes lengths.1 ++ toLeBytes lengths.2 ++ asBytes clipboard.text ++
        htmlBytes clipboard ++ imageBytes clipboard
    else
      toLeBytes clipboard.sourceId ++ toLeBytes clipboard.version ++
        toLeBytes clipboard.contentHash ++ asBytes clipboard.text
  | clipboardFiles files =>
    toLeBytes files.sourceId ++ toLeBytes files.version ++ toLeBytes files.contentHash ++
      toLeBytes ((u16TryFrom files.files.length).getD 0) ++ files.files.flatMap encodeFileEntryVec
  | fileChunk chunk => writeFileChunkMetadata chunk ++ chunk.data
  | control message => writeControlPayload message

end ProtocolPayload

/-- The length field of a body: zero when the length does not fit. -/
def lengthField (body : List UInt8) : UInt32 := (u32TryFrom body.length).getD 0

theorem u32TryFrom_of_lt {n : Nat} (h : n < 2 ^ 32) : u32TryFrom n = some (UInt32.ofNat n) :=
  if_pos h

theorem u16TryFrom_of_lt {n : Nat} (h : n < 2 ^ 16) : u16TryFrom n = some (UInt16.ofNat n) :=
  if_pos h

theorem u16TryFrom_of_not_lt {n : Nat} (h : ¬ n < 2 ^ 16) : u16TryFrom n = none := if_neg h

theorem lengthField_of_lt {body : List UInt8} (h : body.length < 2 ^ 32) :
    (lengthField body).toNat = body.length := by
  rw [lengthField, u32TryFrom_of_lt h]
  exact UInt32.toNat_ofNat_of_lt h

theorem lengthField_of_le {body : List UInt8} (h : 2 ^ 32 ≤ body.length) :
    lengthField body = 0 := by
  rw [lengthField, u32TryFrom, if_neg (by omega)]
  rfl

@[simp] theorem writeControlPayload_length (message : ControlMessage) :
    (writeControlPayload message).length = controlPayloadLen message := by
  cases message <;> simp [writeControlPayload, controlPayloadLen]

@[simp] theorem writeFileChunkMetadata_length (chunk : FileTransferChunk) :
    (writeFileChunkMetadata chunk).length = fileChunkMetadataLen := by
  simp [writeFileChunkMetadata, fileChunkMetadataLen]

section FilesLength

@[simp] theorem encodeFileEntryVec_length (file : ClipboardFileMetadata) :
    (encodeFileEntryVec file).length =
      clipboardFileEntryMetadataLen + (asBytes file.name).length := by
  simp only [encodeFileEntryVec, List.length_append, toLeBytes_length, width_u64, width_u16,
    clipboardFileEntryMetadataLen]

theorem checkedAdd_bind (a b c : Nat) :
    (checkedAdd a b).bind (checkedAdd · c) = checkedAdd a (b + c) := by
  by_cases h : a + b < 2 ^ 64
  · simp only [checkedAdd, if_pos h, Option.bind_some, Nat.add_assoc]
  · simp only [checkedAdd, if_neg h, Option.bind_none]
    rw [if_neg (by omega)]

theorem zero_checkedAdd_bind (a b : Nat) :
    (checkedAdd 0 b).bind (checkedAdd a) = checkedAdd a b := by
  by_cases h : 0 + b < 2 ^ 64
  · rw [checkedAdd, if_pos h, Option.bind_some, Nat.zero_add]
  · rw [checkedAdd, if_neg h, Option.bind_none, checkedAdd, if_neg (by omega)]

/-- The size that the files encoder computes is that of the entries it writes. -/
theorem entriesLen_eq (files : List ClipboardFileMetadata) {total : Nat} (hTotal : total < 2 ^ 64) :
    files.foldlM
      (fun total file =>
        (checkedAdd total clipboardFileEntryMetadataLen).bind
          (checkedAdd · (asBytes file.name).length))
      total =
    checkedAdd total (files.flatMap encodeFileEntryVec).length := by
  induction files generalizing total with
  | nil => exact (if_pos hTotal).symm
  | cons file files ih =>
    rw [List.foldlM_cons, checkedAdd_bind, List.flatMap_cons, List.length_append,
      encodeFileEntryVec_length]
    by_cases h : total + (clipboardFileEntryMetadataLen + (asBytes file.name).length) < 2 ^ 64
    · rw [checkedAdd, if_pos h, Option.bind_eq_bind, Option.bind_some, ih h, checkedAdd, checkedAdd,
        Nat.add_assoc]
    · rw [checkedAdd, if_neg h, checkedAdd, if_neg (by omega)]
      rfl

theorem clipboardFilesPayloadLen_eq (files : ClipboardFiles) :
    clipboardFilesPayloadLen files =
      if (ProtocolPayload.clipboardFiles files).body.length < 2 ^ 64 then
        .ok (ProtocolPayload.clipboardFiles files).body.length
      else .error .lengthOverflow := by
  have hBody : (ProtocolPayload.clipboardFiles files).body.length =
      clipboardFilesMetadataLen + (files.files.flatMap encodeFileEntryVec).length := by
    simp only [ProtocolPayload.body, List.length_append, toLeBytes_length, width_u128, width_u64,
      width_u16, clipboardFilesMetadataLen]
  rw [clipboardFilesPayloadLen, entriesLen_eq files.files (by decide), zero_checkedAdd_bind, hBody,
    checkedAdd]
  by_cases h : clipboardFilesMetadataLen + (files.files.flatMap encodeFileEntryVec).length < 2 ^ 64
  · rw [if_pos h, if_pos h]
  · rw [if_neg h, if_neg h]

theorem clipboardFiles_lengthField (files : ClipboardFiles) :
    (u32TryFrom (((clipboardFilesPayloadLen files).toOption).getD 0)).getD 0 =
      lengthField (ProtocolPayload.clipboardFiles files).body := by
  rw [clipboardFilesPayloadLen_eq]
  by_cases h : (ProtocolPayload.clipboardFiles files).body.length < 2 ^ 64
  · rw [if_pos h]
    rfl
  · rw [if_neg h, lengthField_of_le (by omega)]
    rfl

end FilesLength

theorem body_length_input (envelope : InputEventEnvelope) :
    (ProtocolPayload.input envelope).body.length =
      inputMetadataLen + (encodeInputEvent envelope.event).length := by
  simp only [ProtocolPayload.body, List.length_append, toLeBytes_length, width_u128, width_u16,
    List.length_singleton, inputMetadataLen]

theorem body_length_text {clipboard : ClipboardText} (h : ¬ clipboardUsesContentFrame clipboard) :
    (ProtocolPayload.clipboardText clipboard).body.length =
      clipboardMetadataLen + (asBytes clipboard.text).length := by
  simp only [ProtocolPayload.body, if_neg h, List.length_append, toLeBytes_length, width_u128,
    width_u64, clipboardMetadataLen]

theorem body_length_content {clipboard : ClipboardText} (h : clipboardUsesContentFrame clipboard) :
    (ProtocolPayload.clipboardText clipboard).body.length =
      clipboardContentMetadataLen + (asBytes clipboard.text).length +
        (htmlBytes clipboard).length + (imageBytes clipboard).length := by
  simp only [ProtocolPayload.body, if_pos h, List.length_append, toLeBytes_length, width_u128,
    width_u64, width_u32, List.length_singleton, clipboardContentMetadataLen]

theorem body_length_chunk (chunk : FileTransferChunk) :
    (ProtocolPayload.fileChunk chunk).body.length = fileChunkMetadataLen + chunk.data.length := by
  rw [ProtocolPayload.body, List.length_append, writeFileChunkMetadata_length]

/-- What the vector encoder writes, for every kind of payload. -/
theorem encodeVec_layout (frame : ProtocolFrame) :
    frame.encodeVec =
      frameMagic ++ toLeBytes frame.sequence ++ toLeBytes frame.timestampMicros ++
        ([frame.payload.tag] ++ toLeBytes (lengthField frame.payload.body) ++
          frame.payload.body) := by
  obtain ⟨sequence, timestampMicros, payload⟩ := frame
  refine congrArg (frameMagic ++ toLeBytes sequence ++ toLeBytes timestampMicros ++ ·) ?_
  cases payload with
  | input envelope =>
    simp only [lengthField, body_length_input]
    rfl
  | clipboardText clipboard =>
    by_cases h : clipboardUsesContentFrame clipboard
    · simp only [lengthField, body_length_content h]
      simp only [ProtocolPayload.tag, ProtocolPayload.body, if_pos h, encodeClipboardContentVec]
    · simp only [lengthField, body_length_text h]
      simp only [ProtocolPayload.tag, ProtocolPayload.body, if_neg h]
  | clipboardFiles files =>
    simp only [encodeClipboardFilesVec, clipboardFiles_lengthField]
    rfl
  | fileChunk chunk =>
    simp only [lengthField, body_length_chunk]
    rfl
  | control message =>
    simp only [lengthField, ProtocolPayload.body, writeControlPayload_length]
    rfl

@[simp] theorem frameMagic_length : frameMagic.length = 4 := by simp [frameMagic]

theorem encodeVec_length (frame : ProtocolFrame) :
    frame.encodeVec.length = 25 + frame.payload.body.length := by
  rw [encodeVec_layout]
  simp only [List.length_append, frameMagic_length, toLeBytes_length, width_u64, width_u32,
    List.length_singleton]
  omega

section Decoding

variable (sequence timestampMicros : UInt64) (tag : UInt8) (len : UInt32)

/-- The decoder reads a payload of exactly the length in the header. -/
theorem decode_layout (body rest : List UInt8) (h : body.length = len.toNat) :
    ProtocolFrame.decode (frameMagic ++ toLeBytes sequence ++ toLeBytes timestampMicros ++
      ([tag] ++ toLeBytes len ++ body) ++ rest) =
    (do
      let payload ← decodePayload tag body
      return ⟨sequence, timestampMicros, payload⟩) := by
  have hLen : ¬ 4 + (8 + (8 + (4 + (len.toNat + rest.length) + 1))) < 25 + len.toNat := by omega
  have hAdd := addUsize_of_lt (a := 25) (b := len.toNat) (by have := len.toNat_lt; omega)
  rw [ProtocolFrame.decode, if_neg (by simp; omega)]
  simp only [readSlice, readLe, readByte]
  simp [h, hLen, hAdd]

end Decoding

/-- A frame whose length fits its field comes back as its payload does, whatever follows it. -/
theorem decode_encodeVec (frame : ProtocolFrame) (rest : List UInt8)
    (h : frame.payload.body.length < 2 ^ 32) :
    ProtocolFrame.decode (frame.encodeVec ++ rest) =
      (do
        let payload ← decodePayload frame.payload.tag frame.payload.body
        return ⟨frame.sequence, frame.timestampMicros, payload⟩) := by
  rw [encodeVec_layout]
  exact decode_layout _ _ _ _ _ _ (lengthField_of_lt h).symm

/-- A frame whose length does not fit is read as one with an empty payload. -/
theorem decode_encodeVec_of_overflow (frame : ProtocolFrame)
    (h : 2 ^ 32 ≤ frame.payload.body.length) :
    ProtocolFrame.decode frame.encodeVec =
      (do
        let payload ← decodePayload frame.payload.tag []
        return ⟨frame.sequence, frame.timestampMicros, payload⟩) := by
  rw [encodeVec_layout, lengthField_of_le h, ← List.append_assoc]
  have hDecode := decode_layout frame.sequence frame.timestampMicros frame.payload.tag 0 []
    frame.payload.body rfl
  rwa [List.append_nil] at hDecode

end Kmsync
