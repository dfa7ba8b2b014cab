import Kmsync.Core.EncodeInto
import Kmsync.Core.FileList

/-! The two encoders side by side.  When every length fits its field the buffer encoder writes the
bytes of the vector encoder; otherwise it refuses, and what the vector encoder gives is another
frame, unless the decoder happens to reject it. -/

namespace Kmsync

open ProofKit BufferM

/-- Every length of the payload fits the field that it is written to. -/
def LengthsFit (payload : ProtocolPayload) : Prop :=
  payload.body.length < 2 ^ 32 ∧
    match payload with
    | .clipboardText clipboard => clipboard.format = .image → clipboard.image.isSome
    | .clipboardFiles files =>
      files.files.length < 2 ^ 16 ∧ ∀ file ∈ files.files, NameFits file
    | _ => True

section Fills

variable {n : Nat} {head : List UInt8}

theorem checkedAdd_of_lt {a b : Nat} (h : a + b < 2 ^ 64) : checkedAdd a b = some (a + b) := if_pos h

theorem lt_of_u16TryFrom {k : Nat} {len : UInt16} (h : u16TryFrom k = some len) : k < 2 ^ 16 := by
  unfold u16TryFrom at h
  split at h
  next hk => exact hk
  next => cases h

theorem lt_of_u32TryFrom {k : Nat} {len : UInt32} (h : u32TryFrom k = some len) : k < 2 ^ 32 := by
  unfold u32TryFrom at h
  split at h
  next hk => exact hk
  next => cases h

theorem eq_of_checkedAdd {a b sum : Nat} (h : checkedAdd a b = some sum) : sum = a + b := by
  unfold checkedAdd at h
  split at h <;> cases h
  rfl

/-- The part of a frame behind the first 20 bytes, for a body whose length fits. -/
def framed (tag : UInt8) (body : List UInt8) : List UInt8 :=
  [tag] ++ toLeBytes (UInt32.ofNat body.length) ++ body

theorem encodeControlInto_fills (message : ControlMessage) (hHead : head.length = 20)
    (hSize : 25 + (ProtocolPayload.control message).body.length ≤ n) :
    Fills n (encodeControlInto message) head
      (head ++ framed payloadControl (ProtocolPayload.control message).body)
      (25 + (ProtocolPayload.control message).body.length) := by
  simp only [framed, ProtocolPayload.body, writeControlPayload_length, ← List.append_assoc] at hSize ⊢
  have hLen : controlPayloadLen message < 2 ^ 32 := by
    cases message <;> simp [controlPayloadLen]
  refine .orThrow_bind (checkedAdd_of_lt (by omega)) (.size_bind (.check (by omega) ?_))
  refine .orThrow_bind (u32TryFrom_of_lt hLen) ?_
  iterate 3 refine .write_bind (by simp [hHead]) (by simp [hHead]; omega) ?_
  exact .pure

theorem encodeFileChunkInto_fills (chunk : FileTransferChunk) (hHead : head.length = 20)
    (hLen : (ProtocolPayload.fileChunk chunk).body.length < 2 ^ 32)
    (hSize : 25 + (ProtocolPayload.fileChunk chunk).body.length ≤ n) :
    Fills n (encodeFileChunkInto chunk) head
      (head ++ framed payloadFileChunk (ProtocolPayload.fileChunk chunk).body)
      (25 + (ProtocolPayload.fileChunk chunk).body.length) := by
  rw [framed]
  rw [body_length_chunk] at hLen hSize ⊢
  simp only [ProtocolPayload.body, ← List.append_assoc]
  refine .orThrow_bind (checkedAdd_of_lt (by omega)) (.orThrow_bind (checkedAdd_of_lt (by omega)) ?_)
  refine .size_bind (.check (by omega) (.orThrow_bind (u32TryFrom_of_lt hLen) ?_))
  iterate 3 refine .write_bind (by simp [hHead]) (by simp [hHead]; omega) ?_
  refine .write_bind (by simp [hHead, fileChunkMetadataLen]) (by simp [hHead]; omega) ?_
  exact .pure

theorem encodeInput_fills (envelope : InputEventEnvelope) (hHead : head.length = 20)
    (hLen : (ProtocolPayload.input envelope).body.length < 2 ^ 32)
    (hSize : 25 + (ProtocolPayload.input envelope).body.length ≤ n) :
    Fills n (encodePayloadInto (.input envelope)) head
      (head ++ framed payloadInput (ProtocolPayload.input envelope).body)
      (25 + (ProtocolPayload.input envelope).body.length) := by
  have hMeta : inputMetadataLen = 35 := rfl
  rw [framed]
  rw [body_length_input] at hLen hSize ⊢
  simp only [ProtocolPayload.body, ← List.append_assoc]
  rw [← Nat.add_assoc] at hSize ⊢
  refine .orThrow_bind (u32TryFrom_of_lt hLen) (.size_bind (.check (by omega) ?_))
  iterate 7 refine .write_bind (by simp [hHead]) (by simp [hHead]; omega) ?_
  exact .pure

theorem encodeText_fills {clipboard : ClipboardText} (h : ¬ clipboardUsesContentFrame clipboard)
    (hHead : head.length = 20)
    (hLen : (ProtocolPayload.clipboardText clipboard).body.length < 2 ^ 32)
    (hSize : 25 + (ProtocolPayload.clipboardText clipboard).body.length ≤ n) :
    Fills n (encodePayloadInto (.clipboardText clipboard)) head
      (head ++ framed payloadClipboardText (ProtocolPayload.clipboardText clipboard).body)
      (25 + (ProtocolPayload.clipboardText clipboard).body.length) := by
  have hMeta : clipboardMetadataLen = 32 := rfl
  rw [framed]
  rw [body_length_text h] at hLen hSize ⊢
  simp only [ProtocolPayload.body, encodePayloadInto, if_neg h, ← List.append_assoc]
  rw [← Nat.add_assoc] at hSize ⊢
  refine .orThrow_bind (u32TryFrom_of_lt hLen) (.size_bind (.check (by omega) ?_))
  iterate 6 refine .write_bind (by simp [hHead]) (by simp [hHead]; omega) ?_
  exact .pure

theorem clipboardPayloadLen_eq (clipboard : ClipboardText) :
    clipboardPayloadLen clipboard = checkedAdd clipboardContentMetadataLen
      ((asBytes clipboard.text).length +
        ((htmlBytes clipboard).length + (imageBytes clipboard).length)) := by
  simp only [clipboardPayloadLen, checkedAdd_bind]

/-- The two length fields are known unless an image is missing. -/
theorem clipboardContentLengths_isOk {clipboard : ClipboardText}
    (h : clipboardUsesContentFrame clipboard)
    (hImage : clipboard.format = .image → clipboard.image.isSome)
    (hLen : (ProtocolPayload.clipboardText clipboard).body.length < 2 ^ 32) :
    ∃ lengths, clipboardContentLengths clipboard (asBytes clipboard.text) (htmlBytes clipboard) =
      .ok lengths := by
  rw [body_length_content h] at hLen
  by_cases hFormat : clipboard.format = .image
  · obtain ⟨image, hSome⟩ := Option.isSome_iff_exists.mp (hImage hFormat)
    exact ⟨(image.width, image.height), by simp only [clipboardContentLengths, hFormat, hSome]⟩
  · exact ⟨_, clipboardContentLengths_eq hFormat (by omega) (by omega)⟩

theorem encodeClipboardContentInto_fills {clipboard : ClipboardText}
    (h : clipboardUsesContentFrame clipboard)
    (hImage : clipboard.format = .image → clipboard.image.isSome) (hHead : head.length = 20)
    (hLen : (ProtocolPayload.clipboardText clipboard).body.length < 2 ^ 32)
    (hSize : 25 + (ProtocolPayload.clipboardText clipboard).body.length ≤ n) :
    Fills n (encodeClipboardContentInto clipboard) head
      (head ++ framed payloadClipboardContent (ProtocolPayload.clipboardText clipboard).body)
      (25 + (ProtocolPayload.clipboardText clipboard).body.length) := by
  obtain ⟨lengths, hLengths⟩ := clipboardContentLengths_isOk h hImage hLen
  rw [framed]
  rw [body_length_content h] at hLen hSize ⊢
  simp only [ProtocolPayload.body, if_pos h, hLengths, ← List.append_assoc]
  have hPayload : clipboardPayloadLen clipboard = some (clipboardContentMetadataLen +
      (asBytes clipboard.text).length + (htmlBytes clipboard).length +
        (imageBytes clipboard).length) := by
    rw [clipboardPayloadLen_eq, checkedAdd_of_lt (by omega)]
    simp only [Nat.add_assoc]
  have hMeta : clipboardContentMetadataLen = 41 := rfl
  refine .orThrow_bind hPayload (.orThrow_bind (checkedAdd_of_lt (by omega)) ?_)
  refine .size_bind (.check (by omega) (.orThrow_bind (u32TryFrom_of_lt hLen) ?_))
  refine .orThrow_bind (by rw [hLengths]; rfl) ?_
  iterate 11 refine .write_bind (by simp [hHead]; try omega) (by simp [hHead]; omega) ?_
  exact .pure

theorem encodeFileEntriesInto_fills (files : List ClipboardFileMetadata)
    (hNames : ∀ file ∈ files, NameFits file) {cursor : Nat} (hCursor : cursor = head.length)
    (hSize : head.length + (files.flatMap encodeFileEntryVec).length ≤ n) :
    Fills n (encodeFileEntriesInto files cursor) head (head ++ files.flatMap encodeFileEntryVec)
      () := by
  induction files generalizing head cursor with
  | nil =>
    rw [List.flatMap_nil, List.append_nil]
    exact .pure
  | cons file files ih =>
    have hName := hNames file List.mem_cons_self
    simp only [List.flatMap_cons, List.length_append, encodeFileEntryVec_length,
      clipboardFileEntryMetadataLen] at hSize
    have hEntry : encodeFileEntryVec file = toLeBytes file.byteLen ++ toLeBytes file.contentHash ++
        toLeBytes (UInt16.ofNat (asBytes file.name).length) ++ asBytes file.name := by
      rw [encodeFileEntryVec, u16TryFrom_of_lt hName, Option.getD_some]
    simp only [List.flatMap_cons, hEntry, ← List.append_assoc]
    refine .orThrow_bind (u16TryFrom_of_lt hName) ?_
    iterate 4 refine .write_bind (by simp [hCursor]; try omega) (by simp; omega) ?_
    refine ih (fun f hf => hNames f (List.mem_cons_of_mem _ hf)) (by simp [hCursor]; omega) ?_
    simp only [List.length_append, toLeBytes_length, width_u64, width_u16]
    omega

theorem encodeClipboardFilesInto_fills {files : ClipboardFiles}
    (hCount : files.files.length < 2 ^ 16) (hNames : ∀ file ∈ files.files, NameFits file)
    (hHead : head.length = 20)
    (hLen : (ProtocolPayload.clipboardFiles files).body.length < 2 ^ 32)
    (hSize : 25 + (ProtocolPayload.clipboardFiles files).body.length ≤ n) :
    Fills n (encodeClipboardFilesInto files) head
      (head ++ framed payloadClipboardFiles (ProtocolPayload.clipboardFiles files).body)
      (25 + (ProtocolPayload.clipboardFiles files).body.length) := by
  have hTotal : head.length + 5 + (ProtocolPayload.clipboardFiles files).body.length ≤ n := by omega
  have hPayload := clipboardFilesPayloadLen_eq files
  rw [if_pos (by omega)] at hPayload
  refine .orThrow_bind (by rw [hPayload]; rfl) (.orThrow_bind (checkedAdd_of_lt (by omega)) ?_)
  refine .size_bind (.check (by omega) (.orThrow_bind (u32TryFrom_of_lt hLen) ?_))
  refine .orThrow_bind (u16TryFrom_of_lt hCount) ?_
  rw [framed]
  simp only [ProtocolPayload.body, u16TryFrom_of_lt hCount, Option.getD_some, ← List.append_assoc]
  simp only [ProtocolPayload.body, List.length_append, toLeBytes_length, width_u64, width_u16,
    width_u128] at hTotal
  iterate 6 refine .write_bind (by simp [hHead]) (by simp; omega) ?_
  refine .bind (encodeFileEntriesInto_fills files.files hNames (by simp [hHead]) ?_) .pure
  simp only [List.length_append, List.length_singleton, toLeBytes_length, width_u64, width_u32,
    width_u16, width_u128]
  omega

end Fills

section Refuses

variable {n : Nat} {head : List UInt8}

theorem encodeFileEntriesInto_refuses (files : List ClipboardFileMetadata)
    (hNames : ¬ ∀ file ∈ files, NameFits file) {cursor : Nat} (hCursor : cursor = head.length)
    (hSize : head.length + (files.flatMap encodeFileEntryVec).length ≤ n) :
    Refuses n (encodeFileEntriesInto files cursor) head .lengthOverflow := by
  induction files generalizing head cursor with
  | nil => exact absurd (by simp) hNames
  | cons file files ih =>
    simp only [List.flatMap_cons, List.length_append, encodeFileEntryVec_length,
      clipboardFileEntryMetadataLen] at hSize
    refine .orThrow_bind fun nameLen hLen => ?_
    have hName : NameFits file := lt_of_u16TryFrom hLen
    iterate 4 refine .write_bind (by simp [hCursor]; try omega) (by simp; omega) ?_
    refine ih (fun h => hNames (List.forall_mem_cons.mpr ⟨hName, h⟩)) (by simp [hCursor]; omega) ?_
    simp only [List.length_append, toLeBytes_length, width_u64, width_u16]
    omega

theorem encodeClipboardFilesInto_refuses {files : ClipboardFiles} (hHead : head.length = 20)
    (hFit : ¬ LengthsFit (.clipboardFiles files))
    (hSize : 25 + (ProtocolPayload.clipboardFiles files).body.length ≤ n) :
    Refuses n (encodeClipboardFilesInto files) head .lengthOverflow := by
  refine .orThrow_bind fun payloadLen hPayload => .orThrow_bind fun required hRequired => ?_
  have hPayload : payloadLen = (ProtocolPayload.clipboardFiles files).body.length := by
    rw [clipboardFilesPayloadLen_eq] at hPayload
    split at hPayload <;> cases hPayload
    rfl
  have hRequired := eq_of_checkedAdd hRequired
  refine .size_bind (.check (by omega) (.orThrow_bind fun len hLen => ?_))
  refine .orThrow_bind fun count hCount => ?_
  have hLen := lt_of_u32TryFrom hLen
  have hCount := lt_of_u16TryFrom hCount
  have hNames : ¬ ∀ file ∈ files.files, NameFits file :=
    fun h => hFit ⟨by omega, hCount, h⟩
  simp only [ProtocolPayload.body, List.length_append, toLeBytes_length, width_u64, width_u16,
    width_u128] at hSize
  iterate 6 refine .write_bind (by simp [hHead]) (by simp; omega) ?_
  refine .bind (encodeFileEntriesInto_refuses files.files hNames (by simp [hHead]) ?_)
  simp only [List.length_append, List.length_singleton, toLeBytes_length, width_u64, width_u32,
    width_u16, width_u128]
  omega

theorem encodePayloadInto_refuses {payload : ProtocolPayload} (hHead : head.length = 20)
    (hFit : ¬ LengthsFit payload) (hSize : 25 + payload.body.length ≤ n) :
    Refuses n (encodePayloadInto payload) head .lengthOverflow := by
  cases payload with
  | input envelope =>
    refine .orThrow_bind fun len hLen => absurd ⟨?_, trivial⟩ hFit
    rw [body_length_input]
    exact lt_of_u32TryFrom hLen
  | clipboardText clipboard =>
    by_cases h : clipboardUsesContentFrame clipboard
    · simp only [encodePayloadInto, if_pos h]
      refine .orThrow_bind fun payloadLen hPayload => .orThrow_bind fun required hRequired => ?_
      rw [clipboardPayloadLen_eq] at hPayload
      have hBody := body_length_content h
      have hPayload := eq_of_checkedAdd hPayload
      have hRequired := eq_of_checkedAdd hRequired
      refine .size_bind (.check (by omega) (.orThrow_bind fun len hLen => ?_))
      refine .orThrow_bind fun lengths hLengths => absurd ⟨?_, fun hFormat => ?_⟩ hFit
      · have := lt_of_u32TryFrom hLen
        omega
      · cases hImage : clipboard.image with
        | some image => rfl
        | none => simp [clipboardContentLengths, hFormat, hImage, Except.toOption] at hLengths
    · simp only [encodePayloadInto, if_neg h]
      refine .orThrow_bind fun len hLen => absurd ⟨?_, fun hFormat => ?_⟩ hFit
      · rw [body_length_text h]
        exact lt_of_u32TryFrom hLen
      · simp [clipboardUsesContentFrame, hFormat] at h
  | clipboardFiles files => exact encodeClipboardFilesInto_refuses hHead hFit hSize
  | fileChunk chunk =>
    refine .orThrow_bind fun payloadLen hPayload => .orThrow_bind fun required hRequired => ?_
    have hBody := body_length_chunk chunk
    have hPayload := eq_of_checkedAdd hPayload
    have hRequired := eq_of_checkedAdd hRequired
    refine .size_bind (.check (by omega) (.orThrow_bind fun len hLen => absurd ⟨?_, trivial⟩ hFit))
    have := lt_of_u32TryFrom hLen
    omega
  | control message =>
    refine absurd ⟨?_, trivial⟩ hFit
    rw [ProtocolPayload.body, writeControlPayload_length]
    cases message <;> simp [controlPayloadLen]

end Refuses

section Frame

variable {n : Nat} (frame : ProtocolFrame)

theorem encodePayloadInto_fills {payload : ProtocolPayload} {head : List UInt8}
    (hHead : head.length = 20) (hFit : LengthsFit payload) (hSize : 25 + payload.body.length ≤ n) :
    Fills n (encodePayloadInto payload) head (head ++ framed payload.tag payload.body)
      (25 + payload.body.length) := by
  obtain ⟨hLen, hFields⟩ := hFit
  cases payload with
  | input envelope => exact encodeInput_fills envelope hHead hLen hSize
  | clipboardText clipboard =>
    by_cases h : clipboardUsesContentFrame clipboard
    · rw [ProtocolPayload.tag, if_pos h, encodePayloadInto, if_pos h]
      exact encodeClipboardContentInto_fills h hFields hHead hLen hSize
    · rw [ProtocolPayload.tag, if_neg h]
      exact encodeText_fills h hHead hLen hSize
  | clipboardFiles files => exact encodeClipboardFilesInto_fills hFields.1 hFields.2 hHead hLen hSize
  | fileChunk chunk => exact encodeFileChunkInto_fills chunk hHead hLen hSize
  | control message => exact encodeControlInto_fills message hHead hSize

/-- When its lengths fit, the buffer encoder writes what the vector encoder gives. -/
theorem encodeInto_fills (hFit : LengthsFit frame.payload) (hSize : frame.encodeVec.length ≤ n) :
    Fills n frame.encodeInto [] frame.encodeVec frame.encodeVec.length := by
  have hLength := encodeVec_length frame
  have hBytes : frame.encodeVec = frameMagic ++ toLeBytes frame.sequence ++
      toLeBytes frame.timestampMicros ++ framed frame.payload.tag frame.payload.body := by
    rw [encodeVec_layout, lengthField, u32TryFrom_of_lt hFit.1]
    rfl
  rw [hLength] at hSize ⊢
  rw [hBytes]
  refine .size_bind (.check (by omega) ?_)
  iterate 3 refine .write_bind (by simp) (by simp; omega) ?_
  exact encodePayloadInto_fills (by simp) hFit hSize

theorem encodeInto_refuses (hFit : ¬ LengthsFit frame.payload)
    (hSize : frame.encodeVec.length ≤ n) :
    Refuses n frame.encodeInto [] .lengthOverflow := by
  rw [encodeVec_length frame] at hSize
  refine .size_bind (.check (by omega) ?_)
  iterate 3 refine .write_bind (by simp) (by simp; omega) ?_
  exact encodePayloadInto_refuses (by simp) hFit hSize

end Frame

section Agreement

/-- What the encoders owe each other on a buffer: the same bytes, or a refusal of a frame whose
bytes no decoder accepts. -/
def EncodersAgree (frame : ProtocolFrame) (out : List UInt8) : Prop :=
  (∃ n out', frame.encodeInto out = .ok n out' ∧ out'.take n = frame.encodeVec) ∨
    (∃ out', frame.encodeInto out = .error (.error .lengthOverflow) out') ∧
      ∃ e, ProtocolFrame.decode frame.encodeVec = .error (.error e)

/-- A file list with a name that is too long, whose bytes and the entries behind it do not start
with as many encoded entries as are left. -/
def RejectedFiles : ProtocolPayload → Prop
  | .clipboardFiles files =>
    files.files.length < 2 ^ 16 ∧ ∃ before file after, files.files = before ++ file :: after ∧
      (∀ f ∈ before, NameFits f) ∧ ¬ NameFits file ∧
      ¬ StartsWithEntries after.length (asBytes file.name ++ after.flatMap encodeFileEntryVec)
  | _ => False

/-- No payload is empty, so an empty one is too short for each decoder. -/
theorem decodePayload_nil (payload : ProtocolPayload) :
    decodePayload payload.tag [] = fail .tooShort := by
  cases payload with
  | clipboardText clipboard =>
    rw [ProtocolPayload.tag]
    split <;> rfl
  | _ => rfl

theorem decode_isError_iff {frame : ProtocolFrame} (hLen : frame.payload.body.length < 2 ^ 32) :
    (∃ e, ProtocolFrame.decode frame.encodeVec = .error (.error e)) ↔
      ∃ e, decodePayload frame.payload.tag frame.payload.body = .error (.error e) := by
  have hDecode := decode_encodeVec frame [] hLen
  rw [List.append_nil] at hDecode
  rw [hDecode]
  cases decodePayload frame.payload.tag frame.payload.body with
  | ok payload => simp
  | error e => simp

/-- The first name that does not fit. -/
theorem exists_first_tooLong {files : List ClipboardFileMetadata}
    (h : ¬ ∀ file ∈ files, NameFits file) :
    ∃ before file after, files = before ++ file :: after ∧ (∀ f ∈ before, NameFits f) ∧
      ¬ NameFits file := by
  induction files with
  | nil => exact absurd (by simp) h
  | cons file files ih =>
    by_cases hFile : NameFits file
    · obtain ⟨before, long, after, rfl, hBefore, hLong⟩ :=
        ih fun hFiles => h (List.forall_mem_cons.mpr ⟨hFile, hFiles⟩)
      exact ⟨file :: before, long, after, rfl, List.forall_mem_cons.mpr ⟨hFile, hBefore⟩, hLong⟩
    · exact ⟨[], file, files, rfl, by simp, hFile⟩

theorem decodeFiles_isError_iff {files : ClipboardFiles}
    (hFit : ¬ LengthsFit (.clipboardFiles files))
    (hLen : (ProtocolPayload.clipboardFiles files).body.length < 2 ^ 32) :
    (∃ e, decodeClipboardFiles (ProtocolPayload.clipboardFiles files).body = .error (.error e)) ↔
      RejectedFiles (.clipboardFiles files) := by
  have hEntries : (files.files.flatMap encodeFileEntryVec).length < 2 ^ 62 := by
    rw [ProtocolPayload.body, List.length_append] at hLen
    omega
  rw [decodeClipboardFiles_body hLen]
  by_cases hCount : files.files.length < 2 ^ 16
  · have hNames : ¬ ∀ file ∈ files.files, NameFits file := fun h => hFit ⟨hLen, hCount, h⟩
    rw [u16TryFrom_of_lt hCount, Option.getD_some, UInt16.toNat_ofNat_of_lt' hCount,
      (decodeFileEntries_noPanic _ (by omega) (Nat.zero_le _)).map_isError_iff]
    constructor
    · intro hErr
      obtain ⟨before, file, after, hFiles, hBefore, hFile⟩ := exists_first_tooLong hNames
      rw [hFiles] at hEntries
      rw [hFiles, decodeFileEntries_tooLong_isOk_iff hBefore hFile hEntries] at hErr
      exact ⟨hCount, before, file, after, hFiles, hBefore, hFile, hErr⟩
    · rintro ⟨-, before, file, after, hFiles, hBefore, hFile, hErr⟩
      rw [hFiles] at hEntries
      rwa [hFiles, decodeFileEntries_tooLong_isOk_iff hBefore hFile hEntries]
  · -- The count is written as zero, and no entry is read.
    rw [u16TryFrom_of_not_lt hCount]
    exact iff_of_false (by rintro ⟨e, ⟨⟩⟩) fun h => hCount h.1

/-- A payload that does not fit its fields is rejected only where the bytes of a long name do not
pass for entries. -/
theorem decodePayload_isError_iff {payload : ProtocolPayload} (hFit : ¬ LengthsFit payload)
    (hLen : payload.body.length < 2 ^ 32) :
    (∃ e, decodePayload payload.tag payload.body = .error (.error e)) ↔ RejectedFiles payload := by
  cases payload with
  | clipboardText clipboard =>
    -- An image is missing, and the frame is read as an image without pixels.
    have hMissing : clipboard.format = .image ∧ clipboard.image = none := by
      by_contra h
      refine hFit ⟨hLen, fun hFormat => ?_⟩
      exact Option.isSome_iff_ne_none.mpr fun hNone => h ⟨hFormat, hNone⟩
    obtain ⟨hFormat, hImage⟩ := hMissing
    have hContent : clipboardUsesContentFrame clipboard := by
      simp [clipboardUsesContentFrame, hFormat]
    have hLengths : ((clipboardContentLengths clipboard (asBytes clipboard.text)
        (htmlBytes clipboard)).toOption).getD (0, 0) = (0, 0) := by
      simp only [clipboardContentLengths, hFormat, hImage]
      rfl
    have hBody := body_length_content hContent
    rw [ProtocolPayload.tag, if_pos hContent, decodePayload_clipboardContent,
      decodeClipboardContent_image hContent hFormat hLengths, if_neg (by simp; omega)]
    exact iff_of_false (by rintro ⟨e, ⟨⟩⟩) id
  | clipboardFiles files =>
    rw [ProtocolPayload.tag, decodePayload_clipboardFiles, ← decodeFiles_isError_iff hFit hLen]
    cases decodeClipboardFiles (ProtocolPayload.clipboardFiles files).body with
    | ok files => exact iff_of_false (by rintro ⟨e, ⟨⟩⟩) (by rintro ⟨e, ⟨⟩⟩)
    | error e => exact exists_congr fun e => by simp
  | input envelope => exact absurd ⟨hLen, trivial⟩ hFit
  | fileChunk chunk => exact absurd ⟨hLen, trivial⟩ hFit
  | control message => exact absurd ⟨hLen, trivial⟩ hFit

theorem encodersAgree_of_not_fit {frame : ProtocolFrame} {out : List UInt8}
    (hFit : ¬ LengthsFit frame.payload) (hSize : frame.encodeVec.length ≤ out.length) :
    EncodersAgree frame out ↔ ∃ e, ProtocolFrame.decode frame.encodeVec = .error (.error e) := by
  obtain ⟨out', hOut⟩ := encodeInto_refuses frame hFit hSize out (.nil out)
  simp only [EncodersAgree, hOut, reduceCtorEq, false_and, exists_false, false_or]
  exact ⟨fun h => h.2, fun h => ⟨⟨out', rfl⟩, h⟩⟩

/-- The encoders agree on a buffer that is large enough exactly when all lengths fit, when the
length of the whole payload does not, or when the decoder stumbles over a long file name. -/
theorem encodersAgree_iff (frame : ProtocolFrame) (out : List UInt8)
    (hSize : frame.encodeVec.length ≤ out.length) :
    EncodersAgree frame out ↔
      LengthsFit frame.payload ∨ 2 ^ 32 ≤ frame.payload.body.length ∨
        RejectedFiles frame.payload := by
  by_cases hFit : LengthsFit frame.payload
  · obtain ⟨out', hOut, hFilled⟩ := encodeInto_fills frame hFit hSize out (.nil out)
    exact iff_of_true (.inl ⟨_, out', hOut, hFilled.take_eq rfl⟩) (.inl hFit)
  · rw [encodersAgree_of_not_fit hFit hSize]
    by_cases hLen : 2 ^ 32 ≤ frame.payload.body.length
    · rw [decode_encodeVec_of_overflow frame hLen, decodePayload_nil]
      exact iff_of_true ⟨_, rfl⟩ (.inr (.inl hLen))
    · rw [decode_isError_iff (by omega), decodePayload_isError_iff hFit (by omega)]
      exact ⟨fun h => .inr (.inr h), fun h => (h.resolve_left hFit).resolve_left hLen⟩

theorem encodersAgree_configVersion :
    EncodersAgree ⟨1, 2, .control (.configVersion 3 4)⟩ (List.replicate 50 0) :=
  (encodersAgree_iff _ _ (by decide)).mpr (.inl ⟨by decide, trivial⟩)

/-- With too many files the count is written as zero, and the frame is decoded as an empty list. -/
theorem not_encodersAgree_of_tooMany {sequence timestampMicros : UInt64} {files : ClipboardFiles}
    {out : List UInt8} (hCount : ¬ files.files.length < 2 ^ 16)
    (hLen : (ProtocolPayload.clipboardFiles files).body.length < 2 ^ 32)
    (hSize : (ProtocolFrame.encodeVec ⟨sequence, timestampMicros, .clipboardFiles files⟩).length ≤
      out.length) :
    ¬ EncodersAgree ⟨sequence, timestampMicros, .clipboardFiles files⟩ out := by
  have hFit : ¬ LengthsFit (.clipboardFiles files) := fun h => hCount h.2.1
  rw [encodersAgree_of_not_fit hFit hSize, decode_isError_iff hLen,
    decodePayload_isError_iff hFit hLen]
  exact fun h => hCount h.1

theorem body_length_replicate (sourceId : DeviceId) (version : UInt64) (count : Nat)
    (file : ClipboardFileMetadata) :
    (ProtocolPayload.clipboardFiles
        (.new sourceId version (List.replicate count file))).body.length =
      clipboardFilesMetadataLen +
        count * (clipboardFileEntryMetadataLen + (asBytes file.name).length) := by
  rw [body_length_files, ClipboardFiles.new, List.map_replicate, List.sum_replicate_nat]

/-- One file more than the count field can say. -/
def manyFiles : ClipboardFiles := .new 3 4 (List.replicate 65536 (.new "a" 5 6))

theorem not_encodersAgree_manyFiles :
    ¬ EncodersAgree ⟨1, 2, .clipboardFiles manyFiles⟩
      (List.replicate (ProtocolFrame.encodeVec ⟨1, 2, .clipboardFiles manyFiles⟩).length 0) := by
  have hName : (asBytes (ClipboardFileMetadata.new "a" 5 6).name).length = 1 := by decide
  have hCount : manyFiles.files.length = 65536 := List.length_replicate
  refine not_encodersAgree_of_tooMany (by rw [hCount]; decide) ?_ (by rw [List.length_replicate])
  rw [manyFiles, body_length_replicate, hName]
  decide

end Agreement

end Kmsync
