import Kmsync.Core.FileNames

/-! File lists on the wire.  The loop of the decoder accepts a byte string for a count exactly when
the string starts with that many encoded entries, and gives back their files with the names
sanitised again. -/

namespace Kmsync

open ProofKit

/-- The file that the decoder builds from an entry. -/
def ClipboardFileMetadata.resanitized (file : ClipboardFileMetadata) : ClipboardFileMetadata :=
  .new file.name file.byteLen file.contentHash

/-- A name whose length fits the field of an entry. -/
def NameFits (file : ClipboardFileMetadata) : Prop := (asBytes file.name).length < 2 ^ 16

/-- The string starts with the entries of `count` files, each with the right length of its name. -/
def StartsWithEntries (count : Nat) (bytes : List UInt8) : Prop :=
  ∃ (files : List ClipboardFileMetadata) (rest : List UInt8), files.length = count ∧
    (∀ file ∈ files, NameFits file) ∧ bytes = files.flatMap encodeFileEntryVec ++ rest

section Loop

/-- A round from a cursor within the payload, whose sums do not overflow. -/
theorem decodeFileEntries_succ {bytes : List UInt8} {cursor : Nat} (count : Nat)
    (hLen : bytes.length < 2 ^ 63) (hCursor : cursor ≤ bytes.length) :
    decodeFileEntries bytes (count + 1) cursor =
      if bytes.length < cursor + 18 then fail .tooShort
      else do
        let byteLen ← readLe UInt64 bytes cursor (cursor + 8)
        let contentHash ← readLe UInt64 bytes (cursor + 8) (cursor + 16)
        let nameLen ← readLe UInt16 bytes (cursor + 16) (cursor + 18)
        if bytes.length < cursor + 18 + nameLen.toNat then fail .tooShort
        else
          let name ← fromUtf8 (← readSlice bytes (cursor + 18) (cursor + 18 + nameLen.toNat))
          let files ← decodeFileEntries bytes count (cursor + 18 + nameLen.toNat)
          return .new name byteLen contentHash :: files := by
  have hSum (start n : Nat) (hStart : start ≤ cursor + 18) (hn : n < 2 ^ 32) :
      addUsize start n = .ok (start + n) := addUsize_of_lt (by omega)
  rw [decodeFileEntries, clipboardFileEntryMetadataLen, hSum cursor 18 (by omega) (by decide),
    ok_bind]
  refine if_congr Iff.rfl rfl ?_
  rw [hSum cursor 8 (by omega) (by decide), ok_bind]
  refine bind_congr fun byteLen => ?_
  rw [ok_bind, hSum (cursor + 8) 8 (by omega) (by decide), ok_bind]
  refine bind_congr fun contentHash => ?_
  rw [ok_bind, hSum (cursor + 16) 2 (by omega) (by decide), ok_bind]
  refine bind_congr fun nameLen => ?_
  have hName := nameLen.toNat_lt
  simp only [ok_bind, hSum (cursor + 18) nameLen.toNat le_rfl (by omega)]

/-- The loop reads only what lies behind its cursor. -/
theorem decodeFileEntries_append {front bytes : List UInt8} (count : Nat) {cursor : Nat}
    (hLen : (front ++ bytes).length < 2 ^ 63) (hCursor : cursor ≤ bytes.length) :
    decodeFileEntries (front ++ bytes) count (front.length + cursor) =
      decodeFileEntries bytes count cursor := by
  have hAppend : (front ++ bytes).length = front.length + bytes.length := List.length_append
  induction count generalizing cursor with
  | zero => rfl
  | succ count ih =>
    rw [decodeFileEntries_succ count hLen (by omega),
      decodeFileEntries_succ count (by omega) hCursor]
    simp only [readLe, readSlice, Nat.add_assoc, leAt?_append_shift, slice?_append_shift,
      List.length_append, Nat.add_lt_add_iff_left]
    refine if_congr Iff.rfl rfl (bind_congr fun byteLen => bind_congr fun contentHash =>
      bind_congr fun nameLen => ?_)
    by_cases hName : bytes.length < cursor + (18 + nameLen.toNat)
    · rw [if_pos hName, if_pos hName]
    · rw [if_neg hName, if_neg hName]
      refine bind_congr fun part => bind_congr fun name => ?_
      rw [ih (by omega)]

theorem decodeFileEntries_behind {front bytes : List UInt8} (count : Nat) {cursor : Nat}
    (hLen : (front ++ bytes).length < 2 ^ 63) (h : cursor = front.length) :
    decodeFileEntries (front ++ bytes) count cursor = decodeFileEntries bytes count 0 := by
  rw [h]
  exact decodeFileEntries_append count hLen (Nat.zero_le _)

/-- One round, on an entry with the name bytes that its length field announces. -/
theorem decodeFileEntries_entry (byteLen contentHash : UInt64) (nameLen : UInt16)
    {name rest : List UInt8} (count : Nat) (hName : name.length = nameLen.toNat)
    (hRest : rest.length < 2 ^ 62) :
    decodeFileEntries
        (toLeBytes byteLen ++ toLeBytes contentHash ++ toLeBytes nameLen ++ name ++ rest)
        (count + 1) 0 =
      (do
        let name ← fromUtf8 name
        let files ← decodeFileEntries rest count 0
        return .new name byteLen contentHash :: files) := by
  have hWidth := nameLen.toNat_lt
  have hBehind : decodeFileEntries
      (toLeBytes byteLen ++ (toLeBytes contentHash ++ (toLeBytes nameLen ++ (name ++ rest))))
      count (18 + nameLen.toNat) = decodeFileEntries rest count 0 := by
    simp only [← List.append_assoc]
    exact decodeFileEntries_behind count (by simp [hName]; omega) (by simp [hName]; omega)
  have hShort : ¬ 8 + (8 + (2 + (nameLen.toNat + rest.length))) < 18 := by omega
  have hLong : ¬ 8 + (8 + (2 + (nameLen.toNat + rest.length))) < 18 + nameLen.toNat := by omega
  rw [decodeFileEntries_succ count (by simp [hName]; omega) (Nat.zero_le _)]
  simp [readLe, readSlice, hName, hShort, hLong, hBehind]

theorem decodeFileEntries_cons {file : ClipboardFileMetadata} (h : NameFits file)
    {rest : List UInt8} (hRest : rest.length < 2 ^ 62) (count : Nat) :
    decodeFileEntries (encodeFileEntryVec file ++ rest) (count + 1) 0 =
      (file.resanitized :: ·) <$> decodeFileEntries rest count 0 := by
  rw [encodeFileEntryVec, u16TryFrom_of_lt h, Option.getD_some,
    decodeFileEntries_entry _ _ _ _ (UInt16.toNat_ofNat_of_lt' h).symm hRest, fromUtf8_asBytes]
  rfl

/-- The loop over the entries of files, with others behind them. -/
theorem decodeFileEntries_files {files : List ClipboardFileMetadata}
    (hFiles : ∀ file ∈ files, NameFits file) {rest : List UInt8}
    (hLen : (files.flatMap encodeFileEntryVec ++ rest).length < 2 ^ 62) (count : Nat) :
    decodeFileEntries (files.flatMap encodeFileEntryVec ++ rest) (files.length + count) 0 =
      (files.map ClipboardFileMetadata.resanitized ++ ·) <$> decodeFileEntries rest count 0 := by
  induction files with
  | nil => simp
  | cons file files ih =>
    rw [List.flatMap_cons, List.append_assoc, List.length_append] at hLen
    have hTail := ih (fun f hf => hFiles f (List.mem_cons_of_mem _ hf)) (by omega)
    rw [List.flatMap_cons, List.append_assoc, List.length_cons, Nat.add_right_comm,
      decodeFileEntries_cons (hFiles file List.mem_cons_self) (by omega), hTail,
      ← LawfulFunctor.comp_map]
    rfl

theorem asBytes_of_fromUtf8 {bytes : List UInt8} {text : String} (h : fromUtf8 bytes = .ok text) :
    asBytes text = bytes := by
  unfold fromUtf8 String.fromUTF8? at h
  split at h
  next hText =>
    cases h
    split at hText <;> cases hText
    rfl
  next => cases h

/-- What a round that succeeds has read. -/
theorem decodeFileEntries_succ_eq_ok {bytes : List UInt8} {count : Nat}
    {files : List ClipboardFileMetadata} (hLen : bytes.length < 2 ^ 62)
    (h : decodeFileEntries bytes (count + 1) 0 = .ok files) :
    ∃ (byteLen contentHash : UInt64) (nameLen : UInt16) (name : String),
      (asBytes name).length = nameLen.toNat ∧
      bytes = toLeBytes byteLen ++ (toLeBytes contentHash ++ (toLeBytes nameLen ++
        (asBytes name ++ bytes.drop (18 + nameLen.toNat)))) ∧
      ∃ files, decodeFileEntries bytes count (18 + nameLen.toNat) = .ok files := by
  rw [decodeFileEntries_succ count (by omega) (Nat.zero_le _)] at h
  simp only [Nat.zero_add] at h
  split at h
  · cases h
  obtain ⟨byteLen, hByteLen, h⟩ := bind_eq_ok.mp h
  obtain ⟨contentHash, hContentHash, h⟩ := bind_eq_ok.mp h
  obtain ⟨nameLen, hNameLen, h⟩ := bind_eq_ok.mp h
  split at h
  · cases h
  obtain ⟨part, hPart, h⟩ := bind_eq_ok.mp h
  obtain ⟨name, hName, h⟩ := bind_eq_ok.mp h
  obtain ⟨files, hFiles, -⟩ := bind_eq_ok.mp h
  have hPart := orPanic_eq_ok.mp hPart
  obtain rfl := asBytes_of_fromUtf8 hName
  refine ⟨byteLen, contentHash, nameLen, name, ?_, ?_, files, hFiles⟩
  · rw [slice?_length hPart]
    omega
  · rw [← drop_eq_of_slice? hPart,
      ← drop_eq_of_slice? (slice?_of_leAt? (orPanic_eq_ok.mp hNameLen)),
      ← drop_eq_of_slice? (slice?_of_leAt? (orPanic_eq_ok.mp hContentHash)),
      ← drop_eq_of_slice? (slice?_of_leAt? (orPanic_eq_ok.mp hByteLen)), List.drop_zero]

/-- A round that succeeds has read an encoded entry. -/
theorem entry_of_decodeFileEntries {bytes : List UInt8} {count : Nat}
    {files : List ClipboardFileMetadata} (hLen : bytes.length < 2 ^ 62)
    (h : decodeFileEntries bytes (count + 1) 0 = .ok files) :
    ∃ file rest, NameFits file ∧ bytes = encodeFileEntryVec file ++ rest ∧
      ∃ files, decodeFileEntries rest count 0 = .ok files := by
  obtain ⟨byteLen, contentHash, nameLen, name, hName, hBytes, files, hFiles⟩ :=
    decodeFileEntries_succ_eq_ok hLen h
  have hFits : NameFits ⟨name, byteLen, contentHash⟩ := by
    rw [NameFits, hName]
    exact nameLen.toNat_lt
  have hEntry : encodeFileEntryVec ⟨name, byteLen, contentHash⟩ =
      toLeBytes byteLen ++ toLeBytes contentHash ++ toLeBytes nameLen ++ asBytes name := by
    rw [encodeFileEntryVec, u16TryFrom_of_lt hFits, Option.getD_some, hName, UInt16.ofNat_toNat]
  have hSplit : bytes = encodeFileEntryVec ⟨name, byteLen, contentHash⟩ ++
      bytes.drop (18 + nameLen.toNat) := by
    rw [hEntry]
    simpa only [List.append_assoc] using hBytes
  refine ⟨_, _, hFits, hSplit, files, ?_⟩
  rw [hSplit] at hFiles
  rwa [decodeFileEntries_behind count (by rw [← hSplit]; omega)
    (by simp [hName, clipboardFileEntryMetadataLen])] at hFiles

/-- The loop succeeds on the strings that start with as many encoded entries, and on no others. -/
theorem decodeFileEntries_isOk_iff (count : Nat) {bytes : List UInt8}
    (hLen : bytes.length < 2 ^ 62) :
    (∃ files, decodeFileEntries bytes count 0 = .ok files) ↔ StartsWithEntries count bytes := by
  constructor
  · induction count generalizing bytes with
    | zero => exact fun _ => ⟨[], bytes, rfl, by simp, rfl⟩
    | succ count ih =>
      rintro ⟨_, h⟩
      obtain ⟨file, rest, hFile, rfl, hRest⟩ := entry_of_decodeFileEntries hLen h
      rw [List.length_append] at hLen
      obtain ⟨files, rest, rfl, hFiles, rfl⟩ := ih (by omega) hRest
      refine ⟨file :: files, rest, rfl, List.forall_mem_cons.mpr ⟨hFile, hFiles⟩, ?_⟩
      rw [List.flatMap_cons, List.append_assoc]
  · rintro ⟨files, rest, rfl, hFiles, rfl⟩
    exact ⟨_, decodeFileEntries_files hFiles hLen 0⟩

theorem fromUtf8_noPanic (bytes : List UInt8) : NoPanic (fromUtf8 bytes) := by
  unfold fromUtf8
  split <;> nofun

/-- Each read of the loop is behind a check of the length. -/
theorem decodeFileEntries_noPanic {bytes : List UInt8} (count : Nat) {cursor : Nat}
    (hLen : bytes.length < 2 ^ 63) (hCursor : cursor ≤ bytes.length) :
    NoPanic (decodeFileEntries bytes count cursor) := by
  induction count generalizing cursor with
  | zero => exact .ok _
  | succ count ih =>
    rw [decodeFileEntries_succ count hLen hCursor]
    refine .ite (fun _ => .error _) fun hEntry => ?_
    refine .bind (.readLe (by omega) (by omega) (by simp)) fun byteLen => ?_
    refine .bind (.readLe (by omega) (by omega) (by simp)) fun contentHash => ?_
    refine .bind (.readLe (by omega) (by omega) (by simp)) fun nameLen => ?_
    refine .ite (fun _ => .error _) fun hName => ?_
    refine .bind (.readSlice (by omega) (by omega)) fun part => ?_
    exact .bind (fromUtf8_noPanic part) fun name => .bind (ih (by omega)) fun files => .ok _

/-- A name that is too long is written with the length zero, so that the loop reads its bytes as
the entries that follow. -/
theorem decodeFileEntries_tooLong_isOk_iff {before after : List ClipboardFileMetadata}
    {file : ClipboardFileMetadata} (hBefore : ∀ f ∈ before, NameFits f) (hFile : ¬ NameFits file)
    (hLen : ((before ++ file :: after).flatMap encodeFileEntryVec).length < 2 ^ 62) :
    (∃ files, decodeFileEntries ((before ++ file :: after).flatMap encodeFileEntryVec)
        (before ++ file :: after).length 0 = .ok files) ↔
      StartsWithEntries after.length (asBytes file.name ++ after.flatMap encodeFileEntryVec) := by
  have hEntry : encodeFileEntryVec file ++ after.flatMap encodeFileEntryVec =
      toLeBytes file.byteLen ++ toLeBytes file.contentHash ++ toLeBytes (0 : UInt16) ++
        asBytes "" ++ (asBytes file.name ++ after.flatMap encodeFileEntryVec) := by
    rw [encodeFileEntryVec, u16TryFrom_of_not_lt hFile, show asBytes "" = [] from rfl,
      List.append_nil, List.append_assoc]
    rfl
  rw [List.flatMap_append, List.flatMap_cons] at hLen
  have hRest : (asBytes file.name ++ after.flatMap encodeFileEntryVec).length < 2 ^ 62 := by
    simp only [List.length_append, encodeFileEntryVec_length] at hLen ⊢
    omega
  rw [List.flatMap_append, List.length_append, List.flatMap_cons, List.length_cons,
    decodeFileEntries_files hBefore hLen, hEntry,
    decodeFileEntries_entry _ _ _ _ rfl hRest, fromUtf8_asBytes,
    ← decodeFileEntries_isOk_iff _ hRest]
  cases decodeFileEntries (asBytes file.name ++ after.flatMap encodeFileEntryVec) after.length 0 with
  | ok files => exact iff_of_true ⟨_, rfl⟩ ⟨_, rfl⟩
  | error e => exact iff_of_false (by rintro ⟨_, ⟨⟩⟩) (by rintro ⟨_, ⟨⟩⟩)

end Loop

theorem body_length_files (files : ClipboardFiles) :
    (ProtocolPayload.clipboardFiles files).body.length =
      clipboardFilesMetadataLen + (files.files.map fun file =>
        clipboardFileEntryMetadataLen + (asBytes file.name).length).sum := by
  rw [ProtocolPayload.body]
  simp only [List.length_append, toLeBytes_length, width_u128, width_u64, width_u16,
    List.length_flatMap, encodeFileEntryVec_length, clipboardFilesMetadataLen]

/-- The decoder hands the entries to the loop, with the count that the encoder wrote. -/
theorem decodeClipboardFiles_body {files : ClipboardFiles}
    (hLen : (ProtocolPayload.clipboardFiles files).body.length < 2 ^ 32) :
    decodeClipboardFiles (ProtocolPayload.clipboardFiles files).body =
      ClipboardFiles.new files.sourceId files.version <$>
        decodeFileEntries (files.files.flatMap encodeFileEntryVec)
          ((u16TryFrom files.files.length).getD 0).toNat 0 := by
  have hEntries (count : Nat) : decodeFileEntries (ProtocolPayload.clipboardFiles files).body count
      clipboardFilesMetadataLen =
        decodeFileEntries (files.files.flatMap encodeFileEntryVec) count 0 :=
    decodeFileEntries_behind count (by rw [← ProtocolPayload.body]; omega)
      (by simp [clipboardFilesMetadataLen])
  rw [decodeClipboardFiles, if_neg (by rw [body_length_files]; omega)]
  simp only [hEntries]
  simp [ProtocolPayload.body, readLe]
  rfl

theorem decodeClipboardFiles_nil : decodeClipboardFiles [] = fail .tooShort := rfl

/-- A list that fits its fields is read with its names sanitised again. -/
theorem decodeClipboardFiles_fits {files : ClipboardFiles}
    (hLen : (ProtocolPayload.clipboardFiles files).body.length < 2 ^ 32)
    (hCount : files.files.length < 2 ^ 16) (hNames : ∀ file ∈ files.files, NameFits file) :
    decodeClipboardFiles (ProtocolPayload.clipboardFiles files).body =
      .ok (.new files.sourceId files.version
        (files.files.map ClipboardFileMetadata.resanitized)) := by
  have hEntries : (files.files.flatMap encodeFileEntryVec ++ []).length < 2 ^ 62 := by
    rw [ProtocolPayload.body, List.length_append] at hLen
    rw [List.append_nil]
    omega
  have hLoop := decodeFileEntries_files hNames hEntries 0
  rw [List.append_nil, Nat.add_zero] at hLoop
  rw [decodeClipboardFiles_body hLen, u16TryFrom_of_lt hCount, Option.getD_some,
    UInt16.toNat_ofNat_of_lt' hCount, hLoop]
  simp [decodeFileEntries]

section Constructed

/-- Files built by `ClipboardFileMetadata::new` from their names, lengths and hashes. -/
def constructedFiles (arguments : List (String × UInt64 × UInt64)) : List ClipboardFileMetadata :=
  arguments.map fun (name, byteLen, contentHash) => .new name byteLen contentHash

theorem map_resanitized_constructed_iff (arguments : List (String × UInt64 × UInt64)) :
    (constructedFiles arguments).map ClipboardFileMetadata.resanitized = constructedFiles arguments ↔
      ∀ argument ∈ arguments, ¬ BlankAfterSeparator argument.1 := by
  rw [constructedFiles, List.map_map, List.map_inj_left]
  refine forall₂_congr fun argument _ => ?_
  rw [← sanitize_idem_iff]
  simp [ClipboardFileMetadata.resanitized, ClipboardFileMetadata.new]

/-- The frame of a list of constructed files. -/
def constructedFrame (sequence timestampMicros : UInt64) (sourceId : DeviceId) (version : UInt64)
    (arguments : List (String × UInt64 × UInt64)) : ProtocolFrame :=
  ⟨sequence, timestampMicros, .clipboardFiles (.new sourceId version (constructedFiles arguments))⟩

/-- A list of constructed files comes back exactly when its payload fits its length field and no
name has a blank behind its last separator. -/
theorem decode_constructedFrame_iff (sequence timestampMicros : UInt64) (sourceId : DeviceId)
    (version : UInt64) (arguments : List (String × UInt64 × UInt64))
    (hCount : arguments.length ≤ 65535)
    (hNames : ∀ file ∈ constructedFiles arguments, (asBytes file.name).length ≤ 65535) :
    ProtocolFrame.decode
        (constructedFrame sequence timestampMicros sourceId version arguments).encodeVec =
      .ok (constructedFrame sequence timestampMicros sourceId version arguments) ↔
    clipboardFilesMetadataLen + (arguments.map fun argument =>
        clipboardFileEntryMetadataLen +
          (asBytes (sanitizeClipboardFileName argument.1)).length).sum < 2 ^ 32 ∧
      ∀ argument ∈ arguments, ¬ BlankAfterSeparator argument.1 := by
  have hLength : (constructedFrame sequence timestampMicros sourceId version
      arguments).payload.body.length = clipboardFilesMetadataLen + (arguments.map fun argument =>
        clipboardFileEntryMetadataLen +
          (asBytes (sanitizeClipboardFileName argument.1)).length).sum := by
    simp only [constructedFrame, body_length_files, ClipboardFiles.new, constructedFiles,
      List.map_map]
    rfl
  have hFits : ∀ file ∈ constructedFiles arguments, NameFits file := fun file hFile =>
    Nat.lt_succ_of_le (hNames file hFile)
  have hCount : (constructedFiles arguments).length < 2 ^ 16 := by
    rw [constructedFiles, List.length_map]
    omega
  rw [← hLength, ← map_resanitized_constructed_iff]
  by_cases hLen : (constructedFrame sequence timestampMicros sourceId version
      arguments).payload.body.length < 2 ^ 32
  · have hDecode := decode_encodeVec _ [] hLen
    rw [List.append_nil] at hDecode
    rw [hDecode, constructedFrame, ProtocolPayload.tag, decodePayload_clipboardFiles,
      decodeClipboardFiles_fits hLen hCount hFits]
    constructor
    · intro h
      simp only [ClipboardFiles.new, map_ok, ok_bind, pure_eq_ok, Except.ok.injEq,
        ProtocolFrame.mk.injEq, ProtocolPayload.clipboardFiles.injEq, ClipboardFiles.mk.injEq,
        true_and] at h
      exact ⟨hLen, h.2⟩
    · rintro ⟨-, h⟩
      simp only [ClipboardFiles.new, h]
      rfl
  · rw [decode_encodeVec_of_overflow _ (by omega), constructedFrame, ProtocolPayload.tag,
      decodePayload_clipboardFiles, decodeClipboardFiles_nil]
    refine iff_of_false ?_ fun h => ?_
    · rintro ⟨⟩
    · exact hLen h.1

theorem decode_constructedFrame_notes :
    ProtocolFrame.decode (constructedFrame 1 2 3 4 [("dir/notes.txt ", 5, 6)]).encodeVec =
      .ok (constructedFrame 1 2 3 4 [("dir/notes.txt ", 5, 6)]) :=
  (decode_constructedFrame_iff 1 2 3 4 [("dir/notes.txt ", 5, 6)] (by decide)
    (by decide)).mpr ⟨by decide +kernel, by
      simp only [List.forall_mem_singleton, ← sanitize_idem_iff]
      decide⟩

/-- The name "a/ b" is stored as " b" and read as "b". -/
theorem decode_constructedFrame_blank :
    ProtocolFrame.decode (constructedFrame 1 2 3 4 [("a/ b", 5, 6)]).encodeVec ≠
        .ok (constructedFrame 1 2 3 4 [("a/ b", 5, 6)]) ∧
      sanitizeClipboardFileName (sanitizeClipboardFileName "a/ b") ≠
        sanitizeClipboardFileName "a/ b" := by
  decide

end Constructed

end Kmsync
