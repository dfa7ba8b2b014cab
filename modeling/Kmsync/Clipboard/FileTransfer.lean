import Kmsync.Core.Encode
import Kmsync.ProofKit.Chunks

/-! A file is sent as the list of its metadata and then in chunks.  Whatever the size of the file
and of the chunks, the chunks tile the file. -/

namespace Kmsync

open ProofKit

section Numbers

/-- `u64::try_from` of a `usize` -/
def u64TryFrom (n : ℕ) : Option UInt64 := if n < 2 ^ 64 then some (UInt64.ofNat n) else none

/-- `usize::checked_mul` -/
def checkedMul (a b : ℕ) : Option ℕ := if a * b < 2 ^ 64 then some (a * b) else none

/-- `u64::saturating_add` -/
def addSaturating (a b : UInt64) : UInt64 :=
  if a.toNat + b.toNat < 2 ^ 64 then a + b else UInt64.ofNat (2 ^ 64 - 1)

variable {n : ℕ} {a b : UInt64}

theorem toNat_of_u64TryFrom (h : u64TryFrom n = some a) : a.toNat = n := by
  rw [u64TryFrom] at h
  split at h
  next hLt =>
    obtain rfl := Option.some.inj h
    exact UInt64.toNat_ofNat_of_lt' hLt
  next => cases h

theorem toNat_of_u32TryFrom {a : UInt32} (h : u32TryFrom n = some a) : a.toNat = n := by
  rw [u32TryFrom] at h
  split at h
  next hLt =>
    obtain rfl := Option.some.inj h
    exact UInt32.toNat_ofNat_of_lt' hLt
  next => cases h

theorem le_toNat_addSaturating {total : UInt64} :
    total.toNat ≤ (addSaturating a b).toNat ↔ total.toNat ≤ a.toNat + b.toNat := by
  have hTotal := total.toNat_lt
  rw [addSaturating]
  split
  next hLt => rw [UInt64.toNat_add, Nat.mod_eq_of_lt hLt]
  next hNot =>
    rw [show (UInt64.ofNat (2 ^ 64 - 1)).toNat = 2 ^ 64 - 1 by decide]
    omega

end Numbers

section Building

def fileContentHash (bytes : List UInt8) : UInt64 := fnvHashBytes (fnvOffset ^^^ 0x04) bytes

/-- A conversion that the code turns into an error with this text. -/
def orError {α : Type} (text : String) : Option α → Except String α
  | some a => .ok a
  | none => .error text

variable (sourceId : DeviceId) (transferId : BitVec 128) (chunkBytes : ℕ)
  (timestampMicros totalSize : UInt64)

/-- One round of the loop over the chunks, with the number of frames so far. -/
def fileChunkFrame (frameCount index : ℕ) (chunk : List UInt8) : Except String ProtocolFrame := do
  let offset ← orError "file chunk offset overflow" ((checkedMul index chunkBytes).bind u64TryFrom)
  let chunkIndex ← orError "file chunk index overflow" (u32TryFrom index)
  let nextOffset := addSaturating offset ((u64TryFrom chunk.length).getD (.ofNat (2 ^ 64 - 1)))
  let sequence ← orError "file transfer sequence overflow" (u64TryFrom (frameCount + 1))
  let ahead ← orError "timestamp offset overflow" (u64TryFrom frameCount)
  return ⟨sequence, addSaturating timestampMicros ahead, .fileChunk
    ⟨transferId, sourceId, 0, offset, totalSize, chunkIndex, totalSize ≤ nextOffset, chunk⟩⟩

def buildFileTransferFrames (version : UInt64) (fileName : String) (data : List UInt8) :
    Except String (List ProtocolFrame) := do
  if chunkBytes = 0 then
    throw "file chunk bytes must be greater than zero"
  let totalSize ← orError "file too large" (u64TryFrom data.length)
  let metadata := ClipboardFiles.new sourceId version
    [.new fileName totalSize (fileContentHash data)]
  let frames : List ProtocolFrame := [⟨1, timestampMicros, .clipboardFiles metadata⟩]
  if data.isEmpty then
    return frames ++ [⟨2, addSaturating timestampMicros 1, .fileChunk
      ⟨transferId, sourceId, 0, 0, 0, 0, true, []⟩⟩]
  pushAll (fun frameCount (chunk, index) =>
    fileChunkFrame sourceId transferId chunkBytes timestampMicros totalSize frameCount index chunk)
    (chunks chunkBytes data).zipIdx frames

end Building

section Tiling

variable {sourceId : DeviceId} {transferId : BitVec 128} {chunkBytes : ℕ}
  {timestampMicros totalSize : UInt64}

theorem orError_eq_ok {α : Type} {text : String} {x : Option α} {a : α} :
    orError text x = .ok a ↔ x = some a := by
  cases x <;> simp [orError]

/-- What a round of the loop puts into its frame. -/
theorem fileChunkFrame_eq_ok {frameCount index : ℕ} {chunk : List UInt8} {frame : ProtocolFrame}
    (h : fileChunkFrame sourceId transferId chunkBytes timestampMicros totalSize frameCount index
      chunk = .ok frame) :
    frame.sequence.toNat = frameCount + 1 ∧
      ∃ piece : FileTransferChunk, .fileChunk piece = frame.payload ∧ piece.data = chunk ∧
        piece.offset.toNat = index * chunkBytes ∧ piece.chunkIndex.toNat = index ∧
        piece.totalSize = totalSize ∧
        (piece.isFinal = true ↔ totalSize.toNat ≤ index * chunkBytes + chunk.length) := by
  simp only [fileChunkFrame, except_bind_eq_ok, orError_eq_ok, Option.bind_eq_some_iff] at h
  obtain ⟨offset, ⟨product, hProduct, hOffset⟩, chunkIndex, hIndex, sequence, hSequence, ahead, -,
    hFrame⟩ := h
  obtain rfl := Except.ok.inj hFrame
  have hOffset' : offset.toNat = index * chunkBytes := by
    rw [toNat_of_u64TryFrom hOffset]
    rw [checkedMul] at hProduct
    split at hProduct
    · exact (Option.some.inj hProduct).symm
    · cases hProduct
  refine ⟨toNat_of_u64TryFrom hSequence, _, rfl, rfl, hOffset', toNat_of_u32TryFrom hIndex, rfl, ?_⟩
  show decide (totalSize ≤ _) = true ↔ _
  rw [decide_eq_true_iff, UInt64.le_iff_toNat_le, le_toNat_addSaturating, hOffset']
  have hTotal := totalSize.toNat_lt
  rw [u64TryFrom]
  split
  next hLt => rw [Option.getD_some, UInt64.toNat_ofNat_of_lt' hLt]
  next hNot =>
    -- A chunk too long to be counted reaches the end in either reading.
    rw [Option.getD_none, show (UInt64.ofNat (2 ^ 64 - 1)).toNat = 2 ^ 64 - 1 by decide]
    omega

/-- The chunks tile the data, in chunks of one size but for the last. -/
structure Tiles (chunkBytes : ℕ) (data : List UInt8) (pieces : List FileTransferChunk) : Prop where
  data_eq : pieces.flatMap (·.data) = data
  offset : ∀ i piece, pieces[i]? = some piece →
    piece.offset.toNat = ((pieces.take i).map (·.data.length)).sum
  index : ∀ i (piece : FileTransferChunk), pieces[i]? = some piece → piece.chunkIndex.toNat = i
  length : ∀ i piece, pieces[i]? = some piece → i + 1 < pieces.length →
    piece.data.length = chunkBytes
  final : ∀ i piece, pieces[i]? = some piece → (piece.isFinal = true ↔ i + 1 = pieces.length)
  total : ∀ piece ∈ pieces, piece.totalSize.toNat = data.length

/-- The frames of the chunks of some data, with `frameCount` frames in front of them. -/
theorem tiles_of_pushAll {data : List UInt8} {frameCount : ℕ} {frames : List ProtocolFrame}
    (hChunk : 0 < chunkBytes) (hTotal : totalSize.toNat = data.length)
    (hLength : frames.length = (chunks chunkBytes data).length)
    (hFrames : ∀ i chunk frame, (chunks chunkBytes data)[i]? = some chunk →
      frames[i]? = some frame →
      fileChunkFrame sourceId transferId chunkBytes timestampMicros totalSize (frameCount + i) i
        chunk = .ok frame) :
    ∃ pieces : List FileTransferChunk, frames.map (·.payload) = pieces.map .fileChunk ∧
      Tiles chunkBytes data pieces := by
  have hMem : frames.map (·.payload) ∈ Set.range (List.map ProtocolPayload.fileChunk) := by
    rw [Set.range_list_map]
    intro payload hPayload
    obtain ⟨frame, hFrame, rfl⟩ := List.mem_map.mp hPayload
    obtain ⟨i, hi, rfl⟩ := List.getElem_of_mem hFrame
    obtain ⟨-, piece, hPiece, -⟩ := fileChunkFrame_eq_ok
      (hFrames i _ _ (List.getElem?_eq_getElem (hLength ▸ hi)) (List.getElem?_eq_getElem hi))
    exact ⟨piece, hPiece⟩
  obtain ⟨pieces, hPieces⟩ := hMem
  have hCount : pieces.length = (chunks chunkBytes data).length := by
    rw [← hLength, ← List.length_map ProtocolPayload.fileChunk, hPieces, List.length_map]
  have hAt : ∀ i (piece : FileTransferChunk), pieces[i]? = some piece →
      (chunks chunkBytes data)[i]? = some piece.data ∧ piece.offset.toNat = i * chunkBytes ∧
        piece.chunkIndex.toNat = i ∧ piece.totalSize = totalSize ∧
        (piece.isFinal = true ↔ totalSize.toNat ≤ i * chunkBytes + piece.data.length) := by
    intro i piece hPiece
    have hIndex : i < (chunks chunkBytes data).length :=
      hCount ▸ (List.getElem?_eq_some_iff.mp hPiece).1
    have hChunkAt := List.getElem?_eq_getElem hIndex
    have hFrameAt := List.getElem?_eq_getElem (hLength.symm ▸ hIndex : i < frames.length)
    obtain ⟨-, piece', hPayload, rest⟩ := fileChunkFrame_eq_ok (hFrames i _ _ hChunkAt hFrameAt)
    have hSame : piece = piece' := by
      have hGet := congrArg (·[i]?) hPieces
      simp only [List.getElem?_map, hPiece, hFrameAt, Option.map_some, ← hPayload] at hGet
      exact ProtocolPayload.fileChunk.inj (Option.some.inj hGet)
    obtain ⟨hData, hRest⟩ := hSame ▸ rest
    rw [hData]
    exact ⟨hChunkAt, hRest⟩
  have hData : pieces.map (·.data) = chunks chunkBytes data := by
    refine List.ext_getElem (by rw [List.length_map, hCount]) fun i hi _ => ?_
    rw [List.length_map] at hi
    have hChunkAt := (hAt i _ (List.getElem?_eq_getElem hi)).1
    rw [List.getElem_map]
    exact (List.getElem?_eq_some_iff.mp hChunkAt).2.symm
  refine ⟨pieces, hPieces.symm, ?_, ?_, ?_, ?_, ?_, ?_⟩
  · rw [List.flatMap_def, hData, flatten_chunks hChunk]
  · intro i piece hPiece
    have hIndex := hCount ▸ (List.getElem?_eq_some_iff.mp hPiece).1
    rw [(hAt i piece hPiece).2.1, ← sum_length_take_chunks hChunk hIndex, ← hData, ← List.map_take,
      List.map_map]
    rfl
  · exact fun i piece hPiece => (hAt i piece hPiece).2.2.1
  · intro i piece hPiece hNext
    exact length_of_not_last hChunk (hAt i piece hPiece).1 (hCount ▸ hNext)
  · intro i piece hPiece
    obtain ⟨hChunkAt, -, -, -, hFinal⟩ := hAt i piece hPiece
    rw [hFinal, hTotal, hCount]
    exact le_iff_last hChunk hChunkAt
  · intro piece hPiece
    obtain ⟨i, hi, rfl⟩ := List.getElem_of_mem hPiece
    rw [(hAt i _ (List.getElem?_eq_getElem hi)).2.2.2.1, hTotal]

theorem sequences_of_pushAll {data : List UInt8} {frameCount : ℕ} {frames : List ProtocolFrame}
    (hLength : frames.length = (chunks chunkBytes data).length)
    (hFrames : ∀ i chunk frame, (chunks chunkBytes data)[i]? = some chunk →
      frames[i]? = some frame →
      fileChunkFrame sourceId transferId chunkBytes timestampMicros totalSize (frameCount + i) i
        chunk = .ok frame) :
    frames.map (·.sequence.toNat) = List.range' (frameCount + 1) frames.length := by
  apply List.ext_getElem
  · rw [List.length_map, List.length_range']
  · intro i hi _
    rw [List.length_map] at hi
    obtain ⟨hSequence, -⟩ := fileChunkFrame_eq_ok
      (hFrames i _ _ (List.getElem?_eq_getElem (hLength ▸ hi)) (List.getElem?_eq_getElem hi))
    rw [List.getElem_map, hSequence, List.getElem_range']
    omega

/-- The chunk of the empty file -/
theorem tiles_empty : Tiles chunkBytes [] [⟨transferId, sourceId, 0, 0, 0, 0, true, []⟩] := by
  have hOnly : ∀ i (piece : FileTransferChunk),
      [(⟨transferId, sourceId, 0, 0, 0, 0, true, []⟩ : FileTransferChunk)][i]? = some piece →
      i = 0 ∧ piece = ⟨transferId, sourceId, 0, 0, 0, 0, true, []⟩ := by
    intro i piece hPiece
    cases i with
    | zero => exact ⟨rfl, (Option.some.inj hPiece).symm⟩
    | succ i => cases hPiece
  refine ⟨rfl, ?_, ?_, ?_, ?_, by simp⟩
  · intro i piece hPiece
    obtain ⟨rfl, rfl⟩ := hOnly i piece hPiece
    rfl
  · intro i piece hPiece
    obtain ⟨rfl, rfl⟩ := hOnly i piece hPiece
    rfl
  · intro i piece hPiece hNext
    obtain ⟨rfl, rfl⟩ := hOnly i piece hPiece
    exact absurd hNext (lt_irrefl 1)
  · intro i piece hPiece
    obtain ⟨rfl, rfl⟩ := hOnly i piece hPiece
    exact iff_of_true rfl rfl

/-- Whenever the frames of a file are built, they are the metadata and then chunks that tile the
file, numbered from 1 on. -/
theorem fileTransfer_tiles {version : UInt64} {fileName : String} {data : List UInt8}
    {frames : List ProtocolFrame}
    (h : buildFileTransferFrames sourceId transferId chunkBytes timestampMicros version fileName
      data = .ok frames) :
    ∃ (files : ClipboardFiles) (file : ClipboardFileMetadata) (pieces : List FileTransferChunk),
      frames.map (·.payload) = .clipboardFiles files :: pieces.map .fileChunk ∧
      frames.map (·.sequence.toNat) = List.range' 1 frames.length ∧
      files.files = [file] ∧ file.byteLen.toNat = data.length ∧
      file.contentHash = fileContentHash (pieces.flatMap (·.data)) ∧
      Tiles chunkBytes data pieces ∧
      (data = [] → ∃ piece, pieces = [piece] ∧ piece.isFinal = true ∧ piece.data = []) := by
  simp only [buildFileTransferFrames] at h
  split at h
  next => cases h
  next hChunk =>
    obtain ⟨totalSize, hTotal, h⟩ := except_bind_eq_ok.mp h
    have hTotal := toNat_of_u64TryFrom (orError_eq_ok.mp hTotal)
    split at h
    next hEmpty =>
      obtain rfl := List.isEmpty_iff.mp hEmpty
      obtain rfl := Except.ok.inj h
      exact ⟨_, _, [⟨transferId, sourceId, 0, 0, 0, 0, true, []⟩], rfl, rfl, rfl, hTotal, rfl,
        tiles_empty, fun _ => ⟨_, rfl, rfl, rfl⟩⟩
    next hEmpty =>
      obtain ⟨out, rfl, hLength, hOut⟩ := pushAll_eq_ok h
      rw [List.length_zipIdx] at hLength
      have hFrames : ∀ i chunk frame, (chunks chunkBytes data)[i]? = some chunk →
          out[i]? = some frame →
          fileChunkFrame sourceId transferId chunkBytes timestampMicros totalSize (1 + i) i chunk =
            .ok frame := by
        intro i chunk frame hChunkAt hFrame
        exact hOut i (chunk, i) frame (by simp [hChunkAt]) hFrame
      obtain ⟨pieces, hPieces, hTiles⟩ :=
        tiles_of_pushAll (Nat.pos_of_ne_zero hChunk) hTotal hLength hFrames
      refine ⟨_, _, pieces, congrArg (_ :: ·) hPieces, ?_, rfl, hTotal, ?_, hTiles, ?_⟩
      · show 1 :: out.map (·.sequence.toNat) = List.range' 1 (out.length + 1)
        rw [List.range'_succ, sequences_of_pushAll hLength hFrames]
      · show fileContentHash data = _
        rw [hTiles.data_eq]
      · rintro rfl
        exact absurd rfl hEmpty

/-- Three bytes in chunks of two -/
def threeBytes : Except String (List ProtocolFrame) :=
  buildFileTransferFrames 7 9 2 1000 1 "a.bin" [1, 2, 3]

theorem threeBytes_tiles :
    ∃ (frames : List ProtocolFrame) (files : ClipboardFiles) (pieces : List FileTransferChunk),
      threeBytes = .ok frames ∧
      frames.map (·.payload) = .clipboardFiles files :: pieces.map .fileChunk ∧
      Tiles 2 [1, 2, 3] pieces := by
  have hChunks : chunks 2 ([1, 2, 3] : List UInt8) = [[1, 2], [3]] := by simp [chunks]
  obtain ⟨frames, hFrames⟩ : ∃ frames, threeBytes = .ok frames := by
    rw [threeBytes, buildFileTransferFrames, hChunks]
    exact ⟨_, rfl⟩
  obtain ⟨files, _, pieces, hPayloads, -, -, -, -, hTiles, -⟩ := fileTransfer_tiles hFrames
  exact ⟨frames, files, pieces, hFrames, hPayloads, hTiles⟩

end Tiling

end Kmsync
