import Kmsync.Core.FileList

/-! The decoder takes any bytes.  Every read lies behind a check of the length that covers it, and
no sum of lengths overflows, so the decoder ends in a frame or in one of its errors.  What it reads
of a frame is the header and as many bytes as the header declares. -/

namespace Kmsync

open ProofKit

section Fields

variable (value : UInt8)

theorem decodeInputChannel_noPanic : NoPanic (decodeInputChannel value) := by
  unfold decodeInputChannel
  split_ifs <;> nofun

theorem decodeKeyState_noPanic : NoPanic (decodeKeyState value) := by
  unfold decodeKeyState
  split_ifs <;> nofun

theorem decodeMouseButton_noPanic : NoPanic (decodeMouseButton value) := by
  unfold decodeMouseButton
  split_ifs <;> nofun

theorem decodeControlSessionState_noPanic : NoPanic (decodeControlSessionState value) := by
  unfold decodeControlSessionState
  split_ifs <;> nofun

theorem decodeClipboardFormat_noPanic : NoPanic (decodeClipboardFormat value) := by
  unfold decodeClipboardFormat
  split_ifs <;> nofun

theorem decodeIsFinal_noPanic : NoPanic (decodeIsFinal value) := by
  unfold decodeIsFinal
  split_ifs <;> nofun

end Fields

section Events

theorem readCoordinates_noPanic (input : List UInt8) : NoPanic (readCoordinates input) := by
  unfold readCoordinates
  refine .ite (fun _ => .error _) fun hLen => ?_
  refine .bind (.readLe (by omega) (by omega) rfl) fun x => ?_
  exact .bind (.readLe (by omega) (by omega) rfl) fun y => .ok _

theorem decodeInputEvent_noPanic (input : List UInt8) : NoPanic (decodeInputEvent input) := by
  unfold decodeInputEvent
  split
  next => exact .error _
  next kind rest =>
    refine .ite (fun _ => .ite (fun _ => .error _) fun hLen => ?key) fun _ => ?_
    case key =>
      refine .bind (.readLe (by omega) (by omega) rfl) fun keyRaw => ?_
      split
      next => exact .error _
      next key =>
        refine .bind (.readByte (by omega)) fun state => ?_
        refine .bind (decodeKeyState_noPanic state) fun state => ?_
        exact .bind (.readByte (by omega)) fun modifiers => .ok _
    refine .ite (fun _ => .bind (readCoordinates_noPanic _) fun _ => .ok _) fun _ => ?_
    refine .ite (fun _ => .bind (readCoordinates_noPanic _) fun _ => .ok _) fun _ => ?_
    refine .ite (fun _ => .ite (fun _ => .error _) fun hLen => ?button) fun _ => ?_
    case button =>
      refine .bind (.readByte (by omega)) fun button => ?_
      refine .bind (decodeMouseButton_noPanic button) fun button => ?_
      refine .bind (.readByte (by omega)) fun state => ?_
      exact .bind (decodeKeyState_noPanic state) fun state => .ok _
    exact .ite (fun _ => .bind (readCoordinates_noPanic _) fun _ => .ok _) fun _ => .error _

theorem ProtocolEvent.decode_noPanic (input : List UInt8) :
    NoPanic (ProtocolEvent.decode input) := by
  unfold ProtocolEvent.decode
  refine .ite (fun _ => .error _) fun hLen => ?_
  refine .bind (.readSlice (by omega) (by omega)) fun start => ?_
  refine .ite (fun _ => .error _) fun _ => ?_
  refine .bind (.readLe (by omega) (by omega) rfl) fun sequence => ?_
  refine .bind (.readLe (by omega) (by omega) rfl) fun timestampMicros => ?_
  refine .bind (.readFrom (by omega)) fun rest => ?_
  exact .bind (decodeInputEvent_noPanic rest) fun event => .ok _

end Events

section Payloads

variable (payloadBytes : List UInt8)

theorem decodeInput_noPanic : NoPanic (decodeInput payloadBytes) := by
  unfold decodeInput
  rw [inputMetadataLen]
  refine .ite (fun _ => .error _) fun hLen => ?_
  refine .bind (.readLe (by omega) (by omega) rfl) fun sourceDeviceId => ?_
  refine .bind (.readLe (by omega) (by omega) rfl) fun targetDeviceId => ?_
  refine .bind (.readLe (by omega) (by omega) rfl) fun protocolVersion => ?_
  refine .bind (.readByte (by omega)) fun channel => ?_
  refine .bind (decodeInputChannel_noPanic channel) fun channel => ?_
  refine .bind (.readFrom (by omega)) fun rest => ?_
  exact .bind (decodeInputEvent_noPanic rest) fun event => .ok _

theorem decodeClipboardText_noPanic : NoPanic (decodeClipboardText payloadBytes) := by
  unfold decodeClipboardText
  rw [clipboardMetadataLen]
  refine .ite (fun _ => .error _) fun hLen => ?_
  refine .bind (.readLe (by omega) (by omega) rfl) fun sourceId => ?_
  refine .bind (.readLe (by omega) (by omega) rfl) fun version => ?_
  refine .bind (.readFrom (by omega)) fun text => ?_
  exact .bind (fromUtf8_noPanic text) fun text => .ok _

theorem decodeClipboardContent_noPanic : NoPanic (decodeClipboardContent payloadBytes) := by
  unfold decodeClipboardContent
  rw [clipboardContentMetadataLen]
  refine .ite (fun _ => .error _) fun hLen => ?_
  refine .bind (.readLe (by omega) (by omega) rfl) fun sourceId => ?_
  refine .bind (.readLe (by omega) (by omega) rfl) fun version => ?_
  refine .bind (.readByte (by omega)) fun format => ?_
  refine .bind (decodeClipboardFormat_noPanic format) fun format => ?_
  refine .bind (.readLe (by omega) (by omega) rfl) fun firstLen => ?_
  refine .bind (.readLe (by omega) (by omega) rfl) fun secondLen => ?_
  have hFirst := firstLen.toNat_lt
  have hSecond := secondLen.toNat_lt
  dsimp only
  rw [checkedAdd_bind, checkedAdd, if_pos (by omega)]
  refine .ite (fun _ => .error _) fun hRequired => ?_
  refine .ite (fun _ => .bind (.readFrom (by omega)) fun _ => .ok _) fun _ => ?_
  rw [addUsize_of_lt (by omega), ok_bind, addUsize_of_lt (by omega), ok_bind]
  refine .bind (.readSlice (by omega) (by omega)) fun text => ?_
  refine .bind (fromUtf8_noPanic text) fun text => ?_
  refine .ite (fun _ => .bind (.ok _) fun html => .ok _) fun _ => ?_
  refine .bind (.map _ (.bind (.readSlice (by omega) (by omega)) fun html => ?_)) fun html => .ok _
  exact fromUtf8_noPanic html

theorem decodeClipboardFiles_noPanic {payloadBytes : List UInt8}
    (hBytes : payloadBytes.length < 2 ^ 63) : NoPanic (decodeClipboardFiles payloadBytes) := by
  unfold decodeClipboardFiles
  rw [clipboardFilesMetadataLen]
  refine .ite (fun _ => .error _) fun hLen => ?_
  refine .bind (.readLe (by omega) (by omega) rfl) fun sourceId => ?_
  refine .bind (.readLe (by omega) (by omega) rfl) fun version => ?_
  refine .bind (.readLe (by omega) (by omega) rfl) fun fileCount => ?_
  exact .bind (decodeFileEntries_noPanic _ hBytes (by omega)) fun files => .ok _

theorem decodeFileChunk_noPanic : NoPanic (decodeFileChunk payloadBytes) := by
  unfold decodeFileChunk
  rw [fileChunkMetadataLen]
  refine .ite (fun _ => .error _) fun hLen => ?_
  refine .bind (.readByte (by omega)) fun final => ?_
  refine .bind (decodeIsFinal_noPanic final) fun isFinal => ?_
  refine .bind (.readLe (by omega) (by omega) rfl) fun transferId => ?_
  refine .bind (.readLe (by omega) (by omega) rfl) fun sourceId => ?_
  refine .bind (.readLe (by omega) (by omega) rfl) fun fileIndex => ?_
  refine .bind (.readLe (by omega) (by omega) rfl) fun offset => ?_
  refine .bind (.readLe (by omega) (by omega) rfl) fun totalSize => ?_
  refine .bind (.readLe (by omega) (by omega) rfl) fun chunkIndex => ?_
  exact .bind (.readFrom (by omega)) fun data => .ok _

theorem decodeControlMessage_noPanic : NoPanic (decodeControlMessage payloadBytes) := by
  unfold decodeControlMessage
  split
  next => exact .error _
  next kind rest =>
    refine .ite (fun _ => .ite (fun _ => .error _) fun hLen => ?heartbeat) fun _ =>
      .ite (fun _ => .ite (fun _ => .error _) fun hLen => ?capabilities) fun _ =>
      .ite (fun _ => .ite (fun _ => .error _) fun hLen => ?configVersion) fun _ =>
      .ite (fun _ => .ite (fun _ => .error _) fun hLen => ?sessionState) fun _ => .error _
    case heartbeat =>
      refine .bind (.readLe (by omega) (by omega) rfl) fun sourceDeviceId => ?_
      refine .bind (.readLe (by omega) (by omega) rfl) fun sessionId => ?_
      exact .bind (.readLe (by omega) (by omega) rfl) fun sequence => .ok _
    case capabilities =>
      refine .bind (.readLe (by omega) (by omega) rfl) fun sourceDeviceId => ?_
      refine .bind (.readLe (by omega) (by omega) rfl) fun min => ?_
      refine .bind (.readLe (by omega) (by omega) rfl) fun max => ?_
      exact .bind (.readByte (by omega)) fun channels => .ok _
    case configVersion =>
      refine .bind (.readLe (by omega) (by omega) rfl) fun sourceDeviceId => ?_
      exact .bind (.readLe (by omega) (by omega) rfl) fun version => .ok _
    case sessionState =>
      refine .bind (.readLe (by omega) (by omega) rfl) fun sourceDeviceId => ?_
      refine .bind (.readLe (by omega) (by omega) rfl) fun sessionId => ?_
      refine .bind (.readByte (by omega)) fun state => ?_
      exact .bind (decodeControlSessionState_noPanic state) fun state => .ok _

theorem decodePayload_noPanic (payloadType : UInt8) {payloadBytes : List UInt8}
    (hBytes : payloadBytes.length < 2 ^ 63) : NoPanic (decodePayload payloadType payloadBytes) := by
  unfold decodePayload
  refine .ite (fun _ => .map _ (ProtocolEvent.decode_noPanic _)) fun _ => ?_
  refine .ite (fun _ => .map _ (decodeInput_noPanic _)) fun _ => ?_
  refine .ite (fun _ => .map _ (fromUtf8_noPanic _)) fun _ => ?_
  refine .ite (fun _ => .map _ (decodeClipboardText_noPanic _)) fun _ => ?_
  refine .ite (fun _ => .map _ (decodeClipboardContent_noPanic _)) fun _ => ?_
  refine .ite (fun _ => .map _ (decodeClipboardFiles_noPanic hBytes)) fun _ => ?_
  refine .ite (fun _ => .map _ (decodeFileChunk_noPanic _)) fun _ => ?_
  exact .ite (fun _ => .map _ (decodeControlMessage_noPanic _)) fun _ => .error _

end Payloads

theorem slice?_length_lt {input payloadBytes : List UInt8} (len : UInt32)
    (h : (readSlice input 25 (25 + len.toNat) : Decoded (List UInt8)) = .ok payloadBytes) :
    payloadBytes.length < 2 ^ 63 := by
  have hLen := len.toNat_lt
  rw [slice?_length (orPanic_eq_ok.mp h)]
  omega

theorem decode_noPanic (input : List UInt8) : NoPanic (ProtocolFrame.decode input) := by
  unfold ProtocolFrame.decode
  refine .ite (fun _ => .error _) fun hLen => ?_
  refine .bind (.readSlice (by omega) (by omega)) fun start => ?_
  refine .ite (fun _ => .bind (ProtocolEvent.decode_noPanic input) fun event => .ok _) fun _ => ?_
  refine .bind (.readLe (by omega) (by omega) rfl) fun sequence => ?_
  refine .bind (.readLe (by omega) (by omega) rfl) fun timestampMicros => ?_
  refine .bind (.readByte (by omega)) fun payloadType => ?_
  refine .bind (.readLe (by omega) (by omega) rfl) fun len => ?_
  have hWidth := len.toNat_lt
  dsimp only
  rw [addUsize_of_lt (by omega), ok_bind]
  refine .ite (fun _ => .error _) fun hBody => ?_
  rw [ok_bind]
  refine .bind_of_ok (.readSlice (by omega) (by omega)) fun payloadBytes hPayload => ?_
  exact .bind (decodePayload_noPanic _ (slice?_length_lt len hPayload)) fun payload => .ok _

section Prefix

/-- The length of the payload that the header of a frame declares. -/
def declaredLen (input : List UInt8) : Nat := ((leAt? UInt32 input 21 25).getD 0).toNat

/-- How a frame of the current format is read. -/
theorem decode_of_frameMagic {input : List UInt8} (hMagic : input.take 4 = frameMagic)
    (hLen : 25 ≤ input.length) :
    ProtocolFrame.decode input =
      (do
        let sequence ← readLe UInt64 input 4 12
        let timestampMicros ← readLe UInt64 input 12 20
        let payloadType ← readByte input 20
        if input.length < 25 + declaredLen input then fail .tooShort
        else
          let payloadBytes ← readSlice input 25 (25 + declaredLen input)
          let payload ← decodePayload payloadType payloadBytes
          return ⟨sequence, timestampMicros, payload⟩) := by
  obtain ⟨len, hField⟩ : ∃ len : UInt32, leAt? UInt32 input 21 25 = some len :=
    leAt?_isSome (by omega) (by omega) rfl
  have hDeclared : declaredLen input = len.toNat := by
    rw [declaredLen, hField]
    rfl
  have hStart : slice? input 0 4 = some frameMagic := by
    rw [slice?_eq_some (by omega) (by omega), ← hMagic]
    rfl
  have hSum : addUsize 25 len.toNat = .ok (25 + len.toNat) :=
    addUsize_of_lt (by have := len.toNat_lt; omega)
  rw [ProtocolFrame.decode, if_neg (by omega), readSlice, hStart, orPanic_some, ok_bind,
    if_neg (not_not_intro rfl)]
  simp only [show readLe UInt32 input 21 25 = (.ok len : Decoded UInt32) by
    rw [readLe, hField, orPanic_some], ok_bind, hSum, hDeclared]

/-- A frame that is accepted has as many bytes as it declares. -/
theorem declaredLen_le {input : List UInt8} {frame : ProtocolFrame}
    (hMagic : input.take 4 = frameMagic) (h : ProtocolFrame.decode input = .ok frame) :
    25 + declaredLen input ≤ input.length := by
  have hLen : 25 ≤ input.length := by
    by_contra hShort
    rw [ProtocolFrame.decode, if_pos (by omega)] at h
    cases h
  rw [decode_of_frameMagic hMagic hLen] at h
  obtain ⟨sequence, -, h⟩ := bind_eq_ok.mp h
  obtain ⟨timestampMicros, -, h⟩ := bind_eq_ok.mp h
  obtain ⟨payloadType, -, h⟩ := bind_eq_ok.mp h
  split at h
  next => cases h
  next hBody => exact Nat.le_of_not_lt hBody

/-- A frame of the current format is read from its first bytes alone. -/
theorem decode_take {input : List UInt8} {n : Nat} (hMagic : input.take 4 = frameMagic)
    (hDeclared : 25 + declaredLen input ≤ n) (hn : n ≤ input.length) :
    ProtocolFrame.decode (input.take n) = ProtocolFrame.decode input := by
  have hTake : (input.take n).length = n := List.length_take_of_le hn
  have hHeader : (input.take n).take 4 = frameMagic := by
    rw [List.take_take, Nat.min_eq_left (by omega), hMagic]
  have hField : declaredLen (input.take n) = declaredLen input := by
    rw [declaredLen, leAt?_take (by omega), declaredLen]
  have hBody : ¬ n < 25 + declaredLen input := by omega
  have hBody' : ¬ input.length < 25 + declaredLen input := by omega
  rw [decode_of_frameMagic hHeader (by omega), decode_of_frameMagic hMagic (by omega), hField]
  simp (disch := omega) only [readSlice, readLe, readByte, slice?_take, leAt?_take,
    List.getElem?_take_of_lt, hTake, if_neg hBody, if_neg hBody']

/-- Any bytes decode to a frame or to an error, without a panic on the way.  A frame of the current
format is determined by its header and the bytes that the header declares. -/
theorem decode_safe (input : List UInt8) :
    ((∃ frame, ProtocolFrame.decode input = .ok frame) ∨
        ∃ e, ProtocolFrame.decode input = .error (.error e)) ∧
      ∀ frame, input.take 4 = frameMagic → ProtocolFrame.decode input = .ok frame →
        25 + declaredLen input ≤ input.length ∧
          ∀ input' : List UInt8,
            input'.take (25 + declaredLen input) = input.take (25 + declaredLen input) →
            ProtocolFrame.decode input' = .ok frame := by
  refine ⟨(decode_noPanic input).ok_or_error, fun frame hMagic hFrame => ?_⟩
  have hLen := declaredLen_le hMagic hFrame
  refine ⟨hLen, fun input' hInput => ?_⟩
  have hLen' : 25 + declaredLen input ≤ input'.length := by
    have hTake := congrArg List.length hInput
    rw [List.length_take_of_le hLen, List.length_take] at hTake
    omega
  have hMagic' : input'.take 4 = frameMagic := by
    have hTake := congrArg (List.take 4) hInput
    rwa [List.take_take, List.take_take, Nat.min_eq_left (by omega), hMagic] at hTake
  have hField : declaredLen input' = declaredLen input := by
    have hTake := congrArg (leAt? UInt32 · 21 25) hInput
    simp only [leAt?_take (show 25 ≤ 25 + declaredLen input by omega)] at hTake
    rw [declaredLen, hTake, declaredLen]
  rw [← decode_take hMagic' (by omega) hLen', hInput, decode_take hMagic le_rfl hLen, hFrame]

/-- A heartbeat, of which a byte behind it changes nothing. -/
theorem decode_safe_heartbeat :
    ProtocolFrame.decode
        ((⟨7, 9, .control (.heartbeat 1 2 3)⟩ : ProtocolFrame).encodeVec ++ [255]) =
      .ok ⟨7, 9, .control (.heartbeat 1 2 3)⟩ := by
  have hSafe := (decode_safe (⟨7, 9, .control (.heartbeat 1 2 3)⟩ : ProtocolFrame).encodeVec).2
    ⟨7, 9, .control (.heartbeat 1 2 3)⟩ (by decide) (by decide +kernel)
  exact hSafe.2 _ (List.take_append_of_le_length hSafe.1)

end Prefix

end Kmsync
