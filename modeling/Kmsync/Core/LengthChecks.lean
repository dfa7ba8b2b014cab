import Kmsync.Core.DecodeSafety

/-! Two checks of a length that come before the decoder knows what it reads.  The content of a
clipboard is measured by its two length fields, which hold width and height for an image; and a
packet is measured by the header of the current format, which a packet of the old one need not
have. -/

namespace Kmsync

open ProofKit

section Images

/-- The frame of an image. -/
def imageFrame (sequence timestampMicros : UInt64) (sourceId : DeviceId) (version : UInt64)
    (width height : UInt32) (rgba : List UInt8) : ProtocolFrame :=
  ⟨sequence, timestampMicros, .clipboardText (.newImage sourceId version width height rgba)⟩

/-- An image with four bytes a pixel has at least as many bytes as its width and height together,
unless one of them is zero and the other is not. -/
theorem add_le_pixels_iff (width height : Nat) :
    width + height ≤ 4 * width * height ↔ (width = 0 ↔ height = 0) := by
  constructor
  · intro h
    constructor
    · rintro rfl
      omega
    · rintro rfl
      omega
  · intro h
    rcases Nat.eq_zero_or_pos width with rfl | hWidth
    · omega
    · have hHeight : 0 < height := Nat.pos_of_ne_zero fun hZero => by
        have := h.mpr hZero
        omega
      have hLeft : width ≤ width * height := Nat.le_mul_of_pos_right width hHeight
      have hRight : height ≤ width * height := Nat.le_mul_of_pos_left height hWidth
      rw [Nat.mul_assoc]
      omega

/-- An image comes back from its frame exactly when none or both of its sides are zero. -/
theorem decode_imageFrame_iff (sequence timestampMicros : UInt64) (sourceId : DeviceId)
    (version : UInt64) (width height : UInt32) (rgba : List UInt8)
    (hRgba : rgba.length = 4 * width.toNat * height.toNat)
    (hLen : (imageFrame sequence timestampMicros sourceId version width height
      rgba).payload.body.length < 2 ^ 32) :
    ProtocolFrame.decode
        (imageFrame sequence timestampMicros sourceId version width height rgba).encodeVec =
      .ok (imageFrame sequence timestampMicros sourceId version width height rgba) ↔
    (width = 0 ↔ height = 0) := by
  have hContent : clipboardUsesContentFrame (.newImage sourceId version width height rgba) := rfl
  have hBody : (ProtocolPayload.clipboardText
      (.newImage sourceId version width height rgba)).body.length =
        clipboardContentMetadataLen + rgba.length := body_length_content hContent
  have hImage : decodeClipboardContent
      (ProtocolPayload.clipboardText (.newImage sourceId version width height rgba)).body =
        if clipboardContentMetadataLen + rgba.length <
          clipboardContentMetadataLen + (width.toNat + height.toNat) then fail .tooShort
        else .ok (.newImage sourceId version width height rgba) := by
    rw [← hBody]
    exact decodeClipboardContent_image hContent rfl rfl
  have hDecode := decode_encodeVec _ [] hLen
  rw [List.append_nil, imageFrame, ProtocolPayload.tag, if_pos hContent,
    decodePayload_clipboardContent, hImage, hRgba] at hDecode
  rw [imageFrame, hDecode, ← UInt32.toNat_inj, ← UInt32.toNat_inj, UInt32.toNat_zero,
    ← add_le_pixels_iff]
  by_cases hSides : width.toNat + height.toNat ≤ 4 * width.toNat * height.toNat
  · rw [if_neg (by omega)]
    exact iff_of_true rfl hSides
  · rw [if_pos (by omega)]
    exact iff_of_false (fun h => by cases h) hSides

/-- One white pixel. -/
theorem decode_imageFrame_pixel :
    ProtocolFrame.decode (imageFrame 7 9 1 2 1 1 [255, 255, 255, 255]).encodeVec =
      .ok (imageFrame 7 9 1 2 1 1 [255, 255, 255, 255]) :=
  (decode_imageFrame_iff 7 9 1 2 1 1 [255, 255, 255, 255] rfl (by decide)).mpr (by decide)

/-- An image without width is turned away as too short. -/
theorem decode_imageFrame_empty :
    ([] : List UInt8).length = 4 * (0 : UInt32).toNat * (1 : UInt32).toNat ∧
      (imageFrame 7 9 1 2 0 1 []).payload.body.length < 2 ^ 32 ∧
      ProtocolFrame.decode (imageFrame 7 9 1 2 0 1 []).encodeVec = fail .tooShort := by
  decide

end Images

section Legacy

/-- What a packet of the old format stands for. -/
def legacyFrame (event : ProtocolEvent) : ProtocolFrame :=
  ⟨event.sequence, event.timestampMicros, legacyInput event⟩

@[simp] theorem magic_length : magic.length = 4 := by simp [magic]

/-- From the length of a header on, the frame decoder leaves a packet of the old format to the old
decoder. -/
theorem decode_of_magic {input : List UInt8} (hMagic : input.take 4 = magic)
    (hLen : 25 ≤ input.length) :
    ProtocolFrame.decode input = legacyFrame <$> ProtocolEvent.decode input := by
  have hStart : slice? input 0 4 = some magic := by
    rw [slice?_eq_some (by omega) (by omega), ← hMagic]
    rfl
  rw [ProtocolFrame.decode, if_neg (by omega), readSlice, hStart, orPanic_some, ok_bind,
    if_pos (by decide)]
  cases ProtocolEvent.decode input <;> rfl

/-- A packet of the old format has 25 bytes or more, unless it holds a mouse button. -/
theorem le_encode_length_iff (event : ProtocolEvent) :
    25 ≤ event.encode.length ↔ ∀ button state, event.event ≠ .mouse (.button button state) := by
  obtain ⟨sequence, timestampMicros, event⟩ := event
  have hLen : (ProtocolEvent.encode ⟨sequence, timestampMicros, event⟩).length =
      20 + (encodeInputEvent event).length := by
    simp [ProtocolEvent.encode]
    omega
  rw [hLen]
  cases event with
  | key event => simp [encodeInputEvent]
  | mouse event => cases event <;> simp [encodeInputEvent]
  | scroll event => simp [encodeInputEvent]

/-- The old decoder reads every packet of the old format. -/
theorem ProtocolEvent.decode_encode (event : ProtocolEvent) :
    ProtocolEvent.decode event.encode = .ok event := by
  have hPos := encodeInputEvent_length_pos event.event
  rw [ProtocolEvent.decode, if_neg (by simp [ProtocolEvent.encode]; omega)]
  simp [ProtocolEvent.encode, readSlice, readLe, readFrom]

/-- The frame decoder reads a packet of the old format as what it stands for, which is what the
old decoder makes of it, exactly when the packet holds no mouse button. -/
theorem decode_legacy_iff (event : ProtocolEvent) :
    (ProtocolFrame.decode event.encode = .ok (legacyFrame event) ↔
        ∀ button state, event.event ≠ .mouse (.button button state)) ∧
      (ProtocolFrame.decode event.encode = legacyFrame <$> ProtocolEvent.decode event.encode ↔
        ∀ button state, event.event ≠ .mouse (.button button state)) := by
  rw [ProtocolEvent.decode_encode, map_ok, and_self, ← le_encode_length_iff]
  by_cases hLen : 25 ≤ event.encode.length
  · rw [decode_of_magic rfl hLen, ProtocolEvent.decode_encode]
    exact iff_of_true rfl hLen
  · rw [ProtocolFrame.decode, if_pos (by omega)]
    exact iff_of_false (fun h => by cases h) hLen

/-- The press of the left button, which only the old decoder reads. -/
theorem decode_legacy_button :
    ProtocolFrame.decode (ProtocolEvent.encode ⟨46, 11, .mouse (.button .left .pressed)⟩) =
        fail .tooShort ∧
      ProtocolEvent.decode (ProtocolEvent.encode ⟨46, 11, .mouse (.button .left .pressed)⟩) =
        .ok ⟨46, 11, .mouse (.button .left .pressed)⟩ := by
  decide

end Legacy

end Kmsync
