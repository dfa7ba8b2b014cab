import Kmsync.DataPlane.Security

/-! What the sealer of a connection puts on the wire.  Its numbers go up from envelope to envelope:
the epochs run out of nonces long before the counter could stop. -/

namespace Kmsync

open ProofKit

variable {κ : Type} {crypto : FrameCrypto κ} {config : DataPlaneSecurityConfig} {lane : QuicLane}
  {epoch sequence : UInt64} {frame : ProtocolFrame} {bytes : List UInt8}

section Envelope

theorem dataPlaneNonce_eq_ok {nonce : List UInt8} (h : dataPlaneNonce epoch sequence = .ok nonce) :
    epoch.toNat < 2 ^ 32 := by
  unfold dataPlaneNonce at h
  split at h
  next hEpoch => exact hEpoch
  next => cases h

/-- What went right when an envelope was sealed. -/
theorem sealEnvelope_eq_ok (h : sealEnvelope crypto config lane epoch sequence frame = .ok bytes) :
    ∃ key cipher nonce ciphertext, config.keyForEpoch crypto epoch = .ok key ∧
      crypto.newFromSlice key = some cipher ∧ dataPlaneNonce epoch sequence = .ok nonce ∧
      crypto.encrypt cipher nonce frame.encodeVec (dataPlaneHeader lane epoch sequence) =
        some ciphertext ∧
      bytes = dataPlaneHeader lane epoch sequence ++ ciphertext := by
  obtain ⟨key, hKey, h⟩ := bind_eq_ok.mp h
  obtain ⟨cipher, hCipher, h⟩ := bind_eq_ok.mp h
  obtain ⟨nonce, hNonce, h⟩ := bind_eq_ok.mp h
  obtain ⟨ciphertext, hCiphertext, h⟩ := bind_eq_ok.mp h
  cases h
  exact ⟨key, cipher, nonce, ciphertext, hKey, orRefuse_eq_ok.mp hCipher, hNonce,
    orRefuse_eq_ok.mp hCiphertext, rfl⟩

theorem parseHeader_of_sealEnvelope
    (h : sealEnvelope crypto config lane epoch sequence frame = .ok bytes) :
    dataPlaneParseHeader bytes = .ok ⟨lane, epoch, sequence⟩ := by
  obtain ⟨-, -, -, ciphertext, -, -, -, -, rfl⟩ := sealEnvelope_eq_ok h
  exact dataPlaneParseHeader_append lane epoch sequence ciphertext

/-- An envelope passes every check before the replay window, on the lane of its frame. -/
theorem checkFrame_of_sealEnvelope (hInverts : crypto.Inverts)
    (hDecode : ProtocolFrame.decode frame.encodeVec = .ok frame)
    (hLane : lane.transportLane = frame.payload.transportLane)
    (h : sealEnvelope crypto config lane epoch sequence frame = .ok bytes) {opener : DataPlaneOpener}
    (hConfig : opener.config = config) (hRevoked : opener.revokedDevices = []) :
    opener.checkFrame crypto lane bytes = .ok (⟨lane, epoch, sequence⟩, frame) := by
  have hHeader := parseHeader_of_sealEnvelope h
  obtain ⟨key, cipher, nonce, ciphertext, hKey, hCipher, hNonce, hEncrypt, rfl⟩ :=
    sealEnvelope_eq_ok h
  have hLength : dataPlaneHeaderLen = (dataPlaneHeader lane epoch sequence).length :=
    (dataPlaneHeader_length lane epoch sequence).symm
  have hBody : readFrom (dataPlaneHeader lane epoch sequence ++ ciphertext) dataPlaneHeaderLen =
      (.ok ciphertext : Checked String (List UInt8)) := by
    rw [readFrom, sliceFrom?_append_skip hLength.ge, dataPlaneHeader_length, Nat.sub_self,
      sliceFrom?_zero, orPanic_some]
  have hAad : readSlice (dataPlaneHeader lane epoch sequence ++ ciphertext) 0 dataPlaneHeaderLen =
      (.ok (dataPlaneHeader lane epoch sequence) : Checked String (List UInt8)) := by
    rw [readSlice, slice?_append_here hLength, orPanic_some]
  have hDecrypt := hInverts cipher nonce frame.encodeVec _ ciphertext hEncrypt
  simp only [DataPlaneOpener.checkFrame, hHeader, ok_bind, ne_eq, not_true, if_false, hConfig, hKey,
    hCipher, orRefuse_some, hBody, hNonce, hAad, hDecrypt, hDecode, mapDecodeError, hLane, hRevoked,
    revokedFrameDeviceId, List.isEmpty_nil, if_true, pure_eq_ok]

end Envelope

namespace DataPlaneSealer

/-- With the default rotation, the counter has counted the frames of all epochs, as long as the
epoch fits its half of the nonce. -/
structure Counts (sealer : DataPlaneSealer) : Prop where
  rotation : sealer.config.rotationFrames = dataPlaneDefaultRotationFrames
  frames_le : sealer.framesInEpoch.toNat ≤ 4096
  counts : sealer.epoch.toNat < 2 ^ 32 →
    sealer.nextSequence.toNat = sealer.epoch.toNat * 4096 + sealer.framesInEpoch.toNat + 1

theorem counts_new (secret : List UInt8) : (new (.fromSecret secret)).Counts where
  rotation := rfl
  frames_le := Nat.zero_le _
  counts _ := by
    change (1 : UInt64).toNat = (0 : UInt64).toNat * 4096 + (0 : UInt64).toNat + 1
    rw [UInt64.toNat_zero, UInt64.toNat_one]

variable {sealer : DataPlaneSealer}

namespace Counts

/-- After `rotate` there is room for one more frame in the epoch. -/
theorem rotate (h : sealer.Counts) :
    sealer.rotate.Counts ∧ sealer.rotate.framesInEpoch.toNat < 4096 := by
  have hMax : max sealer.config.rotationFrames 1 = 4096 := by
    rw [h.rotation]
    decide
  have hFrames := h.frames_le
  unfold DataPlaneSealer.rotate
  rw [hMax]
  split
  next hFull =>
    have hFull : 4096 ≤ sealer.framesInEpoch.toNat := UInt64.le_iff_toNat_le.mp hFull
    refine ⟨⟨h.rotation, Nat.zero_le _, fun hEpoch => ?_⟩, (by decide : 0 < 4096)⟩
    dsimp only at hEpoch ⊢
    rw [toNat_saturatingNext_eq] at hEpoch ⊢
    rw [h.counts (by omega), UInt64.toNat_zero]
    omega
  next hRoom =>
    have hRoom : sealer.framesInEpoch.toNat < 4096 :=
      UInt64.lt_iff_toNat_lt.mp (UInt64.not_le.mp hRoom)
    exact ⟨h, hRoom⟩

theorem toNat_nextSequence_lt (h : sealer.Counts) (hEpoch : sealer.epoch.toNat < 2 ^ 32) :
    sealer.nextSequence.toNat < 2 ^ 64 - 1 := by
  have hFrames := h.frames_le
  have hCounts := h.counts hEpoch
  omega

theorem count (h : sealer.Counts) (hRoom : sealer.framesInEpoch.toNat < 4096) :
    sealer.count.Counts := by
  have hFrames : (saturatingNext sealer.framesInEpoch).toNat = sealer.framesInEpoch.toNat + 1 :=
    toNat_saturatingNext (by omega)
  refine ⟨h.rotation, ?_, fun hEpoch => ?_⟩
  · dsimp only [DataPlaneSealer.count]
    omega
  · dsimp only [DataPlaneSealer.count] at hEpoch ⊢
    rw [toNat_saturatingNext (h.toNat_nextSequence_lt hEpoch), hFrames, h.counts hEpoch]
    omega

end Counts

@[simp] theorem rotate_config : sealer.rotate.config = sealer.config := by
  unfold rotate
  split <;> rfl

@[simp] theorem rotate_nextSequence : sealer.rotate.nextSequence = sealer.nextSequence := by
  unfold rotate
  split <;> rfl

/-- A call of `seal_frame` uses the next number, whether it succeeds or not; when it succeeds, later
calls have higher numbers. -/
theorem sealFrame_meets (h : sealer.Counts) (crypto : FrameCrypto κ) (lane : QuicLane)
    (frame : ProtocolFrame) :
    Meets (sealFrame crypto lane frame)
      (fun bytes sealer' => sealer'.Counts ∧ sealer'.config = sealer.config ∧
        sealer.nextSequence.toNat < sealer'.nextSequence.toNat ∧
        ∃ epoch, sealEnvelope crypto sealer.config lane epoch sealer.nextSequence frame = .ok bytes)
      (fun _ sealer' => sealer'.Counts ∧ sealer'.config = sealer.config ∧
        sealer.nextSequence.toNat ≤ sealer'.nextSequence.toNat) sealer := by
  obtain ⟨hRotated, hRoom⟩ := h.rotate
  have hCounted := hRotated.count hRoom
  rw [sealFrame, meets_bind, meets_modify, meets_bind, meets_get, meets_bind, meets_modify,
    rotate_config, rotate_nextSequence]
  cases hSeal : sealEnvelope crypto sealer.config lane sealer.rotate.epoch sealer.nextSequence frame
    with
  | ok bytes =>
    obtain ⟨-, -, nonce, -, -, -, hNonce, -, -⟩ := sealEnvelope_eq_ok hSeal
    have hNext := toNat_saturatingNext (hRotated.toNat_nextSequence_lt (dataPlaneNonce_eq_ok hNonce))
    rw [meets_ofExcept_ok]
    refine ⟨hCounted, rotate_config, ?_, sealer.rotate.epoch, hSeal⟩
    rw [rotate_nextSequence] at hNext
    dsimp only [DataPlaneSealer.count]
    rw [rotate_nextSequence, hNext]
    exact Nat.lt_succ_self _
  | error e =>
    rw [meets_ofExcept_error]
    refine ⟨hCounted, rotate_config, ?_⟩
    dsimp only [DataPlaneSealer.count]
    rw [rotate_nextSequence]
    have hMost := sealer.nextSequence.toNat_lt
    rw [toNat_saturatingNext_eq]
    omega

end DataPlaneSealer

end Kmsync
