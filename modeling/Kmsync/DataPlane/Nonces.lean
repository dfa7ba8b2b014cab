import Kmsync.DataPlane.Sealing
import Kmsync.ProofKit.Calls
import Mathlib.Data.List.Pairwise

/-! The nonces of a connection.  Each call of the sealer takes a number of its own, and a call only
succeeds while the epoch fits the nonce, which is long before the number could stop. -/

namespace Kmsync

open ProofKit

/-- The numbers, the key and the nonce of one encryption. -/
structure SealUse where
  epoch : UInt64
  sequence : UInt64
  key : List UInt8
  nonce : List UInt8
  deriving DecidableEq

variable {κ : Type} (crypto : FrameCrypto κ)

/-- A call of `seal_frame` with its arguments. -/
def sealCall (call : QuicLane × ProtocolFrame) :
    EStateM (Fault String) DataPlaneSealer (List UInt8) :=
  DataPlaneSealer.sealFrame crypto call.1 call.2

/-- The call was answered with what `encrypt` makes of the frame, with the cipher of `key`, under
`nonce`, and authenticated with the header that carries the numbers. -/
structure SealedWith (config : DataPlaneSecurityConfig)
    (sent : (QuicLane × ProtocolFrame) × List UInt8) (use : SealUse) : Prop where
  key : config.keyForEpoch crypto use.epoch = .ok use.key
  nonce : dataPlaneNonce use.epoch use.sequence = .ok use.nonce
  encrypted : ∃ cipher ciphertext, crypto.newFromSlice use.key = some cipher ∧
    crypto.encrypt cipher use.nonce sent.1.2.encodeVec
      (dataPlaneHeader sent.1.1 use.epoch use.sequence) = some ciphertext ∧
    sent.2 = dataPlaneHeader sent.1.1 use.epoch use.sequence ++ ciphertext

variable {crypto} {config : DataPlaneSecurityConfig} {lane : QuicLane} {epoch sequence : UInt64}
  {frame : ProtocolFrame} {bytes : List UInt8}

theorem sealedWith_of_sealEnvelope
    (h : sealEnvelope crypto config lane epoch sequence frame = .ok bytes) :
    ∃ use, SealedWith crypto config ((lane, frame), bytes) use ∧ use.sequence = sequence := by
  obtain ⟨key, cipher, nonce, ciphertext, hKey, hCipher, hNonce, hEncrypt, hBytes⟩ :=
    sealEnvelope_eq_ok h
  exact ⟨⟨epoch, sequence, key, nonce⟩, ⟨hKey, hNonce, cipher, ciphertext, hCipher, hEncrypt,
    hBytes⟩, rfl⟩

/-- The number can be read off the nonce. -/
theorem dataPlaneNonce_injective {epoch' sequence' : UInt64} {nonce : List UInt8}
    (h : dataPlaneNonce epoch sequence = .ok nonce)
    (h' : dataPlaneNonce epoch' sequence' = .ok nonce) : sequence = sequence' := by
  rw [dataPlaneNonce, if_pos (dataPlaneNonce_eq_ok h)] at h
  rw [dataPlaneNonce, if_pos (dataPlaneNonce_eq_ok h')] at h'
  have hBytes : toLeBytes epoch.toUInt32 ++ toLeBytes sequence =
      toLeBytes epoch'.toUInt32 ++ toLeBytes sequence' := Except.ok.inj (h.trans h'.symm)
  exact toLeBytes_inj.mp (List.append_inj hBytes (by simp)).2

/-- The envelopes of a sealer are numbered upwards from its next number. -/
theorem sealUses_ascend {sealer : DataPlaneSealer} (h : sealer.Counts)
    (hConfig : sealer.config = config) (calls : List (QuicLane × ProtocolFrame)) :
    ∃ uses : List SealUse,
      List.Forall₂ (SealedWith crypto config) (succeeded (sealCall crypto) sealer calls) uses ∧
      (∀ use ∈ uses, sealer.nextSequence.toNat ≤ use.sequence.toNat ∧
        dataPlaneNonce use.epoch use.sequence = .ok use.nonce) ∧
      uses.Pairwise fun first second => first.sequence.toNat < second.sequence.toNat := by
  induction calls generalizing sealer with
  | nil => exact ⟨[], .nil, by simp, .nil⟩
  | cons call calls ih =>
    have hCall : Meets (sealCall crypto call) _ _ sealer :=
      DataPlaneSealer.sealFrame_meets h crypto call.1 call.2
    rcases hCall.ok_or_error with ⟨bytes, sealer', hOk, hSent⟩ | ⟨e, sealer', hError, hFailed⟩
    · obtain ⟨hCounts, hConfig', hNext, epoch, hSeal⟩ := hSent
      obtain ⟨uses, hUses, hAll, hPairwise⟩ := ih hCounts (hConfig'.trans hConfig)
      rw [hConfig] at hSeal
      obtain ⟨use, hUse, hSequence⟩ := sealedWith_of_sealEnvelope hSeal
      refine ⟨use :: uses, ?_, ?_, ?_⟩
      · rw [succeeded_cons_of_ok hOk]
        exact .cons hUse hUses
      · rw [List.forall_mem_cons, hSequence]
        exact ⟨⟨le_rfl, hSequence ▸ hUse.nonce⟩, fun other hOther =>
          ⟨hNext.le.trans (hAll other hOther).1, (hAll other hOther).2⟩⟩
      · refine .cons (fun other hOther => ?_) hPairwise
        rw [hSequence]
        exact hNext.trans_le (hAll other hOther).1
    · obtain ⟨hCounts, hConfig', hNext⟩ := hFailed
      obtain ⟨uses, hUses, hAll, hPairwise⟩ := ih hCounts (hConfig'.trans hConfig)
      refine ⟨uses, ?_, fun use hUse => ⟨hNext.trans (hAll use hUse).1, (hAll use hUse).2⟩,
        hPairwise⟩
      rw [succeeded_cons_of_error hError]
      exact hUses

/-- No two encryptions of a connection share their numbers, their nonce, or their key and nonce. -/
theorem sealUses_distinct (crypto : FrameCrypto κ) (secret : List UInt8)
    (calls : List (QuicLane × ProtocolFrame)) :
    ∃ uses : List SealUse,
      List.Forall₂ (SealedWith crypto (.fromSecret secret))
        (succeeded (sealCall crypto) (.new (.fromSecret secret)) calls) uses ∧
      uses.Pairwise fun first second =>
        (first.epoch, first.sequence) ≠ (second.epoch, second.sequence) ∧
          first.nonce ≠ second.nonce ∧
          (first.key, first.nonce) ≠ (second.key, second.nonce) := by
  obtain ⟨uses, hUses, hAll, hPairwise⟩ : ∃ uses : List SealUse, _ :=
    sealUses_ascend (DataPlaneSealer.counts_new secret) rfl calls
  refine ⟨uses, hUses, hPairwise.imp_of_mem fun {first second} hFirst hSecond hLt => ?_⟩
  have hSequence : first.sequence ≠ second.sequence := fun hSame => by
    rw [hSame] at hLt
    exact lt_irrefl _ hLt
  have hNonce : first.nonce ≠ second.nonce := fun hSame => by
    have hSecondNonce := (hAll second hSecond).2
    rw [← hSame] at hSecondNonce
    exact hSequence (dataPlaneNonce_injective (hAll first hFirst).2 hSecondNonce)
  exact ⟨fun hSame => hSequence (congrArg Prod.snd hSame), hNonce,
    fun hSame => hNonce (congrArg Prod.snd hSame)⟩

end Kmsync
