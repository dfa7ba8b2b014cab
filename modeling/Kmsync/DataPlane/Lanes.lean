import Kmsync.DataPlane.Replay
import Kmsync.DataPlane.Sealing
import Mathlib.Data.List.Pairwise

/-! One sealer and one opener with the lanes of a connection between them.  Each reliable lane keeps
its order, but the lanes overtake each other; the replay window is shared by all of them. -/

namespace Kmsync

open ProofKit

/-- An envelope, with the lane it is sent on and the frame inside. -/
structure SealedFrame where
  lane : QuicLane
  frame : ProtocolFrame
  bytes : List UInt8
  deriving DecidableEq

section Transport

variable {κ : Type} (crypto : FrameCrypto κ)

/-- The frames sealed one after the other, each for its own lane; a call that fails sends
nothing. -/
def sealAll : DataPlaneSealer → List ProtocolFrame → List SealedFrame
  | _, [] => []
  | sealer, frame :: frames =>
    let lane := (quicDeliveryModeForFrame frame).lane
    match sealer.sealFrame crypto lane frame with
    | .ok bytes sealer => ⟨lane, frame, bytes⟩ :: sealAll sealer frames
    | .error _ sealer => sealAll sealer frames

/-- The opener after an envelope has arrived, opened or not. -/
def receiveEnvelope (opener : DataPlaneOpener) (envelope : SealedFrame) : DataPlaneOpener :=
  match DataPlaneOpener.openFrame crypto envelope.lane envelope.bytes opener with
  | .ok _ opener => opener
  | .error _ opener => opener

/-- The opener answers an envelope with its frame. -/
def Opens (opener : DataPlaneOpener) (envelope : SealedFrame) : Prop :=
  ∃ opener', DataPlaneOpener.openFrame crypto envelope.lane envelope.bytes opener =
    .ok envelope.frame opener'

end Transport

/-- What has arrived so far: on a reliable lane the first envelopes in their order, on the
unreliable one any of them. -/
structure Delivered (sealed delivered : List SealedFrame) : Prop where
  reliable : ∀ lane ≠ .inputUnreliable,
    delivered.filter (·.lane = lane) <+: sealed.filter (·.lane = lane)
  unreliable : ∀ envelope ∈ delivered, envelope.lane = .inputUnreliable → envelope ∈ sealed

/-- The envelope has the key epoch of a later one to arrive, and a number 64 or more higher. -/
def SealedFrame.overtakes (earlier envelope : SealedFrame) : Bool :=
  match dataPlaneParseHeader earlier.bytes, dataPlaneParseHeader envelope.bytes with
  | .ok header, .ok header' =>
    header.epoch = header'.epoch ∧ header'.sequence.toNat + 64 ≤ header.sequence.toNat
  | _, _ => false

theorem SealedFrame.overtakes_iff {earlier envelope : SealedFrame} {header header' : DataPlaneHeader}
    (hHeader : dataPlaneParseHeader earlier.bytes = .ok header)
    (hHeader' : dataPlaneParseHeader envelope.bytes = .ok header') :
    earlier.overtakes envelope = true ↔
      header.epoch = header'.epoch ∧ header'.sequence.toNat + 64 ≤ header.sequence.toNat := by
  rw [overtakes, hHeader, hHeader']
  exact decide_eq_true_iff

section Sealed

variable {κ : Type} {crypto : FrameCrypto κ} {config : DataPlaneSecurityConfig}

/-- The envelope was sealed under this header, for the lane of its frame. -/
structure SealedUnder (crypto : FrameCrypto κ) (config : DataPlaneSecurityConfig)
    (header : DataPlaneHeader) (envelope : SealedFrame) : Prop where
  lane_eq : header.lane = envelope.lane
  own_lane : envelope.lane = (quicDeliveryModeForFrame envelope.frame).lane
  sealed : sealEnvelope crypto config header.lane header.epoch header.sequence envelope.frame =
    .ok envelope.bytes

theorem SealedUnder.parse {header : DataPlaneHeader} {envelope : SealedFrame}
    (h : SealedUnder crypto config header envelope) :
    dataPlaneParseHeader envelope.bytes = .ok header :=
  parseHeader_of_sealEnvelope h.sealed

/-- The call for the first frame sends an envelope under the next number, or nothing. -/
theorem sealAll_cons (crypto : FrameCrypto κ) {sealer : DataPlaneSealer} (h : sealer.Counts)
    (hConfig : sealer.config = config) (frame : ProtocolFrame) (frames : List ProtocolFrame) :
    ∃ sealer' : DataPlaneSealer, sealer'.Counts ∧ sealer'.config = config ∧
      (sealAll crypto sealer (frame :: frames) = sealAll crypto sealer' frames ∧
          sealer.nextSequence.toNat ≤ sealer'.nextSequence.toNat ∨
        ∃ envelope header, SealedUnder crypto config header envelope ∧ envelope.frame = frame ∧
          header.sequence = sealer.nextSequence ∧
          sealAll crypto sealer (frame :: frames) = envelope :: sealAll crypto sealer' frames ∧
          sealer.nextSequence.toNat < sealer'.nextSequence.toNat) := by
  have hSeal := DataPlaneSealer.sealFrame_meets h crypto (quicDeliveryModeForFrame frame).lane frame
  rcases hSeal.ok_or_error with ⟨bytes, sealer', hOk, hSent⟩ | ⟨e, sealer', hError, hFailed⟩
  · obtain ⟨hCounts, hConfig', hNext, epoch, hBytes⟩ := hSent
    rw [hConfig] at hBytes
    have hUnder : SealedUnder crypto config
        ⟨(quicDeliveryModeForFrame frame).lane, epoch, sealer.nextSequence⟩
        ⟨(quicDeliveryModeForFrame frame).lane, frame, bytes⟩ := ⟨rfl, rfl, hBytes⟩
    refine ⟨sealer', hCounts, hConfig'.trans hConfig, Or.inr ⟨_, _, hUnder, rfl, rfl, ?_, hNext⟩⟩
    rw [sealAll, hOk]
  · obtain ⟨hCounts, hConfig', hNext⟩ := hFailed
    refine ⟨sealer', hCounts, hConfig'.trans hConfig, Or.inl ⟨?_, hNext⟩⟩
    rw [sealAll, hError]

/-- Every envelope has a header, with a number that the sealer had not used before. -/
theorem exists_sealedUnder {sealer : DataPlaneSealer} (h : sealer.Counts)
    (hConfig : sealer.config = config) {frames : List ProtocolFrame} {envelope : SealedFrame}
    (hMem : envelope ∈ sealAll crypto sealer frames) :
    envelope.frame ∈ frames ∧ ∃ header, SealedUnder crypto config header envelope ∧
      sealer.nextSequence.toNat ≤ header.sequence.toNat := by
  induction frames generalizing sealer with
  | nil => cases hMem
  | cons frame frames ih =>
    obtain ⟨sealer', hCounts, hConfig', hSkips | hSends⟩ := sealAll_cons crypto h hConfig frame frames
    · obtain ⟨hSame, hNext⟩ := hSkips
      rw [hSame] at hMem
      obtain ⟨hFrame, header, hUnder, hLe⟩ := ih hCounts hConfig' hMem
      exact ⟨List.mem_cons_of_mem frame hFrame, header, hUnder, hNext.trans hLe⟩
    · obtain ⟨first, header, hFirst, hFrame, hNumber, hSent, hNext⟩ := hSends
      rw [hSent] at hMem
      rcases List.mem_cons.mp hMem with rfl | hMem
      · exact ⟨hFrame ▸ List.mem_cons_self, header, hFirst, hNumber ▸ le_refl _⟩
      · obtain ⟨hFrame, header, hUnder, hLe⟩ := ih hCounts hConfig' hMem
        exact ⟨List.mem_cons_of_mem frame hFrame, header, hUnder, hNext.le.trans hLe⟩

/-- The first envelope has the lower number. -/
def Precedes (crypto : FrameCrypto κ) (config : DataPlaneSecurityConfig)
    (first second : SealedFrame) : Prop :=
  ∃ header header', SealedUnder crypto config header first ∧
    SealedUnder crypto config header' second ∧ header.sequence.toNat < header'.sequence.toNat

theorem pairwise_sealAll {sealer : DataPlaneSealer} (h : sealer.Counts)
    (hConfig : sealer.config = config) (frames : List ProtocolFrame) :
    (sealAll crypto sealer frames).Pairwise (Precedes crypto config) := by
  induction frames generalizing sealer with
  | nil => exact List.Pairwise.nil
  | cons frame frames ih =>
    obtain ⟨sealer', hCounts, hConfig', hSkips | hSends⟩ := sealAll_cons crypto h hConfig frame frames
    · rw [hSkips.1]
      exact ih hCounts hConfig'
    · obtain ⟨first, header, hFirst, -, hNumber, hSent, hNext⟩ := hSends
      rw [hSent]
      refine List.Pairwise.cons (fun second hSecond => ?_) (ih hCounts hConfig')
      obtain ⟨-, header', hUnder, hLe⟩ := exists_sealedUnder hCounts hConfig' hSecond
      refine ⟨header, header', hFirst, hUnder, ?_⟩
      rw [hNumber]
      exact hNext.trans_le hLe

theorem Precedes.lt {first second : SealedFrame} (h : Precedes crypto config first second)
    {header header' : DataPlaneHeader} (hFirst : dataPlaneParseHeader first.bytes = .ok header)
    (hSecond : dataPlaneParseHeader second.bytes = .ok header') :
    header.sequence.toNat < header'.sequence.toNat := by
  obtain ⟨a, b, ha, hb, hLt⟩ := h
  cases ha.parse.symm.trans hFirst
  cases hb.parse.symm.trans hSecond
  exact hLt

end Sealed

section Delivery

variable {κ : Type} {crypto : FrameCrypto κ} {config : DataPlaneSecurityConfig}
  {sealed delivered before after : List SealedFrame} {envelope : SealedFrame}

theorem Delivered.mem (h : Delivered sealed delivered) (hMem : envelope ∈ delivered) :
    envelope ∈ sealed := by
  by_cases hLane : envelope.lane = .inputUnreliable
  · exact h.unreliable envelope hMem hLane
  · have hFiltered : envelope ∈ delivered.filter (·.lane = envelope.lane) :=
      List.mem_filter.mpr ⟨hMem, by simp⟩
    exact (List.mem_filter.mp ((h.reliable envelope.lane hLane).mem hFiltered)).1

/-- The numbers of two envelopes are different. -/
def Differ (first second : SealedFrame) : Prop :=
  ∀ ⦃header header'⦄, dataPlaneParseHeader first.bytes = .ok header →
    dataPlaneParseHeader second.bytes = .ok header' →
      header.sequence.toNat ≠ header'.sequence.toNat

instance : Std.Symm Differ :=
  ⟨fun _ _ h _ _ hFirst hSecond => (h hSecond hFirst).symm⟩

/-- Nothing that has arrived has the number of an envelope that arrives on a reliable lane now. -/
theorem Delivered.sequence_ne (h : Delivered sealed (before ++ envelope :: after))
    (hSealed : sealed.Pairwise (Precedes crypto config)) (hLane : envelope.lane ≠ .inputUnreliable)
    {earlier : SealedFrame} (hEarlier : earlier ∈ before) {header header' : DataPlaneHeader}
    (hHeader : dataPlaneParseHeader earlier.bytes = .ok header)
    (hHeader' : dataPlaneParseHeader envelope.bytes = .ok header') :
    header.sequence.toNat ≠ header'.sequence.toNat := by
  intro hEq
  by_cases hSame : earlier.lane = envelope.lane
  · -- on one lane the numbers go up
    have hPrefix := h.reliable envelope.lane hLane
    rw [List.filter_append, List.filter_cons_of_pos (by simp)] at hPrefix
    have hOrdered := (hSealed.filter fun e => e.lane = envelope.lane).sublist hPrefix.sublist
    have hPrecedes := (List.pairwise_append.mp hOrdered).2.2 earlier
      (List.mem_filter.mpr ⟨hEarlier, by simpa using hSame⟩) envelope List.mem_cons_self
    exact absurd (hPrecedes.lt hHeader hHeader') (by omega)
  · -- two envelopes of different lanes are different envelopes
    have hMem := h.mem (List.mem_append_left (envelope :: after) hEarlier)
    have hMem' := h.mem (List.mem_append_right before List.mem_cons_self)
    have hNe : earlier ≠ envelope := fun hEq => hSame (congrArg SealedFrame.lane hEq)
    have hDiffer := hSealed.imp (S := Differ) fun hPrecedes _ _ hFirst hSecond =>
      (hPrecedes.lt hFirst hSecond).ne
    exact hDiffer.forall hMem hMem' hNe hHeader hHeader' hEq

/-- The numbers of an epoch that have arrived. -/
def arrived (delivered : List SealedFrame) (epoch : UInt64) : Set ℕ :=
  {n | ∃ envelope ∈ delivered, ∃ header, dataPlaneParseHeader envelope.bytes = .ok header ∧
    header.epoch = epoch ∧ header.sequence.toNat = n}

theorem mem_arrived_snoc {epoch : UInt64} {n : ℕ} {header : DataPlaneHeader}
    (hHeader : dataPlaneParseHeader envelope.bytes = .ok header) :
    n ∈ arrived (delivered ++ [envelope]) epoch ↔
      n ∈ arrived delivered epoch ∨ header.epoch = epoch ∧ header.sequence.toNat = n := by
  constructor
  · rintro ⟨earlier, hMem, header', hHeader', rfl, rfl⟩
    rcases List.mem_append.mp hMem with hMem | hMem
    · exact Or.inl ⟨earlier, hMem, header', hHeader', rfl, rfl⟩
    · rw [List.mem_singleton.mp hMem, hHeader] at hHeader'
      cases hHeader'
      exact Or.inr ⟨rfl, rfl⟩
  · rintro (⟨earlier, hMem, header', hHeader', rfl, rfl⟩ | ⟨rfl, rfl⟩)
    · exact ⟨earlier, List.mem_append_left _ hMem, header', hHeader', rfl, rfl⟩
    · exact ⟨envelope, List.mem_append_right _ (List.mem_singleton_self _), header, hHeader, rfl, rfl⟩

/-- The numbers that have been taken stand for all that have arrived: in every epoch, each of these
is no higher than one of those. -/
structure Covers (taken : UInt64 → Set ℕ) (delivered : List SealedFrame) : Prop where
  arrived : ∀ epoch, taken epoch ⊆ arrived delivered epoch
  highest : ∀ epoch, ∀ n ∈ Kmsync.arrived delivered epoch, ∃ m ∈ taken epoch, n ≤ m

namespace Covers

variable {taken : UInt64 → Set ℕ} {header : DataPlaneHeader}

theorem nil : Covers (fun _ => ∅) [] where
  arrived _ _ h := h.elim
  highest _ _ := by
    rintro ⟨envelope, hMem, -⟩
    cases hMem

theorem take (h : Covers taken delivered)
    (hHeader : dataPlaneParseHeader envelope.bytes = .ok header) :
    Covers (Function.update taken header.epoch
      (insert header.sequence.toNat (taken header.epoch))) (delivered ++ [envelope]) := by
  constructor
  · intro epoch n hn
    rw [mem_arrived_snoc hHeader]
    by_cases hEpoch : epoch = header.epoch
    · subst hEpoch
      rw [Function.update_self] at hn
      rcases hn with rfl | hn
      · exact Or.inr ⟨rfl, rfl⟩
      · exact Or.inl (h.arrived _ hn)
    · rw [Function.update_of_ne hEpoch] at hn
      exact Or.inl (h.arrived epoch hn)
  · intro epoch n hn
    rw [mem_arrived_snoc hHeader] at hn
    rcases hn with hn | ⟨rfl, rfl⟩
    · obtain ⟨m, hm, hLe⟩ := h.highest epoch n hn
      refine ⟨m, ?_, hLe⟩
      by_cases hEpoch : epoch = header.epoch
      · subst hEpoch
        rw [Function.update_self]
        exact Set.mem_insert_of_mem _ hm
      · rwa [Function.update_of_ne hEpoch]
    · refine ⟨header.sequence.toNat, ?_, le_refl _⟩
      rw [Function.update_self]
      exact Set.mem_insert _ _

/-- A number that is not admitted is no higher than one that has been taken. -/
theorem refuse {window : ℕ} (h : Covers taken delivered)
    (hHeader : dataPlaneParseHeader envelope.bytes = .ok header)
    (hRefused : ¬ Admits window (taken header.epoch) header.sequence.toNat) :
    Covers taken (delivered ++ [envelope]) := by
  constructor
  · exact fun epoch n hn => (mem_arrived_snoc hHeader).mpr (Or.inl (h.arrived epoch hn))
  · intro epoch n hn
    rw [mem_arrived_snoc hHeader] at hn
    rcases hn with hn | ⟨rfl, rfl⟩
    · exact h.highest epoch n hn
    · by_contra hNone
      have hBelow : ∀ m ∈ taken header.epoch, m < header.sequence.toNat :=
        fun m hm => not_le.mp fun hLe => hNone ⟨m, hm, hLe⟩
      exact hRefused ⟨fun hn => (hBelow _ hn).false,
        fun m hm => (hBelow m hm).trans_le (Nat.le_add_right _ _)⟩

/-- For a number that has not arrived, only the distance to those that have counts. -/
theorem admits_iff {window n : ℕ} {epoch : UInt64} (h : Covers taken delivered)
    (hNew : n ∉ Kmsync.arrived delivered epoch) :
    Admits window (taken epoch) n ↔ ∀ m ∈ Kmsync.arrived delivered epoch, m < n + window := by
  constructor
  · rintro ⟨-, hAhead⟩ m hm
    obtain ⟨k, hk, hLe⟩ := h.highest epoch m hm
    exact hLe.trans_lt (hAhead k hk)
  · intro hAhead
    exact ⟨fun hn => hNew (h.arrived epoch hn), fun m hm => hAhead m (h.arrived epoch hm)⟩

end Covers

end Delivery

section Opening

variable {κ : Type} {crypto : FrameCrypto κ} {config : DataPlaneSecurityConfig}
  {sealed delivered before after : List SealedFrame} {envelope : SealedFrame}
  {opener : DataPlaneOpener} {header : DataPlaneHeader}

/-- The opener has gone through what has arrived. -/
structure Follows (config : DataPlaneSecurityConfig) (opener : DataPlaneOpener)
    (taken : UInt64 → Set ℕ) (delivered : List SealedFrame) : Prop where
  config_eq : opener.config = config
  revoked_eq : opener.revokedDevices = []
  window_eq : opener.replayGuard.window.toNat = 64
  shows : opener.replayGuard.Shows taken
  covers : Covers taken delivered

theorem follows_new (secret : List UInt8) :
    Follows (.fromSecret secret) (.new (.fromSecret secret)) (fun _ => ∅) [] where
  config_eq := rfl
  revoked_eq := rfl
  window_eq := by
    rw [DataPlaneOpener.new, DataPlaneReplayGuard.toNat_new_window]
    rfl
  shows := DataPlaneReplayGuard.new_shows _
  covers := .nil

/-- A sealed envelope is opened exactly if the window of its epoch admits its number. -/
theorem openFrame_meets {taken : UInt64 → Set ℕ} (h : Follows config opener taken delivered)
    (hInverts : crypto.Inverts) (hUnder : SealedUnder crypto config header envelope)
    (hDecode : ProtocolFrame.decode envelope.frame.encodeVec = .ok envelope.frame) :
    Meets (DataPlaneOpener.openFrame crypto envelope.lane envelope.bytes)
      (fun frame opener' => frame = envelope.frame ∧
        Admits 64 (taken header.epoch) header.sequence.toNat ∧
        ∃ taken', Follows config opener' taken' (delivered ++ [envelope]))
      (fun _ opener' => ¬ Admits 64 (taken header.epoch) header.sequence.toNat ∧
        ∃ taken', Follows config opener' taken' (delivered ++ [envelope])) opener := by
  obtain ⟨lane, epoch, sequence⟩ := header
  obtain rfl : lane = envelope.lane := hUnder.lane_eq
  have hTransport : envelope.lane.transportLane = envelope.frame.payload.transportLane := by
    rw [hUnder.own_lane, transportLane_delivery]
  have hCheck := checkFrame_of_sealEnvelope hInverts hDecode hTransport hUnder.sealed h.config_eq
    h.revoked_eq
  have hAccept := DataPlaneReplayGuard.accept_meets h.shows epoch sequence
  rw [h.window_eq] at hAccept
  rw [DataPlaneOpener.openFrame, meets_bind, meets_get, meets_bind, hCheck, meets_ofExcept_ok]
  dsimp only
  rw [meets_bind, meets_onPart]
  refine hAccept.mono ?_ ?_
  · rintro - replayGuard ⟨hAdmits, hWindow, hShows⟩
    have hWindow' := (congrArg UInt64.toNat hWindow).trans h.window_eq
    exact ⟨rfl, hAdmits, _, h.config_eq, h.revoked_eq, hWindow', hShows, h.covers.take hUnder.parse⟩
  · rintro - replayGuard ⟨hRefused, hWindow, hShows⟩
    have hWindow' := (congrArg UInt64.toNat hWindow).trans h.window_eq
    exact ⟨hRefused, taken, h.config_eq, h.revoked_eq, hWindow', hShows,
      h.covers.refuse hUnder.parse hRefused⟩

theorem exists_follows (hInverts : crypto.Inverts) (secret : List UInt8)
    (hSealed : ∀ envelope ∈ delivered, ProtocolFrame.decode envelope.frame.encodeVec =
      .ok envelope.frame ∧ ∃ header, SealedUnder crypto (.fromSecret secret) header envelope) :
    ∃ taken, Follows (.fromSecret secret)
      (delivered.foldl (receiveEnvelope crypto) (.new (.fromSecret secret))) taken delivered := by
  induction delivered using List.reverseRecOn with
  | nil => exact ⟨_, follows_new secret⟩
  | append_singleton delivered envelope ih =>
    obtain ⟨taken, hFollows⟩ := ih fun earlier hMem => hSealed earlier (List.mem_append_left _ hMem)
    obtain ⟨hDecode, header, hUnder⟩ := hSealed envelope (by simp)
    rw [List.foldl_append, List.foldl_cons, List.foldl_nil, receiveEnvelope]
    rcases (openFrame_meets hFollows hInverts hUnder hDecode).ok_or_error with
      ⟨frame, opener, hOk, -, -, hNext⟩ | ⟨e, opener, hError, -, hNext⟩
    · rwa [hOk]
    · rwa [hError]

theorem opens_iff_admits {taken : UInt64 → Set ℕ} (h : Follows config opener taken delivered)
    (hInverts : crypto.Inverts) (hUnder : SealedUnder crypto config header envelope)
    (hDecode : ProtocolFrame.decode envelope.frame.encodeVec = .ok envelope.frame) :
    Opens crypto opener envelope ↔ Admits 64 (taken header.epoch) header.sequence.toNat := by
  rcases (openFrame_meets h hInverts hUnder hDecode).ok_or_error with
    ⟨frame, opener', hOk, rfl, hAdmits, -⟩ | ⟨e, opener', hError, hRefused, -⟩
  · exact iff_of_true ⟨opener', hOk⟩ hAdmits
  · refine iff_of_false ?_ hRefused
    rintro ⟨opener'', hOk⟩
    cases hError.symm.trans hOk

/-- Whether an envelope has been overtaken can be read from the numbers of its epoch. -/
theorem forall_overtakes_iff (hHeader : dataPlaneParseHeader envelope.bytes = .ok header)
    (hParse : ∀ earlier ∈ delivered, ∃ header', dataPlaneParseHeader earlier.bytes = .ok header') :
    (∀ earlier ∈ delivered, earlier.overtakes envelope = false) ↔
      ∀ m ∈ arrived delivered header.epoch, m < header.sequence.toNat + 64 := by
  constructor
  · rintro hNone m ⟨earlier, hMem, header', hHeader', hEpoch, rfl⟩
    by_contra hFar
    have hOvertakes := (SealedFrame.overtakes_iff hHeader' hHeader).mpr ⟨hEpoch, not_lt.mp hFar⟩
    exact absurd hOvertakes (Bool.eq_false_iff.mp (hNone earlier hMem))
  · intro hAhead earlier hMem
    obtain ⟨header', hHeader'⟩ := hParse earlier hMem
    rw [Bool.eq_false_iff, ne_eq, SealedFrame.overtakes_iff hHeader' hHeader]
    rintro ⟨hEpoch, hFar⟩
    exact absurd (hAhead _ ⟨earlier, hMem, header', hHeader', hEpoch, rfl⟩) (not_lt.mpr hFar)

/-- A frame that arrives on a reliable lane is opened exactly if no frame of its key epoch with a
number 64 or more higher has overtaken it. -/
theorem reliable_opens_iff (crypto : FrameCrypto κ) (hInverts : crypto.Inverts) (secret : List UInt8)
    (frames : List ProtocolFrame)
    (hDecode : ∀ frame ∈ frames, ProtocolFrame.decode frame.encodeVec = .ok frame)
    (hDelivered : Delivered (sealAll crypto (.new (.fromSecret secret)) frames)
      (before ++ envelope :: after))
    (hLane : envelope.lane ≠ .inputUnreliable) :
    Opens crypto (before.foldl (receiveEnvelope crypto) (.new (.fromSecret secret))) envelope ↔
      ∀ earlier ∈ before, earlier.overtakes envelope = false := by
  have hCounts := DataPlaneSealer.counts_new secret
  have hSealed : ∀ e ∈ before ++ envelope :: after, ProtocolFrame.decode e.frame.encodeVec =
      .ok e.frame ∧ ∃ header, SealedUnder crypto (.fromSecret secret) header e := by
    intro e hMem
    obtain ⟨hFrame, header, hUnder, -⟩ := exists_sealedUnder hCounts rfl (hDelivered.mem hMem)
    exact ⟨hDecode e.frame hFrame, header, hUnder⟩
  obtain ⟨taken, hFollows⟩ := exists_follows hInverts secret fun e hMem =>
    hSealed e (List.mem_append_left _ hMem)
  obtain ⟨hOwn, header, hUnder⟩ := hSealed envelope (by simp)
  have hNew : header.sequence.toNat ∉ arrived before header.epoch := by
    rintro ⟨earlier, hMem, header', hHeader', -, hEq⟩
    exact hDelivered.sequence_ne (pairwise_sealAll hCounts rfl frames) hLane hMem hHeader'
      hUnder.parse hEq
  have hParse : ∀ earlier ∈ before, ∃ header', dataPlaneParseHeader earlier.bytes = .ok header' := by
    intro earlier hMem
    obtain ⟨-, header', hUnder'⟩ := hSealed earlier (List.mem_append_left _ hMem)
    exact ⟨header', hUnder'.parse⟩
  calc Opens crypto (before.foldl (receiveEnvelope crypto) (.new (.fromSecret secret))) envelope
    _ ↔ Admits 64 (taken header.epoch) header.sequence.toNat :=
      opens_iff_admits hFollows hInverts hUnder hOwn
    _ ↔ ∀ m ∈ arrived before header.epoch, m < header.sequence.toNat + 64 :=
      hFollows.covers.admits_iff hNew
    _ ↔ ∀ earlier ∈ before, earlier.overtakes envelope = false :=
      (forall_overtakes_iff hUnder.parse hParse).symm

section Sample

/-- Encryption that adds a tag of 16 bytes, made from the nonce, and leaves the text as it is. -/
def tagCrypto : FrameCrypto Unit where
  expand _ _ info := some (info ++ List.replicate 8 0)
  newFromSlice key := if key.length = 32 then some () else none
  encrypt _ nonce msg _ := some (msg ++ (nonce ++ List.replicate 16 0).take 16)
  decrypt _ nonce msg _ :=
    let text := msg.take (msg.length - 16)
    if msg = text ++ (nonce ++ List.replicate 16 0).take 16 then some text else none

theorem tagCrypto_inverts : tagCrypto.Inverts := by
  intro cipher nonce msg aad ciphertext h
  cases h
  simp [tagCrypto]

/-- A frame of device 10 for device 20. -/
def sampleFrame (event : InputEvent F32) : ProtocolFrame := ⟨1, 0, .input (.current 10 20 event)⟩

def releaseKey : ProtocolFrame := sampleFrame (.key ⟨.c, .released, Modifiers.none⟩)

def moveMouse : ProtocolFrame := sampleFrame (.mouse (.move 0 0))

/-- A key release, and as many moves behind it. -/
def sampleFrames (moves : ℕ) : List ProtocolFrame := releaseKey :: List.replicate moves moveMouse

def sampleSealed (moves : ℕ) : List SealedFrame :=
  sealAll tagCrypto (.new (.fromSecret (List.replicate 32 0))) (sampleFrames moves)

def sampleOpener : DataPlaneOpener := .new (.fromSecret (List.replicate 32 0))

theorem decode_sampleFrames (moves : ℕ) :
    ∀ frame ∈ sampleFrames moves, ProtocolFrame.decode frame.encodeVec = .ok frame := by
  intro frame hFrame
  rcases List.mem_cons.mp hFrame with rfl | hMove
  · decide
  · rw [List.eq_of_mem_replicate hMove]
    decide

/-- The first frame arrives behind others, which are on the unreliable lane. -/
theorem delivered_behind {first : SealedFrame} {others before : List SealedFrame}
    (hFirst : first.lane ≠ .inputUnreliable)
    (hOthers : ∀ other ∈ others, other.lane = .inputUnreliable) (hBefore : before ⊆ others) :
    Delivered (first :: others) (before ++ [first]) := by
  have hNone : ∀ lane ≠ .inputUnreliable, before.filter (·.lane = lane) = [] := by
    intro lane hLane
    refine List.filter_eq_nil_iff.mpr fun other hOther hSame => hLane ?_
    rw [← of_decide_eq_true hSame, hOthers other (hBefore hOther)]
  constructor
  · intro lane hLane
    rw [List.filter_append, List.filter_cons, List.filter_cons, hNone lane hLane]
    split
    · exact List.cons_prefix_cons.mpr ⟨rfl, List.nil_prefix⟩
    · exact List.nil_prefix
  · intro other hOther hLane
    rcases List.mem_append.mp hOther with hOther | hOther
    · exact List.mem_cons_of_mem first (hBefore hOther)
    · exact absurd (List.mem_singleton.mp hOther ▸ hLane) hFirst

/-- A key release that two moves have overtaken is opened. -/
theorem reliable_opens_iff_overtakenTwice : ∃ release moves,
    sampleSealed 2 = release :: moves ∧ release.frame = releaseKey ∧
    Delivered (release :: moves) (moves ++ [release]) ∧
    Opens tagCrypto (moves.foldl (receiveEnvelope tagCrypto) sampleOpener) release := by
  have hFirst : ∀ first ∈ (sampleSealed 2).head?,
      first.frame = releaseKey ∧ first.lane = .inputReliable ∧
      ∀ other ∈ (sampleSealed 2).tail,
        other.lane = .inputUnreliable ∧ other.overtakes first = false := by decide
  obtain ⟨release, moves, hSealed⟩ :=
    List.exists_cons_of_ne_nil (l := sampleSealed 2) (by decide)
  rw [hSealed] at hFirst
  obtain ⟨hFrame, hLane, hOthers⟩ := hFirst release rfl
  have hReliable : release.lane ≠ .inputUnreliable := by
    rw [hLane]
    decide
  have hDelivered : Delivered (release :: moves) (moves ++ [release]) :=
    delivered_behind hReliable (fun other hOther => (hOthers other hOther).1) (List.Subset.refl moves)
  refine ⟨release, moves, hSealed, hFrame, hDelivered, ?_⟩
  rw [← hSealed] at hDelivered
  exact (reliable_opens_iff tagCrypto tagCrypto_inverts _ _ (decode_sampleFrames 2) hDelivered
    hReliable).mpr fun other hOther => (hOthers other hOther).2

/-- A key release is refused when a move has come first that was sealed 64 frames later; the other
moves are lost. -/
theorem release_overtaken : tagCrypto.Inverts ∧
    (∀ frame ∈ sampleFrames 64, ProtocolFrame.decode frame.encodeVec = .ok frame) ∧
    ∃ release moves move opener, sampleSealed 64 = release :: moves ∧
      release.frame = releaseKey ∧ release.lane = .inputReliable ∧
      Delivered (release :: moves) [move, release] ∧
      DataPlaneOpener.openFrame tagCrypto release.lane release.bytes
          (receiveEnvelope tagCrypto sampleOpener move) =
        .error (.error "data-plane replay window rejected old sequence 1") opener := by
  refine ⟨tagCrypto_inverts, decode_sampleFrames 64, ?_⟩
  have hFirst : ∀ first ∈ (sampleSealed 64).head?,
      first.frame = releaseKey ∧ first.lane = .inputReliable ∧
      (∀ other ∈ (sampleSealed 64).tail, other.lane = .inputUnreliable) ∧
      ∃ last ∈ (sampleSealed 64).tail.reverse,
        Meets (DataPlaneOpener.openFrame tagCrypto first.lane first.bytes) (fun _ _ => False)
          (fun e _ => e = .error "data-plane replay window rejected old sequence 1")
          (receiveEnvelope tagCrypto sampleOpener last) := by decide +kernel
  obtain ⟨release, moves, hSealed⟩ :=
    List.exists_cons_of_ne_nil (l := sampleSealed 64) (by decide)
  rw [hSealed] at hFirst
  obtain ⟨hFrame, hLane, hOthers, move, hMove, hMeets⟩ := hFirst release rfl
  obtain ⟨e, opener, hRefused, rfl⟩ := hMeets.exists_error
  have hReliable : release.lane ≠ .inputUnreliable := by
    rw [hLane]
    decide
  have hArrived : [move] ⊆ moves := by simpa using hMove
  have hDelivered : Delivered (release :: moves) [move, release] :=
    delivered_behind hReliable hOthers hArrived
  exact ⟨release, moves, move, opener, hSealed, hFrame, hLane, hDelivered, hRefused⟩

end Sample

end Opening

end Kmsync
