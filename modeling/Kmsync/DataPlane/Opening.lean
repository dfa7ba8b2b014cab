import Kmsync.DataPlane.Sealing
import Kmsync.DataPlane.ReplayHistory

/-! What an opener takes and what a refusal leaves.  An envelope that opens was sealed for its lane
and passes every check; the replay window is asked last, so that one that does not open leaves the
opener as it was. -/

namespace Kmsync

open ProofKit

variable {κ : Type} {crypto : FrameCrypto κ}

section Ideal

/-- An envelope that `seal_frame` has produced. -/
structure SealRecord (crypto : FrameCrypto κ) where
  config : DataPlaneSecurityConfig
  lane : QuicLane
  epoch : UInt64
  sequence : UInt64
  frame : ProtocolFrame
  bytes : List UInt8
  sealed : sealEnvelope crypto config lane epoch sequence frame = .ok bytes

/-- The record was encrypted with these arguments into this ciphertext. -/
structure SealRecord.EncryptedAs (record : SealRecord crypto) (cipher : κ)
    (nonce msg aad ciphertext : List UInt8) : Prop where
  key_eq : ∃ key, record.config.keyForEpoch crypto record.epoch = .ok key ∧
    crypto.newFromSlice key = some cipher
  nonce_eq : dataPlaneNonce record.epoch record.sequence = .ok nonce
  msg_eq : record.frame.encodeVec = msg
  aad_eq : dataPlaneHeader record.lane record.epoch record.sequence = aad
  bytes_eq : record.bytes = aad ++ ciphertext

/-- Decryption succeeds exactly on what was produced by sealing under the same key, nonce and
associated data. -/
def FrameCrypto.Ideal (crypto : FrameCrypto κ) (produced : Set (SealRecord crypto)) : Prop :=
  ∀ cipher nonce ciphertext aad msg,
    crypto.decrypt cipher nonce ciphertext aad = some msg ↔
      ∃ record ∈ produced, record.EncryptedAs cipher nonce msg aad ciphertext

end Ideal

section Devices

variable {frame : ProtocolFrame} {id : DeviceId}

/-- The device that a frame comes from. -/
def ProtocolPayload.sourceDeviceId : ProtocolPayload → DeviceId
  | .input envelope => envelope.sourceDeviceId
  | .clipboardText clipboard => clipboard.sourceId
  | .clipboardFiles files => files.sourceId
  | .fileChunk chunk => chunk.sourceId
  | .control message => controlSourceDeviceId message

/-- The devices of a frame are the one that it comes from and, for an input, the one that it is for.
-/
theorem mem_frameDeviceIds :
    id ∈ frameDeviceIds frame ↔ id = frame.payload.sourceDeviceId ∨
      ∃ input, frame.payload = .input input ∧ id = input.targetDeviceId := by
  unfold frameDeviceIds
  cases hPayload : frame.payload <;> simp [ProtocolPayload.sourceDeviceId]

end Devices

section Checks

variable {opener opener' : DataPlaneOpener} {lane : QuicLane} {sealed : List UInt8}
  {header : DataPlaneHeader} {frame : ProtocolFrame}

theorem mapDecodeError_eq_ok {α : Type} {m : Decoded α} {x : α} (h : mapDecodeError m = .ok x) :
    m = .ok x := by
  cases m with
  | ok y => exact congrArg _ (Except.ok.inj h)
  | error e => cases e <;> cases h

theorem not_mem_of_revokedFrameDeviceId {revoked : List DeviceId}
    (h : revokedFrameDeviceId frame revoked = none) :
    ∀ id ∈ frameDeviceIds frame, id ∉ revoked := by
  intro id hId hRevoked
  unfold revokedFrameDeviceId at h
  split at h
  next hEmpty =>
    rw [List.isEmpty_iff.mp hEmpty] at hRevoked
    cases hRevoked
  next => simpa [hRevoked] using List.find?_eq_none.mp h id hId

/-- What an envelope that passes the checks has passed. -/
structure PassesChecks (crypto : FrameCrypto κ) (opener : DataPlaneOpener) (lane : QuicLane)
    (sealed : List UInt8) (header : DataPlaneHeader) (frame : ProtocolFrame) : Prop where
  parsed : dataPlaneParseHeader sealed = .ok header
  header_lane : header.lane = lane
  opened : ∃ cipher nonce aad ciphertext plaintext, sealed = aad ++ ciphertext ∧
    crypto.decrypt cipher nonce ciphertext aad = some plaintext ∧
    ProtocolFrame.decode plaintext = .ok frame
  frame_lane : frame.payload.transportLane = lane.transportLane
  allowed : ∀ id ∈ frameDeviceIds frame, id ∉ opener.revokedDevices

theorem passes_of_checkFrame (h : opener.checkFrame crypto lane sealed = .ok (header, frame)) :
    PassesChecks crypto opener lane sealed header frame := by
  obtain ⟨parsed, hParsed, h⟩ := bind_eq_ok.mp h
  split at h
  next => cases h
  next hLane =>
    obtain ⟨key, -, h⟩ := bind_eq_ok.mp h
    obtain ⟨cipher, -, h⟩ := bind_eq_ok.mp h
    obtain ⟨ciphertext, hCiphertext, h⟩ := bind_eq_ok.mp h
    obtain ⟨nonce, -, h⟩ := bind_eq_ok.mp h
    obtain ⟨aad, hAad, h⟩ := bind_eq_ok.mp h
    obtain ⟨plaintext, hPlaintext, h⟩ := bind_eq_ok.mp h
    obtain ⟨decoded, hDecoded, h⟩ := bind_eq_ok.mp h
    have hSplit : sealed = aad ++ ciphertext := by
      have hRest : sealed.drop dataPlaneHeaderLen = ciphertext := by
        have hFrom := orPanic_eq_ok.mp hCiphertext
        unfold sliceFrom? at hFrom
        split at hFrom <;> cases hFrom
        rfl
      rw [← hRest, ← drop_eq_of_slice? (orPanic_eq_ok.mp hAad), List.drop_zero]
    dsimp only at h
    split at h
    next => cases h
    next hCarried =>
      split at h
      next => cases h
      next hRevoked =>
        cases h
        exact ⟨hParsed, not_not.mp hLane, ⟨cipher, nonce, aad, ciphertext, plaintext, hSplit,
          orRefuse_eq_ok.mp hPlaintext, mapDecodeError_eq_ok hDecoded⟩, not_not.mp hCarried,
          not_mem_of_revokedFrameDeviceId hRevoked⟩

/-- With ideal decryption, what passes the checks was sealed under its header. -/
theorem PassesChecks.exists_record {produced : Set (SealRecord crypto)}
    (hIdeal : crypto.Ideal produced) (h : PassesChecks crypto opener lane sealed header frame) :
    ∃ record ∈ produced, record.bytes = sealed ∧ record.lane = lane ∧
      (record.epoch, record.sequence) = (header.epoch, header.sequence) ∧
      ProtocolFrame.decode record.frame.encodeVec = .ok frame := by
  obtain ⟨cipher, nonce, aad, ciphertext, plaintext, rfl, hDecrypt, hDecode⟩ := h.opened
  obtain ⟨record, hRecord, hAs⟩ := (hIdeal _ _ _ _ _).mp hDecrypt
  have hHeader := dataPlaneParseHeader_append record.lane record.epoch record.sequence ciphertext
  rw [hAs.aad_eq, h.parsed] at hHeader
  obtain rfl := Except.ok.inj hHeader
  exact ⟨record, hRecord, hAs.bytes_eq, h.header_lane, rfl, hAs.msg_eq ▸ hDecode⟩

end Checks

section Calls

/-- A call of `open_frame` with its arguments. -/
def openCall (crypto : FrameCrypto κ) (call : QuicLane × List UInt8) :
    EStateM (Fault String) DataPlaneOpener ProtocolFrame :=
  DataPlaneOpener.openFrame crypto call.1 call.2

/-- The epoch and the number in the header of an envelope. -/
def envelopeNumbers (bytes : List UInt8) : Option (UInt64 × UInt64) :=
  match dataPlaneParseHeader bytes with
  | .ok header => some (header.epoch, header.sequence)
  | .error _ => none

/-- The pairs of the envelopes that have been opened. -/
def openedPairs (crypto : FrameCrypto κ) (opener : DataPlaneOpener)
    (calls : List (QuicLane × List UInt8)) : List (UInt64 × UInt64) :=
  (succeeded (openCall crypto) opener calls).filterMap fun opened => envelopeNumbers opened.1.2

variable {opener opener' : DataPlaneOpener} {lane : QuicLane} {sealed : List UInt8}
  {frame : ProtocolFrame} {pairs : List (UInt64 × UInt64)}

/-- The opener has the settings of another. -/
structure SameSettings (opener opener' : DataPlaneOpener) : Prop where
  config : opener'.config = opener.config
  revokedDevices : opener'.revokedDevices = opener.revokedDevices

/-- What one call does to an opener whose guard stands for the pairs opened so far. -/
theorem openCall_meets (crypto : FrameCrypto κ) (h : opener.replayGuard.Shows (takenIn pairs))
    (call : QuicLane × List UInt8) :
    Meets (openCall crypto call)
      (fun frame opener' => SameSettings opener opener' ∧ ∃ header,
        PassesChecks crypto opener call.1 call.2 header frame ∧
        (header.epoch, header.sequence) ∉ pairs ∧
        opener'.replayGuard.Shows (takenIn (pairs ++ [(header.epoch, header.sequence)])))
      (fun _ opener' => SameSettings opener opener' ∧ opener'.replayGuard.Shows (takenIn pairs))
      opener := by
  rw [openCall, DataPlaneOpener.openFrame, meets_bind, meets_get, meets_bind]
  cases hCheck : opener.checkFrame crypto call.1 call.2 with
  | error e =>
    rw [meets_ofExcept_error]
    exact ⟨⟨rfl, rfl⟩, h⟩
  | ok checked =>
    obtain ⟨header, frame⟩ := checked
    rw [meets_ofExcept_ok, meets_bind, meets_onPart]
    refine (acceptCall_meets h (header.epoch, header.sequence)).mono ?_ ?_
    · rintro - replayGuard ⟨hTaken, -, hShows⟩
      exact ⟨⟨rfl, rfl⟩, header, passes_of_checkFrame hCheck, hTaken.1, hShows⟩
    · rintro - replayGuard ⟨-, -, hShows⟩
      exact ⟨⟨rfl, rfl⟩, hShows⟩

/-- Over a history the guard stands for the pairs opened. -/
theorem shows_openedPairs (crypto : FrameCrypto κ) (h : opener.replayGuard.Shows (takenIn pairs))
    (calls : List (QuicLane × List UInt8)) :
    SameSettings opener (after (openCall crypto) opener calls) ∧
      (after (openCall crypto) opener calls).replayGuard.Shows
        (takenIn (pairs ++ openedPairs crypto opener calls)) := by
  induction calls generalizing opener pairs with
  | nil =>
    refine ⟨⟨rfl, rfl⟩, ?_⟩
    rw [openedPairs, succeeded, List.filterMap_nil, List.append_nil]
    exact h
  | cons call calls ih =>
    rw [after_cons]
    rcases (openCall_meets crypto h call).ok_or_error with
      ⟨frame, opener', hOk, hSame, header, hPasses, -, hShows⟩ | ⟨e, opener', hError, hSame, hShows⟩
    · obtain ⟨hSettings, hAfter⟩ := ih hShows
      have hNumbers : envelopeNumbers call.2 = some (header.epoch, header.sequence) := by
        rw [envelopeNumbers, hPasses.parsed]
      rw [List.append_assoc] at hAfter
      rw [stateAfter_of_ok hOk, openedPairs, succeeded_cons_of_ok hOk, List.filterMap_cons,
        hNumbers]
      exact ⟨⟨hSettings.config.trans hSame.config,
        hSettings.revokedDevices.trans hSame.revokedDevices⟩, hAfter⟩
    · obtain ⟨hSettings, hAfter⟩ := ih hShows
      rw [stateAfter_of_error hError, openedPairs, succeeded_cons_of_error hError]
      exact ⟨⟨hSettings.config.trans hSame.config,
        hSettings.revokedDevices.trans hSame.revokedDevices⟩, hAfter⟩

end Calls

section Refusal

/-- Openers that no call can tell apart: they may differ in whether the guard has written down an
empty window. -/
structure Alike (opener opener' : DataPlaneOpener) : Prop extends SameSettings opener opener' where
  window : opener'.replayGuard.window = opener.replayGuard.window
  entries : ∀ epoch, opener'.replayGuard.entry epoch = opener.replayGuard.entry epoch

theorem Alike.refl (opener : DataPlaneOpener) : Alike opener opener :=
  ⟨⟨rfl, rfl⟩, rfl, fun _ => rfl⟩

variable {opener opener' : DataPlaneOpener} {lane : QuicLane} {sealed : List UInt8}

/-- A number that is refused leaves the window of its epoch as it was. -/
theorem windowAccept_refused (self : DataPlaneReplayWindow) (sequence window : UInt64) :
    Meets (DataPlaneReplayWindow.accept sequence window) (fun _ _ => True)
      (fun _ self' => self' = self) self := by
  rw [DataPlaneReplayWindow.accept, meets_bind, meets_get]
  split
  next => trivial
  next =>
    dsimp only
    split_ifs
    · rfl
    · rfl
    · trivial

theorem checkFrame_congr (crypto : FrameCrypto κ) (h : SameSettings opener opener') :
    opener'.checkFrame crypto lane sealed = opener.checkFrame crypto lane sealed := by
  rw [DataPlaneOpener.checkFrame, DataPlaneOpener.checkFrame, h.config, h.revokedDevices]

/-- Openers that are alike stay so when the same window is written into both. -/
theorem Alike.setEntry (h : Alike opener opener') (epoch : UInt64)
    (window : DataPlaneReplayWindow) :
    Alike (opener.setReplayGuard (opener.replayGuard.setEntry epoch window))
      (opener'.setReplayGuard (opener'.replayGuard.setEntry epoch window)) where
  config := h.config
  revokedDevices := h.revokedDevices
  window := h.window
  entries other := by
    by_cases hOther : other = epoch
    · simp only [DataPlaneOpener.setReplayGuard, DataPlaneReplayGuard.entry_setEntry, if_pos hOther]
    · simp only [DataPlaneOpener.setReplayGuard, DataPlaneReplayGuard.entry_setEntry, if_neg hOther]
      exact h.entries other

/-- An opener is alike after its own window has been written back. -/
theorem alike_setEntry_self (opener : DataPlaneOpener) (epoch : UInt64) :
    Alike opener (opener.setReplayGuard
      (opener.replayGuard.setEntry epoch (opener.replayGuard.entry epoch))) where
  config := rfl
  revokedDevices := rfl
  window := rfl
  entries other := by
    by_cases hOther : other = epoch
    · subst hOther
      simp only [DataPlaneOpener.setReplayGuard, DataPlaneReplayGuard.entry_setEntry, if_true]
    · simp only [DataPlaneOpener.setReplayGuard, DataPlaneReplayGuard.entry_setEntry, if_neg hOther]

theorem openCall_of_error {e : Fault String}
    (h : opener.checkFrame crypto lane sealed = .error e) :
    openCall crypto (lane, sealed) opener = .error e opener := by
  change EStateM.bind (MonadExcept.ofExcept (opener.checkFrame crypto lane sealed)) _ opener = _
  rw [h]
  rfl

/-- A call that passes the checks asks the window of its epoch. -/
theorem openCall_of_ok {header : DataPlaneHeader} {frame : ProtocolFrame}
    (h : opener.checkFrame crypto lane sealed = .ok (header, frame)) :
    openCall crypto (lane, sealed) opener =
      match DataPlaneReplayWindow.accept header.sequence opener.replayGuard.window
        (opener.replayGuard.entry header.epoch) with
      | .ok _ window =>
        .ok frame (opener.setReplayGuard (opener.replayGuard.setEntry header.epoch window))
      | .error e window =>
        .error e (opener.setReplayGuard (opener.replayGuard.setEntry header.epoch window)) := by
  change EStateM.bind (MonadExcept.ofExcept (opener.checkFrame crypto lane sealed)) _ opener = _
  rw [h]
  change EStateM.bind (onPart DataPlaneOpener.replayGuard DataPlaneOpener.setReplayGuard
    (DataPlaneReplayGuard.accept header.epoch header.sequence)) _ opener = _
  cases hAccept : DataPlaneReplayWindow.accept header.sequence opener.replayGuard.window
    (opener.replayGuard.entry header.epoch) with
  | ok _ window =>
    have hGuard : DataPlaneReplayGuard.accept header.epoch header.sequence opener.replayGuard =
        .ok () (opener.replayGuard.setEntry header.epoch window) := onPart_of_ok hAccept
    rw [EStateM.bind, onPart_of_ok hGuard]
    rfl
  | error e window =>
    have hGuard : DataPlaneReplayGuard.accept header.epoch header.sequence opener.replayGuard =
        .error e (opener.replayGuard.setEntry header.epoch window) := onPart_of_error hAccept
    rw [EStateM.bind, onPart_of_error hGuard]

/-- A call answers openers alike that are alike, and leaves them so. -/
theorem alike_openCall (crypto : FrameCrypto κ) (call : QuicLane × List UInt8)
    (h : Alike opener opener') :
    answer (openCall crypto call) opener = answer (openCall crypto call) opener' ∧
      Alike (stateAfter (openCall crypto call) opener)
        (stateAfter (openCall crypto call) opener') := by
  obtain ⟨lane, sealed⟩ := call
  have hCheck : opener'.checkFrame crypto lane sealed = opener.checkFrame crypto lane sealed :=
    checkFrame_congr crypto h.toSameSettings
  cases hOwn : opener.checkFrame crypto lane sealed with
  | error e =>
    have hCall := openCall_of_error hOwn
    have hCall' := openCall_of_error (hCheck.trans hOwn)
    rw [answer_of_error hCall, answer_of_error hCall', stateAfter_of_error hCall,
      stateAfter_of_error hCall']
    exact ⟨rfl, h⟩
  | ok checked =>
    obtain ⟨header, frame⟩ := checked
    have hCall := openCall_of_ok hOwn
    have hCall' := openCall_of_ok (hCheck.trans hOwn)
    rw [h.window, h.entries] at hCall'
    cases hAccept : DataPlaneReplayWindow.accept header.sequence opener.replayGuard.window
      (opener.replayGuard.entry header.epoch) with
    | ok _ window =>
      rw [hAccept] at hCall hCall'
      rw [answer_of_ok hCall, answer_of_ok hCall', stateAfter_of_ok hCall, stateAfter_of_ok hCall']
      exact ⟨rfl, h.setEntry header.epoch window⟩
    | error e window =>
      rw [hAccept] at hCall hCall'
      rw [answer_of_error hCall, answer_of_error hCall', stateAfter_of_error hCall,
        stateAfter_of_error hCall']
      exact ⟨rfl, h.setEntry header.epoch window⟩

/-- A call that fails leaves an opener that no later call can tell from the one before. -/
theorem alike_of_refused {e : Fault String}
    (h : openCall crypto (lane, sealed) opener = .error e opener') : Alike opener opener' := by
  cases hCheck : opener.checkFrame crypto lane sealed with
  | error e =>
    rw [openCall_of_error hCheck] at h
    cases h
    exact .refl opener
  | ok checked =>
    obtain ⟨header, frame⟩ := checked
    have hWindow := windowAccept_refused (opener.replayGuard.entry header.epoch) header.sequence
      opener.replayGuard.window
    rw [openCall_of_ok hCheck] at h
    rcases hWindow.ok_or_error with ⟨_, window, hAccept, -⟩ | ⟨e, window, hAccept, rfl⟩
    · rw [hAccept] at h
      cases h
    · rw [hAccept] at h
      cases h
      exact alike_setEntry_self opener header.epoch

end Refusal

/-- With ideal decryption, an opener only opens what was sealed for the lane that it expects, with a
frame of that lane, from and for devices that are not revoked, and under numbers that it has not
opened before.  A call that fails changes no later answer. -/
theorem openFrame_sound (crypto : FrameCrypto κ) {produced : Set (SealRecord crypto)}
    (hIdeal : crypto.Ideal produced) (config : DataPlaneSecurityConfig) (revoked : List DeviceId)
    (calls : List (QuicLane × List UInt8)) (lane : QuicLane) (sealed : List UInt8) :
    (∀ frame opener',
        DataPlaneOpener.openFrame crypto lane sealed
            (after (openCall crypto) ((DataPlaneOpener.new config).withRevokedDevices revoked)
              calls) = .ok frame opener' →
          (∃ record ∈ produced, record.bytes = sealed ∧ record.lane = lane ∧
            (record.epoch, record.sequence) ∉ openedPairs crypto
              ((DataPlaneOpener.new config).withRevokedDevices revoked) calls ∧
            ProtocolFrame.decode record.frame.encodeVec = .ok frame) ∧
          frame.payload.transportLane = lane.transportLane ∧
          ∀ id ∈ frameDeviceIds frame, id ∉ revoked) ∧
      ∀ opener e opener', DataPlaneOpener.openFrame crypto lane sealed opener = .error e opener' →
        ∀ later,
          answers (openCall crypto) opener' later = answers (openCall crypto) opener later := by
  refine ⟨fun frame opener' hOk => ?_, fun opener e opener' hError later => ?_⟩
  · have hNew : ((DataPlaneOpener.new config).withRevokedDevices revoked).replayGuard.Shows
        (takenIn []) := by
      rw [takenIn_nil]
      exact DataPlaneReplayGuard.new_shows config.replayWindow
    obtain ⟨hSettings, hShows⟩ := shows_openedPairs crypto hNew calls
    rw [List.nil_append] at hShows
    obtain ⟨-, header, hPasses, hFresh, -⟩ :=
      (Meets.of_ok hOk).mp (openCall_meets crypto hShows (lane, sealed))
    obtain ⟨record, hRecord, hBytes, hLane, hNumbers, hDecode⟩ := hPasses.exists_record hIdeal
    refine ⟨⟨record, hRecord, hBytes, hLane, hNumbers ▸ hFresh, hDecode⟩, hPasses.frame_lane, ?_⟩
    have hAllowed := hPasses.allowed
    rwa [hSettings.revokedDevices] at hAllowed
  · exact answers_eq_of_bisim (fun _ _ call => alike_openCall crypto call)
      (alike_of_refused hError) later |>.symm

section Sample

def sampleHeartbeat : ProtocolFrame := ⟨7, 9, .control (.heartbeat 1 2 3)⟩

/-- Encryption that leaves the text as it is, for one heartbeat: nothing else decrypts. -/
def heartbeatCrypto : FrameCrypto Unit where
  expand _ _ info := some info
  newFromSlice _ := some ()
  encrypt _ _ msg _ := some msg
  decrypt _ nonce msg aad :=
    if dataPlaneNonce 0 1 = .ok nonce ∧ sampleHeartbeat.encodeVec = msg ∧
        dataPlaneHeader .control 0 1 = aad then some msg else none

def heartbeatRecord : SealRecord heartbeatCrypto where
  config := .fromSecret []
  lane := .control
  epoch := 0
  sequence := 1
  frame := sampleHeartbeat
  bytes := dataPlaneHeader .control 0 1 ++ sampleHeartbeat.encodeVec
  sealed := rfl

theorem heartbeatCrypto_ideal : heartbeatCrypto.Ideal {heartbeatRecord} := by
  intro cipher nonce ciphertext aad msg
  constructor
  · intro hDecrypt
    simp only [heartbeatCrypto] at hDecrypt
    split at hDecrypt
    next hSame =>
      obtain ⟨hNonce, rfl, rfl⟩ := hSame
      cases hDecrypt
      exact ⟨heartbeatRecord, rfl, ⟨_, rfl, rfl⟩, hNonce, rfl, rfl, rfl⟩
    next => cases hDecrypt
  · rintro ⟨record, rfl, hAs⟩
    obtain ⟨-, hNonce, rfl, rfl, hBytes⟩ := hAs
    obtain rfl := List.append_cancel_left hBytes
    exact if_pos ⟨hNonce, rfl, rfl⟩

/-- The heartbeat is opened, as device 1 that sends it is not the one revoked. -/
theorem openFrame_sound_heartbeat :
    (∃ record ∈ ({heartbeatRecord} : Set (SealRecord heartbeatCrypto)),
      record.bytes = heartbeatRecord.bytes ∧ record.lane = .control ∧
      (record.epoch, record.sequence) ∉ openedPairs heartbeatCrypto
        ((DataPlaneOpener.new (.fromSecret [])).withRevokedDevices [9]) [] ∧
      ProtocolFrame.decode record.frame.encodeVec = .ok sampleHeartbeat) ∧
    sampleHeartbeat.payload.transportLane = QuicLane.control.transportLane ∧
    ∀ id ∈ frameDeviceIds sampleHeartbeat, id ∉ ([9] : List DeviceId) := by
  have hEnds : Ends (DataPlaneOpener.openFrame heartbeatCrypto .control heartbeatRecord.bytes)
      (fun frame _ => frame = sampleHeartbeat)
      ((DataPlaneOpener.new (.fromSecret [])).withRevokedDevices [9]) := by decide
  obtain ⟨frame, opener', hOk, rfl⟩ := Ends.exists_ok hEnds
  exact (openFrame_sound heartbeatCrypto heartbeatCrypto_ideal (.fromSecret []) [9] [] .control
    heartbeatRecord.bytes).1 sampleHeartbeat opener' hOk

end Sample

end Kmsync
