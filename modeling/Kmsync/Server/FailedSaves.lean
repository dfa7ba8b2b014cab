import Kmsync.Server.Requests
import Kmsync.Server.UuidText

/-! Requests that fail because the store cannot be saved.  The store in memory has changed by then,
and keeps the change; the file has not. -/

namespace Kmsync.Server

open ProofKit

variable {C α β : Type}

section Programs

/-- The program leaves the file as it is, and the events as well if it is to be quiet. -/
def Silent (quiet : Prop) (m : Handler C α) : Prop :=
  ∀ s, (stateAfter m s).file = s.file ∧ (quiet → (stateAfter m s).events = s.events)

/-- The program leaves the store in memory as it is. -/
def KeepsStore (m : Handler C α) : Prop := ∀ s, (stateAfter m s).inner = s.inner

/-- If `m` fails because the store cannot be saved, it leaves the store as `m'` does, and the file
as it was. -/
def FailsLate (quiet : Prop) (m m' : Handler C α) : Prop :=
  ∀ s message t, m s = .error (.internal message) t →
    t.inner = (stateAfter m' s).inner ∧ t.file = s.file ∧ (quiet → t.events = s.events)

variable {quiet : Prop} {m m' : Handler C α} {f f' : α → Handler C β} {env env' : Surroundings}

theorem silent_lock : Silent quiet (lock : Handler C (Store C)) := fun _ => ⟨rfl, fun _ => rfl⟩

theorem silent_get : Silent quiet (get : Handler C (AppState C)) := fun _ => ⟨rfl, fun _ => rfl⟩

theorem silent_pure (a : α) : Silent quiet (pure a : Handler C α) := fun _ => ⟨rfl, fun _ => rfl⟩

theorem silent_modifyStore (g : Store C → Store C) : Silent quiet (modifyStore g) :=
  fun _ => ⟨rfl, fun _ => rfl⟩

theorem silent_ofExcept (x : Except ApiError α) :
    Silent quiet (MonadExcept.ofExcept x : Handler C α) := by
  cases x with
  | ok a => exact fun _ => ⟨rfl, fun _ => rfl⟩
  | error e => exact fun _ => ⟨rfl, fun _ => rfl⟩

theorem silent_orRefuse (found : Option α) (error : ApiError) :
    Silent quiet (orRefuse found error : Handler C α) := by
  cases found with
  | some a => exact fun _ => ⟨rfl, fun _ => rfl⟩
  | none => exact fun _ => ⟨rfl, fun _ => rfl⟩

theorem silent_refuseIf (refused : Prop) [Decidable refused] (error : ApiError) :
    Silent quiet (refuseIf refused error : Handler C Unit) := by
  unfold refuseIf
  split
  next => exact fun _ => ⟨rfl, fun _ => rfl⟩
  next => exact fun _ => ⟨rfl, fun _ => rfl⟩

theorem silent_publishIf (published : Prop) [Decidable published] (event : ServerEvent C) :
    Silent False (publishIf published event) := by
  unfold publishIf
  split
  next => exact fun _ => ⟨rfl, False.elim⟩
  next => exact fun _ => ⟨rfl, False.elim⟩

theorem keepsStore_pure (a : α) : KeepsStore (pure a : Handler C α) := fun _ => rfl

theorem keepsStore_throw (error : ApiError) : KeepsStore (throw error : Handler C α) := fun _ => rfl

theorem keepsStore_publishIf (published : Prop) [Decidable published] (event : ServerEvent C) :
    KeepsStore (publishIf published event) := by
  unfold publishIf
  split
  next => exact fun _ => rfl
  next => exact fun _ => rfl

theorem keepsStore_publishEvent (event : ServerEvent C) : KeepsStore (publishEvent event) :=
  fun _ => rfl

theorem KeepsStore.bind (hm : KeepsStore m) (hf : ∀ a, KeepsStore (f a)) : KeepsStore (m >>= f) := by
  intro s
  have hFirst := hm s
  cases h : m s with
  | ok a s' =>
    rw [stateAfter_of_ok h] at hFirst
    rw [stateAfter, bind_of_ok h, ← hFirst]
    exact hf a s'
  | error e s' =>
    rw [stateAfter_of_error h] at hFirst
    rw [stateAfter_of_error (bind_of_error h)]
    exact hFirst

theorem Silent.bind (hm : Silent quiet m) (hf : ∀ a, Silent quiet (f a)) :
    Silent quiet (m >>= f) := by
  intro s
  obtain ⟨hFile, hEvents⟩ := hm s
  cases h : m s with
  | ok a s' =>
    rw [stateAfter_of_ok h] at hFile hEvents
    obtain ⟨hFile', hEvents'⟩ := hf a s'
    rw [stateAfter, bind_of_ok h]
    exact ⟨hFile'.trans hFile, fun hQuiet => (hEvents' hQuiet).trans (hEvents hQuiet)⟩
  | error e s' =>
    rw [stateAfter_of_error h] at hFile hEvents
    rw [stateAfter_of_error (bind_of_error h)]
    exact ⟨hFile, hEvents⟩

theorem silent_authorized (headers : Headers) {f : Uuid → Handler C β}
    (hf : ∀ userId, Silent quiet (f userId)) :
    Silent quiet (lock >>= fun store =>
      MonadExcept.ofExcept (authorizeOrDefault store headers) >>= f) :=
  .bind silent_lock fun _ => .bind (silent_ofExcept _) hf

/-- What comes before the store is saved. -/
theorem FailsLate.bind (hm : Silent quiet m) (hf : ∀ a, FailsLate quiet (f a) (f' a)) :
    FailsLate quiet (m >>= f) (m >>= f') := by
  intro s message t h
  obtain ⟨hFile, hEvents⟩ := hm s
  cases hFirst : m s with
  | ok a s' =>
    rw [stateAfter_of_ok hFirst] at hFile hEvents
    rw [bind_of_ok hFirst] at h
    obtain ⟨hInner, hFile', hEvents'⟩ := hf a s' message t h
    rw [stateAfter, bind_of_ok hFirst]
    exact ⟨hInner, hFile'.trans hFile, fun hQuiet => (hEvents' hQuiet).trans (hEvents hQuiet)⟩
  | error e s' =>
    rw [stateAfter_of_error hFirst] at hFile hEvents
    rw [bind_of_error hFirst] at h
    obtain ⟨rfl, rfl⟩ := EStateM.Result.error.inj h
    rw [stateAfter_of_error (bind_of_error hFirst)]
    exact ⟨rfl, hFile, hEvents⟩

theorem saveLocked_of_error {error : String} (hFails : env.save = .error error) (s : AppState C) :
    (saveLocked env : Handler C Unit) s = .error (.internal error) s := by
  rw [saveLocked, hFails]
  rfl

theorem saveLocked_of_ok (hSaves : env.save = .ok ()) (s : AppState C) :
    (saveLocked env : Handler C Unit) s = .ok () { s with file := s.inner } := by
  rw [saveLocked, hSaves]
  rfl

theorem failsLate_saveLocked {error : String} (hFails : env.save = .error error)
    (hSaves : env'.save = .ok ()) :
    FailsLate quiet (saveLocked env : Handler C Unit) (saveLocked env') := by
  intro s message t h
  rw [saveLocked_of_error hFails] at h
  obtain ⟨-, rfl⟩ := EStateM.Result.error.inj h
  rw [stateAfter_of_ok (saveLocked_of_ok hSaves s)]
  exact ⟨rfl, rfl, fun _ => rfl⟩

/-- What comes after the store is saved. -/
theorem failsLate_saveLocked_bind {error : String} (hFails : env.save = .error error)
    (hSaves : env'.save = .ok ()) {g : Unit → Handler C α} (hg : KeepsStore (g ())) :
    FailsLate quiet (saveLocked env >>= g) (saveLocked env' >>= g) := by
  intro s message t h
  rw [bind_of_error (saveLocked_of_error hFails s)] at h
  obtain ⟨-, rfl⟩ := EStateM.Result.error.inj h
  have hKept := hg { s with file := s.inner }
  rw [stateAfter, bind_of_ok (saveLocked_of_ok hSaves s)]
  exact ⟨hKept.symm, rfl, fun _ => rfl⟩

theorem FailsLate.mono {quiet' : Prop} (h : FailsLate quiet m m') (hQuiet : quiet' → quiet) :
    FailsLate quiet' m m' := by
  intro s message t hEnd
  obtain ⟨hInner, hFile, hEvents⟩ := h s message t hEnd
  exact ⟨hInner, hFile, fun hQuiet' => hEvents (hQuiet hQuiet')⟩

theorem FailsLate.ite {n n' : Handler C α} (c : Prop) [Decidable c] (h : FailsLate quiet m m')
    (h' : FailsLate quiet n n') : FailsLate quiet (if c then m else n) (if c then m' else n') := by
  split
  next => exact h
  next => exact h'

/-- A program that never saves. -/
theorem Silent.failsLate (hm : Silent quiet m) : FailsLate quiet m m := by
  intro s message t h
  have hSilent := hm s
  rw [stateAfter_of_error h] at hSilent ⊢
  exact ⟨rfl, hSilent⟩

/-- A program that ends in an answer. -/
theorem FailsLate.map {g : α → β} (h : FailsLate quiet m m') :
    FailsLate quiet (m >>= fun a => pure (g a)) (m' >>= fun a => pure (g a)) := by
  intro s message t hEnd
  have hKeeps (n : Handler C α) :
      (stateAfter (n >>= fun a => pure (g a)) s).inner = (stateAfter n s).inner := by
    cases hn : n s with
    | ok a s' => rw [stateAfter, bind_of_ok hn, stateAfter_of_ok hn]; rfl
    | error e s' => rw [stateAfter_of_error (bind_of_error hn), stateAfter_of_error hn]
  rw [hKeeps]
  cases hm : m s with
  | ok a s' =>
    rw [bind_of_ok hm] at hEnd
    contradiction
  | error e s' =>
    rw [bind_of_error hm] at hEnd
    obtain ⟨rfl, rfl⟩ := EStateM.Result.error.inj hEnd
    exact h s message s' hm

end Programs

section Handlers

/-- The same surroundings, but the store can be saved. -/
def Surroundings.repaired (env : Surroundings) : Surroundings := { env with save := .ok () }

variable {env : Surroundings} {error : String} {quiet : Prop} (hSave : env.save = .error error)
  (headers : Headers)
include hSave

/-- The end of the handlers that save. -/
theorem failsLate_commit {g : Store C → Store C} {rest : Handler C α} (hRest : KeepsStore rest) :
    FailsLate quiet (do modifyStore g; saveLocked env; rest)
      (do modifyStore g; saveLocked env.repaired; rest) :=
  .bind (silent_modifyStore _) fun _ => failsLate_saveLocked_bind hSave rfl hRest

omit hSave in
theorem silent_putRegisteredDevice (userId deviceId : Uuid) (request : RegisterDeviceRequest) :
    Silent quiet (putRegisteredDevice env userId deviceId request : Handler C Unit) := by
  refine .bind silent_lock fun store => ?_
  cases store.devices.get? deviceId with
  | none => exact silent_modifyStore _
  | some device =>
    exact .bind (silent_refuseIf _ _) fun _ => .bind (silent_refuseIf _ _) fun _ =>
      silent_modifyStore _

theorem registerDevice_failsLate (request : RegisterDeviceRequest) :
    FailsLate (C := C) quiet (registerDevice env headers request)
      (registerDevice env.repaired headers request) :=
  .bind silent_lock fun _ => .bind (silent_ofExcept _) fun _ => .bind (silent_refuseIf _ _) fun _ =>
    .bind silent_lock fun _ => .bind (silent_refuseIf _ _) fun _ =>
      .bind (silent_putRegisteredDevice _ _ _) fun _ => failsLate_commit hSave (keepsStore_pure _)

theorem updateDevice_failsLate (deviceId : Uuid) (request : UpdateDeviceRequest) :
    FailsLate (C := C) quiet (updateDevice env headers deviceId request)
      (updateDevice env.repaired headers deviceId request) :=
  .bind silent_lock fun _ => .bind (silent_ofExcept _) fun _ => .bind silent_lock fun _ =>
    .bind (silent_orRefuse _ _) fun _ => .bind (silent_refuseIf _ _) fun _ =>
      .bind (silent_refuseIf _ _) fun _ => failsLate_commit hSave
        (.bind (keepsStore_publishIf _ _) fun _ => keepsStore_pure _)

theorem reauthorizeDevice_failsLate (deviceId : Uuid) (request : ReauthorizeDeviceRequest) :
    FailsLate (C := C) quiet (reauthorizeDevice env headers deviceId request)
      (reauthorizeDevice env.repaired headers deviceId request) :=
  .bind silent_lock fun _ => .bind (silent_ofExcept _) fun _ => .bind (silent_refuseIf _ _) fun _ =>
    .bind silent_lock fun _ => .bind (silent_orRefuse _ _) fun _ =>
      .bind (silent_refuseIf _ _) fun _ => failsLate_commit hSave
        (.bind (keepsStore_publishEvent _) fun _ => keepsStore_pure _)

theorem deleteDevice_failsLate (deviceId : Uuid) :
    FailsLate (C := C) quiet (deleteDevice env headers deviceId)
      (deleteDevice env.repaired headers deviceId) :=
  .bind silent_lock fun _ => .bind (silent_ofExcept _) fun _ => .bind silent_lock fun _ =>
    .bind (silent_ofExcept _) fun _ => failsLate_commit hSave fun _ => rfl

theorem heartbeat_failsLate (publicIp : String) (deviceId : Uuid) (request : HeartbeatRequest) :
    FailsLate (C := C) quiet (heartbeat env headers publicIp deviceId request)
      (heartbeat env.repaired headers publicIp deviceId request) :=
  .bind silent_lock fun _ => .bind (silent_ofExcept _) fun _ => .bind silent_lock fun _ =>
    .bind (silent_orRefuse _ _) fun _ => .bind (silent_refuseIf _ _) fun _ =>
      .bind (silent_refuseIf _ _) fun _ => .ite _ (failsLate_commit hSave (keepsStore_throw _))
        (.bind silent_lock fun _ => failsLate_commit hSave
          (.bind (keepsStore_publishIf _ _) fun _ => keepsStore_pure _))

/-- The event has been published by then. -/
theorem markDeviceOffline_failsLate (deviceId : Uuid) :
    FailsLate (C := C) False (markDeviceOffline env headers deviceId)
      (markDeviceOffline env.repaired headers deviceId) := by
  refine .bind silent_lock fun _ => .bind (silent_ofExcept _) fun _ => .bind silent_lock fun _ =>
    .bind (silent_orRefuse _ _) fun _ => .bind (silent_refuseIf _ _) fun _ =>
      .bind silent_lock fun store => ?_
  cases store.presence.get? deviceId with
  | none => exact Silent.failsLate fun _ => ⟨rfl, False.elim⟩
  | some presence =>
    exact .bind (silent_modifyStore _) fun _ => .bind (silent_publishIf _ _) fun _ =>
      failsLate_saveLocked_bind hSave rfl (keepsStore_pure _)

theorem upsertTopology_failsLate (request : UpsertTopologyRequest) :
    FailsLate (C := C) quiet (upsertTopology env headers request)
      (upsertTopology env.repaired headers request) :=
  .bind silent_lock fun _ => .bind (silent_ofExcept _) fun _ => .bind silent_lock fun _ =>
    .bind (silent_ofExcept _) fun _ => failsLate_commit hSave
      (.bind (keepsStore_publishEvent _) fun _ => keepsStore_pure _)

theorem rollbackProfile_failsLate (request : RollbackProfileRequest) :
    FailsLate (C := C) quiet (rollbackProfile env headers request)
      (rollbackProfile env.repaired headers request) :=
  .bind silent_lock fun _ => .bind (silent_ofExcept _) fun _ => .bind silent_lock fun _ =>
    .bind (silent_orRefuse _ _) fun _ => .bind (silent_refuseIf _ _) fun _ =>
      .bind (silent_orRefuse _ _) fun _ => .bind (silent_refuseIf _ _) fun _ =>
        failsLate_commit hSave (.bind (keepsStore_publishEvent _) fun _ => keepsStore_pure _)

theorem putSignalSession_failsLate (userId sessionId : Uuid) (session : SignalSession) :
    FailsLate (C := C) quiet (putSignalSession env userId sessionId session)
      (putSignalSession env.repaired userId sessionId session) :=
  failsLate_commit hSave (.bind (keepsStore_publishEvent _) fun _ => keepsStore_pure _)

theorem signalConnectRequest_failsLate (sourceDeviceId targetDeviceId : Uuid) :
    FailsLate (C := C) quiet (signalConnectRequest env headers sourceDeviceId targetDeviceId)
      (signalConnectRequest env.repaired headers sourceDeviceId targetDeviceId) :=
  .bind silent_lock fun _ => .bind (silent_ofExcept _) fun _ => .bind silent_lock fun _ =>
    .bind (silent_ofExcept _) fun _ => .bind (silent_ofExcept _) fun _ => failsLate_commit hSave
      (.bind (keepsStore_publishEvent _) fun _ => keepsStore_pure _)

theorem updateSignalSessionStatus_failsLate (sessionId : Uuid) (status : String) :
    FailsLate (C := C) quiet (updateSignalSessionStatus env headers sessionId status)
      (updateSignalSessionStatus env.repaired headers sessionId status) :=
  .bind silent_lock fun _ => .bind (silent_ofExcept _) fun _ => .bind silent_lock fun _ =>
    .bind (silent_ofExcept _) fun _ => putSignalSession_failsLate hSave _ _ _

theorem signalCandidateAdd_failsLate (sessionId : Uuid) (candidate : SignalCandidate) :
    FailsLate (C := C) quiet (signalCandidateAdd env headers sessionId candidate)
      (signalCandidateAdd env.repaired headers sessionId candidate) :=
  .bind silent_lock fun _ => .bind (silent_ofExcept _) fun _ => .bind silent_lock fun _ =>
    .bind (silent_ofExcept _) fun _ => .bind (silent_refuseIf _ _) fun _ =>
      putSignalSession_failsLate hSave _ _ _

theorem logout_failsLate (refreshToken : Option String) :
    FailsLate (C := C) quiet (logout env headers refreshToken)
      (logout env.repaired headers refreshToken) :=
  .bind (silent_ofExcept _) fun _ => .bind silent_lock fun _ => .bind (silent_refuseIf _ _) fun _ =>
    .bind (silent_modifyStore _) fun _ => failsLate_saveLocked hSave rfl

variable [UuidText]

theorem upsertProfile_failsLate (request : UpsertProfileRequest C) :
    FailsLate quiet (upsertProfile env headers request)
      (upsertProfile env.repaired headers request) :=
  .bind silent_lock fun _ => .bind (silent_ofExcept _) fun _ => .bind silent_lock fun _ =>
    .bind (silent_ofExcept _) fun _ => .bind (silent_ofExcept _) fun _ =>
      .bind (silent_refuseIf _ _) fun _ => failsLate_commit hSave
        (.bind (keepsStore_publishEvent _) fun _ => keepsStore_pure _)

theorem issueRelayToken_failsLate (request : RelayTokenRequest) :
    FailsLate (C := C) quiet (issueRelayToken env headers request)
      (issueRelayToken env.repaired headers request) :=
  .bind silent_lock fun _ => .bind (silent_ofExcept _) fun _ => .bind silent_lock fun _ =>
    .bind (silent_ofExcept _) fun _ => .bind (silent_ofExcept _) fun _ =>
      failsLate_commit hSave (keepsStore_pure _)

theorem startEmailLogin_failsLate (email : String) :
    FailsLate (C := C) quiet (startEmailLogin env email) (startEmailLogin env.repaired email) :=
  .bind (silent_ofExcept _) fun _ => failsLate_commit hSave (keepsStore_pure _)

theorem verifyEmailLogin_failsLate (email code : String) :
    FailsLate (C := C) quiet (verifyEmailLogin env email code)
      (verifyEmailLogin env.repaired email code) :=
  .bind (silent_ofExcept _) fun _ => .bind silent_lock fun _ => .bind (silent_orRefuse _ _) fun _ =>
    .ite _ (failsLate_commit hSave (keepsStore_throw _))
      (.bind (silent_refuseIf _ _) fun _ => .bind silent_lock fun _ =>
        failsLate_commit hSave (keepsStore_pure _))

theorem refreshAccessToken_failsLate (refreshToken : String) :
    FailsLate (C := C) quiet (refreshAccessToken env refreshToken)
      (refreshAccessToken env.repaired refreshToken) :=
  .bind silent_lock fun _ => .bind (silent_orRefuse _ _) fun _ =>
    failsLate_commit hSave (keepsStore_pure _)

/-- Every request but one publishes nothing when it fails because the store cannot be saved. -/
theorem handle_failsLate (request : Request C)
    (hQuiet : quiet → ∀ headers deviceId, request ≠ .markDeviceOffline headers deviceId) :
    FailsLate quiet (handle env request) (handle env.repaired request) := by
  cases request with
  | startEmailLogin email => exact (startEmailLogin_failsLate hSave email).map
  | verifyEmailLogin email code => exact (verifyEmailLogin_failsLate hSave email code).map
  | refreshAccessToken refreshToken => exact (refreshAccessToken_failsLate hSave refreshToken).map
  | logout headers refreshToken => exact (logout_failsLate hSave headers refreshToken).map
  | issueRelayToken headers request => exact (issueRelayToken_failsLate hSave headers request).map
  | signalConnectRequest headers source target =>
    exact (signalConnectRequest_failsLate hSave headers source target).map
  | signalConnectAccept headers sessionId =>
    exact (updateSignalSessionStatus_failsLate hSave headers sessionId _).map
  | signalConnectReject headers sessionId =>
    exact (updateSignalSessionStatus_failsLate hSave headers sessionId _).map
  | signalSessionClose headers sessionId =>
    exact (updateSignalSessionStatus_failsLate hSave headers sessionId _).map
  | signalCandidateAdd headers sessionId candidate =>
    exact (signalCandidateAdd_failsLate hSave headers sessionId candidate).map
  | registerDevice headers request => exact (registerDevice_failsLate hSave headers request).map
  | updateDevice headers deviceId request =>
    exact (updateDevice_failsLate hSave headers deviceId request).map
  | reauthorizeDevice headers deviceId request =>
    exact (reauthorizeDevice_failsLate hSave headers deviceId request).map
  | deleteDevice headers deviceId => exact (deleteDevice_failsLate hSave headers deviceId).map
  | heartbeat headers publicIp deviceId request =>
    exact (heartbeat_failsLate hSave headers publicIp deviceId request).map
  | markDeviceOffline headers deviceId =>
    exact (markDeviceOffline_failsLate hSave headers deviceId).map.mono fun h =>
      hQuiet h headers deviceId rfl
  | upsertTopology headers request => exact (upsertTopology_failsLate hSave headers request).map
  | upsertProfile headers request => exact (upsertProfile_failsLate hSave headers request).map
  | rollbackProfile headers request => exact (rollbackProfile_failsLate hSave headers request).map
  | listDevices headers =>
    exact (silent_authorized headers fun _ => .bind silent_get fun _ => silent_pure _).failsLate.map
  | getTopology headers =>
    exact (silent_authorized headers fun _ => .bind silent_lock fun _ => silent_pure _).failsLate.map
  | listProfiles headers =>
    exact (silent_authorized headers fun _ => .bind silent_lock fun _ => silent_pure _).failsLate.map
  | listProfileChanges headers sinceRevision =>
    exact (silent_authorized headers fun _ => .bind silent_lock fun _ => silent_pure _).failsLate.map

end Handlers

section FailedSaves

/-- A request that fails because the store cannot be saved leaves what it changes in memory, and
neither the file nor, with one exception, the published events have changed. -/
theorem failed_save [UuidText] {env : Surroundings} {s : AppState C} {request : Request C}
    {error message : String} (hSave : env.save = .error error)
    (hAnswer : answer (handle env request) s = .error (.internal message)) :
    (stateAfter (handle env request) s).inner =
        (stateAfter (handle env.repaired request) s).inner ∧
      (stateAfter (handle env request) s).file = s.file ∧
      ((∀ headers deviceId, request ≠ .markDeviceOffline headers deviceId) →
        (stateAfter (handle env request) s).events = s.events) := by
  obtain ⟨t, hEnd⟩ := error_of_answer hAnswer
  rw [stateAfter_of_error hEnd]
  exact handle_failsLate hSave request id s message t hEnd

def fullDisk : Surroundings := { Surroundings.usual 0 0 with save := .error "disk full" }

def firstRegistration : Request Unit :=
  .registerDevice ⟨none⟩ ⟨some 10, "desk", none, "linux", "6", "1", "key a"⟩

theorem answer_fullDisk :
    answer (@handle Unit .hyphenated fullDisk firstRegistration) .start =
      .error (.internal "disk full") := by decide

theorem failed_save_fullDisk :
    (stateAfter (@handle Unit .hyphenated fullDisk firstRegistration) .start).file =
      (AppState.start : AppState Unit).file :=
  (@failed_save Unit .hyphenated _ _ _ _ _ rfl answer_fullDisk).2.1

/-- The device is in the store, although the registration has failed. -/
theorem not_unchanged :
    ¬ ∀ (env : Surroundings) (s : AppState Unit) (request : Request Unit) (error message : String),
      env.save = .error error →
      answer (@handle Unit .hyphenated env request) s = .error (.internal message) →
      (stateAfter (@handle Unit .hyphenated env request) s).inner = s.inner ∧
        (stateAfter (@handle Unit .hyphenated env request) s).events = s.events := by
  intro h
  have hInner := (h fullDisk .start firstRegistration "disk full" "disk full" rfl
    answer_fullDisk).1
  have hAbsent := congrArg (fun store : Store Unit => store.devices.get? 10) hInner
  revert hAbsent
  decide

end FailedSaves

end Kmsync.Server
