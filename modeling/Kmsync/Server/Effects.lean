import Kmsync.Server.Requests

/-! What a request can do.  Each handler is taken apart once here; the facts about runs of requests
are case analyses over `Effect`. -/

namespace Kmsync.Server

open ProofKit

/-- An answer that is given once the store has been saved. -/
inductive Surroundings.Saves {α : Type} (env : Surroundings) (answer : Except ApiError α) :
    Except ApiError α → Prop where
  | saved (h : env.save = .ok ()) : env.Saves answer answer
  | failed (error : String) (h : env.save = .error error) :
    env.Saves answer (.error (.internal error))

variable {C : Type}

theorem Surroundings.Saves.eq {α : Type} {env : Surroundings} {ended answer : Except ApiError α}
    (h : env.Saves ended answer) (hSave : env.save = .ok ()) : answer = ended := by
  cases h with
  | saved => rfl
  | failed error hFailed => exact absurd hFailed (save_ne_error hSave)

theorem Surroundings.Saves.noProfiles {env : Surroundings}
    {ended answer : Except ApiError (Response C)} (h : env.Saves ended answer)
    (hEnded : ∀ response, ended = .ok response → response.returned = [])
    (response : Response C) (hAnswer : answer = .ok response) : response.returned = [] := by
  cases h with
  | saved => exact hEnded response hAnswer
  | failed => contradiction

/-- The requests that change who is logged in and the tokens for the relay, and nothing else. -/
def Request.isAccount : Request C → Bool
  | .startEmailLogin _ => true
  | .verifyEmailLogin _ _ => true
  | .refreshAccessToken _ => true
  | .logout _ _ => true
  | .issueRelayToken _ _ => true
  | _ => false

/-- The signal session that a request changes, with the headers of the request. -/
def Request.changedSession? : Request C → Option (Headers × Uuid)
  | .signalConnectAccept headers sessionId => some (headers, sessionId)
  | .signalConnectReject headers sessionId => some (headers, sessionId)
  | .signalSessionClose headers sessionId => some (headers, sessionId)
  | .signalCandidateAdd headers sessionId _ => some (headers, sessionId)
  | _ => none

/-- The headers of the requests on behalf of a user. -/
def Request.headers? : Request C → Option Headers
  | .startEmailLogin _ => none
  | .verifyEmailLogin _ _ => none
  | .refreshAccessToken _ => none
  | .logout _ _ => none
  | .issueRelayToken headers _ => some headers
  | .signalConnectRequest headers _ _ => some headers
  | .signalConnectAccept headers _ => some headers
  | .signalConnectReject headers _ => some headers
  | .signalSessionClose headers _ => some headers
  | .signalCandidateAdd headers _ _ => some headers
  | .registerDevice headers _ => some headers
  | .listDevices headers => some headers
  | .updateDevice headers _ _ => some headers
  | .reauthorizeDevice headers _ _ => some headers
  | .deleteDevice headers _ => some headers
  | .heartbeat headers _ _ _ => some headers
  | .markDeviceOffline headers _ => some headers
  | .getTopology headers => some headers
  | .upsertTopology headers _ => some headers
  | .upsertProfile headers _ => some headers
  | .rollbackProfile headers _ => some headers
  | .listProfiles headers => some headers
  | .listProfileChanges headers _ => some headers

theorem headers?_of_changedSession? {request : Request C} {headers : Headers} {sessionId : Uuid}
    (h : request.changedSession? = some (headers, sessionId)) :
    request.headers? = some headers := by
  cases request with
  | signalConnectAccept | signalConnectReject | signalSessionClose | signalCandidateAdd =>
    exact congrArg (Option.map Prod.fst) h
  | _ => contradiction

/-- The user on whose behalf a request is made. -/
def Request.userId? (request : Request C) (store : Store C) : Option Uuid :=
  request.headers?.bind fun headers => (authorizeOrDefault store headers).toOption

/-- A device of a user is registered. -/
def Store.owns (store : Store C) (userId deviceId : Uuid) : Prop :=
  ∃ device, store.devices.get? deviceId = some device ∧ device.userId = userId

section Effect

variable [UuidText]

/-- What a request answers and leaves of a store. -/
inductive Effect (env : Surroundings) (s : Store C) :
    Request C → Except ApiError (Response C) → Store C → Prop where
  | refused {request : Request C} (error : ApiError) : Effect env s request (.error error) s
  | account {request : Request C} {answer : Except ApiError (Response C)}
      {users : HashMap Uuid User} {emailLoginCodes : HashMap String EmailLoginChallenge}
      {sessions refreshTokens : HashMap String Uuid}
      {relayTokens : HashMap String RelayTokenRecord} (hRequest : request.isAccount = true)
      (hAnswer : ∀ response, answer = .ok response → response.returned = []) :
      Effect env s request answer
        { s with users, emailLoginCodes, sessions, refreshTokens, relayTokens }
  | devicesListed {headers : Headers} {devices : List DeviceWithPresence} :
      Effect env s (.listDevices headers) (.ok (.devices devices)) s
  | topologyRead {headers : Headers} {topology : Topology} :
      Effect env s (.getTopology headers) (.ok (.topology topology)) s
  | profilesListed {headers : Headers} {userId : Uuid}
      (hUser : authorizeOrDefault s headers = .ok userId) :
      Effect env s (.listProfiles headers)
        (.ok (.profiles ((s.profiles.values env.idHash).filter (·.userId = userId)))) s
  | changesListed {headers : Headers} {sinceRevision : Option UInt64} {userId : Uuid}
      {profiles : List (DeviceProfile C)} (hUser : authorizeOrDefault s headers = .ok userId)
      (hProfiles : ∀ profile, profile ∈ profiles ↔ (∃ id, s.profiles.get? id = some profile) ∧
        profile.userId = userId ∧ profile.revision > sinceRevision.getD 0) :
      Effect env s (.listProfileChanges headers sinceRevision)
        (.ok (.profileChanges ⟨s.profileRevision, profiles⟩)) s
  | connected {headers : Headers} {sourceDeviceId targetDeviceId userId : Uuid}
      {session : SignalSession} {answer : Except ApiError (Response C)}
      (hUser : authorizeOrDefault s headers = .ok userId) (hSession : session.userId = userId)
      (hSaves : env.Saves (.ok (.signalSession session)) answer) :
      Effect env s (.signalConnectRequest headers sourceDeviceId targetDeviceId) answer
        (s.putSignalSession (env.uuid 0) session)
  | signalled {request : Request C} {headers : Headers} {sessionId userId : Uuid}
      {session session' : SignalSession} {answer : Except ApiError (Response C)}
      (hRequest : request.changedSession? = some (headers, sessionId))
      (hUser : authorizeOrDefault s headers = .ok userId)
      (hSession : s.signalSessions.get? sessionId = some session)
      (hOwner : session.userId = userId) (hOwner' : session'.userId = userId)
      (hSaves : env.Saves (.ok (.signalSession session')) answer) :
      Effect env s request answer (s.putSignalSession sessionId session')
  | added {headers : Headers} {request : RegisterDeviceRequest} {userId deviceId : Uuid}
      {answer : Except ApiError (Response C)}
      (hUser : authorizeOrDefault s headers = .ok userId) (hName : trimmed request.name ≠ "")
      (hUnblocked : request.deviceId.getD (env.uuid 0) ∉ s.devices →
        deletedDeviceKeyDecision env s userId (request.deviceId.getD (env.uuid 0))
          request.publicKey ≠ .blockDuplicateIdentity)
      (hId : registeredDeviceId env s userId (request.deviceId.getD (env.uuid 0))
        request.publicKey = deviceId)
      (hNew : s.devices.get? deviceId = none)
      (hSaves : env.Saves (.ok (.registered deviceId)) answer) :
      Effect env s (.registerDevice headers request) answer
        ((s.putDevice deviceId (.new userId deviceId request env.now)).clearDeleted userId deviceId
          request (deletedDeviceKeyDecision env s userId (request.deviceId.getD (env.uuid 0))
            request.publicKey))
  | refreshed {headers : Headers} {request : RegisterDeviceRequest} {userId deviceId : Uuid}
      {device : Device} {answer : Except ApiError (Response C)}
      (hUser : authorizeOrDefault s headers = .ok userId)
      (hUnblocked : request.deviceId.getD (env.uuid 0) ∉ s.devices →
        deletedDeviceKeyDecision env s userId (request.deviceId.getD (env.uuid 0))
          request.publicKey ≠ .blockDuplicateIdentity)
      (hId : registeredDeviceId env s userId (request.deviceId.getD (env.uuid 0))
        request.publicKey = deviceId)
      (hDevice : s.devices.get? deviceId = some device) (hOwner : device.userId = userId)
      (hKey : device.publicKey = request.publicKey)
      (hSaves : env.Saves (.ok (.registered deviceId)) answer) :
      Effect env s (.registerDevice headers request) answer
        ((s.putDevice deviceId (device.refreshed request env.now)).clearDeleted userId deviceId
          request (deletedDeviceKeyDecision env s userId (request.deviceId.getD (env.uuid 0))
            request.publicKey))
  | updated {headers : Headers} {deviceId userId : Uuid} {request : UpdateDeviceRequest}
      {device : Device} {answer : Except ApiError (Response C)}
      (hUser : authorizeOrDefault s headers = .ok userId)
      (hDevice : s.devices.get? deviceId = some device) (hOwner : device.userId = userId)
      (hSaves : env.Saves (.ok (.device (device.updated request env.now))) answer) :
      Effect env s (.updateDevice headers deviceId request) answer
        (s.putDevice deviceId (device.updated request env.now))
  | reauthorized {headers : Headers} {deviceId userId : Uuid} {request : ReauthorizeDeviceRequest}
      {device : Device} {answer : Except ApiError (Response C)}
      (hUser : authorizeOrDefault s headers = .ok userId) (hKey : trimmed request.publicKey ≠ "")
      (hDevice : s.devices.get? deviceId = some device) (hOwner : device.userId = userId)
      (hSaves : env.Saves (.ok (.device (device.reauthorized request env.now))) answer) :
      Effect env s (.reauthorizeDevice headers deviceId request) answer
        (s.putDevice deviceId (device.reauthorized request env.now))
  | deleted {headers : Headers} {deviceId userId : Uuid} {answer : Except ApiError (Response C)}
      (hUser : authorizeOrDefault s headers = .ok userId) (hOwner : s.owns userId deviceId)
      (hSaves : env.Saves (.ok .deleted) answer) :
      Effect env s (.deleteDevice headers deviceId) answer
        (s.withoutDevices userId (deviceDeletionScope env s userId deviceId)
          (deletedDevices env s userId deviceId) env.now)
  | forgotten {headers : Headers} {publicIp : String} {deviceId userId : Uuid}
      {request : HeartbeatRequest} {device : Device} {answer : Except ApiError (Response C)}
      (hUser : authorizeOrDefault s headers = .ok userId)
      (hDevice : s.devices.get? deviceId = some device) (hOwner : device.userId = userId)
      (hEnabled : device.disabled = false)
      (hTombstone : meetsTombstone s userId device publicIp request = true)
      (hSaves : env.Saves (.error (.forbidden "device was deleted")) answer) :
      Effect env s (.heartbeat headers publicIp deviceId request) answer (s.dropDevice deviceId)
  | recorded {headers : Headers} {publicIp : String} {deviceId userId : Uuid}
      {request : HeartbeatRequest} {device : Device} {answer : Except ApiError (Response C)}
      {presenceVersion : UInt64}
      (hVersion : heartbeatVersion (s.presence.get? deviceId) request env.now = presenceVersion)
      (hUser : authorizeOrDefault s headers = .ok userId)
      (hDevice : s.devices.get? deviceId = some device) (hOwner : device.userId = userId)
      (hTombstone : meetsTombstone s userId device publicIp request = false)
      (hSaves : env.Saves (.ok (.presence ⟨true, env.now, presenceVersion⟩)) answer) :
      Effect env s (.heartbeat headers publicIp deviceId request) answer
        (s.putPresence deviceId
          (heartbeatPresence userId deviceId publicIp request env.now presenceVersion))
  | absent {headers : Headers} {deviceId : Uuid} :
      Effect env s (.markDeviceOffline headers deviceId) (.ok (.presence ⟨false, env.now, 1⟩)) s
  | offline {headers : Headers} {deviceId userId : Uuid} {device : Device} {presence : Presence}
      {answer : Except ApiError (Response C)}
      (hUser : authorizeOrDefault s headers = .ok userId)
      (hDevice : s.devices.get? deviceId = some device) (hOwner : device.userId = userId)
      (hPresence : s.presence.get? deviceId = some presence)
      (hSaves : env.Saves (.ok (.presence ⟨false, presence.lastSeenAt,
        (presence.markedOffline env.now).presenceVersion⟩)) answer) :
      Effect env s (.markDeviceOffline headers deviceId) answer
        (s.putPresence deviceId (presence.markedOffline env.now))
  | topology {headers : Headers} {request : UpsertTopologyRequest} {userId : Uuid}
      {answer : Except ApiError (Response C)}
      (hUser : authorizeOrDefault s headers = .ok userId)
      (hOwner : ∀ deviceId ∈ (request.topology s userId env.now).deviceIds, s.owns userId deviceId)
      (hSaves : env.Saves (.ok (.topology (request.topology s userId env.now))) answer) :
      Effect env s (.upsertTopology headers request) answer
        (s.putTopology userId (request.topology s userId env.now))
  | upserted {headers : Headers} {request : UpsertProfileRequest C} {userId : Uuid}
      {answer : Except ApiError (Response C)}
      (hUser : authorizeOrDefault s headers = .ok userId)
      (hSource : s.owns userId request.sourceDeviceId)
      (hTarget : s.owns userId request.targetDeviceId)
      (hExpected : ∀ expected, request.expectedVersion = some expected → ∀ profile,
        s.profiles.get? (profileId userId request.sourceDeviceId request.targetDeviceId) =
          some profile → profile.version = expected)
      (hSaves : env.Saves (.ok (.profile (request.profile s userId env.now))) answer) :
      Effect env s (.upsertProfile headers request) answer
        (s.writeProfile (profileId userId request.sourceDeviceId request.targetDeviceId)
          (request.profile s userId env.now))
  | rolledBack {headers : Headers} {request : RollbackProfileRequest} {userId : Uuid}
      {current target : DeviceProfile C} {answer : Except ApiError (Response C)}
      (hUser : authorizeOrDefault s headers = .ok userId)
      (hCurrent : s.profiles.get? request.profileId = some current)
      (hOwner : current.userId = userId)
      (hTarget : profileVersion s request.profileId request.targetVersion = some target)
      (hSaves : env.Saves (.ok (.profile
        (current.rolledBack target (saturatingNext s.profileRevision) env.now))) answer) :
      Effect env s (.rollbackProfile headers request) answer
        (s.writeProfile request.profileId
          (current.rolledBack target (saturatingNext s.profileRevision) env.now))

/-- The store changes by an effect of the request, and the relay stays as it is. -/
structure Outcome (env : Surroundings) (s : AppState C) (request : Request C)
    (answer : Except ApiError (Response C)) (t : AppState C) : Prop where
  effect : Effect env s.inner request answer t.inner
  relay : t.relay = s.relay

theorem Outcome.refused {env : Surroundings} {s : AppState C} {request : Request C}
    (error : ApiError) : Outcome env s request (.error error) s :=
  ⟨.refused error, rfl⟩

/-- The end of the handlers that save: whether that succeeds or not, the store has changed. -/
theorem Outcome.commit {env : Surroundings} {s t t' : AppState C} {request : Request C}
    {answer : Except ApiError (Response C)} (hInner : t'.inner = t.inner)
    (hRelay : t.relay = s.relay) (hRelay' : t'.relay = s.relay)
    (h : ∀ {answer'}, env.Saves answer answer' → Effect env s.inner request answer' t.inner) :
    (env.save = .ok () → Outcome env s request answer t) ∧
      ∀ error, env.save = .error error → Outcome env s request (.error (.internal error)) t' :=
  ⟨fun hSave => ⟨h (.saved hSave), hRelay⟩,
    fun error hSave => ⟨hInner ▸ h (.failed error hSave), hRelay'⟩⟩

/-- A handler of a request, whose outcome is one of the request. -/
structure HasEffect (env : Surroundings) (request : Request C)
    (handler : Handler C (Response C)) : Prop where
  meets : ∀ s : AppState C, Meets handler (fun response => Outcome env s request (.ok response))
    (fun error => Outcome env s request (.error error)) s

end Effect

section Handlers

variable [UuidText] (env : Surroundings) (headers : Headers)

theorem registerDevice_effect (request : RegisterDeviceRequest) :
    HasEffect (C := C) env (.registerDevice headers request)
      (handle env (.registerDevice headers request)) := by
  refine ⟨fun s => ?_⟩
  simp only [handle, registerDevice, putRegisteredDevice, meets_bind, meets_ofExcept, meets_lock,
    meets_refuseIf]
  refine ⟨fun userId hUser => ⟨fun hName => ⟨fun hBlock => ?_, fun _ => .refused _⟩,
    fun _ => .refused _⟩, fun error _ => .refused error⟩
  have hUnblocked := fun hNew hDecision => hBlock ⟨hNew, hDecision⟩
  cases hDevice : s.inner.devices.get? (registeredDeviceId env s.inner userId
      (request.deviceId.getD (env.uuid 0)) request.publicKey) with
  | none =>
    simp only [meets_modifyStore, meets_saveLocked, meets_pure]
    exact Outcome.commit rfl rfl rfl (.added hUser hName hUnblocked rfl hDevice)
  | some device =>
    simp only [meets_bind, meets_refuseIf, not_not, meets_modifyStore, meets_saveLocked, meets_pure]
    refine ⟨fun hOwner => ⟨fun hKey => ?_, fun _ => .refused _⟩, fun _ => .refused _⟩
    exact Outcome.commit rfl rfl rfl (.refreshed hUser hUnblocked rfl hDevice hOwner hKey)

theorem updateDevice_effect (deviceId : Uuid) (request : UpdateDeviceRequest) :
    HasEffect (C := C) env (.updateDevice headers deviceId request)
      (handle env (.updateDevice headers deviceId request)) := by
  refine ⟨fun s => ?_⟩
  simp only [handle, updateDevice, meets_bind, meets_ofExcept, meets_lock, meets_orRefuse,
    meets_refuseIf, not_not, meets_modifyStore, meets_saveLocked, meets_publishIf, meets_pure]
  refine ⟨fun userId hUser => ⟨fun device hDevice => ⟨fun hOwner => ⟨fun _ => ?_,
    fun _ => .refused _⟩, fun _ => .refused _⟩, fun _ => .refused _⟩, fun error _ => .refused error⟩
  exact Outcome.commit rfl rfl rfl (.updated hUser hDevice hOwner)

theorem reauthorizeDevice_effect (deviceId : Uuid) (request : ReauthorizeDeviceRequest) :
    HasEffect (C := C) env (.reauthorizeDevice headers deviceId request)
      (handle env (.reauthorizeDevice headers deviceId request)) := by
  refine ⟨fun s => ?_⟩
  simp only [handle, reauthorizeDevice, meets_bind, meets_ofExcept, meets_lock, meets_orRefuse,
    meets_refuseIf, not_not, meets_modifyStore, meets_saveLocked, meets_publishEvent, meets_pure]
  refine ⟨fun userId hUser => ⟨fun hKey => ⟨fun device hDevice => ⟨fun hOwner => ?_,
    fun _ => .refused _⟩, fun _ => .refused _⟩, fun _ => .refused _⟩, fun error _ => .refused error⟩
  exact Outcome.commit rfl rfl rfl (.reauthorized hUser hKey hDevice hOwner)

theorem deleteDevice_effect (deviceId : Uuid) :
    HasEffect (C := C) env (.deleteDevice headers deviceId)
      (handle env (.deleteDevice headers deviceId)) := by
  refine ⟨fun s => ?_⟩
  simp only [handle, deleteDevice, meets_bind, meets_ofExcept, meets_lock, assertDeviceOwner_eq_ok,
    meets_modifyStore, meets_saveLocked, meets_publishEvents, meets_pure]
  refine ⟨fun userId hUser => ⟨fun _ hOwner => ?_, fun error _ => .refused error⟩,
    fun error _ => .refused error⟩
  exact Outcome.commit rfl rfl rfl (.deleted hUser hOwner)

theorem heartbeat_effect (publicIp : String) (deviceId : Uuid) (request : HeartbeatRequest) :
    HasEffect (C := C) env (.heartbeat headers publicIp deviceId request)
      (handle env (.heartbeat headers publicIp deviceId request)) := by
  refine ⟨fun s => ?_⟩
  simp only [handle, heartbeat, meets_bind, meets_ofExcept, meets_lock, meets_orRefuse,
    meets_refuseIf, not_not, Bool.not_eq_true]
  refine ⟨fun userId hUser => ⟨fun device hDevice => ⟨fun hOwner => ⟨fun hEnabled => ?_,
    fun _ => .refused _⟩, fun _ => .refused _⟩, fun _ => .refused _⟩, fun error _ => .refused error⟩
  split
  next hTombstone =>
    simp only [forgetDevice, meets_bind, meets_modifyStore, meets_saveLocked, meets_throw]
    exact Outcome.commit rfl rfl rfl (.forgotten hUser hDevice hOwner hEnabled hTombstone)
  next hTombstone =>
    simp only [recordHeartbeat, meets_bind, meets_lock, meets_modifyStore, meets_saveLocked,
      meets_publishIf, meets_pure]
    have hNone := eq_false_of_ne_true hTombstone
    exact Outcome.commit rfl rfl rfl (.recorded rfl hUser hDevice hOwner hNone)

theorem markDeviceOffline_effect (deviceId : Uuid) :
    HasEffect (C := C) env (.markDeviceOffline headers deviceId)
      (handle env (.markDeviceOffline headers deviceId)) := by
  refine ⟨fun s => ?_⟩
  simp only [handle, markDeviceOffline, meets_bind, meets_ofExcept, meets_lock, meets_orRefuse,
    meets_refuseIf, not_not]
  refine ⟨fun userId hUser => ⟨fun device hDevice => ⟨fun hOwner => ?_, fun _ => .refused _⟩,
    fun _ => .refused _⟩, fun error _ => .refused error⟩
  cases hPresence : s.inner.presence.get? deviceId with
  | none => exact ⟨.absent, rfl⟩
  | some presence =>
    simp only [meets_bind, meets_modifyStore, meets_publishIf, meets_saveLocked, meets_pure]
    exact Outcome.commit rfl rfl rfl (.offline hUser hDevice hOwner hPresence)

theorem upsertTopology_effect (request : UpsertTopologyRequest) :
    HasEffect (C := C) env (.upsertTopology headers request)
      (handle env (.upsertTopology headers request)) := by
  refine ⟨fun s => ?_⟩
  simp only [handle, upsertTopology, meets_bind, meets_ofExcept, meets_lock,
    assertDeviceOwners_eq_ok, meets_modifyStore, meets_saveLocked, meets_publishEvent, meets_pure]
  refine ⟨fun userId hUser => ⟨fun _ hOwner => ?_, fun error _ => .refused error⟩,
    fun error _ => .refused error⟩
  exact Outcome.commit rfl rfl rfl (.topology hUser hOwner)

theorem upsertProfile_effect (request : UpsertProfileRequest C) :
    HasEffect env (.upsertProfile headers request)
      (handle env (.upsertProfile headers request)) := by
  refine ⟨fun s => ?_⟩
  simp only [handle, upsertProfile, meets_bind, meets_ofExcept, meets_lock, assertDeviceOwner_eq_ok,
    meets_refuseIf, meets_modifyStore, meets_saveLocked, meets_publishEvent, meets_pure]
  refine ⟨fun userId hUser => ⟨fun _ hSource => ⟨fun _ hTarget => ⟨fun hExpected => ?_,
    fun _ => .refused _⟩, fun error _ => .refused error⟩, fun error _ => .refused error⟩,
    fun error _ => .refused error⟩
  have hVersion : ∀ expected, request.expectedVersion = some expected → ∀ profile,
      s.inner.profiles.get?
        (profileId userId request.sourceDeviceId request.targetDeviceId) = some profile →
      profile.version = expected := by
    intro expected hRequest profile hProfile
    by_contra hOther
    apply hExpected
    simp [hRequest, hProfile, Ne.symm hOther]
  exact Outcome.commit rfl rfl rfl (.upserted hUser hSource hTarget hVersion)

theorem rollbackProfile_effect (request : RollbackProfileRequest) :
    HasEffect (C := C) env (.rollbackProfile headers request)
      (handle env (.rollbackProfile headers request)) := by
  refine ⟨fun s => ?_⟩
  simp only [handle, rollbackProfile, meets_bind, meets_ofExcept, meets_lock, meets_orRefuse,
    meets_refuseIf, not_not, meets_modifyStore, meets_saveLocked, meets_publishEvent, meets_pure]
  refine ⟨fun userId hUser => ⟨fun current hCurrent => ⟨fun hOwner => ⟨fun target hTarget =>
    ⟨fun _ => ?_, fun _ => .refused _⟩, fun _ => .refused _⟩, fun _ => .refused _⟩,
    fun _ => .refused _⟩, fun error _ => .refused error⟩
  exact Outcome.commit rfl rfl rfl (.rolledBack hUser hCurrent hOwner hTarget)

theorem signalConnectRequest_effect (sourceDeviceId targetDeviceId : Uuid) :
    HasEffect (C := C) env (.signalConnectRequest headers sourceDeviceId targetDeviceId)
      (handle env (.signalConnectRequest headers sourceDeviceId targetDeviceId)) := by
  refine ⟨fun s => ?_⟩
  simp only [handle, signalConnectRequest, meets_bind, meets_ofExcept, meets_lock,
    meets_modifyStore, meets_saveLocked, meets_publishEvent, meets_pure]
  refine ⟨fun userId hUser => ⟨fun _ _ => ⟨fun _ _ => ?_, fun error _ => .refused error⟩,
    fun error _ => .refused error⟩, fun error _ => .refused error⟩
  exact Outcome.commit rfl rfl rfl (.connected hUser rfl)

theorem updateSignalSessionStatus_effect {request : Request C} (sessionId : Uuid) (status : String)
    (hRequest : request.changedSession? = some (headers, sessionId)) :
    HasEffect env request (do
      return .signalSession (← updateSignalSessionStatus env headers sessionId status)) := by
  refine ⟨fun s => ?_⟩
  simp only [updateSignalSessionStatus, putSignalSession, meets_bind, meets_ofExcept, meets_lock,
    signalSession_eq_ok, meets_modifyStore, meets_saveLocked, meets_publishEvent, meets_pure]
  refine ⟨fun userId hUser => ⟨fun session hSession => ?_, fun error _ => .refused error⟩,
    fun error _ => .refused error⟩
  exact Outcome.commit rfl rfl rfl (.signalled hRequest hUser hSession.1 hSession.2 hSession.2)

theorem signalCandidateAdd_effect (sessionId : Uuid) (candidate : SignalCandidate) :
    HasEffect (C := C) env (.signalCandidateAdd headers sessionId candidate)
      (handle env (.signalCandidateAdd headers sessionId candidate)) := by
  refine ⟨fun s => ?_⟩
  simp only [handle, signalCandidateAdd, putSignalSession, meets_bind, meets_ofExcept, meets_lock,
    signalSession_eq_ok, meets_refuseIf, meets_modifyStore, meets_saveLocked, meets_publishEvent,
    meets_pure]
  refine ⟨fun userId hUser => ⟨fun session hSession => ⟨fun _ => ?_, fun _ => .refused _⟩,
    fun error _ => .refused error⟩, fun error _ => .refused error⟩
  exact Outcome.commit rfl rfl rfl (.signalled rfl hUser hSession.1 hSession.2 hSession.2)

theorem startEmailLogin_effect (email : String) :
    HasEffect (C := C) env (.startEmailLogin email) (handle env (.startEmailLogin email)) := by
  refine ⟨fun s => ?_⟩
  simp only [handle, startEmailLogin, meets_bind, meets_ofExcept, meets_modifyStore,
    meets_saveLocked, meets_pure]
  refine ⟨fun _ _ => Outcome.commit rfl rfl rfl fun hSaves => ?_, fun error _ => .refused error⟩
  exact .account rfl (hSaves.noProfiles fun _ hEq => Except.ok.inj hEq ▸ rfl)

theorem verifyEmailLogin_effect (email code : String) :
    HasEffect (C := C) env (.verifyEmailLogin email code)
      (handle env (.verifyEmailLogin email code)) := by
  refine ⟨fun s => ?_⟩
  simp only [handle, verifyEmailLogin, meets_bind, meets_ofExcept, meets_lock, meets_orRefuse]
  refine ⟨fun email _ => ⟨fun challenge _ => ?_, fun _ => .refused _⟩,
    fun error _ => .refused error⟩
  split
  next =>
    simp only [dropExpiredCode, meets_bind, meets_modifyStore, meets_saveLocked, meets_throw]
    exact Outcome.commit rfl rfl rfl fun hSaves =>
      .account rfl (hSaves.noProfiles fun _ hEq => by cases hEq)
  next =>
    simp only [logIn, meets_bind, meets_refuseIf, meets_lock, meets_modifyStore, meets_saveLocked,
      meets_pure]
    refine ⟨fun _ => Outcome.commit rfl rfl rfl fun hSaves => ?_, fun _ => .refused _⟩
    exact .account rfl (hSaves.noProfiles fun _ hEq => Except.ok.inj hEq ▸ rfl)

theorem refreshAccessToken_effect (refreshToken : String) :
    HasEffect (C := C) env (.refreshAccessToken refreshToken)
      (handle env (.refreshAccessToken refreshToken)) := by
  refine ⟨fun s => ?_⟩
  simp only [handle, refreshAccessToken, meets_bind, meets_lock, meets_orRefuse, meets_modifyStore,
    meets_saveLocked, meets_pure]
  refine ⟨fun _ _ => Outcome.commit rfl rfl rfl fun hSaves => ?_, fun _ => .refused _⟩
  exact .account rfl (hSaves.noProfiles fun _ hEq => Except.ok.inj hEq ▸ rfl)

theorem logout_effect (refreshToken : Option String) :
    HasEffect (C := C) env (.logout headers refreshToken)
      (handle env (.logout headers refreshToken)) := by
  refine ⟨fun s => ?_⟩
  simp only [handle, logout, meets_bind, meets_ofExcept, meets_lock, meets_refuseIf,
    meets_modifyStore, meets_saveLocked, meets_pure]
  refine ⟨fun _ _ => ⟨fun _ => Outcome.commit rfl rfl rfl fun hSaves => ?_, fun _ => .refused _⟩,
    fun error _ => .refused error⟩
  exact .account rfl (hSaves.noProfiles fun _ hEq => Except.ok.inj hEq ▸ rfl)

theorem issueRelayToken_effect (request : RelayTokenRequest) :
    HasEffect (C := C) env (.issueRelayToken headers request)
      (handle env (.issueRelayToken headers request)) := by
  refine ⟨fun s => ?_⟩
  simp only [handle, issueRelayToken, meets_bind, meets_ofExcept, meets_lock, meets_modifyStore,
    meets_saveLocked, meets_pure]
  refine ⟨fun _ _ => ⟨fun _ _ => ⟨fun _ _ => Outcome.commit rfl rfl rfl fun hSaves => ?_,
    fun error _ => .refused error⟩, fun error _ => .refused error⟩, fun error _ => .refused error⟩
  exact .account rfl (hSaves.noProfiles fun _ hEq => Except.ok.inj hEq ▸ rfl)

theorem listProfileChanges_effect (sinceRevision : Option UInt64) :
    HasEffect (C := C) env (.listProfileChanges headers sinceRevision)
      (handle env (.listProfileChanges headers sinceRevision)) := by
  refine ⟨fun s => ?_⟩
  simp only [handle, listProfileChanges, meets_bind, meets_ofExcept, meets_lock, meets_pure]
  refine ⟨fun userId hUser => ⟨.changesListed hUser fun profile => ?_, rfl⟩,
    fun error _ => .refused error⟩
  rw [List.mem_insertionSort, List.mem_filter, HashMap.mem_values, decide_eq_true_iff]

/-- Every request has one of the effects. -/
theorem handle_effect (request : Request C) : HasEffect env request (handle env request) := by
  cases request with
  | startEmailLogin email => exact startEmailLogin_effect env email
  | verifyEmailLogin email code => exact verifyEmailLogin_effect env email code
  | refreshAccessToken refreshToken => exact refreshAccessToken_effect env refreshToken
  | logout headers refreshToken => exact logout_effect env headers refreshToken
  | issueRelayToken headers request => exact issueRelayToken_effect env headers request
  | signalConnectRequest headers source target =>
    exact signalConnectRequest_effect env headers source target
  | signalConnectAccept headers sessionId =>
    exact updateSignalSessionStatus_effect env headers sessionId "accepted" rfl
  | signalConnectReject headers sessionId =>
    exact updateSignalSessionStatus_effect env headers sessionId "rejected" rfl
  | signalSessionClose headers sessionId =>
    exact updateSignalSessionStatus_effect env headers sessionId "closed" rfl
  | signalCandidateAdd headers sessionId candidate =>
    exact signalCandidateAdd_effect env headers sessionId candidate
  | registerDevice headers request => exact registerDevice_effect env headers request
  | listDevices headers =>
    refine ⟨fun s => ?_⟩
    simp only [handle, listDevices, meets_bind, meets_ofExcept, meets_lock, meets_get, meets_pure]
    exact ⟨fun _ _ => ⟨.devicesListed, rfl⟩, fun error _ => .refused error⟩
  | updateDevice headers deviceId request => exact updateDevice_effect env headers deviceId request
  | reauthorizeDevice headers deviceId request =>
    exact reauthorizeDevice_effect env headers deviceId request
  | deleteDevice headers deviceId => exact deleteDevice_effect env headers deviceId
  | heartbeat headers publicIp deviceId request =>
    exact heartbeat_effect env headers publicIp deviceId request
  | markDeviceOffline headers deviceId => exact markDeviceOffline_effect env headers deviceId
  | getTopology headers =>
    refine ⟨fun s => ?_⟩
    simp only [handle, getTopology, meets_bind, meets_ofExcept, meets_lock, meets_pure]
    exact ⟨fun _ _ => ⟨.topologyRead, rfl⟩, fun error _ => .refused error⟩
  | upsertTopology headers request => exact upsertTopology_effect env headers request
  | upsertProfile headers request => exact upsertProfile_effect env headers request
  | rollbackProfile headers request => exact rollbackProfile_effect env headers request
  | listProfiles headers =>
    refine ⟨fun s => ?_⟩
    simp only [handle, listProfiles, meets_bind, meets_ofExcept, meets_lock, meets_pure]
    exact ⟨fun _ hUser => ⟨.profilesListed hUser, rfl⟩, fun error _ => .refused error⟩
  | listProfileChanges headers sinceRevision =>
    exact listProfileChanges_effect env headers sinceRevision

end Handlers

section Calls

variable [UuidText]

/-- A request with what the surroundings answer to it. -/
abbrev Call (C : Type) := Surroundings × Request C

def serve (call : Call C) : Handler C (Response C) := handle call.1 call.2

/-- The store after some calls. -/
def storeAfter (calls : List (Call C)) : Store C := (after serve .start calls).inner

/-- What a call answers after some others. -/
def answerAfter (calls : List (Call C)) (call : Call C) : Except ApiError (Response C) :=
  answer (serve call) (after serve .start calls)

theorem serve_outcome (s : AppState C) (call : Call C) :
    Outcome call.1 s call.2 (answer (serve call) s) (stateAfter (serve call) s) := by
  rcases ((handle_effect call.1 call.2).meets s).ok_or_error with
    ⟨response, t, hOk, hOutcome⟩ | ⟨error, t, hError, hOutcome⟩
  · rw [serve, answer_of_ok hOk, stateAfter_of_ok hOk]
    exact hOutcome
  · rw [serve, answer_of_error hError, stateAfter_of_error hError]
    exact hOutcome

/-- The effect of one more call. -/
theorem effect_snoc (calls : List (Call C)) (call : Call C) :
    Effect call.1 (storeAfter calls) call.2 (answerAfter calls call)
      (storeAfter (calls ++ [call])) := by
  rw [storeAfter, storeAfter, after_snoc]
  exact (serve_outcome _ call).effect

omit [UuidText] in
/-- The default user registers a device. -/
def registration (now : UInt64) (id : Uuid) (publicKey : String) : Call C :=
  (.usual now 0,
    .registerDevice ⟨none⟩ ⟨some id, "desk", none, "linux", "6", "1", publicKey⟩)

omit [UuidText] in
/-- The default user writes a profile of device 10. -/
def profileUpsert (now : UInt64) (targetId : Uuid) (config : C) : Call C :=
  (.usual now 0, .upsertProfile ⟨none⟩ ⟨10, targetId, none, config⟩)

end Calls

end Kmsync.Server
