import Kmsync.Server.Tombstones
import Kmsync.ProofKit.Broadcast

/-! The event streams of the server.  A request tells only the user for whom it is carried out, and
only of his own devices, profiles and signal sessions.  A stream sends what its user is told, in
order, but for what it has skipped because it fell behind. -/

namespace Kmsync.Server

open ProofKit

variable {C : Type}

section Events

def ServerEvent.userId : ServerEvent C → Uuid
  | .devicePresenceChanged userId _ _ _ => userId
  | .deviceChanged userId _ _ _ => userId
  | .topologyChanged userId _ => userId
  | .profileChanged userId _ => userId
  | .signalSessionChanged userId _ => userId

/-- An event for a user, which is about a device, a profile or a signal session of his. -/
def ServerEvent.isOf (store : Store C) (userId : Uuid) : ServerEvent C → Prop
  | .devicePresenceChanged toldId deviceId _ _ => toldId = userId ∧ store.owns userId deviceId
  | .deviceChanged toldId deviceId _ _ => toldId = userId ∧ store.owns userId deviceId
  | .topologyChanged toldId _ => toldId = userId
  | .profileChanged toldId profile => toldId = userId ∧ profile.userId = userId
  | .signalSessionChanged toldId session => toldId = userId ∧ session.userId = userId

theorem ServerEvent.isOf.userId_eq {store : Store C} {userId : Uuid} {event : ServerEvent C}
    (h : event.isOf store userId) : event.userId = userId := by
  cases event with
  | topologyChanged => exact h
  | _ => exact h.1

/-- What a request publishes: nothing, or events of the user for whom it is carried out. -/
def Told (request : Request C) (s t : AppState C) : Prop :=
  ∃ new, t.events = s.events ++ new ∧ ∀ event ∈ new, ∃ userId,
    request.userId? s.inner = some userId ∧ event.isOf s.inner userId

variable {request : Request C} {s t : AppState C}

theorem Told.quiet (h : t.events = s.events) : Told request s t :=
  ⟨[], by rw [h, List.append_nil], fun _ hMem => by cases hMem⟩

theorem Told.refused : Told request s s := .quiet rfl

theorem Told.events {headers : Headers} {userId : Uuid} {new : List (ServerEvent C)}
    (hHeaders : request.headers? = some headers)
    (hUser : authorizeOrDefault s.inner headers = .ok userId) (hEvents : t.events = s.events ++ new)
    (h : ∀ event ∈ new, event.isOf s.inner userId) : Told request s t := by
  refine ⟨new, hEvents, fun event hMem => ⟨userId, ?_, h event hMem⟩⟩
  rw [Request.userId?, hHeaders, Option.bind_some, hUser]
  rfl

theorem Told.event {headers : Headers} {userId : Uuid} {event : ServerEvent C}
    (hHeaders : request.headers? = some headers)
    (hUser : authorizeOrDefault s.inner headers = .ok userId)
    (hEvents : t.events = s.events ++ [event]) (h : event.isOf s.inner userId) :
    Told request s t :=
  .events hHeaders hUser hEvents fun _ hMem => List.mem_singleton.mp hMem ▸ h

/-- The end of the handlers that publish once the store has been saved. -/
theorem Told.commit {env : Surroundings} {t' : AppState C} (h : Told request s t)
    (hFails : t'.events = s.events) :
    (env.save = .ok () → Told request s t) ∧ ∀ error, env.save = .error error → Told request s t' :=
  ⟨fun _ => h, fun _ _ => .quiet hFails⟩

/-- A handler that tells only the user of the request. -/
structure Publishes (request : Request C) (handler : Handler C (Response C)) : Prop where
  meets : ∀ s : AppState C, s.inner.Keyed →
    Meets handler (fun _ => Told request s) (fun _ => Told request s) s

end Events

section Handlers

variable [UuidText] (env : Surroundings) (headers : Headers)

theorem updateDevice_publishes (deviceId : Uuid) (request : UpdateDeviceRequest) :
    Publishes (C := C) (.updateDevice headers deviceId request)
      (handle env (.updateDevice headers deviceId request)) := by
  refine ⟨fun s _ => ?_⟩
  simp only [handle, updateDevice, meets_bind, meets_ofExcept, meets_lock, meets_orRefuse,
    meets_refuseIf, not_not, meets_modifyStore, meets_saveLocked, meets_publishIf, meets_pure]
  refine ⟨fun userId hUser => ⟨fun device hDevice => ⟨fun hOwner => ⟨fun _ => Told.commit ?_ rfl,
    fun _ => .refused⟩, fun _ => .refused⟩, fun _ => .refused⟩, fun _ _ => .refused⟩
  split
  next => exact .event rfl hUser rfl ⟨rfl, device, hDevice, hOwner⟩
  next => exact .quiet (List.append_nil _)

theorem reauthorizeDevice_publishes (deviceId : Uuid) (request : ReauthorizeDeviceRequest) :
    Publishes (C := C) (.reauthorizeDevice headers deviceId request)
      (handle env (.reauthorizeDevice headers deviceId request)) := by
  refine ⟨fun s _ => ?_⟩
  simp only [handle, reauthorizeDevice, meets_bind, meets_ofExcept, meets_lock, meets_orRefuse,
    meets_refuseIf, not_not, meets_modifyStore, meets_saveLocked, meets_publishEvent, meets_pure]
  refine ⟨fun userId hUser => ⟨fun _ => ⟨fun device hDevice => ⟨fun hOwner => Told.commit ?_ rfl,
    fun _ => .refused⟩, fun _ => .refused⟩, fun _ => .refused⟩, fun _ _ => .refused⟩
  exact .event rfl hUser rfl ⟨rfl, device, hDevice, hOwner⟩

/-- A deletion tells of each device that it removes. -/
theorem deleteDevice_publishes (deviceId : Uuid) :
    Publishes (C := C) (.deleteDevice headers deviceId)
      (handle env (.deleteDevice headers deviceId)) := by
  refine ⟨fun s hKeyed => ?_⟩
  simp only [handle, deleteDevice, meets_bind, meets_ofExcept, meets_lock, assertDeviceOwner_eq_ok,
    meets_modifyStore, meets_saveLocked, meets_publishEvents, meets_pure]
  refine ⟨fun userId hUser => ⟨fun _ hOwns => Told.commit (.events rfl hUser rfl ?_) rfl,
    fun _ _ => .refused⟩, fun _ _ => .refused⟩
  intro event hMem
  obtain ⟨removedId, hRemoved, rfl⟩ := List.mem_map.mp hMem
  rw [HashSet.mem_elements, HashSet.mem_insertAll] at hRemoved
  obtain ⟨device, hDevice, rfl⟩ := List.mem_map.mp (hRemoved.resolve_right (by simp))
  exact ⟨rfl, device, mem_deletedDevices_owned hKeyed hOwns hDevice⟩

theorem heartbeat_publishes (publicIp : String) (deviceId : Uuid) (request : HeartbeatRequest) :
    Publishes (C := C) (.heartbeat headers publicIp deviceId request)
      (handle env (.heartbeat headers publicIp deviceId request)) := by
  refine ⟨fun s _ => ?_⟩
  simp only [handle, heartbeat, meets_bind, meets_ofExcept, meets_lock, meets_orRefuse,
    meets_refuseIf, not_not]
  refine ⟨fun userId hUser => ⟨fun device hDevice => ⟨fun hOwner => ⟨fun _ => ?_,
    fun _ => .refused⟩, fun _ => .refused⟩, fun _ => .refused⟩, fun _ _ => .refused⟩
  split
  next =>
    simp only [forgetDevice, meets_bind, meets_modifyStore, meets_saveLocked, meets_throw]
    exact Told.commit (.quiet rfl) rfl
  next =>
    simp only [recordHeartbeat, meets_bind, meets_lock, meets_modifyStore, meets_saveLocked,
      meets_publishIf, meets_pure]
    refine Told.commit ?_ rfl
    split
    next => exact .event rfl hUser rfl ⟨rfl, device, hDevice, hOwner⟩
    next => exact .quiet (List.append_nil _)

/-- The event is published before the store is saved, so that it is sent also when that fails. -/
theorem markDeviceOffline_publishes (deviceId : Uuid) :
    Publishes (C := C) (.markDeviceOffline headers deviceId)
      (handle env (.markDeviceOffline headers deviceId)) := by
  refine ⟨fun s _ => ?_⟩
  simp only [handle, markDeviceOffline, meets_bind, meets_ofExcept, meets_lock, meets_orRefuse,
    meets_refuseIf, not_not]
  refine ⟨fun userId hUser => ⟨fun device hDevice => ⟨fun hOwner => ?_, fun _ => .refused⟩,
    fun _ => .refused⟩, fun _ _ => .refused⟩
  cases s.inner.presence.get? deviceId with
  | none => exact .refused
  | some presence =>
    simp only [meets_bind, meets_modifyStore, meets_publishIf, meets_saveLocked, meets_pure]
    split
    next =>
      have hOwns : s.inner.owns userId deviceId := ⟨device, hDevice, hOwner⟩
      exact ⟨fun _ => .event rfl hUser rfl ⟨rfl, hOwns⟩,
        fun _ _ => .event rfl hUser rfl ⟨rfl, hOwns⟩⟩
    next => exact ⟨fun _ => .quiet (List.append_nil _), fun _ _ => .quiet (List.append_nil _)⟩

theorem upsertTopology_publishes (request : UpsertTopologyRequest) :
    Publishes (C := C) (.upsertTopology headers request)
      (handle env (.upsertTopology headers request)) := by
  refine ⟨fun s _ => ?_⟩
  simp only [handle, upsertTopology, meets_bind, meets_ofExcept, meets_lock, meets_modifyStore,
    meets_saveLocked, meets_publishEvent, meets_pure]
  exact ⟨fun userId hUser => ⟨fun _ _ => Told.commit (.event rfl hUser rfl rfl) rfl,
    fun _ _ => .refused⟩, fun _ _ => .refused⟩

theorem rollbackProfile_publishes (request : RollbackProfileRequest) :
    Publishes (C := C) (.rollbackProfile headers request)
      (handle env (.rollbackProfile headers request)) := by
  refine ⟨fun s _ => ?_⟩
  simp only [handle, rollbackProfile, meets_bind, meets_ofExcept, meets_lock, meets_orRefuse,
    meets_refuseIf, not_not, meets_modifyStore, meets_saveLocked, meets_publishEvent, meets_pure]
  refine ⟨fun userId hUser => ⟨fun current hCurrent => ⟨fun hOwner => ⟨fun target hTarget =>
    ⟨fun _ => Told.commit ?_ rfl, fun _ => .refused⟩, fun _ => .refused⟩, fun _ => .refused⟩,
    fun _ => .refused⟩, fun _ _ => .refused⟩
  exact .event rfl hUser rfl ⟨rfl, hOwner⟩

theorem signalConnectRequest_publishes (sourceDeviceId targetDeviceId : Uuid) :
    Publishes (C := C) (.signalConnectRequest headers sourceDeviceId targetDeviceId)
      (handle env (.signalConnectRequest headers sourceDeviceId targetDeviceId)) := by
  refine ⟨fun s _ => ?_⟩
  simp only [handle, signalConnectRequest, meets_bind, meets_ofExcept, meets_lock,
    meets_modifyStore, meets_saveLocked, meets_publishEvent, meets_pure]
  exact ⟨fun userId hUser => ⟨fun _ _ => ⟨fun _ _ =>
    Told.commit (.event rfl hUser rfl ⟨rfl, rfl⟩) rfl, fun _ _ => .refused⟩, fun _ _ => .refused⟩,
    fun _ _ => .refused⟩

omit [UuidText] in
theorem updateSignalSessionStatus_publishes {request : Request C} {sessionId : Uuid}
    (status : String) (hHeaders : request.headers? = some headers) :
    Publishes request (do
      return .signalSession (← updateSignalSessionStatus env headers sessionId status)) := by
  refine ⟨fun s _ => ?_⟩
  simp only [updateSignalSessionStatus, putSignalSession, meets_bind, meets_ofExcept, meets_lock,
    signalSession_eq_ok, meets_modifyStore, meets_saveLocked, meets_publishEvent, meets_pure]
  exact ⟨fun userId hUser => ⟨fun session hSession =>
    Told.commit (.event hHeaders hUser rfl ⟨rfl, hSession.2⟩) rfl, fun _ _ => .refused⟩,
    fun _ _ => .refused⟩

theorem signalCandidateAdd_publishes (sessionId : Uuid) (candidate : SignalCandidate) :
    Publishes (C := C) (.signalCandidateAdd headers sessionId candidate)
      (handle env (.signalCandidateAdd headers sessionId candidate)) := by
  refine ⟨fun s _ => ?_⟩
  simp only [handle, signalCandidateAdd, putSignalSession, meets_bind, meets_ofExcept, meets_lock,
    signalSession_eq_ok, meets_refuseIf, meets_modifyStore, meets_saveLocked, meets_publishEvent,
    meets_pure]
  exact ⟨fun userId hUser => ⟨fun session hSession => ⟨fun _ =>
    Told.commit (.event rfl hUser rfl ⟨rfl, hSession.2⟩) rfl, fun _ => .refused⟩,
    fun _ _ => .refused⟩, fun _ _ => .refused⟩

theorem logout_publishes (refreshToken : Option String) :
    Publishes (C := C) (.logout headers refreshToken)
      (handle env (.logout headers refreshToken)) := by
  refine ⟨fun s _ => ?_⟩
  simp only [handle, logout, meets_bind, meets_ofExcept, meets_lock, meets_refuseIf,
    meets_modifyStore, meets_saveLocked, meets_pure]
  exact ⟨fun _ _ => ⟨fun _ => Told.commit (.quiet rfl) rfl, fun _ => .refused⟩, fun _ _ => .refused⟩

theorem registerDevice_publishes (request : RegisterDeviceRequest) :
    Publishes (C := C) (.registerDevice headers request)
      (handle env (.registerDevice headers request)) := by
  refine ⟨fun s _ => ?_⟩
  simp only [handle, registerDevice, putRegisteredDevice, meets_bind, meets_ofExcept, meets_lock,
    meets_refuseIf]
  refine ⟨fun userId _ => ⟨fun _ => ⟨fun _ => ?_, fun _ => .refused⟩, fun _ => .refused⟩,
    fun _ _ => .refused⟩
  cases s.inner.devices.get? (registeredDeviceId env s.inner userId
      (request.deviceId.getD (env.uuid 0)) request.publicKey) with
  | none =>
    simp only [meets_modifyStore, meets_saveLocked, meets_pure]
    exact Told.commit (.quiet rfl) rfl
  | some device =>
    simp only [meets_bind, meets_refuseIf, meets_modifyStore, meets_saveLocked, meets_pure]
    exact ⟨fun _ => ⟨fun _ => Told.commit (.quiet rfl) rfl, fun _ => .refused⟩, fun _ => .refused⟩

theorem upsertProfile_publishes (request : UpsertProfileRequest C) :
    Publishes (.upsertProfile headers request)
      (handle env (.upsertProfile headers request)) := by
  refine ⟨fun s _ => ?_⟩
  simp only [handle, upsertProfile, meets_bind, meets_ofExcept, meets_lock, meets_refuseIf,
    meets_modifyStore, meets_saveLocked, meets_publishEvent, meets_pure]
  exact ⟨fun userId hUser => ⟨fun _ _ => ⟨fun _ _ => ⟨fun _ =>
    Told.commit (.event rfl hUser rfl ⟨rfl, rfl⟩) rfl, fun _ => .refused⟩, fun _ _ => .refused⟩,
    fun _ _ => .refused⟩, fun _ _ => .refused⟩

theorem issueRelayToken_publishes (request : RelayTokenRequest) :
    Publishes (C := C) (.issueRelayToken headers request)
      (handle env (.issueRelayToken headers request)) := by
  refine ⟨fun s _ => ?_⟩
  simp only [handle, issueRelayToken, meets_bind, meets_ofExcept, meets_lock, meets_modifyStore,
    meets_saveLocked, meets_pure]
  exact ⟨fun _ _ => ⟨fun _ _ => ⟨fun _ _ => Told.commit (.quiet rfl) rfl, fun _ _ => .refused⟩,
    fun _ _ => .refused⟩, fun _ _ => .refused⟩

theorem startEmailLogin_publishes (email : String) :
    Publishes (C := C) (.startEmailLogin email)
      (handle env (.startEmailLogin email)) := by
  refine ⟨fun s _ => ?_⟩
  simp only [handle, startEmailLogin, meets_bind, meets_ofExcept, meets_modifyStore,
    meets_saveLocked, meets_pure]
  exact ⟨fun _ _ => Told.commit (.quiet rfl) rfl, fun _ _ => .refused⟩

theorem verifyEmailLogin_publishes (email code : String) :
    Publishes (C := C) (.verifyEmailLogin email code)
      (handle env (.verifyEmailLogin email code)) := by
  refine ⟨fun s _ => ?_⟩
  simp only [handle, verifyEmailLogin, meets_bind, meets_ofExcept, meets_lock, meets_orRefuse]
  refine ⟨fun email _ => ⟨fun challenge _ => ?_, fun _ => .refused⟩, fun _ _ => .refused⟩
  split
  next =>
    simp only [dropExpiredCode, meets_bind, meets_modifyStore, meets_saveLocked, meets_throw]
    exact Told.commit (.quiet rfl) rfl
  next =>
    simp only [logIn, meets_bind, meets_refuseIf, meets_lock, meets_modifyStore, meets_saveLocked,
      meets_pure]
    exact ⟨fun _ => Told.commit (.quiet rfl) rfl, fun _ => .refused⟩

theorem refreshAccessToken_publishes (refreshToken : String) :
    Publishes (C := C) (.refreshAccessToken refreshToken)
      (handle env (.refreshAccessToken refreshToken)) := by
  refine ⟨fun s _ => ?_⟩
  simp only [handle, refreshAccessToken, meets_bind, meets_lock, meets_orRefuse, meets_modifyStore,
    meets_saveLocked, meets_pure]
  exact ⟨fun _ _ => Told.commit (.quiet rfl) rfl, fun _ => .refused⟩

/-- Every request. -/
theorem handle_publishes (request : Request C) : Publishes request (handle env request) := by
  cases request with
  | startEmailLogin email => exact startEmailLogin_publishes env email
  | verifyEmailLogin email code => exact verifyEmailLogin_publishes env email code
  | refreshAccessToken refreshToken => exact refreshAccessToken_publishes env refreshToken
  | logout headers refreshToken => exact logout_publishes env headers refreshToken
  | issueRelayToken headers request => exact issueRelayToken_publishes env headers request
  | signalConnectRequest headers source target =>
    exact signalConnectRequest_publishes env headers source target
  | signalConnectAccept headers sessionId =>
    exact updateSignalSessionStatus_publishes env headers "accepted" rfl
  | signalConnectReject headers sessionId =>
    exact updateSignalSessionStatus_publishes env headers "rejected" rfl
  | signalSessionClose headers sessionId =>
    exact updateSignalSessionStatus_publishes env headers "closed" rfl
  | signalCandidateAdd headers sessionId candidate =>
    exact signalCandidateAdd_publishes env headers sessionId candidate
  | registerDevice headers request => exact registerDevice_publishes env headers request
  | updateDevice headers deviceId request =>
    exact updateDevice_publishes env headers deviceId request
  | reauthorizeDevice headers deviceId request =>
    exact reauthorizeDevice_publishes env headers deviceId request
  | deleteDevice headers deviceId => exact deleteDevice_publishes env headers deviceId
  | heartbeat headers publicIp deviceId request =>
    exact heartbeat_publishes env headers publicIp deviceId request
  | markDeviceOffline headers deviceId => exact markDeviceOffline_publishes env headers deviceId
  | upsertTopology headers request => exact upsertTopology_publishes env headers request
  | upsertProfile headers request => exact upsertProfile_publishes env headers request
  | rollbackProfile headers request => exact rollbackProfile_publishes env headers request
  | listDevices headers | getTopology headers | listProfiles headers
  | listProfileChanges headers sinceRevision =>
    refine ⟨fun s _ => ?_⟩
    simp only [handle, listDevices, getTopology, listProfiles, listProfileChanges, meets_bind,
      meets_ofExcept, meets_lock, meets_get, meets_pure]
    exact ⟨fun _ _ => .refused, fun _ _ => .refused⟩

end Handlers

section Streams

/-- A web socket of `events_ws`, with the events that have been sent on it. -/
structure EventStream (C : Type) where
  userId : Uuid
  events : BroadcastReceiver (ServerEvent C)
  sent : List (ServerEvent C)
  isOpen : Bool
  deriving DecidableEq

/-- `if event.user_id() == user_id`; the socket is left when it cannot be sent to. -/
def EventStream.tell (stream : EventStream C) (event : ServerEvent C) (sends : Bool) :
    EventStream C :=
  if event.userId = stream.userId then
    if sends then { stream with sent := stream.sent ++ [event] }
    else { stream with isOpen := false }
  else stream

/-- A round of the loop in `stream_events`; nothing is done while there is no event. -/
def EventStream.round (stream : EventStream C) (published : List (ServerEvent C)) (sends : Bool) :
    EventStream C :=
  if stream.isOpen then
    match stream.events.recv 256 published with
    | none => stream
    | some (received, events) =>
      received.elim { stream with events } fun event =>
        EventStream.tell { stream with events } event sends
  else stream

def eventsUser (store : Store C) (accessToken : Option String) (headers : Headers) :
    Except ApiError Uuid :=
  match accessToken with
  | some token => authorizeAccessToken store token
  | none => authorizeOrDefault store headers

/-- The server with the streams that have been opened. -/
structure EventSystem (C : Type) where
  app : AppState C
  streams : List (EventStream C)

inductive EventStep (C : Type) where
  | call (env : Surroundings) (request : Request C)
  | subscribe (accessToken : Option String) (headers : Headers)
  | round (stream : ℕ) (sends : Bool)

def EventStep.call? : EventStep C → Option (Call C)
  | .call env request => some (env, request)
  | .subscribe _ _ => none
  | .round _ _ => none

variable [UuidText]

def EventSystem.step (s : EventSystem C) : EventStep C → EventSystem C
  | .call env request => { s with app := stateAfter (handle env request) s.app }
  | .subscribe accessToken headers =>
    match eventsUser s.app.inner accessToken headers with
    | .ok userId =>
      { s with streams := s.streams ++ [⟨userId, .subscribe s.app.events, [], true⟩] }
    | .error _ => s
  | .round stream sends =>
    { s with streams := s.streams.modify stream (·.round s.app.events sends) }

def eventRun (steps : List (EventStep C)) : EventSystem C :=
  steps.foldl EventSystem.step ⟨.start, []⟩

/-- A request that was carried out for the user has published the event, which is of the user. -/
def ToldBy (calls : List (Call C)) (userId : Uuid) (event : ServerEvent C) : Prop :=
  ∃ before call rest new, calls = before ++ call :: rest ∧
    (after serve .start (before ++ [call])).events = (after serve .start before).events ++ new ∧
    event ∈ new ∧ call.2.userId? (storeAfter before) = some userId ∧
    event.isOf (storeAfter before) userId

/-- The stream was opened for the user whom its request names, and gets what is published from
then on. -/
def OpenedBy (steps : List (EventStep C)) (stream : EventStream C) : Prop :=
  ∃ before accessToken headers rest, steps = before ++ .subscribe accessToken headers :: rest ∧
    eventsUser (eventRun before).app.inner accessToken headers = .ok stream.userId ∧
    stream.events.start = (eventRun before).app.events.length

omit [UuidText] in
/-- The events that a stream has to send, up to where it is. -/
def EventStream.due (published : List (ServerEvent C)) (stream : EventStream C) :
    List (ServerEvent C) :=
  (stream.events.passed published).filter (·.userId = stream.userId)

/-- A stream has sent what it has read for its user. -/
structure EventStream.Sound (published : List (ServerEvent C)) (stream : EventStream C) :
    Prop where
  receives : stream.events.Receives published
  sent : stream.sent <+: stream.events.read.filter (·.userId = stream.userId)
  whole : stream.isOpen = true →
    stream.sent = stream.events.read.filter (·.userId = stream.userId)

section Rounds

omit [UuidText]

variable {published : List (ServerEvent C)} {stream : EventStream C}

/-- What a stream does with an event. -/
theorem EventStream.tell_cases (stream : EventStream C) (event : ServerEvent C) (sends : Bool) :
    (stream.tell event sends).userId = stream.userId ∧
    (stream.tell event sends).events = stream.events ∧
    ((stream.tell event sends).sent =
        stream.sent ++ [event].filter (·.userId = stream.userId) ∨
      (stream.tell event sends).sent = stream.sent ∧
        (stream.tell event sends).isOpen = false) := by
  by_cases hOwn : event.userId = stream.userId
  · cases sends with
    | true => simp [EventStream.tell, hOwn]
    | false => simp [EventStream.tell, hOwn]
  · simp [EventStream.tell, hOwn]

/-- A round leaves the stream as it is, or goes on in what is published. -/
theorem EventStream.round_cases (stream : EventStream C) (published : List (ServerEvent C))
    (sends : Bool) : stream.round published sends = stream ∨
      stream.isOpen = true ∧ ∃ received events,
        stream.events.recv 256 published = some (received, events) ∧
        (stream.round published sends).userId = stream.userId ∧
        (stream.round published sends).events = events ∧
        ((stream.round published sends).sent =
            stream.sent ++ received.toList.filter (·.userId = stream.userId) ∨
          (stream.round published sends).sent = stream.sent ∧
            (stream.round published sends).isOpen = false) := by
  unfold EventStream.round
  split
  next hOpen =>
    split
    next => exact .inl rfl
    next received events hRecv =>
      refine .inr ⟨hOpen, received, events, hRecv, ?_⟩
      cases received with
      | none => exact ⟨rfl, rfl, .inl (List.append_nil _).symm⟩
      | some event => exact EventStream.tell_cases { stream with events } event sends
  next => exact .inl rfl

theorem EventStream.Sound.subscribed (userId : Uuid) (published : List (ServerEvent C)) :
    EventStream.Sound published ⟨userId, .subscribe published, [], true⟩ where
  receives := .subscribe published
  sent := List.nil_prefix
  whole := fun _ => rfl

theorem EventStream.Sound.publish (h : stream.Sound published) (new : List (ServerEvent C)) :
    stream.Sound (published ++ new) :=
  ⟨h.receives.send new, h.sent, h.whole⟩

/-- A round sends the event that it has read, if it is for the user. -/
theorem EventStream.Sound.round (h : stream.Sound published) (sends : Bool) :
    (stream.round published sends).Sound published := by
  rcases stream.round_cases published sends with
    hSame | ⟨hOpen, received, events, hRecv, hUser, hEvents, hSent⟩
  · rw [hSame]
    exact h
  · have hRead : (stream.round published sends).events.read.filter
          (·.userId = (stream.round published sends).userId) =
        stream.sent ++ received.toList.filter (·.userId = stream.userId) := by
      rw [hUser, hEvents, BroadcastReceiver.read_recv hRecv, List.filter_append, ← h.whole hOpen]
    refine ⟨hEvents ▸ h.receives.recv hRecv, ?_, fun hStays => ?_⟩
    · rw [hRead]
      rcases hSent with hSent | ⟨hSent, -⟩
      · exact hSent ▸ List.prefix_rfl
      · exact hSent ▸ List.prefix_append _ _
    · rw [hRead]
      rcases hSent with hSent | ⟨-, hClosed⟩
      · exact hSent
      · exact absurd (hStays.symm.trans hClosed) (by decide)

/-- What a stream has sent was published for its user behind the place where it was opened. -/
theorem EventStream.Sound.sent_sublist (h : stream.Sound published) :
    stream.sent.Sublist (stream.due published) :=
  h.sent.sublist.trans (h.receives.sublist.filter _)

/-- A stream that skips nothing sends everything. -/
theorem EventStream.Sound.sent_eq (h : stream.Sound published) (hOpen : stream.isOpen = true)
    (hSkipped : stream.events.skipped = 0) : stream.sent = stream.due published := by
  rw [h.whole hOpen, h.receives.read_eq hSkipped, EventStream.due]

end Rounds

/-- The server and its streams in a run. -/
structure EventSystem.Sound (steps : List (EventStep C)) (s : EventSystem C) : Prop where
  app : s.app = after serve .start (steps.filterMap EventStep.call?)
  told : ∀ event ∈ s.app.events, ToldBy (steps.filterMap EventStep.call?) event.userId event
  streams : ∀ stream ∈ s.streams, stream.Sound s.app.events ∧ OpenedBy steps stream

section Runs

variable {steps : List (EventStep C)} {s : EventSystem C}

theorem eventRun_snoc (steps : List (EventStep C)) (event : EventStep C) :
    eventRun (steps ++ [event]) = (eventRun steps).step event := by
  rw [eventRun, List.foldl_append]
  rfl

theorem ToldBy.append {calls : List (Call C)} {userId : Uuid} {event : ServerEvent C}
    (h : ToldBy calls userId event) (more : List (Call C)) :
    ToldBy (calls ++ more) userId event := by
  obtain ⟨before, call, rest, new, rfl, hPublished⟩ := h
  exact ⟨before, call, rest ++ more, new, by simp, hPublished⟩

theorem OpenedBy.append {stream : EventStream C} (h : OpenedBy steps stream)
    (more : List (EventStep C)) : OpenedBy (steps ++ more) stream := by
  obtain ⟨before, accessToken, headers, rest, rfl, hUser, hStart⟩ := h
  exact ⟨before, accessToken, headers, rest ++ more, by simp, hUser, hStart⟩

theorem OpenedBy.round {stream : EventStream C} (h : OpenedBy steps stream)
    (published : List (ServerEvent C)) (sends : Bool) :
    OpenedBy steps (stream.round published sends) := by
  rcases stream.round_cases published sends with
    hSame | ⟨-, received, events, hRecv, hUser, hEvents, -⟩
  · rw [hSame]
    exact h
  · obtain ⟨before, accessToken, headers, rest, hSteps, hUser', hStart⟩ := h
    refine ⟨before, accessToken, headers, rest, hSteps, by rw [hUser, hUser'], ?_⟩
    rw [hEvents, BroadcastReceiver.start_recv hRecv, hStart]

/-- What a request has published is of its user. -/
theorem toldBy_snoc {calls : List (Call C)} {env : Surroundings} {request : Request C}
    {event : ServerEvent C}
    (hMem : event ∈ (after serve .start (calls ++ [(env, request)])).events)
    (hOld : ∀ event ∈ (after serve .start calls).events, ToldBy calls event.userId event) :
    ToldBy (calls ++ [(env, request)]) event.userId event := by
  have hTold := meets_stateAfter.mp
    ((handle_publishes env request).meets (after serve .start calls) (keyed_storeAfter calls))
  obtain ⟨new, hNew, hUser⟩ := hTold
  have hEvents : (after serve .start (calls ++ [(env, request)])).events =
      (after serve .start calls).events ++ new := by
    rw [after_snoc, serve, hNew]
  rw [hEvents] at hMem
  rcases List.mem_append.mp hMem with hBefore | hAdded
  · exact (hOld event hBefore).append _
  · obtain ⟨userId, hRequest, hOf⟩ := hUser event hAdded
    obtain rfl := hOf.userId_eq
    exact ⟨calls, (env, request), [], new, rfl, hEvents, hAdded, hRequest, hOf⟩

theorem EventSystem.Sound.call (h : s.Sound steps) (env : Surroundings) (request : Request C) :
    (s.step (.call env request)).Sound (steps ++ [.call env request]) := by
  obtain ⟨hApp, hTold, hStreams⟩ := h
  have hCalls : (steps ++ [EventStep.call env request]).filterMap EventStep.call? =
      steps.filterMap EventStep.call? ++ [(env, request)] :=
    List.filterMap_append ..
  have hApp' : stateAfter (handle env request) s.app =
      after serve .start (steps.filterMap EventStep.call? ++ [(env, request)]) := by
    rw [after_snoc, ← hApp]
    rfl
  obtain ⟨new, hNew, -⟩ := meets_stateAfter.mp
    ((handle_publishes env request).meets s.app (hApp ▸ keyed_storeAfter _))
  refine ⟨?_, ?_, fun stream hMem => ⟨?_, (hStreams stream hMem).2.append _⟩⟩
  · rw [hCalls]
    exact hApp'
  · intro event hMem
    rw [hCalls]
    refine toldBy_snoc ?_ (hApp ▸ hTold)
    rw [← hApp']
    exact hMem
  · show stream.Sound (stateAfter (handle env request) s.app).events
    rw [hNew]
    exact (hStreams stream hMem).1.publish new

/-- A step that carries out no request, and leaves streams that were there or is opening one. -/
theorem EventSystem.Sound.streaming (h : s.Sound steps) {event : EventStep C}
    (hCall : event.call? = none) {streams : List (EventStream C)}
    (hStreams : ∀ stream ∈ streams,
      stream.Sound s.app.events ∧ OpenedBy (steps ++ [event]) stream) :
    EventSystem.Sound (steps ++ [event]) { s with streams } := by
  have hCalls : (steps ++ [event]).filterMap EventStep.call? =
      steps.filterMap EventStep.call? := by
    rw [List.filterMap_append, List.filterMap_cons_none hCall, List.filterMap_nil, List.append_nil]
  exact ⟨hCalls ▸ h.app, hCalls ▸ h.told, hStreams⟩

theorem EventSystem.Sound.subscribe (h : s.Sound steps) (hRun : eventRun steps = s)
    (accessToken : Option String) (headers : Headers) :
    (s.step (.subscribe accessToken headers)).Sound
      (steps ++ [.subscribe accessToken headers]) := by
  have hOld := fun stream hMem =>
    And.intro (h.streams stream hMem).1 ((h.streams stream hMem).2.append
      [.subscribe accessToken headers])
  simp only [EventSystem.step]
  split
  next userId hUser =>
    refine h.streaming rfl fun stream hMem => ?_
    rcases List.mem_append.mp hMem with hBefore | hNew
    · exact hOld stream hBefore
    · obtain rfl := List.mem_singleton.mp hNew
      exact ⟨.subscribed userId _, steps, accessToken, headers, [], rfl, hRun ▸ hUser, hRun ▸ rfl⟩
  next => exact h.streaming rfl hOld

theorem EventSystem.Sound.round (h : s.Sound steps) (place : ℕ) (sends : Bool) :
    (s.step (.round place sends)).Sound (steps ++ [.round place sends]) := by
  refine h.streaming rfl fun stream hMem => ?_
  obtain ⟨i, hGet⟩ := List.mem_iff_getElem?.mp hMem
  rw [List.getElem?_modify] at hGet
  obtain ⟨before, hBefore, hEq⟩ := Option.map_eq_some_iff.mp hGet
  obtain ⟨hSound, hOpened⟩ := h.streams before (List.mem_of_getElem? hBefore)
  split at hEq
  next =>
    rw [← hEq]
    exact ⟨hSound.round sends, (hOpened.append _).round _ sends⟩
  next =>
    obtain rfl : before = stream := hEq
    exact ⟨hSound, hOpened.append _⟩

theorem sound_eventRun (steps : List (EventStep C)) : (eventRun steps).Sound steps := by
  induction steps using List.reverseRecOn with
  | nil => exact ⟨rfl, fun _ hMem => (by cases hMem), fun _ hMem => (by cases hMem)⟩
  | append_singleton steps event ih =>
    rw [eventRun_snoc]
    cases event with
    | call env request => exact ih.call env request
    | subscribe accessToken headers => exact ih.subscribe rfl accessToken headers
    | round place sends => exact ih.round place sends

/-- In every run a stream has sent only what requests have published that were carried out for the
user who opened it, about devices, profiles and signal sessions of his; and this in order, from when
he opened it on.  While it is open it has sent all of it, up to where it is, unless it fell so far
behind that it skipped something. -/
theorem eventStream_sends_own (steps : List (EventStep C)) {stream : EventStream C}
    (hMem : stream ∈ (eventRun steps).streams) :
    OpenedBy steps stream ∧ stream.sent.Sublist (stream.due (eventRun steps).app.events) ∧
      (stream.isOpen = true → stream.events.skipped = 0 →
        stream.sent = stream.due (eventRun steps).app.events) ∧
      ∀ event ∈ stream.sent, ToldBy (steps.filterMap EventStep.call?) stream.userId event := by
  obtain ⟨-, hTold, hStreams⟩ := sound_eventRun steps
  obtain ⟨hSound, hOpened⟩ := hStreams stream hMem
  refine ⟨hOpened, hSound.sent_sublist, hSound.sent_eq, fun event hSent => ?_⟩
  obtain ⟨hPassed, hUser⟩ := List.mem_filter.mp (hSound.sent_sublist.subset hSent)
  have hEvent := hTold event (List.mem_of_mem_take (List.mem_of_mem_drop hPassed))
  rwa [of_decide_eq_true hUser] at hEvent

omit [UuidText] in
/-- A registration, a stream of its user, and a new name for the device. -/
def renamedDesk : List (EventStep Unit) :=
  [.call (.usual 0 0) (registration 0 10 "key a").2, .subscribe none ⟨none⟩,
    .call (.usual 1 1) (.updateDevice ⟨none⟩ 10 ⟨some "attic", none⟩), .round 0 true]

omit [UuidText] in
/-- The stream sends the new name. -/
theorem eventStream_sends_own_desk :
    @ToldBy Unit .hyphenated (renamedDesk.filterMap EventStep.call?) defaultUserId
      (.deviceChanged defaultUserId 10 2 2) :=
  (@eventStream_sends_own Unit .hyphenated renamedDesk
    ⟨defaultUserId, ⟨0, 1, 0, [.deviceChanged defaultUserId 10 2 2]⟩,
      [.deviceChanged defaultUserId 10 2 2], true⟩
    (by decide)).2.2.2 _ (List.mem_singleton_self _)

end Runs

end Streams

end Kmsync.Server
