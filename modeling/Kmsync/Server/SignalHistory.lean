import Kmsync.Server.Tenants
import Kmsync.ProofKit.StableSort

/-! Signal sessions over a run.  A session is what the signals that were carried out for it make of
it; the last one gives its status, whatever the status was before. -/

namespace Kmsync.Server

open ProofKit

variable {C : Type}

section Signals

/-- What a request tells a signal session. -/
inductive Signal where
  | requested
  | accepted
  | rejected
  | closed (now : UInt64)
  | candidateAdded (candidate : SignalCandidate)
  deriving DecidableEq

/-- The signal of a call, if it is for the session. -/
def signalFor (sessionId : Uuid) (call : Call C) : Option Signal :=
  match call.2 with
  | .signalConnectRequest _ _ _ => if call.1.uuid 0 = sessionId then some .requested else none
  | .signalConnectAccept _ id => if id = sessionId then some .accepted else none
  | .signalConnectReject _ id => if id = sessionId then some .rejected else none
  | .signalSessionClose _ id => if id = sessionId then some (.closed call.1.now) else none
  | .signalCandidateAdd _ id candidate =>
    if id = sessionId then some (.candidateAdded candidate) else none
  | _ => none

def Signal.status? : Signal → Option String
  | .requested => some "requested"
  | .accepted => some "accepted"
  | .rejected => some "rejected"
  | .closed _ => some "closed"
  | .candidateAdded _ => none

def Signal.closedAt? : Signal → Option UInt64
  | .closed now => some now
  | _ => none

def Signal.candidate? : Signal → Option SignalCandidate
  | .candidateAdded candidate => some candidate
  | _ => none

/-- What the signals for a session make of it: the last of them that gives a status gives the
status, the last closing the time, and the candidates are those that were added. -/
structure LifeCycle (signals : List Signal) (session : SignalSession) : Prop where
  status : (signals.filterMap Signal.status?).getLast? = some session.status
  closedAt : (signals.filterMap Signal.closedAt?).getLast? = session.closedAt
  closed : session.status = "closed" → session.closedAt.isSome
  candidates :
    StablySorted (·.priority) session.candidates (signals.filterMap Signal.candidate?)

theorem LifeCycle.requested {session : SignalSession} (hStatus : session.status = "requested")
    (hCandidates : session.candidates = []) (hClosed : session.closedAt = none) :
    LifeCycle [.requested] session := by
  constructor
  · rw [hStatus]
    rfl
  · rw [hClosed]
    rfl
  · rw [hStatus]
    exact nofun
  · rw [hCandidates]
    exact .nil

theorem filterMap_snoc_none {α β : Type} {f : α → Option β} {xs : List α} {x : α}
    (h : f x = none) : (xs ++ [x]).filterMap f = xs.filterMap f := by
  rw [List.filterMap_append, List.filterMap_cons_none h, List.filterMap_nil, List.append_nil]

theorem filterMap_snoc_some {α β : Type} {f : α → Option β} {xs : List α} {x : α} {y : β}
    (h : f x = some y) : (xs ++ [x]).filterMap f = xs.filterMap f ++ [y] := by
  rw [List.filterMap_append, List.filterMap_cons_some h, List.filterMap_nil]

/-- A signal that changes the status, and the time of the closing with it or not at all. -/
theorem LifeCycle.withStatus {signals : List Signal} {session : SignalSession} {signal : Signal}
    {status : String} {now : UInt64} (h : LifeCycle signals session)
    (hStatus : signal.status? = some status) (hCandidate : signal.candidate? = none)
    (hClosed : signal.closedAt? = if status = "closed" then some now else none) :
    LifeCycle (signals ++ [signal]) (session.withStatus status now) := by
  constructor
  · rw [filterMap_snoc_some hStatus]
    exact List.getLast?_concat
  · rw [SignalSession.withStatus]
    split at hClosed
    next hEq =>
      rw [filterMap_snoc_some hClosed, if_pos hEq]
      exact List.getLast?_concat
    next hNe =>
      rw [filterMap_snoc_none hClosed, if_neg hNe]
      exact h.closedAt
  · intro hEq
    have hStatusEq : status = "closed" := hEq
    rw [SignalSession.withStatus, if_pos hStatusEq]
    rfl
  · rw [filterMap_snoc_none hCandidate]
    exact h.candidates

theorem LifeCycle.withCandidate {signals : List Signal} {session : SignalSession}
    (h : LifeCycle signals session) (candidate : SignalCandidate) :
    LifeCycle (signals ++ [.candidateAdded candidate]) (session.withCandidate candidate) := by
  constructor
  · rw [filterMap_snoc_none rfl]
    exact h.status
  · rw [filterMap_snoc_none rfl]
    exact h.closedAt
  · exact h.closed
  · rw [List.filterMap_append]
    exact h.candidates.snoc candidate

end Signals

section Requests

variable {env : Surroundings} {s : AppState C} {headers : Headers} {userId sessionId : Uuid}
  {error : ApiError}

/-- The request was answered with success, or all that failed was to save the store. -/
def carriedOut {α : Type} : Except ApiError α → Bool
  | .ok _ => true
  | .error error => error.status = .internalServerError

theorem bearerToken_refuses (h : bearerToken headers = .error error) :
    error.status = .unauthorized := by
  rw [bearerToken] at h
  split at h
  next => exact Except.error.inj h ▸ rfl
  next => exact Except.error.inj h ▸ rfl
  next =>
    split at h
    next => contradiction
    next => exact Except.error.inj h ▸ rfl

theorem authorizeAccessToken_refuses {store : Store C} {token : String}
    (h : authorizeAccessToken store token = .error error) : error.status = .unauthorized := by
  rw [authorizeAccessToken] at h
  split at h
  next => contradiction
  next => exact Except.error.inj h ▸ rfl

theorem authorizeOrDefault_refuses {store : Store C}
    (h : authorizeOrDefault store headers = .error error) : error.status = .unauthorized := by
  rw [authorizeOrDefault] at h
  split at h
  next =>
    rw [authorize] at h
    cases hToken : bearerToken headers with
    | error refusal =>
      rw [hToken] at h
      obtain rfl := Except.error.inj h
      exact bearerToken_refuses hToken
    | ok token =>
      rw [hToken] at h
      exact authorizeAccessToken_refuses h
  next => contradiction

theorem signalSession_refuses {store : Store C}
    (h : signalSession store userId sessionId = .error error) : error.status = .notFound := by
  rw [signalSession] at h
  split at h
  next =>
    split at h
    next => contradiction
    next => exact Except.error.inj h ▸ rfl
  next => exact Except.error.inj h ▸ rfl

theorem assertDeviceOwner_refuses {store : Store C} {deviceId : Uuid}
    (h : assertDeviceOwner store userId deviceId = .error error) : error.status = .notFound := by
  rw [assertDeviceOwner] at h
  split at h
  next =>
    split at h
    next => contradiction
    next => exact Except.error.inj h ▸ rfl
  next => exact Except.error.inj h ▸ rfl

end Requests

section Steps

variable {env : Surroundings} {headers : Headers} {sessionId : Uuid}

/-- What a call does to the signal sessions, if it is carried out or not. -/
inductive SignalStep (store : Store C) (call : Call C) : Bool → HashMap Uuid SignalSession → Prop
  | other {done : Bool} (h : ∀ id, signalFor id call = none) :
    SignalStep store call done store.signalSessions
  | refused : SignalStep store call false store.signalSessions
  | connected {headers : Headers} {sourceDeviceId targetDeviceId : Uuid} {session : SignalSession}
      (hRequest : call.2 = .signalConnectRequest headers sourceDeviceId targetDeviceId)
      (hUser : call.2.userId? store = some session.userId) (hLife : LifeCycle [.requested] session) :
      SignalStep store call true (store.signalSessions.insert (call.1.uuid 0) session)
  | told {sessionId : Uuid} {signal : Signal} {session session' : SignalSession}
      (hRequest : ∀ id, signalFor id call = if sessionId = id then some signal else none)
      (hUser : call.2.userId? store = some session.userId)
      (hSession : store.signalSessions.get? sessionId = some session)
      (hOwner : session'.userId = session.userId)
      (hLife : ∀ signals, LifeCycle signals session → LifeCycle (signals ++ [signal]) session') :
      SignalStep store call true (store.signalSessions.insert sessionId session')

theorem SignalStep.of_error {store : Store C} {call : Call C} {error : ApiError}
    {status : StatusCode} (h : error.status = status) (hNot : status ≠ .internalServerError) :
    SignalStep store call (carriedOut (α := Unit) (.error error)) store.signalSessions := by
  have hRefused : carriedOut (α := Unit) (.error error) = false :=
    decide_eq_false (h ▸ hNot)
  rw [hRefused]
  exact .refused

/-- A handler that takes such a step. -/
def StepsSignals (env : Surroundings) (request : Request C) (handler : Handler C (Response C)) :
    Prop :=
  ∀ s : AppState C, Meets handler
    (fun _ t => SignalStep s.inner (env, request) true t.inner.signalSessions)
    (fun error t => SignalStep s.inner (env, request) (carriedOut (α := Unit) (.error error))
      t.inner.signalSessions) s

theorem userId?_of_authorized {request : Request C} {store : Store C} {userId : Uuid}
    (hHeaders : request.headers? = some headers)
    (hUser : authorizeOrDefault store headers = .ok userId) :
    request.userId? store = some userId := by
  rw [Request.userId?, hHeaders, Option.bind_some, hUser]
  rfl

theorem signalConnectRequest_steps (sourceDeviceId targetDeviceId : Uuid) :
    StepsSignals (C := C) env (.signalConnectRequest headers sourceDeviceId targetDeviceId) (do
      return .signalSession
        (← signalConnectRequest env headers sourceDeviceId targetDeviceId)) := by
  intro s
  simp only [signalConnectRequest, meets_bind, meets_ofExcept, meets_lock,
    meets_modifyStore, meets_saveLocked, meets_publishEvent, meets_pure]
  refine ⟨fun userId hUser => ⟨fun _ _ => ⟨fun _ _ => ?_, fun error h => ?_⟩, fun error h => ?_⟩,
    fun error h => ?_⟩
  · have hStep : SignalStep s.inner (env, .signalConnectRequest headers sourceDeviceId targetDeviceId)
        true (s.inner.signalSessions.insert (env.uuid 0) ⟨env.uuid 0, userId, sourceDeviceId,
          targetDeviceId, "requested", [], env.now, none⟩) :=
      .connected rfl (userId?_of_authorized rfl hUser) (.requested rfl rfl rfl)
    exact ⟨fun _ => hStep, fun _ _ => hStep⟩
  · exact .of_error (assertDeviceOwner_refuses h) (by decide)
  · exact .of_error (assertDeviceOwner_refuses h) (by decide)
  · exact .of_error (authorizeOrDefault_refuses h) (by decide)

theorem updateSignalSessionStatus_steps {request : Request C} {status : String} (signal : Signal)
    (hHeaders : request.headers? = some headers)
    (hRequest : ∀ id, signalFor id (env, request) = if sessionId = id then some signal else none)
    (hStatus : signal.status? = some status) (hCandidate : signal.candidate? = none)
    (hClosed : signal.closedAt? = if status = "closed" then some env.now else none) :
    StepsSignals env request (do
      return .signalSession (← updateSignalSessionStatus env headers sessionId status)) := by
  intro s
  simp only [updateSignalSessionStatus, putSignalSession, meets_bind, meets_ofExcept, meets_lock,
    signalSession_eq_ok, meets_modifyStore, meets_saveLocked, meets_publishEvent, meets_pure]
  refine ⟨fun userId hUser => ⟨fun session hSession => ?_, fun error h => ?_⟩, fun error h => ?_⟩
  · obtain ⟨hGet, rfl⟩ := hSession
    have hStep : SignalStep s.inner (env, request) true
        (s.inner.signalSessions.insert sessionId (session.withStatus status env.now)) :=
      .told hRequest (userId?_of_authorized hHeaders hUser) hGet rfl fun signals hLife =>
        hLife.withStatus hStatus hCandidate hClosed
    exact ⟨fun _ => hStep, fun _ _ => hStep⟩
  · exact .of_error (signalSession_refuses h) (by decide)
  · exact .of_error (authorizeOrDefault_refuses h) (by decide)

theorem signalCandidateAdd_steps (candidate : SignalCandidate) :
    StepsSignals (C := C) env (.signalCandidateAdd headers sessionId candidate) (do
      return .signalSession (← signalCandidateAdd env headers sessionId candidate)) := by
  intro s
  simp only [signalCandidateAdd, putSignalSession, meets_bind, meets_ofExcept, meets_lock,
    signalSession_eq_ok, meets_refuseIf, meets_modifyStore, meets_saveLocked, meets_publishEvent,
    meets_pure]
  refine ⟨fun userId hUser => ⟨fun session hSession => ⟨fun _ => ?_, fun _ => ?_⟩,
    fun error h => ?_⟩, fun error h => ?_⟩
  · obtain ⟨hGet, rfl⟩ := hSession
    have hStep : SignalStep s.inner (env, .signalCandidateAdd headers sessionId candidate) true
        (s.inner.signalSessions.insert sessionId (session.withCandidate candidate)) :=
      .told (fun _ => rfl) (userId?_of_authorized rfl hUser) hGet rfl fun signals hLife =>
        hLife.withCandidate candidate
    exact ⟨fun _ => hStep, fun _ _ => hStep⟩
  · exact .of_error rfl (by decide)
  · exact .of_error (signalSession_refuses h) (by decide)
  · exact .of_error (authorizeOrDefault_refuses h) (by decide)

variable [UuidText]

/-- The requests that are no signals leave the sessions as they are. -/
theorem signalSessions_of_effect {env : Surroundings} {s t : Store C} {request : Request C}
    {answer : Except ApiError (Response C)} (h : Effect env s request answer t)
    (hConnect : ∀ headers sourceDeviceId targetDeviceId,
      request ≠ .signalConnectRequest headers sourceDeviceId targetDeviceId)
    (hChange : request.changedSession? = none) : t.signalSessions = s.signalSessions := by
  cases h with
  | connected => exact absurd rfl (hConnect _ _ _)
  | signalled hRequest => exact nomatch hChange.symm.trans hRequest
  | _ => rfl

variable {calls : List (Call C)} {call : Call C}

theorem StepsSignals.snoc (h : StepsSignals call.1 call.2 (handle call.1 call.2)) :
    SignalStep (storeAfter calls) call (carriedOut (answerAfter calls call))
      (storeAfter (calls ++ [call])).signalSessions := by
  rw [storeAfter, storeAfter, answerAfter, after_snoc]
  rcases (h (after serve .start calls)).ok_or_error with
    ⟨response, t, hOk, hStep⟩ | ⟨error, t, hError, hStep⟩
  · rw [serve, answer_of_ok hOk, stateAfter_of_ok hOk]
    exact hStep
  · rw [serve, answer_of_error hError, stateAfter_of_error hError]
    exact hStep

theorem signalStep_snoc (calls : List (Call C)) (call : Call C) :
    SignalStep (storeAfter calls) call (carriedOut (answerAfter calls call))
      (storeAfter (calls ++ [call])).signalSessions := by
  have hEffect := effect_snoc calls call
  obtain ⟨env, request⟩ := call
  cases request with
  | signalConnectRequest headers source target =>
    exact StepsSignals.snoc (signalConnectRequest_steps source target)
  | signalConnectAccept headers sessionId =>
    exact StepsSignals.snoc
      (updateSignalSessionStatus_steps .accepted rfl (fun _ => rfl) rfl rfl rfl)
  | signalConnectReject headers sessionId =>
    exact StepsSignals.snoc
      (updateSignalSessionStatus_steps .rejected rfl (fun _ => rfl) rfl rfl rfl)
  | signalSessionClose headers sessionId =>
    exact StepsSignals.snoc
      (updateSignalSessionStatus_steps (.closed env.now) rfl (fun _ => rfl) rfl rfl rfl)
  | signalCandidateAdd headers sessionId candidate =>
    exact StepsSignals.snoc (signalCandidateAdd_steps candidate)
  | _ =>
    rw [signalSessions_of_effect hEffect nofun rfl]
    exact .other fun _ => rfl

end Steps

section Runs

variable [UuidText] {calls : List (Call C)} {call : Call C}

/-- The signals for a session that were carried out. -/
def signals (calls : List (Call C)) (sessionId : Uuid) : List Signal :=
  (selected (fun before call => carriedOut (answerAfter before call)) [] calls).filterMap
    (signalFor sessionId)

theorem signals_snoc (calls : List (Call C)) (call : Call C) (sessionId : Uuid) :
    signals (calls ++ [call]) sessionId = signals calls sessionId ++
      if carriedOut (answerAfter calls call) then (signalFor sessionId call).toList else [] := by
  rw [signals, selected_snoc, List.filterMap_append, List.nil_append, ← signals]
  congr 1
  split
  next =>
    cases hSignal : signalFor sessionId call with
    | none => rw [List.filterMap_cons_none hSignal]; rfl
    | some signal => rw [List.filterMap_cons_some hSignal]; rfl
  next => rfl

/-- What there is of a session after some signals; without a session there were none. -/
def Follows (signals : List Signal) : Option SignalSession → Prop
  | some session => LifeCycle signals session
  | none => signals = []

/-- A request changes the sessions of the user on whose behalf it is made, and no others. -/
def ChangesOwn (before : List (Call C)) (call : Call C) : Prop :=
  ∀ sessionId session, (storeAfter before).signalSessions.get? sessionId = some session →
    call.2.userId? (storeAfter before) ≠ some session.userId →
    (storeAfter (before ++ [call])).signalSessions.get? sessionId = some session

theorem follows_snoc {sessionId : Uuid} (hFresh : FreshSession calls call)
    (h : Follows (signals calls sessionId) ((storeAfter calls).signalSessions.get? sessionId)) :
    Follows (signals (calls ++ [call]) sessionId)
      ((storeAfter (calls ++ [call])).signalSessions.get? sessionId) := by
  have hStep := signalStep_snoc calls call
  rw [signals_snoc]
  generalize carriedOut (answerAfter calls call) = done at hStep ⊢
  generalize (storeAfter (calls ++ [call])).signalSessions = sessions at hStep ⊢
  cases hStep with
  | other hNone =>
    rw [hNone]
    simpa using h
  | refused => simpa using h
  | @connected headers source target session hRequest hUser hLife =>
    rw [if_pos rfl, HashMap.get?_insert, signalFor, hRequest]
    by_cases hId : sessionId = call.1.uuid 0
    · rw [if_pos hId, if_pos hId.symm]
      rw [hId, hFresh headers source target hRequest] at h
      have hNone : signals calls sessionId = [] := hId ▸ h
      rw [hNone]
      exact hLife
    · rw [if_neg hId, if_neg fun hEq => hId hEq.symm]
      simpa using h
  | @told id signal session session' hRequest hUser hSession hOwner hLife =>
    rw [if_pos rfl, HashMap.get?_insert, hRequest]
    by_cases hId : sessionId = id
    · subst hId
      rw [if_pos rfl, if_pos rfl]
      rw [hSession] at h
      exact hLife _ h
    · rw [if_neg hId, if_neg fun hEq => hId hEq.symm]
      simpa using h

/-- The signals make the session, in a run of any requests. -/
theorem follows_run (hFresh : Throughout FreshSession calls) (sessionId : Uuid) :
    Follows (signals calls sessionId) ((storeAfter calls).signalSessions.get? sessionId) := by
  refine history_induction (I := fun calls => Follows (signals calls sessionId)
    ((storeAfter calls).signalSessions.get? sessionId)) ?_ ?_ hFresh
  · exact rfl
  · exact fun calls call h hFresh => follows_snoc hFresh h

theorem changesOwn_snoc (hFresh : FreshSession calls call) : ChangesOwn calls call := by
  intro id session hGet hUser
  have hStep := signalStep_snoc calls call
  generalize carriedOut (answerAfter calls call) = done at hStep
  generalize (storeAfter (calls ++ [call])).signalSessions = sessions at hStep ⊢
  cases hStep with
  | other => exact hGet
  | refused => exact hGet
  | connected hRequest =>
    have hNew := hFresh _ _ _ hRequest
    have hNe : id ≠ call.1.uuid 0 := by
      rintro rfl
      exact nomatch hNew.symm.trans hGet
    rw [HashMap.get?_insert_ne hNe]
    exact hGet
  | @told sessionId _ owned _ _ hOwned hSession =>
    have hNe : id ≠ sessionId := by
      rintro rfl
      obtain rfl := Option.some.inj (hGet.symm.trans hSession)
      exact hUser hOwned
    rw [HashMap.get?_insert_ne hNe]
    exact hGet

/-- Every session is what the signals that were carried out for it make of it, and it is its owner
who sent them. -/
theorem signalSessions_lifeCycle (hFresh : Throughout FreshSession calls) :
    (∀ sessionId session, (storeAfter calls).signalSessions.get? sessionId = some session →
      LifeCycle (signals calls sessionId) session) ∧
    Throughout ChangesOwn calls := by
  constructor
  · intro sessionId session hGet
    have hFollows := follows_run hFresh sessionId
    rw [hGet] at hFollows
    exact hFollows
  · intro before call later hSplit
    exact changesOwn_snoc (hFresh before call later hSplit)

end Runs

section Reopening

def closingCalls : List (Call Unit) :=
  connectingCalls ++ [(.usual 3 0, .signalSessionClose ⟨none⟩ 77)]

def rejectingCalls : List (Call Unit) :=
  connectingCalls ++ [(.usual 3 0, .signalConnectReject ⟨none⟩ 77)]

def acceptance : Call Unit := (.usual 4 0, .signalConnectAccept ⟨none⟩ 77)

/-- A candidate is added, and the store cannot be saved. -/
def unsavedCandidate : Call Unit :=
  ({ Surroundings.usual 3 0 with save := .error "disk full" },
    .signalCandidateAdd ⟨none⟩ 77 ⟨"lan", "192.168.1.10:24800", 100⟩)

theorem signalSessions_lifeCycle_closing :
    (∀ sessionId session,
      (@storeAfter Unit .hyphenated closingCalls).signalSessions.get? sessionId = some session →
      LifeCycle (@signals Unit .hyphenated closingCalls sessionId) session) ∧
    Throughout (@ChangesOwn Unit .hyphenated) closingCalls := by
  let text := UuidText.hyphenated
  exact signalSessions_lifeCycle (freshSession_snoc fresh_connecting nofun)

/-- A closed or a rejected session is accepted once more, the time of the closing stays, and so does
a candidate that was not added with success. -/
theorem sessions_reopen :
    (¬ ∀ calls : List (Call Unit), @Throughout _ (@FreshSession Unit .hyphenated) calls →
      ∀ sessionId session,
        (@storeAfter Unit .hyphenated calls).signalSessions.get? sessionId = some session →
        (session.status = "closed" ↔ session.closedAt.isSome)) ∧
    (¬ ∀ (calls : List (Call Unit)) (call : Call Unit),
      @Throughout _ (@FreshSession Unit .hyphenated) (calls ++ [call]) →
      ∀ sessionId session session',
        (@storeAfter Unit .hyphenated calls).signalSessions.get? sessionId = some session →
        (@storeAfter Unit .hyphenated (calls ++ [call])).signalSessions.get? sessionId =
          some session' →
        session.status = "closed" → session'.status = "closed") ∧
    (¬ ∀ (calls : List (Call Unit)) (call : Call Unit),
      @Throughout _ (@FreshSession Unit .hyphenated) (calls ++ [call]) →
      ∀ sessionId session session',
        (@storeAfter Unit .hyphenated calls).signalSessions.get? sessionId = some session →
        (@storeAfter Unit .hyphenated (calls ++ [call])).signalSessions.get? sessionId =
          some session' →
        session.status = "rejected" → session'.status ≠ "accepted") ∧
    ¬ ∀ calls : List (Call Unit), @Throughout _ (@FreshSession Unit .hyphenated) calls →
      ∀ sessionId session,
        (@storeAfter Unit .hyphenated calls).signalSessions.get? sessionId = some session →
        session.candidates.Perm
          (((selected (fun before call => (@answerAfter Unit .hyphenated before call).isOk) []
            calls).filterMap (signalFor sessionId)).filterMap Signal.candidate?) := by
  let text := UuidText.hyphenated
  have hClosed : (storeAfter closingCalls).signalSessions.get? 77 =
      some ⟨77, 1, 10, 11, "closed", [], 2, some 3⟩ := by decide +kernel
  have hReopened : (storeAfter (closingCalls ++ [acceptance])).signalSessions.get? 77 =
      some ⟨77, 1, 10, 11, "accepted", [], 2, some 3⟩ := by decide +kernel
  have hRejected : (storeAfter rejectingCalls).signalSessions.get? 77 =
      some ⟨77, 1, 10, 11, "rejected", [], 2, none⟩ := by decide +kernel
  have hRelented : (storeAfter (rejectingCalls ++ [acceptance])).signalSessions.get? 77 =
      some ⟨77, 1, 10, 11, "accepted", [], 2, none⟩ := by decide +kernel
  have hUnsaved : (storeAfter (connectingCalls ++ [unsavedCandidate])).signalSessions.get? 77 =
      some ⟨77, 1, 10, 11, "requested", [⟨"lan", "192.168.1.10:24800", 100⟩], 2, none⟩ := by
    decide +kernel
  have hAdded : (((selected (fun before call => (answerAfter before call).isOk) []
      (connectingCalls ++ [unsavedCandidate])).filterMap (signalFor 77)).filterMap
        Signal.candidate?) = [] := by decide +kernel
  have hClosing : Throughout FreshSession (closingCalls ++ [acceptance]) :=
    freshSession_snoc (freshSession_snoc fresh_connecting nofun) nofun
  have hRejecting : Throughout FreshSession (rejectingCalls ++ [acceptance]) :=
    freshSession_snoc (freshSession_snoc fresh_connecting nofun) nofun
  have hAdding : Throughout FreshSession (connectingCalls ++ [unsavedCandidate]) :=
    freshSession_snoc fresh_connecting nofun
  refine ⟨fun h => ?_, fun h => ?_, fun h => ?_, fun h => ?_⟩
  · exact absurd ((h _ hClosing 77 _ hReopened).mpr rfl) (by decide)
  · exact absurd (h _ _ hClosing 77 _ _ hClosed hReopened rfl) (by decide)
  · exact h _ _ hRejecting 77 _ _ hRejected hRelented rfl rfl
  · have hPerm := h _ hAdding 77 _ hUnsaved
    rw [hAdded] at hPerm
    exact absurd hPerm.length_eq (by decide)

end Reopening

end Kmsync.Server
