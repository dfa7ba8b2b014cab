import Kmsync.ProofKit.Transition
import Kmsync.Server.FailedSaves

/-! What is left of the store when the server ends and starts again.  The process may end at any
time, also within a request; then the store is read from the data file.  All that a restart takes
back is what requests have changed that were answered with an error, because the store could not be
saved. -/

namespace Kmsync.Server

open ProofKit

variable {C α β : Type}

section Programs

/-- The program leaves the store in memory and in the file as they are. -/
def Reads (m : Handler C α) : Prop :=
  ∀ s, (stateAfter m s).inner = s.inner ∧ (stateAfter m s).file = s.file

/-- The program does not fail, and does not save. -/
def Writes (m : Handler C α) : Prop := ∀ s, ∃ a t, m s = .ok a t ∧ t.file = s.file

/-- The program saves the store when it succeeds, and when it fails unless that fails. -/
def Commits (env : Surroundings) (m : Handler C α) : Prop := ∀ s,
  (∀ a t, m s = .ok a t → t.file = t.inner) ∧
  ∀ e t, m s = .error e t → t.file = t.inner ∨ env.save ≠ .ok () ∧ t.file = s.file

/-- The program leaves the store as it is in memory and in the file, or saves it, or fails because
it cannot be saved. -/
def Durable (env : Surroundings) (m : Handler C α) : Prop := ∀ s,
  (∀ a t, m s = .ok a t → t.file = t.inner ∨ t.inner = s.inner ∧ t.file = s.file) ∧
  ∀ e t, m s = .error e t → t.file = t.inner ∨ t.inner = s.inner ∧ t.file = s.file ∨
    env.save ≠ .ok () ∧ t.file = s.file

variable {env : Surroundings} {m : Handler C α} {f : α → Handler C β}

theorem reads_lock : Reads (lock : Handler C (Store C)) := fun _ => ⟨rfl, rfl⟩

theorem reads_get : Reads (get : Handler C (AppState C)) := fun _ => ⟨rfl, rfl⟩

theorem reads_pure (a : α) : Reads (pure a : Handler C α) := fun _ => ⟨rfl, rfl⟩

theorem reads_throw (error : ApiError) : Reads (throw error : Handler C α) := fun _ => ⟨rfl, rfl⟩

theorem reads_ofExcept (x : Except ApiError α) : Reads (MonadExcept.ofExcept x : Handler C α) := by
  cases x with
  | ok a => exact fun _ => ⟨rfl, rfl⟩
  | error e => exact fun _ => ⟨rfl, rfl⟩

theorem reads_orRefuse (found : Option α) (error : ApiError) :
    Reads (orRefuse found error : Handler C α) := by
  cases found with
  | some a => exact fun _ => ⟨rfl, rfl⟩
  | none => exact fun _ => ⟨rfl, rfl⟩

theorem reads_refuseIf (refused : Prop) [Decidable refused] (error : ApiError) :
    Reads (refuseIf refused error : Handler C Unit) := by
  unfold refuseIf
  split
  next => exact fun _ => ⟨rfl, rfl⟩
  next => exact fun _ => ⟨rfl, rfl⟩

theorem reads_publishEvent (event : ServerEvent C) : Reads (publishEvent event) :=
  fun _ => ⟨rfl, rfl⟩

theorem reads_publishIf (published : Prop) [Decidable published] (event : ServerEvent C) :
    Reads (publishIf published event) := by
  unfold publishIf
  split
  next => exact fun _ => ⟨rfl, rfl⟩
  next => exact fun _ => ⟨rfl, rfl⟩

theorem writes_modifyStore (g : Store C → Store C) : Writes (modifyStore g) :=
  fun _ => ⟨(), _, rfl, rfl⟩

theorem writes_publishIf (published : Prop) [Decidable published] (event : ServerEvent C) :
    Writes (publishIf published event) := by
  unfold publishIf
  split
  next => exact fun _ => ⟨(), _, rfl, rfl⟩
  next => exact fun _ => ⟨(), _, rfl, rfl⟩

theorem Reads.bind (hm : Reads m) (hf : ∀ a, Reads (f a)) : Reads (m >>= f) := by
  intro s
  have hFirst := hm s
  cases h : m s with
  | ok a s' =>
    rw [stateAfter_of_ok h] at hFirst
    rw [stateAfter, bind_of_ok h, ← hFirst.1, ← hFirst.2]
    exact hf a s'
  | error e s' =>
    rw [stateAfter_of_error h] at hFirst
    rw [stateAfter_of_error (bind_of_error h)]
    exact hFirst

theorem Reads.durable (hm : Reads m) : Durable env m := by
  intro s
  have hReads := hm s
  refine ⟨fun a t h => Or.inr ?_, fun e t h => Or.inr (Or.inl ?_)⟩
  · rwa [stateAfter_of_ok h] at hReads
  · rwa [stateAfter_of_error h] at hReads

theorem Commits.durable (hm : Commits env m) : Durable env m := fun s =>
  ⟨fun a t h => Or.inl ((hm s).1 a t h), fun e t h => ((hm s).2 e t h).imp_right Or.inr⟩

/-- What comes before the store is changed. -/
theorem Durable.bind (hm : Reads m) (hf : ∀ a, Durable env (f a)) : Durable env (m >>= f) := by
  intro s
  have hFirst := hm s
  cases h : m s with
  | ok a s' =>
    rw [stateAfter_of_ok h] at hFirst
    rw [bind_of_ok h, ← hFirst.1, ← hFirst.2]
    exact hf a s'
  | error e s' =>
    rw [stateAfter_of_error h] at hFirst
    rw [bind_of_error h]
    refine ⟨fun a t hEnd => ?_, fun e' t hEnd => ?_⟩
    · cases hEnd
    · cases hEnd
      exact Or.inr (Or.inl hFirst)

/-- What comes between the change of the store and the saving. -/
theorem Commits.bind (hm : Writes m) (hf : ∀ a, Commits env (f a)) : Commits env (m >>= f) := by
  intro s
  obtain ⟨a, s', h, hFile⟩ := hm s
  rw [bind_of_ok h, ← hFile]
  exact hf a s'

theorem Durable.ite {n : Handler C α} (c : Prop) [Decidable c] (h : Durable env m)
    (h' : Durable env n) : Durable env (if c then m else n) := by
  split
  next => exact h
  next => exact h'

/-- A program that ends in an answer. -/
theorem Durable.map {g : α → β} (hm : Durable env m) : Durable env (m >>= fun a => pure (g a)) := by
  intro s
  cases h : m s with
  | ok a s' =>
    rw [bind_of_ok h]
    refine ⟨fun b t hEnd => ?_, fun e t hEnd => ?_⟩
    · cases hEnd
      exact (hm s).1 a s' h
    · cases hEnd
  | error e s' =>
    rw [bind_of_error h]
    refine ⟨fun b t hEnd => ?_, fun e' t hEnd => ?_⟩
    · cases hEnd
    · cases hEnd
      exact (hm s).2 e s' h

/-- What comes after the store is saved. -/
theorem commits_saveLocked {rest : Unit → Handler C α} (hRest : Reads (rest ())) :
    Commits env (saveLocked env >>= rest) := by
  intro s
  cases hSave : env.save with
  | ok =>
    have hSaved : (saveLocked env : Handler C Unit) s = .ok () { s with file := s.inner } := by
      rw [saveLocked, hSave]
      rfl
    obtain ⟨hInner, hFile⟩ := hRest { s with file := s.inner }
    rw [bind_of_ok hSaved]
    refine ⟨fun a t h => ?_, fun e t h => Or.inl ?_⟩
    · rw [stateAfter_of_ok h] at hInner hFile
      exact hFile.trans hInner.symm
    · rw [stateAfter_of_error h] at hInner hFile
      exact hFile.trans hInner.symm
  | error error =>
    have hFails : (saveLocked env : Handler C Unit) s = .error (.internal error) s := by
      rw [saveLocked, hSave]
      rfl
    rw [bind_of_error hFails]
    refine ⟨fun a t h => ?_, fun e t h => ?_⟩
    · cases h
    · cases h
      exact Or.inr ⟨by simp, rfl⟩

theorem commits_saveLocked_only : Commits env (saveLocked env : Handler C Unit) := by
  have h : Commits env ((saveLocked env : Handler C Unit) >>= pure) :=
    commits_saveLocked (reads_pure ())
  rwa [bind_pure] at h

/-- The end of the handlers that save. -/
theorem durable_commit {g : Store C → Store C} {rest : Handler C α} (hRest : Reads rest) :
    Durable env (do modifyStore g; saveLocked env; rest) :=
  (Commits.bind (writes_modifyStore g) fun _ => commits_saveLocked hRest).durable

end Programs

section Handlers

variable (env : Surroundings) (headers : Headers)

theorem durable_authorized {f : Uuid → Handler C β} (hf : ∀ userId, Durable env (f userId)) :
    Durable env (lock >>= fun store =>
      MonadExcept.ofExcept (authorizeOrDefault store headers) >>= f) :=
  .bind reads_lock fun _ => .bind (reads_ofExcept _) hf

/-- The device is put into the store last, so that a request that is refused leaves it. -/
theorem durable_putRegisteredDevice (userId deviceId : Uuid) (request : RegisterDeviceRequest)
    {f : Unit → Handler C α} (hf : Commits env (f ())) :
    Durable env (putRegisteredDevice env userId deviceId request >>= f) := by
  rw [putRegisteredDevice, bind_assoc]
  refine .bind reads_lock fun store => ?_
  cases store.devices.get? deviceId with
  | none => exact Commits.durable (.bind (writes_modifyStore _) fun _ => hf)
  | some device =>
    simp only [bind_assoc]
    exact .bind (reads_refuseIf _ _) fun _ => .bind (reads_refuseIf _ _) fun _ =>
      Commits.durable (.bind (writes_modifyStore _) fun _ => hf)

theorem registerDevice_durable (request : RegisterDeviceRequest) :
    Durable (C := C) env (registerDevice env headers request) :=
  .bind reads_lock fun _ => .bind (reads_ofExcept _) fun _ => .bind (reads_refuseIf _ _) fun _ =>
    .bind reads_lock fun _ => .bind (reads_refuseIf _ _) fun _ =>
      durable_putRegisteredDevice env _ _ _
        (.bind (writes_modifyStore _) fun _ => commits_saveLocked (reads_pure _))

theorem updateDevice_durable (deviceId : Uuid) (request : UpdateDeviceRequest) :
    Durable (C := C) env (updateDevice env headers deviceId request) :=
  .bind reads_lock fun _ => .bind (reads_ofExcept _) fun _ => .bind reads_lock fun _ =>
    .bind (reads_orRefuse _ _) fun _ => .bind (reads_refuseIf _ _) fun _ =>
      .bind (reads_refuseIf _ _) fun _ =>
        durable_commit (.bind (reads_publishIf _ _) fun _ => reads_pure _)

theorem reauthorizeDevice_durable (deviceId : Uuid) (request : ReauthorizeDeviceRequest) :
    Durable (C := C) env (reauthorizeDevice env headers deviceId request) :=
  .bind reads_lock fun _ => .bind (reads_ofExcept _) fun _ => .bind (reads_refuseIf _ _) fun _ =>
    .bind reads_lock fun _ => .bind (reads_orRefuse _ _) fun _ => .bind (reads_refuseIf _ _) fun _ =>
      durable_commit (.bind (reads_publishEvent _) fun _ => reads_pure _)

theorem deleteDevice_durable (deviceId : Uuid) :
    Durable (C := C) env (deleteDevice env headers deviceId) :=
  .bind reads_lock fun _ => .bind (reads_ofExcept _) fun _ => .bind reads_lock fun _ =>
    .bind (reads_ofExcept _) fun _ => durable_commit fun _ => ⟨rfl, rfl⟩

theorem heartbeat_durable (publicIp : String) (deviceId : Uuid) (request : HeartbeatRequest) :
    Durable (C := C) env (heartbeat env headers publicIp deviceId request) :=
  .bind reads_lock fun _ => .bind (reads_ofExcept _) fun _ => .bind reads_lock fun _ =>
    .bind (reads_orRefuse _ _) fun _ => .bind (reads_refuseIf _ _) fun _ =>
      .bind (reads_refuseIf _ _) fun _ => .ite _ (durable_commit (reads_throw _))
        (.bind reads_lock fun _ =>
          durable_commit (.bind (reads_publishIf _ _) fun _ => reads_pure _))

theorem markDeviceOffline_durable (deviceId : Uuid) :
    Durable (C := C) env (markDeviceOffline env headers deviceId) := by
  refine .bind reads_lock fun _ => .bind (reads_ofExcept _) fun _ => .bind reads_lock fun _ =>
    .bind (reads_orRefuse _ _) fun _ => .bind (reads_refuseIf _ _) fun _ =>
      .bind reads_lock fun store => ?_
  cases store.presence.get? deviceId with
  | none => exact (reads_pure _).durable
  | some presence =>
    exact Commits.durable (.bind (writes_modifyStore _) fun _ => .bind (writes_publishIf _ _) fun _ =>
      commits_saveLocked (reads_pure _))

theorem upsertTopology_durable (request : UpsertTopologyRequest) :
    Durable (C := C) env (upsertTopology env headers request) :=
  .bind reads_lock fun _ => .bind (reads_ofExcept _) fun _ => .bind reads_lock fun _ =>
    .bind (reads_ofExcept _) fun _ =>
      durable_commit (.bind (reads_publishEvent _) fun _ => reads_pure _)

theorem rollbackProfile_durable (request : RollbackProfileRequest) :
    Durable (C := C) env (rollbackProfile env headers request) :=
  .bind reads_lock fun _ => .bind (reads_ofExcept _) fun _ => .bind reads_lock fun _ =>
    .bind (reads_orRefuse _ _) fun _ => .bind (reads_refuseIf _ _) fun _ =>
      .bind (reads_orRefuse _ _) fun _ => .bind (reads_refuseIf _ _) fun _ =>
        durable_commit (.bind (reads_publishEvent _) fun _ => reads_pure _)

theorem putSignalSession_durable (userId sessionId : Uuid) (session : SignalSession) :
    Durable (C := C) env (putSignalSession env userId sessionId session) :=
  durable_commit (.bind (reads_publishEvent _) fun _ => reads_pure _)

theorem signalConnectRequest_durable (sourceDeviceId targetDeviceId : Uuid) :
    Durable (C := C) env (signalConnectRequest env headers sourceDeviceId targetDeviceId) :=
  .bind reads_lock fun _ => .bind (reads_ofExcept _) fun _ => .bind reads_lock fun _ =>
    .bind (reads_ofExcept _) fun _ => .bind (reads_ofExcept _) fun _ =>
      durable_commit (.bind (reads_publishEvent _) fun _ => reads_pure _)

theorem updateSignalSessionStatus_durable (sessionId : Uuid) (status : String) :
    Durable (C := C) env (updateSignalSessionStatus env headers sessionId status) :=
  .bind reads_lock fun _ => .bind (reads_ofExcept _) fun _ => .bind reads_lock fun _ =>
    .bind (reads_ofExcept _) fun _ => putSignalSession_durable env _ _ _

theorem signalCandidateAdd_durable (sessionId : Uuid) (candidate : SignalCandidate) :
    Durable (C := C) env (signalCandidateAdd env headers sessionId candidate) :=
  .bind reads_lock fun _ => .bind (reads_ofExcept _) fun _ => .bind reads_lock fun _ =>
    .bind (reads_ofExcept _) fun _ => .bind (reads_refuseIf _ _) fun _ =>
      putSignalSession_durable env _ _ _

theorem logout_durable (refreshToken : Option String) :
    Durable (C := C) env (logout env headers refreshToken) :=
  .bind (reads_ofExcept _) fun _ => .bind reads_lock fun _ => .bind (reads_refuseIf _ _) fun _ =>
    Commits.durable (.bind (writes_modifyStore _) fun _ => commits_saveLocked_only)

variable [UuidText]

theorem upsertProfile_durable (request : UpsertProfileRequest C) :
    Durable env (upsertProfile env headers request) :=
  .bind reads_lock fun _ => .bind (reads_ofExcept _) fun _ => .bind reads_lock fun _ =>
    .bind (reads_ofExcept _) fun _ => .bind (reads_ofExcept _) fun _ =>
      .bind (reads_refuseIf _ _) fun _ =>
        durable_commit (.bind (reads_publishEvent _) fun _ => reads_pure _)

theorem issueRelayToken_durable (request : RelayTokenRequest) :
    Durable (C := C) env (issueRelayToken env headers request) :=
  .bind reads_lock fun _ => .bind (reads_ofExcept _) fun _ => .bind reads_lock fun _ =>
    .bind (reads_ofExcept _) fun _ => .bind (reads_ofExcept _) fun _ =>
      durable_commit (reads_pure _)

theorem startEmailLogin_durable (email : String) :
    Durable (C := C) env (startEmailLogin env email) :=
  .bind (reads_ofExcept _) fun _ => durable_commit (reads_pure _)

theorem verifyEmailLogin_durable (email code : String) :
    Durable (C := C) env (verifyEmailLogin env email code) :=
  .bind (reads_ofExcept _) fun _ => .bind reads_lock fun _ => .bind (reads_orRefuse _ _) fun _ =>
    .ite _ (durable_commit (reads_throw _))
      (.bind (reads_refuseIf _ _) fun _ => .bind reads_lock fun _ =>
        durable_commit (reads_pure _))

theorem refreshAccessToken_durable (refreshToken : String) :
    Durable (C := C) env (refreshAccessToken env refreshToken) :=
  .bind reads_lock fun _ => .bind (reads_orRefuse _ _) fun _ => durable_commit (reads_pure _)

/-- Every request. -/
theorem handle_durable (request : Request C) : Durable env (handle env request) := by
  cases request with
  | startEmailLogin email => exact (startEmailLogin_durable env email).map
  | verifyEmailLogin email code => exact (verifyEmailLogin_durable env email code).map
  | refreshAccessToken refreshToken => exact (refreshAccessToken_durable env refreshToken).map
  | logout headers refreshToken => exact (logout_durable env headers refreshToken).map
  | issueRelayToken headers request => exact (issueRelayToken_durable env headers request).map
  | signalConnectRequest headers source target =>
    exact (signalConnectRequest_durable env headers source target).map
  | signalConnectAccept headers sessionId | signalConnectReject headers sessionId
  | signalSessionClose headers sessionId =>
    exact (updateSignalSessionStatus_durable env headers sessionId _).map
  | signalCandidateAdd headers sessionId candidate =>
    exact (signalCandidateAdd_durable env headers sessionId candidate).map
  | registerDevice headers request => exact (registerDevice_durable env headers request).map
  | updateDevice headers deviceId request =>
    exact (updateDevice_durable env headers deviceId request).map
  | reauthorizeDevice headers deviceId request =>
    exact (reauthorizeDevice_durable env headers deviceId request).map
  | deleteDevice headers deviceId => exact (deleteDevice_durable env headers deviceId).map
  | heartbeat headers publicIp deviceId request =>
    exact (heartbeat_durable env headers publicIp deviceId request).map
  | markDeviceOffline headers deviceId =>
    exact (markDeviceOffline_durable env headers deviceId).map
  | upsertTopology headers request => exact (upsertTopology_durable env headers request).map
  | upsertProfile headers request => exact (upsertProfile_durable env headers request).map
  | rollbackProfile headers request => exact (rollbackProfile_durable env headers request).map
  | listDevices headers =>
    exact (durable_authorized env headers fun _ =>
      .bind reads_get fun _ => (reads_pure _).durable).map
  | getTopology headers | listProfiles headers | listProfileChanges headers sinceRevision =>
    exact (durable_authorized env headers fun _ =>
      .bind reads_lock fun _ => (reads_pure _).durable).map

end Handlers

section Restarts

/-- What `serde_json::from_str` makes of the text that `serde_json::to_string_pretty` makes of a
store. -/
class StoreJson (C : Type) where
  fromStr : Store C → Except String (Store C)

/-- A store is read as it was written. -/
class LawfulStoreJson (C : Type) [StoreJson C] : Prop where
  fromStr_eq : ∀ store : Store C, StoreJson.fromStr store = .ok store

/-- `AppState::load` on the data file, of which the system may refuse the text.  A file that does
not exist is read as the empty store. -/
def AppState.load {C : Type} [StoreJson C] (read : Except String Unit) (file : Store C) :
    Except String (AppState C) := do
  read
  let store ← StoreJson.fromStr file
  return ⟨store, file, [], ⟨∅, []⟩⟩

/-- The process of the server, or the data file that it has left. -/
inductive ServerProcess (C : Type) where
  | running (s : AppState C)
  | ended (file : Store C)

/-- What happens to the server. -/
inductive ServiceStep (C : Type) where
  /-- The process is started, and ends at once if it cannot load the data file. -/
  | start (read : Except String Unit)
  | call (env : Surroundings) (request : Request C)
  /-- The process ends in a request, before the data file is renamed or behind it. -/
  | crash (env : Surroundings) (request : Request C) (renamed : Bool)
  /-- The process ends between two requests. -/
  | stop

variable [UuidText] [StoreJson C]

def ServerProcess.step : ServerProcess C → ServiceStep C → Option (ServerProcess C)
  | .ended file, .start read =>
    match AppState.load read file with
    | .ok s => some (.running s)
    | .error _ => some (.ended file)
  | .running s, .call env request => some (.running (stateAfter (handle env request) s))
  | .running s, .crash env request renamed =>
    some (.ended (if renamed then (stateAfter (handle env request) s).file else s.file))
  | .running s, .stop => some (.ended s.file)
  | .ended _, .call _ _ | .ended _, .crash _ _ _ | .ended _, .stop | .running _, .start _ => none

/-- The store in memory differs from that in the file by what some requests have changed, each of
which was answered with an error, because the store could not be saved. -/
inductive Drifted (file : Store C) : Store C → Prop where
  | none : Drifted file file
  | unsaved {s t : AppState C} {env : Surroundings} {request : Request C} {error : ApiError} :
      Drifted file s.inner → s.file = file → env.save ≠ .ok () →
      handle env request s = .error error t → t.file = file → Drifted file t.inner

def ServiceStep.saves : ServiceStep C → Prop
  | .call env _ | .crash env _ _ => env.save = .ok ()
  | .start _ | .stop => True

omit [StoreJson C] in
/-- A request is saved, or changes nothing, or fails because it cannot be saved. -/
theorem call_cases (s : AppState C) (env : Surroundings) (request : Request C) :
    (stateAfter (handle env request) s).file = (stateAfter (handle env request) s).inner ∨
    (stateAfter (handle env request) s).inner = s.inner ∧
      (stateAfter (handle env request) s).file = s.file ∨
    env.save ≠ .ok () ∧ (stateAfter (handle env request) s).file = s.file ∧
      ∃ error, handle env request s = .error error (stateAfter (handle env request) s) := by
  obtain ⟨hOk, hError⟩ := handle_durable env request s
  cases hCall : handle env request s with
  | ok response t =>
    rw [stateAfter_of_ok hCall]
    exact (hOk response t hCall).imp_right Or.inl
  | error error t =>
    rw [stateAfter_of_error hCall]
    exact (hError error t hCall).imp_right fun h =>
      h.imp_right fun h => ⟨h.1, h.2, error, rfl⟩

omit [StoreJson C] in
theorem drifted_call {s : AppState C} (h : Drifted s.file s.inner) (env : Surroundings)
    (request : Request C) :
    Drifted (stateAfter (handle env request) s).file (stateAfter (handle env request) s).inner := by
  rcases call_cases s env request with hSaved | ⟨hInner, hFile⟩ | ⟨hFails, hFile, error, hCall⟩
  · rw [hSaved]
    exact .none
  · rw [hInner, hFile]
    exact h
  · rw [hFile]
    exact .unsaved h rfl hFails hCall hFile

omit [StoreJson C] in
theorem file_eq_inner_call {s : AppState C} (h : s.file = s.inner) {env : Surroundings}
    (hSave : env.save = .ok ()) (request : Request C) :
    (stateAfter (handle env request) s).file = (stateAfter (handle env request) s).inner := by
  rcases call_cases s env request with hSaved | ⟨hInner, hFile⟩ | ⟨hFails, -, -⟩
  · exact hSaved
  · rw [hInner, hFile, h]
  · exact absurd hSave hFails

/-- What the process has in memory, next to what it would find in the file. -/
def ServerProcess.Kept : ServerProcess C → Prop
  | .running s => Drifted s.file s.inner
  | .ended _ => True

/-- The process has in memory what is in the file. -/
def ServerProcess.Saved : ServerProcess C → Prop
  | .running s => s.file = s.inner
  | .ended _ => True

variable [LawfulStoreJson C] {process process' : ServerProcess C} {steps : List (ServiceStep C)}

omit [UuidText] in
theorem load_eq_ok {read : Except String Unit} {file : Store C} {s : AppState C}
    (h : AppState.load read file = .ok s) : s = ⟨file, file, [], ⟨∅, []⟩⟩ := by
  rw [AppState.load, LawfulStoreJson.fromStr_eq] at h
  cases read with
  | ok => exact (Except.ok.inj h).symm
  | error error => cases h

theorem ServerProcess.Kept.step (h : process.Kept) {event : ServiceStep C}
    (hStep : process.step event = some process') : process'.Kept := by
  cases process with
  | running s =>
    cases event with
    | start read => cases hStep
    | call env request =>
      cases hStep
      exact drifted_call h env request
    | crash env request renamed | stop =>
      cases hStep
      trivial
  | ended file =>
    cases event with
    | start read =>
      rw [ServerProcess.step] at hStep
      split at hStep
      next s hLoad =>
        cases hStep
        obtain rfl := load_eq_ok hLoad
        exact .none
      next =>
        cases hStep
        trivial
    | call env request | crash env request renamed | stop => cases hStep

theorem ServerProcess.Saved.step (h : process.Saved) {event : ServiceStep C}
    (hStep : process.step event = some process') (hSaves : event.saves) : process'.Saved := by
  cases process with
  | running s =>
    cases event with
    | start read => cases hStep
    | call env request =>
      cases hStep
      exact file_eq_inner_call h hSaves request
    | crash env request renamed | stop =>
      cases hStep
      trivial
  | ended file =>
    cases event with
    | start read =>
      rw [ServerProcess.step] at hStep
      split at hStep
      next s hLoad =>
        cases hStep
        obtain rfl := load_eq_ok hLoad
        rfl
      next =>
        cases hStep
        trivial
    | call env request | crash env request renamed | stop => cases hStep

end Restarts

section Sample

end Sample

end Kmsync.Server
