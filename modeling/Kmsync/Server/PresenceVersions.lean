import Kmsync.Server.Tombstones
import Kmsync.ProofKit.VersionedCell

/-! Versions of presences.  A version stands for what a device presents as long as its public
address stays while nothing else changes, and no device id gets a presence a second time. -/

namespace Kmsync.Server

open ProofKit

variable {C : Type}

section Cells

/-- What a presence tells of a device, but for when it was seen. -/
structure Presented where
  lanIps : List String
  publicIp : String
  listenPort : UInt16
  natType : String
  display : Option DesktopDisplayState
  deriving DecidableEq

def Presence.presented (presence : Presence) : Presented :=
  ⟨presence.lanIps, presence.publicIp, presence.listenPort, presence.natType, presence.display⟩

def Presence.cell (presence : Presence) : ℕ × Presented :=
  (presence.presenceVersion.toNat, presence.presented)

def Store.presenceCell (store : Store C) (deviceId : Uuid) : Option (ℕ × Presented) :=
  (store.presence.get? deviceId).map Presence.cell

/-- The version in an event, if it is about the presence of the device. -/
def announcedVersion (deviceId : Uuid) : ServerEvent C → Option ℕ
  | .devicePresenceChanged _ changedId _ presenceVersion =>
    if changedId = deviceId then some presenceVersion.toNat else none
  | _ => none

/-- The versions that were published for a device. -/
def presenceNews (deviceId : Uuid) (events : List (ServerEvent C)) : List ℕ :=
  events.filterMap (announcedVersion deviceId)

theorem presenceNews_append (deviceId : Uuid) (events events' : List (ServerEvent C)) :
    presenceNews deviceId (events ++ events') =
      presenceNews deviceId events ++ presenceNews deviceId events' := List.filterMap_append

variable {first unseen : Prop} {presence : Presence} {now : UInt64} {userId deviceId : Uuid}
  {new : List ℕ}

theorem presenceNews_ite (changedId : Uuid) (online : Bool) (version : UInt64) (c : Prop)
    [Decidable c] :
    presenceNews (C := C) deviceId
        (if c then [.devicePresenceChanged userId changedId online version] else []) =
      if c ∧ changedId = deviceId then [version.toNat] else [] := by
  by_cases hC : c
  · simp only [if_pos hC, presenceNews, List.filterMap_cons, announcedVersion, List.filterMap_nil]
    by_cases hId : changedId = deviceId
    · simp only [if_pos hId, if_pos (And.intro hC hId)]
    · simp only [if_neg hId, if_neg (fun h : c ∧ changedId = deviceId => hId h.2)]
  · rw [if_neg hC, if_neg (fun h => hC h.1)]
    rfl

/-- A heartbeat counts what it changes, if the public address is no such change. -/
theorem heartbeat_cellStep {previous : Option Presence} {publicIp : String}
    {beat : HeartbeatRequest}
    (hAddress : ∀ presence, previous = some presence → presence.repeats beat now = true →
      presence.publicIp = publicIp)
    (hFirst : previous = none → first)
    (hBelow : ∀ presence, previous = some presence → presence.presenceVersion.toNat < 2 ^ 64 - 1)
    (hNew : new = [] ∨ (!previous.any (·.repeats beat now)) = true ∧
      new = [(heartbeatVersion previous beat now).toNat]) :
    CellStep first unseen (previous.map Presence.cell)
      (some (heartbeatPresence userId deviceId publicIp beat now
        (heartbeatVersion previous beat now)).cell) new := by
  cases previous with
  | none => exact .filled _ (hFirst rfl) (hNew.imp_right And.right)
  | some presence =>
    have hVersion := hBelow presence rfl
    cases hRepeats : presence.repeats beat now with
    | true =>
      have hSame : (heartbeatPresence userId deviceId publicIp beat now
          (heartbeatVersion (some presence) beat now)).cell = presence.cell := by
        rw [heartbeatVersion, if_pos hRepeats]
        have hFields := hRepeats
        simp only [Presence.repeats, Bool.and_eq_true, decide_eq_true_eq] at hFields
        obtain ⟨⟨⟨⟨-, hLanIps⟩, hPort⟩, hNat⟩, hDisplay⟩ := hFields
        simp only [Presence.cell, Presence.presented, heartbeatPresence, hLanIps, hPort, hNat,
          hDisplay, hAddress presence rfl hRepeats]
      rcases hNew with rfl | ⟨hNone, -⟩
      · rw [hSame]
        exact .same _
      · rw [Option.any_some, hRepeats] at hNone
        contradiction
    | false =>
      have hNext : (heartbeatVersion (some presence) beat now).toNat =
          presence.presenceVersion.toNat + 1 := by
        rw [heartbeatVersion, if_neg (by rw [hRepeats]; exact Bool.false_ne_true),
          toNat_saturatingNext hVersion]
      rw [hNext] at hNew
      rw [Presence.cell, show (heartbeatPresence userId deviceId publicIp beat now
        (heartbeatVersion (some presence) beat now)).presenceVersion.toNat = _ from hNext]
      exact .changed _ _ _ (hNew.imp_right And.right)

theorem markedOffline_cellStep (hBelow : presence.presenceVersion.toNat < 2 ^ 64 - 1)
    (hNew : new = [] ∨ new = [(presence.markedOffline now).presenceVersion.toNat]) :
    CellStep first unseen (some presence.cell) (some (presence.markedOffline now).cell) new := by
  have hNext : (presence.markedOffline now).presenceVersion.toNat =
      presence.presenceVersion.toNat + 1 := toNat_saturatingNext hBelow
  rw [hNext] at hNew
  rw [Presence.cell, Presence.cell, hNext]
  exact .changed _ _ _ hNew

/-- The version with which the absence of a device is announced. -/
theorem deleted_cellStep {cell : Option Presence}
    (hBelow : ∀ presence, cell = some presence → presence.presenceVersion.toNat < 2 ^ 64 - 1)
    (hNew : new = [] ∨ (cell = none → unseen) ∧ new = [(match cell with
      | some presence => saturatingNext presence.presenceVersion
      | none => 1).toNat]) :
    CellStep first unseen (cell.map Presence.cell) none new := by
  cases cell with
  | none =>
    rcases hNew with rfl | ⟨hUnseen, rfl⟩
    · exact .same _
    · exact .absent (hUnseen rfl)
  | some presence =>
    have hNext := toNat_saturatingNext (hBelow presence rfl)
    refine .emptied _ _ (hNew.imp_right fun h => h.2.trans ?_)
    exact congrArg (fun n => [n]) hNext

/-- One version among those of a list of devices. -/
theorem filterMap_only {ids : List Uuid} (hNodup : ids.Nodup) (f : Uuid → ℕ) :
    (ids.filterMap fun id => if id = deviceId then some (f id) else none) =
      if deviceId ∈ ids then [f deviceId] else [] := by
  induction ids with
  | nil => rfl
  | cons id ids ih =>
    obtain ⟨hNotMem, hRest⟩ := List.nodup_cons.mp hNodup
    rw [List.filterMap_cons, ih hRest]
    by_cases hId : id = deviceId
    · subst hId
      rw [if_pos rfl, if_neg hNotMem, if_pos List.mem_cons_self]
    · have hMem : deviceId ∈ id :: ids ↔ deviceId ∈ ids :=
        List.mem_cons.trans (or_iff_right (Ne.symm hId))
      simp only [if_neg hId, hMem]

theorem presenceNews_deletionEvents (deviceId : Uuid) (env : Surroundings) (s : Store C)
    (userId : Uuid) (deleted : List Device) :
    presenceNews deviceId (deletionEvents env s userId deleted) =
      if ∃ device ∈ deleted, device.id = deviceId then
        [(match s.presence.get? deviceId with
          | some presence => saturatingNext presence.presenceVersion
          | none => 1).toNat]
      else [] := by
  rw [presenceNews, deletionEvents, List.filterMap_map]
  refine (filterMap_only HashSet.nodup_elements fun id => (match s.presence.get? id with
    | some presence => saturatingNext presence.presenceVersion
    | none => 1).toNat).trans ?_
  refine if_congr ?_ rfl rfl
  rw [HashSet.mem_elements, HashSet.mem_insertAll, List.mem_map]
  exact or_iff_left (AList.notMem_empty deviceId)

theorem withoutDevices_presence_get? (deviceId : Uuid) (s : Store C) (userId : Uuid)
    (scope : DeviceDeletionScope) (deleted : List Device) (now : UInt64) :
    (s.withoutDevices userId scope deleted now).presence.get? deviceId =
      if ∃ device ∈ deleted, device.id = deviceId then none else s.presence.get? deviceId := by
  refine Option.ext fun presence => ?_
  rw [Store.withoutDevices_presence, HashMap.get?_retain_eq_some_iff, decide_eq_true_eq,
    HashSet.mem_insertAll, List.mem_map, or_iff_left (AList.notMem_empty deviceId)]
  split
  next h => exact ⟨fun hKept => absurd h hKept.2, fun hNone => by cases hNone⟩
  next h => exact and_iff_left h

theorem presenceForDeviceList_cell {previous : Option Presence} {now : UInt64}
    {presence : Presence} (h : presenceForDeviceList previous now = some presence) :
    previous.map Presence.cell = some presence.cell := by
  obtain ⟨stored, rfl, rfl⟩ := Option.map_eq_some_iff.mp h
  split
  next => rfl
  next => rfl

end Cells

section Others

variable {α β : Type} {env : Surroundings} {deviceId : Uuid}

/-- The program publishes no version of the presence of the device. -/
structure KeepsNews (deviceId : Uuid) (m : Handler C α) : Prop where
  keeps : ∀ news, Keeps (fun t => presenceNews deviceId t.events = news)
    (fun t => presenceNews deviceId t.events = news) m

variable {m : Handler C α}

theorem KeepsNews.stateAfter (h : KeepsNews deviceId m) (s : AppState C) :
    presenceNews deviceId (stateAfter m s).events = presenceNews deviceId s.events :=
  meets_stateAfter.mp (h.keeps _ s rfl)

theorem KeepsNews.bind {f : α → Handler C β} (hm : KeepsNews deviceId m)
    (hf : ∀ a, KeepsNews deviceId (f a)) : KeepsNews deviceId (m >>= f) :=
  ⟨fun news => (hm.keeps news).bind fun a => (hf a).keeps news⟩

theorem keepsNews_pure (a : α) : KeepsNews deviceId (pure a : Handler C α) :=
  ⟨fun _ => keeps_pure a⟩

/-- A program that ends in an answer. -/
theorem KeepsNews.map {g : α → β} (hm : KeepsNews deviceId m) :
    KeepsNews deviceId (m >>= fun a => pure (g a)) := hm.bind fun a => keepsNews_pure (g a)

theorem KeepsNews.ite {n : Handler C α} (c : Prop) [Decidable c] (hm : KeepsNews deviceId m)
    (hn : KeepsNews deviceId n) : KeepsNews deviceId (if c then m else n) := by
  split
  next => exact hm
  next => exact hn

theorem keepsNews_throw (error : ApiError) : KeepsNews deviceId (throw error : Handler C α) :=
  ⟨fun _ _ hNews => hNews⟩

theorem keepsNews_lock : KeepsNews deviceId (lock : Handler C (Store C)) :=
  ⟨fun _ _ hNews => hNews⟩

theorem keepsNews_get : KeepsNews deviceId (get : Handler C (AppState C)) :=
  ⟨fun _ _ hNews => hNews⟩

theorem keepsNews_ofExcept (x : Except ApiError α) :
    KeepsNews deviceId (MonadExcept.ofExcept x : Handler C α) :=
  ⟨fun _ _ hNews => meets_ofExcept.mpr ⟨fun _ _ => hNews, fun _ _ => hNews⟩⟩

theorem keepsNews_orRefuse (found : Option α) (error : ApiError) :
    KeepsNews deviceId (orRefuse found error : Handler C α) :=
  ⟨fun _ _ hNews => meets_orRefuse.mpr ⟨fun _ _ => hNews, fun _ => hNews⟩⟩

theorem keepsNews_refuseIf (refused : Prop) [Decidable refused] (error : ApiError) :
    KeepsNews deviceId (refuseIf refused error : Handler C Unit) :=
  ⟨fun _ _ hNews => meets_refuseIf.mpr ⟨fun _ => hNews, fun _ => hNews⟩⟩

theorem keepsNews_modifyStore (f : Store C → Store C) : KeepsNews deviceId (modifyStore f) :=
  ⟨fun _ _ hNews => hNews⟩

theorem keepsNews_saveLocked : KeepsNews deviceId (saveLocked env : Handler C Unit) :=
  ⟨fun _ _ hNews => meets_saveLocked.mpr ⟨fun _ => hNews, fun _ _ => hNews⟩⟩

theorem keepsNews_publishIf (published : Prop) [Decidable published] {event : ServerEvent C}
    (h : announcedVersion deviceId event = none) :
    KeepsNews deviceId (publishIf published event) := by
  refine ⟨fun news s hNews => ?_⟩
  rw [meets_publishIf, presenceNews_append, hNews]
  split
  next => rw [presenceNews, List.filterMap_cons_none h, List.filterMap_nil, List.append_nil]
  next => exact List.append_nil news

theorem keepsNews_publishEvent {event : ServerEvent C}
    (h : announcedVersion deviceId event = none) : KeepsNews deviceId (publishEvent event) := by
  refine ⟨fun news s hNews => ?_⟩
  rw [meets_publishEvent, presenceNews_append, hNews, presenceNews, List.filterMap_cons_none h,
    List.filterMap_nil, List.append_nil]

theorem keepsNews_authorized (headers : Headers) {f : Uuid → Handler C β}
    (hf : ∀ userId, KeepsNews deviceId (f userId)) :
    KeepsNews deviceId (lock >>= fun store =>
      MonadExcept.ofExcept (authorizeOrDefault store headers) >>= f) :=
  .bind keepsNews_lock fun _ => .bind (keepsNews_ofExcept _) hf

/-- The end of the handlers that save. -/
theorem keepsNews_commit {g : Store C → Store C} {rest : Handler C α}
    (hRest : KeepsNews deviceId rest) :
    KeepsNews deviceId (do modifyStore g; saveLocked env; rest) :=
  .bind (keepsNews_modifyStore g) fun _ => .bind keepsNews_saveLocked fun _ => hRest

theorem registerDevice_keepsNews (headers : Headers) (request : RegisterDeviceRequest) :
    KeepsNews (C := C) deviceId (registerDevice env headers request) := by
  have hPut (userId putId : Uuid) :
      KeepsNews (C := C) deviceId (putRegisteredDevice env userId putId request) := by
    refine .bind keepsNews_lock fun store => ?_
    cases store.devices.get? putId with
    | none => exact keepsNews_modifyStore _
    | some device =>
      exact .bind (keepsNews_refuseIf _ _) fun _ => .bind (keepsNews_refuseIf _ _) fun _ =>
        keepsNews_modifyStore _
  exact keepsNews_authorized headers fun _ => .bind (keepsNews_refuseIf _ _) fun _ =>
    .bind keepsNews_lock fun _ => .bind (keepsNews_refuseIf _ _) fun _ =>
      .bind (hPut _ _) fun _ => keepsNews_commit (keepsNews_pure _)

theorem updateDevice_keepsNews (headers : Headers) (updatedId : Uuid)
    (request : UpdateDeviceRequest) :
    KeepsNews (C := C) deviceId (updateDevice env headers updatedId request) :=
  keepsNews_authorized headers fun _ => .bind keepsNews_lock fun _ =>
    .bind (keepsNews_orRefuse _ _) fun _ => .bind (keepsNews_refuseIf _ _) fun _ =>
      .bind (keepsNews_refuseIf _ _) fun _ => keepsNews_commit
        (.bind (keepsNews_publishIf _ rfl) fun _ => keepsNews_pure _)

theorem reauthorizeDevice_keepsNews (headers : Headers) (authorizedId : Uuid)
    (request : ReauthorizeDeviceRequest) :
    KeepsNews (C := C) deviceId (reauthorizeDevice env headers authorizedId request) :=
  keepsNews_authorized headers fun _ => .bind (keepsNews_refuseIf _ _) fun _ =>
    .bind keepsNews_lock fun _ => .bind (keepsNews_orRefuse _ _) fun _ =>
      .bind (keepsNews_refuseIf _ _) fun _ => keepsNews_commit
        (.bind (keepsNews_publishEvent rfl) fun _ => keepsNews_pure _)

theorem upsertTopology_keepsNews (headers : Headers) (request : UpsertTopologyRequest) :
    KeepsNews (C := C) deviceId (upsertTopology env headers request) :=
  keepsNews_authorized headers fun _ => .bind keepsNews_lock fun _ =>
    .bind (keepsNews_ofExcept _) fun _ => keepsNews_commit
      (.bind (keepsNews_publishEvent rfl) fun _ => keepsNews_pure _)

theorem rollbackProfile_keepsNews (headers : Headers) (request : RollbackProfileRequest) :
    KeepsNews (C := C) deviceId (rollbackProfile env headers request) :=
  keepsNews_authorized headers fun _ => .bind keepsNews_lock fun _ =>
    .bind (keepsNews_orRefuse _ _) fun _ => .bind (keepsNews_refuseIf _ _) fun _ =>
      .bind (keepsNews_orRefuse _ _) fun _ => .bind (keepsNews_refuseIf _ _) fun _ =>
        keepsNews_commit (.bind (keepsNews_publishEvent rfl) fun _ => keepsNews_pure _)

theorem putSignalSession_keepsNews (userId sessionId : Uuid) (session : SignalSession) :
    KeepsNews (C := C) deviceId (putSignalSession env userId sessionId session) :=
  keepsNews_commit (.bind (keepsNews_publishEvent rfl) fun _ => keepsNews_pure _)

theorem signalConnectRequest_keepsNews (headers : Headers) (sourceDeviceId targetDeviceId : Uuid) :
    KeepsNews (C := C) deviceId
      (signalConnectRequest env headers sourceDeviceId targetDeviceId) :=
  keepsNews_authorized headers fun _ => .bind keepsNews_lock fun _ =>
    .bind (keepsNews_ofExcept _) fun _ => .bind (keepsNews_ofExcept _) fun _ => keepsNews_commit
      (.bind (keepsNews_publishEvent rfl) fun _ => keepsNews_pure _)

theorem updateSignalSessionStatus_keepsNews (headers : Headers) (sessionId : Uuid)
    (status : String) :
    KeepsNews (C := C) deviceId (updateSignalSessionStatus env headers sessionId status) :=
  keepsNews_authorized headers fun _ => .bind keepsNews_lock fun _ =>
    .bind (keepsNews_ofExcept _) fun _ => putSignalSession_keepsNews _ _ _

theorem signalCandidateAdd_keepsNews (headers : Headers) (sessionId : Uuid)
    (candidate : SignalCandidate) :
    KeepsNews (C := C) deviceId (signalCandidateAdd env headers sessionId candidate) :=
  keepsNews_authorized headers fun _ => .bind keepsNews_lock fun _ =>
    .bind (keepsNews_ofExcept _) fun _ => .bind (keepsNews_refuseIf _ _) fun _ =>
      putSignalSession_keepsNews _ _ _

theorem logout_keepsNews (headers : Headers) (refreshToken : Option String) :
    KeepsNews (C := C) deviceId (logout env headers refreshToken) :=
  .bind (keepsNews_ofExcept _) fun _ => .bind keepsNews_lock fun _ =>
    .bind (keepsNews_refuseIf _ _) fun _ => .bind (keepsNews_modifyStore _) fun _ =>
      keepsNews_saveLocked

variable [UuidText]

theorem upsertProfile_keepsNews (headers : Headers) (request : UpsertProfileRequest C) :
    KeepsNews deviceId (upsertProfile env headers request) :=
  keepsNews_authorized headers fun _ => .bind keepsNews_lock fun _ =>
    .bind (keepsNews_ofExcept _) fun _ => .bind (keepsNews_ofExcept _) fun _ =>
      .bind (keepsNews_refuseIf _ _) fun _ => keepsNews_commit
        (.bind (keepsNews_publishEvent rfl) fun _ => keepsNews_pure _)

theorem issueRelayToken_keepsNews (headers : Headers) (request : RelayTokenRequest) :
    KeepsNews (C := C) deviceId (issueRelayToken env headers request) :=
  keepsNews_authorized headers fun _ => .bind keepsNews_lock fun _ =>
    .bind (keepsNews_ofExcept _) fun _ => .bind (keepsNews_ofExcept _) fun _ =>
      keepsNews_commit (keepsNews_pure _)

theorem startEmailLogin_keepsNews (email : String) :
    KeepsNews (C := C) deviceId (startEmailLogin env email) :=
  .bind (keepsNews_ofExcept _) fun _ => keepsNews_commit (keepsNews_pure _)

theorem verifyEmailLogin_keepsNews (email code : String) :
    KeepsNews (C := C) deviceId (verifyEmailLogin env email code) :=
  .bind (keepsNews_ofExcept _) fun _ => .bind keepsNews_lock fun _ =>
    .bind (keepsNews_orRefuse _ _) fun _ => .ite _ (keepsNews_commit (keepsNews_throw _))
      (.bind (keepsNews_refuseIf _ _) fun _ => .bind keepsNews_lock fun _ =>
        keepsNews_commit (keepsNews_pure _))

theorem refreshAccessToken_keepsNews (refreshToken : String) :
    KeepsNews (C := C) deviceId (refreshAccessToken env refreshToken) :=
  .bind keepsNews_lock fun _ => .bind (keepsNews_orRefuse _ _) fun _ =>
    keepsNews_commit (keepsNews_pure _)

/-- The requests that publish the version of a presence. -/
def Request.announces : Request C → Bool
  | .deleteDevice _ _ => true
  | .heartbeat _ _ _ _ => true
  | .markDeviceOffline _ _ => true
  | _ => false

theorem handle_keepsNews (request : Request C) (hRequest : request.announces = false) :
    KeepsNews deviceId (handle env request) := by
  cases request with
  | startEmailLogin email => exact (startEmailLogin_keepsNews email).map
  | verifyEmailLogin email code => exact (verifyEmailLogin_keepsNews email code).map
  | refreshAccessToken refreshToken => exact (refreshAccessToken_keepsNews refreshToken).map
  | logout headers refreshToken => exact (logout_keepsNews headers refreshToken).map
  | issueRelayToken headers request => exact (issueRelayToken_keepsNews headers request).map
  | signalConnectRequest headers source target =>
    exact (signalConnectRequest_keepsNews headers source target).map
  | signalConnectAccept headers sessionId =>
    exact (updateSignalSessionStatus_keepsNews headers sessionId _).map
  | signalConnectReject headers sessionId =>
    exact (updateSignalSessionStatus_keepsNews headers sessionId _).map
  | signalSessionClose headers sessionId =>
    exact (updateSignalSessionStatus_keepsNews headers sessionId _).map
  | signalCandidateAdd headers sessionId candidate =>
    exact (signalCandidateAdd_keepsNews headers sessionId candidate).map
  | registerDevice headers request => exact (registerDevice_keepsNews headers request).map
  | updateDevice headers updatedId request =>
    exact (updateDevice_keepsNews headers updatedId request).map
  | reauthorizeDevice headers authorizedId request =>
    exact (reauthorizeDevice_keepsNews headers authorizedId request).map
  | upsertTopology headers request => exact (upsertTopology_keepsNews headers request).map
  | upsertProfile headers request => exact (upsertProfile_keepsNews headers request).map
  | rollbackProfile headers request => exact (rollbackProfile_keepsNews headers request).map
  | listDevices headers =>
    exact (keepsNews_authorized headers fun _ => .bind keepsNews_get fun _ => keepsNews_pure _).map
  | getTopology headers | listProfiles headers | listProfileChanges headers =>
    exact (keepsNews_authorized headers fun _ => .bind keepsNews_lock fun _ => keepsNews_pure _).map
  | deleteDevice | heartbeat | markDeviceOffline => contradiction

end Others

section Steps

variable [UuidText]

/-- The versions that were published for a device. -/
def published (deviceId : Uuid) (calls : List (Call C)) : List ℕ :=
  presenceNews deviceId (after serve .start calls).events

/-- What a device has ever presented, with the versions. -/
def everPresent (deviceId : Uuid) (calls : List (Call C)) : Set (ℕ × Presented) :=
  {x | ∃ before, before <+: calls ∧ (storeAfter before).presenceCell deviceId = some x}

/-- A heartbeat finds its device there, enabled, and meets no tombstone. -/
def Takes (before : List (Call C)) (call : Call C) (deviceId : Uuid) (publicIp : String)
    (beat : HeartbeatRequest) : Prop :=
  ∃ headers userId device, call.2 = .heartbeat headers publicIp deviceId beat ∧
    authorizeOrDefault (storeAfter before) headers = .ok userId ∧
    (storeAfter before).devices.get? deviceId = some device ∧ device.userId = userId ∧
    device.disabled = false ∧
    meetsTombstone (storeAfter before) userId device publicIp beat = false

/-- The call counts what it changes, and does not count from the start again. -/
structure KeepsCount (deviceId : Uuid) (before : List (Call C)) (call : Call C) : Prop where
  /-- A heartbeat that repeats a presence comes from the same public address. -/
  address : ∀ publicIp beat presence, Takes before call deviceId publicIp beat →
    (storeAfter before).presence.get? deviceId = some presence →
      presence.repeats beat call.1.now = true → presence.publicIp = publicIp
  /-- A heartbeat of a device without presence is its first one. -/
  first : ∀ publicIp beat, Takes before call deviceId publicIp beat →
    (storeAfter before).presence.get? deviceId = none →
      everPresent deviceId before = ∅ ∧ published deviceId before = []
  /-- Nothing was published for a device that is deleted without presence. -/
  deletion : ∀ userId device, Removes before call userId device → device.id = deviceId →
    call.1.save = .ok () → (storeAfter before).presence.get? deviceId = none →
      published deviceId before = []

/-- The versions are below the largest one. -/
def PresencesBelowMax (before : List (Call C)) : Prop :=
  ∀ deviceId presence, (storeAfter before).presence.get? deviceId = some presence →
    presence.presenceVersion.toNat < 2 ^ 64 - 1

/-- What a call does to the presence of a device, and publishes of it. -/
def StepsCell (deviceId : Uuid) (before : List (Call C)) (t : AppState C) : Prop :=
  ∃ new, presenceNews deviceId t.events = published deviceId before ++ new ∧
    CellStep (everPresent deviceId before = ∅ ∧ published deviceId before = [])
      (published deviceId before = []) ((storeAfter before).presenceCell deviceId)
      (t.inner.presenceCell deviceId) new

variable {calls : List (Call C)} {env : Surroundings} {deviceId : Uuid} {t : AppState C}
  {headers : Headers}

theorem StepsCell.of_same
    (hPresence : t.inner.presence.get? deviceId = (storeAfter calls).presence.get? deviceId)
    (hNews : presenceNews deviceId t.events = published deviceId calls) :
    StepsCell deviceId calls t := by
  refine ⟨[], hNews.trans (List.append_nil _).symm, ?_⟩
  rw [Store.presenceCell, Store.presenceCell, hPresence]
  exact .same _

/-- The presence of a device goes. -/
theorem StepsCell.of_gone {new : List ℕ} (hBelow : PresencesBelowMax calls)
    (hNone : t.inner.presence.get? deviceId = none)
    (hEvents : presenceNews deviceId t.events = published deviceId calls ++ new)
    (hNew : new = [] ∨ ((storeAfter calls).presence.get? deviceId = none →
        published deviceId calls = []) ∧
      new = [(match (storeAfter calls).presence.get? deviceId with
        | some presence => saturatingNext presence.presenceVersion
        | none => 1).toNat]) :
    StepsCell deviceId calls t := by
  refine ⟨new, hEvents, ?_⟩
  rw [Store.presenceCell, Store.presenceCell, hNone]
  exact deleted_cellStep (fun presence hPresence => hBelow deviceId presence hPresence) hNew

theorem forgetDevice_stepsCell {beatId : Uuid} (hBelow : PresencesBelowMax calls) :
    Meets (forgetDevice env beatId : Handler C HeartbeatResponse)
      (fun _ => StepsCell deviceId calls) (fun _ => StepsCell deviceId calls)
      (after serve .start calls) := by
  simp only [forgetDevice, meets_bind, meets_modifyStore, meets_saveLocked, meets_throw]
  have hStep (file : Store C) : StepsCell deviceId calls
      { after serve .start calls with inner := (storeAfter calls).dropDevice beatId, file } := by
    by_cases hId : deviceId = beatId
    · refine .of_gone hBelow ?_ (List.append_nil _).symm (.inl rfl)
      rw [Store.dropDevice_presence, HashMap.get?_erase, if_pos hId]
    · refine .of_same ?_ rfl
      rw [Store.dropDevice_presence, HashMap.get?_erase, if_neg hId]
  exact ⟨fun _ => hStep _, fun _ _ => hStep _⟩

theorem recordHeartbeat_stepsCell {userId beatId : Uuid} {publicIp : String}
    {beat : HeartbeatRequest}
    (hTakes : Takes calls (env, .heartbeat headers publicIp beatId beat) beatId publicIp beat)
    (hKeeps : KeepsCount deviceId calls (env, .heartbeat headers publicIp beatId beat))
    (hBelow : PresencesBelowMax calls) :
    Meets (recordHeartbeat env userId beatId publicIp beat : Handler C HeartbeatResponse)
      (fun _ => StepsCell deviceId calls) (fun _ => StepsCell deviceId calls)
      (after serve .start calls) := by
  simp only [recordHeartbeat, meets_bind, meets_lock, meets_modifyStore, meets_saveLocked,
    meets_publishIf, meets_pure]
  by_cases hId : beatId = deviceId
  · subst hId
    have hStep {new : List ℕ} (file : Store C) (events : List (ServerEvent C))
        (hEvents : presenceNews beatId events = published beatId calls ++ new)
        (hNew : new = [] ∨
          (!((storeAfter calls).presence.get? beatId).any (·.repeats beat env.now)) = true ∧
            new = [(heartbeatVersion ((storeAfter calls).presence.get? beatId) beat
              env.now).toNat]) :
        StepsCell beatId calls
          { after serve .start calls with
            inner := (storeAfter calls).putPresence beatId
              (heartbeatPresence userId beatId publicIp beat env.now
                (heartbeatVersion ((storeAfter calls).presence.get? beatId) beat env.now))
            file, events } := by
      refine ⟨new, hEvents, ?_⟩
      rw [Store.presenceCell, Store.presenceCell, Store.putPresence_presence,
        HashMap.get?_insert_self]
      exact heartbeat_cellStep (fun presence => hKeeps.address publicIp beat presence hTakes)
        (hKeeps.first publicIp beat hTakes) (hBelow beatId) hNew
    refine ⟨fun _ => hStep _ _ (presenceNews_append _ _ _) ?_,
      fun _ _ => hStep _ _ (List.append_nil _).symm (.inl rfl)⟩
    rw [presenceNews_ite]
    split
    next h => exact .inr ⟨h.1, rfl⟩
    next => exact .inl rfl
  · have hPresence : ((storeAfter calls).putPresence beatId
        (heartbeatPresence userId beatId publicIp beat env.now
          (heartbeatVersion ((storeAfter calls).presence.get? beatId) beat
            env.now))).presence.get? deviceId = (storeAfter calls).presence.get? deviceId :=
      HashMap.get?_insert_ne (Ne.symm hId)
    refine ⟨fun _ => .of_same hPresence ?_, fun _ _ => .of_same hPresence rfl⟩
    rw [presenceNews_append, presenceNews_ite, if_neg fun h => hId h.2]
    exact List.append_nil _

/-- A heartbeat that is taken leaves a presence, and one that meets a tombstone leaves none. -/
theorem heartbeat_stepsCell {publicIp : String} {beatId : Uuid} {beat : HeartbeatRequest}
    (hKeeps : KeepsCount deviceId calls (env, .heartbeat headers publicIp beatId beat))
    (hBelow : PresencesBelowMax calls) :
    Meets (handle env (.heartbeat headers publicIp beatId beat))
      (fun _ => StepsCell deviceId calls) (fun _ => StepsCell deviceId calls)
      (after serve .start calls) := by
  simp only [handle, heartbeat, meets_bind, meets_ofExcept, meets_lock, meets_orRefuse,
    meets_refuseIf, not_not, Bool.not_eq_true, meets_pure]
  refine ⟨fun userId hUser => ⟨fun device hDevice => ⟨fun hOwner => ⟨fun hEnabled => ?_,
    fun _ => .of_same rfl rfl⟩, fun _ => .of_same rfl rfl⟩, fun _ => .of_same rfl rfl⟩,
    fun error _ => .of_same rfl rfl⟩
  split
  next hTombstone => exact forgetDevice_stepsCell hBelow
  next hTombstone =>
    exact recordHeartbeat_stepsCell ⟨headers, userId, device, rfl, hUser, hDevice, hOwner, hEnabled,
      eq_false_of_ne_true hTombstone⟩ hKeeps hBelow

theorem markDeviceOffline_stepsCell {offlineId : Uuid} (hBelow : PresencesBelowMax calls) :
    Meets (handle env (.markDeviceOffline headers offlineId))
      (fun _ => StepsCell deviceId calls) (fun _ => StepsCell deviceId calls)
      (after serve .start calls) := by
  simp only [handle, markDeviceOffline, meets_bind, meets_ofExcept, meets_lock, meets_orRefuse,
    meets_refuseIf, not_not, meets_pure]
  refine ⟨fun userId hUser => ⟨fun device hDevice => ⟨fun hOwner => ?_, fun _ => .of_same rfl rfl⟩,
    fun _ => .of_same rfl rfl⟩, fun error _ => .of_same rfl rfl⟩
  cases hPresence : (after serve .start calls).inner.presence.get? offlineId with
  | none => exact .of_same rfl rfl
  | some presence =>
    simp only [meets_bind, meets_modifyStore, meets_publishIf, meets_saveLocked, meets_pure]
    have hStep (file : Store C) : StepsCell deviceId calls
        { after serve .start calls with
          inner := (storeAfter calls).putPresence offlineId (presence.markedOffline env.now)
          file
          events := (after serve .start calls).events ++
            if presenceIsOnlineAt presence env.now then
              [.devicePresenceChanged userId offlineId false
                (presence.markedOffline env.now).presenceVersion]
            else [] } := by
      by_cases hId : offlineId = deviceId
      · subst hId
        refine ⟨_, presenceNews_append _ _ _, ?_⟩
        rw [Store.presenceCell, Store.presenceCell, Store.putPresence_presence,
          HashMap.get?_insert_self,
          show (storeAfter calls).presence.get? offlineId = _ from hPresence]
        refine markedOffline_cellStep (hBelow offlineId presence hPresence) ?_
        rw [presenceNews_ite]
        split
        next => exact .inr rfl
        next => exact .inl rfl
      · refine .of_same (HashMap.get?_insert_ne (Ne.symm hId)) ?_
        rw [presenceNews_append, presenceNews_ite, if_neg fun h => hId h.2]
        exact List.append_nil _
    exact ⟨fun _ => hStep _, fun _ _ => hStep _⟩

theorem deleteDevice_stepsCell {targetId : Uuid}
    (hKeeps : KeepsCount deviceId calls (env, .deleteDevice headers targetId))
    (hBelow : PresencesBelowMax calls) :
    Meets (handle env (.deleteDevice headers targetId))
      (fun _ => StepsCell deviceId calls) (fun _ => StepsCell deviceId calls)
      (after serve .start calls) := by
  simp only [handle, deleteDevice, meets_bind, meets_ofExcept, meets_lock, assertDeviceOwner_eq_ok,
    meets_modifyStore, meets_saveLocked, meets_publishEvents, meets_pure]
  refine ⟨fun userId hUser => ⟨fun _ hOwner => ?_, fun error _ => .of_same rfl rfl⟩,
    fun error _ => .of_same rfl rfl⟩
  have hPresence := withoutDevices_presence_get? deviceId (storeAfter calls) userId
    (deviceDeletionScope env (storeAfter calls) userId targetId)
    (deletedDevices env (storeAfter calls) userId targetId) env.now
  have hEvents := presenceNews_deletionEvents deviceId env (storeAfter calls) userId
    (deletedDevices env (storeAfter calls) userId targetId)
  by_cases hDeleted : ∃ device ∈ deletedDevices env (storeAfter calls) userId targetId,
      device.id = deviceId
  · rw [if_pos hDeleted] at hPresence hEvents
    refine ⟨fun hSave => .of_gone hBelow hPresence (presenceNews_append _ _ _) (.inr ⟨?_, hEvents⟩),
      fun _ _ => .of_gone hBelow hPresence (List.append_nil _).symm (.inl rfl)⟩
    obtain ⟨device, hMem, hId⟩ := hDeleted
    exact hKeeps.deletion userId device ⟨headers, targetId, rfl, hUser, hOwner, hMem⟩ hId hSave
  · rw [if_neg hDeleted] at hPresence hEvents
    refine ⟨fun _ => .of_same hPresence ?_, fun _ _ => .of_same hPresence rfl⟩
    calc presenceNews deviceId ((after serve .start calls).events ++
          deletionEvents env (storeAfter calls) userId
            (deletedDevices env (storeAfter calls) userId targetId))
        = published deviceId calls ++ [] := by rw [presenceNews_append, hEvents]; rfl
      _ = published deviceId calls := List.append_nil _

/-- The other requests leave the presences as they are. -/
theorem Effect.presence_eq {s t : Store C} {request : Request C}
    {answer : Except ApiError (Response C)} (hEffect : Effect env s request answer t)
    (hRequest : request.announces = false) : t.presence = s.presence := by
  cases hEffect with
  | deleted | forgotten | recorded | offline => contradiction
  | _ => rfl

theorem stepsCell_snoc {call : Call C} (hKeeps : KeepsCount deviceId calls call)
    (hBelow : PresencesBelowMax calls) :
    StepsCell deviceId calls (after serve .start (calls ++ [call])) := by
  rw [after_snoc]
  have hEffect := effect_snoc calls call
  obtain ⟨env, request⟩ := call
  cases request with
  | heartbeat => exact meets_stateAfter.mp (heartbeat_stepsCell hKeeps hBelow)
  | markDeviceOffline => exact meets_stateAfter.mp (markDeviceOffline_stepsCell hBelow)
  | deleteDevice => exact meets_stateAfter.mp (deleteDevice_stepsCell hKeeps hBelow)
  | _ =>
    refine .of_same ?_ ((handle_keepsNews _ rfl).stateAfter _)
    rw [← after_snoc]
    exact congrArg (·.get? deviceId) (hEffect.presence_eq rfl)

end Steps

section Runs

variable [UuidText] {calls : List (Call C)} {deviceId : Uuid}

theorem everPresent_nil : everPresent deviceId ([] : List (Call C)) = ∅ := by
  refine Set.eq_empty_iff_forall_notMem.mpr ?_
  rintro x ⟨before, hPrefix, hCell⟩
  rw [List.prefix_nil.mp hPrefix] at hCell
  contradiction

theorem everPresent_snoc (calls : List (Call C)) (call : Call C) :
    everPresent deviceId (calls ++ [call]) = {x | x ∈ everPresent deviceId calls ∨
      (storeAfter (calls ++ [call])).presenceCell deviceId = some x} := by
  ext x
  constructor
  · rintro ⟨before, hPrefix, hCell⟩
    rcases List.prefix_concat_iff.mp hPrefix with rfl | hBefore
    · exact .inr hCell
    · exact .inl ⟨before, hBefore, hCell⟩
  · rintro (⟨before, hBefore, hCell⟩ | hCell)
    · exact ⟨before, hBefore.trans (List.prefix_append _ _), hCell⟩
    · exact ⟨_, List.prefix_rfl, hCell⟩

/-- In every run that keeps count, versions name what a device has presented. -/
theorem faithful_storeAfter (hKeeps : Throughout (KeepsCount deviceId) calls)
    (hBelow : Throughout (fun before _ => PresencesBelowMax before) calls) :
    Faithful (everPresent deviceId calls) ((storeAfter calls).presenceCell deviceId)
      (published deviceId calls) := by
  induction calls using List.reverseRecOn with
  | nil =>
    rw [everPresent_nil]
    exact faithful_empty
  | append_singleton calls call ih =>
    obtain ⟨hBefore, hLast⟩ := throughout_snoc.mp hKeeps
    obtain ⟨hBelowBefore, hBelowLast⟩ := throughout_snoc.mp hBelow
    obtain ⟨new, hNews, hStep⟩ := stepsCell_snoc hLast hBelowLast
    rw [everPresent_snoc, published, hNews]
    exact (ih hBefore hBelowBefore).step hStep

/-- A request that is neither a heartbeat nor a deletion has nothing to count. -/
theorem keepsCount_of_quiet {call : Call C} (h : call.2.announces = false) :
    KeepsCount deviceId calls call := by
  have hTakes (publicIp : String) (beat : HeartbeatRequest) :
      ¬ Takes calls call deviceId publicIp beat := by
    rintro ⟨headers, userId, device, hRequest, -⟩
    rw [hRequest] at h
    contradiction
  constructor
  · exact fun publicIp beat presence hTaken => absurd hTaken (hTakes publicIp beat)
  · exact fun publicIp beat hTaken => absurd hTaken (hTakes publicIp beat)
  · rintro userId device ⟨headers, targetId, hRequest, -⟩
    rw [hRequest] at h
    contradiction

/-- A client is given a presence of the device in a list of devices. -/
def Listed (calls : List (Call C)) (deviceId : Uuid) (presence : Presence) : Prop :=
  ∃ before env headers later devices entry,
    calls = before ++ (env, .listDevices headers) :: later ∧
    answerAfter before (env, .listDevices headers) = .ok (.devices devices) ∧ entry ∈ devices ∧
    entry.device.id = deviceId ∧ entry.presence = some presence

theorem Listed.cell_mem {presence : Presence} (h : Listed calls deviceId presence) :
    presence.cell ∈ everPresent deviceId calls := by
  obtain ⟨before, env, headers, later, devices, entry, rfl, hAnswer, hMem, rfl, hPresence⟩ := h
  refine ⟨before, List.prefix_append _ _, ?_⟩
  have hMeets : Meets (handle env (.listDevices headers))
      (fun response _ => ∀ devices, response = .devices devices → ∀ entry ∈ devices,
        entry.presence = presenceForDeviceList
          ((storeAfter before).presence.get? entry.device.id) env.now)
      (fun _ _ => True) (after serve .start before) := by
    simp only [handle, listDevices, meets_bind, meets_ofExcept, meets_lock, meets_get, meets_pure]
    refine ⟨fun userId _ devices hDevices entry hMem => ?_, fun _ _ => trivial⟩
    rw [← Response.devices.inj hDevices] at hMem
    obtain ⟨device, -, rfl⟩ := List.mem_map.mp hMem
    rfl
  have hEntry := hMeets.of_answer hAnswer devices rfl entry hMem
  exact presenceForDeviceList_cell (hEntry.symm.trans hPresence)

/-- Versions of the presence of a device tell apart what a client is given, and those published
increase. -/
structure VersionsFaithful (calls : List (Call C)) (deviceId : Uuid) : Prop where
  listed : ∀ presence presence', Listed calls deviceId presence → Listed calls deviceId presence' →
    presence.presenceVersion = presence'.presenceVersion → presence.presented = presence'.presented
  increasing : (published deviceId calls).Pairwise (· < ·)

/-- The versions of a device are faithful in every run that counts what it changes of the device,
and does not count from the start again. -/
theorem versions_faithful (hBelow : Throughout (fun before _ => PresencesBelowMax before) calls)
    (hKeeps : Throughout (KeepsCount deviceId) calls) : VersionsFaithful calls deviceId := by
  have hFaithful := faithful_storeAfter hKeeps hBelow
  refine ⟨fun presence presence' hListed hListed' hVersion => ?_, hFaithful.increasing⟩
  exact hFaithful.agree _ hListed.cell_mem _ hListed'.cell_mem (congrArg UInt64.toNat hVersion)

end Runs

section Examples

def beatFrom (publicIp : String) (now : UInt64) : Call Unit :=
  (.usual now 0, .heartbeat ⟨none⟩ publicIp 10 ⟨["10.0.0.2"], 4000, none, none⟩)

def listing (now : UInt64) : Call Unit := (.usual now 0, .listDevices ⟨none⟩)

def erasure (now : UInt64) : Call Unit := (.usual now 0, .deleteDevice ⟨none⟩ 10)

/-- What is listed of the device after one heartbeat from an address. -/
def listedFrom (publicIp : String) (seen : UInt64) : DeviceWithPresence :=
  ⟨⟨10, defaultUserId, "desk", .client, "linux", "6", "1", "key a", false, 0, 0, 1, 1⟩,
    some (heartbeatPresence defaultUserId 10 publicIp ⟨["10.0.0.2"], 4000, none, none⟩ seen 1),
    false⟩

/-- The versions are small in every state that a run passes. -/
theorem presencesBelowMax_of_take [UuidText] {calls : List (Call C)}
    (h : ∀ n < calls.length, ∀ entry ∈ (storeAfter (calls.take n)).presence.entries,
      entry.2.presenceVersion.toNat < 2 ^ 64 - 1) :
    Throughout (fun before _ => PresencesBelowMax before) calls := by
  rintro before call later rfl deviceId presence hPresence
  have hLt : before.length < (before ++ call :: later).length := by
    rw [List.length_append, List.length_cons]
    omega
  have hEntries := h before.length hLt
  rw [List.take_left] at hEntries
  exact hEntries ⟨deviceId, presence⟩ (HashMap.get?_eq_some_iff.mp hPresence)

def deskCalls : List (Call Unit) := [registration 0 10 "key a"]

theorem versions_faithful_desk :
    @VersionsFaithful Unit .hyphenated
      [registration 0 10 "key a", beatFrom "5.5.5.5" 1, listing 2] 10 := by
  let text := UuidText.hyphenated
  have hNone : (storeAfter deskCalls).presence.get? 10 = none := by decide +kernel
  have hFirst : everPresent 10 deskCalls = ∅ := by
    rw [deskCalls, ← List.nil_append [_], everPresent_snoc, everPresent_nil]
    refine Set.eq_empty_iff_forall_notMem.mpr ?_
    rintro x (hMem | hCell)
    · exact hMem
    · rw [List.nil_append, Store.presenceCell, ← deskCalls, hNone] at hCell
      contradiction
  have hBeat : KeepsCount 10 deskCalls (beatFrom "5.5.5.5" 1) := by
    constructor
    · intro _ _ presence _ hPresence
      rw [hNone] at hPresence
      contradiction
    · exact fun _ _ _ _ => ⟨hFirst, by decide +kernel⟩
    · rintro _ _ ⟨_, _, hRequest, -⟩
      contradiction
  refine versions_faithful (presencesBelowMax_of_take (by decide +kernel)) ?_
  show Throughout (KeepsCount 10) (([] ++ [_] ++ [beatFrom "5.5.5.5" 1]) ++ [_])
  exact throughout_snoc.mpr ⟨throughout_snoc.mpr ⟨throughout_snoc.mpr ⟨throughout_nil,
    keepsCount_of_quiet rfl⟩, hBeat⟩, keepsCount_of_quiet rfl⟩

/-- The device moves to another public address. -/
def movedCalls : List (Call Unit) :=
  [registration 0 10 "key a", beatFrom "5.5.5.5" 1, listing 2, beatFrom "6.6.6.6" 3, listing 4]

/-- The device is deleted, and registered again. -/
def returnedCalls : List (Call Unit) :=
  [registration 0 10 "key a", beatFrom "5.5.5.5" 1, erasure 2, registration 3 10 "key a",
    beatFrom "5.5.5.5" 4]

/-- The device is deleted, registered again and deleted without a heartbeat. -/
def erasedCalls : List (Call Unit) :=
  [registration 0 10 "key a", beatFrom "5.5.5.5" 1, erasure 2, registration 3 10 "key a",
    erasure 4]

/-- A version is listed with two public addresses, and one is published again after a larger one. -/
theorem versions_not_faithful :
    (∀ calls ∈ [movedCalls, returnedCalls, erasedCalls],
      calls.Pairwise (fun call later => call.1.now ≤ later.1.now) ∧
        Throughout (fun before _ => @PresencesBelowMax Unit .hyphenated before) calls ∧
          ¬ @VersionsFaithful Unit .hyphenated calls 10) ∧
      @published Unit .hyphenated 10 movedCalls = [1] ∧
      @published Unit .hyphenated 10 returnedCalls = [1, 2, 1] ∧
      @published Unit .hyphenated 10 erasedCalls = [1, 2, 1] := by
  let text := UuidText.hyphenated
  have hReturned : published 10 returnedCalls = [1, 2, 1] := by decide +kernel
  have hErased : published 10 erasedCalls = [1, 2, 1] := by decide +kernel
  have hMoved : ¬ VersionsFaithful movedCalls 10 := by
    intro h
    have hAddress := h.listed _ _
      ⟨movedCalls.take 2, .usual 2 0, ⟨none⟩, movedCalls.drop 3, [listedFrom "5.5.5.5" 1], _, rfl,
        by decide +kernel, List.mem_cons_self, rfl, rfl⟩
      ⟨movedCalls.take 4, .usual 4 0, ⟨none⟩, [], [listedFrom "6.6.6.6" 3], _, rfl,
        by decide +kernel, List.mem_cons_self, rfl, rfl⟩ rfl
    exact absurd (congrArg Presented.publicIp hAddress) (by decide)
  have hRepeated {calls : List (Call Unit)} (hNews : published 10 calls = [1, 2, 1]) :
      ¬ VersionsFaithful calls 10 := by
    intro h
    have hIncreasing := h.increasing
    rw [hNews] at hIncreasing
    exact absurd hIncreasing (by decide)
  refine ⟨?_, by decide +kernel, hReturned, hErased⟩
  simp only [List.forall_mem_cons, List.not_mem_nil, IsEmpty.forall_iff, implies_true, and_true]
  exact ⟨⟨by decide, presencesBelowMax_of_take (by decide +kernel), hMoved⟩,
    ⟨by decide, presencesBelowMax_of_take (by decide +kernel), hRepeated hReturned⟩,
    ⟨by decide, presencesBelowMax_of_take (by decide +kernel), hRepeated hErased⟩⟩

end Examples

end Kmsync.Server
