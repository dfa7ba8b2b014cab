import Kmsync.Server.Tombstones

/-! What a request on behalf of one user does to the records of another.  All tables are shared, and
a deletion goes through the topologies and profiles of every user. -/

namespace Kmsync.Server

open ProofKit

variable {C : Type}

section Records

/-- The earlier profiles of a user under an id. -/
def Store.earlierProfiles (s : Store C) (userId : Uuid) (id : String) : List (DeviceProfile C) :=
  ((s.profileHistory.get? id).getD []).filter (·.userId = userId)

/-- Two stores have the same records of a user. -/
structure SameRecords (userId : Uuid) (s t : Store C) : Prop where
  devices : HashMap.AgreesOn (fun _ device => device.userId = userId) s.devices t.devices
  presence : HashMap.AgreesOn (fun _ presence => presence.userId = userId) s.presence t.presence
  topologies : HashMap.AgreesOn (fun ownerId _ => ownerId = userId) s.topologies t.topologies
  profiles : HashMap.AgreesOn (fun _ profile => profile.userId = userId) s.profiles t.profiles
  history : ∀ id, t.earlierProfiles userId id = s.earlierProfiles userId id
  deletedDeviceKeys :
    HashMap.AgreesOn (fun key _ => key.userId = userId) s.deletedDeviceKeys t.deletedDeviceKeys
  deletedPresentedDevices : HashMap.AgreesOn (fun key _ => key.userId = userId)
    s.deletedPresentedDevices t.deletedPresentedDevices
  signalSessions :
    HashMap.AgreesOn (fun _ session => session.userId = userId) s.signalSessions t.signalSessions

/-- A topology or a profile of the user names the device. -/
def Store.namesFor (s : Store C) (userId deviceId : Uuid) : Prop :=
  (∃ topology, s.topologies.get? userId = some topology ∧ deviceId ∈ topology.deviceIds) ∨
    ∃ id profile, s.profiles.get? id = some profile ∧ profile.userId = userId ∧
      (profile.sourceDeviceId = deviceId ∨ profile.targetDeviceId = deviceId)

/-- A topology that names no deleted device is left as it is. -/
theorem Topology.cleared_eq_self {deletedDeviceIds : HashSet Uuid} {now : UInt64}
    {topology : Topology} (h : ∀ deviceId ∈ topology.deviceIds, deviceId ∉ deletedDeviceIds) :
    topology.cleared deletedDeviceIds now = topology := by
  have hSlot {slot : Option Uuid} (hNamed : ∀ deviceId, slot = some deviceId →
      deviceId ∈ topology.deviceIds) : clearDeletedLayoutSlot deletedDeviceIds slot = slot := by
    cases slot with
    | none => rfl
    | some deviceId =>
      refine if_neg ?_
      simpa using h deviceId (hNamed deviceId rfl)
  have hNone : topology.deviceIds.any (· ∈ deletedDeviceIds) = false := by
    simpa using h
  simp only [mem_deviceIds] at hSlot
  rw [Topology.cleared, hNone, TopologyLayout.cleared, hSlot fun _ hEq => .inl hEq,
    hSlot fun _ hEq => .inr (.inl hEq), hSlot fun _ hEq => .inr (.inr (.inl hEq)),
    hSlot fun _ hEq => .inr (.inr (.inr (.inl hEq))),
    hSlot fun _ hEq => .inr (.inr (.inr (.inr hEq)))]
  rfl

namespace SameRecords

variable {s t r : Store C} {userId ownerId deviceId : Uuid}

theorem refl (userId : Uuid) (s : Store C) : SameRecords userId s s :=
  ⟨.rfl, .rfl, .rfl, .rfl, fun _ => rfl, .rfl, .rfl, .rfl⟩

theorem trans (h : SameRecords userId s t) (h' : SameRecords userId t r) :
    SameRecords userId s r where
  devices := h.devices.trans h'.devices
  presence := h.presence.trans h'.presence
  topologies := h.topologies.trans h'.topologies
  profiles := h.profiles.trans h'.profiles
  history id := (h'.history id).trans (h.history id)
  deletedDeviceKeys := h.deletedDeviceKeys.trans h'.deletedDeviceKeys
  deletedPresentedDevices := h.deletedPresentedDevices.trans h'.deletedPresentedDevices
  signalSessions := h.signalSessions.trans h'.signalSessions

theorem putDevice {device : Device}
    (hOld : ∀ before, s.devices.get? deviceId = some before → before.userId ≠ userId)
    (hNew : device.userId ≠ userId) : SameRecords userId s (s.putDevice deviceId device) :=
  { refl userId s with devices := HashMap.agreesOn_insert hOld hNew }

theorem putPresence {presence : Presence}
    (hOld : ∀ before, s.presence.get? deviceId = some before → before.userId ≠ userId)
    (hNew : presence.userId ≠ userId) : SameRecords userId s (s.putPresence deviceId presence) :=
  { refl userId s with presence := HashMap.agreesOn_insert hOld hNew }

theorem putTopology {topology : Topology} (hNe : ownerId ≠ userId) :
    SameRecords userId s (s.putTopology ownerId topology) :=
  { refl userId s with topologies := HashMap.agreesOn_insert (fun _ _ => hNe) hNe }

theorem putSignalSession {sessionId : Uuid} {session : SignalSession}
    (hOld : ∀ before, s.signalSessions.get? sessionId = some before → before.userId ≠ userId)
    (hNew : session.userId ≠ userId) :
    SameRecords userId s (s.putSignalSession sessionId session) :=
  { refl userId s with signalSessions := HashMap.agreesOn_insert hOld hNew }

theorem dropDevice
    (hDevice : ∀ before, s.devices.get? deviceId = some before → before.userId ≠ userId)
    (hPresence : ∀ before, s.presence.get? deviceId = some before → before.userId ≠ userId) :
    SameRecords userId s (s.dropDevice deviceId) :=
  { refl userId s with
    devices := HashMap.agreesOn_erase hDevice
    presence := HashMap.agreesOn_erase hPresence }

/-- A registration gives up deleted keys and tombstones of its user only. -/
theorem clearDeleted {request : RegisterDeviceRequest} {decision : DeletedDeviceKeyDecision}
    (hNe : ownerId ≠ userId) :
    SameRecords userId s (s.clearDeleted ownerId deviceId request decision) :=
  { refl userId s with
    deletedDeviceKeys := by
      refine HashMap.agreesOn_retain fun key _ _ hUser => ?_
      simp [DeletedDeviceKey.clearedBy, hUser, hNe.symm]
    deletedPresentedDevices := by
      rw [Store.clearDeleted_deletedPresentedDevices]
      split
      next =>
        refine HashMap.agreesOn_retain fun key _ _ hUser => ?_
        simp [DeletedPresentedDeviceKey.isUnder, hUser, hNe.symm]
      next => exact .rfl }

/-- A profile goes to the history when another takes its place. -/
theorem writeProfile {id : String} {profile : DeviceProfile C}
    (hOld : ∀ before, s.profiles.get? id = some before → before.userId ≠ userId)
    (hNew : profile.userId ≠ userId) : SameRecords userId s (s.writeProfile id profile) :=
  { refl userId s with
    profiles := HashMap.agreesOn_insert hOld hNew
    history := by
      intro foundId
      rw [Store.earlierProfiles, Store.earlierProfiles, Store.writeProfile_profileHistory]
      cases hExisting : s.profiles.get? id with
      | none => rfl
      | some existing =>
        simp only [HashMap.get?_insert]
        split
        next hEq =>
          subst hEq
          simp [List.filter_append, hOld existing hExisting]
        next => rfl }

/-- A deletion takes away what names a deleted device, whoever it belongs to. -/
theorem withoutDevices {scope : DeviceDeletionScope} {deleted : List Device} {now : UInt64}
    (hNe : ownerId ≠ userId)
    (hPresence : ∀ deviceId presence, s.presence.get? deviceId = some presence →
      s.owns presence.userId deviceId)
    (hOwned : ∀ device ∈ deleted, s.devices.get? device.id = some device ∧ device.userId = ownerId)
    (hFree : ∀ device ∈ deleted, ¬ s.namesFor userId device.id) :
    SameRecords userId s (s.withoutDevices ownerId scope deleted now) := by
  have hForeign {deviceId : Uuid} {device : Device} (hGet : s.devices.get? deviceId = some device)
      (hUser : device.userId = userId) : deviceId ∉ deleted.map (·.id) := by
    rintro hMem
    obtain ⟨removed, hRemoved, rfl⟩ := List.mem_map.mp hMem
    obtain ⟨hGet', hOwner⟩ := hOwned removed hRemoved
    obtain rfl := Option.some.inj (hGet.symm.trans hGet')
    exact hNe (hOwner.symm.trans hUser)
  have hUnnamed {deviceId : Uuid} (hNames : s.namesFor userId deviceId) :
      deviceId ∉ deleted.map (·.id) := by
    intro hMem
    obtain ⟨removed, hRemoved, rfl⟩ := List.mem_map.mp hMem
    exact hFree removed hRemoved hNames
  exact
    { devices := HashMap.agreesOn_retain fun deviceId device hGet hUser => by
        simpa using hForeign hGet hUser
      presence := HashMap.agreesOn_retain fun deviceId presence hGet hUser => by
        obtain ⟨device, hDevice, hOwner⟩ := hPresence deviceId presence hGet
        simpa using hForeign hDevice (hOwner.trans hUser)
      topologies := HashMap.agreesOn_mapValues fun ownerId topology hGet hUser => by
        subst hUser
        refine Topology.cleared_eq_self fun deviceId hMem => ?_
        simpa using hUnnamed (.inl ⟨topology, hGet, hMem⟩)
      profiles := HashMap.agreesOn_retain fun id profile hGet hUser => by
        refine decide_eq_true ⟨?_, ?_⟩
        · simpa using hUnnamed (.inr ⟨id, profile, hGet, hUser, .inl rfl⟩)
        · simpa using hUnnamed (.inr ⟨id, profile, hGet, hUser, .inr rfl⟩)
      history := fun _ => rfl
      deletedDeviceKeys := HashSet.agreesOn_insertAll fun key hMem => by
        obtain ⟨device, -, rfl⟩ := List.mem_map.mp hMem
        exact hNe
      deletedPresentedDevices := HashSet.agreesOn_insertAll fun key hMem => by
        obtain ⟨device, -, hKey⟩ := List.mem_flatMap.mp hMem
        rw [userId_of_mem_presentedTombstones hKey]
        exact hNe
      signalSessions := .rfl }

end SameRecords

end Records

section Placed

variable [UuidText]

/-- Presences are under ids of devices of their user, and profiles under ids of their user. -/
structure Placed (s : Store C) : Prop where
  presence : ∀ deviceId presence, s.presence.get? deviceId = some presence →
    s.owns presence.userId deviceId
  profile : ∀ id profile, s.profiles.get? id = some profile →
    ∃ sourceId targetId, id = profileId profile.userId sourceId targetId

namespace Placed

variable {s t : Store C}

theorem mono (h : Placed s)
    (hPresence : ∀ deviceId presence, t.presence.get? deviceId = some presence →
      s.presence.get? deviceId = some presence ∧
        (s.owns presence.userId deviceId → t.owns presence.userId deviceId) ∨
      t.owns presence.userId deviceId)
    (hProfile : ∀ id profile, t.profiles.get? id = some profile →
      s.profiles.get? id = some profile ∨
        ∃ sourceId targetId, id = profileId profile.userId sourceId targetId) : Placed t where
  presence deviceId presence hGet :=
    (hPresence deviceId presence hGet).elim (fun hOld => hOld.2 (h.presence _ _ hOld.1)) id
  profile id profile hGet :=
    (hProfile id profile hGet).elim (h.profile id profile) fun hNew => hNew

theorem putDevice (h : Placed s) {deviceId : Uuid} {device : Device}
    (hSame : ∀ before, s.devices.get? deviceId = some before → device.userId = before.userId) :
    Placed (s.putDevice deviceId device) :=
  h.mono (fun _ _ hGet => .inl ⟨hGet, fun hOwns => hOwns.putDevice hSame⟩) fun _ _ => .inl

theorem replaceDevice (h : Placed s) {deviceId : Uuid} {before device : Device}
    (hDevice : s.devices.get? deviceId = some before) (hSame : device.userId = before.userId) :
    Placed (s.putDevice deviceId device) := by
  refine h.putDevice fun found hGet => ?_
  obtain rfl := Option.some.inj (hDevice.symm.trans hGet)
  exact hSame

theorem clearDeleted (h : Placed s) (userId deviceId : Uuid) (request : RegisterDeviceRequest)
    (decision : DeletedDeviceKeyDecision) :
    Placed (s.clearDeleted userId deviceId request decision) :=
  ⟨h.presence, h.profile⟩

theorem putPresence (h : Placed s) {deviceId : Uuid} {presence : Presence}
    (hOwns : s.owns presence.userId deviceId) : Placed (s.putPresence deviceId presence) := by
  refine h.mono (fun presentId present hGet => ?_) fun _ _ => .inl
  rcases HashMap.get?_insert_cases hGet with ⟨rfl, rfl⟩ | hOld
  · exact .inr hOwns
  · exact .inl ⟨hOld, id⟩

theorem writeProfile (h : Placed s) {writtenId : String} {profile : DeviceProfile C}
    (hId : ∃ sourceId targetId, writtenId = profileId profile.userId sourceId targetId) :
    Placed (s.writeProfile writtenId profile) := by
  refine h.mono (fun _ _ hGet => .inl ⟨hGet, id⟩) fun id found hGet => ?_
  rcases HashMap.get?_insert_cases hGet with ⟨rfl, rfl⟩ | hOld
  · exact .inr hId
  · exact .inl hOld

theorem effect {env : Surroundings} {request : Request C}
    {answer : Except ApiError (Response C)} (h : Placed s)
    (hEffect : Effect env s request answer t) : Placed t := by
  cases hEffect with
  | added hUser hName hUnblocked hId hNew =>
    exact (h.putDevice fun _ hGet => nomatch hNew.symm.trans hGet).clearDeleted _ _ _ _
  | refreshed hUser hUnblocked hId hDevice =>
    refine Placed.clearDeleted ?_ _ _ _ _
    exact h.replaceDevice hDevice rfl
  | updated hUser hDevice => exact h.replaceDevice hDevice rfl
  | reauthorized hUser hKey hDevice => exact h.replaceDevice hDevice rfl
  | deleted =>
    refine h.mono (fun deviceId presence hGet => ?_) fun id profile hGet => ?_
    · rw [Store.withoutDevices_presence, HashMap.get?_retain_eq_some_iff] at hGet
      exact .inl ⟨hGet.1, fun hOwns => hOwns.withoutDevices (by simpa using hGet.2)⟩
    · rw [Store.withoutDevices_profiles, HashMap.get?_retain_eq_some_iff] at hGet
      exact .inl hGet.1
  | forgotten =>
    refine h.mono (fun deviceId presence hGet => ?_) fun _ _ => .inl
    rw [Store.dropDevice_presence, HashMap.get?_erase, Option.ite_none_left_eq_some] at hGet
    exact .inl ⟨hGet.2, fun hOwns => hOwns.dropDevice hGet.1⟩
  | recorded hVersion hUser hDevice hOwner => exact h.putPresence ⟨_, hDevice, hOwner⟩
  | offline hUser hDevice hOwner hPresence =>
    have hOwns := h.presence _ _ hPresence
    exact h.putPresence hOwns
  | upserted => exact h.writeProfile ⟨_, _, rfl⟩
  | rolledBack hUser hCurrent =>
    have hId := h.profile _ _ hCurrent
    exact h.writeProfile hId
  | _ => exact ⟨h.presence, h.profile⟩

end Placed

theorem placed_storeAfter (calls : List (Call C)) : Placed (storeAfter calls) := by
  induction calls using List.reverseRecOn with
  | nil => exact ⟨nofun, nofun⟩
  | append_singleton calls call ih => exact ih.effect (effect_snoc calls call)

end Placed

section Tenants

variable [UuidText]

/-- A request on behalf of one user leaves the records of the others as they are. -/
def TenantsApart (calls : List (Call C)) : Prop :=
  Throughout (fun before call => ∀ ownerId userId,
    call.2.userId? (storeAfter before) = some ownerId → userId ≠ ownerId →
      SameRecords userId (storeAfter before) (storeAfter (before ++ [call]))) calls

/-- What a deletion removes is named by no topology and no profile of another user. -/
def SparesOthers (before : List (Call C)) (call : Call C) : Prop :=
  ∀ ownerId removed, Removes before call ownerId removed → ∀ userId, userId ≠ ownerId →
    ¬ (storeAfter before).namesFor userId removed.id

/-- A new signal session gets an id that no other has. -/
def FreshSession (before : List (Call C)) (call : Call C) : Prop :=
  ∀ headers sourceId targetId, call.2 = .signalConnectRequest headers sourceId targetId →
    (storeAfter before).signalSessions.get? (call.1.uuid 0) = none

variable {calls : List (Call C)} {call : Call C} {userId ownerId : Uuid}

theorem freshSession_snoc (h : Throughout FreshSession calls)
    (hNot : ∀ headers sourceId targetId,
      call.2 ≠ .signalConnectRequest headers sourceId targetId) :
    Throughout FreshSession (calls ++ [call]) :=
  throughout_snoc.mpr ⟨h, fun headers sourceId targetId hEq =>
    absurd hEq (hNot headers sourceId targetId)⟩

theorem sameRecords_snoc [LawfulUuidText] (hFresh : FreshSession calls call)
    (hSpares : SparesOthers calls call) (hUser : call.2.userId? (storeAfter calls) = some ownerId)
    (hNe : userId ≠ ownerId) :
    SameRecords userId (storeAfter calls) (storeAfter (calls ++ [call])) := by
  have hEffect := effect_snoc calls call
  have hPlaced := placed_storeAfter calls
  have hKeyed := keyed_storeAfter calls
  obtain ⟨env, request⟩ := call
  generalize storeAfter (calls ++ [(env, request)]) = t at hEffect ⊢
  generalize answerAfter calls (env, request) = answer at hEffect
  have hOwner {headers : Headers} {requesterId : Uuid} (hHeaders : request.headers? = some headers)
      (hAuthorized : authorizeOrDefault (storeAfter calls) headers = .ok requesterId) :
      requesterId ≠ userId := by
    rw [Request.userId?, hHeaders, Option.bind_some, hAuthorized] at hUser
    obtain rfl := Option.some.inj hUser
    exact hNe.symm
  have hDevices {deviceId : Uuid} {device before : Device}
      (hDevice : (storeAfter calls).devices.get? deviceId = some device)
      (hForeign : device.userId ≠ userId)
      (hGet : (storeAfter calls).devices.get? deviceId = some before) : before.userId ≠ userId := by
    obtain rfl := Option.some.inj (hDevice.symm.trans hGet)
    exact hForeign
  have hPresences {deviceId : Uuid} {device : Device} {before : Presence}
      (hDevice : (storeAfter calls).devices.get? deviceId = some device)
      (hForeign : device.userId ≠ userId)
      (hGet : (storeAfter calls).presence.get? deviceId = some before) :
      before.userId ≠ userId := by
    obtain ⟨found, hFound, hUser'⟩ := hPlaced.presence deviceId before hGet
    exact hUser' ▸ hDevices hDevice hForeign hFound
  cases hEffect with
  | added hAuthorized hName hUnblocked hId hNew =>
    have hForeign := hOwner rfl hAuthorized
    exact (SameRecords.putDevice (fun _ hGet => nomatch hNew.symm.trans hGet) hForeign).trans
      (.clearDeleted hForeign)
  | refreshed hAuthorized hUnblocked hId hDevice hOwned =>
    have hForeign := hOwner rfl hAuthorized
    rw [← hOwned] at hForeign
    refine .trans (.putDevice (fun _ => hDevices hDevice hForeign) ?_)
      (.clearDeleted (hOwner rfl hAuthorized))
    exact hForeign
  | updated hAuthorized hDevice hOwned =>
    have hForeign := hOwner rfl hAuthorized
    rw [← hOwned] at hForeign
    exact .putDevice (fun _ => hDevices hDevice hForeign) hForeign
  | reauthorized hAuthorized hKey hDevice hOwned =>
    have hForeign := hOwner rfl hAuthorized
    rw [← hOwned] at hForeign
    exact .putDevice (fun _ => hDevices hDevice hForeign) hForeign
  | @deleted headers deviceId requesterId _ hAuthorized hOwns =>
    have hForeign := hOwner rfl hAuthorized
    refine .withoutDevices hForeign hPlaced.presence
      (fun removed => mem_deletedDevices_owned hKeyed hOwns) fun removed hMem => ?_
    exact hSpares requesterId removed ⟨headers, deviceId, rfl, hAuthorized, hOwns, hMem⟩ userId
      hForeign.symm
  | forgotten hAuthorized hDevice hOwned =>
    have hForeign := hOwner rfl hAuthorized
    rw [← hOwned] at hForeign
    exact .dropDevice (fun _ => hDevices hDevice hForeign) fun _ => hPresences hDevice hForeign
  | recorded hVersion hAuthorized hDevice hOwned =>
    have hForeign := hOwner rfl hAuthorized
    refine .putPresence (fun _ => hPresences hDevice ?_) hForeign
    rwa [hOwned]
  | offline hAuthorized hDevice hOwned hPresence =>
    have hForeign := hOwner rfl hAuthorized
    rw [← hOwned] at hForeign
    have hPresent := hPresences hDevice hForeign hPresence
    exact .putPresence (fun _ => hPresences hDevice hForeign) hPresent
  | topology hAuthorized => exact .putTopology (hOwner rfl hAuthorized)
  | upserted hAuthorized =>
    have hForeign := hOwner rfl hAuthorized
    refine .writeProfile (fun before hGet => ?_) hForeign
    -- The id of a profile tells its user.
    obtain ⟨sourceId, targetId, hId⟩ := hPlaced.profile _ before hGet
    obtain ⟨hSame, -⟩ := profileId_inj.mp hId
    exact hSame ▸ hForeign
  | rolledBack hAuthorized hCurrent hOwned =>
    have hForeign := hOwner rfl hAuthorized
    rw [← hOwned] at hForeign
    refine .writeProfile (fun before hGet => ?_) hForeign
    obtain rfl := Option.some.inj (hCurrent.symm.trans hGet)
    exact hForeign
  | connected hAuthorized hSession =>
    have hForeign := hOwner rfl hAuthorized
    rw [← hSession] at hForeign
    have hNew := hFresh _ _ _ rfl
    exact .putSignalSession (fun _ hGet => nomatch hNew.symm.trans hGet) hForeign
  | signalled hRequest hAuthorized hSession hOwned hOwned' =>
    have hForeign := hOwner (headers?_of_changedSession? hRequest) hAuthorized
    refine .putSignalSession (fun before hGet => ?_) (hOwned' ▸ hForeign)
    obtain rfl := Option.some.inj (hSession.symm.trans hGet)
    exact hOwned ▸ hForeign
  | account => exact ⟨.rfl, .rfl, .rfl, .rfl, fun _ => rfl, .rfl, .rfl, .rfl⟩
  | _ => exact .refl userId _

/-- A deletion changes what another user has if a topology or a profile there names what is removed.
-/
theorem not_sameRecords {removed : Device} (hRemoves : Removes calls call ownerId removed)
    (hNames : (storeAfter calls).namesFor userId removed.id) :
    ¬ SameRecords userId (storeAfter calls) (storeAfter (calls ++ [call])) := by
  obtain ⟨scope, deleted, hMem, -, hStore⟩ := hRemoves.exists_store_eq
  have hDeleted : removed.id ∈ HashSet.insertAll ∅ (deleted.map (·.id)) :=
    HashSet.mem_insertAll.mpr (.inl (List.mem_map_of_mem hMem))
  rw [hStore]
  intro hSame
  rcases hNames with ⟨topology, hGet, hNamed⟩ | ⟨id, profile, hGet, hUser, hNamed⟩
  · have hAfter := (hSame.topologies userId topology rfl).mpr hGet
    rw [Store.withoutDevices_topologies, HashMap.get?_mapValues_eq_some_iff] at hAfter
    obtain ⟨before, -, rfl⟩ := hAfter
    exact (mem_deviceIds_cleared.mp hNamed).2 hDeleted
  · have hAfter := (hSame.profiles id profile hUser).mpr hGet
    rw [Store.withoutDevices_profiles, HashMap.get?_retain_eq_some_iff] at hAfter
    have hKept := of_decide_eq_true hAfter.2
    rcases hNamed with hSource | hTarget
    · exact hKept.1 (hSource ▸ hDeleted)
    · exact hKept.2 (hTarget ▸ hDeleted)

/-- The requests of a run leave the other users alone exactly if no deletion removes what a topology
or a profile of another user names. -/
theorem tenants_apart_iff [LawfulUuidText] (hFresh : Throughout FreshSession calls) :
    TenantsApart calls ↔ Throughout SparesOthers calls := by
  constructor
  · intro h before call later hSplit ownerId removed hRemoves userId hNe hNames
    have hUser : call.2.userId? (storeAfter before) = some ownerId := by
      obtain ⟨headers, targetId, hRequest, hAuthorized, -⟩ := hRemoves
      rw [Request.userId?, hRequest, Request.headers?, Option.bind_some, hAuthorized]
      rfl
    exact not_sameRecords hRemoves hNames (h before call later hSplit ownerId userId hUser hNe)
  · intro h before call later hSplit ownerId userId hUser hNe
    exact sameRecords_snoc (hFresh before call later hSplit) (h before call later hSplit) hUser hNe

/-- In a run in which no heartbeat strands a topology or a profile, all requests leave the other
users alone. -/
theorem sparesOthers_of_keepsNamed (h : Throughout KeepsNamed calls) :
    Throughout SparesOthers calls := by
  intro before call later hSplit ownerId removed hRemoves userId hNe hNames
  have hReferences := (references_iff before).mpr (hSplit ▸ h).of_append before List.prefix_rfl
  have hOwns : (storeAfter before).owns userId removed.id := by
    rcases hNames with ⟨topology, hGet, hMem⟩ | ⟨id, profile, hGet, rfl, hSource | hTarget⟩
    · exact hReferences.topology userId topology hGet removed.id hMem
    · exact hSource ▸ (hReferences.profile id profile hGet).1
    · exact hTarget ▸ (hReferences.profile id profile hGet).2
  obtain ⟨-, deleted, hMem, hOwned, -⟩ := hRemoves.exists_store_eq
  obtain ⟨device, hGet, hUser⟩ := hOwns
  obtain ⟨hGet', hOwner⟩ := hOwned removed hMem
  obtain rfl := Option.some.inj (hGet.symm.trans hGet')
  exact hNe (hUser.symm.trans hOwner)

end Tenants

section Guest

/-- The guest registers the device that a heartbeat has stranded. -/
def guestCalls : List (Call Unit) :=
  [(.usual 6 100, .startEmailLogin "guest@kmsync"),
    (.usual 7 100, .verifyEmailLogin "guest@kmsync" "00000000"),
    (.usual 8 0, .registerDevice guestHeaders ⟨some 11, "desk", none, "linux", "6", "1", "key c"⟩)]

def guestDeletion : Call Unit := (.usual 9 0, .deleteDevice guestHeaders 11)

/-- The guest deletes the device, and the topology of the first user loses its master. -/
theorem not_tenantsApart :
    ¬ ∀ calls : List (Call Unit), @Throughout _ (@FreshSession Unit .hyphenated) calls →
      @TenantsApart Unit .hyphenated calls := by
  let text := UuidText.hyphenated
  intro h
  have hFresh : Throughout FreshSession (strandingCalls ++ guestCalls ++ [guestDeletion]) := by
    rintro before call later hSplit headers sourceId targetId hRequest
    have hMem : call ∈ strandingCalls ++ guestCalls ++ [guestDeletion] := by
      rw [hSplit]
      exact List.mem_append_right before List.mem_cons_self
    have hNone : ∀ call ∈ strandingCalls ++ guestCalls ++ [guestDeletion],
        ∀ headers sourceId targetId,
          call.2 ≠ .signalConnectRequest headers sourceId targetId := by
      simp [strandingCalls, guestCalls, guestDeletion]
    exact absurd hRequest (hNone call hMem headers sourceId targetId)
  have hUser : guestDeletion.2.userId? (storeAfter (strandingCalls ++ guestCalls)) = some 100 := by
    decide +kernel
  have hBefore : (storeAfter (strandingCalls ++ guestCalls)).topologies.get? defaultUserId =
      some ⟨defaultUserId, some 11, .default, 1, 2⟩ := by decide +kernel
  have hAfter : (storeAfter (strandingCalls ++ guestCalls ++ [guestDeletion])).topologies.get?
      defaultUserId = some ⟨defaultUserId, none, .default, 2, 9⟩ := by decide +kernel
  have hSame := h _ hFresh (strandingCalls ++ guestCalls) guestDeletion [] rfl 100 defaultUserId
    hUser (by decide)
  have hKept := (hSame.topologies defaultUserId _ rfl).mpr hBefore
  rw [hAfter] at hKept
  exact absurd hKept (by decide)

/-- Two devices connect. -/
def connectingCalls : List (Call Unit) :=
  [registration 0 10 "key a", registration 1 11 "key b",
    (.usual 2 77, .signalConnectRequest ⟨none⟩ 10 11)]

theorem fresh_connecting : Throughout (@FreshSession Unit .hyphenated) connectingCalls := by
  let text := UuidText.hyphenated
  refine throughout_snoc.mpr ⟨freshSession_snoc (freshSession_snoc throughout_nil ?_) ?_, ?_⟩
  · exact nofun
  · exact nofun
  · intro _ _ _ _
    decide +kernel

theorem tenants_apart_connecting :
    @TenantsApart Unit .hyphenated connectingCalls ↔
      Throughout (@SparesOthers Unit .hyphenated) connectingCalls := by
  let text := UuidText.hyphenated
  have lawful := lawful_hyphenated
  exact tenants_apart_iff fresh_connecting

end Guest

end Kmsync.Server
