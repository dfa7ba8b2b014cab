import Kmsync.Server.Effects
import Kmsync.Server.UuidText

/-! The devices that the tables of the store name.  A presence, a topology and a profile name
devices of their user that are registered, unless a heartbeat has deleted one of them. -/

namespace Kmsync.Server

open ProofKit

variable {C : Type}

structure References (s : Store C) : Prop where
  presence : ∀ deviceId presence, s.presence.get? deviceId = some presence →
    s.owns presence.userId deviceId
  topology : ∀ userId topology, s.topologies.get? userId = some topology →
    ∀ deviceId ∈ topology.deviceIds, s.owns userId deviceId
  profile : ∀ id profile, s.profiles.get? id = some profile →
    s.owns profile.userId profile.sourceDeviceId ∧ s.owns profile.userId profile.targetDeviceId

/-- A topology or a profile names the device. -/
def Store.names (s : Store C) (deviceId : Uuid) : Prop :=
  (∃ userId topology, s.topologies.get? userId = some topology ∧ deviceId ∈ topology.deviceIds) ∨
    ∃ id profile, s.profiles.get? id = some profile ∧
      (profile.sourceDeviceId = deviceId ∨ profile.targetDeviceId = deviceId)

/-- The device that a request deletes because it is a heartbeat that meets a tombstone. -/
def Request.forgotten? (request : Request C) (s : Store C) : Option Uuid :=
  match request with
  | .heartbeat headers publicIp deviceId request =>
    match authorizeOrDefault s headers, s.devices.get? deviceId with
    | .ok userId, some device =>
      if device.userId = userId ∧ device.disabled = false ∧
          meetsTombstone s userId device publicIp request then some deviceId
      else none
    | _, _ => none
  | _ => none

section Owners

variable {s : Store C} {userId deviceId : Uuid}

/-- A device that is put has the owner of the one before it. -/
theorem Store.owns.putDevice {changedId : Uuid} {changed : Device} (h : s.owns userId deviceId)
    (hSame : ∀ device, s.devices.get? changedId = some device → changed.userId = device.userId) :
    (s.putDevice changedId changed).owns userId deviceId := by
  obtain ⟨device, hDevice, hUser⟩ := h
  rw [Store.owns, Store.putDevice_devices]
  by_cases hEq : deviceId = changedId
  · subst hEq
    exact ⟨changed, HashMap.get?_insert_self, (hSame device hDevice).trans hUser⟩
  · exact ⟨device, (HashMap.get?_insert_ne hEq).trans hDevice, hUser⟩

theorem Store.owns.dropDevice {dropped : Uuid} (h : s.owns userId deviceId)
    (hNe : deviceId ≠ dropped) : (s.dropDevice dropped).owns userId deviceId := by
  obtain ⟨device, hDevice, hUser⟩ := h
  refine ⟨device, ?_, hUser⟩
  rw [Store.dropDevice_devices, HashMap.get?_erase, if_neg hNe]
  exact hDevice

theorem not_owns_dropDevice : ¬ (s.dropDevice deviceId).owns userId deviceId := by
  rintro ⟨device, hDevice, -⟩
  rw [Store.dropDevice_devices, HashMap.get?_erase, if_pos rfl] at hDevice
  contradiction

theorem Store.owns.withoutDevices {ownerId : Uuid} {scope : DeviceDeletionScope}
    {deleted : List Device} {now : UInt64} (h : s.owns userId deviceId)
    (hKept : deviceId ∉ deleted.map (·.id)) :
    (s.withoutDevices ownerId scope deleted now).owns userId deviceId := by
  obtain ⟨device, hDevice, hUser⟩ := h
  refine ⟨device, ?_, hUser⟩
  rw [Store.withoutDevices_devices, HashMap.get?_retain_eq_some_iff]
  refine ⟨hDevice, ?_⟩
  simpa using hKept

end Owners

section Cleared

variable {deletedDeviceIds : HashSet Uuid} {deviceId : Uuid}

theorem clearDeletedLayoutSlot_eq_some {slot : Option Uuid} :
    clearDeletedLayoutSlot deletedDeviceIds slot = some deviceId ↔
      slot = some deviceId ∧ deviceId ∉ deletedDeviceIds := by
  cases slot with
  | none => simp [clearDeletedLayoutSlot]
  | some slotId =>
    rw [clearDeletedLayoutSlot]
    split
    next hDeleted =>
      simp only [Option.any_some, decide_eq_true_eq] at hDeleted
      refine iff_of_false nofun ?_
      rintro ⟨hEq, hKept⟩
      exact hKept (Option.some.inj hEq ▸ hDeleted)
    next hKept =>
      simp only [Option.any_some, decide_eq_true_eq] at hKept
      refine ⟨fun hEq => ⟨hEq, Option.some.inj hEq ▸ hKept⟩, fun h => h.1⟩

theorem mem_deviceIds {topology : Topology} :
    deviceId ∈ topology.deviceIds ↔ topology.masterDeviceId = some deviceId ∨
      topology.layout.left = some deviceId ∨ topology.layout.right = some deviceId ∨
      topology.layout.top = some deviceId ∨ topology.layout.bottom = some deviceId := by
  simp [Topology.deviceIds, TopologyLayout.deviceIds, eq_comm]

theorem mem_deviceIds_cleared {topology : Topology} {now : UInt64} :
    deviceId ∈ (topology.cleared deletedDeviceIds now).deviceIds ↔
      deviceId ∈ topology.deviceIds ∧ deviceId ∉ deletedDeviceIds := by
  simp only [mem_deviceIds, Topology.cleared, TopologyLayout.cleared,
    clearDeletedLayoutSlot_eq_some]
  tauto

end Cleared

namespace References

variable {s t : Store C}

theorem empty : References (.empty : Store C) where
  presence _ _ h := nomatch h
  topology _ _ h := nomatch h
  profile _ _ h := nomatch h

/-- Owners stay, and what is new in the tables names devices of its user. -/
theorem mono (h : References s) (hOwns : ∀ userId deviceId, s.owns userId deviceId →
      t.owns userId deviceId)
    (hPresence : ∀ deviceId presence, t.presence.get? deviceId = some presence →
      s.presence.get? deviceId = some presence ∨ t.owns presence.userId deviceId)
    (hTopology : ∀ userId topology, t.topologies.get? userId = some topology →
      s.topologies.get? userId = some topology ∨
        ∀ deviceId ∈ topology.deviceIds, t.owns userId deviceId)
    (hProfile : ∀ id profile, t.profiles.get? id = some profile →
      s.profiles.get? id = some profile ∨
        t.owns profile.userId profile.sourceDeviceId ∧
          t.owns profile.userId profile.targetDeviceId) : References t where
  presence deviceId presence hGet :=
    (hPresence deviceId presence hGet).elim
      (fun hOld => hOwns _ _ (h.presence deviceId presence hOld)) id
  topology userId topology hGet :=
    (hTopology userId topology hGet).elim
      (fun hOld deviceId hMem => hOwns _ _ (h.topology userId topology hOld deviceId hMem)) id
  profile id profile hGet :=
    (hProfile id profile hGet).elim
      (fun hOld => ⟨hOwns _ _ (h.profile id profile hOld).1,
        hOwns _ _ (h.profile id profile hOld).2⟩) fun hNew => hNew

/-- Only devices are changed, and each keeps its owner. -/
theorem putDevice (h : References s) {deviceId : Uuid} {device : Device}
    (hSame : ∀ before, s.devices.get? deviceId = some before → device.userId = before.userId) :
    References (s.putDevice deviceId device) :=
  h.mono (fun _ _ hOwns => hOwns.putDevice hSame) (fun _ _ hGet => .inl hGet)
    (fun _ _ hGet => .inl hGet) fun _ _ hGet => .inl hGet

theorem replaceDevice (h : References s) {deviceId : Uuid} {before device : Device}
    (hDevice : s.devices.get? deviceId = some before) (hSame : device.userId = before.userId) :
    References (s.putDevice deviceId device) := by
  refine h.putDevice fun found hGet => ?_
  obtain rfl := Option.some.inj (hDevice.symm.trans hGet)
  exact hSame

theorem clearDeleted (h : References s) (userId deviceId : Uuid) (request : RegisterDeviceRequest)
    (decision : DeletedDeviceKeyDecision) :
    References (s.clearDeleted userId deviceId request decision) :=
  ⟨h.presence, h.topology, h.profile⟩

theorem putPresence (h : References s) {deviceId : Uuid} {presence : Presence}
    (hOwns : s.owns presence.userId deviceId) : References (s.putPresence deviceId presence) := by
  refine h.mono (fun _ _ hOwns => hOwns) (fun presentId present hGet => ?_)
    (fun _ _ hGet => .inl hGet) fun _ _ hGet => .inl hGet
  rcases HashMap.get?_insert_cases hGet with ⟨rfl, rfl⟩ | hOld
  · exact .inr hOwns
  · exact .inl hOld

theorem putTopology (h : References s) {userId : Uuid} {topology : Topology}
    (hOwns : ∀ deviceId ∈ topology.deviceIds, s.owns userId deviceId) :
    References (s.putTopology userId topology) := by
  refine h.mono (fun _ _ hOwns => hOwns) (fun _ _ hGet => .inl hGet)
    (fun ownerId owned hGet => ?_) fun _ _ hGet => .inl hGet
  rcases HashMap.get?_insert_cases hGet with ⟨rfl, rfl⟩ | hOld
  · exact .inr hOwns
  · exact .inl hOld

theorem writeProfile (h : References s) {profileId : String} {profile : DeviceProfile C}
    (hSource : s.owns profile.userId profile.sourceDeviceId)
    (hTarget : s.owns profile.userId profile.targetDeviceId) :
    References (s.writeProfile profileId profile) := by
  refine h.mono (fun _ _ hOwns => hOwns) (fun _ _ hGet => .inl hGet) (fun _ _ hGet => .inl hGet)
    fun id found hGet => ?_
  rcases HashMap.get?_insert_cases hGet with ⟨-, rfl⟩ | hOld
  · exact .inr ⟨hSource, hTarget⟩
  · exact .inl hOld

/-- A deletion clears all four tables. -/
theorem withoutDevices (h : References s) (userId : Uuid) (scope : DeviceDeletionScope)
    (deleted : List Device) (now : UInt64) :
    References (s.withoutDevices userId scope deleted now) where
  presence deviceId presence hGet := by
    rw [Store.withoutDevices_presence, HashMap.get?_retain_eq_some_iff] at hGet
    exact (h.presence deviceId presence hGet.1).withoutDevices (by simpa using hGet.2)
  topology ownerId topology hGet deviceId hMem := by
    rw [Store.withoutDevices_topologies, HashMap.get?_mapValues_eq_some_iff] at hGet
    obtain ⟨before, hBefore, rfl⟩ := hGet
    obtain ⟨hNamed, hKept⟩ := mem_deviceIds_cleared.mp hMem
    exact (h.topology ownerId before hBefore deviceId hNamed).withoutDevices (by simpa using hKept)
  profile id profile hGet := by
    rw [Store.withoutDevices_profiles, HashMap.get?_retain_eq_some_iff] at hGet
    obtain ⟨hBefore, hKept⟩ := hGet
    simp only [decide_eq_true_eq] at hKept
    obtain ⟨hSource, hTarget⟩ := h.profile id profile hBefore
    exact ⟨hSource.withoutDevices (by simpa using hKept.1),
      hTarget.withoutDevices (by simpa using hKept.2)⟩

/-- A heartbeat that deletes its device clears two of them. -/
theorem dropDevice_iff (h : References s) (deviceId : Uuid) :
    References (s.dropDevice deviceId) ↔ ¬ s.names deviceId := by
  constructor
  · rintro hAfter (⟨userId, topology, hGet, hMem⟩ | ⟨id, profile, hGet, rfl | rfl⟩)
    · exact not_owns_dropDevice (hAfter.topology userId topology hGet deviceId hMem)
    · exact not_owns_dropDevice (hAfter.profile id profile hGet).1
    · exact not_owns_dropDevice (hAfter.profile id profile hGet).2
  · intro hFree
    refine ⟨fun presentId presence hGet => ?_, fun userId topology hGet namedId hMem => ?_,
      fun id profile hGet => ⟨?_, ?_⟩⟩
    · rw [Store.dropDevice_presence, HashMap.get?_erase] at hGet
      split at hGet
      next => contradiction
      next hNe => exact (h.presence presentId presence hGet).dropDevice hNe
    · refine (h.topology userId topology hGet namedId hMem).dropDevice ?_
      rintro rfl
      exact hFree (.inl ⟨userId, topology, hGet, hMem⟩)
    · exact (h.profile id profile hGet).1.dropDevice
        fun hEq => hFree (.inr ⟨id, profile, hGet, .inl hEq⟩)
    · exact (h.profile id profile hGet).2.dropDevice
        fun hEq => hFree (.inr ⟨id, profile, hGet, .inr hEq⟩)

end References

section Runs

variable [UuidText] {env : Surroundings} {s t : Store C} {request : Request C}
  {answer : Except ApiError (Response C)}

theorem References.effect (h : References s) (hEffect : Effect env s request answer t)
    (hFree : ∀ deviceId, request.forgotten? s = some deviceId → ¬ s.names deviceId) :
    References t := by
  cases hEffect with
  | refused | devicesListed | topologyRead | profilesListed | changesListed | absent => exact h
  | account | connected | signalled => exact ⟨h.presence, h.topology, h.profile⟩
  | added hUser hName hUnblocked hId hNew =>
    exact (h.putDevice fun _ hGet => nomatch hNew.symm.trans hGet).clearDeleted _ _ _ _
  | refreshed hUser hUnblocked hId hDevice =>
    refine References.clearDeleted ?_ _ _ _ _
    exact h.replaceDevice hDevice rfl
  | updated hUser hDevice => exact h.replaceDevice hDevice rfl
  | reauthorized hUser hKey hDevice => exact h.replaceDevice hDevice rfl
  | deleted => exact h.withoutDevices _ _ _ _
  | forgotten hUser hDevice hOwner hEnabled hTombstone =>
    refine (h.dropDevice_iff _).mpr (hFree _ ?_)
    simp only [Request.forgotten?, hUser, hDevice]
    exact if_pos ⟨hOwner, hEnabled, hTombstone⟩
  | recorded _ hUser hDevice hOwner => exact h.putPresence ⟨_, hDevice, hOwner⟩
  | offline hUser hDevice hOwner hPresence =>
    have hOwns := h.presence _ _ hPresence
    exact h.putPresence hOwns
  | topology hUser hOwner => exact h.putTopology hOwner
  | upserted hUser hSource hTarget => exact h.writeProfile hSource hTarget
  | rolledBack hUser hCurrent =>
    exact h.writeProfile (h.profile _ _ hCurrent).1 (h.profile _ _ hCurrent).2

omit [UuidText] in
theorem forgotten?_eq_some {deviceId : Uuid} (h : request.forgotten? s = some deviceId) :
    ∃ headers publicIp beat userId device, request = .heartbeat headers publicIp deviceId beat ∧
      authorizeOrDefault s headers = .ok userId ∧ s.devices.get? deviceId = some device ∧
      device.userId = userId ∧ device.disabled = false ∧
      meetsTombstone s userId device publicIp beat = true := by
  cases request with
  | heartbeat headers publicIp beatId beat =>
    simp only [Request.forgotten?] at h
    split at h
    next userId device hUser hDevice =>
      split at h
      next hMeets =>
        obtain rfl := Option.some.inj h
        exact ⟨headers, publicIp, beat, userId, device, rfl, hUser, hDevice, hMeets⟩
      next => contradiction
    next => contradiction
  | _ => contradiction

/-- The heartbeat of a device that meets a tombstone takes the device out of the store. -/
theorem handle_forgotten {s : AppState C} {deviceId : Uuid}
    (h : request.forgotten? s.inner = some deviceId) :
    (stateAfter (handle env request) s).inner = s.inner.dropDevice deviceId := by
  obtain ⟨headers, publicIp, beat, userId, device, rfl, hUser, hDevice, hOwner, hEnabled,
    hTombstone⟩ := forgotten?_eq_some h
  have hMeets : Meets (handle env (.heartbeat headers publicIp deviceId beat))
      (fun _ t => t.inner = s.inner.dropDevice deviceId)
      (fun _ t => t.inner = s.inner.dropDevice deviceId) s := by
    simp only [handle, heartbeat, forgetDevice, meets_bind, meets_lock, hUser, meets_ofExcept_ok,
      meets_orRefuse, hDevice, meets_refuseIf]
    refine ⟨fun found hFound => ?_, fun hNone => by cases hNone⟩
    obtain rfl := Option.some.inj hFound
    refine ⟨fun _ => ⟨fun _ => ?_, fun hDisabled => ?_⟩, fun hForeign => (hForeign hOwner).elim⟩
    · rw [if_pos hTombstone]
      simp only [meets_bind, meets_modifyStore, meets_saveLocked, meets_throw, implies_true,
        and_self]
    · exact absurd (hEnabled.symm.trans hDisabled) Bool.false_ne_true
  exact meets_stateAfter.mp hMeets

/-- No heartbeat deletes a device that a topology or a profile names. -/
def KeepsNamed (before : List (Call C)) (call : Call C) : Prop :=
  ∀ deviceId, call.2.forgotten? (storeAfter before) = some deviceId →
    ¬ (storeAfter before).names deviceId

/-- The tables name registered devices of their user, in every store of a run, unless a heartbeat of
the run meets a tombstone while a topology or a profile names its device. -/
theorem references_iff (calls : List (Call C)) :
    (∀ before, before <+: calls → References (storeAfter before)) ↔
      Throughout KeepsNamed calls := by
  constructor
  · rintro h before call later rfl deviceId hForgotten
    have hBefore := h before ⟨call :: later, rfl⟩
    have hAfter := h (before ++ [call]) ⟨later, by simp⟩
    rw [storeAfter, after_snoc, serve, handle_forgotten hForgotten] at hAfter
    exact (hBefore.dropDevice_iff deviceId).mp hAfter
  · rintro h before ⟨later, rfl⟩
    exact history_induction (I := fun calls => References (storeAfter calls)) References.empty
      (fun calls call hCalls hCall => hCalls.effect (effect_snoc calls call) hCall) h.of_append

end Runs

/-- Device 10 has presented the name and the address under which the heartbeat of device 11, which
is the master of the topology, meets a tombstone. -/
def strandingCalls : List (Call Unit) :=
  [(.usual 0 0, .registerDevice ⟨none⟩ ⟨some 10, "desk", none, "linux", "6", "1", "key a"⟩),
    (.usual 1 0, .registerDevice ⟨none⟩ ⟨some 11, "desk", none, "linux", "6", "1", "key b"⟩),
    (.usual 2 0, .upsertTopology ⟨none⟩ ⟨some 11, .default⟩),
    (.usual 3 0, .heartbeat ⟨none⟩ "5.5.5.5" 10 ⟨["10.0.0.2"], 4000, none, none⟩),
    (.usual 4 0, .deleteDevice ⟨none⟩ 10),
    (.usual 5 0, .heartbeat ⟨none⟩ "5.5.5.5" 11 ⟨["10.0.0.2"], 4000, none, none⟩)]

theorem not_references :
    ¬ ∀ calls : List (Call Unit), References (@storeAfter Unit .hyphenated calls) := by
  intro h
  have hTopology : (@storeAfter Unit .hyphenated strandingCalls).topologies.get? defaultUserId =
      some ⟨defaultUserId, some 11, .default, 1, 2⟩ := by decide
  obtain ⟨device, hDevice, -⟩ :=
    (h strandingCalls).topology defaultUserId _ hTopology 11 (by decide)
  have hGone : (@storeAfter Unit .hyphenated strandingCalls).devices.get? 11 = none := by
    decide
  exact nomatch hGone.symm.trans hDevice

end Kmsync.Server
