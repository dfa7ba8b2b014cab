import Kmsync.Server.Presented
import Kmsync.Server.References

/-! The tombstones that a deletion leaves, and the heartbeats that meet them. -/

namespace Kmsync.Server

open ProofKit

variable {C : Type}

section Stored

/-- Every device is stored under its id. -/
def Store.Keyed (s : Store C) : Prop :=
  ∀ deviceId device, s.devices.get? deviceId = some device → device.id = deviceId

variable {s : Store C}

theorem Store.Keyed.putDevice (h : s.Keyed) {deviceId : Uuid} {device : Device}
    (hId : device.id = deviceId) : (s.putDevice deviceId device).Keyed := by
  intro foundId found hGet
  rcases HashMap.get?_insert_cases hGet with ⟨rfl, rfl⟩ | hOld
  · exact hId
  · exact h foundId found hOld

theorem Store.Keyed.replaceDevice (h : s.Keyed) {deviceId : Uuid} {before device : Device}
    (hDevice : s.devices.get? deviceId = some before) (hId : device.id = before.id) :
    (s.putDevice deviceId device).Keyed :=
  h.putDevice (hId.trans (h deviceId before hDevice))

theorem Store.Keyed.effect [UuidText] {env : Surroundings} {t : Store C} {request : Request C}
    {answer : Except ApiError (Response C)} (h : s.Keyed) (hEffect : Effect env s request answer t) :
    t.Keyed := by
  cases hEffect with
  | added => exact h.putDevice rfl
  | refreshed hUser hUnblocked hId hDevice => exact h.replaceDevice hDevice rfl
  | updated hUser hDevice => exact h.replaceDevice hDevice rfl
  | reauthorized hUser hKey hDevice => exact h.replaceDevice hDevice rfl
  | deleted =>
    intro deviceId device hGet
    rw [Store.withoutDevices_devices, HashMap.get?_retain_eq_some_iff] at hGet
    exact h deviceId device hGet.1
  | forgotten =>
    intro deviceId device hGet
    rw [Store.dropDevice_devices, HashMap.get?_erase, Option.ite_none_left_eq_some] at hGet
    exact h deviceId device hGet.2
  | _ => exact h

/-- In every run the devices are stored under their ids. -/
theorem keyed_storeAfter [UuidText] (calls : List (Call C)) : (storeAfter calls).Keyed := by
  induction calls using List.reverseRecOn with
  | nil => exact nofun
  | append_singleton calls call ih => exact ih.effect (effect_snoc calls call)

end Stored

section Deletion

variable {env : Surroundings} {s : Store C} {userId deviceId : Uuid} {target device : Device}

/-- The devices of a user that are deleted with one of them. -/
theorem mem_deviceDeletionGroupIds (hKeyed : s.Keyed) (hTarget : s.devices.get? deviceId = some target)
    {groupId : Uuid} :
    groupId ∈ deviceDeletionGroupIds env s userId deviceId ↔ ∃ member,
      s.devices.get? groupId = some member ∧ member.userId = userId ∧
        devicesSharePresentedIdentity target (s.presence.get? deviceId) member
          (s.presence.get? groupId) = true := by
  simp only [deviceDeletionGroupIds, hTarget, List.mem_map, List.mem_filter, HashMap.mem_values,
    decide_eq_true_eq]
  constructor
  · rintro ⟨member, ⟨⟨⟨memberId, hMember⟩, hUser⟩, hShared⟩, rfl⟩
    obtain rfl := hKeyed memberId member hMember
    exact ⟨member, hMember, hUser, hShared⟩
  · rintro ⟨member, hMember, hUser, hShared⟩
    obtain rfl := hKeyed groupId member hMember
    exact ⟨member, ⟨⟨⟨_, hMember⟩, hUser⟩, hShared⟩, rfl⟩

theorem mem_deletedDevices (hKeyed : s.Keyed)
    (hScope : deviceDeletionScope env s userId deviceId = .presentedDevice) :
    device ∈ deletedDevices env s userId deviceId ↔
      s.devices.get? device.id = some device ∧
        device.id ∈ deviceDeletionGroupIds env s userId deviceId := by
  simp only [deletedDevices, hScope, List.mem_filterMap]
  constructor
  · rintro ⟨groupId, hMem, hDevice⟩
    obtain rfl := hKeyed groupId device hDevice
    exact ⟨hDevice, hMem⟩
  · rintro ⟨hDevice, hMem⟩
    exact ⟨device.id, hMem, hDevice⟩

/-- What is deleted is registered to the user. -/
theorem mem_deletedDevices_owned (hKeyed : s.Keyed) (hOwns : s.owns userId deviceId)
    (h : device ∈ deletedDevices env s userId deviceId) :
    s.devices.get? device.id = some device ∧ device.userId = userId := by
  obtain ⟨target, hTarget, hOwner⟩ := hOwns
  cases hScope : deviceDeletionScope env s userId deviceId with
  | singleRecord =>
    simp only [deletedDevices, hScope, List.filterMap_cons, hTarget, List.filterMap_nil,
      List.mem_singleton] at h
    obtain rfl := h
    obtain rfl := hKeyed deviceId device hTarget
    exact ⟨hTarget, hOwner⟩
  | presentedDevice =>
    obtain ⟨hGet, hGroup⟩ := (mem_deletedDevices hKeyed hScope).mp h
    obtain ⟨member, hMember, hUser, -⟩ := (mem_deviceDeletionGroupIds hKeyed hTarget).mp hGroup
    obtain rfl := Option.some.inj (hGet.symm.trans hMember)
    exact ⟨hGet, hUser⟩

/-- What a deletion adds to the tombstones. -/
theorem mem_deletedPresentedDevices {scope : DeviceDeletionScope} {deleted : List Device}
    {now : UInt64} {key : DeletedPresentedDeviceKey} :
    key ∈ (s.withoutDevices userId scope deleted now).deletedPresentedDevices ↔
      (scope = .presentedDevice ∧ ∃ member ∈ deleted, ∃ presence,
        s.presence.get? member.id = some presence ∧
          key ∈ deletedPresentedDeviceKeysForPresence userId member presence) ∨
        key ∈ s.deletedPresentedDevices := by
  rw [Store.withoutDevices_deletedPresentedDevices, HashSet.mem_insertAll, List.mem_flatMap]
  refine or_congr_left ?_
  simp only [mem_presentedTombstones]
  tauto

variable [UuidText]

/-- A request to delete a device of the user removes the devices, whether it can be saved or not. -/
theorem handle_deleteDevice {s : AppState C} {headers : Headers}
    (hUser : authorizeOrDefault s.inner headers = .ok userId)
    (hOwns : s.inner.owns userId deviceId) :
    (stateAfter (handle env (.deleteDevice headers deviceId)) s).inner =
      s.inner.withoutDevices userId (deviceDeletionScope env s.inner userId deviceId)
        (deletedDevices env s.inner userId deviceId) env.now := by
  have hMeets : Meets (handle env (.deleteDevice headers deviceId))
      (fun _ t => t.inner = s.inner.withoutDevices userId
        (deviceDeletionScope env s.inner userId deviceId)
        (deletedDevices env s.inner userId deviceId) env.now)
      (fun _ t => t.inner = s.inner.withoutDevices userId
        (deviceDeletionScope env s.inner userId deviceId)
        (deletedDevices env s.inner userId deviceId) env.now) s := by
    have hCheck : assertDeviceOwner s.inner userId deviceId = .ok () :=
      assertDeviceOwner_eq_ok.mpr hOwns
    simp only [handle, deleteDevice, meets_bind, meets_lock, hUser, meets_ofExcept_ok, hCheck,
      meets_modifyStore, meets_saveLocked, meets_publishEvents, meets_pure, implies_true, and_self]
  exact meets_stateAfter.mp hMeets

/-- A deletion on behalf of a user removes a device. -/
def Removes (before : List (Call C)) (call : Call C) (userId : Uuid) (device : Device) : Prop :=
  ∃ headers targetId, call.2 = .deleteDevice headers targetId ∧
    authorizeOrDefault (storeAfter before) headers = .ok userId ∧
    (storeAfter before).owns userId targetId ∧
    device ∈ deletedDevices call.1 (storeAfter before) userId targetId

/-- What a deletion leaves of the store. -/
theorem Removes.exists_store_eq {before : List (Call C)} {call : Call C}
    (h : Removes before call userId device) : ∃ scope deleted, device ∈ deleted ∧
      (∀ other ∈ deleted, (storeAfter before).devices.get? other.id = some other ∧
        other.userId = userId) ∧
      storeAfter (before ++ [call]) =
        (storeAfter before).withoutDevices userId scope deleted call.1.now := by
  obtain ⟨env, request⟩ := call
  obtain ⟨headers, targetId, rfl, hUser, hOwns, hDeleted⟩ := h
  refine ⟨deviceDeletionScope env (storeAfter before) userId targetId, _, hDeleted,
    fun other => mem_deletedDevices_owned (keyed_storeAfter before) hOwns, ?_⟩
  rw [storeAfter, after_snoc, serve]
  exact handle_deleteDevice hUser hOwns

end Deletion

section Heartbeat

variable {s t : Store C} {userId deviceId : Uuid} {device : Device} {headers : Headers}
  {publicIp : String} {beat : HeartbeatRequest}

/-- The heartbeat that a presence is of. -/
def Presence.heartbeat (presence : Presence) : HeartbeatRequest :=
  ⟨presence.lanIps, presence.listenPort, some presence.natType, presence.display⟩

theorem meetsTombstone_iff {presence : Presence} :
    meetsTombstone s userId device presence.publicIp presence.heartbeat = true ↔
      ∃ key ∈ deletedPresentedDeviceKeysForPresence userId device presence,
        key ∈ s.deletedPresentedDevices := by
  simp only [meetsTombstone, List.any_eq_true, decide_eq_true_eq]
  exact Iff.rfl

theorem forgotten?_heartbeat (hUser : authorizeOrDefault s headers = .ok userId)
    (hDevice : s.devices.get? deviceId = some device) (hOwner : device.userId = userId) :
    (Request.heartbeat headers publicIp deviceId beat : Request C).forgotten? s =
      if device.disabled = false ∧ meetsTombstone s userId device publicIp beat = true then
        some deviceId
      else none := by
  simp only [Request.forgotten?, hUser, hDevice, hOwner, true_and]

/-- A heartbeat that meets no tombstone leaves the devices as they are. -/
theorem Effect.heartbeat_devices [UuidText] {env : Surroundings}
    {answer : Except ApiError (Response C)}
    (hEffect : Effect env s (.heartbeat headers publicIp deviceId beat) answer t)
    (h : (Request.heartbeat headers publicIp deviceId beat : Request C).forgotten? s = none) :
    t.devices = s.devices := by
  cases hEffect with
  | refused => rfl
  | account hRequest => contradiction
  | signalled hRequest => contradiction
  | forgotten hUser hDevice hOwner hEnabled hTombstone =>
    rw [forgotten?_heartbeat hUser hDevice hOwner, if_pos ⟨hEnabled, hTombstone⟩] at h
    contradiction
  | recorded => rfl

/-- The heartbeat of a presence deletes its device, or keeps it. -/
theorem heartbeat_get? [UuidText] {s : AppState C} {presence : Presence}
    (hUser : authorizeOrDefault s.inner headers = .ok userId)
    (hDevice : s.inner.devices.get? deviceId = some device) (hOwner : device.userId = userId)
    (env : Surroundings) :
    (stateAfter (handle env (.heartbeat headers presence.publicIp deviceId presence.heartbeat))
        s).inner.devices.get? deviceId =
      if device.disabled = false ∧
          meetsTombstone s.inner userId device presence.publicIp presence.heartbeat = true then none
      else some device := by
  split
  next h =>
    rw [handle_forgotten ((forgotten?_heartbeat hUser hDevice hOwner).trans (if_pos h)),
      Store.dropDevice_devices, HashMap.get?_erase, if_pos rfl]
  next h =>
    have hEffect := (serve_outcome s
      (env, .heartbeat headers presence.publicIp deviceId presence.heartbeat)).effect
    rw [serve] at hEffect
    rw [hEffect.heartbeat_devices ((forgotten?_heartbeat hUser hDevice hOwner).trans (if_neg h))]
    exact hDevice

end Heartbeat

section Agreement

/-- A device of a user, with the presence that it has. -/
structure Store.Presents (s : Store C) (userId : Uuid) (device : Device) (presence : Presence) :
    Prop where
  registered : s.devices.get? device.id = some device
  owner : device.userId = userId
  present : s.presence.get? device.id = some presence

/-- A deletion and the heartbeats after it take the same devices of a user for one. -/
structure IdentitiesAgree [UuidText] (env : Surroundings) (s : AppState C) (headers : Headers)
    (userId deviceId : Uuid) : Prop where
  shared : ∀ a b x y, s.inner.Presents userId a x → s.inner.Presents userId b y → a.id ≠ b.id →
    a.publicKey ≠ b.publicKey → (devicesSharePresentedIdentity a (some x) b (some y) = true ↔
      ∃ key ∈ deletedPresentedDeviceKeysForPresence userId a x,
        key ∈ deletedPresentedDeviceKeysForPresence userId b y)
  /-- A device that was not deleted repeats the heartbeat that it has sent. -/
  spared : ∀ c y, s.inner.Presents userId c y →
    c.id ∉ deviceDeletionGroupIds env s.inner userId deviceId → ∀ env',
      (stateAfter (handle env' (.heartbeat headers y.publicIp c.id y.heartbeat))
        (stateAfter (handle env (.deleteDevice headers deviceId)) s)).inner.devices.get? c.id = some c
  /-- A device that was deleted comes again under another id, while the tombstones stand. -/
  caught : ∀ b y, s.inner.Presents userId b y →
    b.id ∈ deviceDeletionGroupIds env s.inner userId deviceId → ∀ t : AppState C,
      (∀ key ∈ (stateAfter (handle env (.deleteDevice headers deviceId))
        s).inner.deletedPresentedDevices, key ∈ t.inner.deletedPresentedDevices) →
      authorizeOrDefault t.inner headers = .ok userId → ∀ c, t.inner.devices.get? c.id = some c →
        c.userId = userId → c.disabled = false → c.id ≠ b.id → c.name = b.name →
        c.osType = b.osType → ∀ env',
          (stateAfter (handle env' (.heartbeat headers y.publicIp c.id y.heartbeat))
            t).inner.devices.get? c.id = none

/-- The deletion of one device deletes another. -/
def Store.shares (s : Store C) (target device : Device) : Prop :=
  devicesSharePresentedIdentity target (s.presence.get? target.id) device
    (s.presence.get? device.id) = true

/-- Nothing about the devices of a user can be read in two ways. -/
structure Unambiguous (s : Store C) (userId : Uuid) (target : Device) : Prop where
  /-- Keys that are equal up to blanks are keys of devices at one address. -/
  key : ∀ a b x y, s.Presents userId a x → s.Presents userId b y → a.id ≠ b.id →
    a.publicKey ≠ b.publicKey → a.SameKey b → a.SameName b ∧ x.Meets y
  /-- Local addresses that are equal up to case are not equal up to case only. -/
  lan : ∀ a b x y, s.Presents userId a x → s.Presents userId b y → a.id ≠ b.id →
    a.publicKey ≠ b.publicKey → ¬ a.SameKey b → a.SameName b → x.SameLan y →
      lanIpsOverlap x.lanIps y.lanIps = true
  /-- What is deleted with the target has no address in common with what is not. -/
  apart : ∀ b c x y, s.Presents userId b x → s.Presents userId c y → s.shares target b →
    ¬ s.shares target c → c.disabled = false → ¬ (b.SameName c ∧ x.Meets y)
  /-- No tombstone stands already for what is not deleted. -/
  clear : ∀ c y, s.Presents userId c y → ¬ s.shares target c → c.disabled = false →
    ∀ key ∈ deletedPresentedDeviceKeysForPresence userId c y, key ∉ s.deletedPresentedDevices
  /-- What is deleted has an address. -/
  address : ∀ b y, s.Presents userId b y → s.shares target b →
    hasLan y = true ∨ trimmed y.publicIp ≠ ""

/-- The two notions for two devices. -/
theorem shared_iff_common {userId : Uuid} {a b : Device} {x y : Presence} (hId : a.id ≠ b.id) :
    (devicesSharePresentedIdentity a (some x) b (some y) = true ↔
      ∃ key ∈ deletedPresentedDeviceKeysForPresence userId a x,
        key ∈ deletedPresentedDeviceKeysForPresence userId b y) ↔
      (a.SameKey b → a.SameName b ∧ x.Meets y) ∧
        (¬ a.SameKey b → a.SameName b → x.SameLan y → lanIpsOverlap x.lanIps y.lanIps = true) := by
  have hOverlap : lanIpsOverlap x.lanIps y.lanIps = true → x.SameLan y := .of_overlap
  have hShared : devicesSharePresentedIdentity a (some x) b (some y) = true ↔ a.SameKey b ∨
      a.SameName b ∧ (lanIpsOverlap x.lanIps y.lanIps = true ∨ x.SamePublic y) := by
    rw [devicesSharePresentedIdentity_iff]
    simp [hId]
  rw [hShared, exists_common_key, Presence.Meets]
  by_cases hKey : a.SameKey b
  · simp only [hKey, true_or, true_iff, true_implies, not_true_eq_false, false_implies, and_true]
  · have hExclusive : x.SameLan y → ¬ x.SamePublic y := Presence.SameLan.not_samePublic
    simp only [hKey, false_or, false_implies, true_and, not_false_eq_true, true_implies]
    tauto

variable [UuidText] {env : Surroundings} {s : AppState C} {headers : Headers}
  {userId deviceId : Uuid} {target c : Device} {y : Presence}

omit [UuidText] in
theorem authorizeOrDefault_congr {s t : Store C} (h : t.sessions = s.sessions) :
    authorizeOrDefault t headers = authorizeOrDefault s headers := by
  simp only [authorizeOrDefault, authorize, authorizeAccessToken, h]

omit [UuidText] in
theorem Store.Presents.mem_group (h : s.inner.Presents userId c y) (hKeyed : s.inner.Keyed)
    (hTarget : s.inner.devices.get? deviceId = some target) :
    c.id ∈ deviceDeletionGroupIds env s.inner userId deviceId ↔ s.inner.shares target c := by
  obtain rfl := hKeyed deviceId target hTarget
  rw [mem_deviceDeletionGroupIds hKeyed hTarget, Store.shares]
  constructor
  · rintro ⟨member, hMember, -, hShared⟩
    obtain rfl := Option.some.inj (h.registered.symm.trans hMember)
    exact hShared
  · intro hShared
    exact ⟨c, h.registered, h.owner, hShared⟩

/-- The deletion of a presented device. -/
structure DeletesPresented (env : Surroundings) (s : AppState C) (headers : Headers)
    (userId deviceId : Uuid) (target : Device) : Prop where
  keyed : s.inner.Keyed
  authorized : authorizeOrDefault s.inner headers = .ok userId
  registered : s.inner.devices.get? deviceId = some target
  owner : target.userId = userId
  scope : deviceDeletionScope env s.inner userId deviceId = .presentedDevice

namespace DeletesPresented

variable (h : DeletesPresented env s headers userId deviceId target)
include h

/-- The tombstones that stand after the deletion. -/
theorem mem_tombstones {key : DeletedPresentedDeviceKey} :
    key ∈ (stateAfter (handle env (.deleteDevice headers deviceId))
        s).inner.deletedPresentedDevices ↔
      (∃ b x, s.inner.Presents userId b x ∧ s.inner.shares target b ∧
        key ∈ deletedPresentedDeviceKeysForPresence userId b x) ∨
        key ∈ s.inner.deletedPresentedDevices := by
  rw [handle_deleteDevice h.authorized ⟨target, h.registered, h.owner⟩,
    mem_deletedPresentedDevices]
  simp only [h.scope, true_and]
  refine or_congr_left ⟨?_, ?_⟩
  · rintro ⟨b, hDeleted, x, hPresent, hKey⟩
    obtain ⟨hGet, hGroup⟩ := (mem_deletedDevices h.keyed h.scope).mp hDeleted
    obtain ⟨b', hGet', hOwner, -⟩ := (mem_deviceDeletionGroupIds h.keyed h.registered).mp hGroup
    obtain rfl := Option.some.inj (hGet.symm.trans hGet')
    have hPresents : s.inner.Presents userId b x := ⟨hGet, hOwner, hPresent⟩
    exact ⟨b, x, hPresents, (hPresents.mem_group h.keyed h.registered).mp hGroup, hKey⟩
  · rintro ⟨b, x, hPresents, hShared, hKey⟩
    have hGroup : b.id ∈ deviceDeletionGroupIds env s.inner userId deviceId :=
      (hPresents.mem_group h.keyed h.registered).mpr hShared
    exact ⟨b, (mem_deletedDevices h.keyed h.scope).mpr ⟨hPresents.registered, hGroup⟩, x,
      hPresents.present, hKey⟩

/-- A device that is not in the group is still there after the deletion. -/
theorem get?_of_notMem (hPresents : s.inner.Presents userId c y)
    (hApart : c.id ∉ deviceDeletionGroupIds env s.inner userId deviceId) :
    (stateAfter (handle env (.deleteDevice headers deviceId)) s).inner.devices.get? c.id =
      some c := by
  rw [handle_deleteDevice h.authorized ⟨target, h.registered, h.owner⟩,
    Store.withoutDevices_devices, HashMap.get?_retain_eq_some_iff]
  refine ⟨hPresents.registered, ?_⟩
  simp only [HashSet.mem_insertAll, List.mem_map, decide_eq_true_eq, not_or]
  refine ⟨?_, AList.notMem_empty _⟩
  rintro ⟨b, hDeleted, hId⟩
  exact hApart (hId ▸ ((mem_deletedDevices h.keyed h.scope).mp hDeleted).2)

theorem authorized_after :
    authorizeOrDefault (stateAfter (handle env (.deleteDevice headers deviceId)) s).inner headers =
      .ok userId := by
  rw [handle_deleteDevice h.authorized ⟨target, h.registered, h.owner⟩,
    authorizeOrDefault_congr (Store.withoutDevices_sessions _ _ _ _ _)]
  exact h.authorized

/-- What a device that is not deleted meets when it repeats its heartbeat. -/
theorem meets_iff :
    meetsTombstone (stateAfter (handle env (.deleteDevice headers deviceId)) s).inner userId c
        y.publicIp y.heartbeat = true ↔
      (∃ b x, s.inner.Presents userId b x ∧ s.inner.shares target b ∧ b.SameName c ∧ x.Meets y) ∨
        ∃ key ∈ deletedPresentedDeviceKeysForPresence userId c y,
          key ∈ s.inner.deletedPresentedDevices := by
  simp only [meetsTombstone_iff, h.mem_tombstones, ← @exists_common_key userId]
  constructor
  · rintro ⟨key, hKey, ⟨b, x, hPresents, hShared, hOther⟩ | hOld⟩
    · exact .inl ⟨b, x, hPresents, hShared, key, hOther, hKey⟩
    · exact .inr ⟨key, hKey, hOld⟩
  · rintro (⟨b, x, hPresents, hShared, key, hOther, hKey⟩ | ⟨key, hKey, hOld⟩)
    · exact ⟨key, hKey, .inl ⟨b, x, hPresents, hShared, hOther⟩⟩
    · exact ⟨key, hKey, .inr hOld⟩

/-- The devices that are not deleted are spared by their heartbeats, or a tombstone stands for one.
-/
theorem spared_iff :
    (∀ c y, s.inner.Presents userId c y →
      c.id ∉ deviceDeletionGroupIds env s.inner userId deviceId → ∀ env',
        (stateAfter (handle env' (.heartbeat headers y.publicIp c.id y.heartbeat))
          (stateAfter (handle env (.deleteDevice headers deviceId)) s)).inner.devices.get? c.id =
            some c) ↔
      (∀ b c x y, s.inner.Presents userId b x → s.inner.Presents userId c y →
        s.inner.shares target b → ¬ s.inner.shares target c → c.disabled = false →
          ¬ (b.SameName c ∧ x.Meets y)) ∧
        ∀ c y, s.inner.Presents userId c y → ¬ s.inner.shares target c → c.disabled = false →
          ∀ key ∈ deletedPresentedDeviceKeysForPresence userId c y,
            key ∉ s.inner.deletedPresentedDevices := by
  have hGroup {c : Device} {y : Presence} (hPresents : s.inner.Presents userId c y) :
      c.id ∈ deviceDeletionGroupIds env s.inner userId deviceId ↔ s.inner.shares target c :=
    hPresents.mem_group h.keyed h.registered
  constructor
  · intro hSpared
    have hNone {c : Device} {y : Presence} (hPresents : s.inner.Presents userId c y)
        (hApart : ¬ s.inner.shares target c) (hEnabled : c.disabled = false) :
        meetsTombstone (stateAfter (handle env (.deleteDevice headers deviceId)) s).inner userId c
          y.publicIp y.heartbeat ≠ true := by
      intro hMeets
      have hKept := hSpared c y hPresents (fun hMem => hApart ((hGroup hPresents).mp hMem)) env
      rw [heartbeat_get? h.authorized_after
        (h.get?_of_notMem hPresents fun hMem => hApart ((hGroup hPresents).mp hMem))
        hPresents.owner env, if_pos ⟨hEnabled, hMeets⟩] at hKept
      contradiction
    refine ⟨fun b c x y hB hC hShared hApart hEnabled hAlike => ?_,
      fun c y hC hApart hEnabled key hKey hOld => ?_⟩
    · exact hNone hC hApart hEnabled (h.meets_iff.mpr (.inl ⟨b, x, hB, hShared, hAlike⟩))
    · exact hNone hC hApart hEnabled (h.meets_iff.mpr (.inr ⟨key, hKey, hOld⟩))
  · rintro ⟨hApartness, hClear⟩ c y hC hNotMem env'
    have hApart : ¬ s.inner.shares target c := fun hShared => hNotMem ((hGroup hC).mpr hShared)
    rw [heartbeat_get? h.authorized_after (h.get?_of_notMem hC hNotMem) hC.owner env']
    refine if_neg ?_
    rintro ⟨hEnabled, hMeets⟩
    rcases h.meets_iff.mp hMeets with ⟨b, x, hB, hShared, hAlike⟩ | ⟨key, hKey, hOld⟩
    · exact hApartness b c x y hB hC hShared hApart hEnabled hAlike
    · exact hClear c y hC hApart hEnabled key hKey hOld

/-- What was deleted is caught under another id if it has an address. -/
theorem caught_iff :
    (∀ b y, s.inner.Presents userId b y →
      b.id ∈ deviceDeletionGroupIds env s.inner userId deviceId → ∀ t : AppState C,
        (∀ key ∈ (stateAfter (handle env (.deleteDevice headers deviceId))
          s).inner.deletedPresentedDevices, key ∈ t.inner.deletedPresentedDevices) →
        authorizeOrDefault t.inner headers = .ok userId → ∀ c, t.inner.devices.get? c.id = some c →
          c.userId = userId → c.disabled = false → c.id ≠ b.id → c.name = b.name →
          c.osType = b.osType → ∀ env',
            (stateAfter (handle env' (.heartbeat headers y.publicIp c.id y.heartbeat))
              t).inner.devices.get? c.id = none) ↔
      ∀ b y, s.inner.Presents userId b y → s.inner.shares target b →
        hasLan y = true ∨ trimmed y.publicIp ≠ "" := by
  constructor
  · intro hCaught b y hB hShared
    -- The device comes again under the next id.
    let again : Device := { b with id := b.id + 1, disabled := false }
    let after := stateAfter (handle env (.deleteDevice headers deviceId)) s
    let t : AppState C := { after with inner := after.inner.putDevice again.id again }
    have hUser : authorizeOrDefault t.inner headers = .ok userId :=
      (authorizeOrDefault_congr rfl).trans h.authorized_after
    have hAgain : t.inner.devices.get? again.id = some again := HashMap.get?_insert_self
    have hGone := hCaught b y hB ((hB.mem_group h.keyed h.registered).mpr hShared) t
      (fun _ hKey => hKey) hUser again hAgain hB.owner rfl (by simp [again]) rfl rfl env
    rw [heartbeat_get? hUser hAgain hB.owner env, ite_eq_left_iff] at hGone
    have hMeets := of_not_not fun hNot => nomatch hGone hNot
    obtain ⟨key, hKey, -⟩ := meetsTombstone_iff.mp hMeets.2
    exact exists_key.mp ⟨key, hKey⟩
  · intro hAddress b y hB hGroup t hStand hUser c hC hOwner hEnabled hId hName hOs env'
    have hShared := (hB.mem_group h.keyed h.registered).mp hGroup
    rw [heartbeat_get? hUser hC hOwner env']
    refine if_pos ⟨hEnabled, meetsTombstone_iff.mpr ?_⟩
    rw [deletedPresentedDeviceKeysForPresence_congr hName hOs]
    obtain ⟨key, hKey⟩ := exists_key.mpr (hAddress b y hB hShared)
    exact ⟨key, hKey, hStand key (h.mem_tombstones.mpr (.inl ⟨b, y, hB, hShared, hKey⟩))⟩

end DeletesPresented

/-- A deletion and the heartbeats after it take the same devices for one exactly if nothing about
them can be read in two ways. -/
theorem identitiesAgree_iff (h : DeletesPresented env s headers userId deviceId target) :
    IdentitiesAgree env s headers userId deviceId ↔ Unambiguous s.inner userId target := by
  constructor
  · intro hAgree
    have hSpared := h.spared_iff.mp hAgree.spared
    exact
      { key := fun a b x y hA hB hId hKey =>
          ((shared_iff_common hId).mp (hAgree.shared a b x y hA hB hId hKey)).1
        lan := fun a b x y hA hB hId hKey =>
          ((shared_iff_common hId).mp (hAgree.shared a b x y hA hB hId hKey)).2
        apart := hSpared.1
        clear := hSpared.2
        address := h.caught_iff.mp hAgree.caught }
  · intro hClear
    exact
      { shared := fun a b x y hA hB hId hKey => (shared_iff_common hId).mpr
          ⟨hClear.key a b x y hA hB hId hKey, hClear.lan a b x y hA hB hId hKey⟩
        spared := h.spared_iff.mpr ⟨hClear.apart, hClear.clear⟩
        caught := h.caught_iff.mpr hClear.address }

end Agreement

section Cased

/-- Two devices of one name send heartbeats from one address, which they write in upper and in lower
case. -/
def casedCalls : List (Call Unit) :=
  [(.usual 0 0, .registerDevice ⟨none⟩ ⟨some 10, "desk", none, "linux", "6", "1", "key a"⟩),
    (.usual 1 0, .registerDevice ⟨none⟩ ⟨some 11, "desk", none, "linux", "6", "1", "key b"⟩),
    (.usual 2 0, .heartbeat ⟨none⟩ "5.5.5.5" 10 ⟨["FE80::1"], 4000, none, none⟩),
    (.usual 3 0, .heartbeat ⟨none⟩ "5.5.5.5" 11 ⟨["fe80::1"], 4000, none, none⟩)]

def casedState : AppState Unit := after (@serve Unit .hyphenated) .start casedCalls

def casedDevice (id : Uuid) (publicKey : String) (now : UInt64) : Device :=
  ⟨id, defaultUserId, "desk", .client, "linux", "6", "1", publicKey, false, now, now, 1, 1⟩

def casedPresence (id : Uuid) (ip : String) (now : UInt64) : Presence :=
  ⟨id, defaultUserId, true, [ip], "5.5.5.5", 4000, "unknown", now, now + 60, 1, none⟩

theorem deletesPresented_cased :
    DeletesPresented (.usual 4 0) casedState ⟨none⟩ defaultUserId 10 (casedDevice 10 "key a" 0) where
  keyed := @keyed_storeAfter Unit .hyphenated casedCalls
  authorized := rfl
  registered := by decide +kernel
  owner := rfl
  scope := by decide +kernel

theorem identitiesAgree_iff_cased :
    @IdentitiesAgree Unit .hyphenated (.usual 4 0) casedState ⟨none⟩ defaultUserId 10 ↔
      Unambiguous casedState.inner defaultUserId (casedDevice 10 "key a" 0) :=
  @identitiesAgree_iff Unit .hyphenated _ _ _ _ _ _ deletesPresented_cased

/-- The heartbeat of the second device would meet the tombstone of the first, which does not delete
it. -/
theorem not_identitiesAgree :
    ¬ @IdentitiesAgree Unit .hyphenated (.usual 4 0) casedState ⟨none⟩ defaultUserId 10 := by
  let text := UuidText.hyphenated
  intro h
  have hFirst : casedState.inner.Presents defaultUserId (casedDevice 10 "key a" 0)
      (casedPresence 10 "FE80::1" 2) := ⟨by decide +kernel, rfl, by decide +kernel⟩
  have hSecond : casedState.inner.Presents defaultUserId (casedDevice 11 "key b" 1)
      (casedPresence 11 "fe80::1" 3) := ⟨by decide +kernel, rfl, by decide +kernel⟩
  have hShared := (h.shared _ _ _ _ hFirst hSecond (by decide) (by decide)).mpr
    (exists_common_key.mpr ⟨⟨rfl, rfl⟩, .inl (by decide +kernel)⟩)
  revert hShared
  decide +kernel

end Cased

end Kmsync.Server
