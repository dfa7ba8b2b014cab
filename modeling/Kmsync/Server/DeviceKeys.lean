import Kmsync.Server.Tombstones

/-! Public keys of devices.  A key is bound to one device of a user, which carries it or was deleted
with it. -/

namespace Kmsync.Server

open ProofKit

section Scan

variable {userId requestedId : Uuid} {publicKey : String} {decision : DeletedDeviceKeyDecision}
  {keys : List DeletedDeviceKey}

/-- A key of another device is found wherever it stands among the deleted keys. -/
theorem scanDeletedDeviceKeys_eq_block (hStart : decision ≠ .blockDuplicateIdentity) :
    scanDeletedDeviceKeys userId requestedId publicKey decision keys = .blockDuplicateIdentity ↔
      ∃ key ∈ keys, key.userId = userId ∧ key.publicKey = publicKey ∧
        ∃ deletedId, key.deviceId = some deletedId ∧ deletedId ≠ requestedId := by
  induction keys generalizing decision with
  | nil => simp [scanDeletedDeviceKeys, hStart]
  | cons key keys ih =>
    rw [scanDeletedDeviceKeys, List.exists_mem_cons_iff]
    split
    next hOther =>
      refine (ih hStart).trans (or_iff_right ?_).symm
      rintro ⟨hUser, hKey, -⟩
      exact hOther.elim (fun hNe => hNe hUser) fun hNe => hNe hKey
    next hSame =>
      rw [not_or, not_not, not_not] at hSame
      split
      next deletedId hId =>
        split
        next hNe => exact iff_of_true rfl (.inl ⟨hSame.1, hSame.2, deletedId, hId, hNe⟩)
        next hEq =>
          refine (ih (by decide)).trans (or_iff_right ?_).symm
          rintro ⟨-, -, otherId, hOther, hNe⟩
          exact hEq (Option.some.inj (hId.symm.trans hOther) ▸ hNe)
      next hNone =>
        refine (ih (by decide)).trans (or_iff_right ?_).symm
        rintro ⟨-, -, otherId, hOther, -⟩
        exact nomatch hNone.symm.trans hOther

theorem scanDeletedDeviceKeys_eq_notDeleted
    (h : scanDeletedDeviceKeys userId requestedId publicKey decision keys = .notDeleted) :
    decision = .notDeleted ∧ ∀ key ∈ keys, key.userId = userId → key.publicKey ≠ publicKey := by
  induction keys generalizing decision with
  | nil => exact ⟨h, fun _ hMem => absurd hMem List.not_mem_nil⟩
  | cons key keys ih =>
    rw [scanDeletedDeviceKeys] at h
    split at h
    next hOther =>
      obtain ⟨hDecision, hNone⟩ := ih h
      refine ⟨hDecision, List.forall_mem_cons.mpr ⟨fun hUser => ?_, hNone⟩⟩
      exact hOther.resolve_left (not_not_intro hUser)
    next =>
      split at h
      next =>
        split at h
        next => contradiction
        next => exact absurd (ih h).1 nofun
      next => exact absurd (ih h).1 nofun

end Scan

variable {C : Type}

section Bound

variable {env : Surroundings} {s t : Store C} {userId deviceId requestedId : Uuid}
  {publicKey : String}

/-- A device of a user has the key. -/
def Store.carries (s : Store C) (userId : Uuid) (publicKey : String) (deviceId : Uuid) : Prop :=
  ∃ device, s.devices.get? deviceId = some device ∧ device.userId = userId ∧
    device.publicKey = publicKey

/-- A device of a user has the key, or had it when it was deleted. -/
def Store.binds (s : Store C) (userId : Uuid) (publicKey : String) (deviceId : Uuid) : Prop :=
  s.carries userId publicKey deviceId ∨ ⟨userId, some deviceId, publicKey⟩ ∈ s.deletedDeviceKeys

structure KeysBound (s : Store C) : Prop where
  named : ∀ key ∈ s.deletedDeviceKeys, ∃ deletedId, key.deviceId = some deletedId
  unique : ∀ userId publicKey i j, s.binds userId publicKey i → s.binds userId publicKey j → i = j

theorem deletedDeviceKeyDecision_eq_block :
    deletedDeviceKeyDecision env s userId requestedId publicKey = .blockDuplicateIdentity ↔
      ∃ deletedId, ⟨userId, some deletedId, publicKey⟩ ∈ s.deletedDeviceKeys ∧
        deletedId ≠ requestedId := by
  rw [deletedDeviceKeyDecision, scanDeletedDeviceKeys_eq_block (by decide)]
  simp only [HashSet.mem_elements]
  constructor
  · rintro ⟨⟨_, _, _⟩, hMem, rfl, rfl, deletedId, rfl, hNe⟩
    exact ⟨deletedId, hMem, hNe⟩
  · rintro ⟨deletedId, hMem, hNe⟩
    exact ⟨_, hMem, rfl, rfl, deletedId, rfl, hNe⟩

theorem not_mem_of_notDeleted {deletedId : Uuid}
    (h : deletedDeviceKeyDecision env s userId requestedId publicKey = .notDeleted) :
    ⟨userId, some deletedId, publicKey⟩ ∉ s.deletedDeviceKeys := by
  intro hMem
  exact (scanDeletedDeviceKeys_eq_notDeleted h).2 _ (HashSet.mem_elements.mpr hMem) rfl rfl

/-- A registration under a new id is under the one that was asked for, and no device of the user has
the key. -/
theorem registeredDeviceId_new (hKeyed : s.Keyed)
    (hId : registeredDeviceId env s userId requestedId publicKey = deviceId)
    (hNew : s.devices.get? deviceId = none) :
    deviceId = requestedId ∧ requestedId ∉ s.devices ∧ ∀ i, ¬ s.carries userId publicKey i := by
  rw [registeredDeviceId] at hId
  split at hId
  next hMem =>
    obtain rfl := hId
    exact absurd hMem (AList.lookup_eq_none.mp hNew)
  next hMem =>
    split at hId
    next device hFind =>
      obtain rfl := hId
      obtain ⟨i, hGet⟩ := HashMap.mem_values.mp (List.mem_of_find?_eq_some hFind)
      obtain rfl := hKeyed i device hGet
      exact nomatch hNew.symm.trans hGet
    next hFind =>
      obtain rfl := hId
      refine ⟨rfl, hMem, ?_⟩
      rintro i ⟨device, hGet, hUser, hKey⟩
      have hNot := List.find?_eq_none.mp hFind device (HashMap.mem_values.mpr ⟨i, hGet⟩)
      simp [hUser, hKey] at hNot

/-- If no device of the user has the key and the id is not registered, the registration is for the
id. -/
theorem registeredDeviceId_free (hMem : requestedId ∉ s.devices)
    (hFree : ∀ i, ¬ s.carries userId publicKey i) :
    registeredDeviceId env s userId requestedId publicKey = requestedId := by
  rw [registeredDeviceId, if_neg hMem]
  split
  next device hFind =>
    obtain ⟨i, hGet⟩ := HashMap.mem_values.mp (List.mem_of_find?_eq_some hFind)
    have hSame := List.find?_some hFind
    simp only [decide_eq_true_eq] at hSame
    exact absurd ⟨device, hGet, hSame⟩ (hFree i)
  next => rfl

namespace KeysBound

theorem mono (h : KeysBound s) (hKeys : ∀ key ∈ t.deletedDeviceKeys,
      ∃ deletedId, key.deviceId = some deletedId)
    (hBinds : ∀ userId publicKey i, t.binds userId publicKey i → s.binds userId publicKey i) :
    KeysBound t :=
  ⟨hKeys, fun userId publicKey i j hI hJ => h.unique userId publicKey i j
    (hBinds userId publicKey i hI) (hBinds userId publicKey j hJ)⟩

/-- One more key is bound, which is bound to no other device. -/
theorem bind (h : KeysBound s) (hKeys : ∀ key ∈ t.deletedDeviceKeys,
      ∃ deletedId, key.deviceId = some deletedId)
    (hBinds : ∀ userId' publicKey' i, t.binds userId' publicKey' i →
      s.binds userId' publicKey' i ∨ userId' = userId ∧ publicKey' = publicKey ∧ i = deviceId)
    (hFree : ∀ i, s.binds userId publicKey i → i = deviceId) : KeysBound t where
  named := hKeys
  unique userId' publicKey' i j hI hJ := by
    rcases hBinds userId' publicKey' i hI with hOld | ⟨rfl, rfl, rfl⟩
    · rcases hBinds userId' publicKey' j hJ with hOld' | ⟨rfl, rfl, rfl⟩
      · exact h.unique userId' publicKey' i j hOld hOld'
      · exact hFree i hOld
    · rcases hBinds userId' publicKey' j hJ with hOld' | ⟨-, -, rfl⟩
      · exact (hFree j hOld').symm
      · rfl

end KeysBound

section Edits

variable {changed : Device} {request : RegisterDeviceRequest}
  {decision : DeletedDeviceKeyDecision} {i : Uuid}

/-- The device that is put carries its key; the others carry theirs. -/
theorem carries_putDevice {userId' : Uuid} {publicKey' : String}
    (h : (s.putDevice deviceId changed).carries userId' publicKey' i) :
    s.carries userId' publicKey' i ∨
      userId' = changed.userId ∧ publicKey' = changed.publicKey ∧ i = deviceId := by
  obtain ⟨device, hGet, hUser, hKey⟩ := h
  rcases HashMap.get?_insert_cases hGet with ⟨hEq, rfl⟩ | hOld
  · exact .inr ⟨hUser.symm, hKey.symm, hEq⟩
  · exact .inl ⟨device, hOld, hUser, hKey⟩

theorem binds_putDevice {userId' : Uuid} {publicKey' : String}
    (h : (s.putDevice deviceId changed).binds userId' publicKey' i) :
    s.binds userId' publicKey' i ∨
      userId' = changed.userId ∧ publicKey' = changed.publicKey ∧ i = deviceId :=
  h.elim (fun hCarries => (carries_putDevice hCarries).imp_left .inl) fun hMem => .inl (.inr hMem)

theorem mem_clearDeleted {key : DeletedDeviceKey} :
    key ∈ (s.clearDeleted userId deviceId request decision).deletedDeviceKeys ↔
      key ∈ s.deletedDeviceKeys ∧
        key.clearedBy userId deviceId request.publicKey = false := by
  rw [Store.clearDeleted_deletedDeviceKeys, HashSet.mem_retain, Bool.not_eq_true']

theorem binds_clearDeleted {userId' : Uuid} {publicKey' : String}
    (h : (s.clearDeleted userId deviceId request decision).binds userId' publicKey' i) :
    s.binds userId' publicKey' i :=
  h.imp_right fun hMem => (mem_clearDeleted.mp hMem).1

/-- A deletion binds the keys to the devices that carried them. -/
theorem binds_withoutDevices {userId' : Uuid} {publicKey' : String} {scope : DeviceDeletionScope}
    {deleted : List Device} {now : UInt64}
    (hOwned : ∀ device ∈ deleted, s.devices.get? device.id = some device ∧ device.userId = userId)
    (h : (s.withoutDevices userId scope deleted now).binds userId' publicKey' i) :
    s.binds userId' publicKey' i := by
  rcases h with ⟨device, hGet, hSame⟩ | hMem
  · rw [Store.withoutDevices_devices, HashMap.get?_retain_eq_some_iff] at hGet
    exact .inl ⟨device, hGet.1, hSame⟩
  · rw [Store.withoutDevices_deletedDeviceKeys, HashSet.mem_insertAll, List.mem_map] at hMem
    rcases hMem with ⟨device, hDeleted, hEq⟩ | hOld
    · simp only [DeletedDeviceKey.mk.injEq, Option.some.injEq] at hEq
      obtain ⟨rfl, rfl, rfl⟩ := hEq
      obtain ⟨hGet, hUser⟩ := hOwned device hDeleted
      exact .inl ⟨device, hGet, hUser, rfl⟩
    · exact .inr hOld

theorem binds_dropDevice {userId' : Uuid} {publicKey' : String}
    (h : (s.dropDevice deviceId).binds userId' publicKey' i) : s.binds userId' publicKey' i := by
  refine h.imp_left ?_
  rintro ⟨device, hGet, hSame⟩
  rw [Store.dropDevice_devices, HashMap.get?_erase, Option.ite_none_left_eq_some] at hGet
  exact ⟨device, hGet.2, hSame⟩

end Edits

end Bound

section Runs

variable [UuidText]

/-- A user registers a device under its id and with a public key. -/
def Registers (before : List (Call C)) (call : Call C) (userId deviceId : Uuid)
    (publicKey : String) : Prop :=
  ∃ headers request, call.2 = .registerDevice headers request ∧
    authorizeOrDefault (storeAfter before) headers = .ok userId ∧
    request.deviceId.getD (call.1.uuid 0) = deviceId ∧ request.publicKey = publicKey

/-- The device was deleted with the key, and was not registered with it since. -/
def Deleted (calls : List (Call C)) (userId deviceId : Uuid) (publicKey : String) : Prop :=
  Since (fun before call => ∃ device, Removes before call userId device ∧ device.id = deviceId ∧
      device.publicKey = publicKey)
    (fun before call => Registers before call userId deviceId publicKey ∧
      answerAfter before call = .ok (.registered deviceId)) calls

/-- The public keys identify the devices of each user. -/
structure KeysIdentify (calls : List (Call C)) : Prop where
  unique : ∀ userId publicKey i j, (storeAfter calls).carries userId publicKey i →
    (storeAfter calls).carries userId publicKey j → i = j
  kept : ∀ userId deviceId publicKey, Deleted calls userId deviceId publicKey →
    ∀ i, (storeAfter calls).carries userId publicKey i → i = deviceId
  revived : Throughout (fun before call => ∀ userId deviceId publicKey,
    Registers before call userId deviceId publicKey → Deleted before userId deviceId publicKey →
      (storeAfter before).devices.get? deviceId = none →
      answerAfter before call = .ok (.registered deviceId)) calls

/-- The request gives no device a key that is bound to another, and a registration that reactivates
a deleted device has a name and can be saved. -/
def KeepsKeys (before : List (Call C)) (call : Call C) : Prop :=
  match call.2 with
  | .registerDevice headers request => ∀ userId,
    authorizeOrDefault (storeAfter before) headers = .ok userId →
      deletedDeviceKeyDecision call.1 (storeAfter before) userId
        (request.deviceId.getD (call.1.uuid 0)) request.publicKey = .reactivateSameIdentity →
      call.1.save = .ok () ∧ (request.deviceId.getD (call.1.uuid 0) ∉ (storeAfter before).devices →
        trimmed request.name ≠ "")
  | .reauthorizeDevice headers deviceId request => ∀ userId,
    authorizeOrDefault (storeAfter before) headers = .ok userId →
      (storeAfter before).owns userId deviceId → trimmed request.publicKey ≠ "" →
      ∀ i, (storeAfter before).binds userId request.publicKey i → i = deviceId
  | _ => True

variable {calls : List (Call C)} {call : Call C} {s : Store C} {env : Surroundings}
  {userId deviceId : Uuid}

omit [UuidText] in
/-- A deleted key that is bound lets its device register again. -/
theorem KeysBound.reactivates (h : KeysBound s) {publicKey : String}
    (hMem : ⟨userId, some deviceId, publicKey⟩ ∈ s.deletedDeviceKeys) :
    deletedDeviceKeyDecision env s userId deviceId publicKey = .reactivateSameIdentity := by
  cases hDecision : deletedDeviceKeyDecision env s userId deviceId publicKey with
  | notDeleted => exact absurd hMem (not_mem_of_notDeleted hDecision)
  | reactivateSameIdentity => rfl
  | blockDuplicateIdentity =>
    obtain ⟨otherId, hOther, hNe⟩ := deletedDeviceKeyDecision_eq_block.mp hDecision
    exact absurd (h.unique userId publicKey otherId deviceId (.inr hOther) (.inr hMem)) hNe

omit [UuidText] in
/-- A registration that clears a deleted key is for the device that was deleted with it. -/
theorem requestedDeviceId_of_cleared {requestedId : Uuid} {publicKey : String}
    (hUnblocked : requestedId ∉ s.devices →
      deletedDeviceKeyDecision env s userId requestedId publicKey ≠ .blockDuplicateIdentity)
    (hId : registeredDeviceId env s userId requestedId publicKey = deviceId)
    (hMem : ⟨userId, some deviceId, publicKey⟩ ∈ s.deletedDeviceKeys) : requestedId = deviceId := by
  by_cases hRegistered : requestedId ∈ s.devices
  · rwa [registeredDeviceId, if_pos hRegistered] at hId
  · by_contra hNe
    exact hUnblocked hRegistered
      (deletedDeviceKeyDecision_eq_block.mpr ⟨deviceId, hMem, Ne.symm hNe⟩)

omit [UuidText] in
theorem clearedBy_eq_true {publicKey publicKey' : String} {userId' deviceId' : Uuid} :
    (⟨userId', some deviceId', publicKey'⟩ : DeletedDeviceKey).clearedBy userId deviceId publicKey =
        true ↔ userId' = userId ∧ publicKey' = publicKey ∧ deviceId' = deviceId := by
  simp [DeletedDeviceKey.clearedBy]

theorem KeysBound.snoc (h : KeysBound (storeAfter calls)) (hKeeps : KeepsKeys calls call) :
    KeysBound (storeAfter (calls ++ [call])) := by
  have hEffect := effect_snoc calls call
  have hKeyed := keyed_storeAfter calls
  obtain ⟨env, request⟩ := call
  generalize storeAfter (calls ++ [(env, request)]) = t at hEffect ⊢
  generalize answerAfter calls (env, request) = answer at hEffect
  cases hEffect with
  | added hUser hName hUnblocked hId hNew =>
    obtain ⟨rfl, hRequested, hFree⟩ := registeredDeviceId_new hKeyed hId hNew
    refine h.bind (fun key hMem => h.named key (mem_clearDeleted.mp hMem).1)
      (fun _ _ i hBinds => binds_putDevice (binds_clearDeleted hBinds)) fun i hBinds => ?_
    -- Another device with the key would have blocked the registration.
    by_contra hNe
    exact hUnblocked hRequested (deletedDeviceKeyDecision_eq_block.mpr
      ⟨i, hBinds.resolve_left (hFree i), hNe⟩)
  | @refreshed _ _ _ _ device _ _ _ _ hDevice hOwner hKey =>
    refine h.mono (fun key hMem => h.named key (mem_clearDeleted.mp hMem).1) fun _ _ i hBinds => ?_
    rcases binds_putDevice (binds_clearDeleted hBinds) with hOld | ⟨rfl, rfl, rfl⟩
    · exact hOld
    · exact .inl ⟨device, hDevice, rfl, rfl⟩
  | @updated _ _ _ _ device _ _ hDevice =>
    refine h.mono h.named fun _ _ i hBinds => ?_
    rcases binds_putDevice hBinds with hOld | ⟨rfl, rfl, rfl⟩
    · exact hOld
    · exact .inl ⟨device, hDevice, rfl, rfl⟩
  | reauthorized hUser hKey hDevice hOwner =>
    refine h.bind h.named (fun _ _ i hBinds => binds_putDevice hBinds) fun i hBinds => ?_
    exact hKeeps _ hUser ⟨_, hDevice, hOwner⟩ hKey i (hOwner ▸ hBinds)
  | deleted hUser hOwns =>
    refine h.mono (fun key hMem => ?_) fun _ _ i hBinds =>
      binds_withoutDevices (fun device => mem_deletedDevices_owned hKeyed hOwns) hBinds
    rw [Store.withoutDevices_deletedDeviceKeys, HashSet.mem_insertAll, List.mem_map] at hMem
    rcases hMem with ⟨device, -, rfl⟩ | hOld
    · exact ⟨device.id, rfl⟩
    · exact h.named key hOld
  | forgotten => exact h.mono h.named fun _ _ i hBinds => binds_dropDevice hBinds
  | _ => exact ⟨h.named, h.unique⟩

/-- A deleted key stands until its device registers with it. -/
theorem KeysBound.kept (h : KeysBound (storeAfter calls)) (hKeeps : KeepsKeys calls call)
    {publicKey : String}
    (hMem : ⟨userId, some deviceId, publicKey⟩ ∈ (storeAfter calls).deletedDeviceKeys)
    (hWaits : ¬ (Registers calls call userId deviceId publicKey ∧
      answerAfter calls call = .ok (.registered deviceId))) :
    ⟨userId, some deviceId, publicKey⟩ ∈ (storeAfter (calls ++ [call])).deletedDeviceKeys := by
  have hEffect := effect_snoc calls call
  obtain ⟨env, request⟩ := call
  generalize storeAfter (calls ++ [(env, request)]) = t at hEffect ⊢
  have hCleared {headers : Headers} {request' : RegisterDeviceRequest} {requesterId clearedId : Uuid}
      (hRequest : request = .registerDevice headers request')
      (hUser : authorizeOrDefault (storeAfter calls) headers = .ok requesterId)
      (hUnblocked : request'.deviceId.getD (env.uuid 0) ∉ (storeAfter calls).devices →
        deletedDeviceKeyDecision env (storeAfter calls) requesterId
          (request'.deviceId.getD (env.uuid 0)) request'.publicKey ≠ .blockDuplicateIdentity)
      (hId : registeredDeviceId env (storeAfter calls) requesterId
        (request'.deviceId.getD (env.uuid 0)) request'.publicKey = clearedId)
      (hSaves : env.Saves (.ok (.registered clearedId)) (answerAfter calls (env, request))) :
      (⟨userId, some deviceId, publicKey⟩ : DeletedDeviceKey).clearedBy requesterId clearedId
        request'.publicKey = false := by
    rw [← Bool.not_eq_true, clearedBy_eq_true]
    rintro ⟨rfl, rfl, rfl⟩
    have hRequested := requestedDeviceId_of_cleared hUnblocked hId hMem
    subst hRequest
    have hSave : env.save = .ok () := (hKeeps _ hUser (hRequested ▸ h.reactivates hMem)).1
    exact hWaits ⟨⟨headers, request', rfl, hUser, hRequested, rfl⟩, hSaves.eq hSave⟩
  generalize answerAfter calls (env, request) = answer at hEffect hCleared hWaits
  cases hEffect with
  | added hUser hName hUnblocked hId hNew hSaves =>
    exact mem_clearDeleted.mpr ⟨hMem, hCleared rfl hUser hUnblocked hId hSaves⟩
  | refreshed hUser hUnblocked hId hDevice hOwner hKey hSaves =>
    exact mem_clearDeleted.mpr ⟨hMem, hCleared rfl hUser hUnblocked hId hSaves⟩
  | deleted =>
    rw [Store.withoutDevices_deletedDeviceKeys, HashSet.mem_insertAll]
    exact .inr hMem
  | _ => exact hMem

/-- A deletion leaves the keys of what it removes. -/
theorem Removes.mem {device : Device} (h : Removes calls call userId device) :
    ⟨userId, some device.id, device.publicKey⟩ ∈
      (storeAfter (calls ++ [call])).deletedDeviceKeys := by
  obtain ⟨scope, deleted, hMem, -, hStore⟩ := h.exists_store_eq
  rw [hStore, Store.withoutDevices_deletedDeviceKeys, HashSet.mem_insertAll]
  exact .inl (List.mem_map_of_mem hMem)

/-- The deleted keys of a run are bound to the devices that wait to be registered again. -/
structure KeysKept (calls : List (Call C)) : Prop where
  bound : KeysBound (storeAfter calls)
  deleted : ∀ userId deviceId publicKey, Deleted calls userId deviceId publicKey →
    ⟨userId, some deviceId, publicKey⟩ ∈ (storeAfter calls).deletedDeviceKeys

theorem keysKept_nil : KeysKept ([] : List (Call C)) where
  bound :=
    { named := fun _ hMem => absurd hMem (AList.notMem_empty _)
      unique := by
        rintro _ _ _ _ (⟨_, hGet, -⟩ | hMem) -
        · exact nomatch hGet
        · exact absurd hMem (AList.notMem_empty _) }
  deleted _ _ _ h := absurd h not_since_nil

theorem KeysKept.snoc (h : KeysKept calls) (hKeeps : KeepsKeys calls call) :
    KeysKept (calls ++ [call]) where
  bound := h.bound.snoc hKeeps
  deleted userId deviceId publicKey hDeleted := by
    rcases since_snoc.mp hDeleted with ⟨device, hRemoves, rfl, rfl⟩ | ⟨hBefore, hWaits⟩
    · exact hRemoves.mem
    · exact h.bound.kept hKeeps (h.deleted userId deviceId publicKey hBefore) hWaits

theorem keysKept (h : Throughout KeepsKeys calls) : KeysKept calls :=
  history_induction (I := KeysKept) keysKept_nil (fun _ _ hCalls hCall => hCalls.snoc hCall) h

/-- The registration of a new device succeeds if nothing stands against it. -/
theorem registerDevice_ends {s : AppState C} {headers : Headers} {request : RegisterDeviceRequest}
    (hUser : authorizeOrDefault s.inner headers = .ok userId) (hName : trimmed request.name ≠ "")
    (hUnblocked : deletedDeviceKeyDecision env s.inner userId (request.deviceId.getD (env.uuid 0))
      request.publicKey ≠ .blockDuplicateIdentity)
    (hId : registeredDeviceId env s.inner userId (request.deviceId.getD (env.uuid 0))
      request.publicKey = deviceId)
    (hNew : s.inner.devices.get? deviceId = none) (hSave : env.save = .ok ()) :
    Ends (handle env (.registerDevice headers request))
      (fun response _ => response = .registered deviceId) s := by
  simp only [handle, registerDevice, putRegisteredDevice, meets_bind, meets_lock, hUser,
    meets_ofExcept_ok, meets_refuseIf, hId, hNew, meets_modifyStore, meets_saveLocked, meets_pure]
  refine ⟨fun _ => ⟨fun _ => ⟨fun _ => trivial, fun error hError => ?_⟩, fun hBlocked => ?_⟩,
    fun hBlank => hName hBlank⟩
  · exact absurd hError (save_ne_error hSave)
  · exact hUnblocked hBlocked.2

/-- A deleted device can be registered again. -/
theorem KeysKept.revived (h : KeysKept calls) (hKeeps : KeepsKeys calls call) {publicKey : String}
    (hRegisters : Registers calls call userId deviceId publicKey)
    (hDeleted : Deleted calls userId deviceId publicKey)
    (hNew : (storeAfter calls).devices.get? deviceId = none) :
    answerAfter calls call = .ok (.registered deviceId) := by
  obtain ⟨env, request⟩ := call
  obtain ⟨headers, request, rfl, hUser, rfl, rfl⟩ := hRegisters
  have hMem := h.deleted userId _ _ hDeleted
  have hDecision : deletedDeviceKeyDecision env (storeAfter calls) userId _ _ =
      .reactivateSameIdentity := h.bound.reactivates hMem
  obtain ⟨hSave, hName⟩ := hKeeps userId hUser hDecision
  have hRequested : request.deviceId.getD (env.uuid 0) ∉ (storeAfter calls).devices :=
    AList.lookup_eq_none.mp hNew
  -- A device with the key would be the deleted one.
  have hFree (i : Uuid) : ¬ (storeAfter calls).carries userId request.publicKey i := by
    intro hCarries
    obtain rfl := h.bound.unique userId _ _ _ (.inl hCarries) (.inr hMem)
    obtain ⟨device, hGet, -⟩ := hCarries
    exact nomatch hNew.symm.trans hGet
  have hEnds := registerDevice_ends hUser (hName hRequested) (hDecision ▸ nofun)
    (registeredDeviceId_free hRequested hFree) hNew hSave
  obtain ⟨response, hAnswer, rfl⟩ := hEnds.exists_answer
  exact hAnswer

/-- The public keys identify the devices in every run in which no device is given the key of
another, and in which each deleted device comes back with a name and is saved. -/
theorem keys_identify (h : Throughout KeepsKeys calls) : KeysIdentify calls where
  unique userId publicKey i j hI hJ :=
    (keysKept h).bound.unique userId publicKey i j (.inl hI) (.inl hJ)
  kept userId deviceId publicKey hDeleted i hCarries :=
    (keysKept h).bound.unique userId publicKey i deviceId (.inl hCarries)
      (.inr ((keysKept h).deleted userId deviceId publicKey hDeleted))
  revived before call later hSplit userId deviceId publicKey hRegisters hDeleted hNew := by
    have hBefore : Throughout KeepsKeys before := Throughout.of_append (hSplit ▸ h)
    exact (keysKept hBefore).revived (h before call later hSplit) hRegisters hDeleted hNew

end Runs

section Samples

/-- A device is deleted and registered again. -/
def returningCalls : List (Call Unit) :=
  [registration 0 10 "key a", (.usual 1 0, .deleteDevice ⟨none⟩ 10), registration 2 10 "key a"]

theorem keys_identify_returning : @KeysIdentify Unit .hyphenated returningCalls := by
  let text := UuidText.hyphenated
  have hName : trimmed "desk" ≠ "" := by decide
  refine keys_identify (throughout_snoc.mpr ⟨throughout_snoc.mpr ⟨throughout_snoc.mpr
    ⟨throughout_nil, fun _ _ _ => ?_⟩, trivial⟩, fun _ _ _ => ?_⟩)
  · exact ⟨rfl, fun _ => hName⟩
  · exact ⟨rfl, fun _ => hName⟩

/-- A device is authorised again with the key of another. -/
def sharedKeyCalls : List (Call Unit) :=
  [registration 0 10 "key a", registration 1 11 "key b",
    (.usual 2 0, .reauthorizeDevice ⟨none⟩ 11 ⟨"key a"⟩)]

theorem not_keysIdentify : ¬ ∀ calls : List (Call Unit), @KeysIdentify Unit .hyphenated calls := by
  let text := UuidText.hyphenated
  intro h
  have hFirst : (storeAfter sharedKeyCalls).carries defaultUserId "key a" 10 :=
    ⟨⟨10, defaultUserId, "desk", .client, "linux", "6", "1", "key a", false, 0, 0, 1, 1⟩,
      by decide, rfl, rfl⟩
  have hSecond : (storeAfter sharedKeyCalls).carries defaultUserId "key a" 11 :=
    ⟨⟨11, defaultUserId, "desk", .client, "linux", "6", "1", "key a", false, 1, 2, 2, 1⟩,
      by decide, rfl, rfl⟩
  have hEq := (h sharedKeyCalls).unique defaultUserId "key a" 10 11 hFirst hSecond
  revert hEq
  decide

end Samples

end Kmsync.Server
