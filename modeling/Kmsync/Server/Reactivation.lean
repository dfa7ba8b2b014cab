import Kmsync.Server.DeviceKeys

/-! Devices that come back after they were deleted.  A tombstone outlives the registration if it is
under another name than the one the registration gives, and waits there for the device to be
renamed.  -/

namespace Kmsync.Server

open ProofKit

variable {C : Type}

section Runs

variable [UuidText]

/-- A user registers a device again, with the key with which it was deleted. -/
def Reactivates (before : List (Call C)) (call : Call C) (userId deviceId : Uuid) : Prop :=
  ∃ first deletion rest device, before = first ++ deletion :: rest ∧
    Removes first deletion userId device ∧ device.id = deviceId ∧
    Registers before call userId deviceId device.publicKey ∧
    answerAfter before call = .ok (.registered deviceId)

/-- A heartbeat of a device that is enabled, with what it presents. -/
def Beats (before : List (Call C)) (call : Call C) (userId deviceId : Uuid) (device : Device)
    (presence : Presence) : Prop :=
  ∃ headers publicIp request presenceVersion,
    call.2 = .heartbeat headers publicIp deviceId request ∧
    authorizeOrDefault (storeAfter before) headers = .ok userId ∧
    (storeAfter before).devices.get? deviceId = some device ∧ device.userId = userId ∧
    device.disabled = false ∧
    presence = heartbeatPresence userId deviceId publicIp request call.1.now presenceVersion

/-- A deletion removes the device, or one that presented what a heartbeat of the device presents
later. -/
def ReleasedBy (before : List (Call C)) (call : Call C) (later : List (Call C))
    (userId deviceId : Uuid) : Prop :=
  ∃ removed, Removes before call userId removed ∧ (removed.id = deviceId ∨
    ∃ x, (storeAfter before).presence.get? removed.id = some x ∧
      ∃ next beat last device y, later = next ++ beat :: last ∧
        Beats (before ++ call :: next) beat userId deviceId device y ∧
        removed.SameName device ∧ x.Meets y)

def Released (calls : List (Call C)) (userId deviceId : Uuid) (later : List (Call C)) : Prop :=
  ∃ first call rest, later = first ++ call :: rest ∧
    ReleasedBy (calls ++ first) call rest userId deviceId

/-- The device stays registered, and its heartbeats succeed, until a deletion releases it. -/
structure StaysActive (calls : List (Call C)) (userId deviceId : Uuid) (later : List (Call C)) :
    Prop where
  registered : ∀ middle, middle <+: later → ¬ Released calls userId deviceId middle →
    (storeAfter (calls ++ middle)).owns userId deviceId
  succeeds : Throughout (fun middle call => ∀ device presence,
    Beats (calls ++ middle) call userId deviceId device presence →
      ¬ Released calls userId deviceId (middle ++ [call]) →
      ∃ response, answerAfter (calls ++ middle) call = .ok (.presence response)) later

/-- A tombstone has stood all the time. -/
def Stood (calls middle : List (Call C)) (key : DeletedPresentedDeviceKey) : Prop :=
  ∀ earlier, earlier <+: middle → key ∈ (storeAfter (calls ++ earlier)).deletedPresentedDevices

/-- If the call is a heartbeat of the device, it can be saved and meets no tombstone that has stood
since the registration. -/
def MeetsNoOld (calls : List (Call C)) (userId deviceId : Uuid) (middle : List (Call C))
    (call : Call C) : Prop :=
  ∀ device presence, Beats (calls ++ middle) call userId deviceId device presence →
    call.1.save = .ok () ∧
      ∀ key ∈ deletedPresentedDeviceKeysForPresence userId device presence,
        ¬ Stood calls middle key

end Runs

section Steps

variable [UuidText] {calls middle : List (Call C)} {call : Call C} {userId deviceId : Uuid}
  {device : Device} {presence : Presence} {key : DeletedPresentedDeviceKey}

omit [UuidText] in
theorem meetsTombstone_presence {s : Store C} {publicIp : String} {request : HeartbeatRequest}
    {now presenceVersion : UInt64} :
    meetsTombstone s userId device publicIp request = true ↔
      ∃ key ∈ deletedPresentedDeviceKeysForPresence userId device
        (heartbeatPresence userId deviceId publicIp request now presenceVersion),
        key ∈ s.deletedPresentedDevices := by
  simp only [meetsTombstone, List.any_eq_true, decide_eq_true_eq]
  exact Iff.rfl

/-- A call plants the tombstones of the devices that it removes, and no others. -/
theorem tombstone_snoc (h : key ∈ (storeAfter (calls ++ [call])).deletedPresentedDevices) :
    key ∈ (storeAfter calls).deletedPresentedDevices ∨
      ∃ ownerId removed x, Removes calls call ownerId removed ∧
        (storeAfter calls).presence.get? removed.id = some x ∧
        key ∈ deletedPresentedDeviceKeysForPresence ownerId removed x := by
  have hEffect := effect_snoc calls call
  obtain ⟨env, request⟩ := call
  generalize storeAfter (calls ++ [(env, request)]) = t at hEffect h
  generalize answerAfter calls (env, request) = answer at hEffect
  have hKept {stones : HashSet DeletedPresentedDeviceKey} {p : Prop} [Decidable p]
      {keep : DeletedPresentedDeviceKey → Bool}
      (hMem : key ∈ if p then stones.retain keep else stones) : key ∈ stones := by
    split at hMem
    next => exact (HashSet.mem_retain.mp hMem).1
    next => exact hMem
  cases hEffect with
  | added =>
    rw [Store.clearDeleted_deletedPresentedDevices] at h
    exact .inl (hKept h)
  | refreshed =>
    rw [Store.clearDeleted_deletedPresentedDevices] at h
    exact .inl (hKept h)
  | @deleted headers targetId ownerId _ hUser hOwns =>
    rcases mem_deletedPresentedDevices.mp h with ⟨-, removed, hRemoved, x, hPresent, hKey⟩ | hOld
    · exact .inr ⟨ownerId, removed, x, ⟨headers, targetId, rfl, hUser, hOwns, hRemoved⟩, hPresent,
        hKey⟩
    · exact .inl hOld
  | _ => exact .inl h

/-- A device is lost to its user by a deletion that removes it, or a heartbeat that meets a
tombstone. -/
theorem owns_snoc (h : (storeAfter calls).owns userId deviceId) :
    (storeAfter (calls ++ [call])).owns userId deviceId ∨
      (∃ removed, Removes calls call userId removed ∧ removed.id = deviceId) ∨
      ∃ device presence, Beats calls call userId deviceId device presence ∧
        ∃ key ∈ deletedPresentedDeviceKeysForPresence userId device presence,
          key ∈ (storeAfter calls).deletedPresentedDevices := by
  have hEffect := effect_snoc calls call
  have hKeyed := keyed_storeAfter calls
  obtain ⟨env, request⟩ := call
  generalize storeAfter (calls ++ [(env, request)]) = t at hEffect ⊢
  generalize answerAfter calls (env, request) = answer at hEffect
  have hReplaced {changedId : Uuid} {before changed : Device}
      (hDevice : (storeAfter calls).devices.get? changedId = some before)
      (hSame : changed.userId = before.userId) :
      ((storeAfter calls).putDevice changedId changed).owns userId deviceId := by
    refine h.putDevice fun found hGet => ?_
    obtain rfl := Option.some.inj (hDevice.symm.trans hGet)
    exact hSame
  cases hEffect with
  | added hUser hName hUnblocked hId hNew =>
    exact .inl (h.putDevice fun _ hGet => nomatch hNew.symm.trans hGet)
  | refreshed hUser hUnblocked hId hDevice => exact .inl (hReplaced hDevice rfl)
  | updated hUser hDevice => exact .inl (hReplaced hDevice rfl)
  | reauthorized hUser hKey hDevice => exact .inl (hReplaced hDevice rfl)
  | @deleted headers targetId ownerId _ hUser hOwns =>
    by_cases hRemoved : deviceId ∈ (deletedDevices env (storeAfter calls) ownerId targetId).map (·.id)
    · obtain ⟨removed, hMem, rfl⟩ := List.mem_map.mp hRemoved
      obtain ⟨device, hGet, hOwner⟩ := h
      obtain ⟨hGet', hOwner'⟩ := mem_deletedDevices_owned hKeyed hOwns hMem
      obtain rfl := Option.some.inj (hGet.symm.trans hGet')
      obtain rfl := hOwner'.symm.trans hOwner
      exact .inr (.inl ⟨device, ⟨headers, targetId, rfl, hUser, hOwns, hMem⟩, rfl⟩)
    · exact .inl (h.withoutDevices hRemoved)
  | @forgotten headers publicIp beatId ownerId request device _ hUser hDevice hOwner hEnabled
      hTombstone =>
    by_cases hEq : deviceId = beatId
    · subst hEq
      obtain ⟨found, hGet, hOwner'⟩ := h
      obtain rfl := Option.some.inj (hGet.symm.trans hDevice)
      obtain rfl := hOwner.symm.trans hOwner'
      exact .inr (.inr ⟨found, _, ⟨headers, publicIp, request, 0, rfl, hUser, hDevice, hOwner,
        hEnabled, rfl⟩, meetsTombstone_presence.mp hTombstone⟩)
    · exact .inl (h.dropDevice hEq)
  | _ => exact .inl h

/-- A heartbeat that meets no tombstone succeeds. -/
theorem Beats.answer (h : Beats calls call userId deviceId device presence)
    (hNone : ∀ key ∈ deletedPresentedDeviceKeysForPresence userId device presence,
      key ∉ (storeAfter calls).deletedPresentedDevices) (hSave : call.1.save = .ok ()) :
    ∃ response, answerAfter calls call = .ok (.presence response) := by
  obtain ⟨env, request⟩ := call
  obtain ⟨headers, publicIp, request, presenceVersion, rfl, hUser, hDevice, hOwner, hEnabled, rfl⟩
    := h
  have hTombstone : ¬ meetsTombstone (storeAfter calls) userId device publicIp request = true := by
    intro hMeets
    obtain ⟨key, hKey, hStands⟩ := meetsTombstone_presence.mp hMeets
    exact hNone key hKey hStands
  have hEnds : Ends (handle env (.heartbeat headers publicIp deviceId request))
      (fun response _ => ∃ beat, response = .presence beat) (after serve .start calls) := by
    rw [storeAfter] at hUser hDevice hTombstone
    simp only [handle, heartbeat, recordHeartbeat, meets_bind, meets_lock, hUser, meets_ofExcept_ok,
      hDevice, meets_orRefuse, meets_refuseIf, Option.some.injEq, forall_eq']
    refine ⟨⟨fun _ => ⟨fun _ => ?_, fun hDisabled => ?_⟩, fun hForeign => hForeign hOwner⟩,
      fun hNone => by cases hNone⟩
    · rw [if_neg hTombstone]
      simp only [meets_bind, meets_lock, meets_modifyStore, meets_saveLocked, meets_publishIf,
        meets_pure]
      refine ⟨fun _ => ⟨_, rfl⟩, fun error hError => ?_⟩
      exact absurd hError (save_ne_error hSave)
    · exact Bool.false_ne_true (hEnabled.symm.trans hDisabled)
  obtain ⟨response, hAnswer, beat, rfl⟩ := hEnds.exists_answer
  exact ⟨beat, hAnswer⟩

/-- A registration that succeeds leaves its device to the user. -/
theorem Registers.owns {publicKey : String} (h : Registers calls call userId deviceId publicKey)
    (hAnswer : answerAfter calls call = .ok (.registered deviceId)) :
    (storeAfter (calls ++ [call])).owns userId deviceId := by
  have hEffect := effect_snoc calls call
  obtain ⟨env, request⟩ := call
  obtain ⟨headers, request, rfl, hUser, -, -⟩ := h
  rw [hAnswer] at hEffect
  generalize storeAfter (calls ++ [(env, .registerDevice headers request)]) = t at hEffect ⊢
  cases hEffect with
  | account hRequest => contradiction
  | signalled hRequest => contradiction
  | added hUser' hName hUnblocked hId hNew hSaves =>
    obtain rfl := Except.ok.inj (hUser.symm.trans hUser')
    cases hSaves with
    | saved => exact ⟨_, HashMap.get?_insert_self, rfl⟩
  | refreshed hUser' hUnblocked hId hDevice hOwner hKey hSaves =>
    obtain rfl := Except.ok.inj (hUser.symm.trans hUser')
    cases hSaves with
    | saved => exact ⟨_, HashMap.get?_insert_self, hOwner⟩

end Steps

section Invariant

variable [UuidText] {calls middle : List (Call C)} {call : Call C} {userId deviceId : Uuid}
  {device : Device} {presence : Presence} {key : DeletedPresentedDeviceKey}

/-- A deletion behind the registration has planted a tombstone. -/
def Planted (calls middle : List (Call C)) (userId : Uuid) (key : DeletedPresentedDeviceKey) :
    Prop :=
  ∃ first call rest removed x, middle = first ++ call :: rest ∧
    Removes (calls ++ first) call userId removed ∧
    (storeAfter (calls ++ first)).presence.get? removed.id = some x ∧
    key ∈ deletedPresentedDeviceKeysForPresence userId removed x

theorem stood_or_planted (hUser : key.userId = userId)
    (h : key ∈ (storeAfter (calls ++ middle)).deletedPresentedDevices) :
    Stood calls middle key ∨ Planted calls middle userId key := by
  induction middle using List.reverseRecOn with
  | nil =>
    refine .inl fun earlier hPrefix => ?_
    rw [List.prefix_nil.mp hPrefix]
    exact h
  | append_singleton middle call ih =>
    have hMem := h
    rw [← List.append_assoc] at hMem
    rcases tombstone_snoc hMem with hBefore | ⟨ownerId, removed, x, hRemoves, hPresent, hKey⟩
    · rcases ih hBefore with hStood | ⟨first, deletion, rest, removed, x, rfl, hRemoves⟩
      · refine .inl fun earlier hPrefix => ?_
        rcases List.prefix_concat_iff.mp hPrefix with rfl | hEarlier
        · exact h
        · exact hStood earlier hEarlier
      · refine .inr ⟨first, deletion, rest ++ [call], removed, x, ?_, hRemoves⟩
        rw [List.append_assoc, List.cons_append]
    · obtain rfl := (userId_of_mem_keys hKey).symm.trans hUser
      exact .inr ⟨middle, call, [], removed, x, rfl, hRemoves, hPresent, hKey⟩

theorem not_stood_of_keys (h : (storeAfter calls).deletedPresentedDevices.keys = []) :
    ¬ Stood calls middle key := by
  intro hStood
  have hMem := hStood [] List.nil_prefix
  rw [List.append_nil, AList.mem_keys, h] at hMem
  exact List.not_mem_nil hMem

theorem Released.snoc (h : Released calls userId deviceId middle) (call : Call C) :
    Released calls userId deviceId (middle ++ [call]) := by
  obtain ⟨first, deletion, rest, rfl, removed, hRemoves, hReleases⟩ := h
  refine ⟨first, deletion, rest ++ [call], by rw [List.append_assoc, List.cons_append], removed,
    hRemoves, hReleases.imp_right ?_⟩
  rintro ⟨x, hPresent, next, beat, last, device, y, rfl, hBeats⟩
  refine ⟨x, hPresent, next, beat, last ++ [call], device, y, ?_, hBeats⟩
  rw [List.append_assoc, List.cons_append]

/-- A heartbeat that meets a tombstone meets an old one, or one of a deletion that releases its
device. -/
theorem Beats.stood_or_released (h : Beats (calls ++ middle) call userId deviceId device presence)
    (hKey : key ∈ deletedPresentedDeviceKeysForPresence userId device presence)
    (hStands : key ∈ (storeAfter (calls ++ middle)).deletedPresentedDevices) :
    Stood calls middle key ∨ Released calls userId deviceId (middle ++ [call]) := by
  refine (stood_or_planted (userId_of_mem_keys hKey) hStands).imp_right ?_
  rintro ⟨first, deletion, rest, removed, x, rfl, hRemoves, hPresent, hPlanted⟩
  have hAlike : removed.SameName device ∧ x.Meets presence :=
    exists_common_key.mp ⟨key, hPlanted, hKey⟩
  refine ⟨first, deletion, rest ++ [call], by rw [List.append_assoc, List.cons_append], removed,
    hRemoves, .inr ⟨x, hPresent, rest, call, [], device, presence, rfl, ?_, hAlike⟩⟩
  rwa [← List.append_assoc] at h

/-- The device is registered after each call that meets no old tombstone, or released. -/
theorem owns_or_released (hStart : (storeAfter calls).owns userId deviceId)
    (h : Throughout (MeetsNoOld calls userId deviceId) middle) :
    Released calls userId deviceId middle ∨
      (storeAfter (calls ++ middle)).owns userId deviceId := by
  induction middle using List.reverseRecOn with
  | nil =>
    rw [List.append_nil]
    exact .inr hStart
  | append_singleton middle call ih =>
    obtain ⟨hBefore, hCall⟩ := throughout_snoc.mp h
    rcases ih hBefore with hReleased | hOwns
    · exact .inl (hReleased.snoc call)
    · rw [← List.append_assoc]
      rcases owns_snoc hOwns with hKept | ⟨removed, hRemoves, hId⟩ |
        ⟨device, presence, hBeats, key, hKey, hStands⟩
      · exact .inr hKept
      · exact .inl ⟨middle, call, [], rfl, removed, hRemoves, .inl hId⟩
      · refine .inl ((hBeats.stood_or_released hKey hStands).resolve_left ?_)
        exact (hCall device presence hBeats).2 key hKey

/-- A device that was registered again stays active as long as its heartbeats meet no tombstone that
the registration has left. -/
theorem stays_active {before later : List (Call C)}
    (hReactivates : Reactivates before call userId deviceId)
    (h : Throughout (MeetsNoOld (before ++ [call]) userId deviceId) later) :
    StaysActive (before ++ [call]) userId deviceId later := by
  obtain ⟨first, deletion, rest, device, -, -, -, hRegisters, hAnswer⟩ := hReactivates
  have hOwns := hRegisters.owns hAnswer
  constructor
  · rintro middle ⟨later, rfl⟩ hReleased
    exact (owns_or_released hOwns h.of_append).resolve_left hReleased
  · rintro middle beat rest rfl device presence hBeats hReleased
    obtain ⟨hSave, hNoOld⟩ := h middle beat rest rfl device presence hBeats
    refine hBeats.answer (fun key hKey hStands => ?_) hSave
    exact (hBeats.stood_or_released hKey hStands).elim (hNoOld key hKey) hReleased

end Invariant

section Renamed

def sampleHeartbeat (now : UInt64) : Call Unit :=
  (.usual now 0, .heartbeat ⟨none⟩ "5.5.5.5" 10 ⟨["10.0.0.2"], 4000, none, none⟩)

/-- A device is deleted after a heartbeat. -/
def deletedCalls : List (Call Unit) :=
  [registration 0 10 "key a", sampleHeartbeat 1, (.usual 2 0, .deleteDevice ⟨none⟩ 10)]

/-- The device is registered again under a name. -/
def returning (name : String) : Call Unit :=
  (.usual 3 0, .registerDevice ⟨none⟩ ⟨some 10, name, none, "linux", "6", "1", "key a"⟩)

def sampleRename : Call Unit := (.usual 4 0, .updateDevice ⟨none⟩ 10 ⟨some "desk", none⟩)

def deskDevice : Device :=
  ⟨10, defaultUserId, "desk", .client, "linux", "6", "1", "key a", false, 0, 0, 1, 1⟩

theorem removes_deskDevice :
    @Removes Unit .hyphenated (deletedCalls.take 2) (.usual 2 0, .deleteDevice ⟨none⟩ 10)
      defaultUserId deskDevice := by
  let text := UuidText.hyphenated
  exact ⟨⟨none⟩, 10, rfl, rfl, ⟨deskDevice, by decide +kernel, rfl⟩, by decide +kernel⟩

theorem reactivates_returning {name : String}
    (h : @answerAfter Unit .hyphenated deletedCalls (returning name) = .ok (.registered 10)) :
    @Reactivates Unit .hyphenated deletedCalls (returning name) defaultUserId 10 :=
  ⟨deletedCalls.take 2, (.usual 2 0, .deleteDevice ⟨none⟩ 10), [], deskDevice, rfl,
    removes_deskDevice, rfl, ⟨⟨none⟩, _, rfl, rfl, rfl, rfl⟩, h⟩

theorem stays_active_desk :
    @StaysActive Unit .hyphenated (deletedCalls ++ [returning "desk"]) defaultUserId 10
      [sampleHeartbeat 4] := by
  let text := UuidText.hyphenated
  have hNoOld : MeetsNoOld (deletedCalls ++ [returning "desk"]) defaultUserId 10 []
      (sampleHeartbeat 4) :=
    fun _ _ _ => ⟨rfl, fun _ _ => not_stood_of_keys (by decide +kernel)⟩
  have hAll : Throughout (MeetsNoOld (deletedCalls ++ [returning "desk"]) defaultUserId 10)
      ([] ++ [sampleHeartbeat 4]) := throughout_snoc.mpr ⟨throughout_nil, hNoOld⟩
  exact stays_active (reactivates_returning (by decide +kernel)) hAll

/-- The device comes back under another name and is given its old one again, under which its
tombstone has stood. -/
theorem not_staysActive :
    ¬ ∀ (calls later : List (Call Unit)) (call : Call Unit) (userId deviceId : Uuid),
      @Reactivates Unit .hyphenated calls call userId deviceId →
        @StaysActive Unit .hyphenated (calls ++ [call]) userId deviceId later := by
  let text := UuidText.hyphenated
  intro h
  have hStays := h deletedCalls [sampleRename, sampleHeartbeat 5] (returning "laptop")
    defaultUserId 10 (reactivates_returning (by decide +kernel))
  have hBeats : Beats (deletedCalls ++ [returning "laptop"] ++ [sampleRename]) (sampleHeartbeat 5)
      defaultUserId 10 { deskDevice with
        createdAt := 3, updatedAt := 4, deviceVersion := 2, nameVersion := 2 }
      (heartbeatPresence defaultUserId 10 "5.5.5.5" ⟨["10.0.0.2"], 4000, none, none⟩ 5 1) :=
    ⟨⟨none⟩, "5.5.5.5", _, 1, rfl, rfl, by decide +kernel, rfl, rfl, rfl⟩
  have hUnreleased : ¬ Released (deletedCalls ++ [returning "laptop"]) defaultUserId 10
      ([sampleRename] ++ [sampleHeartbeat 5]) := by
    rintro ⟨first, deletion, rest, hSplit, removed, ⟨headers, targetId, hRequest, -⟩, -⟩
    have hMem : deletion ∈ [sampleRename, sampleHeartbeat 5] := by
      show deletion ∈ [sampleRename] ++ [sampleHeartbeat 5]
      rw [hSplit]
      exact List.mem_append_right first List.mem_cons_self
    simp only [List.mem_cons, List.not_mem_nil, or_false] at hMem
    rcases hMem with rfl | rfl
    · exact nomatch hRequest
    · exact nomatch hRequest
  obtain ⟨response, hAnswer⟩ :=
    hStays.succeeds [sampleRename] (sampleHeartbeat 5) [] rfl _ _ hBeats hUnreleased
  have hRefused : answerAfter (deletedCalls ++ [returning "laptop"] ++ [sampleRename])
      (sampleHeartbeat 5) = .error (.forbidden "device was deleted") := by decide +kernel
  exact nomatch hRefused.symm.trans hAnswer

end Renamed

end Kmsync.Server
