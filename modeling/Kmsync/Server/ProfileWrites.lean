import Kmsync.Server.Effects

/-! How requests change the profiles, and which profiles a run has had.  A profile is created with
version 1 or takes the place of one that is current; a deletion only takes profiles away. -/

namespace Kmsync.Server

open ProofKit

variable {C : Type}

section Keyed

/-- Every profile is stored under its id, the earlier ones as well. -/
structure ProfilesKeyed (s : Store C) : Prop where
  current : ∀ id profile, s.profiles.get? id = some profile → profile.id = id
  earlier : ∀ id profiles, s.profileHistory.get? id = some profiles →
    ∀ profile ∈ profiles, profile.id = id

/-- What stands in the history after a write. -/
theorem mem_history_writeProfile {s : Store C} {id foundId : String}
    {written profile : DeviceProfile C} {profiles : List (DeviceProfile C)}
    (hGet : (s.writeProfile id written).profileHistory.get? foundId = some profiles)
    (hMem : profile ∈ profiles) :
    (∃ before, s.profileHistory.get? foundId = some before ∧ profile ∈ before) ∨
      s.profiles.get? foundId = some profile := by
  rw [Store.writeProfile_profileHistory] at hGet
  cases hExisting : s.profiles.get? id with
  | none =>
    rw [hExisting] at hGet
    exact .inl ⟨profiles, hGet, hMem⟩
  | some existing =>
    simp only [hExisting, HashMap.get?_insert] at hGet
    split at hGet
    next hEq =>
      subst hEq
      obtain rfl := Option.some.inj hGet
      rcases List.mem_append.mp hMem with hOld | hLast
      · cases hHistory : s.profileHistory.get? foundId with
        | none =>
          rw [hHistory] at hOld
          contradiction
        | some before =>
          rw [hHistory] at hOld
          exact .inl ⟨before, rfl, hOld⟩
      · obtain rfl := List.mem_singleton.mp hLast
        exact .inr hExisting
    next => exact .inl ⟨profiles, hGet, hMem⟩

theorem ProfilesKeyed.writeProfile {s : Store C} (h : ProfilesKeyed s) {id : String}
    {profile : DeviceProfile C} (hId : profile.id = id) :
    ProfilesKeyed (s.writeProfile id profile) where
  current foundId found hGet := by
    rcases HashMap.get?_insert_cases hGet with ⟨hEq, rfl⟩ | hOld
    · exact hId.trans hEq.symm
    · exact h.current foundId found hOld
  earlier foundId found hGet earlier hMem := by
    rcases mem_history_writeProfile hGet hMem with ⟨before, hBefore, hOld⟩ | hCurrent
    · exact h.earlier foundId before hBefore earlier hOld
    · exact h.current foundId earlier hCurrent

end Keyed

section Answers

/-- The profiles in an answer. -/
def answeredProfiles (answer : Except ApiError (Response C)) : List (DeviceProfile C) :=
  match answer with
  | .ok response => response.returned
  | .error _ => []

/-- An answer that is given once the store has been saved has the profiles of that answer. -/
theorem Surroundings.Saves.mem_answeredProfiles {env : Surroundings}
    {profile : DeviceProfile C} {ended answer : Except ApiError (Response C)}
    (h : env.Saves ended answer) (hMem : profile ∈ answeredProfiles answer) :
    profile ∈ answeredProfiles ended := by
  cases h with
  | saved => exact hMem
  | failed => contradiction

theorem Surroundings.Saves.ne_profile {env : Surroundings}
    {ended answer : Except ApiError (Response C)}
    (h : env.Saves ended answer) (hEnded : answeredProfiles ended = []) (profile : DeviceProfile C) :
    answer ≠ .ok (.profile profile) := by
  rintro rfl
  have hMem : profile ∈ answeredProfiles ended := h.mem_answeredProfiles List.mem_cons_self
  rw [hEnded] at hMem
  contradiction

end Answers

section Writes

variable [UuidText]

/-- The request creates the profile under an id. -/
def Request.Creates (request : Request C) (s : Store C) (id : String) : Prop :=
  ∃ headers profile userId, request = .upsertProfile headers profile ∧
    authorizeOrDefault s headers = .ok userId ∧ s.owns userId profile.sourceDeviceId ∧
    s.owns userId profile.targetDeviceId ∧
    id = profileId userId profile.sourceDeviceId profile.targetDeviceId ∧
    s.profiles.get? id = none

/-- The request puts another profile in the place of the current one under an id. -/
def Request.Overwrites (request : Request C) (s : Store C) (id : String)
    (current : DeviceProfile C) : Prop :=
  s.profiles.get? id = some current ∧
    ((∃ headers profile userId, request = .upsertProfile headers profile ∧
      authorizeOrDefault s headers = .ok userId ∧ s.owns userId profile.sourceDeviceId ∧
      s.owns userId profile.targetDeviceId ∧
      id = profileId userId profile.sourceDeviceId profile.targetDeviceId ∧
      ∀ expected, profile.expectedVersion = some expected → current.version = expected) ∨
    ∃ headers rollback target, request = .rollbackProfile headers rollback ∧
      authorizeOrDefault s headers = .ok current.userId ∧ id = rollback.profileId ∧
      profileVersion s id rollback.targetVersion = some target)

/-- What a request does to the profiles of a store. -/
inductive ProfilesStep (env : Surroundings) (s : Store C) (request : Request C) :
    Except ApiError (Response C) → Store C → Prop where
  | fewer {answer : Except ApiError (Response C)} {t : Store C}
      (hProfiles : ∀ id profile, t.profiles.get? id = some profile →
        s.profiles.get? id = some profile)
      (hHistory : t.profileHistory = s.profileHistory)
      (hRevision : t.profileRevision = s.profileRevision)
      (hAnswer : ∀ profile, answer ≠ .ok (.profile profile)) : ProfilesStep env s request answer t
  | created {answer : Except ApiError (Response C)} {id : String} {profile : DeviceProfile C}
      (hCreates : request.Creates s id) (hId : profile.id = id) (hVersion : profile.version = 1)
      (hRevision : profile.revision = saturatingNext s.profileRevision)
      (hSaves : env.Saves (.ok (.profile profile)) answer) :
      ProfilesStep env s request answer (s.writeProfile id profile)
  | overwritten {answer : Except ApiError (Response C)} {id : String}
      {current profile : DeviceProfile C} (hOverwrites : request.Overwrites s id current)
      (hId : profile.id = id) (hVersion : profile.version = saturatingNext current.version)
      (hRevision : profile.revision = saturatingNext s.profileRevision)
      (hSaves : env.Saves (.ok (.profile profile)) answer) :
      ProfilesStep env s request answer (s.writeProfile id profile)

variable {env : Surroundings} {s t : Store C} {request : Request C}
  {answer : Except ApiError (Response C)}

theorem Effect.profilesStep (hEffect : Effect env s request answer t) (h : ProfilesKeyed s) :
    ProfilesStep env s request answer t := by
  cases hEffect with
  | deleted _ _ hSaves =>
    refine .fewer (fun id profile hGet => ?_) rfl rfl (hSaves.ne_profile rfl)
    rw [Store.withoutDevices_profiles, HashMap.get?_retain_eq_some_iff] at hGet
    exact hGet.1
  | @upserted headers request userId answer hUser hSource hTarget hExpected hSaves =>
    cases hGet : s.profiles.get?
        (profileId userId request.sourceDeviceId request.targetDeviceId) with
    | none =>
      refine .created ⟨headers, request, userId, rfl, hUser, hSource, hTarget, rfl, hGet⟩ rfl ?_ rfl
        hSaves
      simp only [UpsertProfileRequest.profile, hGet]
    | some current =>
      refine .overwritten ⟨hGet, .inl ⟨headers, request, userId, rfl, hUser, hSource, hTarget, rfl,
        fun expected hSome => hExpected expected hSome current hGet⟩⟩ rfl ?_ rfl hSaves
      simp only [UpsertProfileRequest.profile, hGet]
  | @rolledBack headers request userId current target answer hUser hCurrent hOwner hTarget hSaves =>
    exact .overwritten ⟨hCurrent, .inr ⟨headers, request, target, rfl, hOwner ▸ hUser, rfl,
      hTarget⟩⟩ (h.current _ current hCurrent) rfl rfl hSaves
  | refused | devicesListed | topologyRead | profilesListed | changesListed | absent =>
    exact .fewer (fun _ _ hGet => hGet) rfl rfl fun profile hEq => by cases hEq
  | account _ hAnswer =>
    refine .fewer (fun _ _ hGet => hGet) rfl rfl fun profile hEq => ?_
    exact absurd (hAnswer _ hEq) (List.cons_ne_nil profile [])
  | _ =>
    rename_i hSaves
    exact .fewer (fun _ _ hGet => hGet) rfl rfl (hSaves.ne_profile rfl)

theorem ProfilesStep.keyed (hStep : ProfilesStep env s request answer t) (h : ProfilesKeyed s) :
    ProfilesKeyed t := by
  cases hStep with
  | fewer hProfiles hHistory =>
    refine ⟨fun id profile hGet => h.current id profile (hProfiles id profile hGet), ?_⟩
    rw [hHistory]
    exact h.earlier
  | created _ hId => exact h.writeProfile hId
  | overwritten _ hId => exact h.writeProfile hId

theorem profilesKeyed_storeAfter (calls : List (Call C)) : ProfilesKeyed (storeAfter calls) := by
  induction calls using List.reverseRecOn with
  | nil => exact ⟨nofun, nofun⟩
  | append_singleton calls call ih => exact ((effect_snoc calls call).profilesStep ih).keyed ih

theorem profilesStep_snoc (calls : List (Call C)) (call : Call C) :
    ProfilesStep call.1 (storeAfter calls) call.2 (answerAfter calls call)
      (storeAfter (calls ++ [call])) :=
  (effect_snoc calls call).profilesStep (profilesKeyed_storeAfter calls)

end Writes

section Runs

variable [UuidText] {calls : List (Call C)} {call : Call C} {profile : DeviceProfile C}

/-- The profile was the current one under its id at some time of the run. -/
def EverCurrent (calls : List (Call C)) (profile : DeviceProfile C) : Prop :=
  ∃ before, before <+: calls ∧ (storeAfter before).profiles.get? profile.id = some profile

/-- The profile was given to a client in the run. -/
def Returned (calls : List (Call C)) (profile : DeviceProfile C) : Prop :=
  ∃ before call later, calls = before ++ call :: later ∧
    profile ∈ answeredProfiles (answerAfter before call)

theorem everCurrent_snoc :
    EverCurrent (calls ++ [call]) profile ↔ EverCurrent calls profile ∨
      (storeAfter (calls ++ [call])).profiles.get? profile.id = some profile := by
  constructor
  · rintro ⟨before, hPrefix, hGet⟩
    rcases List.prefix_concat_iff.mp hPrefix with rfl | hEarlier
    · exact .inr hGet
    · exact .inl ⟨before, hEarlier, hGet⟩
  · rintro (⟨before, hPrefix, hGet⟩ | hGet)
    · exact ⟨before, hPrefix.trans (List.prefix_append calls [call]), hGet⟩
    · exact ⟨calls ++ [call], List.prefix_rfl, hGet⟩

theorem EverCurrent.of_get? {id : String}
    (hGet : (storeAfter calls).profiles.get? id = some profile) : EverCurrent calls profile := by
  obtain rfl := (profilesKeyed_storeAfter calls).current id profile hGet
  exact ⟨calls, List.prefix_rfl, hGet⟩

theorem everCurrent_nil {profile : DeviceProfile C} : ¬ EverCurrent ([] : List (Call C)) profile := by
  rintro ⟨before, hPrefix, hGet⟩
  obtain rfl := List.prefix_nil.mp hPrefix
  contradiction

/-- What a written profile adds to the profiles of the run. -/
theorem everCurrent_written {id : String} {written profile : DeviceProfile C}
    (hStore : storeAfter (calls ++ [call]) = (storeAfter calls).writeProfile id written)
    (h : EverCurrent (calls ++ [call]) profile) :
    EverCurrent calls profile ∨ profile.id = id ∧ profile = written := by
  rcases everCurrent_snoc.mp h with hOld | hGet
  · exact .inl hOld
  · rw [hStore] at hGet
    rcases HashMap.get?_insert_cases hGet with hNew | hOld
    · exact .inr hNew
    · exact .inl (.of_get? hOld)

theorem returned_snoc :
    Returned (calls ++ [call]) profile ↔ Returned calls profile ∨
      profile ∈ answeredProfiles (answerAfter calls call) := by
  constructor
  · rintro ⟨before, last, later, hSplit, hMem⟩
    cases later using List.reverseRecOn with
    | nil =>
      obtain ⟨rfl, hLast⟩ := List.append_inj' hSplit rfl
      obtain rfl := List.head_eq_of_cons_eq hLast
      exact .inr hMem
    | append_singleton later _ =>
      rw [← List.cons_append, ← List.append_assoc] at hSplit
      exact .inl ⟨before, last, later, List.append_inj_left' hSplit rfl, hMem⟩
  · rintro (⟨before, earlier, later, rfl, hMem⟩ | hMem)
    · exact ⟨before, earlier, later ++ [call], by simp, hMem⟩
    · exact ⟨calls, call, [], rfl, hMem⟩

/-- What a client is given is current at that time. -/
theorem Effect.current_of_mem {env : Surroundings} {s t : Store C} {request : Request C}
    {answer : Except ApiError (Response C)} (hEffect : Effect env s request answer t)
    (h : ProfilesKeyed s) (hMem : profile ∈ answeredProfiles answer) :
    t.profiles.get? profile.id = some profile := by
  cases hEffect with
  | refused | devicesListed | topologyRead | absent => contradiction
  | account hRequest hAnswer =>
    cases answer with
    | ok response =>
      rw [answeredProfiles, hAnswer response rfl] at hMem
      contradiction
    | error error => contradiction
  | profilesListed hUser =>
    obtain ⟨hValue, -⟩ := List.mem_filter.mp hMem
    obtain ⟨id, hGet⟩ := HashMap.mem_values.mp hValue
    exact (h.current id profile hGet).symm ▸ hGet
  | changesListed hUser hProfiles =>
    obtain ⟨⟨id, hGet⟩, -⟩ := (hProfiles profile).mp hMem
    exact (h.current id profile hGet).symm ▸ hGet
  | upserted hUser hSource hTarget hExpected hSaves =>
    obtain rfl := List.mem_singleton.mp (hSaves.mem_answeredProfiles hMem)
    exact HashMap.get?_insert_self
  | rolledBack hUser hCurrent hOwner hTarget hSaves =>
    obtain rfl := List.mem_singleton.mp (hSaves.mem_answeredProfiles hMem)
    rw [← h.current _ _ hCurrent]
    exact HashMap.get?_insert_self
  | _ =>
    rename_i hSaves
    exact absurd (hSaves.mem_answeredProfiles hMem) List.not_mem_nil

theorem current_of_answered (hMem : profile ∈ answeredProfiles (answerAfter calls call)) :
    (storeAfter (calls ++ [call])).profiles.get? profile.id = some profile :=
  (effect_snoc calls call).current_of_mem (profilesKeyed_storeAfter calls) hMem

/-- What a client was given was current. -/
theorem Returned.everCurrent (h : Returned calls profile) : EverCurrent calls profile := by
  obtain ⟨before, call, later, rfl, hMem⟩ := h
  exact ⟨before ++ [call], ⟨later, by simp⟩, current_of_answered hMem⟩

end Runs

end Kmsync.Server
