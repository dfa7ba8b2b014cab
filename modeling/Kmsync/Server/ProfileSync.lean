import Kmsync.Server.ProfileWrites
import Kmsync.Server.UuidText

/-! A client that keeps a copy of the profiles of its user.  It asks for what has changed since the
revision it has last been given, while others change the store. -/

namespace Kmsync.Server

open ProofKit

section Client

/-- The copy of a client, with the revision it was last given. -/
structure Replica (C : Type) where
  revision : UInt64
  profiles : HashMap String (DeviceProfile C)

variable {C : Type}

def Replica.empty : Replica C := ⟨0, ∅⟩

def Replica.adopt (replica : Replica C) (changes : ProfileChangesResponse C) : Replica C where
  revision := changes.revision
  profiles := replica.profiles.putAll DeviceProfile.id changes.profiles

/-- A request of anyone, or one of the client for the changes. -/
inductive SyncStep (C : Type) where
  | request (call : Call C)
  | sync (env : Surroundings) (headers : Headers)

/-- The calls that the server has had, and the copy. -/
structure SyncRun (C : Type) where
  calls : List (Call C)
  replica : Replica C

variable [UuidText]

/-- The client sends its requests in the name of its user. -/
def SyncRun.step (userId : Uuid) (run : SyncRun C) : SyncStep C → SyncRun C
  | .request call => ⟨run.calls ++ [call], run.replica⟩
  | .sync env headers =>
    let call := (env, .listProfileChanges headers (some run.replica.revision))
    ⟨run.calls ++ [call],
      if authorizeOrDefault (storeAfter run.calls) headers = .ok userId then
        match answerAfter run.calls call with
        | .ok (.profileChanges changes) => run.replica.adopt changes
        | _ => run.replica
      else run.replica⟩

def syncRun (userId : Uuid) (steps : List (SyncStep C)) : SyncRun C :=
  steps.foldl (SyncRun.step userId) ⟨[], .empty⟩

theorem syncRun_snoc (userId : Uuid) (steps : List (SyncStep C)) (step : SyncStep C) :
    syncRun userId (steps ++ [step]) = (syncRun userId steps).step userId step := by
  rw [syncRun, List.foldl_append]
  rfl

end Client

section Revisions

variable {C : Type} [UuidText] {calls : List (Call C)} {call : Call C} {profile : DeviceProfile C}

/-- A profile is written only while the revision counter is not at its end. -/
def BelowSaturation (before : List (Call C)) (call : Call C) : Prop :=
  ((∃ id, call.2.Creates (storeAfter before) id) ∨
    ∃ id current, call.2.Overwrites (storeAfter before) id current) →
      (storeAfter before).profileRevision.toNat < 2 ^ 64 - 1

theorem profileRevision_mono (calls : List (Call C)) (call : Call C) :
    (storeAfter calls).profileRevision.toNat ≤
      (storeAfter (calls ++ [call])).profileRevision.toNat := by
  have hNext : (storeAfter calls).profileRevision.toNat ≤
      (saturatingNext (storeAfter calls).profileRevision).toNat := by
    have hLt := (storeAfter calls).profileRevision.toNat_lt
    rw [toNat_saturatingNext_eq]
    omega
  have hStep := profilesStep_snoc calls call
  generalize hStore : storeAfter (calls ++ [call]) = t at hStep ⊢
  cases hStep with
  | fewer _ _ hRevision => rw [hRevision]
  | created => exact hNext
  | overwritten => exact hNext

/-- Every profile of a run has a revision up to that of the store. -/
theorem EverCurrent.revision_le (h : EverCurrent calls profile) :
    profile.revision.toNat ≤ (storeAfter calls).profileRevision.toNat := by
  induction calls using List.reverseRecOn with
  | nil => exact absurd h everCurrent_nil
  | append_singleton calls call ih =>
    have hMono := profileRevision_mono calls call
    have hStep := profilesStep_snoc calls call
    generalize hStore : storeAfter (calls ++ [call]) = t at hStep hMono ⊢
    have hOld (hEver : EverCurrent calls profile) :
        profile.revision.toNat ≤ t.profileRevision.toNat := (ih hEver).trans hMono
    cases hStep with
    | fewer hProfiles =>
      rcases everCurrent_snoc.mp h with hEver | hGet
      · exact hOld hEver
      · rw [hStore] at hGet
        exact hOld (.of_get? (hProfiles _ _ hGet))
    | created hCreates hId hVersion hRevision =>
      rcases everCurrent_written hStore h with hEver | ⟨-, rfl⟩
      · exact hOld hEver
      · exact (congrArg UInt64.toNat hRevision).le
    | overwritten hOverwrites hId hVersion hRevision =>
      rcases everCurrent_written hStore h with hEver | ⟨-, rfl⟩
      · exact hOld hEver
      · exact (congrArg UInt64.toNat hRevision).le

/-- What is written has a revision above all earlier ones. -/
theorem revision_lt_of_written {written : DeviceProfile C}
    (hBelow : BelowSaturation calls call)
    (hAnswer : answerAfter calls call = .ok (.profile written)) (h : EverCurrent calls profile) :
    profile.revision < written.revision := by
  have hOld := h.revision_le
  have hNext {next : DeviceProfile C}
      (hRevision : next.revision = saturatingNext (storeAfter calls).profileRevision)
      (hLt : (storeAfter calls).profileRevision.toNat < 2 ^ 64 - 1)
      (hSaves : call.1.Saves (.ok (.profile next)) (answerAfter calls call)) :
      profile.revision < written.revision := by
    have hMem : written ∈ answeredProfiles (answerAfter calls call) := by
      rw [hAnswer]
      exact List.mem_cons_self
    obtain rfl := List.mem_singleton.mp (hSaves.mem_answeredProfiles hMem)
    rw [UInt64.lt_iff_toNat_lt, hRevision, toNat_saturatingNext hLt]
    omega
  have hStep := profilesStep_snoc calls call
  generalize storeAfter (calls ++ [call]) = t at hStep
  cases hStep with
  | fewer _ _ _ hNone => exact absurd hAnswer (hNone written)
  | created hCreates _ _ hRevision hSaves =>
    exact hNext hRevision (hBelow (.inl ⟨_, hCreates⟩)) hSaves
  | overwritten hOverwrites _ _ hRevision hSaves =>
    exact hNext hRevision (hBelow (.inr ⟨_, _, hOverwrites⟩)) hSaves

end Revisions

section Answers

variable {C : Type} [UuidText] {s : AppState C} {headers : Headers} {userId : Uuid}

theorem listProfileChanges_answer (env : Surroundings) (since : Option UInt64)
    (hUser : authorizeOrDefault s.inner headers = .ok userId) : ∃ profiles,
      answer (handle env (.listProfileChanges headers since)) s =
          .ok (.profileChanges ⟨s.inner.profileRevision, profiles⟩) ∧
        (stateAfter (handle env (.listProfileChanges headers since)) s).inner = s.inner ∧
        ∀ profile, profile ∈ profiles ↔ (∃ id, s.inner.profiles.get? id = some profile) ∧
          profile.userId = userId ∧ profile.revision > since.getD 0 := by
  have hEnds : Ends (handle env (.listProfileChanges headers since))
      (fun response t => t.inner = s.inner ∧ ∃ profiles,
        response = .profileChanges ⟨s.inner.profileRevision, profiles⟩ ∧
          ∀ profile, profile ∈ profiles ↔ (∃ id, s.inner.profiles.get? id = some profile) ∧
            profile.userId = userId ∧ profile.revision > since.getD 0) s := by
    simp only [Ends, handle, listProfileChanges, meets_bind, meets_lock, hUser, meets_ofExcept_ok,
      meets_pure]
    refine ⟨trivial, _, rfl, fun profile => ?_⟩
    rw [List.mem_insertionSort, List.mem_filter, HashMap.mem_values, decide_eq_true_iff]
  obtain ⟨response, hAnswer, hInner, profiles, rfl, hProfiles⟩ := hEnds.exists_answer
  exact ⟨profiles, hAnswer, hInner, hProfiles⟩

theorem listProfiles_answer (calls : List (Call C)) (env : Surroundings)
    (hUser : authorizeOrDefault (storeAfter calls) headers = .ok userId) : ∃ profiles,
      answerAfter calls (env, .listProfiles headers) = .ok (.profiles profiles) ∧
        ∀ profile, profile ∈ profiles ↔
          (∃ id, (storeAfter calls).profiles.get? id = some profile) ∧ profile.userId = userId := by
  have hEnds : Ends (handle env (.listProfiles headers))
      (fun response _ => ∃ profiles, response = .profiles profiles ∧ ∀ profile,
        profile ∈ profiles ↔ (∃ id, (storeAfter calls).profiles.get? id = some profile) ∧
          profile.userId = userId) (after serve .start calls) := by
    simp only [Ends, handle, listProfiles, meets_bind, meets_lock, meets_pure]
    rw [← storeAfter, hUser]
    refine ⟨_, rfl, fun profile => ?_⟩
    rw [List.mem_filter, HashMap.mem_values, decide_eq_true_iff]
    exact Iff.rfl
  obtain ⟨response, hAnswer, profiles, rfl, hProfiles⟩ := hEnds.exists_answer
  exact ⟨profiles, hAnswer, hProfiles⟩

end Answers

section Synced

variable {C : Type} [UuidText] {userId : Uuid} {run : SyncRun C}

/-- The copy holds what its user has, up to its revision, and nothing that it was not given. -/
structure Synced (userId : Uuid) (run : SyncRun C) : Prop where
  behind : run.replica.revision.toNat ≤ (storeAfter run.calls).profileRevision.toNat
  holds : ∀ id profile, (storeAfter run.calls).profiles.get? id = some profile →
    profile.userId = userId → profile.revision.toNat ≤ run.replica.revision.toNat →
      run.replica.profiles.get? id = some profile
  given : ∀ id profile, run.replica.profiles.get? id = some profile →
    profile.id = id ∧ profile.userId = userId ∧ Returned run.calls profile

theorem Synced.start : Synced userId (⟨[], .empty⟩ : SyncRun C) := ⟨le_rfl, nofun, nofun⟩

theorem Synced.request (h : Synced userId run) {call : Call C}
    (hBelow : BelowSaturation run.calls call) :
    Synced userId ⟨run.calls ++ [call], run.replica⟩ := by
  have hStep := profilesStep_snoc run.calls call
  have hMono := profileRevision_mono run.calls call
  refine ⟨h.behind.trans hMono, ?_, fun id profile hGet => ?_⟩
  · generalize storeAfter (run.calls ++ [call]) = t at hStep
    -- What is written has a revision that the copy has not seen.
    have hWritten {writtenId : String} {written : DeviceProfile C}
        (hRevision : written.revision = saturatingNext (storeAfter run.calls).profileRevision)
        (hLt : (storeAfter run.calls).profileRevision.toNat < 2 ^ 64 - 1) (id : String)
        (profile : DeviceProfile C)
        (hGet : ((storeAfter run.calls).writeProfile writtenId written).profiles.get? id =
          some profile)
        (hUser : profile.userId = userId)
        (hSeen : profile.revision.toNat ≤ run.replica.revision.toNat) :
        run.replica.profiles.get? id = some profile := by
      rcases HashMap.get?_insert_cases hGet with ⟨-, rfl⟩ | hOld
      · have hBehind := h.behind
        rw [hRevision, toNat_saturatingNext hLt] at hSeen
        omega
      · exact h.holds id profile hOld hUser hSeen
    cases hStep with
    | fewer hProfiles =>
      exact fun id profile hGet => h.holds id profile (hProfiles id profile hGet)
    | created hCreates _ _ hRevision => exact hWritten hRevision (hBelow (.inl ⟨_, hCreates⟩))
    | overwritten hOverwrites _ _ hRevision =>
      exact hWritten hRevision (hBelow (.inr ⟨_, _, hOverwrites⟩))
  · obtain ⟨hId, hUser, hReturned⟩ := h.given id profile hGet
    exact ⟨hId, hUser, returned_snoc.mpr (.inl hReturned)⟩

/-- The request for the changes. -/
def SyncRun.changes (run : SyncRun C) (env : Surroundings) (headers : Headers) : Call C :=
  (env, .listProfileChanges headers (some run.replica.revision))

/-- A client that is known gets the profiles of its user that it has not seen. -/
theorem step_sync_of_authorized {env : Surroundings} {headers : Headers}
    (hUser : authorizeOrDefault (storeAfter run.calls) headers = .ok userId) : ∃ profiles,
      run.step userId (.sync env headers) = ⟨run.calls ++ [run.changes env headers],
        run.replica.adopt ⟨(storeAfter run.calls).profileRevision, profiles⟩⟩ ∧
      storeAfter (run.calls ++ [run.changes env headers]) = storeAfter run.calls ∧
      answerAfter run.calls (run.changes env headers) =
        .ok (.profileChanges ⟨(storeAfter run.calls).profileRevision, profiles⟩) ∧
      ∀ profile, profile ∈ profiles ↔
        (∃ id, (storeAfter run.calls).profiles.get? id = some profile) ∧
          profile.userId = userId ∧ profile.revision > run.replica.revision := by
  obtain ⟨profiles, hAnswer, hInner, hProfiles⟩ :=
    listProfileChanges_answer env (some run.replica.revision) hUser
  refine ⟨profiles, ?_, ?_, hAnswer, hProfiles⟩
  · have hAnswer' : answerAfter run.calls (run.changes env headers) =
        .ok (.profileChanges ⟨(storeAfter run.calls).profileRevision, profiles⟩) := hAnswer
    simp only [SyncRun.step, if_pos hUser]
    rw [← SyncRun.changes, hAnswer']
  · rw [storeAfter, after_snoc]
    exact hInner

/-- Every profile of the user is in the copy once the client has got the changes. -/
theorem Synced.get?_adopt (h : Synced userId run) {profiles : List (DeviceProfile C)}
    (hProfiles : ∀ profile, profile ∈ profiles ↔
      (∃ id, (storeAfter run.calls).profiles.get? id = some profile) ∧
        profile.userId = userId ∧ profile.revision > run.replica.revision)
    {id : String} {profile : DeviceProfile C} {revision : UInt64}
    (hGet : (storeAfter run.calls).profiles.get? id = some profile)
    (hUser : profile.userId = userId) :
    (run.replica.adopt ⟨revision, profiles⟩).profiles.get? id = some profile := by
  have hKeyed := profilesKeyed_storeAfter run.calls
  refine HashMap.get?_putAll (fun other hMem hId => ?_) ?_
  · obtain ⟨⟨otherId, hOther⟩, -⟩ := (hProfiles other).mp hMem
    obtain rfl := (hKeyed.current otherId other hOther).symm.trans hId
    exact Option.some.inj (hOther.symm.trans hGet)
  · by_cases hSeen : profile.revision > run.replica.revision
    · exact .inl ⟨(hProfiles profile).mpr ⟨⟨id, hGet⟩, hUser, hSeen⟩,
        hKeyed.current id profile hGet⟩
    · rw [gt_iff_lt, UInt64.not_lt, UInt64.le_iff_toNat_le] at hSeen
      exact .inr (h.holds id profile hGet hUser hSeen)

theorem belowSaturation_changes (env : Surroundings) (headers : Headers) :
    BelowSaturation run.calls (run.changes env headers) := by
  rintro (⟨id, headers', profile, userId', hRequest, -⟩ | ⟨id, current, -, hRequest⟩)
  · contradiction
  · rcases hRequest with ⟨headers', profile, userId', hRequest, -⟩ | ⟨headers', rollback, target,
      hRequest, -⟩
    · contradiction
    · contradiction

theorem Synced.sync (h : Synced userId run) (env : Surroundings) (headers : Headers) :
    Synced userId (run.step userId (.sync env headers)) := by
  by_cases hUser : authorizeOrDefault (storeAfter run.calls) headers = .ok userId
  · obtain ⟨profiles, hStep, hStore, hAnswer, hProfiles⟩ := step_sync_of_authorized hUser
    rw [hStep]
    refine ⟨le_of_eq (congrArg (·.profileRevision.toNat) hStore.symm),
      fun id profile hGet hOwner _ => h.get?_adopt hProfiles (hStore ▸ hGet) hOwner,
      fun id profile hGet => ?_⟩
    rcases HashMap.get?_putAll_cases hGet with ⟨hMem, hId⟩ | hOld
    · refine ⟨hId, ((hProfiles profile).mp hMem).2.1, returned_snoc.mpr (.inr ?_)⟩
      rw [hAnswer]
      exact hMem
    · obtain ⟨hId, hOwner, hReturned⟩ := h.given id profile hOld
      exact ⟨hId, hOwner, returned_snoc.mpr (.inl hReturned)⟩
  · simp only [SyncRun.step, if_neg hUser]
    exact h.request (belowSaturation_changes env headers)

theorem synced_syncRun {steps : List (SyncStep C)}
    (hBelow : Throughout BelowSaturation (syncRun userId steps).calls) :
    Synced userId (syncRun userId steps) := by
  induction steps using List.reverseRecOn with
  | nil => exact .start
  | append_singleton steps step ih =>
    rw [syncRun_snoc] at hBelow ⊢
    cases step with
    | request call =>
      obtain ⟨hBefore, hCall⟩ := throughout_snoc.mp hBelow
      exact (ih hBefore).request hCall
    | sync env headers => exact (ih hBelow.of_append).sync env headers

/-- What the client has once it has got the changes. -/
structure SyncComplete (userId : Uuid) (steps : List (SyncStep C)) (env : Surroundings)
    (headers : Headers) : Prop where
  /-- The copy holds what the user has, and beyond that only profiles that it was given and that are
  gone. -/
  copied : ∀ env', ∃ listed,
    answerAfter (syncRun userId (steps ++ [.sync env headers])).calls (env', .listProfiles headers) =
        .ok (.profiles listed) ∧
      (∀ profile ∈ listed, (syncRun userId (steps ++ [.sync env headers])).replica.profiles.get?
        profile.id = some profile) ∧
      ∀ id profile, (syncRun userId (steps ++ [.sync env headers])).replica.profiles.get? id =
          some profile → profile ∈ listed ∨ (∀ other ∈ listed, other.id ≠ id) ∧
        Returned (syncRun userId (steps ++ [.sync env headers])).calls profile
  /-- Every write has a revision above all earlier ones. -/
  ascending : ∀ before call later written, (syncRun userId steps).calls = before ++ call :: later →
    answerAfter before call = .ok (.profile written) → ∀ profile, EverCurrent before profile →
      profile.revision < written.revision

theorem sync_complete {steps : List (SyncStep C)} {env : Surroundings} {headers : Headers}
    (hBelow : Throughout BelowSaturation (syncRun userId steps).calls)
    (hUser : authorizeOrDefault (storeAfter (syncRun userId steps).calls) headers = .ok userId) :
    SyncComplete userId steps env headers := by
  constructor
  · intro env'
    have hBefore := synced_syncRun hBelow
    have hAfter := hBefore.sync env headers
    obtain ⟨profiles, hStep, hStore, -, hProfiles⟩ := step_sync_of_authorized hUser
    rw [syncRun_snoc]
    rw [hStep] at hAfter ⊢
    have hKeyed := profilesKeyed_storeAfter (syncRun userId steps).calls
    have hHeld {id : String} {profile : DeviceProfile C}
        (hGet : (storeAfter (syncRun userId steps).calls).profiles.get? id = some profile)
        (hOwner : profile.userId = userId) :
        ((syncRun userId steps).replica.adopt ⟨(storeAfter (syncRun userId steps).calls
          ).profileRevision, profiles⟩).profiles.get? id = some profile :=
      hBefore.get?_adopt hProfiles hGet hOwner
    obtain ⟨listed, hAnswer, hListed⟩ := listProfiles_answer _ env' (hStore.symm ▸ hUser)
    simp only [hStore] at hListed
    refine ⟨listed, hAnswer, fun profile hMem => ?_, fun id profile hGet => ?_⟩
    · obtain ⟨⟨id, hGet⟩, hOwner⟩ := (hListed profile).mp hMem
      obtain rfl := hKeyed.current id profile hGet
      exact hHeld hGet hOwner
    · obtain ⟨hId, hOwner, hReturned⟩ := hAfter.given id profile hGet
      by_cases hOther : ∃ other ∈ listed, other.id = id
      · obtain ⟨other, hMem, rfl⟩ := hOther
        obtain ⟨⟨otherId, hCurrent⟩, hOtherOwner⟩ := (hListed other).mp hMem
        obtain rfl := hKeyed.current otherId other hCurrent
        obtain rfl := Option.some.inj (hGet.symm.trans (hHeld hCurrent hOtherOwner))
        exact .inl hMem
      · exact .inr ⟨fun other hMem hEq => hOther ⟨other, hMem, hEq⟩, hReturned⟩
  · intro before call later written hSplit hAnswer profile hEver
    exact revision_lt_of_written (hBelow before call later hSplit) hAnswer hEver

end Synced

section Removed

theorem belowSaturation_first : Throughout (@BelowSaturation ℕ .hyphenated)
    [registration 0 10 "key a", profileUpsert 1 10 7] := by
  let text := UuidText.hyphenated
  refine throughout_snoc.mpr ⟨throughout_snoc.mpr ⟨throughout_nil, fun _ => ?_⟩, fun _ => ?_⟩
  · decide
  · decide

theorem sync_complete_first : @SyncComplete ℕ .hyphenated defaultUserId
    [.request (registration 0 10 "key a"), .request (profileUpsert 1 10 7)] (.usual 2 0) ⟨none⟩ :=
  @sync_complete ℕ .hyphenated _ _ _ _ belowSaturation_first rfl

/-- The client gets a profile whose device is then deleted, and asks again. -/
def removingSteps : List (SyncStep ℕ) :=
  [.request (registration 0 10 "key a"), .request (profileUpsert 1 10 7),
    .sync (.usual 2 0) ⟨none⟩, .request (.usual 3 0, .deleteDevice ⟨none⟩ 10),
    .sync (.usual 4 0) ⟨none⟩]

/-- The copy still has the profile that is gone. -/
theorem not_sync_exact :
    ¬ ∀ (steps : List (SyncStep ℕ)) (env : Surroundings) (headers : Headers) (userId : Uuid)
      (listed : List (DeviceProfile ℕ)),
      @answerAfter ℕ .hyphenated (@syncRun ℕ .hyphenated userId
        (steps ++ [.sync env headers])).calls (env, .listProfiles headers) =
          .ok (.profiles listed) →
      ∀ id profile, (@syncRun ℕ .hyphenated userId (steps ++ [.sync env headers])
        ).replica.profiles.get? id = some profile → profile ∈ listed := by
  let text := UuidText.hyphenated
  intro h
  let id := profileId defaultUserId 10 10
  have hHeld : (syncRun defaultUserId removingSteps).replica.profiles.get? id =
      some ⟨id, defaultUserId, 10, 10, 7, 1, 1, 1⟩ := by decide
  have hListed := h (removingSteps.take 4) (.usual 4 0) ⟨none⟩ defaultUserId [] (by decide)
    id _ hHeld
  exact absurd hListed List.not_mem_nil

end Removed

end Kmsync.Server
