import Kmsync.Server.ProfileWrites
import Kmsync.Server.UuidText

/-! Versions of profiles.  A version stands for one configuration as long as no profile comes again
under an id that a profile has had before. -/

namespace Kmsync.Server

open ProofKit

section Runs

variable {C : Type} [UuidText]

/-- The request creates no profile under the id of an earlier one, and counts no version twice. -/
def KeepsVersions (before : List (Call C)) (call : Call C) : Prop :=
  (∀ id, call.2.Creates (storeAfter before) id → ∀ profile, EverCurrent before profile →
    profile.id ≠ id) ∧
  ∀ id current, call.2.Overwrites (storeAfter before) id current →
    current.version.toNat < 2 ^ 64 - 1

/-- The profiles that a run has had are told apart by id and version. -/
structure Versioned (calls : List (Call C)) : Prop where
  bound : ∀ profile, EverCurrent calls profile → ∀ current,
    (storeAfter calls).profiles.get? profile.id = some current →
      profile.version.toNat ≤ current.version.toNat
  unique : ∀ p q, EverCurrent calls p → EverCurrent calls q → p.id = q.id →
    p.version = q.version → p = q

variable {calls : List (Call C)} {call : Call C}

/-- A write of a version above the earlier ones under the id. -/
theorem Versioned.write (h : Versioned calls) {id : String} {written : DeviceProfile C}
    (hStore : storeAfter (calls ++ [call]) = (storeAfter calls).writeProfile id written)
    (hAbove : ∀ profile, EverCurrent calls profile → profile.id = id →
      profile.version.toNat < written.version.toNat) : Versioned (calls ++ [call]) where
  bound profile hEver current hGet := by
    rw [hStore, Store.writeProfile_profiles, HashMap.get?_insert] at hGet
    rcases everCurrent_written hStore hEver with hOld | ⟨hId, rfl⟩
    · split at hGet
      next hId =>
        obtain rfl := Option.some.inj hGet
        exact (hAbove profile hOld hId).le
      next => exact h.bound profile hOld current hGet
    · rw [if_pos hId] at hGet
      exact (congrArg (·.version.toNat) (Option.some.inj hGet)).le
  unique p q hP hQ hId hVersion := by
    rcases everCurrent_written hStore hP with hOldP | ⟨hIdP, rfl⟩
    · rcases everCurrent_written hStore hQ with hOldQ | ⟨hIdQ, rfl⟩
      · exact h.unique p q hOldP hOldQ hId hVersion
      · have hLt := hAbove p hOldP (hId.trans hIdQ)
        rw [hVersion] at hLt
        exact absurd hLt (Nat.lt_irrefl _)
    · rcases everCurrent_written hStore hQ with hOldQ | ⟨hIdQ, rfl⟩
      · have hLt := hAbove q hOldQ (hId.symm.trans hIdP)
        rw [hVersion] at hLt
        exact absurd hLt (Nat.lt_irrefl _)
      · rfl

theorem Versioned.snoc (h : Versioned calls) (hKeeps : KeepsVersions calls call) :
    Versioned (calls ++ [call]) := by
  have hStep := profilesStep_snoc calls call
  generalize hStore : storeAfter (calls ++ [call]) = t at hStep
  cases hStep with
  | fewer hProfiles =>
    have hEver {profile : DeviceProfile C} (hNew : EverCurrent (calls ++ [call]) profile) :
        EverCurrent calls profile := by
      rcases everCurrent_snoc.mp hNew with hOld | hGet
      · exact hOld
      · rw [hStore] at hGet
        exact .of_get? (hProfiles _ _ hGet)
    refine ⟨fun profile hNew current hGet => ?_, fun p q hP hQ => h.unique p q (hEver hP) (hEver hQ)⟩
    rw [hStore] at hGet
    exact h.bound profile (hEver hNew) current (hProfiles _ _ hGet)
  | created hCreates =>
    refine h.write hStore fun profile hEver hId => ?_
    exact absurd hId (hKeeps.1 _ hCreates profile hEver)
  | overwritten hOverwrites hId hVersion =>
    refine h.write hStore fun profile hEver hSame => ?_
    have hBound := h.bound profile hEver _ (hSame ▸ hOverwrites.1)
    rw [hVersion, toNat_saturatingNext (hKeeps.2 _ _ hOverwrites)]
    omega

/-- Nothing of a run is lost: the history holds profiles that were current. -/
theorem history_everCurrent (calls : List (Call C)) {id : String}
    {profiles : List (DeviceProfile C)} {profile : DeviceProfile C}
    (hGet : (storeAfter calls).profileHistory.get? id = some profiles) (hMem : profile ∈ profiles) :
    EverCurrent calls profile := by
  induction calls using List.reverseRecOn generalizing id profiles with
  | nil => contradiction
  | append_singleton calls call ih =>
    have hStep := profilesStep_snoc calls call
    generalize hStore : storeAfter (calls ++ [call]) = t at hStep hGet
    have hWritten {writtenId : String} {written : DeviceProfile C}
        (hEq : t = (storeAfter calls).writeProfile writtenId written) :
        EverCurrent calls profile := by
      rw [hEq] at hGet
      rcases mem_history_writeProfile hGet hMem with ⟨before, hBefore, hOld⟩ | hCurrent
      · exact ih hBefore hOld
      · exact .of_get? hCurrent
    refine everCurrent_snoc.mpr (.inl ?_)
    cases hStep with
    | fewer _ hHistory => exact ih (hHistory ▸ hGet) hMem
    | created => exact hWritten rfl
    | overwritten => exact hWritten rfl

/-- A run in which every store was saved has told its clients of every profile. -/
theorem EverCurrent.returned {profile : DeviceProfile C}
    (hSaved : ∀ call ∈ calls, call.1.save = .ok ()) (h : EverCurrent calls profile) :
    Returned calls profile := by
  induction calls using List.reverseRecOn with
  | nil => exact absurd h everCurrent_nil
  | append_singleton calls call ih =>
    have hBefore := ih fun earlier hMem => hSaved earlier (List.mem_append_left _ hMem)
    have hSave := hSaved call (List.mem_append_right _ List.mem_cons_self)
    rw [returned_snoc]
    have hStep := profilesStep_snoc calls call
    generalize hStore : storeAfter (calls ++ [call]) = t at hStep
    generalize hAnswer : answerAfter calls call = answer at hStep
    cases hStep with
    | fewer hProfiles =>
      rcases everCurrent_snoc.mp h with hOld | hGet
      · exact .inl (hBefore hOld)
      · rw [hStore] at hGet
        exact .inl (hBefore (.of_get? (hProfiles _ _ hGet)))
    | created hCreates hId hVersion hRevision hSaves =>
      rcases everCurrent_written hStore h with hOld | ⟨-, rfl⟩
      · exact .inl (hBefore hOld)
      · rw [hSaves.eq hSave]
        exact .inr List.mem_cons_self
    | overwritten hOverwrites hId hVersion hRevision hSaves =>
      rcases everCurrent_written hStore h with hOld | ⟨-, rfl⟩
      · exact .inl (hBefore hOld)
      · rw [hSaves.eq hSave]
        exact .inr List.mem_cons_self

omit [UuidText] in
theorem profileVersion_eq_some {s : Store C} {id : String} {version : UInt64}
    {profile : DeviceProfile C} (h : profileVersion s id version = some profile) :
    profile.version = version ∧ (s.profiles.get? id = some profile ∨
      ∃ profiles, s.profileHistory.get? id = some profiles ∧ profile ∈ profiles) := by
  unfold profileVersion at h
  split at h
  next found hFound =>
    obtain rfl := Option.some.inj h
    obtain ⟨hGet, hVersion⟩ := Option.filter_eq_some_iff.mp hFound
    exact ⟨of_decide_eq_true hVersion, .inl hGet⟩
  next =>
    have hVersion := List.find?_some h
    have hMem := List.mem_of_find?_eq_some h
    refine ⟨of_decide_eq_true hVersion, .inr ?_⟩
    cases hHistory : s.profileHistory.get? id with
    | none =>
      rw [hHistory] at hMem
      contradiction
    | some profiles =>
      rw [hHistory] at hMem
      exact ⟨profiles, rfl, hMem⟩

/-- In a run, a version that a client was given names one configuration. -/
structure VersionsName (calls : List (Call C)) : Prop where
  one : ∀ p q, Returned calls p → Returned calls q → p.id = q.id → p.version = q.version →
    p.config = q.config
  /-- A rollback installs the configuration that was returned under the version, and one was if
  every store was saved. -/
  rollback : ∀ before call later headers request installed, calls = before ++ call :: later →
    call.2 = .rollbackProfile headers request →
    answerAfter before call = .ok (.profile installed) →
      (storeAfter (before ++ [call])).profiles.get? request.profileId = some installed ∧
        (∀ p, Returned before p → p.id = request.profileId → p.version = request.targetVersion →
          installed.config = p.config) ∧
        ((∀ earlier ∈ before, earlier.1.save = .ok ()) → ∃ p, Returned before p ∧
          p.id = request.profileId ∧ p.version = request.targetVersion)
  /-- The version that an upsert expects is that of the profile it takes the place of. -/
  upsert : ∀ before call later headers request written expected, calls = before ++ call :: later →
    call.2 = .upsertProfile headers request → request.expectedVersion = some expected →
    answerAfter before call = .ok (.profile written) → ∀ current,
      (storeAfter before).profiles.get? written.id = some current →
        current.version = expected ∧ ∀ p, Returned before p → p.id = written.id →
          p.version = expected → p.config = current.config

section Answers

variable {env : Surroundings} {s t : Store C} {headers : Headers}

theorem Effect.rolledBack_of_ok {request : RollbackProfileRequest} {installed : DeviceProfile C}
    (h : Effect env s (.rollbackProfile headers request) (.ok (.profile installed)) t) :
    t.profiles.get? request.profileId = some installed ∧ ∃ target,
      profileVersion s request.profileId request.targetVersion = some target ∧
        installed.config = target.config := by
  cases h with
  | account hRequest => contradiction
  | signalled hRequest => contradiction
  | rolledBack hUser hCurrent hOwner hTarget hSaves =>
    cases hSaves with
    | saved => exact ⟨HashMap.get?_insert_self, _, hTarget, rfl⟩

theorem Effect.upserted_of_ok {request : UpsertProfileRequest C} {written current : DeviceProfile C}
    {expected : UInt64}
    (h : Effect env s (.upsertProfile headers request) (.ok (.profile written)) t)
    (hExpected : request.expectedVersion = some expected)
    (hGet : s.profiles.get? written.id = some current) : current.version = expected := by
  cases h with
  | account hRequest => contradiction
  | signalled hRequest => contradiction
  | upserted hUser hSource hTarget hChecked hSaves =>
    cases hSaves with
    | saved => exact hChecked expected hExpected current hGet

end Answers

theorem versioned_of_throughout (h : Throughout KeepsVersions calls) : Versioned calls :=
  history_induction (I := Versioned) ⟨fun _ h => absurd h everCurrent_nil,
    fun _ _ h => absurd h everCurrent_nil⟩ (fun _ _ hCalls hKeeps => hCalls.snoc hKeeps) h

theorem versions_name (h : Throughout KeepsVersions calls) : VersionsName calls where
  one p q hP hQ hId hVersion :=
    congrArg DeviceProfile.config
      ((versioned_of_throughout h).unique p q hP.everCurrent hQ.everCurrent hId hVersion)
  rollback before call later headers request installed hSplit hRequest hAnswer := by
    have hVersioned := versioned_of_throughout (hSplit ▸ h).of_append
    have hEffect := effect_snoc before call
    rw [hRequest, hAnswer] at hEffect
    obtain ⟨hInstalled, target, hTarget, hConfig⟩ := hEffect.rolledBack_of_ok
    obtain ⟨hVersion, hFound⟩ := profileVersion_eq_some hTarget
    -- The target is a profile of the run, in the store or in the history.
    obtain ⟨hEver, hId⟩ : EverCurrent before target ∧ target.id = request.profileId := by
      have hKeyed := profilesKeyed_storeAfter before
      rcases hFound with hGet | ⟨profiles, hGet, hMem⟩
      · exact ⟨.of_get? hGet, hKeyed.current _ _ hGet⟩
      · exact ⟨history_everCurrent before hGet hMem, hKeyed.earlier _ _ hGet _ hMem⟩
    refine ⟨hInstalled, fun p hP hIdP hVersionP => ?_, fun hSaved => ?_⟩
    · obtain rfl := hVersioned.unique p target hP.everCurrent hEver (hIdP.trans hId.symm)
        (hVersionP.trans hVersion.symm)
      exact hConfig
    · exact ⟨target, hEver.returned hSaved, hId, hVersion⟩
  upsert before call later headers request written expected hSplit hRequest hExpected hAnswer
      current hGet := by
    have hVersioned := versioned_of_throughout (hSplit ▸ h).of_append
    have hEffect := effect_snoc before call
    rw [hRequest, hAnswer] at hEffect
    have hVersion := hEffect.upserted_of_ok hExpected hGet
    have hId := (profilesKeyed_storeAfter before).current _ _ hGet
    refine ⟨hVersion, fun p hP hIdP hVersionP => ?_⟩
    rw [hVersioned.unique p current hP.everCurrent (.of_get? hGet) (hIdP.trans hId.symm)
      (hVersionP.trans hVersion.symm)]

end Runs

section Recreated

theorem keepsVersions_first :
    @KeepsVersions ℕ .hyphenated [registration 0 10 "key a"] (profileUpsert 1 10 7) := by
  let text := UuidText.hyphenated
  have hEmpty : (storeAfter [registration (C := ℕ) 0 10 "key a"]).profiles.entries = [] := by
    decide
  have hNone {id : String} {profile : DeviceProfile ℕ} :
      (storeAfter [registration (C := ℕ) 0 10 "key a"]).profiles.get? id ≠ some profile := by
    rw [ne_eq, HashMap.get?_eq_some_iff, hEmpty]
    exact List.not_mem_nil
  refine ⟨fun id _ profile hEver => ?_, fun id current hOverwrites => absurd hOverwrites.1 hNone⟩
  rcases (@everCurrent_snoc ℕ text [] _ profile).mp hEver with hOld | hGet
  · exact absurd hOld everCurrent_nil
  · exact absurd hGet hNone

theorem versions_name_first :
    @VersionsName ℕ .hyphenated [registration 0 10 "key a", profileUpsert 1 10 7] := by
  let text := UuidText.hyphenated
  refine versions_name (throughout_snoc.mpr ⟨throughout_snoc.mpr ⟨throughout_nil, ?_, ?_⟩,
    keepsVersions_first⟩)
  · rintro id ⟨headers, profile, userId, hRequest, -⟩
    contradiction
  · rintro id current ⟨hGet, -⟩
    contradiction

/-- Device 11 is deleted and comes again, and the profile with it. -/
def recreatingCalls : List (Call ℕ) :=
  [registration 0 10 "key a", registration 1 11 "key b", profileUpsert 2 11 7,
    (.usual 3 0, .deleteDevice ⟨none⟩ 11), registration 4 11 "key b", profileUpsert 5 11 8]

/-- Version 1 of the profile has two configurations. -/
theorem not_versionsName : ¬ @VersionsName ℕ .hyphenated recreatingCalls := by
  let text := UuidText.hyphenated
  intro h
  let id := profileId defaultUserId 10 11
  let first : DeviceProfile ℕ := ⟨id, defaultUserId, 10, 11, 7, 1, 1, 2⟩
  let second : DeviceProfile ℕ := ⟨id, defaultUserId, 10, 11, 8, 1, 2, 5⟩
  have hFirst : Returned recreatingCalls first :=
    ⟨recreatingCalls.take 2, profileUpsert 2 11 7, recreatingCalls.drop 3, rfl, by decide⟩
  have hSecond : Returned recreatingCalls second :=
    ⟨recreatingCalls.take 5, profileUpsert 5 11 8, [], rfl, by decide⟩
  exact absurd (h.one first second hFirst hSecond rfl rfl) (by decide)

end Recreated

end Kmsync.Server
