import Kmsync.Server.Store

/-! Topologies and profiles.  A profile has a version, counted for each pair of devices, and a
revision, counted for the whole store; the versions before the current one are kept in a history. -/

namespace Kmsync.Server

open ProofKit

variable {C : Type}

section Topology

structure UpsertTopologyRequest where
  masterDeviceId : Option Uuid
  layout : TopologyLayout
  deriving DecidableEq

def getTopology (headers : Headers) : Handler C Topology := do
  let userId ← MonadExcept.ofExcept (authorizeOrDefault (← lock) headers)
  return ((← lock).topologies.get? userId).getD ⟨userId, none, .default, 0, 0⟩

/-- `assert_device_owner` for one device after the other -/
def assertDeviceOwners (store : Store C) (userId : Uuid) : List Uuid → Except ApiError Unit
  | [] => .ok ()
  | deviceId :: deviceIds =>
    match assertDeviceOwner store userId deviceId with
    | .ok () => assertDeviceOwners store userId deviceIds
    | .error error => .error error

/-- The topology that a request leaves. -/
def UpsertTopologyRequest.topology (request : UpsertTopologyRequest) (store : Store C)
    (userId : Uuid) (now : UInt64) : Topology where
  userId
  masterDeviceId := request.masterDeviceId
  layout := request.layout
  topologyVersion :=
    match store.topologies.get? userId with
    | some topology => saturatingNext topology.topologyVersion
    | none => 1
  updatedAt := now

def upsertTopology (env : Surroundings) (headers : Headers) (request : UpsertTopologyRequest) :
    Handler C Topology := do
  let userId ← MonadExcept.ofExcept (authorizeOrDefault (← lock) headers)
  let store ← lock
  MonadExcept.ofExcept <| assertDeviceOwners store userId
    (request.masterDeviceId.toList ++ request.layout.deviceIds)
  let topology := request.topology store userId env.now
  modifyStore (·.putTopology userId topology)
  saveLocked env
  publishEvent (.topologyChanged userId topology.topologyVersion)
  return topology

theorem assertDeviceOwners_eq_ok {store : Store C} {userId : Uuid} {deviceIds : List Uuid}
    {u : Unit} :
    assertDeviceOwners store userId deviceIds = .ok u ↔
      ∀ deviceId ∈ deviceIds, ∃ device,
        store.devices.get? deviceId = some device ∧ device.userId = userId := by
  induction deviceIds with
  | nil => simp [assertDeviceOwners]
  | cons deviceId deviceIds ih =>
    rw [List.forall_mem_cons, ← ih, ← assertDeviceOwner_eq_ok (u := ())]
    rw [assertDeviceOwners]
    cases assertDeviceOwner store userId deviceId with
    | ok u => simp
    | error e => simp

end Topology

section Profiles

variable [UuidText]

def profileId (userId sourceDeviceId targetDeviceId : Uuid) : String :=
  UuidText.display userId ++ ":" ++ UuidText.display sourceDeviceId ++ ":" ++
    UuidText.display targetDeviceId

structure UpsertProfileRequest (C : Type) where
  sourceDeviceId : Uuid
  targetDeviceId : Uuid
  expectedVersion : Option UInt64
  config : C
  deriving DecidableEq

omit [UuidText] in
/-- The store after a profile is written: the one before it goes to the history. -/
@[simps]
def Store.writeProfile (store : Store C) (id : String) (profile : DeviceProfile C) : Store C :=
  { store with
    profileHistory :=
      match store.profiles.get? id with
      | some existing =>
        store.profileHistory.insert id ((store.profileHistory.get? id).getD [] ++ [existing])
      | none => store.profileHistory
    profileRevision := saturatingNext store.profileRevision
    profiles := store.profiles.insert id profile }

/-- The profile that a request leaves. -/
def UpsertProfileRequest.profile (request : UpsertProfileRequest C) (store : Store C)
    (userId : Uuid) (now : UInt64) : DeviceProfile C :=
  let id := profileId userId request.sourceDeviceId request.targetDeviceId
  { id
    userId
    sourceDeviceId := request.sourceDeviceId
    targetDeviceId := request.targetDeviceId
    config := request.config
    version :=
      match store.profiles.get? id with
      | some profile => saturatingNext profile.version
      | none => 1
    revision := saturatingNext store.profileRevision
    updatedAt := now }

def upsertProfile (env : Surroundings) (headers : Headers) (request : UpsertProfileRequest C) :
    Handler C (DeviceProfile C) := do
  let userId ← MonadExcept.ofExcept (authorizeOrDefault (← lock) headers)
  let store ← lock
  MonadExcept.ofExcept (assertDeviceOwner store userId request.sourceDeviceId)
  MonadExcept.ofExcept (assertDeviceOwner store userId request.targetDeviceId)
  let id := profileId userId request.sourceDeviceId request.targetDeviceId
  let existing := store.profiles.get? id
  refuseIf (request.expectedVersion.any fun expected => existing.any (expected ≠ ·.version))
    (.conflict "profile version conflict")
  let profile := request.profile store userId env.now
  modifyStore (·.writeProfile id profile)
  saveLocked env
  publishEvent (.profileChanged userId profile)
  return profile

structure RollbackProfileRequest where
  profileId : String
  targetVersion : UInt64
  deriving DecidableEq

omit [UuidText] in
/-- The first profile of that version: the current one, or one of the history. -/
def profileVersion (store : Store C) (profileId : String) (version : UInt64) :
    Option (DeviceProfile C) :=
  match (store.profiles.get? profileId).filter (·.version = version) with
  | some profile => some profile
  | none => ((store.profileHistory.get? profileId).getD []).find? (·.version = version)

omit [UuidText] in
/-- The current profile with the configuration of an earlier one. -/
def DeviceProfile.rolledBack (current target : DeviceProfile C) (revision now : UInt64) :
    DeviceProfile C :=
  { current with
    config := target.config
    version := saturatingNext current.version
    revision
    updatedAt := now }

end Profiles

def rollbackProfile (env : Surroundings) (headers : Headers) (request : RollbackProfileRequest) :
    Handler C (DeviceProfile C) := do
  let userId ← MonadExcept.ofExcept (authorizeOrDefault (← lock) headers)
  let store ← lock
  let current ← orRefuse (store.profiles.get? request.profileId) (.notFound "profile not found")
  refuseIf (current.userId ≠ userId) (.notFound "profile not found")
  let target ← orRefuse (profileVersion store request.profileId request.targetVersion)
    (.notFound "profile version not found")
  refuseIf (target.userId ≠ userId) (.notFound "profile version not found")
  let profile := current.rolledBack target (saturatingNext store.profileRevision) env.now
  modifyStore (·.writeProfile request.profileId profile)
  saveLocked env
  publishEvent (.profileChanged userId profile)
  return profile

def listProfiles (env : Surroundings) (headers : Headers) : Handler C (List (DeviceProfile C)) := do
  let userId ← MonadExcept.ofExcept (authorizeOrDefault (← lock) headers)
  return ((← lock).profiles.values env.idHash).filter (·.userId = userId)

structure ProfileChangesResponse (C : Type) where
  revision : UInt64
  profiles : List (DeviceProfile C)
  deriving DecidableEq

def listProfileChanges (env : Surroundings) (headers : Headers) (sinceRevision : Option UInt64) :
    Handler C (ProfileChangesResponse C) := do
  let userId ← MonadExcept.ofExcept (authorizeOrDefault (← lock) headers)
  let store ← lock
  let profiles := (store.profiles.values env.idHash).filter fun profile =>
    profile.userId = userId ∧ profile.revision > sinceRevision.getD 0
  return ⟨store.profileRevision, profiles.insertionSort fun a b => a.revision ≤ b.revision⟩

end Kmsync.Server
