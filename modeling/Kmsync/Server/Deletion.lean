import Kmsync.Server.Devices

/-! Deletion of devices.  A device is deleted together with the others that present themselves in
the same way, and leaves tombstones, under its keys and under the names and addresses it presented;
a heartbeat that meets such a tombstone deletes its device. -/

namespace Kmsync.Server

open ProofKit

variable {C : Type}

section PresentedIdentity

def lanIpsOverlap (left right : List String) : Bool :=
  left.any fun leftIp =>
    trimmed leftIp ≠ "" && right.any fun rightIp => trimmed leftIp = trimmed rightIp

def hasLan (presence : Presence) : Bool := presence.lanIps.any fun ip => trimmed ip ≠ ""

def devicesSharePresentedIdentity (target : Device) (targetPresence : Option Presence)
    (candidate : Device) (candidatePresence : Option Presence) : Bool :=
  if target.id = candidate.id then true
  else if trimmed target.publicKey ≠ "" ∧
      trimmed target.publicKey = trimmed candidate.publicKey then
    true
  else if toAsciiLowercase (trimmed target.name) ≠ toAsciiLowercase (trimmed candidate.name) ∨
      toAsciiLowercase (trimmed target.osType) ≠ toAsciiLowercase (trimmed candidate.osType) then
    false
  else
    match targetPresence, candidatePresence with
    | some targetPresence, some candidatePresence =>
      if lanIpsOverlap targetPresence.lanIps candidatePresence.lanIps then true
      else
        !hasLan targetPresence && !hasLan candidatePresence &&
          trimmed targetPresence.publicIp ≠ "" &&
          trimmed targetPresence.publicIp = trimmed candidatePresence.publicIp &&
          targetPresence.listenPort = candidatePresence.listenPort
    | _, _ => false

/-- The tombstones under which a device is known at some addresses. -/
def deletedPresentedDeviceKeys (userId : Uuid) (device : Device) (lanIps : List String)
    (publicIp : String) (listenPort : UInt16) : List DeletedPresentedDeviceKey :=
  let name := normalizePresentedDeviceField device.name
  let osType := normalizePresentedDeviceField device.osType
  let keys := lanIps.filterMap fun lanIp =>
    let lanIp := normalizePresentedDeviceField lanIp
    if lanIp ≠ "" then some ⟨userId, name, osType, some lanIp, none, none⟩ else none
  if keys = [] ∧ trimmed publicIp ≠ "" then
    [⟨userId, name, osType, none, some (trimmed publicIp), some listenPort⟩]
  else keys

def deletedPresentedDeviceKeysForPresence (userId : Uuid) (device : Device)
    (presence : Presence) : List DeletedPresentedDeviceKey :=
  deletedPresentedDeviceKeys userId device presence.lanIps presence.publicIp presence.listenPort

def deletedPresentedDeviceKeysForHeartbeat (userId : Uuid) (device : Device)
    (request : HeartbeatRequest) (publicIp : String) : List DeletedPresentedDeviceKey :=
  deletedPresentedDeviceKeys userId device request.lanIps publicIp request.listenPort

end PresentedIdentity

section DeleteDevice

inductive DeviceDeletionScope where
  | singleRecord | presentedDevice
  deriving DecidableEq

/-- The device is online at a time. -/
def Store.isOnline (store : Store C) (deviceId : Uuid) (now : UInt64) : Bool :=
  (store.presence.get? deviceId).any (presenceIsOnlineAt · now)

def deviceDeletionScope (env : Surroundings) (store : Store C) (userId deviceId : Uuid) :
    DeviceDeletionScope :=
  match store.devices.get? deviceId with
  | none => .singleRecord
  | some target =>
    if store.isOnline deviceId env.now then .presentedDevice
    else if ((store.devices.values env.hash).filter fun candidate =>
        candidate.userId = userId ∧ candidate.id ≠ target.id).any fun candidate =>
          store.isOnline candidate.id env.now &&
            devicesSharePresentedIdentity target (store.presence.get? deviceId) candidate
              (store.presence.get? candidate.id) then
      .singleRecord
    else .presentedDevice

def deviceDeletionGroupIds (env : Surroundings) (store : Store C) (userId deviceId : Uuid) :
    List Uuid :=
  match store.devices.get? deviceId with
  | none => []
  | some target =>
    (((store.devices.values env.hash).filter (·.userId = userId)).filter fun candidate =>
      devicesSharePresentedIdentity target (store.presence.get? deviceId) candidate
        (store.presence.get? candidate.id)).map (·.id)

/-- The devices that a request to delete one deletes. -/
def deletedDevices (env : Surroundings) (store : Store C) (userId deviceId : Uuid) :
    List Device :=
  let deletedDeviceIds :=
    match deviceDeletionScope env store userId deviceId with
    | .singleRecord => [deviceId]
    | .presentedDevice => deviceDeletionGroupIds env store userId deviceId
  deletedDeviceIds.filterMap store.devices.get?

def clearDeletedLayoutSlot (deletedDeviceIds : HashSet Uuid) (slot : Option Uuid) : Option Uuid :=
  if slot.any (· ∈ deletedDeviceIds) then none else slot

def TopologyLayout.cleared (deletedDeviceIds : HashSet Uuid) (layout : TopologyLayout) :
    TopologyLayout where
  left := clearDeletedLayoutSlot deletedDeviceIds layout.left
  right := clearDeletedLayoutSlot deletedDeviceIds layout.right
  top := clearDeletedLayoutSlot deletedDeviceIds layout.top
  bottom := clearDeletedLayoutSlot deletedDeviceIds layout.bottom

/-- The devices that a topology names. -/
def Topology.deviceIds (topology : Topology) : List Uuid :=
  topology.masterDeviceId.toList ++ topology.layout.deviceIds

def Topology.cleared (deletedDeviceIds : HashSet Uuid) (now : UInt64) (topology : Topology) :
    Topology :=
  let changed := topology.deviceIds.any (· ∈ deletedDeviceIds)
  { topology with
    masterDeviceId := clearDeletedLayoutSlot deletedDeviceIds topology.masterDeviceId
    layout := topology.layout.cleared deletedDeviceIds
    topologyVersion :=
      if changed then saturatingNext topology.topologyVersion else topology.topologyVersion
    updatedAt := if changed then now else topology.updatedAt }

/-- The tombstones that a deleted device leaves under what it presented. -/
def presentedTombstones (store : Store C) (userId : Uuid) (scope : DeviceDeletionScope)
    (device : Device) : List DeletedPresentedDeviceKey :=
  if scope = .presentedDevice then
    match store.presence.get? device.id with
    | some presence => deletedPresentedDeviceKeysForPresence userId device presence
    | none => []
  else []

/-- The store without some devices. -/
@[simps]
def Store.withoutDevices (store : Store C) (userId : Uuid) (scope : DeviceDeletionScope)
    (deleted : List Device) (now : UInt64) : Store C :=
  let deletedDeviceIds : HashSet Uuid := HashSet.insertAll ∅ (deleted.map (·.id))
  { store with
    deletedDeviceKeys := store.deletedDeviceKeys.insertAll <|
      deleted.map fun device => ⟨userId, some device.id, device.publicKey⟩
    deletedPresentedDevices := store.deletedPresentedDevices.insertAll <|
      deleted.flatMap (presentedTombstones store userId scope)
    devices := store.devices.retain fun deviceId _ => deviceId ∉ deletedDeviceIds
    presence := store.presence.retain fun deviceId _ => deviceId ∉ deletedDeviceIds
    topologies := store.topologies.mapValues (·.cleared deletedDeviceIds now)
    profiles := store.profiles.retain fun _ profile =>
      profile.sourceDeviceId ∉ deletedDeviceIds ∧ profile.targetDeviceId ∉ deletedDeviceIds }

/-- The events that tell of the deletion, in the order in which the set of ids is iterated. -/
def deletionEvents (env : Surroundings) (store : Store C) (userId : Uuid)
    (deleted : List Device) : List (ServerEvent C) :=
  ((HashSet.insertAll ∅ (deleted.map (·.id))).elements env.hash).map fun deviceId =>
    .devicePresenceChanged userId deviceId false
      (match store.presence.get? deviceId with
        | some presence => saturatingNext presence.presenceVersion
        | none => 1)

def publishEvents (events : List (ServerEvent C)) : Handler C Unit :=
  modify fun s => { s with events := s.events ++ events }

def deleteDevice (env : Surroundings) (headers : Headers) (deviceId : Uuid) : Handler C Unit := do
  let userId ← MonadExcept.ofExcept (authorizeOrDefault (← lock) headers)
  let store ← lock
  MonadExcept.ofExcept (assertDeviceOwner store userId deviceId)
  let scope := deviceDeletionScope env store userId deviceId
  let deleted := deletedDevices env store userId deviceId
  modifyStore (·.withoutDevices userId scope deleted env.now)
  saveLocked env
  publishEvents (deletionEvents env store userId deleted)

@[simp] theorem meets_publishEvents {events : List (ServerEvent C)} {s : AppState C}
    {Q : Unit → AppState C → Prop} {E : ApiError → AppState C → Prop} :
    Meets (publishEvents events : Handler C Unit) Q E s ↔
      Q () { s with events := s.events ++ events } := Iff.rfl

end DeleteDevice

section Heartbeat

/-- A tombstone has the name, the operating system and an address of the device. -/
def meetsTombstone (store : Store C) (userId : Uuid) (device : Device) (publicIp : String)
    (request : HeartbeatRequest) : Bool :=
  (deletedPresentedDeviceKeysForHeartbeat userId device request publicIp).any
    (· ∈ store.deletedPresentedDevices)

/-- The branch of `heartbeat` in which the device is deleted. -/
def forgetDevice (env : Surroundings) (deviceId : Uuid) : Handler C HeartbeatResponse := do
  modifyStore (·.dropDevice deviceId)
  saveLocked env
  throw (.forbidden "device was deleted")

/-- The branch of `heartbeat` in which the device is there. -/
def recordHeartbeat (env : Surroundings) (userId deviceId : Uuid) (publicIp : String)
    (request : HeartbeatRequest) : Handler C HeartbeatResponse := do
  let previous := (← lock).presence.get? deviceId
  let presenceVersion := heartbeatVersion previous request env.now
  let presence := heartbeatPresence userId deviceId publicIp request env.now presenceVersion
  modifyStore (·.putPresence deviceId presence)
  saveLocked env
  publishIf (!previous.any (·.repeats request env.now))
    (.devicePresenceChanged userId deviceId true presenceVersion)
  return ⟨true, env.now, presenceVersion⟩

/-- A heartbeat from an address, given as text. -/
def heartbeat (env : Surroundings) (headers : Headers) (publicIp : String) (deviceId : Uuid)
    (request : HeartbeatRequest) : Handler C HeartbeatResponse := do
  let userId ← MonadExcept.ofExcept (authorizeOrDefault (← lock) headers)
  let store ← lock
  let device ← orRefuse (store.devices.get? deviceId) (.notFound "device not found")
  refuseIf (device.userId ≠ userId) (.notFound "device not found")
  refuseIf (device.disabled = true) (.forbidden "device is disabled")
  if meetsTombstone store userId device publicIp request then forgetDevice env deviceId
  else recordHeartbeat env userId deviceId publicIp request

end Heartbeat

end Kmsync.Server
