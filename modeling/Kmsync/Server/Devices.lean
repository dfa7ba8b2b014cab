import Kmsync.Server.Store

/-! Registration and management of devices, and the presence that they report. -/

namespace Kmsync.Server

open ProofKit

variable {C : Type}

section Registration

structure RegisterDeviceRequest where
  deviceId : Option Uuid
  name : String
  role : Option DeviceRole
  osType : String
  osVersion : String
  appVersion : String
  publicKey : String
  deriving DecidableEq

inductive DeletedDeviceKeyDecision where
  | notDeleted | reactivateSameIdentity | blockDuplicateIdentity
  deriving DecidableEq

/-- The loop of `deleted_device_key_decision`, which ends early at a key of another device. -/
def scanDeletedDeviceKeys (userId requestedDeviceId : Uuid) (publicKey : String) :
    DeletedDeviceKeyDecision → List DeletedDeviceKey → DeletedDeviceKeyDecision
  | decision, [] => decision
  | decision, key :: keys =>
    if key.userId ≠ userId ∨ key.publicKey ≠ publicKey then
      scanDeletedDeviceKeys userId requestedDeviceId publicKey decision keys
    else
      match key.deviceId with
      | some deletedDeviceId =>
        if deletedDeviceId ≠ requestedDeviceId then .blockDuplicateIdentity
        else
          scanDeletedDeviceKeys userId requestedDeviceId publicKey .reactivateSameIdentity keys
      | none => scanDeletedDeviceKeys userId requestedDeviceId publicKey .reactivateSameIdentity keys

def deletedDeviceKeyDecision (env : Surroundings) (store : Store C)
    (userId requestedDeviceId : Uuid) (publicKey : String) : DeletedDeviceKeyDecision :=
  scanDeletedDeviceKeys userId requestedDeviceId publicKey .notDeleted
    (store.deletedDeviceKeys.elements env.keyHash)

/-- The device that a registration is for: the one that was asked for, or one that has its key. -/
def registeredDeviceId (env : Surroundings) (store : Store C) (userId requestedDeviceId : Uuid)
    (publicKey : String) : Uuid :=
  if requestedDeviceId ∈ store.devices then requestedDeviceId
  else
    match (store.devices.values env.hash).find? fun device =>
      device.userId = userId ∧ device.publicKey = publicKey with
    | some device => device.id
    | none => requestedDeviceId

/-- A device that is there takes over what is new in the request. -/
def Device.refreshed (device : Device) (request : RegisterDeviceRequest) (now : UInt64) : Device :=
  let role := request.role.getD device.role
  let changed := device.role ≠ role ∨ device.osType ≠ request.osType ∨
    device.osVersion ≠ request.osVersion ∨ device.appVersion ≠ request.appVersion
  { device with
    role
    osType := request.osType
    osVersion := request.osVersion
    appVersion := request.appVersion
    updatedAt := if changed then now else device.updatedAt
    deviceVersion :=
      if changed then saturatingNext device.deviceVersion else device.deviceVersion }

def Device.new (userId deviceId : Uuid) (request : RegisterDeviceRequest) (now : UInt64) :
    Device where
  id := deviceId
  userId
  name := request.name
  role := request.role.getD .client
  osType := request.osType
  osVersion := request.osVersion
  appVersion := request.appVersion
  publicKey := request.publicKey
  disabled := false
  createdAt := now
  updatedAt := now
  deviceVersion := 1
  nameVersion := 1

def putRegisteredDevice (env : Surroundings) (userId deviceId : Uuid)
    (request : RegisterDeviceRequest) : Handler C Unit := do
  match (← lock).devices.get? deviceId with
  | some device =>
    refuseIf (device.userId ≠ userId) (.conflict "device id already belongs to another user")
    refuseIf (device.publicKey ≠ request.publicKey) (.conflict "device public key mismatch")
    modifyStore (·.putDevice deviceId (device.refreshed request env.now))
  | none => modifyStore (·.putDevice deviceId (.new userId deviceId request env.now))

/-- Whether a key of a deleted device is given up when the device registers again. -/
def DeletedDeviceKey.clearedBy (userId deviceId : Uuid) (publicKey : String)
    (key : DeletedDeviceKey) : Bool :=
  key.userId = userId ∧ key.publicKey = publicKey ∧
    (key.deviceId = none ∨ key.deviceId = some deviceId)

/-- Whether a tombstone is under a name and an operating system. -/
def DeletedPresentedDeviceKey.isUnder (userId : Uuid) (name osType : String)
    (key : DeletedPresentedDeviceKey) : Bool :=
  key.userId = userId ∧ key.name = normalizePresentedDeviceField name ∧
    key.osType = normalizePresentedDeviceField osType

@[simps]
def Store.clearDeleted (store : Store C) (userId deviceId : Uuid)
    (request : RegisterDeviceRequest) (decision : DeletedDeviceKeyDecision) : Store C :=
  { store with
    deletedDeviceKeys := store.deletedDeviceKeys.retain fun key =>
      !key.clearedBy userId deviceId request.publicKey
    deletedPresentedDevices :=
      if decision = .reactivateSameIdentity then
        store.deletedPresentedDevices.retain fun key =>
          !key.isUnder userId request.name request.osType
      else store.deletedPresentedDevices }

def registerDevice (env : Surroundings) (headers : Headers) (request : RegisterDeviceRequest) :
    Handler C Uuid := do
  let userId ← MonadExcept.ofExcept (authorizeOrDefault (← lock) headers)
  refuseIf (trimmed request.name = "") (.badRequest "device name is required")
  let store ← lock
  let requestedDeviceId := request.deviceId.getD (env.uuid 0)
  let decision :=
    deletedDeviceKeyDecision env store userId requestedDeviceId request.publicKey
  refuseIf (requestedDeviceId ∉ store.devices ∧ decision = .blockDuplicateIdentity)
    (.forbidden "device was deleted")
  let deviceId := registeredDeviceId env store userId requestedDeviceId request.publicKey
  putRegisteredDevice env userId deviceId request
  modifyStore (·.clearDeleted userId deviceId request decision)
  saveLocked env
  return deviceId

end Registration

section Management

structure UpdateDeviceRequest where
  name : Option String
  disabled : Option Bool
  deriving DecidableEq

/-- The request changes something about the device. -/
def UpdateDeviceRequest.changes (request : UpdateDeviceRequest) (device : Device) : Bool :=
  request.name.any (device.name ≠ ·) || request.disabled.any (device.disabled ≠ ·)

def Device.updated (device : Device) (request : UpdateDeviceRequest) (now : UInt64) : Device :=
  { device with
    name := request.name.getD device.name
    nameVersion :=
      if request.name.any (device.name ≠ ·) then saturatingNext device.nameVersion
      else device.nameVersion
    disabled := request.disabled.getD device.disabled
    updatedAt := if request.changes device then now else device.updatedAt
    deviceVersion :=
      if request.changes device then saturatingNext device.deviceVersion
      else device.deviceVersion }

def updateDevice (env : Surroundings) (headers : Headers) (deviceId : Uuid)
    (request : UpdateDeviceRequest) : Handler C Device := do
  let userId ← MonadExcept.ofExcept (authorizeOrDefault (← lock) headers)
  let device ← orRefuse ((← lock).devices.get? deviceId) (.notFound "device not found")
  refuseIf (device.userId ≠ userId) (.notFound "device not found")
  refuseIf (request.name.any (trimmed · = "")) (.badRequest "device name is required")
  let updated := device.updated request env.now
  modifyStore (·.putDevice deviceId updated)
  saveLocked env
  publishIf (request.changes device)
    (.deviceChanged userId deviceId updated.deviceVersion updated.nameVersion)
  return updated

structure ReauthorizeDeviceRequest where
  publicKey : String
  deriving DecidableEq

def Device.reauthorized (device : Device) (request : ReauthorizeDeviceRequest) (now : UInt64) :
    Device :=
  { device with
    publicKey := request.publicKey
    disabled := false
    updatedAt := now
    deviceVersion := saturatingNext device.deviceVersion }

def reauthorizeDevice (env : Surroundings) (headers : Headers) (deviceId : Uuid)
    (request : ReauthorizeDeviceRequest) : Handler C Device := do
  let userId ← MonadExcept.ofExcept (authorizeOrDefault (← lock) headers)
  refuseIf (trimmed request.publicKey = "") (.badRequest "public key is required")
  let device ← orRefuse ((← lock).devices.get? deviceId) (.notFound "device not found")
  refuseIf (device.userId ≠ userId) (.notFound "device not found")
  let reauthorized := device.reauthorized request env.now
  modifyStore (·.putDevice deviceId reauthorized)
  saveLocked env
  publishEvent
    (.deviceChanged userId deviceId reauthorized.deviceVersion reauthorized.nameVersion)
  return reauthorized

end Management

section Presence

def presenceTtlSeconds : UInt64 := 60

def presenceExpiresAt (presence : Presence) : UInt64 :=
  if presence.expiresAt = 0 then saturatingAdd presence.lastSeenAt presenceTtlSeconds
  else presence.expiresAt

def presenceIsOnlineAt (presence : Presence) (now : UInt64) : Bool :=
  presence.online && now ≤ presenceExpiresAt presence

structure HeartbeatRequest where
  lanIps : List String
  listenPort : UInt16
  natType : Option String
  display : Option DesktopDisplayState
  deriving DecidableEq

structure HeartbeatResponse where
  online : Bool
  lastSeenAt : UInt64
  presenceVersion : UInt64
  deriving DecidableEq

/-- `unwrap_or_else(|| "unknown".to_string())` -/
def HeartbeatRequest.nat (request : HeartbeatRequest) : String := request.natType.getD "unknown"

/-- The presence is that of the request already. -/
def Presence.repeats (presence : Presence) (request : HeartbeatRequest) (now : UInt64) : Bool :=
  presenceIsOnlineAt presence now && presence.lanIps = request.lanIps &&
    presence.listenPort = request.listenPort && presence.natType = request.nat &&
    presence.display = request.display

def heartbeatVersion (previous : Option Presence) (request : HeartbeatRequest) (now : UInt64) :
    UInt64 :=
  match previous with
  | none => 1
  | some presence =>
    if presence.repeats request now then presence.presenceVersion
    else saturatingNext presence.presenceVersion

/-- The presence that a heartbeat from an address leaves. -/
def heartbeatPresence (userId deviceId : Uuid) (publicIp : String) (request : HeartbeatRequest)
    (now presenceVersion : UInt64) : Presence where
  deviceId
  userId
  online := true
  lanIps := request.lanIps
  publicIp
  listenPort := request.listenPort
  natType := request.nat
  lastSeenAt := now
  expiresAt := saturatingAdd now presenceTtlSeconds
  presenceVersion
  display := request.display

def Presence.markedOffline (presence : Presence) (now : UInt64) : Presence :=
  { presence with
    online := false
    expiresAt := now
    presenceVersion := saturatingNext presence.presenceVersion }

/-- The event is published before the store is saved. -/
def markDeviceOffline (env : Surroundings) (headers : Headers) (deviceId : Uuid) :
    Handler C HeartbeatResponse := do
  let userId ← MonadExcept.ofExcept (authorizeOrDefault (← lock) headers)
  let device ← orRefuse ((← lock).devices.get? deviceId) (.notFound "device not found")
  refuseIf (device.userId ≠ userId) (.notFound "device not found")
  match (← lock).presence.get? deviceId with
  | none => return ⟨false, env.now, 1⟩
  | some presence =>
    let offline := presence.markedOffline env.now
    modifyStore (·.putPresence deviceId offline)
    publishIf (presenceIsOnlineAt presence env.now)
      (.devicePresenceChanged userId deviceId false offline.presenceVersion)
    saveLocked env
    return ⟨false, offline.lastSeenAt, offline.presenceVersion⟩

structure DeviceWithPresence where
  device : Device
  presence : Option Presence
  rxOnline : Bool
  deriving DecidableEq

def presenceForDeviceList (presence : Option Presence) (now : UInt64) : Option Presence :=
  presence.map fun presence =>
    if presenceIsOnlineAt presence now then presence else { presence with online := false }

def listDevices (env : Surroundings) (headers : Headers) : Handler C (List DeviceWithPresence) := do
  let userId ← MonadExcept.ofExcept (authorizeOrDefault (← lock) headers)
  let s ← get
  return ((s.inner.devices.values env.hash).filter (·.userId = userId)).map fun device =>
    ⟨device, presenceForDeviceList (s.inner.presence.get? device.id) env.now,
      s.relay.rxOnline device.id⟩

end Presence

end Kmsync.Server
