import Kmsync.Core.Protocol
import Kmsync.ProofKit.HashMap
import Kmsync.ProofKit.Postcondition
import Mathlib.Tactic.Simps.Basic

/-! The store of the server: users and their sessions, devices with their presence, topologies,
profiles and signal sessions, all of them in hash maps. -/

namespace Kmsync.Server

open ProofKit

abbrev Uuid := BitVec 128

/-- How UUIDs are written and read. -/
class UuidText where
  /-- `impl Display for Uuid` -/
  display : Uuid → String
  /-- `Uuid::simple` -/
  simple : Uuid → String
  /-- `Uuid::parse_str` -/
  parseStr : String → Except String Uuid

section Text

/-- `str::trim` -/
def trimmed (value : String) : String := String.ofList (trim value.toList)

/-- `str::to_ascii_lowercase` -/
def toAsciiLowercase (value : String) : String := String.ofList (value.toList.map Char.toLower)

/-- `str::to_ascii_uppercase` -/
def toAsciiUppercase (value : String) : String := String.ofList (value.toList.map Char.toUpper)

def normalizePresentedDeviceField (value : String) : String := toAsciiLowercase (trimmed value)

end Text

/-- `u64::saturating_add` -/
def saturatingAdd (a b : UInt64) : UInt64 :=
  if a.toNat + b.toNat < 2 ^ 64 then a + b else UInt64.ofNat (2 ^ 64 - 1)

section Records

structure User where
  id : Uuid
  email : String
  createdAt : UInt64
  deriving DecidableEq

structure EmailLoginChallenge where
  code : String
  expiresAt : UInt64
  deriving DecidableEq

inductive DeviceRole where
  | master | client
  deriving DecidableEq

structure Device where
  id : Uuid
  userId : Uuid
  name : String
  role : DeviceRole
  osType : String
  osVersion : String
  appVersion : String
  publicKey : String
  disabled : Bool
  createdAt : UInt64
  updatedAt : UInt64
  deviceVersion : UInt64
  nameVersion : UInt64
  deriving DecidableEq

structure DesktopDisplayState where
  widthPx : UInt32
  heightPx : UInt32
  deriving DecidableEq

structure Presence where
  deviceId : Uuid
  userId : Uuid
  online : Bool
  lanIps : List String
  publicIp : String
  listenPort : UInt16
  natType : String
  lastSeenAt : UInt64
  expiresAt : UInt64
  presenceVersion : UInt64
  display : Option DesktopDisplayState
  deriving DecidableEq

structure DeletedDeviceKey where
  userId : Uuid
  deviceId : Option Uuid
  publicKey : String
  deriving DecidableEq

structure DeletedPresentedDeviceKey where
  userId : Uuid
  name : String
  osType : String
  lanIp : Option String
  publicIp : Option String
  listenPort : Option UInt16
  deriving DecidableEq

structure TopologyLayout where
  left : Option Uuid
  right : Option Uuid
  top : Option Uuid
  bottom : Option Uuid
  deriving DecidableEq

def TopologyLayout.default : TopologyLayout := ⟨none, none, none, none⟩

def TopologyLayout.deviceIds (layout : TopologyLayout) : List Uuid :=
  [layout.left, layout.right, layout.top, layout.bottom].filterMap id

structure Topology where
  userId : Uuid
  masterDeviceId : Option Uuid
  layout : TopologyLayout
  topologyVersion : UInt64
  updatedAt : UInt64
  deriving DecidableEq

/-- A profile, with a configuration of type `C`. -/
structure DeviceProfile (C : Type) where
  id : String
  userId : Uuid
  sourceDeviceId : Uuid
  targetDeviceId : Uuid
  config : C
  version : UInt64
  revision : UInt64
  updatedAt : UInt64
  deriving DecidableEq

structure RelayTokenRecord where
  token : String
  userId : Uuid
  sourceDeviceId : Uuid
  targetDeviceId : Uuid
  region : String
  relayUrl : String
  expiresAt : UInt64
  deriving DecidableEq

structure SignalCandidate where
  transport : String
  address : String
  priority : Int
  deriving DecidableEq

structure SignalSession where
  id : Uuid
  userId : Uuid
  sourceDeviceId : Uuid
  targetDeviceId : Uuid
  status : String
  candidates : List SignalCandidate
  createdAt : UInt64
  closedAt : Option UInt64
  deriving DecidableEq

inductive ServerEvent (C : Type) where
  | devicePresenceChanged (userId deviceId : Uuid) (online : Bool) (presenceVersion : UInt64)
  | deviceChanged (userId deviceId : Uuid) (deviceVersion nameVersion : UInt64)
  | topologyChanged (userId : Uuid) (topologyVersion : UInt64)
  | profileChanged (userId : Uuid) (profile : DeviceProfile C)
  | signalSessionChanged (userId : Uuid) (session : SignalSession)
  deriving DecidableEq

end Records

structure Store (C : Type) where
  users : HashMap Uuid User
  emailLoginCodes : HashMap String EmailLoginChallenge
  sessions : HashMap String Uuid
  refreshTokens : HashMap String Uuid
  relayTokens : HashMap String RelayTokenRecord
  signalSessions : HashMap Uuid SignalSession
  devices : HashMap Uuid Device
  presence : HashMap Uuid Presence
  deletedDeviceKeys : HashSet DeletedDeviceKey
  deletedPresentedDevices : HashSet DeletedPresentedDeviceKey
  topologies : HashMap Uuid Topology
  profiles : HashMap String (DeviceProfile C)
  profileHistory : HashMap String (List (DeviceProfile C))
  profileRevision : UInt64

/-- `Store::default` -/
def Store.empty {C : Type} : Store C where
  users := ∅
  emailLoginCodes := ∅
  sessions := ∅
  refreshTokens := ∅
  relayTokens := ∅
  signalSessions := ∅
  devices := ∅
  presence := ∅
  deletedDeviceKeys := ∅
  deletedPresentedDevices := ∅
  topologies := ∅
  profiles := ∅
  profileHistory := ∅
  profileRevision := 0

section Edits

variable {C : Type} (store : Store C)

namespace Store

@[simps]
def putSignalSession (sessionId : Uuid) (session : SignalSession) : Store C :=
  { store with signalSessions := store.signalSessions.insert sessionId session }

@[simps]
def putDevice (deviceId : Uuid) (device : Device) : Store C :=
  { store with devices := store.devices.insert deviceId device }

@[simps]
def putPresence (deviceId : Uuid) (presence : Presence) : Store C :=
  { store with presence := store.presence.insert deviceId presence }

@[simps]
def putTopology (userId : Uuid) (topology : Topology) : Store C :=
  { store with topologies := store.topologies.insert userId topology }

/-- The device goes, with its presence and nothing else. -/
@[simps]
def dropDevice (deviceId : Uuid) : Store C :=
  { store with
    devices := store.devices.erase deviceId
    presence := store.presence.erase deviceId }

end Store

end Edits

section Errors

inductive StatusCode where
  | badRequest | unauthorized | forbidden | notFound | conflict | internalServerError
  deriving DecidableEq

structure ApiError where
  status : StatusCode
  message : String
  deriving DecidableEq

namespace ApiError

def badRequest (message : String) : ApiError := ⟨.badRequest, message⟩
def unauthorized (message : String) : ApiError := ⟨.unauthorized, message⟩
def forbidden (message : String) : ApiError := ⟨.forbidden, message⟩
def conflict (message : String) : ApiError := ⟨.conflict, message⟩
def notFound (message : String) : ApiError := ⟨.notFound, message⟩
def internal (message : String) : ApiError := ⟨.internalServerError, message⟩

end ApiError

end Errors

section Relay

/-- An unbounded channel: whether its receiver is still there, and what was sent into it. -/
structure Channel where
  isOpen : Bool
  frames : List (List UInt8)
  deriving DecidableEq

structure RelayPeer where
  connectionId : Uuid
  tx : ℕ
  deriving DecidableEq

/-- The peers of the relay, with the channels it has made; senders and receivers are their
numbers. -/
structure RelayHub where
  peers : HashMap Uuid RelayPeer
  channels : List Channel

def RelayHub.rxOnline (hub : RelayHub) (deviceId : Uuid) : Bool := deviceId ∈ hub.peers

end Relay

/-- The state of the server: the store in memory, the store in the data file, the events that were
published, and the relay. -/
structure AppState (C : Type) where
  inner : Store C
  file : Store C
  events : List (ServerEvent C)
  relay : RelayHub

def AppState.start {C : Type} : AppState C := ⟨.empty, .empty, [], ⟨∅, []⟩⟩

/-- What the surroundings answer to one request. -/
structure Surroundings where
  /-- `now_seconds()` -/
  now : UInt64
  /-- the UUIDs that `Uuid::new_v4()` makes, one for each use -/
  uuid : ℕ → Uuid
  /-- `StorePersistence::save` -/
  save : Except String Unit
  /-- the hash by which maps over UUIDs are iterated -/
  hash : Uuid → ℕ
  /-- the hash by which the deleted keys are iterated -/
  keyHash : DeletedDeviceKey → ℕ
  /-- the hash by which maps over profile ids are iterated -/
  idHash : String → ℕ

/-- Surroundings in which the store can be saved, at a time and with UUIDs from one on. -/
def Surroundings.usual (now : UInt64) (id : Uuid) : Surroundings where
  now
  uuid n := id + BitVec.ofNat 128 n
  save := .ok ()
  hash id := id.toNat
  keyHash _ := 0
  idHash _ := 0

abbrev Handler (C α : Type) := EStateM ApiError (AppState C) α

section Programs

variable {C α : Type}

/-- `let Some(x) = found else { return Err(error) }` -/
def orRefuse (found : Option α) (error : ApiError) : Handler C α :=
  match found with
  | some x => pure x
  | none => throw error

/-- `if refused { return Err(error) }` -/
def refuseIf (refused : Prop) [Decidable refused] (error : ApiError) : Handler C Unit :=
  if refused then throw error else pure ()

/-- The store under its lock. -/
def lock : Handler C (Store C) := return (← get).inner

def modifyStore (f : Store C → Store C) : Handler C Unit :=
  modify fun s => { s with inner := f s.inner }

/-- The file is replaced as a whole, by renaming another one to it. -/
def saveLocked (env : Surroundings) : Handler C Unit :=
  match env.save with
  | .ok () => modify fun s => { s with file := s.inner }
  | .error error => throw (.internal error)

def publishEvent (event : ServerEvent C) : Handler C Unit :=
  modify fun s => { s with events := s.events ++ [event] }

/-- `if published { publish_event(event) }` -/
def publishIf (published : Prop) [Decidable published] (event : ServerEvent C) : Handler C Unit :=
  if published then publishEvent event else pure ()

variable {env : Surroundings} {s : AppState C} {Q : α → AppState C → Prop}
  {E : ApiError → AppState C → Prop}

@[simp] theorem meets_pure {a : α} : Meets (pure a : Handler C α) Q E s ↔ Q a s := Iff.rfl

@[simp] theorem meets_orRefuse {found : Option α} {error : ApiError} :
    Meets (orRefuse found error : Handler C α) Q E s ↔
      (∀ a, found = some a → Q a s) ∧ (found = none → E error s) := by
  cases found with
  | some a => simp [orRefuse]
  | none => simp [orRefuse]

@[simp] theorem meets_refuseIf {refused : Prop} [Decidable refused] {error : ApiError}
    {Q : Unit → AppState C → Prop} :
    Meets (refuseIf refused error : Handler C Unit) Q E s ↔
      (¬ refused → Q () s) ∧ (refused → E error s) := by
  unfold refuseIf
  split
  next h => simp [h]
  next h => simp [h]

@[simp] theorem meets_lock {Q : Store C → AppState C → Prop} :
    Meets (lock : Handler C (Store C)) Q E s ↔ Q s.inner s := Iff.rfl

@[simp] theorem meets_modifyStore {f : Store C → Store C} {Q : Unit → AppState C → Prop} :
    Meets (modifyStore f : Handler C Unit) Q E s ↔ Q () { s with inner := f s.inner } := Iff.rfl

theorem save_ne_error (hSave : env.save = .ok ()) {error : String} : env.save ≠ .error error := by
  rw [hSave]
  intro h
  cases h

@[simp] theorem meets_saveLocked {Q : Unit → AppState C → Prop} :
    Meets (saveLocked env : Handler C Unit) Q E s ↔
      (env.save = .ok () → Q () { s with file := s.inner }) ∧
        ∀ error, env.save = .error error → E (.internal error) s := by
  unfold saveLocked
  cases env.save with
  | ok u => simp
  | error e => simp

@[simp] theorem meets_publishEvent {event : ServerEvent C} {Q : Unit → AppState C → Prop} :
    Meets (publishEvent event : Handler C Unit) Q E s ↔
      Q () { s with events := s.events ++ [event] } := Iff.rfl

@[simp] theorem meets_publishIf {published : Prop} [Decidable published] {event : ServerEvent C}
    {Q : Unit → AppState C → Prop} :
    Meets (publishIf published event : Handler C Unit) Q E s ↔
      Q () { s with events := s.events ++ if published then [event] else [] } := by
  unfold publishIf
  split
  next => exact Iff.rfl
  next => simp

end Programs

section Authorization

structure Headers where
  /-- the `authorization` header, and its value if that is visible text -/
  authorization : Option (Option String)
  deriving DecidableEq

variable {C : Type}

def bearerToken (headers : Headers) : Except ApiError String :=
  match headers.authorization with
  | none => .error (.unauthorized "missing authorization header")
  | some none => .error (.unauthorized "invalid authorization header")
  | some (some value) =>
    match value.toList.dropPrefix? "Bearer ".toList with
    | some token => .ok (String.ofList token)
    | none => .error (.unauthorized "expected bearer token")

def authorizeAccessToken (store : Store C) (token : String) : Except ApiError Uuid :=
  match store.sessions.get? token with
  | some userId => .ok userId
  | none => .error (.unauthorized "invalid token")

def authorize (store : Store C) (headers : Headers) : Except ApiError Uuid := do
  authorizeAccessToken store (← bearerToken headers)

def defaultUserId : Uuid := 1

def authorizeOrDefault (store : Store C) (headers : Headers) : Except ApiError Uuid :=
  if headers.authorization.isSome then authorize store headers else .ok defaultUserId

def assertDeviceOwner (store : Store C) (userId deviceId : Uuid) : Except ApiError Unit :=
  match store.devices.get? deviceId with
  | some device =>
    if device.userId = userId then .ok () else .error (.notFound "device not found")
  | none => .error (.notFound "device not found")

theorem assertDeviceOwner_eq_ok {store : Store C} {userId deviceId : Uuid} {u : Unit} :
    assertDeviceOwner store userId deviceId = .ok u ↔
      ∃ device, store.devices.get? deviceId = some device ∧ device.userId = userId := by
  unfold assertDeviceOwner
  cases store.devices.get? deviceId with
  | none => simp
  | some device => simp

end Authorization

end Kmsync.Server
