import Kmsync.Server.Devices
import Mathlib.Data.List.Destutter

/-! The peers that the desktop shows.  Devices of one list are shown in one row if a key, made of
what they present, is the same text; the best of them stands for the row. -/

namespace Kmsync.Desktop

open ProofKit
open Server (saturatingAdd trimmed)

section Items

structure Device where
  id : String
  name : String
  osType : String
  publicKey : String
  disabled : Bool
  deriving DecidableEq

structure Presence where
  online : Bool
  lanIps : List String
  publicIp : String
  listenPort : UInt16
  lastSeenAt : UInt64
  expiresAt : UInt64
  display : Option Server.DesktopDisplayState
  deriving DecidableEq

structure DeviceRelayStatus where
  rxOnline : Bool
  deriving DecidableEq

structure DeviceWithPresence where
  device : Device
  presence : Option Presence
  relay : Option DeviceRelayStatus
  deriving DecidableEq

end Items

section Keys

/-- `Vec::sort` and `Vec::dedup` -/
def sortDedup (ips : List String) : List String :=
  (ips.insertionSort (· ≤ ·)).destutter (· ≠ ·)

def DeviceWithPresence.name (item : DeviceWithPresence) : String :=
  Server.toAsciiLowercase (trimmed item.device.name)

def DeviceWithPresence.os (item : DeviceWithPresence) : String :=
  Server.toAsciiLowercase (trimmed item.device.osType)

/-- The branches of `peer_dedup_key` for a device with a presence. -/
def DeviceWithPresence.presentedKey (item : DeviceWithPresence) : Option String :=
  match item.presence with
  | none => none
  | some presence =>
    let lanIps := sortDedup presence.lanIps
    if lanIps ≠ [] then
      some ("name:" ++ item.name ++ "|os:" ++ item.os ++ "|lan:" ++ ",".intercalate lanIps)
    else if trimmed presence.publicIp ≠ "" then
      some ("name:" ++ item.name ++ "|os:" ++ item.os ++ "|public:" ++ presence.publicIp ++ ":" ++
        toString presence.listenPort.toNat)
    else none

def peerDedupKey (item : DeviceWithPresence) : String :=
  match item.presentedKey with
  | some key => key
  | none =>
    if trimmed item.device.publicKey ≠ "" then "key:" ++ trimmed item.device.publicKey
    else "id:" ++ item.device.id

end Keys

section Choice

def presenceTtlSeconds : UInt64 := 60

def presenceIsOnlineAt (presence : Presence) (now : UInt64) : Bool :=
  let expiresAt :=
    if presence.expiresAt = 0 then saturatingAdd presence.lastSeenAt presenceTtlSeconds
    else presence.expiresAt
  presence.online && now ≤ expiresAt

namespace DeviceWithPresence

def isOnline (item : DeviceWithPresence) (now : UInt64) : Bool :=
  item.presence.any (presenceIsOnlineAt · now)

def hasRelay (item : DeviceWithPresence) : Bool := item.relay.any (·.rxOnline)

def lastSeen (item : DeviceWithPresence) : UInt64 := item.presence.elim 0 (·.lastSeenAt)

end DeviceWithPresence

/-- The comparison is of tuples, which the first difference decides. -/
def peerItemIsBetter (candidate existing : DeviceWithPresence) (now : UInt64) : Bool :=
  (compare (candidate.isOnline now) (existing.isOnline now)).then
    ((compare candidate.hasRelay existing.hasRelay).then
      ((compare candidate.lastSeen existing.lastSeen).then
        (compare candidate.device.id existing.device.id))) = .gt

def peerItemIsAvailable (item : DeviceWithPresence) (now : UInt64) : Bool :=
  item.isOnline now || item.hasRelay

end Choice

section Index

structure DesktopPeerState where
  id : String
  name : String
  os : String
  online : Bool
  syncRelayStatusKnown : Bool
  syncRelayOnline : Bool
  lanIps : List String
  publicIp : Option String
  listenPort : Option UInt16
  lastSeenAt : Option UInt64
  display : Option Server.DesktopDisplayState
  deriving DecidableEq

def peerStateFromItem (item : DeviceWithPresence) (now : UInt64) : DesktopPeerState where
  id := item.device.id
  name := item.device.name
  os := item.device.osType
  online := item.isOnline now
  syncRelayStatusKnown := item.relay.isSome
  syncRelayOnline := item.hasRelay
  lanIps := (item.presence.map (·.lanIps)).getD []
  publicIp := item.presence.map (·.publicIp)
  listenPort := item.presence.map (·.listenPort)
  lastSeenAt := item.presence.map (·.lastSeenAt)
  display := item.presence.bind (·.display)

structure PeerStateIndex where
  peers : List DesktopPeerState
  canonicalDeviceIds : HashMap String String

/-- The devices that are looked at: those that are enabled, but for the current one. -/
def isPeer (currentDeviceId : Option String) (item : DeviceWithPresence) : Bool :=
  some item.device.id ≠ currentDeviceId ∧ item.device.disabled = false

/-- A row: its key, and the item that stands for it. -/
abbrev PeerRow := String × DeviceWithPresence

/-- One round of the loop that selects the peers. -/
def selectPeer (now : UInt64) (item : DeviceWithPresence) : List PeerRow → List PeerRow
  | [] => [(peerDedupKey item, item)]
  | (key, existing) :: rows =>
    if key = peerDedupKey item then
      (key, if peerItemIsBetter item existing now then item else existing) :: rows
    else (key, existing) :: selectPeer now item rows

def selectPeers (currentDeviceId : Option String) (devices : List DeviceWithPresence)
    (now : UInt64) : List PeerRow :=
  (devices.filter (isPeer currentDeviceId)).foldl (fun rows item => selectPeer now item rows) []

/-- One round of the loop that finds the canonical ids. -/
def putCanonical (now : UInt64) (selected : List PeerRow) (ids : HashMap String String)
    (item : DeviceWithPresence) : HashMap String String :=
  match selected.find? (·.1 = peerDedupKey item) with
  | some (_, selectedItem) =>
    if item.device.id = selectedItem.device.id ∨ peerItemIsAvailable selectedItem now then
      ids.insert item.device.id selectedItem.device.id
    else ids
  | none => ids

def buildPeerStateIndex (currentDeviceId : Option String) (devices : List DeviceWithPresence)
    (now : UInt64) : PeerStateIndex :=
  let selected := selectPeers currentDeviceId devices now
  { peers := selected.map fun row => peerStateFromItem row.2 now
    canonicalDeviceIds :=
      (devices.filter (isPeer currentDeviceId)).foldl (putCanonical now selected) ∅ }

end Index

section Rows

variable {now : UInt64} {item : DeviceWithPresence} {row : PeerRow} {rows : List PeerRow}
  {currentDeviceId : Option String} {devices : List DeviceWithPresence}

theorem mem_selectPeer_keys {key : String} :
    key ∈ (selectPeer now item rows).map (·.1) ↔ key = peerDedupKey item ∨ key ∈ rows.map (·.1) := by
  induction rows with
  | nil => simp [selectPeer]
  | cons existing rows ih =>
    rw [selectPeer]
    split
    next hKey =>
      simp only [List.map_cons, List.mem_cons]
      rw [hKey]
      exact (or_iff_right_of_imp .inl).symm
    next =>
      simp only [List.map_cons, List.mem_cons, ih]
      exact or_left_comm

theorem nodup_selectPeer (h : (rows.map (·.1)).Nodup) :
    ((selectPeer now item rows).map (·.1)).Nodup := by
  induction rows with
  | nil => exact List.nodup_singleton _
  | cons existing rows ih =>
    obtain ⟨hNew, hRows⟩ := List.nodup_cons.mp h
    rw [selectPeer]
    split
    next => exact h
    next hKey =>
      refine List.nodup_cons.mpr ⟨fun hMem => ?_, ih hRows⟩
      rcases mem_selectPeer_keys.mp hMem with hEq | hOld
      · exact hKey hEq
      · exact hNew hOld

/-- A row is an old one, or has the item. -/
theorem mem_selectPeer (h : row ∈ selectPeer now item rows) :
    row ∈ rows ∨ row = (peerDedupKey item, item) := by
  induction rows with
  | nil => exact .inr (List.mem_singleton.mp h)
  | cons existing rows ih =>
    rw [selectPeer] at h
    split at h
    next hKey =>
      rcases List.mem_cons.mp h with rfl | hOld
      · split
        next => exact .inr (congrArg (·, item) hKey)
        next => exact .inl List.mem_cons_self
      · exact .inl (List.mem_cons_of_mem _ hOld)
    next =>
      rcases List.mem_cons.mp h with rfl | hRest
      · exact .inl List.mem_cons_self
      · exact (ih hRest).imp_left (List.mem_cons_of_mem _)

/-- The rows have different keys, and each has the key of its item, which is one of the list. -/
structure Rows (devices : List DeviceWithPresence) (rows : List PeerRow) : Prop where
  nodup : (rows.map (·.1)).Nodup
  key : ∀ row ∈ rows, row.1 = peerDedupKey row.2
  item : ∀ row ∈ rows, row.2 ∈ devices
  mem : ∀ item ∈ devices, peerDedupKey item ∈ rows.map (·.1)

theorem Rows.selectPeer (h : Rows devices rows) :
    Rows (devices ++ [item]) (selectPeer now item rows) where
  nodup := nodup_selectPeer h.nodup
  key row hMem := by
    rcases mem_selectPeer hMem with hOld | rfl
    · exact h.key row hOld
    · rfl
  item row hMem := by
    rcases mem_selectPeer hMem with hOld | rfl
    · exact List.mem_append_left _ (h.item row hOld)
    · exact List.mem_append_right _ List.mem_cons_self
  mem found hMem := by
    rw [mem_selectPeer_keys]
    rcases List.mem_append.mp hMem with hOld | hNew
    · exact .inr (h.mem found hOld)
    · exact .inl (congrArg peerDedupKey (List.mem_singleton.mp hNew))

theorem rows_foldl_selectPeer :
    Rows devices (devices.foldl (fun rows item => selectPeer now item rows) []) := by
  induction devices using List.reverseRecOn with
  | nil => exact ⟨List.nodup_nil, nofun, nofun, nofun⟩
  | append_singleton devices item ih =>
    rw [List.foldl_append]
    exact ih.selectPeer

/-- The selected rows are those of the peers. -/
theorem rows_selectPeers :
    Rows (devices.filter (isPeer currentDeviceId)) (selectPeers currentDeviceId devices now) :=
  rows_foldl_selectPeer

/-- There is one row for each key. -/
theorem Rows.eq_of_key {row' : PeerRow} (h : Rows devices rows) (hMem : row ∈ rows)
    (hMem' : row' ∈ rows) (hKey : peerDedupKey row.2 = peerDedupKey row'.2) : row = row' := by
  rw [← h.key row hMem, ← h.key row' hMem'] at hKey
  exact List.inj_on_of_nodup_map h.nodup hMem hMem' hKey

end Rows

end Kmsync.Desktop
