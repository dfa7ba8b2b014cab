import Kmsync.Desktop.Peers
import Kmsync.Server.Tombstones
import Kmsync.Server.UuidText

/-! The rows of the desktop beside the deletions of the server.  The server deletes a device
together with the others that share its presented identity; the desktop tells devices apart by all
of their addresses, where the server asks for one that they have in common. -/

namespace Kmsync.Desktop

open ProofKit
open Server (AppState Headers LawfulUuidText Surroundings Uuid UuidText authorizeOrDefault
  deviceDeletionGroupIds devicesSharePresentedIdentity listDevices trimmed)

variable {C : Type}

section Listed

/-- What the desktop reads from the answer of the server. -/
def DeviceWithPresence.ofServer [UuidText] (item : Server.DeviceWithPresence) :
    DeviceWithPresence where
  device :=
    { id := UuidText.display item.device.id
      name := item.device.name
      osType := item.device.osType
      publicKey := item.device.publicKey
      disabled := item.device.disabled }
  presence := item.presence.map fun presence =>
    { online := presence.online
      lanIps := presence.lanIps
      publicIp := presence.publicIp
      listenPort := presence.listenPort
      lastSeenAt := presence.lastSeenAt
      expiresAt := presence.expiresAt
      display := presence.display }
  relay := some ⟨item.rxOnline⟩

variable [UuidText]

/-- A device of the answer is one of the peers. -/
def IsShown (currentDeviceId : Option String) (item : Server.DeviceWithPresence) : Prop :=
  isPeer currentDeviceId (.ofServer item) = true

/-- The server deletes a device with another. -/
def DeletedWith (env : Surroundings) (s : AppState C) (userId : Uuid)
    (a b : Server.DeviceWithPresence) : Prop :=
  b.device.id ∈ deviceDeletionGroupIds env s.inner userId a.device.id

/-- Peers that are deleted together are shown in one row: to delete one that is shown does not
delete another. -/
structure ShownAsDeleted (env : Surroundings) (s : AppState C) (userId : Uuid)
    (currentDeviceId : Option String) (now : UInt64) (listed : List Server.DeviceWithPresence) :
    Prop where
  rows : ∀ a ∈ listed, ∀ b ∈ listed, IsShown currentDeviceId a → IsShown currentDeviceId b →
    DeletedWith env s userId a b → peerDedupKey (.ofServer a) = peerDedupKey (.ofServer b)
  apart : ∀ p ∈ (buildPeerStateIndex currentDeviceId (listed.map .ofServer) now).peers,
    ∀ q ∈ (buildPeerStateIndex currentDeviceId (listed.map .ofServer) now).peers,
    ∀ a ∈ listed, ∀ b ∈ listed, p.id = UuidText.display a.device.id →
      q.id = UuidText.display b.device.id → DeletedWith env s userId a b → p = q

end Listed

section Alike

/-- The addresses that are part of the key of a peer. -/
inductive ShownAddresses where
  | nothing
  | lanIps (ips : List String)
  | publicIp (ip : String) (port : UInt16)
  deriving DecidableEq

def ShownAddresses.text : ShownAddresses → Option String
  | .nothing => none
  | .lanIps ips => some ("|lan:" ++ ",".intercalate ips)
  | .publicIp ip port => some ("|public:" ++ ip ++ ":" ++ toString port.toNat)

def DeviceWithPresence.addresses (item : DeviceWithPresence) : ShownAddresses :=
  match item.presence with
  | none => .nothing
  | some presence =>
    if sortDedup presence.lanIps ≠ [] then .lanIps (sortDedup presence.lanIps)
    else if trimmed presence.publicIp ≠ "" then .publicIp presence.publicIp presence.listenPort
    else .nothing

/-- Two peers have the same name and operating system, up to case. -/
def DeviceWithPresence.SameName (a b : DeviceWithPresence) : Prop := a.name = b.name ∧ a.os = b.os

instance (a b : DeviceWithPresence) : Decidable (a.SameName b) := inferInstanceAs (Decidable (_ ∧ _))

/-- How two peers with a key or an address in common come into one row.  In the last way, names with
separators in them are read as one text together with the addresses. -/
inductive ShownAlike (a b : DeviceWithPresence) : Prop where
  | unaddressed (ha : a.addresses = .nothing) (hb : b.addresses = .nothing)
  | lanIps {ips ips' : List String} (hName : a.SameName b) (ha : a.addresses = .lanIps ips)
      (hb : b.addresses = .lanIps ips') (hText : ",".intercalate ips = ",".intercalate ips')
  | publicIp {ip : String} {port : UInt16} (hName : a.SameName b)
      (ha : a.addresses = .publicIp ip port) (hb : b.addresses = .publicIp ip port)
  | renamed {text text' : String} (hName : ¬ a.SameName b) (ha : a.addresses.text = some text)
      (hb : b.addresses.text = some text')
      (hText : a.name ++ "|os:" ++ a.os ++ text = b.name ++ "|os:" ++ b.os ++ text')

end Alike

section Keys

variable {a b : DeviceWithPresence}

/-- The key of a peer that shows addresses is made of the name, the system and the addresses. -/
theorem presentedKey_eq (item : DeviceWithPresence) :
    item.presentedKey =
      item.addresses.text.map ("name:" ++ item.name ++ "|os:" ++ item.os ++ ·) := by
  unfold DeviceWithPresence.presentedKey DeviceWithPresence.addresses
  cases item.presence with
  | none => rfl
  | some presence =>
    simp only
    split
    next => simp only [ShownAddresses.text, Option.map_some, String.append_assoc]
    next =>
      split
      next => simp only [ShownAddresses.text, Option.map_some, String.append_assoc]
      next => rfl

theorem presentedKey_eq_none {item : DeviceWithPresence} :
    item.presentedKey = none ↔ item.addresses = .nothing := by
  rw [presentedKey_eq, Option.map_eq_none_iff]
  cases item.addresses with
  | nothing => exact iff_of_true rfl rfl
  | lanIps ips => exact iff_of_false nofun nofun
  | publicIp ip port => exact iff_of_false nofun nofun

theorem presentedKey_eq_some {item : DeviceWithPresence} {key : String} :
    item.presentedKey = some key ↔ ∃ text, item.addresses.text = some text ∧
      "name:" ++ (item.name ++ "|os:" ++ item.os ++ text) = key := by
  simp only [presentedKey_eq, Option.map_eq_some_iff, String.append_assoc]

theorem peerDedupKey_of_some {item : DeviceWithPresence} {key : String}
    (h : item.presentedKey = some key) : peerDedupKey item = key := by
  rw [peerDedupKey, h]

theorem head?_presentedKey {item : DeviceWithPresence} {key : String}
    (h : item.presentedKey = some key) : key.toList.head? = some 'n' := by
  obtain ⟨text, -, rfl⟩ := presentedKey_eq_some.mp h
  simp [String.toList_append]

/-- A key or an id is no name. -/
theorem peerDedupKey_ne (ha : a.presentedKey = none) {key : String} (hb : b.presentedKey = some key) :
    peerDedupKey a ≠ peerDedupKey b := by
  intro hEq
  have hHead := head?_presentedKey hb
  rw [← peerDedupKey_of_some hb, ← hEq, peerDedupKey, ha] at hHead
  simp only at hHead
  split at hHead
  next => simp [String.toList_append] at hHead
  next => simp [String.toList_append] at hHead

/-- A port is told by its digits, none of which is a colon. -/
theorem append_port_inj {ip ip' : String} {port port' : UInt16}
    (h : ip ++ ":" ++ toString port.toNat = ip' ++ ":" ++ toString port'.toNat) :
    ip = ip' ∧ port = port' := by
  have hNoColon (n : ℕ) : ':' ∉ (Nat.toDigits 10 n).reverse := by
    intro hMem
    have hDigit := Nat.isDigit_of_mem_toDigits (by decide) le_rfl (List.mem_reverse.mp hMem)
    exact absurd hDigit (by decide)
  have hText := congrArg (fun text => text.toList.reverse) h
  simp only [Nat.toString_eq_repr, String.toList_append, Nat.toList_repr, List.reverse_append,
    List.append_assoc] at hText
  obtain ⟨hDigits, hIp⟩ := Server.append_sep_inj (hNoColon port.toNat) (hNoColon port'.toNat) hText
  have hPort := congrArg (fun digits => Nat.ofDigitChars 10 digits 0) (List.reverse_inj.mp hDigits)
  simp only [Nat.ofDigitChars_ten_toDigits] at hPort
  exact ⟨String.toList_injective (List.reverse_inj.mp hIp), UInt16.toNat_inj.mp hPort⟩

theorem lan_ne_public (left right : String) : "|lan:" ++ left ≠ "|public:" ++ right := by
  intro hEq
  have hText := congrArg (fun text => text.toList.tail.head?) hEq
  simp [String.toList_append] at hText

/-- The text tells the addresses, but for commas within a local one. -/
theorem ShownAddresses.text_inj {x y : ShownAddresses} (h : x.text = y.text) :
    x = y ∨ ∃ ips ips', x = .lanIps ips ∧ y = .lanIps ips' ∧
      ",".intercalate ips = ",".intercalate ips' := by
  cases x with
  | nothing =>
    cases y with
    | nothing => exact .inl rfl
    | lanIps ips => contradiction
    | publicIp ip port => contradiction
  | lanIps ips =>
    cases y with
    | nothing => contradiction
    | lanIps ips' =>
      exact .inr ⟨ips, ips', rfl, rfl, (String.append_right_inj _).mp (Option.some.inj h)⟩
    | publicIp ip port =>
      have hText := Option.some.inj h
      rw [String.append_assoc, String.append_assoc] at hText
      exact absurd hText (lan_ne_public _ _)
  | publicIp ip port =>
    cases y with
    | nothing => contradiction
    | lanIps ips =>
      have hText := Option.some.inj h
      rw [String.append_assoc, String.append_assoc] at hText
      exact absurd hText.symm (lan_ne_public _ _)
    | publicIp ip' port' =>
      have hText := Option.some.inj h
      simp only [String.append_assoc, String.append_right_inj] at hText
      rw [← String.append_assoc, ← String.append_assoc] at hText
      obtain ⟨rfl, rfl⟩ := append_port_inj hText
      exact .inl rfl

/-- Under one name, the addresses make the key. -/
theorem ShownAlike.of_sameName {key : String} (hName : a.SameName b)
    (ha : a.presentedKey = some key) (hb : b.presentedKey = some key) : ShownAlike a b := by
  have hSome : a.addresses ≠ .nothing := fun hNone =>
    nomatch (presentedKey_eq_none.mpr hNone).symm.trans ha
  have hKeys := ha.trans hb.symm
  rw [presentedKey_eq, presentedKey_eq, hName.1, hName.2] at hKeys
  have hText : a.addresses.text = b.addresses.text :=
    Option.map_injective (fun _ _ => (String.append_right_inj _).mp) hKeys
  rcases ShownAddresses.text_inj hText with hSame | ⟨ips, ips', hA, hB, hIps⟩
  · cases hA : a.addresses with
    | nothing => exact absurd hA hSome
    | lanIps ips => exact .lanIps hName hA (hSame.symm.trans hA) rfl
    | publicIp ip port => exact .publicIp hName hA (hSame.symm.trans hA)
  · exact .lanIps hName hA hB hIps

theorem ShownAlike.of_keys (hKey : peerDedupKey a = peerDedupKey b) : ShownAlike a b := by
  cases ha : a.presentedKey with
  | none =>
    cases hb : b.presentedKey with
    | none => exact .unaddressed (presentedKey_eq_none.mp ha) (presentedKey_eq_none.mp hb)
    | some key => exact absurd hKey (peerDedupKey_ne ha hb)
  | some key =>
    cases hb : b.presentedKey with
    | none => exact absurd hKey.symm (peerDedupKey_ne hb ha)
    | some key' =>
      rw [peerDedupKey_of_some ha, peerDedupKey_of_some hb] at hKey
      subst hKey
      by_cases hName : a.SameName b
      · exact .of_sameName hName ha hb
      · obtain ⟨text, hA, rfl⟩ := presentedKey_eq_some.mp ha
        obtain ⟨text', hB, hText⟩ := presentedKey_eq_some.mp hb
        exact .renamed hName hA hB ((String.append_right_inj _).mp hText).symm

/-- Two peers that are shown alike, with one public key if they show no addresses. -/
theorem ShownAlike.keys (h : ShownAlike a b)
    (hKey : a.addresses = .nothing → trimmed a.device.publicKey ≠ "" ∧
      trimmed a.device.publicKey = trimmed b.device.publicKey) :
    peerDedupKey a = peerDedupKey b := by
  have hText (hName : a.SameName b) (hText : a.addresses.text = b.addresses.text)
      (hSome : a.addresses ≠ .nothing) : peerDedupKey a = peerDedupKey b := by
    obtain ⟨key, ha⟩ := Option.ne_none_iff_exists'.mp (mt presentedKey_eq_none.mp hSome)
    have hb : b.presentedKey = some key := by
      rw [← ha, presentedKey_eq, presentedKey_eq, hName.1, hName.2, hText]
    rw [peerDedupKey_of_some ha, peerDedupKey_of_some hb]
  cases h with
  | unaddressed ha hb =>
    obtain ⟨hNonblank, hSame⟩ := hKey ha
    rw [peerDedupKey, peerDedupKey, presentedKey_eq_none.mpr ha, presentedKey_eq_none.mpr hb]
    simp only [← hSame, if_pos hNonblank]
  | lanIps hName ha hb hIps =>
    refine hText hName ?_ (ha ▸ nofun)
    rw [ha, hb, ShownAddresses.text, ShownAddresses.text, hIps]
  | publicIp hName ha hb => exact hText hName (by rw [ha, hb]) (ha ▸ nofun)
  | renamed hName ha hb hText =>
    rw [peerDedupKey_of_some (presentedKey_eq_some.mpr ⟨_, ha, rfl⟩),
      peerDedupKey_of_some (presentedKey_eq_some.mpr ⟨_, hb, rfl⟩), hText]

end Keys

section Shared

variable {a b : Server.DeviceWithPresence} {item : DeviceWithPresence}

theorem sortDedup_eq_nil (ips : List String) : sortDedup ips = [] ↔ ips = [] := by
  rw [sortDedup, List.destutter_eq_nil, ← List.length_eq_zero_iff, List.length_insertionSort,
    List.length_eq_zero_iff]

theorem addresses_eq_nothing : item.addresses = .nothing ↔
    ∀ presence, item.presence = some presence →
      presence.lanIps = [] ∧ trimmed presence.publicIp = "" := by
  rw [DeviceWithPresence.addresses]
  cases item.presence with
  | none => exact iff_of_true rfl nofun
  | some presence =>
    simp only [Option.some.injEq, forall_eq', ← sortDedup_eq_nil presence.lanIps]
    split
    next hIps => exact iff_of_false nofun fun h => hIps h.1
    next hIps =>
      rw [not_not] at hIps
      split
      next hPublic => exact iff_of_false nofun fun h => hPublic h.2
      next hPublic => exact iff_of_true rfl ⟨hIps, not_not.mp hPublic⟩

variable [UuidText]

/-- Devices without addresses share nothing but a public key. -/
theorem sameKey_of_shares (hNe : a.device.id ≠ b.device.id)
    (hShares : devicesSharePresentedIdentity a.device a.presence b.device b.presence = true)
    (hNone : (DeviceWithPresence.ofServer a).addresses = .nothing) :
    a.device.SameKey b.device := by
  rcases Server.devicesSharePresentedIdentity_iff.mp hShares with
    hId | hKey | ⟨-, x, y, hX, -, hMeets⟩
  · exact absurd hId hNe
  · exact hKey
  · obtain ⟨hIps, hPublic⟩ := addresses_eq_nothing.mp hNone _ (congrArg (Option.map _) hX)
    rcases hMeets with hOverlap | hSame
    · obtain ⟨ip, hMem, -⟩ := Server.lanIpsOverlap_eq_true.mp hOverlap
      rw [show x.lanIps = [] from hIps] at hMem
      exact absurd hMem List.not_mem_nil
    · exact absurd hPublic hSame.2.2.1

/-- For two devices that the server takes for one, the keys of the desktop are the same in a few
cases only. -/
theorem peerDedupKey_eq_iff (hNe : a.device.id ≠ b.device.id)
    (hShares : devicesSharePresentedIdentity a.device a.presence b.device b.presence = true) :
    peerDedupKey (.ofServer a) = peerDedupKey (.ofServer b) ↔
      ShownAlike (.ofServer a) (.ofServer b) :=
  ⟨ShownAlike.of_keys, fun h => h.keys fun hNone => sameKey_of_shares hNe hShares hNone⟩

end Shared

section Answer

variable {env : Surroundings} {headers : Headers} {s : AppState C} {userId : Uuid}
  {listed : List Server.DeviceWithPresence} {a b : Server.DeviceWithPresence}

/-- The answer has the devices of the user, with what the store and the hub know of them. -/
theorem mem_listDevices (hListed : answer (listDevices env headers) s = .ok listed)
    (hUser : authorizeOrDefault s.inner headers = .ok userId) :
    a ∈ listed ↔ (∃ deviceId, s.inner.devices.get? deviceId = some a.device) ∧
      a.device.userId = userId ∧
      a.presence = Server.presenceForDeviceList (s.inner.presence.get? a.device.id) env.now ∧
      a.rxOnline = s.relay.rxOnline a.device.id := by
  have hMeets : Meets (listDevices env headers)
      (fun devices _ => devices = ((s.inner.devices.values env.hash).filter
        (·.userId = userId)).map fun device =>
          ⟨device, Server.presenceForDeviceList (s.inner.presence.get? device.id) env.now,
            s.relay.rxOnline device.id⟩) (fun _ _ => True) s := by
    simp only [listDevices, meets_bind, meets_ofExcept, Server.meets_lock, meets_get,
      Server.meets_pure, hUser, Except.ok.injEq, forall_eq', implies_true, and_self]
  rw [hMeets.of_answer hListed, List.mem_map]
  constructor
  · rintro ⟨device, hDevice, rfl⟩
    obtain ⟨hValue, hOwner⟩ := List.mem_filter.mp hDevice
    exact ⟨HashMap.mem_values.mp hValue, of_decide_eq_true hOwner, rfl, rfl⟩
  · rintro ⟨hValue, hOwner, hPresence, hRx⟩
    refine ⟨a.device, List.mem_filter.mpr ⟨HashMap.mem_values.mpr hValue, ?_⟩, ?_⟩
    · exact decide_eq_true hOwner
    · rw [← hPresence, ← hRx]

/-- Whether devices share an identity does not depend on what is online. -/
theorem shares_presenceForDeviceList {target candidate : Server.Device}
    {presence presence' : Option Server.Presence} {now : UInt64} :
    devicesSharePresentedIdentity target (Server.presenceForDeviceList presence now) candidate
        (Server.presenceForDeviceList presence' now) =
      devicesSharePresentedIdentity target presence candidate presence' := by
  have hSame (x : Server.Presence) : ∃ online,
      Server.presenceForDeviceList (some x) now = some { x with online } := by
    simp only [Server.presenceForDeviceList, Option.map_some]
    split
    next => exact ⟨x.online, rfl⟩
    next => exact ⟨false, rfl⟩
  cases presence with
  | none => rfl
  | some x =>
    obtain ⟨online, hX⟩ := hSame x
    rw [hX]
    cases presence' with
    | none => rfl
    | some y =>
      obtain ⟨online', hY⟩ := hSame y
      rw [hY]
      rfl

theorem deletedWith_iff {env' : Surroundings} (hKeyed : s.inner.Keyed)
    (hListed : answer (listDevices env headers) s = .ok listed)
    (hUser : authorizeOrDefault s.inner headers = .ok userId) (hA : a ∈ listed) (hB : b ∈ listed) :
    DeletedWith env' s userId a b ↔
      devicesSharePresentedIdentity a.device a.presence b.device b.presence = true := by
  obtain ⟨⟨idA, hGetA⟩, -, hPresentA, -⟩ := (mem_listDevices hListed hUser).mp hA
  obtain ⟨⟨idB, hGetB⟩, hOwnerB, hPresentB, -⟩ := (mem_listDevices hListed hUser).mp hB
  obtain rfl := hKeyed idA a.device hGetA
  obtain rfl := hKeyed idB b.device hGetB
  rw [hPresentA, hPresentB, shares_presenceForDeviceList, DeletedWith,
    Server.mem_deviceDeletionGroupIds hKeyed hGetA]
  constructor
  · rintro ⟨member, hMember, -, hShares⟩
    obtain rfl := Option.some.inj (hGetB.symm.trans hMember)
    exact hShares
  · intro hShares
    exact ⟨b.device, hGetB, hOwnerB, hShares⟩

theorem eq_of_id (hKeyed : s.inner.Keyed)
    (hListed : answer (listDevices env headers) s = .ok listed)
    (hUser : authorizeOrDefault s.inner headers = .ok userId) (hA : a ∈ listed) (hB : b ∈ listed)
    (hId : a.device.id = b.device.id) : a = b := by
  obtain ⟨⟨idA, hGetA⟩, -, hPresentA, hRxA⟩ := (mem_listDevices hListed hUser).mp hA
  obtain ⟨⟨idB, hGetB⟩, -, hPresentB, hRxB⟩ := (mem_listDevices hListed hUser).mp hB
  obtain rfl := hKeyed idA a.device hGetA
  obtain rfl := hKeyed idB b.device hGetB
  rw [hId, hGetB] at hGetA
  have hDevice : a.device = b.device := (Option.some.inj hGetA).symm
  have hPresence : a.presence = b.presence := by rw [hPresentA, hPresentB, hId]
  have hRx : a.rxOnline = b.rxOnline := by rw [hRxA, hRxB, hId]
  calc a = ⟨a.device, a.presence, a.rxOnline⟩ := rfl
    _ = ⟨b.device, b.presence, b.rxOnline⟩ := by rw [hDevice, hPresence, hRx]
    _ = b := rfl

end Answer

section Rows

variable [UuidText] [LawfulUuidText] {env env' : Surroundings} {headers : Headers} {s : AppState C}
  {userId : Uuid} {currentDeviceId : Option String} {now : UInt64}
  {listed : List Server.DeviceWithPresence}

/-- The row of a device that is shown under its id. -/
theorem exists_row (hKeyed : s.inner.Keyed)
    (hListed : answer (listDevices env headers) s = .ok listed)
    (hUser : authorizeOrDefault s.inner headers = .ok userId) {p : DesktopPeerState}
    {a : Server.DeviceWithPresence}
    (hPeer : p ∈ (buildPeerStateIndex currentDeviceId (listed.map .ofServer) now).peers)
    (hA : a ∈ listed) (hId : p.id = UuidText.display a.device.id) :
    IsShown currentDeviceId a ∧ ∃ row ∈ selectPeers currentDeviceId (listed.map .ofServer) now,
      row.2 = .ofServer a ∧ p = peerStateFromItem row.2 now := by
  obtain ⟨row, hRow, rfl⟩ := List.mem_map.mp hPeer
  have hSelected : Rows ((listed.map .ofServer).filter (isPeer currentDeviceId))
      (selectPeers currentDeviceId (listed.map .ofServer) now) := rows_selectPeers
  obtain ⟨hMem, hShown⟩ := List.mem_filter.mp (hSelected.item row hRow)
  obtain ⟨item, hItem, hEq⟩ := List.mem_map.mp hMem
  have hSameId : item.device.id = a.device.id := by
    apply LawfulUuidText.display_injective
    rw [← hId, ← hEq]
    rfl
  obtain rfl := eq_of_id hKeyed hListed hUser hItem hA hSameId
  rw [← hEq] at hShown
  exact ⟨hShown, row, hRow, hEq.symm, rfl⟩

/-- The rows of the desktop are what the server deletes exactly if the devices that the server takes
for one are shown alike. -/
theorem shownAsDeleted_iff (hKeyed : s.inner.Keyed)
    (hListed : answer (listDevices env headers) s = .ok listed)
    (hUser : authorizeOrDefault s.inner headers = .ok userId) (currentDeviceId : Option String)
    (now : UInt64) :
    ShownAsDeleted env' s userId currentDeviceId now listed ↔
      ∀ a ∈ listed, ∀ b ∈ listed, IsShown currentDeviceId a → IsShown currentDeviceId b →
        a.device.id ≠ b.device.id →
        devicesSharePresentedIdentity a.device a.presence b.device b.presence = true →
        ShownAlike (.ofServer a) (.ofServer b) := by
  constructor
  · intro h a hA b hB hShownA hShownB hNe hShares
    refine (peerDedupKey_eq_iff hNe hShares).mp (h.rows a hA b hB hShownA hShownB ?_)
    exact (deletedWith_iff hKeyed hListed hUser hA hB).mpr hShares
  · intro h
    have hRows : ∀ a ∈ listed, ∀ b ∈ listed, IsShown currentDeviceId a →
        IsShown currentDeviceId b → DeletedWith env' s userId a b →
        peerDedupKey (.ofServer a) = peerDedupKey (.ofServer b) := by
      intro a hA b hB hShownA hShownB hDeleted
      by_cases hId : a.device.id = b.device.id
      · rw [eq_of_id hKeyed hListed hUser hA hB hId]
      · have hShares := (deletedWith_iff hKeyed hListed hUser hA hB).mp hDeleted
        exact (peerDedupKey_eq_iff hId hShares).mpr (h a hA b hB hShownA hShownB hId hShares)
    refine ⟨hRows, fun p hP q hQ a hA b hB hIdA hIdB hDeleted => ?_⟩
    obtain ⟨hShownA, row, hRow, hItem, rfl⟩ := exists_row hKeyed hListed hUser hP hA hIdA
    obtain ⟨hShownB, row', hRow', hItem', rfl⟩ := exists_row hKeyed hListed hUser hQ hB hIdB
    have hKey : peerDedupKey row.2 = peerDedupKey row'.2 := by
      rw [hItem, hItem']
      exact hRows a hA b hB hShownA hShownB hDeleted
    rw [rows_selectPeers.eq_of_key hRow hRow' hKey]

end Rows

section Desk

/-- Two devices of one name tell the server their addresses. -/
def deskCalls (ips : List String) : List (Server.Call Unit) :=
  [Server.registration 0 10 "key a", Server.registration 1 11 "key b",
    (.usual 2 0, .heartbeat ⟨none⟩ "203.0.113.50" 10
      ⟨["10.0.0.5", "192.168.1.50"], 24800, none, none⟩),
    (.usual 2 0, .heartbeat ⟨none⟩ "203.0.113.50" 11 ⟨ips, 24800, none, none⟩)]

def deskItem (id : Uuid) (publicKey : String) (createdAt : UInt64) (ips : List String) :
    Server.DeviceWithPresence where
  device := ⟨id, 1, "desk", .client, "linux", "6", "1", publicKey, false, createdAt, createdAt, 1, 1⟩
  presence := some ⟨id, 1, true, ips, "203.0.113.50", 24800, "unknown", 2, 62, 1, none⟩
  rxOnline := false

def deskItems (ips : List String) : List Server.DeviceWithPresence :=
  [deskItem 10 "key a" 0 ["10.0.0.5", "192.168.1.50"], deskItem 11 "key b" 1 ips]

def deskState (ips : List String) : AppState Unit :=
  @after _ _ _ _ (@Server.serve Unit .hyphenated) .start (deskCalls ips)

/-- The addresses come in another order, and the two are one row. -/
theorem shownAsDeleted_desk :
    @ShownAsDeleted Unit .hyphenated (.usual 3 0) (deskState ["192.168.1.50", "10.0.0.5"]) 1 none 3
      (deskItems ["192.168.1.50", "10.0.0.5"]) := by
  let text := UuidText.hyphenated
  have lawful := Server.lawful_hyphenated
  have hListed : answer (listDevices (.usual 3 0) ⟨none⟩)
      (deskState ["192.168.1.50", "10.0.0.5"]) =
        .ok (deskItems ["192.168.1.50", "10.0.0.5"]) := by decide
  have hKeys : ∀ a ∈ deskItems ["192.168.1.50", "10.0.0.5"],
      ∀ b ∈ deskItems ["192.168.1.50", "10.0.0.5"],
        peerDedupKey (.ofServer a) = peerDedupKey (.ofServer b) := by decide
  have hKeyed := Server.keyed_storeAfter (deskCalls ["192.168.1.50", "10.0.0.5"])
  refine (shownAsDeleted_iff hKeyed hListed rfl none 3).mpr ?_
  intro a hA b hB _ _ _ _
  exact .of_keys (hKeys a hA b hB)

/-- The server takes two devices for one by an address that they have in common, and the desktop
shows them apart by another that one of them has. -/
theorem not_shownAsDeleted :
    ¬ ∀ (s : AppState Unit) (env env' : Surroundings) (headers : Headers) (userId : Uuid)
        (currentDeviceId : Option String) (now : UInt64) (listed : List Server.DeviceWithPresence),
      s.inner.Keyed → answer (listDevices env headers) s = .ok listed →
      authorizeOrDefault s.inner headers = .ok userId →
      (∀ item ∈ listed, @IsShown .hyphenated currentDeviceId item) →
      @ShownAsDeleted Unit .hyphenated env' s userId currentDeviceId now listed := by
  let text := UuidText.hyphenated
  intro h
  have hListed : answer (listDevices (.usual 3 0) ⟨none⟩) (deskState ["192.168.1.50"]) =
      .ok (deskItems ["192.168.1.50"]) := by decide
  have hKeyed := Server.keyed_storeAfter (deskCalls ["192.168.1.50"])
  have hShown : ∀ item ∈ deskItems ["192.168.1.50"], isPeer none (.ofServer item) = true := by
    decide
  have hDeleted : (11 : Uuid) ∈
      deviceDeletionGroupIds (.usual 3 0) (deskState ["192.168.1.50"]).inner 1 10 := by decide
  have hRows := (h _ (.usual 3 0) (.usual 3 0) ⟨none⟩ 1 none 3 _ hKeyed hListed rfl hShown).rows
    (deskItem 10 "key a" 0 ["10.0.0.5", "192.168.1.50"]) (by decide)
    (deskItem 11 "key b" 1 ["192.168.1.50"]) (by decide) rfl rfl hDeleted
  exact absurd hRows (by decide)

end Desk

end Kmsync.Desktop
