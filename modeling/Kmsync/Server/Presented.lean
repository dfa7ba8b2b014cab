import Kmsync.Server.Deletion

/-! What a device presents to the server: a name, an operating system and addresses.  Two devices
are taken for one by what they present in two places, when a device is deleted and when a heartbeat
meets a tombstone. -/

namespace Kmsync.Server

open ProofKit

section Text

theorem ofList_eq_empty {text : List Char} : String.ofList text = "" ↔ text = [] := by
  constructor
  · intro h
    exact String.ofList_injective h
  · rintro rfl
    rfl

@[simp] theorem toAsciiLowercase_eq_empty {value : String} :
    toAsciiLowercase value = "" ↔ value = "" := by
  rw [toAsciiLowercase, ofList_eq_empty, List.map_eq_nil_iff, String.toList_eq_nil_iff]

theorem normalizePresentedDeviceField_eq_empty {value : String} :
    normalizePresentedDeviceField value = "" ↔ trimmed value = "" := toAsciiLowercase_eq_empty

end Text

section Names

/-- Two devices have the same name and operating system, up to case. -/
def Device.SameName (a b : Device) : Prop :=
  normalizePresentedDeviceField a.name = normalizePresentedDeviceField b.name ∧
    normalizePresentedDeviceField a.osType = normalizePresentedDeviceField b.osType

/-- Two devices have the same public key, and one that is not blank. -/
def Device.SameKey (a b : Device) : Prop :=
  trimmed a.publicKey ≠ "" ∧ trimmed a.publicKey = trimmed b.publicKey

instance (a b : Device) : Decidable (a.SameName b) := inferInstanceAs (Decidable (_ ∧ _))

instance (a b : Device) : Decidable (a.SameKey b) := inferInstanceAs (Decidable (_ ∧ _))

theorem Device.SameName.symm {a b : Device} (h : a.SameName b) : b.SameName a :=
  ⟨h.1.symm, h.2.symm⟩

end Names

section Addresses

/-- The presences have a local address in common, up to blanks around it and case. -/
def Presence.SameLan (x y : Presence) : Prop :=
  ∃ left ∈ x.lanIps, ∃ right ∈ y.lanIps, trimmed left ≠ "" ∧
    normalizePresentedDeviceField left = normalizePresentedDeviceField right

/-- The presences are without a local address and have the same public address. -/
def Presence.SamePublic (x y : Presence) : Prop :=
  hasLan x = false ∧ hasLan y = false ∧ trimmed x.publicIp ≠ "" ∧
    trimmed x.publicIp = trimmed y.publicIp ∧ x.listenPort = y.listenPort

/-- The presences have an address in common. -/
def Presence.Meets (x y : Presence) : Prop := x.SameLan y ∨ x.SamePublic y

instance (x y : Presence) : Decidable (x.SameLan y) := inferInstanceAs (Decidable (∃ _ ∈ _, _))

instance (x y : Presence) : Decidable (x.SamePublic y) := inferInstanceAs (Decidable (_ ∧ _))

instance (x y : Presence) : Decidable (x.Meets y) := inferInstanceAs (Decidable (_ ∨ _))

theorem lanIpsOverlap_eq_true {left right : List String} :
    lanIpsOverlap left right = true ↔
      ∃ l ∈ left, ∃ r ∈ right, trimmed l ≠ "" ∧ trimmed l = trimmed r := by
  simp only [lanIpsOverlap, List.any_eq_true, Bool.and_eq_true, decide_eq_true_eq]
  constructor
  · rintro ⟨l, hL, hNe, r, hR, hEq⟩
    exact ⟨l, hL, r, hR, hNe, hEq⟩
  · rintro ⟨l, hL, r, hR, hNe, hEq⟩
    exact ⟨l, hL, hNe, r, hR, hEq⟩

theorem hasLan_eq_true {presence : Presence} :
    hasLan presence = true ↔ ∃ ip ∈ presence.lanIps, trimmed ip ≠ "" := by
  simp only [hasLan, List.any_eq_true, decide_eq_true_eq]

/-- An overlap is by equal text. -/
theorem Presence.SameLan.of_overlap {x y : Presence} (h : lanIpsOverlap x.lanIps y.lanIps = true) :
    x.SameLan y := by
  obtain ⟨l, hL, r, hR, hNe, hEq⟩ := lanIpsOverlap_eq_true.mp h
  exact ⟨l, hL, r, hR, hNe, congrArg toAsciiLowercase hEq⟩

theorem Presence.SameLan.not_samePublic {x y : Presence} (h : x.SameLan y) : ¬ x.SamePublic y := by
  obtain ⟨left, hLeft, -, -, hNe, -⟩ := h
  intro hPublic
  exact Bool.false_ne_true (hPublic.1.symm.trans (hasLan_eq_true.mpr ⟨left, hLeft, hNe⟩))

end Addresses

section Shared

variable {a b : Device} {x y : Presence}

/-- When a device is deleted with another. -/
theorem devicesSharePresentedIdentity_iff {presence presence' : Option Presence} :
    devicesSharePresentedIdentity a presence b presence' = true ↔
      a.id = b.id ∨ a.SameKey b ∨ a.SameName b ∧ ∃ x y, presence = some x ∧ presence' = some y ∧
        (lanIpsOverlap x.lanIps y.lanIps = true ∨ x.SamePublic y) := by
  unfold devicesSharePresentedIdentity
  split
  next hId => exact iff_of_true rfl (.inl hId)
  next hId =>
    split
    next hKey => exact iff_of_true rfl (.inr (.inl hKey))
    next hKey =>
      have hNot : (a.id = b.id ∨ a.SameKey b ∨ a.SameName b ∧ ∃ x y, presence = some x ∧
          presence' = some y ∧ (lanIpsOverlap x.lanIps y.lanIps = true ∨ x.SamePublic y)) ↔
          a.SameName b ∧ ∃ x y, presence = some x ∧ presence' = some y ∧
            (lanIpsOverlap x.lanIps y.lanIps = true ∨ x.SamePublic y) :=
        ⟨fun h => (h.resolve_left hId).resolve_left hKey, fun h => .inr (.inr h)⟩
      rw [hNot]
      split
      next hName =>
        refine iff_of_false Bool.false_ne_true ?_
        rintro ⟨⟨hSame, hSameOs⟩, -⟩
        exact hName.elim (fun hNe => hNe hSame) fun hNe => hNe hSameOs
      next hName =>
        rw [not_or, not_not, not_not] at hName
        split
        next x y =>
          have hSome : (a.SameName b ∧ ∃ x' y', some x = some x' ∧ some y = some y' ∧
              (lanIpsOverlap x'.lanIps y'.lanIps = true ∨ x'.SamePublic y')) ↔
              (lanIpsOverlap x.lanIps y.lanIps = true ∨ x.SamePublic y) :=
            ⟨fun ⟨_, _, _, rfl, rfl, h⟩ => h, fun h => ⟨hName, x, y, rfl, rfl, h⟩⟩
          rw [hSome]
          split
          next hLan => exact iff_of_true rfl (.inl hLan)
          next hLan => simp [Presence.SamePublic, hLan, and_assoc]
        next hNone =>
          refine iff_of_false Bool.false_ne_true ?_
          rintro ⟨-, x, y, rfl, rfl, -⟩
          exact hNone x y rfl rfl

end Shared

section Keys

variable {userId : Uuid} {a b : Device} {x y : Presence} {key : DeletedPresentedDeviceKey}

/-- The tombstone of a device at a local address. -/
def lanTombstone (userId : Uuid) (device : Device) (ip : String) : DeletedPresentedDeviceKey :=
  ⟨userId, normalizePresentedDeviceField device.name, normalizePresentedDeviceField device.osType,
    some (normalizePresentedDeviceField ip), none, none⟩

/-- The tombstone of a device at a public address. -/
def publicTombstone (userId : Uuid) (device : Device) (ip : String) (port : UInt16) :
    DeletedPresentedDeviceKey :=
  ⟨userId, normalizePresentedDeviceField device.name, normalizePresentedDeviceField device.osType,
    none, some (trimmed ip), some port⟩

def lanTombstones (userId : Uuid) (device : Device) (lanIps : List String) :
    List DeletedPresentedDeviceKey :=
  lanIps.filterMap fun ip =>
    if normalizePresentedDeviceField ip ≠ "" then some (lanTombstone userId device ip) else none

theorem deletedPresentedDeviceKeys_eq (lanIps : List String) (publicIp : String) (port : UInt16) :
    deletedPresentedDeviceKeys userId a lanIps publicIp port =
      if lanTombstones userId a lanIps = [] ∧ trimmed publicIp ≠ "" then
        [publicTombstone userId a publicIp port]
      else lanTombstones userId a lanIps := rfl

theorem mem_lanTombstones {lanIps : List String} :
    key ∈ lanTombstones userId a lanIps ↔
      ∃ ip ∈ lanIps, trimmed ip ≠ "" ∧ key = lanTombstone userId a ip := by
  simp only [lanTombstones, List.mem_filterMap, Option.ite_none_right_eq_some, ne_eq,
    normalizePresentedDeviceField_eq_empty, Option.some.injEq, @eq_comm _ key]

theorem hasLan_eq_false : hasLan x = false ↔ ∀ ip ∈ x.lanIps, trimmed ip = "" := by
  simp [hasLan]

theorem lanTombstones_eq_nil : lanTombstones userId a x.lanIps = [] ↔ hasLan x = false := by
  simp [lanTombstones, hasLan, List.filterMap_eq_nil_iff, normalizePresentedDeviceField_eq_empty]

theorem mem_deletedPresentedDeviceKeysForPresence :
    key ∈ deletedPresentedDeviceKeysForPresence userId a x ↔
      (∃ ip ∈ x.lanIps, trimmed ip ≠ "" ∧ key = lanTombstone userId a ip) ∨
        hasLan x = false ∧ trimmed x.publicIp ≠ "" ∧
          key = publicTombstone userId a x.publicIp x.listenPort := by
  rw [deletedPresentedDeviceKeysForPresence, deletedPresentedDeviceKeys_eq]
  split
  next hPublic =>
    rw [lanTombstones_eq_nil] at hPublic
    obtain ⟨hNone, hNe⟩ := hPublic
    rw [List.mem_singleton]
    constructor
    · intro hKey
      exact .inr ⟨hNone, hNe, hKey⟩
    · rintro (⟨ip, hMem, hIp, -⟩ | ⟨-, -, hKey⟩)
      · exact absurd (hasLan_eq_false.mp hNone ip hMem) hIp
      · exact hKey
  next hPublic =>
    rw [lanTombstones_eq_nil] at hPublic
    rw [mem_lanTombstones]
    constructor
    · exact .inl
    · rintro (hLan | ⟨hNone, hNe, -⟩)
      · exact hLan
      · exact absurd ⟨hNone, hNe⟩ hPublic

theorem userId_of_mem_keys (h : key ∈ deletedPresentedDeviceKeysForPresence userId a x) :
    key.userId = userId := by
  rcases mem_deletedPresentedDeviceKeysForPresence.mp h with ⟨ip, -, -, rfl⟩ | ⟨-, -, rfl⟩
  · rfl
  · rfl

theorem lanTombstone_inj {left right : String} :
    lanTombstone userId a left = lanTombstone userId b right ↔
      a.SameName b ∧ normalizePresentedDeviceField left = normalizePresentedDeviceField right := by
  simp [lanTombstone, Device.SameName, and_assoc]

theorem publicTombstone_inj {left right : String} {port port' : UInt16} :
    publicTombstone userId a left port = publicTombstone userId b right port' ↔
      a.SameName b ∧ trimmed left = trimmed right ∧ port = port' := by
  simp [publicTombstone, Device.SameName, and_assoc]

/-- When a heartbeat meets a tombstone of another device. -/
theorem exists_common_key :
    (∃ key ∈ deletedPresentedDeviceKeysForPresence userId a x,
      key ∈ deletedPresentedDeviceKeysForPresence userId b y) ↔ a.SameName b ∧ x.Meets y := by
  simp only [mem_deletedPresentedDeviceKeysForPresence]
  constructor
  · rintro ⟨key, ⟨left, hLeft, hNe, rfl⟩ | ⟨hNone, hNe, rfl⟩,
      ⟨right, hRight, -, hEq⟩ | ⟨hNone', -, hEq⟩⟩
    · obtain ⟨hName, hIp⟩ := lanTombstone_inj.mp hEq
      exact ⟨hName, .inl ⟨left, hLeft, right, hRight, hNe, hIp⟩⟩
    · exact nomatch congrArg DeletedPresentedDeviceKey.lanIp hEq
    · exact nomatch congrArg DeletedPresentedDeviceKey.lanIp hEq
    · obtain ⟨hName, hIp, hPort⟩ := publicTombstone_inj.mp hEq
      exact ⟨hName, .inr ⟨hNone, hNone', hNe, hIp, hPort⟩⟩
  · rintro ⟨hName, ⟨left, hLeft, right, hRight, hNe, hIp⟩ | ⟨hNone, hNone', hNe, hIp, hPort⟩⟩
    · refine ⟨lanTombstone userId a left, .inl ⟨left, hLeft, hNe, rfl⟩,
        .inl ⟨right, hRight, ?_, lanTombstone_inj.mpr ⟨hName, hIp⟩⟩⟩
      rw [ne_eq, ← normalizePresentedDeviceField_eq_empty] at hNe ⊢
      rwa [← hIp]
    · refine ⟨publicTombstone userId a x.publicIp x.listenPort, .inr ⟨hNone, hNe, rfl⟩,
        .inr ⟨hNone', hIp ▸ hNe, publicTombstone_inj.mpr ⟨hName, hIp, hPort⟩⟩⟩

/-- A device without an address has no tombstones. -/
theorem exists_key :
    (∃ key, key ∈ deletedPresentedDeviceKeysForPresence userId a x) ↔
      hasLan x = true ∨ trimmed x.publicIp ≠ "" := by
  simp only [mem_deletedPresentedDeviceKeysForPresence]
  constructor
  · rintro ⟨key, ⟨ip, hMem, hNe, -⟩ | ⟨-, hNe, -⟩⟩
    · exact .inl (hasLan_eq_true.mpr ⟨ip, hMem, hNe⟩)
    · exact .inr hNe
  · intro h
    cases hLan : hasLan x with
    | true =>
      obtain ⟨ip, hMem, hNe⟩ := hasLan_eq_true.mp hLan
      exact ⟨lanTombstone userId a ip, .inl ⟨ip, hMem, hNe, rfl⟩⟩
    | false =>
      have hNe := h.resolve_left fun hTrue => Bool.false_ne_true (hLan.symm.trans hTrue)
      exact ⟨publicTombstone userId a x.publicIp x.listenPort, .inr ⟨rfl, hNe, rfl⟩⟩

theorem deletedPresentedDeviceKeysForPresence_congr (hName : a.name = b.name)
    (hOs : a.osType = b.osType) : deletedPresentedDeviceKeysForPresence userId a x =
      deletedPresentedDeviceKeysForPresence userId b x := by
  simp only [deletedPresentedDeviceKeysForPresence, deletedPresentedDeviceKeys, hName, hOs]

variable {C : Type}

theorem mem_presentedTombstones {store : Store C} {scope : DeviceDeletionScope} :
    key ∈ presentedTombstones store userId scope a ↔ scope = .presentedDevice ∧
      ∃ presence, store.presence.get? a.id = some presence ∧
        key ∈ deletedPresentedDeviceKeysForPresence userId a presence := by
  rw [presentedTombstones]
  split
  next hScope =>
    rw [hScope]
    cases store.presence.get? a.id with
    | none => simp
    | some presence => simp
  next hScope => simp [hScope]

theorem userId_of_mem_presentedTombstones {store : Store C} {scope : DeviceDeletionScope}
    (h : key ∈ presentedTombstones store userId scope a) : key.userId = userId := by
  obtain ⟨-, presence, -, hKey⟩ := mem_presentedTombstones.mp h
  exact userId_of_mem_keys hKey

end Keys

end Kmsync.Server
