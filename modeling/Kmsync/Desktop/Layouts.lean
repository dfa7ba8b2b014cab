import Kmsync.Desktop.Peers

/-! Layouts of the desktop.  When a state is built, each target is replaced by the device that
stands for its row.  A layout stays valid exactly if it has no two targets of one row that is
replaced. -/

namespace Kmsync.Desktop

open ProofKit

section Programs

structure DesktopLayout where
  left : Option String
  right : Option String
  top : Option String
  bottom : Option String
  deriving DecidableEq

inductive DesktopLayoutError where
  | duplicateTarget (deviceId : String)
  | targetsCurrentDevice (deviceId : String)
  | tooManyTargets (count : ℕ)
  deriving DecidableEq

def DesktopLayout.targetDeviceIds (layout : DesktopLayout) : List String :=
  [layout.left, layout.right, layout.top, layout.bottom].flatMap Option.toList

/-- The loop of `validate` over the ids that are left, with those that were seen. -/
def seeTargets (seen : List String) : List String → Except DesktopLayoutError (List String)
  | [] => .ok seen
  | deviceId :: rest =>
    if deviceId ∈ seen then .error (.duplicateTarget deviceId)
    else seeTargets (deviceId :: seen) rest

/-- The current device plays no part. -/
def DesktopLayout.validate (layout : DesktopLayout) (_currentDeviceId : Option String) :
    Except DesktopLayoutError Unit :=
  match seeTargets [] layout.targetDeviceIds with
  | .error error => .error error
  | .ok seen => if seen.length > 4 then .error (.tooManyTargets seen.length) else .ok ()

def canonicalizeLayoutTarget (currentDeviceId : Option String)
    (canonicalDeviceIds : HashMap String String) (target : Option String) : Option String :=
  match target with
  | none => none
  | some targetId =>
    if currentDeviceId = some targetId then target
    else
      match canonicalDeviceIds.get? targetId with
      | some canonicalDeviceId => some canonicalDeviceId
      | none => target

def canonicalizeLayoutTargets (layout : DesktopLayout) (currentDeviceId : Option String)
    (canonicalDeviceIds : HashMap String String) : DesktopLayout :=
  let canonicalize := canonicalizeLayoutTarget currentDeviceId canonicalDeviceIds
  ⟨canonicalize layout.left, canonicalize layout.right, canonicalize layout.top,
    canonicalize layout.bottom⟩

end Programs

section Validity

variable {layout : DesktopLayout} {currentDeviceId : Option String}

theorem seeTargets_eq_ok {seen targets : List String} {result : List String} :
    seeTargets seen targets = .ok result ↔
      targets.Nodup ∧ (∀ id ∈ targets, id ∉ seen) ∧ result = targets.reverse ++ seen := by
  induction targets generalizing seen with
  | nil => simp [seeTargets, eq_comm]
  | cons id targets ih =>
    rw [seeTargets]
    split
    next hSeen =>
      refine iff_of_false nofun fun h => ?_
      exact h.2.1 id List.mem_cons_self hSeen
    next hNot =>
      rw [ih, List.nodup_cons]
      constructor
      · rintro ⟨hNodup, hNew, rfl⟩
        refine ⟨⟨fun hMem => hNew id hMem List.mem_cons_self, hNodup⟩, ?_, by simp⟩
        intro other hOther
        rcases List.mem_cons.mp hOther with rfl | hRest
        · exact hNot
        · exact fun hSeen => hNew other hRest (List.mem_cons_of_mem id hSeen)
      · rintro ⟨⟨hFirst, hNodup⟩, hNew, rfl⟩
        refine ⟨hNodup, fun other hOther hSeen => ?_, by simp⟩
        rcases List.mem_cons.mp hSeen with rfl | hOld
        · exact hFirst hOther
        · exact hNew other (List.mem_cons_of_mem id hOther) hOld

theorem length_targetDeviceIds : layout.targetDeviceIds.length ≤ 4 := by
  obtain ⟨left, right, top, bottom⟩ := layout
  cases left <;> cases right <;> cases top <;> cases bottom <;>
    simp [DesktopLayout.targetDeviceIds]

/-- A layout is valid if it has no target twice. -/
theorem validate_eq_ok :
    layout.validate currentDeviceId = .ok () ↔ layout.targetDeviceIds.Nodup := by
  rw [DesktopLayout.validate]
  split
  next error hError =>
    refine iff_of_false nofun fun hNodup => ?_
    have hOk := seeTargets_eq_ok.mpr ⟨hNodup, fun _ _ => List.not_mem_nil, rfl⟩
    cases hError.symm.trans hOk
  next seen hSeen =>
    obtain ⟨hNodup, -, rfl⟩ := seeTargets_eq_ok.mp hSeen
    have hLength : layout.targetDeviceIds.length ≤ 4 := length_targetDeviceIds
    rw [if_neg (by simpa using hLength)]
    exact iff_of_true rfl hNodup

end Validity

section Availability

variable {now : UInt64} {item existing : DeviceWithPresence} {rows : List PeerRow} {key : String}
  {currentDeviceId : Option String} {devices : List DeviceWithPresence}

/-- The better of two items is available if one of them is: it is compared first whether they are
online, and then whether they have a relay. -/
theorem peerItemIsAvailable_better :
    peerItemIsAvailable (if peerItemIsBetter item existing now then item else existing) now ↔
      peerItemIsAvailable item now ∨ peerItemIsAvailable existing now := by
  rw [peerItemIsBetter]
  generalize (compare item.lastSeen existing.lastSeen).then
    (compare item.device.id existing.device.id) = rest
  cases hItem : peerItemIsAvailable item now <;> cases hOld : peerItemIsAvailable existing now
  case false.false => split <;> simp [hItem, hOld]
  case true.true => split <;> simp [hItem, hOld]
  case false.true =>
    obtain ⟨hOnline, hRelay⟩ := Bool.or_eq_false_iff.mp hItem
    rcases (Bool.or_eq_true_iff.mp hOld) with hSome | hSome <;>
      cases hOther : existing.isOnline now <;>
      simp_all [compare, Ordering.then]
  case true.false =>
    obtain ⟨hOnline, hRelay⟩ := Bool.or_eq_false_iff.mp hOld
    rcases (Bool.or_eq_true_iff.mp hItem) with hSome | hSome <;>
      cases hOther : item.isOnline now <;>
      simp_all [compare, Ordering.then]

theorem exists_available_selectPeer :
    (∃ row ∈ selectPeer now item rows, row.1 = key ∧ peerItemIsAvailable row.2 now) ↔
      (∃ row ∈ rows, row.1 = key ∧ peerItemIsAvailable row.2 now) ∨
        peerDedupKey item = key ∧ peerItemIsAvailable item now := by
  induction rows with
  | nil => simp [selectPeer]
  | cons row rows ih =>
    rw [selectPeer]
    split
    next hKey =>
      simp only [List.exists_mem_cons_iff, peerItemIsAvailable_better]
      rw [hKey, and_or_left, or_assoc]
      exact or_comm
    next =>
      simp only [List.exists_mem_cons_iff, ih]
      exact or_assoc.symm

/-- A row is available if one of its devices is. -/
theorem exists_available_selectPeers :
    (∃ row ∈ selectPeers currentDeviceId devices now,
      row.1 = key ∧ peerItemIsAvailable row.2 now) ↔
      ∃ item ∈ devices.filter (isPeer currentDeviceId),
        peerDedupKey item = key ∧ peerItemIsAvailable item now := by
  rw [selectPeers]
  generalize devices.filter (isPeer currentDeviceId) = peers
  induction peers using List.reverseRecOn with
  | nil => simp
  | append_singleton peers item ih =>
    simp only [List.foldl_append, List.foldl_cons, List.foldl_nil]
    rw [exists_available_selectPeer, ih]
    simp [or_and_right, exists_or]

end Availability

section Canonical

variable {now : UInt64} {item : DeviceWithPresence} {row : PeerRow} {selected : List PeerRow}
  {ids : HashMap String String} {currentDeviceId : Option String}
  {devices peers : List DeviceWithPresence} {id : String}

/-- The id that stands for an id in layouts. -/
def canonicalId (ids : HashMap String String) (id : String) : String := (ids.get? id).getD id

/-- The id that stands for an id with the map of `build_peer_state_index`. -/
def shownId (currentDeviceId : Option String) (devices : List DeviceWithPresence) (now : UInt64)
    (id : String) : String :=
  canonicalId (buildPeerStateIndex currentDeviceId devices now).canonicalDeviceIds id

theorem get?_putCanonical_ne (h : id ≠ item.device.id) :
    (putCanonical now selected ids item).get? id = ids.get? id := by
  rw [putCanonical]
  split
  next =>
    split
    next => exact HashMap.get?_insert_ne h
    next => rfl
  next => rfl

theorem get?_foldl_putCanonical (h : id ∉ peers.map (·.device.id)) :
    (peers.foldl (putCanonical now selected) ids).get? id = ids.get? id := by
  induction peers generalizing ids with
  | nil => rfl
  | cons item peers ih =>
    rw [List.foldl_cons, ih (List.not_mem_of_not_mem_cons h),
      get?_putCanonical_ne (List.ne_of_not_mem_cons h)]

theorem Rows.find? (h : Rows peers selected) (hRow : row ∈ selected)
    (hKey : row.1 = peerDedupKey item) :
    selected.find? (·.1 = peerDedupKey item) = some row := by
  cases hFound : selected.find? (·.1 = peerDedupKey item) with
  | none =>
    have hNone := List.find?_eq_none.mp hFound row hRow
    exact absurd (decide_eq_true hKey) hNone
  | some found =>
    have hMem := List.mem_of_find?_eq_some hFound
    have hFoundKey := List.find?_some hFound
    have hEq : found.1 = row.1 := (of_decide_eq_true hFoundKey).trans hKey.symm
    rw [List.inj_on_of_nodup_map h.nodup hMem hRow hEq]

theorem get?_putCanonical (h : Rows peers selected) (hRow : row ∈ selected)
    (hKey : row.1 = peerDedupKey item) (hNew : ids.get? item.device.id = none) :
    (putCanonical now selected ids item).get? item.device.id =
      if item.device.id = row.2.device.id ∨ peerItemIsAvailable row.2 now then
        some row.2.device.id
      else none := by
  rw [putCanonical, h.find? hRow hKey]
  dsimp only
  split
  next => exact HashMap.get?_insert_self
  next => exact hNew

/-- The map sends a peer to the device of its row exactly if that is the peer itself, or is
available. -/
theorem get?_canonicalDeviceIds (hNodup : (devices.map (·.device.id)).Nodup)
    (hItem : item ∈ devices.filter (isPeer currentDeviceId))
    (hRow : row ∈ selectPeers currentDeviceId devices now) (hKey : row.1 = peerDedupKey item) :
    (buildPeerStateIndex currentDeviceId devices now).canonicalDeviceIds.get? item.device.id =
      if item.device.id = row.2.device.id ∨ peerItemIsAvailable row.2 now then
        some row.2.device.id
      else none := by
  have hRows : Rows (devices.filter (isPeer currentDeviceId))
      (selectPeers currentDeviceId devices now) := rows_selectPeers
  have hIds : ((devices.filter (isPeer currentDeviceId)).map (·.device.id)).Nodup :=
    hNodup.sublist (List.filter_sublist.map _)
  rw [buildPeerStateIndex]
  revert hIds hRows hItem
  generalize devices.filter (isPeer currentDeviceId) = peers
  intro hItem hRows hIds
  obtain ⟨before, after, rfl⟩ := List.append_of_mem hItem
  rw [List.map_append, List.map_cons, List.nodup_append] at hIds
  obtain ⟨-, hAfter, hApart⟩ := hIds
  rw [List.foldl_append, List.foldl_cons, get?_foldl_putCanonical (List.nodup_cons.mp hAfter).1]
  refine get?_putCanonical hRows hRow hKey ?_
  rw [get?_foldl_putCanonical, HashMap.get?_empty]
  exact fun hMem => hApart _ hMem _ List.mem_cons_self rfl

/-- A peer is replaced by the device of its row exactly if that is available. -/
theorem shownId_peer (hNodup : (devices.map (·.device.id)).Nodup)
    (hItem : item ∈ devices.filter (isPeer currentDeviceId))
    (hRow : row ∈ selectPeers currentDeviceId devices now) (hKey : row.1 = peerDedupKey item) :
    shownId currentDeviceId devices now item.device.id =
      if peerItemIsAvailable row.2 now then row.2.device.id else item.device.id := by
  rw [shownId, canonicalId, get?_canonicalDeviceIds hNodup hItem hRow hKey]
  by_cases hAvailable : peerItemIsAvailable row.2 now
  · simp [hAvailable]
  · by_cases hSame : item.device.id = row.2.device.id
    · simp [hSame]
    · simp [hSame, hAvailable]

theorem shownId_of_not_peer
    (h : id ∉ (devices.filter (isPeer currentDeviceId)).map (·.device.id)) :
    shownId currentDeviceId devices now id = id := by
  rw [shownId, canonicalId, buildPeerStateIndex, get?_foldl_putCanonical h, HashMap.get?_empty]
  rfl

end Canonical

section Preserved

variable {now : UInt64} {currentDeviceId : Option String} {ids : HashMap String String}
  {devices : List DeviceWithPresence} {layout : DesktopLayout} {x y : String}

def DesktopLayout.mapTargets (f : String → String) (layout : DesktopLayout) : DesktopLayout :=
  ⟨layout.left.map f, layout.right.map f, layout.top.map f, layout.bottom.map f⟩

theorem targetDeviceIds_mapTargets (f : String → String) :
    (layout.mapTargets f).targetDeviceIds = layout.targetDeviceIds.map f := by
  obtain ⟨left, right, top, bottom⟩ := layout
  cases left <;> cases right <;> cases top <;> cases bottom <;> rfl

/-- What is asked of the layout that is shown in the place of one. -/
structure Preserved (layout : DesktopLayout) (currentDeviceId : Option String)
    (ids : HashMap String String) : Prop where
  valid : (canonicalizeLayoutTargets layout currentDeviceId ids).validate currentDeviceId = .ok ()
  left : (canonicalizeLayoutTargets layout currentDeviceId ids).left.isSome = layout.left.isSome
  right : (canonicalizeLayoutTargets layout currentDeviceId ids).right.isSome = layout.right.isSome
  top : (canonicalizeLayoutTargets layout currentDeviceId ids).top.isSome = layout.top.isSome
  bottom :
    (canonicalizeLayoutTargets layout currentDeviceId ids).bottom.isSome = layout.bottom.isSome
  again :
    canonicalizeLayoutTargets (canonicalizeLayoutTargets layout currentDeviceId ids)
      currentDeviceId ids = canonicalizeLayoutTargets layout currentDeviceId ids

/-- The ids are of peers that are shown in one row, which is available. -/
def OneAvailableRow (currentDeviceId : Option String) (devices : List DeviceWithPresence)
    (now : UInt64) (x y : String) : Prop :=
  ∃ a ∈ devices.filter (isPeer currentDeviceId), ∃ b ∈ devices.filter (isPeer currentDeviceId),
    ∃ c ∈ devices.filter (isPeer currentDeviceId),
      a.device.id = x ∧ b.device.id = y ∧ peerDedupKey b = peerDedupKey a ∧
        peerDedupKey c = peerDedupKey a ∧ peerItemIsAvailable c now

instance : Decidable (OneAvailableRow currentDeviceId devices now x y) :=
  inferInstanceAs (Decidable (∃ _ ∈ _, _))

/-- The current device, which is no peer, is not replaced anyway. -/
theorem canonicalizeLayoutTargets_eq :
    canonicalizeLayoutTargets layout currentDeviceId
        (buildPeerStateIndex currentDeviceId devices now).canonicalDeviceIds =
      layout.mapTargets (shownId currentDeviceId devices now) := by
  suffices hTarget : ∀ target, canonicalizeLayoutTarget currentDeviceId
      (buildPeerStateIndex currentDeviceId devices now).canonicalDeviceIds target =
        target.map (shownId currentDeviceId devices now) by
    simp only [canonicalizeLayoutTargets, DesktopLayout.mapTargets, hTarget]
  intro target
  cases target with
  | none => rfl
  | some id =>
    rw [canonicalizeLayoutTarget, Option.map_some]
    split
    next hCurrent =>
      refine congrArg some (shownId_of_not_peer fun hMem => ?_).symm
      obtain ⟨item, hItem, hId⟩ := List.mem_map.mp hMem
      have hPeer := of_decide_eq_true (List.mem_filter.mp hItem).2
      exact hPeer.1 (hId ▸ hCurrent.symm)
    next =>
      rw [shownId, canonicalId]
      split
      next hFound => rw [hFound, Option.getD_some]
      next hNone => rw [hNone, Option.getD_none]

/-- An id is left, or is that of a peer with an available row. -/
theorem shownId_cases (hNodup : (devices.map (·.device.id)).Nodup)
    (currentDeviceId : Option String) (now : UInt64) (x : String) :
    shownId currentDeviceId devices now x = x ∨
      ∃ a ∈ devices.filter (isPeer currentDeviceId),
        ∃ row ∈ selectPeers currentDeviceId devices now,
          a.device.id = x ∧ row.1 = peerDedupKey a ∧ peerItemIsAvailable row.2 now ∧
            shownId currentDeviceId devices now x = row.2.device.id := by
  by_cases hPeer : x ∈ (devices.filter (isPeer currentDeviceId)).map (·.device.id)
  · obtain ⟨a, hA, rfl⟩ := List.mem_map.mp hPeer
    have hRows : Rows (devices.filter (isPeer currentDeviceId))
        (selectPeers currentDeviceId devices now) := rows_selectPeers
    obtain ⟨row, hRow, hKey⟩ := List.mem_map.mp (hRows.mem a hA)
    have hShown := shownId_peer hNodup hA hRow hKey
    split at hShown
    next hAvailable => exact .inr ⟨a, hA, row, hRow, rfl, hKey, hAvailable, hShown⟩
    next => exact .inl hShown
  · exact .inl (shownId_of_not_peer hPeer)

/-- The device of an available row stands for itself. -/
theorem shownId_idem (hNodup : (devices.map (·.device.id)).Nodup) :
    shownId currentDeviceId devices now (shownId currentDeviceId devices now x) =
      shownId currentDeviceId devices now x := by
  rcases shownId_cases hNodup currentDeviceId now x with hLeft | ⟨-, -, row, hRow, -, -, hOn, hTo⟩
  · rw [hLeft, hLeft]
  · have hRows : Rows (devices.filter (isPeer currentDeviceId))
        (selectPeers currentDeviceId devices now) := rows_selectPeers
    rw [hTo, shownId_peer hNodup (hRows.item row hRow) hRow (hRows.key row hRow), if_pos hOn]

/-- The id of a row is shown for devices with its key only. -/
theorem exists_peer_of_shownId {row : PeerRow} (hNodup : (devices.map (·.device.id)).Nodup)
    (hRow : row ∈ selectPeers currentDeviceId devices now)
    (h : shownId currentDeviceId devices now x = row.2.device.id) :
    ∃ a ∈ devices.filter (isPeer currentDeviceId),
      a.device.id = x ∧ peerDedupKey a = row.1 := by
  have hRows : Rows (devices.filter (isPeer currentDeviceId))
      (selectPeers currentDeviceId devices now) := rows_selectPeers
  rcases shownId_cases hNodup currentDeviceId now x with
    hLeft | ⟨a, hA, other, hOther, rfl, hKey, -, hTo⟩
  · exact ⟨row.2, hRows.item row hRow, h.symm.trans hLeft, (hRows.key row hRow).symm⟩
  · have hItem : other.2 = row.2 :=
      List.inj_on_of_nodup_map hNodup (List.mem_of_mem_filter (hRows.item other hOther))
        (List.mem_of_mem_filter (hRows.item row hRow)) (hTo.symm.trans h)
    have hEq := hRows.eq_of_key hOther hRow (congrArg peerDedupKey hItem)
    exact ⟨a, hA, rfl, hKey.symm.trans (congrArg Prod.fst hEq)⟩

theorem OneAvailableRow.symm (h : OneAvailableRow currentDeviceId devices now x y) :
    OneAvailableRow currentDeviceId devices now y x := by
  obtain ⟨a, hA, b, hB, c, hC, hX, hY, hKey, hKeyC, hAvailable⟩ := h
  exact ⟨b, hB, a, hA, c, hC, hY, hX, hKey.symm, hKeyC.trans hKey.symm, hAvailable⟩

/-- What is replaced by the id of an available row is in one row with what is shown by that id. -/
theorem OneAvailableRow.of_row {a : DeviceWithPresence} {row : PeerRow}
    (hNodup : (devices.map (·.device.id)).Nodup)
    (hA : a ∈ devices.filter (isPeer currentDeviceId))
    (hRow : row ∈ selectPeers currentDeviceId devices now) (hKey : row.1 = peerDedupKey a)
    (hOn : peerItemIsAvailable row.2 now)
    (hOther : shownId currentDeviceId devices now y = row.2.device.id) :
    OneAvailableRow currentDeviceId devices now a.device.id y := by
  have hRows : Rows (devices.filter (isPeer currentDeviceId))
      (selectPeers currentDeviceId devices now) := rows_selectPeers
  obtain ⟨b, hB, hIdB, hKeyB⟩ := exists_peer_of_shownId hNodup hRow hOther
  exact ⟨a, hA, b, hB, row.2, hRows.item row hRow, rfl, hIdB, hKeyB.trans hKey,
    (hRows.key row hRow).symm.trans hKey, hOn⟩

/-- Different ids are shown by one id exactly if they are in one available row. -/
theorem shownId_eq_iff (hNodup : (devices.map (·.device.id)).Nodup) (hNe : x ≠ y) :
    shownId currentDeviceId devices now x = shownId currentDeviceId devices now y ↔
      OneAvailableRow currentDeviceId devices now x y := by
  have hRows : Rows (devices.filter (isPeer currentDeviceId))
      (selectPeers currentDeviceId devices now) := rows_selectPeers
  constructor
  · intro hEq
    rcases shownId_cases hNodup currentDeviceId now x with
      hX | ⟨a, hA, row, hRow, rfl, hKey, hOn, hTo⟩
    · rcases shownId_cases hNodup currentDeviceId now y with
        hY | ⟨b, hB, row, hRow, rfl, hKey, hOn, hTo⟩
      · exact absurd (hX.symm.trans (hEq.trans hY)) hNe
      · exact (OneAvailableRow.of_row hNodup hB hRow hKey hOn (hEq.trans hTo)).symm
    · exact .of_row hNodup hA hRow hKey hOn (hEq.symm.trans hTo)
  · rintro ⟨a, hA, b, hB, c, hC, rfl, rfl, hKeyB, hKeyC, hOn⟩
    obtain ⟨row, hRow, hKey, hRowOn⟩ := exists_available_selectPeers.mpr ⟨c, hC, hKeyC, hOn⟩
    rw [shownId_peer hNodup hA hRow hKey, shownId_peer hNodup hB hRow (hKey.trans hKeyB.symm),
      if_pos hRowOn, if_pos hRowOn]

/-- A layout can be saved again exactly if no two of its targets are in one available row. -/
theorem canonicalizeLayoutTargets_preserved
    (hValid : layout.validate currentDeviceId = .ok ())
    (hNodup : (devices.map (·.device.id)).Nodup) :
    Preserved layout currentDeviceId
        (buildPeerStateIndex currentDeviceId devices now).canonicalDeviceIds ↔
      ∀ x ∈ layout.targetDeviceIds, ∀ y ∈ layout.targetDeviceIds, x ≠ y →
        ¬OneAvailableRow currentDeviceId devices now x y := by
  have hTargets := validate_eq_ok.mp hValid
  constructor
  · intro h x hX y hY hNe hRow
    have hShown := validate_eq_ok.mp h.valid
    rw [canonicalizeLayoutTargets_eq, targetDeviceIds_mapTargets] at hShown
    have hEq := (shownId_eq_iff hNodup hNe).mpr hRow
    exact hNe (List.inj_on_of_nodup_map hShown hX hY hEq)
  · intro h
    refine ⟨?valid, ?_, ?_, ?_, ?_, ?again⟩
    case valid =>
      rw [validate_eq_ok, canonicalizeLayoutTargets_eq, targetDeviceIds_mapTargets]
      refine hTargets.map_on fun x hX y hY hEq => ?_
      by_contra hNe
      exact h x hX y hY hNe ((shownId_eq_iff hNodup hNe).mp hEq)
    case again =>
      have hIdem : shownId currentDeviceId devices now ∘ shownId currentDeviceId devices now =
          shownId currentDeviceId devices now := funext fun _ => shownId_idem hNodup
      simp only [canonicalizeLayoutTargets_eq, DesktopLayout.mapTargets, Option.map_map, hIdem]
    all_goals
      rw [canonicalizeLayoutTargets_eq, DesktopLayout.mapTargets, Option.isSome_map]

/-- Two records of one machine: the first is old, and the second is online. -/
def twoRecords : List DeviceWithPresence :=
  [⟨⟨"old", "desk", "macos", "", false⟩, some ⟨true, ["10.0.0.5"], "", 0, 10, 0, none⟩, none⟩,
    ⟨⟨"new", "desk", "macos", "", false⟩, some ⟨true, ["10.0.0.5"], "", 0, 990, 0, none⟩, none⟩]

/-- The old record alone is replaced, and then left. -/
theorem oldRecord_preserved :
    Preserved ⟨some "old", none, some "gone", none⟩ (some "self")
      (buildPeerStateIndex (some "self") twoRecords 1000).canonicalDeviceIds :=
  (canonicalizeLayoutTargets_preserved (by decide) (by decide)).mpr (by decide)

/-- With both records in it, a valid layout is shown as one that has a target twice. -/
theorem twoRecords_not_preserved :
    ¬ ∀ (layout : DesktopLayout) (currentDeviceId : Option String)
        (devices : List DeviceWithPresence) (now : UInt64),
      layout.validate currentDeviceId = .ok () → (devices.map (·.device.id)).Nodup →
      Preserved layout currentDeviceId
        (buildPeerStateIndex currentDeviceId devices now).canonicalDeviceIds := by
  intro h
  have hPreserved := h ⟨some "old", some "new", none, none⟩ (some "self") twoRecords 1000
    (by decide) (by decide)
  have hShown : (canonicalizeLayoutTargets ⟨some "old", some "new", none, none⟩ (some "self")
      (buildPeerStateIndex (some "self") twoRecords 1000).canonicalDeviceIds).validate
        (some "self") = .error (.duplicateTarget "new") := by decide
  cases hShown.symm.trans hPreserved.valid

end Preserved

end Kmsync.Desktop
