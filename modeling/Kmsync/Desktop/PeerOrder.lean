import Kmsync.Desktop.Layouts
import Kmsync.ProofKit.Sorting
import Mathlib.Data.String.Basic

/-! The index of the peers does not depend on the order of the list of devices: for each key it has
the device of the highest rank, which the comparison of the loop decides. -/

namespace Kmsync.Desktop

open ProofKit

section Ranks

variable {now : UInt64} {item existing : DeviceWithPresence}

/-- Whether a device is online, whether it has a relay, when it was last seen, and its id; the first
difference decides. -/
abbrev PeerRank := Bool ×ₗ Bool ×ₗ ℕ ×ₗ String

def DeviceWithPresence.rank (now : UInt64) (item : DeviceWithPresence) : PeerRank :=
  toLex (item.isOnline now, toLex (item.hasRelay, toLex (item.lastSeen.toNat, item.device.id)))

theorem peerItemIsBetter_iff :
    peerItemIsBetter item existing now = true ↔ existing.rank now < item.rank now := by
  have hSeen : compare item.lastSeen existing.lastSeen =
      compare item.lastSeen.toNat existing.lastSeen.toNat := by
    change compareOfLessAndEq _ _ = compareOfLessAndEq _ _
    simp only [compareOfLessAndEq, UInt64.lt_iff_toNat_lt, UInt64.toNat_inj]
  have hId : compare item.device.id existing.device.id = .gt ↔
      existing.device.id < item.device.id := compare_gt_iff_gt
  rw [peerItemIsBetter, decide_eq_true_iff, hSeen]
  exact compare_toLex (compare_toLex (compare_toLex hId))

theorem id_eq_of_rank_eq (h : item.rank now = existing.rank now) :
    item.device.id = existing.device.id :=
  congrArg (fun rank : PeerRank => (ofLex (ofLex (ofLex rank).2).2).2) h

end Ranks

section Selection

variable {now : UInt64} {item : DeviceWithPresence} {row : PeerRow} {rows : List PeerRow}
  {currentDeviceId : Option String} {devices peers : List DeviceWithPresence}

/-- The item of each row has the highest rank of its key. -/
def Highest (now : UInt64) (peers : List DeviceWithPresence) (rows : List PeerRow) : Prop :=
  ∀ row ∈ rows, ∀ item ∈ peers, peerDedupKey item = row.1 → item.rank now ≤ row.2.rank now

theorem rank_le_better (now : UInt64) (item : DeviceWithPresence) (row : PeerRow) :
    let better := if peerItemIsBetter item row.2 now then item else row.2
    item.rank now ≤ better.rank now ∧ row.2.rank now ≤ better.rank now := by
  dsimp only
  split
  next hBetter => exact ⟨le_refl _, (peerItemIsBetter_iff.mp hBetter).le⟩
  next hNot => exact ⟨not_lt.mp fun hLt => hNot (peerItemIsBetter_iff.mpr hLt), le_refl _⟩

/-- The row of the item gets the better of the two; the others stay. -/
theorem selectPeer_cases (hNodup : (rows.map (·.1)).Nodup) (hRow : row ∈ selectPeer now item rows) :
    (row ∈ rows ∧ row.1 ≠ peerDedupKey item) ∨
      (row.1 = peerDedupKey item ∧ item.rank now ≤ row.2.rank now ∧
        ∀ old ∈ rows, old.1 = row.1 → old.2.rank now ≤ row.2.rank now) := by
  induction rows with
  | nil =>
    obtain rfl := List.mem_singleton.mp hRow
    exact .inr ⟨rfl, le_refl _, fun old hMem => absurd hMem List.not_mem_nil⟩
  | cons existing rows ih =>
    obtain ⟨hApart, hRest⟩ := List.nodup_cons.mp hNodup
    have hOther : ∀ other ∈ rows, other.1 ≠ existing.1 := fun other hMem hEq =>
      hApart (List.mem_map.mpr ⟨other, hMem, hEq⟩)
    rw [selectPeer] at hRow
    split at hRow
    next hKey =>
      rcases List.mem_cons.mp hRow with rfl | hMem
      · obtain ⟨hItem, hOld⟩ := rank_le_better now item existing
        refine .inr ⟨hKey, hItem, fun old hMem hSame => ?_⟩
        rcases List.mem_cons.mp hMem with rfl | hLater
        · exact hOld
        · exact absurd hSame (hOther old hLater)
      · exact .inl ⟨List.mem_cons_of_mem _ hMem, fun hEq => hOther row hMem (hEq.trans hKey.symm)⟩
    next hKey =>
      rcases List.mem_cons.mp hRow with rfl | hMem
      · exact .inl ⟨List.mem_cons_self, hKey⟩
      · refine (ih hRest hMem).imp (fun h => ⟨List.mem_cons_of_mem _ h.1, h.2⟩)
          fun h => ⟨h.1, h.2.1, fun old hMem hEq => ?_⟩
        rcases List.mem_cons.mp hMem with rfl | hLater
        · exact absurd (hEq.trans h.1) hKey
        · exact h.2.2 old hLater hEq

theorem Highest.selectPeer (h : Highest now peers rows) (hRows : Rows peers rows) :
    Highest now (peers ++ [item]) (selectPeer now item rows) := by
  intro row hRow found hFound hKey
  rcases selectPeer_cases hRows.nodup hRow with ⟨hOld, hNe⟩ | ⟨hSame, hItem, hOld⟩
  · rcases List.mem_append.mp hFound with hPeer | hNew
    · exact h row hOld found hPeer hKey
    · obtain rfl := List.mem_singleton.mp hNew
      exact absurd hKey.symm hNe
  · rcases List.mem_append.mp hFound with hPeer | hNew
    · obtain ⟨old, hMem, hOldKey⟩ := List.mem_map.mp (hRows.mem found hPeer)
      exact (h old hMem found hPeer hOldKey.symm).trans (hOld old hMem (hOldKey.trans hKey))
    · obtain rfl := List.mem_singleton.mp hNew
      exact hItem

theorem highest_selectPeers :
    Highest now (devices.filter (isPeer currentDeviceId))
      (selectPeers currentDeviceId devices now) := by
  rw [selectPeers]
  generalize devices.filter (isPeer currentDeviceId) = peers
  induction peers using List.reverseRecOn with
  | nil => exact fun row hMem => absurd hMem List.not_mem_nil
  | append_singleton peers item ih =>
    rw [List.foldl_append]
    exact ih.selectPeer rows_foldl_selectPeer

/-- The rows select the device of the highest rank for each key. -/
theorem selects_selectPeers :
    Selects peerDedupKey (·.rank now) (devices.filter (isPeer currentDeviceId))
      ((selectPeers currentDeviceId devices now).map (·.2)) := by
  have hRows : Rows (devices.filter (isPeer currentDeviceId))
      (selectPeers currentDeviceId devices now) := rows_selectPeers
  have hKeys : ((selectPeers currentDeviceId devices now).map (·.2)).map peerDedupKey =
      (selectPeers currentDeviceId devices now).map (·.1) := by
    rw [List.map_map]
    exact List.map_congr_left fun row hRow => (hRows.key row hRow).symm
  refine ⟨hKeys ▸ hRows.nodup, fun best hBest => ?_, fun item hItem => ?_⟩
  · obtain ⟨row, hRow, rfl⟩ := List.mem_map.mp hBest
    refine ⟨hRows.item row hRow, fun item hItem hKey => ?_⟩
    exact highest_selectPeers row hRow item hItem (hKey.trans (hRows.key row hRow).symm)
  · obtain ⟨row, hRow, hKey⟩ := List.mem_map.mp (hRows.mem item hItem)
    exact ⟨row.2, List.mem_map_of_mem hRow, (hRows.key row hRow).symm.trans hKey⟩

end Selection

section Order

variable {now : UInt64} {currentDeviceId : Option String} {devices devices' : List DeviceWithPresence}

/-- What the index is for: one device for each key, with the highest rank, is shown, and the map
sends the devices of the key to it if it is available. -/
structure ShowsBest (currentDeviceId : Option String) (devices : List DeviceWithPresence)
    (now : UInt64) (bests : List DeviceWithPresence) (index : PeerStateIndex) : Prop where
  peers : index.peers = bests.map (peerStateFromItem · now)
  selects : Selects peerDedupKey (·.rank now) (devices.filter (isPeer currentDeviceId)) bests
  sends : ∀ item ∈ devices.filter (isPeer currentDeviceId), ∀ best ∈ bests,
    peerDedupKey best = peerDedupKey item → index.canonicalDeviceIds.get? item.device.id =
      if item.device.id = best.device.id ∨ peerItemIsAvailable best now then some best.device.id
      else none
  forgets : ∀ id, id ∉ (devices.filter (isPeer currentDeviceId)).map (·.device.id) →
    index.canonicalDeviceIds.get? id = none

theorem showsBest (hNodup : (devices.map (·.device.id)).Nodup) :
    ShowsBest currentDeviceId devices now ((selectPeers currentDeviceId devices now).map (·.2))
      (buildPeerStateIndex currentDeviceId devices now) where
  peers := by
    rw [List.map_map]
    rfl
  selects := selects_selectPeers
  sends item hItem best hBest hKey := by
    obtain ⟨row, hRow, rfl⟩ := List.mem_map.mp hBest
    have hRows : Rows (devices.filter (isPeer currentDeviceId))
        (selectPeers currentDeviceId devices now) := rows_selectPeers
    exact get?_canonicalDeviceIds hNodup hItem hRow ((hRows.key row hRow).trans hKey)
  forgets id hId := by
    rw [buildPeerStateIndex, get?_foldl_putCanonical hId, HashMap.get?_empty]

theorem distinguishes_rank (hNodup : (devices.map (·.device.id)).Nodup) :
    Distinguishes peerDedupKey (·.rank now) (devices.filter (isPeer currentDeviceId)) := by
  intro item hItem other hOther _ hRank
  exact List.inj_on_of_nodup_map hNodup (List.mem_of_mem_filter hItem)
    (List.mem_of_mem_filter hOther) (id_eq_of_rank_eq hRank)

/-- The map is made of the peers and of the best of them. -/
theorem ShowsBest.get?_eq {bests bests' : List DeviceWithPresence} {index index' : PeerStateIndex}
    (h : ShowsBest currentDeviceId devices now bests index)
    (h' : ShowsBest currentDeviceId devices' now bests' index') (hPerm : devices.Perm devices')
    (hBests : bests.Perm bests') (id : String) :
    index.canonicalDeviceIds.get? id = index'.canonicalDeviceIds.get? id := by
  have hPeers := hPerm.filter (isPeer currentDeviceId)
  by_cases hId : id ∈ (devices.filter (isPeer currentDeviceId)).map (·.device.id)
  · obtain ⟨item, hItem, rfl⟩ := List.mem_map.mp hId
    obtain ⟨best, hBest, hKey⟩ := h.selects.covers item hItem
    rw [h.sends item hItem best hBest hKey,
      h'.sends item (hPeers.mem_iff.mp hItem) best (hBests.mem_iff.mp hBest) hKey]
  · have hId' : id ∉ (devices'.filter (isPeer currentDeviceId)).map (·.device.id) := fun hMem =>
      hId ((hPeers.map _).mem_iff.mpr hMem)
    rw [h.forgets id hId, h'.forgets id hId']

/-- The index tells no order of the devices: it shows the best of each key, whatever comes first. -/
theorem buildPeerStateIndex_perm (hNodup : (devices.map (·.device.id)).Nodup)
    (hPerm : devices.Perm devices') (currentDeviceId : Option String) (now : UInt64) :
    (buildPeerStateIndex currentDeviceId devices now).peers.Perm
        (buildPeerStateIndex currentDeviceId devices' now).peers ∧
      (∀ id, (buildPeerStateIndex currentDeviceId devices now).canonicalDeviceIds.get? id =
        (buildPeerStateIndex currentDeviceId devices' now).canonicalDeviceIds.get? id) ∧
      ∃ bests, ShowsBest currentDeviceId devices now bests
          (buildPeerStateIndex currentDeviceId devices now) ∧
        ∀ item ∈ devices, isPeer currentDeviceId item →
          ∃! best, best ∈ bests ∧ peerDedupKey best = peerDedupKey item := by
  have hNodup' : (devices'.map (·.device.id)).Nodup := (hPerm.map _).nodup_iff.mp hNodup
  have hShows : ShowsBest currentDeviceId devices now _ _ := showsBest hNodup
  have hShows' : ShowsBest currentDeviceId devices' now _ _ := showsBest hNodup'
  have hBests := hShows.selects.perm hShows'.selects (distinguishes_rank hNodup)
    (hPerm.filter (isPeer currentDeviceId))
  refine ⟨?_, hShows.get?_eq hShows' hPerm hBests, _, hShows, fun item hItem hPeer => ?_⟩
  · rw [hShows.peers, hShows'.peers]
    exact hBests.map _
  · exact hShows.selects.existsUnique (List.mem_filter.mpr ⟨hItem, hPeer⟩)

/-- Two records of one machine, in either order. -/
theorem buildPeerStateIndex_perm_twoRecords :
    (buildPeerStateIndex (some "self") twoRecords 1000).peers.Perm
      (buildPeerStateIndex (some "self") twoRecords.reverse 1000).peers :=
  (buildPeerStateIndex_perm (by decide) twoRecords.reverse_perm.symm (some "self") 1000).1

end Order

end Kmsync.Desktop
