import Kmsync.ProofKit.Sorting
import Mathlib.Data.String.Basic

/-! The candidates for a direct connection, as a refresh looks at them: those of the local network,
each address once, with the ones in a subnet of this machine first. -/

namespace Kmsync.Client

open ProofKit

section Addresses

inductive IpAddr where
  | v4 (octets : Vector UInt8 4)
  | v6 (octets : Vector UInt8 16)
  deriving DecidableEq

namespace IpAddr

/-- The version, and the octets in the order of the network. -/
def key : IpAddr → ℕ ×ₗ List ℕ
  | .v4 octets => toLex (4, octets.toList.map UInt8.toNat)
  | .v6 octets => toLex (6, octets.toList.map UInt8.toNat)

theorem toList_inj {n : ℕ} {octets octets' : Vector UInt8 n}
    (h : octets.toList.map UInt8.toNat = octets'.toList.map UInt8.toNat) : octets = octets' :=
  Vector.toList_inj.mp (List.map_injective_iff.mpr (fun _ _ => UInt8.toNat_inj.mp) h)

theorem key_injective : Function.Injective key := by
  intro left right h
  cases left with
  | v4 octets =>
    cases right with
    | v4 octets' => rw [toList_inj (Prod.mk.inj (toLex.injective h)).2]
    | v6 octets' => cases (Prod.mk.inj (toLex.injective h)).1
  | v6 octets =>
    cases right with
    | v4 octets' => cases (Prod.mk.inj (toLex.injective h)).1
    | v6 octets' => rw [toList_inj (Prod.mk.inj (toLex.injective h)).2]

instance : LinearOrder IpAddr := LinearOrder.lift' key key_injective

def isLoopback : IpAddr → Bool
  | .v4 octets => octets[0] = 127
  | .v6 octets => octets = #v[0, 0, 0, 0, 0, 0, 0, 0, 0, 0, 0, 0, 0, 0, 0, 1]

def isUnspecified : IpAddr → Bool
  | .v4 octets => octets = #v[0, 0, 0, 0]
  | .v6 octets => octets = #v[0, 0, 0, 0, 0, 0, 0, 0, 0, 0, 0, 0, 0, 0, 0, 0]

end IpAddr

inductive SocketAddr where
  | v4 (octets : Vector UInt8 4) (port : UInt16)
  | v6 (octets : Vector UInt8 16) (port : UInt16) (flowinfo scopeId : UInt32)
  deriving DecidableEq

def SocketAddr.ip : SocketAddr → IpAddr
  | .v4 octets _ => .v4 octets
  | .v6 octets _ _ _ => .v6 octets

/-- `str::parse::<SocketAddr>`, with the text of its error. -/
class SocketAddrText where
  parse : String → Except String SocketAddr

/-- `segments`: two octets each -/
def segments : List UInt8 → List UInt16
  | high :: low :: octets => (high.toUInt16 <<< 8 ||| low.toUInt16) :: segments octets
  | _ => []

/-- The first three octets of an IPv4 address, and the first four segments of an IPv6 address. -/
def sameLanSubnet : IpAddr → IpAddr → Bool
  | .v4 left, .v4 right => left.toList.take 3 = right.toList.take 3
  | .v6 left, .v6 right => (segments left.toList).take 4 = (segments right.toList).take 4
  | _, _ => false

end Addresses

section Candidates

inductive ConnectionCandidateKind where
  | mdnsLan | backendLan | natTraversal | relay
  deriving DecidableEq

namespace ConnectionCandidateKind

def priority : ConnectionCandidateKind → UInt16
  | .mdnsLan => 400
  | .backendLan => 300
  | .natTraversal => 200
  | .relay => 100

theorem priority_injective : Function.Injective priority := by
  intro left right h
  cases left <;> cases right <;> first | rfl | cases h

/-- `MdnsLan | BackendLan` -/
def isLan : ConnectionCandidateKind → Bool
  | .mdnsLan | .backendLan => true
  | .natTraversal | .relay => false

/-- A candidate of the local network comes before every other. -/
theorem priority_le_of_isLan {kind other : ConnectionCandidateKind} (h : kind.isLan = true)
    (hOther : other.isLan = false) : other.priority ≤ kind.priority := by
  revert h hOther
  cases kind <;> cases other <;> decide

/-- `{:?}` -/
def debug : ConnectionCandidateKind → String
  | .mdnsLan => "MdnsLan"
  | .backendLan => "BackendLan"
  | .natTraversal => "NatTraversal"
  | .relay => "Relay"

end ConnectionCandidateKind

structure ConnectionCandidate where
  deviceId : String
  kind : ConnectionCandidateKind
  address : String
  priority : UInt16
  deriving DecidableEq

end Candidates

section Snapshots

def usableLanIp (ip : IpAddr) : Bool := !ip.isLoopback && !ip.isUnspecified

/-- `sort_unstable` and `dedup`; addresses that compare equal are the same. -/
def normalizeLanIpSnapshot (ips : List IpAddr) : List IpAddr :=
  ((ips.filter usableLanIp).insertionSort (· ≤ ·)).destutter (· ≠ ·)

def sortConnectionCandidates (candidates : List ConnectionCandidate) : List ConnectionCandidate :=
  sortBy (fun left right =>
    (compare right.priority left.priority).then (compare left.address right.address)) candidates

def dedupeCandidatesByAddress (candidates : List ConnectionCandidate) : List ConnectionCandidate :=
  dedupBy (·.address) [] candidates

def normalizeDirectCandidateSnapshot (candidates : List ConnectionCandidate) :
    List ConnectionCandidate :=
  dedupeCandidatesByAddress (sortConnectionCandidates (candidates.filter (·.kind.isLan)))

variable [SocketAddrText]

def candidateMatchesLocalSubnet (candidate : ConnectionCandidate) (localLanIps : List IpAddr) :
    Bool :=
  match SocketAddrText.parse candidate.address with
  | .ok address => localLanIps.any (sameLanSubnet · address.ip)
  | .error _ => false

def prioritizeDirectCandidatesForLocalNetwork (candidates : List ConnectionCandidate)
    (localLanIps : List IpAddr) : List ConnectionCandidate :=
  sortBy (fun left right =>
    let leftSameSubnet := candidateMatchesLocalSubnet left localLanIps
    let rightSameSubnet := candidateMatchesLocalSubnet right localLanIps
    (compare rightSameSubnet leftSameSubnet).then
      ((compare right.priority left.priority).then (compare left.address right.address)))
    candidates

end Snapshots

section Presentations

variable {candidates candidates' : List ConnectionCandidate}
  {localLanIps localLanIps' : List IpAddr} {deviceId : String}

/-- The two have the same usable addresses and the same candidates of the local network. -/
structure SameContent (localLanIps localLanIps' : List IpAddr)
    (candidates candidates' : List ConnectionCandidate) : Prop where
  ips : ∀ ip, usableLanIp ip → (ip ∈ localLanIps ↔ ip ∈ localLanIps')
  candidates : ∀ candidate, candidate.kind.isLan →
    (candidate ∈ candidates ↔ candidate ∈ candidates')

/-- The candidates are all of one device, each with the priority of its kind. -/
def OfDevice (deviceId : String) (candidates : List ConnectionCandidate) : Prop :=
  ∀ candidate ∈ candidates, candidate.deviceId = deviceId ∧
    candidate.priority = candidate.kind.priority

theorem normalizeLanIpSnapshot_congr
    (h : ∀ ip, usableLanIp ip → (ip ∈ localLanIps ↔ ip ∈ localLanIps')) :
    normalizeLanIpSnapshot localLanIps = normalizeLanIpSnapshot localLanIps' := by
  have hMem : ∀ ip, ip ∈ localLanIps.filter usableLanIp ↔ ip ∈ localLanIps'.filter usableLanIp := by
    intro ip
    rw [List.mem_filter, List.mem_filter]
    exact and_congr_left (h ip)
  exact destutter_insertionSort_congr hMem

section Ranks

open OrderDual (toDual)

/-- The place of a candidate in the order by priority, highest first, and by address. -/
def ConnectionCandidate.place (candidate : ConnectionCandidate) : ℕᵒᵈ ×ₗ String :=
  toLex (toDual candidate.priority.toNat, candidate.address)

theorem compare_place (left right : ConnectionCandidate) :
    (compare right.priority left.priority).then (compare left.address right.address) = .gt ↔
      right.place < left.place := by
  have hPriority : compare right.priority left.priority =
      compare right.priority.toNat left.priority.toNat := by
    change compareOfLessAndEq _ _ = compareOfLessAndEq _ _
    simp only [compareOfLessAndEq, UInt16.lt_iff_toNat_lt, UInt16.toNat_inj]
  have hAddress : compare left.address right.address = .gt ↔ right.address < left.address :=
    compare_gt_iff_gt
  rw [hPriority]
  exact compare_toLex_toDual hAddress

end Ranks

theorem priority_le_of_place_le {left right : ConnectionCandidate} (h : left.place ≤ right.place) :
    right.priority.toNat ≤ left.priority.toNat := by
  rcases Prod.Lex.toLex_le_toLex.mp h with hLt | ⟨hEq, -⟩
  · exact (OrderDual.toDual_lt_toDual.mp hLt).le
  · exact (OrderDual.toDual_inj.mp hEq).ge

/-- Each address is kept with the best priority it was offered with. -/
theorem selects_normalizeDirectCandidateSnapshot :
    Selects (·.address) (·.priority.toNat) (candidates.filter (·.kind.isLan))
      (normalizeDirectCandidateSnapshot candidates) := by
  have hSorted := pairwise_sortBy (l := candidates.filter (·.kind.isLan)) compare_place
  exact (selects_dedupBy (hSorted.imp priority_le_of_place_le)).congr fun _ => mem_sortBy

theorem OfDevice.distinguishes (h : OfDevice deviceId candidates) :
    Distinguishes (·.address) (·.priority.toNat) (candidates.filter (·.kind.isLan)) := by
  intro left hLeft right hRight hAddress hPriority
  obtain ⟨hDevice, hKind⟩ := h left (List.mem_of_mem_filter hLeft)
  obtain ⟨hDevice', hKind'⟩ := h right (List.mem_of_mem_filter hRight)
  have hSame : left.priority = right.priority := UInt16.toNat_inj.mp hPriority
  have hKinds : left.kind = right.kind :=
    ConnectionCandidateKind.priority_injective (hKind.symm.trans (hSame.trans hKind'))
  obtain ⟨_, _, _, _⟩ := left
  obtain ⟨_, _, _, _⟩ := right
  simp_all

section Near

variable [SocketAddrText]

/-- What a refresh makes of the candidates and the addresses of this machine. -/
def snapshot (localLanIps : List IpAddr) (candidates : List ConnectionCandidate) :
    List ConnectionCandidate :=
  prioritizeDirectCandidatesForLocalNetwork (normalizeDirectCandidateSnapshot candidates)
    (normalizeLanIpSnapshot localLanIps)

/-- The place among those that are in a local subnet first. -/
def ConnectionCandidate.nearPlace (localLanIps : List IpAddr) (candidate : ConnectionCandidate) :
    Boolᵒᵈ ×ₗ ℕᵒᵈ ×ₗ String :=
  toLex (OrderDual.toDual (candidateMatchesLocalSubnet candidate localLanIps), candidate.place)

theorem compare_nearPlace (localLanIps : List IpAddr) (left right : ConnectionCandidate) :
    (compare (candidateMatchesLocalSubnet right localLanIps)
        (candidateMatchesLocalSubnet left localLanIps)).then
      ((compare right.priority left.priority).then (compare left.address right.address)) = .gt ↔
      right.nearPlace localLanIps < left.nearPlace localLanIps :=
  compare_toLex_toDual (compare_place left right)

theorem mem_snapshot {candidate : ConnectionCandidate} :
    candidate ∈ snapshot localLanIps candidates ↔
      candidate ∈ normalizeDirectCandidateSnapshot candidates := mem_sortBy

theorem nodup_snapshot : ((snapshot localLanIps candidates).map (·.address)).Nodup :=
  (perm_sortBy.map _).nodup_iff.mpr selects_normalizeDirectCandidateSnapshot.nodup

/-- The candidates stand in the order of their places, and no two have the same. -/
theorem pairwise_snapshot : (snapshot localLanIps candidates).Pairwise fun left right =>
    left.nearPlace (normalizeLanIpSnapshot localLanIps) <
      right.nearPlace (normalizeLanIpSnapshot localLanIps) := by
  have hSorted : (snapshot localLanIps candidates).Pairwise fun left right =>
      left.nearPlace (normalizeLanIpSnapshot localLanIps) ≤
        right.nearPlace (normalizeLanIpSnapshot localLanIps) :=
    pairwise_sortBy (compare_nearPlace _)
  have hNodup : (snapshot localLanIps candidates).Pairwise fun left right =>
      left.address ≠ right.address := List.pairwise_map.mp nodup_snapshot
  refine (hSorted.and hNodup).imp fun ⟨hLe, hNe⟩ => lt_of_le_of_ne hLe fun hEq => hNe ?_
  exact congrArg (fun place : Boolᵒᵈ ×ₗ ℕᵒᵈ ×ₗ String => (ofLex (ofLex place).2).2) hEq

/-- The snapshot tells nothing of the order in which things were presented. -/
theorem snapshot_congr (h : SameContent localLanIps localLanIps' candidates candidates')
    (hDevice : OfDevice deviceId candidates) :
    snapshot localLanIps candidates = snapshot localLanIps' candidates' := by
  have hIps := normalizeLanIpSnapshot_congr h.ips
  have hMem : ∀ candidate, candidate ∈ candidates.filter (·.kind.isLan) ↔
      candidate ∈ candidates'.filter (·.kind.isLan) := fun candidate => by
    rw [List.mem_filter, List.mem_filter]
    exact and_congr_left (h.candidates candidate)
  have hIrrefl : Std.Irrefl fun left right : ConnectionCandidate =>
      left.nearPlace (normalizeLanIpSnapshot localLanIps) <
        right.nearPlace (normalizeLanIpSnapshot localLanIps) := ⟨fun _ => lt_irrefl _⟩
  have hAntisymm : Std.Antisymm fun left right : ConnectionCandidate =>
      left.nearPlace (normalizeLanIpSnapshot localLanIps) <
        right.nearPlace (normalizeLanIpSnapshot localLanIps) :=
    ⟨fun _ _ hLt hGt => absurd hGt hLt.not_gt⟩
  have hSorted : (snapshot localLanIps' candidates').Pairwise _ := pairwise_snapshot
  rw [← hIps] at hSorted
  refine pairwise_snapshot.eq_of_mem_iff hSorted fun candidate => ?_
  rw [mem_snapshot, mem_snapshot]
  exact selects_normalizeDirectCandidateSnapshot.mem_congr
    selects_normalizeDirectCandidateSnapshot hDevice.distinguishes hMem

end Near

end Presentations

end Kmsync.Client
