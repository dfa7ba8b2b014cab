import Kmsync.Client.LanCandidates
import Kmsync.Core.Protocol

/-! The direct connection over the local network.  A refresh connects again if the connection is
lost or if what it is told has changed; the order in which it is told makes no difference. -/

namespace Kmsync.Client

open ProofKit

section Attempts

variable [SocketAddrText]

structure DirectConnectionFailure where
  candidate : ConnectionCandidate
  error : String
  deriving DecidableEq

structure DirectConnectionAttempt where
  candidate : ConnectionCandidate
  address : SocketAddr
  failedAttempts : List DirectConnectionFailure
  deriving DecidableEq

def formatDirectConnectionFailures (failedAttempts : List DirectConnectionFailure) : String :=
  failedAttempts.foldl (fun message failure =>
    message ++ "; " ++ failure.candidate.kind.debug ++ " " ++ failure.candidate.address ++ ": " ++
      failure.error)
    "all direct LAN candidates failed"

variable {m : Type → Type} [Monad m]

/-- The connector may have effects of its own. -/
abbrev Connector (m : Type → Type) : Type :=
  ConnectionCandidate → SocketAddr → m (Except String Unit)

/-- The loop of `try_direct_lan_connection`, with the failures so far. -/
def tryCandidates (connector : Connector m) (failedAttempts : List DirectConnectionFailure) :
    List ConnectionCandidate → m (Except (List DirectConnectionFailure) DirectConnectionAttempt)
  | [] => pure (.error failedAttempts)
  | candidate :: candidates =>
    match SocketAddrText.parse candidate.address with
    | .error error =>
      tryCandidates connector
        (failedAttempts ++ [⟨candidate, "invalid LAN socket address: " ++ error⟩]) candidates
    | .ok address => do
      match ← connector candidate address with
      | .ok () => return .ok ⟨candidate, address, failedAttempts⟩
      | .error error =>
        tryCandidates connector (failedAttempts ++ [⟨candidate, error⟩]) candidates

def tryDirectLanConnection (candidates : List ConnectionCandidate) (connector : Connector m) :
    m (Except String DirectConnectionAttempt) := do
  let direct := candidates.filter (·.kind.isLan)
  match ← tryCandidates connector [] direct with
  | .ok attempt => return .ok attempt
  | .error failedAttempts =>
    return .error <|
      if direct = [] then "no direct LAN candidates available for target device"
      else formatDirectConnectionFailures failedAttempts

end Attempts

section Refresh

inductive DirectLanReconnectReason where
  | initialConnection | connectionLost | localNetworkChanged | remoteCandidatesChanged
  deriving DecidableEq

structure DirectLanReconnectOutcome where
  reason : DirectLanReconnectReason
  attempt : DirectConnectionAttempt
  reconnectCount : UInt64
  deriving DecidableEq

structure DirectLanReconnectState where
  current : Option DirectConnectionAttempt := none
  localLanIps : List IpAddr := []
  directCandidates : List ConnectionCandidate := []
  reconnectCount : UInt64 := 0
  deriving DecidableEq

namespace DirectLanReconnectState

def reconnectReason (state : DirectLanReconnectState) (currentConnectionHealthy : Bool)
    (localLanIps : List IpAddr) (directCandidates : List ConnectionCandidate) :
    Option DirectLanReconnectReason :=
  if state.current.isNone then some .initialConnection
  else if !currentConnectionHealthy then some .connectionLost
  else if state.localLanIps ≠ localLanIps then some .localNetworkChanged
  else if state.directCandidates ≠ directCandidates then some .remoteCandidatesChanged
  else none

variable [SocketAddrText] {m : Type → Type} [Monad m]

/-- What `refresh` does with the snapshots that it has made. -/
def refreshSnapshots (state : DirectLanReconnectState) (localLanIps : List IpAddr)
    (directCandidates : List ConnectionCandidate) (currentConnectionHealthy : Bool)
    (connector : Connector m) :
    m (Except String (Option DirectLanReconnectOutcome) × DirectLanReconnectState) :=
  match state.reconnectReason currentConnectionHealthy localLanIps directCandidates with
  | none => return (.ok none, state)
  | some reason => do
    match ← tryDirectLanConnection directCandidates connector with
    | .ok attempt =>
      let reconnectCount :=
        if state.current.isSome then saturatingNext state.reconnectCount else state.reconnectCount
      return (.ok (some ⟨reason, attempt, reconnectCount⟩),
        ⟨some attempt, localLanIps, directCandidates, reconnectCount⟩)
    | .error error =>
      return (.error error,
        if currentConnectionHealthy then state else { state with current := none })

/-- The result, and the state after it. -/
def refresh (state : DirectLanReconnectState) (localLanIps : List IpAddr)
    (candidates : List ConnectionCandidate) (currentConnectionHealthy : Bool)
    (connector : Connector m) :
    m (Except String (Option DirectLanReconnectOutcome) × DirectLanReconnectState) :=
  let localLanIps := normalizeLanIpSnapshot localLanIps
  let directCandidates := normalizeDirectCandidateSnapshot candidates
  let directCandidates := prioritizeDirectCandidatesForLocalNetwork directCandidates localLanIps
  state.refreshSnapshots localLanIps directCandidates currentConnectionHealthy connector

end DirectLanReconnectState

end Refresh

namespace DirectLanReconnectState

section Content

variable [SocketAddrText] {m : Type → Type} [Monad m] {state : DirectLanReconnectState}
  {localLanIps localLanIps' : List IpAddr} {candidates candidates' : List ConnectionCandidate}
  {deviceId : String}

theorem refresh_eq (healthy : Bool) (connector : Connector m) :
    state.refresh localLanIps candidates healthy connector =
      state.refreshSnapshots (normalizeLanIpSnapshot localLanIps) (snapshot localLanIps candidates)
        healthy connector := rfl

theorem refresh_congr (h : SameContent localLanIps localLanIps' candidates candidates')
    (hDevice : OfDevice deviceId candidates) (healthy : Bool) (connector : Connector m) :
    state.refresh localLanIps candidates healthy connector =
      state.refresh localLanIps' candidates' healthy connector := by
  rw [refresh_eq, refresh_eq, snapshot_congr h hDevice, normalizeLanIpSnapshot_congr h.ips]

/-- With a connection and nothing new nobody is called. -/
theorem refresh_unchanged (hCurrent : state.current ≠ none)
    (hIps : state.localLanIps = normalizeLanIpSnapshot localLanIps)
    (hCandidates : state.directCandidates = snapshot localLanIps candidates)
    (connector : Connector m) :
    state.refresh localLanIps candidates true connector = pure (.ok none, state) := by
  have hReason : state.reconnectReason true (normalizeLanIpSnapshot localLanIps)
      (snapshot localLanIps candidates) = none := by
    have hSome : ¬ state.current.isNone = true := fun hNone =>
      hCurrent (Option.isNone_iff_eq_none.mp hNone)
    rw [reconnectReason, if_neg hSome, if_neg (by decide), if_neg (not_not.mpr hIps),
      if_neg (not_not.mpr hCandidates)]
  rw [refresh_eq, refreshSnapshots, hReason]

end Content

section Runs

variable [SocketAddrText]

/-- A call of `refresh` with a connector that is a function. -/
structure RefreshCall where
  localLanIps : List IpAddr
  candidates : List ConnectionCandidate
  healthy : Bool
  connector : ConnectionCandidate → SocketAddr → Except String Unit

/-- A call, with its result. -/
def call (state : DirectLanReconnectState) (call : RefreshCall) :
    Except String (Option DirectLanReconnectOutcome) × DirectLanReconnectState :=
  state.refresh (m := Id) call.localLanIps call.candidates call.healthy call.connector

/-- The state after some calls. -/
def after (calls : List RefreshCall) : DirectLanReconnectState :=
  calls.foldl (fun state next => (state.call next).2) {}

variable {calls : List RefreshCall} {state : DirectLanReconnectState} {next : RefreshCall}

theorem after_snoc (next : RefreshCall) : after (calls ++ [next]) = ((after calls).call next).2 := by
  rw [after, List.foldl_append]
  rfl

/-- A call connects and takes over what it was told, or it does not connect: then the state stays,
or the connection is given up. -/
theorem call_cases (state : DirectLanReconnectState) (next : RefreshCall) :
    (∃ outcome, (state.call next).1 = .ok (some outcome) ∧
      (state.call next).2 = ⟨some outcome.attempt, normalizeLanIpSnapshot next.localLanIps,
        snapshot next.localLanIps next.candidates, outcome.reconnectCount⟩) ∨
    ((∀ outcome, (state.call next).1 ≠ .ok (some outcome)) ∧
      ((state.call next).2 = state ∨
        next.healthy = false ∧ (state.call next).2 = { state with current := none })) := by
  unfold call
  rw [refresh_eq, refreshSnapshots]
  split
  next => exact .inr ⟨nofun, .inl rfl⟩
  next reason hReason =>
    cases tryDirectLanConnection (m := Id) (snapshot next.localLanIps next.candidates)
      next.connector with
    | ok attempt => exact .inl ⟨_, rfl, rfl⟩
    | error error =>
      refine .inr ⟨nofun, ?_⟩
      cases hHealthy : next.healthy with
      | true => exact .inl rfl
      | false => exact .inr ⟨rfl, rfl⟩

/-- The call gets a connection. -/
def Connects (state : DirectLanReconnectState) (next : RefreshCall) : Prop :=
  ∃ outcome, (state.call next).1 = .ok (some outcome)

/-- The call is the last of all that got a connection. -/
structure LastConnected (calls before : List RefreshCall) (next : RefreshCall)
    (later : List RefreshCall) : Prop where
  split : calls = before ++ next :: later
  connects : (after before).Connects next
  last : ∀ between other rest, later = between ++ other :: rest →
    ¬ (after (before ++ next :: between)).Connects other

/-- The state has what the last call was told that got a connection. -/
theorem exists_lastConnected (h : (after calls).current ≠ none) :
    ∃ before next later, LastConnected calls before next later ∧
      (after calls).localLanIps = normalizeLanIpSnapshot next.localLanIps ∧
      (after calls).directCandidates = snapshot next.localLanIps next.candidates := by
  induction calls using List.reverseRecOn with
  | nil => exact absurd rfl h
  | append_singleton calls call ih =>
    rw [after_snoc] at h ⊢
    rcases call_cases (after calls) call with ⟨outcome, hOk, hState⟩ | ⟨hNot, hState⟩
    · refine ⟨calls, call, [], ⟨rfl, ⟨outcome, hOk⟩, fun between other rest hSplit => ?_⟩, ?_⟩
      · exact absurd hSplit.symm (by simp)
      · rw [hState]
        exact ⟨rfl, rfl⟩
    · have hSame : ((after calls).call call).2 = after calls := by
        refine hState.resolve_right fun ⟨_, hGivenUp⟩ => h ?_
        rw [hGivenUp]
      rw [hSame] at h ⊢
      obtain ⟨before, next, later, ⟨hSplit, hConnects, hLast⟩, hContent⟩ := ih h
      refine ⟨before, next, later ++ [call], ⟨?_, hConnects, fun between other rest hEq => ?_⟩,
        hContent⟩
      · rw [hSplit, List.append_assoc]
        rfl
      · rcases List.eq_nil_or_concat rest with rfl | ⟨rest, last, rfl⟩
        · obtain ⟨rfl, hCall⟩ := List.append_inj' hEq rfl
          obtain rfl := (List.cons.inj hCall).1
          rw [← hSplit]
          exact fun ⟨outcome, hOk⟩ => hNot outcome hOk
        · have hEq' : later ++ [call] = (between ++ other :: rest) ++ [last] := by
            rw [hEq]
            simp
          exact hLast between other rest (List.append_inj' hEq' rfl).1

end Runs

section Tried

/-- What comes after makes no more calls. -/
theorem snd_bind {σ α β : Type} {f : α → StateM σ β} (h : ∀ a s, (f a s).2 = s) (x : StateM σ α)
    (s : σ) : ((x >>= f) s).2 = (x s).2 :=
  h _ _

variable [SocketAddrText] {localLanIps : List IpAddr} {candidates tried : List ConnectionCandidate}

/-- Each address once and with the best priority it was offered with, those in a local subnet first,
then by priority and address. -/
structure InOrder (localLanIps : List IpAddr) (candidates tried : List ConnectionCandidate) :
    Prop where
  apart : (tried.map (·.address)).Nodup
  offered : ∀ candidate ∈ tried, candidate ∈ candidates ∧ candidate.kind.isLan
  best : ∀ candidate ∈ tried, ∀ other ∈ candidates, other.address = candidate.address →
    other.priority ≤ candidate.priority
  ordered : tried.Pairwise fun left right =>
    left.nearPlace (normalizeLanIpSnapshot localLanIps) <
      right.nearPlace (normalizeLanIpSnapshot localLanIps)

theorem InOrder.sublist (h : InOrder localLanIps candidates tried) {fewer : List ConnectionCandidate}
    (hSublist : fewer.Sublist tried) : InOrder localLanIps candidates fewer where
  apart := h.apart.sublist (hSublist.map _)
  offered candidate hMem := h.offered candidate (hSublist.mem hMem)
  best candidate hMem := h.best candidate (hSublist.mem hMem)
  ordered := h.ordered.sublist hSublist

theorem inOrder_snapshot {deviceId : String} (hDevice : OfDevice deviceId candidates) :
    InOrder localLanIps candidates (snapshot localLanIps candidates) where
  apart := nodup_snapshot
  offered candidate hMem := by
    have hBest := selects_normalizeDirectCandidateSnapshot.best candidate (mem_snapshot.mp hMem)
    exact List.mem_filter.mp hBest.mem
  best candidate hMem other hOther hAddress := by
    have hBest := selects_normalizeDirectCandidateSnapshot.best candidate (mem_snapshot.mp hMem)
    obtain ⟨hCandidate, hLan⟩ := List.mem_filter.mp hBest.mem
    cases hKind : other.kind.isLan with
    | true =>
      exact UInt16.le_iff_toNat_le.mpr
        (hBest.le other (List.mem_filter.mpr ⟨hOther, hKind⟩) hAddress)
    | false =>
      rw [(hDevice other hOther).2, (hDevice candidate hCandidate).2]
      exact ConnectionCandidateKind.priority_le_of_isLan hLan hKind
  ordered := pairwise_snapshot

/-- A connector that notes what it is called with. -/
def recording (connector : ConnectionCandidate → SocketAddr → Except String Unit) :
    Connector (StateM (List (ConnectionCandidate × SocketAddr))) :=
  fun candidate address calls => (connector candidate address, calls ++ [(candidate, address)])

/-- The calls of the connector that a refresh makes. -/
def connectorCalls (state : DirectLanReconnectState) (next : RefreshCall) :
    List (ConnectionCandidate × SocketAddr) :=
  (state.refresh next.localLanIps next.candidates next.healthy (recording next.connector) []).2

variable {connector : ConnectionCandidate → SocketAddr → Except String Unit}
  {l : List ConnectionCandidate}

theorem tryCandidates_recording (failedAttempts : List DirectConnectionFailure)
    (calls : List (ConnectionCandidate × SocketAddr)) :
    ∃ made, (tryCandidates (recording connector) failedAttempts l calls).2 = calls ++ made ∧
      (made.map (·.1)).Sublist l ∧ ∀ x ∈ made, SocketAddrText.parse x.1.address = .ok x.2 := by
  induction l generalizing failedAttempts calls with
  | nil => exact ⟨[], (List.append_nil calls).symm, .slnil, nofun⟩
  | cons candidate l ih =>
    unfold tryCandidates
    cases hAddress : SocketAddrText.parse candidate.address with
    | error error =>
      obtain ⟨made, hCalls, hSublist, hParse⟩ := ih _ calls
      exact ⟨made, hCalls, hSublist.cons candidate, hParse⟩
    | ok address =>
      have hBind : ∀ (rest : Except String Unit → StateM (List (ConnectionCandidate × SocketAddr))
          (Except (List DirectConnectionFailure) DirectConnectionAttempt)),
          (recording connector candidate address >>= rest) calls =
            rest (connector candidate address) (calls ++ [(candidate, address)]) := fun _ => rfl
      dsimp only
      rw [hBind]
      cases connector candidate address with
      | ok done =>
        refine ⟨[(candidate, address)], rfl, (List.nil_sublist l).cons_cons candidate, ?_⟩
        exact fun x hMem => List.mem_singleton.mp hMem ▸ hAddress
      | error error =>
        obtain ⟨made, hCalls, hSublist, hParse⟩ := ih (failedAttempts ++ [⟨candidate, error⟩])
          (calls ++ [(candidate, address)])
        refine ⟨(candidate, address) :: made, ?_, hSublist.cons_cons candidate, ?_⟩
        · exact hCalls.trans (List.append_assoc calls _ made)
        · intro x hMem
          rcases List.mem_cons.mp hMem with rfl | hLater
          · exact hAddress
          · exact hParse x hLater

/-- The failures and the connection are those of a first part of the candidates. -/
theorem tryCandidates_ok {failedAttempts : List DirectConnectionFailure}
    {attempt : DirectConnectionAttempt}
    (h : tryCandidates (m := Id) connector failedAttempts l = .ok attempt) :
    ∃ first, first <+: l ∧ attempt.failedAttempts.map (·.candidate) ++ [attempt.candidate] =
      failedAttempts.map (·.candidate) ++ first := by
  induction l generalizing failedAttempts with
  | nil => cases h
  | cons candidate l ih =>
    have hLater : ∀ error, tryCandidates (m := Id) connector
        (failedAttempts ++ [⟨candidate, error⟩]) l = .ok attempt →
        ∃ first, first <+: candidate :: l ∧
          attempt.failedAttempts.map (·.candidate) ++ [attempt.candidate] =
            failedAttempts.map (·.candidate) ++ first := by
      intro error hRest
      obtain ⟨first, hPrefix, hEq⟩ := ih hRest
      refine ⟨candidate :: first, (List.prefix_cons_inj candidate).mpr hPrefix, hEq.trans ?_⟩
      simp
    unfold tryCandidates at h
    cases hAddress : SocketAddrText.parse candidate.address with
    | error error =>
      rw [hAddress] at h
      exact hLater _ h
    | ok address =>
      rw [hAddress] at h
      dsimp only at h
      cases hConnector : connector candidate address with
      | ok done =>
        rw [hConnector] at h
        cases h
        exact ⟨[candidate], List.prefix_append [candidate] l, rfl⟩
      | error error =>
        rw [hConnector] at h
        exact hLater error h

theorem tryDirectLanConnection_ok {attempt : DirectConnectionAttempt}
    (h : tryDirectLanConnection (m := Id) l connector = .ok attempt) :
    tryCandidates (m := Id) connector [] (l.filter (·.kind.isLan)) = .ok attempt := by
  unfold tryDirectLanConnection at h
  dsimp only at h
  cases hTried : tryCandidates (m := Id) connector [] (l.filter (·.kind.isLan)) with
  | ok found =>
    rw [hTried] at h
    cases h
    rfl
  | error failedAttempts =>
    rw [hTried] at h
    cases h

theorem filter_snapshot :
    (snapshot localLanIps candidates).filter (·.kind.isLan) = snapshot localLanIps candidates := by
  refine List.filter_eq_self.mpr fun candidate hMem => ?_
  have hBest := selects_normalizeDirectCandidateSnapshot.best candidate (mem_snapshot.mp hMem)
  exact (List.mem_filter.mp hBest.mem).2

theorem tryDirectLanConnection_recording :
    (tryDirectLanConnection l (recording connector) []).2 =
      (tryCandidates (recording connector) [] (l.filter (·.kind.isLan)) []).2 := by
  unfold tryDirectLanConnection
  exact snd_bind (fun result calls => by cases result <;> rfl) _ _

/-- The connector is called with candidates of the snapshot, in its order. -/
theorem connectorCalls_sublist (state : DirectLanReconnectState) (next : RefreshCall) :
    ((state.connectorCalls next).map (·.1)).Sublist (snapshot next.localLanIps next.candidates) ∧
      ∀ x ∈ state.connectorCalls next, SocketAddrText.parse x.1.address = .ok x.2 := by
  unfold connectorCalls
  rw [refresh_eq, refreshSnapshots]
  cases state.reconnectReason next.healthy (normalizeLanIpSnapshot next.localLanIps)
      (snapshot next.localLanIps next.candidates) with
  | none => exact ⟨List.nil_sublist _, fun x hMem => absurd hMem List.not_mem_nil⟩
  | some reason =>
    dsimp only
    rw [snd_bind fun result calls => by cases result <;> rfl, tryDirectLanConnection_recording,
      filter_snapshot]
    obtain ⟨made, hCalls, hMade⟩ := tryCandidates_recording [] []
    rw [hCalls]
    exact hMade

/-- The candidates of an outcome are the first of the snapshot. -/
theorem tried_initial {state : DirectLanReconnectState} {next : RefreshCall}
    {outcome : DirectLanReconnectOutcome} (h : (state.call next).1 = .ok (some outcome)) :
    outcome.attempt.failedAttempts.map (·.candidate) ++ [outcome.attempt.candidate] <+:
      snapshot next.localLanIps next.candidates := by
  unfold call at h
  rw [refresh_eq, refreshSnapshots] at h
  cases hReason : state.reconnectReason next.healthy (normalizeLanIpSnapshot next.localLanIps)
      (snapshot next.localLanIps next.candidates) with
  | none =>
    rw [hReason] at h
    cases h
  | some reason =>
    rw [hReason] at h
    dsimp only at h
    cases hConnect : tryDirectLanConnection (m := Id)
        (snapshot next.localLanIps next.candidates) next.connector with
    | ok attempt =>
      rw [hConnect] at h
      cases h
      have hTried := tryDirectLanConnection_ok hConnect
      rw [filter_snapshot] at hTried
      obtain ⟨first, hPrefix, hEq⟩ := tryCandidates_ok hTried
      exact hEq ▸ hPrefix
    | error error =>
      rw [hConnect] at h
      cases h

end Tried

/-- A refresh goes by what it is told, whatever the order: in every state that refreshes lead to,
two presentations of one content have one result; nothing is tried while the connection is healthy
and its content unchanged; what is tried is in order; and a failure takes no healthy connection. -/
theorem refresh_by_content [SocketAddrText] {deviceId : String} {calls : List RefreshCall}
    (hCalls : ∀ next ∈ calls, OfDevice deviceId next.candidates) :
    let state := after calls
    (∀ localLanIps localLanIps' candidates candidates', OfDevice deviceId candidates →
      SameContent localLanIps localLanIps' candidates candidates' →
      ∀ {m : Type → Type} [Monad m] (healthy : Bool) (connector : Connector m),
        state.refresh localLanIps candidates healthy connector =
          state.refresh localLanIps' candidates' healthy connector) ∧
    (state.current ≠ none → ∃ before next later, LastConnected calls before next later ∧
      ∀ localLanIps candidates, SameContent next.localLanIps localLanIps next.candidates candidates →
      ∀ {m : Type → Type} [Monad m] (connector : Connector m),
        state.refresh localLanIps candidates true connector = pure (.ok none, state)) ∧
    (∀ next : RefreshCall, OfDevice deviceId next.candidates →
      InOrder next.localLanIps next.candidates ((state.connectorCalls next).map (·.1)) ∧
      (∀ x ∈ state.connectorCalls next, SocketAddrText.parse x.1.address = .ok x.2) ∧
      ∀ outcome, (state.call next).1 = .ok (some outcome) →
        InOrder next.localLanIps next.candidates
          (outcome.attempt.failedAttempts.map (·.candidate) ++ [outcome.attempt.candidate])) ∧
    ∀ next : RefreshCall, next.healthy = true →
      ∀ error, (state.call next).1 = .error error → (state.call next).2 = state := by
  refine ⟨fun localLanIps localLanIps' candidates candidates' hDevice hSame => ?_, fun hCurrent => ?_,
    fun next hDevice => ?_, fun next hHealthy error hError => ?_⟩
  · exact fun healthy connector => refresh_congr hSame hDevice healthy connector
  · obtain ⟨before, next, later, hLast, hIps, hCandidates⟩ := exists_lastConnected hCurrent
    have hDevice : OfDevice deviceId next.candidates := by
      refine hCalls next ?_
      rw [hLast.split]
      exact List.mem_append_right before List.mem_cons_self
    refine ⟨before, next, later, hLast, fun localLanIps candidates hSame m _ connector => ?_⟩
    refine refresh_unchanged hCurrent ?_ ?_ connector
    · rw [hIps, normalizeLanIpSnapshot_congr hSame.ips]
    · rw [hCandidates, snapshot_congr hSame hDevice]
  · obtain ⟨hSublist, hParse⟩ := connectorCalls_sublist (after calls) next
    have hInOrder : InOrder next.localLanIps next.candidates _ := inOrder_snapshot hDevice
    exact ⟨hInOrder.sublist hSublist, hParse, fun outcome hOk =>
      hInOrder.sublist (tried_initial hOk).sublist⟩
  · rcases call_cases (after calls) next with ⟨outcome, hOk, -⟩ | ⟨-, hSame | ⟨hLost, -⟩⟩
    · cases hError.symm.trans hOk
    · exact hSame
    · cases hLost.symm.trans hHealthy

section Desk

/-- Two addresses of one machine. -/
@[reducible] def deskText : SocketAddrText where
  parse text :=
    if text = "10.0.0.2:24800" then .ok (.v4 #v[10, 0, 0, 2] 24800)
    else if text = "192.168.1.2:24800" then .ok (.v4 #v[192, 168, 1, 2] 24800)
    else .error "invalid socket address syntax"

def deskCandidates : List ConnectionCandidate :=
  [⟨"desk", .backendLan, "192.168.1.2:24800", 300⟩, ⟨"desk", .mdnsLan, "10.0.0.2:24800", 400⟩]

theorem ofDevice_desk : OfDevice "desk" deskCandidates := by
  unfold OfDevice deskCandidates
  decide

/-- The address in the subnet of the machine does not answer. -/
def nearRefused (candidate : ConnectionCandidate) (_ : SocketAddr) : Except String Unit :=
  if candidate.address = "10.0.0.2:24800" then .error "refused" else .ok ()

/-- A refresh without a healthy connection. -/
def deskLost (localLanIps : List IpAddr) (candidates : List ConnectionCandidate) : RefreshCall :=
  ⟨localLanIps, candidates, false, nearRefused⟩

def deskIps : List IpAddr := [.v4 #v[10, 0, 0, 1]]

def deskOutcome : DirectLanReconnectOutcome where
  reason := .connectionLost
  attempt := {
    candidate := ⟨"desk", .backendLan, "192.168.1.2:24800", 300⟩
    address := .v4 #v[192, 168, 1, 2] 24800
    failedAttempts := [⟨⟨"desk", .mdnsLan, "10.0.0.2:24800", 400⟩, "refused"⟩] }
  reconnectCount := 1

/-- When the connection is lost, both candidates once more, the other way round and one of them
twice, change nothing: the near one is tried first and refuses, and the other connects. -/
theorem refresh_by_content_desk :
    letI := deskText
    ((after [deskLost deskIps deskCandidates]).call (deskLost (deskIps ++ deskIps)
        (deskCandidates.reverse ++ deskCandidates))).1 = .ok (some deskOutcome) ∧
      InOrder deskIps deskCandidates (deskOutcome.attempt.failedAttempts.map (·.candidate) ++
        [deskOutcome.attempt.candidate]) := by
  let := deskText
  have hCalls : ∀ next ∈ [deskLost deskIps deskCandidates], OfDevice "desk" next.candidates :=
    List.forall_mem_singleton.mpr ofDevice_desk
  obtain ⟨hContent, -, hOrder, -⟩ := refresh_by_content hCalls
  have hSame : SameContent deskIps (deskIps ++ deskIps) deskCandidates
      (deskCandidates.reverse ++ deskCandidates) :=
    ⟨fun ip => by simp, fun candidate => by simp⟩
  have hConnects : ((after [deskLost deskIps deskCandidates]).call
      (deskLost deskIps deskCandidates)).1 = .ok (some deskOutcome) := by
    decide +kernel
  have hEqual := hContent _ _ _ _ ofDevice_desk hSame (m := Id) false nearRefused
  exact ⟨(congrArg Prod.fst hEqual).symm.trans hConnects,
    (hOrder (deskLost deskIps deskCandidates) ofDevice_desk).2.2 deskOutcome hConnects⟩

end Desk

end DirectLanReconnectState

end Kmsync.Client
