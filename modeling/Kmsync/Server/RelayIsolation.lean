import Kmsync.Server.Effects
import Kmsync.Server.Relay
import Kmsync.Server.UuidText
import Kmsync.ProofKit.Transition

/-! The relay among the requests.  Connections are opened and closed, and send frames, in any order
with the requests that add devices to the store and delete them; a frame reaches no receiver of
another user as long as no user gets a device at whose id the receiver of another still listens. -/

namespace Kmsync.Server

open ProofKit

variable {C : Type}

section System

/-- The server, with the connections of the relay that were ever opened and the ids of those that
have ended. -/
structure RelaySystem (C : Type) where
  app : AppState C
  opened : List RelayConnection
  ended : List Uuid

inductive RelayEvent (C : Type) where
  | request (call : Call C)
  | upgrade (env : Surroundings) (headers : Headers) (query : RelayWsQuery)
  | abandon (connectionId : Uuid)
  | close (connectionId : Uuid)
  | frame (connectionId : Uuid) (payload : List UInt8)

namespace RelaySystem

def start : RelaySystem C := ⟨.start, [], []⟩

def live? (s : RelaySystem C) (connectionId : Uuid) : Option RelayConnection :=
  s.opened.find? fun connection => connection.connectionId = connectionId ∧ connectionId ∉ s.ended

/-- The end of a connection, in which the hub changes. -/
def endConnection (s : RelaySystem C) (connectionId : Uuid)
    (f : RelayConnection → RelayHub → RelayHub) : Option (RelaySystem C) :=
  (s.live? connectionId).map fun connection =>
    { s with
      app := { s.app with relay := f connection s.app.relay }
      ended := connectionId :: s.ended }

/-- The ids of connections are fresh, and only a connection that has not ended does anything. -/
def step [UuidText] (s : RelaySystem C) : RelayEvent C → Option (RelaySystem C)
  | .request call => some { s with app := stateAfter (serve call) s.app }
  | .upgrade env headers query =>
    if ∃ connection ∈ s.opened, connection.connectionId = env.uuid 0 then none
    else
      some { s with
        app := stateAfter (relayWs env headers query) s.app
        opened := s.opened ++ (answer (relayWs env headers query) s.app).toOption.toList }
  | .abandon connectionId => s.endConnection connectionId RelayConnection.abandon
  | .close connectionId => s.endConnection connectionId RelayConnection.close
  | .frame connectionId payload =>
    (s.live? connectionId).map fun connection =>
      { s with
        app := stateAfter
          (routeRelayClientFrame connection.userId connection.sourceDeviceId payload) s.app }

/-- A frame of a connection is put on one channel, that of a receiver of the same user, and both
devices are registered to the user and enabled. -/
def Routes [UuidText] (s : RelaySystem C) (connection : RelayConnection)
    (payload : List UInt8) : Prop :=
  ∃ targetDeviceId frame receiver channel,
    parseRelayClientFrame payload = .ok (targetDeviceId, frame) ∧
    s.app.inner.enables connection.userId connection.sourceDeviceId ∧
    s.app.inner.enables connection.userId targetDeviceId ∧
    receiver ∈ s.opened ∧ receiver.userId = connection.userId ∧
    receiver.sourceDeviceId = targetDeviceId ∧ receiver.outbound = some channel ∧
    (∀ other ∈ s.opened, other.outbound = some channel → other = receiver) ∧
    (stateAfter (routeRelayClientFrame connection.userId connection.sourceDeviceId payload)
      s.app).relay = s.app.relay.put channel frame

/-- The end of a connection leaves the peers of the others. -/
def KeepsReceivers (s : RelaySystem C) : Prop :=
  ∀ earlier ∈ s.opened, ∀ later ∈ s.opened, later ≠ earlier → ∀ deviceId peer,
    s.app.relay.peers.get? deviceId = some peer → peer.connectionId = later.connectionId →
      (earlier.close s.app.relay).peers.get? deviceId = some peer

structure Isolates [UuidText] (s : RelaySystem C) : Prop where
  routed : ∀ connectionId connection payload, s.live? connectionId = some connection →
    answer (routeRelayClientFrame connection.userId connection.sourceDeviceId payload) s.app =
      .ok () → s.Routes connection payload
  kept : s.KeepsReceivers

/-- The relay has a receiver that still listens at the id of a device. -/
def Hears (s : RelaySystem C) (deviceId : Uuid) (receiver : RelayConnection) : Prop :=
  receiver ∈ s.opened ∧ ∃ peer, s.app.relay.peers.get? deviceId = some peer ∧
    s.app.relay.receives peer.tx = true ∧ receiver.outbound = some peer.tx

end RelaySystem

/-- The request adds a device to those of a user. -/
def Request.Adds (request : Request C) (env : Surroundings) (s : Store C)
    (userId deviceId : Uuid) : Prop :=
  ∃ headers registration, request = .registerDevice headers registration ∧
    authorizeOrDefault s headers = .ok userId ∧ trimmed registration.name ≠ "" ∧
    (registration.deviceId.getD (env.uuid 0) ∉ s.devices →
      deletedDeviceKeyDecision env s userId (registration.deviceId.getD (env.uuid 0))
        registration.publicKey ≠ .blockDuplicateIdentity) ∧
    registeredDeviceId env s userId (registration.deviceId.getD (env.uuid 0))
      registration.publicKey = deviceId ∧
    s.devices.get? deviceId = none

/-- A device is added only where no receiver of another user listens. -/
def KeepsPeers (s : RelaySystem C) : RelayEvent C → Prop
  | .request call => ∀ userId deviceId, call.2.Adds call.1 s.app.inner userId deviceId →
    ∀ receiver, s.Hears deviceId receiver → receiver.userId = userId
  | _ => True

end System

section Owners

variable [UuidText] {env : Surroundings} {s t : Store C} {request : Request C}
  {answer : Except ApiError (Response C)} {userId deviceId : Uuid}

omit [UuidText] in
theorem Store.enables.owns (h : s.enables userId deviceId) : s.owns userId deviceId := by
  obtain ⟨device, hDevice, hUser, -⟩ := h
  exact ⟨device, hDevice, hUser⟩

omit [UuidText] in
theorem Store.owns.unique {userId' : Uuid} (h : s.owns userId deviceId)
    (h' : s.owns userId' deviceId) : userId = userId' := by
  obtain ⟨device, hDevice, rfl⟩ := h
  obtain ⟨device', hDevice', rfl⟩ := h'
  rw [hDevice] at hDevice'
  exact congrArg Device.userId (Option.some.inj hDevice')

omit [UuidText] in
theorem owns_putDevice {changedId : Uuid} {changed : Device}
    (h : (s.putDevice changedId changed).owns userId deviceId) :
    deviceId = changedId ∧ changed.userId = userId ∨ s.owns userId deviceId := by
  obtain ⟨device, hDevice, hUser⟩ := h
  rcases HashMap.get?_insert_cases hDevice with ⟨hEq, rfl⟩ | hOld
  · exact .inl ⟨hEq, hUser⟩
  · exact .inr ⟨device, hOld, hUser⟩

/-- A user has a device that the user had before, or that the request adds. -/
theorem Effect.owns_or_adds (hEffect : Effect env s request answer t)
    (h : t.owns userId deviceId) :
    s.owns userId deviceId ∨ request.Adds env s userId deviceId := by
  have hReplaced {changedId : Uuid} {before changed : Device}
      (hDevice : s.devices.get? changedId = some before)
      (hOwns : (s.putDevice changedId changed).owns userId deviceId)
      (hSame : changed.userId = before.userId) : s.owns userId deviceId := by
    rcases owns_putDevice hOwns with ⟨rfl, hUser⟩ | hOld
    · exact ⟨before, hDevice, hSame.symm.trans hUser⟩
    · exact hOld
  cases hEffect with
  | added hUser hName hUnblocked hId hNew =>
    rcases owns_putDevice (s := s) h with ⟨rfl, rfl⟩ | hOld
    · exact .inr ⟨_, _, rfl, hUser, hName, hUnblocked, hId, hNew⟩
    · exact .inl hOld
  | refreshed hUser hUnblocked hId hDevice => exact .inl (hReplaced hDevice h rfl)
  | updated hUser hDevice => exact .inl (hReplaced hDevice h rfl)
  | reauthorized hUser hKey hDevice => exact .inl (hReplaced hDevice h rfl)
  | deleted =>
    obtain ⟨device, hDevice, hUser⟩ := h
    rw [Store.withoutDevices_devices, HashMap.get?_retain_eq_some_iff] at hDevice
    exact .inl ⟨device, hDevice.1, hUser⟩
  | forgotten =>
    obtain ⟨device, hDevice, hUser⟩ := h
    rw [Store.dropDevice_devices, HashMap.get?_erase, Option.ite_none_left_eq_some] at hDevice
    exact .inl ⟨device, hDevice.2, hUser⟩
  | _ => exact .inl h

end Owners

section Hubs

variable {hub hub' : RelayHub} {channel : ℕ} {deviceId connectionId : Uuid}

/-- A hub has the peers and the receivers of another, or fewer. -/
structure RelayHub.Narrows (hub hub' : RelayHub) : Prop where
  peers : ∀ deviceId peer, hub'.peers.get? deviceId = some peer →
    hub.peers.get? deviceId = some peer
  length : hub'.channels.length = hub.channels.length
  receives : ∀ channel, hub'.receives channel = true → hub.receives channel = true

namespace RelayHub

theorem Narrows.refl (hub : RelayHub) : hub.Narrows hub :=
  ⟨fun _ _ => id, rfl, fun _ => id⟩

theorem Narrows.trans {hub'' : RelayHub} (h : hub.Narrows hub') (h' : hub'.Narrows hub'') :
    hub.Narrows hub'' where
  peers deviceId peer hPeer := h.peers deviceId peer (h'.peers deviceId peer hPeer)
  length := h'.length.trans h.length
  receives channel hOpen := h.receives channel (h'.receives channel hOpen)

/-- A change of one channel that does not bring its receiver back. -/
theorem narrows_modify {f : Channel → Channel}
    (hf : ∀ found, (f found).isOpen = true → found.isOpen = true) :
    hub.Narrows { hub with channels := hub.channels.modify channel f } where
  peers _ _ hPeer := hPeer
  length := List.length_modify ..
  receives other hOpen := by
    simp only [receives, List.getElem?_modify] at hOpen ⊢
    cases hFound : hub.channels[other]? with
    | none =>
      rw [hFound] at hOpen
      exact hOpen
    | some found =>
      rw [hFound] at hOpen
      simp only [Option.map_eq_map, Option.map_some, Option.any_some] at hOpen
      split at hOpen
      next => exact hf found hOpen
      next => exact hOpen

theorem narrows_put (hub : RelayHub) (channel : ℕ) (frame : List UInt8) :
    hub.Narrows (hub.put channel frame) :=
  narrows_modify fun _ hOpen => hOpen

theorem narrows_dropReceiver (hub : RelayHub) (channel : ℕ) :
    hub.Narrows (hub.dropReceiver channel) :=
  narrows_modify fun _ hOpen => nomatch hOpen

theorem narrows_unregisterIfCurrent (hub : RelayHub) (deviceId connectionId : Uuid) :
    hub.Narrows (hub.unregisterIfCurrent deviceId connectionId) where
  peers _ _ hPeer := (get?_unregisterIfCurrent.mp hPeer).1
  length := by
    unfold unregisterIfCurrent
    split
    next => rfl
    next => rfl
  receives channel hOpen := by
    unfold unregisterIfCurrent at hOpen
    split at hOpen
    next => exact hOpen
    next => exact hOpen

end RelayHub

theorem RelayConnection.narrows_abandon (connection : RelayConnection) (hub : RelayHub) :
    hub.Narrows (connection.abandon hub) := by
  unfold abandon
  split
  next channel _ => exact hub.narrows_dropReceiver channel
  next => exact .refl hub

theorem RelayConnection.narrows_close (connection : RelayConnection) (hub : RelayHub) :
    hub.Narrows (connection.close hub) := by
  refine (hub.narrows_unregisterIfCurrent connection.sourceDeviceId connection.connectionId).trans ?_
  exact connection.narrows_abandon _

/-- The end of a connection takes the peer away that is its own. -/
theorem RelayConnection.get?_close {connection : RelayConnection} {peer : RelayPeer} :
    (connection.close hub).peers.get? deviceId = some peer ↔ hub.peers.get? deviceId = some peer ∧
      ¬ (deviceId = connection.sourceDeviceId ∧ peer.connectionId = connection.connectionId) := by
  rw [← RelayHub.get?_unregisterIfCurrent, close]
  split
  next => exact Iff.rfl
  next => exact Iff.rfl

/-- A new receiver takes the place of the peer of its device, on a channel of its own. -/
theorem RelayHub.get?_register {foundId : Uuid} {peer : RelayPeer}
    (h : (hub.register deviceId connectionId).2.peers.get? foundId = some peer) :
    foundId = deviceId ∧ peer = ⟨connectionId, hub.channels.length⟩ ∨
      hub.peers.get? foundId = some peer :=
  HashMap.get?_insert_cases h

theorem RelayHub.receives_register (hChannel : channel < hub.channels.length) :
    (hub.register deviceId connectionId).2.receives channel = hub.receives channel := by
  rw [receives, register_snd_channels, List.getElem?_append_left hChannel, receives]

end Hubs

namespace RelaySystem

section Steps

variable [UuidText] {s t : RelaySystem C} {event : RelayEvent C}

/-- What an event changes. -/
inductive Change (s : RelaySystem C) : RelayEvent C → RelaySystem C → Prop where
  | served {call : Call C} {app : AppState C} {answer : Except ApiError (Response C)}
      (hOutcome : Outcome call.1 s.app call.2 answer app) :
      Change s (.request call) { s with app }
  | opened {env : Surroundings} {headers : Headers} {query : RelayWsQuery}
      {connection : RelayConnection} {app : AppState C}
      (hFresh : ∀ other ∈ s.opened, other.connectionId ≠ env.uuid 0)
      (hOpens : connection.Opens s.app query.deviceId (env.uuid 0) app) :
      Change s (.upgrade env headers query) { s with app, opened := s.opened ++ [connection] }
  | narrowed {event : RelayEvent C} {relay : RelayHub} {ended : List Uuid}
      (hNarrows : s.app.relay.Narrows relay) :
      Change s event { s with app := { s.app with relay }, ended }

theorem change_endConnection {connectionId : Uuid} {f : RelayConnection → RelayHub → RelayHub}
    (hf : ∀ connection (hub : RelayHub), hub.Narrows (f connection hub))
    (h : s.endConnection connectionId f = some t) : Change s event t := by
  obtain ⟨connection, -, rfl⟩ := Option.map_eq_some_iff.mp h
  exact .narrowed (hf connection s.app.relay)

theorem change_of_step (h : step s event = some t) : Change s event t := by
  cases event with
  | request call =>
    obtain rfl := Option.some.inj h
    exact .served (serve_outcome s.app call)
  | upgrade env headers query =>
    rw [step, Option.ite_none_left_eq_some] at h
    obtain ⟨hFresh, h⟩ := h
    obtain rfl := Option.some.inj h
    rcases (relayWs_meets env headers query s.app).ok_or_error with
      ⟨connection, app, hOk, hOpens⟩ | ⟨error, app, hError, rfl⟩
    · rw [stateAfter_of_ok hOk, answer_of_ok hOk]
      exact .opened (fun other hMem hId => hFresh ⟨other, hMem, hId⟩) hOpens
    · rw [stateAfter_of_error hError, answer_of_error hError]
      have hSame : s.opened ++ [] = s.opened := List.append_nil s.opened
      simp only [Except.toOption, Option.toList_none, hSame]
      exact .narrowed (.refl s.app.relay)
  | abandon connectionId => exact change_endConnection RelayConnection.narrows_abandon h
  | close connectionId => exact change_endConnection RelayConnection.narrows_close h
  | frame connectionId payload =>
    obtain ⟨connection, -, rfl⟩ := Option.map_eq_some_iff.mp h
    rcases (routeRelayClientFrame_meets connection.userId connection.sourceDeviceId payload
      s.app).ok_or_error with ⟨u, app, hOk, -, target, frame, peer, -, -, -, -, rfl⟩ |
      ⟨error, app, hError, rfl⟩
    · rw [stateAfter_of_ok hOk]
      exact .narrowed (s.app.relay.narrows_put peer.tx frame)
    · rw [stateAfter_of_error hError]
      exact .narrowed (.refl s.app.relay)

end Steps

section Invariants

/-- Connections have their own ids and channels, and the peers of the hub are among them. -/
structure Sound (s : RelaySystem C) : Prop where
  ids : ∀ a ∈ s.opened, ∀ b ∈ s.opened, a.connectionId = b.connectionId → a = b
  channels : ∀ a ∈ s.opened, ∀ channel, a.outbound = some channel →
    channel < s.app.relay.channels.length
  alone : ∀ a ∈ s.opened, ∀ b ∈ s.opened, ∀ channel, a.outbound = some channel →
    b.outbound = some channel → a = b
  peers : ∀ deviceId peer, s.app.relay.peers.get? deviceId = some peer →
    ∃ receiver ∈ s.opened, receiver.sourceDeviceId = deviceId ∧
      receiver.connectionId = peer.connectionId ∧ receiver.outbound = some peer.tx

/-- A receiver that listens at the id of a device has the user of the device. -/
def OwnPeers (s : RelaySystem C) : Prop :=
  ∀ deviceId receiver userId, s.Hears deviceId receiver → s.app.inner.owns userId deviceId →
    receiver.userId = userId

variable [UuidText] {s t : RelaySystem C} {event : RelayEvent C}

omit [UuidText] in
theorem sound_start : (start : RelaySystem C).Sound where
  ids _ hMem := absurd hMem List.not_mem_nil
  channels _ hMem := absurd hMem List.not_mem_nil
  alone _ hMem := absurd hMem List.not_mem_nil
  peers _ _ hPeer := nomatch hPeer

omit [UuidText] in
/-- One more connection, with an id and a channel of its own. -/
theorem Sound.opened (h : s.Sound) {connection : RelayConnection} {app : AppState C}
    (hFresh : ∀ other ∈ s.opened, other.connectionId ≠ connection.connectionId)
    (hLength : s.app.relay.channels.length ≤ app.relay.channels.length)
    (hChannel : ∀ channel, connection.outbound = some channel →
      s.app.relay.channels.length ≤ channel ∧ channel < app.relay.channels.length)
    (hPeers : ∀ deviceId peer, app.relay.peers.get? deviceId = some peer →
      connection.sourceDeviceId = deviceId ∧ connection.connectionId = peer.connectionId ∧
        connection.outbound = some peer.tx ∨ s.app.relay.peers.get? deviceId = some peer) :
    Sound { s with app, opened := s.opened ++ [connection] } where
  ids a hA b hB hId := by
    simp only [List.mem_append, List.mem_singleton] at hA hB
    rcases hA with hA | rfl <;> rcases hB with hB | rfl
    · exact h.ids a hA b hB hId
    · exact absurd hId (hFresh a hA)
    · exact absurd hId.symm (hFresh b hB)
    · rfl
  channels a hA channel hOut := by
    simp only [List.mem_append, List.mem_singleton] at hA
    rcases hA with hA | rfl
    · exact Nat.lt_of_lt_of_le (h.channels a hA channel hOut) hLength
    · exact (hChannel channel hOut).2
  alone a hA b hB channel hOutA hOutB := by
    simp only [List.mem_append, List.mem_singleton] at hA hB
    rcases hA with hA | rfl <;> rcases hB with hB | rfl
    · exact h.alone a hA b hB channel hOutA hOutB
    · exact absurd (h.channels a hA channel hOutA) (Nat.not_lt.mpr (hChannel channel hOutB).1)
    · exact absurd (h.channels b hB channel hOutB) (Nat.not_lt.mpr (hChannel channel hOutA).1)
    · rfl
  peers deviceId peer hPeer := by
    rcases hPeers deviceId peer hPeer with hNew | hOld
    · exact ⟨connection, List.mem_append_right _ List.mem_cons_self, hNew⟩
    · obtain ⟨receiver, hMem, hReceiver⟩ := h.peers deviceId peer hOld
      exact ⟨receiver, List.mem_append_left _ hMem, hReceiver⟩

theorem Sound.change (h : s.Sound) (hChange : Change s event t) : t.Sound := by
  cases hChange with
  | served hOutcome =>
    refine ⟨h.ids, ?_, h.alone, ?_⟩
    · rw [hOutcome.relay]
      exact h.channels
    · rw [hOutcome.relay]
      exact h.peers
  | opened hFresh hOpens =>
    cases hOpens with
    | rx hEnabled =>
      refine h.opened hFresh ?_ ?_ fun deviceId peer hPeer => ?_
      · simp
      · simp
      · rcases RelayHub.get?_register hPeer with ⟨rfl, rfl⟩ | hOld
        · exact .inl ⟨rfl, rfl, rfl⟩
        · exact .inr hOld
    | tx hEnabled => exact h.opened hFresh le_rfl nofun fun _ _ hPeer => .inr hPeer
  | narrowed hNarrows =>
    refine ⟨h.ids, fun a hA channel hOut => ?_, h.alone, fun deviceId peer hPeer => ?_⟩
    · exact hNarrows.length ▸ h.channels a hA channel hOut
    · exact h.peers deviceId peer (hNarrows.peers deviceId peer hPeer)

omit [UuidText] in
theorem ownPeers_start : (start : RelaySystem C).OwnPeers :=
  fun _ _ _ hHears => absurd hHears.1 List.not_mem_nil

/-- A device comes to a user by a request, or a receiver to a device that its user has. -/
theorem OwnPeers.change (h : s.OwnPeers) (hSound : s.Sound) (hKeeps : KeepsPeers s event)
    (hChange : Change s event t) : t.OwnPeers := by
  intro deviceId receiver userId hHears hOwns
  obtain ⟨hMem, peer, hPeer, hOpen, hOut⟩ := hHears
  cases hChange with
  | served hOutcome =>
    rw [hOutcome.relay] at hPeer hOpen
    have hHeard : s.Hears deviceId receiver := ⟨hMem, peer, hPeer, hOpen, hOut⟩
    rcases hOutcome.effect.owns_or_adds hOwns with hOld | hAdds
    · exact h deviceId receiver userId hHeard hOld
    · exact hKeeps userId deviceId hAdds receiver hHeard
  | opened hFresh hOpens =>
    cases hOpens with
    | @rx openerId hEnabled =>
      rcases List.mem_append.mp hMem with hOld | hNew
      · have hChannel := hSound.channels receiver hOld peer.tx hOut
        rcases RelayHub.get?_register hPeer with ⟨-, rfl⟩ | hBefore
        · exact absurd hChannel (Nat.lt_irrefl _)
        · rw [RelayHub.receives_register hChannel] at hOpen
          exact h deviceId receiver userId ⟨hOld, peer, hBefore, hOpen, hOut⟩ hOwns
      · obtain rfl := List.mem_singleton.mp hNew
        rcases RelayHub.get?_register hPeer with ⟨rfl, -⟩ | hBefore
        · exact hEnabled.owns.unique hOwns
        · obtain ⟨other, hOther, -, -, hTx⟩ := hSound.peers deviceId peer hBefore
          have hTaken := hSound.channels other hOther s.app.relay.channels.length
          exact absurd (hTaken (hTx.trans hOut.symm)) (Nat.lt_irrefl _)
    | tx hEnabled =>
      rcases List.mem_append.mp hMem with hOld | hNew
      · exact h deviceId receiver userId ⟨hOld, peer, hPeer, hOpen, hOut⟩ hOwns
      · obtain rfl := List.mem_singleton.mp hNew
        contradiction
  | narrowed hNarrows =>
    exact h deviceId receiver userId ⟨hMem, peer, hNarrows.peers deviceId peer hPeer,
      hNarrows.receives peer.tx hOpen, hOut⟩ hOwns

omit [UuidText] in
theorem Sound.keepsReceivers (h : s.Sound) : s.KeepsReceivers := by
  intro earlier hEarlier later hLater hNe deviceId peer hPeer hId
  refine RelayConnection.get?_close.mpr ⟨hPeer, fun hSame => hNe ?_⟩
  exact h.ids later hLater earlier hEarlier (hId.symm.trans hSame.2)

theorem OwnPeers.routes (h : s.OwnPeers) (hSound : s.Sound) {connection : RelayConnection}
    {payload : List UInt8} (hAnswer : answer (routeRelayClientFrame connection.userId
      connection.sourceDeviceId payload) s.app = .ok ()) : s.Routes connection payload := by
  rcases (routeRelayClientFrame_meets connection.userId connection.sourceDeviceId payload
    s.app).ok_or_error with ⟨u, app, hOk, hSource, targetDeviceId, frame, peer, hParse, hTarget,
      hPeer, hOpen, rfl⟩ | ⟨error, app, hError, -⟩
  · obtain ⟨receiver, hMem, hDevice, -, hOut⟩ := hSound.peers targetDeviceId peer hPeer
    have hUser : receiver.userId = connection.userId :=
      h targetDeviceId receiver connection.userId ⟨hMem, peer, hPeer, hOpen, hOut⟩ hTarget.owns
    refine ⟨targetDeviceId, frame, receiver, peer.tx, hParse, hSource, hTarget, hMem, hUser, hDevice,
      hOut, fun other hOther hSame => ?_, ?_⟩
    · exact hSound.alone other hOther receiver hMem peer.tx hSame hOut
    · rw [stateAfter_of_ok hOk]
  · rw [answer_of_error hError] at hAnswer
    contradiction

end Invariants

section Runs

variable [UuidText] {s : RelaySystem C} {events : List (RelayEvent C)}

theorem sound_of_run (hRun : run step start events = some s) : s.Sound :=
  run_induction (fun _ _ _ h hStep => h.change (change_of_step hStep)) sound_start hRun

theorem ownPeers_of_run (hRun : run step start events = some s)
    (hAlong : Along (fun s event _ => KeepsPeers s event) step start events) : s.OwnPeers := by
  have hStep (s : RelaySystem C) (event : RelayEvent C) (later : List (RelayEvent C))
      (t : RelaySystem C) (h : s.Sound ∧ s.OwnPeers) (hKeeps : KeepsPeers s event)
      (hStep : step s event = some t) : t.Sound ∧ t.OwnPeers :=
    have hChange := change_of_step hStep
    ⟨h.1.change hChange, h.2.change h.1 hKeeps hChange⟩
  have hStart : (start : RelaySystem C).Sound ∧ (start : RelaySystem C).OwnPeers :=
    ⟨sound_start, ownPeers_start⟩
  exact (run_induction_along (I := fun s _ => s.Sound ∧ s.OwnPeers) hStep hStart hAlong hRun).2

/-- The end of a connection takes no other receiver from the relay, whatever came before. -/
theorem keepsReceivers_of_run (hRun : run step start events = some s) : s.KeepsReceivers :=
  (sound_of_run hRun).keepsReceivers

theorem relay_isolates (hRun : run step start events = some s)
    (hAlong : Along (fun s event _ => KeepsPeers s event) step start events) : s.Isolates where
  routed _ _ _ _ hAnswer := (ownPeers_of_run hRun hAlong).routes (sound_of_run hRun) hAnswer
  kept := keepsReceivers_of_run hRun

end Runs

section Listening

/-- One device of the default user listens, and another one sends. -/
def listeningEvents : List (RelayEvent Unit) :=
  [.request (registration 0 10 "key a"), .request (registration 1 11 "key b"),
    .upgrade (.usual 2 50) ⟨none⟩ ⟨10, none, none⟩,
    .upgrade (.usual 3 60) ⟨none⟩ ⟨11, none, some "tx"⟩]

theorem relay_isolates_listening :
    ∃ s, run (@step Unit .hyphenated) start listeningEvents = some s ∧
      @Isolates Unit .hyphenated s := by
  let text := UuidText.hyphenated
  have hSome : (run step start listeningEvents).isSome := by decide
  obtain ⟨s, hRun⟩ := Option.isSome_iff_exists.mp hSome
  refine ⟨s, hRun, relay_isolates hRun ?_⟩
  refine ⟨fun _ _ _ _ hHears => absurd hHears.1 List.not_mem_nil, fun s₁ hs₁ => ?_⟩
  obtain rfl := Option.some.inj hs₁
  refine ⟨fun _ _ _ _ hHears => absurd hHears.1 List.not_mem_nil, fun s₂ hs₂ => ?_⟩
  exact ⟨trivial, fun _ _ => ⟨trivial, fun _ _ => trivial⟩⟩

/-- The default user deletes a device that still listens, and a guest registers one with its id. -/
def takeoverEvents : List (RelayEvent Unit) :=
  [.request (registration 0 10 "key a"),
    .upgrade (.usual 1 50) ⟨none⟩ ⟨10, none, none⟩,
    .request (.usual 2 0, .deleteDevice ⟨none⟩ 10),
    .request (.usual 3 100, .startEmailLogin "guest@kmsync"),
    .request (.usual 4 100, .verifyEmailLogin "guest@kmsync" "00000000"),
    .request (.usual 5 0, .registerDevice guestHeaders
      ⟨some 10, "desk", none, "linux", "6", "1", "key b"⟩),
    .upgrade (.usual 6 60) guestHeaders ⟨10, none, some "tx"⟩]

def guestConnection : RelayConnection := ⟨100, 10, 60, none⟩

/-- The receiver of the default user gets what the guest sends to the device. -/
theorem not_isolates :
    ¬ ∀ (events : List (RelayEvent Unit)) s,
      run (@step Unit .hyphenated) start events = some s → @Isolates Unit .hyphenated s := by
  let text := UuidText.hyphenated
  intro h
  let payload := relayFrameMagic ++ asBytes (UuidText.display 10) ++ [1]
  have hReached : ∃ s, s ∈ run step start takeoverEvents ∧
      s.live? 60 = some guestConnection ∧
      answer (routeRelayClientFrame 100 10 payload) s.app = .ok () ∧
      ∀ receiver ∈ s.opened, receiver.userId = 100 → receiver.outbound = none := by
    decide
  obtain ⟨s, hRun, hLive, hAnswer, hNone⟩ := hReached
  obtain ⟨-, -, receiver, channel, -, -, -, hMem, hUser, -, hOut, -⟩ :=
    (h takeoverEvents s hRun).routed 60 guestConnection payload hLive hAnswer
  rw [hNone receiver hMem hUser] at hOut
  contradiction

end Listening

end RelaySystem

end Kmsync.Server
