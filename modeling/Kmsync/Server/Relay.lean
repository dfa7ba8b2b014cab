import Kmsync.Server.Store

/-! The relay.  A device that wants to receive opens a connection, whose channel the relay keeps
under the id of the device; a frame that a connection sends is put on the channel of the device that
it names. -/

namespace Kmsync.Server

open ProofKit

variable {C : Type}

section Hub

inductive RelayRouteError where
  | targetOffline | targetReceiverClosed
  deriving DecidableEq

/-- `impl Debug for RelayRouteError` -/
def RelayRouteError.debug : RelayRouteError → String
  | .targetOffline => "TargetOffline"
  | .targetReceiverClosed => "TargetReceiverClosed"

namespace RelayHub

/-- The receiver of a new channel, and the hub with its sender. -/
@[simps]
def register (hub : RelayHub) (deviceId connectionId : Uuid) : ℕ × RelayHub :=
  (hub.channels.length,
    { peers := hub.peers.insert deviceId ⟨connectionId, hub.channels.length⟩
      channels := hub.channels ++ [⟨true, []⟩] })

def unregisterIfCurrent (hub : RelayHub) (deviceId connectionId : Uuid) : RelayHub :=
  if (hub.peers.get? deviceId).any (·.connectionId = connectionId) then
    { hub with peers := hub.peers.erase deviceId }
  else hub

/-- `UnboundedSender::send`, for a channel that is open -/
@[simps]
def put (hub : RelayHub) (channel : ℕ) (frame : List UInt8) : RelayHub :=
  { hub with
    channels := hub.channels.modify channel fun channel =>
      { channel with frames := channel.frames ++ [frame] } }

/-- The receiver of the channel is still there. -/
def receives (hub : RelayHub) (channel : ℕ) : Bool := hub.channels[channel]?.any (·.isOpen)

def sendFrame (hub : RelayHub) (targetDeviceId : Uuid) (frame : List UInt8) :
    Except RelayRouteError RelayHub :=
  match hub.peers.get? targetDeviceId with
  | none => .error .targetOffline
  | some peer =>
    if hub.receives peer.tx then .ok (hub.put peer.tx frame) else .error .targetReceiverClosed

/-- The receiver of a channel goes. -/
@[simps]
def dropReceiver (hub : RelayHub) (channel : ℕ) : RelayHub :=
  { hub with
    channels := hub.channels.modify channel fun channel => { channel with isOpen := false } }

theorem sendFrame_eq_ok {hub hub' : RelayHub} {targetDeviceId : Uuid} {frame : List UInt8} :
    hub.sendFrame targetDeviceId frame = .ok hub' ↔ ∃ peer,
      hub.peers.get? targetDeviceId = some peer ∧ hub.receives peer.tx = true ∧
        hub' = hub.put peer.tx frame := by
  unfold sendFrame
  cases hub.peers.get? targetDeviceId with
  | none => simp
  | some peer =>
    simp only [Option.some.injEq, exists_eq_left']
    split
    next hOpen => simp [hOpen, eq_comm]
    next hClosed => simp [hClosed]

theorem get?_unregisterIfCurrent {hub : RelayHub} {deviceId connectionId foundId : Uuid}
    {peer : RelayPeer} :
    (hub.unregisterIfCurrent deviceId connectionId).peers.get? foundId = some peer ↔
      hub.peers.get? foundId = some peer ∧
        ¬ (foundId = deviceId ∧ peer.connectionId = connectionId) := by
  unfold unregisterIfCurrent
  split
  next hCurrent =>
    rw [HashMap.get?_erase, Option.ite_none_left_eq_some, and_comm]
    refine and_congr_right fun hGet => not_congr ⟨fun hEq => ⟨hEq, ?_⟩, fun hSame => hSame.1⟩
    subst hEq
    simpa [hGet] using hCurrent
  next hOther =>
    refine (and_iff_left_of_imp ?_).symm
    rintro hGet ⟨rfl, hSame⟩
    simp [hGet, hSame] at hOther

end RelayHub

end Hub

section Connections

structure RelayWsQuery where
  deviceId : Uuid
  accessToken : Option String
  mode : Option String
  deriving DecidableEq

inductive RelayWsMode where
  | rx | tx
  deriving DecidableEq

def RelayWsMode.parse (value : Option String) : Except ApiError RelayWsMode :=
  match value.getD "rx" with
  | "rx" => .ok .rx
  | "tx" => .ok .tx
  | _ => .error (.badRequest "relay mode must be rx or tx")

def assertRelayDeviceEnabled (store : Store C) (userId deviceId : Uuid) : Except ApiError Unit :=
  match store.devices.get? deviceId with
  | none => .error (.notFound "device not found")
  | some device =>
    if device.userId ≠ userId then .error (.notFound "device not found")
    else if device.disabled then .error (.forbidden "device disabled")
    else .ok ()

/-- A device of a user is registered, and not disabled. -/
def Store.enables (store : Store C) (userId deviceId : Uuid) : Prop :=
  ∃ device, store.devices.get? deviceId = some device ∧ device.userId = userId ∧
    device.disabled = false

theorem assertRelayDeviceEnabled_eq_ok {store : Store C} {userId deviceId : Uuid} {u : Unit} :
    assertRelayDeviceEnabled store userId deviceId = .ok u ↔ store.enables userId deviceId := by
  unfold assertRelayDeviceEnabled Store.enables
  cases store.devices.get? deviceId with
  | none => simp
  | some device =>
    by_cases hUser : device.userId = userId
    · simp [hUser]
    · simp [hUser]

/-- What `stream_relay` is started with. -/
structure RelayConnection where
  userId : Uuid
  sourceDeviceId : Uuid
  connectionId : Uuid
  outbound : Option ℕ
  deriving DecidableEq

def relayWs (env : Surroundings) (headers : Headers) (query : RelayWsQuery) :
    Handler C RelayConnection := do
  let store ← lock
  let userId ← MonadExcept.ofExcept <|
    match query.accessToken with
    | some token => authorizeAccessToken store token
    | none => authorizeOrDefault store headers
  let mode ← MonadExcept.ofExcept (RelayWsMode.parse query.mode)
  MonadExcept.ofExcept (assertRelayDeviceEnabled (← lock) userId query.deviceId)
  let connectionId := env.uuid 0
  match mode with
  | .rx =>
    let hub := (← get).relay
    modify fun s => { s with relay := (hub.register query.deviceId connectionId).2 }
    return ⟨userId, query.deviceId, connectionId,
      some (hub.register query.deviceId connectionId).1⟩
  | .tx => return ⟨userId, query.deviceId, connectionId, none⟩

/-- The end of `stream_relay`: the receiver is dropped with it. -/
def RelayConnection.close (connection : RelayConnection) (hub : RelayHub) : RelayHub :=
  let hub := hub.unregisterIfCurrent connection.sourceDeviceId connection.connectionId
  match connection.outbound with
  | some channel => hub.dropReceiver channel
  | none => hub

/-- An upgrade that is not carried out: `stream_relay` does not run, and the receiver is dropped. -/
def RelayConnection.abandon (connection : RelayConnection) (hub : RelayHub) : RelayHub :=
  match connection.outbound with
  | some channel => hub.dropReceiver channel
  | none => hub

/-- A connection that is opened, and the state with it. -/
inductive RelayConnection.Opens (s : AppState C) (deviceId connectionId : Uuid) :
    RelayConnection → AppState C → Prop where
  | rx {userId : Uuid} (hEnabled : s.inner.enables userId deviceId) :
    Opens s deviceId connectionId
      ⟨userId, deviceId, connectionId, some (s.relay.register deviceId connectionId).1⟩
      { s with relay := (s.relay.register deviceId connectionId).2 }
  | tx {userId : Uuid} (hEnabled : s.inner.enables userId deviceId) :
    Opens s deviceId connectionId ⟨userId, deviceId, connectionId, none⟩ s

/-- A connection is opened for a device that its user has and that is enabled, or nothing
changes. -/
theorem relayWs_meets (env : Surroundings) (headers : Headers) (query : RelayWsQuery)
    (s : AppState C) :
    Meets (relayWs env headers query)
      (RelayConnection.Opens s query.deviceId (env.uuid 0)) (fun _ t => t = s) s := by
  simp only [relayWs, meets_bind, meets_ofExcept, meets_lock, assertRelayDeviceEnabled_eq_ok,
    implies_true, and_true]
  intro userId _ mode _ _ hEnabled
  cases mode with
  | rx => exact .rx hEnabled
  | tx => exact .tx hEnabled

end Connections

section Frames

def relayFrameMagic : List UInt8 := asBytes "KMR1"

def relayTargetDeviceIdLen : ℕ := 36

def relayClientFrameHeaderLen : ℕ := relayFrameMagic.length + relayTargetDeviceIdLen

/-- The bytes that may stand second in a character, behind the first. -/
def secondBytes (first : UInt8) : UInt8 × UInt8 :=
  if first = 0xE0 then (0xA0, 0xBF)
  else if first = 0xED then (0x80, 0x9F)
  else if first = 0xF0 then (0x90, 0xBF)
  else if first = 0xF4 then (0x80, 0x8F)
  else (0x80, 0xBF)

/-- The bytes begin a character that has more of them. -/
def beginsCharacter : List UInt8 → Bool
  | [first] => 0xC2 ≤ first ∧ first ≤ 0xF4
  | [first, second] =>
    0xE0 ≤ first ∧ first ≤ 0xF4 ∧ (secondBytes first).1 ≤ second ∧ second ≤ (secondBytes first).2
  | [first, second, third] =>
    0xF0 ≤ first ∧ first ≤ 0xF4 ∧ (secondBytes first).1 ≤ second ∧
      second ≤ (secondBytes first).2 ∧ 0x80 ≤ third ∧ third ≤ 0xBF
  | _ => false

/-- `impl Display for Utf8Error`: where the text ends to be valid, and how many bytes are invalid
there unless the text ends too early. -/
def utf8ErrorText (bytes : List UInt8) : String :=
  let validUpTo := ((List.range (bytes.length + 1)).reverse.find? fun n =>
    (String.fromUTF8? ⟨(bytes.take n).toArray⟩).isSome).getD 0
  let rest := bytes.drop validUpTo
  if beginsCharacter rest then s!"incomplete utf-8 byte sequence from index {validUpTo}"
  else
    let errorLen := ([3, 2].find? fun n => beginsCharacter (rest.take n)).getD 1
    s!"invalid utf-8 sequence of {errorLen} bytes from index {validUpTo}"

def parseRelayClientFrame [UuidText] (payload : List UInt8) :
    Except String (Uuid × List UInt8) :=
  if payload.length ≤ relayClientFrameHeaderLen then .error "relay frame is too short"
  else if payload.take relayFrameMagic.length ≠ relayFrameMagic then
    .error "relay frame has invalid magic"
  else
    let text := (payload.drop relayFrameMagic.length).take relayTargetDeviceIdLen
    match String.fromUTF8? ⟨text.toArray⟩ with
    | none => .error ("relay target device id is not utf8: " ++ utf8ErrorText text)
    | some targetDeviceId =>
      match UuidText.parseStr targetDeviceId with
      | .error error => .error ("relay target device id is not a uuid: " ++ error)
      | .ok targetDeviceId => .ok (targetDeviceId, payload.drop relayClientFrameHeaderLen)

/-- `map_err(|error| error.message)` -/
def relayDeviceEnabled (store : Store C) (userId deviceId : Uuid) : Except String Unit :=
  (assertRelayDeviceEnabled store userId deviceId).mapError (·.message)

def routeRelayClientFrame [UuidText] (userId sourceDeviceId : Uuid) (payload : List UInt8) :
    EStateM String (AppState C) Unit := do
  MonadExcept.ofExcept (relayDeviceEnabled (← get).inner userId sourceDeviceId)
  let (targetDeviceId, frame) ← MonadExcept.ofExcept (parseRelayClientFrame payload)
  MonadExcept.ofExcept (relayDeviceEnabled (← get).inner userId targetDeviceId)
  match (← get).relay.sendFrame targetDeviceId frame with
  | .ok relay => modify fun s => { s with relay }
  | .error error => throw ("relay route failed: " ++ error.debug)

theorem relayDeviceEnabled_eq_ok {store : Store C} {userId deviceId : Uuid} {u : Unit} :
    relayDeviceEnabled store userId deviceId = .ok u ↔ store.enables userId deviceId := by
  rw [← assertRelayDeviceEnabled_eq_ok (u := u), relayDeviceEnabled]
  cases assertRelayDeviceEnabled store userId deviceId with
  | ok u' => exact iff_of_true rfl rfl
  | error error => exact iff_of_false nofun nofun

/-- A frame is put on the channel of the peer that the hub has for its target, or nothing
changes. -/
theorem routeRelayClientFrame_meets [UuidText] (userId sourceDeviceId : Uuid)
    (payload : List UInt8) (s : AppState C) :
    Meets (routeRelayClientFrame userId sourceDeviceId payload)
      (fun _ t => s.inner.enables userId sourceDeviceId ∧ ∃ targetDeviceId frame peer,
        parseRelayClientFrame payload = .ok (targetDeviceId, frame) ∧
        s.inner.enables userId targetDeviceId ∧
        s.relay.peers.get? targetDeviceId = some peer ∧ s.relay.receives peer.tx = true ∧
        t = { s with relay := s.relay.put peer.tx frame })
      (fun _ t => t = s) s := by
  simp only [routeRelayClientFrame, meets_bind, meets_get, meets_ofExcept,
    relayDeviceEnabled_eq_ok, implies_true, and_true]
  rintro _ hSource ⟨targetDeviceId, frame⟩ hParse _ hTarget
  cases hSend : s.relay.sendFrame targetDeviceId frame with
  | ok hub =>
    obtain ⟨peer, hPeer, hOpen, rfl⟩ := RelayHub.sendFrame_eq_ok.mp hSend
    exact ⟨hSource, targetDeviceId, frame, peer, hParse, hTarget, hPeer, hOpen, rfl⟩
  | error error => exact rfl

end Frames

end Kmsync.Server
