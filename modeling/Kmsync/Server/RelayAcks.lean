import Kmsync.DataPlane.Security
import Kmsync.ProofKit.Calls
import Kmsync.ProofKit.Exchange
import Kmsync.ProofKit.Transition
import Kmsync.Server.Relay
import Kmsync.Server.UuidText
import Kmsync.Transmit.RelaySender
import Mathlib.Logic.Relation

/-! Acknowledgements of the relay.  The sender decides by the frame whether it waits for one, and
the server by the bytes whether it sends one; what the sender is told of a frame is what came of
routing that frame. -/

namespace Kmsync.Server

open ProofKit
open Client (relayClientFrame relayFrameRequiresSendAck relaySendAckResult relaySendErrorPrefix)

variable {C : Type} [UuidText]

section Acks

def relayRouteAckOk : String := "relay_ok"

def relayRouteErrorPrefix : String := "relay_error="

def relayRouteAckMessage : Except String Unit → String
  | .ok () => relayRouteAckOk
  | .error error => relayRouteErrorPrefix ++ error

def relayClientFrameRequiresAck (payload : List UInt8) : Except String Bool := do
  let (_, frame) ← parseRelayClientFrame payload
  match ProtocolFrame.decode frame with
  | .ok frame => return frame.payload.transportLane ≠ .inputUnreliable
  | .error (.error error) => throw ("relay protocol frame is invalid: " ++ error.debug)
  -- `decode` never panics
  | .error .panic => throw "relay protocol frame is invalid"

/-- Whether the connection goes on, and what is sent on it; `writes` says whether sending
succeeds. -/
def handleRelaySocketMessage (userId sourceDeviceId : Uuid)
    (incoming : Option (Except String WebSocketMessage)) (writes : Bool) (s : AppState C) :
    (Bool × Option WebSocketMessage) × AppState C :=
  match incoming with
  | some (.ok (.binary payload)) =>
    let requiresAck := (relayClientFrameRequiresAck payload).toOption.getD true
    let route := routeRelayClientFrame userId sourceDeviceId payload
    let ack := relayRouteAckMessage (answer route s)
    (if requiresAck then (writes, if writes then some (.text ack) else none) else (true, none),
      stateAfter route s)
  | some (.ok (.ping payload)) => ((writes, if writes then some (.pong payload) else none), s)
  | some (.ok .close) | none => ((false, none), s)
  | some (.ok (.text _)) | some (.ok (.pong _)) => ((true, none), s)
  | some (.error _) => ((false, none), s)

/-- A frame that is read back as it was written, to a device that is named by a UUID of 36 bytes. -/
structure Sendable (call : String × ProtocolFrame) : Prop where
  size : call.1.utf8ByteSize = Client.relayTargetDeviceIdLen
  uuid : ∃ targetDeviceId, UuidText.parseStr call.1 = .ok targetDeviceId
  decodes : ProtocolFrame.decode call.2.encodeVec = .ok call.2

/-- The message for a frame. -/
def messageOf (call : String × ProtocolFrame) : List UInt8 := relayClientFrame call.1 call.2

variable {call : String × ProtocolFrame}

theorem Sendable.parse (h : Sendable call) : ∃ targetDeviceId,
    parseRelayClientFrame (messageOf call) = .ok (targetDeviceId, call.2.encodeVec) := by
  obtain ⟨target, frame⟩ := call
  obtain ⟨targetDeviceId, hUuid⟩ := h.uuid
  refine ⟨targetDeviceId, ?_⟩
  have hTarget : (asBytes target).length = relayTargetDeviceIdLen := h.size
  have hFrame : frame.encodeVec.length ≠ 0 := by
    intro hEmpty
    have hDecodes := h.decodes
    rw [List.length_eq_zero_iff.mp hEmpty] at hDecodes
    contradiction
  have hHeader : (relayFrameMagic ++ asBytes target).length = relayClientFrameHeaderLen := by
    rw [List.length_append, hTarget]
    rfl
  have hText : String.fromUTF8? ⟨(asBytes target).toArray⟩ = some target := by
    rw [show (⟨(asBytes target).toArray⟩ : ByteArray) = target.toByteArray from rfl,
      String.fromUTF8?, dif_pos target.isValidUTF8]
    rfl
  have hMessage : messageOf (target, frame) =
      relayFrameMagic ++ (asBytes target ++ frame.encodeVec) := List.append_assoc _ _ _
  have hRest : (messageOf (target, frame)).drop relayClientFrameHeaderLen = frame.encodeVec :=
    List.drop_left' hHeader
  have hLength : (messageOf (target, frame)).length =
      relayClientFrameHeaderLen + frame.encodeVec.length := by
    rw [messageOf, relayClientFrame, List.length_append]
    exact congrArg (· + frame.encodeVec.length) hHeader
  rw [parseRelayClientFrame, if_neg (by omega), hRest, hMessage, List.take_left, if_neg (by simp),
    List.drop_left, List.take_left' hTarget]
  simp only [hText, hUuid]

/-- The server acknowledges the frames for which the sender waits. -/
theorem Sendable.requiresAck (h : Sendable call) :
    relayClientFrameRequiresAck (messageOf call) = .ok (relayFrameRequiresSendAck call.2) := by
  obtain ⟨targetDeviceId, hParse⟩ := h.parse
  unfold relayClientFrameRequiresAck
  rw [hParse]
  show (match ProtocolFrame.decode call.2.encodeVec with
    | .ok frame => _
    | .error (.error error) => _
    | .error .panic => _ : Except String Bool) = _
  rw [h.decodes]
  rfl

omit [UuidText] in
/-- The text that the server sends is read as what came of routing the frame. -/
theorem relaySendAckResult_relayRouteAckMessage (result : Except String Unit) :
    relaySendAckResult (relayRouteAckMessage result) = result := by
  cases result with
  | ok => rfl
  | error error =>
    have hChars : (relayRouteErrorPrefix ++ error).toList =
        relaySendErrorPrefix.toList ++ error.toList := String.toList_append
    have hNe : relayRouteErrorPrefix ++ error ≠ Client.relaySendAckOk := by
      intro hEq
      have hLetters := congrArg (fun text => text.toList.take 8) hEq
      rw [hChars, List.take_append_of_le_length (by decide)] at hLetters
      exact absurd hLetters (by decide)
    rw [relaySendAckResult, relayRouteAckMessage, if_neg hNe, hChars,
      List.dropPrefix?_append_of_beq _ (beq_self_eq_true _)]
    exact congrArg Except.error String.ofList_toList

end Acks

section Connection

/-- A call of `send_frame`: the device and the frame. -/
abbrev SendCall := String × ProtocolFrame

/-- A connection on which frames are sent, with its two queues, the rest of the server, and what has
happened. -/
structure RelayTx (C : Type) where
  sender : Asker SendCall
  toServer : List WebSocketMessage
  toClient : List WebSocketMessage
  app : AppState C
  /-- `stream_relay` has not ended -/
  serving : Bool
  /-- the frames that were put on the connection -/
  sent : List SendCall
  /-- the messages that the server has handled, while the connection lasted, with what came of
  routing them -/
  routed : List (List UInt8 × Except String Unit)
  acks : List String
  /-- what `send_frame` has returned -/
  returned : List (SendCall × Except String Unit)

inductive RelayTxEvent (C : Type) where
  /-- `send_frame` is called; writing to the socket comes to `write` -/
  | send (call : SendCall) (write : Except String Unit) (stream : Client.MaybeTlsStream)
  /-- the sender reads the next message -/
  | read (pong : Except String Unit) (stream : Client.MaybeTlsStream)
  /-- reading fails with an error, or without one by the timeout -/
  | readFails (error : Option String) (stream : Client.MaybeTlsStream)
  /-- the server takes the next message; `writes` says whether sending succeeds -/
  | serve (writes : Bool)
  | disconnect (error : Option String)
  | controlToServer (message : WebSocketMessage)
  | controlToClient (message : WebSocketMessage)
  /-- other requests and connections -/
  | change (app : AppState C)

/-- What is sent is sendable. -/
def RelayTxEvent.Sends : RelayTxEvent C → Prop
  | .send call _ _ => Sendable call
  | _ => True

namespace RelayTx

def start (app : AppState C) : RelayTx C := ⟨.idle, [], [], app, true, [], [], [], []⟩

/-- `send_frame` returns, and the caller drops the sender if that is an error. -/
def returns (s : RelayTx C) (call : SendCall) (result : Except String Unit) : RelayTx C :=
  { s with
    sender := if result.isOk then .idle else .gone
    returned := s.returned ++ [(call, result)] }

def sendFrame (s : RelayTx C) (call : SendCall) (write : Except String Unit)
    (stream : Client.MaybeTlsStream) : RelayTx C :=
  match Client.encodeRelayClientFrame call.1 call.2 with
  | .error error => s.returns call (.error error)
  | .ok payload =>
    match write with
    | .error error => s.returns call (.error ("failed to send relay frame: " ++ error))
    | .ok () =>
      let s := { s with
        toServer := s.toServer ++ [WebSocketMessage.binary payload]
        sent := s.sent ++ [call] }
      if relayFrameRequiresSendAck call.2 then
        match Client.setRelaySocketReadTimeout stream with
        | .error error => s.returns call (.error error)
        | .ok () => { s with sender := .waiting call }
      else s.returns call (.ok ())

/-- One turn of `read_send_ack`. -/
def readTurn (s : RelayTx C) (call : SendCall) (pong : Except String Unit)
    (read : Client.SocketRead) (stream : Client.MaybeTlsStream) : RelayTx C :=
  match Client.readSendAckTurn pong read with
  | none => s
  | some ackResult => s.returns call (Client.readSendAckEnd ackResult stream)

/-- The pong that a message is answered with. -/
def pongTo (message : WebSocketMessage) (pong : Except String Unit) : List WebSocketMessage :=
  match message, pong with
  | .ping payload, .ok () => [.pong payload]
  | _, _ => []

variable (userId sourceDeviceId : Uuid)

/-- What routing a message comes to. -/
def routedNow (s : RelayTx C) (message : WebSocketMessage) :
    List (List UInt8 × Except String Unit) :=
  message.payload?.toList.map fun payload =>
    (payload, answer (routeRelayClientFrame userId sourceDeviceId payload) s.app)

/-- The server handles a message, or learns that there are no more. -/
def handled (s : RelayTx C) (incoming : Option (Except String WebSocketMessage)) (writes : Bool) :
    RelayTx C :=
  let ((goesOn, reply), app) :=
    handleRelaySocketMessage userId sourceDeviceId incoming writes s.app
  { s with
    app
    serving := goesOn
    toClient := s.toClient ++ reply.toList
    acks := s.acks ++ reply.toList.filterMap WebSocketMessage.text? }

def step (s : RelayTx C) : RelayTxEvent C → Option (RelayTx C)
  | .send call write stream =>
    if s.sender = .idle then some (s.sendFrame call write stream) else none
  | .read pong stream =>
    match s.sender, s.toClient with
    | .waiting call, message :: rest =>
      some <| { s with toClient := rest, toServer := s.toServer ++ pongTo message pong }.readTurn
        call pong (.message message) stream
    | _, _ => none
  | .readFails error stream =>
    match s.sender with
    | .waiting call => some (s.readTurn call (.ok ()) (error.elim .timedOut .failed) stream)
    | _ => none
  | .serve writes =>
    match s.serving, s.toServer with
    | true, message :: rest =>
      let t := { s with toServer := rest }.handled userId sourceDeviceId (some (.ok message)) writes
      some { t with
        routed := t.routed ++ if t.serving then s.routedNow userId sourceDeviceId message else [] }
    | _, _ => none
  | .disconnect error =>
    if s.serving then some (s.handled userId sourceDeviceId (error.map .error) true) else none
  | .controlToServer message =>
    if message.isControl then some { s with toServer := s.toServer ++ [message] } else none
  | .controlToClient message =>
    if message.isControl then some { s with toClient := s.toClient ++ [message] } else none
  | .change app => some { s with app }

end RelayTx

/-- The sender waits for what comes of the frame. -/
def waits (call : SendCall) : Bool := relayFrameRequiresSendAck call.2

def texts (messages : List WebSocketMessage) : List String :=
  messages.filterMap WebSocketMessage.text?

def payloads (messages : List WebSocketMessage) : List (List UInt8) :=
  messages.filterMap WebSocketMessage.payload?

/-- What a connection does for its frames. -/
structure AcksAligned (t : RelayTx C) : Prop where
  /-- The frames are handled in the order in which they are sent. -/
  inOrder : t.routed.map (·.1) <+: t.sent.map messageOf
  /-- There is one text for each frame whose sender waits, in the same order, and no other. -/
  acks : t.acks = (Exchange.repliesTo waits t.sent (t.routed.map (·.2))).map relayRouteAckMessage
  /-- What is returned for such a frame came of routing it, unless the connection failed. -/
  results : ∀ (i : ℕ) call result, t.returned[i]? = some (call, result) → waits call = true →
    (∃ error, result = .error error ∧ Client.TransportError error) ∨
      t.sent[i]? = some call ∧ t.routed[i]? = some (messageOf call, result)
  /-- No text is left after a success, and none is to come. -/
  settled : ∀ call, t.returned.getLast? = some (call, .ok ()) → (∀ next, t.sender ≠ .waiting next) →
    texts t.toClient = [] ∧
      (t.serving = true → ∀ payload ∈ payloads t.toServer,
        relayClientFrameRequiresAck payload = .ok false)

/-- What `send_frame` returns for what comes of a request. -/
inductive Tells :
    SendCall × Except String Unit → SendCall × Fate (Except String Unit) → Prop where
  | told (call : SendCall) : Tells (call, .ok ()) (call, .told)
  | replied (call : SendCall) (result : Except String Unit) :
    Tells (call, result) (call, .replied result)
  | lost (call : SendCall) {error : String} (hError : Client.TransportError error) :
    Tells (call, .error error) (call, .lost)

/-- The connection as an exchange of requests and replies. -/
structure Simulates (s : RelayTx C) (e : Exchange SendCall (Except String Unit)) : Prop where
  sent : e.sent = s.sent
  asker : e.asker = s.sender
  handled : e.handled = s.routed.map (·.2)
  acks : s.acks = e.replies.map relayRouteAckMessage
  sendable : ∀ call ∈ s.sent, Sendable call
  inOrder : s.routed.map (·.1) = (s.sent.take s.routed.length).map messageOf
  pending : s.serving = true →
    payloads s.toServer = (s.sent.drop s.routed.length).map messageOf
  inFlight : s.sender ≠ .gone → texts s.toClient = e.inFlight.map relayRouteAckMessage
  returned : List.Forall₂ Tells s.returned e.returned
  last : s.sender = .gone → ∀ call, s.returned.getLast? ≠ some (call, .ok ())

variable {s t : RelayTx C} {e : Exchange SendCall (Except String Unit)} {call : SendCall}

theorem simulates_start (app : AppState C) : Simulates (.start app) .start where
  sent := rfl
  asker := rfl
  handled := rfl
  acks := rfl
  sendable _ hMem := absurd hMem List.not_mem_nil
  inOrder := rfl
  pending _ := rfl
  inFlight _ := rfl
  returned := .nil
  last := nofun

/-- A call returns; if it fails, what its sender has not read does not matter any more. -/
theorem Simulates.returns (h : Simulates s e) {result : Except String Unit}
    {fate : Fate (Except String Unit)} (hTells : Tells (call, result) (call, fate))
    {toClient : List WebSocketMessage} {inFlight : List (Except String Unit)}
    (hFlight : result.isOk = true → texts toClient = inFlight.map relayRouteAckMessage) :
    Simulates ({ s with toClient }.returns call result)
      { e with
        asker := if result.isOk then .idle else .gone
        inFlight
        returned := e.returned ++ [(call, fate)] } where
  sent := h.sent
  asker := rfl
  handled := h.handled
  acks := h.acks
  sendable := h.sendable
  inOrder := h.inOrder
  pending := h.pending
  inFlight hStays := by
    refine hFlight ?_
    by_contra hError
    exact hStays (if_neg hError)
  returned := List.rel_append h.returned (.cons hTells .nil)
  last hGone other := by
    rw [RelayTx.returns, List.getLast?_concat]
    rintro hLast
    obtain ⟨rfl, rfl⟩ := Prod.mk.inj (Option.some.inj hLast)
    contradiction

theorem Simulates.routed_le (h : Simulates s e) (hAligned : e.Aligned waits) :
    s.routed.length ≤ s.sent.length := by
  have hLe := hAligned.handledLe
  rwa [h.handled, h.sent, List.length_map] at hLe

/-- A frame is put on the connection. -/
theorem Simulates.put (h : Simulates s e) (hAligned : e.Aligned waits) (hSendable : Sendable call) :
    Simulates { s with
      toServer := s.toServer ++ [WebSocketMessage.binary (messageOf call)]
      sent := s.sent ++ [call] } { e with sent := e.sent ++ [call] } where
  sent := congrArg (· ++ [call]) h.sent
  asker := h.asker
  handled := h.handled
  acks := h.acks
  sendable other hMem := by
    rcases List.mem_append.mp hMem with hOld | hNew
    · exact h.sendable other hOld
    · exact List.mem_singleton.mp hNew ▸ hSendable
  inOrder := by
    rw [List.take_append_of_le_length (h.routed_le hAligned)]
    exact h.inOrder
  pending hServing := by
    rw [List.drop_append_of_le_length (h.routed_le hAligned), List.map_append, ← h.pending hServing]
    exact List.filterMap_append
  inFlight := h.inFlight
  returned := h.returned
  last := h.last

/-- One step of the connection is some steps of the exchange. -/
def Matches (e : Exchange SendCall (Except String Unit)) (t : RelayTx C) : Prop :=
  ∃ e', Relation.ReflTransGen (Exchange.Step waits) e e' ∧ Simulates t e'

theorem Simulates.matches (h : Simulates t e) : Matches e t := ⟨e, .refl, h⟩

/-- The caller gives the call up. -/
theorem Simulates.lose (h : Simulates s e) (hAsker : s.sender = .idle ∨ s.sender = .waiting call)
    {error : String} (hError : Client.TransportError error) (toClient : List WebSocketMessage) :
    Matches e ({ s with toClient }.returns call (.error error)) :=
  ⟨_, .single (.lose call (h.asker ▸ hAsker)), h.returns (.lost call hError) nofun⟩

theorem Simulates.sendFrame (h : Simulates s e) (hAligned : e.Aligned waits)
    (hSendable : Sendable call) (hIdle : s.sender = .idle) (write : Except String Unit)
    (stream : Client.MaybeTlsStream) : Matches e (s.sendFrame call write stream) := by
  have hPut := h.put hAligned hSendable
  have hAsker : e.asker = .idle := h.asker.trans hIdle
  have hFlight := h.inFlight (by rw [hIdle]; nofun)
  rw [RelayTx.sendFrame, Client.encodeRelayClientFrame, if_neg (not_not.mpr hSendable.size)]
  rcases write with error | ⟨⟩
  · exact h.lose (.inl hIdle) (.send error) s.toClient
  · dsimp only
    split
    next hWaits =>
      have hAsk : Simulates { s with
          toServer := s.toServer ++ [WebSocketMessage.binary (messageOf call)]
          sent := s.sent ++ [call]
          sender := .waiting call } { e with sent := e.sent ++ [call], asker := .waiting call } :=
        { hPut with asker := rfl, inFlight := fun _ => hFlight, last := nofun }
      have hStep : Exchange.Step waits e
          { e with sent := e.sent ++ [call], asker := .waiting call } := .ask call hAsker hWaits
      cases hStream : Client.setRelaySocketReadTimeout stream with
      | ok => exact ⟨_, .single hStep, hAsk⟩
      | error error =>
        obtain ⟨e', hSteps, hLost⟩ := hAsk.lose (.inr rfl) (.of_stream hStream) s.toClient
        exact ⟨e', .head hStep hSteps, hLost⟩
    next hWaits =>
      have hStep : Exchange.Step waits e { e with
          asker := .idle, sent := e.sent ++ [call], returned := e.returned ++ [(call, .told)] } :=
        .tell call hAsker (eq_false_of_ne_true hWaits)
      exact ⟨_, .single hStep, hPut.returns (.told call) fun _ => hFlight⟩

/-- Control messages come and go. -/
theorem Simulates.control (h : Simulates s e) {toServer toClient : List WebSocketMessage}
    (hServer : payloads toServer = payloads s.toServer)
    (hClient : texts toClient = texts s.toClient) :
    Simulates { s with toServer, toClient } e :=
  { h with
    pending := fun hServing => hServer.trans (h.pending hServing)
    inFlight := fun hStays => hClient.trans (h.inFlight hStays) }

omit [UuidText] in
theorem payloads_pongTo (toServer : List WebSocketMessage) (message : WebSocketMessage)
    (pong : Except String Unit) :
    payloads (toServer ++ RelayTx.pongTo message pong) = payloads toServer := by
  have hPong : payloads (RelayTx.pongTo message pong) = [] := by
    cases message with
    | ping payload =>
      cases pong with
      | ok => rfl
      | error => rfl
    | _ => rfl
  exact List.filterMap_append.trans ((congrArg _ hPong).trans (List.append_nil _))

omit [UuidText] in
theorem texts_cons_of_turn {message : WebSocketMessage} {pong : Except String Unit}
    (h : Client.readSendAckTurn pong (.message message) = none) (rest : List WebSocketMessage) :
    texts (message :: rest) = texts rest := by
  cases message with
  | text => contradiction
  | _ => rfl

/-- The first reply on its way is that to the call. -/
theorem Simulates.inFlight_eq (h : Simulates s e) (hSender : s.sender = .waiting call)
    {content : String} {rest : List WebSocketMessage}
    (hQueue : s.toClient = .text content :: rest) :
    ∃ result replies, e.inFlight = result :: replies ∧ relaySendAckResult content = result ∧
      texts rest = replies.map relayRouteAckMessage := by
  have hFlight := h.inFlight (by rw [hSender]; nofun)
  rw [hQueue] at hFlight
  obtain ⟨result, replies, hEq, rfl, hRest⟩ := List.map_eq_cons_iff.mp hFlight.symm
  exact ⟨result, replies, hEq, relaySendAckResult_relayRouteAckMessage result, hRest.symm⟩

/-- The sender reads a message: one that it skips, the reply to its call, or the end. -/
theorem Simulates.readTurn (h : Simulates s e) (hSender : s.sender = .waiting call)
    (message : WebSocketMessage) {rest : List WebSocketMessage}
    (hQueue : s.toClient = message :: rest) (pong : Except String Unit)
    (stream : Client.MaybeTlsStream) :
    Matches e ({ s with
      toClient := rest, toServer := s.toServer ++ RelayTx.pongTo message pong }.readTurn
        call pong (.message message) stream) := by
  have hServer := payloads_pongTo s.toServer message pong
  rw [RelayTx.readTurn]
  cases hTurn : Client.readSendAckTurn pong (.message message) with
  | none =>
    refine (h.control hServer ?_).matches
    rw [hQueue, texts_cons_of_turn hTurn]
  | some ackResult =>
    have hPonged : Simulates { s with
        toServer := s.toServer ++ RelayTx.pongTo message pong, toClient := s.toClient } e :=
      h.control hServer rfl
    rcases Client.readSendAckTurn_eq_some hTurn with ⟨content, hText, rfl⟩ | ⟨error, rfl, hError⟩
    · obtain rfl := Client.SocketRead.message.inj hText
      obtain ⟨result, replies, hFlight, hResult, hRest⟩ := h.inFlight_eq hSender hQueue
      rw [hResult]
      dsimp only
      rcases Client.readSendAckEnd_cases result stream with hEnd | ⟨error, hEnd, hError⟩
      · rw [hEnd]
        have hAsker : (if result.isOk = true then .idle else .gone : Asker SendCall) = .idle ∨
            (if result.isOk = true then .idle else .gone : Asker SendCall) = .gone := by
          split
          next => exact .inl rfl
          next => exact .inr rfl
        exact ⟨_, .single (.receive call result replies _ (h.asker.trans hSender) hFlight hAsker),
          hPonged.returns (.replied call result) fun _ => hRest⟩
      · rw [hEnd]
        exact hPonged.lose (.inr hSender) hError rest
    · exact hPonged.lose (.inr hSender) hError rest

theorem Simulates.readFails (h : Simulates s e) (hSender : s.sender = .waiting call)
    (error : Option String) (stream : Client.MaybeTlsStream) :
    Matches e (s.readTurn call (.ok ()) (error.elim .timedOut .failed) stream) := by
  cases error with
  | none => exact h.lose (.inr hSender) .timedOut s.toClient
  | some error => exact h.lose (.inr hSender) (.read error) s.toClient

variable {userId sourceDeviceId : Uuid}

/-- A frame is handled, and its reply is sent if the sender waits. -/
theorem Simulates.handle (h : Simulates s e) {later : List SendCall}
    (hNext : s.sent.drop s.routed.length = call :: later)
    {toServer : List WebSocketMessage} (hServer : payloads toServer = later.map messageOf)
    (app : AppState C) (result : Except String Unit) (reply : List WebSocketMessage)
    (hReply : texts reply = if waits call then [relayRouteAckMessage result] else []) :
    Matches e { s with
      app
      serving := true
      toServer
      toClient := s.toClient ++ reply
      acks := s.acks ++ texts reply
      routed := s.routed ++ [(messageOf call, result)] } := by
  have hLt : s.routed.length < s.sent.length := by
    refine Nat.lt_of_not_le fun hLe => ?_
    rw [List.drop_eq_nil_of_le hLe] at hNext
    contradiction
  rw [List.drop_eq_getElem_cons hLt] at hNext
  obtain ⟨hGet, hLater⟩ := List.cons.inj hNext
  have hLength : e.handled.length = s.routed.length := by rw [h.handled, List.length_map]
  have hSent : e.sent[e.handled.length]? = some call := by
    rw [h.sent, hLength]
    exact List.getElem?_eq_some_iff.mpr ⟨hLt, hGet⟩
  have hTexts : texts reply = (if waits call then [result] else []).map relayRouteAckMessage := by
    rw [hReply]
    split
    next => rfl
    next => rfl
  refine ⟨_, .single (.handle call result hSent), ?_⟩
  constructor
  · exact h.sent
  · exact h.asker
  · rw [h.handled, List.map_append]
    rfl
  · exact (congrArg₂ (· ++ ·) h.acks hTexts).trans List.map_append.symm
  · exact h.sendable
  · rw [List.map_append, List.length_append, h.inOrder, List.length_singleton,
      List.take_succ_eq_append_getElem hLt, List.map_append, hGet]
    rfl
  · intro _
    rw [List.length_append, List.length_singleton, hLater]
    exact hServer
  · intro hStays
    exact (List.filterMap_append.trans (congrArg₂ (· ++ ·) (h.inFlight hStays) hTexts)).trans
      List.map_append.symm
  · exact h.returned
  · exact h.last

/-- The connection ends on the side of the server. -/
theorem Simulates.stops (h : Simulates s e) (app : AppState C) (toServer : List WebSocketMessage) :
    Simulates { s with app, toServer, serving := false } e :=
  { h with pending := nofun }

/-- The server takes a frame.  The connection may end with it, when the reply cannot be sent. -/
theorem Simulates.serveFrame (h : Simulates s e) (hServing : s.serving = true)
    {payload : List UInt8} {rest : List WebSocketMessage}
    (hQueue : s.toServer = .binary payload :: rest) (writes : Bool) {t : RelayTx C}
    (hStep : s.step userId sourceDeviceId (.serve writes) = some t) : Matches e t := by
  have hPending := h.pending hServing
  rw [hQueue] at hPending
  obtain ⟨call, later, hNext, rfl, hRest⟩ := List.map_eq_cons_iff.mp hPending.symm
  have hSendable : Sendable call := by
    refine h.sendable call (List.mem_of_mem_drop (i := s.routed.length) ?_)
    rw [hNext]
    exact List.mem_cons_self
  have hHandle (app : AppState C) : handleRelaySocketMessage userId sourceDeviceId
      (some (.ok (.binary (messageOf call)))) writes app =
        let route := routeRelayClientFrame userId sourceDeviceId (messageOf call)
        (if waits call then
          (writes, if writes then some (.text (relayRouteAckMessage (answer route app))) else none)
        else (true, none), stateAfter route app) := by
    rw [handleRelaySocketMessage, hSendable.requiresAck]
    rfl
  simp only [RelayTx.step, hServing, hQueue, RelayTx.handled, hHandle, Option.some.injEq] at hStep
  subst hStep
  cases hWaits : waits call with
  | false => exact h.handle hNext hRest.symm _ _ [] (by rw [hWaits]; rfl)
  | true =>
    cases writes with
    | true => exact h.handle hNext hRest.symm _ _ [.text _] (by rw [hWaits]; rfl)
    | false =>
      have hStops := h.stops
        (stateAfter (routeRelayClientFrame userId sourceDeviceId (messageOf call)) s.app) rest
      simpa using hStops.matches

/-- Another message is answered with a pong at most, and may end the connection. -/
theorem handleRelaySocketMessage_other (userId sourceDeviceId : Uuid)
    {message : WebSocketMessage} (h : message.payload? = none) (writes : Bool) (app : AppState C) :
    ∃ goesOn reply,
      handleRelaySocketMessage userId sourceDeviceId (some (.ok message)) writes app =
        ((goesOn, reply), app) ∧ texts reply.toList = [] := by
  cases message with
  | binary => contradiction
  | ping =>
    cases writes with
    | true => exact ⟨_, _, rfl, rfl⟩
    | false => exact ⟨_, _, rfl, rfl⟩
  | _ => exact ⟨_, _, rfl, rfl⟩

theorem Simulates.serveOther (h : Simulates s e) (hServing : s.serving = true)
    {message : WebSocketMessage} {rest : List WebSocketMessage}
    (hQueue : s.toServer = message :: rest) (hOther : message.payload? = none) (writes : Bool)
    {t : RelayTx C} (hStep : s.step userId sourceDeviceId (.serve writes) = some t) :
    Simulates t e := by
  obtain ⟨goesOn, reply, hHandle, hTexts⟩ :=
    handleRelaySocketMessage_other userId sourceDeviceId hOther writes s.app
  simp only [RelayTx.step, hServing, hQueue, RelayTx.handled, hHandle, Option.some.injEq] at hStep
  subst hStep
  have hServer : payloads rest = payloads s.toServer := by
    rw [hQueue]
    exact (List.filterMap_cons_none hOther).symm
  have hClient : texts (s.toClient ++ reply.toList) = texts s.toClient :=
    List.filterMap_append.trans ((congrArg _ hTexts).trans (List.append_nil _))
  have hControl := h.control hServer hClient
  have hNone : RelayTx.routedNow userId sourceDeviceId s message = [] := by
    rw [RelayTx.routedNow, hOther]
    rfl
  rw [hNone, ite_self, List.append_nil, show List.filterMap _ reply.toList = [] from hTexts,
    List.append_nil]
  cases goesOn with
  | true =>
    rw [hServing] at hControl
    exact hControl
  | false => exact hControl.stops s.app rest

theorem Simulates.step (h : Simulates s e) (hAligned : e.Aligned waits) {event : RelayTxEvent C}
    (hEvent : event.Sends) (hStep : s.step userId sourceDeviceId event = some t) : Matches e t := by
  cases event with
  | send call write stream =>
    obtain ⟨hIdle, hEq⟩ := Option.ite_none_right_eq_some.mp hStep
    obtain rfl := Option.some.inj hEq
    exact h.sendFrame hAligned hEvent hIdle write stream
  | read pong stream =>
    rw [RelayTx.step] at hStep
    split at hStep
    next call message rest hSender hQueue =>
      obtain rfl := Option.some.inj hStep
      exact h.readTurn hSender message hQueue pong stream
    next => contradiction
  | readFails error stream =>
    rw [RelayTx.step] at hStep
    split at hStep
    next call hSender =>
      obtain rfl := Option.some.inj hStep
      exact h.readFails hSender error stream
    next => contradiction
  | serve writes =>
    cases hServing : s.serving with
    | false =>
      rw [RelayTx.step, hServing] at hStep
      contradiction
    | true =>
      cases hQueue : s.toServer with
      | nil =>
        rw [RelayTx.step, hServing, hQueue] at hStep
        contradiction
      | cons message rest =>
        cases message with
        | binary payload => exact h.serveFrame hServing hQueue writes hStep
        | _ => exact (h.serveOther hServing hQueue rfl writes hStep).matches
  | disconnect error =>
    obtain ⟨-, hEq⟩ := Option.ite_none_right_eq_some.mp hStep
    obtain rfl := Option.some.inj hEq
    have hStops := (h.stops s.app s.toServer).matches
    cases error with
    | none => simpa [RelayTx.handled, handleRelaySocketMessage] using hStops
    | some error => simpa [RelayTx.handled, handleRelaySocketMessage] using hStops
  | controlToServer message =>
    obtain ⟨hControl, hEq⟩ := Option.ite_none_right_eq_some.mp hStep
    obtain rfl := Option.some.inj hEq
    refine (h.control ?_ rfl).matches
    cases message with
    | text | binary => contradiction
    | _ => exact List.filterMap_append.trans (List.append_nil _)
  | controlToClient message =>
    obtain ⟨hControl, hEq⟩ := Option.ite_none_right_eq_some.mp hStep
    obtain rfl := Option.some.inj hEq
    refine (h.control rfl ?_).matches
    cases message with
    | text | binary => contradiction
    | _ => exact List.filterMap_append.trans (List.append_nil _)
  | change app =>
    obtain rfl := Option.some.inj hStep
    exact (show Simulates { s with app } e from { h with }).matches

theorem AcksAligned.of_simulates (h : Simulates t e) (hAligned : e.Aligned waits) :
    AcksAligned t := by
  constructor
  · rw [h.inOrder, List.map_take]
    exact List.take_prefix _ _
  · rw [h.acks, hAligned.replies, h.sent, h.handled]
  · intro i call result hReturned hWaits
    obtain ⟨hLt, hGet⟩ := List.getElem?_eq_some_iff.mp hReturned
    have hLt' : i < e.returned.length := h.returned.length_eq ▸ hLt
    have hTells := h.returned.get hLt hLt'
    have hTold : e.returned[i]? = some (e.returned.get ⟨i, hLt'⟩) := List.getElem?_eq_getElem hLt'
    rw [show t.returned.get ⟨i, hLt⟩ = (call, result) from hGet] at hTells
    generalize e.returned.get ⟨i, hLt'⟩ = told at hTells hTold
    cases hTells with
    | told =>
      rw [hAligned.told call (List.mem_of_getElem? hTold)] at hWaits
      contradiction
    | replied =>
      obtain ⟨hSent, hHandled⟩ := hAligned.replied i call result hTold
      rw [h.sent] at hSent
      rw [h.handled, List.getElem?_map, Option.map_eq_some_iff] at hHandled
      obtain ⟨⟨payload, routed⟩, hRouted, rfl⟩ := hHandled
      have hPayload : (t.routed.map (·.1))[i]? = some payload := by
        rw [List.getElem?_map, hRouted]
        rfl
      have hShort := (List.getElem?_eq_some_iff.mp hRouted).1
      rw [h.inOrder, List.getElem?_map, List.getElem?_take_of_lt hShort, hSent] at hPayload
      obtain rfl := Option.some.inj hPayload
      exact .inr ⟨hSent, hRouted⟩
    | lost call hError => exact .inl ⟨_, rfl, hError⟩
  · intro call hLast hCall
    have hIdle : t.sender = .idle := by
      cases hSender : t.sender with
      | idle => rfl
      | waiting next => exact absurd hSender (hCall next)
      | gone => exact absurd hLast (h.last hSender call)
    obtain ⟨-, hFlight, hQuiet⟩ := hAligned.idle (h.asker.trans hIdle)
    refine ⟨?_, fun hServing payload hMem => ?_⟩
    · rw [h.inFlight (by rw [hIdle]; nofun), hFlight]
      rfl
    · rw [h.pending hServing] at hMem
      obtain ⟨next, hNext, rfl⟩ := List.mem_map.mp hMem
      rw [(h.sendable next (List.mem_of_mem_drop hNext)).requiresAck]
      rw [h.sent, h.handled, List.length_map] at hQuiet
      exact congrArg Except.ok (hQuiet next hNext)

/-- Whatever the order of the events, the acknowledgements of a connection stay in step with its
frames. -/
theorem relay_acks {app : AppState C} {events : List (RelayTxEvent C)}
    (hSends : ∀ event ∈ events, event.Sends)
    (hRun : run (RelayTx.step userId sourceDeviceId) (.start app) events = some t) :
    AcksAligned t := by
  have hInvariant : ∃ e, e.Aligned waits ∧ Simulates t e := by
    refine run_induction_along (C := fun _ event _ => event.Sends)
      (I := fun s _ => ∃ e, e.Aligned waits ∧ Simulates s e) ?_
      ⟨.start, Exchange.aligned_start, simulates_start app⟩ (along_of_forall hSends) hRun
    rintro s event - s' ⟨e, hAligned, hSimulates⟩ hEvent hStep
    obtain ⟨e', hSteps, hNext⟩ := hSimulates.step hAligned hEvent hStep
    exact ⟨e', hAligned.steps hSteps, hNext⟩
  obtain ⟨e, hAligned, hSimulates⟩ := hInvariant
  exact .of_simulates hSimulates hAligned

/-- A pointer move and a key, to device 20. -/
def sampleMove : SendCall :=
  ("00000000-0000-0000-0000-000000000014", ⟨1, 0, .input (.current 10 20 (.mouse (.move 0 0)))⟩)

def sampleKey : SendCall :=
  ("00000000-0000-0000-0000-000000000014",
    ⟨2, 0, .input (.current 10 20 (.key ⟨.c, .pressed, Modifiers.none⟩))⟩)

/-- Nobody waits for the move; the key is not routed, and its sender waits until it is told so. -/
def sampleEvents : List (RelayTxEvent Unit) :=
  [.send sampleMove (.ok ()) .other, .send sampleKey (.ok ()) (.plain (.ok ())),
    .controlToClient (.ping []), .serve true, .read (.ok ()) .other, .serve true,
    .read (.ok ()) (.plain (.ok ()))]

omit [UuidText] in
theorem relay_acks_key : ∃ t,
    run (@RelayTx.step Unit .hyphenated defaultUserId 10) (.start .start) sampleEvents = some t ∧
      t.acks = ["relay_error=device not found"] ∧
      t.returned = [(sampleMove, .ok ()), (sampleKey, .error "device not found")] ∧
      @AcksAligned Unit .hyphenated t := by
  let text := UuidText.hyphenated
  have hEnd : (run (RelayTx.step defaultUserId 10) (.start .start) sampleEvents).map
      (fun t => (t.acks, t.returned)) = some (["relay_error=device not found"],
        [(sampleMove, .ok ()), (sampleKey, .error "device not found")]) := by decide +kernel
  obtain ⟨t, hRun, hLogs⟩ := Option.map_eq_some_iff.mp hEnd
  obtain ⟨hAcks, hReturned⟩ := Prod.mk.inj hLogs
  have hMove : Sendable sampleMove := ⟨by decide, ⟨20, by decide +kernel⟩, by decide +kernel⟩
  have hKey : Sendable sampleKey := ⟨by decide, ⟨20, by decide +kernel⟩, by decide +kernel⟩
  have hSends : ∀ event ∈ sampleEvents, event.Sends := by
    simp only [sampleEvents, List.forall_mem_cons, List.not_mem_nil, IsEmpty.forall_iff,
      implies_true, and_true]
    exact ⟨hMove, hKey, trivial, trivial, trivial, trivial, trivial⟩
  exact ⟨t, hRun, hAcks, hReturned, relay_acks hSends hRun⟩

end Connection

end Kmsync.Server
