import Kmsync.Core.RoundTrip

/-! The sender of a relay connection.  A frame goes to the server as one binary message; unless it
is on the unreliable lane the sender then waits for the text that acknowledges it. -/

namespace Kmsync

/-- A message of a websocket; raw frames are never read. -/
inductive WebSocketMessage where
  | text (text : String)
  | binary (payload : List UInt8)
  | ping (payload : List UInt8)
  | pong (payload : List UInt8)
  | close
  deriving DecidableEq

namespace WebSocketMessage

def text? : WebSocketMessage → Option String
  | .text content => some content
  | _ => none

def payload? : WebSocketMessage → Option (List UInt8)
  | .binary content => some content
  | _ => none

/-- Pings, pongs and the end of the connection, which may come at any time. -/
def isControl : WebSocketMessage → Bool
  | .ping _ | .pong _ | .close => true
  | .text _ | .binary _ => false

end WebSocketMessage

namespace Client

section Frames

def relayFrameMagic : List UInt8 := asBytes "KMR1"

def relayTargetDeviceIdLen : ℕ := 36

def relaySendAckOk : String := "relay_ok"

def relaySendErrorPrefix : String := "relay_error="

/-- The message for a frame to a device. -/
def relayClientFrame (targetDeviceId : String) (frame : ProtocolFrame) : List UInt8 :=
  relayFrameMagic ++ asBytes targetDeviceId ++ frame.encodeVec

def encodeRelayClientFrame (targetDeviceId : String) (frame : ProtocolFrame) :
    Except String (List UInt8) :=
  if targetDeviceId.utf8ByteSize ≠ relayTargetDeviceIdLen then
    .error ("relay target device id must be a UUID string, got '" ++ targetDeviceId ++ "'")
  else .ok (relayClientFrame targetDeviceId frame)

def relayFrameRequiresSendAck (frame : ProtocolFrame) : Bool :=
  frame.payload.transportLane ≠ .inputUnreliable

def relaySendAckResult (message : String) : Except String Unit :=
  if message = relaySendAckOk then .ok ()
  else
    match message.toList.dropPrefix? relaySendErrorPrefix.toList with
    | some error => .error (String.ofList error)
    | none => .error ("unexpected relay send ack: " ++ message)

end Frames

section Acks

/-- The stream under a socket.  A plain one has a read timeout, which can be set or not. -/
inductive MaybeTlsStream where
  | plain (setReadTimeout : Except String Unit)
  | other
  deriving DecidableEq

def setRelaySocketReadTimeout : MaybeTlsStream → Except String Unit
  | .plain (.ok ()) => .ok ()
  | .plain (.error error) => .error ("failed to configure relay ack timeout: " ++ error)
  | .other => .error "relay ack timeout is unsupported for this websocket stream"

/-- What reading from a socket comes to. -/
inductive SocketRead where
  | message (message : WebSocketMessage)
  | timedOut
  | failed (error : String)
  deriving DecidableEq

/-- One turn of the loop of `read_send_ack`, which goes on if there is no result; a ping is answered
with a pong, whose sending comes to `pong`. -/
def readSendAckTurn (pong : Except String Unit) : SocketRead → Option (Except String Unit)
  | .message (.text text) => some (relaySendAckResult text)
  | .message (.ping _) =>
    match pong with
    | .ok () => none
    | .error error => some (.error ("failed to respond relay ping: " ++ error))
  | .message .close => some (.error "relay websocket closed while waiting for send ack")
  | .message (.binary _) | .message (.pong _) => none
  | .timedOut => some (.error "timed out waiting for relay send ack")
  | .failed error => some (.error ("failed to read relay send ack: " ++ error))

/-- The end of `read_send_ack`, where the timeout is taken back. -/
def readSendAckEnd (ackResult : Except String Unit) (stream : MaybeTlsStream) :
    Except String Unit :=
  match ackResult, setRelaySocketReadTimeout stream with
  | .ok (), .error error => .error error
  | result, _ => result

/-- What `send_frame` answers when the connection fails it or is too slow. -/
inductive TransportError : String → Prop where
  | send (error : String) : TransportError ("failed to send relay frame: " ++ error)
  | configure (error : String) :
    TransportError ("failed to configure relay ack timeout: " ++ error)
  | unsupported : TransportError "relay ack timeout is unsupported for this websocket stream"
  | pong (error : String) : TransportError ("failed to respond relay ping: " ++ error)
  | closed : TransportError "relay websocket closed while waiting for send ack"
  | timedOut : TransportError "timed out waiting for relay send ack"
  | read (error : String) : TransportError ("failed to read relay send ack: " ++ error)

theorem TransportError.of_stream {stream : MaybeTlsStream} {error : String}
    (h : setRelaySocketReadTimeout stream = .error error) : TransportError error := by
  cases stream with
  | plain result =>
    cases result with
    | ok => contradiction
    | error reason =>
      obtain rfl := Except.error.inj h
      exact .configure reason
  | other =>
    obtain rfl := Except.error.inj h
    exact .unsupported

/-- A turn that ends the loop reads a text, or the connection has failed. -/
theorem readSendAckTurn_eq_some {pong : Except String Unit} {read : SocketRead}
    {result : Except String Unit} (h : readSendAckTurn pong read = some result) :
    (∃ text, read = .message (.text text) ∧ result = relaySendAckResult text) ∨
      ∃ error, result = .error error ∧ TransportError error := by
  cases read with
  | message message =>
    cases message with
    | text text => exact .inl ⟨text, rfl, (Option.some.inj h).symm⟩
    | ping payload =>
      cases pong with
      | ok => contradiction
      | error error => exact .inr ⟨_, (Option.some.inj h).symm, .pong error⟩
    | close => exact .inr ⟨_, (Option.some.inj h).symm, .closed⟩
    | binary => contradiction
    | pong => contradiction
  | timedOut => exact .inr ⟨_, (Option.some.inj h).symm, .timedOut⟩
  | failed error => exact .inr ⟨_, (Option.some.inj h).symm, .read error⟩

/-- The result stands, unless it is a success and the timeout cannot be taken back. -/
theorem readSendAckEnd_cases (result : Except String Unit) (stream : MaybeTlsStream) :
    readSendAckEnd result stream = result ∨
      ∃ error, readSendAckEnd result stream = .error error ∧ TransportError error := by
  rcases result with error | ⟨⟩
  · exact .inl rfl
  · unfold readSendAckEnd
    cases hStream : setRelaySocketReadTimeout stream with
    | ok => exact .inl rfl
    | error error => exact .inr ⟨error, rfl, .of_stream hStream⟩

end Acks

end Client

end Kmsync
