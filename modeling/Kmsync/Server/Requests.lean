import Kmsync.Server.Deletion
import Kmsync.Server.Login
import Kmsync.Server.Profiles
import Kmsync.Server.Signals
import Kmsync.ProofKit.Calls

/-! The requests that the server answers, and the few ways in which they change the store. -/

namespace Kmsync.Server

open ProofKit

inductive Request (C : Type) where
  | startEmailLogin (email : String)
  | verifyEmailLogin (email code : String)
  | refreshAccessToken (refreshToken : String)
  | logout (headers : Headers) (refreshToken : Option String)
  | issueRelayToken (headers : Headers) (request : RelayTokenRequest)
  | signalConnectRequest (headers : Headers) (sourceDeviceId targetDeviceId : Uuid)
  | signalConnectAccept (headers : Headers) (sessionId : Uuid)
  | signalConnectReject (headers : Headers) (sessionId : Uuid)
  | signalSessionClose (headers : Headers) (sessionId : Uuid)
  | signalCandidateAdd (headers : Headers) (sessionId : Uuid) (candidate : SignalCandidate)
  | registerDevice (headers : Headers) (request : RegisterDeviceRequest)
  | listDevices (headers : Headers)
  | updateDevice (headers : Headers) (deviceId : Uuid) (request : UpdateDeviceRequest)
  | reauthorizeDevice (headers : Headers) (deviceId : Uuid) (request : ReauthorizeDeviceRequest)
  | deleteDevice (headers : Headers) (deviceId : Uuid)
  | heartbeat (headers : Headers) (publicIp : String) (deviceId : Uuid) (request : HeartbeatRequest)
  | markDeviceOffline (headers : Headers) (deviceId : Uuid)
  | getTopology (headers : Headers)
  | upsertTopology (headers : Headers) (request : UpsertTopologyRequest)
  | upsertProfile (headers : Headers) (request : UpsertProfileRequest C)
  | rollbackProfile (headers : Headers) (request : RollbackProfileRequest)
  | listProfiles (headers : Headers)
  | listProfileChanges (headers : Headers) (sinceRevision : Option UInt64)
  deriving DecidableEq

inductive Response (C : Type) where
  | loginStarted (response : EmailLoginStartResponse)
  | loggedIn (response : LoginResponse)
  | accessToken (token : String)
  | loggedOut
  | relayToken (record : RelayTokenRecord)
  | signalSession (session : SignalSession)
  | registered (deviceId : Uuid)
  | devices (devices : List DeviceWithPresence)
  | device (device : Device)
  | deleted
  | presence (response : HeartbeatResponse)
  | topology (topology : Topology)
  | profile (profile : DeviceProfile C)
  | profiles (profiles : List (DeviceProfile C))
  | profileChanges (response : ProfileChangesResponse C)
  deriving DecidableEq

/-- The profiles that a client is given. -/
def Response.returned {C : Type} : Response C → List (DeviceProfile C)
  | .profile returned => [returned]
  | .profiles returned => returned
  | .profileChanges changes => changes.profiles
  | _ => []

variable {C : Type} [UuidText]

/-- The routes of `build_app`. -/
def handle (env : Surroundings) : Request C → Handler C (Response C)
  | .startEmailLogin email => return .loginStarted (← startEmailLogin env email)
  | .verifyEmailLogin email code => return .loggedIn (← verifyEmailLogin env email code)
  | .refreshAccessToken refreshToken => return .accessToken (← refreshAccessToken env refreshToken)
  | .logout headers refreshToken => do
    logout env headers refreshToken
    return .loggedOut
  | .issueRelayToken headers request => return .relayToken (← issueRelayToken env headers request)
  | .signalConnectRequest headers sourceDeviceId targetDeviceId =>
    return .signalSession (← signalConnectRequest env headers sourceDeviceId targetDeviceId)
  | .signalConnectAccept headers sessionId =>
    return .signalSession (← signalConnectAccept env headers sessionId)
  | .signalConnectReject headers sessionId =>
    return .signalSession (← signalConnectReject env headers sessionId)
  | .signalSessionClose headers sessionId =>
    return .signalSession (← signalSessionClose env headers sessionId)
  | .signalCandidateAdd headers sessionId candidate =>
    return .signalSession (← signalCandidateAdd env headers sessionId candidate)
  | .registerDevice headers request => return .registered (← registerDevice env headers request)
  | .listDevices headers => return .devices (← listDevices env headers)
  | .updateDevice headers deviceId request =>
    return .device (← updateDevice env headers deviceId request)
  | .reauthorizeDevice headers deviceId request =>
    return .device (← reauthorizeDevice env headers deviceId request)
  | .deleteDevice headers deviceId => do
    deleteDevice env headers deviceId
    return .deleted
  | .heartbeat headers publicIp deviceId request =>
    return .presence (← heartbeat env headers publicIp deviceId request)
  | .markDeviceOffline headers deviceId =>
    return .presence (← markDeviceOffline env headers deviceId)
  | .getTopology headers => return .topology (← getTopology headers)
  | .upsertTopology headers request => return .topology (← upsertTopology env headers request)
  | .upsertProfile headers request => return .profile (← upsertProfile env headers request)
  | .rollbackProfile headers request => return .profile (← rollbackProfile env headers request)
  | .listProfiles headers => return .profiles (← listProfiles env headers)
  | .listProfileChanges headers sinceRevision =>
    return .profileChanges (← listProfileChanges env headers sinceRevision)

attribute [simp] handle

end Kmsync.Server
