import Kmsync.Server.Store

/-! Signal sessions, in which two devices agree on a connection, and the tokens for the relay. -/

namespace Kmsync.Server

open ProofKit

variable {C : Type}

section SignalSessions

def signalConnectRequest (env : Surroundings) (headers : Headers)
    (sourceDeviceId targetDeviceId : Uuid) : Handler C SignalSession := do
  let userId ← MonadExcept.ofExcept (authorizeOrDefault (← lock) headers)
  let store ← lock
  MonadExcept.ofExcept (assertDeviceOwner store userId sourceDeviceId)
  MonadExcept.ofExcept (assertDeviceOwner store userId targetDeviceId)
  let session : SignalSession :=
    ⟨env.uuid 0, userId, sourceDeviceId, targetDeviceId, "requested", [], env.now, none⟩
  modifyStore (·.putSignalSession session.id session)
  saveLocked env
  publishEvent (.signalSessionChanged userId session)
  return session

/-- The session of a user. -/
def signalSession (store : Store C) (userId sessionId : Uuid) : Except ApiError SignalSession :=
  match store.signalSessions.get? sessionId with
  | some session =>
    if session.userId = userId then .ok session
    else .error (.notFound "signal session not found")
  | none => .error (.notFound "signal session not found")

theorem signalSession_eq_ok {store : Store C} {userId sessionId : Uuid} {session : SignalSession} :
    signalSession store userId sessionId = .ok session ↔
      store.signalSessions.get? sessionId = some session ∧ session.userId = userId := by
  unfold signalSession
  cases store.signalSessions.get? sessionId with
  | none => simp
  | some found =>
    simp only [Option.some.injEq]
    split
    next hUser =>
      refine ⟨fun hEq => ?_, fun hEq => ?_⟩
      · obtain rfl := Except.ok.inj hEq
        exact ⟨rfl, hUser⟩
      · rw [hEq.1]
    next hUser =>
      refine iff_of_false nofun ?_
      rintro ⟨rfl, hEq⟩
      exact hUser hEq

/-- The end of the handlers that change a session. -/
def putSignalSession (env : Surroundings) (userId sessionId : Uuid) (session : SignalSession) :
    Handler C SignalSession := do
  modifyStore (·.putSignalSession sessionId session)
  saveLocked env
  publishEvent (.signalSessionChanged userId session)
  return session

def SignalSession.withStatus (session : SignalSession) (status : String) (now : UInt64) :
    SignalSession :=
  { session with status, closedAt := if status = "closed" then some now else session.closedAt }

def updateSignalSessionStatus (env : Surroundings) (headers : Headers) (sessionId : Uuid)
    (status : String) : Handler C SignalSession := do
  let userId ← MonadExcept.ofExcept (authorizeOrDefault (← lock) headers)
  let session ← MonadExcept.ofExcept (signalSession (← lock) userId sessionId)
  putSignalSession env userId sessionId (session.withStatus status env.now)

def signalConnectAccept (env : Surroundings) (headers : Headers) (sessionId : Uuid) :
    Handler C SignalSession :=
  updateSignalSessionStatus env headers sessionId "accepted"

def signalConnectReject (env : Surroundings) (headers : Headers) (sessionId : Uuid) :
    Handler C SignalSession :=
  updateSignalSessionStatus env headers sessionId "rejected"

def signalSessionClose (env : Surroundings) (headers : Headers) (sessionId : Uuid) :
    Handler C SignalSession :=
  updateSignalSessionStatus env headers sessionId "closed"

/-- One more candidate; those of higher priority stand first. -/
def SignalSession.withCandidate (session : SignalSession) (candidate : SignalCandidate) :
    SignalSession :=
  { session with
    candidates :=
      (session.candidates ++ [candidate]).insertionSort fun a b => b.priority ≤ a.priority }

def signalCandidateAdd (env : Surroundings) (headers : Headers) (sessionId : Uuid)
    (candidate : SignalCandidate) : Handler C SignalSession := do
  let userId ← MonadExcept.ofExcept (authorizeOrDefault (← lock) headers)
  let session ← MonadExcept.ofExcept (signalSession (← lock) userId sessionId)
  refuseIf (trimmed candidate.transport = "" ∨ trimmed candidate.address = "")
    (.badRequest "candidate transport and address are required")
  putSignalSession env userId sessionId (session.withCandidate candidate)

end SignalSessions

section RelayTokens

variable [UuidText]

def scheduleRelayRegion (preferredRegion : Option String) : String :=
  match preferredRegion with
  | some "us-west" => "us-west"
  | some "eu-central" => "eu-central"
  | some "ap-southeast" => "ap-southeast"
  | _ => "us-west"

def relayUrlForRegion (region : String) : String :=
  match region with
  | "eu-central" => "relay://eu-central.relay.kmsync.local:443"
  | "ap-southeast" => "relay://ap-southeast.relay.kmsync.local:443"
  | _ => "relay://us-west.relay.kmsync.local:443"

structure RelayTokenRequest where
  sourceDeviceId : Uuid
  targetDeviceId : Uuid
  preferredRegion : Option String
  deriving DecidableEq

def RelayTokenRequest.record (request : RelayTokenRequest) (userId tokenId : Uuid)
    (now : UInt64) : RelayTokenRecord where
  token := "relay-" ++ UuidText.display userId ++ "-" ++ UuidText.display tokenId
  userId
  sourceDeviceId := request.sourceDeviceId
  targetDeviceId := request.targetDeviceId
  region := scheduleRelayRegion request.preferredRegion
  relayUrl := relayUrlForRegion (scheduleRelayRegion request.preferredRegion)
  expiresAt := saturatingAdd now 600

def issueRelayToken (env : Surroundings) (headers : Headers) (request : RelayTokenRequest) :
    Handler C RelayTokenRecord := do
  let userId ← MonadExcept.ofExcept (authorizeOrDefault (← lock) headers)
  let store ← lock
  MonadExcept.ofExcept (assertDeviceOwner store userId request.sourceDeviceId)
  MonadExcept.ofExcept (assertDeviceOwner store userId request.targetDeviceId)
  let record := request.record userId (env.uuid 0) env.now
  modifyStore fun store =>
    { store with relayTokens := store.relayTokens.insert record.token record }
  saveLocked env
  return record

end RelayTokens

end Kmsync.Server
