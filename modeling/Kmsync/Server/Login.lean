import Kmsync.Server.Store

/-! Login by a code for an email address, and the tokens that a login yields. -/

namespace Kmsync.Server

open ProofKit

variable {C : Type} [UuidText]

omit [UuidText] in
def normalizeEmail (email : String) : Except ApiError String :=
  let email := toAsciiLowercase (trimmed email)
  -- `split_once('@')`: the domain is what is behind the first one.
  let name := email.toList.takeWhile (· ≠ '@')
  match email.toList.dropWhile (· ≠ '@') with
  | [] => .error (.badRequest "valid email is required")
  | _ :: domain =>
    if name = [] ∨ domain = [] ∨ '@' ∈ domain then
      .error (.badRequest "valid email is required")
    else .ok email

def newEmailLoginCode (id : Uuid) : String :=
  toAsciiUppercase (String.ofList ((UuidText.simple id).toList.take 8))

def emailLoginCodeTtlSeconds : UInt64 := 600

def newAccessToken (userId tokenId : Uuid) : String :=
  "auth-" ++ UuidText.display userId ++ "-" ++ UuidText.display tokenId

def newRefreshToken (userId tokenId : Uuid) : String :=
  "refresh-" ++ UuidText.display userId ++ "-" ++ UuidText.display tokenId

/-- What a request for a code answers, outside of tests. -/
structure EmailLoginStartResponse where
  email : String
  expiresAt : UInt64
  deriving DecidableEq

def startEmailLogin (env : Surroundings) (email : String) : Handler C EmailLoginStartResponse := do
  let email ← MonadExcept.ofExcept (normalizeEmail email)
  let challenge : EmailLoginChallenge :=
    ⟨newEmailLoginCode (env.uuid 0), saturatingAdd env.now emailLoginCodeTtlSeconds⟩
  modifyStore fun store =>
    { store with emailLoginCodes := store.emailLoginCodes.insert email challenge }
  saveLocked env
  return ⟨email, challenge.expiresAt⟩

structure LoginResponse where
  userId : Uuid
  accessToken : String
  refreshToken : String
  deriving DecidableEq

omit [UuidText] in
/-- `get_or_create_user`: the id of the user, and the users with it. -/
def getOrCreateUser (env : Surroundings) (users : HashMap Uuid User) (email : String) :
    Uuid × HashMap Uuid User :=
  match (users.values env.hash).find? (·.email = email) with
  | some user => (user.id, users)
  | none => (env.uuid 0, users.insert (env.uuid 0) ⟨env.uuid 0, email, env.now⟩)

/-- The store after a login. -/
def Store.loggedIn (store : Store C) (env : Surroundings) (email : String) : Store C :=
  let userId := (getOrCreateUser env store.users email).1
  { store with
    emailLoginCodes := store.emailLoginCodes.erase email
    users := (getOrCreateUser env store.users email).2
    sessions := store.sessions.insert (newAccessToken userId (env.uuid 1)) userId
    refreshTokens := store.refreshTokens.insert (newRefreshToken userId (env.uuid 2)) userId }

omit [UuidText] in
/-- The branch of `verify_email_login` in which the code has expired. -/
def dropExpiredCode (env : Surroundings) (email : String) : Handler C LoginResponse := do
  modifyStore fun store => { store with emailLoginCodes := store.emailLoginCodes.erase email }
  saveLocked env
  throw (.unauthorized "email code expired")

/-- The branch of `verify_email_login` in which the code has not expired. -/
def logIn (env : Surroundings) (email code : String) (challenge : EmailLoginChallenge) :
    Handler C LoginResponse := do
  refuseIf (toAsciiLowercase challenge.code ≠ toAsciiLowercase (trimmed code))
    (.unauthorized "invalid email code")
  let userId := (getOrCreateUser env (← lock).users email).1
  modifyStore fun store => store.loggedIn env email
  saveLocked env
  return ⟨userId, newAccessToken userId (env.uuid 1), newRefreshToken userId (env.uuid 2)⟩

def verifyEmailLogin (env : Surroundings) (email code : String) : Handler C LoginResponse := do
  let email ← MonadExcept.ofExcept (normalizeEmail email)
  let challenge ← orRefuse ((← lock).emailLoginCodes.get? email) (.unauthorized "invalid email code")
  if challenge.expiresAt < env.now then dropExpiredCode env email
  else logIn env email code challenge

def refreshAccessToken (env : Surroundings) (refreshToken : String) : Handler C String := do
  let userId ← orRefuse ((← lock).refreshTokens.get? refreshToken)
    (.unauthorized "invalid refresh token")
  let accessToken := newAccessToken userId (env.uuid 0)
  modifyStore fun store => { store with sessions := store.sessions.insert accessToken userId }
  saveLocked env
  return accessToken

omit [UuidText] in
def logout (env : Surroundings) (headers : Headers) (refreshToken : Option String) :
    Handler C Unit := do
  let token ← MonadExcept.ofExcept (bearerToken headers)
  refuseIf (token ∉ (← lock).sessions) (.unauthorized "invalid token")
  modifyStore fun store =>
    { store with
      sessions := store.sessions.erase token
      refreshTokens :=
        match refreshToken with
        | some refreshToken => store.refreshTokens.erase refreshToken
        | none => store.refreshTokens }
  saveLocked env

end Kmsync.Server
