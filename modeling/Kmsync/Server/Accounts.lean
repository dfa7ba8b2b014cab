import Kmsync.Server.Effects
import Kmsync.Server.UuidText

/-! Logins and tokens over a run.  The tables of tokens, codes and users are determined by what the
calls of the run have answered. -/

namespace Kmsync.Server

open ProofKit

variable {C : Type}

section Steps

/-- The tables that a login reads and writes. -/
structure Accounts where
  users : HashMap Uuid User
  emailLoginCodes : HashMap String EmailLoginChallenge
  sessions : HashMap String Uuid
  refreshTokens : HashMap String Uuid

def Store.accounts (store : Store C) : Accounts :=
  ⟨store.users, store.emailLoginCodes, store.sessions, store.refreshTokens⟩

/-- The responses to the requests for codes and tokens. -/
def Response.isAccount : Response C → Bool
  | .loginStarted _ => true
  | .loggedIn _ => true
  | .accessToken _ => true
  | .loggedOut => true
  | _ => false

variable [UuidText]

/-- The challenge that a call makes. -/
def startedChallenge (env : Surroundings) : EmailLoginChallenge :=
  ⟨newEmailLoginCode (env.uuid 0), saturatingAdd env.now emailLoginCodeTtlSeconds⟩

/-- What a login answers. -/
def loginResponse (env : Surroundings) (userId : Uuid) : LoginResponse :=
  ⟨userId, newAccessToken userId (env.uuid 1), newRefreshToken userId (env.uuid 2)⟩

/-- What a request does to the accounts, if the store can be saved. -/
inductive AccountStep (env : Surroundings) (a : Accounts) :
    Request C → Except ApiError (Response C) → Accounts → Prop where
  | kept {request : Request C} {answer : Except ApiError (Response C)}
      (hAnswer : ∀ response, answer = .ok response → response.isAccount = false) :
      AccountStep env a request answer a
  | started {email address : String} {response : EmailLoginStartResponse}
      (hEmail : normalizeEmail email = .ok address) :
      AccountStep env a (.startEmailLogin email) (.ok (.loginStarted response))
        { a with emailLoginCodes := a.emailLoginCodes.insert address (startedChallenge env) }
  | expired {email code address : String} {error : ApiError} :
      AccountStep env a (.verifyEmailLogin email code) (.error error)
        { a with emailLoginCodes := a.emailLoginCodes.erase address }
  | loggedIn {email code address : String} {challenge : EmailLoginChallenge} {userId : Uuid}
      (hEmail : normalizeEmail email = .ok address)
      (hChallenge : a.emailLoginCodes.get? address = some challenge)
      (hTime : env.now ≤ challenge.expiresAt)
      (hCode : toAsciiLowercase challenge.code = toAsciiLowercase (trimmed code))
      (hUser : (getOrCreateUser env a.users address).1 = userId) :
      AccountStep env a (.verifyEmailLogin email code) (.ok (.loggedIn (loginResponse env userId)))
        { users := (getOrCreateUser env a.users address).2
          emailLoginCodes := a.emailLoginCodes.erase address
          sessions := a.sessions.insert (loginResponse env userId).accessToken userId
          refreshTokens := a.refreshTokens.insert (loginResponse env userId).refreshToken userId }
  | refreshed {refreshToken token : String} {userId : Uuid}
      (hRefresh : a.refreshTokens.get? refreshToken = some userId) :
      AccountStep env a (.refreshAccessToken refreshToken) (.ok (.accessToken token))
        { a with sessions := a.sessions.insert token userId }
  | loggedOut {headers : Headers} {refreshToken : Option String} {token : String}
      (hToken : bearerToken headers = .ok token) (hSession : token ∈ a.sessions) :
      AccountStep env a (.logout headers refreshToken) (.ok .loggedOut)
        { a with
          sessions := a.sessions.erase token
          refreshTokens := refreshToken.elim a.refreshTokens a.refreshTokens.erase }

variable {env : Surroundings} {s : AppState C}

theorem AccountStep.refused {a : Accounts} {request : Request C} (error : ApiError) :
    AccountStep env a request (.error error) a := .kept nofun

/-- A handler that takes such a step. -/
structure StepsAccounts (env : Surroundings) (request : Request C)
    (handler : Handler C (Response C)) : Prop where
  meets : ∀ s : AppState C, Meets handler
    (fun response t => AccountStep env s.inner.accounts request (.ok response) t.inner.accounts)
    (fun error t => AccountStep env s.inner.accounts request (.error error) t.inner.accounts) s

theorem startEmailLogin_steps (hSave : env.save = .ok ()) (email : String) :
    StepsAccounts (C := C) env (.startEmailLogin email)
      (handle env (.startEmailLogin email)) := by
  refine ⟨fun s => ?_⟩
  simp only [handle, startEmailLogin, meets_bind, meets_ofExcept, meets_modifyStore,
    meets_saveLocked, meets_pure]
  refine ⟨fun address hEmail => ⟨fun _ => .started hEmail, fun error h => ?_⟩,
    fun error _ => .refused error⟩
  exact absurd h (save_ne_error hSave)

theorem verifyEmailLogin_steps (hSave : env.save = .ok ()) (email code : String) :
    StepsAccounts (C := C) env (.verifyEmailLogin email code)
      (handle env (.verifyEmailLogin email code)) := by
  refine ⟨fun s => ?_⟩
  simp only [handle, verifyEmailLogin, meets_bind, meets_ofExcept, meets_lock, meets_orRefuse]
  refine ⟨fun address hEmail => ⟨fun challenge hChallenge => ?_, fun _ => .refused _⟩,
    fun error _ => .refused error⟩
  split
  next =>
    simp only [dropExpiredCode, meets_bind, meets_modifyStore, meets_saveLocked, meets_throw]
    exact ⟨fun _ => .expired, fun error h => absurd h (save_ne_error hSave)⟩
  next hTime =>
    simp only [logIn, meets_bind, meets_refuseIf, meets_lock, meets_modifyStore, meets_saveLocked,
      meets_pure, not_not]
    refine ⟨fun hCode => ⟨fun _ => ?_, fun error h => absurd h (save_ne_error hSave)⟩,
      fun _ => .refused _⟩
    exact .loggedIn hEmail hChallenge (UInt64.not_lt.mp hTime) hCode rfl

theorem refreshAccessToken_steps (hSave : env.save = .ok ()) (refreshToken : String) :
    StepsAccounts (C := C) env (.refreshAccessToken refreshToken)
      (handle env (.refreshAccessToken refreshToken)) := by
  refine ⟨fun s => ?_⟩
  simp only [handle, refreshAccessToken, meets_bind, meets_lock, meets_orRefuse, meets_modifyStore,
    meets_saveLocked, meets_pure]
  refine ⟨fun userId hRefresh => ⟨fun _ => .refreshed hRefresh, fun error h => ?_⟩,
    fun _ => .refused _⟩
  exact absurd h (save_ne_error hSave)

theorem logout_steps (hSave : env.save = .ok ()) (headers : Headers)
    (refreshToken : Option String) :
    StepsAccounts (C := C) env (.logout headers refreshToken)
      (handle env (.logout headers refreshToken)) := by
  refine ⟨fun s => ?_⟩
  simp only [handle, logout, meets_bind, meets_ofExcept, meets_lock, meets_refuseIf,
    meets_modifyStore, meets_saveLocked, meets_pure, not_not]
  refine ⟨fun token hToken => ⟨fun hSession => ⟨fun _ => ?_, fun error h => ?_⟩,
    fun _ => .refused _⟩, fun error _ => .refused error⟩
  · cases refreshToken with
    | none => exact .loggedOut hToken hSession
    | some refreshToken => exact .loggedOut hToken hSession
  · exact absurd h (save_ne_error hSave)

theorem issueRelayToken_steps (headers : Headers) (request : RelayTokenRequest) :
    StepsAccounts (C := C) env (.issueRelayToken headers request)
      (handle env (.issueRelayToken headers request)) := by
  refine ⟨fun s => ?_⟩
  simp only [handle, issueRelayToken, meets_bind, meets_ofExcept, meets_lock, meets_modifyStore,
    meets_saveLocked, meets_pure]
  refine ⟨fun _ _ => ⟨fun _ _ => ⟨fun _ _ => ⟨fun _ => ?_, fun error _ => .refused _⟩,
    fun error _ => .refused error⟩, fun error _ => .refused error⟩, fun error _ => .refused error⟩
  exact .kept fun _ hEq => Except.ok.inj hEq ▸ rfl

theorem AccountStep.of_saves {a : Accounts} {request : Request C} {response : Response C}
    {answer : Except ApiError (Response C)} (hSaves : env.Saves (.ok response) answer)
    (h : response.isAccount = false) : AccountStep env a request answer a := by
  cases hSaves with
  | saved => exact .kept fun _ hEq => Except.ok.inj hEq ▸ h
  | failed => exact .refused _

/-- The requests that are not about accounts leave them as they are. -/
theorem accountStep_of_effect {s t : Store C} {request : Request C}
    {answer : Except ApiError (Response C)} (h : Effect env s request answer t)
    (hRequest : request.isAccount = false) :
    AccountStep env s.accounts request answer t.accounts := by
  cases h with
  | refused error => exact .refused error
  | account hAccount => exact nomatch hRequest.symm.trans hAccount
  | devicesListed => exact .kept fun _ hEq => Except.ok.inj hEq ▸ rfl
  | topologyRead => exact .kept fun _ hEq => Except.ok.inj hEq ▸ rfl
  | profilesListed => exact .kept fun _ hEq => Except.ok.inj hEq ▸ rfl
  | changesListed => exact .kept fun _ hEq => Except.ok.inj hEq ▸ rfl
  | absent => exact .kept fun _ hEq => Except.ok.inj hEq ▸ rfl
  | connected hUser hSession hSaves => exact .of_saves hSaves rfl
  | signalled hRequest hUser hSession hOwner hOwner' hSaves => exact .of_saves hSaves rfl
  | added hUser hName hUnblocked hId hNew hSaves => exact .of_saves hSaves rfl
  | refreshed hUser hUnblocked hId hDevice hOwner hKey hSaves => exact .of_saves hSaves rfl
  | updated hUser hDevice hOwner hSaves => exact .of_saves hSaves rfl
  | reauthorized hUser hKey hDevice hOwner hSaves => exact .of_saves hSaves rfl
  | deleted hUser hOwner hSaves => exact .of_saves hSaves rfl
  | forgotten hUser hDevice hOwner hEnabled hTombstone hSaves =>
    cases hSaves with
    | saved => exact .refused _
    | failed => exact .refused _
  | recorded hVersion hUser hDevice hOwner hTombstone hSaves => exact .of_saves hSaves rfl
  | offline hUser hDevice hOwner hPresence hSaves => exact .of_saves hSaves rfl
  | topology hUser hOwner hSaves => exact .of_saves hSaves rfl
  | upserted hUser hSource hTarget hExpected hSaves => exact .of_saves hSaves rfl
  | rolledBack hUser hCurrent hOwner hTarget hSaves => exact .of_saves hSaves rfl

theorem StepsAccounts.snoc {request : Request C}
    (h : StepsAccounts env request (handle env request)) (calls : List (Call C)) :
    AccountStep env (storeAfter calls).accounts request (answerAfter calls (env, request))
      (storeAfter (calls ++ [(env, request)])).accounts := by
  rw [storeAfter, storeAfter, answerAfter, after_snoc]
  rcases (h.meets (after serve .start calls)).ok_or_error with
    ⟨response, t, hOk, hStep⟩ | ⟨error, t, hError, hStep⟩
  · rw [serve, answer_of_ok hOk, stateAfter_of_ok hOk]
    exact hStep
  · rw [serve, answer_of_error hError, stateAfter_of_error hError]
    exact hStep

theorem accountStep_snoc (calls : List (Call C)) {call : Call C} (hSave : call.1.save = .ok ()) :
    AccountStep call.1 (storeAfter calls).accounts call.2 (answerAfter calls call)
      (storeAfter (calls ++ [call])).accounts := by
  have hEffect := effect_snoc calls call
  obtain ⟨env, request⟩ := call
  cases request with
  | startEmailLogin email => exact (startEmailLogin_steps hSave email).snoc calls
  | verifyEmailLogin email code => exact (verifyEmailLogin_steps hSave email code).snoc calls
  | refreshAccessToken refreshToken =>
    exact (refreshAccessToken_steps hSave refreshToken).snoc calls
  | logout headers refreshToken => exact (logout_steps hSave headers refreshToken).snoc calls
  | issueRelayToken headers request => exact (issueRelayToken_steps headers request).snoc calls
  | _ => exact accountStep_of_effect hEffect rfl

end Steps

section History

variable [UuidText]

/-- A refresh token is given out for a user. -/
def GivesRefreshToken (refreshToken : String) (userId : Uuid) (before : List (Call C))
    (call : Call C) : Prop :=
  ∃ accessToken, answerAfter before call = .ok (.loggedIn ⟨userId, accessToken, refreshToken⟩)

/-- A refresh token is given back with a logout. -/
def TakesRefreshToken (refreshToken : String) (before : List (Call C)) (call : Call C) : Prop :=
  ∃ headers, call.2 = .logout headers (some refreshToken) ∧
    answerAfter before call = .ok .loggedOut

/-- An access token is given out for a user, by a login or for a refresh token of the user. -/
def GivesAccessToken (token : String) (userId : Uuid) (before : List (Call C)) (call : Call C) :
    Prop :=
  (∃ refreshToken, answerAfter before call = .ok (.loggedIn ⟨userId, token, refreshToken⟩)) ∨
    ∃ refreshToken, call.2 = .refreshAccessToken refreshToken ∧
      Since (GivesRefreshToken refreshToken userId) (TakesRefreshToken refreshToken) before ∧
      answerAfter before call = .ok (.accessToken token)

/-- A logout with an access token. -/
def TakesAccessToken (token : String) (before : List (Call C)) (call : Call C) : Prop :=
  ∃ headers refreshToken, call.2 = .logout headers refreshToken ∧
    bearerToken headers = .ok token ∧ answerAfter before call = .ok .loggedOut

/-- A code is asked for, for an address. -/
def StartsLogin (address : String) (before : List (Call C)) (call : Call C) : Prop :=
  ∃ email response, call.2 = .startEmailLogin email ∧ normalizeEmail email = .ok address ∧
    answerAfter before call = .ok (.loginStarted response)

/-- A code for an address is accepted, and a user logs in. -/
def LogsIn (address : String) (userId : Uuid) (before : List (Call C)) (call : Call C) : Prop :=
  ∃ email code response, call.2 = .verifyEmailLogin email code ∧
    normalizeEmail email = .ok address ∧ answerAfter before call = .ok (.loggedIn response) ∧
    response.userId = userId

omit [UuidText] in
/-- The new user of a login, if there is one, has a new id. -/
def NewUser (env : Surroundings) (a : Accounts) (request : Request C) : Prop :=
  ∀ email code address, request = .verifyEmailLogin email code →
    normalizeEmail email = .ok address →
    (∀ id user, a.users.get? id = some user → user.email ≠ address) →
    a.users.get? (env.uuid 0) = none

/-- The ids and tokens that a call makes are new. -/
structure FreshIds (before : List (Call C)) (call : Call C) : Prop where
  user : NewUser call.1 (storeAfter before).accounts call.2
  login : ∀ response, answerAfter before call = .ok (.loggedIn response) →
    (storeAfter before).sessions.get? response.accessToken = none ∧
      (storeAfter before).refreshTokens.get? response.refreshToken = none
  refresh : ∀ token, answerAfter before call = .ok (.accessToken token) →
    (storeAfter before).sessions.get? token = none

/-- The store can be saved, and what is made is new. -/
def Undisturbed (before : List (Call C)) (call : Call C) : Prop :=
  call.1.save = .ok () ∧ FreshIds before call

end History

section Tokens

variable [UuidText] {calls : List (Call C)} {call : Call C} {token refreshToken : String}
  {userId : Uuid}

omit [UuidText] in
theorem not_account_of_kept {answer : Except ApiError (Response C)}
    (h : ∀ response, answer = .ok response → response.isAccount = false) :
    (∀ response, answer ≠ .ok (.loginStarted response)) ∧
      (∀ response, answer ≠ .ok (.loggedIn response)) ∧
      (∀ token, answer ≠ .ok (.accessToken token)) ∧ answer ≠ .ok .loggedOut := by
  refine ⟨fun response hEq => ?_, fun response hEq => ?_, fun token hEq => ?_, fun hEq => ?_⟩
  · exact nomatch h _ hEq
  · exact nomatch h _ hEq
  · exact nomatch h _ hEq
  · exact nomatch h _ hEq

theorem refreshTokens_snoc (hCall : Undisturbed calls call)
    (h : ∀ refreshToken userId, (storeAfter calls).refreshTokens.get? refreshToken = some userId ↔
      Since (GivesRefreshToken refreshToken userId) (TakesRefreshToken refreshToken) calls) :
    (storeAfter (calls ++ [call])).refreshTokens.get? refreshToken = some userId ↔
      Since (GivesRefreshToken refreshToken userId) (TakesRefreshToken refreshToken)
        (calls ++ [call]) := by
  obtain ⟨hSave, hFresh⟩ := hCall
  have hStep := accountStep_snoc calls hSave
  have hNew := hFresh.login
  rw [since_snoc]
  change (storeAfter (calls ++ [call])).accounts.refreshTokens.get? refreshToken = some userId ↔ _
  simp only [GivesRefreshToken, TakesRefreshToken, ← h]
  obtain ⟨env, request⟩ := call
  generalize answerAfter calls (env, request) = answer at hStep hNew ⊢
  generalize (storeAfter (calls ++ [(env, request)])).accounts = accounts at hStep ⊢
  cases hStep with
  | kept hAnswer =>
    obtain ⟨-, hLogin, -, hLogout⟩ := not_account_of_kept hAnswer
    simp [hLogin, hLogout, Store.accounts]
  | started => simp [Store.accounts]
  | expired => simp [Store.accounts]
  | @loggedIn _ _ _ _ loggedId =>
    obtain ⟨-, hRefresh⟩ := hNew _ rfl
    rw [HashMap.get?_insert]
    by_cases hEq : refreshToken = (loginResponse env loggedId).refreshToken
    · rw [if_pos hEq, hEq, hRefresh]
      simp [loginResponse]
    · have hOther : (loginResponse env loggedId).refreshToken ≠ refreshToken := Ne.symm hEq
      rw [if_neg hEq]
      simp only [loginResponse] at hOther
      simp [Store.accounts, loginResponse, hOther]
  | refreshed => simp [Store.accounts]
  | @loggedOut headers given =>
    cases given with
    | none => simp [Store.accounts]
    | some given =>
      rw [Option.elim_some, HashMap.get?_erase]
      by_cases hEq : refreshToken = given
      · simp [hEq]
      · simp [hEq, Ne.symm hEq, Store.accounts]

theorem sessions_snoc (hCall : Undisturbed calls call)
    (hTokens : ∀ refreshToken userId,
      (storeAfter calls).refreshTokens.get? refreshToken = some userId ↔
        Since (GivesRefreshToken refreshToken userId) (TakesRefreshToken refreshToken) calls)
    (h : ∀ token userId, (storeAfter calls).sessions.get? token = some userId ↔
      Since (GivesAccessToken token userId) (TakesAccessToken token) calls) :
    (storeAfter (calls ++ [call])).sessions.get? token = some userId ↔
      Since (GivesAccessToken token userId) (TakesAccessToken token) (calls ++ [call]) := by
  obtain ⟨hSave, hFresh⟩ := hCall
  have hStep := accountStep_snoc calls hSave
  have hNew := hFresh.login
  have hNewToken := hFresh.refresh
  rw [since_snoc]
  change (storeAfter (calls ++ [call])).accounts.sessions.get? token = some userId ↔ _
  simp only [GivesAccessToken, TakesAccessToken, ← h, ← hTokens]
  obtain ⟨env, request⟩ := call
  generalize answerAfter calls (env, request) = answer at hStep hNew hNewToken ⊢
  generalize (storeAfter (calls ++ [(env, request)])).accounts = accounts at hStep ⊢
  cases hStep with
  | kept hAnswer =>
    obtain ⟨-, hLogin, hAccess, hLogout⟩ := not_account_of_kept hAnswer
    simp [hLogin, hAccess, hLogout, Store.accounts]
  | started => simp [Store.accounts]
  | expired => simp [Store.accounts]
  | @loggedIn _ _ _ _ loggedId =>
    obtain ⟨hAccess, -⟩ := hNew _ rfl
    rw [HashMap.get?_insert]
    by_cases hEq : token = (loginResponse env loggedId).accessToken
    · rw [if_pos hEq, hEq, hAccess]
      simp [loginResponse]
    · have hOther : (loginResponse env loggedId).accessToken ≠ token := Ne.symm hEq
      rw [if_neg hEq]
      simp only [loginResponse] at hOther
      simp [Store.accounts, loginResponse, hOther]
  | @refreshed refreshToken given givenId hRefresh =>
    have hGiven := hNewToken _ rfl
    have hUser : (storeAfter calls).refreshTokens.get? refreshToken = some givenId := hRefresh
    rw [HashMap.get?_insert]
    by_cases hEq : token = given
    · subst hEq
      simp [hGiven, hUser]
    · simp [hEq, Ne.symm hEq, Store.accounts]
  | @loggedOut headers refreshToken taken hToken =>
    rw [HashMap.get?_erase]
    by_cases hEq : token = taken
    · simp [hEq, hToken]
    · simp [hEq, Ne.symm hEq, hToken, Store.accounts]

/-- The tokens that are stored are those that were given and have not been taken back since. -/
theorem tokens_run (h : Throughout Undisturbed calls) :
    (∀ refreshToken userId, (storeAfter calls).refreshTokens.get? refreshToken = some userId ↔
      Since (GivesRefreshToken refreshToken userId) (TakesRefreshToken refreshToken) calls) ∧
    ∀ token userId, (storeAfter calls).sessions.get? token = some userId ↔
      Since (GivesAccessToken token userId) (TakesAccessToken token) calls := by
  refine history_induction (I := fun calls =>
    (∀ refreshToken userId, (storeAfter calls).refreshTokens.get? refreshToken = some userId ↔
      Since (GivesRefreshToken refreshToken userId) (TakesRefreshToken refreshToken) calls) ∧
    ∀ token userId, (storeAfter calls).sessions.get? token = some userId ↔
      Since (GivesAccessToken token userId) (TakesAccessToken token) calls) ?_ ?_ h
  · exact ⟨fun _ _ => iff_of_false nofun not_since_nil,
      fun _ _ => iff_of_false nofun not_since_nil⟩
  · rintro calls call ⟨hRefresh, hSessions⟩ hCall
    exact ⟨fun _ _ => refreshTokens_snoc hCall hRefresh,
      fun _ _ => sessions_snoc hCall hRefresh hSessions⟩

/-- A refresh token is accepted if it is stored. -/
theorem refresh_succeeds_iff {env : Surroundings} (hSave : env.save = .ok ()) :
    (∃ token, answerAfter calls (env, .refreshAccessToken refreshToken) = .ok (.accessToken token)) ↔
      ∃ userId, (storeAfter calls).refreshTokens.get? refreshToken = some userId := by
  constructor
  · rintro ⟨token, hAnswer⟩
    have hStep := (refreshAccessToken_steps hSave refreshToken).snoc calls
    rw [hAnswer] at hStep
    generalize (storeAfter (calls ++ [(env, .refreshAccessToken refreshToken)])).accounts = accounts
      at hStep
    cases hStep with
    | kept hKept => cases hKept _ rfl
    | refreshed hRefresh => exact ⟨_, hRefresh⟩
  · rintro ⟨userId, hGet⟩
    have hEnds : Ends (serve (env, .refreshAccessToken refreshToken))
        (fun response _ => ∃ token, response = .accessToken token)
        (after serve .start calls) := by
      simp only [serve, handle, refreshAccessToken, meets_bind, meets_lock, meets_orRefuse,
        meets_modifyStore, meets_saveLocked, meets_pure]
      refine ⟨fun _ _ => ⟨fun _ => ⟨_, rfl⟩, fun error h => ?_⟩, fun hNone => ?_⟩
      · exact absurd h (save_ne_error hSave)
      · cases hGet.symm.trans hNone
    obtain ⟨response, hAnswer, token, rfl⟩ := hEnds.exists_answer
    exact ⟨token, hAnswer⟩

end Tokens

section Challenges

variable [UuidText] {calls : List (Call C)} {call : Call C} {address : String}
  {challenge : EmailLoginChallenge}

/-- A challenge is made for an address. -/
def Challenges (address : String) (challenge : EmailLoginChallenge) (before : List (Call C))
    (call : Call C) : Prop :=
  StartsLogin address before call ∧ challenge = startedChallenge call.1

/-- The challenge for an address is replaced or used. -/
def EndsChallenge (address : String) (before : List (Call C)) (call : Call C) : Prop :=
  StartsLogin address before call ∨ ∃ userId, LogsIn address userId before call

omit [UuidText] in
/-- The code of a challenge is given back, in time. -/
def GivesCode (challenge : EmailLoginChallenge) (call : Call C) : Prop :=
  call.1.now ≤ challenge.expiresAt ∧ ∃ email code, call.2 = .verifyEmailLogin email code ∧
    toAsciiLowercase challenge.code = toAsciiLowercase (trimmed code)

theorem codes_snoc (hSave : call.1.save = .ok ())
    (h : ∀ address challenge, (storeAfter calls).emailLoginCodes.get? address = some challenge →
      Since (Challenges address challenge) (EndsChallenge address) calls)
    (hGet : (storeAfter (calls ++ [call])).emailLoginCodes.get? address = some challenge) :
    Since (Challenges address challenge) (EndsChallenge address) (calls ++ [call]) := by
  have hStep := accountStep_snoc calls hSave
  rw [since_snoc]
  change (storeAfter (calls ++ [call])).accounts.emailLoginCodes.get? address = some challenge
    at hGet
  simp only [Challenges, EndsChallenge, StartsLogin, LogsIn]
  obtain ⟨env, request⟩ := call
  generalize answerAfter calls (env, request) = answer at hStep ⊢
  generalize (storeAfter (calls ++ [(env, request)])).accounts = accounts at hStep hGet
  cases hStep with
  | kept hAnswer =>
    obtain ⟨hStart, hLogin, -, -⟩ := not_account_of_kept hAnswer
    exact .inr ⟨h address challenge hGet, by simp [hStart, hLogin]⟩
  | @started email given response hEmail =>
    rw [HashMap.get?_insert] at hGet
    by_cases hEq : address = given
    · rw [if_pos hEq] at hGet
      subst hEq
      exact .inl ⟨⟨email, response, rfl, hEmail, rfl⟩, (Option.some.inj hGet).symm⟩
    · rw [if_neg hEq] at hGet
      exact .inr ⟨h address challenge hGet, by simp [hEmail, Ne.symm hEq]⟩
  | expired =>
    rw [HashMap.get?_erase, Option.ite_none_left_eq_some] at hGet
    exact .inr ⟨h address challenge hGet.2, by simp⟩
  | loggedIn hEmail =>
    rw [HashMap.get?_erase, Option.ite_none_left_eq_some] at hGet
    exact .inr ⟨h address challenge hGet.2, by simp [hEmail, Ne.symm hGet.1]⟩
  | refreshed => exact .inr ⟨h address challenge hGet, by simp⟩
  | loggedOut => exact .inr ⟨h address challenge hGet, by simp⟩

theorem codes_run (h : Throughout Undisturbed calls) :
    ∀ address challenge, (storeAfter calls).emailLoginCodes.get? address = some challenge →
      Since (Challenges address challenge) (EndsChallenge address) calls := by
  refine history_induction (I := fun calls => ∀ address challenge,
    (storeAfter calls).emailLoginCodes.get? address = some challenge →
      Since (Challenges address challenge) (EndsChallenge address) calls) ?_ ?_ h
  · exact nofun
  · exact fun calls call hCodes hCall address challenge hGet => codes_snoc hCall.1 hCodes hGet

/-- The code that is accepted is that of the last challenge that was made for the address, which
has neither expired nor been used. -/
theorem challenge_of_logsIn {userId : Uuid} (h : Throughout Undisturbed calls)
    (hSave : call.1.save = .ok ()) (hLogin : LogsIn address userId calls call) :
    ∃ challenge, Since (Challenges address challenge) (EndsChallenge address) calls ∧
      GivesCode challenge call := by
  have hStep := accountStep_snoc calls hSave
  obtain ⟨email, code, response, hRequest, hEmail, hAnswer, -⟩ := hLogin
  obtain ⟨env, request⟩ := call
  rw [hAnswer] at hStep
  generalize (storeAfter (calls ++ [(env, request)])).accounts = accounts at hStep
  cases hStep with
  | kept hKept => exact nomatch hKept _ rfl
  | @loggedIn email' code' address' challenge _ hEmail' hChallenge hTime hCode =>
    cases hRequest
    obtain rfl := Except.ok.inj (hEmail.symm.trans hEmail')
    exact ⟨challenge, codes_run h address challenge hChallenge, hTime, _, _, rfl, hCode⟩

end Challenges

section Users

variable {env : Surroundings} {users : HashMap Uuid User} {address : String}

/-- The users are stored under their ids, and no two have one address. -/
structure Apart (users : HashMap Uuid User) : Prop where
  keyed : ∀ id user, users.get? id = some user → user.id = id
  email : ∀ id user id' user', users.get? id = some user → users.get? id' = some user' →
    user.email = user'.email → id = id'

/-- The user with an address is there, or is added. -/
theorem getOrCreateUser_cases (env : Surroundings) (address : String)
    (hKeyed : ∀ id user, users.get? id = some user → user.id = id) :
    (∃ id user, users.get? id = some user ∧ user.email = address ∧
      getOrCreateUser env users address = (id, users)) ∨
    (∀ id user, users.get? id = some user → user.email ≠ address) ∧
      getOrCreateUser env users address =
        (env.uuid 0, users.insert (env.uuid 0) ⟨env.uuid 0, address, env.now⟩) := by
  rw [getOrCreateUser]
  cases hFound : (users.values env.hash).find? (·.email = address) with
  | some user =>
    obtain ⟨id, hGet⟩ := HashMap.mem_values.mp (List.mem_of_find?_eq_some hFound)
    have hEmail := List.find?_some hFound
    refine .inl ⟨id, user, hGet, of_decide_eq_true hEmail, ?_⟩
    rw [← hKeyed id user hGet]
  | none =>
    refine .inr ⟨fun id user hGet hEmail => ?_, rfl⟩
    have hNone := List.find?_eq_none.mp hFound user (HashMap.mem_values.mpr ⟨id, hGet⟩)
    exact hNone (decide_eq_true hEmail)

/-- The users after a login: those there were, and the one that logs in. -/
structure Joined (users : HashMap Uuid User) (address : String) (userId : Uuid)
    (users' : HashMap Uuid User) : Prop where
  apart : Apart users'
  kept : ∀ id user, users.get? id = some user → users'.get? id = some user
  user : ∃ user, users'.get? userId = some user ∧ user.email = address

theorem Apart.insert (h : Apart users) (user : User) (hNone : users.get? user.id = none)
    (hAbsent : ∀ id other, users.get? id = some other → other.email ≠ user.email) :
    Apart (users.insert user.id user) := by
  constructor
  · intro id found hGet
    rcases HashMap.get?_insert_cases hGet with ⟨rfl, rfl⟩ | hOld
    · rfl
    · exact h.keyed id found hOld
  · intro id found id' found' hGet hGet' hEmail
    rcases HashMap.get?_insert_cases hGet with ⟨rfl, rfl⟩ | hOld
    · rcases HashMap.get?_insert_cases hGet' with ⟨rfl, rfl⟩ | hOld'
      · rfl
      · exact absurd hEmail.symm (hAbsent id' found' hOld')
    · rcases HashMap.get?_insert_cases hGet' with ⟨rfl, rfl⟩ | hOld'
      · exact absurd hEmail (hAbsent id found hOld)
      · exact h.email id found id' found' hOld hOld' hEmail

theorem joined_getOrCreateUser (h : Apart users)
    (hNew : (∀ id user, users.get? id = some user → user.email ≠ address) →
      users.get? (env.uuid 0) = none) :
    Joined users address (getOrCreateUser env users address).1
      (getOrCreateUser env users address).2 := by
  rcases getOrCreateUser_cases env address h.keyed with
    ⟨id, user, hGet, hEmail, hEq⟩ | ⟨hAbsent, hEq⟩
  · rw [hEq]
    exact ⟨h, fun _ _ hKept => hKept, user, hGet, hEmail⟩
  · have hNone := hNew hAbsent
    rw [hEq]
    refine ⟨h.insert ⟨env.uuid 0, address, env.now⟩ hNone hAbsent, ?_,
      _, HashMap.get?_insert_self, rfl⟩
    intro id user hGet
    have hNe : id ≠ env.uuid 0 := by
      rintro rfl
      exact nomatch hNone.symm.trans hGet
    rw [HashMap.get?_insert_ne hNe]
    exact hGet

/-- Every token is one of a user. -/
structure Accounts.Sound (a : Accounts) : Prop where
  apart : Apart a.users
  session : ∀ token userId, a.sessions.get? token = some userId →
    ∃ user, a.users.get? userId = some user
  refreshToken : ∀ refreshToken userId, a.refreshTokens.get? refreshToken = some userId →
    ∃ user, a.users.get? userId = some user

variable [UuidText] {calls : List (Call C)} {call : Call C}

variable {a a' : Accounts} {request : Request C} {answer : Except ApiError (Response C)}

/-- The users after a step. -/
theorem AccountStep.usersAfter (h : AccountStep env a request answer a') (hSound : a.Sound)
    (hNew : NewUser env a request) :
    a'.users = a.users ∨ ∃ address userId, Joined a.users address userId a'.users := by
  cases h with
  | loggedIn hEmail _ _ _ hUser =>
    have hJoined := joined_getOrCreateUser hSound.apart (hNew _ _ _ rfl hEmail)
    exact .inr ⟨_, _, hJoined⟩
  | _ => exact .inl rfl

theorem AccountStep.keepsUser (h : AccountStep env a request answer a') (hSound : a.Sound)
    (hNew : NewUser env a request) {id : Uuid} {user : User} (hGet : a.users.get? id = some user) :
    a'.users.get? id = some user := by
  rcases h.usersAfter hSound hNew with hSame | ⟨address, userId, hJoined⟩
  · rw [hSame]
    exact hGet
  · exact hJoined.kept id user hGet

theorem AccountStep.sound (h : AccountStep env a request answer a') (hSound : a.Sound)
    (hNew : NewUser env a request) : a'.Sound := by
  cases h with
  | loggedIn hEmail _ _ _ hUser =>
    have hJoined := joined_getOrCreateUser hSound.apart (hNew _ _ _ rfl hEmail)
    subst hUser
    constructor
    · exact hJoined.apart
    · intro token userId hGet
      rcases HashMap.get?_insert_cases hGet with ⟨-, rfl⟩ | hOld
      · exact hJoined.user.imp fun _ hUser => hUser.1
      · exact (hSound.session token userId hOld).imp fun user => hJoined.kept userId user
    · intro refreshToken userId hGet
      rcases HashMap.get?_insert_cases hGet with ⟨-, rfl⟩ | hOld
      · exact hJoined.user.imp fun _ hUser => hUser.1
      · exact (hSound.refreshToken refreshToken userId hOld).imp fun user =>
          hJoined.kept userId user
  | refreshed hRefresh =>
    refine ⟨hSound.apart, fun token userId hGet => ?_, hSound.refreshToken⟩
    rcases HashMap.get?_insert_cases hGet with ⟨-, rfl⟩ | hOld
    · exact hSound.refreshToken _ _ hRefresh
    · exact hSound.session token userId hOld
  | @loggedOut headers refreshToken =>
    refine ⟨hSound.apart, fun token userId hGet => ?_, fun other userId hGet => ?_⟩
    · rw [HashMap.get?_erase, Option.ite_none_left_eq_some] at hGet
      exact hSound.session token userId hGet.2
    · cases refreshToken with
      | none => exact hSound.refreshToken other userId hGet
      | some refreshToken =>
        rw [Option.elim_some, HashMap.get?_erase, Option.ite_none_left_eq_some] at hGet
        exact hSound.refreshToken other userId hGet.2
  | _ => exact ⟨hSound.apart, hSound.session, hSound.refreshToken⟩

/-- A user has logged in by a code for an address. -/
def HasLoggedIn (address : String) (userId : Uuid) (calls : List (Call C)) : Prop :=
  Since (LogsIn address userId) (fun _ _ => False) calls

/-- The accounts are sound, and the user of every login has its address. -/
structure Enrolled (calls : List (Call C)) : Prop where
  sound : (storeAfter calls).accounts.Sound
  login : ∀ address userId, HasLoggedIn address userId calls →
    ∃ user, (storeAfter calls).users.get? userId = some user ∧ user.email = address

theorem enrolled_snoc (hCall : Undisturbed calls call) (h : Enrolled calls) :
    Enrolled (calls ++ [call]) := by
  obtain ⟨hSave, hFresh⟩ := hCall
  have hStep := accountStep_snoc calls hSave
  have hNew := hFresh.user
  refine ⟨hStep.sound h.sound hNew, fun address userId hSince => ?_⟩
  rcases since_snoc.mp hSince with ⟨email, code, response, hRequest, hEmail, hAnswer, rfl⟩ | hOld
  · change ∃ user, (storeAfter (calls ++ [call])).accounts.users.get? _ = some user ∧ _
    rw [hAnswer, hRequest] at hStep
    rw [hRequest] at hNew
    generalize (storeAfter (calls ++ [call])).accounts = accounts at hStep ⊢
    cases hStep with
    | kept hKept => cases hKept _ rfl
    | loggedIn hEmail' _ _ _ hUser =>
      obtain rfl := Except.ok.inj (hEmail.symm.trans hEmail')
      have hJoined := joined_getOrCreateUser h.sound.apart (hNew _ _ _ rfl hEmail)
      rw [← hUser]
      exact hJoined.user
  · obtain ⟨user, hGet, hEmail⟩ := h.login address userId hOld.1
    exact ⟨user, hStep.keepsUser h.sound hNew hGet, hEmail⟩

theorem enrolled_run (h : Throughout Undisturbed calls) : Enrolled calls := by
  refine history_induction ?_ (fun calls call hEnrolled hCall => enrolled_snoc hCall hEnrolled) h
  exact ⟨⟨⟨nofun, nofun⟩, nofun, nofun⟩, fun _ _ hSince => absurd hSince not_since_nil⟩

/-- What is said of the sessions after a run. -/
structure SessionsSound (calls : List (Call C)) : Prop where
  authorized : ∀ token userId,
    authorizeAccessToken (storeAfter calls) token = .ok userId ↔
      Since (GivesAccessToken token userId) (TakesAccessToken token) calls
  refreshed : ∀ env refreshToken, env.save = .ok () →
    ((∃ token, answerAfter calls (env, .refreshAccessToken refreshToken) =
        .ok (.accessToken token)) ↔
      ∃ userId,
        Since (GivesRefreshToken refreshToken userId) (TakesRefreshToken refreshToken) calls)
  challenged : ∀ call address userId, call.1.save = .ok () → LogsIn address userId calls call →
    ∃ challenge, Since (Challenges address challenge) (EndsChallenge address) calls ∧
      GivesCode challenge call
  session : ∀ token userId, (storeAfter calls).sessions.get? token = some userId →
    ∃ user, (storeAfter calls).users.get? userId = some user
  refreshToken : ∀ refreshToken userId,
    (storeAfter calls).refreshTokens.get? refreshToken = some userId →
      ∃ user, (storeAfter calls).users.get? userId = some user
  email : ∀ id user id' user', (storeAfter calls).users.get? id = some user →
    (storeAfter calls).users.get? id' = some user' → user.email = user'.email → id = id'
  oneUser : ∀ address userId userId', HasLoggedIn address userId calls →
    HasLoggedIn address userId' calls → userId = userId'

omit [UuidText] in
theorem authorizeAccessToken_eq_ok {store : Store C} {token : String} {userId : Uuid} :
    authorizeAccessToken store token = .ok userId ↔ store.sessions.get? token = some userId := by
  rw [authorizeAccessToken]
  cases store.sessions.get? token with
  | none => exact iff_of_false nofun nofun
  | some found => simp

/-- Tokens and challenges are good exactly from when they are given until they are taken back, used
or replaced, and there is one user for each address. -/
theorem sessions_sound (h : Throughout Undisturbed calls) : SessionsSound calls := by
  obtain ⟨hRefresh, hSessions⟩ := tokens_run h
  have hEnrolled := enrolled_run h
  constructor
  · intro token userId
    exact authorizeAccessToken_eq_ok.trans (hSessions token userId)
  · intro env refreshToken hSave
    exact (refresh_succeeds_iff hSave).trans (exists_congr fun userId => hRefresh _ userId)
  · intro call address userId hSave hLogin
    exact challenge_of_logsIn h hSave hLogin
  · exact hEnrolled.sound.session
  · exact hEnrolled.sound.refreshToken
  · exact hEnrolled.sound.apart.email
  · intro address userId userId' hLogin hLogin'
    obtain ⟨user, hGet, hEmail⟩ := hEnrolled.login address userId hLogin
    obtain ⟨user', hGet', hEmail'⟩ := hEnrolled.login address userId' hLogin'
    exact hEnrolled.sound.apart.email userId user userId' user' hGet hGet'
      (hEmail.trans hEmail'.symm)

end Users

section Guest

def codeRequest : Call Unit := (.usual 6 100, .startEmailLogin "guest@kmsync")

/-- The guest logs in with the code. -/
def codeLogin : Call Unit := (.usual 7 100, .verifyEmailLogin "Guest@kmsync " "00000000")

theorem sessions_sound_guest : @SessionsSound Unit .hyphenated ([codeRequest] ++ [codeLogin]) := by
  let text := UuidText.hyphenated
  have hStarted : answerAfter [] codeRequest = .ok (.loginStarted ⟨"guest@kmsync", 606⟩) := by
    decide +kernel
  have hLogin : answerAfter [codeRequest] codeLogin = .ok (.loggedIn ⟨100,
      newAccessToken 100 101, newRefreshToken 100 102⟩) := by decide +kernel
  have hFirst : Undisturbed [] codeRequest := by
    refine ⟨rfl, nofun, fun response h => ?_, fun token h => ?_⟩
    · exact nomatch hStarted.symm.trans h
    · exact nomatch hStarted.symm.trans h
  have hSecond : Undisturbed [codeRequest] codeLogin := by
    refine ⟨rfl, fun _ _ _ _ _ _ => ?_, fun response h => ?_, fun token h => ?_⟩
    · decide +kernel
    · obtain rfl := Response.loggedIn.inj (Except.ok.inj (hLogin.symm.trans h))
      decide +kernel
    · exact nomatch hLogin.symm.trans h
  exact sessions_sound (throughout_snoc.mpr ⟨throughout_snoc.mpr ⟨throughout_nil, hFirst⟩, hSecond⟩)

end Guest

end Kmsync.Server
