import VpnPanel.ResolveShare

/-!
# VpnPanel.Login

Logging in: `LoginUseCase.execute` of `login.py`, the transaction its route
(`routers/auth.py`) puts around it, and `get_client_ip` of `deps.py` behind the
deployed nginx.
-/

namespace VpnPanel

/-! ## the client's address -/

/-- `$proxy_add_x_forwarded_for`: the `X-Forwarded-For` lines of the client,
and the address of its peer. -/
def proxyAddXForwardedFor (lines : List String) (remoteAddr : String) : String :=
  String.intercalate ", " (lines ++ [remoteAddr])

/-- `forwarded.split(",")[0].strip()`. -/
def firstForwarded (forwarded : String) : String :=
  PyStr.strip (String.ofList (forwarded.toList.takeWhile (· ≠ ',')))

/-- `get_client_ip`. -/
def getClientIp (forwarded : Option String) (client : Option String) : String :=
  match forwarded with
  | some f => if f ≠ "" then firstForwarded f else client.getD "unknown"
  | none => client.getD "unknown"

/-- What it is for a request through nginx, whose upstream connections come
from `client`. -/
def proxiedIp (lines : List String) (remoteAddr : String) (client : Option String) : String :=
  getClientIp (some (proxyAddXForwardedFor lines remoteAddr)) client

/-! ## the tables -/

/-- `rule.max_attempts or 5`. -/
def RateLimitRule.attempts (rule : RateLimitRule) : Nat :=
  match rule.maxAttempts with
  | some (n + 1) => n + 1
  | _ => 5

theorem RateLimitRule.attempts_pos (rule : RateLimitRule) : 0 < rule.attempts := by
  unfold RateLimitRule.attempts
  split <;> omega

/-- A row of `users`. -/
structure UserModel where
  id : Nat
  passwordHash : String
  deriving DecidableEq, Repr

/-- A row of `audit_logs` for `auth.login.failed`. -/
structure FailedLogin where
  ip : String
  usernameAttempt : String
  deriving DecidableEq, Repr

/-- The tables a login reads and writes; a username is unique. -/
structure LoginStore where
  users : String → Option UserModel
  audit : List FailedLogin
  rates : RateTable

/-- What the login route knows: the settings it reads, `verify_password`
(`bcrypt.checkpw`) and `create_access_token` (`jwt.encode`), which raise no
exceptions of the program's own. -/
structure LoginCtx where
  loginRule : RateLimitRule
  /-- `audit.enabled` and `audit.log_failed_login`. -/
  logFailedLogin : Bool
  verifyPassword : (password passwordHash : String) → Except PyErr Bool
  createAccessToken : (id : Nat) → Except PyErr String
  verifyPassword_raises : ∀ password passwordHash,
    Except.Raises PyErr.IsBuiltin (verifyPassword password passwordHash)
  createAccessToken_raises : ∀ id, Except.Raises PyErr.IsBuiltin (createAccessToken id)

/-- What the surroundings of a login decide. -/
structure LoginEnv where
  /-- The text of an error of the query for the user. -/
  selected : Option String := none
  /-- An error of the commit. -/
  committed : Option PyErr := none

def invalidCredentials : PyErr := ⟨.other "InvalidCredentials", ""⟩

/-! ## the use case and its route -/

/-- The limiter's entry for a client. -/
def loginRateKey (ctx : LoginCtx) (now : Nat) (clientIp : String) : RateKey :=
  rateKey "login" ("ip:" ++ clientIp) ctx.loginRule.windowSeconds now

/-- `check_and_increment`. -/
def checkLogin (key : RateKey) (limit : Nat) : Eff LoginStore PyErr Unit := do
  Eff.update fun s => { s with rates := RateTable.increment s.rates key }
  let s ← Eff.read
  Eff.ofExcept (checkCount (s.rates key) limit)

/-- `get_by_username`. -/
def getByUsername (env : LoginEnv) (users : String → Option UserModel) (username : String) :
    Except PyErr (Option UserModel) :=
  match env.selected with
  | some msg => .error ⟨.databaseError, msg⟩
  | none => .ok (users username)

/-- `user is None or not verify_password(password, user.password_hash)`, as
the user that may log in. -/
def authenticate (ctx : LoginCtx) (password : String) (user : Option UserModel) :
    Except PyErr (Option UserModel) :=
  match user with
  | none => .ok none
  | some user => do
      let verified ← ctx.verifyPassword password user.passwordHash
      .ok (if verified then some user else none)

/-- `_log_failed_login`. -/
def LoginStore.logFailedLogin (ctx : LoginCtx) (username clientIp : String) (s : LoginStore) :
    LoginStore :=
  if ctx.logFailedLogin then { s with audit := s.audit ++ [⟨clientIp, username⟩] } else s

/-- `LoginUseCase.execute`. -/
def login (ctx : LoginCtx) (env : LoginEnv) (now : Nat) (username password clientIp : String) :
    Eff LoginStore PyErr String := do
  checkLogin (loginRateKey ctx now clientIp) ctx.loginRule.attempts
  let s ← Eff.read
  let found ← Eff.ofExcept (getByUsername env s.users username)
  let user ← Eff.ofExcept (authenticate ctx password found)
  match user with
  | none => do
      Eff.update fun s => s.logFailedLogin ctx username clientIp
      Eff.raise invalidCredentials
  | some user => Eff.ofExcept (ctx.createAccessToken user.id)

/-- The exceptions the route answers, after a commit: `RateLimitExceeded` with
429 and `InvalidCredentials` with 401. -/
def isLoginRefusal (e : PyErr) : Bool := e = rateLimitExceeded || e = invalidCredentials

/-- The route `login`, up to the response. -/
def loginRoute (ctx : LoginCtx) (env : LoginEnv) (now : Nat) (username password clientIp : String) :
    Eff LoginStore PyErr String :=
  Eff.transaction isLoginRefusal env.committed (login ctx env now username password clientIp)

end VpnPanel
