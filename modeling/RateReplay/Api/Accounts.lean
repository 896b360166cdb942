import RateReplay.Persistence.Models

/-!
# Accounts and sessions

Local usernames and passwords with server-side sessions (`auth.py`).  A registration inserts an
account together with its first session; a login inserts a session for the account of a
username.

Password hashing and the keyed digests are parameters (`AuthKeys`), and the tokens and
identifiers a call draws are arguments.

## Main definitions

* `canonicalizeUsername`, `validatePassword` — what is refused before the database is read.
* `register`, `login` — the two ways to a session.

## Main results

* `register_eq_ok`, `login_eq_ok` — **what each has found and done.**
-/

namespace RateReplay

/-- `ApiProblem`. -/
structure ApiProblem where
  statusCode : ℕ
  code : String
  message : String
  fieldPaths : List String
  deriving DecidableEq, Repr

/-- `SESSION_IDLE_LIFETIME`. -/
def sessionIdleLifetime : ℤ := 30 * 60 * 1000000

/-- `SESSION_ABSOLUTE_LIFETIME`. -/
def sessionAbsoluteLifetime : ℤ := 24 * 3600 * 1000000

/-- Passwords and digests: the `argon2` hasher, and the session key. -/
structure AuthKeys where
  /-- `_digest(b"session", token)`. -/
  sessionDigest : String → String
  /-- `_digest(b"csrf", token)`. -/
  csrfDigest : String → String
  /-- `_hasher.verify`. -/
  verify : String → String → Bool
  /-- `_hasher.check_needs_rehash`. -/
  needsRehash : String → Bool

/-! ### Usernames and passwords -/

/-- The translation of `A` to `Z`. -/
def asciiLower (c : Char) : Char :=
  if 'A' ≤ c ∧ c ≤ 'Z' then Char.ofNat (c.toNat + 32) else c

/-- A character of `USERNAME_PATTERN`. -/
def usernameCharacter (c : Char) : Bool :=
  ('a' ≤ c && c ≤ 'z') || ('0' ≤ c && c ≤ '9') || c = '_'

/-- `canonicalize_username`. -/
def canonicalizeUsername (username : String) : Except ApiProblem String := do
  let translated := String.ofList (username.toList.map asciiLower)
  failIf (¬ (3 ≤ translated.length ∧ translated.length ≤ 64
      ∧ translated.toList.all usernameCharacter))
    ⟨422, "INVALID_USERNAME",
      "Username must contain 3 to 64 ASCII letters, digits, or underscores.", ["username"]⟩
  .ok translated

/-- `validate_password`. -/
def validatePassword (password : String) : Except ApiProblem Unit :=
  failIf (¬ (12 ≤ password.length ∧ password.length ≤ 128))
    ⟨422, "INVALID_PASSWORD_LENGTH", "Password must contain 12 to 128 characters.", ["password"]⟩

/-! ### New sessions -/

/-- What a new session draws, and the clock. -/
structure SessionDraw where
  sessionId : String
  sessionToken : String
  csrfToken : String
  now : ℤ

structure SessionGrant where
  userId : String
  username : String
  sessionToken : String
  csrfToken : String
  idleExpiresAt : ℤ
  absoluteExpiresAt : ℤ
  deriving DecidableEq

/-- The row of a new session. -/
def newSession (keys : AuthKeys) (userId : String) (draw : SessionDraw) : SessionRecord where
  userId := userId
  tokenHash := keys.sessionDigest draw.sessionToken
  csrfHash := keys.csrfDigest draw.csrfToken
  createdAt := draw.now
  lastSeenAt := draw.now
  idleExpiresAt := draw.now + sessionIdleLifetime
  absoluteExpiresAt := draw.now + sessionAbsoluteLifetime
  revokedAt := none

/-- What a database error that nobody handles is answered with (`problems.py`). -/
def dependencyUnavailable : ApiProblem :=
  ⟨503, "DEPENDENCY_UNAVAILABLE", "A required service is unavailable.", []⟩

/-- `_new_session`; the token is unique by its column constraint. -/
def insertSession (keys : AuthKeys) (db : Database) (userId username : String)
    (event : AuditEventType) (draw : SessionDraw) : Except ApiProblem (SessionGrant × Database) :=
  match insertUnique db.sessions (·.tokenHash = keys.sessionDigest draw.sessionToken)
      draw.sessionId (newSession keys userId draw) with
  | .error _ => .error dependencyUnavailable
  | .ok sessions =>
    .ok (⟨userId, username, draw.sessionToken, draw.csrfToken, draw.now + sessionIdleLifetime,
        draw.now + sessionAbsoluteLifetime⟩,
      appendAuditEvent { db with sessions := sessions } (some userId) event .session
        draw.sessionId 0 draw.now)

/-! ### Registration and login -/

/-- The arguments of `register`, and what it draws. -/
structure Registration where
  username : String
  password : String
  passwordHash : String
  userId : String
  deletionScopeId : String
  session : SessionDraw

/-- The row of a new account. -/
def newUser (canonical passwordHash deletionScopeId : String) : UserRecord where
  usernameCanonical := canonical
  passwordHash := passwordHash
  lifecycleState := .active
  lifecycleGeneration := 0
  deletionScopeId := deletionScopeId

/-- `register`. -/
def register (keys : AuthKeys) (db : Database) (request : Registration) :
    Except ApiProblem (SessionGrant × Database) := do
  let canonical ← canonicalizeUsername request.username
  validatePassword request.password
  match insertUnique db.users (fun other => other.usernameCanonical = canonical
      || other.deletionScopeId = request.deletionScopeId) request.userId
      (newUser canonical request.passwordHash request.deletionScopeId) with
  | .error _ =>
    .error ⟨409, "USERNAME_UNAVAILABLE", "That username is unavailable.", ["username"]⟩
  | .ok users =>
    insertSession keys
      (appendAuditEvent { db with users := users } (some request.userId) .authRegistered .account
        request.userId 0 request.session.now)
      request.userId canonical .authRegistered request.session

/-- The arguments of `login`, and what it draws; `rehashed` is the hash that replaces an outdated
one. -/
structure Login where
  username : String
  password : String
  rehashed : String
  priorSessionToken : Option String
  session : SessionDraw

/-- The account of a canonical username, unique by its column constraint. -/
def userOfName (db : Database) (canonical : String) : Option (String × UserRecord) :=
  db.users.first fun _ user => user.usernameCanonical = canonical

/-- The prior session of a client is revoked. -/
def revokePrior (keys : AuthKeys) (db : Database) (priorSessionToken : Option String) (now : ℤ) :
    Database :=
  match priorSessionToken with
  | none => db
  | some token =>
    { db with
      sessions := db.sessions.modifyWhere
        (fun _ session => session.tokenHash = keys.sessionDigest token && session.revokedAt = none)
        ({ · with revokedAt := some now }) }

/-- An outdated password hash is replaced. -/
def rehash (keys : AuthKeys) (db : Database) (userId : String) (user : UserRecord)
    (rehashed : String) : Database :=
  if keys.needsRehash user.passwordHash then
    { db with users := db.users.modify userId ({ · with passwordHash := rehashed }) }
  else db

/-- `login`; the lifecycle of the account is not looked at. -/
def login (keys : AuthKeys) (db : Database) (request : Login) :
    Except ApiProblem (SessionGrant × Database) := do
  let canonical ← canonicalizeUsername request.username
  validatePassword request.password
  match (userOfName db canonical).filter fun e => keys.verify e.2.passwordHash request.password with
  | none =>
    .error ⟨401, "INVALID_CREDENTIALS", "Username or password is incorrect.", []⟩
  | some (userId, user) =>
    insertSession keys
      (revokePrior keys (rehash keys db userId user request.rehashed) request.priorSessionToken
        request.session.now)
      userId user.usernameCanonical .authLoginSucceeded request.session

/-! ### What the calls have done -/

section Inversion

variable {keys : AuthKeys} {db db' : Database} {grant : SessionGrant}

theorem insertSession_eq_ok {userId username : String} {event : AuditEventType}
    {draw : SessionDraw} (h : insertSession keys db userId username event draw = .ok (grant, db')) :
    grant.userId = userId ∧ db.sessions.get? draw.sessionId = none ∧
      ∃ auditEvents, db' = { db with
        sessions := db.sessions.set draw.sessionId (newSession keys userId draw)
        auditEvents := auditEvents } := by
  unfold insertSession at h
  split at h
  · cases h
  · rename_i sessions hsessions
    obtain ⟨-, hnew, rfl⟩ := insertUnique_eq_ok.mp hsessions
    cases h
    exact ⟨rfl, hnew, _, rfl⟩

/-- **What a registration has done**: a new active account, and its first session. -/
theorem register_eq_ok {request : Registration}
    (h : register keys db request = .ok (grant, db')) :
    ∃ canonical auditEvents, grant.userId = request.userId ∧
      (db.users.has fun _ other => other.deletionScopeId = request.deletionScopeId) = false ∧
      db.users.get? request.userId = none ∧
      db.sessions.get? request.session.sessionId = none ∧
      db' = { db with
        users := db.users.set request.userId
          (newUser canonical request.passwordHash request.deletionScopeId)
        sessions := db.sessions.set request.session.sessionId
          (newSession keys request.userId request.session)
        auditEvents := auditEvents } := by
  obtain ⟨canonical, -, h⟩ := bind_eq_ok.mp h
  obtain ⟨_, -, h⟩ := bind_eq_ok.mp h
  split at h
  · cases h
  · rename_i users hus
    obtain ⟨hcfl, hnewUser, rfl⟩ := insertUnique_eq_ok.mp hus
    obtain ⟨hgrant, hnewSession, auditEvents, rfl⟩ := insertSession_eq_ok h
    refine ⟨canonical, auditEvents, hgrant, ?_, hnewUser, hnewSession, rfl⟩
    rw [Dict.has_eq_false] at hcfl ⊢
    intro k v hmem
    exact (Bool.or_eq_false_iff.mp (hcfl k v hmem)).2

/-- **What a login has found and done**: an account with the password, whose lifecycle is left
out of account, and a new session for it. -/
theorem login_eq_ok {request : Login} (h : login keys db request = .ok (grant, db')) :
    ∃ canonical user sessions auditEvents, canonicalizeUsername request.username = .ok canonical ∧
      userOfName db canonical = some (grant.userId, user) ∧
      keys.verify user.passwordHash request.password = true ∧
      sessions = (revokePrior keys db request.priorSessionToken request.session.now).sessions ∧
      sessions.get? request.session.sessionId = none ∧
      db' = { db with
        users := (rehash keys db grant.userId user request.rehashed).users
        sessions := sessions.set request.session.sessionId
          (newSession keys grant.userId request.session)
        auditEvents := auditEvents } := by
  obtain ⟨canonical, hcan, h⟩ := bind_eq_ok.mp h
  obtain ⟨_, -, h⟩ := bind_eq_ok.mp h
  split at h
  · cases h
  · rename_i userId user hfnd
    rw [Option.filter_eq_some_iff] at hfnd
    obtain ⟨hgrant, hnew, auditEvents, rfl⟩ := insertSession_eq_ok h
    obtain rfl := hgrant
    refine ⟨canonical, user, _, auditEvents, hcan, hfnd.1, hfnd.2, rfl, ?_, ?_⟩
    · unfold revokePrior rehash at hnew
      unfold revokePrior
      split at hnew <;> split at hnew <;> exact hnew
    · unfold revokePrior rehash
      split <;> split <;> rfl

end Inversion

end RateReplay
