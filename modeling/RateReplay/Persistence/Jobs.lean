import RateReplay.Persistence.Models
import Mathlib.Data.Prod.Lex
import Mathlib.Data.String.Basic

/-!
# Leased jobs

Job execution with leases, attempt fencing and bounded retry (`jobs.py`).  Every definition is
one transaction of `JobService`, or a part of one.  `lease_next` consists of two transactions:
`rescueExpired`, and then `leaseNext`.

The delay before a retry (`_retry_delay`, an exponential with a hashed jitter) is a parameter.

## Main definitions

* `JobKind.definition` — `JOB_DEFINITIONS`.
* `scopeValid` — the captured scope of a job is still the live one.
* `currentFencedJob` — the job of a live lease.
* `leaseNext`, `start`, `heartbeat`, `fail`, `cancel`, `completeSystem`, `rescueExpired` — the
  transactions.
-/

namespace RateReplay

/-- `LEASE_DURATION`. -/
def leaseDuration : ℤ := 20 * 1000000

structure JobDefinition where
  scopeMode : ScopeMode
  requiresImport : Bool
  requiresProfile : Bool
  deriving DecidableEq

/-- `JOB_DEFINITIONS`; the column constraint leaves no unknown kind. -/
def JobKind.definition : JobKind → JobDefinition
  | .importing => ⟨.activeScope, true, false⟩
  | .replay => ⟨.activeScope, true, true⟩
  | .comparison => ⟨.activeScope, true, true⟩
  | .scenario => ⟨.activeScope, true, true⟩
  | .report => ⟨.activeScope, true, true⟩
  | .retention => ⟨.systemScope, false, false⟩
  | .deletion => ⟨.deletingScope, false, false⟩

structure JobLease where
  jobId : String
  importId : Option String
  workerId : String
  attemptNumber : ℕ
  fencingGeneration : ℕ
  leaseExpiresAt : ℤ
  kind : JobKind
  profileVersionId : Option String
  scopeMode : ScopeMode
  deriving DecidableEq

/-! ### Scopes and fences -/

/-- `_lease_matches`. -/
def leaseMatches (job : JobRecord) (lease : JobLease) : Bool :=
  job.leaseOwner = some lease.workerId && job.fencingGeneration = lease.fencingGeneration
    && job.kind = lease.kind && job.scopeMode = lease.scopeMode && job.importId = lease.importId
    && job.profileVersionId = lease.profileVersionId

/-- `job.lease_expires_at is not None and now < job.lease_expires_at`. -/
def leaseLive (job : JobRecord) (now : ℤ) : Bool :=
  job.leaseExpiresAt.any fun expires => now < expires

/-- `_deletion_scope_is_valid`.  The user and the import are the rows of the job's own
columns, so their identifiers are read from the job. -/
def deletionScopeIsValid (job : JobRecord) (user : Option UserRecord)
    (imported : Option ImportRecord) (profile : Option ProfileVersionRecord) : Bool :=
  match user with
  | none => false
  | some user =>
    if user.lifecycleGeneration ≠ job.capturedAccountGeneration then false
    else if job.requestSchemaVersion = "account-deletion-v1" then
      user.lifecycleState = .deleting && job.importId = none && job.profileVersionId = none
        && job.capturedImportGeneration = none && job.capturedProfileGeneration = none
    else if user.lifecycleState ≠ .active then false
    else if job.requestSchemaVersion = "import-deletion-v1" then
      match imported with
      | none => false
      | some imported =>
        some imported.ownerUserId = job.ownerUserId && imported.lifecycleState = .deleting
          && some imported.lifecycleGeneration = job.capturedImportGeneration
          && job.profileVersionId = none && job.capturedProfileGeneration = none
    else if job.requestSchemaVersion = "profile-deletion-v1" then
      match imported, profile with
      | some imported, some profile =>
        some imported.ownerUserId = job.ownerUserId && imported.lifecycleState = .active
          && some imported.lifecycleGeneration = job.capturedImportGeneration
          && some profile.ownerUserId = job.ownerUserId && some profile.importId = job.importId
          && profile.lifecycleState = .deleting
          && some profile.lifecycleGeneration = job.capturedProfileGeneration
      | _, _ => false
    else false

/-- The import a job of this kind requires. -/
def importScopeIsValid (job : JobRecord) (imported : Option ImportRecord) : Bool :=
  if job.kind.definition.requiresImport then
    match imported with
    | none => false
    | some imported =>
      some imported.ownerUserId = job.ownerUserId && imported.lifecycleState = .active
        && some imported.lifecycleGeneration = job.capturedImportGeneration
  else job.importId = none && job.capturedImportGeneration = none

/-- The profile a job of this kind requires. -/
def profileScopeIsValid (job : JobRecord) (profile : Option ProfileVersionRecord) : Bool :=
  if job.kind.definition.requiresProfile then
    match profile with
    | none => false
    | some profile =>
      some profile.ownerUserId = job.ownerUserId && some profile.importId = job.importId
        && profile.lifecycleState = .active
        && some profile.lifecycleGeneration = job.capturedProfileGeneration
  else job.profileVersionId = none && job.capturedProfileGeneration = none

/-- `_scope_is_valid`. -/
def scopeIsValid (job : JobRecord) (user : Option UserRecord) (imported : Option ImportRecord)
    (profile : Option ProfileVersionRecord) : Bool :=
  if job.scopeMode ≠ job.kind.definition.scopeMode then false
  else if job.kind = .deletion then deletionScopeIsValid job user imported profile
  else if job.kind.definition.scopeMode = .systemScope then
    job.ownerUserId = none && job.importId = none && job.profileVersionId = none
      && job.capturedAccountGeneration = 0 && job.capturedImportGeneration = none
      && job.capturedProfileGeneration = none
  else
    match user with
    | none => false
    | some user =>
      user.lifecycleGeneration = job.capturedAccountGeneration
        && user.lifecycleState
          = (if job.kind.definition.scopeMode = .activeScope then .active else .deleting)
        && importScopeIsValid job imported && profileScopeIsValid job profile

/-- `_load_scope` and `_scope_is_valid`. -/
def scopeValid (db : Database) (job : JobRecord) : Bool :=
  scopeIsValid job (job.ownerUserId.bind db.users.get?) (job.importId.bind db.imports.get?)
    (job.profileVersionId.bind db.profiles.get?)

/-- `current_fenced_job`: the job of the lease while the lease is live and its scope valid. -/
def currentFencedJob (db : Database) (lease : JobLease) (now : ℤ) (expected : JobState → Bool) :
    Option JobRecord :=
  (db.jobs.get? lease.jobId).filter fun job =>
    expected job.state && leaseMatches job lease && leaseLive job now && !job.cancelRequested
      && scopeValid db job

/-! ### Rows under change -/

def Database.updateJob (db : Database) (id : String) (f : JobRecord → JobRecord) : Database :=
  { db with jobs := db.jobs.modify id f }

/-- The attempt of one fencing generation of a job, which `uq_job_attempt_fence` makes
unique. -/
def isAttempt (jobId : String) (generation : ℕ) (_ : String) (attempt : JobAttemptRecord) : Bool :=
  attempt.jobId = jobId && attempt.fencingGeneration = generation

def Database.updateAttempt (db : Database) (jobId : String) (generation : ℕ)
    (f : JobAttemptRecord → JobAttemptRecord) : Database :=
  { db with attempts := db.attempts.modifyWhere (isAttempt jobId generation) f }

/-- `if job.kind == "IMPORT" and imported is not None: …`. -/
def Database.updateJobImport (db : Database) (job : JobRecord) (f : ImportRecord → ImportRecord) :
    Database :=
  if job.kind = .importing then
    match job.importId with
    | some importId => { db with imports := db.imports.modify importId f }
    | none => db
  else db

/-- `_mark_import_terminal`. -/
def markImportTerminal (db : Database) (job : JobRecord) (code : Option String) : Database :=
  db.updateJobImport job fun imported => { imported with state := .failed, failureCode := code }

/-- The attempt is over. -/
def JobAttemptRecord.close (attempt : JobAttemptRecord) (state : AttemptState)
    (code : Option String) (now : ℤ) : JobAttemptRecord :=
  { attempt with state := state, failureCode := code, completedAt := some now }

/-- The job has no lease any more. -/
def JobRecord.released (job : JobRecord) : JobRecord :=
  { job with leaseOwner := none, leaseExpiresAt := none }

/-- `_finish_without_lease`. -/
def JobRecord.finishWithoutLease (job : JobRecord) (state : JobState) (code : String) (now : ℤ) :
    JobRecord :=
  { job.released with state := state, failureCode := some code, completedAt := some now }

/-- The job under a new lease. -/
def JobRecord.leasedBy (job : JobRecord) (workerId : String) (now : ℤ) : JobRecord :=
  { job with
    attemptCount := job.attemptCount + 1
    fencingGeneration := job.fencingGeneration + 1
    state := .leased
    leaseOwner := some workerId
    leaseAcquiredAt := some now
    heartbeatAt := some now
    leaseExpiresAt := some (now + leaseDuration) }

/-- The attempt of a job that has just been leased. -/
def attemptOf (jobId : String) (job : JobRecord) (workerId : String) (now : ℤ) :
    JobAttemptRecord where
  jobId := jobId
  attemptNumber := job.attemptCount
  fencingGeneration := job.fencingGeneration
  workerId := workerId
  state := .leased
  leasedAt := now
  leaseExpiresAt := now + leaseDuration
  completedAt := none
  failureCode := none

/-- The lease handed to the worker. -/
def leaseOf (jobId : String) (job : JobRecord) (workerId : String) (now : ℤ) : JobLease where
  jobId := jobId
  importId := job.importId
  workerId := workerId
  attemptNumber := job.attemptCount
  fencingGeneration := job.fencingGeneration
  leaseExpiresAt := now + leaseDuration
  kind := job.kind
  profileVersionId := job.profileVersionId
  scopeMode := job.scopeMode

/-! ### Leasing -/

/-- The condition of the queue query. -/
def eligible (kinds : List JobKind) (now : ℤ) (job : JobRecord) : Bool :=
  job.state = .queued && job.notBefore ≤ now && !job.cancelRequested && job.kind ∈ kinds

/-- The oldest eligible job (`order_by(created_at, id).limit(1)`). -/
def nextEligible (db : Database) (kinds : List JobKind) (now : ℤ) : Option (String × JobRecord) :=
  (sortedBy (fun e => toLex (e.2.createdAt, e.1))
    (db.jobs.entries.filter fun e => eligible kinds now e.2)).head?

/-- Insert an attempt under its unique constraints. -/
def insertAttempt (db : Database) (attemptId : String) (attempt : JobAttemptRecord) :
    Except TransactionError Database := do
  failIf (db.attempts.has fun _ other => other.jobId = attempt.jobId
    && (other.attemptNumber = attempt.attemptNumber
      || other.fencingGeneration = attempt.fencingGeneration)) .integrity
  let attempts ← insertOrRaise db.attempts attemptId attempt
  .ok { db with attempts := attempts }

/-- One turn of the loop of `lease_next`: the job is ended, or leased. -/
def leaseTurn (db : Database) (workerId : String) (now : ℤ) (attemptId jobId : String)
    (job : JobRecord) : Except TransactionError (Option JobLease × Database) :=
  if ¬ scopeValid db job then
    .ok (none, db.updateJob jobId fun job => job.finishWithoutLease .cancelled "SCOPE_FENCED" now)
  else if job.maxAttempts ≤ job.attemptCount then
    .ok (none, markImportTerminal
      (db.updateJob jobId fun job =>
        job.finishWithoutLease .failed "ATTEMPT_BUDGET_EXHAUSTED" now)
      job (some "ATTEMPT_BUDGET_EXHAUSTED"))
  else do
    let leased := job.leasedBy workerId now
    let marked := (db.updateJob jobId fun _ => leased).updateJobImport job fun imported =>
      { imported with state := .processing }
    let recorded ← insertAttempt marked attemptId (attemptOf jobId leased workerId now)
    .ok (some (leaseOf jobId leased workerId now),
      appendAuditEvent recorded job.ownerUserId .jobLeased .job jobId leased.fencingGeneration now)

/-- The loop of `lease_next`; every turn that goes on has ended a queued job. -/
def leaseLoop (kinds : List JobKind) (workerId : String) (now : ℤ) (attemptId : String) :
    ℕ → Database → Except TransactionError (Option JobLease × Database)
  | 0, db => .ok (none, db)
  | turns + 1, db =>
    match nextEligible db kinds now with
    | none => .ok (none, db)
    | some (jobId, job) => do
      let (lease, db') ← leaseTurn db workerId now attemptId jobId job
      match lease with
      | some lease => .ok (some lease, db')
      | none => leaseLoop kinds workerId now attemptId turns db'

/-- The second transaction of `lease_next`: lease the oldest eligible job. -/
def leaseNext (db : Database) (kinds : List JobKind) (workerId : String) (now : ℤ)
    (attemptId : String) : Transaction (Option JobLease) :=
  leaseLoop kinds workerId now attemptId (db.jobs.entries.length + 1) db

/-! ### Working under a lease -/

/-- `start` (`_conditional_state` from `LEASED` to `RUNNING`). -/
def start (db : Database) (lease : JobLease) (now : ℤ) : Bool × Database :=
  match currentFencedJob db lease now (· = .leased) with
  | none => (false, db)
  | some _ =>
    (true, (db.updateJob lease.jobId fun job => { job with state := .running }).updateAttempt
      lease.jobId lease.fencingGeneration fun attempt => { attempt with state := .running })

/-- `heartbeat`; a requested cancellation does not stop it. -/
def heartbeat (db : Database) (lease : JobLease) (now : ℤ) : Bool × Database :=
  match db.jobs.get? lease.jobId with
  | none => (false, db)
  | some job =>
    if job.state.held && leaseMatches job lease && leaseLive job now && scopeValid db job then
      (true,
        (db.updateJob lease.jobId fun job =>
          { job with heartbeatAt := some now, leaseExpiresAt := some (now + leaseDuration) })
        |>.updateAttempt lease.jobId lease.fencingGeneration fun attempt =>
          { attempt with leaseExpiresAt := now + leaseDuration })
    else (false, db)

/-- `fail`: the attempt is over; the job is cancelled when its scope is fenced, queued again
while its budget lasts and the failure is retryable, and failed otherwise. -/
def fail (retryDelay : String → ℕ → ℤ) (db : Database) (lease : JobLease) (code : String)
    (retryable : Bool) (now : ℤ) : Bool × Database :=
  match db.jobs.get? lease.jobId with
  | none => (false, db)
  | some job =>
    if !(job.state.held && leaseMatches job lease) then (false, db)
    else if !scopeValid db job then
      (true, appendAuditEvent
        ((db.updateJob lease.jobId fun job =>
            job.finishWithoutLease .cancelled "SCOPE_FENCED" now).updateAttempt
          lease.jobId lease.fencingGeneration fun attempt =>
            attempt.close .cancelled (some "SCOPE_FENCED") now)
        job.ownerUserId .jobCancelled .job lease.jobId job.fencingGeneration now)
    else if retryable && job.attemptCount < job.maxAttempts then
      (true, appendAuditEvent
        (((db.updateJob lease.jobId fun job =>
            { job.released with
              state := .queued
              notBefore := now + retryDelay lease.jobId job.attemptCount }).updateAttempt
          lease.jobId lease.fencingGeneration fun attempt =>
            attempt.close .failed (some code) now).updateJobImport job fun imported =>
              { imported with state := .queued })
        job.ownerUserId .jobRetryScheduled .job lease.jobId job.fencingGeneration now)
    else
      let terminalCode := if retryable then "ATTEMPT_BUDGET_EXHAUSTED" else code
      (true, appendAuditEvent
        (markImportTerminal
          ((db.updateJob lease.jobId fun job =>
              job.finishWithoutLease .failed terminalCode now).updateAttempt
            lease.jobId lease.fencingGeneration fun attempt =>
              attempt.close .failed (some code) now)
          job (some terminalCode))
        job.ownerUserId .jobFailed .job lease.jobId job.fencingGeneration now)

/-- The job is cancelled by its owner; its lease and its attempt stay. -/
def JobRecord.cancelledByOwner (job : JobRecord) (now : ℤ) : JobRecord :=
  { job with
    cancelRequested := true
    state := .cancelled
    failureCode := some "CANCELLED_BY_OWNER"
    completedAt := some now }

/-- `cancel`. -/
def cancel (db : Database) (ownerUserId jobId : String) (now : ℤ) : Bool × Database :=
  match db.jobs.get? jobId with
  | none => (false, db)
  | some job =>
    if job.ownerUserId ≠ some ownerUserId then (false, db)
    else if job.state.terminal then (true, db)
    else
      (true, appendAuditEvent
        (markImportTerminal (db.updateJob jobId fun job => job.cancelledByOwner now) job
          (some "CANCELLED_BY_OWNER"))
        job.ownerUserId .jobCancelled .job jobId job.fencingGeneration now)

/-- `complete_system`. -/
def completeSystem (db : Database) (lease : JobLease) (now : ℤ) : Transaction Bool :=
  if lease.kind ≠ .retention ∨ lease.scopeMode ≠ .systemScope then
    .error (.valueError "Only a SYSTEM_SCOPE retention lease can use system completion")
  else
    match currentFencedJob db lease now (· = .running) with
    | none => .ok (false, db)
    | some job =>
      if !db.attempts.has (isAttempt lease.jobId lease.fencingGeneration) then .ok (false, db)
      else
        .ok (true, appendAuditEvent
          ((db.updateJob lease.jobId fun job =>
              { job.released with state := .succeeded, completedAt := some now }).updateAttempt
            lease.jobId lease.fencingGeneration fun attempt =>
              { attempt with state := .succeeded, completedAt := some now })
          job.ownerUserId .jobSucceeded .job lease.jobId job.fencingGeneration now)

/-! ### Rescuing expired leases -/

/-- `state in ("LEASED", "RUNNING")` and `lease_expires_at <= now`. -/
def expired (now : ℤ) (job : JobRecord) : Bool :=
  job.state.held && job.leaseExpiresAt.any fun expires => expires ≤ now

/-- One turn of `rescue_expired`. -/
def rescueJob (now : ℤ) (db : Database) (jobId : String) (job : JobRecord) : Database :=
  let closed := db.updateAttempt jobId job.fencingGeneration fun attempt =>
    attempt.close .expired (some "LEASE_EXPIRED") now
  if !scopeValid db job then
    appendAuditEvent
      (closed.updateJob jobId fun job => job.finishWithoutLease .cancelled "SCOPE_FENCED" now)
      job.ownerUserId .jobCancelled .job jobId job.fencingGeneration now
  else if job.maxAttempts ≤ job.attemptCount then
    appendAuditEvent
      (markImportTerminal
        (closed.updateJob jobId fun job =>
          job.finishWithoutLease .failed "ATTEMPT_BUDGET_EXHAUSTED" now)
        job (some "ATTEMPT_BUDGET_EXHAUSTED"))
      job.ownerUserId .jobFailed .job jobId job.fencingGeneration now
  else
    appendAuditEvent
      ((closed.updateJob jobId fun job =>
          { job.released with state := .queued, notBefore := now }).updateJobImport job
        fun imported => { imported with state := .queued })
      job.ownerUserId .jobRetryScheduled .job jobId job.fencingGeneration now

/-- `rescue_expired`: how many leases had expired. -/
def rescueExpired (db : Database) (now : ℤ) : ℕ × Database :=
  let rows := db.jobs.entries.filter fun e => expired now e.2
  (rows.length, rows.foldl (fun db e => rescueJob now db e.1 e.2) db)

end RateReplay
