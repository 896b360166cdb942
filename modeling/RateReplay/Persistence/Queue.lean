import RateReplay.Lib.Runs
import RateReplay.Persistence.StoreChanges

/-!
# Runs of the job queue

The queue as a system of processes that take their transactions in any order and may stop
between any two of them.  A step is one transaction: an operation of the job service, of a
worker or of an owner, computed by its own function; or a transaction of another component,
known by what it does to the tables of jobs and attempts.

## Main definitions

* `QueueOperation`, `QueueStep` — the transactions.
* `Counted`, `Settled` — what is known of a job and its attempts.
* `CancelsLive`, `CancelsUnheld` — conditions on the cancellations of a run.

## Main results

* `QueueStep.change` — **what one transaction does to a job and its attempts.**
* `queue_fencing` — **fences count attempts, and an old lease changes nothing.**
* `queue_outcome_stable` — **a job that has ended stays as it ended**, unless a scenario is
  cancelled whose job has ended.
* `queue_attempts_closed` — **a job that has ended has no open attempt**, unless a held job is
  cancelled.
-/

namespace RateReplay

open List

/-! ### The transactions -/

/-- A job as it is submitted. -/
structure JobRecord.Submitted (job : JobRecord) : Prop where
  state : job.state = .queued
  attemptCount : job.attemptCount = 0
  fencingGeneration : job.fencingGeneration = 0

/-- A job recorded together with its result, as the inline replay does. -/
structure JobRecord.Recorded (job : JobRecord) (jobId : String) (attempt : JobAttemptRecord) :
    Prop where
  state : job.state = .succeeded
  attemptCount : job.attemptCount = 1
  fencingGeneration : job.fencingGeneration = 1
  maxAttempts : job.maxAttempts = 1
  jobId : attempt.jobId = jobId
  attemptState : attempt.state = .succeeded

/-- The transactions, with what they are given. -/
inductive QueueOperation
  /-- A job is submitted. -/
  | submit (jobId : String) (job : JobRecord)
  /-- A job is recorded with its result and its only attempt. -/
  | record (jobId : String) (job : JobRecord) (attemptId : String) (attempt : JobAttemptRecord)
  | rescueExpired (now : ℤ)
  | leaseNext (kinds : List JobKind) (workerId : String) (now : ℤ) (attemptId : String)
  | start (lease : JobLease) (now : ℤ)
  | heartbeat (lease : JobLease) (now : ℤ)
  | fail (lease : JobLease) (code : String) (retryable : Bool) (now : ℤ)
  | cancel (ownerUserId jobId : String) (now : ℤ)
  | completeSystem (lease : JobLease) (now : ℤ)
  | finalize (request : FinalizeRequest) (publish : PublishResult)
  | resolveRace (request : FinalizeRequest)
  | publishDraft (lease : JobLease) (importId : String) (draft : DraftRows) (now : ℤ)
  | cancelScenario (ownerUserId scenarioId : String) (now : ℤ)
  /-- The fence of a deletion. -/
  | fence (kind : TargetKind) (targetId ownerUserId : String) (now : ℤ)
  /-- Jobs are removed with their attempts, by a deletion or by retention. -/
  | remove (jobIds : List String)
  /-- Any transaction that leaves jobs and attempts alone. -/
  | other

/-- One transaction. -/
inductive QueueStep (retryDelay : String → ℕ → ℤ) (db : Database) :
    QueueOperation → Database → Prop
  | submit {db' : Database} {jobId job} (hsubmitted : job.Submitted)
      (hnew : db.jobs.get? jobId = none) (hjobs : db'.jobs = db.jobs.set jobId job)
      (hattempts : db'.attempts = db.attempts) : QueueStep retryDelay db (.submit jobId job) db'
  | record {db' : Database} {jobId job attemptId attempt} (hrecorded : job.Recorded jobId attempt)
      (hnew : db.jobs.get? jobId = none) (hjobs : db'.jobs = db.jobs.set jobId job)
      (hnewAttempt : db.attempts.get? attemptId = none)
      (hattempts : db'.attempts = db.attempts.set attemptId attempt) :
      QueueStep retryDelay db (.record jobId job attemptId attempt) db'
  | rescueExpired {now} :
      QueueStep retryDelay db (.rescueExpired now) (rescueExpired db now).2
  | leaseNext {kinds workerId now attemptId} :
      QueueStep retryDelay db (.leaseNext kinds workerId now attemptId)
        (committed db (leaseNext db kinds workerId now attemptId))
  | start {lease now} :
      QueueStep retryDelay db (.start lease now) (start db lease now).2
  | heartbeat {lease now} :
      QueueStep retryDelay db (.heartbeat lease now) (heartbeat db lease now).2
  | fail {lease code retryable now} :
      QueueStep retryDelay db (.fail lease code retryable now)
        (fail retryDelay db lease code retryable now).2
  | cancel {ownerUserId jobId now} :
      QueueStep retryDelay db (.cancel ownerUserId jobId now) (cancel db ownerUserId jobId now).2
  | completeSystem {lease now} :
      QueueStep retryDelay db (.completeSystem lease now)
        (committed db (completeSystem db lease now))
  | finalize {request publish} :
      QueueStep retryDelay db (.finalize request publish)
        (committed db (finalizeOnce db request publish))
  | resolveRace {request} :
      QueueStep retryDelay db (.resolveRace request) (committed db (resolveSemanticRace db request))
  | publishDraft {lease importId draft now} :
      QueueStep retryDelay db (.publishDraft lease importId draft now)
        (committed db
          (publishDraft db importId draft lease.workerId lease.fencingGeneration now))
  | cancelScenario {ownerUserId scenarioId now} :
      QueueStep retryDelay db (.cancelScenario ownerUserId scenarioId now)
        (committed db (cancelScenario db ownerUserId scenarioId now))
  | fence {db' : Database} {kind targetId ownerUserId now}
      (hjobs : db'.jobs = (fenceDependentWork db kind targetId ownerUserId now).jobs)
      (hattempts : db'.attempts = db.attempts) :
      QueueStep retryDelay db (.fence kind targetId ownerUserId now) db'
  | remove {db' : Database} {jobIds}
      (hjobs : db'.jobs = db.jobs.deleteWhere fun id _ => id ∈ jobIds)
      (hattempts : db'.attempts = db.attempts.deleteWhere fun _ attempt =>
        attempt.jobId ∈ jobIds) :
      QueueStep retryDelay db (.remove jobIds) db'
  | other {db' : Database} (hjobs : db'.jobs = db.jobs)
      (hattempts : db'.attempts = db.attempts) : QueueStep retryDelay db .other db'

/-- The lease an operation is presented with. -/
def QueueOperation.lease : QueueOperation → Option JobLease
  | .start lease _ | .heartbeat lease _ | .fail lease _ _ _ | .completeSystem lease _
  | .publishDraft lease _ _ _ => some lease
  | .finalize request _ | .resolveRace request => some request.lease
  | _ => none

/-- A queue without jobs. -/
def EmptyQueue (db : Database) : Prop := db.jobs = Dict.empty ∧ db.attempts = Dict.empty

/-! ### What a transaction does -/

/-- The operation is a cancellation that is not refused, and it writes to the job. -/
def Cancels (db : Database) (operation : QueueOperation) (id : String) (job : JobRecord) : Prop :=
  db.jobs.get? id = some job ∧
    match operation with
    | .cancel ownerUserId jobId _ =>
      jobId = id ∧ job.ownerUserId = some ownerUserId ∧ job.state.terminal = false
    | .cancelScenario ownerUserId scenarioId _ => ∃ scenario,
      db.scenarios.get? scenarioId = some scenario ∧ scenario.jobId = id ∧
        scenario.Cancellable ownerUserId
    | _ => False

/-- What a transaction does to jobs and attempts: it moves jobs along `R`, it creates one, or it
removes some. -/
inductive QueueChange (R : JobView → JobView → Prop) (db db' : Database) : QueueOperation → Prop
  | moves {operation : QueueOperation} (h : JobMoves R db db') : QueueChange R db db' operation
  | submits {jobId : String} {job : JobRecord} (hsubmitted : job.Submitted)
      (hnew : db.jobs.get? jobId = none) (hjobs : db'.jobs = db.jobs.set jobId job)
      (hattempts : db'.attempts = db.attempts) : QueueChange R db db' (.submit jobId job)
  | records {jobId : String} {job : JobRecord} {attemptId : String} {attempt : JobAttemptRecord}
      (hrecorded : job.Recorded jobId attempt) (hnew : db.jobs.get? jobId = none)
      (hjobs : db'.jobs = db.jobs.set jobId job)
      (hnewAttempt : db.attempts.get? attemptId = none)
      (hattempts : db'.attempts = db.attempts.set attemptId attempt) :
      QueueChange R db db' (.record jobId job attemptId attempt)
  | removes {jobIds : List String}
      (hjobs : db'.jobs = db.jobs.deleteWhere fun id _ => id ∈ jobIds)
      (hattempts : db'.attempts = db.attempts.deleteWhere fun _ attempt =>
        attempt.jobId ∈ jobIds) : QueueChange R db db' (.remove jobIds)

section Change

variable {retryDelay : String → ℕ → ℤ} {R : JobView → JobView → Prop} {db db' : Database}
  {operation : QueueOperation}

/-- **What one transaction does to a job and its attempts**, for every relation that contains
the regular moves and the cancellations the transaction makes. -/
theorem QueueStep.change (heff : ∀ v v', JobEffect v v' → R v v')
    (hcan : ∀ id job now, Cancels db operation id job →
      R ⟨job, db.attemptsOf id⟩ ⟨job.cancelledByOwner now, db.attemptsOf id⟩)
    (h : QueueStep retryDelay db operation db') : QueueChange R db db' operation := by
  cases h with
  | submit hsubd hnew hjs hatt => exact .submits hsubd hnew hjs hatt
  | record hrcd hnew hjs hnewAttempt hatt =>
    exact .records hrcd hnew hjs hnewAttempt hatt
  | rescueExpired => exact .moves ((rescueExpired_writes.moves fun _ _ => id).mono heff)
  | leaseNext =>
    refine .moves (committed_of (JobMoves.refl db) fun _ _ hok => ?_)
    exact ((leaseLoop_writes hok).moves fun _ _ => id).mono heff
  | start => exact .moves ((start_write.moves fun _ _ => id).mono heff)
  | heartbeat => exact .moves ((heartbeat_write.moves fun _ _ => id).mono heff)
  | fail => exact .moves ((fail_write.moves fun _ _ => id).mono heff)
  | cancel =>
    refine .moves ((cancel_write fun job hj howner hlive => ?_).moves heff)
    exact hcan _ job _ ⟨hj, rfl, howner, hlive⟩
  | completeSystem => exact .moves ((completeSystem_write.moves fun _ _ => id).mono heff)
  | finalize => exact .moves (finalizeOnce_moves.mono heff)
  | resolveRace => exact .moves (resolveSemanticRace_moves.mono heff)
  | publishDraft => exact .moves (publishDraft_moves.mono heff)
  | cancelScenario =>
    refine .moves (cancelScenario_moves fun scenario job hsn hcble hj => ?_)
    exact hcan _ job _ ⟨hj, scenario, hsn, rfl, hcble⟩
  | fence hjs hatt =>
    exact .moves ((fenceDependentWork_moves.mono heff).frame hjs hatt)
  | remove hjs hatt => exact .removes hjs hatt
  | other hjs hatt => exact .moves (JobMoves.of_frame hjs hatt)

end Change

/-! ### The other components

Submissions, fences and sweeps take steps of the queue. -/

section Components

variable {retryDelay : String → ℕ → ℤ} {db : Database} {now : ℤ} {keys : DeletionKeys}
  {receiptId : String} {lease : JobLease} {request : CalculationRequest} {deletionId : String}
  {completed requested : LedgerEvent}

/-- A transaction whose every commit is a step is a step. -/
theorem exists_step_of {α : Type} {outcome : Transaction α}
    (h : ∀ r db', outcome = .ok (r, db') → ∃ operation, QueueStep retryDelay db operation db') :
    ∃ operation, QueueStep retryDelay db operation (committed db outcome) :=
  committed_of (P := fun db' => ∃ operation, QueueStep retryDelay db operation db')
    ⟨.other, .other rfl rfl⟩ h

theorem submitCalculation_step {initializeNewJob : JobInitializer}
    (hfrm : ∀ db db' submission, initializeNewJob db submission = .ok db' →
      db'.jobs = db.jobs ∧ db'.attempts = db.attempts) :
    ∃ operation, QueueStep retryDelay db operation
      (committed db (submitCalculation db request initializeNewJob)) := by
  refine exists_step_of fun submission db' h => ?_
  rcases submitCalculation_eq_ok h with rfl | ⟨routeId, user, profile, imported, -, -,
    ⟨_, rfl⟩ | ⟨auditEvents, hnew, -, hini⟩⟩
  · exact ⟨.other, .other rfl rfl⟩
  · exact ⟨.other, .other rfl rfl⟩
  · obtain ⟨hjs, hatt⟩ := hfrm _ _ _ hini
    exact ⟨.submit request.jobId (calculationJob request user profile imported),
      .submit ⟨rfl, rfl, rfl⟩ hnew hjs hatt⟩

theorem submitScenario_step {content : ScenarioContent} :
    ∃ operation, QueueStep retryDelay db operation
      (committed db (submitScenario db request content)) :=
  submitCalculation_step fun _ _ _ h => initializeScenario_frame h

theorem recordSubmission_step {upload : ImportUpload} {accountGeneration : ℕ}
    {ids : ImportIdentifiers} :
    ∃ operation, QueueStep retryDelay db operation
      (committed db (recordSubmission db upload accountGeneration ids now)) := by
  refine exists_step_of fun submission db' h => ?_
  rcases recordSubmission_eq_ok h with hinsd | rfl
  · obtain ⟨-, -, hnew, auditEvents, rfl⟩ := insertSubmission_eq_ok hinsd
    exact ⟨.submit ids.jobId (submittedJob upload accountGeneration ids.importId now),
      .submit ⟨rfl, rfl, rfl⟩ hnew rfl rfl⟩
  · exact ⟨.other, .other rfl rfl⟩

theorem fencePrepared_step {prepared : LedgerEvent} :
    ∃ operation, QueueStep retryDelay db operation
      (committed db (fencePrepared keys db prepared receiptId now)) := by
  refine exists_step_of fun u db' h => ?_
  obtain ⟨intent, -, -, -, hcases⟩ := fencePrepared_eq_ok h
  rcases hcases with ⟨control, ledgerReceipts, -, -, rfl⟩ | ⟨target, user, -, -, -, -, hfcd⟩
  · exact ⟨.other, .other rfl rfl⟩
  · exact ⟨.fence intent.targetKind target.id intent.ownerUserId now,
      .fence hfcd.jobs (by rw [hfcd.rest])⟩

theorem recordRequested_step {jobId : String} :
    ∃ operation, QueueStep retryDelay db operation
      (committed db (recordRequested keys db deletionId requested jobId receiptId now)) := by
  refine exists_step_of fun u db' h => ?_
  obtain ⟨control, target, -, -, -, -, -, hcases⟩ := recordRequested_eq_ok h
  rcases hcases with ⟨ledgerReceipts, -, -, rfl⟩ | ⟨-, hstd⟩
  · exact ⟨.other, .other rfl rfl⟩
  · obtain ⟨user, importGeneration, -, -, hjs⟩ := hstd.jobs
    exact ⟨_, .submit ⟨rfl, rfl, rfl⟩ hstd.newJob hjs (by rw [hstd.rest])⟩

/-! The control plane goes with the job that swept it. -/

theorem removeControl_jobs (deletionId : String) (jobId : Option String) :
    (removeControl db deletionId jobId).jobs
      = db.jobs.deleteWhere fun id _ => id ∈ jobId.toList := by
  have hsame : (fun (id : String) (_ : JobRecord) => decide (some id = jobId))
      = fun id _ => decide (id ∈ jobId.toList) := by
    funext id _
    simp [Option.mem_toList, eq_comm]
  rw [← hsame]
  rfl

theorem removeControl_attempts (deletionId : String) (jobId : Option String) :
    (removeControl db deletionId jobId).attempts
      = db.attempts.deleteWhere fun _ attempt => attempt.jobId ∈ jobId.toList := by
  have hsame : (fun (_ : String) (attempt : JobAttemptRecord) =>
      decide (some attempt.jobId = jobId))
      = fun _ attempt => decide (attempt.jobId ∈ jobId.toList) := by
    funext _ attempt
    simp [Option.mem_toList, eq_comm]
  rw [← hsame]
  rfl

theorem sweepRows_step :
    ∃ operation, QueueStep retryDelay db operation (committed db (sweepRows db lease now)) := by
  refine exists_step_of fun u db' h => ?_
  obtain ⟨scope, receipts, -, rfl⟩ := sweepRows_eq_ok h
  by_cases hk : scope.control.targetKind = .account
  · simp only [hk, if_true]
    exact ⟨_, .remove rfl rfl⟩
  · simp only [hk, if_false]
    exact ⟨.other, .other rfl rfl⟩

theorem verifyRows_step {objectsOrRowsLeft : Bool} :
    ∃ operation, QueueStep retryDelay db operation
      (committed db (verifyRows db lease objectsOrRowsLeft now)) := by
  refine exists_step_of fun verified db' h => ?_
  obtain ⟨scope, receipts, -, ⟨-, rfl⟩ | ⟨-, rfl⟩⟩ := verifyRows_eq_ok h
  · exact ⟨.other, .other rfl rfl⟩
  · by_cases hk : scope.control.targetKind = .account
    · simp only [hk, if_true]
      exact ⟨.other, .other rfl rfl⟩
    · simp only [hk, if_false]
      exact ⟨_, .remove rfl rfl⟩

theorem completeSubsumed_step {requestedId completedId : String} :
    ∃ operation, QueueStep retryDelay db operation (committed db
      (completeSubsumed keys db deletionId requested completed requestedId completedId now)) := by
  refine exists_step_of fun u db' h => ?_
  rcases completeSubsumed_eq_ok h with rfl | ⟨control, ledgerReceipts, tombstones, -, -, -, -, rfl⟩
  · exact ⟨.other, .other rfl rfl⟩
  · exact ⟨.remove control.deletionJobId.toList,
      .remove (removeControl_jobs _ _) (removeControl_attempts _ _)⟩

theorem complete_step :
    ∃ operation, QueueStep retryDelay db operation
      (committed db (complete keys db lease completed receiptId now)) := by
  refine exists_step_of fun u db' h => ?_
  obtain ⟨scope, ledgerReceipts, tombstones, -, -, -, rfl⟩ := complete_eq_ok h
  refine ⟨.remove (some lease.jobId).toList, .remove ?_ ?_⟩
  · rw [deleteTarget_jobs]
    exact removeControl_jobs _ _
  · rw [deleteTarget_attempts]
    exact removeControl_attempts _ _

end Components

/-! ### A small store

An account with one confirmed import, and a scenario submitted for its profile.  Its job is
leased three times by a worker that dies. -/

namespace SmallStore

def owner : String := "00000000000000000000000000000001"
def importId : String := "00000000000000000000000000000002"
def profileId : String := "00000000000000000000000000000003"
def jobId : String := "00000000000000000000000000000004"
def scenarioId : String := "00000000000000000000000000000005"
def operationId : String := "00000000000000000000000000000006"

/-- Sixty-four digits that stand for a hash. -/
def digest (digit : Char) : String := String.ofList (List.replicate 64 digit)

def user : UserRecord where
  usernameCanonical := "owner"
  passwordHash := "hash"
  lifecycleState := .active
  lifecycleGeneration := 0
  deletionScopeId := "10000000000000000000000000000001"

def imported : ImportRecord where
  ownerUserId := owner
  state := .confirmed
  lifecycleState := .active
  lifecycleGeneration := 0
  deletionScopeId := "10000000000000000000000000000002"
  adapter := "PGE_CSV"
  rawContentHash := digest '1'
  createdAt := 0
  publishedAt := some 0
  confirmedAt := some 0
  failureCode := none
  profileVersionId := some profileId

def content : ConfirmedContent where
  contentHash := digest '2'
  canonicalContent := []
  billingPeriodStartUtcNs := 0
  billingPeriodEndUtcNs := 3600000000000
  tariffTimezone := "America/Los_Angeles"
  intervalResolutionSeconds := 3600

def profile : ProfileVersionRecord :=
  newProfile owner importId content "10000000000000000000000000000003" 0

/-- The store before any job. -/
def initial : Database :=
  { (default : Database) with
    users := Dict.empty.set owner user
    imports := Dict.empty.set importId imported
    profiles := Dict.empty.set profileId profile }

def request : CalculationRequest where
  ownerUserId := owner
  profileVersionId := profileId
  jobKind := .scenario
  requestSchemaVersion := "scenario-operation-v1"
  idempotencyKey := "scenario-1"
  canonicalPayload := "\x7b\x7d"
  operationRequestHash := digest '3'
  identity := ⟨.scenario, "scenario-operation-v1", "verified-scenario-calculation-v1", digest '2',
    digest '4'⟩
  jobId := jobId
  operationId := operationId
  now := 0

def scenarioContent : ScenarioContent where
  tariffVersionId := "tariff"
  inputHash := digest '5'
  inputJson := "\x7b\x7d"
  scenarioId := scenarioId
  loads := []
  references := []

/-- The scenario is submitted. -/
def submitted : Database := committed initial (submitScenario initial request scenarioContent)

/-- A worker leases the next scenario; the attempt gets this identifier. -/
def leaseAt (db : Database) (now : ℤ) (attemptId : String) : Database :=
  committed db (leaseNext db [.scenario] "worker-1" now attemptId)

def leased : Database := leaseAt submitted 0 "20000000000000000000000000000001"

/-- The lease has run out twice, and the job is leased for the last time. -/
def leasedAgain : Database :=
  leaseAt
    (rescueExpired
      (leaseAt (rescueExpired leased 20000000).2 20000000 "20000000000000000000000000000002")
      40000000).2
    40000000 "20000000000000000000000000000003"

/-- The last lease has run out. -/
def failed : Database := (rescueExpired leasedAgain 60000000).2

/-- No retry is delayed. -/
def noDelay : String → ℕ → ℤ := fun _ _ => 0

theorem submitted_step : QueueStep noDelay initial
    (.submit jobId (calculationJob request user profile imported)) submitted :=
  .submit ⟨rfl, rfl, rfl⟩ (by decide +kernel) (by decide +kernel) (by decide +kernel)

section Reached

variable {allowed : Database → QueueOperation → Prop}

/-- The run of the small store has no cancellation in it. -/
theorem leased_reached (hsub : ∀ db jobId job, allowed db (.submit jobId job))
    (hls : ∀ db kinds workerId now attemptId,
      allowed db (.leaseNext kinds workerId now attemptId)) :
    ReachedBy EmptyQueue (QueueStep noDelay) allowed leased := by
  have hinitial : ReachedBy EmptyQueue (QueueStep noDelay) allowed initial :=
    ⟨initial, ⟨rfl, rfl⟩, Runs.refl _⟩
  exact (hinitial.snoc (hsub _ _ _) submitted_step).snoc
    (hls _ [.scenario] "worker-1" 0 "20000000000000000000000000000001") .leaseNext

theorem leasedAgain_reached (hsub : ∀ db jobId job, allowed db (.submit jobId job))
    (hls : ∀ db kinds workerId now attemptId,
      allowed db (.leaseNext kinds workerId now attemptId))
    (hrescue : ∀ db now, allowed db (.rescueExpired now)) :
    ReachedBy EmptyQueue (QueueStep noDelay) allowed leasedAgain := by
  have hlsd := leased_reached hsub hls
  have htwice := (hlsd.snoc (hrescue _ 20000000) .rescueExpired).snoc
    (hls _ [.scenario] "worker-1" 20000000 "20000000000000000000000000000002") .leaseNext
  exact (htwice.snoc (hrescue _ 40000000) .rescueExpired).snoc
    (hls _ [.scenario] "worker-1" 40000000 "20000000000000000000000000000003") .leaseNext

theorem failed_reached (hsub : ∀ db jobId job, allowed db (.submit jobId job))
    (hls : ∀ db kinds workerId now attemptId,
      allowed db (.leaseNext kinds workerId now attemptId))
    (hrescue : ∀ db now, allowed db (.rescueExpired now)) :
    ReachedBy EmptyQueue (QueueStep noDelay) allowed failed :=
  (leasedAgain_reached hsub hls hrescue).snoc (hrescue _ 60000000) .rescueExpired

end Reached

end SmallStore

/-! ### Invariants of jobs -/

/-- Every job satisfies `P` with its attempts, and every attempt belongs to a job. -/
structure JobsSatisfy (P : JobView → Prop) (db : Database) : Prop where
  views : ∀ id job, db.jobs.get? id = some job → P ⟨job, db.attemptsOf id⟩
  orphans : ∀ id, db.jobs.get? id = none → db.attemptsOf id = []

section Invariants

variable {P : JobView → Prop} {db db' : Database} {operation : QueueOperation}

theorem JobsSatisfy.empty (h : EmptyQueue db) : JobsSatisfy P db := by
  obtain ⟨hjs, hatt⟩ := h
  refine ⟨fun id job hj => ?_, fun id _ => ?_⟩
  · rw [hjs] at hj
    cases hj
  · rw [Database.attemptsOf, hatt]
    rfl

/-- A sequence of steps that keep `P` keeps `P`. -/
theorem reflTransGen_imp {v v' : JobView}
    (h : Relation.ReflTransGen (fun v v' => P v → P v') v v') (hv : P v) : P v' := by
  induction h with
  | refl => exact hv
  | tail _ hs ih => exact hs ih

theorem JobsSatisfy.moves (hinv : JobsSatisfy P db)
    (h : JobMoves (fun v v' => P v → P v') db db') : JobsSatisfy P db' := by
  refine ⟨fun id job' hj' => ?_, fun id hnone => ?_⟩
  · cases hj : db.jobs.get? id with
    | none =>
      rw [h.get?_eq_none.mpr hj] at hj'
      cases hj'
    | some job =>
      obtain ⟨job'', hj'', hmoves⟩ := h.get? hj
      cases hj'.symm.trans hj''
      exact reflTransGen_imp hmoves (hinv.views id job hj)
  · have hold := h.get?_eq_none.mp hnone
    exact (h.orphans id hold).trans (hinv.orphans id hold)

/-- A new job comes with the attempts inserted with it. -/
theorem JobsSatisfy.insert {jobId : String} {job : JobRecord} (hinv : JobsSatisfy P db)
    (hjs : db'.jobs = db.jobs.set jobId job) (hP : P ⟨job, db'.attemptsOf jobId⟩)
    (hothers : ∀ id, id ≠ jobId → db'.attemptsOf id = db.attemptsOf id) : JobsSatisfy P db' := by
  refine ⟨fun id job' hj' => ?_, fun id hnone => ?_⟩
  · by_cases hid : id = jobId
    · rw [hid, hjs, Dict.get?_set_self] at hj'
      cases hj'
      rw [hid]
      exact hP
    · rw [hjs, Dict.get?_set_of_ne _ _ hid] at hj'
      rw [hothers id hid]
      exact hinv.views id job' hj'
  · have hid : id ≠ jobId := by
      intro heq
      rw [heq, hjs, Dict.get?_set_self] at hnone
      cases hnone
    rw [hjs, Dict.get?_set_of_ne _ _ hid] at hnone
    rw [hothers id hid]
    exact hinv.orphans id hnone

theorem attemptsOf_deleteWhere {jobIds : List String} (id : String)
    (hatt : db'.attempts = db.attempts.deleteWhere fun _ attempt => attempt.jobId ∈ jobIds) :
    db'.attemptsOf id = if id ∈ jobIds then [] else db.attemptsOf id := by
  have hvalues : db'.attempts.values
      = db.attempts.values.filter fun attempt => attempt.jobId ∉ jobIds := by
    rw [hatt, Dict.values, Dict.deleteWhere, Dict.entries_filter, Dict.values,
      filter_map]
    simp only [Function.comp_def, decide_not]
  rw [Database.attemptsOf, hvalues, filter_filter]
  by_cases hid : id ∈ jobIds
  · rw [if_pos hid, filter_eq_nil_iff]
    intro attempt _ hboth
    simp only [Bool.and_eq_true, decide_eq_true_eq] at hboth
    exact hboth.2 (hboth.1 ▸ hid)
  · rw [if_neg hid, Database.attemptsOf]
    refine filter_congr fun attempt _ => ?_
    by_cases hj : attempt.jobId = id
    · simp [hj, hid]
    · simp [hj]

/-- **What every move keeps and every new job has, a transaction keeps.** -/
theorem JobsSatisfy.change (hinv : JobsSatisfy P db)
    (hsubd : ∀ job : JobRecord, job.Submitted → P ⟨job, []⟩)
    (hrcd : ∀ (job : JobRecord) jobId attempt, job.Recorded jobId attempt →
      P ⟨job, [attempt]⟩)
    (h : QueueChange (fun v v' => P v → P v') db db' operation) : JobsSatisfy P db' := by
  cases h with
  | moves h => exact hinv.moves h
  | @submits jobId job hj hnew hjs hatt =>
    have hof : ∀ id, db'.attemptsOf id = db.attemptsOf id := by
      intro id
      rw [Database.attemptsOf, Database.attemptsOf, hatt]
    refine hinv.insert hjs ?_ fun id _ => hof id
    rw [hof, hinv.orphans jobId hnew]
    exact hsubd job hj
  | @records jobId job attemptId attempt hj hnew hjs hnewAttempt hatt =>
    have hof := attemptsOf_insert hnewAttempt hatt
    refine hinv.insert hjs ?_ fun id hid => ?_
    · rw [hof, hinv.orphans jobId hnew, if_pos hj.jobId]
      exact hrcd job jobId attempt hj
    · rw [hof, if_neg (hj.jobId ▸ Ne.symm hid), append_nil]
  | @removes jobIds hjs hatt =>
    refine ⟨fun id job hj => ?_, fun id hnone => ?_⟩
    · rw [hjs, Dict.get?_deleteWhere, Option.filter_eq_some_iff] at hj
      obtain ⟨hold, hkept⟩ := hj
      rw [attemptsOf_deleteWhere id hatt, if_neg (by simpa using hkept)]
      exact hinv.views id job hold
    · rw [attemptsOf_deleteWhere id hatt]
      split
      · rfl
      · rename_i hkept
        refine hinv.orphans id ?_
        cases hold : db.jobs.get? id with
        | none => rfl
        | some job =>
          rw [hjs, Dict.get?_deleteWhere, hold, Option.filter_some] at hnone
          simp [hkept] at hnone

end Invariants

/-! ### Old leases -/

section Stale

variable {retryDelay : String → ℕ → ℤ} {db db' : Database} {lease : JobLease} {job : JobRecord}
  {now : ℤ} {request : FinalizeRequest}

theorem leaseMatches_of_stale (hstale : lease.fencingGeneration ≠ job.fencingGeneration) :
    leaseMatches job lease = false := by
  rw [Bool.eq_false_iff]
  intro hmat
  exact hstale (leaseMatches_fencing hmat).symm

section Stale

variable (hj : db.jobs.get? lease.jobId = some job)
  (hstale : lease.fencingGeneration ≠ job.fencingGeneration)

include hj hstale

theorem start_of_stale : (start db lease now).2 = db := by
  rw [start, currentFencedJob_of_stale hj hstale]

theorem heartbeat_of_stale :
    (heartbeat db lease now).2 = db := by
  simp [heartbeat, hj, leaseMatches_of_stale hstale]

theorem fail_of_stale {code : String} {retryable : Bool} :
    (fail retryDelay db lease code retryable now).2 = db := by
  simp [fail, hj, leaseMatches_of_stale hstale]

theorem completeSystem_of_stale :
    committed db (completeSystem db lease now) = db := by
  unfold completeSystem
  split
  · rfl
  · rw [currentFencedJob_of_stale hj hstale]
    rfl

end Stale

theorem finalizeOnce_of_stale {publish : PublishResult}
    (hj : db.jobs.get? request.lease.jobId = some job)
    (hstale : request.lease.fencingGeneration ≠ job.fencingGeneration) :
    committed db (finalizeOnce db request publish) = db := by
  refine committed_of (P := fun db' => db' = db) rfl fun result db' h => ?_
  rcases finalizeOnce_eq_ok h with rfl | ⟨fenced, hf, -⟩
  · rfl
  · rw [currentFencedJob_of_stale hj hstale] at hf
    cases hf

theorem resolveSemanticRace_of_stale (hj : db.jobs.get? request.lease.jobId = some job)
    (hstale : request.lease.fencingGeneration ≠ job.fencingGeneration) :
    committed db (resolveSemanticRace db request) = db := by
  refine committed_of (P := fun db' => db' = db) rfl fun result db' h => ?_
  rcases resolveSemanticRace_eq_ok h with rfl | ⟨fenced, claim, hf, -⟩
  · rfl
  · rw [currentFencedJob_of_stale hj hstale] at hf
    cases hf

/-- A publication under an old lease leaves the job of the lease alone, whichever job it finds
for the import. -/
theorem publishDraft_of_stale {importId : String} {draft : DraftRows}
    (hj : db.jobs.get? lease.jobId = some job)
    (hstale : lease.fencingGeneration ≠ job.fencingGeneration) :
    (committed db (publishDraft db importId draft lease.workerId lease.fencingGeneration now)).view
      lease.jobId = db.view lease.jobId := by
  refine committed_of (P := fun db' => db'.view lease.jobId = db.view lease.jobId) rfl
    fun published db' h => ?_
  rcases publishDraft_eq_ok h with ⟨-, rfl⟩ | ⟨-, jobId, found, record, readings, findings, hfnd,
    -, hpubl, rfl⟩
  · rfl
  · have hne : lease.jobId ≠ jobId := by
      intro heq
      have hg := (Dict.first_eq_some_get? hfnd).1
      rw [← heq, hj] at hg
      cases hg
      exact hstale (publishable_iff.mp hpubl).2.2.1.symm
    refine view_congr (Dict.get?_modify_of_ne _ _ hne) ?_
    have hoth : (db.updateAttempt jobId lease.fencingGeneration fun attempt =>
        { attempt with state := .succeeded, completedAt := some now }).attemptsOf lease.jobId
        = db.attemptsOf lease.jobId := by
      rw [attemptsOf_updateAttempt, if_neg hne]
      intro attempt
      rfl
    exact hoth

/-- **An operation presented with a lease of another generation leaves the job and its attempts
alone.** -/
theorem QueueStep.view_of_stale {operation : QueueOperation}
    (h : QueueStep retryDelay db operation db') (hls : operation.lease = some lease)
    (hj : db.jobs.get? lease.jobId = some job)
    (hstale : lease.fencingGeneration ≠ job.fencingGeneration) :
    db'.view lease.jobId = db.view lease.jobId := by
  cases h with
  | start =>
    cases hls
    rw [start_of_stale hj hstale]
  | heartbeat =>
    cases hls
    rw [heartbeat_of_stale hj hstale]
  | fail =>
    cases hls
    rw [fail_of_stale hj hstale]
  | completeSystem =>
    cases hls
    rw [completeSystem_of_stale hj hstale]
  | finalize =>
    cases hls
    rw [finalizeOnce_of_stale hj hstale]
  | resolveRace =>
    cases hls
    rw [resolveSemanticRace_of_stale hj hstale]
  | publishDraft =>
    cases hls
    exact publishDraft_of_stale hj hstale
  | submit | record | rescueExpired | leaseNext | cancel | cancelScenario | fence | remove
  | other => cases hls

end Stale

/-! ### Fences count attempts -/

/-- The fencing generation of a job is the number of its attempts, which its budget bounds. -/
def Counted (v : JobView) : Prop :=
  v.job.fencingGeneration = v.job.attemptCount ∧ v.attempts.length = v.job.attemptCount ∧
    v.job.attemptCount ≤ v.job.maxAttempts

section Fencing

variable {retryDelay : String → ℕ → ℤ} {v v' : JobView} {db : Database}

/-- A job of the same run with as many attempts is counted as before. -/
theorem Counted.of_same {job' : JobRecord} {attempts : List JobAttemptRecord} (h : Counted v)
    (hsame : SameRun job' v.job) (hlength : attempts.length = v.attempts.length) :
    Counted ⟨job', attempts⟩ := by
  obtain ⟨hfencing, hatt, hbud⟩ := h
  refine ⟨?_, ?_, ?_⟩
  · show job'.fencingGeneration = job'.attemptCount
    rw [hsame.fencingGeneration, hsame.attemptCount, hfencing]
  · show attempts.length = job'.attemptCount
    rw [hlength, hatt, hsame.attemptCount]
  · show job'.attemptCount ≤ job'.maxAttempts
    rw [hsame.attemptCount, hsame.maxAttempts]
    exact hbud

theorem Counted.effect (heff : JobEffect v v') (h : Counted v) : Counted v' := by
  cases heff with
  | lease hq hcan hbud =>
    obtain ⟨hfencing, hatt, -⟩ := h
    refine ⟨?_, ?_, ?_⟩
    · show v.job.fencingGeneration + 1 = v.job.attemptCount + 1
      rw [hfencing]
    · rw [length_append, length_singleton, hatt]
      rfl
    · exact hbud
  | settle hq hst hsame => exact h.of_same hsame rfl
  | hold hheld hst hsame hf => exact h.of_same hsame (length_map _)
  | release hheld hst hsame hf hclosed => exact h.of_same hsame (length_map _)

theorem jobsSatisfy_counted
    (h : ReachedBy EmptyQueue (QueueStep retryDelay) (fun _ _ => True) db) :
    JobsSatisfy Counted db := by
  refine h.invariant (fun s hs => JobsSatisfy.empty hs) fun s operation t hinv _ hstep => ?_
  refine hinv.change ?_ ?_ (hstep.change (fun v v' heff => Counted.effect heff) ?_)
  · intro job hj
    refine ⟨?_, ?_, ?_⟩
    · rw [hj.fencingGeneration, hj.attemptCount]
    · rw [hj.attemptCount]
      rfl
    · rw [hj.attemptCount]
      exact Nat.zero_le _
  · intro job jobId attempt hj
    refine ⟨?_, ?_, ?_⟩
    · rw [hj.fencingGeneration, hj.attemptCount]
    · rw [hj.attemptCount]
      rfl
    · rw [hj.attemptCount, hj.maxAttempts]
  · intro id job now _ hcounted
    exact hcounted.of_same (SameRun.cancelledByOwner job) rfl

/-- **Fences count attempts, and an old lease changes nothing.**  In every state the queue
reaches, the fencing generation of a job is its attempt count and the number of its attempt
records, within its budget; and an operation presented with a lease of an older generation
leaves the job and its attempts as they are. -/
theorem queue_fencing (h : ReachedBy EmptyQueue (QueueStep retryDelay) (fun _ _ => True) db) :
    (∀ id job, db.jobs.get? id = some job → job.fencingGeneration = job.attemptCount ∧
      (db.attemptsOf id).length = job.attemptCount ∧ job.attemptCount ≤ job.maxAttempts) ∧
    ∀ operation db' lease job, operation.lease = some lease →
      QueueStep retryDelay db operation db' → db.jobs.get? lease.jobId = some job →
      lease.fencingGeneration < job.fencingGeneration →
      db'.jobs.get? lease.jobId = some job ∧
        db'.attemptsOf lease.jobId = db.attemptsOf lease.jobId := by
  refine ⟨(jobsSatisfy_counted h).views, ?_⟩
  intro operation db' lease job hlease hstep hjob hold
  have hview := hstep.view_of_stale hlease hjob (Nat.ne_of_lt hold)
  have hbefore : db.view lease.jobId = some ⟨job, db.attemptsOf lease.jobId⟩ :=
    view_eq_some.mpr ⟨hjob, rfl⟩
  obtain ⟨hjob', hattempts⟩ := view_eq_some.mp (hview.trans hbefore)
  exact ⟨hjob', hattempts.symm⟩

section

open SmallStore

/-- In the small store the job is leased for the third time, and the worker of the first lease
reports a failure: nothing changes. -/
theorem queue_fencing_first_lease :
    ReachedBy EmptyQueue (QueueStep noDelay) (fun _ _ => True) leasedAgain ∧
      ∃ lease job, (leaseNext submitted [.scenario] "worker-1" 0
          "20000000000000000000000000000001").toOption.bind (·.1) = some lease ∧
        lease.jobId = jobId ∧ lease.fencingGeneration = 1 ∧
        leasedAgain.jobs.get? jobId = some job ∧ job.fencingGeneration = 3 ∧
        job.attemptCount = 3 ∧ (leasedAgain.attemptsOf jobId).length = 3 ∧
        (fail noDelay leasedAgain lease "LOST" true 40000001).2.jobs.get? jobId = some job ∧
        (fail noDelay leasedAgain lease "LOST" true 40000001).2.attemptsOf jobId
          = leasedAgain.attemptsOf jobId := by
  have hreached : ReachedBy EmptyQueue (QueueStep noDelay) (fun _ _ => True) leasedAgain :=
    leasedAgain_reached (fun _ _ _ => trivial) (fun _ _ _ _ _ => trivial) fun _ _ => trivial
  have hlease : ∃ lease, (leaseNext submitted [.scenario] "worker-1" 0
      "20000000000000000000000000000001").toOption.bind (·.1) = some lease ∧
      lease.jobId = jobId ∧ lease.fencingGeneration = 1 := by
    decide +kernel
  have hjob : ∃ job, leasedAgain.jobs.get? jobId = some job ∧ job.fencingGeneration = 3 := by
    decide +kernel
  obtain ⟨lease, hlease, hid, hfirst⟩ := hlease
  obtain ⟨job, hget, hthird⟩ := hjob
  obtain ⟨hcounted, hstale⟩ := queue_fencing hreached
  obtain ⟨hcount, hlength, -⟩ := hcounted jobId job hget
  obtain ⟨hjob', hattempts⟩ := hstale (.fail lease "LOST" true 40000001) _ lease job rfl .fail
    (hid ▸ hget) (by rw [hfirst, hthird]; decide)
  rw [hid] at hjob' hattempts
  exact ⟨hreached, lease, job, hlease, hid, hfirst, hget, hthird, hcount.symm.trans hthird,
    hlength.trans (hcount.symm.trans hthird), hjob', hattempts⟩

end

end Fencing

/-! ### Jobs that have ended -/

/-- How a job has ended. -/
structure JobOutcome where
  state : JobState
  failureCode : Option String
  terminalResultType : Option String
  terminalResultId : Option String
  terminalSemanticHash : Option String
  deriving DecidableEq

def JobRecord.outcome (job : JobRecord) : JobOutcome :=
  ⟨job.state, job.failureCode, job.terminalResultType, job.terminalResultId,
    job.terminalSemanticHash⟩

/-- The move keeps the outcome of a job that has ended. -/
def KeepsOutcome (v v' : JobView) : Prop :=
  v.job.state.terminal = true → v'.job.outcome = v.job.outcome

/-- A cancellation finds a job that has not ended, or one that was cancelled by its owner
before. -/
def CancelsLive (db : Database) (operation : QueueOperation) : Prop :=
  ∀ id job, Cancels db operation id job → job.state.terminal = true →
    job.state = .cancelled ∧ job.failureCode = some "CANCELLED_BY_OWNER"

/-- The row of the job is not removed. -/
def KeepsRow (id : String) : QueueOperation → Prop
  | .remove jobIds => id ∉ jobIds
  | _ => True

section Outcome

variable {retryDelay : String → ℕ → ℤ} {v v' : JobView} {db db' : Database}

theorem KeepsOutcome.of_live (h : v.job.state.terminal = false) : KeepsOutcome v v' := by
  intro hterm
  rw [h] at hterm
  cases hterm

/-- No regular move starts from a job that has ended. -/
theorem JobEffect.live (heff : JobEffect v v') : v.job.state.terminal = false := by
  cases heff with
  | lease hq | settle hq =>
    rw [hq]
    rfl
  | hold hheld | release hheld => exact terminal_of_held hheld

theorem reflTransGen_keepsOutcome (h : Relation.ReflTransGen KeepsOutcome v v') :
    KeepsOutcome v v' := by
  induction h with
  | refl => exact fun _ => rfl
  | tail _ hs ih =>
    intro hterm
    have hmiddle := ih hterm
    have hst := congrArg JobOutcome.state hmiddle
    exact (hs ((congrArg JobState.terminal hst).trans hterm)).trans hmiddle

/-- A transaction keeps the outcome of a job whose row it keeps, unless it cancels the scenario
of a job that has ended otherwise. -/
theorem QueueStep.keepsOutcome {operation : QueueOperation} {id : String} {job : JobRecord}
    (hs : QueueStep retryDelay db operation db') (hlive : CancelsLive db operation)
    (hrow : KeepsRow id operation) (hj : db.jobs.get? id = some job)
    (hterm : job.state.terminal = true) :
    ∃ job', db'.jobs.get? id = some job' ∧ job'.outcome = job.outcome := by
  have hchg : QueueChange KeepsOutcome db db' operation := by
    refine hs.change (fun v v' heff => KeepsOutcome.of_live heff.live) ?_
    intro j cancelled now hcan hended
    obtain ⟨hst, hcode⟩ := hlive j cancelled hcan hended
    simp [JobRecord.outcome, JobRecord.cancelledByOwner, hst, hcode]
  cases hchg with
  | moves hmoves =>
    obtain ⟨job', hj', hrel⟩ := hmoves.get? hj
    exact ⟨job', hj', reflTransGen_keepsOutcome hrel hterm⟩
  | submits hsubd hnew hjs hatt =>
    refine ⟨job, ?_, rfl⟩
    rw [hjs, Dict.get?_set_of_ne, hj]
    rintro rfl
    rw [hj] at hnew
    cases hnew
  | records hrcd hnew hjs hnewAttempt hatt =>
    refine ⟨job, ?_, rfl⟩
    rw [hjs, Dict.get?_set_of_ne, hj]
    rintro rfl
    rw [hj] at hnew
    cases hnew
  | removes hjs hatt =>
    refine ⟨job, ?_, rfl⟩
    have hkept : id ∉ _ := hrow
    rw [hjs, Dict.get?_deleteWhere, hj, Option.filter_some, if_pos]
    simpa using hkept

/-- **A job that has ended stays as it ended**: its state, failure code and result do not change
along any run in which its row is kept and no scenario is cancelled whose job has ended
otherwise. -/
theorem queue_outcome_stable {id : String} {job : JobRecord} (hjob : db.jobs.get? id = some job)
    (hterminal : job.state.terminal = true)
    (hrun : Runs (QueueStep retryDelay)
      (fun s operation => CancelsLive s operation ∧ KeepsRow id operation) db db') :
    ∃ job', db'.jobs.get? id = some job' ∧ job'.outcome = job.outcome := by
  refine hrun.keeps (I := fun s => ∃ job', s.jobs.get? id = some job' ∧
    job'.outcome = job.outcome) ?_ ⟨job, hjob, rfl⟩
  rintro s operation t ⟨job', hjob', houtcome⟩ ⟨hlive, hrow⟩ hstep
  have hstate : job'.state = job.state := congrArg JobOutcome.state houtcome
  obtain ⟨job'', hjob'', hkept⟩ :=
    hstep.keepsOutcome hlive hrow hjob' (hstate ▸ hterminal)
  exact ⟨job'', hjob'', hkept.trans houtcome⟩

section

open SmallStore

/-- In the small store, a cancellation of the failed job leaves it failed. -/
theorem queue_outcome_stable_failed :
    ∃ job', (cancel failed owner jobId 60000001).2.jobs.get?
        jobId = some job' ∧
      job'.outcome = ⟨.failed, some "ATTEMPT_BUDGET_EXHAUSTED", none, none, none⟩ := by
  have hjob : ∃ job, failed.jobs.get? jobId = some job ∧
      job.outcome = ⟨.failed, some "ATTEMPT_BUDGET_EXHAUSTED", none, none, none⟩ := by
    decide +kernel
  obtain ⟨job, hget, houtcome⟩ := hjob
  have hterminal : job.state.terminal = true := by
    rw [show job.state = .failed from congrArg JobOutcome.state houtcome]
    rfl
  have hstep : QueueStep noDelay failed
      (.cancel owner jobId 60000001)
      (cancel failed owner jobId 60000001).2 := .cancel
  have hallowed : CancelsLive failed (.cancel owner jobId 60000001) := by
    rintro id job ⟨-, -, -, hlive⟩ hended
    rw [hlive] at hended
    cases hended
  obtain ⟨job', hjob', hkept⟩ :=
    queue_outcome_stable hget hterminal ((Runs.refl _).snoc ⟨hallowed, trivial⟩ hstep)
  exact ⟨job', hjob', hkept.trans houtcome⟩

/-- **A scenario can be cancelled after its job has failed**: no worker was left to take the
scenario along when the last lease was rescued, and the cancellation then rewrites the state and
the failure code of the job. -/
theorem cancelScenario_overwrites_outcome :
    ReachedBy EmptyQueue (QueueStep noDelay) (fun _ _ => True) failed ∧
      (failed.jobs.get? jobId).map (·.outcome)
        = some ⟨.failed, some "ATTEMPT_BUDGET_EXHAUSTED", none, none, none⟩ ∧
      QueueStep noDelay failed
        (.cancelScenario owner scenarioId 60000001)
        (committed failed
          (cancelScenario failed owner scenarioId 60000001)) ∧
      ((committed failed
          (cancelScenario failed owner scenarioId
            60000001)).jobs.get? jobId).map (·.outcome)
        = some ⟨.cancelled, some "CANCELLED_BY_OWNER", none, none, none⟩ := by
  refine ⟨failed_reached (fun _ _ _ => trivial) (fun _ _ _ _ _ => trivial)
    fun _ _ => trivial, by decide +kernel, .cancelScenario, by decide +kernel⟩

end

end Outcome

/-! ### Attempts of jobs that have ended -/

/-- Only the current attempt of a held job is open. -/
def Settled (v : JobView) : Prop :=
  ∀ attempt ∈ v.attempts, attempt.state.open_ = true →
    v.job.state.held = true ∧ attempt.fencingGeneration = v.job.fencingGeneration

/-- A cancellation finds a job that no worker holds. -/
def CancelsUnheld (db : Database) (operation : QueueOperation) : Prop :=
  ∀ id job, Cancels db operation id job → job.state.held = false

section Attempts

variable {retryDelay : String → ℕ → ℤ} {v v' : JobView} {db : Database}

/-- Nothing is open while no worker holds the job. -/
theorem Settled.closed (h : Settled v) (hfree : v.job.state.held = false) :
    ∀ attempt ∈ v.attempts, attempt.state.open_ = false := by
  intro attempt hmem
  rw [Bool.eq_false_iff]
  intro hopen
  rw [(h attempt hmem hopen).1] at hfree
  cases hfree

theorem Settled.of_closed (h : ∀ attempt ∈ v.attempts, attempt.state.open_ = false) :
    Settled v := by
  intro attempt hmem hopen
  rw [h attempt hmem] at hopen
  cases hopen

theorem Settled.effect (heff : JobEffect v v') (h : Settled v) : Settled v' := by
  cases heff with
  | lease hq hcan hbud =>
    -- nothing was open before, and the new attempt is the current one
    have hclosed := h.closed (by rw [hq]; rfl)
    intro attempt hmem hopen
    rcases mem_append.mp hmem with hold | hnew
    · rw [hclosed attempt hold] at hopen
      cases hopen
    · obtain rfl := mem_singleton.mp hnew
      exact ⟨rfl, rfl⟩
  | settle hq hst hsame =>
    exact Settled.of_closed (h.closed (by rw [hq]; rfl))
  | @hold job' f hheld hst hsame hf =>
    intro attempt hmem hopen
    obtain ⟨before, hpre, rfl⟩ := mem_map.mp hmem
    refine ⟨hst, ?_⟩
    show _ = job'.fencingGeneration
    rw [hsame.fencingGeneration]
    split at hopen
    · rename_i hcur
      rw [if_pos hcur, hf, hcur]
    · rename_i hcur
      exact absurd (h before hpre hopen).2 hcur
  | @release job' f hheld hst hsame hf hclosed =>
    refine Settled.of_closed ?_
    intro attempt hmem
    obtain ⟨before, hpre, rfl⟩ := mem_map.mp hmem
    split
    · exact hclosed before
    · rename_i hcur
      rw [Bool.eq_false_iff]
      intro hopen
      exact hcur (h before hpre hopen).2

theorem jobsSatisfy_settled (h : ReachedBy EmptyQueue (QueueStep retryDelay) CancelsUnheld db) :
    JobsSatisfy Settled db := by
  refine h.invariant (fun s hs => JobsSatisfy.empty hs) fun s operation t hinv hunheld hstep => ?_
  refine hinv.change ?_ ?_ (hstep.change (fun v v' heff => Settled.effect heff) ?_)
  · intro job _ attempt hmem
    cases hmem
  · intro job jobId attempt hj
    refine Settled.of_closed ?_
    intro a hmem
    obtain rfl := mem_singleton.mp hmem
    rw [hj.attemptState]
    rfl
  · intro id job now hcan hsett
    exact Settled.of_closed (hsett.closed (hunheld id job hcan))

theorem held_of_terminal {state : JobState} (h : state.terminal = true) : state.held = false := by
  cases state with
  | queued | leased | running => cases h
  | succeeded | failed | cancelled => rfl

/-- **A job that has ended has no open attempt**, in every state reached by a run in which no
job is cancelled by its owner while a worker holds it. -/
theorem queue_attempts_closed
    (h : ReachedBy EmptyQueue (QueueStep retryDelay) CancelsUnheld db) {id : String}
    {job : JobRecord} (hjob : db.jobs.get? id = some job) (hterminal : job.state.terminal = true) :
    ∀ attempt ∈ db.attemptsOf id, attempt.state.open_ = false :=
  ((jobsSatisfy_settled h).views id job hjob).closed (held_of_terminal hterminal)

section

open SmallStore

/-- The failed job of the small store has three attempts, all of them closed. -/
theorem queue_attempts_closed_failed :
    ReachedBy EmptyQueue (QueueStep noDelay) CancelsUnheld failed ∧
      (failed.attemptsOf jobId).length = 3 ∧
      ∀ attempt ∈ failed.attemptsOf jobId, attempt.state.open_ = false := by
  have hreached : ReachedBy EmptyQueue (QueueStep noDelay) CancelsUnheld
      failed :=
    failed_reached (fun _ _ _ _ _ hcan => hcan.2.elim) (fun _ _ _ _ _ _ _ hcan => hcan.2.elim)
      fun _ _ _ _ hcan => hcan.2.elim
  have hjob : ∃ job, failed.jobs.get? jobId = some job ∧ job.state.terminal = true := by
    decide +kernel
  obtain ⟨job, hget, hterminal⟩ := hjob
  exact ⟨hreached, by decide +kernel, queue_attempts_closed hreached hget hterminal⟩

/-- **A job can be cancelled while a worker holds it**, and its attempt stays leased. -/
theorem cancel_leaves_attempt_open :
    ReachedBy EmptyQueue (QueueStep noDelay) (fun _ _ => True)
        (cancel leased owner jobId 1).2 ∧
      ((cancel leased owner jobId 1).2.jobs.get?
        jobId).map (·.state) = some .cancelled ∧
      ((cancel leased owner jobId 1).2.attemptsOf
        jobId).map (·.state) = [.leased] := by
  have hleased : ReachedBy EmptyQueue (QueueStep noDelay) (fun _ _ => True)
      leased :=
    leased_reached (fun _ _ _ => trivial) fun _ _ _ _ _ => trivial
  exact ⟨hleased.snoc trivial .cancel, by decide +kernel, by decide +kernel⟩

end

end Attempts

end RateReplay
