import RateReplay.Persistence.Artifacts

/-!
# Calculations and scenarios

The submission of a calculation (`calculations.py`), the scenario rows that go with a scenario
job (`scenarios.py`), and the transactions of the worker that runs it (`scenario_worker.py`).

The hash of an operation request and the semantic identity are arguments, as are the rows made
from the loads of a scenario; the identifiers drawn by a transaction are arguments too.

## Main definitions

* `submitCalculation` — one try of `CalculationSubmissionService.submit`.
* `initializeScenario`, `submitScenario`, `ensureScenario`, `cancelScenario` — the transactions
  of `ScenarioService`.
* `markRunning`, `publishScenario`, `syncTerminalState` — the transactions of
  `ScenarioWorker`.

## Main results

* `cancelScenario_moves` — a cancelled scenario ends its job, also one that has ended already.
-/

namespace RateReplay

/-! ### Calculations -/

/-- `CALCULATION_ROUTES`: the route and the request schema of a kind of calculation. -/
def calculationRoute : JobKind → Option (String × String)
  | .replay => some ("POST:/v1/replays", "replay-operation-v1")
  | .comparison => some ("POST:/v1/comparisons", "comparison-operation-v1")
  | .scenario => some ("POST:/v1/scenarios", "scenario-operation-v1")
  | .report => some ("POST:/v1/reports/\x7bscenario_id\x7d/exports", "report-operation-v1")
  | .importing | .retention | .deletion => none

/-- `IDEMPOTENCY_RETENTION`. -/
def idempotencyRetention : ℤ := 24 * 3600 * 1000000

/-- What a submission reads of a semantic identity. -/
structure SubmittedIdentity where
  jobKind : JobKind
  requestSchemaVersion : String
  calculationContractVersion : String
  profileVersionHash : String
  sha256 : String

/-- The arguments of `submit`: the canonical payload, its hash under the route, and the
identifiers drawn for the job and the operation. -/
structure CalculationRequest where
  ownerUserId : String
  profileVersionId : String
  jobKind : JobKind
  requestSchemaVersion : String
  idempotencyKey : String
  canonicalPayload : String
  operationRequestHash : String
  identity : SubmittedIdentity
  jobId : String
  operationId : String
  now : ℤ

structure CalculationSubmission where
  jobId : String
  operationRequestHash : String
  semanticHash : String
  repeatedOperation : Bool
  semanticReuse : Bool
  resultType : Option String
  resultId : Option String

def calculationError (code message : String) : TransactionError :=
  .raised .calculations code message

/-- What is refused before any transaction; the route of the calculation. -/
def checkCalculation (request : CalculationRequest) : Except TransactionError String := do
  failIf (¬ (8 ≤ request.idempotencyKey.length ∧ request.idempotencyKey.length ≤ 128))
    (calculationError "INVALID_IDEMPOTENCY_KEY" "Idempotency key must contain 8 to 128 characters")
  match calculationRoute request.jobKind with
  | none =>
    .error (calculationError "UNSUPPORTED_CALCULATION_KIND" "Calculation kind is not supported")
  | some (routeId, requiredSchema) => do
    failIf (request.requestSchemaVersion ≠ requiredSchema)
      (calculationError "REQUEST_SCHEMA_MISMATCH"
        "Request schema does not match the calculation kind")
    failIf (request.identity.jobKind ≠ request.jobKind
        ∨ request.identity.requestSchemaVersion ≠ request.requestSchemaVersion)
      (calculationError "SEMANTIC_IDENTITY_MISMATCH"
        "Semantic identity does not match the submitted calculation")
    .ok routeId

/-- The operation an owner has bound to an idempotency key (`uq_operation_identity`). -/
def operationOf (db : Database) (ownerUserId routeId idempotencyKey : String) :
    Option (String × OperationRequestRecord) :=
  db.operationRequests.first fun _ operation => operation.ownerUserId = ownerUserId
    && operation.routeId = routeId && operation.idempotencyKey = idempotencyKey

/-- Insert an operation under its unique constraint. -/
def insertOperation (db : Database) (operationId : String) (operation : OperationRequestRecord) :
    Except TransactionError Database := do
  failIf ((operationOf db operation.ownerUserId operation.routeId operation.idempotencyKey).isSome)
    .integrity
  let operations ← insertOrRaise db.operationRequests operationId operation
  .ok { db with operationRequests := operations }

/-- `_operation_record`. -/
def operationRecord (request : CalculationRequest) (routeId jobId : String) :
    OperationRequestRecord where
  ownerUserId := request.ownerUserId
  routeId := routeId
  idempotencyKey := request.idempotencyKey
  requestSchemaVersion := request.requestSchemaVersion
  canonicalPayloadHash := request.operationRequestHash
  operationId := jobId
  createdAt := request.now
  expiresAt := request.now + idempotencyRetention

/-- `_repeat_operation`. -/
def repeatOperation (db : Database) (operation : OperationRequestRecord)
    (operationRequestHash : String) : Except TransactionError CalculationSubmission := do
  failIf (operation.canonicalPayloadHash ≠ operationRequestHash)
    (calculationError "IDEMPOTENCY_KEY_REUSED"
      "Idempotency key is bound to another calculation request")
  match db.jobs.get? operation.operationId with
  | none =>
    .error (calculationError "OPERATION_INCOMPLETE" "Calculation operation is unavailable")
  | some job =>
    match job.requestedSemanticHash with
    | none =>
      .error (calculationError "OPERATION_INCOMPLETE" "Calculation operation is unavailable")
    | some semanticHash =>
      .ok {
        jobId := operation.operationId
        operationRequestHash := operationRequestHash
        semanticHash := semanticHash
        repeatedOperation := true
        semanticReuse := job.state = .succeeded
        resultType := job.terminalResultType
        resultId := job.terminalResultId }

/-- The user, the profile and the import a new calculation captures. -/
def calculationScope (db : Database) (request : CalculationRequest) :
    Except TransactionError (UserRecord × ProfileVersionRecord × ImportRecord) := do
  match db.users.get? request.ownerUserId with
  | none => .error (calculationError "OWNER_NOT_ACTIVE" "Account cannot create calculations")
  | some user => do
    failIf (user.lifecycleState ≠ .active)
      (calculationError "OWNER_NOT_ACTIVE" "Account cannot create calculations")
    match db.profiles.get? request.profileVersionId with
    | none => .error (calculationError "PROFILE_NOT_FOUND" "Profile is unavailable")
    | some profile => do
      failIf (profile.ownerUserId ≠ request.ownerUserId ∨ profile.lifecycleState ≠ .active)
        (calculationError "PROFILE_NOT_FOUND" "Profile is unavailable")
      failIf (request.identity.profileVersionHash ≠ profile.contentHash)
        (calculationError "PROFILE_SEMANTIC_HASH_MISMATCH"
          "Semantic identity does not name the selected profile content")
      match db.imports.get? profile.importId with
      | none => .error (calculationError "PROFILE_NOT_FOUND" "Profile scope is unavailable")
      | some imported => do
        failIf (imported.lifecycleState ≠ .active)
          (calculationError "PROFILE_NOT_FOUND" "Profile scope is unavailable")
        .ok (user, profile, imported)

/-- The job of a new calculation. -/
def calculationJob (request : CalculationRequest) (user : UserRecord)
    (profile : ProfileVersionRecord) (imported : ImportRecord) : JobRecord where
  ownerUserId := some request.ownerUserId
  kind := request.jobKind
  requestSchemaVersion := request.requestSchemaVersion
  requestHash := request.operationRequestHash
  scopeMode := .activeScope
  requestJson := request.canonicalPayload
  importId := some profile.importId
  profileVersionId := some request.profileVersionId
  capturedAccountGeneration := user.lifecycleGeneration
  capturedImportGeneration := some imported.lifecycleGeneration
  capturedProfileGeneration := some profile.lifecycleGeneration
  state := .queued
  attemptCount := 0
  maxAttempts := 3
  fencingGeneration := 0
  leaseOwner := none
  leaseAcquiredAt := none
  leaseExpiresAt := none
  heartbeatAt := none
  notBefore := request.now
  cancelRequested := false
  failureCode := none
  requestedSemanticHash := some request.identity.sha256
  calculationContractVersion := some request.identity.calculationContractVersion
  terminalResultType := none
  terminalResultId := none
  terminalSemanticHash := none
  createdAt := request.now
  completedAt := none

/-- The type of `initialize_new_job`. -/
abbrev JobInitializer := Database → CalculationSubmission → Except TransactionError Database

/-- The new job and its operation, in one transaction with what `initialize_new_job` adds. -/
def enqueueCalculation (db : Database) (request : CalculationRequest) (routeId : String)
    (initializeNewJob : JobInitializer) :
    Except TransactionError (CalculationSubmission × Database) := do
  let (user, profile, imported) ← calculationScope db request
  match claimOf db request.ownerUserId request.jobKind request.identity.sha256 with
  | some (_, prior) => do
    let recorded ← insertOperation db request.operationId
      (operationRecord request routeId prior.acceptedJobId)
    .ok ({
      jobId := prior.acceptedJobId
      operationRequestHash := request.operationRequestHash
      semanticHash := request.identity.sha256
      repeatedOperation := false
      semanticReuse := true
      resultType := some prior.resultType
      resultId := some prior.resultId }, recorded)
  | none => do
    let jobs ← insertOrRaise db.jobs request.jobId (calculationJob request user profile imported)
    let submitted := appendAuditEvent { db with jobs := jobs } (some request.ownerUserId)
      .jobSubmitted .job request.jobId 0 request.now
    let recorded ← insertOperation submitted request.operationId
      (operationRecord request routeId request.jobId)
    let submission : CalculationSubmission := {
      jobId := request.jobId
      operationRequestHash := request.operationRequestHash
      semanticHash := request.identity.sha256
      repeatedOperation := false
      semanticReuse := false
      resultType := none
      resultId := none }
    let initialized ← initializeNewJob recorded submission
    .ok (submission, initialized)

/-- One try of `submit`: a repeated operation is answered from its record. -/
def submitCalculation (db : Database) (request : CalculationRequest)
    (initializeNewJob : JobInitializer) :
    Except TransactionError (CalculationSubmission × Database) := do
  let routeId ← checkCalculation request
  match operationOf db request.ownerUserId routeId request.idempotencyKey with
  | some (_, existing) => do
    let submission ← repeatOperation db existing request.operationRequestHash
    .ok (submission, db)
  | none => enqueueCalculation db request routeId initializeNewJob

/-! ### Scenarios -/

/-- What a scenario row takes from the validated scenario: the input, and the rows made from
its loads (`_load_records`). -/
structure ScenarioContent where
  tariffVersionId : String
  inputHash : String
  inputJson : String
  scenarioId : String
  loads : List (String × ScenarioLoadRecord)
  references : List (String × ScenarioReferenceScheduleRecord)

def scenarioError (code message : String) : TransactionError := .raised .scenarios code message

/-- The state a scenario starts in.  `LEASED` is no scenario state: the insertion would violate
`ck_scenario_state`. -/
def JobState.toScenario : JobState → Option ScenarioState
  | .queued => some .queued
  | .leased => none
  | .running => some .running
  | .succeeded => some .succeeded
  | .failed => some .failed
  | .cancelled => some .cancelled

/-- The scenario of a job, unique by its column constraint. -/
def scenarioOf (db : Database) (jobId : String) : Option (String × ScenarioRecord) :=
  db.scenarios.first fun _ scenario => scenario.jobId = jobId

/-- Insert rows one by one. -/
def insertAll {κ α : Type} [DecidableEq κ] (table : Dict κ α) (rows : List (κ × α)) :
    Except TransactionError (Dict κ α) :=
  rows.foldlM (fun table row => insertOrRaise table row.1 row.2) table

/-- `_validated_existing_scenario`. -/
def validateExisting (scenario : ScenarioRecord) (ownerUserId profileVersionId : String)
    (content : ScenarioContent) : Except TransactionError Unit :=
  failIf (scenario.ownerUserId ≠ ownerUserId ∨ scenario.profileVersionId ≠ profileVersionId
      ∨ scenario.tariffVersionId ≠ content.tariffVersionId
      ∨ scenario.inputHash ≠ content.inputHash)
    (scenarioError "SCENARIO_OPERATION_MISMATCH"
      "Scenario operation is bound to different semantic inputs")

/-- The row of a new scenario. -/
def newScenario (ownerUserId profileVersionId : String) (content : ScenarioContent)
    (calculation : CalculationSubmission) (job : JobRecord) (state : ScenarioState) (now : ℤ) :
    ScenarioRecord where
  ownerUserId := ownerUserId
  profileVersionId := profileVersionId
  jobId := calculation.jobId
  tariffVersionId := content.tariffVersionId
  operationRequestHash := calculation.operationRequestHash
  inputHash := content.inputHash
  inputJson := content.inputJson
  state := state
  lifecycleState := .active
  lifecycleGeneration := 0
  createdAt := now
  completedAt := job.completedAt

/-- `_initialize_scenario`. -/
def initializeScenario (ownerUserId profileVersionId : String) (content : ScenarioContent)
    (now : ℤ) (db : Database) (calculation : CalculationSubmission) :
    Except TransactionError Database :=
  match scenarioOf db calculation.jobId with
  | some (_, existing) => do
    validateExisting existing ownerUserId profileVersionId content
    .ok db
  | none =>
    match db.jobs.get? calculation.jobId with
    | none =>
      .error (scenarioError "SCENARIO_JOB_INVALID"
        "Scenario calculation job is outside the owner scope")
    | some job => do
      failIf (job.ownerUserId ≠ some ownerUserId ∨ job.profileVersionId ≠ some profileVersionId
          ∨ job.kind ≠ .scenario)
        (scenarioError "SCENARIO_JOB_INVALID" "Scenario calculation job is outside the owner scope")
      match job.state.toScenario with
      | none => .error .integrity
      | some state => do
        let scenarios ← insertOrRaise db.scenarios content.scenarioId
          (newScenario ownerUserId profileVersionId content calculation job state now)
        let loads ← insertAll db.scenarioLoads content.loads
        let references ← insertAll db.scenarioReferences content.references
        .ok { db with
          scenarios := scenarios
          scenarioLoads := loads
          scenarioReferences := references }

/-- The first transaction of `ScenarioService.submit`: the job, with its scenario. -/
def submitScenario (db : Database) (request : CalculationRequest) (content : ScenarioContent) :
    Except TransactionError (CalculationSubmission × Database) :=
  submitCalculation db { request with jobKind := .scenario } fun db calculation =>
    initializeScenario request.ownerUserId request.profileVersionId content request.now db
      calculation

/-- `_ensure_scenario`, the second transaction of `ScenarioService.submit`. -/
def ensureScenario (db : Database) (ownerUserId profileVersionId : String)
    (content : ScenarioContent) (now : ℤ) (calculation : CalculationSubmission) :
    Except TransactionError (Unit × Database) := do
  let initialized ← initializeScenario ownerUserId profileVersionId content now db calculation
  .ok ((), initialized)

def Database.updateScenario (db : Database) (id : String) (f : ScenarioRecord → ScenarioRecord) :
    Database :=
  { db with scenarios := db.scenarios.modify id f }

/-- `ScenarioService.cancel`: it looks at the state of the scenario, not at that of the job. -/
def cancelScenario (db : Database) (ownerUserId scenarioId : String) (now : ℤ) :
    Except TransactionError (Unit × Database) :=
  match (db.scenarios.get? scenarioId).filter fun scenario =>
      scenario.ownerUserId = ownerUserId && scenario.lifecycleState = .active with
  | none => .error (scenarioError "SCENARIO_NOT_FOUND" "Scenario is unavailable")
  | some scenario =>
    match db.jobs.get? scenario.jobId with
    | none =>
      .error (scenarioError "SCENARIO_ALREADY_TERMINAL" "A terminal scenario cannot be cancelled")
    | some job =>
      if scenario.state.terminal then
        .error (scenarioError "SCENARIO_ALREADY_TERMINAL" "A terminal scenario cannot be cancelled")
      else
        .ok ((), appendAuditEvent
          ((db.updateJob scenario.jobId fun job => job.cancelledByOwner now).updateScenario
            scenarioId fun scenario =>
              { scenario with state := .cancelled, completedAt := some now })
          (some ownerUserId) .jobCancelled .job scenario.jobId job.fencingGeneration now)

/-! ### The scenario worker -/

/-- `_mark_running`. -/
def markRunning (db : Database) (lease : JobLease) : Database :=
  match db.jobs.get? lease.jobId, scenarioOf db lease.jobId with
  | some job, some (scenarioId, scenario) =>
    if job.state = .running ∧ job.leaseOwner = some lease.workerId
        ∧ job.fencingGeneration = lease.fencingGeneration ∧ scenario.state = .queued
        ∧ scenario.lifecycleState = .active then
      db.updateScenario scenarioId fun scenario => { scenario with state := .running }
    else db
  | _, _ => db

/-- `_sync_terminal_state`: a scenario follows its job into failure or cancellation. -/
def syncTerminalState (db : Database) (jobId : String) : Database :=
  match db.jobs.get? jobId, scenarioOf db jobId with
  | some job, some (scenarioId, scenario) =>
    match (if job.state = .failed then some ScenarioState.failed
      else if job.state = .cancelled then some ScenarioState.cancelled else none) with
    | none => db
    | some state =>
      if scenario.lifecycleState = .active ∧ scenario.state.terminal = false then
        db.updateScenario scenarioId fun scenario =>
          { scenario with state := state, completedAt := job.completedAt }
      else db
  | _, _ => db

/-- The rows a scenario worker publishes. -/
structure ScenarioPublication where
  ownerUserId : String
  scenarioId : String
  jobId : String
  resultId : String
  manifestId : String
  profileVersionId : String
  operationRequestHash : String
  semanticHash : String
  resultHash : String
  resultJson : String
  calculationHash : String
  manifestJson : String
  now : ℤ

def ScenarioPublication.result (publication : ScenarioPublication) : ScenarioResultRecord where
  ownerUserId := publication.ownerUserId
  scenarioId := publication.scenarioId
  profileVersionId := publication.profileVersionId
  jobId := publication.jobId
  operationRequestHash := publication.operationRequestHash
  semanticHash := publication.semanticHash
  resultHash := publication.resultHash
  resultJson := publication.resultJson
  lifecycleState := .active
  lifecycleGeneration := 0
  createdAt := publication.now

def ScenarioPublication.manifest (publication : ScenarioPublication) :
    CalculationManifestRecord where
  replayId := none
  scenarioResultId := some publication.resultId
  calculationHash := publication.calculationHash
  manifestJson := publication.manifestJson
  createdAt := publication.now

/-- Insert a scenario result under its unique constraints. -/
def insertScenarioResult (db : Database) (resultId : String) (result : ScenarioResultRecord) :
    Except TransactionError (Dict String ScenarioResultRecord) := do
  failIf (db.scenarioResults.has fun _ other => (other.ownerUserId = result.ownerUserId
      && other.semanticHash = result.semanticHash) || other.scenarioId = result.scenarioId
    || other.jobId = result.jobId) .integrity
  insertOrRaise db.scenarioResults resultId result

/-- The callback of `_publish`. -/
def publishScenarioRows (publication : ScenarioPublication) (db : Database) :
    Except TransactionError Database :=
  match (db.scenarios.get? publication.scenarioId).filter fun scenario =>
      scenario.jobId = publication.jobId && scenario.ownerUserId = publication.ownerUserId
        && scenario.lifecycleState = .active && scenario.state = .running with
  | none =>
    .error (artifactError "STALE_SCENARIO_ATTEMPT" "Scenario attempt lost its publication fence")
  | some _ => do
    let results ← insertScenarioResult db publication.resultId publication.result
    let manifests ← insertOrRaise db.manifests publication.manifestId publication.manifest
    .ok { (db.updateScenario publication.scenarioId fun scenario =>
        { scenario with state := .succeeded, completedAt := some publication.now }) with
      scenarioResults := results
      manifests := manifests }

/-- What a successful callback has found and done. -/
theorem publishScenarioRows_eq_ok {publication : ScenarioPublication} {db db' : Database}
    (h : publishScenarioRows publication db = .ok db') :
    ∃ scenario, db.scenarios.get? publication.scenarioId = some scenario ∧
      scenario.jobId = publication.jobId ∧ scenario.ownerUserId = publication.ownerUserId ∧
      scenario.lifecycleState = .active ∧ scenario.state = .running ∧
      db.scenarioResults.get? publication.resultId = none ∧
      ∃ manifests,
        db' = { db with
          scenarios := db.scenarios.modify publication.scenarioId fun scenario =>
            { scenario with state := .succeeded, completedAt := some publication.now }
          scenarioResults := db.scenarioResults.set publication.resultId publication.result
          manifests := manifests } := by
  unfold publishScenarioRows at h
  split at h
  · cases h
  · rename_i scenario hsn
    rw [Option.filter_eq_some_iff] at hsn
    obtain ⟨hg, hguard⟩ := hsn
    simp only [Bool.and_eq_true, decide_eq_true_eq] at hguard
    obtain ⟨⟨⟨hj, ho⟩, hact⟩, hrun⟩ := hguard
    obtain ⟨results, hress, hrest⟩ := bind_eq_ok.mp h
    obtain ⟨manifests, -, hdb⟩ := bind_eq_ok.mp hrest
    rw [insertScenarioResult, failIf_bind_eq_ok] at hress
    obtain ⟨hnew, rfl⟩ := insertOrRaise_eq_ok.mp hress.2
    cases hdb
    exact ⟨scenario, hg, hj, ho, hact, hrun, hnew, manifests, rfl⟩

/-- The callback of `_publish`; it touches scenarios, results and manifests only. -/
def publishScenario (publication : ScenarioPublication) : PublishResult where
  run := publishScenarioRows publication
  jobs_eq := by
    intro db db' h
    obtain ⟨_, -, -, -, -, -, -, _, rfl⟩ := publishScenarioRows_eq_ok h
    rfl
  attempts_eq := by
    intro db db' h
    obtain ⟨_, -, -, -, -, -, -, _, rfl⟩ := publishScenarioRows_eq_ok h
    rfl

/-! ### Submissions -/

section Submissions

variable {db db' : Database} {ownerUserId profileVersionId : String} {content : ScenarioContent}
  {now : ℤ} {request : CalculationRequest}

theorem insertOperation_eq_ok {operationId : String} {operation : OperationRequestRecord}
    (h : insertOperation db operationId operation = .ok db') :
    db.operationRequests.get? operationId = none ∧
      db' = { db with operationRequests := db.operationRequests.set operationId operation } := by
  rw [insertOperation, failIf_bind_eq_ok] at h
  obtain ⟨-, operations, hins, hdb⟩ := h.imp id bind_eq_ok.mp
  obtain ⟨hnew, rfl⟩ := insertOrRaise_eq_ok.mp hins
  exact ⟨hnew, (Except.ok.inj hdb).symm⟩

theorem checkCalculation_kind {routeId : String} (h : checkCalculation request = .ok routeId) :
    request.jobKind ≠ .importing ∧ request.jobKind ≠ .deletion := by
  refine ⟨fun hk => ?_, fun hk => ?_⟩
  · rw [checkCalculation, failIf_bind_eq_ok, hk] at h
    cases h.2
  · rw [checkCalculation, failIf_bind_eq_ok, hk] at h
    cases h.2

/-- What a new calculation has found: an active account, and an active profile of it under an
active import. -/
theorem calculationScope_eq_ok {user : UserRecord} {profile : ProfileVersionRecord}
    {imported : ImportRecord} (h : calculationScope db request = .ok (user, profile, imported)) :
    (db.users.get? request.ownerUserId = some user ∧ user.lifecycleState = .active) ∧
      db.profiles.get? request.profileVersionId = some profile ∧
      db.imports.get? profile.importId = some imported := by
  unfold calculationScope at h
  split at h
  · cases h
  · rename_i user' huser
    rw [failIf_bind_eq_ok, not_not] at h
    obtain ⟨hact, h⟩ := h
    split at h
    · cases h
    · rename_i profile' hpf
      rw [failIf_bind_eq_ok, failIf_bind_eq_ok] at h
      obtain ⟨-, -, h⟩ := h
      split at h
      · cases h
      · rename_i imported' himd
        rw [failIf_bind_eq_ok] at h
        cases h.2
        exact ⟨⟨huser, hact⟩, hpf, himd⟩

/-- **What a committed submission has done**: it has repeated an operation, it has bound a new
operation to a claimed result, or it has inserted a queued job. -/
theorem submitCalculation_eq_ok
    {initializeNewJob : JobInitializer} {submission : CalculationSubmission}
    (h : submitCalculation db request initializeNewJob = .ok (submission, db')) :
    db' = db ∨ ∃ routeId user profile imported, checkCalculation request = .ok routeId ∧
      calculationScope db request = .ok (user, profile, imported) ∧
      ((∃ jobId, db' = { db with
          operationRequests := db.operationRequests.set request.operationId
            (operationRecord request routeId jobId) }) ∨
        ∃ auditEvents, db.jobs.get? request.jobId = none ∧ submission.jobId = request.jobId ∧
          initializeNewJob { db with
            jobs := db.jobs.set request.jobId (calculationJob request user profile imported)
            auditEvents := auditEvents
            operationRequests := db.operationRequests.set request.operationId
              (operationRecord request routeId request.jobId) } submission = .ok db') := by
  obtain ⟨routeId, hroute, h⟩ := bind_eq_ok.mp h
  split at h
  · obtain ⟨repeated, -, hres⟩ := bind_eq_ok.mp h
    cases hres
    exact .inl rfl
  · obtain ⟨⟨user, profile, imported⟩, hsc, h⟩ := bind_eq_ok.mp h
    refine .inr ⟨routeId, user, profile, imported, hroute, hsc, ?_⟩
    dsimp only at h
    split at h
    · obtain ⟨recorded, hrcd, hres⟩ := bind_eq_ok.mp h
      obtain ⟨-, rfl⟩ := insertOperation_eq_ok hrcd
      cases hres
      exact .inl ⟨_, rfl⟩
    · obtain ⟨jobs, hjs, h⟩ := bind_eq_ok.mp h
      obtain ⟨recorded, hrcd, h⟩ := bind_eq_ok.mp h
      obtain ⟨initialized, hini, hres⟩ := bind_eq_ok.mp h
      obtain ⟨hnew, rfl⟩ := insertOrRaise_eq_ok.mp hjs
      obtain ⟨-, rfl⟩ := insertOperation_eq_ok hrcd
      cases hres
      exact .inr ⟨_, hnew, rfl, hini⟩

/-- **What the initialization of a scenario has done**: nothing, when the job has its scenario;
otherwise it has inserted one in the state of the job. -/
theorem initializeScenario_eq_ok {calculation : CalculationSubmission}
    (h : initializeScenario ownerUserId profileVersionId content now db calculation = .ok db') :
    ((∃ e, scenarioOf db calculation.jobId = some e) ∧ db' = db) ∨
      ∃ job state loads references, scenarioOf db calculation.jobId = none ∧
        db.jobs.get? calculation.jobId = some job ∧ job.ownerUserId = some ownerUserId ∧
        job.kind = .scenario ∧ job.state.toScenario = some state ∧
        db.scenarios.get? content.scenarioId = none ∧
        db' = { db with
          scenarios := db.scenarios.set content.scenarioId
            (newScenario ownerUserId profileVersionId content calculation job state now)
          scenarioLoads := loads
          scenarioReferences := references } := by
  unfold initializeScenario at h
  split at h
  · rename_i existing hex
    obtain ⟨_, -, hres⟩ := bind_eq_ok.mp h
    cases hres
    exact .inl ⟨⟨_, hex⟩, rfl⟩
  · rename_i hnone
    split at h
    · cases h
    · rename_i job hj
      rw [failIf_bind_eq_ok] at h
      obtain ⟨hv, h⟩ := h
      push Not at hv
      obtain ⟨ho, -, hk⟩ := hv
      split at h
      · cases h
      · rename_i state hst
        simp only [bind_eq_ok] at h
        obtain ⟨scenarios, hsns, loads, -, references, -, hres⟩ := h
        obtain ⟨hnew, rfl⟩ := insertOrRaise_eq_ok.mp hsns
        cases hres
        exact .inr ⟨job, state, loads, references, hnone, hj, ho, hk, hst, hnew, rfl⟩

/-- The initialization of a scenario leaves jobs and attempts alone. -/
theorem initializeScenario_frame {calculation : CalculationSubmission}
    (h : initializeScenario ownerUserId profileVersionId content now db calculation = .ok db') :
    db'.jobs = db.jobs ∧ db'.attempts = db.attempts := by
  rcases initializeScenario_eq_ok h with ⟨-, rfl⟩ | ⟨_, _, _, _, -, -, -, -, -, -, rfl⟩
  · exact ⟨rfl, rfl⟩
  · exact ⟨rfl, rfl⟩

end Submissions

/-! ### Moves -/

section Moves

variable {db db' : Database} {ownerUserId scenarioId : String} {now : ℤ}

/-- The scenario is one that its owner may still cancel. -/
structure ScenarioRecord.Cancellable (scenario : ScenarioRecord) (ownerUserId : String) :
    Prop where
  owner : scenario.ownerUserId = ownerUserId
  active : scenario.lifecycleState = .active
  live : scenario.state.terminal = false

/-- What a committed cancellation has found and done. -/
theorem cancelScenario_eq_ok {u : Unit}
    (h : cancelScenario db ownerUserId scenarioId now = .ok (u, db')) :
    ∃ scenario job, db.scenarios.get? scenarioId = some scenario ∧
      db.jobs.get? scenario.jobId = some job ∧ scenario.Cancellable ownerUserId ∧
      db' = appendAuditEvent
        ((db.updateJob scenario.jobId fun job => job.cancelledByOwner now).updateScenario
          scenarioId fun scenario => { scenario with state := .cancelled, completedAt := some now })
        (some ownerUserId) .jobCancelled .job scenario.jobId job.fencingGeneration now := by
  unfold cancelScenario at h
  split at h
  · cases h
  · rename_i scenario hsn
    rw [Option.filter_eq_some_iff, Bool.and_eq_true, decide_eq_true_eq, decide_eq_true_eq] at hsn
    obtain ⟨hsn, howner, hact⟩ := hsn
    split at h
    · cases h
    · rename_i job hj
      split at h
      · cases h
      · rename_i hterm
        cases h
        exact ⟨scenario, job, hsn, hj, ⟨howner, hact, Bool.eq_false_iff.mpr hterm⟩, rfl⟩

/-- A cancelled scenario moves its job, whatever has become of it. -/
theorem cancelScenario_moves {R : JobView → JobView → Prop}
    (hmove : ∀ scenario job, db.scenarios.get? scenarioId = some scenario →
      scenario.Cancellable ownerUserId → db.jobs.get? scenario.jobId = some job →
      R ⟨job, db.attemptsOf scenario.jobId⟩
        ⟨job.cancelledByOwner now, db.attemptsOf scenario.jobId⟩) :
    JobMoves R db (committed db (cancelScenario db ownerUserId scenarioId now)) := by
  refine committed_of (JobMoves.refl db) fun u db' h => ?_
  obtain ⟨scenario, job, hsn, hj, hcble, rfl⟩ := cancelScenario_eq_ok h
  have hmoves : JobMoves R db
      (db.updateJob scenario.jobId fun job => job.cancelledByOwner now) :=
    jobMoves_updateJob hj (hmove scenario job hsn hcble hj)
  exact hmoves.frame rfl rfl

end Moves

end RateReplay
