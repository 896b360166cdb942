import RateReplay.Persistence.Scenarios

/-!
# Imports

The submission of an import, the publication of its draft by a worker, and its confirmation as
a profile version (`imports.py`).  A submission is two transactions: a check of the account,
and the insertion of the rows.  A confirmation reads the draft in one transaction, and writes
the profile in another.

Uploads are their hash and their size; the content that `confirm_draft` makes of a draft is an
argument, as are the identifiers a transaction draws.

## Main definitions

* `checkUpload`, `admitSubmission`, `recordSubmission` — `submit`, in its three parts.
* `installSimulatedProfile` — one try of `install_simulated_profile`.
* `publishDraft` — the publication of a draft under a lease.
* `confirm` — the transaction of a confirmation that writes the profile.

## Main results

* `recordSubmission_eq_ok`, `installSimulatedProfile_eq_ok`, `publishDraft_eq_ok`,
  `confirm_eq_ok` — **what each transaction has found and done.**
* `publishDraft_moves` — a publication releases its job.
-/

namespace RateReplay

def importError (code message : String) : TransactionError := .raised .imports code message

/-! ### Submission -/

/-- `IMPORT_ROUTE`. -/
def importRoute : String := "POST:/v1/imports"

/-- `IMPORT_REQUEST_SCHEMA`. -/
def importRequestSchema : String := "import-request-v1"

/-- `RAW_RETENTION`. -/
def rawRetention : ℤ := 24 * 3600 * 1000000

/-- `_maximum_bytes`. -/
def maximumBytes (adapter : String) : Option ℕ :=
  if adapter = "ESPI_XML" then some (10 * 1024 * 1024)
  else if adapter = "PGE_CSV" then some (20 * 1024 * 1024)
  else none

/-- What `submit` knows of an upload once it has read it; `payloadHash` is the hash of the
adapter and the raw hash. -/
structure ImportUpload where
  ownerUserId : String
  adapter : String
  idempotencyKey : String
  sizeBytes : ℕ
  rawHash : String
  payloadHash : String

/-- The identifiers drawn for a submission. -/
structure ImportIdentifiers where
  importId : String
  jobId : String
  rawId : String
  operationId : String
  deletionScopeId : String

structure ImportSubmission where
  importId : String
  jobId : String
  repeated : Bool
  deriving DecidableEq

/-- What is refused before any transaction. -/
def checkUpload (upload : ImportUpload) : Except TransactionError Unit := do
  failIf (¬ (8 ≤ upload.idempotencyKey.length ∧ upload.idempotencyKey.length ≤ 128))
    (importError "INVALID_IDEMPOTENCY_KEY" "Idempotency key must contain 8 to 128 characters")
  match maximumBytes upload.adapter with
  | none => .error (importError "UNSUPPORTED_ADAPTER" "Import adapter is not supported")
  | some limit => do
    failIf (limit < upload.sizeBytes)
      (importError "OVERSIZED_FILE" "Upload exceeds the adapter size limit")
    failIf (upload.sizeBytes = 0) (importError "EMPTY_FILE" "Upload is empty")

/-- The job found for an import (`JobRecord.import_id == import_id`). -/
def jobOfImport (db : Database) (importId : String) : Option (String × JobRecord) :=
  db.jobs.first fun _ job => job.importId = some importId

/-- The answer to a submission whose key is bound to an operation. -/
def repeatSubmission (db : Database) (operation : OperationRequestRecord) :
    Except TransactionError ImportSubmission :=
  match jobOfImport db operation.operationId with
  | none => .error (importError "OPERATION_INCOMPLETE" "Import operation is incomplete")
  | some (jobId, _) => .ok ⟨operation.operationId, jobId, true⟩

/-- The first transaction of `submit`: a repeated submission is answered, and otherwise the
generation of the active account is read. -/
def admitSubmission (db : Database) (upload : ImportUpload) :
    Except TransactionError (ImportSubmission ⊕ ℕ) :=
  match operationOf db upload.ownerUserId importRoute upload.idempotencyKey with
  | some (_, existing) => do
    failIf (existing.canonicalPayloadHash ≠ upload.payloadHash)
      (importError "IDEMPOTENCY_KEY_REUSED" "Idempotency key is bound to another request")
    let submission ← repeatSubmission db existing
    .ok (.inl submission)
  | none =>
    match db.users.get? upload.ownerUserId with
    | none => .error (importError "OWNER_NOT_ACTIVE" "Account cannot accept imports")
    | some user => do
      failIf (user.lifecycleState ≠ .active)
        (importError "OWNER_NOT_ACTIVE" "Account cannot accept imports")
      .ok (.inr user.lifecycleGeneration)

/-- `owners/{owner_user_id}/imports/{import_id}/raw`. -/
def rawObjectKey (ownerUserId importId : String) : String :=
  "owners/" ++ ownerUserId ++ "/imports/" ++ importId ++ "/raw"

/-- The import of a submission. -/
def submittedImport (upload : ImportUpload) (deletionScopeId : String) (now : ℤ) :
    ImportRecord where
  ownerUserId := upload.ownerUserId
  state := .queued
  lifecycleState := .active
  lifecycleGeneration := 0
  deletionScopeId := deletionScopeId
  adapter := upload.adapter
  rawContentHash := upload.rawHash
  createdAt := now
  publishedAt := none
  confirmedAt := none
  failureCode := none
  profileVersionId := none

/-- The raw object of a submission. -/
def submittedRaw (upload : ImportUpload) (importId : String) (now : ℤ) : RawObjectRecord where
  ownerUserId := upload.ownerUserId
  importId := importId
  objectKey := rawObjectKey upload.ownerUserId importId
  contentHash := upload.rawHash
  sizeBytes := upload.sizeBytes
  state := .available
  createdAt := now
  expiresAt := now + rawRetention
  deletedAt := none

/-- The operation of a submission. -/
def submittedOperation (upload : ImportUpload) (importId : String) (now : ℤ) :
    OperationRequestRecord where
  ownerUserId := upload.ownerUserId
  routeId := importRoute
  idempotencyKey := upload.idempotencyKey
  requestSchemaVersion := importRequestSchema
  canonicalPayloadHash := upload.payloadHash
  operationId := importId
  createdAt := now
  expiresAt := now + idempotencyRetention

/-- The job of a submission, under the account generation read before. -/
def submittedJob (upload : ImportUpload) (accountGeneration : ℕ) (importId : String) (now : ℤ) :
    JobRecord where
  ownerUserId := some upload.ownerUserId
  kind := .importing
  requestSchemaVersion := importRequestSchema
  requestHash := upload.payloadHash
  scopeMode := .activeScope
  requestJson := "\x7b\x7d"
  importId := some importId
  profileVersionId := none
  capturedAccountGeneration := accountGeneration
  capturedImportGeneration := some 0
  capturedProfileGeneration := none
  state := .queued
  attemptCount := 0
  maxAttempts := 3
  fencingGeneration := 0
  leaseOwner := none
  leaseAcquiredAt := none
  leaseExpiresAt := none
  heartbeatAt := none
  notBefore := now
  cancelRequested := false
  failureCode := none
  requestedSemanticHash := none
  calculationContractVersion := none
  terminalResultType := none
  terminalResultId := none
  terminalSemanticHash := none
  createdAt := now
  completedAt := none

/-- Insert an import under its unique constraint. -/
def insertImport (db : Database) (importId : String) (record : ImportRecord) :
    Except TransactionError Database := do
  let imports ← insertUnique db.imports (·.deletionScopeId = record.deletionScopeId) importId record
  .ok { db with imports := imports }

/-- Insert a raw object under its unique constraints. -/
def insertRaw (db : Database) (rawId : String) (raw : RawObjectRecord) :
    Except TransactionError Database := do
  let rawObjects ← insertUnique db.rawObjects
    (fun other => other.importId = raw.importId || other.objectKey = raw.objectKey) rawId raw
  .ok { db with rawObjects := rawObjects }

/-- The rows of a submission. -/
def insertSubmission (db : Database) (upload : ImportUpload) (accountGeneration : ℕ)
    (ids : ImportIdentifiers) (now : ℤ) : Except TransactionError Database := do
  let imported ← insertImport db ids.importId (submittedImport upload ids.deletionScopeId now)
  let stored ← insertRaw imported ids.rawId (submittedRaw upload ids.importId now)
  let recorded ← insertOperation stored ids.operationId (submittedOperation upload ids.importId now)
  let jobs ← insertOrRaise recorded.jobs ids.jobId
    (submittedJob upload accountGeneration ids.importId now)
  .ok (appendAuditEvent
    (appendAuditEvent { recorded with jobs := jobs } (some upload.ownerUserId) .importSubmitted
      .importing ids.importId 0 now)
    (some upload.ownerUserId) .jobSubmitted .job ids.jobId 0 now)

/-- `_record_submission`: a violated constraint is answered from the operation that was there
first.  The account is not looked at again. -/
def recordSubmission (db : Database) (upload : ImportUpload) (accountGeneration : ℕ)
    (ids : ImportIdentifiers) (now : ℤ) : Except TransactionError (ImportSubmission × Database) :=
  match insertSubmission db upload accountGeneration ids now with
  | .ok inserted => .ok (⟨ids.importId, ids.jobId, false⟩, inserted)
  | .error _ =>
    match operationOf db upload.ownerUserId importRoute upload.idempotencyKey with
    | none =>
      .error (importError "IDEMPOTENCY_KEY_REUSED" "Idempotency key is bound to another request")
    | some (_, existing) => do
      failIf (existing.canonicalPayloadHash ≠ upload.payloadHash)
        (importError "IDEMPOTENCY_KEY_REUSED" "Idempotency key is bound to another request")
      let submission ← repeatSubmission db existing
      .ok (submission, db)

/-! ### Profiles -/

/-- The content of a profile, as `confirm_draft` makes it. -/
structure ConfirmedContent where
  contentHash : String
  canonicalContent : List UInt8
  billingPeriodStartUtcNs : ℤ
  billingPeriodEndUtcNs : ℤ
  tariffTimezone : String
  intervalResolutionSeconds : ℤ

/-- A new profile version. -/
def newProfile (ownerUserId importId : String) (content : ConfirmedContent)
    (deletionScopeId : String) (now : ℤ) : ProfileVersionRecord where
  ownerUserId := ownerUserId
  importId := importId
  contentHash := content.contentHash
  canonicalContent := content.canonicalContent
  billingPeriodStartUtcNs := content.billingPeriodStartUtcNs
  billingPeriodEndUtcNs := content.billingPeriodEndUtcNs
  tariffTimezone := content.tariffTimezone
  intervalResolutionSeconds := content.intervalResolutionSeconds
  lifecycleState := .active
  lifecycleGeneration := 0
  deletionScopeId := deletionScopeId
  createdAt := now

/-- The profile of an owner with some content, unique by `uq_owner_profile_content`. -/
def profileOfContent (db : Database) (ownerUserId contentHash : String) :
    Option (String × ProfileVersionRecord) :=
  db.profiles.first fun _ profile => profile.ownerUserId = ownerUserId
    && profile.contentHash = contentHash

/-- Insert a profile under its unique constraints. -/
def insertProfile (db : Database) (profileId : String) (profile : ProfileVersionRecord) :
    Except TransactionError Database := do
  let profiles ← insertUnique db.profiles
    (fun other => (other.ownerUserId = profile.ownerUserId
      && other.contentHash = profile.contentHash)
      || other.deletionScopeId = profile.deletionScopeId) profileId profile
  .ok { db with profiles := profiles }

/-- Insert readings one by one under `uq_import_reading_start`. -/
def insertReadings (db : Database) (rows : List (String × ImportReadingRecord)) :
    Except TransactionError Database := do
  let readings ← rows.foldlM (fun table row => insertUnique table
    (fun other => other.importId = row.2.importId && other.startUtcNs = row.2.startUtcNs)
    row.1 row.2) db.readings
  .ok { db with readings := readings }

/-- Insert findings one by one under `uq_import_finding_identity`. -/
def insertFindings (db : Database) (rows : List (String × ImportFindingRecord)) :
    Except TransactionError Database := do
  let findings ← rows.foldlM (fun table row => insertUnique table
    (fun other => other.importId = row.2.importId && other.code = row.2.code
      && other.fieldPath = row.2.fieldPath) row.1 row.2) db.findings
  .ok { db with findings := findings }

/-! ### The built-in profile -/

/-- `SIMULATED_IMPORT_ROUTE`. -/
def simulatedImportRoute : String := "POST:/v1/imports/built-in-simulated-profile"

/-- `SIMULATED_IMPORT_REQUEST_SCHEMA`. -/
def simulatedImportRequestSchema : String := "built-in-simulated-import-v1"

/-- The locked artifact, its hash under the route, and the identifiers drawn. -/
structure SimulatedInstallation where
  ownerUserId : String
  idempotencyKey : String
  artifactSha256 : String
  payloadHash : String
  content : ConfirmedContent
  readings : List (String × ImportReadingRecord)
  importId : String
  importScopeId : String
  profileId : String
  profileScopeId : String
  operationId : String
  now : ℤ

/-- The import under which the built-in profile is installed. -/
def simulatedImport (request : SimulatedInstallation) : ImportRecord where
  ownerUserId := request.ownerUserId
  state := .confirmed
  lifecycleState := .active
  lifecycleGeneration := 0
  deletionScopeId := request.importScopeId
  adapter := "SIMULATED_PROFILE_V1"
  rawContentHash := request.artifactSha256
  createdAt := request.now
  publishedAt := some request.now
  confirmedAt := some request.now
  failureCode := none
  profileVersionId := some request.profileId

/-- The operation that installed the built-in profile. -/
def simulatedOperation (request : SimulatedInstallation) (profileId : String) :
    OperationRequestRecord where
  ownerUserId := request.ownerUserId
  routeId := simulatedImportRoute
  idempotencyKey := request.idempotencyKey
  requestSchemaVersion := simulatedImportRequestSchema
  canonicalPayloadHash := request.payloadHash
  operationId := profileId
  createdAt := request.now
  expiresAt := request.now + idempotencyRetention

/-- The profile of the installation: the owner's profile with this content, or a new one under
a new import. -/
def installProfile (db : Database) (request : SimulatedInstallation) :
    Except TransactionError ((String × Bool) × Database) :=
  match profileOfContent db request.ownerUserId request.content.contentHash with
  | some (profileId, _) => .ok ((profileId, true), db)
  | none => do
    let imported ← insertImport db request.importId (simulatedImport request)
    let installed ← insertProfile imported request.profileId
      (newProfile request.ownerUserId request.importId request.content request.profileScopeId
        request.now)
    let read ← insertReadings installed request.readings
    .ok ((request.profileId, false), appendAuditEvent read (some request.ownerUserId)
      .profileInstalled .profile request.profileId 0 request.now)

/-- One try of `install_simulated_profile`: the profile, and whether it was there before. -/
def installSimulatedProfile (db : Database) (request : SimulatedInstallation) :
    Except TransactionError ((String × Bool) × Database) := do
  failIf (¬ (8 ≤ request.idempotencyKey.length ∧ request.idempotencyKey.length ≤ 128))
    (importError "INVALID_IDEMPOTENCY_KEY" "Idempotency key must contain 8 to 128 characters")
  match operationOf db request.ownerUserId simulatedImportRoute request.idempotencyKey with
  | some (_, existing) => do
    failIf (existing.canonicalPayloadHash ≠ request.payloadHash)
      (importError "IDEMPOTENCY_KEY_REUSED" "Idempotency key is bound to another request")
    match (db.profiles.get? existing.operationId).filter (·.ownerUserId = request.ownerUserId) with
    | none => .error (importError "OPERATION_INCOMPLETE" "Built-in simulated import is incomplete")
    | some _ => .ok ((existing.operationId, true), db)
  | none => do
    match db.users.get? request.ownerUserId with
    | none => .error (importError "OWNER_NOT_ACTIVE" "Account cannot accept imports")
    | some user => do
      failIf (user.lifecycleState ≠ .active)
        (importError "OWNER_NOT_ACTIVE" "Account cannot accept imports")
      let (profile, installed) ← installProfile db request
      let recorded ← insertOperation installed request.operationId
        (simulatedOperation request profile.1)
      .ok (profile, recorded)

/-! ### Publication -/

/-- The readings and findings of a normalized draft, with the identifiers of their rows; a
finding of severity `WARNING` has a warning identifier. -/
structure DraftRows where
  readings : List (String × ImportReadingRecord)
  findings : List (String × ImportFindingRecord)

/-- The rows of a draft as they are inserted under an import. -/
def DraftRows.under (rows : DraftRows) (importId : String) : DraftRows where
  readings := rows.readings.map fun row => (row.1, { row.2 with importId := importId })
  findings := rows.findings.map fun row => (row.1, { row.2 with
    importId := importId
    warningId := if row.2.severity = "WARNING" then row.2.warningId else none })

/-- The condition under which a draft is published: neither the expiry of the lease nor a
requested cancellation nor the account is looked at. -/
def publishable (job : JobRecord) (record : ImportRecord) (workerId : String)
    (fencingGeneration : ℕ) : Bool :=
  job.state = .running && job.leaseOwner = some workerId
    && job.fencingGeneration = fencingGeneration && record.state = .processing
    && record.lifecycleState = .active
    && some record.lifecycleGeneration = job.capturedImportGeneration

/-- The database after a publication whose rows are inserted. -/
def finishPublication (db : Database) (importId jobId : String) (record : ImportRecord)
    (fencingGeneration : ℕ) (now : ℤ) : Database :=
  appendAuditEvent
    ({ ((db.updateJob jobId fun job =>
          { job with state := .succeeded, completedAt := some now }).updateAttempt
        jobId fencingGeneration fun attempt =>
          { attempt with state := .succeeded, completedAt := some now }) with
      imports := db.imports.modify importId fun record =>
        { record with state := .ready, publishedAt := some now } })
    (some record.ownerUserId) .jobSucceeded .job jobId fencingGeneration now

/-- `publish_draft`. -/
def publishDraft (db : Database) (importId : String) (draft : DraftRows) (workerId : String)
    (fencingGeneration : ℕ) (now : ℤ) : Except TransactionError (Bool × Database) :=
  match jobOfImport db importId, db.imports.get? importId with
  | some (jobId, job), some record =>
    if !publishable job record workerId fencingGeneration then .ok (false, db)
    else if db.readings.has fun _ reading => reading.importId = importId then .ok (false, db)
    else do
      let read ← insertReadings db (draft.under importId).readings
      let found ← insertFindings read (draft.under importId).findings
      .ok (true, finishPublication found importId jobId record fencingGeneration now)
  | _, _ => .ok (false, db)

/-! ### Confirmation -/

/-- The import is confirmed as a profile version. -/
def ImportRecord.confirmedAs (record : ImportRecord) (profileId : String) (now : ℤ) :
    ImportRecord :=
  { record with
    state := .confirmed
    confirmedAt := some now
    profileVersionId := some profileId }

/-- The owner's profile with this content, in whatever lifecycle it is, or a new one under the
import. -/
def confirmProfile (db : Database) (ownerUserId importId : String) (content : ConfirmedContent)
    (profileId deletionScopeId : String) (now : ℤ) : Except TransactionError (String × Database) :=
  match profileOfContent db ownerUserId content.contentHash with
  | some (existingId, _) => .ok (existingId, db)
  | none => do
    let inserted ← insertProfile db profileId
      (newProfile ownerUserId importId content deletionScopeId now)
    .ok (profileId, inserted)

/-- The import confirmed, its audit event, and its raw object on the way to deletion. -/
def finishConfirmation (db : Database) (ownerUserId importId : String) (record : ImportRecord)
    (profileId : String) (now : ℤ) : Database :=
  { appendAuditEvent
      { db with imports := db.imports.modify importId fun record =>
          record.confirmedAs profileId now }
      (some ownerUserId) .importConfirmed .importing importId record.lifecycleGeneration now with
    rawObjects := db.rawObjects.modifyWhere
      (fun _ raw => raw.importId = importId
        && (raw.state = .available || raw.state = .deletePending))
      fun raw => { raw with state := .deletePending } }

/-- The transaction of `confirm` that writes: it looks at the processing state of the import,
not at its lifecycle. -/
def confirm (db : Database) (ownerUserId importId : String) (content : ConfirmedContent)
    (profileId deletionScopeId : String) (now : ℤ) : Except TransactionError (String × Database) :=
  match (db.imports.get? importId).filter (·.ownerUserId = ownerUserId) with
  | none => .error (importError "IMPORT_NOT_READY" "Import cannot be confirmed")
  | some record => do
    failIf (record.state ≠ .ready ∧ record.state ≠ .confirmed)
      (importError "IMPORT_NOT_READY" "Import cannot be confirmed")
    let (attached, profiled) ← confirmProfile db ownerUserId importId content profileId
      deletionScopeId now
    .ok (attached, finishConfirmation profiled ownerUserId importId record attached now)

/-! ### What the transactions have done -/

section Inversion

variable {db db' : Database} {ownerUserId importId workerId : String} {fencingGeneration : ℕ}
  {now : ℤ} {upload : ImportUpload} {accountGeneration : ℕ} {ids : ImportIdentifiers}
  {profileId : String} {record : ImportRecord} {submission : ImportSubmission} {draft : DraftRows}
  {content : ConfirmedContent} {attached deletionScopeId : String} {request : SimulatedInstallation}

theorem insertImport_eq_ok (h : insertImport db importId record = .ok db') :
    (db.imports.has fun _ other => other.deletionScopeId = record.deletionScopeId) = false ∧
      db.imports.get? importId = none ∧
      db' = { db with imports := db.imports.set importId record } := by
  obtain ⟨imports, hins, hdb⟩ := bind_eq_ok.mp h
  obtain ⟨hsc, hnew, rfl⟩ := insertUnique_eq_ok.mp hins
  exact ⟨hsc, hnew, (Except.ok.inj hdb).symm⟩

theorem insertRaw_eq_ok {rawId : String} {raw : RawObjectRecord}
    (h : insertRaw db rawId raw = .ok db') :
    db.rawObjects.get? rawId = none ∧
      db' = { db with rawObjects := db.rawObjects.set rawId raw } := by
  obtain ⟨rawObjects, hins, hdb⟩ := bind_eq_ok.mp h
  obtain ⟨-, hnew, rfl⟩ := insertUnique_eq_ok.mp hins
  exact ⟨hnew, (Except.ok.inj hdb).symm⟩

theorem insertProfile_eq_ok {profile : ProfileVersionRecord}
    (h : insertProfile db profileId profile = .ok db') :
    (db.profiles.has fun _ other => other.deletionScopeId = profile.deletionScopeId) = false ∧
      db.profiles.get? profileId = none ∧
      db' = { db with profiles := db.profiles.set profileId profile } := by
  obtain ⟨profiles, hins, hdb⟩ := bind_eq_ok.mp h
  obtain ⟨hcfl, hnew, rfl⟩ := insertUnique_eq_ok.mp hins
  refine ⟨?_, hnew, (Except.ok.inj hdb).symm⟩
  rw [Dict.has_eq_false] at hcfl ⊢
  intro k v hmem
  exact (Bool.or_eq_false_iff.mp (hcfl k v hmem)).2

theorem insertReadings_eq_ok {rows : List (String × ImportReadingRecord)}
    (h : insertReadings db rows = .ok db') :
    ∃ readings, db' = { db with readings := readings } := by
  obtain ⟨readings, -, hdb⟩ := bind_eq_ok.mp h
  exact ⟨readings, (Except.ok.inj hdb).symm⟩

theorem insertFindings_eq_ok {rows : List (String × ImportFindingRecord)}
    (h : insertFindings db rows = .ok db') :
    ∃ findings, db' = { db with findings := findings } := by
  obtain ⟨findings, -, hdb⟩ := bind_eq_ok.mp h
  exact ⟨findings, (Except.ok.inj hdb).symm⟩

/-- The rows a submission inserts. -/
theorem insertSubmission_eq_ok (h : insertSubmission db upload accountGeneration ids now = .ok db')
    : (db.imports.has fun _ other => other.deletionScopeId = ids.deletionScopeId) = false ∧
      db.imports.get? ids.importId = none ∧ db.jobs.get? ids.jobId = none ∧
      ∃ auditEvents, db' = { db with
        imports := db.imports.set ids.importId (submittedImport upload ids.deletionScopeId now)
        rawObjects := db.rawObjects.set ids.rawId (submittedRaw upload ids.importId now)
        operationRequests := db.operationRequests.set ids.operationId
          (submittedOperation upload ids.importId now)
        jobs := db.jobs.set ids.jobId (submittedJob upload accountGeneration ids.importId now)
        auditEvents := auditEvents } := by
  simp only [insertSubmission, bind_eq_ok] at h
  obtain ⟨imported, him, stored, hraw, recorded, hop, jobs, hj, hdb⟩ := h
  obtain ⟨hsc, hnewImport, rfl⟩ := insertImport_eq_ok him
  obtain ⟨-, rfl⟩ := insertRaw_eq_ok hraw
  obtain ⟨-, rfl⟩ := insertOperation_eq_ok hop
  obtain ⟨hnewJob, rfl⟩ := insertOrRaise_eq_ok.mp hj
  exact ⟨hsc, hnewImport, hnewJob, _, (Except.ok.inj hdb).symm⟩

/-- The raw object of a submission is recorded under a new identifier. -/
theorem insertSubmission_newRaw (h : insertSubmission db upload accountGeneration ids now = .ok db')
    : db.rawObjects.get? ids.rawId = none := by
  simp only [insertSubmission, bind_eq_ok] at h
  obtain ⟨imported, him, stored, hraw, -⟩ := h
  obtain ⟨-, -, rfl⟩ := insertImport_eq_ok him
  exact (insertRaw_eq_ok hraw).1

/-- **What a recorded submission has done**: it has inserted its rows, or it has changed
nothing. -/
theorem recordSubmission_eq_ok
    (h : recordSubmission db upload accountGeneration ids now = .ok (submission, db')) :
    insertSubmission db upload accountGeneration ids now = .ok db' ∨ db' = db := by
  unfold recordSubmission at h
  split at h
  · rename_i inserted hinsd
    cases h
    exact .inl hinsd
  · split at h
    · cases h
    · rw [failIf_bind_eq_ok] at h
      obtain ⟨_, -, hres⟩ := bind_eq_ok.mp h.2
      cases hres
      exact .inr rfl

/-- A submission that was not answered from an operation has inserted its rows. -/
theorem insertSubmission_of_recordSubmission
    (h : recordSubmission db upload accountGeneration ids now = .ok (submission, db'))
    (hfst : submission.repeated = false) :
    insertSubmission db upload accountGeneration ids now = .ok db' := by
  unfold recordSubmission at h
  split at h
  · rename_i inserted hinsd
    cases h
    exact hinsd
  · split at h
    · cases h
    · rw [failIf_bind_eq_ok] at h
      obtain ⟨repeated, hrep, hres⟩ := bind_eq_ok.mp h.2
      cases hres
      unfold repeatSubmission at hrep
      split at hrep
      · cases hrep
      · cases hrep
        cases hfst

/-- What the condition of a publication says. -/
theorem publishable_iff {job : JobRecord} :
    publishable job record workerId fencingGeneration = true ↔
      job.state = .running ∧ job.leaseOwner = some workerId ∧
        job.fencingGeneration = fencingGeneration ∧ record.state = .processing ∧
        record.lifecycleState = .active ∧
        some record.lifecycleGeneration = job.capturedImportGeneration := by
  simp only [publishable, Bool.and_eq_true, decide_eq_true_eq, and_assoc]

/-- **What a publication has found and done**: it has changed nothing, or it has inserted its
rows and finished the running job of the import. -/
theorem publishDraft_eq_ok {published : Bool}
    (h : publishDraft db importId draft workerId fencingGeneration now = .ok (published, db')) :
    (published = false ∧ db' = db) ∨ (published = true ∧ ∃ jobId job record readings findings,
      jobOfImport db importId = some (jobId, job) ∧ db.imports.get? importId = some record ∧
      publishable job record workerId fencingGeneration = true ∧
      db' = finishPublication { db with readings := readings, findings := findings } importId jobId
        record fencingGeneration now) := by
  unfold publishDraft at h
  split at h
  · rename_i jobId job record hj hrec
    split at h
    · cases h
      exact .inl ⟨rfl, rfl⟩
    · rename_i hpubl
      rw [Bool.not_eq_true', Bool.not_eq_false] at hpubl
      split at h
      · cases h
        exact .inl ⟨rfl, rfl⟩
      · obtain ⟨read, hread, h⟩ := bind_eq_ok.mp h
        obtain ⟨found, hfnd, hres⟩ := bind_eq_ok.mp h
        obtain ⟨readings, rfl⟩ := insertReadings_eq_ok hread
        obtain ⟨findings, rfl⟩ := insertFindings_eq_ok hfnd
        cases hres
        exact .inr ⟨rfl, jobId, job, record, readings, findings, hj, hrec, hpubl, rfl⟩
  · cases h
    exact .inl ⟨rfl, rfl⟩

/-- The profile a confirmation attaches: one that was there, or a new one under the import. -/
theorem confirmProfile_eq_ok
    (h : confirmProfile db ownerUserId importId content profileId deletionScopeId now
      = .ok (attached, db')) :
    (∃ profile, profileOfContent db ownerUserId content.contentHash = some (attached, profile) ∧
      db' = db) ∨
    (profileOfContent db ownerUserId content.contentHash = none ∧ attached = profileId ∧
      (db.profiles.has fun _ other => other.deletionScopeId = deletionScopeId) = false ∧
      db.profiles.get? profileId = none ∧
      db' = { db with
        profiles := db.profiles.set profileId
          (newProfile ownerUserId importId content deletionScopeId now) }) := by
  unfold confirmProfile at h
  split at h
  · rename_i existingId profile hex
    cases h
    exact .inl ⟨profile, hex, rfl⟩
  · rename_i hnone
    obtain ⟨inserted, hins, hres⟩ := bind_eq_ok.mp h
    obtain ⟨hsc, hnew, rfl⟩ := insertProfile_eq_ok hins
    cases hres
    exact .inr ⟨hnone, rfl, hsc, hnew, rfl⟩

/-- **What a confirmation has found and done.** -/
theorem confirm_eq_ok (h : confirm db ownerUserId importId content profileId deletionScopeId now
      = .ok (attached, db')) :
    ∃ record profiled, db.imports.get? importId = some record ∧
      record.ownerUserId = ownerUserId ∧ (record.state = .ready ∨ record.state = .confirmed) ∧
      confirmProfile db ownerUserId importId content profileId deletionScopeId now
        = .ok (attached, profiled) ∧
      db' = finishConfirmation profiled ownerUserId importId record attached now := by
  unfold confirm at h
  split at h
  · cases h
  · rename_i record hrec
    rw [Option.filter_eq_some_iff] at hrec
    rw [failIf_bind_eq_ok] at h
    obtain ⟨hst, h⟩ := h
    obtain ⟨⟨attached', profiled⟩, hpf, hres⟩ := bind_eq_ok.mp h
    cases hres
    refine ⟨record, profiled, hrec.1, of_decide_eq_true hrec.2, ?_, hpf, rfl⟩
    by_cases hready : record.state = .ready
    · exact .inl hready
    · exact .inr (not_not.mp fun hconfirmed => hst ⟨hready, hconfirmed⟩)

/-- The profile of an installation: one that was there, or a new one under a new import. -/
theorem installProfile_eq_ok {installed : String × Bool}
    (h : installProfile db request = .ok (installed, db')) :
    ((∃ profile, profileOfContent db request.ownerUserId request.content.contentHash
        = some (installed.1, profile)) ∧ db' = db) ∨
    (installed.1 = request.profileId ∧
      (db.imports.has fun _ other => other.deletionScopeId = request.importScopeId) = false ∧
      db.imports.get? request.importId = none ∧
      (db.profiles.has fun _ other => other.deletionScopeId = request.profileScopeId) = false ∧
      db.profiles.get? request.profileId = none ∧
      ∃ readings auditEvents, db' = { db with
        imports := db.imports.set request.importId (simulatedImport request)
        profiles := db.profiles.set request.profileId (newProfile request.ownerUserId
          request.importId request.content request.profileScopeId request.now)
        readings := readings
        auditEvents := auditEvents }) := by
  unfold installProfile at h
  split at h
  · rename_i profileId profile hex
    cases h
    exact .inl ⟨⟨profile, hex⟩, rfl⟩
  · simp only [bind_eq_ok] at h
    obtain ⟨imported, him, profiled, hpf, read, hread, hres⟩ := h
    obtain ⟨himS, hnewImport, rfl⟩ := insertImport_eq_ok him
    obtain ⟨hprofileScope, hnewProfile, rfl⟩ := insertProfile_eq_ok hpf
    obtain ⟨readings, rfl⟩ := insertReadings_eq_ok hread
    cases hres
    exact .inr ⟨rfl, himS, hnewImport, hprofileScope, hnewProfile, _, _, rfl⟩

/-- **What an installation has found and done**: it has repeated an operation, or it has found
the account active. -/
theorem installSimulatedProfile_eq_ok {result : String × Bool}
    (h : installSimulatedProfile db request = .ok (result, db')) :
    db' = db ∨ ∃ user installed, db.users.get? request.ownerUserId = some user ∧
      user.lifecycleState = .active ∧ installProfile db request = .ok (result, installed) ∧
      insertOperation installed request.operationId (simulatedOperation request result.1)
        = .ok db' := by
  rw [installSimulatedProfile, failIf_bind_eq_ok] at h
  obtain ⟨-, h⟩ := h
  split at h
  · rw [failIf_bind_eq_ok] at h
    obtain ⟨-, h⟩ := h
    split at h
    · cases h
    · cases h
      exact .inl rfl
  · split at h
    · cases h
    · rename_i user huser
      rw [failIf_bind_eq_ok, not_not] at h
      obtain ⟨hact, h⟩ := h
      obtain ⟨⟨profile, installed⟩, hinst, h⟩ := bind_eq_ok.mp h
      obtain ⟨recorded, hrcd, hres⟩ := bind_eq_ok.mp h
      cases hres
      exact .inr ⟨user, installed, huser, hact, hinst, hrcd⟩

/-- A publication releases its job and closes the attempt. -/
theorem publishDraft_moves :
    JobMoves JobEffect db
      (committed db (publishDraft db importId draft workerId fencingGeneration now)) := by
  refine committed_of (JobMoves.refl db) fun published db' h => ?_
  rcases publishDraft_eq_ok h with ⟨-, rfl⟩ | ⟨-, jobId, job, record, readings, findings, hj,
    -, hpubl, rfl⟩
  · exact JobMoves.refl _
  · obtain ⟨hrun, -, hfencing, -⟩ := publishable_iff.mp hpubl
    have hg : db.jobs.get? jobId = some job := (Dict.first_eq_some_get? hj).1
    have hfrm : JobMoves JobEffect db { db with readings := readings, findings := findings } :=
      JobMoves.of_frame rfl rfl
    have hmoves : JobMoves JobEffect { db with readings := readings, findings := findings }
        ((({ db with readings := readings, findings := findings } : Database).updateJob jobId
            fun job => { job with state := .succeeded, completedAt := some now }).updateAttempt
          jobId fencingGeneration fun attempt =>
            { attempt with state := .succeeded, completedAt := some now }) := by
      refine jobMoves_update hg (fun _ => rfl) ?_
      rw [← hfencing]
      exact JobEffect.release (held_of_eq (.inr hrun)) rfl ⟨rfl, rfl, rfl⟩ (fun _ => rfl)
        fun _ => rfl
    exact (hfrm.trans hmoves).frame rfl rfl

end Inversion

end RateReplay
