import RateReplay.Lib.Table
import RateReplay.Lib.Outcome

/-!
# The relational records

The tables shared by the API and the worker processes (`models.py`).  A table is a dictionary
from primary keys to rows, so the rows do not repeat their `id`.  A column under a `CHECK`
constraint is an enumeration, instants are numbers of microseconds, and identifiers are texts.

A transaction either commits or leaves the database as it was: it is a function to
`Transaction`, whose errors are violated constraints and the errors the services raise.
Primary keys and unique constraints are checked by the insertions.  Foreign keys and the two
unique constraints on the loads of a scenario are not: they only roll back more transactions.

## Main definitions

* `JobRecord`, `JobAttemptRecord`, `ImportRecord`, `ProfileVersionRecord`, … — the rows.
* `Database` — the tables.
* `appendAuditEvent` — an idempotent audit event (`audit.py`).
* `Transaction`, `committed` — the outcome of a transaction and the database after it.
-/

namespace RateReplay

/-! ### Enumerations -/

/-- The lifecycle of an account, an import or a profile under deletion. -/
inductive LifecycleState
  | active
  | deletionPendingLedger
  | deleting
  | deleted
  deriving DecidableEq, Repr

inductive ImportState
  | queued
  | processing
  | ready
  | confirmed
  | failed
  | deleted
  deriving DecidableEq, Repr

inductive JobKind
  | importing
  | replay
  | comparison
  | scenario
  | report
  | retention
  | deletion
  deriving DecidableEq, Repr

inductive ScopeMode
  | activeScope
  | deletingScope
  | systemScope
  deriving DecidableEq, Repr

inductive JobState
  | queued
  | leased
  | running
  | succeeded
  | failed
  | cancelled
  deriving DecidableEq, Repr

/-- `state in {"SUCCEEDED", "FAILED", "CANCELLED"}`. -/
def JobState.terminal : JobState → Bool
  | .succeeded | .failed | .cancelled => true
  | .queued | .leased | .running => false

/-- `state in {"LEASED", "RUNNING"}`. -/
def JobState.held : JobState → Bool
  | .leased | .running => true
  | .queued | .succeeded | .failed | .cancelled => false

inductive AttemptState
  | leased
  | running
  | succeeded
  | failed
  | cancelled
  | expired
  deriving DecidableEq, Repr

/-- The attempt is still `LEASED` or `RUNNING`. -/
def AttemptState.open_ : AttemptState → Bool
  | .leased | .running => true
  | .succeeded | .failed | .cancelled | .expired => false

inductive ScenarioState
  | queued
  | running
  | succeeded
  | failed
  | cancelled
  deriving DecidableEq, Repr

def ScenarioState.terminal : ScenarioState → Bool
  | .succeeded | .failed | .cancelled => true
  | .queued | .running => false

inductive RawObjectState
  | available
  | deletePending
  | deleted
  deriving DecidableEq, Repr

inductive UploadState
  | registered
  | staged
  | accepted
  | deletePending
  | deleted
  deriving DecidableEq, Repr

inductive TargetKind
  | account
  | importing
  | profile
  deriving DecidableEq, Repr

inductive IntentState
  | intentCreated
  | prepared
  | consumed
  | invalidated
  deriving DecidableEq, Repr

inductive LedgerPhase
  | prepared
  | requested
  | completed
  | aborted
  deriving DecidableEq, Repr

inductive ReceiptStatus
  | intentCreated
  | prepared
  | deletionPendingLedger
  | deleting
  | drain
  | sweep
  | verify
  | complete
  | deleted
  | aborted
  deriving DecidableEq, Repr

inductive ControlPhase
  | fence
  | requested
  | drain
  | sweep
  | verify
  | complete
  deriving DecidableEq, Repr

/-! ### Rows -/

structure UserRecord where
  usernameCanonical : String
  passwordHash : String
  lifecycleState : LifecycleState
  lifecycleGeneration : ℕ
  deletionScopeId : String
  deriving DecidableEq

structure SessionRecord where
  userId : String
  tokenHash : String
  csrfHash : String
  createdAt : ℤ
  lastSeenAt : ℤ
  idleExpiresAt : ℤ
  absoluteExpiresAt : ℤ
  revokedAt : Option ℤ
  deriving DecidableEq

structure ImportRecord where
  ownerUserId : String
  state : ImportState
  lifecycleState : LifecycleState
  lifecycleGeneration : ℕ
  deletionScopeId : String
  adapter : String
  rawContentHash : String
  createdAt : ℤ
  publishedAt : Option ℤ
  confirmedAt : Option ℤ
  failureCode : Option String
  profileVersionId : Option String
  deriving DecidableEq

structure RawObjectRecord where
  ownerUserId : String
  importId : String
  objectKey : String
  contentHash : String
  sizeBytes : ℕ
  state : RawObjectState
  createdAt : ℤ
  expiresAt : ℤ
  deletedAt : Option ℤ
  deriving DecidableEq

structure OperationRequestRecord where
  ownerUserId : String
  routeId : String
  idempotencyKey : String
  requestSchemaVersion : String
  canonicalPayloadHash : String
  operationId : String
  createdAt : ℤ
  expiresAt : ℤ
  deriving DecidableEq

/-- The readings of an import; the measured quantity and its source columns are one text. -/
structure ImportReadingRecord where
  importId : String
  startUtcNs : ℤ
  durationSeconds : ℤ
  content : String
  deriving DecidableEq

structure ImportFindingRecord where
  importId : String
  code : String
  severity : String
  fieldPath : String
  safeValue : String
  warningId : Option String
  deriving DecidableEq

structure ProfileVersionRecord where
  ownerUserId : String
  importId : String
  contentHash : String
  canonicalContent : List UInt8
  billingPeriodStartUtcNs : ℤ
  billingPeriodEndUtcNs : ℤ
  tariffTimezone : String
  intervalResolutionSeconds : ℤ
  lifecycleState : LifecycleState
  lifecycleGeneration : ℕ
  deletionScopeId : String
  createdAt : ℤ
  deriving DecidableEq

structure JobRecord where
  ownerUserId : Option String
  kind : JobKind
  requestSchemaVersion : String
  requestHash : String
  scopeMode : ScopeMode
  requestJson : String
  importId : Option String
  profileVersionId : Option String
  capturedAccountGeneration : ℕ
  capturedImportGeneration : Option ℕ
  capturedProfileGeneration : Option ℕ
  state : JobState
  attemptCount : ℕ
  maxAttempts : ℕ
  fencingGeneration : ℕ
  leaseOwner : Option String
  leaseAcquiredAt : Option ℤ
  leaseExpiresAt : Option ℤ
  heartbeatAt : Option ℤ
  notBefore : ℤ
  cancelRequested : Bool
  failureCode : Option String
  requestedSemanticHash : Option String
  calculationContractVersion : Option String
  terminalResultType : Option String
  terminalResultId : Option String
  terminalSemanticHash : Option String
  createdAt : ℤ
  completedAt : Option ℤ
  deriving DecidableEq

structure JobAttemptRecord where
  jobId : String
  attemptNumber : ℕ
  fencingGeneration : ℕ
  workerId : String
  state : AttemptState
  leasedAt : ℤ
  leaseExpiresAt : ℤ
  completedAt : Option ℤ
  failureCode : Option String
  deriving DecidableEq

structure ObjectUploadRegistrationRecord where
  ownerUserId : String
  jobId : String
  attemptNumber : ℕ
  fencingGeneration : ℕ
  artifactClass : String
  objectKey : String
  uploadIdentifier : String
  state : UploadState
  contentHash : Option String
  sizeBytes : Option ℕ
  createdAt : ℤ
  updatedAt : ℤ
  acceptedAt : Option ℤ
  deletedAt : Option ℤ
  deriving DecidableEq

structure JobResultClaimRecord where
  ownerUserId : String
  jobKind : JobKind
  semanticHash : String
  calculationContractVersion : String
  resultType : String
  resultId : String
  acceptedJobId : String
  createdAt : ℤ
  deriving DecidableEq

structure ReplayResultRecord where
  ownerUserId : String
  profileVersionId : String
  jobId : String
  tariffVersionId : String
  operationRequestHash : String
  semanticHash : String
  resultHash : String
  resultJson : String
  lifecycleState : LifecycleState
  lifecycleGeneration : ℕ
  createdAt : ℤ
  deriving DecidableEq

structure ScenarioRecord where
  ownerUserId : String
  profileVersionId : String
  jobId : String
  tariffVersionId : String
  operationRequestHash : String
  inputHash : String
  inputJson : String
  state : ScenarioState
  lifecycleState : LifecycleState
  lifecycleGeneration : ℕ
  createdAt : ℤ
  completedAt : Option ℤ
  deriving DecidableEq

structure ScenarioLoadRecord where
  scenarioId : String
  loadId : String
  physicalAssetKey : String
  kind : String
  mode : String
  executionSpecJson : String
  deriving DecidableEq

structure ScenarioReferenceScheduleRecord where
  scenarioLoadId : String
  occurrenceId : String
  requiredEnergyWh : ℤ
  earliestStartUtc : ℤ
  deadlineUtc : ℤ
  scheduleHash : String
  scheduleJson : String
  deriving DecidableEq

structure ScenarioResultRecord where
  ownerUserId : String
  scenarioId : String
  profileVersionId : String
  jobId : String
  operationRequestHash : String
  semanticHash : String
  resultHash : String
  resultJson : String
  lifecycleState : LifecycleState
  lifecycleGeneration : ℕ
  createdAt : ℤ
  deriving DecidableEq

structure CalculationManifestRecord where
  replayId : Option String
  scenarioResultId : Option String
  calculationHash : String
  manifestJson : String
  createdAt : ℤ
  deriving DecidableEq

structure ComparisonResultRecord where
  ownerUserId : String
  profileVersionId : String
  currentReplayId : String
  jobId : String
  operationRequestHash : String
  semanticHash : String
  resultHash : String
  resultJson : String
  lifecycleState : LifecycleState
  lifecycleGeneration : ℕ
  createdAt : ℤ
  deriving DecidableEq

structure ReportExportRecord where
  ownerUserId : String
  scenarioId : String
  scenarioResultId : String
  profileVersionId : String
  jobId : String
  semanticHash : String
  reportHash : String
  contentJson : String
  objectKey : String
  lifecycleState : LifecycleState
  lifecycleGeneration : ℕ
  createdAt : ℤ
  deriving DecidableEq

structure DeletionIntentRecord where
  ownerUserId : String
  idempotencyKey : String
  requestSchemaVersion : String
  canonicalPayloadHash : String
  receiptDigest : String
  targetKind : TargetKind
  targetScopeId : String
  originalGeneration : ℕ
  proposedGeneration : ℕ
  state : IntentState
  preparationDigest : Option String
  preparationReceipt : Option String
  createdAt : ℤ
  expiresAt : ℤ
  preparedAt : Option ℤ
  consumedAt : Option ℤ
  invalidatedAt : Option ℤ
  deriving DecidableEq

structure DeletionControlOperationRecord where
  targetKind : TargetKind
  targetScopeId : String
  scopeToken : String
  restoreKeyVersion : String
  originalGeneration : ℕ
  deletionGeneration : ℕ
  preparationDigest : String
  intentProofDigest : String
  phase : ControlPhase
  deletionJobId : Option String
  createdAt : ℤ
  updatedAt : ℤ
  deriving DecidableEq

structure DeletionLedgerReceiptRecord where
  deletionId : String
  phase : LedgerPhase
  canonicalDigest : String
  integrityReceipt : String
  acknowledgedAt : ℤ
  deriving DecidableEq

/-- The receipt by which a deletion can be followed without a session. -/
structure DeletionReceiptRecord where
  receiptVerifier : String
  status : ReceiptStatus
  createdAt : ℤ
  completedAt : Option ℤ
  verifierExpiresAt : Option ℤ
  deriving DecidableEq

/-- An older writer seen by a deletion: an attempt or an upload, with the state it was in. -/
inductive FencedWriter
  | jobAttempt (attemptId : String) (state : AttemptState)
  | upload (uploadId : String) (state : UploadState)
  deriving DecidableEq

structure DeletionFenceTargetRecord where
  deletionId : String
  writer : FencedWriter
  observedGeneration : ℕ
  createdAt : ℤ
  resolvedAt : Option ℤ
  deriving DecidableEq

/-- The tombstone kept after a completed deletion. -/
structure DeletionAuditRecord where
  targetKind : TargetKind
  receiptVerifier : Option String
  verifierExpiresAt : ℤ
  scopeToken : String
  restoreKeyVersion : String
  deletionGeneration : ℕ
  completedAt : ℤ
  statusCode : String
  deriving DecidableEq

/-! ### Audit events -/

inductive AuditEventType
  | authRegistered
  | authLoginSucceeded
  | authLogout
  | importSubmitted
  | importConfirmed
  | profileInstalled
  | jobSubmitted
  | jobLeased
  | jobRetryScheduled
  | jobSucceeded
  | jobFailed
  | jobCancelled
  deriving DecidableEq, Repr

inductive AuditSubjectType
  | account
  | importing
  | job
  | profile
  | session
  deriving DecidableEq, Repr

/-- What identifies an audit event (`uq_audit_event_transition`).  Every event type is written
with one outcome only, so the outcome is not a column here. -/
structure AuditTransition where
  ownerUserId : Option String
  eventType : AuditEventType
  subjectType : AuditSubjectType
  subjectId : String
  sequence : ℕ
  deriving DecidableEq

/-! ### The database -/

/-- The tables, each under its primary key; audit events under the transition they record. -/
structure Database where
  users : Dict String UserRecord
  sessions : Dict String SessionRecord
  imports : Dict String ImportRecord
  rawObjects : Dict String RawObjectRecord
  operationRequests : Dict String OperationRequestRecord
  auditEvents : Dict AuditTransition ℤ
  readings : Dict String ImportReadingRecord
  findings : Dict String ImportFindingRecord
  profiles : Dict String ProfileVersionRecord
  jobs : Dict String JobRecord
  attempts : Dict String JobAttemptRecord
  uploads : Dict String ObjectUploadRegistrationRecord
  claims : Dict String JobResultClaimRecord
  replays : Dict String ReplayResultRecord
  scenarios : Dict String ScenarioRecord
  scenarioLoads : Dict String ScenarioLoadRecord
  scenarioReferences : Dict String ScenarioReferenceScheduleRecord
  scenarioResults : Dict String ScenarioResultRecord
  manifests : Dict String CalculationManifestRecord
  comparisons : Dict String ComparisonResultRecord
  reports : Dict String ReportExportRecord
  intents : Dict String DeletionIntentRecord
  receipts : Dict String DeletionReceiptRecord
  controls : Dict String DeletionControlOperationRecord
  ledgerReceipts : Dict String DeletionLedgerReceiptRecord
  fenceTargets : Dict String DeletionFenceTargetRecord
  tombstones : Dict String DeletionAuditRecord
  deriving DecidableEq, Inhabited

/-- `append_audit_event`: an event that is recorded already is kept as it is. -/
def appendAuditEvent (db : Database) (ownerUserId : Option String) (eventType : AuditEventType)
    (subjectType : AuditSubjectType) (subjectId : String) (sequence : ℕ) (now : ℤ) : Database :=
  { db with
    auditEvents :=
      (db.auditEvents.setDefault ⟨ownerUserId, eventType, subjectType, subjectId, sequence⟩ now).1 }

/-! ### Transactions -/

/-- The services that raise errors of their own. -/
inductive Service
  | artifacts
  | calculations
  | scenarios
  | scenarioWorker
  | imports
  | ledger
  | deletions
  | sweep
  | retention
  | restore
  | api
  deriving DecidableEq, Repr

/-- Why a transaction is rolled back. -/
inductive TransactionError
  | integrity
  | valueError (message : String)
  | raised (service : Service) (code message : String)
  deriving DecidableEq, Repr

/-- The outcome of a transaction: what it returns and the database it commits. -/
abbrev Transaction (α : Type) := Except TransactionError (α × Database)

/-- The database after a transaction; a rollback leaves it as it was. -/
def committed {α : Type} (db : Database) : Transaction α → Database
  | .ok (_, db') => db'
  | .error _ => db

/-- `database.add(row); database.flush()` under a primary key. -/
def insertOrRaise {κ α : Type} [DecidableEq κ] (table : Dict κ α) (key : κ) (row : α) :
    Except TransactionError (Dict κ α) :=
  match table.insertRow key row with
  | some table' => .ok table'
  | none => .error .integrity

theorem insertOrRaise_eq_ok {κ α : Type} [DecidableEq κ] {table table' : Dict κ α} {key : κ}
    {row : α} :
    insertOrRaise table key row = .ok table' ↔ table.get? key = none ∧ table' = table.set key row
    := by
  rw [insertOrRaise, ← Dict.insertRow_eq_some]
  cases table.insertRow key row with
  | none => simp
  | some t => simp

/-- `database.add(row)` into a table under unique constraints; `conflict` says which rows stand
in the way. -/
def insertUnique {κ α : Type} [DecidableEq κ] (table : Dict κ α) (conflict : α → Bool) (key : κ)
    (row : α) : Except TransactionError (Dict κ α) := do
  failIf (table.has fun _ other => conflict other) .integrity
  insertOrRaise table key row

theorem insertUnique_eq_ok {κ α : Type} [DecidableEq κ] {table table' : Dict κ α}
    {conflict : α → Bool} {key : κ} {row : α} :
    insertUnique table conflict key row = .ok table' ↔
      (table.has fun _ other => conflict other) = false ∧ table.get? key = none ∧
        table' = table.set key row := by
  rw [insertUnique, failIf_bind_eq_ok, insertOrRaise_eq_ok, Bool.not_eq_true]

/-- A transaction that commits only databases related to its start leaves a related one,
provided that staying put is allowed. -/
theorem committed_of {α : Type} {P : Database → Prop} {db : Database} {outcome : Transaction α}
    (hstay : P db) (hcommit : ∀ r db', outcome = .ok (r, db') → P db') :
    P (committed db outcome) := by
  cases outcome with
  | error e => exact hstay
  | ok r => exact hcommit r.1 r.2 rfl

end RateReplay
