import RateReplay.Persistence.Imports
import RateReplay.Persistence.Ledger

/-!
# Deletion coordination

The protocol by which an account, an import or a profile is deleted (`deletions.py`): an intent
is created, prepared in the external ledger, fenced in the database, and requested in the
ledger; a preparation whose fence provably did not commit is aborted.  Every definition is one
transaction of the database, one read of it, or one append to the ledger, so that a process may
stop between any two of them.

Keys, digests and password verifiers are parameters, collected in `DeletionKeys`.

## Main definitions

* `DeletionTarget`, `targetByScope` — the row a deletion is about.
* `createIntent` — the owner's authorization.
* `preparedAppend`, `recordPrepared` — `_ensure_prepared`.
* `fencePrepared` — `_fence_prepared`.
* `requestedArguments`, `recordRequested` — `_ensure_requested`.
* `proveNoncommit`, `hasProvedNoncommit`, `recordAborted` — `prove_noncommit_and_abort` and
  `_ensure_aborted`.
-/

namespace RateReplay

def deletionError (code message : String) : TransactionError := .raised .deletions code message

/-! ### Keys and digests -/

/-- The key ring and the digests. -/
structure DeletionKeys where
  /-- The current version of the restore key. -/
  currentVersion : String
  /-- `_scope_token` under a version of the key, if the ring has that version. -/
  scopeToken : String → String → Option String
  /-- `_intent_proof_digest`. -/
  intentProofDigest : String → DeletionIntentRecord → String
  /-- `_preparation_digest` of the deletion, the scope token, the version, the generations and
  the proof digest. -/
  preparationDigest : String → String → String → ℕ → ℕ → String → String
  /-- The integrity receipt of a ledger event. -/
  receiptOf : LedgerArguments → Option String → String
  /-- `canonical_sha256`. -/
  canonicalSha256 : LedgerEvent → String
  /-- `_receipt_digest`. -/
  receiptDigest : List UInt8 → String
  /-- `_intent_payload_hash`. -/
  intentPayloadHash : String → TargetKind → String → String
  /-- The hash of a request. -/
  sha256 : String → String

/-- The column text of a kind. -/
def TargetKind.text : TargetKind → String
  | .account => "ACCOUNT"
  | .importing => "IMPORT"
  | .profile => "PROFILE"

/-- `target_kind.title()`. -/
def TargetKind.title : TargetKind → String
  | .account => "Account"
  | .importing => "Import"
  | .profile => "Profile"

/-- `target_kind.lower()`. -/
def TargetKind.lower : TargetKind → String
  | .account => "account"
  | .importing => "import"
  | .profile => "profile"

/-! ### Targets -/

/-- What a deletion reads of its target: a user, an import or a profile. -/
structure DeletionTarget where
  id : String
  ownerUserId : String
  lifecycleState : LifecycleState
  lifecycleGeneration : ℕ
  deletionScopeId : String
  importId : Option String
  deriving DecidableEq

def UserRecord.target (id : String) (user : UserRecord) : DeletionTarget :=
  ⟨id, id, user.lifecycleState, user.lifecycleGeneration, user.deletionScopeId, none⟩

def ImportRecord.target (id : String) (imported : ImportRecord) : DeletionTarget :=
  ⟨id, imported.ownerUserId, imported.lifecycleState, imported.lifecycleGeneration,
    imported.deletionScopeId, some id⟩

def ProfileVersionRecord.target (id : String) (profile : ProfileVersionRecord) : DeletionTarget :=
  ⟨id, profile.ownerUserId, profile.lifecycleState, profile.lifecycleGeneration,
    profile.deletionScopeId, some profile.importId⟩

/-- `_target_by_resource_id`. -/
def targetByResourceId (db : Database) (kind : TargetKind) (resourceId ownerUserId : String) :
    Option DeletionTarget :=
  match kind with
  | .account =>
    if resourceId = ownerUserId then (db.users.get? resourceId).map (UserRecord.target resourceId)
    else none
  | .importing =>
    ((db.imports.get? resourceId).filter (·.ownerUserId = ownerUserId)).map
      (ImportRecord.target resourceId)
  | .profile =>
    ((db.profiles.get? resourceId).filter (·.ownerUserId = ownerUserId)).map
      (ProfileVersionRecord.target resourceId)

/-- `_target_by_scope`; the scope is unique in each table. -/
def targetByScope (db : Database) (kind : TargetKind) (scopeId : String) : Option DeletionTarget :=
  match kind with
  | .account =>
    (db.users.first fun _ user => user.deletionScopeId = scopeId).map fun e =>
      UserRecord.target e.1 e.2
  | .importing =>
    (db.imports.first fun _ imported => imported.deletionScopeId = scopeId).map fun e =>
      ImportRecord.target e.1 e.2
  | .profile =>
    (db.profiles.first fun _ profile => profile.deletionScopeId = scopeId).map fun e =>
      ProfileVersionRecord.target e.1 e.2

/-- The row that a target was read from. -/
def TargetRow (db : Database) (target : DeletionTarget) : TargetKind → Prop
  | .account => ∃ user, db.users.get? target.id = some user ∧
      target = UserRecord.target target.id user
  | .importing => ∃ record, db.imports.get? target.id = some record ∧
      target = ImportRecord.target target.id record
  | .profile => ∃ profile, db.profiles.get? target.id = some profile ∧
      target = ProfileVersionRecord.target target.id profile

theorem targetByScope_eq_some {db : Database} {kind : TargetKind} {scopeId : String}
    {target : DeletionTarget} (h : targetByScope db kind scopeId = some target) :
    target.deletionScopeId = scopeId ∧ TargetRow db target kind := by
  cases kind <;>
  · obtain ⟨⟨id, row⟩, hfst, rfl⟩ := Option.map_eq_some_iff.mp h
    obtain ⟨hg, hsc⟩ := Dict.first_eq_some_get? hfst
    exact ⟨of_decide_eq_true hsc, row, hg, rfl⟩

/-- Set the lifecycle of a target. -/
def Database.setLifecycle (db : Database) (kind : TargetKind) (id : String)
    (state : LifecycleState) (generation : ℕ) : Database :=
  match kind with
  | .account =>
    { db with
      users := db.users.modify id fun user =>
        { user with lifecycleState := state, lifecycleGeneration := generation } }
  | .importing =>
    { db with
      imports := db.imports.modify id fun imported =>
        { imported with lifecycleState := state, lifecycleGeneration := generation } }
  | .profile =>
    { db with
      profiles := db.profiles.modify id fun profile =>
        { profile with lifecycleState := state, lifecycleGeneration := generation } }

/-- `_parent_scope_is_active`. -/
def parentScopeIsActive (kind : TargetKind) (user : Option UserRecord) : Bool :=
  user.any fun user => kind = .account || user.lifecycleState = .active

/-- `lifecycle_state in {"DELETION_PENDING_LEDGER", "DELETING"}`. -/
def LifecycleState.fenced : LifecycleState → Bool
  | .deletionPendingLedger | .deleting => true
  | .active | .deleted => false

/-! ### Intents -/

/-- `INTENT_LIFETIME`. -/
def intentLifetime : ℤ := 15 * 60 * 1000000

/-- `INTENT_SCHEMA`. -/
def intentSchema : String := "deletion-intent-v1"

/-- The arguments of `_create_intent`, and what is drawn for a new intent. -/
structure IntentRequest where
  ownerUserId : String
  targetKind : TargetKind
  targetResourceId : String
  idempotencyKey : String
  receiptSecret : List UInt8
  deletionId : String
  receiptVerifier : String
  now : ℤ

structure DeletionIntentView where
  deletionId : String
  status : ReceiptStatus
  expiresAt : ℤ
  repeated : Bool

/-- `_validate_receipt_secret`. -/
def validateReceiptSecret (secret : List UInt8) : Except TransactionError Unit :=
  failIf (secret.length ≠ 32)
    (deletionError "INVALID_DELETION_PROOF" "Deletion receipt secret must contain exactly 32 bytes")

/-- `_receipt_status`. -/
def receiptStatus (db : Database) (deletionId : String) : Except TransactionError ReceiptStatus :=
  match db.receipts.get? deletionId with
  | none => .error (deletionError "DELETION_CONTROL_CORRUPT" "Deletion receipt is missing")
  | some receipt => .ok receipt.status

/-- `_has_unresolved_preparation`. -/
def hasUnresolvedPreparation (db : Database) (scopeId : String) : Bool :=
  db.intents.has fun deletionId intent => intent.targetScopeId = scopeId
    && intent.preparationReceipt.isSome
    && !db.ledgerReceipts.has fun _ receipt => receipt.deletionId = deletionId
      && (receipt.phase = .requested || receipt.phase = .aborted)

/-- The intent has run out before it was prepared. -/
def intentExpired (intent : DeletionIntentRecord) (now : ℤ) : Bool :=
  intent.state = .intentCreated && intent.expiresAt ≤ now

/-- A new intent on a target. -/
def newIntent (keys : DeletionKeys) (request : IntentRequest) (target : DeletionTarget) :
    DeletionIntentRecord where
  ownerUserId := request.ownerUserId
  idempotencyKey := request.idempotencyKey
  requestSchemaVersion := intentSchema
  canonicalPayloadHash := keys.intentPayloadHash (keys.receiptDigest request.receiptSecret)
    request.targetKind target.deletionScopeId
  receiptDigest := keys.receiptDigest request.receiptSecret
  targetKind := request.targetKind
  targetScopeId := target.deletionScopeId
  originalGeneration := target.lifecycleGeneration
  proposedGeneration := target.lifecycleGeneration + 1
  state := .intentCreated
  preparationDigest := none
  preparationReceipt := none
  createdAt := request.now
  expiresAt := request.now + intentLifetime
  preparedAt := none
  consumedAt := none
  invalidatedAt := none

def DeletionIntentRecord.invalidated (intent : DeletionIntentRecord) (now : ℤ) :
    DeletionIntentRecord :=
  { intent with state := .invalidated, invalidatedAt := some now }

/-- The intent still pending on a target is invalidated when it has run out; otherwise it stands
in the way. -/
def clearActiveIntent (db : Database) (scopeId : String) (now : ℤ) :
    Except TransactionError Database :=
  match db.intents.first fun _ intent => intent.targetScopeId = scopeId
      && intent.state ≠ .invalidated with
  | none => .ok db
  | some (activeId, active) =>
    if intentExpired active now then
      .ok { db with intents := db.intents.modify activeId (·.invalidated now) }
    else
      .error (deletionError "DELETION_ALREADY_PENDING"
        "Another deletion is already pending for this target")

/-- Insert an intent under its unique constraints, with its receipt. -/
def insertIntent (db : Database) (deletionId : String) (intent : DeletionIntentRecord)
    (receiptVerifier : String) (now : ℤ) : Except TransactionError Database := do
  let intents ← insertUnique db.intents
    (fun other => (other.ownerUserId = intent.ownerUserId
      && other.idempotencyKey = intent.idempotencyKey)
      || (other.targetScopeId = intent.targetScopeId && other.state ≠ .invalidated))
    deletionId intent
  let receipts ← insertOrRaise db.receipts deletionId {
    receiptVerifier := receiptVerifier
    status := .intentCreated
    createdAt := now
    completedAt := none
    verifierExpiresAt := none }
  .ok { db with intents := intents, receipts := receipts }

/-- The answer to a request whose key is bound to an intent. -/
def repeatIntent (db : Database) (keys : DeletionKeys) (request : IntentRequest)
    (target : DeletionTarget) (deletionId : String) (keyed : DeletionIntentRecord) :
    Except TransactionError DeletionIntentView := do
  failIf (keyed.canonicalPayloadHash ≠ (newIntent keys request target).canonicalPayloadHash)
    (deletionError "IDEMPOTENCY_CONFLICT" "The idempotency key is bound to another deletion proof")
  failIf (keyed.state = .invalidated ∨ intentExpired keyed request.now)
    (deletionError "INTENT_EXPIRED" "The deletion intent has expired")
  let status ← receiptStatus db deletionId
  .ok ⟨deletionId, status, keyed.expiresAt, true⟩

/-- The intent of the owner under the idempotency key of the request. -/
def keyedIntent (db : Database) (request : IntentRequest) :
    Option (String × DeletionIntentRecord) :=
  db.intents.first fun _ intent => intent.ownerUserId = request.ownerUserId
    && intent.idempotencyKey = request.idempotencyKey

/-- `_create_intent`. -/
def createIntent (keys : DeletionKeys) (db : Database) (request : IntentRequest) :
    Except TransactionError (DeletionIntentView × Database) := do
  validateReceiptSecret request.receiptSecret
  failIf (request.idempotencyKey = "" ∨ 128 < request.idempotencyKey.length)
    (deletionError "INVALID_IDEMPOTENCY_KEY" "Deletion idempotency key is invalid")
  failIf (¬ (db.users.get? request.ownerUserId).any (·.lifecycleState = .active))
    (deletionError "ACCOUNT_NOT_ACTIVE" "The account cannot start a deletion intent")
  match targetByResourceId db request.targetKind request.targetResourceId request.ownerUserId with
  | none =>
    .error (deletionError (request.targetKind.text ++ "_NOT_FOUND")
      (request.targetKind.title ++ " is unavailable"))
  | some target =>
    match keyedIntent db request with
    | some (deletionId, keyed) => do
      let view ← repeatIntent db keys request target deletionId keyed
      .ok (view, db)
    | none => do
      failIf (target.lifecycleState ≠ .active)
        (deletionError "DELETION_ALREADY_PENDING" "Deletion is already pending for this target")
      let cleared ← clearActiveIntent db target.deletionScopeId request.now
      failIf (hasUnresolvedPreparation cleared target.deletionScopeId)
        (deletionError "DELETION_ALREADY_PENDING"
          "A prepared deletion remains unresolved for this target")
      let inserted ← insertIntent cleared request.deletionId (newIntent keys request target)
        request.receiptVerifier request.now
      .ok (⟨request.deletionId, .intentCreated, request.now + intentLifetime, false⟩, inserted)

/-! ### Ledger events in the database -/

/-- The identity `_prepared_arguments` gives an intent under a version of the restore key. -/
def preparedIdentity (keys : DeletionKeys) (deletionId : String) (intent : DeletionIntentRecord)
    (version : String) : Except TransactionError LedgerIdentity :=
  match keys.scopeToken version intent.targetScopeId with
  | none =>
    .error (deletionError "RESTORE_KEY_VERSION_UNAVAILABLE"
      "Restore key version required by the deletion ledger is unavailable")
  | some scopeToken =>
    let proofDigest := keys.intentProofDigest deletionId intent
    .ok {
      scopeToken := scopeToken
      restoreKeyVersion := version
      originalGeneration := intent.originalGeneration
      proposedGeneration := intent.proposedGeneration
      preparationDigest := keys.preparationDigest deletionId scopeToken version
        intent.originalGeneration intent.proposedGeneration proofDigest
      intentProofDigest := proofDigest }

/-- `_validate_event`. -/
def validateEvent (keys : DeletionKeys) (event : LedgerEvent) (deletionId : String)
    (intent : DeletionIntentRecord) : Except TransactionError Unit := do
  let expected ← preparedIdentity keys deletionId intent event.identity.restoreKeyVersion
  failIf (event.phase ≠ .prepared ∨ event.deletionId ≠ deletionId ∨ event.identity ≠ expected)
    (deletionError "PREPARATION_IDENTITY_MISMATCH"
      "Prepared ledger identity does not match the deletion intent")

/-- The identity a control has kept of its preparation. -/
def DeletionControlOperationRecord.identity (control : DeletionControlOperationRecord) :
    LedgerIdentity where
  scopeToken := control.scopeToken
  restoreKeyVersion := control.restoreKeyVersion
  originalGeneration := control.originalGeneration
  proposedGeneration := control.deletionGeneration
  preparationDigest := control.preparationDigest
  intentProofDigest := control.intentProofDigest

/-- `_validate_control_event`. -/
def validateControlEvent (event : LedgerEvent) (deletionId : String)
    (control : DeletionControlOperationRecord) (expected : LedgerPhase) :
    Except TransactionError Unit :=
  failIf (event.phase ≠ expected ∨ event.deletionId ≠ deletionId
      ∨ event.identity ≠ control.identity)
    (deletionError "LEDGER_IDENTITY_MISMATCH"
      "Ledger event does not match the deletion control identity")

/-- `_event_arguments`. -/
def eventArguments (event : LedgerEvent) (phase : LedgerPhase) (occurredAt : ℤ) :
    LedgerArguments :=
  ⟨event.deletionId, phase, event.identity, occurredAt⟩

/-- `_store_ledger_receipt`; the insertion cannot conflict once no row is found, except on its
drawn identifier. -/
def storeLedgerReceipt (keys : DeletionKeys) (db : Database) (event : LedgerEvent)
    (receiptId : String) : Except TransactionError Database :=
  match db.ledgerReceipts.first fun _ stored => stored.deletionId = event.deletionId
      && stored.phase = event.phase with
  | some (_, stored) => do
    failIf (stored.canonicalDigest ≠ keys.canonicalSha256 event
        ∨ stored.integrityReceipt ≠ event.receipt)
      (deletionError "LEDGER_RECEIPT_MISMATCH"
        "Stored ledger acknowledgment differs from the external ledger")
    .ok db
  | none =>
    match db.ledgerReceipts.insertRow receiptId {
        deletionId := event.deletionId
        phase := event.phase
        canonicalDigest := keys.canonicalSha256 event
        integrityReceipt := event.receipt
        acknowledgedAt := event.occurredAt } with
    | some ledgerReceipts => .ok { db with ledgerReceipts := ledgerReceipts }
    | none =>
      .error (deletionError "LEDGER_RECEIPT_CONFLICT"
        "Ledger acknowledgment conflicted without a recoverable record")

/-- Set the status of a deletion receipt, which has to be there. -/
def setReceiptStatus (db : Database) (deletionId : String) (status : ReceiptStatus)
    (missing : TransactionError) : Except TransactionError Database :=
  match db.receipts.get? deletionId with
  | none => .error missing
  | some _ =>
    .ok { db with receipts := db.receipts.modify deletionId ({ · with status := status }) }

/-- The event of a phase in a chain. -/
def eventOfPhase (ledger : List LedgerEvent) (deletionId : String) (phase : LedgerPhase) :
    Option LedgerEvent :=
  (chainOf ledger deletionId).find? fun event => event.phase = phase

/-- The event of a phase, appended if the chain has none yet. -/
def ensureEvent (keys : DeletionKeys) (ledger : List LedgerEvent) (arguments : LedgerArguments) :
    Except TransactionError (LedgerEvent × List LedgerEvent) :=
  match eventOfPhase ledger arguments.deletionId arguments.phase with
  | some event => .ok (event, ledger)
  | none => appendEvent keys.receiptOf ledger arguments

/-! ### Preparation -/

/-- The ledger's part of `_ensure_prepared`: the head of the chain, appended if there is
none. -/
def preparedAppend (keys : DeletionKeys) (db : Database) (ledger : List LedgerEvent)
    (deletionId : String) (now : ℤ) : Except TransactionError (LedgerEvent × List LedgerEvent) :=
  match db.intents.get? deletionId with
  | none =>
    .error (deletionError "DELETION_CONTROL_CORRUPT" "Prepared deletion intent is missing")
  | some intent =>
    match chainOf ledger deletionId with
    | prepared :: _ => do
      validateEvent keys prepared deletionId intent
      .ok (prepared, ledger)
    | [] => do
      let identity ← preparedIdentity keys deletionId intent keys.currentVersion
      appendEvent keys.receiptOf ledger ⟨deletionId, .prepared, identity, now⟩

/-- The intent has been prepared in the ledger. -/
def DeletionIntentRecord.preparedBy (intent : DeletionIntentRecord) (prepared : LedgerEvent) :
    DeletionIntentRecord :=
  { intent with
    preparedAt := some prepared.occurredAt
    preparationDigest := some prepared.identity.preparationDigest
    preparationReceipt := some prepared.receipt }

/-- The database's part of `_ensure_prepared`. -/
def recordPrepared (keys : DeletionKeys) (db : Database) (prepared : LedgerEvent)
    (receiptId : String) : Except TransactionError (Unit × Database) :=
  match db.intents.get? prepared.deletionId with
  | none =>
    .error (deletionError "DELETION_CONTROL_CORRUPT" "Prepared deletion intent is missing")
  | some intent => do
    validateEvent keys prepared prepared.deletionId intent
    let stored ← storeLedgerReceipt keys db prepared receiptId
    let marked : Database := if intent.state = .intentCreated
      then { stored with
        intents := stored.intents.modify prepared.deletionId fun intent =>
          { intent.preparedBy prepared with state := .prepared } }
      else stored
    match marked.receipts.get? prepared.deletionId with
    | none =>
      .error (deletionError "DELETION_CONTROL_CORRUPT" "Prepared deletion receipt is missing")
    | some receipt =>
      .ok ((), if receipt.status = .intentCreated
        then { marked with
          receipts := marked.receipts.modify prepared.deletionId ({ · with status := .prepared }) }
        else marked)

/-! ### The fence -/

/-- The jobs a fence reaches. -/
def fencesJob (kind : TargetKind) (targetId ownerUserId : String) (job : JobRecord) : Bool :=
  job.ownerUserId = some ownerUserId && !job.state.terminal
    && match kind with
      | .account => job.scopeMode = .activeScope || job.scopeMode = .deletingScope
      | .importing => job.importId = some targetId
      | .profile => job.profileVersionId = some targetId

/-- A job under a fence: cancellation is requested, and a queued job is cancelled. -/
def JobRecord.fence (job : JobRecord) (code : String) (now : ℤ) : JobRecord :=
  if job.state = .queued then
    { job with
      cancelRequested := true
      state := .cancelled
      failureCode := some code
      completedAt := some now }
  else { job with cancelRequested := true }

/-- `_fence_dependent_work`. -/
def fenceDependentWork (db : Database) (kind : TargetKind) (targetId ownerUserId : String)
    (now : ℤ) : Database :=
  { db with
    jobs := db.jobs.modifyWhere (fun _ job => fencesJob kind targetId ownerUserId job)
      (·.fence (kind.text ++ "_DELETION") now) }

/-- The sessions of a fenced account are revoked. -/
def revokeSessions (db : Database) (userId : String) (now : ℤ) : Database :=
  { db with
    sessions := db.sessions.modifyWhere
      (fun _ session => session.userId = userId && session.revokedAt = none)
      ({ · with revokedAt := some now }) }

/-- The control of a new fence. -/
def newControl (prepared : LedgerEvent) (intent : DeletionIntentRecord) (now : ℤ) :
    DeletionControlOperationRecord where
  targetKind := intent.targetKind
  targetScopeId := intent.targetScopeId
  scopeToken := prepared.identity.scopeToken
  restoreKeyVersion := prepared.identity.restoreKeyVersion
  originalGeneration := prepared.identity.originalGeneration
  deletionGeneration := prepared.identity.proposedGeneration
  preparationDigest := prepared.identity.preparationDigest
  intentProofDigest := prepared.identity.intentProofDigest
  phase := .fence
  deletionJobId := none
  createdAt := now
  updatedAt := now

/-- Insert a control under its unique constraints. -/
def insertControl (db : Database) (deletionId : String) (control : DeletionControlOperationRecord) :
    Except TransactionError Database := do
  let controls ← insertUnique db.controls
    (fun other => other.targetScopeId = control.targetScopeId
      || other.scopeToken = control.scopeToken) deletionId control
  .ok { db with controls := controls }

/-- What a repeated fence has to find. -/
def matchesFence (control : DeletionControlOperationRecord) (prepared : LedgerEvent)
    (intent : DeletionIntentRecord) (target : Option DeletionTarget) (user : Option UserRecord) :
    Bool :=
  control.targetScopeId = intent.targetScopeId && control.targetKind = intent.targetKind
    && control.scopeToken = prepared.identity.scopeToken
    && control.deletionGeneration = prepared.identity.proposedGeneration
    && control.preparationDigest = prepared.identity.preparationDigest
    && control.intentProofDigest = prepared.identity.intentProofDigest
    && target.any (fun target => target.ownerUserId = intent.ownerUserId
      && target.lifecycleState.fenced
      && target.lifecycleGeneration = prepared.identity.proposedGeneration)
    && parentScopeIsActive intent.targetKind user

/-- What a first fence has to find. -/
def fenceable (prepared : LedgerEvent) (intent : DeletionIntentRecord) (target : DeletionTarget)
    (user : UserRecord) : Bool :=
  target.ownerUserId = intent.ownerUserId && target.lifecycleState = .active
    && target.lifecycleGeneration = prepared.identity.originalGeneration
    && parentScopeIsActive intent.targetKind (some user)
    && (intent.state = .intentCreated || intent.state = .prepared) && intent.consumedAt = none

/-- The fence itself: the target leaves `ACTIVE`, the intent is consumed, and dependent work is
cancelled. -/
def applyFence (db : Database) (prepared : LedgerEvent) (intent : DeletionIntentRecord)
    (target : DeletionTarget) (now : ℤ) : Except TransactionError Database := do
  let fenced := db.setLifecycle intent.targetKind target.id .deletionPendingLedger
    prepared.identity.proposedGeneration
  let consumed : Database := { fenced with
    intents := fenced.intents.modify prepared.deletionId fun intent =>
      { intent.preparedBy prepared with state := .consumed, consumedAt := some now } }
  let controlled ← insertControl consumed prepared.deletionId (newControl prepared intent now)
  let marked ← setReceiptStatus controlled prepared.deletionId .deletionPendingLedger
    (deletionError "DELETION_CONTROL_CORRUPT" "Deletion receipt is missing during fencing")
  let cancelled := fenceDependentWork marked intent.targetKind target.id intent.ownerUserId now
  .ok (if intent.targetKind = .account then revokeSessions cancelled intent.ownerUserId now
    else cancelled)

/-- `_fence_prepared`. -/
def fencePrepared (keys : DeletionKeys) (db : Database) (prepared : LedgerEvent)
    (receiptId : String) (now : ℤ) : Except TransactionError (Unit × Database) := do
  failIf (prepared.phase ≠ .prepared)
    (deletionError "PREPARATION_INVALID" "The database fence requires a PREPARED ledger event")
  match db.intents.get? prepared.deletionId with
  | none =>
    .error (deletionError "PREPARATION_QUARANTINED"
      "Prepared intent is not available for exact reconciliation")
  | some intent => do
    validateEvent keys prepared prepared.deletionId intent
    let stored ← storeLedgerReceipt keys db prepared receiptId
    let target := targetByScope db intent.targetKind intent.targetScopeId
    match db.controls.get? prepared.deletionId with
    | some control => do
      failIf (¬ matchesFence control prepared intent target (db.users.get? intent.ownerUserId))
        (deletionError "DELETION_CONTROL_CORRUPT"
          "Existing deletion control does not match its preparation")
      .ok ((), stored)
    | none =>
      match db.users.get? intent.ownerUserId, target with
      | some user, some target => do
        failIf (¬ fenceable prepared intent target user)
          (deletionError "PREPARATION_QUARANTINED"
            "Prepared deletion cannot be fenced from the live database state")
        let fenced ← applyFence stored prepared intent target now
        .ok ((), fenced)
      | _, _ =>
        .error (deletionError "PREPARATION_QUARANTINED"
          "Prepared deletion cannot be fenced from the live database state")

/-! ### The request -/

/-- The target of a control stands at its exact fence. -/
def atFence (control : DeletionControlOperationRecord) (target : DeletionTarget)
    (user : Option UserRecord) : Bool :=
  target.lifecycleState.fenced && target.lifecycleGeneration = control.deletionGeneration
    && parentScopeIsActive control.targetKind user

/-- The first read of `_ensure_requested`: what is to be appended to the ledger. -/
def requestedArguments (db : Database) (deletionId : String) (now : ℤ) :
    Except TransactionError LedgerArguments :=
  match db.controls.get? deletionId with
  | none => .error (deletionError "PREPARATION_QUARANTINED" "Deletion control is not fenced")
  | some control =>
    match targetByScope db control.targetKind control.targetScopeId with
    | none =>
      .error (deletionError "DELETION_CONTROL_CORRUPT"
        "Requested deletion target is not at its exact fence")
    | some target => do
      failIf (¬ atFence control target (db.users.get? target.ownerUserId))
        (deletionError "DELETION_CONTROL_CORRUPT"
          "Requested deletion target is not at its exact fence")
      .ok ⟨deletionId, .requested, control.identity, now⟩

/-- `_profile_import_generation`. -/
def profileImportGeneration (db : Database) (target : DeletionTarget) :
    Except TransactionError ℕ :=
  match target.importId.bind db.imports.get? with
  | none =>
    .error (deletionError "DELETION_CONTROL_CORRUPT"
      "Profile deletion requires its owning import to remain active")
  | some imported => do
    failIf (imported.ownerUserId ≠ target.ownerUserId ∨ imported.lifecycleState ≠ .active)
      (deletionError "DELETION_CONTROL_CORRUPT"
        "Profile deletion requires its owning import to remain active")
    .ok imported.lifecycleGeneration

/-- The generation of the import that the sweep job captures. -/
def deletionImportGeneration (db : Database) (kind : TargetKind) (target : DeletionTarget) :
    Except TransactionError (Option ℕ) :=
  match kind with
  | .account => .ok none
  | .importing => .ok (some target.lifecycleGeneration)
  | .profile => (profileImportGeneration db target).map some

/-- `{target_kind.lower()}-deletion-v1`. -/
def deletionSchema (kind : TargetKind) : String := kind.lower ++ "-deletion-v1"

/-- The request of a sweep job. -/
def deletionRequestJson (kind : TargetKind) (deletionId : String) : String :=
  "\x7b\"deletion_id\":\"" ++ deletionId ++ "\",\"schema_version\":\"" ++ deletionSchema kind
    ++ "\",\"target_kind\":\"" ++ kind.text ++ "\"\x7d"

/-- The job that sweeps a target. -/
def deletionJob (keys : DeletionKeys) (deletionId : String) (kind : TargetKind)
    (target : DeletionTarget) (user : UserRecord) (importGeneration : Option ℕ) (now : ℤ) :
    JobRecord where
  ownerUserId := some target.ownerUserId
  kind := .deletion
  requestSchemaVersion := deletionSchema kind
  requestHash := keys.sha256 (deletionRequestJson kind deletionId)
  scopeMode := .deletingScope
  requestJson := deletionRequestJson kind deletionId
  importId := target.importId
  profileVersionId := if kind = .profile then some target.id else none
  capturedAccountGeneration := user.lifecycleGeneration
  capturedImportGeneration := importGeneration
  capturedProfileGeneration := if kind = .profile then some target.lifecycleGeneration else none
  state := .queued
  attemptCount := 0
  maxAttempts := 100
  fencingGeneration := 0
  leaseOwner := none
  leaseAcquiredAt := none
  leaseExpiresAt := none
  heartbeatAt := none
  notBefore := now
  cancelRequested := false
  failureCode := none
  requestedSemanticHash := none
  calculationContractVersion := none
  terminalResultType := none
  terminalResultId := none
  terminalSemanticHash := none
  createdAt := now
  completedAt := none

/-- A pending target becomes `DELETING` under a new sweep job. -/
def startSweep (keys : DeletionKeys) (db : Database) (deletionId : String)
    (control : DeletionControlOperationRecord) (target : DeletionTarget) (user : UserRecord)
    (jobId : String) (now : ℤ) : Except TransactionError Database := do
  let importGeneration ← deletionImportGeneration db control.targetKind target
  let jobs ← insertOrRaise db.jobs jobId
    (deletionJob keys deletionId control.targetKind target user importGeneration now)
  failIf (db.controls.has fun _ other => other.deletionJobId = some jobId) .integrity
  let deleting := ({ db with jobs := jobs } : Database).setLifecycle control.targetKind target.id
    .deleting target.lifecycleGeneration
  let draining : Database := { deleting with
    controls := deleting.controls.modify deletionId fun control =>
      { control with phase := .drain, deletionJobId := some jobId, updatedAt := now } }
  setReceiptStatus draining deletionId .deleting
    (deletionError "DELETION_CONTROL_CORRUPT" "Deletion receipt is missing after REQUESTED")

/-- The last transaction of `_ensure_requested`. -/
def recordRequested (keys : DeletionKeys) (db : Database) (deletionId : String)
    (requested : LedgerEvent) (jobId receiptId : String) (now : ℤ) :
    Except TransactionError (Unit × Database) :=
  match db.controls.get? deletionId with
  | none =>
    .error (deletionError "DELETION_CONTROL_CORRUPT" "Deletion control disappeared after REQUESTED")
  | some control => do
    validateControlEvent requested deletionId control .requested
    match targetByScope db control.targetKind control.targetScopeId with
    | none =>
      .error (deletionError "DELETION_CONTROL_CORRUPT"
        "REQUESTED cannot transition the exact fenced target")
    | some target =>
      match db.users.get? target.ownerUserId with
      | none =>
        .error (deletionError "DELETION_CONTROL_CORRUPT"
          "REQUESTED cannot transition the exact fenced target")
      | some user => do
        failIf (¬ atFence control target (some user))
          (deletionError "DELETION_CONTROL_CORRUPT"
            "REQUESTED cannot transition the exact fenced target")
        let stored ← storeLedgerReceipt keys db requested receiptId
        if target.lifecycleState = .deleting then do
          failIf (control.deletionJobId = none)
            (deletionError "DELETION_CONTROL_CORRUPT" "Deleting target has no sweep job")
          .ok ((), stored)
        else do
          let started ← startSweep keys stored deletionId control target user jobId now
          .ok ((), started)

/-! ### Abortion -/

/-- The live row shows that the fence of an intent did not commit. -/
def targetUntouched (intent : DeletionIntentRecord) (target : Option DeletionTarget) : Bool :=
  target.any fun target => target.lifecycleState = .active
    && target.lifecycleGeneration = intent.originalGeneration
    && target.ownerUserId = intent.ownerUserId

/-- The transaction of `prove_noncommit_and_abort`: the intent is invalidated once the database
shows that its fence did not commit. -/
def proveNoncommit (keys : DeletionKeys) (db : Database) (ledger : List LedgerEvent)
    (deletionId : String) (now : ℤ) : Except TransactionError (LedgerEvent × Database) :=
  match chainOf ledger deletionId with
  | [prepared] => do
    failIf (prepared.phase ≠ .prepared)
      (deletionError "ABORT_NOT_PROVABLE" "The deletion ledger is not an unresolved preparation")
    match db.intents.get? deletionId with
    | none =>
      .error (deletionError "ABORT_NOT_PROVABLE"
        "The prepared intent is unavailable for noncommit proof")
    | some intent => do
      validateEvent keys prepared deletionId intent
      failIf (¬ (db.controls.get? deletionId = none
          ∧ (intent.state = .intentCreated ∨ intent.state = .prepared)
          ∧ targetUntouched intent (targetByScope db intent.targetKind intent.targetScopeId)))
        (deletionError "ABORT_NOT_PROVABLE"
          "The database cannot prove that the prepared fence did not commit")
      .ok (prepared, { db with intents := db.intents.modify deletionId (·.invalidated now) })
  | _ =>
    .error (deletionError "ABORT_NOT_PROVABLE"
      "The deletion ledger is not an unresolved preparation")

/-- `_preparation_has_proved_noncommit`. -/
def hasProvedNoncommit (keys : DeletionKeys) (db : Database) (prepared : LedgerEvent) : Bool :=
  match db.intents.get? prepared.deletionId with
  | none => false
  | some intent =>
    (validateEvent keys prepared prepared.deletionId intent).toOption.isSome
      && intent.state = .invalidated && intent.invalidatedAt.isSome
      && (db.controls.get? prepared.deletionId).isNone
      && targetUntouched intent (targetByScope db intent.targetKind intent.targetScopeId)

/-- The last transaction of `_ensure_aborted`. -/
def recordAborted (keys : DeletionKeys) (db : Database) (aborted : LedgerEvent)
    (receiptId : String) : Except TransactionError (Unit × Database) := do
  let stored ← storeLedgerReceipt keys db aborted receiptId
  let marked ← setReceiptStatus stored aborted.deletionId .aborted
    (deletionError "DELETION_CONTROL_CORRUPT" "Deletion receipt is missing")
  .ok ((), marked)

/-! ### Retention -/

/-- One turn of `_expire_deletion_intents`: an intent that has run out without any ledger event
is removed with its receipt. -/
def expireDeletionIntent (db : Database) (ledger : List LedgerEvent) (deletionId : String)
    (now : ℤ) : Except TransactionError (Unit × Database) :=
  match (db.intents.get? deletionId).filter fun intent => intent.state = .intentCreated
      && intent.expiresAt ≤ now with
  | none => .ok ((), db)
  | some _ =>
    if chainOf ledger deletionId ≠ [] then .ok ((), db)
    else do
      failIf (¬ (db.receipts.get? deletionId).any (·.status = .intentCreated))
        (.raised .retention "DELETION_INTENT_CONTROL_MISMATCH"
          "Expired deletion intent has inconsistent receipt state")
      .ok ((), { db with
        receipts := db.receipts.deleteWhere fun id _ => id = deletionId
        intents := db.intents.deleteWhere fun id _ => id = deletionId })

/-! ### What the transactions have done -/

section Inversion

variable {keys : DeletionKeys} {db db' : Database} {deletionId receiptId : String} {now : ℤ}
  {target : DeletionTarget} {prepared : LedgerEvent} {ledger : List LedgerEvent}
  {control : DeletionControlOperationRecord} {intent : DeletionIntentRecord}
  {request : IntentRequest} {view : DeletionIntentView} {user : UserRecord} {jobId : String}

/-- Every acknowledgment was there before, or is one of the events. -/
def Acknowledges (receipts receipts' : Dict String DeletionLedgerReceiptRecord)
    (events : List LedgerEvent) : Prop :=
  ∀ id receipt, receipts'.get? id = some receipt → receipts.get? id = some receipt ∨
    ∃ event ∈ events, receipt.deletionId = event.deletionId ∧ receipt.phase = event.phase

theorem Acknowledges.trans {receipts receipts' receipts'' : Dict String DeletionLedgerReceiptRecord}
    {events events' : List LedgerEvent} (h₁ : Acknowledges receipts receipts' events)
    (h₂ : Acknowledges receipts' receipts'' events') :
    Acknowledges receipts receipts'' (events ++ events') := by
  intro id receipt hg
  rcases h₂ id receipt hg with hold | ⟨event, hmem, hev⟩
  · rcases h₁ id receipt hold with hold | ⟨event, hmem, hev⟩
    · exact .inl hold
    · exact .inr ⟨event, List.mem_append_left _ hmem, hev⟩
  · exact .inr ⟨event, List.mem_append_right _ hmem, hev⟩

theorem storeLedgerReceipt_eq_ok {event : LedgerEvent}
    (h : storeLedgerReceipt keys db event receiptId = .ok db') :
    ∃ ledgerReceipts, Acknowledges db.ledgerReceipts ledgerReceipts [event] ∧
      db' = { db with ledgerReceipts := ledgerReceipts } := by
  unfold storeLedgerReceipt at h
  split at h
  · rw [failIf_bind_eq_ok] at h
    cases h.2
    exact ⟨db.ledgerReceipts, fun _ _ hg => .inl hg, rfl⟩
  · split at h
    · rename_i ledgerReceipts hins
      cases h
      refine ⟨ledgerReceipts, fun id receipt hg => ?_, rfl⟩
      rw [(Dict.insertRow_eq_some.mp hins).2] at hg
      rcases Dict.get?_of_set hg with ⟨-, rfl⟩ | ⟨-, hold⟩
      · exact .inr ⟨event, List.mem_singleton_self event, rfl, rfl⟩
      · exact .inl hold
    · cases h

theorem setReceiptStatus_eq_ok {status : ReceiptStatus} {missing : TransactionError}
    (h : setReceiptStatus db deletionId status missing = .ok db') :
    ∃ receipts, db' = { db with receipts := receipts } := by
  unfold setReceiptStatus at h
  split at h
  · cases h
  · cases h
    exact ⟨_, rfl⟩

theorem insertControl_eq_ok (h : insertControl db deletionId control = .ok db') :
    db.controls.get? deletionId = none ∧
      db' = { db with controls := db.controls.set deletionId control } := by
  obtain ⟨controls, hins, hdb⟩ := bind_eq_ok.mp h
  obtain ⟨-, hnew, rfl⟩ := insertUnique_eq_ok.mp hins
  exact ⟨hnew, (Except.ok.inj hdb).symm⟩

theorem insertIntent_eq_ok {receiptVerifier : String}
    (h : insertIntent db deletionId intent receiptVerifier now = .ok db') :
    (∀ id other, db.intents.get? id = some other → other.targetScopeId = intent.targetScopeId →
        other.state = .invalidated) ∧
      db.intents.get? deletionId = none ∧ db.receipts.get? deletionId = none ∧
      db' = { db with
        intents := db.intents.set deletionId intent
        receipts := db.receipts.set deletionId {
          receiptVerifier := receiptVerifier
          status := .intentCreated
          createdAt := now
          completedAt := none
          verifierExpiresAt := none } } := by
  obtain ⟨intents, hints, h⟩ := bind_eq_ok.mp h
  obtain ⟨receipts, hrcp, hdb⟩ := bind_eq_ok.mp h
  obtain ⟨hcfl, hnew, rfl⟩ := insertUnique_eq_ok.mp hints
  obtain ⟨hnewReceipt, rfl⟩ := insertOrRaise_eq_ok.mp hrcp
  refine ⟨fun id other hg hsc => ?_, hnew, hnewReceipt, (Except.ok.inj hdb).symm⟩
  have hfree := Dict.has_eq_false.mp hcfl id other (Dict.get?_eq_some.mp hg)
  simpa [hsc] using (Bool.or_eq_false_iff.mp hfree).2

/-- What stood in the way of a new intent: nothing, or an intent that had run out. -/
theorem clearActiveIntent_eq_ok {scopeId : String}
    (h : clearActiveIntent db scopeId now = .ok db') :
    db' = db ∨ ∃ activeId active, db.intents.get? activeId = some active ∧
      active.targetScopeId = scopeId ∧ intentExpired active now = true ∧
      db' = { db with intents := db.intents.modify activeId (·.invalidated now) } := by
  unfold clearActiveIntent at h
  split at h
  · exact .inl (Except.ok.inj h).symm
  · rename_i activeId active hact
    obtain ⟨hg, hsc⟩ := Dict.first_eq_some_get? hact
    rw [Bool.and_eq_true, decide_eq_true_eq] at hsc
    split at h
    · rename_i hexp
      exact .inr ⟨activeId, active, hg, hsc.1, hexp, (Except.ok.inj h).symm⟩
    · cases h

/-- The target that a request for an intent names. -/
theorem targetByResourceId_eq_some {kind : TargetKind} {resourceId ownerUserId : String}
    (h : targetByResourceId db kind resourceId ownerUserId = some target) :
    target.id = resourceId ∧ target.ownerUserId = ownerUserId ∧ TargetRow db target kind := by
  cases kind with
  | account =>
    rw [targetByResourceId] at h
    split at h
    · rename_i ho
      obtain ⟨user, huser, rfl⟩ := Option.map_eq_some_iff.mp h
      exact ⟨rfl, ho, user, huser, rfl⟩
    · cases h
  | importing | profile =>
    obtain ⟨row, hrow, rfl⟩ := Option.map_eq_some_iff.mp h
    rw [Option.filter_eq_some_iff] at hrow
    exact ⟨rfl, of_decide_eq_true hrow.2, row, hrow.1, rfl⟩

theorem repeatIntent_repeated {keyed : DeletionIntentRecord}
    (h : repeatIntent db keys request target deletionId keyed = .ok view) :
    view.repeated = true := by
  rw [repeatIntent, failIf_bind_eq_ok, failIf_bind_eq_ok] at h
  obtain ⟨status, -, hview⟩ := bind_eq_ok.mp h.2.2
  cases hview
  rfl

/-- **What a new intent has found and done**: it has repeated an intent, or it has found the
account and the target active and nothing unresolved of the target in the database. -/
theorem createIntent_eq_ok (h : createIntent keys db request = .ok (view, db')) :
    (view.repeated = true ∧ db' = db) ∨ ∃ target cleared, view.repeated = false ∧
      keyedIntent db request = none ∧
      (∃ user, db.users.get? request.ownerUserId = some user ∧ user.lifecycleState = .active) ∧
      targetByResourceId db request.targetKind request.targetResourceId request.ownerUserId
        = some target ∧
      target.lifecycleState = .active ∧
      clearActiveIntent db target.deletionScopeId request.now = .ok cleared ∧
      hasUnresolvedPreparation cleared target.deletionScopeId = false ∧
      insertIntent cleared request.deletionId (newIntent keys request target)
        request.receiptVerifier request.now = .ok db' := by
  obtain ⟨_, -, h⟩ := bind_eq_ok.mp h
  rw [failIf_bind_eq_ok, failIf_bind_eq_ok, not_not] at h
  obtain ⟨-, huser, h⟩ := h
  split at h
  · cases h
  · rename_i target htgt
    split at h
    · obtain ⟨repeated, hrep, hres⟩ := bind_eq_ok.mp h
      cases hres
      exact .inl ⟨repeatIntent_repeated hrep, rfl⟩
    · rename_i hnew
      rw [failIf_bind_eq_ok, not_not] at h
      obtain ⟨hact, h⟩ := h
      obtain ⟨cleared, hclr, h⟩ := bind_eq_ok.mp h
      rw [failIf_bind_eq_ok, Bool.not_eq_true] at h
      obtain ⟨hrsd, h⟩ := h
      obtain ⟨inserted, hinsd, hres⟩ := bind_eq_ok.mp h
      cases hres
      refine .inr ⟨target, cleared, rfl, hnew, ?_, htgt, hact, hclr, hrsd, hinsd⟩
      cases hg : db.users.get? request.ownerUserId with
      | none =>
        rw [hg] at huser
        cases huser
      | some user =>
        rw [hg] at huser
        exact ⟨user, rfl, of_decide_eq_true huser⟩

/-- **What a preparation has found and done in the database**: the intent of the event is there
and matches it, and it is marked unless it had gone on. -/
theorem recordPrepared_eq_ok {u : Unit}
    (h : recordPrepared keys db prepared receiptId = .ok (u, db')) :
    ∃ intent ledgerReceipts receipts, db.intents.get? prepared.deletionId = some intent ∧
      validateEvent keys prepared prepared.deletionId intent = .ok () ∧
      Acknowledges db.ledgerReceipts ledgerReceipts [prepared] ∧
      db' = { db with
        ledgerReceipts := ledgerReceipts
        receipts := receipts
        intents := if intent.state = .intentCreated
          then db.intents.modify prepared.deletionId fun intent =>
            { intent.preparedBy prepared with state := .prepared }
          else db.intents } := by
  unfold recordPrepared at h
  split at h
  · cases h
  · rename_i intent hint
    obtain ⟨_, hv, h⟩ := bind_eq_ok.mp h
    obtain ⟨stored, hsto, h⟩ := bind_eq_ok.mp h
    obtain ⟨ledgerReceipts, hack, rfl⟩ := storeLedgerReceipt_eq_ok hsto
    dsimp only at h
    split at h
    · cases h
    · by_cases hst : intent.state = .intentCreated
      · simp only [if_pos hst] at h
        cases h
        split
        · exact ⟨intent, _, _, hint, hv, hack, by rw [if_pos hst]⟩
        · exact ⟨intent, _, _, hint, hv, hack, by rw [if_pos hst]⟩
      · simp only [if_neg hst] at h
        cases h
        split
        · exact ⟨intent, _, _, hint, hv, hack, by rw [if_neg hst]⟩
        · exact ⟨intent, _, _, hint, hv, hack, by rw [if_neg hst]⟩

/-- **What a proof of noncommit has found and done**: an unresolved preparation, an intent that
is not consumed, no control, and an active target. -/
theorem proveNoncommit_eq_ok
    (h : proveNoncommit keys db ledger deletionId now = .ok (prepared, db')) :
    ∃ intent, chainOf ledger deletionId = [prepared] ∧ prepared.phase = .prepared ∧
      db.intents.get? deletionId = some intent ∧
      validateEvent keys prepared deletionId intent = .ok () ∧
      db.controls.get? deletionId = none ∧
      (intent.state = .intentCreated ∨ intent.state = .prepared) ∧
      targetUntouched intent (targetByScope db intent.targetKind intent.targetScopeId) = true ∧
      db' = { db with intents := db.intents.modify deletionId (·.invalidated now) } := by
  unfold proveNoncommit at h
  split at h
  · rename_i only hch
    rw [failIf_bind_eq_ok, not_not] at h
    obtain ⟨hph, h⟩ := h
    split at h
    · cases h
    · rename_i intent hint
      obtain ⟨_, hv, h⟩ := bind_eq_ok.mp h
      rw [failIf_bind_eq_ok, not_not] at h
      obtain ⟨⟨hctl, hst, huntouched⟩, hres⟩ := h
      cases hres
      exact ⟨intent, hch, hph, hint, hv, hctl, hst, huntouched, rfl⟩
  · cases h

theorem recordAborted_eq_ok {aborted : LedgerEvent} {u : Unit}
    (h : recordAborted keys db aborted receiptId = .ok (u, db')) :
    ∃ ledgerReceipts receipts, Acknowledges db.ledgerReceipts ledgerReceipts [aborted] ∧
      db' = { db with
        ledgerReceipts := ledgerReceipts
        receipts := receipts } := by
  obtain ⟨stored, hsto, h⟩ := bind_eq_ok.mp h
  obtain ⟨marked, hmarked, hres⟩ := bind_eq_ok.mp h
  obtain ⟨ledgerReceipts, hack, rfl⟩ := storeLedgerReceipt_eq_ok hsto
  obtain ⟨receipts, rfl⟩ := setReceiptStatus_eq_ok hmarked
  cases hres
  exact ⟨ledgerReceipts, receipts, hack, rfl⟩

/-- What the expiry of an intent has found and done: nothing, or the intent had no ledger event
and is gone. -/
theorem expireDeletionIntent_eq_ok {u : Unit}
    (h : expireDeletionIntent db ledger deletionId now = .ok (u, db')) :
    db' = db ∨ ∃ intent, db.intents.get? deletionId = some intent ∧
      intent.state = .intentCreated ∧ chainOf ledger deletionId = [] ∧
      db' = { db with
        receipts := db.receipts.deleteWhere fun id _ => id = deletionId
        intents := db.intents.deleteWhere fun id _ => id = deletionId } := by
  unfold expireDeletionIntent at h
  split at h
  · cases h
    exact .inl rfl
  · rename_i intent hint
    rw [Option.filter_eq_some_iff, Bool.and_eq_true, decide_eq_true_eq] at hint
    split at h
    · cases h
      exact .inl rfl
    · rename_i hch
      rw [failIf_bind_eq_ok] at h
      cases h.2
      exact .inr ⟨intent, hint.1, hint.2.1, not_not.mp hch, rfl⟩

/-- What the first read of a request has found: the control, and its target at the fence. -/
theorem requestedArguments_eq_ok {arguments : LedgerArguments}
    (h : requestedArguments db deletionId now = .ok arguments) :
    ∃ control target, db.controls.get? deletionId = some control ∧
      targetByScope db control.targetKind control.targetScopeId = some target ∧
      atFence control target (db.users.get? target.ownerUserId) = true ∧
      arguments = ⟨deletionId, .requested, control.identity, now⟩ := by
  unfold requestedArguments at h
  split at h
  · cases h
  · rename_i control hctl
    split at h
    · cases h
    · rename_i target htgt
      rw [failIf_bind_eq_ok, not_not] at h
      obtain ⟨hf, hres⟩ := h
      cases hres
      exact ⟨control, target, hctl, htgt, hf, rfl⟩

/-- What the ledger's part of a preparation has found and done: the first event of the chain
matches the intent, or it is appended. -/
theorem preparedAppend_eq_ok {ledger' : List LedgerEvent}
    (h : preparedAppend keys db ledger deletionId now = .ok (prepared, ledger')) :
    ∃ intent, db.intents.get? deletionId = some intent ∧
      ((ledger' = ledger ∧ (chainOf ledger deletionId).head? = some prepared ∧
          validateEvent keys prepared deletionId intent = .ok ()) ∨
        ∃ identity, chainOf ledger deletionId = [] ∧
          preparedIdentity keys deletionId intent keys.currentVersion = .ok identity ∧
          appendEvent keys.receiptOf ledger ⟨deletionId, .prepared, identity, now⟩
            = .ok (prepared, ledger')) := by
  unfold preparedAppend at h
  split at h
  · cases h
  · rename_i intent hint
    refine ⟨intent, hint, ?_⟩
    split at h
    · rename_i first rest hch
      obtain ⟨_, hv, hres⟩ := bind_eq_ok.mp h
      cases hres
      exact .inl ⟨rfl, by rw [hch]; rfl, hv⟩
    · rename_i hch
      obtain ⟨identity, hidentity, h⟩ := bind_eq_ok.mp h
      exact .inr ⟨identity, hch, hidentity, h⟩

theorem fenceable_eq_true (h : fenceable prepared intent target user = true) :
    target.ownerUserId = intent.ownerUserId ∧ target.lifecycleState = .active ∧
      intent.state ≠ .consumed ∧ intent.state ≠ .invalidated := by
  simp only [fenceable, Bool.and_eq_true, Bool.or_eq_true, decide_eq_true_eq] at h
  obtain ⟨⟨⟨⟨⟨ho, hact⟩, -⟩, -⟩, hst⟩, -⟩ := h
  refine ⟨ho, hact, ?_⟩
  rcases hst with hst | hst <;> rw [hst] <;> decide

/-- What a new fence leaves behind, in the tables that others read. -/
structure Fenced (db db' : Database) (prepared : LedgerEvent) (intent : DeletionIntentRecord)
    (target : DeletionTarget) (now : ℤ) : Prop where
  users : db'.users = (db.setLifecycle intent.targetKind target.id .deletionPendingLedger
    prepared.identity.proposedGeneration).users
  imports : db'.imports = (db.setLifecycle intent.targetKind target.id .deletionPendingLedger
    prepared.identity.proposedGeneration).imports
  profiles : db'.profiles = (db.setLifecycle intent.targetKind target.id .deletionPendingLedger
    prepared.identity.proposedGeneration).profiles
  intents : db'.intents = db.intents.modify prepared.deletionId fun intent =>
    { intent.preparedBy prepared with state := .consumed, consumedAt := some now }
  controls : db'.controls = db.controls.set prepared.deletionId (newControl prepared intent now)
  jobs : db'.jobs = (fenceDependentWork db intent.targetKind target.id intent.ownerUserId now).jobs
  sessions : db'.sessions = if intent.targetKind = .account
    then (revokeSessions db intent.ownerUserId now).sessions else db.sessions
  rest : db' = { db with
    users := db'.users
    imports := db'.imports
    profiles := db'.profiles
    intents := db'.intents
    controls := db'.controls
    jobs := db'.jobs
    sessions := db'.sessions
    receipts := db'.receipts
    ledgerReceipts := db'.ledgerReceipts }

theorem applyFence_eq_ok (h : applyFence db prepared intent target now = .ok db') :
    Fenced db db' prepared intent target now ∧ db'.ledgerReceipts = db.ledgerReceipts := by
  obtain ⟨controlled, hctl, h⟩ := bind_eq_ok.mp h
  obtain ⟨marked, hmarked, hres⟩ := bind_eq_ok.mp h
  obtain ⟨-, rfl⟩ := insertControl_eq_ok hctl
  obtain ⟨receipts, rfl⟩ := setReceiptStatus_eq_ok hmarked
  cases hres
  cases hk : intent.targetKind <;>
    exact ⟨⟨by rw [hk]; rfl, by rw [hk]; rfl, by rw [hk]; rfl, rfl, rfl,
      by rw [hk]; rfl, by rw [hk]; rfl, rfl⟩, rfl⟩

/-- **What a fence has found and done**: it has repeated a fence, or the target has left
`ACTIVE`. -/
theorem fencePrepared_eq_ok {u : Unit}
    (h : fencePrepared keys db prepared receiptId now = .ok (u, db')) :
    ∃ intent, db.intents.get? prepared.deletionId = some intent ∧
      validateEvent keys prepared prepared.deletionId intent = .ok () ∧
      Acknowledges db.ledgerReceipts db'.ledgerReceipts [prepared] ∧
      ((∃ control ledgerReceipts, db.controls.get? prepared.deletionId = some control ∧
          matchesFence control prepared intent
            (targetByScope db intent.targetKind intent.targetScopeId)
            (db.users.get? intent.ownerUserId) = true ∧
          db' = { db with ledgerReceipts := ledgerReceipts }) ∨
        ∃ target user, db.controls.get? prepared.deletionId = none ∧
          targetByScope db intent.targetKind intent.targetScopeId = some target ∧
          db.users.get? intent.ownerUserId = some user ∧
          fenceable prepared intent target user = true ∧
          Fenced db db' prepared intent target now) := by
  rw [fencePrepared, failIf_bind_eq_ok] at h
  obtain ⟨-, h⟩ := h
  split at h
  · cases h
  · rename_i intent hint
    obtain ⟨_, hv, h⟩ := bind_eq_ok.mp h
    obtain ⟨stored, hsto, h⟩ := bind_eq_ok.mp h
    obtain ⟨ledgerReceipts, hack, rfl⟩ := storeLedgerReceipt_eq_ok hsto
    refine ⟨intent, hint, hv, ?_⟩
    dsimp only at h
    split at h
    · rename_i control hctl
      rw [failIf_bind_eq_ok, not_not] at h
      obtain ⟨hmat, hres⟩ := h
      cases hres
      exact ⟨hack, .inl ⟨control, ledgerReceipts, hctl, hmat, rfl⟩⟩
    · rename_i hctl
      split at h
      · rename_i user target huser htgt
        rw [failIf_bind_eq_ok, not_not] at h
        obtain ⟨hfable, h⟩ := h
        obtain ⟨fenced, hfcd, hres⟩ := bind_eq_ok.mp h
        cases hres
        obtain ⟨hf, hrcp⟩ := applyFence_eq_ok hfcd
        refine ⟨hrcp ▸ hack, .inr ⟨target, user, hctl, htgt, huser,
          hfable, ?_⟩⟩
        cases hk : intent.targetKind <;>
          exact ⟨by rw [hf.users, hk]; rfl, by rw [hf.imports, hk]; rfl,
            by rw [hf.profiles, hk]; rfl, hf.intents, hf.controls,
            by rw [hf.jobs, hk]; rfl, by rw [hf.sessions, hk]; rfl, hf.rest⟩
      · cases h

/-- What a new sweep leaves behind, in the tables that others read. -/
structure SweepStarted (keys : DeletionKeys) (db db' : Database) (deletionId jobId : String)
    (control : DeletionControlOperationRecord) (target : DeletionTarget) (now : ℤ) : Prop where
  users : db'.users = (db.setLifecycle control.targetKind target.id .deleting
    target.lifecycleGeneration).users
  imports : db'.imports = (db.setLifecycle control.targetKind target.id .deleting
    target.lifecycleGeneration).imports
  profiles : db'.profiles = (db.setLifecycle control.targetKind target.id .deleting
    target.lifecycleGeneration).profiles
  intents : db'.intents = db.intents
  controls : db'.controls = db.controls.modify deletionId fun control =>
    { control with phase := .drain, deletionJobId := some jobId, updatedAt := now }
  newJob : db.jobs.get? jobId = none
  jobs : ∃ user importGeneration, db.users.get? target.ownerUserId = some user ∧
    deletionImportGeneration db control.targetKind target = .ok importGeneration ∧
    db'.jobs = db.jobs.set jobId
      (deletionJob keys deletionId control.targetKind target user importGeneration now)
  rest : db' = { db with
    users := db'.users
    imports := db'.imports
    profiles := db'.profiles
    controls := db'.controls
    jobs := db'.jobs
    receipts := db'.receipts
    ledgerReceipts := db'.ledgerReceipts }

theorem startSweep_eq_ok (huser : db.users.get? target.ownerUserId = some user)
    (h : startSweep keys db deletionId control target user jobId now = .ok db') :
    SweepStarted keys db db' deletionId jobId control target now ∧
      db'.ledgerReceipts = db.ledgerReceipts := by
  obtain ⟨importGeneration, hgen, h⟩ := bind_eq_ok.mp h
  obtain ⟨jobs, hjs, h⟩ := bind_eq_ok.mp h
  rw [failIf_bind_eq_ok] at h
  obtain ⟨hnew, rfl⟩ := insertOrRaise_eq_ok.mp hjs
  obtain ⟨receipts, rfl⟩ := setReceiptStatus_eq_ok h.2
  cases hk : control.targetKind <;>
    exact ⟨⟨by rw [hk]; rfl, by rw [hk]; rfl, by rw [hk]; rfl, rfl, rfl, hnew,
      ⟨user, importGeneration, huser, hgen, by rw [hk]; rfl⟩, rfl⟩, rfl⟩

/-- **What the last transaction of a request has found and done**: the sweep had started
already, or it starts now. -/
theorem recordRequested_eq_ok {requested : LedgerEvent} {u : Unit}
    (h : recordRequested keys db deletionId requested jobId receiptId now = .ok (u, db')) :
    ∃ control target, db.controls.get? deletionId = some control ∧
      targetByScope db control.targetKind control.targetScopeId = some target ∧
      atFence control target (db.users.get? target.ownerUserId) = true ∧
      validateControlEvent requested deletionId control .requested = .ok () ∧
      Acknowledges db.ledgerReceipts db'.ledgerReceipts [requested] ∧
      ((∃ ledgerReceipts, target.lifecycleState = .deleting ∧ control.deletionJobId ≠ none ∧
          db' = { db with ledgerReceipts := ledgerReceipts }) ∨
        (target.lifecycleState ≠ .deleting ∧
          SweepStarted keys db db' deletionId jobId control target now)) := by
  unfold recordRequested at h
  split at h
  · cases h
  · rename_i control hctl
    obtain ⟨_, hv, h⟩ := bind_eq_ok.mp h
    split at h
    · cases h
    · rename_i target htgt
      split at h
      · cases h
      · rename_i user huser
        rw [failIf_bind_eq_ok, not_not] at h
        obtain ⟨hf, h⟩ := h
        obtain ⟨stored, hsto, h⟩ := bind_eq_ok.mp h
        obtain ⟨ledgerReceipts, hack, rfl⟩ := storeLedgerReceipt_eq_ok hsto
        refine ⟨control, target, hctl, htgt, by rw [huser]; exact hf, hv, ?_⟩
        split at h
        · rename_i hdel
          rw [failIf_bind_eq_ok] at h
          obtain ⟨hj, hres⟩ := h
          cases hres
          exact ⟨hack, .inl ⟨ledgerReceipts, hdel, hj, rfl⟩⟩
        · rename_i hdel
          obtain ⟨started, hstd, hres⟩ := bind_eq_ok.mp h
          cases hres
          obtain ⟨hsweep, hrcp⟩ := startSweep_eq_ok (by exact huser) hstd
          refine ⟨hrcp ▸ hack, .inr ⟨hdel, ?_⟩⟩
          cases hk : control.targetKind <;>
            exact ⟨by rw [hsweep.users, hk]; rfl, by rw [hsweep.imports, hk]; rfl,
              by rw [hsweep.profiles, hk]; rfl, hsweep.intents, hsweep.controls,
              hsweep.newJob, hsweep.jobs, hsweep.rest⟩

end Inversion

/-! ### Moves -/

section Moves

variable {db : Database} {kind : TargetKind} {targetId ownerUserId : String} {job : JobRecord}
  {now : ℤ}

theorem fencesJob_live (h : fencesJob kind targetId ownerUserId job = true) :
    job.state.terminal = false := by
  simp only [fencesJob, Bool.and_eq_true, Bool.not_eq_true'] at h
  exact h.1.2

/-- A fence settles a queued job and leaves a held one to its worker. -/
theorem JobEffect.fence {attempts : List JobAttemptRecord} {code : String}
    (hlive : job.state.terminal = false) :
    JobEffect ⟨job, attempts⟩ ⟨job.fence code now, attempts⟩ := by
  unfold JobRecord.fence
  split
  · rename_i hq
    exact JobEffect.settle hq rfl ⟨rfl, rfl, rfl⟩
  · rename_i hq
    have hheld : job.state.held = true := by
      cases hst : job.state with
      | queued => exact absurd hst hq
      | leased | running => rfl
      | succeeded | failed | cancelled =>
        rw [hst] at hlive
        cases hlive
    exact JobEffect.keep hheld hheld ⟨rfl, rfl, rfl⟩

theorem fenceDependentWork_moves :
    JobMoves JobEffect db (fenceDependentWork db kind targetId ownerUserId now) := by
  have hjs : (fenceDependentWork db kind targetId ownerUserId now).jobs
      = db.jobs.modifyWhere (fun _ job => fencesJob kind targetId ownerUserId job)
        (·.fence (kind.text ++ "_DELETION") now) := rfl
  refine jobMoves_modifyWhere hjs rfl fun id job _ hfences => ?_
  exact JobEffect.fence (fencesJob_live hfences)

end Moves

end RateReplay
