import RateReplay.Persistence.Deletions

/-!
# Sweeping a deletion

The phases of a requested deletion under the lease of its job (`deletion_sweep.py`): older
writers are drained, the rows of the target are swept and verified to be gone, and the target
itself is removed.  Every definition is one transaction, or a part of one.

The object store is not modelled: which objects are still listed is an argument.  Deleting a
user or an import takes the rows that refer to it with `ON DELETE CASCADE` along.

## Main definitions

* `lockedControl` — the control of a live deletion lease.
* `drainOpen`, `drainUpload`, `drainClose` — `_drain`.
* `sweepRows`, `completeSubsumed` — `_sweep` and `_complete_subsumed_deletions`.
* `verifyRows`, `complete` — `_verify` and `_complete`.
* `resourceGraph`, `deleteResourceRows`, `sweepOwnerRows`, `deleteTarget` — what is removed.

## Main results

* `deleteResourceRows_verified`, `sweepOwnerRows_verified` — **a sweep leaves no row that its
  verification counts.**
-/

namespace RateReplay

def sweepError (code message : String) : TransactionError := .raised .sweep code message

/-- `RECEIPT_LIFETIME`. -/
def receiptLifetime : ℤ := 30 * 24 * 3600 * 1000000

/-! ### The fence of a sweep -/

/-- What every transaction of a sweep works on. -/
structure SweepScope where
  deletionId : String
  control : DeletionControlOperationRecord
  target : DeletionTarget
  user : UserRecord
  deriving DecidableEq

/-- The target is still at the fence of the control, and the job is the owner's. -/
def sweepable (control : DeletionControlOperationRecord) (target : DeletionTarget)
    (user : UserRecord) (job : JobRecord) (phase : ControlPhase) : Bool :=
  control.phase = phase && target.lifecycleState = .deleting
    && target.lifecycleGeneration = control.deletionGeneration
    && job.ownerUserId = some target.ownerUserId
    && parentScopeIsActive control.targetKind (some user)

/-- The control whose job a lease is for. -/
def controlOfJob (db : Database) (jobId : String) :
    Option (String × DeletionControlOperationRecord) :=
  db.controls.first fun _ control => control.deletionJobId = some jobId

/-- `_read_control` and `_locked_control`, which check the same. -/
def lockedControl (db : Database) (lease : JobLease) (phase : ControlPhase) (now : ℤ) :
    Except TransactionError SweepScope :=
  match controlOfJob db lease.jobId with
  | none => .error (sweepError "STALE_DELETION_LEASE" "Deletion control is missing")
  | some (deletionId, control) =>
    match targetByScope db control.targetKind control.targetScopeId,
        currentFencedJob db lease now (· = .running) with
    | some target, some job =>
      match db.users.get? target.ownerUserId with
      | none =>
        .error (sweepError "STALE_DELETION_LEASE"
          "Deletion phase lost its exact control and lifecycle fence")
      | some user => do
        failIf (¬ sweepable control target user job phase)
          (sweepError "STALE_DELETION_LEASE"
            "Deletion phase lost its exact control and lifecycle fence")
        .ok ⟨deletionId, control, target, user⟩
    | _, _ =>
      .error (sweepError "STALE_DELETION_LEASE"
        "Deletion phase lost its exact control and lifecycle fence")

/-- `_requested_event`. -/
def requestedEvent (ledger : List LedgerEvent) (deletionId : String)
    (control : DeletionControlOperationRecord) : Except TransactionError LedgerEvent :=
  match eventOfPhase ledger deletionId .requested with
  | none =>
    .error (sweepError "REQUESTED_LEDGER_MISSING"
      "Deletion cannot sweep without a durable REQUESTED event")
  | some requested => do
    validateControlEvent requested deletionId control .requested
    .ok requested

/-- Move a control to a phase. -/
def advanceControl (db : Database) (deletionId : String) (phase : ControlPhase) (now : ℤ) :
    Database :=
  { db with
    controls := db.controls.modify deletionId ({ · with phase := phase, updatedAt := now }) }

/-- `_receipt`, with the status it is given. -/
def sweepReceipt (db : Database) (deletionId : String) (status : ReceiptStatus) :
    Except TransactionError Database :=
  setReceiptStatus db deletionId status
    (sweepError "DELETION_RECEIPT_MISSING" "Deletion receipt control row is missing")

/-! ### Draining -/

/-- `_dependent_job_criterion`: the jobs that captured the target before its fence. -/
def dependentJob (control : DeletionControlOperationRecord) (target : DeletionTarget)
    (job : JobRecord) : Bool :=
  job.ownerUserId = some target.ownerUserId
    && match control.targetKind with
      | .account => job.capturedAccountGeneration < control.deletionGeneration
      | .importing => job.importId = some target.id
        && job.capturedImportGeneration.any (· < control.deletionGeneration)
      | .profile => job.profileVersionId = some target.id
        && job.capturedProfileGeneration.any (· < control.deletionGeneration)

/-- The dependent jobs other than the sweep's own. -/
def ordinaryJobs (db : Database) (scope : SweepScope) (lease : JobLease) : Dict String JobRecord :=
  db.jobs.filter fun e => e.1 ≠ lease.jobId && dependentJob scope.control scope.target e.2

/-- The attempt or upload a fence row is about. -/
def FencedWriter.same : FencedWriter → FencedWriter → Bool
  | .jobAttempt id _, .jobAttempt id' _ => id = id'
  | .upload id _, .upload id' _ => id = id'
  | _, _ => false

/-- `_fence_target`: the row of a writer, inserted if there is none. -/
def fenceWriter (db : Database) (deletionId : String) (writer : FencedWriter) (generation : ℕ)
    (fenceId : String) (now : ℤ) : Except TransactionError (String × Database) :=
  match db.fenceTargets.first fun _ fence => fence.deletionId = deletionId
      && fence.writer.same writer with
  | some (existingId, existing) => do
    failIf (existing.observedGeneration ≠ generation)
      (sweepError "DELETION_FENCE_MISMATCH" "Deletion writer fence changed generation")
    .ok (existingId, db)
  | none => do
    let fenceTargets ← insertOrRaise db.fenceTargets fenceId {
      deletionId := deletionId
      writer := writer
      observedGeneration := generation
      createdAt := now
      resolvedAt := none }
    .ok (fenceId, { db with fenceTargets := fenceTargets })

/-- A fence row that is not resolved yet is. -/
def resolveFence (db : Database) (fenceId : String) (now : ℤ) : Database :=
  { db with
    fenceTargets := db.fenceTargets.modify fenceId fun fence =>
      { fence with resolvedAt := fence.resolvedAt.or (some now) } }

/-- The attempt still holds its job. -/
def holdsJob (job : JobRecord) (generation : ℕ) (now : ℤ) : Bool :=
  job.state.held && leaseLive job now && generation = job.fencingGeneration

/-- The turn of `_drain` for one attempt: a live one is waited for. -/
def drainAttempt (scope : SweepScope) (jobs : Dict String JobRecord) (fenceId : String → String)
    (now : ℤ) (acc : Bool × Database) (attemptId : String) (attempt : JobAttemptRecord) :
    Except TransactionError (Bool × Database) := do
  let (fence, fenced) ← fenceWriter acc.2 scope.deletionId (.jobAttempt attemptId attempt.state)
    attempt.fencingGeneration (fenceId attemptId) now
  if (jobs.get? attempt.jobId).any fun job => holdsJob job attempt.fencingGeneration now
  then .ok (true, fenced)
  else .ok (acc.1, resolveFence fenced fence now)

/-- The turn of `_drain` for one upload: a registered upload of a live attempt is waited for,
and one that is not accepted is on its way out. -/
def drainUploadTurn (scope : SweepScope) (jobs : Dict String JobRecord)
    (fenceId : String → String) (now : ℤ) (acc : (Bool × List String) × Database)
    (uploadId : String) (upload : ObjectUploadRegistrationRecord) :
    Except TransactionError ((Bool × List String) × Database) := do
  let (fence, fenced) ← fenceWriter acc.2 scope.deletionId (.upload uploadId upload.state)
    upload.fencingGeneration (fenceId uploadId) now
  let live := (jobs.get? upload.jobId).any fun job => holdsJob job upload.fencingGeneration now
  if upload.state = .registered ∧ live then .ok ((true, acc.1.2), fenced)
  else if upload.state = .registered ∨ upload.state = .staged ∨ upload.state = .deletePending then
    .ok ((acc.1.1, acc.1.2 ++ [uploadId]), { fenced with
      uploads := fenced.uploads.modify uploadId
        ({ · with state := .deletePending, updatedAt := now }) })
  else if upload.state = .deleted then .ok (acc.1, resolveFence fenced fence now)
  else .ok (acc.1, fenced)

/-- The first transaction of `_drain`: whether a writer is still live, and the uploads to be
removed from the object store. -/
def drainOpen (db : Database) (lease : JobLease) (fenceId : String → String) (now : ℤ) :
    Except TransactionError ((Bool × List String) × Database) := do
  let scope ← lockedControl db lease .drain now
  let jobs := ordinaryJobs db scope lease
  let (pending, attempted) ← (db.attempts.entries.filter fun e => e.2.jobId ∈ jobs.keys).foldlM
    (fun acc e => drainAttempt scope jobs fenceId now acc e.1 e.2) (false, db)
  (db.uploads.entries.filter fun e => e.2.jobId ∈ jobs.keys).foldlM
    (fun acc e => drainUploadTurn scope jobs fenceId now acc e.1 e.2) ((pending, []), attempted)

/-- The transaction of `_drain` after one object is gone. -/
def drainUpload (db : Database) (deletionId uploadId : String) (now : ℤ) : Database :=
  { db with
    uploads := db.uploads.modify uploadId fun upload =>
      if upload.state = .deletePending then
        { upload with state := .deleted, updatedAt := now, deletedAt := some now }
      else upload
    fenceTargets := db.fenceTargets.modifyWhere
      (fun _ fence => fence.deletionId = deletionId
        && fence.writer.same (.upload uploadId .deleted))
      ({ · with resolvedAt := some now }) }

/-- The last transaction of `_drain`: whether the sweep may begin. -/
def drainClose (db : Database) (lease : JobLease) (pending : Bool) (now : ℤ) :
    Except TransactionError (Bool × Database) := do
  let scope ← lockedControl db lease .drain now
  let jobs := ordinaryJobs db scope lease
  if pending || (jobs.has fun _ job => job.state.held && leaseLive job now)
      || (db.uploads.has fun _ upload => upload.jobId ∈ jobs.keys && upload.state = .registered)
  then .ok (false, db)
  else do
    let advanced ← sweepReceipt (advanceControl db scope.deletionId .sweep now) scope.deletionId
      .sweep
    .ok (true, advanced)

/-! ### The rows of an import or a profile -/

/-- `ResourceGraph`, without its object keys. -/
structure ResourceGraph where
  importIds : List String
  profileIds : List String
  jobIds : List String
  replayIds : List String
  comparisonIds : List String
  scenarioIds : List String
  scenarioResultIds : List String
  scenarioLoadIds : List String
  reportExportIds : List String
  uploadIds : List String
  operationIds : List String

/-- The jobs of an import or a profile, other than the sweep's own. -/
def resourceJob (kind : TargetKind) (target : DeletionTarget) (job : JobRecord) : Bool :=
  job.ownerUserId = some target.ownerUserId
    && if kind = .importing then job.importId = some target.id
      else job.profileVersionId = some target.id

/-- `_resource_graph`. -/
def resourceGraph (db : Database) (kind : TargetKind) (target : DeletionTarget)
    (deletionJobId : String) : ResourceGraph :=
  let importIds := if kind = .importing then [target.id] else []
  let profileIds := if kind = .importing
    then db.profiles.keysWhere fun profile => profile.importId = target.id
      && profile.ownerUserId = target.ownerUserId
    else [target.id]
  let replayIds := db.replays.keysWhere (·.profileVersionId ∈ profileIds)
  let comparisonIds := db.comparisons.keysWhere fun comparison =>
    comparison.profileVersionId ∈ profileIds || comparison.currentReplayId ∈ replayIds
  let scenarioIds := db.scenarios.keysWhere (·.profileVersionId ∈ profileIds)
  let scenarioResultIds := db.scenarioResults.keysWhere fun result =>
    result.profileVersionId ∈ profileIds || result.scenarioId ∈ scenarioIds
  let scenarioLoadIds := db.scenarioLoads.keysWhere (·.scenarioId ∈ scenarioIds)
  let reportExportIds := db.reports.keysWhere fun report =>
    report.profileVersionId ∈ profileIds || report.scenarioId ∈ scenarioIds
      || report.scenarioResultId ∈ scenarioResultIds
  let jobIds := (db.jobs.keysWhere fun job => resourceJob kind target job).filter
    (· ≠ deletionJobId)
  let uploadIds := db.uploads.keysWhere (·.jobId ∈ jobIds)
  let resourceIds := importIds ++ profileIds ++ jobIds ++ replayIds ++ comparisonIds
    ++ scenarioIds ++ scenarioResultIds ++ reportExportIds
  { importIds := importIds
    profileIds := profileIds
    jobIds := jobIds
    replayIds := replayIds
    comparisonIds := comparisonIds
    scenarioIds := scenarioIds
    scenarioResultIds := scenarioResultIds
    scenarioLoadIds := scenarioLoadIds
    reportExportIds := reportExportIds
    uploadIds := uploadIds
    operationIds := db.operationRequests.keysWhere (·.operationId ∈ resourceIds) }

/-- `subject_ids`: what the audit events of a resource are about. -/
def ResourceGraph.subjectIds (graph : ResourceGraph) : List String :=
  graph.importIds ++ graph.profileIds ++ graph.jobIds ++ graph.replayIds ++ graph.comparisonIds
    ++ graph.scenarioIds ++ graph.scenarioResultIds ++ graph.reportExportIds

/-- The rows of a graph are deleted; of the profiles, those `profileIds` names. -/
def deleteGraph (db : Database) (graph : ResourceGraph) (ownerUserId : String)
    (profileIds : List String) : Database :=
  { db with
    manifests := db.manifests.deleteWhere fun _ manifest =>
      manifest.replayId.any (· ∈ graph.replayIds)
        || manifest.scenarioResultId.any (· ∈ graph.scenarioResultIds)
    reports := db.reports.deleteWhere fun id _ => id ∈ graph.reportExportIds
    scenarioReferences := db.scenarioReferences.deleteWhere fun _ reference =>
      reference.scenarioLoadId ∈ graph.scenarioLoadIds
    scenarioLoads := db.scenarioLoads.deleteWhere fun id _ => id ∈ graph.scenarioLoadIds
    scenarioResults := db.scenarioResults.deleteWhere fun id _ => id ∈ graph.scenarioResultIds
    scenarios := db.scenarios.deleteWhere fun id _ => id ∈ graph.scenarioIds
    comparisons := db.comparisons.deleteWhere fun id _ => id ∈ graph.comparisonIds
    replays := db.replays.deleteWhere fun id _ => id ∈ graph.replayIds
    claims := db.claims.deleteWhere fun _ claim => claim.acceptedJobId ∈ graph.jobIds
    uploads := db.uploads.deleteWhere fun id _ => id ∈ graph.uploadIds
    attempts := db.attempts.deleteWhere fun _ attempt => attempt.jobId ∈ graph.jobIds
    jobs := db.jobs.deleteWhere fun id _ => id ∈ graph.jobIds
    operationRequests := db.operationRequests.deleteWhere fun id _ => id ∈ graph.operationIds
    auditEvents := db.auditEvents.deleteWhere fun transition _ =>
      transition.ownerUserId = some ownerUserId && transition.subjectId ∈ graph.subjectIds
    findings := db.findings.deleteWhere fun _ finding => finding.importId ∈ graph.importIds
    readings := db.readings.deleteWhere fun _ reading => reading.importId ∈ graph.importIds
    rawObjects := db.rawObjects.deleteWhere fun _ raw => raw.importId ∈ graph.importIds
    profiles := db.profiles.deleteWhere fun id _ => id ∈ profileIds }

/-- `_delete_resource_rows`: a profile that is itself the target stays for the last
transaction. -/
def deleteResourceRows (db : Database) (kind : TargetKind) (target : DeletionTarget)
    (deletionJobId : String) : Database :=
  let graph := resourceGraph db kind target deletionJobId
  deleteGraph db graph target.ownerUserId
    (if kind = .profile then graph.profileIds.filter (· ≠ target.id) else graph.profileIds)

/-- `_prohibited_resource_row_count`. -/
def prohibitedResourceRowCount (db : Database) (kind : TargetKind) (target : DeletionTarget)
    (deletionJobId : String) : ℕ :=
  let graph := resourceGraph db kind target deletionJobId
  (if kind = .importing then graph.importIds.length - 1 else graph.importIds.length)
    + (if kind = .importing then graph.profileIds.length else graph.profileIds.length - 1)
    + graph.jobIds.length + graph.replayIds.length + graph.comparisonIds.length
    + graph.scenarioIds.length + graph.scenarioResultIds.length + graph.scenarioLoadIds.length
    + graph.reportExportIds.length + graph.uploadIds.length + graph.operationIds.length

/-- **A swept import or profile passes its verification**: what is selected in the swept tables
was selected before the sweep. -/
theorem deleteResourceRows_verified (db : Database) (kind : TargetKind) (target : DeletionTarget)
    (jobId : String) :
    prohibitedResourceRowCount (deleteResourceRows db kind target jobId) kind target jobId = 0 := by
  have hjobs : (resourceGraph (deleteResourceRows db kind target jobId) kind target jobId).jobIds
      = [] := Dict.filter_keysWhere_deleteWhere (resourceJob kind target) _
  simp only [prohibitedResourceRowCount, deleteResourceRows, deleteGraph, resourceGraph] at hjobs ⊢
  simp only [hjobs]
  -- the profiles of an import go with it; a profile that is the target stays
  by_cases hk : kind = .importing <;> simp +contextual [hk, Dict.keysWhere_deleteWhere]

/-! ### The rows of an account -/

/-- `_sweep_owner_rows`. -/
def sweepOwnerRows (db : Database) (ownerUserId deletionJobId : String) : Database :=
  let importIds := db.imports.keysWhere (·.ownerUserId = ownerUserId)
  let jobIds := (db.jobs.keysWhere (·.ownerUserId = some ownerUserId)).filter (· ≠ deletionJobId)
  let replayIds := db.replays.keysWhere (·.ownerUserId = ownerUserId)
  let scenarioIds := db.scenarios.keysWhere (·.ownerUserId = ownerUserId)
  let scenarioResultIds := db.scenarioResults.keysWhere (·.ownerUserId = ownerUserId)
  let scenarioLoadIds := db.scenarioLoads.keysWhere (·.scenarioId ∈ scenarioIds)
  { db with
    manifests := db.manifests.deleteWhere fun _ manifest =>
      manifest.replayId.any (· ∈ replayIds)
        || manifest.scenarioResultId.any (· ∈ scenarioResultIds)
    scenarioReferences := db.scenarioReferences.deleteWhere fun _ reference =>
      reference.scenarioLoadId ∈ scenarioLoadIds
    comparisons := db.comparisons.deleteWhere fun _ row => row.ownerUserId = ownerUserId
    reports := db.reports.deleteWhere fun _ row => row.ownerUserId = ownerUserId
    scenarioResults := db.scenarioResults.deleteWhere fun _ row => row.ownerUserId = ownerUserId
    scenarioLoads := db.scenarioLoads.deleteWhere fun _ row => row.scenarioId ∈ scenarioIds
    scenarios := db.scenarios.deleteWhere fun _ row => row.ownerUserId = ownerUserId
    replays := db.replays.deleteWhere fun _ row => row.ownerUserId = ownerUserId
    claims := db.claims.deleteWhere fun _ row => row.ownerUserId = ownerUserId
    uploads := db.uploads.deleteWhere fun _ row => row.ownerUserId = ownerUserId
    attempts := db.attempts.deleteWhere fun _ attempt => attempt.jobId ∈ jobIds
    jobs := db.jobs.deleteWhere fun id _ => id ∈ jobIds
    operationRequests := db.operationRequests.deleteWhere fun _ row =>
      row.ownerUserId = ownerUserId
    auditEvents := db.auditEvents.deleteWhere fun transition _ =>
      transition.ownerUserId = some ownerUserId
    findings := db.findings.deleteWhere fun _ finding => finding.importId ∈ importIds
    readings := db.readings.deleteWhere fun _ reading => reading.importId ∈ importIds
    rawObjects := db.rawObjects.deleteWhere fun _ row => row.ownerUserId = ownerUserId
    profiles := db.profiles.deleteWhere fun _ row => row.ownerUserId = ownerUserId
    imports := db.imports.deleteWhere fun _ row => row.ownerUserId = ownerUserId
    sessions := db.sessions.deleteWhere fun _ row => row.userId = ownerUserId
    intents := db.intents.deleteWhere fun _ row => row.ownerUserId = ownerUserId }

/-- `_prohibited_row_count`, as whether there is any such row. -/
def hasProhibitedRow (db : Database) (ownerUserId deletionJobId : String) : Bool :=
  (db.auditEvents.has fun transition _ => transition.ownerUserId = some ownerUserId)
    || (db.sessions.has fun _ row => row.userId = ownerUserId)
    || (db.operationRequests.has fun _ row => row.ownerUserId = ownerUserId)
    || (db.imports.has fun _ row => row.ownerUserId = ownerUserId)
    || (db.rawObjects.has fun _ row => row.ownerUserId = ownerUserId)
    || (db.profiles.has fun _ row => row.ownerUserId = ownerUserId)
    || (db.claims.has fun _ row => row.ownerUserId = ownerUserId)
    || (db.uploads.has fun _ row => row.ownerUserId = ownerUserId)
    || (db.replays.has fun _ row => row.ownerUserId = ownerUserId)
    || (db.reports.has fun _ row => row.ownerUserId = ownerUserId)
    || (db.comparisons.has fun _ row => row.ownerUserId = ownerUserId)
    || (db.scenarios.has fun _ row => row.ownerUserId = ownerUserId)
    || (db.scenarioResults.has fun _ row => row.ownerUserId = ownerUserId)
    || (db.intents.has fun _ row => row.ownerUserId = ownerUserId)
    || (db.jobs.has fun id row => row.ownerUserId = some ownerUserId && id ≠ deletionJobId)

/-- **A swept account passes its verification.** -/
theorem sweepOwnerRows_verified (db : Database) (ownerUserId deletionJobId : String) :
    hasProhibitedRow (sweepOwnerRows db ownerUserId deletionJobId) ownerUserId deletionJobId
      = false := by
  have hjobs : ((sweepOwnerRows db ownerUserId deletionJobId).jobs.has fun id row =>
      row.ownerUserId = some ownerUserId && id ≠ deletionJobId) = false := by
    refine Dict.has_eq_false.mpr fun id row hmem => Bool.and_eq_false_imp.mpr fun howner => ?_
    have hnone := Dict.filter_keysWhere_deleteWhere (d := db.jobs)
      (fun row => row.ownerUserId = some ownerUserId) (· ≠ deletionJobId)
    exact Bool.eq_false_iff.mpr
      (List.filter_eq_nil_iff.mp hnone id (Dict.mem_keysWhere.mpr ⟨row, hmem, howner⟩))
  rw [hasProhibitedRow, hjobs]
  simp only [sweepOwnerRows, Dict.has_deleteWhere, Bool.or_false]

/-! ### Sweeping -/

/-- The last transaction of `_sweep`; the rows of an import or a profile are only counted
here. -/
def sweepRows (db : Database) (lease : JobLease) (now : ℤ) :
    Except TransactionError (Unit × Database) := do
  let scope ← lockedControl db lease .sweep now
  let swept := if scope.control.targetKind = .account
    then sweepOwnerRows db scope.target.ownerUserId lease.jobId else db
  let advanced ← sweepReceipt (advanceControl swept scope.deletionId .verify now) scope.deletionId
    .verify
  .ok ((), advanced)

/-- `_control_is_subordinate`. -/
def controlIsSubordinate (db : Database) (parent candidate : DeletionControlOperationRecord) :
    Bool :=
  match parent.targetKind, candidate.targetKind with
  | .account, .importing | .account, .profile => true
  | .importing, .profile =>
    match targetByScope db parent.targetKind parent.targetScopeId,
        targetByScope db candidate.targetKind candidate.targetScopeId with
    | some imported, some profile =>
      profile.importId = some imported.id && profile.ownerUserId = imported.ownerUserId
    | _, _ => false
  | _, _ => false

/-- The controls `_complete_subsumed_deletions` selects. -/
def subordinateControls (db : Database) (parentId : String)
    (parent : DeletionControlOperationRecord) (ownerUserId : String) : List String :=
  (db.controls.entries.filter fun e => e.1 ≠ parentId
    && (db.intents.get? e.1).any (·.ownerUserId = ownerUserId)
    && controlIsSubordinate db parent e.2).map Prod.fst

/-- The tombstone of a completed deletion. -/
def newTombstone (control : DeletionControlOperationRecord) (receiptVerifier statusCode : String)
    (now : ℤ) : DeletionAuditRecord where
  targetKind := control.targetKind
  receiptVerifier := some receiptVerifier
  verifierExpiresAt := now + receiptLifetime
  scopeToken := control.scopeToken
  restoreKeyVersion := control.restoreKeyVersion
  deletionGeneration := control.deletionGeneration
  completedAt := now
  statusCode := statusCode

/-- Insert a tombstone under its unique constraint. -/
def insertTombstone (db : Database) (deletionId : String) (tombstone : DeletionAuditRecord) :
    Except TransactionError Database := do
  let tombstones ← insertUnique db.tombstones (·.scopeToken = tombstone.scopeToken) deletionId
    tombstone
  .ok { db with tombstones := tombstones }

/-- A tombstone that is there already stays. -/
def ensureTombstone (db : Database) (deletionId : String) (tombstone : DeletionAuditRecord) :
    Except TransactionError Database :=
  match db.tombstones.get? deletionId with
  | some _ => .ok db
  | none => insertTombstone db deletionId tombstone

/-- The receipt of a completed deletion. -/
def completeReceipt (db : Database) (deletionId : String) (now : ℤ) : Database :=
  { db with
    receipts := db.receipts.modify deletionId fun receipt =>
      { receipt with
        status := .deleted
        completedAt := some now
        verifierExpiresAt := some (now + receiptLifetime) } }

/-- The rows of the control plane that a completed deletion leaves behind no more: its fences,
acknowledgments, intent and control, and the job that swept it. -/
def removeControl (db : Database) (deletionId : String) (jobId : Option String) : Database :=
  { db with
    fenceTargets := db.fenceTargets.deleteWhere fun _ fence => fence.deletionId = deletionId
    ledgerReceipts := db.ledgerReceipts.deleteWhere fun _ receipt =>
      receipt.deletionId = deletionId
    intents := db.intents.deleteWhere fun id _ => id = deletionId
    controls := db.controls.deleteWhere fun id _ => id = deletionId
    attempts := db.attempts.deleteWhere fun _ attempt => some attempt.jobId = jobId
    jobs := db.jobs.deleteWhere fun id _ => some id = jobId }

/-- The transaction of `_complete_subsumed_deletions` for one control. -/
def completeSubsumed (keys : DeletionKeys) (db : Database) (deletionId : String)
    (requested completed : LedgerEvent) (requestedId completedId : String) (now : ℤ) :
    Except TransactionError (Unit × Database) :=
  match db.controls.get? deletionId with
  | none => .ok ((), db)
  | some control => do
    validateControlEvent requested deletionId control .requested
    validateControlEvent completed deletionId control .completed
    let acknowledged ← storeLedgerReceipt keys db requested requestedId
    let stored ← storeLedgerReceipt keys acknowledged completed completedId
    match stored.receipts.get? deletionId with
    | none =>
      .error (sweepError "DELETION_RECEIPT_MISSING" "Deletion receipt control row is missing")
    | some receipt => do
      let buried ← ensureTombstone stored deletionId
        (newTombstone control receipt.receiptVerifier "SUBSUMED_BY_PARENT_DELETION" now)
      .ok ((), removeControl (completeReceipt buried deletionId now) deletionId
        control.deletionJobId)

/-! ### Verification -/

/-- The transaction of `_verify`: back to the sweep while anything is left; otherwise the rows
of an import or a profile are deleted. -/
def verifyRows (db : Database) (lease : JobLease) (objectsOrRowsLeft : Bool) (now : ℤ) :
    Except TransactionError (Bool × Database) := do
  let scope ← lockedControl db lease .verify now
  if objectsOrRowsLeft then do
    let back ← sweepReceipt (advanceControl db scope.deletionId .sweep now) scope.deletionId .sweep
    .ok (false, back)
  else do
    let kind := scope.control.targetKind
    let deleted := if kind = .account then db
      else deleteResourceRows db kind scope.target lease.jobId
    failIf (kind ≠ .account
        ∧ prohibitedResourceRowCount deleted kind scope.target lease.jobId ≠ 0)
      (sweepError "DELETION_VERIFY_FAILED" "Resource deletion left prohibited dependent rows")
    let advanced ← sweepReceipt (advanceControl deleted scope.deletionId .complete now)
      scope.deletionId .complete
    .ok (true, advanced)

/-! ### Completion -/

/-- An import whose profile is deleted is ready again. -/
def ImportRecord.unconfirmed (imported : ImportRecord) : ImportRecord :=
  { imported with profileVersionId := none, state := .ready, confirmedAt := none }

/-- The target itself is removed; the import that made a deleted profile, if it still names it,
is ready again. -/
def deleteTarget (db : Database) (kind : TargetKind) (target : DeletionTarget) : Database :=
  match kind with
  | .account =>
    { db with
      users := db.users.deleteWhere fun id _ => id = target.id
      sessions := db.sessions.deleteWhere fun _ session => session.userId = target.id
      auditEvents := db.auditEvents.deleteWhere fun transition _ =>
        transition.ownerUserId = some target.id }
  | .importing =>
    { db with
      imports := db.imports.deleteWhere fun id _ => id = target.id
      rawObjects := db.rawObjects.deleteWhere fun _ raw => raw.importId = target.id
      readings := db.readings.deleteWhere fun _ reading => reading.importId = target.id
      findings := db.findings.deleteWhere fun _ finding => finding.importId = target.id }
  | .profile =>
    { db with
      imports := db.imports.modifyWhere
        (fun id imported => some id = target.importId
          && imported.profileVersionId = some target.id)
        (·.unconfirmed)
      profiles := db.profiles.deleteWhere fun id _ => id = target.id }

/-- The transaction of `_complete`. -/
def complete (keys : DeletionKeys) (db : Database) (lease : JobLease) (completed : LedgerEvent)
    (receiptId : String) (now : ℤ) : Except TransactionError (Unit × Database) := do
  let scope ← lockedControl db lease .complete now
  validateControlEvent completed scope.deletionId scope.control .completed
  let stored ← storeLedgerReceipt keys db completed receiptId
  match stored.receipts.get? scope.deletionId with
  | none =>
    .error (sweepError "DELETION_RECEIPT_MISSING" "Deletion receipt control row is missing")
  | some receipt => do
    let buried ← insertTombstone stored scope.deletionId
      (newTombstone scope.control receipt.receiptVerifier "VERIFIED_COMPLETE" now)
    failIf (¬ buried.attempts.has (isAttempt lease.jobId lease.fencingGeneration))
      (sweepError "DELETION_JOB_MISSING"
        "Deletion terminal transaction lost its fenced job attempt")
    .ok ((), deleteTarget
      (removeControl (completeReceipt buried scope.deletionId now) scope.deletionId
        (some lease.jobId))
      scope.control.targetKind scope.target)

/-! ### What the transactions have done -/

section Inversion

variable {keys : DeletionKeys} {db db' : Database} {lease : JobLease} {now : ℤ} {scope : SweepScope}
  {deletionId : String} {jobs : Dict String JobRecord} {tombstone : DeletionAuditRecord}
  {completed : LedgerEvent}

/-- What the fence of a sweep guarantees. -/
theorem lockedControl_eq_ok {phase : ControlPhase}
    (h : lockedControl db lease phase now = .ok scope) :
    controlOfJob db lease.jobId = some (scope.deletionId, scope.control) ∧
      targetByScope db scope.control.targetKind scope.control.targetScopeId = some scope.target ∧
      db.users.get? scope.target.ownerUserId = some scope.user ∧
      ∃ job, currentFencedJob db lease now (· = .running) = some job ∧
        sweepable scope.control scope.target scope.user job phase = true := by
  unfold lockedControl at h
  split at h
  · cases h
  · rename_i deletionId control hctl
    split at h
    · rename_i target job htgt hj
      split at h
      · cases h
      · rename_i user huser
        rw [failIf_bind_eq_ok, not_not] at h
        obtain ⟨hswb, hsc⟩ := h
        cases hsc
        exact ⟨hctl, htgt, huser, job, hj, hswb⟩
    · cases h

@[simp] theorem deleteTarget_jobs (kind : TargetKind) (target : DeletionTarget) :
    (deleteTarget db kind target).jobs = db.jobs := by
  cases kind <;> rfl

@[simp] theorem deleteTarget_attempts (kind : TargetKind) (target : DeletionTarget) :
    (deleteTarget db kind target).attempts = db.attempts := by
  cases kind <;> rfl

theorem sweepReceipt_eq_ok {status : ReceiptStatus}
    (h : sweepReceipt db deletionId status = .ok db') :
    ∃ receipts, db' = { db with receipts := receipts } :=
  setReceiptStatus_eq_ok h

theorem fenceWriter_eq_ok {fenceId fence : String} {writer : FencedWriter} {generation : ℕ}
    (h : fenceWriter db deletionId writer generation fenceId now = .ok (fence, db')) :
    ∃ fenceTargets, db' = { db with fenceTargets := fenceTargets } := by
  unfold fenceWriter at h
  split at h
  · rw [failIf_bind_eq_ok] at h
    cases h.2
    exact ⟨db.fenceTargets, rfl⟩
  · obtain ⟨fenceTargets, -, hres⟩ := bind_eq_ok.mp h
    cases hres
    exact ⟨fenceTargets, rfl⟩

theorem drainAttempt_eq_ok {fenceId : String → String} {acc acc' : Bool × Database}
    {attemptId : String} {attempt : JobAttemptRecord}
    (h : drainAttempt scope jobs fenceId now acc attemptId attempt = .ok acc') :
    ∃ fenceTargets, acc'.2 = { acc.2 with fenceTargets := fenceTargets } := by
  obtain ⟨⟨fence, fenced⟩, hfcd, h⟩ := bind_eq_ok.mp h
  obtain ⟨fenceTargets, rfl⟩ := fenceWriter_eq_ok hfcd
  dsimp only at h
  split at h
  · cases h
    exact ⟨fenceTargets, rfl⟩
  · cases h
    exact ⟨_, rfl⟩

/-- The uploads after a turn: one that is about to go is marked. -/
theorem drainUploadTurn_eq_ok {fenceId : String → String}
    {acc acc' : (Bool × List String) × Database} {uploadId : String}
    {upload : ObjectUploadRegistrationRecord}
    (h : drainUploadTurn scope jobs fenceId now acc uploadId upload = .ok acc') :
    ∃ fenceTargets, acc'.2 = { acc.2 with fenceTargets := fenceTargets } ∨
      acc'.2 = { acc.2 with
        fenceTargets := fenceTargets
        uploads := acc.2.uploads.modify uploadId
          ({ · with state := .deletePending, updatedAt := now }) } := by
  obtain ⟨⟨fence, fenced⟩, hfcd, h⟩ := bind_eq_ok.mp h
  obtain ⟨fenceTargets, rfl⟩ := fenceWriter_eq_ok hfcd
  dsimp only at h
  split at h
  · cases h
    exact ⟨fenceTargets, .inl rfl⟩
  · split at h
    · cases h
      exact ⟨fenceTargets, .inr rfl⟩
    · split at h
      · cases h
        exact ⟨_, .inl rfl⟩
      · cases h
        exact ⟨fenceTargets, .inl rfl⟩

/-- The opening of a drain touches fences and uploads only. -/
theorem drainOpen_eq_ok {fenceId : String → String} {result : Bool × List String}
    (h : drainOpen db lease fenceId now = .ok (result, db')) :
    ∃ fenceTargets uploads, db' = { db with fenceTargets := fenceTargets, uploads := uploads } := by
  obtain ⟨scope, -, h⟩ := bind_eq_ok.mp h
  obtain ⟨⟨pending, attempted⟩, hatt, hups⟩ := bind_eq_ok.mp h
  have hattempted : ∃ fenceTargets, attempted = { db with fenceTargets := fenceTargets } := by
    refine foldlM_invariant
      (I := fun acc : Bool × Database =>
        ∃ fenceTargets, acc.2 = { db with fenceTargets := fenceTargets })
      ?_ ⟨db.fenceTargets, rfl⟩ hatt
    rintro acc e _ acc' ⟨fenceTargets, hacc⟩ hturn
    obtain ⟨fenceTargets', hacc'⟩ := drainAttempt_eq_ok hturn
    exact ⟨fenceTargets', by rw [hacc', hacc]⟩
  obtain ⟨fenceTargets, rfl⟩ := hattempted
  refine foldlM_invariant (I := fun acc : (Bool × List String) × Database =>
    ∃ fenceTargets uploads, acc.2 = { db with fenceTargets := fenceTargets, uploads := uploads })
    ?_ ⟨fenceTargets, db.uploads, rfl⟩ hups
  rintro acc e _ acc' ⟨fenceTargets, uploads, hacc⟩ hturn
  obtain ⟨fenceTargets', hacc' | hacc'⟩ := drainUploadTurn_eq_ok hturn
  · exact ⟨fenceTargets', uploads, by rw [hacc', hacc]⟩
  · exact ⟨fenceTargets', _, by rw [hacc', hacc]⟩

theorem drainClose_eq_ok {pending advanced : Bool}
    (h : drainClose db lease pending now = .ok (advanced, db')) :
    (advanced = false ∧ db' = db) ∨ (advanced = true ∧ ∃ scope receipts,
      lockedControl db lease .drain now = .ok scope ∧
      db' = { advanceControl db scope.deletionId .sweep now with receipts := receipts }) := by
  obtain ⟨scope, hsc, h⟩ := bind_eq_ok.mp h
  dsimp only at h
  split at h
  · cases h
    exact .inl ⟨rfl, rfl⟩
  · obtain ⟨marked, hmarked, hres⟩ := bind_eq_ok.mp h
    obtain ⟨receipts, rfl⟩ := sweepReceipt_eq_ok hmarked
    cases hres
    exact .inr ⟨rfl, scope, receipts, hsc, rfl⟩

theorem sweepRows_eq_ok {u : Unit} (h : sweepRows db lease now = .ok (u, db')) :
    ∃ scope receipts, lockedControl db lease .sweep now = .ok scope ∧
      db' = { advanceControl (if scope.control.targetKind = .account
          then sweepOwnerRows db scope.target.ownerUserId lease.jobId else db)
        scope.deletionId .verify now with receipts := receipts } := by
  obtain ⟨scope, hsc, h⟩ := bind_eq_ok.mp h
  obtain ⟨marked, hmarked, hres⟩ := bind_eq_ok.mp h
  obtain ⟨receipts, rfl⟩ := sweepReceipt_eq_ok hmarked
  cases hres
  exact ⟨scope, receipts, hsc, rfl⟩

theorem verifyRows_eq_ok {objectsOrRowsLeft verified : Bool}
    (h : verifyRows db lease objectsOrRowsLeft now = .ok (verified, db')) :
    ∃ scope receipts, lockedControl db lease .verify now = .ok scope ∧
      ((verified = false ∧
          db' = { advanceControl db scope.deletionId .sweep now with receipts := receipts }) ∨
        (verified = true ∧
          db' = { advanceControl (if scope.control.targetKind = .account then db
              else deleteResourceRows db scope.control.targetKind scope.target lease.jobId)
            scope.deletionId .complete now with receipts := receipts })) := by
  obtain ⟨scope, hsc, h⟩ := bind_eq_ok.mp h
  dsimp only at h
  split at h
  · obtain ⟨back, hback, hres⟩ := bind_eq_ok.mp h
    obtain ⟨receipts, rfl⟩ := sweepReceipt_eq_ok hback
    cases hres
    exact ⟨scope, receipts, hsc, .inl ⟨rfl, rfl⟩⟩
  · rw [failIf_bind_eq_ok] at h
    obtain ⟨marked, hmarked, hres⟩ := bind_eq_ok.mp h.2
    obtain ⟨receipts, rfl⟩ := sweepReceipt_eq_ok hmarked
    cases hres
    exact ⟨scope, receipts, hsc, .inr ⟨rfl, rfl⟩⟩

theorem insertTombstone_eq_ok (h : insertTombstone db deletionId tombstone = .ok db') :
    ∃ tombstones, db' = { db with tombstones := tombstones } := by
  obtain ⟨tombstones, -, hdb⟩ := bind_eq_ok.mp h
  exact ⟨tombstones, (Except.ok.inj hdb).symm⟩

theorem ensureTombstone_eq_ok (h : ensureTombstone db deletionId tombstone = .ok db') :
    ∃ tombstones, db' = { db with tombstones := tombstones } := by
  unfold ensureTombstone at h
  split at h
  · cases h
    exact ⟨db.tombstones, rfl⟩
  · exact insertTombstone_eq_ok h

theorem completeSubsumed_eq_ok {requested : LedgerEvent} {requestedId completedId : String}
    {u : Unit}
    (h : completeSubsumed keys db deletionId requested completed requestedId completedId now
      = .ok (u, db')) :
    db' = db ∨ ∃ control ledgerReceipts tombstones, db.controls.get? deletionId = some control ∧
      validateControlEvent requested deletionId control .requested = .ok () ∧
      validateControlEvent completed deletionId control .completed = .ok () ∧
      Acknowledges db.ledgerReceipts ledgerReceipts [requested, completed] ∧
      db' = removeControl (completeReceipt { db with
        ledgerReceipts := ledgerReceipts
        tombstones := tombstones } deletionId now) deletionId control.deletionJobId := by
  unfold completeSubsumed at h
  split at h
  · cases h
    exact .inl rfl
  · rename_i control hctl
    obtain ⟨_, hreqd, h⟩ := bind_eq_ok.mp h
    obtain ⟨_, hcomp, h⟩ := bind_eq_ok.mp h
    obtain ⟨acknowledged, hackd, h⟩ := bind_eq_ok.mp h
    obtain ⟨stored, hsto, h⟩ := bind_eq_ok.mp h
    obtain ⟨_, hfst, rfl⟩ := storeLedgerReceipt_eq_ok hackd
    obtain ⟨ledgerReceipts, hsnd, rfl⟩ := storeLedgerReceipt_eq_ok hsto
    split at h
    · cases h
    · obtain ⟨buried, hburied, hres⟩ := bind_eq_ok.mp h
      obtain ⟨tombstones, rfl⟩ := ensureTombstone_eq_ok hburied
      cases hres
      exact .inr ⟨control, ledgerReceipts, tombstones, hctl, hreqd, hcomp,
        hfst.trans hsnd, rfl⟩

/-- **What a completed deletion has found and done.** -/
theorem complete_eq_ok {receiptId : String} {u : Unit}
    (h : complete keys db lease completed receiptId now = .ok (u, db')) :
    ∃ scope ledgerReceipts tombstones, lockedControl db lease .complete now = .ok scope ∧
      validateControlEvent completed scope.deletionId scope.control .completed = .ok () ∧
      Acknowledges db.ledgerReceipts ledgerReceipts [completed] ∧
      db' = deleteTarget (removeControl (completeReceipt { db with
        ledgerReceipts := ledgerReceipts
        tombstones := tombstones } scope.deletionId now) scope.deletionId (some lease.jobId))
        scope.control.targetKind scope.target := by
  obtain ⟨scope, hsc, h⟩ := bind_eq_ok.mp h
  obtain ⟨_, hcomp, h⟩ := bind_eq_ok.mp h
  obtain ⟨stored, hsto, h⟩ := bind_eq_ok.mp h
  obtain ⟨ledgerReceipts, hack, rfl⟩ := storeLedgerReceipt_eq_ok hsto
  split at h
  · cases h
  · obtain ⟨buried, hburied, h⟩ := bind_eq_ok.mp h
    obtain ⟨tombstones, rfl⟩ := insertTombstone_eq_ok hburied
    rw [failIf_bind_eq_ok] at h
    cases h.2
    exact ⟨scope, ledgerReceipts, tombstones, hsc, hcomp, hack, rfl⟩

end Inversion

end RateReplay
