import Mathlib.Data.Finset.Dedup
import RateReplay.Persistence.StoreRuns

/-!
# Restoring a database under the deletion ledger

A restored database may be older than the deletions that were accepted since.  Before it is
exposed it is qualified against the ledger (`restore.py`): preparations without an outcome are
resolved by signed evidence, what the ledger says is deleted is suppressed, and what cannot be
decided keeps the database in quarantine.

The receipts of evidence are made by a parameter, as those of ledger events are.  What an
object store may refuse is not modelled, and neither is what a qualification that raises leaves
behind.

## Main definitions

* `deriveLocalPostgresOutcome` — the evidence a database gives about a preparation.
* `targetForEvent`, `fenceCommittedRestore`, `suppress` — the parts of the reconciler.
* `resolveChain`, `suppressAll`, `qualify` — its loops, and `RestoreReconciler.qualify`.

## Main results

* `targetForEvent_eq_some`, `suppress_eq_ok` — what the parts have found.
* `suppress_targets` — **suppression takes targets away and adds none.**
* `qualify_eq_ok` — **what a qualification that returns has done.**
-/

namespace RateReplay

open List

def restoreError (code message : String) : TransactionError := .raised .restore code message

/-! ### Evidence -/

inductive TransactionOutcome
  | committed
  | notCommitted
  deriving DecidableEq

structure TransactionOutcomeEvidence where
  deletionId : String
  preparedReceipt : String
  outcome : TransactionOutcome
  observedAt : ℤ
  authority : String
  receipt : String
  deriving DecidableEq

/-- The keys of the reconciler. -/
structure RestoreKeys where
  deletion : DeletionKeys
  /-- The restore keyring has the version. -/
  hasVersion : String → Bool
  scopeToken_isSome : ∀ version scopeId,
    (deletion.scopeToken version scopeId).isSome = hasVersion version
  /-- Receipts are hexadecimal digests. -/
  receipt_length : ∀ arguments previous, (deletion.receiptOf arguments previous).length = 64
  /-- The receipt of evidence under the outcome key. -/
  outcomeReceipt : String → String → TransactionOutcome → ℤ → String → String

/-- `LOCAL_POSTGRES_OUTCOME_AUTHORITY`. -/
def localPostgresOutcomeAuthority : String := "local-postgres-durable-state-v1"

/-- `sign_transaction_outcome`. -/
def signTransactionOutcome (keys : RestoreKeys) (deletionId preparedReceipt : String)
    (outcome : TransactionOutcome) (observedAt : ℤ) (authority : String) :
    TransactionOutcomeEvidence where
  deletionId := deletionId
  preparedReceipt := preparedReceipt
  outcome := outcome
  observedAt := observedAt
  authority := authority
  receipt := keys.outcomeReceipt deletionId preparedReceipt outcome observedAt authority

/-- `_prepared_matches_intent`, of the intent of the preparation's deletion. -/
def preparedMatchesIntent (prepared : LedgerEvent) (intent : DeletionIntentRecord) : Bool :=
  prepared.identity.originalGeneration = intent.originalGeneration
    && prepared.identity.proposedGeneration = intent.proposedGeneration
    && intent.preparationDigest = some prepared.identity.preparationDigest
    && intent.preparationReceipt = some prepared.receipt

/-- `_committed_fence_matches`. -/
def committedFenceMatches (prepared : LedgerEvent) (intent : DeletionIntentRecord)
    (target : Option DeletionTarget) (control : Option DeletionControlOperationRecord) : Bool :=
  intent.state = .consumed && intent.consumedAt.isSome
    && target.any (fun target => target.ownerUserId = intent.ownerUserId
      && target.lifecycleState = .deletionPendingLedger
      && target.lifecycleGeneration = prepared.identity.proposedGeneration)
    && control.any (fun control => control.phase = .fence
      && control.targetKind = intent.targetKind && control.targetScopeId = intent.targetScopeId
      && control.identity = prepared.identity)

/-- `_proved_noncommit_matches`. -/
def provedNoncommitMatches (intent : DeletionIntentRecord) (target : Option DeletionTarget)
    (control : Option DeletionControlOperationRecord) : Bool :=
  intent.state = .invalidated && intent.invalidatedAt.isSome && control.isNone
    && targetUntouched intent target

/-- The outcome of a preparation, as far as the database shows it. -/
def localOutcome (db : Database) (prepared : LedgerEvent) : Option TransactionOutcome :=
  match (db.intents.get? prepared.deletionId).filter (preparedMatchesIntent prepared) with
  | none => none
  | some intent =>
    let target := targetByScope db intent.targetKind intent.targetScopeId
    let control := db.controls.get? prepared.deletionId
    if committedFenceMatches prepared intent target control then some .committed
    else if provedNoncommitMatches intent target control then some .notCommitted
    else none

/-- `derive_local_postgres_outcome`, of a preparation. -/
def deriveLocalPostgresOutcome (keys : RestoreKeys) (db : Database) (prepared : LedgerEvent)
    (observedAt : ℤ) : Option TransactionOutcomeEvidence :=
  (localOutcome db prepared).map fun outcome =>
    signTransactionOutcome keys prepared.deletionId prepared.receipt outcome observedAt
      localPostgresOutcomeAuthority

/-! ### The ledger -/

/-- `_validate_event`. -/
def eventWellFormed (event : LedgerEvent) : Bool :=
  event.deletionId ≠ "" && event.identity.scopeToken ≠ "" && event.identity.restoreKeyVersion ≠ ""
    && event.identity.originalGeneration < event.identity.proposedGeneration
    && event.identity.preparationDigest.length = 64
    && event.identity.intentProofDigest.length = 64 && event.receipt.length = 64

/-- Each event of a chain names the receipt of the one before. -/
def receiptsLinked : Option String → List LedgerEvent → Bool
  | _, [] => true
  | previous, event :: rest =>
    event.previousReceipt = previous && receiptsLinked (some event.receipt) rest

/-- The deletions of a ledger, in the order in which they were prepared. -/
def deletionIds (ledger : List LedgerEvent) : List String :=
  (ledger.map (·.deletionId)).eraseDups

/-- `_chains`. -/
def chains (ledger : List LedgerEvent) : List (List LedgerEvent) :=
  (deletionIds ledger).map (chainOf ledger)

/-- What `validate` checks of the events. -/
def ledgerVerified (ledger : List LedgerEvent) : Bool :=
  ledger.all eventWellFormed && (chains ledger).all fun chain =>
    receiptsLinked none chain && chain.map (·.phase) ∈ legalChains

/-- The chain is a preparation without an outcome. -/
def unresolved : List LedgerEvent → Option LedgerEvent
  | [prepared] => if prepared.phase = .prepared then some prepared else none
  | _ => none

/-- `unresolved_preparations`. -/
def unresolvedPreparations (ledger : List LedgerEvent) : List LedgerEvent :=
  (chains ledger).filterMap unresolved

/-- The deletion was requested or completed. -/
def suppressive (chain : List LedgerEvent) : Bool :=
  chain.any fun event => event.phase = .requested || event.phase = .completed

/-! ### The restored database -/

/-- The restored database, the ledger and the keys of the stored objects. -/
structure RestoreWorld where
  db : Database
  ledger : List LedgerEvent
  objects : List String

structure RestoreTarget where
  kind : TargetKind
  resourceId : String
  ownerUserId : String
  scopeId : String
  deriving DecidableEq

/-- Every account, import and profile. -/
def restoreTargets (db : Database) : List RestoreTarget :=
  (db.users.entries.map fun e => ⟨.account, e.1, e.1, e.2.deletionScopeId⟩)
    ++ (db.imports.entries.map fun e =>
      ⟨.importing, e.1, e.2.ownerUserId, e.2.deletionScopeId⟩)
    ++ db.profiles.entries.map fun e =>
      ⟨.profile, e.1, e.2.ownerUserId, e.2.deletionScopeId⟩

/-- The scope of the target has the token of the event. -/
def hasToken (keys : RestoreKeys) (event : LedgerEvent) (restored : RestoreTarget) : Bool :=
  keys.deletion.scopeToken event.identity.restoreKeyVersion restored.scopeId
    = some event.identity.scopeToken

/-- `_target_for_event`. -/
def targetForEvent (keys : RestoreKeys) (db : Database) (event : LedgerEvent) :
    Except TransactionError (Option RestoreTarget) := do
  failIf (restoreTargets db ≠ [] ∧ keys.hasVersion event.identity.restoreKeyVersion = false)
    (restoreError "RESTORE_KEY_VERSION_UNAVAILABLE"
      "Restore key version required by the deletion ledger is unavailable")
  match (restoreTargets db).filter (hasToken keys event) with
  | [] => .ok none
  | [restored] => .ok (some restored)
  | _ => .error (restoreError "RESTORE_SCOPE_COLLISION"
      "Deletion ledger scope matched more than one restored target")

/-- The target is as it was when the deletion was prepared. -/
def restoredActive (db : Database) (restored : RestoreTarget) (target : DeletionTarget)
    (prepared : LedgerEvent) : Bool :=
  target.lifecycleState = .active
    && target.lifecycleGeneration = prepared.identity.originalGeneration
    && (restored.kind = .account
      || (db.users.get? restored.ownerUserId).any (·.lifecycleState = .active))

/-- `_fence_committed_restore`. -/
def fenceCommittedRestore (keys : RestoreKeys) (db : Database) (prepared : LedgerEvent) :
    Except TransactionError Database := do
  match ← targetForEvent keys db prepared with
  | none => .ok db
  | some restored =>
    match targetByScope db restored.kind restored.scopeId with
    | none => .ok db
    | some target => do
      failIf (∃ control ∈ db.controls.get? prepared.deletionId,
          ¬ (control.targetKind = restored.kind ∧ control.targetScopeId = restored.scopeId
            ∧ control.identity = prepared.identity))
        (restoreError "COMMITTED_CONTROL_MISMATCH"
          "Restored deletion control does not match the committed preparation")
      if restoredActive db restored target prepared then
        .ok (db.setLifecycle restored.kind target.id .deletionPendingLedger
          prepared.identity.proposedGeneration)
      else if target.lifecycleState.fenced
          && target.lifecycleGeneration = prepared.identity.proposedGeneration then
        .ok db
      else
        .error (restoreError "COMMITTED_FENCE_MISMATCH"
          "Committed preparation does not match the restored lifecycle generation")

/-! ### Resolution -/

/-- The preparation evidence speaks of. -/
def preparedOf (ledger : List LedgerEvent) (deletionId : String) : Option LedgerEvent :=
  ((chainOf ledger deletionId).filter fun event => event.phase = .prepared).getLast?

/-- One turn of `_validated_evidence`. -/
def validateEvidence (keys : RestoreKeys) (ledger : List LedgerEvent)
    (validated : List TransactionOutcomeEvidence) (evidence : TransactionOutcomeEvidence) :
    Except TransactionError (List TransactionOutcomeEvidence) :=
  match preparedOf ledger evidence.deletionId with
  | none =>
    .error (restoreError "OUTCOME_EVIDENCE_INVALID"
      "Transaction outcome evidence does not identify one preparation")
  | some event => do
    failIf (∃ other ∈ validated, other.deletionId = evidence.deletionId)
      (restoreError "OUTCOME_EVIDENCE_INVALID"
        "Transaction outcome evidence does not identify one preparation")
    failIf (¬ (evidence.authority ≠ "" ∧ evidence.preparedReceipt = event.receipt
        ∧ evidence.receipt = keys.outcomeReceipt evidence.deletionId evidence.preparedReceipt
          evidence.outcome evidence.observedAt evidence.authority
        ∧ event.occurredAt ≤ evidence.observedAt))
      (restoreError "OUTCOME_EVIDENCE_INVALID"
        "Transaction outcome evidence failed integrity or freshness validation")
    .ok (validated ++ [evidence])

/-- `_validated_evidence`. -/
def validatedEvidence (keys : RestoreKeys) (ledger : List LedgerEvent)
    (evidence : List TransactionOutcomeEvidence) :
    Except TransactionError (List TransactionOutcomeEvidence) :=
  evidence.foldlM (validateEvidence keys ledger) []

/-- `_ensure_aborted`; the ledger keeps the event when the last transaction fails. -/
def ensureAborted (keys : RestoreKeys) (w : RestoreWorld) (prepared : LedgerEvent)
    (receiptId : String) (now : ℤ) : Except TransactionError Unit × RestoreWorld :=
  if hasProvedNoncommit keys.deletion w.db prepared then
    match ensureEvent keys.deletion w.ledger (eventArguments prepared .aborted now) with
    | .error e => (.error e, w)
    | .ok (aborted, ledger) =>
      match recordAborted keys.deletion w.db aborted receiptId with
      | .error e => (.error e, { w with ledger := ledger })
      | .ok (_, db) => (.ok (), { w with db := db, ledger := ledger })
  else
    (.error (deletionError "ABORT_NOT_PROVABLE"
      "The database does not retain a positive noncommit proof"), w)

/-- `prove_noncommit_and_abort`. -/
def proveNoncommitAndAbort (keys : RestoreKeys) (w : RestoreWorld) (deletionId receiptId : String)
    (now : ℤ) : Except TransactionError Unit × RestoreWorld :=
  match proveNoncommit keys.deletion w.db w.ledger deletionId now with
  | .error e => (.error e, w)
  | .ok (prepared, db) => ensureAborted keys { w with db := db } prepared receiptId now

/-- A committed preparation is fenced and requested. -/
def requestCommitted (keys : RestoreKeys) (w : RestoreWorld) (prepared : LedgerEvent) (now : ℤ) :
    Except TransactionError Unit × RestoreWorld :=
  match fenceCommittedRestore keys w.db prepared with
  | .error e => (.error e, w)
  | .ok db =>
    match appendEvent keys.deletion.receiptOf w.ledger
        (eventArguments prepared .requested now) with
    | .error e => (.error e, { w with db := db })
    | .ok (_, ledger) => (.ok (), { w with db := db, ledger := ledger })

/-- What the first loop of `qualify` keeps. -/
structure Resolution where
  world : RestoreWorld
  requested : List String
  aborted : List String
  holds : List String

/-- One turn of the first loop of `qualify`. -/
def resolveChain (keys : RestoreKeys) (validated : List TransactionOutcomeEvidence)
    (receiptId : String → String) (now : ℤ) (r : Resolution) (chain : List LedgerEvent) :
    Resolution :=
  match unresolved chain with
  | none => r
  | some prepared =>
    match validated.find? fun evidence => evidence.deletionId = prepared.deletionId with
    | none => { r with holds := r.holds ++ [prepared.deletionId] }
    | some evidence =>
      match evidence.outcome with
      | .notCommitted =>
        match proveNoncommitAndAbort keys r.world prepared.deletionId
            (receiptId prepared.deletionId) now with
        | (.ok _, world) => { r with world, aborted := r.aborted ++ [prepared.deletionId] }
        | (.error _, world) => { r with world, holds := r.holds ++ [prepared.deletionId] }
      | .committed =>
        match requestCommitted keys r.world prepared now with
        | (.ok _, world) => { r with world, requested := r.requested ++ [prepared.deletionId] }
        | (.error _, world) => { r with world, holds := r.holds ++ [prepared.deletionId] }

/-- The first loop of `qualify`. -/
def resolveAll (keys : RestoreKeys) (validated : List TransactionOutcomeEvidence)
    (receiptId : String → String) (now : ℤ) (w : RestoreWorld) : Resolution :=
  (chains w.ledger).foldl (resolveChain keys validated receiptId now) ⟨w, [], [], []⟩

/-! ### Suppression -/

/-- `_restored_resource_control`, for an import or a profile: the control of the scope, if there is
one, is of the kind. -/
def checkRestoredControl (db : Database) (restored : RestoreTarget) :
    Except TransactionError Unit :=
  failIf (restored.kind ≠ .account ∧ ∃ existing ∈ db.controls.first fun _ control =>
      control.targetScopeId = restored.scopeId, existing.2.targetKind ≠ restored.kind)
    (restoreError "RESTORE_SCOPE_KIND_MISMATCH"
      "Restored deletion control kind does not match its target")

/-- The key is the prefix, or below it. -/
def underPrefix (keyPrefix key : String) : Bool :=
  key = keyPrefix || (keyPrefix ++ "/").isPrefixOf key

/-- The keys that `_listed_resource_objects` lists. -/
def listedResourceObject (db : Database) (graph : ResourceGraph) (ownerUserId key : String) :
    Bool :=
  (db.rawObjects.has fun _ raw => raw.importId ∈ graph.importIds && raw.objectKey = key)
    || (db.uploads.has fun id upload => id ∈ graph.uploadIds && upload.objectKey = key)
    || (db.reports.has fun id report => id ∈ graph.reportExportIds && report.objectKey = key)
    || graph.importIds.any (fun id =>
      underPrefix ("owners/" ++ ownerUserId ++ "/imports/" ++ id) key)
    || graph.jobIds.any fun id => underPrefix ("owners/" ++ ownerUserId ++ "/jobs/" ++ id) key

/-- The objects that `_suppress` deletes. -/
def suppressedObject (db : Database) (restored : RestoreTarget) (key : String) : Bool :=
  match restored.kind with
  | .account => underPrefix ("owners/" ++ restored.ownerUserId) key
  | kind =>
    match targetByScope db kind restored.scopeId with
    | none => false
    | some target =>
      listedResourceObject db (resourceGraph db kind target "") target.ownerUserId key

/-- `_restored_controls_for_target`. -/
def restoredControl (db : Database) (restored : RestoreTarget) (target : DeletionTarget)
    (deletionId : String) (control : DeletionControlOperationRecord) : Bool :=
  match restored.kind with
  | .account => (db.intents.get? deletionId).any (·.ownerUserId = restored.ownerUserId)
  | .importing => control.targetScopeId = restored.scopeId
      || db.profiles.has fun _ profile => profile.importId = target.id
        && profile.ownerUserId = restored.ownerUserId
        && profile.deletionScopeId = control.targetScopeId
  | .profile => control.targetScopeId = restored.scopeId

/-- The controls of a target are removed, with what belongs to them. -/
def removeRestoredControls (db : Database) (restored : RestoreTarget) (target : DeletionTarget) :
    Database :=
  let removed := (db.controls.entries.filter fun e =>
    restoredControl db restored target e.1 e.2).map Prod.fst
  { db with
    fenceTargets := db.fenceTargets.deleteWhere fun _ fence => fence.deletionId ∈ removed
    ledgerReceipts := db.ledgerReceipts.deleteWhere fun _ receipt => receipt.deletionId ∈ removed
    receipts := db.receipts.deleteWhere fun id _ => id ∈ removed
    controls := db.controls.deleteWhere fun id _ => id ∈ removed }

/-- `database.delete(target)`. -/
def Database.deleteRow (db : Database) (kind : TargetKind) (id : String) : Database :=
  match kind with
  | .account => { db with users := db.users.deleteWhere fun key _ => key = id }
  | .importing => { db with imports := db.imports.deleteWhere fun key _ => key = id }
  | .profile => { db with profiles := db.profiles.deleteWhere fun key _ => key = id }

/-- The rows that depend on the target. -/
def deleteDependents (db : Database) (restored : RestoreTarget) (target : DeletionTarget) :
    Database :=
  if restored.kind = .account then sweepOwnerRows db restored.ownerUserId ""
  else deleteResourceRows db restored.kind target ""

/-- The target goes, with its controls, the rows and objects that depend on it and the tombstones
of its scope. -/
def suppressTarget (w : RestoreWorld) (prepared : LedgerEvent) (restored : RestoreTarget)
    (target : DeletionTarget) : RestoreWorld :=
  let swept := deleteDependents (removeRestoredControls w.db restored target) restored target
  let buried : Database := { swept with
    tombstones := swept.tombstones.deleteWhere fun _ tombstone =>
      tombstone.scopeToken = prepared.identity.scopeToken }
  { w with
    db := buried.deleteRow restored.kind target.id
    objects := w.objects.filter fun key => !suppressedObject w.db restored key }

/-- `_suppress`; once the controls of a scope are removed, no control of it is left to be of another
kind. -/
def suppress (keys : RestoreKeys) (w : RestoreWorld) (prepared : LedgerEvent) :
    Except TransactionError RestoreWorld := do
  match ← targetForEvent keys w.db prepared with
  | none => .ok w
  | some restored =>
    match targetByScope w.db restored.kind restored.scopeId with
    | none => .ok w
    | some target => do
      checkRestoredControl w.db restored
      .ok (suppressTarget w prepared restored target)

/-- One turn of the second loop of `qualify`. -/
def suppressChain (keys : RestoreKeys) (w : RestoreWorld) (chain : List LedgerEvent) :
    Except TransactionError RestoreWorld :=
  match chain with
  | [] => .ok w
  | prepared :: _ => if suppressive chain then suppress keys w prepared else .ok w

/-- The second loop of `qualify`. -/
def suppressAll (keys : RestoreKeys) (w : RestoreWorld) : Except TransactionError RestoreWorld :=
  (chains w.ledger).foldlM (suppressChain keys) w

/-- One turn of `_verify_suppressive_scopes_absent`. -/
def verifyAbsent (keys : RestoreKeys) (db : Database) (chain : List LedgerEvent) :
    Except TransactionError Unit :=
  match chain with
  | [] => .ok ()
  | prepared :: _ =>
    if suppressive chain then do
      let target ← targetForEvent keys db prepared
      failIf (target ≠ none) (restoreError "SUPPRESSIVE_SCOPE_REMAINS"
        "A suppressive deletion scope remains in the restored database")
    else .ok ()

/-- `_verify_suppressive_scopes_absent`. -/
def verifySuppressiveScopesAbsent (keys : RestoreKeys) (w : RestoreWorld) :
    Except TransactionError Unit :=
  checkAll (verifyAbsent keys w.db) (chains w.ledger)

/-! ### Qualification -/

/-- The raw objects that `expire_raw_objects` takes. -/
def rawExpired (now : ℤ) (raw : RawObjectRecord) : Bool :=
  raw.state = .deletePending || (raw.state = .available && raw.expiresAt ≤ now)

/-- `expire_raw_objects`, run to its end. -/
def expireRawObjects (w : RestoreWorld) (now : ℤ) : ℕ × RestoreWorld :=
  let expired := (w.db.rawObjects.entries.filter fun e => rawExpired now e.2).map (·.2.objectKey)
  (expired.length, { w with
    db := { w.db with
      rawObjects := w.db.rawObjects.modifyWhere (fun _ raw => rawExpired now raw) fun raw =>
        { raw with state := .deleted, deletedAt := some now } }
    objects := w.objects.filter (· ∉ expired) })

structure RestoreQualification where
  exposureAllowed : Bool
  suppressedDeletions : Finset String
  requestedDeletions : Finset String
  abortedDeletions : Finset String
  quarantineHolds : Finset String
  retentionExpiredObjects : ℕ
  qualifiedAt : ℤ

/-- The deletions that were suppressed. -/
def suppressedDeletions (ledger : List LedgerEvent) : List String :=
  (deletionIds ledger).filter fun id => suppressive (chainOf ledger id)

/-- What keeps the restored database in quarantine. -/
def quarantineHolds (resolved : Resolution) (ledger : List LedgerEvent) : Finset String :=
  (resolved.holds ++ (unresolvedPreparations ledger).map (·.deletionId)).toFinset

/-- The report of a qualification. -/
def qualificationReport (resolved : Resolution) (suppressed : RestoreWorld) (now : ℤ) :
    RestoreQualification where
  exposureAllowed := quarantineHolds resolved suppressed.ledger = ∅
  suppressedDeletions := (suppressedDeletions resolved.world.ledger).toFinset
  requestedDeletions := resolved.requested.toFinset
  abortedDeletions := resolved.aborted.toFinset
  quarantineHolds := quarantineHolds resolved suppressed.ledger
  retentionExpiredObjects := (expireRawObjects suppressed now).1
  qualifiedAt := now

/-- `RestoreReconciler.qualify`. -/
def qualify (keys : RestoreKeys) (w : RestoreWorld) (evidence : List TransactionOutcomeEvidence)
    (receiptId : String → String) (now : ℤ) :
    Except TransactionError (RestoreQualification × RestoreWorld) := do
  failIf (ledgerVerified w.ledger = false)
    (restoreError "LEDGER_UNVERIFIED" "Restore deletion ledger could not be verified")
  failIf (∃ event ∈ w.ledger, keys.hasVersion event.identity.restoreKeyVersion = false)
    (restoreError "RESTORE_KEY_VERSION_UNAVAILABLE"
      "Restore key version required by the deletion ledger is unavailable")
  let validated ← validatedEvidence keys w.ledger evidence
  let resolved := resolveAll keys validated receiptId now w
  failIf (ledgerVerified resolved.world.ledger = false)
    (restoreError "LEDGER_UNVERIFIED" "Restore ledger changed to an unverifiable state")
  let suppressed ← suppressAll keys resolved.world
  verifySuppressiveScopesAbsent keys suppressed
  .ok (qualificationReport resolved suppressed now, (expireRawObjects suppressed now).2)

/-! ### Chains -/

section Chains

variable {ledger : List LedgerEvent} {deletionId : String} {chain : List LedgerEvent}
  {prepared : LedgerEvent} {ledger' : List LedgerEvent} {arguments : LedgerArguments}
  {event : LedgerEvent}

theorem mem_deletionIds : deletionId ∈ deletionIds ledger ↔ chainOf ledger deletionId ≠ [] := by
  rw [deletionIds, mem_eraseDups, mem_map, chainOf, ne_eq, filter_eq_nil_iff]
  push Not
  simp only [decide_eq_true_eq]

theorem nodup_eraseDups (ids : List String) : ids.eraseDups.Nodup := by
  induction hlength : ids.length using Nat.strongRecOn generalizing ids with
  | _ n ih =>
    cases ids with
    | nil => simp
    | cons id ids =>
      rw [eraseDups_cons, nodup_cons]
      refine ⟨by simp, ih _ ?_ _ rfl⟩
      rw [← hlength, length_cons]
      exact Nat.lt_succ_of_le (length_filter_le _ _)

theorem mem_chains : chain ∈ chains ledger ↔
    ∃ id, chainOf ledger id ≠ [] ∧ chainOf ledger id = chain := by
  simp only [chains, mem_map, mem_deletionIds]

theorem unresolved_eq_some :
    unresolved chain = some prepared ↔ chain = [prepared] ∧ prepared.phase = .prepared := by
  unfold unresolved
  split
  · rename_i only
    by_cases hph : only.phase = .prepared
    · rw [if_pos hph]
      constructor
      · rintro ⟨⟩
        exact ⟨rfl, hph⟩
      · rintro ⟨⟨⟩, -⟩
        rfl
    · rw [if_neg hph]
      constructor
      · rintro ⟨⟩
      · rintro ⟨⟨⟩, hprepd⟩
        exact absurd hprepd hph
  · rename_i hlong
    constructor
    · rintro ⟨⟩
    · rintro ⟨rfl, -⟩
      exact absurd rfl (hlong prepared)

theorem legal_of_ledgerVerified (h : ledgerVerified ledger = true) : LegalChains ledger := by
  intro id
  by_cases hch : chainOf ledger id = []
  · exact .inl hch
  · rw [ledgerVerified, Bool.and_eq_true, all_eq_true, all_eq_true] at h
    have hlegal := h.2 (chainOf ledger id) (mem_chains.mpr ⟨id, hch, rfl⟩)
    rw [Bool.and_eq_true, decide_eq_true_eq] at hlegal
    exact .inr hlegal.2

theorem ensureEvent_extends {keys : DeletionKeys}
    (h : ensureEvent keys ledger arguments = .ok (event, ledger')) : ledger <+: ledger' := by
  unfold ensureEvent at h
  split at h
  · cases h
    exact prefix_rfl
  · exact appendEvent_extends h

end Chains

/-! ### Targets -/

section Targets

variable {keys : RestoreKeys} {db db' : Database} {event : LedgerEvent}
  {restored : RestoreTarget} {kind : TargetKind} {target : DeletionTarget}

/-- No target has the token of the event. -/
def Absent (keys : RestoreKeys) (db : Database) (event : LedgerEvent) : Prop :=
  ∀ restored ∈ restoreTargets db, hasToken keys event restored = false

/-- At most one target has the token of the event. -/
def OneTarget (keys : RestoreKeys) (db : Database) (event : LedgerEvent) : Prop :=
  ((restoreTargets db).filter (hasToken keys event)).length ≤ 1

instance : Decidable (OneTarget keys db event) := Nat.decLe _ _

theorem filter_of_targetForEvent {found : Option RestoreTarget}
    (h : targetForEvent keys db event = .ok found) :
    (restoreTargets db).filter (hasToken keys event) = found.toList := by
  rw [targetForEvent, failIf_bind_eq_ok] at h
  obtain ⟨-, h⟩ := h
  split at h <;> cases h
  · assumption
  · assumption

theorem targetForEvent_of_filter {found : Option RestoreTarget}
    (hversion : keys.hasVersion event.identity.restoreKeyVersion = true)
    (h : (restoreTargets db).filter (hasToken keys event) = found.toList) :
    targetForEvent keys db event = .ok found := by
  rw [targetForEvent, failIf_bind_eq_ok, h, hversion]
  refine ⟨?_, by cases found <;> rfl⟩
  rintro ⟨-, ⟨⟩⟩

/-- With the key at hand, the target of an event is looked up in vain where it is not the only
one. -/
theorem targetForEvent_isOk (hversion : keys.hasVersion event.identity.restoreKeyVersion = true) :
    (∃ found, targetForEvent keys db event = .ok found) ↔ OneTarget keys db event := by
  constructor
  · rintro ⟨found, hfnd⟩
    rw [OneTarget, filter_of_targetForEvent hfnd]
    cases found <;> simp
  · intro hone
    refine ⟨((restoreTargets db).filter (hasToken keys event)).head?,
      targetForEvent_of_filter hversion ?_⟩
    rw [OneTarget] at hone
    match (restoreTargets db).filter (hasToken keys event), hone with
    | [], _ => rfl
    | [_], _ => rfl

theorem targetForEvent_eq_none (h : targetForEvent keys db event = .ok none) :
    Absent keys db event := fun restored hmem =>
  Bool.eq_false_of_not_eq_true (filter_eq_nil_iff.mp (filter_of_targetForEvent h) restored hmem)

/-- With the key at hand, an event without a target is found to have none. -/
theorem Absent.targetForEvent (h : Absent keys db event)
    (hversion : keys.hasVersion event.identity.restoreKeyVersion = true) :
    targetForEvent keys db event = .ok none := by
  refine targetForEvent_of_filter hversion (filter_eq_nil_iff.mpr fun restored hmem => ?_)
  rw [h restored hmem]
  decide

/-- **The target of an event is the only one with its token.** -/
theorem targetForEvent_eq_some (h : targetForEvent keys db event = .ok (some restored)) :
    restored ∈ restoreTargets db ∧ hasToken keys event restored = true ∧
      ∀ other ∈ restoreTargets db, hasToken keys event other = true → other = restored := by
  have hmem : ∀ other, other ∈ (restoreTargets db).filter (hasToken keys event) ↔
      other = restored := by
    intro other
    rw [filter_of_targetForEvent h, Option.toList_some, mem_singleton]
  have hself := mem_filter.mp ((hmem restored).mpr rfl)
  exact ⟨hself.1, hself.2, fun other hoth htoken =>
    (hmem other).mp (mem_filter.mpr ⟨hoth, htoken⟩)⟩

/-- The target that was read from a row. -/
def DeletionTarget.asRestored (kind : TargetKind) (target : DeletionTarget) : RestoreTarget :=
  ⟨kind, target.id, target.ownerUserId, target.deletionScopeId⟩

theorem mem_restoreTargets (h : TargetRow db target kind) :
    target.asRestored kind ∈ restoreTargets db := by
  simp only [restoreTargets, mem_append, mem_map]
  cases kind with
  | account =>
    obtain ⟨user, hg, htgt⟩ := h
    exact .inl (.inl ⟨(target.id, user), Dict.get?_eq_some.mp hg, by rw [htgt]; rfl⟩)
  | importing =>
    obtain ⟨record, hg, htgt⟩ := h
    exact .inl (.inr ⟨(target.id, record), Dict.get?_eq_some.mp hg, by rw [htgt]; rfl⟩)
  | profile =>
    obtain ⟨profile, hg, htgt⟩ := h
    exact .inr ⟨(target.id, profile), Dict.get?_eq_some.mp hg, by rw [htgt]; rfl⟩

/-- A target that was read from the database is found by its scope. -/
theorem targetByScope_isSome (h : restored ∈ restoreTargets db) :
    ∃ target, targetByScope db restored.kind restored.scopeId = some target := by
  rw [← Option.isSome_iff_exists]
  simp only [restoreTargets, mem_append, mem_map] at h
  rcases h with (⟨⟨id, row⟩, hmem, rfl⟩ | ⟨⟨id, row⟩, hmem, rfl⟩) | ⟨⟨id, row⟩, hmem, rfl⟩ <;>
  · rw [targetByScope, Option.isSome_map, Dict.first_isSome]
    exact ⟨id, row, Dict.get?_eq_some.mpr hmem, decide_eq_true rfl⟩

/-- Accounts, imports and profiles are only taken away, and so are controls. -/
structure TargetsShrink (db db' : Database) : Prop where
  targets : restoreTargets db' <+ restoreTargets db
  controls : db'.controls.entries <+ db.controls.entries

theorem TargetsShrink.refl : TargetsShrink db db := ⟨.refl _, .refl _⟩

theorem TargetsShrink.trans {db'' : Database} (h₁ : TargetsShrink db db')
    (h₂ : TargetsShrink db' db'') : TargetsShrink db db'' :=
  ⟨h₂.targets.trans h₁.targets, h₂.controls.trans h₁.controls⟩

theorem restoreTargets_sublist (hus : db'.users.entries <+ db.users.entries)
    (hims : db'.imports.entries <+ db.imports.entries)
    (hpfs : db'.profiles.entries <+ db.profiles.entries) :
    restoreTargets db' <+ restoreTargets db :=
  ((hus.map _).append (hims.map _)).append (hpfs.map _)

theorem Absent.shrink (h : Absent keys db event) (hshrink : TargetsShrink db db') :
    Absent keys db' event :=
  fun restored hmem => h restored (hshrink.targets.mem hmem)

theorem OneTarget.shrink (h : OneTarget keys db event) (hshrink : TargetsShrink db db') :
    OneTarget keys db' event :=
  (hshrink.targets.filter _).length_le.trans h

theorem deleteRow_shrink (db : Database) (kind : TargetKind) (id : String) :
    TargetsShrink db (db.deleteRow kind id) := by
  refine ⟨?_, by cases kind <;> exact .refl _⟩
  cases kind with
  | account => exact restoreTargets_sublist filter_sublist (.refl _) (.refl _)
  | importing => exact restoreTargets_sublist (.refl _) filter_sublist (.refl _)
  | profile => exact restoreTargets_sublist (.refl _) (.refl _) filter_sublist

/-- A row that is deleted is no target any more. -/
theorem deleteRow_not_mem {id : String} (hmem : restored ∈ restoreTargets (db.deleteRow kind id)) :
    ¬ (restored.kind = kind ∧ restored.resourceId = id) := by
  rintro ⟨rfl, rfl⟩
  simp only [restoreTargets, mem_append, mem_map] at hmem
  rcases hmem with (⟨⟨id, row⟩, hrow, rfl⟩ | ⟨⟨id, row⟩, hrow, rfl⟩) | ⟨⟨id, row⟩, hrow, rfl⟩ <;>
  · have hkept := (Dict.mem_entries_deleteWhere.mp hrow).2
    simp at hkept

theorem deleteDependents_shrink :
    TargetsShrink db (deleteDependents db restored target) := by
  unfold deleteDependents
  split
  · exact ⟨restoreTargets_sublist (.refl _) filter_sublist filter_sublist, .refl _⟩
  · exact ⟨restoreTargets_sublist (.refl _) (.refl _) filter_sublist, .refl _⟩

end Targets

/-! ### Suppression -/

section Suppression

variable {keys : RestoreKeys} {w w' : RestoreWorld} {prepared : LedgerEvent}

/-- **What a suppression has done**: nothing, when there is no target; otherwise it has taken the
target away, with rows and objects that depend on it. -/
theorem suppress_eq_ok (h : suppress keys w prepared = .ok w') :
    (targetForEvent keys w.db prepared = .ok none ∧ w' = w) ∨
      ∃ restored target swept, targetForEvent keys w.db prepared = .ok (some restored) ∧
        targetByScope w.db restored.kind restored.scopeId = some target ∧
        TargetsShrink w.db swept ∧ w'.ledger = w.ledger ∧
        w'.db = swept.deleteRow restored.kind target.id := by
  obtain ⟨found, hfnd, h⟩ := bind_eq_ok.mp h
  cases found with
  | none =>
    cases h
    exact .inl ⟨hfnd, rfl⟩
  | some restored =>
    obtain ⟨target, htgt⟩ := targetByScope_isSome (targetForEvent_eq_some hfnd).1
    simp only [htgt] at h
    obtain ⟨_, -, h⟩ := bind_eq_ok.mp h
    cases h
    refine .inr ⟨restored, target, _, hfnd, htgt, ?_, rfl, rfl⟩
    have hclr : TargetsShrink w.db (removeRestoredControls w.db restored target) :=
      ⟨.refl _, filter_sublist⟩
    exact (hclr.trans deleteDependents_shrink).trans ⟨.refl _, .refl _⟩

/-- **Suppression takes targets away and adds none.** -/
theorem suppress_targets (h : suppress keys w prepared = .ok w') :
    w'.ledger = w.ledger ∧ TargetsShrink w.db w'.db := by
  rcases suppress_eq_ok h with ⟨-, rfl⟩ | ⟨restored, target, swept, -, -, hshrink, hledger, hdb⟩
  · exact ⟨rfl, .refl⟩
  · rw [hdb]
    exact ⟨hledger, hshrink.trans (deleteRow_shrink _ _ _)⟩

/-- The target of a suppressed deletion is gone. -/
theorem suppress_absent (h : suppress keys w prepared = .ok w') : Absent keys w'.db prepared := by
  rcases suppress_eq_ok h with ⟨hnone, rfl⟩ | ⟨restored, target, swept, hfnd, htgt, hshrink,
    -, hdb⟩
  · exact targetForEvent_eq_none hnone
  · intro other hmem
    rw [hdb] at hmem
    have hgone := deleteRow_not_mem hmem
    obtain ⟨-, htoken, huniq⟩ := targetForEvent_eq_some hfnd
    obtain ⟨hsc, hrow⟩ := targetByScope_eq_some htgt
    -- the row that was deleted is the one target with the token
    have hdeleted : target.asRestored restored.kind = restored := by
      refine huniq _ (mem_restoreTargets hrow) ?_
      rw [hasToken, DeletionTarget.asRestored, hsc]
      exact htoken
    by_contra hoth
    have hsame := huniq other ((hshrink.trans (deleteRow_shrink _ _ _)).targets.mem hmem)
      (Bool.eq_true_of_not_eq_false hoth)
    rw [hsame] at hgone
    refine hgone ⟨rfl, ?_⟩
    rw [← hdeleted]
    rfl

/-- What the second loop has taken away stays away. -/
theorem suppressLoop_eq_ok {chains : List (List LedgerEvent)}
    (h : chains.foldlM (suppressChain keys) w = .ok w') :
    w'.ledger = w.ledger ∧ TargetsShrink w.db w'.db ∧
      ∀ prepared rest, prepared :: rest ∈ chains → suppressive (prepared :: rest) = true →
        Absent keys w'.db prepared := by
  induction chains generalizing w with
  | nil =>
    cases h
    exact ⟨rfl, .refl, fun _ _ hmem => by cases hmem⟩
  | cons chain chains ih =>
    rw [foldlM_cons] at h
    obtain ⟨next, hturn, h⟩ := bind_eq_ok.mp h
    obtain ⟨hledger, hshrink, habsent⟩ := ih h
    have hfst : next.ledger = w.ledger ∧ TargetsShrink w.db next.db ∧
        ∀ prepared rest, chain = prepared :: rest → suppressive chain = true →
          Absent keys next.db prepared := by
      unfold suppressChain at hturn
      split at hturn
      · cases hturn
        exact ⟨rfl, .refl, fun _ _ hcons => by cases hcons⟩
      · split at hturn
        · obtain ⟨hnext, hless⟩ := suppress_targets hturn
          refine ⟨hnext, hless, ?_⟩
          rintro _ _ ⟨⟩ -
          exact suppress_absent hturn
        · rename_i hkeep
          cases hturn
          exact ⟨rfl, .refl, fun _ _ _ hsup => absurd hsup hkeep⟩
    refine ⟨hledger.trans hfst.1, hfst.2.1.trans hshrink, ?_⟩
    intro prepared rest hmem hsup
    rcases mem_cons.mp hmem with hhead | hlater
    · exact (hfst.2.2 prepared rest hhead.symm (hhead ▸ hsup)).shrink hshrink
    · exact habsent prepared rest hlater hsup

/-- The controls of the scope of an import or a profile are of its kind. -/
def ControlKinds (db : Database) : Prop :=
  ∀ restored ∈ restoreTargets db, restored.kind ≠ .account → ∀ e ∈ db.controls.entries,
    e.2.targetScopeId = restored.scopeId → e.2.targetKind = restored.kind

instance (db : Database) : Decidable (ControlKinds db) := by
  unfold ControlKinds
  infer_instance

theorem suppress_isOk (hversion : keys.hasVersion prepared.identity.restoreKeyVersion = true)
    (hone : OneTarget keys w.db prepared) (hkinds : ControlKinds w.db) :
    ∃ w', suppress keys w prepared = .ok w' := by
  obtain ⟨found, hfnd⟩ := (targetForEvent_isOk hversion).mpr hone
  rw [suppress, hfnd, ok_bind]
  cases found with
  | none => exact ⟨w, rfl⟩
  | some restored =>
    have hmem := (targetForEvent_eq_some hfnd).1
    obtain ⟨target, htgt⟩ := targetByScope_isSome hmem
    have hpasses : checkRestoredControl w.db restored = .ok () := by
      rw [checkRestoredControl, failIf_eq_ok]
      rintro ⟨hk, ⟨id, control⟩, hfirst, hdiffers⟩
      obtain ⟨hg, hsc⟩ := Dict.first_eq_some_get? hfirst
      exact hdiffers (hkinds restored hmem hk _ (Dict.get?_eq_some.mp hg) (of_decide_eq_true hsc))
    simp only [htgt, hpasses, ok_bind]
    exact ⟨_, rfl⟩

/-- **The second loop goes through** where every suppressive token is that of one target. -/
theorem suppressLoop_isOk {chains : List (List LedgerEvent)}
    (hone : ∀ prepared rest, prepared :: rest ∈ chains → suppressive (prepared :: rest) = true →
      keys.hasVersion prepared.identity.restoreKeyVersion = true ∧ OneTarget keys w.db prepared)
    (hkinds : ControlKinds w.db) : ∃ w', chains.foldlM (suppressChain keys) w = .ok w' := by
  induction chains generalizing w with
  | nil => exact ⟨w, rfl⟩
  | cons chain chains ih =>
    have hturn : ∃ next, suppressChain keys w chain = .ok next ∧ TargetsShrink w.db next.db := by
      cases chain with
      | nil => exact ⟨w, rfl, .refl⟩
      | cons prepared rest =>
        rw [suppressChain]
        split
        · rename_i hsup
          obtain ⟨hversion, honly⟩ := hone prepared rest mem_cons_self hsup
          obtain ⟨next, hok⟩ := suppress_isOk hversion honly hkinds
          exact ⟨next, hok, (suppress_targets hok).2⟩
        · exact ⟨w, rfl, .refl⟩
    obtain ⟨next, hok, hshrink⟩ := hturn
    rw [foldlM_cons, hok]
    refine ih (fun prepared rest hmem hsup => ?_) fun restored hmem hk e he =>
      hkinds restored (hshrink.targets.mem hmem) hk e (hshrink.controls.mem he)
    obtain ⟨hversion, honly⟩ := hone prepared rest (mem_cons_of_mem _ hmem) hsup
    exact ⟨hversion, honly.shrink hshrink⟩

end Suppression

/-! ### Resolution and qualification -/

section Qualification

variable {keys : RestoreKeys} {w w' : RestoreWorld} {prepared : LedgerEvent} {now : ℤ}
  {validated evidence : List TransactionOutcomeEvidence} {receiptId : String → String}
  {result : Except TransactionError Unit}

theorem proveNoncommitAndAbort_extends {deletionId receipt : String}
    (h : proveNoncommitAndAbort keys w deletionId receipt now = (result, w')) :
    w.ledger <+: w'.ledger := by
  unfold proveNoncommitAndAbort at h
  split at h
  · cases h
    exact prefix_rfl
  · unfold ensureAborted at h
    split at h
    · split at h
      · cases h
        exact prefix_rfl
      · rename_i aborted ledger hensured
        have hprefix := ensureEvent_extends hensured
        split at h <;>
        · cases h
          exact hprefix
    · cases h
      exact prefix_rfl

theorem requestCommitted_extends (h : requestCommitted keys w prepared now = (result, w')) :
    w.ledger <+: w'.ledger := by
  unfold requestCommitted at h
  split at h
  · cases h
    exact prefix_rfl
  · split at h
    · cases h
      exact prefix_rfl
    · rename_i event ledger happend
      cases h
      exact appendEvent_extends happend

theorem resolveChain_extends (r : Resolution) (chain : List LedgerEvent) :
    r.world.ledger <+: (resolveChain keys validated receiptId now r chain).world.ledger := by
  unfold resolveChain
  split
  · exact prefix_rfl
  · split
    · exact prefix_rfl
    · split
      · split
        · rename_i habort
          exact proveNoncommitAndAbort_extends habort
        · rename_i habort
          exact proveNoncommitAndAbort_extends habort
      · split
        · rename_i hreq
          exact requestCommitted_extends hreq
        · rename_i hreq
          exact requestCommitted_extends hreq

/-- Resolution only extends the ledger. -/
theorem resolveAll_extends :
    w.ledger <+: (resolveAll keys validated receiptId now w).world.ledger := by
  have hloop : ∀ (chains : List (List LedgerEvent)) (r : Resolution), r.world.ledger <+:
      (chains.foldl (resolveChain keys validated receiptId now) r).world.ledger := by
    intro chains
    induction chains with
    | nil => exact fun r => prefix_rfl
    | cons chain chains ih =>
      intro r
      exact (resolveChain_extends r chain).trans (ih _)
  exact hloop (chains w.ledger) ⟨w, [], [], []⟩

/-- **What a qualification that returns has done.** -/
theorem qualify_eq_ok {report : RestoreQualification} :
    qualify keys w evidence receiptId now = .ok (report, w') ↔
      ledgerVerified w.ledger = true ∧
      (∀ event ∈ w.ledger, keys.hasVersion event.identity.restoreKeyVersion = true) ∧
      ∃ validated suppressed, validatedEvidence keys w.ledger evidence = .ok validated ∧
        ledgerVerified (resolveAll keys validated receiptId now w).world.ledger = true ∧
        suppressAll keys (resolveAll keys validated receiptId now w).world = .ok suppressed ∧
        verifySuppressiveScopesAbsent keys suppressed = .ok () ∧
        report = qualificationReport (resolveAll keys validated receiptId now w) suppressed now ∧
        w' = (expireRawObjects suppressed now).2 := by
  rw [qualify, failIf_bind_eq_ok, failIf_bind_eq_ok, Bool.not_eq_false, not_exists]
  constructor
  · rintro ⟨hver, hvers, h⟩
    obtain ⟨validated, hvd, h⟩ := bind_eq_ok.mp h
    rw [failIf_bind_eq_ok, Bool.not_eq_false] at h
    obtain ⟨suppressed, hsupp, hrest⟩ := bind_eq_ok.mp h.2
    obtain ⟨_, habsent, hres⟩ := bind_eq_ok.mp hrest
    cases hres
    exact ⟨hver, fun event hmem => Bool.eq_true_of_not_eq_false
        fun hmissing => hvers event ⟨hmem, hmissing⟩,
      validated, suppressed, hvd, h.1, hsupp, habsent, rfl, rfl⟩
  · rintro ⟨hver, hvers, validated, suppressed, hvd, hafter, hsupp, habsent,
      rfl, rfl⟩
    refine ⟨hver, ?_, ?_⟩
    · rintro event ⟨hmem, hmissing⟩
      cases (hvers event hmem).symm.trans hmissing
    · rw [hvd, ok_bind, failIf_bind_eq_ok, Bool.not_eq_false, hsupp, ok_bind, habsent]
      exact ⟨hafter, rfl⟩

/-- The targets of requested and completed deletions are absent. -/
theorem verifySuppressiveScopesAbsent_eq_ok
    (h : verifySuppressiveScopesAbsent keys w = .ok ()) {rest : List LedgerEvent}
    (hmem : prepared :: rest ∈ chains w.ledger)
    (hsup : suppressive (prepared :: rest) = true) :
    Absent keys w.db prepared := by
  have hturn := checkAll_eq_ok.mp h _ hmem
  simp only [verifyAbsent, hsup, if_true] at hturn
  obtain ⟨target, hfnd, hnone⟩ := bind_eq_ok.mp hturn
  rw [failIf_eq_ok, not_not] at hnone
  rw [hnone] at hfnd
  exact targetForEvent_eq_none hfnd

end Qualification

end RateReplay
