import RateReplay.Persistence.Submissions
import RateReplay.Persistence.SweepJobs

/-!
# Repeated import submissions

A repeated `submit` of an upload is answered from the operation that its key is bound to: with its
operation's import, and with the job whose `import_id` is that import.  The query for the job
names neither the kind of the job nor an order, and other jobs carry the `import_id` too: every
calculation on the profile of the import, and every deletion of the import or of its profile.

## Main definitions

* `RepeatAnswers` — the answers a repeated submission may get, whichever row the query returns.
* `ImportHistory`, `ImportHistoryStep` — the store, and the submissions that were recorded.
* `CarriesImports` — what a transaction does to operations, import jobs and the jobs of deletions.

## Main results

* `ImportHistoryStep.sound` — **the import job stays as long as its operation does.**
* `repeated_import_same_iff` — **a repeated submission returns what the first one returned exactly
  when no other job carries the import.**
-/

namespace RateReplay

open List

/-! ### Answers -/

/-- The answers of `submit` to an upload whose key is bound, when the query for the job returns
any of the rows it matches. -/
inductive RepeatAnswers (db : Database) (upload : ImportUpload) :
    Except TransactionError ImportSubmission → Prop
  | refused {e : TransactionError} (h : checkUpload upload = .error e) :
      RepeatAnswers db upload (.error e)
  | reused {id : String} {existing : OperationRequestRecord}
      (hchecked : checkUpload upload = .ok ())
      (hbound : operationOf db upload.ownerUserId importRoute upload.idempotencyKey
        = some (id, existing))
      (hpayload : existing.canonicalPayloadHash ≠ upload.payloadHash) :
      RepeatAnswers db upload (.error
        (importError "IDEMPOTENCY_KEY_REUSED" "Idempotency key is bound to another request"))
  | incomplete {id : String} {existing : OperationRequestRecord}
      (hchecked : checkUpload upload = .ok ())
      (hbound : operationOf db upload.ownerUserId importRoute upload.idempotencyKey
        = some (id, existing))
      (hpayload : existing.canonicalPayloadHash = upload.payloadHash)
      (hnone : ∀ jobId job, db.jobs.get? jobId = some job →
        job.importId ≠ some existing.operationId) :
      RepeatAnswers db upload
        (.error (importError "OPERATION_INCOMPLETE" "Import operation is incomplete"))
  | repeated {id jobId : String} {existing : OperationRequestRecord} {job : JobRecord}
      (hchecked : checkUpload upload = .ok ())
      (hbound : operationOf db upload.ownerUserId importRoute upload.idempotencyKey
        = some (id, existing))
      (hpayload : existing.canonicalPayloadHash = upload.payloadHash)
      (hjob : db.jobs.get? jobId = some job) (himport : job.importId = some existing.operationId) :
      RepeatAnswers db upload (.ok ⟨existing.operationId, jobId, true⟩)

/-- The first match in the order of insertion is one of the rows that may be returned. -/
theorem repeatAnswers_of_admitSubmission {db : Database} {upload : ImportUpload}
    {submission : ImportSubmission} (hchk : checkUpload upload = .ok ())
    (h : admitSubmission db upload = .ok (.inl submission)) :
    RepeatAnswers db upload (.ok submission) := by
  unfold admitSubmission at h
  split at h
  · rename_i id existing hbound
    rw [failIf_bind_eq_ok, not_not] at h
    obtain ⟨hpay, h⟩ := h
    obtain ⟨repeated, hrep, hres⟩ := bind_eq_ok.mp h
    cases hres
    unfold repeatSubmission at hrep
    split at hrep
    · cases hrep
    · rename_i jobId job hj
      cases hrep
      obtain ⟨hg, hmat⟩ := Dict.first_eq_some_get? hj
      exact .repeated hchk hbound hpay hg (of_decide_eq_true hmat)
  · split at h
    · cases h
    · rw [failIf_bind_eq_ok] at h
      cases h.2

/-! ### The system -/

/-- A submission that was recorded, with what was drawn for it. -/
structure SubmittedImport where
  upload : ImportUpload
  accountGeneration : ℕ
  ids : ImportIdentifiers
  now : ℤ

namespace SubmittedImport

variable (s : SubmittedImport)

def job : JobRecord := submittedJob s.upload s.accountGeneration s.ids.importId s.now

def operation : OperationRequestRecord := submittedOperation s.upload s.ids.importId s.now

/-- What the first call returned, and what a repeated one should. -/
def answer (repeated : Bool) : ImportSubmission := ⟨s.ids.importId, s.ids.jobId, repeated⟩

end SubmittedImport

structure ImportHistory where
  db : Database
  /-- The identifiers drawn so far. -/
  drawn : List String
  submitted : List SubmittedImport

/-- What every other transaction does: operations are only removed, no control gets a job, and the
request of an import job stays. -/
structure QuietChange (db db' : Database) : Prop where
  operations : Shrinks db.operationRequests db'.operationRequests
  controls : ∀ id control', db'.controls.get? id = some control' →
    ∃ control, db.controls.get? id = some control ∧
      control'.deletionJobId = control.deletionJobId
  jobs : ∀ id job, db.jobs.get? id = some job → job.kind = .importing →
    ∃ job', db'.jobs.get? id = some job' ∧ job'.request = job.request

inductive ImportHistoryOperation
  | submit (submitted : SubmittedImport)
  | calculate (request : CalculationRequest)
  /-- An inline replay records its job and its operation. -/
  | replay (jobId : String) (job : JobRecord)
  | install (request : SimulatedInstallation)
  | fence (prepared : LedgerEvent) (receiptId : String) (now : ℤ)
  | request (deletionId : String) (requested : LedgerEvent) (jobId receiptId : String) (now : ℤ)
  | sweep (lease : JobLease) (now : ℤ)
  | verify (lease : JobLease) (objectsOrRowsLeft : Bool) (now : ℤ)
  | subsume (deletionId : String) (requested completed : LedgerEvent)
      (requestedId completedId : String) (now : ℤ)
  | complete (lease : JobLease) (completed : LedgerEvent) (receiptId : String) (now : ℤ)
  | other

/-- One transaction that commits. -/
inductive ImportHistoryStep (keys : DeletionKeys) (w : ImportHistory) :
    ImportHistoryOperation → ImportHistory → Prop
  | submit {s : SubmittedImport} {db'}
      (hchecked : checkUpload s.upload = .ok ()) (hjob : s.ids.jobId ∉ w.drawn)
      (hoperation : s.ids.operationId ∉ w.drawn)
      (h : recordSubmission w.db s.upload s.accountGeneration s.ids s.now
        = .ok (s.answer false, db')) :
      ImportHistoryStep keys w (.submit s)
        ⟨db', s.ids.jobId :: s.ids.operationId :: w.drawn, s :: w.submitted⟩
  | calculate {request : CalculationRequest} {initializeNewJob : JobInitializer} {submission}
      {db' : Database} (hframe : ∀ db db' submission, initializeNewJob db submission = .ok db' →
        db'.operationRequests = db.operationRequests ∧ db'.jobs = db.jobs ∧
          db'.controls = db.controls)
      (hjob : request.jobId ∉ w.drawn) (hoperation : request.operationId ∉ w.drawn)
      (h : submitCalculation w.db request initializeNewJob = .ok (submission, db')) :
      ImportHistoryStep keys w (.calculate request)
        ⟨db', request.jobId :: request.operationId :: w.drawn, w.submitted⟩
  | replay {jobId operationId} {job : JobRecord} {operation : OperationRequestRecord}
      {db' : Database} (hkind : job.kind = .replay)
      (hjob : jobId ∉ w.drawn) (hnew : w.db.jobs.get? jobId = none)
      (hoperation : operationId ∉ w.drawn)
      (hunbound : operationOf w.db operation.ownerUserId operation.routeId
        operation.idempotencyKey = none)
      (hoperations : db'.operationRequests = w.db.operationRequests.set operationId operation)
      (hjobs : db'.jobs = w.db.jobs.set jobId job) (hcontrols : db'.controls = w.db.controls) :
      ImportHistoryStep keys w (.replay jobId job)
        ⟨db', jobId :: operationId :: w.drawn, w.submitted⟩
  | install {request : SimulatedInstallation} {result db'}
      (hoperation : request.operationId ∉ w.drawn)
      (h : installSimulatedProfile w.db request = .ok (result, db')) :
      ImportHistoryStep keys w (.install request)
        ⟨db', request.operationId :: w.drawn, w.submitted⟩
  | fence {prepared receiptId now u db'}
      (h : fencePrepared keys w.db prepared receiptId now = .ok (u, db')) :
      ImportHistoryStep keys w (.fence prepared receiptId now) { w with db := db' }
  | request {deletionId requested jobId receiptId now u db'} (hjob : jobId ∉ w.drawn)
      (h : recordRequested keys w.db deletionId requested jobId receiptId now = .ok (u, db')) :
      ImportHistoryStep keys w (.request deletionId requested jobId receiptId now)
        ⟨db', jobId :: w.drawn, w.submitted⟩
  | sweep {lease now u db'} (h : sweepRows w.db lease now = .ok (u, db')) :
      ImportHistoryStep keys w (.sweep lease now) { w with db := db' }
  | verify {lease objectsOrRowsLeft verified now db'}
      (h : verifyRows w.db lease objectsOrRowsLeft now = .ok (verified, db')) :
      ImportHistoryStep keys w (.verify lease objectsOrRowsLeft now) { w with db := db' }
  | subsume {deletionId requested completed requestedId completedId now u db'}
      (h : completeSubsumed keys w.db deletionId requested completed requestedId completedId now
        = .ok (u, db')) :
      ImportHistoryStep keys w
        (.subsume deletionId requested completed requestedId completedId now) { w with db := db' }
  | complete {lease completed receiptId now u db'}
      (h : complete keys w.db lease completed receiptId now = .ok (u, db')) :
      ImportHistoryStep keys w (.complete lease completed receiptId now) { w with db := db' }
  | other {db'} (h : QuietChange w.db db') :
      ImportHistoryStep keys w .other { w with db := db' }

/-- No submission has been recorded yet. -/
structure NoSubmissions (w : ImportHistory) : Prop where
  unique : UniqueOperations w.db
  operations : ∀ id operation, w.db.operationRequests.get? id = some operation → id ∈ w.drawn
  controls : ∀ id control jobId, w.db.controls.get? id = some control →
    control.deletionJobId = some jobId → jobId ∈ w.drawn
  submitted : w.submitted = []

/-! ### What a transaction carries over -/

/-- The job is the one that sweeps some deletion. -/
def SweepsDeletion (db : Database) (jobId : String) : Prop :=
  ∃ id control, db.controls.get? id = some control ∧ control.deletionJobId = some jobId

/-- Operations and the jobs of deletions are old or new; an import job stays, unless every
operation of its owner on its import goes. -/
structure CarriesImports (db db' : Database) (new : String → Prop) : Prop where
  unique : UniqueOperations db → UniqueOperations db'
  operations : ∀ id operation, db'.operationRequests.get? id = some operation →
    db.operationRequests.get? id = some operation ∨ new id
  controls : ∀ jobId, SweepsDeletion db' jobId → SweepsDeletion db jobId ∨ new jobId
  jobs : ∀ (s : SubmittedImport) jobId job, db.jobs.get? jobId = some job →
    job.request = s.job.request → ¬ SweepsDeletion db jobId →
    (∃ job', db'.jobs.get? jobId = some job' ∧ job'.request = s.job.request) ∨
      ∀ id, db'.operationRequests.get? id ≠ some s.operation

section Carried

variable {db db' : Database} {new : String → Prop} {keys : DeletionKeys} {now : ℤ}
  {deletionId receiptId : String} {lease : JobLease}
  {deletionJobId operationId ownerUserId : String} {completed requested : LedgerEvent}

theorem UniqueOperations.shrink (h : UniqueOperations db)
    (hshrinks : Shrinks db.operationRequests db'.operationRequests) : UniqueOperations db' := by
  intro id id' operation operation' hg hg'
  exact h id id' operation operation' (hshrinks _ _ hg) (hshrinks _ _ hg')

theorem SweepsDeletion.of_eq (h : db'.controls = db.controls) {jobId : String}
    (hsw : SweepsDeletion db' jobId) : SweepsDeletion db jobId := by
  rw [SweepsDeletion, h] at hsw
  exact hsw

theorem QuietChange.carries (h : QuietChange db db') : CarriesImports db db' new where
  unique huniq := huniq.shrink h.operations
  operations id operation hg := .inl (h.operations id operation hg)
  controls jobId hsw := by
    obtain ⟨id, control', hg, hj⟩ := hsw
    obtain ⟨control, hold, hsame⟩ := h.controls id control' hg
    exact .inl ⟨id, control, hold, hsame ▸ hj⟩
  jobs s jobId job hg hreq _ := by
    have hk : job.kind = .importing := congrArg JobRequest.kind hreq
    obtain ⟨job', hg', hsame⟩ := h.jobs jobId job hg hk
    exact .inl ⟨job', hg', hsame.trans hreq⟩

/-- A new operation, and a new job at most. -/
theorem carries_of_insert {operation : OperationRequestRecord} (hnew : new operationId)
    (hunb : operationOf db operation.ownerUserId operation.routeId operation.idempotencyKey = none)
    (hops : db'.operationRequests = db.operationRequests.set operationId operation)
    (hjs : ∀ id job, db.jobs.get? id = some job → db'.jobs.get? id = some job)
    (hctls : db'.controls = db.controls) : CarriesImports db db' new where
  unique huniq := huniq.set hunb hops
  operations id row hg := by
    rw [hops] at hg
    rcases Dict.get?_of_set hg with ⟨rfl, -⟩ | ⟨-, hold⟩
    · exact .inr hnew
    · exact .inl hold
  controls jobId hsw := .inl (hsw.of_eq hctls)
  jobs _ jobId job hg hreq _ := .inl ⟨job, hjs jobId job hg, hreq⟩

/-- A job inserted under a new key leaves the others. -/
theorem get?_of_new {jobs : Dict String JobRecord} {jobId : String} {job : JobRecord}
    (hnew : jobs.get? jobId = none) (id : String) (row : JobRecord)
    (hg : jobs.get? id = some row) : (jobs.set jobId job).get? id = some row := by
  rw [Dict.get?_set_of_ne _ _ ?_]
  · exact hg
  · rintro rfl
    rw [hnew] at hg
    cases hg

theorem insertOperation_unbound {operation : OperationRequestRecord}
    (h : insertOperation db operationId operation = .ok db') :
    operationOf db operation.ownerUserId operation.routeId operation.idempotencyKey = none := by
  rw [insertOperation, failIf_bind_eq_ok] at h
  exact Option.not_isSome_iff_eq_none.mp h.1

/-- The rows of a submission are inserted when its key is not bound. -/
theorem insertSubmission_unbound {upload : ImportUpload} {accountGeneration : ℕ}
    {ids : ImportIdentifiers} (h : insertSubmission db upload accountGeneration ids now = .ok db') :
    operationOf db upload.ownerUserId importRoute upload.idempotencyKey = none := by
  simp only [insertSubmission, bind_eq_ok] at h
  obtain ⟨imported, him, stored, hraw, recorded, hop, -⟩ := h
  obtain ⟨-, -, rfl⟩ := insertImport_eq_ok him
  obtain ⟨-, rfl⟩ := insertRaw_eq_ok hraw
  exact insertOperation_unbound hop

theorem CarriesImports.refl (db : Database) : CarriesImports db db new where
  unique h := h
  operations _ _ hg := .inl hg
  controls _ h := .inl h
  jobs _ _ job hg hreq _ := .inl ⟨job, hg, hreq⟩

theorem insertSubmission_carries {s : SubmittedImport} (hnew : new s.ids.operationId)
    (h : insertSubmission db s.upload s.accountGeneration s.ids s.now = .ok db') :
    CarriesImports db db' new := by
  have hunb := insertSubmission_unbound h
  obtain ⟨-, -, hj, auditEvents, rfl⟩ := insertSubmission_eq_ok h
  exact @carries_of_insert _ _ _ _ s.operation hnew hunb rfl (get?_of_new hj) rfl

theorem submitCalculation_carries {request : CalculationRequest}
    {initializeNewJob : JobInitializer} {submission : CalculationSubmission}
    (hfrm : ∀ db db' submission, initializeNewJob db submission = .ok db' →
      db'.operationRequests = db.operationRequests ∧ db'.jobs = db.jobs ∧
        db'.controls = db.controls)
    (hnew : new request.operationId)
    (h : submitCalculation db request initializeNewJob = .ok (submission, db')) :
    CarriesImports db db' new := by
  obtain ⟨routeId, hroute, -⟩ := bind_eq_ok.mp h
  cases hfnd : operationOf db request.ownerUserId routeId request.idempotencyKey with
  | some found =>
    rw [submitCalculation_of_bound hroute hfnd] at h
    cases hrepeat : repeatOperation db found.2 request.operationRequestHash with
    | error e =>
      rw [hrepeat] at h
      cases h
    | ok repeated =>
      rw [hrepeat] at h
      cases h
      exact CarriesImports.refl db
  | none =>
    have hset := submitCalculation_of_unbound hroute hfnd
      (fun _ _ _ hinit => (hfrm _ _ _ hinit).1) h
    have hunb : operationOf db (operationRecord request routeId submission.jobId).ownerUserId
        routeId request.idempotencyKey = none := hfnd
    rcases submitCalculation_eq_ok h with rfl | ⟨_, _, _, _, -, -, ⟨_, rfl⟩ | ⟨_, hj, -, hinit⟩⟩
    · exact CarriesImports.refl _
    · exact carries_of_insert hnew hunb hset (fun _ _ hg => hg) rfl
    · obtain ⟨-, hjs, hctls⟩ := hfrm _ _ _ hinit
      refine carries_of_insert hnew hunb hset ?_ hctls
      rw [hjs]
      exact get?_of_new hj

theorem installSimulatedProfile_carries {request : SimulatedInstallation}
    {result : String × Bool} (hnew : new request.operationId)
    (h : installSimulatedProfile db request = .ok (result, db')) : CarriesImports db db' new := by
  rcases installSimulatedProfile_eq_ok h with rfl | ⟨user, installed, -, -, hinst, hrcd⟩
  · exact CarriesImports.refl _
  · have hunb := insertOperation_unbound hrcd
    obtain ⟨-, rfl⟩ := insertOperation_eq_ok hrcd
    rcases installProfile_eq_ok hinst with ⟨-, rfl⟩ | ⟨-, -, -, -, -, _, _, rfl⟩ <;>
      exact carries_of_insert hnew hunb rfl (fun _ _ hg => hg) rfl

/-- Fenced work keeps its request. -/
theorem fencePrepared_carries {prepared : LedgerEvent} {u : Unit}
    (h : fencePrepared keys db prepared receiptId now = .ok (u, db')) :
    CarriesImports db db' new := by
  obtain ⟨intent, -, -, -, ⟨_, _, -, -, rfl⟩ | ⟨target, user, -, -, -, -, hfcd⟩⟩ :=
    fencePrepared_eq_ok h
  · exact QuietChange.carries ⟨.refl, fun _ control hg => ⟨control, hg, rfl⟩,
      fun _ job hg _ => ⟨job, hg, rfl⟩⟩
  · have hops : db'.operationRequests = db.operationRequests := by rw [hfcd.rest]
    refine ⟨fun huniq => huniq.shrink (.of_eq hops), ?_, ?_, ?_⟩
    · intro id operation hg
      rw [hops] at hg
      exact .inl hg
    · rintro jobId ⟨id, control, hg, hj⟩
      rw [hfcd.controls] at hg
      rcases Dict.get?_of_set hg with ⟨-, rfl⟩ | ⟨-, hold⟩
      · cases hj
      · exact .inl ⟨id, control, hold, hj⟩
    · intro s jobId job hg hreq _
      refine .inl ⟨if fencesJob intent.targetKind target.id intent.ownerUserId job
        then job.fence (intent.targetKind.text ++ "_DELETION") now else job, ?_, ?_⟩
      · rw [hfcd.jobs, fenceDependentWork, Dict.get?_modifyWhere, hg]
        rfl
      · unfold JobRecord.fence
        split
        · split <;> exact hreq
        · exact hreq

/-- The job of a new sweep is a new one. -/
theorem recordRequested_carries {jobId : String} {u : Unit} (hnew : new jobId)
    (h : recordRequested keys db deletionId requested jobId receiptId now = .ok (u, db')) :
    CarriesImports db db' new := by
  obtain ⟨control, target, -, -, -, -, -, ⟨_, -, -, rfl⟩ | ⟨-, hstd⟩⟩ :=
    recordRequested_eq_ok h
  · exact QuietChange.carries ⟨.refl, fun _ control hg => ⟨control, hg, rfl⟩,
      fun _ job hg _ => ⟨job, hg, rfl⟩⟩
  · have hops : db'.operationRequests = db.operationRequests := by rw [hstd.rest]
    refine ⟨fun huniq => huniq.shrink (.of_eq hops), ?_, ?_, ?_⟩
    · intro id operation hg
      rw [hops] at hg
      exact .inl hg
    · rintro id ⟨key, row, hg, hj⟩
      rw [hstd.controls] at hg
      obtain ⟨old, hold, ⟨-, rfl⟩ | ⟨-, rfl⟩⟩ := Dict.get?_of_modify hg
      · cases hj
        exact .inr hnew
      · exact .inl ⟨key, _, hold, hj⟩
    · intro s id job hg hreq _
      obtain ⟨_, _, -, -, hjs⟩ := hstd.jobs
      refine .inl ⟨job, ?_, hreq⟩
      rw [hjs]
      exact get?_of_new hstd.newJob id job hg

/-- A control that moves on keeps its job. -/
theorem sweepsDeletion_of_advanceControl {jobId : String} {phase : ControlPhase}
    (hctls : db'.controls = (advanceControl db deletionId phase now).controls)
    (h : SweepsDeletion db' jobId) : SweepsDeletion db jobId := by
  obtain ⟨id, control, hg, hj⟩ := h
  rw [hctls] at hg
  obtain ⟨old, hold, ⟨-, rfl⟩ | ⟨-, rfl⟩⟩ := Dict.get?_of_modify hg
  · exact ⟨id, old, hold, hj⟩
  · exact ⟨id, _, hold, hj⟩

/-- What a deletion does that removes rows and moves its control on. -/
theorem carries_of_removal
    (hops : Shrinks db.operationRequests db'.operationRequests)
    (hctls : ∀ jobId, SweepsDeletion db' jobId → SweepsDeletion db jobId)
    (hjs : ∀ (s : SubmittedImport) jobId job, db.jobs.get? jobId = some job →
      job.request = s.job.request → ¬ SweepsDeletion db jobId →
      db'.jobs.get? jobId = some job ∨ ∀ id, db'.operationRequests.get? id ≠ some s.operation) :
    CarriesImports db db' new where
  unique huniq := huniq.shrink hops
  operations id operation hg := .inl (hops id operation hg)
  controls jobId hsw := .inl (hctls jobId hsw)
  jobs s jobId job hg hreq hoth := by
    rcases hjs s jobId job hg hreq hoth with hstays | hgone
    · exact .inl ⟨job, hstays, hreq⟩
    · exact .inr hgone

theorem sweepOwnerRows_operation {id : String} {operation : OperationRequestRecord}
    (hg : (sweepOwnerRows db ownerUserId deletionJobId).operationRequests.get? id = some operation)
    : operation.ownerUserId ≠ ownerUserId := by
  unfold sweepOwnerRows at hg
  rw [Dict.get?_deleteWhere, Option.filter_eq_some_iff, Bool.not_eq_true',
    decide_eq_false_iff_not] at hg
  exact hg.2

/-- **The rows of an account go together**: the operations of an owner with the owner's jobs. -/
theorem sweepRows_carries {u : Unit} (h : sweepRows db lease now = .ok (u, db')) :
    CarriesImports db db' new := by
  obtain ⟨scope, receipts, -, rfl⟩ := sweepRows_eq_ok h
  split
  · refine carries_of_removal (Shrinks.deleteWhere _ _)
      (fun _ => sweepsDeletion_of_advanceControl rfl) ?_
    intro s jobId job hg hreq _
    have ho : job.ownerUserId = some s.upload.ownerUserId :=
      congrArg JobRequest.ownerUserId hreq
    rcases (sweepOwnerRows_job hg : _ ∨ _ ≠ lease.jobId ∧ _ = some scope.target.ownerUserId)
      with hstays | ⟨-, hswept⟩
    · exact .inl hstays
    · have hsame : s.upload.ownerUserId = scope.target.ownerUserId :=
        Option.some.inj (ho.symm.trans hswept)
      exact .inr fun id hstays =>
        @sweepOwnerRows_operation db lease.jobId scope.target.ownerUserId id _ hstays hsame
  · exact carries_of_removal .refl
      (fun _ => sweepsDeletion_of_advanceControl rfl) fun _ _ _ hg _ _ => .inl hg

/-- The operations on a deleted import go with it. -/
theorem deleteResourceRows_operation {target : DeletionTarget} {id : String}
    {operation : OperationRequestRecord}
    (hg : (deleteResourceRows db .importing target deletionJobId).operationRequests.get? id
      = some operation) : operation.operationId ≠ target.id := by
  have hkept : (db.operationRequests.deleteWhere fun id _ =>
      id ∈ (resourceGraph db .importing target deletionJobId).operationIds).get? id
        = some operation := hg
  rw [Dict.get?_deleteWhere, Option.filter_eq_some_iff, Bool.not_eq_true',
    decide_eq_false_iff_not] at hkept
  intro hsame
  refine hkept.2 ?_
  unfold resourceGraph
  rw [Dict.mem_keysWhere]
  refine ⟨operation, Dict.get?_eq_some.mp hkept.1, ?_⟩
  simp [hsame]

/-- **The rows of an import go together**, and a profile is deleted without the import job. -/
theorem verifyRows_carries {objectsOrRowsLeft verified : Bool}
    (h : verifyRows db lease objectsOrRowsLeft now = .ok (verified, db')) :
    CarriesImports db db' new := by
  obtain ⟨scope, receipts, -, ⟨-, rfl⟩ | ⟨-, rfl⟩⟩ := verifyRows_eq_ok h
  · exact carries_of_removal .refl
      (fun _ => sweepsDeletion_of_advanceControl rfl) fun _ _ _ hg _ _ => .inl hg
  · split
    · exact carries_of_removal .refl
        (fun _ => sweepsDeletion_of_advanceControl rfl) fun _ _ _ hg _ _ => .inl hg
    · rename_i hk
      refine carries_of_removal (Shrinks.deleteWhere _ _)
        (fun _ => sweepsDeletion_of_advanceControl rfl) ?_
      intro s jobId job hg hreq _
      have him : job.importId = some s.ids.importId := congrArg JobRequest.importId hreq
      have hpf : job.profileVersionId = none := congrArg JobRequest.profileVersionId hreq
      rcases @deleteResourceRows_job _ _ db _ scope.target lease.jobId hk hg
        with hstays | ⟨-, hu⟩
      · exact .inl hstays
      · obtain ⟨-, hsc⟩ := hu
        cases htgt : scope.control.targetKind with
        | account => exact absurd htgt hk
        | importing =>
          refine .inr fun id hstays => ?_
          rw [htgt] at hsc
          exact deleteResourceRows_operation hstays
            (Option.some.inj (him.symm.trans hsc))
        | profile =>
          rw [htgt] at hsc
          cases hpf.symm.trans hsc

theorem sweepsDeletion_of_shrinks (hctls : Shrinks db.controls db'.controls) {jobId : String}
    (h : SweepsDeletion db' jobId) : SweepsDeletion db jobId := by
  obtain ⟨id, control, hg, hj⟩ := h
  exact ⟨id, control, hctls id control hg, hj⟩

theorem removeControl_job {id : String} {job : JobRecord} {deletionJobId : Option String}
    (hg : db.jobs.get? id = some job) (hne : deletionJobId ≠ some id) :
    (removeControl db deletionId deletionJobId).jobs.get? id = some job :=
  get?_deleteWhere_of_not hg (decide_eq_false fun heq => hne heq.symm)

theorem completeSubsumed_carries {requestedId completedId : String} {u : Unit}
    (h : completeSubsumed keys db deletionId requested completed requestedId completedId now
      = .ok (u, db')) : CarriesImports db db' new := by
  obtain rfl | ⟨control, _, _, hctl, -, -, -, rfl⟩ := completeSubsumed_eq_ok h
  · exact CarriesImports.refl _
  · refine carries_of_removal .refl
      (fun _ => sweepsDeletion_of_shrinks (Shrinks.deleteWhere _ _)) ?_
    intro s jobId job hg _ hoth
    exact .inl (removeControl_job hg fun heq => hoth ⟨deletionId, control, hctl, heq⟩)

theorem complete_carries {u : Unit}
    (h : complete keys db lease completed receiptId now = .ok (u, db')) :
    CarriesImports db db' new := by
  obtain ⟨scope, _, _, hsc, -, -, rfl⟩ := complete_eq_ok h
  obtain ⟨hfnd, -⟩ := lockedControl_eq_ok hsc
  obtain ⟨hctl, hjobId⟩ := Dict.first_eq_some_get? hfnd
  refine carries_of_removal (Shrinks.of_eq ?_) (fun _ => sweepsDeletion_of_shrinks ?_) ?_
  · cases scope.control.targetKind <;> rfl
  · cases scope.control.targetKind <;> exact Shrinks.deleteWhere _ _
  · intro s jobId job hg _ hoth
    refine .inl ?_
    rw [deleteTarget_jobs]
    refine removeControl_job hg fun heq => hoth ⟨scope.deletionId, scope.control, hctl, ?_⟩
    rw [← heq]
    exact of_decide_eq_true hjobId

theorem Works.operationRequests (h : Works db db') :
    db'.operationRequests = db.operationRequests := by
  induction h with
  | refl => rfl
  | tail _ hchg ih =>
    obtain ⟨_, _, _, _, hrest⟩ := hchg
    rw [hrest.operationRequests, ih]

/-- A job that is worked on stays, with its request. -/
theorem Works.job (h : Works db db') {id : String} {job : JobRecord}
    (hg : db.jobs.get? id = some job) :
    ∃ job', db'.jobs.get? id = some job' ∧ job'.request = job.request := by
  induction h with
  | refl => exact ⟨job, hg, rfl⟩
  | tail _ hchg ih =>
    obtain ⟨job', hg', hsame⟩ := ih
    obtain @⟨worked, row, f, hworked, hs, hjs, -, -⟩ := hchg
    rw [hjs, Dict.get?_modify]
    by_cases hid : id = worked
    · subst hid
      cases hworked.symm.trans hg'
      rw [if_pos rfl, hworked]
      exact ⟨f job', rfl, hs.request.trans hsame⟩
    · rw [if_neg hid]
      exact ⟨job', hg', hsame⟩

theorem Works.quiet (h : Works db db') (hctls : Shrinks db.controls db'.controls) :
    QuietChange db db' where
  operations := Shrinks.of_eq h.operationRequests
  controls _ control' hg := ⟨control', hctls _ control' hg, rfl⟩
  jobs _ _ hg _ := h.job hg

/-- A confirmation touches neither operations nor jobs. -/
theorem confirm_quiet {importId profileId deletionScopeId attached : String}
    {content : ConfirmedContent}
    (h : confirm db ownerUserId importId content profileId deletionScopeId now
      = .ok (attached, db')) : QuietChange db db' := by
  obtain ⟨record, profiled, -, -, -, hpf, rfl⟩ := confirm_eq_ok h
  obtain ⟨_, -, rfl⟩ | ⟨-, -, -, -, rfl⟩ := confirmProfile_eq_ok hpf <;>
    exact ⟨.refl, fun _ control hg => ⟨control, hg, rfl⟩,
      fun _ job hg _ => ⟨job, hg, rfl⟩⟩

end Carried

/-! ### The invariant -/

/-- What is known of recorded submissions: while the operation is there, it is as it was recorded,
and the import job is there with the request it was recorded with. -/
structure ImportHistorySound (w : ImportHistory) : Prop where
  unique : UniqueOperations w.db
  operations : ∀ id operation, w.db.operationRequests.get? id = some operation → id ∈ w.drawn
  sweeps : ∀ jobId, SweepsDeletion w.db jobId →
    jobId ∈ w.drawn ∧ ∀ s ∈ w.submitted, s.ids.jobId ≠ jobId
  checked : ∀ s ∈ w.submitted, checkUpload s.upload = .ok ()
  drawn : ∀ s ∈ w.submitted, s.ids.operationId ∈ w.drawn ∧ s.ids.jobId ∈ w.drawn
  kept : ∀ s ∈ w.submitted, ∀ operation,
    w.db.operationRequests.get? s.ids.operationId = some operation → operation = s.operation ∧
      ∃ job, w.db.jobs.get? s.ids.jobId = some job ∧ job.request = s.job.request

section Steps

variable {keys : DeletionKeys} {w w' : ImportHistory} {db' : Database}

theorem NoSubmissions.sound (h : NoSubmissions w) : ImportHistorySound w where
  unique := h.unique
  operations := h.operations
  sweeps jobId hsw := by
    obtain ⟨id, control, hg, hj⟩ := hsw
    refine ⟨h.controls id control jobId hg hj, fun s hs => ?_⟩
    simp [h.submitted] at hs
  checked s hs := by simp [h.submitted] at hs
  drawn s hs := by simp [h.submitted] at hs
  kept s hs := by simp [h.submitted] at hs

theorem ImportHistorySound.carry {drawn' : List String} (h : ImportHistorySound w)
    (hdr : w.drawn ⊆ drawn')
    (hcar : CarriesImports w.db db' fun id => id ∉ w.drawn ∧ id ∈ drawn') :
    ImportHistorySound ⟨db', drawn', w.submitted⟩ where
  unique := hcar.unique h.unique
  operations id operation hg := by
    rcases hcar.operations id operation hg with hold | ⟨-, hnew⟩
    · exact hdr (h.operations id operation hold)
    · exact hnew
  sweeps jobId hsw := by
    rcases hcar.controls jobId hsw with hold | ⟨hfr, hnew⟩
    · exact ⟨hdr (h.sweeps jobId hold).1, (h.sweeps jobId hold).2⟩
    · exact ⟨hnew, fun s hs heq => hfr (heq ▸ (h.drawn s hs).2)⟩
  checked := h.checked
  drawn s hs := ⟨hdr (h.drawn s hs).1, hdr (h.drawn s hs).2⟩
  kept s hs operation hg := by
    -- the operation was there before: its identifier is not a new one
    have hold : w.db.operationRequests.get? s.ids.operationId = some operation := by
      rcases hcar.operations _ operation hg with hold | ⟨hfr, -⟩
      · exact hold
      · exact absurd (h.drawn s hs).1 hfr
    obtain ⟨rfl, job, hj, hreq⟩ := h.kept s hs operation hold
    have hnotSwept : ¬ SweepsDeletion w.db s.ids.jobId :=
      fun hsw => (h.sweeps _ hsw).2 s hs rfl
    rcases hcar.jobs s _ job hj hreq hnotSwept with hstays | hgone
    · exact ⟨rfl, hstays⟩
    · exact absurd hg (hgone _)

/-- A transaction that draws nothing. -/
theorem ImportHistorySound.carrySame (h : ImportHistorySound w)
    (hcar : CarriesImports w.db db' fun id => id ∉ w.drawn ∧ id ∈ w.drawn) :
    ImportHistorySound { w with db := db' } :=
  h.carry (List.Subset.refl _) hcar

/-- The rows of a new submission are there. -/
theorem ImportHistorySound.submit {s : SubmittedImport} (h : ImportHistorySound w)
    (hchk : checkUpload s.upload = .ok ()) (hj : s.ids.jobId ∉ w.drawn)
    (hop : s.ids.operationId ∉ w.drawn)
    (hinsd : insertSubmission w.db s.upload s.accountGeneration s.ids s.now = .ok db') :
    ImportHistorySound
      ⟨db', s.ids.jobId :: s.ids.operationId :: w.drawn, s :: w.submitted⟩ := by
  have hsubset : w.drawn ⊆ s.ids.jobId :: s.ids.operationId :: w.drawn :=
    fun _ hmem => mem_cons_of_mem _ (mem_cons_of_mem _ hmem)
  have hcrd := h.carry hsubset
    (insertSubmission_carries ⟨hop, mem_cons_of_mem _ mem_cons_self⟩ hinsd)
  obtain ⟨-, -, -, auditEvents, hdb⟩ := insertSubmission_eq_ok hinsd
  have hctls : db'.controls = w.db.controls := by rw [hdb]
  refine ⟨hcrd.unique, hcrd.operations, ?_, forall_mem_cons.mpr ⟨hchk, h.checked⟩,
    forall_mem_cons.mpr ⟨⟨mem_cons_of_mem _ mem_cons_self, mem_cons_self⟩, hcrd.drawn⟩,
    forall_mem_cons.mpr ⟨?_, hcrd.kept⟩⟩
  · intro jobId hsw
    refine ⟨(hcrd.sweeps jobId hsw).1, forall_mem_cons.mpr ⟨?_, (hcrd.sweeps jobId hsw).2⟩⟩
    rintro rfl
    exact hj (h.sweeps _ (hsw.of_eq hctls)).1
  · intro operation hg
    have hsto : db'.operationRequests.get? s.ids.operationId = some s.operation := by
      rw [hdb]
      exact Dict.get?_set_self _ _ _
    refine ⟨Option.some.inj (hg.symm.trans hsto), s.job, ?_, rfl⟩
    rw [hdb]
    exact Dict.get?_set_self _ _ _

/-- **The import job stays as long as its operation does.** -/
theorem ImportHistoryStep.sound {operation : ImportHistoryOperation} (h : ImportHistorySound w)
    (hs : ImportHistoryStep keys w operation w') : ImportHistorySound w' := by
  cases hs with
  | submit hchk hj hop hsub =>
    exact h.submit hchk hj hop (insertSubmission_of_recordSubmission hsub rfl)
  | calculate hfrm hj hop hsub =>
    refine h.carry (fun _ hmem => mem_cons_of_mem _ (mem_cons_of_mem _ hmem)) ?_
    exact submitCalculation_carries hfrm
      ⟨hop, mem_cons_of_mem _ mem_cons_self⟩ hsub
  | replay hk hj hnew hop hunb hops hjs hctls =>
    refine h.carry (fun _ hmem => mem_cons_of_mem _ (mem_cons_of_mem _ hmem)) ?_
    refine carries_of_insert ⟨hop, mem_cons_of_mem _ mem_cons_self⟩ hunb
      hops ?_ hctls
    rw [hjs]
    exact get?_of_new hnew
  | install hop hinstall =>
    exact h.carry (subset_cons_self _ _)
      (installSimulatedProfile_carries ⟨hop, mem_cons_self⟩ hinstall)
  | fence hf => exact h.carrySame (fencePrepared_carries hf)
  | request hj hreq =>
    exact h.carry (subset_cons_self _ _)
      (recordRequested_carries ⟨hj, mem_cons_self⟩ hreq)
  | sweep hsweep => exact h.carrySame (sweepRows_carries hsweep)
  | verify hverify => exact h.carrySame (verifyRows_carries hverify)
  | subsume hsubsume => exact h.carrySame (completeSubsumed_carries hsubsume)
  | complete hcpl => exact h.carrySame (complete_carries hcpl)
  | other hquiet => exact h.carrySame hquiet.carries

end Steps

/-- **A repeated submission returns what the first one returned exactly when no other job carries
the import**, in every state in which the operation of the submission is there. -/
theorem repeated_import_same_iff {keys : DeletionKeys} {w : ImportHistory} {s : SubmittedImport}
    (h : ReachedBy NoSubmissions (ImportHistoryStep keys) (fun _ _ => True) w)
    (hs : s ∈ w.submitted)
    (hoperation : (w.db.operationRequests.get? s.ids.operationId).isSome = true) :
    ((∃ answer, RepeatAnswers w.db s.upload answer) ∧
        ∀ answer, RepeatAnswers w.db s.upload answer → answer = .ok (s.answer true)) ↔
      ∀ jobId job, w.db.jobs.get? jobId = some job → job.importId = some s.ids.importId →
        jobId = s.ids.jobId := by
  have hsound : ImportHistorySound w :=
    h.invariant (fun _ h => h.sound) fun _ _ _ hs _ hstep => hstep.sound hs
  obtain ⟨operation, hget⟩ := Option.isSome_iff_exists.mp hoperation
  obtain ⟨rfl, job, hjob, hrequest⟩ := hsound.kept s hs operation hget
  have hbound : operationOf w.db s.upload.ownerUserId importRoute s.upload.idempotencyKey
      = some (s.ids.operationId, s.operation) := hsound.unique.operationOf_eq hget
  have himport : job.importId = some s.ids.importId := congrArg JobRequest.importId hrequest
  have hchecked := hsound.checked s hs
  constructor
  · rintro ⟨-, hsame⟩ jobId other hother hcarries
    have hanswer := hsame _ (.repeated hchecked hbound rfl hother hcarries)
    exact congrArg ImportSubmission.jobId (Except.ok.inj hanswer)
  · intro honly
    refine ⟨⟨_, .repeated hchecked hbound rfl hjob himport⟩, fun answer hanswer => ?_⟩
    -- the key is bound to the operation of the submission, which settles the other answers
    cases hanswer with
    | refused hrefused => cases hchecked.symm.trans hrefused
    | reused _ hfound hpayload =>
      cases hbound.symm.trans hfound
      exact absurd rfl hpayload
    | incomplete _ hfound _ hnone =>
      cases hbound.symm.trans hfound
      exact absurd himport (hnone _ job hjob)
    | repeated _ hfound _ hget' hcarries =>
      cases hbound.symm.trans hfound
      rw [honly _ _ hget' hcarries]
      rfl

/-! ### A small history -/

namespace SmallStore

/-- The upload of the small store, submitted when its owner has an account. -/
def submission : SubmittedImport := ⟨upload, 0, importIds, 0⟩

def historyStart : ImportHistory := ⟨registered.db, [], []⟩

def historySubmitted : ImportHistory :=
  ⟨committed historyStart.db (recordSubmission historyStart.db submission.upload
      submission.accountGeneration submission.ids submission.now),
    [jobId, operationId], [submission]⟩

theorem historySubmitted_db : historySubmitted.db = recorded.db := by
  unfold historySubmitted historyStart recorded admitted
  rfl

/-- The scenario of the small store, with identifiers that are not those of the import. -/
def laterRequest : CalculationRequest := { request with
  jobId := "00000000000000000000000000000007"
  operationId := "00000000000000000000000000000008" }

theorem shrinks_of_empty {α : Type} {table table' : Dict String α}
    (h : table'.entries.isEmpty = true) : Shrinks table table' := by
  intro id row hg
  have hmem := Dict.get?_eq_some.mp hg
  rw [List.isEmpty_iff.mp h] at hmem
  cases hmem

theorem historySubmitted_reached : ReachedBy NoSubmissions (ImportHistoryStep keys)
    (fun _ _ => True) historySubmitted := by
  have hops : registered.db.operationRequests.entries.isEmpty = true := by decide +kernel
  have hctls : registered.db.controls.entries.isEmpty = true := by decide +kernel
  have hstart : NoSubmissions historyStart := by
    refine ⟨fun _ _ _ _ hg => ?_, fun _ _ hg => ?_, fun _ _ _ hg => ?_, rfl⟩
    · cases @shrinks_of_empty _ Dict.empty _ hops _ _ hg
    · cases @shrinks_of_empty _ Dict.empty _ hops _ _ hg
    · cases @shrinks_of_empty _ Dict.empty _ hctls _ _ hg
  obtain ⟨⟨_, db'⟩, hok, rfl⟩ : ∃ r, recordSubmission historyStart.db submission.upload
      submission.accountGeneration submission.ids submission.now = .ok r ∧
        r.1 = submission.answer false := by decide +kernel
  have hchk : checkUpload submission.upload = .ok () := by decide +kernel
  have hs : ImportHistoryStep keys historyStart (.submit submission) historySubmitted := by
    rw [historySubmitted, hok]
    exact @ImportHistoryStep.submit keys historyStart submission db' hchk not_mem_nil
      not_mem_nil hok
  exact ReachedBy.snoc ⟨historyStart, hstart, Runs.refl _⟩ trivial hs

/-- The import is processed. -/
theorem draftPublished_works : Works historySubmitted.db draftPublished.db := by
  rw [historySubmitted_db]
  have hlsd : Works recorded.db importLeased.db := by
    dsimp only [importLeased]
    exact leaseNext_works
  have hstd : Works importLeased.db importStarted.db := by
    dsimp only [importStarted, StoreWorld.commit]
    exact start_works
  refine hlsd.trans (hstd.trans ?_)
  dsimp only [draftPublished, StoreWorld.commit]
  refine publishDraft_works ?_
  have hk : (jobOfImport importStarted.db importId).all (·.2.kind = .importing) = true := by
    decide +kernel
  intro jobId job hj _ _ _ _
  rw [hj] at hk
  exact of_decide_eq_true hk

/-- The owner confirms the draft. -/
def confirmation : Transaction String :=
  confirm draftPublished.db owner importId content profileId "10000000000000000000000000000003" 2

theorem historyConfirmed_reached {confirmedId : String} {db' : Database}
    (h : confirmation = .ok (confirmedId, db')) : ReachedBy NoSubmissions (ImportHistoryStep keys)
      (fun _ _ => True) { historySubmitted with db := db' } := by
  have hpubd := historySubmitted_reached.snoc trivial
    (.other (draftPublished_works.quiet (shrinks_of_empty (by decide +kernel))))
  exact hpubd.snoc trivial (.other (confirm_quiet h))

end SmallStore

section

open SmallStore

/-- After the import of the small store was confirmed, a repeated submission still returns what
the first one returned. -/
theorem repeated_import_same_confirmed : ∃ w, ReachedBy NoSubmissions (ImportHistoryStep keys)
    (fun _ _ => True) w ∧ submission ∈ w.submitted ∧
      (∃ imported, w.db.imports.get? importId = some imported ∧ imported.state = .confirmed) ∧
      (∃ answer, RepeatAnswers w.db upload answer) ∧
      ∀ answer, RepeatAnswers w.db upload answer → answer = .ok ⟨importId, jobId, true⟩ := by
  obtain ⟨⟨attached, db'⟩, hconfirm, hconfirmed, hoperation, honly⟩ : ∃ r, confirmation = .ok r ∧
      (∃ imported, r.2.imports.get? importId = some imported ∧ imported.state = .confirmed) ∧
      (r.2.operationRequests.get? importIds.operationId).isSome = true ∧
      ∀ entry ∈ r.2.jobs.entries, entry.1 = jobId := by
    decide +kernel
  have hreached := historyConfirmed_reached hconfirm
  refine ⟨_, hreached, List.mem_cons_self, hconfirmed, ?_⟩
  refine (repeated_import_same_iff hreached List.mem_cons_self hoperation).mpr ?_
  exact fun jobId job hget _ => honly _ (Dict.get?_eq_some.mp hget)

/-- **A repeated submission returns the job of a scenario**: the import was confirmed, and a
scenario submitted on its profile, whose job carries the import too. -/
theorem repeated_import_returns_scenario : ∃ w, ReachedBy NoSubmissions
    (ImportHistoryStep keys) (fun _ _ => True) w ∧
      submission ∈ w.submitted ∧
      (w.db.operationRequests.get? importIds.operationId).isSome = true ∧
      (w.db.jobs.get? laterRequest.jobId).map (·.kind) = some .scenario ∧
      RepeatAnswers w.db upload
        (.ok ⟨importId, laterRequest.jobId, true⟩) ∧
      laterRequest.jobId ≠ jobId := by
  obtain ⟨⟨attached, confirmed⟩, hconfirm, ⟨submission, db'⟩, hsubmit, hoperation,
      ⟨⟨id, existing⟩, hbound, hexisting⟩, job, hjob, hcarries⟩ :
    ∃ r, confirmation = .ok r ∧
      ∃ r', submitCalculation r.2 laterRequest (fun db _ => .ok db) = .ok r' ∧
        (r'.2.operationRequests.get? importIds.operationId).isSome = true ∧
        (∃ found ∈ operationOf r'.2 owner importRoute "import-1",
          found.2.operationId = importId ∧
            found.2.canonicalPayloadHash = upload.payloadHash) ∧
        ∃ job ∈ r'.2.jobs.get? laterRequest.jobId,
          job.kind = .scenario ∧ job.importId = some importId := by
    decide +kernel
  have hjobNew : laterRequest.jobId ∉ historySubmitted.drawn := by decide
  have hoperationNew : laterRequest.operationId ∉ historySubmitted.drawn := by
    decide
  have hcalculated := (historyConfirmed_reached hconfirm).snoc trivial
    (.calculate (by rintro _ _ _ ⟨⟩; exact ⟨rfl, rfl, rfl⟩) hjobNew hoperationNew hsubmit)
  refine ⟨_, hcalculated, List.mem_cons_self, hoperation, ?_, ?_, by decide⟩
  · rw [hjob]
    exact congrArg some hcarries.1
  · rw [← hexisting.1]
    exact .repeated (by decide +kernel) hbound hexisting.2 hjob
      (hcarries.2.trans (congrArg some hexisting.1.symm))

end

end RateReplay
