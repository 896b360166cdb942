import Mathlib.Data.Finset.Basic
import RateReplay.Lib.Runs
import RateReplay.Persistence.Imports

/-!
# Staged artifacts and the objects they are stored in

An attempt stages an artifact in three effects: a transaction registers the key of the object, the
object is stored, and a second transaction marks the registration as staged.  An attempt that has
lost its fence by then removes the object again.  Registrations that no attempt will finish are
collected by a sweeper, which removes their objects.  A submitted import stores its raw object
first and records it afterwards.

Objects are not stored in the transactions that speak of them, and a process may stop between any
two of its effects.  A store or a removal may raise although it is done: the answer of the object
store is lost.

## Main definitions

* `registerUpload`, `settleUpload`, `collectOrphans`, `markDeleted` — the transactions of `stage`,
  `sweep_orphans` and `_delete_registration_object`.
* `ArtifactTask` — what an operation under way does next.
* `ArtifactWorld`, `ArtifactStep` — the store, the objects and the operations under way.

## Main results

* `registerUpload_eq_ok`, `settleUpload_eq_false`, `settleUpload_eq_true` — what the transactions
  of `stage` have done.
* `get?_collectOrphans` — **a collected registration is on its way to deletion; the others stay.**
-/

namespace RateReplay

open Dict

/-! ### Staging -/

/-- `ARTIFACT_LIMITS`. -/
def artifactLimit (artifactClass : String) : Option ℕ :=
  if artifactClass = "REPORT" then some (10 * 1024 * 1024)
  else if artifactClass = "TRACE" then some (50 * 1024 * 1024)
  else none

structure StoredObject where
  contentHash : String
  sizeBytes : ℕ

/-- The arguments of `stage`; the source is known by its hash and its size. -/
structure StageCall where
  ownerUserId : String
  lease : JobLease
  artifactClass : String
  source : StoredObject
  now : ℤ

/-- The identifiers drawn for a registration. -/
structure StageIdentifiers where
  registrationId : String
  uploadIdentifier : String

/-- `owners/{owner_user_id}/jobs/{job.id}/attempts/{fencing_generation}/{class}-{identifier}`. -/
def attemptObjectKey (call : StageCall) (uploadIdentifier : String) : String :=
  "owners/" ++ call.ownerUserId ++ "/jobs/" ++ call.lease.jobId ++ "/attempts/"
    ++ toString call.lease.fencingGeneration ++ "/" ++ call.artifactClass.toLower ++ "-"
    ++ uploadIdentifier

/-- The registration of an attempt and a class, unique by `uq_job_attempt_artifact_class`. -/
def registrationOf (db : Database) (call : StageCall) :
    Option (String × ObjectUploadRegistrationRecord) :=
  db.uploads.first fun _ registration => registration.jobId = call.lease.jobId
    && registration.fencingGeneration = call.lease.fencingGeneration
    && registration.artifactClass = call.artifactClass

def newRegistration (call : StageCall) (uploadIdentifier : String) :
    ObjectUploadRegistrationRecord where
  ownerUserId := call.ownerUserId
  jobId := call.lease.jobId
  attemptNumber := call.lease.attemptNumber
  fencingGeneration := call.lease.fencingGeneration
  artifactClass := call.artifactClass
  objectKey := attemptObjectKey call uploadIdentifier
  uploadIdentifier := uploadIdentifier
  state := .registered
  contentHash := none
  sizeBytes := none
  createdAt := call.now
  updatedAt := call.now
  acceptedAt := none
  deletedAt := none

/-- Insert a registration under its unique constraints. -/
def insertRegistration (db : Database) (registrationId : String)
    (registration : ObjectUploadRegistrationRecord) : Except TransactionError Database := do
  let uploads ← insertUnique db.uploads
    (fun other => other.objectKey = registration.objectKey
      || (other.jobId = registration.jobId
        && other.fencingGeneration = registration.fencingGeneration
        && other.artifactClass = registration.artifactClass)) registrationId registration
  .ok { db with uploads := uploads }

/-- `_register`: a registration that is there is returned in whatever state it is. -/
def registerUpload (db : Database) (call : StageCall) (ids : StageIdentifiers) :
    Except TransactionError ((String × ObjectUploadRegistrationRecord) × Database) :=
  match registrationOf db call with
  | some (id, existing) => do
    failIf (existing.ownerUserId ≠ call.ownerUserId)
      (artifactError "ARTIFACT_NOT_FOUND" "Artifact registration is unavailable")
    .ok ((id, existing), db)
  | none =>
    match currentFencedJob db call.lease call.now (· = .running) with
    | none =>
      .error (artifactError "STALE_ARTIFACT_ATTEMPT"
        "Artifact attempt does not hold a live publication fence")
    | some job => do
      failIf (job.ownerUserId ≠ some call.ownerUserId)
        (artifactError "STALE_ARTIFACT_ATTEMPT"
          "Artifact attempt does not hold a live publication fence")
      let registered ← insertRegistration db ids.registrationId
        (newRegistration call ids.uploadIdentifier)
      .ok ((ids.registrationId, newRegistration call ids.uploadIdentifier), registered)

/-- The attempt may mark its registration as staged. -/
def settleable (db : Database) (call : StageCall) (current : ObjectUploadRegistrationRecord) :
    Bool :=
  current.ownerUserId = call.ownerUserId && current.state = .registered
    && (currentFencedJob db call.lease call.now (· = .running)).any
      (·.ownerUserId = some call.ownerUserId)

/-- The second transaction of `stage`: whether the attempt is stale, and the store. -/
def settleUpload (db : Database) (call : StageCall) (registrationId : String) : Bool × Database :=
  match db.uploads.get? registrationId with
  | none => (true, db)
  | some current =>
    if settleable db call current then
      (false, { db with uploads := db.uploads.modify registrationId fun registration =>
        { registration with
          state := .staged
          contentHash := some call.source.contentHash
          sizeBytes := some call.source.sizeBytes
          updatedAt := call.now } })
    else
      (true, { db with uploads := db.uploads.modify registrationId fun registration =>
        if registration.state = .registered then
          { registration with state := .deletePending, updatedAt := call.now }
        else registration })

/-- The last transaction of `_delete_registration_object`. -/
def markDeleted (db : Database) (registrationId : String) (now : ℤ) : Database :=
  { db with uploads := db.uploads.modify registrationId fun registration =>
      if registration.state = .deletePending then
        { registration with state := .deleted, deletedAt := some now, updatedAt := now }
      else registration }

/-! ### Sweeping -/

/-- No attempt will finish the registration. -/
def orphaned (db : Database) (now : ℤ) (registration : ObjectUploadRegistrationRecord) : Bool :=
  registration.state = .deletePending
    || match db.jobs.get? registration.jobId with
      | none => true
      | some job => job.fencingGeneration ≠ registration.fencingGeneration
          || job.state.terminal || job.leaseExpiresAt.any (· ≤ now)

/-- The sweeper takes the registration. -/
def collected (db : Database) (now olderThan : ℤ) (registration : ObjectUploadRegistrationRecord) :
    Bool :=
  (registration.state = .registered || registration.state = .staged
      || registration.state = .deletePending)
    && registration.updatedAt ≤ olderThan && orphaned db now registration

/-- The transaction of `sweep_orphans`: what is to be removed, and the store. -/
def collectOrphans (db : Database) (now olderThan : ℤ) : List (String × String) × Database :=
  ((db.uploads.entries.filter fun e => collected db now olderThan e.2).map
      fun e => (e.1, e.2.objectKey),
    { db with
      uploads := db.uploads.modifyWhere
        (fun _ registration => collected db now olderThan registration)
        fun registration => { registration with state := .deletePending, updatedAt := now } })

/-! ### Operations under way -/

/-- What an operation under way does next. -/
inductive ArtifactTask
  /-- `stage` stores the object of its registration. -/
  | store (call : StageCall) (registrationId objectKey : String)
  /-- `stage` has stored it. -/
  | settle (call : StageCall) (registrationId objectKey : String)
  /-- `_delete_registration_object` removes the object. -/
  | remove (registrationId objectKey : String) (now : ℤ)
  /-- The object has been removed. -/
  | mark (registrationId objectKey : String) (now : ℤ)
  /-- `finalize` has violated a constraint. -/
  | resolve (request : FinalizeRequest)
  /-- `ImportService.submit` stores the raw object. -/
  | upload (upload : ImportUpload) (accountGeneration : ℕ) (ids : ImportIdentifiers) (now : ℤ)
  /-- It has stored it. -/
  | record (upload : ImportUpload) (accountGeneration : ℕ) (ids : ImportIdentifiers) (now : ℤ)
  /-- It removes the object of a repeated or failed submission.  In the `try` block, as for a
  repeated one, a removal that raises is followed by another. -/
  | discard (objectKey : String) (guarded : Bool)

/-- A result that `finalize` has returned. -/
structure Publication where
  request : FinalizeRequest
  result : FinalizedResult

structure ArtifactWorld where
  db : Database
  /-- The keys of the stored objects. -/
  objects : Finset String
  /-- The operations under way. -/
  tasks : List ArtifactTask
  publications : List Publication

/-- Another transaction: it leaves claims, registrations and raw objects alone, and a job that has
succeeded keeps its result. -/
structure OtherWork (db db' : Database) : Prop where
  claims : db'.claims = db.claims
  uploads : db'.uploads = db.uploads
  rawObjects : db'.rawObjects = db.rawObjects
  jobs : ∀ id job, db.jobs.get? id = some job → job.state = .succeeded →
    ∃ job', db'.jobs.get? id = some job' ∧ job'.state = .succeeded ∧ job'.kind = job.kind ∧
      job'.terminalResultType = job.terminalResultType ∧
      job'.terminalResultId = job.terminalResultId

/-- A callback that has no business with claims, registrations and raw objects. -/
structure PublishResult.Confined (publish : PublishResult) : Prop where
  claims : ∀ db db', publish.run db = .ok db' → db'.claims = db.claims
  uploads : ∀ db db', publish.run db = .ok db' → db'.uploads = db.uploads
  rawObjects : ∀ db db', publish.run db = .ok db' → db'.rawObjects = db.rawObjects

inductive ArtifactOperation
  | stage (call : StageCall)
  | sweep (now olderThan : ℤ)
  | finalize (request : FinalizeRequest) (publish : PublishResult)
  | submit (upload : ImportUpload)
  /-- An operation takes its next effect. -/
  | advance (task : ArtifactTask)
  /-- The object store raises in the next effect of an operation, done or not. -/
  | raise (task : ArtifactTask) (done : Bool)
  /-- The process of an operation stops. -/
  | crash (task : ArtifactTask)
  | other

/-- One effect of an operation, or a crash. -/
inductive ArtifactStep (w : ArtifactWorld) : ArtifactOperation → ArtifactWorld → Prop
  | register {call : StageCall} {ids limit id} {registration : ObjectUploadRegistrationRecord} {db'}
      (hlimit : artifactLimit call.artifactClass = some limit)
      (h : registerUpload w.db call ids = .ok ((id, registration), db'))
      (hstate : registration.state = .registered) :
      ArtifactStep w (.stage call)
        { w with db := db', tasks := .store call id registration.objectKey :: w.tasks }
  | store {call : StageCall} {id key} {front back : List ArtifactTask} {limit}
      (htask : w.tasks = front ++ .store call id key :: back)
      (hlimit : artifactLimit call.artifactClass = some limit)
      (hsize : call.source.sizeBytes ≤ limit) :
      ArtifactStep w (.advance (.store call id key)) { w with
        objects := insert key w.objects
        tasks := front ++ .settle call id key :: back }
  /-- `put_file` raises, and `stage` with it. -/
  | storeRaises {call id key} {front back : List ArtifactTask} {done}
      (htask : w.tasks = front ++ .store call id key :: back) :
      ArtifactStep w (.raise (.store call id key) done) { w with
        objects := bif done then insert key w.objects else w.objects
        tasks := front ++ back }
  | settle {call id key} {front back : List ArtifactTask} {db'}
      (htask : w.tasks = front ++ .settle call id key :: back)
      (h : settleUpload w.db call id = (false, db')) :
      ArtifactStep w (.advance (.settle call id key))
        { w with db := db', tasks := front ++ back }
  | settleStale {call : StageCall} {id key} {front back : List ArtifactTask} {db'}
      (htask : w.tasks = front ++ .settle call id key :: back)
      (h : settleUpload w.db call id = (true, db')) :
      ArtifactStep w (.advance (.settle call id key))
        { w with db := db', tasks := front ++ .remove id key call.now :: back }
  | remove {id key now} {front back : List ArtifactTask}
      (htask : w.tasks = front ++ .remove id key now :: back) :
      ArtifactStep w (.advance (.remove id key now)) { w with
        objects := w.objects.erase key
        tasks := front ++ .mark id key now :: back }
  /-- `delete` raises.  The removals that a sweep has not begun stop with it. -/
  | removeRaises {id key now} {front back : List ArtifactTask} {done}
      (htask : w.tasks = front ++ .remove id key now :: back) :
      ArtifactStep w (.raise (.remove id key now) done) { w with
        objects := bif done then w.objects.erase key else w.objects
        tasks := front ++ back }
  | mark {id key now} {front back : List ArtifactTask}
      (htask : w.tasks = front ++ .mark id key now :: back) :
      ArtifactStep w (.advance (.mark id key now))
        { w with db := markDeleted w.db id now, tasks := front ++ back }
  | sweep {now olderThan} {orphans : List (String × String)} {db'}
      (h : collectOrphans w.db now olderThan = (orphans, db')) :
      ArtifactStep w (.sweep now olderThan) { w with
        db := db'
        tasks := orphans.map (fun orphan => .remove orphan.1 orphan.2 now) ++ w.tasks }
  | finalize {request publish result db'} (hconfined : publish.Confined)
      (hchecked : checkFinalize request = .ok ())
      (h : finalizeOnce w.db request publish = .ok (result, db')) :
      ArtifactStep w (.finalize request publish)
        { w with db := db', publications := ⟨request, result⟩ :: w.publications }
  /-- The transaction violates a constraint, or loses a race, and is rolled back. -/
  | conflict {request publish} (hchecked : checkFinalize request = .ok ()) :
      ArtifactStep w (.finalize request publish) { w with tasks := .resolve request :: w.tasks }
  | resolve {request} {front back : List ArtifactTask} {result db'}
      (htask : w.tasks = front ++ .resolve request :: back)
      (h : resolveSemanticRace w.db request = .ok (some result, db')) :
      ArtifactStep w (.advance (.resolve request)) { w with
        db := db'
        tasks := front ++ back
        publications := ⟨request, result⟩ :: w.publications }
  /-- The race is not resolved: `RESULT_PUBLICATION_CONFLICT`. -/
  | unresolved {request} {front back : List ArtifactTask}
      (htask : w.tasks = front ++ .resolve request :: back) :
      ArtifactStep w (.advance (.resolve request)) { w with tasks := front ++ back }
  | submit {upload accountGeneration ids now} (hchecked : checkUpload upload = .ok ())
      (h : admitSubmission w.db upload = .ok (.inr accountGeneration)) :
      ArtifactStep w (.submit upload)
        { w with tasks := .upload upload accountGeneration ids now :: w.tasks }
  | upload {upload : ImportUpload} {accountGeneration} {ids : ImportIdentifiers} {now}
      {front back : List ArtifactTask}
      (htask : w.tasks = front ++ .upload upload accountGeneration ids now :: back) :
      ArtifactStep w (.advance (.upload upload accountGeneration ids now)) { w with
        objects := insert (rawObjectKey upload.ownerUserId ids.importId) w.objects
        tasks := front ++ .record upload accountGeneration ids now :: back }
  /-- `put_file` raises, or has stored another content, and the key is deleted. -/
  | uploadRaises {upload : ImportUpload} {accountGeneration} {ids : ImportIdentifiers} {now}
      {front back : List ArtifactTask} {done}
      (htask : w.tasks = front ++ .upload upload accountGeneration ids now :: back) :
      ArtifactStep w (.raise (.upload upload accountGeneration ids now) done) { w with
        objects := bif done then insert (rawObjectKey upload.ownerUserId ids.importId) w.objects
          else w.objects
        tasks := front ++ .discard (rawObjectKey upload.ownerUserId ids.importId) false :: back }
  | record {upload accountGeneration ids now} {front back : List ArtifactTask}
      {submission : ImportSubmission} {db'}
      (htask : w.tasks = front ++ .record upload accountGeneration ids now :: back)
      (h : recordSubmission w.db upload accountGeneration ids now = .ok (submission, db'))
      (hfirst : submission.repeated = false) :
      ArtifactStep w (.advance (.record upload accountGeneration ids now))
        { w with db := db', tasks := front ++ back }
  /-- The submission is a repeated one, or it raises. -/
  | recordFails {upload : ImportUpload} {accountGeneration} {ids : ImportIdentifiers} {now}
      {front back : List ArtifactTask} {repeated}
      (htask : w.tasks = front ++ .record upload accountGeneration ids now :: back) :
      ArtifactStep w (.advance (.record upload accountGeneration ids now)) { w with
        tasks := front ++ .discard (rawObjectKey upload.ownerUserId ids.importId) repeated :: back }
  | discard {key guarded} {front back : List ArtifactTask}
      (htask : w.tasks = front ++ .discard key guarded :: back) :
      ArtifactStep w (.advance (.discard key guarded))
        { w with objects := w.objects.erase key, tasks := front ++ back }
  | discardRaises {key guarded done} {front back : List ArtifactTask}
      (htask : w.tasks = front ++ .discard key guarded :: back) :
      ArtifactStep w (.raise (.discard key guarded) done) { w with
        objects := bif done then w.objects.erase key else w.objects
        tasks := front ++ (bif guarded then .discard key false :: back else back) }
  | crash {task} {front back : List ArtifactTask} (htask : w.tasks = front ++ task :: back) :
      ArtifactStep w (.crash task) { w with tasks := front ++ back }
  | other {db'} (h : OtherWork w.db db') :
      ArtifactStep w .other { w with db := db' }

/-- No two claims of an owner are for one kind and one hash (`uq_owner_job_semantic_result`). -/
def UniqueClaims (db : Database) : Prop :=
  ∀ id id' claim claim', db.claims.get? id = some claim → db.claims.get? id' = some claim' →
    claim.ownerUserId = claim'.ownerUserId → claim.jobKind = claim'.jobKind →
    claim.semanticHash = claim'.semanticHash → id = id'

/-- No object is stored, nothing is under way, and nothing has been returned. -/
structure NoArtifacts (w : ArtifactWorld) : Prop where
  claims : UniqueClaims w.db
  objects : w.objects = ∅
  tasks : w.tasks = []
  publications : w.publications = []

/-! ### What the transactions have done -/

section Inversion

variable {db db' : Database} {call : StageCall} {id : String}
  {registration : ObjectUploadRegistrationRecord} {now : ℤ} {ids : StageIdentifiers} {olderThan : ℤ}

theorem insertRegistration_eq_ok (h : insertRegistration db id registration = .ok db') :
    db.uploads.get? id = none ∧ db' = { db with uploads := db.uploads.set id registration } := by
  obtain ⟨uploads, hins, hdb⟩ := bind_eq_ok.mp h
  obtain ⟨-, hnew, rfl⟩ := insertUnique_eq_ok.mp hins
  exact ⟨hnew, (Except.ok.inj hdb).symm⟩

/-- **What a registration has found and done.** -/
theorem registerUpload_eq_ok (h : registerUpload db call ids = .ok ((id, registration), db')) :
    (db.uploads.get? id = some registration ∧ db' = db) ∨
      (db.uploads.get? id = none ∧ registration = newRegistration call ids.uploadIdentifier ∧
        db' = { db with uploads := db.uploads.set id registration }) := by
  unfold registerUpload at h
  split at h
  · rename_i existingId existing hex
    rw [failIf_bind_eq_ok] at h
    cases h.2
    exact .inl ⟨(first_eq_some_get? hex).1, rfl⟩
  · split at h
    · cases h
    · rw [failIf_bind_eq_ok] at h
      obtain ⟨registered, hreg, hres⟩ := bind_eq_ok.mp h.2
      obtain ⟨hnew, rfl⟩ := insertRegistration_eq_ok hreg
      cases hres
      exact .inr ⟨hnew, rfl, rfl⟩

/-- A registration moves towards a result, or stays. -/
structure Advances (registration registration' : ObjectUploadRegistrationRecord) : Prop where
  objectKey : registration'.objectKey = registration.objectKey
  state : registration'.state = registration.state ∨ registration'.state = .accepted ∨
    registration.state = .registered ∧ registration'.state = .staged

/-- Every registration does. -/
def UploadsAdvance (db db' : Database) : Prop :=
  ∀ id registration, db.uploads.get? id = some registration →
    ∃ registration', db'.uploads.get? id = some registration' ∧
      Advances registration registration'

theorem Advances.refl (registration : ObjectUploadRegistrationRecord) :
    Advances registration registration := ⟨rfl, .inl rfl⟩

theorem UploadsAdvance.of_eq (h : db'.uploads = db.uploads) :
    UploadsAdvance db db' := by
  intro key registration hg
  rw [h]
  exact ⟨registration, hg, Advances.refl registration⟩

theorem registerUpload_advance (h : registerUpload db call ids = .ok ((id, registration), db')) :
    UploadsAdvance db db' := by
  obtain ⟨-, rfl⟩ | ⟨hnew, -, rfl⟩ := registerUpload_eq_ok h
  · exact .of_eq rfl
  · intro key old hg
    have hne : key ≠ id := by
      rintro rfl
      cases hnew.symm.trans hg
    exact ⟨old, (get?_set_of_ne _ _ hne).trans hg, Advances.refl old⟩

/-- A registration that was found or made is there, with its key. -/
theorem registerUpload_stored (h : registerUpload db call ids = .ok ((id, registration), db')) :
    db'.uploads.get? id = some registration := by
  obtain ⟨hfnd, rfl⟩ | ⟨-, -, rfl⟩ := registerUpload_eq_ok h
  · exact hfnd
  · exact get?_set_self _ _ _

/-- What an attempt has done that was not stale. -/
theorem settleUpload_eq_false (h : settleUpload db call id = (false, db')) :
    ∃ current, db.uploads.get? id = some current ∧ current.state = .registered ∧
      db' = { db with uploads := db.uploads.modify id fun registration =>
        { registration with
          state := .staged
          contentHash := some call.source.contentHash
          sizeBytes := some call.source.sizeBytes
          updatedAt := call.now } } := by
  unfold settleUpload at h
  split at h
  · cases h
  · rename_i current hcur
    split at h
    · rename_i hsettleable
      cases h
      rw [settleable, Bool.and_eq_true, Bool.and_eq_true, decide_eq_true_eq,
        decide_eq_true_eq] at hsettleable
      exact ⟨current, hcur, hsettleable.1.2, rfl⟩
    · cases h

/-- What a stale attempt has done: a registration that nobody settled is to be deleted. -/
theorem settleUpload_eq_true (h : settleUpload db call id = (true, db')) :
    db' = db ∨
      db' = { db with uploads := db.uploads.modify id fun registration =>
        if registration.state = .registered then
          { registration with state := .deletePending, updatedAt := call.now }
        else registration } := by
  unfold settleUpload at h
  split at h
  · cases h
    exact .inl rfl
  · split at h
    · cases h
    · cases h
      exact .inr rfl

theorem settleUpload_advance (h : settleUpload db call id = (false, db')) :
    UploadsAdvance db db' := by
  obtain ⟨current, hcur, hst, rfl⟩ := settleUpload_eq_false h
  intro key registration hg
  by_cases hkey : key = id
  · subst hkey
    cases hcur.symm.trans hg
    rw [get?_modify_self, hg, Option.map_some]
    exact ⟨_, rfl, rfl, .inr (.inr ⟨hst, rfl⟩)⟩
  · exact ⟨registration, (get?_modify_of_ne _ _ hkey).trans hg, Advances.refl registration⟩

/-- A registration that is not collected stays; the others are on their way to deletion. -/
theorem get?_collectOrphans {orphans : List (String × String)}
    (h : collectOrphans db now olderThan = (orphans, db'))
    (hg : db.uploads.get? id = some registration) :
    (collected db now olderThan registration = false ∧ db'.uploads.get? id = some registration) ∨
      (collected db now olderThan registration = true ∧ (id, registration.objectKey) ∈ orphans ∧
        db'.uploads.get? id
          = some { registration with state := .deletePending, updatedAt := now }) := by
  cases h
  rw [get?_modifyWhere, hg, Option.map_some]
  cases hcol : collected db now olderThan registration with
  | false => exact .inl ⟨rfl, rfl⟩
  | true =>
    refine .inr ⟨rfl, List.mem_map.mpr ⟨(id, registration), ?_, rfl⟩, rfl⟩
    exact List.mem_filter.mpr ⟨get?_eq_some.mp hg, hcol⟩

/-- What is to be removed was registered under its key. -/
theorem mem_collectOrphans {orphans : List (String × String)} {key : String}
    (h : collectOrphans db now olderThan = (orphans, db')) (hmem : (id, key) ∈ orphans) :
    ∃ registration, db.uploads.get? id = some registration ∧ registration.objectKey = key := by
  cases h
  obtain ⟨⟨id', registration⟩, hfiltered, heq⟩ := List.mem_map.mp hmem
  cases heq
  exact ⟨registration, get?_eq_some.mpr (List.mem_filter.mp hfiltered).1, rfl⟩

/-- A registration that is accepted is never collected. -/
theorem collected_ne_accepted (h : collected db now olderThan registration = true) :
    registration.state ≠ .accepted := by
  intro hacp
  rw [collected, hacp] at h
  simp at h

theorem completeJob_tables {job : JobRecord} {lease : JobLease} {claim : JobResultClaimRecord}
    (h : completeJob db job lease claim now = .ok db') :
    db'.claims = db.claims ∧ db'.uploads = db.uploads ∧ db'.rawObjects = db.rawObjects := by
  obtain ⟨-, rfl⟩ := completeJob_eq_ok.mp h
  exact ⟨rfl, rfl, rfl⟩

/-- A publication accepts registrations, and leaves raw objects alone. -/
theorem finalizeOnce_advance {request : FinalizeRequest} {publish : PublishResult}
    {result : FinalizedResult} (hconf : publish.Confined)
    (h : finalizeOnce db request publish = .ok (result, db')) :
    UploadsAdvance db db' ∧ db'.rawObjects = db.rawObjects := by
  rcases finalizeOnce_eq_ok h with rfl | ⟨job, -, -, ⟨_, prior, -, hcomp⟩ | ⟨-, hpbl⟩⟩
  · exact ⟨.of_eq rfl, rfl⟩
  · obtain ⟨-, hups, hraw⟩ := completeJob_tables hcomp
    exact ⟨.of_eq hups, hraw⟩
  · obtain ⟨published, claimed, hrun, hclm, hcomp⟩ := publishClaim_eq_ok hpbl
    obtain ⟨-, rfl⟩ := insertClaim_eq_ok hclm
    obtain ⟨-, hups, hraw⟩ := completeJob_tables hcomp
    refine ⟨?_, hraw.trans (hconf.rawObjects db published hrun)⟩
    intro key registration hg
    have hpub : published.uploads.get? key = some registration := by
      rw [hconf.uploads db published hrun]
      exact hg
    rw [hups, acceptRegistrations, get?_modifyWhere, hpub, Option.map_some]
    refine ⟨_, rfl, ?_⟩
    split
    · exact ⟨rfl, .inr (.inl rfl)⟩
    · exact Advances.refl registration

theorem resolveSemanticRace_tables {request : FinalizeRequest} {outcome : Option FinalizedResult}
    (h : resolveSemanticRace db request = .ok (outcome, db')) :
    db'.claims = db.claims ∧ db'.uploads = db.uploads ∧ db'.rawObjects = db.rawObjects := by
  rcases resolveSemanticRace_eq_ok h with rfl | ⟨job, claim, -, hcomp⟩
  · exact ⟨rfl, rfl, rfl⟩
  · exact completeJob_tables hcomp

end Inversion

end RateReplay
