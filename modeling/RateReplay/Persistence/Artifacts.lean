import RateReplay.Persistence.JobMachine

/-!
# Fenced result publication

The publication of a result under a lease (`artifacts.py`).  The worker's result is inserted by
a callback inside the transaction; the claim that makes a semantic hash the owner's is unique,
and a job whose hash is claimed already completes with the claimed result.

## Main definitions

* `PublishResult` — the callback, which leaves jobs and attempts alone.
* `finalizeOnce`, `resolveSemanticRace` — the two transactions of `finalize`.

## Main results

* `finalizeOnce_eq_ok` — **what a committed publication has done.**
* `finalizeOnce_moves`, `resolveSemanticRace_moves` — both move jobs regularly.
-/

namespace RateReplay

/-- A callback that publishes a result inside the transaction; it has no business with jobs or
their attempts. -/
structure PublishResult where
  run : Database → Except TransactionError Database
  jobs_eq : ∀ db db', run db = .ok db' → db'.jobs = db.jobs
  attempts_eq : ∀ db db', run db = .ok db' → db'.attempts = db.attempts

/-- The arguments of `finalize`, and the identifier drawn for a new claim. -/
structure FinalizeRequest where
  ownerUserId : String
  lease : JobLease
  semanticHash : String
  calculationContractVersion : String
  resultType : String
  resultId : String
  artifactRegistrationIds : List String
  claimId : String
  now : ℤ

structure FinalizedResult where
  claimId : String
  resultType : String
  resultId : String
  acceptedJobId : String
  repeated : Bool
  deriving DecidableEq

/-- `_claim_result`. -/
def claimResult (claimId : String) (claim : JobResultClaimRecord) (repeated : Bool) :
    FinalizedResult :=
  ⟨claimId, claim.resultType, claim.resultId, claim.acceptedJobId, repeated⟩

def artifactError (code message : String) : TransactionError := .raised .artifacts code message

/-- What is refused before any transaction. -/
def checkFinalize (request : FinalizeRequest) : Except TransactionError Unit := do
  failIf (request.semanticHash.length ≠ 64)
    (artifactError "INVALID_SEMANTIC_HASH" "Semantic calculation hash must contain 64 characters")
  failIf (request.calculationContractVersion = "" ∨ 64 < request.calculationContractVersion.length)
    (artifactError "INVALID_CALCULATION_CONTRACT" "Calculation contract version is invalid")
  failIf (request.resultType = "" ∨ 32 < request.resultType.length ∨ request.resultId = ""
      ∨ 32 < request.resultId.length)
    (artifactError "INVALID_RESULT_IDENTITY" "Result identity is invalid")
  failIf (¬ request.artifactRegistrationIds.Nodup)
    (artifactError "DUPLICATE_ARTIFACT_REGISTRATION" "Artifact registrations must be unique")

/-- The job with its result. -/
def JobRecord.completedWith (job : JobRecord) (claim : JobResultClaimRecord) (now : ℤ) :
    JobRecord :=
  { job with
    state := .succeeded
    completedAt := some now
    terminalResultType := some claim.resultType
    terminalResultId := some claim.resultId
    terminalSemanticHash := some claim.semanticHash }

/-- `_complete_job`. -/
def completeJob (db : Database) (job : JobRecord) (lease : JobLease) (claim : JobResultClaimRecord)
    (now : ℤ) : Except TransactionError Database := do
  failIf (¬ db.attempts.has (isAttempt lease.jobId lease.fencingGeneration))
    (artifactError "JOB_ATTEMPT_MISSING" "Current job attempt is unavailable")
  .ok (appendAuditEvent
    ((db.updateJob lease.jobId fun job => job.completedWith claim now).updateAttempt
      lease.jobId lease.fencingGeneration fun attempt =>
        { attempt with state := .succeeded, completedAt := some now })
    job.ownerUserId .jobSucceeded .job lease.jobId lease.fencingGeneration now)

/-- The claim of an owner on a semantic hash, unique by `uq_owner_job_semantic_result`. -/
def claimOf (db : Database) (ownerUserId : String) (kind : JobKind) (semanticHash : String) :
    Option (String × JobResultClaimRecord) :=
  db.claims.first fun _ claim => claim.ownerUserId = ownerUserId && claim.jobKind = kind
    && claim.semanticHash = semanticHash

/-- Insert a claim under its unique constraints. -/
def insertClaim (db : Database) (claimId : String) (claim : JobResultClaimRecord) :
    Except TransactionError Database := do
  failIf (db.claims.has fun _ other => (other.ownerUserId = claim.ownerUserId
      && other.jobKind = claim.jobKind && other.semanticHash = claim.semanticHash)
    || other.acceptedJobId = claim.acceptedJobId) .integrity
  let claims ← insertOrRaise db.claims claimId claim
  .ok { db with claims := claims }

/-- The registrations named by the request. -/
def isRegistration (request : FinalizeRequest) (id : String)
    (_ : ObjectUploadRegistrationRecord) : Bool :=
  id ∈ request.artifactRegistrationIds

/-- The registrations are all there, staged by the current attempt. -/
def checkRegistrations (db : Database) (request : FinalizeRequest) :
    Except TransactionError Unit := do
  let registrations := db.uploads.entries.filter fun e => isRegistration request e.1 e.2
  failIf (registrations.length ≠ request.artifactRegistrationIds.length
      ∨ ∃ e ∈ registrations, e.2.ownerUserId ≠ request.ownerUserId
        ∨ e.2.jobId ≠ request.lease.jobId
        ∨ e.2.fencingGeneration ≠ request.lease.fencingGeneration ∨ e.2.state ≠ .staged)
    (artifactError "ARTIFACT_SET_INVALID"
      "Result artifact set is incomplete or outside the current attempt")

/-- The registrations become part of the result. -/
def acceptRegistrations (db : Database) (request : FinalizeRequest) : Database :=
  { db with
    uploads := db.uploads.modifyWhere (isRegistration request) fun registration =>
      { registration with
        state := .accepted
        acceptedAt := some request.now
        updatedAt := request.now } }

/-- The claim made by a publication. -/
def newClaim (request : FinalizeRequest) (job : JobRecord) : JobResultClaimRecord where
  ownerUserId := request.ownerUserId
  jobKind := job.kind
  semanticHash := request.semanticHash
  calculationContractVersion := request.calculationContractVersion
  resultType := request.resultType
  resultId := request.resultId
  acceptedJobId := request.lease.jobId
  createdAt := request.now

/-- The publication of a result whose hash is not claimed yet. -/
def publishClaim (db : Database) (request : FinalizeRequest) (publish : PublishResult)
    (job : JobRecord) : Except TransactionError (FinalizedResult × Database) := do
  checkRegistrations db request
  let published ← publish.run db
  let claimed ← insertClaim published request.claimId (newClaim request job)
  let completed ← completeJob (acceptRegistrations claimed request) job request.lease
    (newClaim request job) request.now
  .ok (claimResult request.claimId (newClaim request job) false, completed)

/-- The job whose fence the publication needs, with the identity it was submitted under. -/
def publishableJob (db : Database) (request : FinalizeRequest) :
    Except TransactionError JobRecord := do
  match currentFencedJob db request.lease request.now (· = .running) with
  | none =>
    .error (artifactError "STALE_RESULT_ATTEMPT"
      "Result attempt does not hold a live publication fence")
  | some job => do
    failIf (job.ownerUserId ≠ some request.ownerUserId)
      (artifactError "STALE_RESULT_ATTEMPT"
        "Result attempt does not hold a live publication fence")
    failIf ((∃ hash ∈ job.requestedSemanticHash, hash ≠ request.semanticHash)
        ∨ ∃ version ∈ job.calculationContractVersion, version ≠ request.calculationContractVersion)
      (artifactError "RESULT_SEMANTIC_IDENTITY_MISMATCH"
        "Result identity differs from the submitted calculation")
    .ok job

/-- `_finalize_once`. -/
def finalizeOnce (db : Database) (request : FinalizeRequest) (publish : PublishResult) :
    Except TransactionError (FinalizedResult × Database) :=
  match (db.jobs.get? request.lease.jobId).filter (·.state = .succeeded) with
  | some job =>
    -- the job is over: only its own claim is repeated
    match db.claims.first fun _ claim => claim.ownerUserId = request.ownerUserId
        && claim.jobKind = job.kind && claim.semanticHash = request.semanticHash
        && some claim.resultType = job.terminalResultType
        && some claim.resultId = job.terminalResultId with
    | none =>
      .error (artifactError "RESULT_ALREADY_TERMINAL" "Job is already terminal with another result")
    | some (claimId, claim) => .ok (claimResult claimId claim true, db)
  | none => do
    let job ← publishableJob db request
    match claimOf db request.ownerUserId job.kind request.semanticHash with
    | some (claimId, prior) => do
      let completed ← completeJob db job request.lease prior request.now
      .ok (claimResult claimId prior true, completed)
    | none => publishClaim db request publish job

/-- `_resolve_semantic_race`, after a violated constraint. -/
def resolveSemanticRace (db : Database) (request : FinalizeRequest) :
    Except TransactionError (Option FinalizedResult × Database) :=
  match currentFencedJob db request.lease request.now (· = .running),
      claimOf db request.ownerUserId request.lease.kind request.semanticHash with
  | some job, some (claimId, claim) =>
    if job.ownerUserId ≠ some request.ownerUserId then .ok (none, db)
    else do
      let completed ← completeJob db job request.lease claim request.now
      .ok (some (claimResult claimId claim true), completed)
  | _, _ => .ok (none, db)

/-! ### Moves -/

section Moves

variable {db db' : Database} {request : FinalizeRequest} {publish : PublishResult}
  {job : JobRecord} {result : FinalizedResult} {claim : JobResultClaimRecord}

theorem completeJob_eq_ok {lease : JobLease} {now : ℤ} :
    completeJob db job lease claim now = .ok db' ↔
      db.attempts.has (isAttempt lease.jobId lease.fencingGeneration) = true ∧
        db' = appendAuditEvent
          ((db.updateJob lease.jobId fun job => job.completedWith claim now).updateAttempt
            lease.jobId lease.fencingGeneration fun attempt =>
              { attempt with state := .succeeded, completedAt := some now })
          job.ownerUserId .jobSucceeded .job lease.jobId lease.fencingGeneration now := by
  rw [completeJob, failIf_bind_eq_ok, not_not, Except.ok.injEq, eq_comm (a := db')]

theorem completeJob_moves {lease : JobLease} {now : ℤ} (hj : db.jobs.get? lease.jobId = some job)
    (hrun : job.state = .running) (hmat : leaseMatches job lease = true)
    (h : completeJob db job lease claim now = .ok db') : JobMoves JobEffect db db' := by
  obtain ⟨-, rfl⟩ := completeJob_eq_ok.mp h
  refine JobMoves.audit (jobMoves_update hj ?_ ?_)
  · intro a
    rfl
  · rw [← leaseMatches_fencing hmat]
    exact JobEffect.release (held_of_eq (.inr hrun)) rfl ⟨rfl, rfl, rfl⟩ (fun _ => rfl)
      fun _ => rfl

/-- What is known of a job that may be published. -/
theorem publishableJob_eq_ok (h : publishableJob db request = .ok job) :
    currentFencedJob db request.lease request.now (· = .running) = some job ∧
      job.ownerUserId = some request.ownerUserId := by
  unfold publishableJob at h
  split at h
  · cases h
  · rename_i job' hf
    rw [failIf_bind_eq_ok, failIf_bind_eq_ok] at h
    obtain ⟨ho, -, hj⟩ := h
    cases hj
    exact ⟨hf, not_not.mp ho⟩

theorem insertClaim_eq_ok {claimId : String} (h : insertClaim db claimId claim = .ok db') :
    db.claims.get? claimId = none ∧ db' = { db with claims := db.claims.set claimId claim } := by
  rw [insertClaim, failIf_bind_eq_ok] at h
  obtain ⟨-, claims, hins, hdb⟩ := h.imp id bind_eq_ok.mp
  obtain ⟨hnew, rfl⟩ := insertOrRaise_eq_ok.mp hins
  exact ⟨hnew, (Except.ok.inj hdb).symm⟩

/-- What a first publication has done. -/
theorem publishClaim_eq_ok (h : publishClaim db request publish job = .ok (result, db')) :
    ∃ published claimed, publish.run db = .ok published ∧
      insertClaim published request.claimId (newClaim request job) = .ok claimed ∧
      completeJob (acceptRegistrations claimed request) job request.lease (newClaim request job)
        request.now = .ok db' := by
  simp only [publishClaim, bind_eq_ok] at h
  obtain ⟨_, -, published, hpub, claimed, hclm, completed, hcomp, hres⟩ := h
  cases hres
  exact ⟨published, claimed, hpub, hclm, hcomp⟩

/-- **What a committed publication has done**: nothing, when the job had its result; completed
the job with the claimed result, or published the result and completed the job with it. -/
theorem finalizeOnce_eq_ok (h : finalizeOnce db request publish = .ok (result, db')) :
    db' = db ∨ ∃ job, currentFencedJob db request.lease request.now (· = .running) = some job ∧
      job.ownerUserId = some request.ownerUserId ∧
      ((∃ claimId prior,
          claimOf db request.ownerUserId job.kind request.semanticHash = some (claimId, prior) ∧
          completeJob db job request.lease prior request.now = .ok db') ∨
        (claimOf db request.ownerUserId job.kind request.semanticHash = none ∧
          publishClaim db request publish job = .ok (result, db'))) := by
  unfold finalizeOnce at h
  split at h
  · split at h
    · cases h
    · cases h
      exact .inl rfl
  · obtain ⟨job, hj, hrest⟩ := bind_eq_ok.mp h
    obtain ⟨hf, ho⟩ := publishableJob_eq_ok hj
    refine .inr ⟨job, hf, ho, ?_⟩
    split at hrest
    · rename_i claimId prior hprior
      obtain ⟨completed, hcomp, hres⟩ := bind_eq_ok.mp hrest
      cases hres
      exact .inl ⟨claimId, prior, hprior, hcomp⟩
    · rename_i hnone
      exact .inr ⟨hnone, hrest⟩

theorem publishClaim_moves (hf : currentFencedJob db request.lease request.now (· = .running)
    = some job) (h : publishClaim db request publish job = .ok (result, db')) :
    JobMoves JobEffect db db' := by
  obtain ⟨hj, hrun, hmat, -⟩ := currentFencedJob_eq_some.mp hf
  obtain ⟨published, claimed, hpub, hclm, hcomp⟩ := publishClaim_eq_ok h
  obtain ⟨-, rfl⟩ := insertClaim_eq_ok hclm
  have hjs := publish.jobs_eq db published hpub
  have hatt := publish.attempts_eq db published hpub
  have hfrm : JobMoves JobEffect db (acceptRegistrations
      { published with claims := published.claims.set request.claimId (newClaim request job) }
      request) :=
    JobMoves.of_frame hjs hatt
  refine hfrm.trans (completeJob_moves ?_ (of_decide_eq_true hrun) hmat hcomp)
  show published.jobs.get? request.lease.jobId = some job
  rw [hjs]
  exact hj

theorem finalizeOnce_moves :
    JobMoves JobEffect db (committed db (finalizeOnce db request publish)) := by
  refine committed_of (JobMoves.refl db) fun result db' h => ?_
  rcases finalizeOnce_eq_ok h with rfl | ⟨job, hf, -, hcases⟩
  · exact JobMoves.refl _
  · obtain ⟨hj, hrun, hmat, -⟩ := currentFencedJob_eq_some.mp hf
    rcases hcases with ⟨claimId, prior, -, hcomp⟩ | ⟨-, hpub⟩
    · exact completeJob_moves hj (of_decide_eq_true hrun) hmat hcomp
    · exact publishClaim_moves hf hpub

/-- What the resolution of a race has done. -/
theorem resolveSemanticRace_eq_ok {outcome : Option FinalizedResult}
    (h : resolveSemanticRace db request = .ok (outcome, db')) :
    db' = db ∨ ∃ job claim,
      currentFencedJob db request.lease request.now (· = .running) = some job ∧
      completeJob db job request.lease claim request.now = .ok db' := by
  unfold resolveSemanticRace at h
  split at h
  · rename_i job claimId claim hf hclaim
    split at h
    · cases h
      exact .inl rfl
    · obtain ⟨completed, hcomp, hres⟩ := bind_eq_ok.mp h
      cases hres
      exact .inr ⟨job, claim, hf, hcomp⟩
  · cases h
    exact .inl rfl

theorem resolveSemanticRace_moves :
    JobMoves JobEffect db (committed db (resolveSemanticRace db request)) := by
  refine committed_of (JobMoves.refl db) fun outcome db' h => ?_
  rcases resolveSemanticRace_eq_ok h with rfl | ⟨job, claim, hf, hcomp⟩
  · exact JobMoves.refl _
  · obtain ⟨hj, hrun, hmat, -⟩ := currentFencedJob_eq_some.mp hf
    exact completeJob_moves hj (of_decide_eq_true hrun) hmat hcomp

end Moves

end RateReplay
