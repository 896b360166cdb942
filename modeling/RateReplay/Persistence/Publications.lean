import RateReplay.Persistence.ScenarioRuns
import RateReplay.Persistence.Staging

/-!
# Exactly one result per calculation

Workers that compute the same calculation race to publish it.  The first to commit makes the claim
on the semantic hash; the others complete their jobs with the claimed result, whether they find the
claim or run into its constraint.  The sweeper of orphaned artifacts runs beside them.

## Main definitions

* `PublicationHolds` — the job of a returned result carries the result of the claim.
* `PublicationFrame` — what a transaction leaves of claims and results.
* `Loses` — the attempt would have left the same with any other result to publish.

## Main results

* `finalizeOnce_published`, `resolveSemanticRace_published` — **what `finalize` leaves behind.**
* `ArtifactStep.publications` — claims stay unique, and results stay in place.
* `ArtifactStep.accepted` — an accepted registration stays accepted.
* `publication_exactly_once` — **the calculation has one result, and losers leave no trace.**
-/

namespace RateReplay

open Dict

/-! ### Claims and results -/

/-- The job of a returned result carries the result of the claim on its hash. -/
def PublicationHolds (db : Database) (p : Publication) : Prop :=
  ∃ job claim, db.jobs.get? p.request.lease.jobId = some job ∧ job.state = .succeeded ∧
    db.claims.get? p.result.claimId = some claim ∧
    claim.ownerUserId = p.request.ownerUserId ∧ claim.jobKind = job.kind ∧
    claim.semanticHash = p.request.semanticHash ∧
    job.terminalResultType = some claim.resultType ∧ job.terminalResultId = some claim.resultId

/-- A job that has succeeded keeps its result. -/
def ResultsKept (db db' : Database) : Prop :=
  ∀ id job, db.jobs.get? id = some job → job.state = .succeeded →
    ∃ job', db'.jobs.get? id = some job' ∧ job'.state = .succeeded ∧ job'.kind = job.kind ∧
      job'.terminalResultType = job.terminalResultType ∧
      job'.terminalResultId = job.terminalResultId

/-- Claims stay unique and are not taken back, and results are kept. -/
structure PublicationFrame (db db' : Database) : Prop where
  unique : UniqueClaims db → UniqueClaims db'
  claims : ∀ id claim, db.claims.get? id = some claim → db'.claims.get? id = some claim
  results : ResultsKept db db'

section Frames

variable {db db' : Database} {request : FinalizeRequest} {publish : PublishResult}
  {result : FinalizedResult} {job : JobRecord} {lease : JobLease}
  {claim : JobResultClaimRecord} {claimId : String} {now : ℤ}

theorem UniqueClaims.of_eq (h : db'.claims = db.claims) (huniq : UniqueClaims db) :
    UniqueClaims db' := by
  rw [UniqueClaims, h]
  exact huniq

theorem ResultsKept.of_eq (h : db'.jobs = db.jobs) : ResultsKept db db' := by
  intro id job hg hst
  rw [h]
  exact ⟨job, hg, hst, rfl, rfl, rfl⟩

theorem PublicationFrame.of_claims (h : db'.claims = db.claims) (hress : ResultsKept db db') :
    PublicationFrame db db' := by
  refine ⟨UniqueClaims.of_eq h, ?_, hress⟩
  intro id claim hg
  rw [h]
  exact hg

theorem PublicationFrame.of_eq (hclaims : db'.claims = db.claims) (hjs : db'.jobs = db.jobs) :
    PublicationFrame db db' :=
  .of_claims hclaims (.of_eq hjs)

theorem PublicationHolds.frame {p : Publication} (h : PublicationHolds db p)
    (hfrm : PublicationFrame db db') : PublicationHolds db' p := by
  obtain ⟨job, claim, hj, hst, hclaim, ho, hk, hhash, htype, hid⟩ := h
  obtain ⟨job', hj', hst', hk', htype', hid'⟩ := hfrm.results _ job hj hst
  exact ⟨job', claim, hj', hst', hfrm.claims _ claim hclaim, ho,
    hk.trans hk'.symm, hhash, htype'.trans htype, hid'.trans hid⟩

/-! ### Publishing -/

/-- The job of a lease has its result. -/
theorem completeJob_job (hg : db.jobs.get? lease.jobId = some job)
    (h : completeJob db job lease claim now = .ok db') :
    db'.jobs.get? lease.jobId = some (job.completedWith claim now) := by
  obtain ⟨-, rfl⟩ := completeJob_eq_ok.mp h
  show (db.jobs.modify lease.jobId _).get? lease.jobId = _
  rw [get?_modify_self, hg]
  rfl

/-- Only a running job is completed. -/
theorem completeJob_results (hg : db.jobs.get? lease.jobId = some job)
    (hrun : job.state = .running) (h : completeJob db job lease claim now = .ok db') :
    ResultsKept db db' := by
  obtain ⟨-, rfl⟩ := completeJob_eq_ok.mp h
  intro id other hoth hst
  have hne : id ≠ lease.jobId := by
    rintro rfl
    cases hg.symm.trans hoth
    rw [hrun] at hst
    cases hst
  exact ⟨other, (get?_modify_of_ne _ _ hne).trans hoth, hst, rfl, rfl, rfl⟩

/-- What is known of the job of a live fence. -/
theorem running_of_currentFencedJob
    (h : currentFencedJob db lease now (· = .running) = some job) :
    db.jobs.get? lease.jobId = some job ∧ job.state = .running ∧ job.kind = lease.kind := by
  obtain ⟨hg, hrun, hmat, -⟩ := currentFencedJob_eq_some.mp h
  refine ⟨hg, of_decide_eq_true hrun, ?_⟩
  simp only [leaseMatches, Bool.and_eq_true, decide_eq_true_eq] at hmat
  exact hmat.1.1.1.2

theorem claimOf_eq_some {ownerUserId semanticHash : String} {kind : JobKind}
    (h : claimOf db ownerUserId kind semanticHash = some (claimId, claim)) :
    db.claims.get? claimId = some claim ∧ claim.ownerUserId = ownerUserId ∧
      claim.jobKind = kind ∧ claim.semanticHash = semanticHash := by
  obtain ⟨hg, hmat⟩ := first_eq_some_get? h
  rw [Bool.and_eq_true, Bool.and_eq_true, decide_eq_true_eq, decide_eq_true_eq,
    decide_eq_true_eq] at hmat
  exact ⟨hg, hmat.1.1, hmat.1.2, hmat.2⟩

/-- **A job is completed with the result of a claim.** -/
theorem publicationHolds_of_completeJob {repeated : Bool}
    (hg : db.jobs.get? request.lease.jobId = some job)
    (hclaim : db.claims.get? claimId = some claim)
    (ho : claim.ownerUserId = request.ownerUserId) (hk : claim.jobKind = job.kind)
    (hhash : claim.semanticHash = request.semanticHash)
    (h : completeJob db job request.lease claim now = .ok db') :
    PublicationHolds db' ⟨request, claimResult claimId claim repeated⟩ := by
  refine ⟨job.completedWith claim now, claim, completeJob_job hg h, rfl, ?_, ho, hk,
    hhash, rfl, rfl⟩
  rw [(completeJob_tables h).1]
  exact hclaim

/-- A claim is inserted only where the owner has none on the hash. -/
theorem insertClaim_frame (h : insertClaim db claimId claim = .ok db') :
    PublicationFrame db db' := by
  have hfree : (db.claims.has fun _ other => (other.ownerUserId = claim.ownerUserId
      && other.jobKind = claim.jobKind && other.semanticHash = claim.semanticHash)
      || other.acceptedJobId = claim.acceptedJobId) = false := by
    rw [insertClaim, failIf_bind_eq_ok] at h
    exact Bool.eq_false_of_not_eq_true h.1
  have hoth : ∀ id other, db.claims.get? id = some other →
      other.ownerUserId = claim.ownerUserId → other.jobKind = claim.jobKind →
      other.semanticHash ≠ claim.semanticHash := by
    intro id other hg ho hk hhash
    have hmatch := has_eq_false.mp hfree id other (get?_eq_some.mp hg)
    simp [ho, hk, hhash] at hmatch
  obtain ⟨hnew, rfl⟩ := insertClaim_eq_ok h
  refine ⟨?_, ?_, .of_eq rfl⟩
  · intro huniq id₁ id₂ claim₁ claim₂ h₁ h₂ ho hk hhash
    rcases get?_of_set h₁ with ⟨rfl, rfl⟩ | ⟨-, hold₁⟩ <;>
      rcases get?_of_set h₂ with ⟨rfl, rfl⟩ | ⟨-, hold₂⟩
    · rfl
    · exact absurd hhash.symm (hoth _ _ hold₂ ho.symm hk.symm)
    · exact absurd hhash (hoth _ _ hold₁ ho hk)
    · exact huniq _ _ _ _ hold₁ hold₂ ho hk hhash
  · intro id old hg
    have hne : id ≠ claimId := by
      rintro rfl
      cases hnew.symm.trans hg
    exact (get?_set_of_ne _ _ hne).trans hg

theorem PublicationFrame.trans {db'' : Database} (h₁ : PublicationFrame db db')
    (h₂ : PublicationFrame db' db'') : PublicationFrame db db'' := by
  refine ⟨fun huniq => h₂.unique (h₁.unique huniq),
    fun id claim hg => h₂.claims id claim (h₁.claims id claim hg), ?_⟩
  intro id job hg hst
  obtain ⟨job', hg', hst', hk', htype', hid'⟩ := h₁.results id job hg hst
  obtain ⟨job'', hg'', hst'', hk'', htype'', hid''⟩ := h₂.results id job' hg' hst'
  exact ⟨job'', hg'', hst'', hk''.trans hk', htype''.trans htype', hid''.trans hid'⟩

/-- What a first publication leaves behind. -/
theorem publishClaim_published (hconf : publish.Confined)
    (hg : db.jobs.get? request.lease.jobId = some job) (hrunning : job.state = .running)
    (h : publishClaim db request publish job = .ok (result, db')) :
    PublicationFrame db db' ∧ PublicationHolds db' ⟨request, result⟩ := by
  simp only [publishClaim, bind_eq_ok] at h
  obtain ⟨_, -, published, hrun, claimed, hclm, completed, hcomp, hres⟩ := h
  cases hres
  have hjs : (acceptRegistrations claimed request).jobs = db.jobs := by
    obtain ⟨-, rfl⟩ := insertClaim_eq_ok hclm
    exact publish.jobs_eq db published hrun
  have hclaim : (acceptRegistrations claimed request).claims.get? request.claimId
      = some (newClaim request job) := by
    obtain ⟨-, rfl⟩ := insertClaim_eq_ok hclm
    exact get?_set_self _ _ _
  rw [← hjs] at hg
  -- the callback, the claim, the registrations, the job
  have hcallback : PublicationFrame db published :=
    .of_eq (hconf.claims db published hrun) (publish.jobs_eq db published hrun)
  have haccept : PublicationFrame claimed (acceptRegistrations claimed request) :=
    .of_eq rfl rfl
  have hcpl : PublicationFrame (acceptRegistrations claimed request) db' :=
    .of_claims (completeJob_tables hcomp).1 (completeJob_results hg hrunning hcomp)
  exact ⟨((hcallback.trans (insertClaim_frame hclm)).trans haccept).trans hcpl,
    publicationHolds_of_completeJob hg hclaim rfl rfl rfl hcomp⟩

/-- **What `_finalize_once` leaves behind**, for the winner and for those who find the claim. -/
theorem finalizeOnce_published (hconf : publish.Confined)
    (h : finalizeOnce db request publish = .ok (result, db')) :
    PublicationFrame db db' ∧ PublicationHolds db' ⟨request, result⟩ := by
  unfold finalizeOnce at h
  split at h
  · rename_i job hj
    obtain ⟨hg, hst⟩ := Option.filter_eq_some_iff.mp hj
    split at h
    · cases h
    · rename_i claimId claim hclaim
      cases h
      obtain ⟨hsto, hmat⟩ := first_eq_some_get? hclaim
      simp only [Bool.and_eq_true, decide_eq_true_eq] at hmat
      obtain ⟨⟨⟨⟨ho, hk⟩, hhash⟩, htype⟩, hid⟩ := hmat
      exact ⟨.of_eq rfl rfl, job, claim, hg, of_decide_eq_true hst, hsto, ho, hk,
        hhash, htype.symm, hid.symm⟩
  · obtain ⟨job, hj, h⟩ := bind_eq_ok.mp h
    obtain ⟨hg, hrun, -⟩ := running_of_currentFencedJob (publishableJob_eq_ok hj).1
    split at h
    · rename_i claimId prior hprior
      obtain ⟨completed, hcomp, hres⟩ := bind_eq_ok.mp h
      cases hres
      obtain ⟨hsto, ho, hk, hhash⟩ := claimOf_eq_some hprior
      exact ⟨.of_claims (completeJob_tables hcomp).1
          (completeJob_results hg hrun hcomp),
        publicationHolds_of_completeJob hg hsto ho hk hhash hcomp⟩
    · exact publishClaim_published hconf hg hrun h

/-- **What `_resolve_semantic_race` leaves behind.** -/
theorem resolveSemanticRace_published
    (h : resolveSemanticRace db request = .ok (some result, db')) :
    PublicationFrame db db' ∧ PublicationHolds db' ⟨request, result⟩ := by
  unfold resolveSemanticRace at h
  split at h
  · rename_i job claimId claim hf hclaim
    obtain ⟨hg, hrun, hk⟩ := running_of_currentFencedJob hf
    obtain ⟨hsto, ho, hclaimKind, hhash⟩ := claimOf_eq_some hclaim
    split at h
    · cases h
    · obtain ⟨completed, hcomp, hres⟩ := bind_eq_ok.mp h
      cases hres
      -- the claim is looked up by the kind of the lease, which is the kind of the job
      exact ⟨.of_claims (completeJob_tables hcomp).1
          (completeJob_results hg hrun hcomp),
        publicationHolds_of_completeJob hg hsto ho (hclaimKind.trans hk.symm) hhash
          hcomp⟩
  · cases h

/-- **An attempt that loses leaves nothing of its own result**: whatever its callback would have
done, it returns the same and leaves the same store. -/
theorem finalizeOnce_repeated (h : finalizeOnce db request publish = .ok (result, db'))
    (hrep : result.repeated = true) (other : PublishResult) :
    finalizeOnce db request other = .ok (result, db') := by
  unfold finalizeOnce at h ⊢
  cases hj : (db.jobs.get? request.lease.jobId).filter (·.state = .succeeded) with
  | some job =>
    rw [hj] at h
    exact h
  | none =>
    rw [hj] at h
    obtain ⟨job, hpubl, h⟩ := bind_eq_ok.mp h
    dsimp only
    rw [hpubl, ok_bind]
    cases hclaim : claimOf db request.ownerUserId job.kind request.semanticHash with
    | some prior =>
      rw [hclaim] at h
      exact h
    | none =>
      -- the winner's own result is not a repeated one
      rw [hclaim] at h
      simp only [publishClaim, bind_eq_ok] at h
      obtain ⟨_, -, _, -, _, -, _, -, hres⟩ := h
      cases hres
      cases hrep

/-- A submission inserts a job of its own. -/
theorem recordSubmission_frame {upload : ImportUpload} {accountGeneration : ℕ}
    {ids : ImportIdentifiers} {submission : ImportSubmission}
    (h : recordSubmission db upload accountGeneration ids now = .ok (submission, db')) :
    PublicationFrame db db' := by
  rcases recordSubmission_eq_ok h with hins | rfl
  · obtain ⟨-, -, hnew, auditEvents, rfl⟩ := insertSubmission_eq_ok hins
    refine .of_claims rfl ?_
    intro id job hg hst
    have hne : id ≠ ids.jobId := by
      rintro rfl
      cases hnew.symm.trans hg
    exact ⟨job, (get?_set_of_ne _ _ hne).trans hg, hst, rfl, rfl, rfl⟩
  · exact .of_eq rfl rfl

end Frames

/-! ### Accepted registrations -/

/-- The registration has been accepted. -/
def Accepted (db : Database) (id : String) : Prop :=
  ∃ registration, db.uploads.get? id = some registration ∧ registration.state = .accepted

section AcceptedRegistrations

variable {db db' : Database} {id : String} {key : String}

theorem UploadsAdvance.accepted (h : UploadsAdvance db db') (hacp : Accepted db id) :
    Accepted db' id := by
  obtain ⟨registration, hg, hst⟩ := hacp
  obtain ⟨registration', hg', -, hsame | hnow | ⟨hreg, -⟩⟩ := h id registration hg
  · exact ⟨registration', hg', hsame.trans hst⟩
  · exact ⟨registration', hg', hnow⟩
  · rw [hst] at hreg
    cases hreg

/-- A change of one registration that leaves accepted ones as they are. -/
theorem accepted_modify {f : ObjectUploadRegistrationRecord → ObjectUploadRegistrationRecord}
    (hf : ∀ registration, registration.state = .accepted → f registration = registration)
    (hacp : Accepted db id) :
    Accepted { db with uploads := db.uploads.modify key f } id := by
  obtain ⟨registration, hg, hst⟩ := hacp
  refine ⟨registration, ?_, hst⟩
  show (db.uploads.modify key f).get? id = some registration
  by_cases hkey : id = key
  · subst hkey
    rw [get?_modify_self, hg, Option.map_some, hf registration hst]
  · exact (get?_modify_of_ne _ _ hkey).trans hg

theorem settleUpload_accepted {call : StageCall} (h : settleUpload db call key = (true, db'))
    (hacp : Accepted db id) :
    Accepted db' id := by
  rcases settleUpload_eq_true h with rfl | rfl
  · exact hacp
  · refine accepted_modify (fun registration hst => if_neg ?_) hacp
    rw [hst]
    decide

theorem markDeleted_accepted {now : ℤ} (hacp : Accepted db id) :
    Accepted (markDeleted db key now) id := by
  refine accepted_modify (fun registration hst => if_neg ?_) hacp
  rw [hst]
  decide

theorem collectOrphans_accepted {now olderThan : ℤ} {orphans : List (String × String)}
    (h : collectOrphans db now olderThan = (orphans, db')) (hacp : Accepted db id) :
    Accepted db' id := by
  obtain ⟨registration, hg, hst⟩ := hacp
  rcases get?_collectOrphans h hg with ⟨-, hg'⟩ | ⟨hcol, -⟩
  · exact ⟨registration, hg', hst⟩
  · exact absurd hst (collected_ne_accepted hcol)

end AcceptedRegistrations

/-! ### Runs -/

/-- The attempt would have left the same with any other result to publish. -/
def Loses (w : ArtifactWorld) (request : FinalizeRequest) (w' : ArtifactWorld) : Prop :=
  ∀ publish : PublishResult, publish.Confined → ArtifactStep w (.finalize request publish) w'

/-- Claims are unique, and every result that was returned is in place. -/
structure PublicationsSound (w : ArtifactWorld) : Prop where
  unique : UniqueClaims w.db
  holds : ∀ p ∈ w.publications, PublicationHolds w.db p

section Steps

variable {w w' : ArtifactWorld} {operation : ArtifactOperation}

theorem PublicationsSound.frame (h : PublicationsSound w) (hfrm : PublicationFrame w.db w'.db)
    (hpublications : w'.publications = w.publications) : PublicationsSound w' := by
  refine ⟨hfrm.unique h.unique, ?_⟩
  intro p hp
  rw [hpublications] at hp
  exact (h.holds p hp).frame hfrm

theorem PublicationsSound.publish (h : PublicationsSound w) {p : Publication}
    (hpub : PublicationFrame w.db w'.db ∧ PublicationHolds w'.db p)
    (hpublications : w'.publications = p :: w.publications) : PublicationsSound w' := by
  refine ⟨hpub.1.unique h.unique, ?_⟩
  intro q hq
  rw [hpublications] at hq
  rcases List.mem_cons.mp hq with rfl | hold
  · exact hpub.2
  · exact (h.holds q hold).frame hpub.1

/-- **Every step keeps claims unique and results in place.** -/
theorem ArtifactStep.publications (hs : ArtifactStep w operation w')
    (h : PublicationsSound w) : PublicationsSound w' := by
  cases hs with
  | register hlimit hrgt hst =>
    refine h.frame ?_ rfl
    obtain ⟨-, rfl⟩ | ⟨-, -, rfl⟩ := registerUpload_eq_ok hrgt
    · exact .of_eq rfl rfl
    · exact .of_eq rfl rfl
  | settle htask hsettle =>
    obtain ⟨_, -, -, rfl⟩ := settleUpload_eq_false hsettle
    exact h.frame (.of_eq rfl rfl) rfl
  | settleStale htask hsettle =>
    refine h.frame ?_ rfl
    rcases settleUpload_eq_true hsettle with rfl | rfl
    · exact .of_eq rfl rfl
    · exact .of_eq rfl rfl
  | sweep hsweep =>
    cases hsweep
    exact h.frame (.of_eq rfl rfl) rfl
  | finalize hconf hchk hfinalize =>
    exact h.publish (finalizeOnce_published hconf hfinalize) rfl
  | resolve htask hrsv => exact h.publish (resolveSemanticRace_published hrsv) rfl
  | record htask hrec hfst => exact h.frame (recordSubmission_frame hrec) rfl
  | other hoth => exact h.frame (.of_claims hoth.claims hoth.jobs) rfl
  | _ => exact h.frame (.of_eq rfl rfl) rfl

/-- **An accepted registration stays accepted.** -/
theorem ArtifactStep.accepted {id : String} (hs : ArtifactStep w operation w')
    (h : Accepted w.db id) : Accepted w'.db id := by
  cases hs with
  | register hlimit hrgt hst => exact (registerUpload_advance hrgt).accepted h
  | settle htask hsettle => exact (settleUpload_advance hsettle).accepted h
  | settleStale htask hsettle => exact settleUpload_accepted hsettle h
  | mark htask => exact markDeleted_accepted h
  | sweep hsweep => exact collectOrphans_accepted hsweep h
  | finalize hconf hchk hfinalize =>
    exact (finalizeOnce_advance hconf hfinalize).1.accepted h
  | resolve htask hrsv =>
    exact (UploadsAdvance.of_eq (resolveSemanticRace_tables hrsv).2.1).accepted h
  | record htask hrec hfst =>
    refine (UploadsAdvance.of_eq ?_).accepted h
    rcases recordSubmission_eq_ok hrec with hins | rfl
    · obtain ⟨-, -, -, auditEvents, rfl⟩ := insertSubmission_eq_ok hins
      rfl
    · rfl
  | other hoth => exact (UploadsAdvance.of_eq hoth.uploads).accepted h
  | _ => exact h

/-- An attempt returns a result of its own, or it loses. -/
theorem ArtifactStep.loses {request : FinalizeRequest} {publish : PublishResult}
    (hs : ArtifactStep w (.finalize request publish) w') :
    (∃ result, result.repeated = false ∧ w'.publications = ⟨request, result⟩ :: w.publications) ∨
      Loses w request w' := by
  cases hs with
  | @finalize _ _ result _ hconf hchk hfinalize =>
    cases hrep : result.repeated with
    | false => exact .inl ⟨result, hrep, rfl⟩
    | true =>
      exact .inr fun other hoth =>
        .finalize hoth hchk (finalizeOnce_repeated hfinalize hrep other)
  | conflict hchk => exact .inr fun _ _ => .conflict hchk

end Steps

/-- **A calculation is published exactly once**, over any interleaving of attempts that stage and
publish artifacts with the sweeper.  In every state reached, an owner has at most one claim on a
kind and a hash; every result that was returned is the claimed one, and its job carries it; an
attempt that does not return a result of its own would have left the same with any other result to
publish; and accepted registrations stay accepted from there on. -/
theorem publication_exactly_once {w : ArtifactWorld}
    (h : ReachedBy NoArtifacts ArtifactStep (fun _ _ => True) w) :
    UniqueClaims w.db ∧
      (∀ p ∈ w.publications, PublicationHolds w.db p) ∧
      (∀ request publish w', ArtifactStep w (.finalize request publish) w' →
        (∃ result, result.repeated = false ∧
          w'.publications = ⟨request, result⟩ :: w.publications) ∨ Loses w request w') ∧
      ∀ id w', Accepted w.db id → Runs ArtifactStep (fun _ _ => True) w w' →
        Accepted w'.db id := by
  have hsound : PublicationsSound w := by
    refine ReachedBy.invariant ?_ (fun s _ t hs _ hstep => hstep.publications hs) h
    intro s hinit
    refine ⟨hinit.claims, ?_⟩
    rw [hinit.publications]
    intro p hp
    cases hp
  refine ⟨hsound.unique, hsound.holds, fun _ _ _ hstep => hstep.loses, ?_⟩
  intro id w' haccepted hrun
  exact Runs.keeps (I := fun s => Accepted s.db id) (fun s _ t hs _ hstep => hstep.accepted hs)
    hrun haccepted

/-! ### A race -/

theorem publishScenario_confined (publication : ScenarioPublication) :
    (publishScenario publication).Confined := by
  refine ⟨?_, ?_, ?_⟩ <;>
  · intro db db' h
    obtain ⟨_, -, -, -, -, -, -, _, rfl⟩ := publishScenarioRows_eq_ok h
    rfl

namespace SmallStore

/-- Two workers compute the same scenario at the same time. -/
def racing : ArtifactWorld where
  db := (runMarked
    ⟨(runMarked twiceSubmitted "20000000000000000000000000000001" firstPublication).db, Dict.empty⟩
    "20000000000000000000000000000002" secondPublication).db
  objects := ∅
  tasks := []
  publications := []

def winner : FinalizeRequest :=
  firstPublication.request (leaseOn firstPublication.jobId) "40000000000000000000000000000001"

def loser : FinalizeRequest :=
  secondPublication.request (leaseOn secondPublication.jobId) "40000000000000000000000000000002"

/-- The first worker commits. -/
def raceWon : Database :=
  committed racing.db (finalizeOnce racing.db winner (publishScenario firstPublication))

/-- The second runs into the claim and resolves the race. -/
def raceResolved : Database := committed raceWon (resolveSemanticRace raceWon loser)

/-- The result both have returned, as a repeated one or not. -/
def raceResult (repeated : Bool) : FinalizedResult :=
  claimResult "40000000000000000000000000000001"
    (newClaim winner (calculationJob request user profile imported)) repeated

def raced : ArtifactWorld where
  db := raceResolved
  objects := ∅
  tasks := []
  publications := [⟨loser, raceResult true⟩, ⟨winner, raceResult false⟩]

theorem raceWon_eq : finalizeOnce racing.db winner (publishScenario firstPublication)
    = .ok (raceResult false, raceWon) := by
  obtain ⟨⟨_, db⟩, hok, rfl⟩ : ∃ r, finalizeOnce racing.db winner (publishScenario firstPublication)
      = .ok r ∧ r.1 = raceResult false := by decide +kernel
  rw [raceWon, hok]
  rfl

theorem raceResolved_eq : resolveSemanticRace raceWon loser
    = .ok (some (raceResult true), raceResolved) := by
  obtain ⟨⟨_, db⟩, hok, rfl⟩ : ∃ r, resolveSemanticRace raceWon loser = .ok r ∧
      r.1 = some (raceResult true) := by decide +kernel
  rw [raceResolved, hok]
  rfl

theorem racing_unclaimed : racing.db.claims.entries = [] := by decide +kernel

theorem racing_noArtifacts : NoArtifacts racing := by
  refine ⟨?_, rfl, rfl, rfl⟩
  intro id id' claim claim' hg
  have hmem := get?_eq_some.mp hg
  rw [racing_unclaimed] at hmem
  cases hmem

theorem raced_reached : ReachedBy NoArtifacts ArtifactStep (fun _ _ => True) raced := by
  have hracing : ReachedBy NoArtifacts ArtifactStep (fun _ _ => True) racing :=
    ⟨racing, racing_noArtifacts, Runs.refl _⟩
  have hwon := hracing.snoc trivial
    (.finalize (publishScenario_confined firstPublication) (by decide +kernel) raceWon_eq)
  have hlost := hwon.snoc trivial
    (@ArtifactStep.conflict _ loser (publishScenario secondPublication) (by decide +kernel))
  exact hlost.snoc trivial (@ArtifactStep.resolve _ _ [] [] _ _ rfl raceResolved_eq)

end SmallStore

section

open SmallStore

/-- Two workers race: the second runs into the claim of the first and returns its result. -/
theorem publication_exactly_once_raced :
    ReachedBy NoArtifacts ArtifactStep (fun _ _ => True) raced ∧
      UniqueClaims raced.db ∧
      PublicationHolds raced.db ⟨loser, raceResult true⟩ := by
  have hall := publication_exactly_once raced_reached
  exact ⟨raced_reached, hall.1, hall.2.1 _ List.mem_cons_self⟩

end

end RateReplay
