import RateReplay.Persistence.SweepJobs

/-!
# Queued jobs under deletion fences

A fence cancels the queued jobs of its target and requests the cancellation of those that are
held.  A held job may be queued again when its attempt fails or its lease expires, and the queue
hands out no job whose cancellation is requested; such a job would wait for ever.

It does not come to that.  A job is queued again only while its scope is valid, and a job reached
by a fence needs a target that is not active any more.  The one job that works on a target that is
not active is the one that sweeps it, and it comes in after the only fence of that target.

## Main definitions

* `Barred` — a target that the job needs is not active.
* `FairStep`, `ServedFairly` — what a transaction may do to a job it finds.
* `FencingStep` — deletions, the job service, and everything that submits or finishes jobs.
* `Queueable` — the invariant.

## Main results

* `scopeValid_of_barred` — **the scope of a barred job is not valid.**
* `QueueService.fair` — **a transaction of the job service queues no job again outside its scope.**
* `FencingStep.queueable` — **every transaction keeps the invariant.**
* `queued_not_cancelled` — **no queued job has its cancellation requested.**
-/

namespace RateReplay

open Dict

/-! ### Barred jobs -/

/-- The account, the import or the profile a job is for. -/
def JobRequest.scopeId (request : JobRequest) : TargetKind → Option String
  | .account => request.ownerUserId
  | .importing => request.importId
  | .profile => request.profileVersionId

/-- The job sweeps a target of this kind. -/
def JobRequest.SweepsKind (request : JobRequest) (kind : TargetKind) : Prop :=
  request.kind = .deletion ∧ request.requestSchemaVersion = deletionSchema kind

/-- A target that the job is for, and does not sweep, is not active. -/
def Barred (db : Database) (request : JobRequest) : Prop :=
  ∃ kind id, request.scopeId kind = some id ∧ ¬ request.SweepsKind kind ∧ ¬ ActiveTarget db kind id

/-- The target that a job sweeps is not active. -/
def SweepsFenced (db : Database) (request : JobRequest) : Prop :=
  ∀ kind id, request.SweepsKind kind → request.scopeId kind = some id → ¬ ActiveTarget db kind id

section Scopes

variable {db db' : Database} {job : JobRecord} {kind : TargetKind} {id : String}
  {request : JobRequest}

/-- A deletion works on active targets, its own one apart. -/
theorem DeletionScope.active (h : DeletionScope job (job.ownerUserId.bind db.users.get?)
      (job.importId.bind db.imports.get?) (job.profileVersionId.bind db.profiles.get?))
    (hid : job.request.scopeId kind = some id)
    (hoth : job.requestSchemaVersion ≠ deletionSchema kind) : ActiveTarget db kind id := by
  cases kind with
  | account =>
    have ho : job.ownerUserId = some id := hid
    cases h with
    | account hschema => exact absurd hschema hoth
    | importing _ huser _ hst =>
      rw [ho] at huser
      exact ⟨_, huser, hst⟩
    | profile _ huser _ hst =>
      rw [ho] at huser
      exact ⟨_, huser, hst⟩
  | importing =>
    have himId : job.importId = some id := hid
    cases h with
    | account _ _ _ _ him =>
      rw [himId] at him
      cases him
    | importing hschema => exact absurd hschema hoth
    | profile _ _ _ _ him _ hact =>
      rw [himId] at him
      exact ⟨_, him, hact⟩
  | profile =>
    have hpfId : job.profileVersionId = some id := hid
    cases h with
    | account _ _ _ _ _ hpf =>
      rw [hpfId] at hpf
      cases hpf
    | importing _ _ _ _ _ _ _ _ hpf =>
      rw [hpfId] at hpf
      cases hpf
    | profile hschema => exact absurd hschema hoth

/-- Any other job works on active targets only. -/
theorem scopeIsValid_active (hk : job.kind ≠ .deletion) (hv : scopeValid db job = true)
    (hid : job.request.scopeId kind = some id) : ActiveTarget db kind id := by
  unfold scopeValid scopeIsValid at hv
  rw [if_neg hk] at hv
  split at hv
  · cases hv
  · split at hv
    · -- a job of the system is for no target
      simp only [Bool.and_eq_true, decide_eq_true_eq] at hv
      obtain ⟨⟨⟨⟨⟨ho, him⟩, hpf⟩, -⟩, -⟩, -⟩ := hv
      cases kind with
      | account => exact absurd (ho.symm.trans hid) (by simp)
      | importing => exact absurd (him.symm.trans hid) (by simp)
      | profile => exact absurd (hpf.symm.trans hid) (by simp)
    · rename_i hsystem
      split at hv
      · cases hv
      · rename_i user huser
        simp only [Bool.and_eq_true, decide_eq_true_eq] at hv
        obtain ⟨⟨⟨-, hst⟩, him⟩, hpf⟩ := hv
        cases kind with
        | account =>
          have ho : job.ownerUserId = some id := hid
          rw [ho] at huser
          refine ⟨user, huser, ?_⟩
          rw [hst, if_pos]
          cases hj : job.kind with
          | retention => exact absurd (by rw [hj]; rfl) hsystem
          | deletion => exact absurd hj hk
          | importing | replay | comparison | scenario | report => rfl
        | importing =>
          have himId : job.importId = some id := hid
          unfold importScopeIsValid at him
          rw [himId] at him
          split at him
          · split at him
            · cases him
            · rename_i record hrec
              simp only [Bool.and_eq_true, decide_eq_true_eq] at him
              exact ⟨record, hrec, him.1.2⟩
          · simp at him
        | profile =>
          have hpfId : job.profileVersionId = some id := hid
          unfold profileScopeIsValid at hpf
          rw [hpfId] at hpf
          split at hpf
          · split at hpf
            · cases hpf
            · rename_i row hrow
              simp only [Bool.and_eq_true, decide_eq_true_eq] at hpf
              exact ⟨row, hrow, hpf.1.2⟩
          · simp at hpf

/-- **The scope of a barred job is not valid.** -/
theorem scopeValid_of_barred (h : Barred db job.request) : scopeValid db job = false := by
  obtain ⟨kind, id, hid, hoth, hfcd⟩ := h
  rw [Bool.eq_false_iff]
  intro hv
  by_cases hk : job.kind = .deletion
  · obtain ⟨-, hsc⟩ := (scopeValid_iff hk).mp hv
    exact hfcd (hsc.active hid fun hschema => hoth ⟨hk, hschema⟩)
  · exact hfcd (scopeIsValid_active hk hv hid)

/-- Nothing that a job is for becomes active. -/
theorem Barred.mono (h : Barred db request)
    (hstay : ∀ kind id, request.scopeId kind = some id → ActiveTarget db' kind id →
      ActiveTarget db kind id) : Barred db' request := by
  obtain ⟨kind, id, hid, hoth, hfcd⟩ := h
  exact ⟨kind, id, hid, hoth, fun hact => hfcd (hstay kind id hid hact)⟩

theorem SweepsFenced.mono (h : SweepsFenced db request)
    (hstay : ∀ kind id, request.scopeId kind = some id → ActiveTarget db' kind id →
      ActiveTarget db kind id) : SweepsFenced db' request :=
  fun kind id hsw hid hact => h kind id hsw hid (hstay kind id hid hact)

theorem sweepsFenced_of_kind (h : request.kind ≠ .deletion) :
    SweepsFenced db request := fun _ _ hsw => absurd hsw.1 h

end Scopes

/-! ### What may become of a job -/

/-- A job keeps its request, ends for good, and is queued again within its scope only; its
cancellation is requested when it is ended or barred. -/
structure FairStep (db db' : Database) (job job' : JobRecord) : Prop where
  request : job'.request = job.request
  terminal : job.state.terminal = true → job'.state.terminal = true
  cancelled : job'.cancelRequested = true → job'.state.terminal = false →
    job.cancelRequested = true ∨ Barred db' job'.request
  queued : job'.state = .queued → job'.cancelRequested = true →
    job.cancelRequested = true ∧ (job.state = .queued ∨ scopeValid db job = true)

/-- So it is with every job that is left. -/
def ServedFairly (db db' : Database) : Prop :=
  ∀ id job', db'.jobs.get? id = some job' →
    ∃ job, db.jobs.get? id = some job ∧ FairStep db db' job job'

section Fair

variable {db db' db'' : Database} {job job' : JobRecord} {id : String} {lease : JobLease} {now : ℤ}

theorem FairStep.refl (db db' : Database) (job : JobRecord) : FairStep db db' job job :=
  ⟨rfl, id, fun hcan _ => .inl hcan, fun hq hcan => ⟨hcan, .inl hq⟩⟩

/-- The job is ended. -/
theorem FairStep.ended (hreq : job'.request = job.request)
    (hst : job'.state.terminal = true) : FairStep db db' job job' := by
  refine ⟨hreq, fun _ => hst, fun _ hlive => ?_, fun hq => ?_⟩
  · rw [hst] at hlive
    cases hlive
  · rw [hq] at hst
    cases hst

theorem servedFairly_of_shrinks (h : Shrinks db.jobs db'.jobs) : ServedFairly db db' :=
  fun id job hg => ⟨job, h id job hg, FairStep.refl db db' job⟩

theorem ServedFairly.refl (db : Database) : ServedFairly db db :=
  servedFairly_of_shrinks .refl

/-- One job is updated. -/
theorem servedFairly_of_modify {f : JobRecord → JobRecord} (hj : db.jobs.get? id = some job)
    (hjs : db'.jobs = db.jobs.modify id f) (hs : FairStep db db' job (f job)) :
    ServedFairly db db' := by
  intro key job' hg
  rw [hjs] at hg
  obtain ⟨before, hold, ⟨rfl, rfl⟩ | ⟨-, rfl⟩⟩ := get?_of_modify hg
  · cases hj.symm.trans hold
    exact ⟨job, hold, hs⟩
  · exact ⟨job', hold, FairStep.refl db db' job'⟩

/-- The job service changes no scope, so its turns add up. -/
theorem ServedFairly.trans (h₁ : ServedFairly db db') (hfrm : ServiceFrame db db')
    (h₂ : ServedFairly db' db'') (hfrm' : ServiceFrame db' db'') : ServedFairly db db'' := by
  intro id job'' hg''
  obtain ⟨job', hg', hs'⟩ := h₂ id job'' hg''
  obtain ⟨job, hg, hs⟩ := h₁ id job' hg'
  refine ⟨job, hg, hs'.request.trans hs.request,
    fun hterm => hs'.terminal (hs.terminal hterm), fun hcan hlive => ?_,
    fun hq hcan => ?_⟩
  · rcases hs'.cancelled hcan hlive with hcan' | hbarred
    · have hlive' := live_of_step hs'.terminal hlive
      refine (hs.cancelled hcan' hlive').imp_right fun hbarred => ?_
      rw [hs'.request]
      exact hbarred.mono fun _ _ _ => hfrm'.evolve.targets.activeTarget
    · exact .inr hbarred
  · obtain ⟨hcan', hq' | hv'⟩ := hs'.queued hq hcan
    · exact hs.queued hq' hcan'
    · rw [hfrm.scopeValid_eq, scopeValid_congr hs.request] at hv'
      have hlive' := live_of_step hs'.terminal (by rw [hq]; rfl)
      rcases hs.cancelled hcan' hlive' with hcand | hbarred
      · exact ⟨hcand, .inr hv'⟩
      · -- a job that has become barred has no valid scope
        rw [hs.request] at hbarred
        have hfcd := scopeValid_of_barred hbarred
        rw [hfrm.scopeValid_eq, hv'] at hfcd
        cases hfcd

/-! #### The job service -/

variable {ends : String → JobRecord → Prop}

/-- A turn leaves its job queued in a valid scope only. -/
theorem ServiceTurn.fair (hturn : ServiceTurn ends db db') : ServedFairly db db' := by
  rcases hturn.change with rfl | ⟨hj, hs, hcase, hjs, -⟩
  · exact ServedFairly.refl _
  · refine servedFairly_of_modify hj hjs ⟨hs.request, hs.terminal,
      fun hcan hlive => ?_, fun hq hcan => ?_⟩
    · rcases hs.cancelRequested hcan with hpre | hended
      · exact .inl hpre
      · rw [hlive] at hended
        cases hended
    · have hpre := (hs.cancelRequested hcan).resolve_right (by rw [hq]; decide)
      cases hcase with
      | held hst =>
        rw [hq] at hst
        cases hst
      | requeued _ hsc _ => exact ⟨hpre, .inr hsc⟩
      | ended hst _ =>
        rw [hq] at hst
        cases hst

theorem ServiceTurns.fair (hturns : ServiceTurns ends db db') : ServedFairly db db' := by
  induction hturns with
  | refl => exact ServedFairly.refl db
  | tail hpre hturn ih =>
    exact ih.trans (ServiceTurns.frame hpre) hturn.fair hturn.frame

/-- **A transaction of the job service queues no job again outside its scope.** -/
theorem QueueService.fair (retryDelay : String → ℕ → ℤ) (db : Database) (service : QueueService) :
    ServedFairly db (service.run retryDelay db) := by
  cases service with
  | lease => exact committed_of (ServedFairly.refl db) fun _ _ h => (leaseLoop_writes h).turns.fair
  | start => exact start_write.turn.fair
  | heartbeat => exact heartbeat_write.turn.fair
  | fail => exact fail_write.turn.fair
  | cancel => exact (cancel_write (R := fun _ _ => True) fun _ _ _ _ => trivial).turn.fair
  | rescue => exact rescueExpired_writes.turns.fair

/-! #### Results and publications -/

theorem completeJob_fair {claim : JobResultClaimRecord} (hj : db.jobs.get? lease.jobId = some job)
    (h : completeJob db job lease claim now = .ok db') : ServedFairly db db' := by
  obtain ⟨-, rfl⟩ := completeJob_eq_ok.mp h
  exact servedFairly_of_modify (f := fun job => job.completedWith claim now) hj rfl
    (FairStep.ended rfl rfl)

end Fair

/-! ### The system -/

/-- The transactions, with what they are given. -/
inductive FencingOperation
  /-- A step of a deletion, or a transaction of the job service. -/
  | deletion (operation : DeletionOperation)
  | completeSystem (lease : JobLease) (now : ℤ)
  | finalize (request : FinalizeRequest) (publish : PublishResult)
  | resolveRace (request : FinalizeRequest)
  | publish (importId : String) (draft : DraftRows) (workerId : String) (fencingGeneration : ℕ)
      (now : ℤ)
  | cancelScenario (ownerUserId scenarioId : String) (now : ℤ)
  | register (request : Registration)
  | record (upload : ImportUpload) (accountGeneration : ℕ) (ids : ImportIdentifiers) (now : ℤ)
  | install (request : SimulatedInstallation)
  | confirm (ownerUserId importId : String) (content : ConfirmedContent)
      (profileId deletionScopeId : String) (now : ℤ)
  | calculate (request : CalculationRequest)
  /-- An inline replay records a job that has succeeded. -/
  | replay (jobId : String) (job : JobRecord)
  /-- Retention schedules a job of the system. -/
  | schedule (jobId : String) (job : JobRecord)
  /-- Any transaction that adds no job and works on none, and makes no target active. -/
  | other

/-- One transaction that commits, or another step of a deletion. -/
inductive FencingStep (auth : AuthKeys) (keys : DeletionKeys) (retryDelay : String → ℕ → ℤ)
    (w : DeletionWorld) : FencingOperation → DeletionWorld → Prop
  | deletion {w' operation}
      (hoperation : operation ≠ .ordinary) (h : DeletionStep keys retryDelay w operation w') :
      FencingStep auth keys retryDelay w (.deletion operation) w'
  | completeSystem {lease now} :
      FencingStep auth keys retryDelay w (.completeSystem lease now)
        (w.commit (committed w.db (completeSystem w.db lease now)))
  | finalize {request} {publish : PublishResult}
      (hpublish : ∀ db db', publish.run db = .ok db' → TargetsEvolve db db') :
      FencingStep auth keys retryDelay w (.finalize request publish)
        (w.commit (committed w.db (finalizeOnce w.db request publish)))
  | resolveRace {request} :
      FencingStep auth keys retryDelay w (.resolveRace request)
        (w.commit (committed w.db (resolveSemanticRace w.db request)))
  | publish {importId draft workerId fencingGeneration now} :
      FencingStep auth keys retryDelay w (.publish importId draft workerId fencingGeneration now)
        (w.commit (committed w.db
          (publishDraft w.db importId draft workerId fencingGeneration now)))
  | cancelScenario {ownerUserId scenarioId now} :
      FencingStep auth keys retryDelay w (.cancelScenario ownerUserId scenarioId now)
        (w.commit (committed w.db (cancelScenario w.db ownerUserId scenarioId now)))
  | register {request : Registration} {grant db'}
      (hfresh : request.userId ∉ w.drawn) (h : register auth w.db request = .ok (grant, db')) :
      FencingStep auth keys retryDelay w (.register request)
        { w with db := db', drawn := request.userId :: w.drawn }
  | record {upload : ImportUpload} {accountGeneration} {ids : ImportIdentifiers} {now}
      (howner : upload.ownerUserId ∈ w.drawn)
      (himport : ids.importId ∉ w.drawn) :
      FencingStep auth keys retryDelay w (.record upload accountGeneration ids now) { w with
        db := committed w.db (recordSubmission w.db upload accountGeneration ids now)
        drawn := ids.importId :: w.drawn }
  | install {request : SimulatedInstallation}
      (himport : request.importId ∉ w.drawn) (hprofile : request.profileId ∉ w.drawn) :
      FencingStep auth keys retryDelay w (.install request) { w with
        db := committed w.db (installSimulatedProfile w.db request)
        drawn := request.importId :: request.profileId :: w.drawn }
  | confirm {ownerUserId importId content profileId deletionScopeId now}
      (hprofile : profileId ∉ w.drawn) :
      FencingStep auth keys retryDelay w
        (.confirm ownerUserId importId content profileId deletionScopeId now) { w with
          db := committed w.db
            (confirm w.db ownerUserId importId content profileId deletionScopeId now)
          drawn := profileId :: w.drawn }
  | calculate {request} {initializeNewJob : JobInitializer} (hframe : initializeNewJob.Frames) :
      FencingStep auth keys retryDelay w (.calculate request)
        (w.commit (committed w.db (submitCalculation w.db request initializeNewJob)))
  | replay {jobId} {job : JobRecord} {db' : Database}
      (hstate : job.state = .succeeded) (hcancel : job.cancelRequested = false)
      (hkind : job.kind = .replay)
      (hscope : ∀ kind id, job.request.scopeId kind = some id →
        ∃ target, TargetRow w.db target kind ∧ target.id = id)
      (hjobs : db'.jobs = w.db.jobs.set jobId job) (htargets : TargetsEvolve w.db db') :
      FencingStep auth keys retryDelay w (.replay jobId job) (w.commit db')
  | schedule {jobId} {job : JobRecord} {db' : Database}
      (hcancel : job.cancelRequested = false) (hkind : job.kind = .retention)
      (hscope : ∀ kind, job.request.scopeId kind = none)
      (hjobs : db'.jobs = w.db.jobs.set jobId job) (htargets : TargetsEvolve w.db db') :
      FencingStep auth keys retryDelay w (.schedule jobId job) (w.commit db')
  | other {db' : Database} (hjobs : Shrinks w.db.jobs db'.jobs)
      (htargets : TargetsEvolve w.db db') : FencingStep auth keys retryDelay w .other (w.commit db')

/-- Nothing has been deleted yet, and there are no jobs. -/
def NoJobs (w : DeletionWorld) : Prop := NoDeletions w ∧ w.db.jobs = Dict.empty

/-! ### The invariant -/

/-- What is known of every job: it is for targets whose identifiers were drawn, the target it
sweeps is fenced, and a cancellation is requested of a job that has not ended only when it is
barred, and never of a queued one. -/
structure Queueable (w : DeletionWorld) : Prop where
  drawn : ∀ kind target, TargetRow w.db target kind → target.id ∈ w.drawn
  named : ∀ id job, w.db.jobs.get? id = some job →
    ∀ kind scopeId, job.request.scopeId kind = some scopeId → scopeId ∈ w.drawn
  sweeps : ∀ id job, w.db.jobs.get? id = some job → SweepsFenced w.db job.request
  barred : ∀ id job, w.db.jobs.get? id = some job → job.cancelRequested = true →
    job.state.terminal = false → Barred w.db job.request
  queued : ∀ id job, w.db.jobs.get? id = some job → job.state = .queued →
    job.cancelRequested = false

/-- What a new job is. -/
structure NewJob (w : DeletionWorld) (job : JobRecord) : Prop where
  cancelRequested : job.cancelRequested = false
  named : ∀ kind scopeId, job.request.scopeId kind = some scopeId → scopeId ∈ w.drawn
  sweeps : SweepsFenced w.db job.request

/-- Every target was there, and has not become active, or its identifier is new. -/
def TargetsGrow (w w' : DeletionWorld) : Prop :=
  ∀ kind target', TargetRow w'.db target' kind →
    (∃ target, TargetRow w.db target kind ∧ TargetStep target target') ∨
      target'.id ∉ w.drawn ∧ target'.id ∈ w'.drawn

/-- Every job was there and was treated fairly, or it is new. -/
def JobsGrow (w w' : DeletionWorld) : Prop :=
  ∀ id job', w'.db.jobs.get? id = some job' →
    (∃ job, w.db.jobs.get? id = some job ∧ FairStep w.db w'.db job job') ∨ NewJob w' job'

theorem NoJobs.queueable {w : DeletionWorld} (h : NoJobs w) : Queueable w := by
  obtain ⟨hnone, hjs⟩ := h
  refine ⟨fun kind target hrow => (hnone.known.drawn kind target hrow).1, ?_, ?_, ?_, ?_⟩ <;>
  · rw [hjs]
    intro id job hg
    cases hg

section Keeps

variable {w w' : DeletionWorld}

theorem TargetsEvolve.grow (h : TargetsEvolve w.db w'.db) : TargetsGrow w w' :=
  fun kind target' hrow => .inl (h kind target' hrow)

/-- Every row was there, or its identifier is new. -/
def RowsGrow {α : Type} (w w' : DeletionWorld) (table table' : Dict String α) : Prop :=
  ∀ id row, table'.get? id = some row → table.get? id = some row ∨ id ∉ w.drawn ∧ id ∈ w'.drawn

theorem TargetsGrow.of_rows (hus : RowsGrow w w' w.db.users w'.db.users)
    (hims : RowsGrow w w' w.db.imports w'.db.imports)
    (hpfs : RowsGrow w w' w.db.profiles w'.db.profiles) : TargetsGrow w w' := by
  intro kind target' hrow
  cases kind with
  | account =>
    obtain ⟨user, hg, heq⟩ := hrow
    exact (hus _ user hg).imp_left fun hold => ⟨target', ⟨user, hold, heq⟩, .refl target'⟩
  | importing =>
    obtain ⟨record, hg, heq⟩ := hrow
    exact (hims _ record hg).imp_left fun hold => ⟨target', ⟨record, hold, heq⟩, .refl target'⟩
  | profile =>
    obtain ⟨profile, hg, heq⟩ := hrow
    exact (hpfs _ profile hg).imp_left fun hold => ⟨target', ⟨profile, hold, heq⟩, .refl target'⟩

theorem TargetsGrow.activeTarget (h : TargetsGrow w w') {kind : TargetKind} {id : String}
    (hdr : id ∈ w.drawn) (hact : ActiveTarget w'.db kind id) : ActiveTarget w.db kind id := by
  obtain ⟨target', hrow', hid, hact⟩ := activeTarget_iff.mp hact
  rcases h kind target' hrow' with ⟨target, hrow, hs⟩ | ⟨hnew, -⟩
  · rw [hs.active hact] at hid hact
    exact activeTarget_iff.mpr ⟨target, hrow, hid, hact⟩
  · rw [hid] at hnew
    exact absurd hdr hnew

theorem ServedFairly.grow (h : ServedFairly w.db w'.db) : JobsGrow w w' :=
  fun id job' hg => .inl (h id job' hg)

theorem JobsGrow.of_eq (h : w'.db.jobs = w.db.jobs) : JobsGrow w w' :=
  (servedFairly_of_shrinks (.of_eq h)).grow

/-- A job comes in next to those that are there. -/
theorem NewJob.grow {jobId : String} {job : JobRecord} (h : NewJob w' job)
    (hjs : w'.db.jobs = w.db.jobs.set jobId job) : JobsGrow w w' := by
  intro id job' hg
  rw [hjs] at hg
  rcases get?_of_set hg with ⟨-, rfl⟩ | ⟨-, hold⟩
  · exact .inr h
  · exact .inl ⟨job', hold, FairStep.refl _ _ job'⟩

/-- **What keeps the invariant**: targets do not come back, jobs are treated fairly, and no new
job has its cancellation requested. -/
theorem Queueable.grow (h : Queueable w) (hdr : w.drawn ⊆ w'.drawn) (htgts : TargetsGrow w w')
    (hjs : JobsGrow w w') : Queueable w' := by
  have hstay : ∀ {id job}, w.db.jobs.get? id = some job → ∀ kind scopeId,
      job.request.scopeId kind = some scopeId → ActiveTarget w'.db kind scopeId →
        ActiveTarget w.db kind scopeId :=
    fun hg kind scopeId hid => htgts.activeTarget (h.named _ _ hg kind scopeId hid)
  refine ⟨fun kind target' hrow' => ?_, fun id job' hg' => ?_, fun id job' hg' => ?_,
    fun id job' hg' hcan hlive => ?_, fun id job' hg' hq => ?_⟩
  · rcases htgts kind target' hrow' with ⟨target, hrow, hs⟩ | ⟨-, hnew⟩
    · rw [hs.same.id]
      exact hdr (h.drawn kind target hrow)
    · exact hnew
  · rcases hjs id job' hg' with ⟨job, hg, hs⟩ | hnew
    · rw [hs.request]
      exact fun kind scopeId hid => hdr (h.named id job hg kind scopeId hid)
    · exact hnew.named
  · rcases hjs id job' hg' with ⟨job, hg, hs⟩ | hnew
    · rw [hs.request]
      exact (h.sweeps id job hg).mono (hstay hg)
    · exact hnew.sweeps
  · rcases hjs id job' hg' with ⟨job, hg, hs⟩ | hnew
    · rcases hs.cancelled hcan hlive with hpre | hbarred
      · rw [hs.request]
        exact (h.barred id job hg hpre (live_of_step hs.terminal hlive)).mono (hstay hg)
      · exact hbarred
    · rw [hnew.cancelRequested] at hcan
      cases hcan
  · rcases hjs id job' hg' with ⟨job, hg, hs⟩ | hnew
    · rw [Bool.eq_false_iff]
      intro hcan
      obtain ⟨hpre, hwas | hv⟩ := hs.queued hq hcan
      · rw [h.queued id job hg hwas] at hpre
        cases hpre
      · -- it was queued again in a valid scope, so it was not barred
        have hlive := live_of_step hs.terminal (by rw [hq]; rfl)
        rw [scopeValid_of_barred (h.barred id job hg hpre hlive)] at hv
        cases hv
    · exact hnew.cancelRequested

theorem Queueable.evolve (h : Queueable w) (htgts : TargetsEvolve w.db w'.db)
    (hjs : ServedFairly w.db w'.db) (hdr : w.drawn ⊆ w'.drawn) : Queueable w' :=
  h.grow hdr htgts.grow hjs.grow

/-- A step that leaves the jobs and their targets alone. -/
theorem Queueable.same (h : Queueable w) (hdr : w.drawn ⊆ w'.drawn)
    (hsame : (w'.db.users, w'.db.imports, w'.db.profiles) =
      (w.db.users, w.db.imports, w.db.profiles)) (hjs : w'.db.jobs = w.db.jobs) : Queueable w' :=
  h.evolve (.of_same hsame) (servedFairly_of_shrinks (.of_eq hjs)) hdr

end Keeps

/-! ### Deletions -/

section Deletions

variable {keys : DeletionKeys} {retryDelay : String → ℕ → ℤ} {w w' : DeletionWorld}
  {now : ℤ} {target : DeletionTarget} {kind : TargetKind} {deletionId : String}

/-- A job that a fence reaches is for the target of the fence. -/
theorem scopeId_of_fencesJob {ownerUserId : String} {job : JobRecord}
    (ho : kind = .account → target.id = ownerUserId)
    (h : fencesJob kind target.id ownerUserId job = true) :
    job.request.scopeId kind = some target.id := by
  simp only [fencesJob, Bool.and_eq_true, decide_eq_true_eq] at h
  obtain ⟨⟨hjobOwner, -⟩, hsc⟩ := h
  cases kind with
  | account =>
    rw [ho rfl]
    exact hjobOwner
  | importing => exact of_decide_eq_true hsc
  | profile => exact of_decide_eq_true hsc

/-- **The fence of a deletion** bars the jobs that it reaches: none of them sweeps the target,
which was active until now. -/
theorem Queueable.fence (h : Queueable w) (hdr : w.drawn ⊆ w'.drawn) {prepared : LedgerEvent}
    {intent : DeletionIntentRecord}
    (htgt : targetByScope w.db intent.targetKind intent.targetScopeId = some target)
    (ho : target.ownerUserId = intent.ownerUserId) (hst : target.lifecycleState = .active)
    (hfcd : Fenced w.db w'.db prepared intent target now) : Queueable w' := by
  refine h.evolve hfcd.targetsEvolve (fun id job' hg => ?_) hdr
  rw [hfcd.jobs] at hg
  obtain ⟨job, hold, rfl⟩ := get?_of_modifyWhere hg
  refine ⟨job, hold, ?_⟩
  split
  · rename_i hfences
    have hact : ActiveTarget w.db intent.targetKind target.id :=
      activeTarget_iff.mpr ⟨target, (targetByScope_eq_some htgt).2, rfl, hst⟩
    have hid : job.request.scopeId intent.targetKind = some target.id := by
      refine scopeId_of_fencesJob (fun hk => ?_) hfences
      rw [hk] at htgt
      rw [← targetByScope_account_owner htgt]
      exact ho
    unfold JobRecord.fence
    split
    · exact FairStep.ended rfl rfl
    · rename_i hst
      refine ⟨rfl, fun hterm => hterm, fun _ _ => .inr ?_,
        fun hq => absurd hq hst⟩
      exact ⟨intent.targetKind, target.id, hid,
        fun hsw => h.sweeps id job hold _ _ hsw hid hact, hfcd.not_active⟩
  · exact FairStep.refl _ _ job

theorem deletionSchema_injective : Function.Injective deletionSchema := by
  intro kind kind' h
  revert h
  cases kind <;> cases kind' <;> decide

/-- A sweep job is for targets whose rows it has found. -/
theorem deletionJob_named {user : UserRecord} {importGeneration : Option ℕ} (h : Queueable w)
    (hrow : TargetRow w.db target kind) (huser : w.db.users.get? target.ownerUserId = some user)
    (hgen : deletionImportGeneration w.db kind target = .ok importGeneration) :
    ∀ kind' scopeId, (deletionJob keys deletionId kind target user importGeneration
      now).request.scopeId kind' = some scopeId → scopeId ∈ w.drawn := by
  intro kind' scopeId hid
  cases kind' with
  | account =>
    cases hid
    exact h.drawn .account (UserRecord.target _ user) ⟨user, huser, rfl⟩
  | importing =>
    have him : target.importId = some scopeId := hid
    cases kind with
    | account =>
      obtain ⟨_, -, heq⟩ := hrow
      rw [heq] at him
      cases him
    | importing =>
      have hdr := h.drawn .importing target hrow
      obtain ⟨_, -, heq⟩ := hrow
      rw [heq] at him
      cases him
      exact hdr
    | profile =>
      -- the import of a profile is looked up for its generation
      obtain ⟨generation, hgen, -⟩ : ∃ generation,
          profileImportGeneration w.db target = .ok generation ∧
            importGeneration = some generation := by
        cases hfnd : profileImportGeneration w.db target with
        | error e =>
          rw [deletionImportGeneration, hfnd] at hgen
          cases hgen
        | ok generation =>
          rw [deletionImportGeneration, hfnd] at hgen
          exact ⟨generation, rfl, (Except.ok.inj hgen).symm⟩
      unfold profileImportGeneration at hgen
      rw [him] at hgen
      split at hgen
      · cases hgen
      · rename_i record hrec
        exact h.drawn .importing (ImportRecord.target scopeId record) ⟨record, hrec, rfl⟩
  | profile =>
    have hpf : (if kind = .profile then some target.id else none) = some scopeId := hid
    split at hpf
    · cases hpf
      exact h.drawn kind target hrow
    · cases hpf

/-- A sweep job is for the target that it sweeps. -/
theorem deletionJob_scopeId {user : UserRecord} {importGeneration : Option ℕ} {db : Database}
    (hrow : TargetRow db target kind) :
    (deletionJob keys deletionId kind target user importGeneration now).request.scopeId kind
      = some target.id := by
  cases kind <;>
  · obtain ⟨row, -, heq⟩ := hrow
    rw [heq]
    rfl

/-- **The sweep job of a deletion** comes in when its target is fenced. -/
theorem Queueable.request (h : Queueable w) (hdr : w.drawn ⊆ w'.drawn) {jobId : String}
    {control : DeletionControlOperationRecord}
    (htgt : targetByScope w.db control.targetKind control.targetScopeId = some target)
    (hstd : SweepStarted keys w.db w'.db deletionId jobId control target now) :
    Queueable w' := by
  obtain ⟨user, importGeneration, huser, hgen, hjs⟩ := hstd.jobs
  obtain ⟨-, hrow⟩ := targetByScope_eq_some htgt
  refine h.grow hdr hstd.targetsEvolve.grow (NewJob.grow ⟨rfl, ?_, ?_⟩ hjs)
  · exact fun kind scopeId hid => hdr
      (deletionJob_named h hrow huser hgen kind scopeId hid)
  · intro kind scopeId hsw hid
    obtain rfl : control.targetKind = kind := deletionSchema_injective hsw.2
    cases (deletionJob_scopeId hrow).symm.trans hid
    rw [activeTarget_congr hstd.users hstd.imports hstd.profiles]
    exact setLifecycle_not_active (by decide)

/-- **Every step of a deletion**, and of the job service, keeps the invariant. -/
theorem DeletionStep.queueable {operation : DeletionOperation} (h : Queueable w)
    (hop : operation ≠ .ordinary) (hs : DeletionStep keys retryDelay w operation w') :
    Queueable w' := by
  have hdr := hs.drawn_subset
  cases hs.write with
  | books hkp =>
    exact h.same hdr (by rw [hkp.users, hkp.imports, hkp.profiles]) hkp.jobs
  | fenced _ _ htgt ho hact _ hfcd =>
    exact h.fence hdr htgt ho hact hfcd
  | requested _ _ _ _ htgt hstd => exact h.request hdr htgt hstd
  | @advanced _ _ _ _ _ base _ _ _ hrows hdb =>
    have hmoved := (advanceControl_evolve hdb).targets
    have hjs : w'.db.jobs = base.jobs := by rw [hdb]; rfl
    cases hrows with
    | kept => exact h.evolve hmoved (servedFairly_of_shrinks (.of_eq hjs)) hdr
    | owner =>
      exact h.evolve ((sweepOwnerRows_evolve _ _).targets.trans hmoved)
        (servedFairly_of_shrinks (hjs ▸ .deleteWhere _ _)) hdr
    | resource =>
      exact h.evolve ((deleteResourceRows_evolve _ _ _).targets.trans hmoved)
        (servedFairly_of_shrinks (hjs ▸ .deleteWhere _ _)) hdr
  | removed _ _ _ _ hjs _ hevo =>
    exact h.evolve hevo (servedFairly_of_shrinks (hjs ▸ .deleteWhere _ _)) hdr
  | served hservice =>
    subst hservice
    cases hs
    exact h.evolve (QueueService.frame retryDelay w.db _).evolve.targets
      (QueueService.fair retryDelay w.db _) (.refl _)
  | ordinary hordinary => exact absurd hordinary hop

end Deletions

/-! ### Everything else -/

section Steps

variable {auth : AuthKeys} {keys : DeletionKeys} {retryDelay : String → ℕ → ℤ}
  {w w' : DeletionWorld} {db' : Database} {now : ℤ} {importId : String}

theorem finalizeOnce_queueable (h : Queueable w) {request : FinalizeRequest}
    {publish : PublishResult}
    (hpbl : ∀ db db', publish.run db = .ok db' → TargetsEvolve db db') :
    Queueable (w.commit (committed w.db (finalizeOnce w.db request publish))) := by
  refine committed_of (P := fun db' => Queueable (w.commit db')) h fun result db' hok => ?_
  rcases finalizeOnce_eq_ok hok with rfl | ⟨job, hf, -, ⟨_, _, -, hcomp⟩ | ⟨-, hclm⟩⟩
  · exact h
  · obtain ⟨hj, -⟩ := currentFencedJob_eq_some.mp hf
    have hfair := completeJob_fair hj hcomp
    obtain ⟨-, rfl⟩ := completeJob_eq_ok.mp hcomp
    exact h.evolve (.of_same rfl) hfair (.refl _)
  · obtain ⟨hj, -⟩ := currentFencedJob_eq_some.mp hf
    obtain ⟨published, claimed, hpub, hinsd, hcomp⟩ := publishClaim_eq_ok hclm
    obtain ⟨-, rfl⟩ := insertClaim_eq_ok hinsd
    obtain ⟨-, rfl⟩ := completeJob_eq_ok.mp hcomp
    refine h.evolve ((hpbl _ _ hpub).trans (.of_same rfl)) ?_ (.refl _)
    refine servedFairly_of_modify (f := fun row => row.completedWith (newClaim request job)
      request.now) hj ?_ (FairStep.ended rfl rfl)
    exact congrArg (Dict.modify · request.lease.jobId fun row =>
      row.completedWith (newClaim request job) request.now) (publish.jobs_eq _ _ hpub)

theorem resolveSemanticRace_queueable (h : Queueable w) {request : FinalizeRequest} :
    Queueable (w.commit (committed w.db (resolveSemanticRace w.db request))) := by
  refine committed_of (P := fun db' => Queueable (w.commit db')) h fun outcome db' hok => ?_
  rcases resolveSemanticRace_eq_ok hok with rfl | ⟨job, claim, hf, hcomp⟩
  · exact h
  · obtain ⟨hj, -⟩ := currentFencedJob_eq_some.mp hf
    have hfair := completeJob_fair hj hcomp
    obtain ⟨-, rfl⟩ := completeJob_eq_ok.mp hcomp
    exact h.evolve (.of_same rfl) hfair (.refl _)

/-- An import is rewritten in columns a deletion does not read. -/
theorem targetsEvolve_of_modify {db : Database} {f : ImportRecord → ImportRecord}
    (hus : db'.users = db.users) (hims : db'.imports = db.imports.modify importId f)
    (hpfs : db'.profiles = db.profiles)
    (hf : ∀ id record, ImportRecord.target id (f record) = ImportRecord.target id record) :
    TargetsEvolve db db' :=
  fun kind target' hrow =>
    ⟨target', (targetRow_modify hus hims hpfs hf kind target').mp hrow, .refl target'⟩

theorem publishDraft_queueable (h : Queueable w) {workerId : String} {draft : DraftRows}
    {fencingGeneration : ℕ} : Queueable (w.commit
      (committed w.db (publishDraft w.db importId draft workerId fencingGeneration now))) := by
  refine committed_of (P := fun db' => Queueable (w.commit db')) h fun published db' hok => ?_
  rcases publishDraft_eq_ok hok with ⟨-, rfl⟩ | ⟨-, jobId, job, record, readings, findings, hj,
    -, -, rfl⟩
  · exact h
  · obtain ⟨hg, -⟩ := first_eq_some_get? hj
    refine h.evolve ?_ (servedFairly_of_modify
      (f := fun job => { job with state := .succeeded, completedAt := some now }) hg rfl
      (FairStep.ended rfl rfl)) (.refl _)
    exact targetsEvolve_of_modify
      (f := fun record => { record with state := .ready, publishedAt := some now }) rfl rfl rfl
      fun _ _ => rfl

theorem cancelScenario_queueable (h : Queueable w) {ownerUserId scenarioId : String} :
    Queueable (w.commit (committed w.db (cancelScenario w.db ownerUserId scenarioId now))) := by
  refine committed_of (P := fun db' => Queueable (w.commit db')) h fun u db' hok => ?_
  obtain ⟨scenario, job, -, hj, -, rfl⟩ := cancelScenario_eq_ok hok
  exact h.evolve (.of_same rfl) (servedFairly_of_modify
    (f := fun job => job.cancelledByOwner now) hj rfl (FairStep.ended rfl rfl)) (.refl _)

theorem register_queueable (h : Queueable w) {request : Registration} {grant : SessionGrant}
    (hfr : request.userId ∉ w.drawn) (hok : register auth w.db request = .ok (grant, db')) :
    Queueable { w with db := db', drawn := request.userId :: w.drawn } := by
  obtain ⟨canonical, auditEvents, -, -, -, -, rfl⟩ := register_eq_ok hok
  exact h.grow (List.subset_cons_self _ _)
    (.of_rows (get?_or_of_set ⟨hfr, List.mem_cons_self⟩) (fun _ _ => .inl) fun _ _ => .inl)
    (.of_eq rfl)

theorem recordSubmission_queueable (h : Queueable w) {upload : ImportUpload}
    {accountGeneration : ℕ} {ids : ImportIdentifiers} (ho : upload.ownerUserId ∈ w.drawn)
    (him : ids.importId ∉ w.drawn) : Queueable { w with
      db := committed w.db (recordSubmission w.db upload accountGeneration ids now)
      drawn := ids.importId :: w.drawn } := by
  have hsubset := List.subset_cons_self (a := ids.importId) (l := w.drawn)
  have hsame : Queueable { w with drawn := ids.importId :: w.drawn } :=
    h.same hsubset rfl rfl
  refine committed_of (P := fun db' => Queueable { w with
    db := db'
    drawn := ids.importId :: w.drawn }) hsame fun _ db' hok => ?_
  rcases recordSubmission_eq_ok hok with hinsd | rfl
  · obtain ⟨-, -, -, auditEvents, rfl⟩ := insertSubmission_eq_ok hinsd
    refine h.grow hsubset (.of_rows (fun _ _ => .inl)
      (get?_or_of_set ⟨him, List.mem_cons_self⟩) fun _ _ => .inl)
      (NewJob.grow ⟨rfl, ?_, ?_⟩ rfl)
    · intro kind scopeId hid
      cases kind with
      | account =>
        cases hid
        exact hsubset ho
      | importing =>
        cases hid
        exact List.mem_cons_self
      | profile => cases hid
    · exact sweepsFenced_of_kind (by decide : JobKind.importing ≠ .deletion)
  · exact hsame

theorem install_queueable (h : Queueable w) {request : SimulatedInstallation}
    (him : request.importId ∉ w.drawn) (hpf : request.profileId ∉ w.drawn) :
    Queueable { w with
      db := committed w.db (installSimulatedProfile w.db request)
      drawn := request.importId :: request.profileId :: w.drawn } := by
  have hsubset : w.drawn ⊆ request.importId :: request.profileId :: w.drawn :=
    fun _ hid => List.mem_cons_of_mem _ (List.mem_cons_of_mem _ hid)
  have hsame : Queueable { w with drawn := request.importId :: request.profileId :: w.drawn } :=
    h.same hsubset rfl rfl
  refine committed_of (P := fun db' => Queueable { w with
    db := db'
    drawn := request.importId :: request.profileId :: w.drawn }) hsame fun _ db' hok => ?_
  rcases installSimulatedProfile_eq_ok hok with rfl | ⟨user, installed, -, -, hinst, hrcd⟩
  · exact hsame
  · obtain ⟨-, rfl⟩ := insertOperation_eq_ok hrcd
    rcases installProfile_eq_ok hinst with ⟨-, rfl⟩ | ⟨-, -, -, -, -, readings, auditEvents,
      rfl⟩
    · exact h.same hsubset rfl rfl
    · exact h.grow hsubset (.of_rows (fun _ _ => .inl)
        (get?_or_of_set ⟨him, List.mem_cons_self⟩)
        (get?_or_of_set ⟨hpf, List.mem_cons_of_mem _ List.mem_cons_self⟩)) (.of_eq rfl)

theorem confirm_queueable (h : Queueable w) {ownerUserId : String} {content : ConfirmedContent}
    {profileId deletionScopeId : String} (hpf : profileId ∉ w.drawn) : Queueable { w with
      db := committed w.db (confirm w.db ownerUserId importId content profileId deletionScopeId now)
      drawn := profileId :: w.drawn } := by
  have hsubset := List.subset_cons_self (a := profileId) (l := w.drawn)
  have hsame : Queueable { w with drawn := profileId :: w.drawn } :=
    h.same hsubset rfl rfl
  refine committed_of (P := fun db' => Queueable { w with
    db := db'
    drawn := profileId :: w.drawn }) hsame fun attached db' hok => ?_
  obtain ⟨record, profiled, -, -, -, hpfd, rfl⟩ := confirm_eq_ok hok
  -- first the profile comes in, then the import is confirmed as it
  have hinsd : Queueable { w with db := profiled, drawn := profileId :: w.drawn } := by
    rcases confirmProfile_eq_ok hpfd with ⟨_, -, rfl⟩ | ⟨-, -, -, -, rfl⟩
    · exact hsame
    · exact h.grow hsubset (.of_rows (fun _ _ => .inl) (fun _ _ => .inl)
        (get?_or_of_set ⟨hpf, List.mem_cons_self⟩)) (.of_eq rfl)
  refine hinsd.evolve ?_ (servedFairly_of_shrinks .refl) (.refl _)
  exact targetsEvolve_of_modify (f := fun record => record.confirmedAs attached now) rfl rfl rfl
    fun _ _ => rfl

theorem calculate_queueable (h : Queueable w) {request : CalculationRequest}
    {initializeNewJob : JobInitializer} (hfrm : initializeNewJob.Frames) :
    Queueable (w.commit (committed w.db (submitCalculation w.db request initializeNewJob))) := by
  refine committed_of (P := fun db' => Queueable (w.commit db')) h fun submission db' hok => ?_
  rcases submitCalculation_eq_ok hok with rfl | ⟨routeId, user, profile, imported, hroute, hsc,
    ⟨jobId, rfl⟩ | ⟨auditEvents, -, -, hini⟩⟩
  · exact h
  · exact h.same (.refl _) rfl rfl
  · obtain ⟨hrest, hims, hjs⟩ := hfrm _ _ _ hini
    obtain ⟨⟨huser, -⟩, hpf, himd⟩ := calculationScope_eq_ok hsc
    have htgts : TargetsEvolve w.db db' := .of_same (by rw [hrest.users, hims, hrest.profiles])
    refine h.grow (.refl _) (TargetsEvolve.grow htgts)
      (NewJob.grow ⟨rfl, fun kind scopeId hid => ?_, ?_⟩ hjs)
    · cases kind with
      | account =>
        cases hid
        exact h.drawn .account (UserRecord.target _ user) ⟨user, huser, rfl⟩
      | importing =>
        cases hid
        exact h.drawn .importing (ImportRecord.target _ imported) ⟨imported, himd, rfl⟩
      | profile =>
        cases hid
        exact h.drawn .profile (ProfileVersionRecord.target _ profile) ⟨profile, hpf, rfl⟩
    · exact sweepsFenced_of_kind (checkCalculation_kind hroute).2

/-- **Every transaction keeps the invariant.** -/
theorem FencingStep.queueable {operation : FencingOperation} (h : Queueable w)
    (hs : FencingStep auth keys retryDelay w operation w') : Queueable w' := by
  have hrefl : w.drawn ⊆ w.drawn := List.Subset.refl _
  cases hs with
  | deletion hop hs => exact hs.queueable h hop
  | completeSystem =>
    exact h.evolve completeSystem_write.turn.frame.evolve.targets completeSystem_write.turn.fair
      hrefl
  | finalize hpbl => exact finalizeOnce_queueable h hpbl
  | resolveRace => exact resolveSemanticRace_queueable h
  | publish => exact publishDraft_queueable h
  | cancelScenario => exact cancelScenario_queueable h
  | register hfr hok => exact register_queueable h hfr hok
  | record ho him => exact recordSubmission_queueable h ho him
  | install him hpf => exact install_queueable h him hpf
  | confirm hpf => exact confirm_queueable h hpf
  | calculate hfrm => exact calculate_queueable h hfrm
  | @replay _ job _ _ hcan hk hsc hjs htgts =>
    refine h.grow hrefl htgts.grow (NewJob.grow ⟨hcan, fun kind scopeId hid => ?_, ?_⟩ hjs)
    · obtain ⟨target, hrow, rfl⟩ := hsc kind scopeId hid
      exact h.drawn kind target hrow
    · exact sweepsFenced_of_kind fun hdln => by
        rw [show job.request.kind = .replay from hk] at hdln
        cases hdln
  | @schedule _ job _ hcan hk hsc hjs htgts =>
    refine h.grow hrefl htgts.grow (NewJob.grow ⟨hcan, fun kind scopeId hid => ?_, ?_⟩ hjs)
    · rw [hsc kind] at hid
      cases hid
    · exact sweepsFenced_of_kind fun hdln => by
        rw [show job.request.kind = .retention from hk] at hdln
        cases hdln
  | other hjs htgts => exact h.evolve htgts (servedFairly_of_shrinks hjs) hrefl

/-- **No queued job has its cancellation requested**, in any state that is reached; from the time
it waits for on, the queue finds it for every worker that takes jobs of its kind. -/
theorem queued_not_cancelled
    (h : ReachedBy NoJobs (FencingStep auth keys retryDelay) (fun _ _ => True) w) {id : String}
    {job : JobRecord} (hget : w.db.jobs.get? id = some job) (hqueued : job.state = .queued) :
    job.cancelRequested = false ∧
      ∀ kinds now, job.kind ∈ kinds → job.notBefore ≤ now → eligible kinds now job = true := by
  have hinv : Queueable w := h.invariant (fun _ hnone => hnone.queueable)
    fun _ _ _ hqueueable _ hstep => hstep.queueable hqueueable
  have hcancel := hinv.queued id job hget hqueued
  refine ⟨hcancel, fun kinds now hkind hnow => ?_⟩
  simp [eligible, hqueued, hcancel, hkind, hnow]

end Steps

namespace SmallStore

def secondIds : ImportIdentifiers where
  importId := "00000000000000000000000000000012"
  jobId := jobId
  rawId := "60000000000000000000000000000001"
  operationId := operationId
  deletionScopeId := "10000000000000000000000000000012"

/-- The owner has submitted a second import. -/
def resubmitted : DeletionWorld := { undeleted with
  db := committed undeleted.db (recordSubmission undeleted.db upload 0 secondIds 0)
  drawn := secondIds.importId :: undeleted.drawn }

def sweepJobId : String := "30000000000000000000000000000009"

/-- The job of the import is leased; the account is fenced, and its deletion requested; then the
lease expires. -/
def fencedWhileLeased : List DeletionOperation :=
  .service (.lease [.importing] "worker-1" 0 "20000000000000000000000000000001") ::
    accountRequest ++
    [.recordRequested accountDeletion accountRequested sweepJobId
      "90000000000000000000000000000002" 1, .service (.rescue 60000000)]

/-- What is executed has no ordinary transaction in it. -/
theorem fencing_of_execute {w w' : DeletionWorld} {operations : List DeletionOperation}
    (h : w.execute keys noDelay (fun _ _ => True) operations = some w') :
    Runs (FencingStep auth keys noDelay) (fun _ _ => True) w w' := by
  induction operations generalizing w with
  | nil =>
    cases h
    exact Runs.refl _
  | cons operation rest ih =>
    obtain ⟨next, hnext, h⟩ := Option.bind_eq_some_iff.mp h
    have hoperation : operation ≠ .ordinary := by
      rintro rfl
      cases hnext
    rw [if_pos trivial] at h
    have hs := DeletionWorld.take_step hnext
    exact ((Runs.refl w).snoc trivial (.deletion hoperation hs)).trans (ih h)

theorem resubmitted_reached :
    ReachedBy NoJobs (FencingStep auth keys noDelay) (fun _ _ => True) resubmitted :=
  ⟨undeleted, ⟨undeleted_noDeletions, rfl⟩,
    (Runs.refl _).snoc trivial (.record (by decide) (by decide))⟩

end SmallStore

section

open SmallStore

/-- The account is fenced while the job of an import is leased.  That job ends when its lease
expires, and the job that sweeps the account is queued, and found. -/
theorem queued_not_cancelled_fenced :
    ∃ w, ReachedBy NoJobs (FencingStep auth keys noDelay) (fun _ _ => True) w ∧
      accountDeletion ∈ w.fences ∧
      (∃ job, w.db.jobs.get? jobId = some job ∧ job.cancelRequested = true ∧
        job.attemptCount = 1 ∧ job.state = .cancelled) ∧
      ∃ job, w.db.jobs.get? sweepJobId = some job ∧ job.state = .queued ∧
        job.cancelRequested = false ∧ eligible [.deletion] 60000000 job = true := by
  obtain ⟨w, hw, hfence, hended, job, hget, hqueued, hkind, hnow⟩ :
      ∃ w ∈ resubmitted.execute keys noDelay (fun _ _ => True) fencedWhileLeased,
        accountDeletion ∈ w.fences ∧
        (∃ job, w.db.jobs.get? jobId = some job ∧ job.cancelRequested = true ∧
          job.attemptCount = 1 ∧ job.state = .cancelled) ∧
        ∃ job, w.db.jobs.get? sweepJobId = some job ∧ job.state = .queued ∧
          job.kind = .deletion ∧ job.notBefore ≤ 60000000 := by decide +kernel
  obtain ⟨w₀, hstart, hrun⟩ := resubmitted_reached
  have hreached : ReachedBy NoJobs (FencingStep auth keys noDelay) (fun _ _ => True) w :=
    ⟨w₀, hstart, hrun.trans (fencing_of_execute hw)⟩
  obtain ⟨hcancel, heligible⟩ := queued_not_cancelled hreached hget hqueued
  exact ⟨w, hreached, hfence, hended, job, hget, hqueued, hcancel,
    heligible _ _ (by simp [hkind]) hnow⟩

end

end RateReplay
