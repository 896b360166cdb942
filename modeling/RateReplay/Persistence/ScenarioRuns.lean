import RateReplay.Persistence.Queue

/-!
# Scenarios and their jobs

A scenario has a state of its own, which the worker that runs its job keeps in step with the
state of the job (`scenario_worker.py`).  The worker does so in transactions of its own: a run
takes the job, starts it, marks the scenario as running, and publishes a result or records a
failure, which it then carries over to the scenario.  A run may stop between any two of them.

A system is the database together with the runs that are under way.

## Main definitions

* `WorkerRun`, `ScenarioWorld` — the runs under way, and the system.
* `ScenarioOperation`, `ScenarioStep` — the transactions, and what a worker knows after them.
* `KeepsStep` — the steps that leave no scenario behind its job.

## Main results

* `ScenarioStep.consistent` — **what one step keeps.**
* `scenario_follows_job` — **a scenario ends as its job has ended**, when every step keeps it
  in step.
-/

namespace RateReplay

open Dict

/-! ### The system -/

/-- How far a run of the worker has come. -/
inductive WorkerStage
  | leased
  | started
  | marked
  /-- The failure of the job is recorded; the scenario is to follow. -/
  | failed
  deriving DecidableEq

structure WorkerRun where
  lease : JobLease
  stage : WorkerStage
  deriving DecidableEq

/-- The database, and the runs under way by process. -/
structure ScenarioWorld where
  db : Database
  runs : Dict ℕ WorkerRun

/-- The process is in no run any more. -/
def ScenarioWorld.leave (w : ScenarioWorld) (pid : ℕ) (db : Database) : ScenarioWorld :=
  ⟨db, w.runs.deleteWhere fun p _ => p = pid⟩

def ScenarioWorld.enter (w : ScenarioWorld) (pid : ℕ) (run : WorkerRun) (db : Database) :
    ScenarioWorld :=
  ⟨db, w.runs.set pid run⟩

/-- No worker is in the middle of a run. -/
def ScenarioWorld.Idle (w : ScenarioWorld) : Prop := w.runs.entries = []

/-- The arguments of `finalize` in `_publish`. -/
def ScenarioPublication.request (publication : ScenarioPublication) (lease : JobLease)
    (claimId : String) : FinalizeRequest where
  ownerUserId := publication.ownerUserId
  lease := lease
  semanticHash := publication.semanticHash
  calculationContractVersion := "verified-scenario-calculation-v1"
  resultType := "SCENARIO"
  resultId := publication.resultId
  artifactRegistrationIds := []
  claimId := claimId
  now := publication.now

/-- The worker leases a job; without one it goes on idling. -/
def ScenarioWorld.lease (w : ScenarioWorld) (pid : ℕ) (workerId : String) (now : ℤ)
    (attemptId : String) : ScenarioWorld :=
  match leaseNext w.db [.scenario] workerId now attemptId with
  | .ok (some lease, db) => w.enter pid ⟨lease, .leased⟩ db
  | .ok (none, db) => ⟨db, w.runs⟩
  | .error _ => w

/-- `start`; a worker that may not start leaves the job alone. -/
def ScenarioWorld.start (w : ScenarioWorld) (pid : ℕ) (lease : JobLease) (now : ℤ) :
    ScenarioWorld :=
  match RateReplay.start w.db lease now with
  | (true, db) => w.enter pid ⟨lease, .started⟩ db
  | (false, db) => w.leave pid db

/-- The first transaction of `finalize`; after an error the worker goes on with the second one
or with `fail`. -/
def ScenarioWorld.publish (w : ScenarioWorld) (pid : ℕ) (lease : JobLease)
    (publication : ScenarioPublication) (claimId : String) : ScenarioWorld :=
  match finalizeOnce w.db (publication.request lease claimId) (publishScenario publication) with
  | .ok (_, db) => w.leave pid db
  | .error _ => w

/-- The second transaction of `finalize`. -/
def ScenarioWorld.resolve (w : ScenarioWorld) (pid : ℕ) (lease : JobLease)
    (publication : ScenarioPublication) (claimId : String) : ScenarioWorld :=
  match resolveSemanticRace w.db (publication.request lease claimId) with
  | .ok (some _, db) => w.leave pid db
  | .ok (none, db) => ⟨db, w.runs⟩
  | .error _ => w

/-- `fail`; the scenario is to follow when the failure was recorded. -/
def ScenarioWorld.fail (retryDelay : String → ℕ → ℤ) (w : ScenarioWorld) (pid : ℕ)
    (lease : JobLease) (code : String) (retryable : Bool) (now : ℤ) : ScenarioWorld :=
  match RateReplay.fail retryDelay w.db lease code retryable now with
  | (true, db) => w.enter pid ⟨lease, .failed⟩ db
  | (false, db) => w.leave pid db

/-- The job of this identifier, if it is a scenario job. -/
def Database.scenarioJob (db : Database) (id : String) : Option JobRecord :=
  (db.jobs.get? id).filter (·.kind = .scenario)

/-- The result a scenario is answered with. -/
def scenarioResultOf (db : Database) (ownerUserId scenarioId : String) :
    Option (String × ScenarioResultRecord) :=
  db.scenarioResults.first fun _ result => result.scenarioId = scenarioId
    && result.ownerUserId = ownerUserId && result.lifecycleState = .active

inductive ScenarioOperation
  | submit (request : CalculationRequest) (content : ScenarioContent)
  | ensure (ownerUserId profileVersionId : String) (content : ScenarioContent) (now : ℤ)
      (calculation : CalculationSubmission)
  | cancel (ownerUserId scenarioId : String) (now : ℤ)
  | rescue (now : ℤ)
  | lease (pid : ℕ) (workerId : String) (now : ℤ) (attemptId : String)
  | start (pid : ℕ) (now : ℤ)
  | mark (pid : ℕ)
  | publish (pid : ℕ) (publication : ScenarioPublication) (claimId : String)
  | resolve (pid : ℕ) (publication : ScenarioPublication) (claimId : String)
  | fail (pid : ℕ) (code : String) (retryable : Bool) (now : ℤ)
  | sync (pid : ℕ)
  /-- The process stops in the middle of its run. -/
  | crash (pid : ℕ)
  /-- Any transaction of another component. -/
  | other

/-- One transaction, or the end of a process. -/
inductive ScenarioStep (retryDelay : String → ℕ → ℤ) (w : ScenarioWorld) :
    ScenarioOperation → ScenarioWorld → Prop
  | submit {request content} :
      ScenarioStep retryDelay w (.submit request content)
        ⟨committed w.db (submitScenario w.db request content), w.runs⟩
  | ensure {ownerUserId profileVersionId content now calculation} :
      ScenarioStep retryDelay w (.ensure ownerUserId profileVersionId content now calculation)
        ⟨committed w.db (ensureScenario w.db ownerUserId profileVersionId content now calculation),
          w.runs⟩
  | cancel {ownerUserId scenarioId now} :
      ScenarioStep retryDelay w (.cancel ownerUserId scenarioId now)
        ⟨committed w.db (cancelScenario w.db ownerUserId scenarioId now), w.runs⟩
  | rescue {now} :
      ScenarioStep retryDelay w (.rescue now) ⟨(rescueExpired w.db now).2, w.runs⟩
  | lease {pid workerId now attemptId} (hidle : w.runs.get? pid = none) :
      ScenarioStep retryDelay w (.lease pid workerId now attemptId)
        (w.lease pid workerId now attemptId)
  | start {pid lease now} (hrun : w.runs.get? pid = some ⟨lease, .leased⟩) :
      ScenarioStep retryDelay w (.start pid now) (w.start pid lease now)
  | mark {pid lease} (hrun : w.runs.get? pid = some ⟨lease, .started⟩) :
      ScenarioStep retryDelay w (.mark pid) (w.enter pid ⟨lease, .marked⟩ (markRunning w.db lease))
  | publish {pid} {lease : JobLease} {publication : ScenarioPublication} {claimId}
      (hrun : w.runs.get? pid = some ⟨lease, .marked⟩)
      (hjob : publication.jobId = lease.jobId) :
      ScenarioStep retryDelay w (.publish pid publication claimId)
        (w.publish pid lease publication claimId)
  | resolve {pid lease publication claimId} (hrun : w.runs.get? pid = some ⟨lease, .marked⟩) :
      ScenarioStep retryDelay w (.resolve pid publication claimId)
        (w.resolve pid lease publication claimId)
  | fail {pid lease code retryable now} (hrun : w.runs.get? pid = some ⟨lease, .marked⟩) :
      ScenarioStep retryDelay w (.fail pid code retryable now)
        (w.fail retryDelay pid lease code retryable now)
  | sync {pid} {lease : JobLease} (hrun : w.runs.get? pid = some ⟨lease, .failed⟩) :
      ScenarioStep retryDelay w (.sync pid) (w.leave pid (syncTerminalState w.db lease.jobId))
  | crash {pid} :
      ScenarioStep retryDelay w (.crash pid) (w.leave pid w.db)
  | other {db' : Database} (hjobs : ∀ id, db'.scenarioJob id = w.db.scenarioJob id)
      (hscenarios : db'.scenarios = w.db.scenarios)
      (hresults : db'.scenarioResults = w.db.scenarioResults) :
      ScenarioStep retryDelay w .other ⟨db', w.runs⟩

/-- A system without scenarios. -/
def NoScenarios (w : ScenarioWorld) : Prop :=
  (∀ id, w.db.scenarioJob id = none) ∧ w.db.scenarios = Dict.empty ∧ w.Idle

/-! ### Steps that keep a scenario in step -/

/-- The job may be tried once more. -/
def Retryable (db : Database) (job : JobRecord) : Prop :=
  scopeValid db job = true ∧ job.attemptCount < job.maxAttempts

/-- No other job has claimed the result that is published. -/
def Unclaimed (db : Database) (request : FinalizeRequest) : Prop :=
  ∀ job, db.jobs.get? request.lease.jobId = some job → job.state = .running →
    claimOf db request.ownerUserId job.kind request.semanticHash = none

/-- The steps that leave no scenario behind: a scenario job found by the rescue or by the queue
may be tried once more, a result is published by the first job of its hash, and no worker stops
between the end of a job and the scenario. -/
def KeepsStep (w : ScenarioWorld) : ScenarioOperation → Prop
  | .rescue now => ∀ id job, w.db.scenarioJob id = some job → expired now job = true →
    Retryable w.db job
  | .lease _ _ now _ => ∀ id job, w.db.scenarioJob id = some job →
    eligible [.scenario] now job = true → Retryable w.db job
  | .publish pid publication claimId | .resolve pid publication claimId =>
    ∀ run, w.runs.get? pid = some run → Unclaimed w.db (publication.request run.lease claimId)
  | .crash pid => ∀ run, w.runs.get? pid = some run → run.stage = .failed →
    ∀ job, w.db.jobs.get? run.lease.jobId = some job → job.state.terminal = false
  | _ => True

/-! ### Consistency -/

/-- Some worker has recorded the failure of the job, and the scenario is to follow. -/
def ScenarioWorld.Pending (w : ScenarioWorld) (jobId : String) : Prop :=
  ∃ pid run, w.runs.get? pid = some run ∧ run.stage = .failed ∧ run.lease.jobId = jobId

/-- The state of a scenario follows from that of its job. -/
def Follows (job : JobState) (scenario : ScenarioState) (retrievable pending : Prop) : Prop :=
  match job with
  | .succeeded => scenario = .succeeded ∧ retrievable
  | .failed => scenario = .failed ∨ scenario.terminal = false ∧ pending
  | .cancelled => scenario = .cancelled ∨ scenario.terminal = false ∧ pending
  | .queued | .leased | .running => scenario.terminal = false

/-- The result of the scenario can be retrieved. -/
def HasResult (db : Database) (id : String) (scenario : ScenarioRecord) : Prop :=
  (scenarioResultOf db scenario.ownerUserId id).isSome = true

/-- Every scenario job has one scenario, and every scenario follows its job. -/
structure ScenarioWorld.Consistent (w : ScenarioWorld) : Prop where
  linked : ∀ id job, w.db.scenarioJob id = some job →
    ∃ scenarioId scenario, w.db.scenarios.get? scenarioId = some scenario ∧ scenario.jobId = id
  unique : ∀ id₁ id₂ scenario₁ scenario₂, w.db.scenarios.get? id₁ = some scenario₁ →
    w.db.scenarios.get? id₂ = some scenario₂ → scenario₁.jobId = scenario₂.jobId → id₁ = id₂
  follows : ∀ id scenario, w.db.scenarios.get? id = some scenario →
    scenario.lifecycleState = .active ∧ ∃ job, w.db.scenarioJob scenario.jobId = some job ∧
      Follows job.state scenario.state (HasResult w.db id scenario) (w.Pending scenario.jobId)

section Follows

variable {job : JobState} {scenario : ScenarioState}
  {retrievable retrievable' pending pending' : Prop}

theorem Follows.mono (hretrievable : retrievable → retrievable') (hpend : pending → pending')
    (h : Follows job scenario retrievable pending) :
    Follows job scenario retrievable' pending' := by
  cases job with
  | queued | leased | running => exact h
  | succeeded => exact ⟨h.1, hretrievable h.2⟩
  | failed => exact h.imp id fun h => ⟨h.1, hpend h.2⟩
  | cancelled => exact h.imp id fun h => ⟨h.1, hpend h.2⟩

theorem follows_of_live (hj : job.terminal = false) :
    Follows job scenario retrievable pending ↔ scenario.terminal = false := by
  cases job with
  | queued | leased | running => exact Iff.rfl
  | succeeded | failed | cancelled => cases hj

/-- Only a failure or a cancellation can be pending, and only where the scenario is to end. -/
theorem Follows.of_settled
    (hsett : job ≠ .failed ∧ job ≠ .cancelled ∨ scenario.terminal = true)
    (h : Follows job scenario retrievable pending) :
    Follows job scenario retrievable pending' := by
  cases job with
  | queued | leased | running | succeeded => exact h
  | failed | cancelled =>
    refine .inl (h.resolve_right fun hlive => ?_)
    simp [hlive.1] at hsett

end Follows

section Jobs

variable {db db' db'' : Database} {job : JobRecord} {id : String} {jobId : String}

theorem scenarioJob_eq_some :
    db.scenarioJob id = some job ↔ db.jobs.get? id = some job ∧ job.kind = .scenario := by
  rw [Database.scenarioJob, Option.filter_eq_some_iff, decide_eq_true_eq]

theorem scenarioJob_of_modify {f : JobRecord → JobRecord} (hjs : db'.jobs = db.jobs.modify id f)
    (hk : ∀ job, db.jobs.get? id = some job → (f job).kind = job.kind) (j : String) :
    db'.scenarioJob j = if j = id then (db.scenarioJob id).map f else db.scenarioJob j := by
  rw [Database.scenarioJob, Database.scenarioJob, Database.scenarioJob, hjs, get?_modify]
  by_cases hj : j = id
  · rw [if_pos hj, if_pos hj]
    cases hjob : db.jobs.get? id with
    | none => rfl
    | some job => simp [Option.filter, hk job hjob]
  · rw [if_neg hj, if_neg hj]

/-- Scenario jobs that have not ended go on; the others stay as they are. -/
def LiveMove (db db' : Database) : Prop :=
  ∀ id, Option.Rel (fun job job' : JobRecord => job' = job ∨
    job.state.terminal = false ∧ job'.state.terminal = false)
    (db.scenarioJob id) (db'.scenarioJob id)

theorem LiveMove.of_eq (h : ∀ id, db'.scenarioJob id = db.scenarioJob id) : LiveMove db db' := by
  intro id
  rw [h id]
  exact rel_refl (fun _ => .inl rfl) _

theorem LiveMove.trans (h₁ : LiveMove db db') (h₂ : LiveMove db' db'') : LiveMove db db'' := by
  refine fun id => rel_comp (h₁ id) (h₂ id) fun a b c hab hbc => ?_
  rcases hbc with rfl | ⟨hb, hc⟩
  · exact hab
  · rcases hab with rfl | ⟨ha, -⟩
    · exact .inr ⟨hb, hc⟩
    · exact .inr ⟨ha, hc⟩

/-- One job goes on. -/
theorem LiveMove.of_modify {f : JobRecord → JobRecord} (hjob : db.jobs.get? id = some job)
    (hjs : db'.jobs = db.jobs.modify id f) (hk : (f job).kind = job.kind)
    (hlive : job.kind = .scenario → job.state.terminal = false ∧ (f job).state.terminal = false) :
    LiveMove db db' := by
  intro j
  have hk' : ∀ row, db.jobs.get? id = some row → (f row).kind = row.kind := by
    intro row hrow
    cases hjob.symm.trans hrow
    exact hk
  rw [scenarioJob_of_modify hjs hk']
  by_cases hj : j = id
  · rw [if_pos hj, hj]
    cases hsn : db.scenarioJob id with
    | none => exact .none
    | some job' =>
      obtain ⟨hjob', hk'⟩ := scenarioJob_eq_some.mp hsn
      cases hjob.symm.trans hjob'
      exact .some (.inr (hlive hk'))
  · rw [if_neg hj]
    exact LiveMove.of_eq (fun _ => rfl) j

/-! #### The guarded transactions -/

variable {now : ℤ}

/-- The jobs after one turn of the rescue. -/
theorem rescueJob_jobs :
    (rescueJob now db jobId job).jobs = db.jobs.modify jobId
      (if !scopeValid db job then fun row => row.finishWithoutLease .cancelled "SCOPE_FENCED" now
        else if job.maxAttempts ≤ job.attemptCount then
          fun row => row.finishWithoutLease .failed "ATTEMPT_BUDGET_EXHAUSTED" now
        else fun row => { row.released with state := .queued, notBefore := now }) := by
  unfold rescueJob
  dsimp only
  split
  · rfl
  · split
    · rw [appendAuditEvent_jobs, markImportTerminal, updateJobImport_jobs]
      rfl
    · rw [appendAuditEvent_jobs, updateJobImport_jobs]
      rfl

/-- A job that may be tried once more goes back to the queue. -/
theorem rescueJob_liveMove (hj : db.jobs.get? jobId = some job) (hheld : job.state.held = true)
    (hretry : job.kind = .scenario → Retryable db job) :
    LiveMove db (rescueJob now db jobId job) := by
  refine LiveMove.of_modify hj rescueJob_jobs ?_ fun hk => ?_
  · split
    · rfl
    · split <;> rfl
  · obtain ⟨hsc, hbud⟩ := hretry hk
    refine ⟨terminal_of_held hheld, ?_⟩
    rw [if_neg (by simp [hsc]), if_neg (not_le.mpr hbud)]
    rfl

/-- The turns of the rescue change no scope, so that what may be tried again stays so. -/
theorem rescueExpired_liveMove (hretry : ∀ id job, db.scenarioJob id = some job →
    expired now job = true → Retryable db job) : LiveMove db (rescueExpired db now).2 := by
  refine rescueExpired_rel (I := fun s => ∀ job, scopeValid s job = scopeValid db job)
    (fun _ => .of_eq fun _ => rfl) (fun _ _ _ => LiveMove.trans)
    (fun s jobId job hs hj hquery hexp => ?_) fun _ => rfl
  have hwrite : ServiceWrite JobEffect (fun _ _ => True) s (rescueJob now s jobId job) :=
    rescueJob_write hj (held_of_expired hexp) fun _ => trivial
  refine ⟨rescueJob_liveMove hj (held_of_expired hexp) fun hk => ?_,
    fun row => (hwrite.turn.frame.scopeValid_eq row).trans (hs row)⟩
  obtain ⟨hsc, hbud⟩ :=
    hretry jobId job (scenarioJob_eq_some.mpr ⟨hquery, hk⟩) hexp
  exact ⟨(hs job).trans hsc, hbud⟩

/-- The queue leases the first scenario it finds. -/
theorem leaseNext_liveMove {workerId attemptId : String} {lease : Option JobLease}
    (hretry : ∀ id job, db.scenarioJob id = some job → eligible [.scenario] now job = true →
      Retryable db job)
    (h : leaseNext db [.scenario] workerId now attemptId = .ok (lease, db')) :
    LiveMove db db' := by
  unfold leaseNext at h
  rw [leaseLoop] at h
  split at h
  · cases h
    exact .of_eq fun _ => rfl
  · rename_i jobId job hnext
    obtain ⟨hj, helig⟩ := nextEligible_eq_some hnext
    have hq := (eligible_queued helig).1
    have hk : job.kind = .scenario := by
      simp only [eligible, Bool.and_eq_true, decide_eq_true_eq, List.mem_singleton] at helig
      exact helig.2
    obtain ⟨hsc, hbud⟩ :=
      hretry jobId job (scenarioJob_eq_some.mpr ⟨hj, hk⟩) helig
    obtain ⟨⟨lease', db₁⟩, hturn, hrest⟩ := bind_eq_ok.mp h
    have hwrite := leaseTurn_write hj hq (eligible_queued helig).2 hturn
    cases lease' with
    | none =>
      -- a job that may be tried is not ended
      rw [leaseTurn, if_neg (by simp [hsc]), if_neg (not_le.mpr hbud)] at hturn
      obtain ⟨recorded, -, hres⟩ := bind_eq_ok.mp hturn
      cases hres
    | some lease' =>
      obtain ⟨-, hjs⟩ := hwrite.2 lease' rfl
      cases hrest
      exact LiveMove.of_modify hj hjs rfl fun _ => ⟨by rw [hq]; rfl, rfl⟩

theorem start_liveMove {lease : JobLease} : LiveMove db (start db lease now).2 := by
  unfold start
  split
  · exact .of_eq fun _ => rfl
  · rename_i job hf
    obtain ⟨hj, hlsd, -⟩ := currentFencedJob_eq_some.mp hf
    refine LiveMove.of_modify (f := fun job => { job with state := .running }) hj rfl rfl
      fun _ => ⟨?_, rfl⟩
    rw [of_decide_eq_true hlsd]
    rfl

end Jobs

/-! ### What a step keeps -/

section Consistent

variable {w w' : ScenarioWorld} {pid : ℕ} {run : WorkerRun} {db : Database} {id : String}
  {scenario : ScenarioRecord} {now : ℤ} {lease : JobLease} {claimId jobId ownerUserId : String}
  {content : ScenarioContent} {publication : ScenarioPublication}

theorem scenarioOf_eq_some (h : scenarioOf db jobId = some (id, scenario)) :
    db.scenarios.get? id = some scenario ∧ scenario.jobId = jobId := by
  obtain ⟨hg, hj⟩ := first_eq_some_get? h
  exact ⟨hg, of_decide_eq_true hj⟩

/-! #### Runs under way -/

theorem ScenarioWorld.Pending.enter
    (hstage : ∀ run', w.runs.get? pid = some run' → run'.stage ≠ .failed) (h : w.Pending id) :
    (w.enter pid run db).Pending id := by
  obtain ⟨p, run', hrun, hfailed, hj⟩ := h
  have hne : p ≠ pid := by
    intro heq
    exact hstage run' (heq ▸ hrun) hfailed
  exact ⟨p, run', by rw [ScenarioWorld.enter, get?_set_of_ne _ _ hne, hrun], hfailed, hj⟩

theorem ScenarioWorld.Pending.leave
    (hstage : ∀ run', w.runs.get? pid = some run' → run'.stage = .failed → run'.lease.jobId ≠ id)
    (h : w.Pending id) : (w.leave pid db).Pending id := by
  obtain ⟨p, run', hrun, hfailed, hj⟩ := h
  have hne : p ≠ pid := by
    intro heq
    exact hstage run' (heq ▸ hrun) hfailed hj
  exact ⟨p, run', by rw [ScenarioWorld.leave, get?_deleteWhere, hrun]; simp [hne], hfailed,
    hj⟩

/-! #### Changes of jobs, and of one scenario -/

section ConsistentMoves

variable (h : w.Consistent)

include h

/-- Jobs move, and every scenario still follows its job. -/
theorem ScenarioWorld.Consistent.of_jobs (hsns : w'.db.scenarios = w.db.scenarios)
    (hress : w'.db.scenarioResults = w.db.scenarioResults)
    (hmove : ∀ id, Option.Rel (fun job job' : JobRecord => ∀ scenarioId scenario,
      w.db.scenarios.get? scenarioId = some scenario → scenario.jobId = id →
      Follows job.state scenario.state (HasResult w.db scenarioId scenario) (w.Pending id) →
      Follows job'.state scenario.state (HasResult w.db scenarioId scenario) (w'.Pending id))
      (w.db.scenarioJob id) (w'.db.scenarioJob id)) : w'.Consistent := by
  refine ⟨fun id job' hj' => ?_, ?_, fun id scenario hsn => ?_⟩
  · rw [hsns]
    cases hj : w.db.scenarioJob id with
    | none =>
      rw [(rel_eq_none (hmove id)).mpr hj] at hj'
      cases hj'
    | some job => exact h.linked id job hj
  · rw [hsns]
    exact h.unique
  · rw [hsns] at hsn
    obtain ⟨hact, job, hj, hfol⟩ := h.follows id scenario hsn
    obtain ⟨job', hj', hmoved⟩ := rel_some (hj ▸ hmove scenario.jobId)
    refine ⟨hact, job', hj', ?_⟩
    rw [HasResult, scenarioResultOf, hress]
    exact hmoved id scenario hsn rfl hfol

/-- Jobs that have not ended go on. -/
theorem ScenarioWorld.Consistent.of_liveMove (hmove : LiveMove w.db w'.db)
    (hpend : ∀ id, w.Pending id → w'.Pending id) (hsns : w'.db.scenarios = w.db.scenarios)
    (hress : w'.db.scenarioResults = w.db.scenarioResults) : w'.Consistent := by
  refine h.of_jobs hsns hress fun id => ?_
  refine rel_mono (hmove id) fun job job' hab scenarioId scenario _ _ hfol => ?_
  rcases hab with rfl | ⟨hlive, hlive'⟩
  · exact hfol.mono (fun h => h) (hpend id)
  · exact (follows_of_live hlive').mpr ((follows_of_live hlive).mp hfol)

/-- One scenario changes, with its own job at most. -/
theorem ScenarioWorld.Consistent.of_scenario {f : ScenarioRecord → ScenarioRecord}
    (hsn : w.db.scenarios.get? id = some scenario)
    (hsns : w'.db.scenarios = w.db.scenarios.modify id f)
    (hsame : (f scenario).jobId = scenario.jobId ∧
      (f scenario).lifecycleState = scenario.lifecycleState)
    (hress : ∀ id' scenario', HasResult w.db id' scenario' → HasResult w'.db id' scenario')
    (hothers : ∀ j, j ≠ scenario.jobId → w'.db.scenarioJob j = w.db.scenarioJob j)
    (hpend : ∀ j, j ≠ scenario.jobId → w.Pending j → w'.Pending j)
    (hjob : ∃ job, w'.db.scenarioJob scenario.jobId = some job ∧
      Follows job.state (f scenario).state (HasResult w'.db id (f scenario))
        (w'.Pending scenario.jobId)) : w'.Consistent := by
  -- the scenarios afterwards, with their jobs as before
  have hrow : ∀ j row', w'.db.scenarios.get? j = some row' → ∃ row,
      w.db.scenarios.get? j = some row ∧ row'.jobId = row.jobId ∧
        (j = id ∧ row = scenario ∧ row' = f scenario ∨ j ≠ id ∧ row' = row) := by
    intro j row' hrow'
    rw [hsns, get?_modify] at hrow'
    by_cases hj : j = id
    · rw [if_pos hj, hsn] at hrow'
      cases hrow'
      exact ⟨scenario, hj ▸ hsn, hsame.1, .inl ⟨hj, rfl, rfl⟩⟩
    · rw [if_neg hj] at hrow'
      exact ⟨row', hrow', rfl, .inr ⟨hj, rfl⟩⟩
  refine ⟨fun j job' hjob' => ?_, fun id₁ id₂ row₁ row₂ h₁ h₂ heq => ?_, fun j row' hrow' => ?_⟩
  · by_cases hj : j = scenario.jobId
    · refine ⟨id, f scenario, ?_, hsame.1.trans hj.symm⟩
      rw [hsns, get?_modify_self, hsn]
      rfl
    · rw [hothers j hj] at hjob'
      obtain ⟨scenarioId, row, hg, hof⟩ := h.linked j job' hjob'
      have hne : scenarioId ≠ id := by
        intro heq
        rw [heq, hsn] at hg
        cases hg
        exact hj hof.symm
      exact ⟨scenarioId, row, by rw [hsns, get?_modify_of_ne _ _ hne, hg], hof⟩
  · obtain ⟨row₁', hget₁, hof₁, -⟩ := hrow id₁ row₁ h₁
    obtain ⟨row₂', hget₂, hof₂, -⟩ := hrow id₂ row₂ h₂
    exact h.unique id₁ id₂ row₁' row₂' hget₁ hget₂ (by rw [← hof₁, ← hof₂, heq])
  · obtain ⟨row, hg, hof, ⟨hj, hrow, hchanged⟩ | ⟨hj, hkept⟩⟩ := hrow j row' hrow'
    · obtain ⟨job, hjob, hfol⟩ := hjob
      rw [hchanged, hj]
      refine ⟨?_, job, by rw [hsame.1]; exact hjob, by rw [hsame.1]; exact hfol⟩
      rw [hsame.2]
      exact (h.follows id scenario hsn).1
    · rw [hkept]
      obtain ⟨hact, job, hjob, hfol⟩ := h.follows j row hg
      have hne : row.jobId ≠ scenario.jobId := by
        intro heq
        exact hj (h.unique j id row scenario hg hsn heq)
      exact ⟨hact, job, by rw [hothers _ hne, hjob],
        hfol.mono (hress j row) (hpend _ hne)⟩

/-- A queued job is inserted together with its scenario. -/
theorem ScenarioWorld.Consistent.of_submission {job : JobRecord}
    (hnewJob : w.db.jobs.get? jobId = none) (hjs : w'.db.jobs = w.db.jobs.set jobId job)
    (hjob : job.kind = .scenario ∧ job.state = .queued) (hnew : w.db.scenarios.get? id = none)
    (hsns : w'.db.scenarios = w.db.scenarios.set id scenario)
    (hsn : scenario.jobId = jobId ∧ scenario.lifecycleState = .active ∧ scenario.state = .queued)
    (hress : w'.db.scenarioResults = w.db.scenarioResults) (hruns : w'.runs = w.runs) :
    w'.Consistent := by
  obtain ⟨hk, hq⟩ := hjob
  obtain ⟨hof, hact, hst⟩ := hsn
  have hself : w'.db.scenarioJob jobId = some job := by
    rw [scenarioJob_eq_some, hjs, get?_set_self]
    exact ⟨rfl, hk⟩
  have hoth : ∀ j, j ≠ jobId → w'.db.scenarioJob j = w.db.scenarioJob j := by
    intro j hj
    rw [Database.scenarioJob, hjs, get?_set_of_ne _ _ hj]
    rfl
  -- a scenario that was there has its job, so the new job is not its job
  have hold : ∀ j row, w.db.scenarios.get? j = some row → row.jobId ≠ jobId := by
    intro j row hrow heq
    obtain ⟨-, job', hjob', -⟩ := h.follows j row hrow
    rw [heq, scenarioJob_eq_some, hnewJob] at hjob'
    cases hjob'.1
  have hrow : ∀ j row, w'.db.scenarios.get? j = some row →
      j = id ∧ row = scenario ∨ j ≠ id ∧ w.db.scenarios.get? j = some row := by
    intro j row hrow
    rw [hsns, get?_set] at hrow
    split at hrow
    · rename_i hj
      exact .inl ⟨hj, (Option.some.inj hrow).symm⟩
    · rename_i hj
      exact .inr ⟨hj, hrow⟩
  refine ⟨fun j job' hjob' => ?_, fun id₁ id₂ row₁ row₂ h₁ h₂ heq => ?_, fun j row hg => ?_⟩
  · by_cases hj : j = jobId
    · exact ⟨id, scenario, by rw [hsns, get?_set_self], hof.trans hj.symm⟩
    · rw [hoth j hj] at hjob'
      obtain ⟨scenarioId, row, hg, hrow⟩ := h.linked j job' hjob'
      have hne : scenarioId ≠ id := by
        intro heq
        rw [heq, hnew] at hg
        cases hg
      exact ⟨scenarioId, row, by rw [hsns, get?_set_of_ne _ _ hne, hg], hrow⟩
  · rcases hrow id₁ row₁ h₁ with ⟨rfl, rfl⟩ | ⟨hne₁, hget₁⟩
    · rcases hrow id₂ row₂ h₂ with ⟨rfl, -⟩ | ⟨hne₂, hget₂⟩
      · rfl
      · exact absurd (heq.symm.trans hof) (hold id₂ row₂ hget₂)
    · rcases hrow id₂ row₂ h₂ with ⟨rfl, rfl⟩ | ⟨hne₂, hget₂⟩
      · exact absurd (heq.trans hof) (hold id₁ row₁ hget₁)
      · exact h.unique id₁ id₂ row₁ row₂ hget₁ hget₂ heq
  · rcases hrow j row hg with ⟨rfl, rfl⟩ | ⟨hne, hg'⟩
    · refine ⟨hact, job, hof ▸ hself, ?_⟩
      rw [hq, hst]
      exact (follows_of_live rfl).mpr rfl
    · obtain ⟨hact', job', hjob', hfol⟩ := h.follows j row hg'
      refine ⟨hact', job', by rw [hoth _ (hold j row hg'), hjob'], ?_⟩
      rw [HasResult, scenarioResultOf, hress, ScenarioWorld.Pending, hruns]
      exact hfol

/-! #### The steps -/

theorem submit_consistent {request : CalculationRequest} :
    ScenarioWorld.Consistent
      ⟨committed w.db (submitScenario w.db request content), w.runs⟩ := by
  refine committed_of (P := fun db' => ScenarioWorld.Consistent ⟨db', w.runs⟩) h
    fun submission db' hok => ?_
  rcases submitCalculation_eq_ok hok with rfl | ⟨routeId, user, profile, imported, -, -,
    ⟨_, rfl⟩ | ⟨auditEvents, hnew, hsubmission, hini⟩⟩
  · exact h
  · exact h.of_liveMove (.of_eq fun _ => rfl) (fun _ hpend => hpend) rfl rfl
  · rcases initializeScenario_eq_ok hini with ⟨⟨⟨id, scenario⟩, hex⟩, -⟩ | ⟨job, state,
      loads, references, -, hj, -, -, hst, hfr, rfl⟩
    · -- a scenario of the new job would have its job already
      obtain ⟨hg, hof⟩ := scenarioOf_eq_some hex
      obtain ⟨-, job, hj, -⟩ := h.follows id scenario hg
      rw [hof, hsubmission, scenarioJob_eq_some, hnew] at hj
      cases hj.1
    · rw [hsubmission] at hj
      obtain rfl :
          calculationJob { request with jobKind := .scenario } user profile imported = job :=
        Option.some.inj ((get?_set_self _ _ _).symm.trans hj)
      cases hst
      exact h.of_submission hnew rfl ⟨rfl, rfl⟩ hfr rfl ⟨hsubmission, rfl, rfl⟩ rfl rfl

theorem ensure_consistent {profileVersionId : String} {calculation : CalculationSubmission} :
    ScenarioWorld.Consistent ⟨committed w.db
      (ensureScenario w.db ownerUserId profileVersionId content now calculation), w.runs⟩ := by
  refine committed_of (P := fun db' => ScenarioWorld.Consistent ⟨db', w.runs⟩) h
    fun u db' hok => ?_
  obtain ⟨initialized, hini, hres⟩ := bind_eq_ok.mp hok
  cases hres
  rcases initializeScenario_eq_ok hini with ⟨-, rfl⟩ | ⟨job, state, loads, references, hnone,
    hj, -, hk, -⟩
  · exact h
  · -- every scenario job has its scenario
    obtain ⟨id, scenario, hg, hof⟩ :=
      h.linked calculation.jobId job (scenarioJob_eq_some.mpr ⟨hj, hk⟩)
    have hfalse := first_eq_none.mp hnone id scenario (get?_eq_some.mp hg)
    exact absurd hof (of_decide_eq_false hfalse)

theorem cancel_consistent {scenarioId : String} :
    ScenarioWorld.Consistent
      ⟨committed w.db (cancelScenario w.db ownerUserId scenarioId now), w.runs⟩ := by
  refine committed_of (P := fun db' => ScenarioWorld.Consistent ⟨db', w.runs⟩) h
    fun u db' hok => ?_
  obtain ⟨scenario, job, hsn, hjob, -, rfl⟩ := cancelScenario_eq_ok hok
  have hmod : ∀ j, (w.db.updateJob scenario.jobId fun job =>
      job.cancelledByOwner now).scenarioJob j = if j = scenario.jobId
        then (w.db.scenarioJob scenario.jobId).map fun job => job.cancelledByOwner now
        else w.db.scenarioJob j :=
    scenarioJob_of_modify rfl fun _ _ => rfl
  refine h.of_scenario
    (f := fun scenario => { scenario with state := .cancelled, completedAt := some now })
    hsn rfl ⟨rfl, rfl⟩ (fun _ _ hres => hres) (fun j hj => (hmod j).trans (if_neg hj))
    (fun _ _ hpend => hpend) ?_
  obtain ⟨-, job', hjob', -⟩ := h.follows scenarioId scenario hsn
  refine ⟨job'.cancelledByOwner now, ?_, .inl rfl⟩
  refine (hmod scenario.jobId).trans ?_
  rw [if_pos rfl, hjob']
  rfl

end ConsistentMoves

/-- A run that has not recorded a failure leaves nothing pending. -/
theorem pending_of_stage {stage : WorkerStage} (hrun : w.runs.get? pid = some ⟨lease, stage⟩)
    (hstage : stage ≠ .failed) (id : String) (hpend : w.Pending id) :
    (w.leave pid db).Pending id ∧
      ∀ run, (w.enter pid run db).Pending id := by
  have hnot : ∀ run', w.runs.get? pid = some run' → run'.stage ≠ .failed := by
    intro run' hrun'
    cases hrun.symm.trans hrun'
    exact hstage
  exact ⟨hpend.leave fun run' hrun' hfailed => absurd hfailed (hnot run' hrun'),
    fun run => hpend.enter hnot⟩

theorem markRunning_consistent (h : w.Consistent) (hrun : w.runs.get? pid = some ⟨lease, .started⟩)
    : (w.enter pid ⟨lease, .marked⟩ (markRunning w.db lease)).Consistent := by
  have hpend : ∀ id db, w.Pending id → (w.enter pid ⟨lease, .marked⟩ db).Pending id := by
    intro id db hpend
    exact (pending_of_stage hrun (by decide) id hpend).2 _
  have hkept : (w.enter pid ⟨lease, .marked⟩ w.db).Consistent :=
    h.of_liveMove (.of_eq fun _ => rfl) (fun id => hpend id w.db) rfl rfl
  unfold markRunning
  split
  · rename_i job id scenario hj hsn
    split
    · rename_i hguard
      obtain ⟨hrunning, -, -, hq, -⟩ := hguard
      obtain ⟨hg, hof⟩ := scenarioOf_eq_some hsn
      refine h.of_scenario (f := fun scenario => { scenario with state := .running }) hg rfl
        ⟨rfl, rfl⟩ (fun _ _ hres => hres) (fun _ _ => rfl) (fun j _ => hpend j _) ?_
      obtain ⟨-, job', hj', -⟩ := h.follows id scenario hg
      refine ⟨job', hj', ?_⟩
      obtain rfl : job = job' := Option.some.inj
        (hj.symm.trans (hof ▸ (scenarioJob_eq_some.mp hj').1))
      rw [hrunning]
      exact (follows_of_live rfl).mpr rfl
    · exact hkept
  · exact hkept

theorem lease_consistent (h : w.Consistent) {workerId attemptId : String}
    (hidle : w.runs.get? pid = none) (hkp : KeepsStep w (.lease pid workerId now attemptId)) :
    (w.lease pid workerId now attemptId).Consistent := by
  unfold ScenarioWorld.lease
  split
  · rename_i lease db' hok
    have hfrm := (leaseLoop_writes hok).turns.frame
    refine h.of_liveMove (leaseNext_liveMove hkp hok)
      (fun id hpend => hpend.enter fun run' hrun' => ?_) hfrm.scenarios hfrm.scenarioResults
    rw [hidle] at hrun'
    cases hrun'
  · rename_i db' hok
    have hfrm := (leaseLoop_writes hok).turns.frame
    exact h.of_liveMove (leaseNext_liveMove hkp hok) (fun _ hpend => hpend) hfrm.scenarios
      hfrm.scenarioResults
  · exact h

theorem start_consistent (h : w.Consistent) (hrun : w.runs.get? pid = some ⟨lease, .leased⟩) :
    (w.start pid lease now).Consistent := by
  have hfrm : ServiceFrame w.db (RateReplay.start w.db lease now).2 := start_write.turn.frame
  have hmove : LiveMove w.db (RateReplay.start w.db lease now).2 := start_liveMove
  unfold ScenarioWorld.start
  generalize RateReplay.start w.db lease now = outcome at hfrm hmove
  obtain ⟨started, db'⟩ := outcome
  cases started with
  | true =>
    show (w.enter pid ⟨lease, .started⟩ db').Consistent
    exact h.of_liveMove hmove (fun id hp => (pending_of_stage hrun (by decide) id hp).2 _)
      hfrm.scenarios hfrm.scenarioResults
  | false =>
    show (w.leave pid db').Consistent
    exact h.of_liveMove hmove (fun id hp => (pending_of_stage hrun (by decide) id hp).1)
      hfrm.scenarios hfrm.scenarioResults

theorem HasResult.insert {db' : Database} {resultId : String} {result : ScenarioResultRecord}
    (hnew : db.scenarioResults.get? resultId = none)
    (hress : db'.scenarioResults = db.scenarioResults.set resultId result)
    (h : HasResult db id scenario) : HasResult db' id scenario := by
  obtain ⟨k, row, hg, hrow⟩ := first_isSome.mp h
  refine first_isSome.mpr ⟨k, row, ?_, hrow⟩
  have hne : k ≠ resultId := by
    intro heq
    rw [heq, hnew] at hg
    cases hg
  rw [hress, get?_set_of_ne _ _ hne, hg]

section ConsistentPublications

variable (h : w.Consistent)

include h

/-- **A first publication ends the scenario with its job.** -/
theorem publish_consistent (hrun : w.runs.get? pid = some ⟨lease, .marked⟩)
    (hof : publication.jobId = lease.jobId)
    (hunclaimed : Unclaimed w.db (publication.request lease claimId)) :
    (w.publish pid lease publication claimId).Consistent := by
  have hpend : ∀ id db, w.Pending id → (w.leave pid db).Pending id := by
    intro id db hp
    exact (pending_of_stage hrun (by decide) id hp).1
  unfold ScenarioWorld.publish
  split
  · rename_i result db' hok
    rcases finalizeOnce_eq_ok hok with rfl | ⟨job, hf, -, hcases⟩
    · exact h.of_liveMove (.of_eq fun _ => rfl) (fun id => hpend id _) rfl rfl
    · obtain ⟨hjob, hrunning, -⟩ := currentFencedJob_eq_some.mp hf
      have hnone := hunclaimed job hjob (of_decide_eq_true hrunning)
      rcases hcases with ⟨_, prior, hprior, -⟩ | ⟨-, hpub⟩
      · rw [hnone] at hprior
        cases hprior
      · -- the rows, the claim and the end of the job go in one transaction
        obtain ⟨published, claimed, hrows, hclm, hcomp⟩ := publishClaim_eq_ok hpub
        obtain ⟨scenario, hsn, hscenarioJob, ho, -, -, hnewResult, manifests, rfl⟩ :=
          publishScenarioRows_eq_ok hrows
        obtain ⟨-, rfl⟩ := insertClaim_eq_ok hclm
        obtain ⟨-, hdb'⟩ := completeJob_eq_ok.mp hcomp
        have hjs : db'.jobs = w.db.jobs.modify scenario.jobId fun row =>
            row.completedWith (newClaim (publication.request lease claimId) job)
              publication.now := by
          rw [hdb', hscenarioJob.trans hof]
          rfl
        have hsns : db'.scenarios = w.db.scenarios.modify publication.scenarioId
            fun scenario =>
              { scenario with state := .succeeded, completedAt := some publication.now } := by
          rw [hdb']
          rfl
        have hress : db'.scenarioResults
            = w.db.scenarioResults.set publication.resultId publication.result := by
          rw [hdb']
          rfl
        have hmod := scenarioJob_of_modify hjs fun _ _ => rfl
        refine h.of_scenario hsn hsns ⟨rfl, rfl⟩
          (fun _ _ hres => hres.insert hnewResult hress)
          (fun j hj => (hmod j).trans (if_neg hj)) (fun j _ => hpend j _) ?_
        obtain ⟨-, job', hjob', -⟩ := h.follows _ scenario hsn
        refine ⟨job'.completedWith (newClaim (publication.request lease claimId) job)
          publication.now, ?_, rfl, ?_⟩
        · refine (hmod scenario.jobId).trans ?_
          rw [if_pos rfl, hjob']
          rfl
        · refine first_isSome.mpr ⟨publication.resultId, publication.result, ?_, ?_⟩
          · exact (congrArg (·.get? publication.resultId) hress).trans (get?_set_self _ _ _)
          · simp [ScenarioPublication.result, ho]
  · exact h

theorem resolve_consistent (hunclaimed : Unclaimed w.db (publication.request lease claimId)) :
    (w.resolve pid lease publication claimId).Consistent := by
  have hnone : resolveSemanticRace w.db (publication.request lease claimId)
      = .ok (none, w.db) := by
    unfold resolveSemanticRace
    split
    · rename_i job priorId prior hf hprior
      obtain ⟨hj, hrun, hmat, -⟩ := currentFencedJob_eq_some.mp hf
      rw [← leaseMatches_kind hmat,
        hunclaimed job hj (of_decide_eq_true hrun)] at hprior
      cases hprior
    · rfl
  rw [ScenarioWorld.resolve, hnone]
  exact h

theorem fail_consistent {retryDelay : String → ℕ → ℤ} {code : String} {retryable : Bool}
    (hrun : w.runs.get? pid = some ⟨lease, .marked⟩) :
    (w.fail retryDelay pid lease code retryable now).Consistent := by
  have hfrm : ServiceFrame w.db
      (RateReplay.fail retryDelay w.db lease code retryable now).2 := fail_write.turn.frame
  unfold ScenarioWorld.fail
  cases hout : RateReplay.fail retryDelay w.db lease code retryable now with
  | mk recorded db' =>
    rw [hout] at hfrm
    rcases fail_eq hout with ⟨rfl, rfl⟩ | ⟨rfl, job, f, g, hwrite, hst⟩
    · show (w.leave pid w.db).Consistent
      exact h.of_liveMove (.of_eq fun _ => rfl)
        (fun id hp => (pending_of_stage hrun (by decide) id hp).1) rfl rfl
    · show (w.enter pid ⟨lease, .failed⟩ db').Consistent
      obtain ⟨hdb, -, hj, hheld, -, -, hsame, -, -⟩ := hwrite
      have hjs : db'.jobs = w.db.jobs.modify lease.jobId f := by
        rw [hdb]
        rfl
      have hmod := scenarioJob_of_modify hjs fun row hrow => by
        cases hj.symm.trans hrow
        exact congrArg JobRequest.kind hsame.request
      refine h.of_jobs hfrm.scenarios hfrm.scenarioResults fun id => ?_
      rw [ScenarioWorld.enter, hmod]
      by_cases hid : id = lease.jobId
      · rw [if_pos hid, hid]
        cases hscenarioJob : w.db.scenarioJob lease.jobId with
        | none => exact .none
        | some row =>
          obtain rfl : job = row :=
            Option.some.inj (hj.symm.trans (scenarioJob_eq_some.mp hscenarioJob).1)
          refine .some fun scenarioId scenario _ _ hfol => ?_
          -- the job was held, so its scenario is still to end, and this run will see to it
          have hlive := (follows_of_live (terminal_of_held hheld)).mp hfol
          have hpend : (w.enter pid ⟨lease, .failed⟩ db').Pending lease.jobId :=
            ⟨pid, ⟨lease, .failed⟩, get?_set_self _ _ _, rfl, rfl⟩
          rcases hst with hst | hst | hst
          · rw [hst]
            exact hlive
          · rw [hst]
            exact .inr ⟨hlive, hpend⟩
          · rw [hst]
            exact .inr ⟨hlive, hpend⟩
      · rw [if_neg hid]
        cases w.db.scenarioJob id with
        | none => exact .none
        | some row =>
          refine .some fun _ _ _ _ hfol => hfol.mono (fun hres => hres) fun hp => ?_
          exact (pending_of_stage hrun (by decide) id hp).2 _

/-- A run ends, and leaves behind no scenario whose job has ended. -/
theorem leave_consistent (hsett : ∀ run, w.runs.get? pid = some run → run.stage = .failed →
      ∀ id scenario job, w.db.scenarios.get? id = some scenario →
        scenario.jobId = run.lease.jobId → w.db.jobs.get? run.lease.jobId = some job →
        job.state ≠ .failed ∧ job.state ≠ .cancelled ∨ scenario.state.terminal = true) :
    (w.leave pid w.db).Consistent := by
  refine h.of_jobs rfl rfl fun id => ?_
  cases hj : w.db.scenarioJob id with
  | none =>
    rw [show (w.leave pid w.db).db.scenarioJob id = none from hj]
    exact .none
  | some job =>
    rw [show (w.leave pid w.db).db.scenarioJob id = some job from hj]
    refine .some fun scenarioId scenario hsn hof hfol => ?_
    by_cases hlast : ∃ run, w.runs.get? pid = some run ∧ run.stage = .failed ∧
        run.lease.jobId = id
    · obtain ⟨run, hrun, hfailed, rfl⟩ := hlast
      exact hfol.of_settled (hsett run hrun hfailed scenarioId scenario job hsn hof
        (scenarioJob_eq_some.mp hj).1)
    · refine hfol.mono (fun hres => hres) fun hp => hp.leave fun run hrun hfailed heq => ?_
      exact hlast ⟨run, hrun, hfailed, heq⟩

theorem crash_consistent (hkp : KeepsStep w (.crash pid)) :
    (w.leave pid w.db).Consistent := by
  refine leave_consistent h fun run hrun hfailed _ _ job _ _ hj => .inl ?_
  have hlive := hkp run hrun hfailed job hj
  constructor
  · intro heq
    rw [heq] at hlive
    cases hlive
  · intro heq
    rw [heq] at hlive
    cases hlive

theorem sync_consistent (hrun : w.runs.get? pid = some ⟨lease, .failed⟩) :
    (w.leave pid (syncTerminalState w.db lease.jobId)).Consistent := by
  -- where nothing is written, nothing was to be done
  have hkept : (∀ id scenario job, w.db.scenarios.get? id = some scenario →
      scenario.jobId = lease.jobId → w.db.jobs.get? lease.jobId = some job →
      job.state ≠ .failed ∧ job.state ≠ .cancelled ∨ scenario.state.terminal = true) →
      (w.leave pid w.db).Consistent := by
    intro hsett
    refine leave_consistent h fun run hrun' _ => ?_
    cases hrun.symm.trans hrun'
    exact hsett
  unfold syncTerminalState
  split
  · rename_i job id scenario hjob hfst
    obtain ⟨hsn, hof⟩ := scenarioOf_eq_some hfst
    obtain ⟨hact, job', hjob', -⟩ := h.follows id scenario hsn
    obtain rfl : job = job' :=
      Option.some.inj (hjob.symm.trans (hof ▸ (scenarioJob_eq_some.mp hjob').1))
    -- the scenario found is the only one of the job
    have honly : ∀ id' scenario', w.db.scenarios.get? id' = some scenario' →
        scenario'.jobId = lease.jobId → scenario' = scenario := by
      intro id' scenario' hsn' hof'
      obtain rfl := h.unique id' id scenario' scenario hsn' hsn (hof'.trans hof.symm)
      exact Option.some.inj (hsn'.symm.trans hsn)
    split
    · rename_i hnone
      refine hkept fun _ _ row _ _ hrow => .inl ?_
      cases hjob.symm.trans hrow
      constructor
      · intro hfailed
        simp [hfailed] at hnone
      · intro hcand
        simp [hcand] at hnone
    · rename_i state hst
      split
      · refine h.of_scenario
          (f := fun scenario => { scenario with state := state, completedAt := job.completedAt })
          hsn rfl ⟨rfl, rfl⟩ (fun _ _ hres => hres) (fun _ _ => rfl) ?_ ⟨job, hjob', ?_⟩
        · intro j hj hp
          refine hp.leave fun run hrun' _ heq => ?_
          cases hrun.symm.trans hrun'
          exact hj (heq.symm.trans hof.symm)
        · split at hst
          · rename_i hfailed
            cases hst
            rw [hfailed]
            exact .inl rfl
          · split at hst
            · rename_i hcand
              cases hst
              rw [hcand]
              exact .inl rfl
            · cases hst
      · rename_i hguard
        refine hkept fun id' scenario' _ hsn' hof' _ => .inr ?_
        rw [honly id' scenario' hsn' hof']
        by_contra hlive
        exact hguard ⟨hact, Bool.eq_false_iff.mpr hlive⟩
  · rename_i hnone
    refine hkept fun id' scenario' row hsn' hof' hrow => ?_
    -- the job is there, so no scenario was found
    cases hfst : scenarioOf w.db lease.jobId with
    | some e => exact absurd hfst (hnone row e.1 e.2 hrow)
    | none =>
      have hfalse := first_eq_none.mp hfst id' scenario' (get?_eq_some.mp hsn')
      exact absurd hof' (of_decide_eq_false hfalse)

/-- **What one step keeps**: every scenario follows its job. -/
theorem ScenarioStep.consistent {retryDelay : String → ℕ → ℤ} {operation : ScenarioOperation}
    (hkp : KeepsStep w operation) (hs : ScenarioStep retryDelay w operation w') :
    w'.Consistent := by
  cases hs with
  | submit => exact submit_consistent h
  | ensure => exact ensure_consistent h
  | cancel => exact cancel_consistent h
  | rescue =>
    exact h.of_liveMove (rescueExpired_liveMove hkp) (fun _ hpend => hpend)
      rescueExpired_writes.turns.frame.scenarios
      rescueExpired_writes.turns.frame.scenarioResults
  | lease hidle => exact lease_consistent h hidle hkp
  | start hrun => exact start_consistent h hrun
  | mark hrun => exact markRunning_consistent h hrun
  | publish hrun hj => exact publish_consistent h hrun hj (hkp _ hrun)
  | resolve hrun => exact resolve_consistent h (hkp _ hrun)
  | fail hrun => exact fail_consistent h hrun
  | sync hrun => exact sync_consistent h hrun
  | crash => exact crash_consistent h hkp
  | other hjs hsns hress =>
    exact h.of_liveMove (.of_eq hjs) (fun _ hpend => hpend) hsns hress

end ConsistentPublications

theorem NoScenarios.consistent (h : NoScenarios w) : w.Consistent := by
  obtain ⟨hjs, hsns, -⟩ := h
  refine ⟨fun id job hj => ?_, ?_, ?_⟩
  · rw [hjs id] at hj
    cases hj
  · intro id₁ id₂ scenario₁ scenario₂ h₁
    rw [hsns] at h₁
    cases h₁
  · intro id scenario hsn
    rw [hsns] at hsn
    cases hsn

/-- **A scenario ends as its job has ended**: in a system without runs under way, a scenario
whose job succeeded has succeeded with a result that can be retrieved, and one whose job failed
or was cancelled is in the same state. -/
theorem scenario_follows_job {retryDelay : String → ℕ → ℤ}
    (h : ReachedBy NoScenarios (ScenarioStep retryDelay) KeepsStep w) (hidle : w.Idle)
    {id : String} {scenario : ScenarioRecord} {job : JobRecord}
    (hscenario : w.db.scenarios.get? id = some scenario)
    (hjob : w.db.jobs.get? scenario.jobId = some job) :
    (job.state = .succeeded → scenario.state = .succeeded ∧
      ∃ resultId result, scenarioResultOf w.db scenario.ownerUserId id = some (resultId, result)) ∧
      (job.state = .failed → scenario.state = .failed) ∧
      (job.state = .cancelled → scenario.state = .cancelled) := by
  have hconsistent : w.Consistent :=
    h.invariant (fun _ hinit => hinit.consistent) fun _ _ _ hkept hkeeps hstep =>
      hstep.consistent hkept hkeeps
  have hnotPending : ∀ jobId, ¬ w.Pending jobId := by
    rintro jobId ⟨pid, run, hrun, -⟩
    have hmem := Dict.get?_eq_some.mp hrun
    rw [show w.runs.entries = [] from hidle] at hmem
    cases hmem
  obtain ⟨-, job', hjob', hfollows⟩ := hconsistent.follows id scenario hscenario
  obtain rfl : job = job' :=
    Option.some.inj (hjob.symm.trans (scenarioJob_eq_some.mp hjob').1)
  refine ⟨fun hstate => ?_, fun hstate => ?_, fun hstate => ?_⟩
  · rw [hstate] at hfollows
    obtain ⟨⟨resultId, result⟩, hresult⟩ := Option.isSome_iff_exists.mp hfollows.2
    exact ⟨hfollows.1, resultId, result, hresult⟩
  · rw [hstate] at hfollows
    exact hfollows.resolve_right fun hlate => hnotPending _ hlate.2
  · rw [hstate] at hfollows
    exact hfollows.resolve_right fun hlate => hnotPending _ hlate.2

end Consistent

/-! ### Runs of the small store -/

namespace SmallStore

/-- The scenario is submitted, and no worker is running. -/
def submittedWorld : ScenarioWorld := ⟨submitted, Dict.empty⟩

/-- The owner asks for the same scenario once more, before the first has a result. -/
def secondRequest : CalculationRequest :=
  { request with
    idempotencyKey := "scenario-2"
    jobId := "00000000000000000000000000000007"
    operationId := "00000000000000000000000000000008" }

def secondContent : ScenarioContent :=
  { scenarioContent with scenarioId := "00000000000000000000000000000009" }

def twiceSubmitted : ScenarioWorld :=
  ⟨committed submitted (submitScenario submitted secondRequest secondContent), Dict.empty⟩

/-- The lease a worker gets on the first attempt of a job. -/
def leaseOn (jobId : String) : JobLease where
  jobId := jobId
  importId := some importId
  workerId := "worker-1"
  attemptNumber := 1
  fencingGeneration := 1
  leaseExpiresAt := leaseDuration
  kind := .scenario
  profileVersionId := some profileId
  scopeMode := .activeScope

def publication (jobId scenarioId resultId manifestId : String) : ScenarioPublication where
  ownerUserId := owner
  scenarioId := scenarioId
  jobId := jobId
  resultId := resultId
  manifestId := manifestId
  profileVersionId := profileId
  operationRequestHash := digest '3'
  semanticHash := digest '4'
  resultHash := digest '6'
  resultJson := "\x7b\x7d"
  calculationHash := digest '7'
  manifestJson := "\x7b\x7d"
  now := 0

def firstPublication : ScenarioPublication :=
  publication jobId scenarioId "30000000000000000000000000000001"
    "30000000000000000000000000000002"

def secondPublication : ScenarioPublication :=
  publication secondRequest.jobId secondContent.scenarioId "30000000000000000000000000000003"
    "30000000000000000000000000000004"

section Run

variable (w : ScenarioWorld) (attemptId : String) (publication : ScenarioPublication)

/-! The stages of one run of the worker on the job of a publication. -/

def runLeased : ScenarioWorld := w.lease 0 "worker-1" 0 attemptId

def runStarted : ScenarioWorld :=
  (runLeased w attemptId).start 0 (leaseOn publication.jobId) 0

def runMarked : ScenarioWorld :=
  (runStarted w attemptId publication).enter 0 ⟨leaseOn publication.jobId, .marked⟩
    (markRunning (runStarted w attemptId publication).db (leaseOn publication.jobId))

def runPublished (claimId : String) : ScenarioWorld :=
  (runMarked w attemptId publication).publish 0 (leaseOn publication.jobId) publication claimId

variable {w attemptId publication} {claimId : String}
  {allowed : ScenarioWorld → ScenarioOperation → Prop}

theorem runPublished_reached
    (h : ReachedBy NoScenarios (ScenarioStep noDelay) allowed w)
    (hidle : w.runs.get? 0 = none)
    (hlsd : (runLeased w attemptId).runs.get? 0 = some ⟨leaseOn publication.jobId, .leased⟩)
    (hstd : (runStarted w attemptId publication).runs.get? 0
      = some ⟨leaseOn publication.jobId, .started⟩)
    (hls : allowed w (.lease 0 "worker-1" 0 attemptId))
    (hstart : allowed (runLeased w attemptId) (.start 0 0))
    (hmark : allowed (runStarted w attemptId publication) (.mark 0))
    (hpbl : allowed (runMarked w attemptId publication) (.publish 0 publication claimId)) :
    ReachedBy NoScenarios (ScenarioStep noDelay) allowed
      (runPublished w attemptId publication claimId) := by
  have hafterLease := h.snoc hls (.lease hidle)
  have hafterStart := hafterLease.snoc hstart (.start hlsd)
  have hafterMark := hafterStart.snoc hmark (.mark hstd)
  exact hafterMark.snoc hpbl (.publish (get?_set_self _ _ _) rfl)

end Run

/-- The first run publishes its result. -/
def published : ScenarioWorld :=
  runPublished submittedWorld "20000000000000000000000000000001" firstPublication
    "40000000000000000000000000000001"

/-- Two equal scenarios are run one after the other. -/
def bothRun : ScenarioWorld :=
  runPublished
    (runPublished twiceSubmitted "20000000000000000000000000000001" firstPublication
      "40000000000000000000000000000001")
    "20000000000000000000000000000002" secondPublication "40000000000000000000000000000002"

theorem submittedWorld_reached {allowed : ScenarioWorld → ScenarioOperation → Prop}
    (hsub : ∀ w request content, allowed w (.submit request content)) :
    ReachedBy NoScenarios (ScenarioStep noDelay) allowed submittedWorld := by
  have hinitial : NoScenarios ⟨initial, Dict.empty⟩ := ⟨fun _ => rfl, rfl, rfl⟩
  exact ReachedBy.snoc ⟨_, hinitial, Runs.refl _⟩ (hsub _ request scenarioContent) .submit

theorem bothRun_reached :
    ReachedBy NoScenarios (ScenarioStep noDelay) (fun _ _ => True) bothRun := by
  have hsubd : ReachedBy NoScenarios (ScenarioStep noDelay) (fun _ _ => True)
      submittedWorld := submittedWorld_reached fun _ _ _ => trivial
  have htwice : ReachedBy NoScenarios (ScenarioStep noDelay) (fun _ _ => True) twiceSubmitted :=
    hsubd.snoc trivial .submit
  refine runPublished_reached (runPublished_reached htwice ?_ ?_ ?_ trivial trivial trivial trivial)
    ?_ ?_ ?_ trivial trivial trivial trivial
  · decide +kernel
  · decide +kernel
  · decide +kernel
  · decide +kernel
  · decide +kernel
  · decide +kernel

end SmallStore

section

open SmallStore

/-- The scenario of the small store succeeds with its job. -/
theorem scenario_follows_job_published :
    ReachedBy NoScenarios (ScenarioStep noDelay) KeepsStep published ∧
      published.Idle ∧
      (published.db.jobs.get? jobId).map (·.state) = some .succeeded ∧
      ∃ scenario, published.db.scenarios.get? scenarioId = some scenario ∧
        scenario.state = .succeeded ∧ ∃ resultId result, scenarioResultOf published.db
          scenario.ownerUserId scenarioId = some (resultId, result) := by
  have hreached : ReachedBy NoScenarios (ScenarioStep noDelay) KeepsStep
      published := by
    refine runPublished_reached
      (submittedWorld_reached fun _ _ _ => trivial) (by decide +kernel)
      (by decide +kernel) (by decide +kernel) ?_ trivial trivial ?_
    · -- the only job has all its attempts left
      intro id job hjob _
      have hall : ∀ e ∈ submitted.jobs.entries, scopeValid submitted e.2 = true
          ∧ e.2.attemptCount < e.2.maxAttempts := by decide +kernel
      exact hall (id, job) (Dict.get?_eq_some.mp (scenarioJob_eq_some.mp hjob).1)
    · -- there is no claim yet
      intro run _ job _ _
      have hclaims : (runMarked submittedWorld
          "20000000000000000000000000000001" firstPublication).db.claims
          = Dict.empty := by decide +kernel
      rw [claimOf, hclaims]
      rfl
  have hidle : published.Idle := by
    unfold ScenarioWorld.Idle
    decide +kernel
  have hstates : (published.db.jobs.get? jobId).map (·.state)
        = some .succeeded ∧
      (published.db.scenarios.get? scenarioId).map (·.jobId)
        = some jobId := by decide +kernel
  obtain ⟨job, hjob, hstate⟩ := Option.map_eq_some_iff.mp hstates.1
  obtain ⟨scenario, hscenario, hof⟩ := Option.map_eq_some_iff.mp hstates.2
  refine ⟨hreached, hidle, hstates.1, scenario, hscenario, ?_⟩
  exact (scenario_follows_job hreached hidle hscenario (hof ▸ hjob)).1 hstate

/-- **A job that finds its result claimed leaves its scenario running**: of two equal scenarios
that are in flight together, the second succeeds with the result of the first, and its scenario
is neither ended nor given a result. -/
theorem second_scenario_left_behind :
    ReachedBy NoScenarios (ScenarioStep noDelay) (fun _ _ => True)
        bothRun ∧
      bothRun.Idle ∧
      (bothRun.db.jobs.get? secondRequest.jobId).map (·.state)
        = some .succeeded ∧
      (bothRun.db.scenarios.get? secondContent.scenarioId).map
          (fun scenario => (scenario.jobId, scenario.state))
        = some (secondRequest.jobId, .running) ∧
      scenarioResultOf bothRun.db owner secondContent.scenarioId
        = none := by
  refine ⟨bothRun_reached, ?_, ?_, ?_, ?_⟩
  · unfold ScenarioWorld.Idle
    decide +kernel
  · decide +kernel
  · decide +kernel
  · decide +kernel

end

end RateReplay
