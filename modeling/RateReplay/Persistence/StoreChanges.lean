import RateReplay.Persistence.DeletionSweep
import RateReplay.Persistence.JobFrame

/-!
# Changes of jobs together with their imports

Work on an import job moves the processing state of its import along: the import is processed
while the job is held, it is ready when the job has published its draft, and failed when the job
has failed.  Every transaction of the job service, of the import worker and of the scenarios is
a chain of changes of one job each, and of that job's import at most.

## Main definitions

* `JobStep` — what may become of a job.
* `JobChange`, `Works` — one job changes, with its import; and a chain of such changes.
* `ServiceWrite`, `ServiceWrites` — what a turn of the job service writes, and a chain of turns.
* `ServiceTurn`, `ServiceTurns` — what becomes of the jobs in a turn, and in a chain of turns.

## Main results

* `start_write`, `heartbeat_write`, `fail_write`, `cancel_write`, `completeSystem_write`,
  `rescueExpired_writes`, `leaseLoop_writes` — what the transactions of the job service write.
* `ServiceWrite.moves`, `ServiceWrite.turn` — **every job moves along its effects**, and nothing
  but jobs, attempts, audit events and the processing state of imports changes.
* `ServiceTurns.works` — **the job service works on one job at a time.**
* `publishDraft_works` — so does a publication.
-/

namespace RateReplay

/-! ### Changes -/

/-- What may become of a job: its request stays, it does not come back from its end, and a
cancellation is not requested without ending it. -/
structure JobStep (job job' : JobRecord) : Prop where
  request : job'.request = job.request
  terminal : job.state.terminal = true → job'.state.terminal = true
  cancelRequested : job'.cancelRequested = true →
    job.cancelRequested = true ∨ job'.state.terminal = true

/-- The draft of the import has been published. -/
def ImportRecord.settled (record : ImportRecord) : Bool :=
  record.state = .ready || record.state = .confirmed

/-- The second import is the first at another stage of its processing. -/
structure KeepsScope (record record' : ImportRecord) : Prop where
  ownerUserId : record'.ownerUserId = record.ownerUserId
  lifecycleState : record'.lifecycleState = record.lifecycleState
  lifecycleGeneration : record'.lifecycleGeneration = record.lifecycleGeneration
  profileVersionId : record'.profileVersionId = record.profileVersionId

/-- Work touches neither accounts nor sessions, raw objects, operations or profiles. -/
structure SameAccounts (db db' : Database) : Prop where
  users : db'.users = db.users
  sessions : db'.sessions = db.sessions
  rawObjects : db'.rawObjects = db.rawObjects
  operationRequests : db'.operationRequests = db.operationRequests
  profiles : db'.profiles = db.profiles

/-- What it adds is in none of the tables that hold scopes. -/
def JobInitializer.Frames (initializeNewJob : JobInitializer) : Prop :=
  ∀ db db' submission, initializeNewJob db submission = .ok db' →
    SameAccounts db db' ∧ db'.imports = db.imports ∧ db'.jobs = db.jobs

/-- The import of an import job moves with the job, which has not ended; it is settled only by
the end of the job, and while it is active. -/
def TakesImport (db db' : Database) (job job' : JobRecord) : Prop :=
  ∃ importId g, job.kind = .importing ∧ job.state.terminal = false ∧
    job.importId = some importId ∧ db'.imports = db.imports.modify importId g ∧
    (∀ record, KeepsScope record (g record)) ∧
    ∀ record, db.imports.get? importId = some record → (g record).settled = true →
      job'.state.terminal = true ∧ record.lifecycleState = .active

/-- One job changes, and its import at most. -/
inductive JobChange (db db' : Database) : Prop
  | mk {id : String} {job : JobRecord} {f : JobRecord → JobRecord}
      (hjob : db.jobs.get? id = some job) (hstep : JobStep job (f job))
      (hjobs : db'.jobs = db.jobs.modify id f)
      (himports : db'.imports = db.imports ∨ TakesImport db db' job (f job))
      (hrest : SameAccounts db db')

/-- A chain of such changes. -/
def Works (db db' : Database) : Prop := Relation.ReflTransGen JobChange db db'

section Changes

variable {db db' db'' : Database} {job : JobRecord}

theorem Works.refl (db : Database) : Works db db := Relation.ReflTransGen.refl

theorem Works.trans (h₁ : Works db db') (h₂ : Works db' db'') : Works db db'' :=
  Relation.ReflTransGen.trans h₁ h₂

theorem ServiceFrame.sameAccounts (h : ServiceFrame db db') : SameAccounts db db' := by
  refine ⟨h.users, ?_, ?_, ?_, h.profiles⟩
  · rw [h.rest]
  · rw [h.rest]
  · rw [h.rest]

theorem JobStep.live {job' : JobRecord} (hlive : job.state.terminal = false)
    (hreq : job'.request = job.request) (hcan : job'.cancelRequested = job.cancelRequested) :
    JobStep job job' := by
  refine ⟨hreq, fun hterm => ?_, fun hreqd => .inl (hcan ▸ hreqd)⟩
  rw [hlive] at hterm
  cases hterm

end Changes

/-! ### The job service -/

/-- What becomes of the job of a turn: it is held, it is queued again in its scope with attempts
left, or it is ended; in its scope it is ended only under the given condition. -/
inductive JobTurn (db : Database) (ends : Prop) (job job' : JobRecord) : Prop
  | held (hstate : job'.state.held = true)
  | requeued (hstate : job'.state = .queued) (hscope : scopeValid db job = true)
      (hbudget : job'.attemptCount < job'.maxAttempts)
  | ended (hstate : job'.state.terminal = true) (hends : scopeValid db job = true → ends)

/-- A turn changes nothing, or one job that has not ended, with its import. -/
inductive TurnChange (ends : String → JobRecord → Prop) (db db' : Database) : Prop
  | idle (h : db' = db)
  | job {id : String} {job : JobRecord} {f : JobRecord → JobRecord}
      (hjob : db.jobs.get? id = some job) (hstep : JobStep job (f job))
      (hturn : JobTurn db (ends id job) job (f job)) (hjobs : db'.jobs = db.jobs.modify id f)
      (himports : db'.imports = db.imports ∨ TakesImport db db' job (f job))

/-- A turn of the job service. -/
structure ServiceTurn (ends : String → JobRecord → Prop) (db db' : Database) : Prop where
  change : TurnChange ends db db'
  frame : ServiceFrame db db'

/-- A chain of such turns. -/
def ServiceTurns (ends : String → JobRecord → Prop) : Database → Database → Prop :=
  Relation.ReflTransGen (ServiceTurn ends)

/-! #### What is written -/

/-- The imports after a turn on a job: of its import, the processing state may have changed. -/
def ImportWrite (db : Database) (job : JobRecord) (imports : Dict String ImportRecord) : Prop :=
  imports = db.imports ∨ ∃ (before : Database) (g : ImportRecord → ImportRecord),
    before.imports = db.imports ∧ imports = (before.updateJobImport job g).imports ∧
      ∀ record, SameImport record (g record) ∧ (g record).settled = false

/-- A held job is written together with its current attempt, which is closed when the job is
released. -/
inductive AttemptWrite (ends : Prop) (db db' : Database) (id : String) (job : JobRecord)
    (f : JobRecord → JobRecord) (g : JobAttemptRecord → JobAttemptRecord) : Prop
  | mk {imports : Dict String ImportRecord} {auditEvents : Dict AuditTransition ℤ}
      (hdb : db' = { (db.updateJob id f).updateAttempt id job.fencingGeneration g with
        imports := imports
        auditEvents := auditEvents })
      (himports : ImportWrite db job imports) (hjob : db.jobs.get? id = some job)
      (hheld : job.state.held = true) (hturn : JobTurn db ends job (f job))
      (hclosed : (f job).state.held = true ∨ ∀ a, (g a).state.open_ = false := by
        exact .inr fun _ => rfl)
      (hrun : SameRun (f job) job := by exact ⟨rfl, rfl, rfl⟩)
      (hcancel : (f job).cancelRequested = job.cancelRequested := by rfl)
      (hg : ∀ a, (g a).jobId = a.jobId ∧ (g a).fencingGeneration = a.fencingGeneration := by
        exact fun _ => ⟨rfl, rfl⟩)

/-- What a turn writes: a held job with its attempt, a job that ends, or a queued job that is
leased; and of the import of an import job the processing state. -/
inductive ServiceWrite (R : JobView → JobView → Prop) (ends : String → JobRecord → Prop)
    (db db' : Database) : Prop
  | idle (hdb : db' = db)
  | attempt {id : String} {job : JobRecord} {f : JobRecord → JobRecord}
      {g : JobAttemptRecord → JobAttemptRecord}
      (h : AttemptWrite (ends id job) db db' id job f g)
  | ended {id : String} {job : JobRecord} {f : JobRecord → JobRecord}
      {imports : Dict String ImportRecord} {auditEvents : Dict AuditTransition ℤ}
      (hdb : db' = { db.updateJob id f with imports := imports, auditEvents := auditEvents })
      (hjob : db.jobs.get? id = some job) (hlive : job.state.terminal = false)
      (hstep : JobStep job (f job)) (hstate : (f job).state.terminal = true)
      (hends : scopeValid db job = true → ends id job)
      (hmove : R ⟨job, db.attemptsOf id⟩ ⟨f job, db.attemptsOf id⟩)
      (himports : ImportWrite db job imports)
  | leased {id workerId attemptId : String} {job : JobRecord} {now : ℤ}
      {imports : Dict String ImportRecord} {auditEvents : Dict AuditTransition ℤ}
      (hdb : db' = { db.updateJob id fun _ => job.leasedBy workerId now with
        attempts := db.attempts.set attemptId
          (attemptOf id (job.leasedBy workerId now) workerId now)
        imports := imports
        auditEvents := auditEvents })
      (hjob : db.jobs.get? id = some job) (hqueued : job.state = .queued)
      (hcancel : job.cancelRequested = false) (hbudget : job.attemptCount < job.maxAttempts)
      (hnew : db.attempts.get? attemptId = none) (himports : ImportWrite db job imports)

/-- A chain of turns. -/
def ServiceWrites (R : JobView → JobView → Prop) (ends : String → JobRecord → Prop) :
    Database → Database → Prop :=
  Relation.ReflTransGen (ServiceWrite R ends)

section Writes

variable {db db' : Database} {job : JobRecord} {imports : Dict String ImportRecord}
  {g : ImportRecord → ImportRecord} {job' : JobRecord}

section Updates

variable {before : Database} (h : before.imports = db.imports)
include h

theorem ImportWrite.failed {code : Option String} :
    ImportWrite db job (markImportTerminal before job code).imports :=
  .inr ⟨before, _, h, rfl, fun _ => ⟨rfl, rfl⟩⟩

theorem ImportWrite.queued : ImportWrite db job
    (before.updateJobImport job fun record => { record with state := .queued }).imports :=
  .inr ⟨before, _, h, rfl, fun _ => ⟨rfl, rfl⟩⟩

theorem ImportWrite.processing : ImportWrite db job
    (before.updateJobImport job fun record => { record with state := .processing }).imports :=
  .inr ⟨before, _, h, rfl, fun _ => ⟨rfl, rfl⟩⟩

end Updates

theorem updateJobImport_eq :
    db.updateJobImport job g = { db with imports := (db.updateJobImport job g).imports } := by
  unfold Database.updateJobImport
  split
  · split <;> rfl
  · rfl

theorem audited_updateJobImport {owner : Option String} {event : AuditEventType}
    {subject : AuditSubjectType} {subjectId : String} {sequence : ℕ} {now : ℤ} :
    appendAuditEvent (db.updateJobImport job g) owner event subject subjectId sequence now
      = { db with
        imports := (db.updateJobImport job g).imports
        auditEvents :=
          (appendAuditEvent db owner event subject subjectId sequence now).auditEvents } := by
  rw [updateJobImport_eq]
  rfl

/-- The import of the job is moved along, when it has one to move. -/
theorem ImportWrite.takes (h : ImportWrite db job imports) (hlive : job.state.terminal = false)
    (hims : db'.imports = imports) :
    db'.imports = db.imports ∨ TakesImport db db' job job' := by
  rcases h with hsame | ⟨before, g, hpre, hwrite, hg⟩
  · exact .inl (hims.trans hsame)
  · rw [← hpre]
    rw [hwrite] at hims
    unfold Database.updateJobImport at hims
    split at hims
    · rename_i hk
      split at hims
      · rename_i importId him
        refine .inr ⟨importId, g, hk, hlive, him, hpre ▸ hims, fun record => ?_,
          fun record _ hsett => ?_⟩
        · rw [(hg record).1]
          exact ⟨rfl, rfl, rfl, rfl⟩
        · rw [(hg record).2] at hsett
          cases hsett
      · exact .inl hims
    · exact .inl hims

theorem ImportWrite.frame (h : ImportWrite db job imports) (hims : db'.imports = imports)
    (hrest : db' = { db with
      jobs := db'.jobs
      attempts := db'.attempts
      imports := db'.imports
      auditEvents := db'.auditEvents }) : ServiceFrame db db' := by
  refine ⟨hrest, fun id => ?_⟩
  have hrefl := (ServiceFrame.refl db).imports
  rcases h with hsame | ⟨before, g, hpre, hwrite, hg⟩
  · rw [hims, hsame]
    exact hrefl id
  · rw [← hpre] at hrefl ⊢
    rw [hims, hwrite]
    unfold Database.updateJobImport
    split
    · split
      · rename_i importId _
        dsimp only
        rw [Dict.get?_modify]
        split
        · rename_i heq
          rw [heq]
          cases before.imports.get? importId with
          | none => exact .none
          | some record => exact .some (hg record).1
        · exact hrefl id
      · exact hrefl id
    · exact hrefl id

/-- Outside its scope a job is ended. -/
theorem JobTurn.fenced {ends : Prop} (hst : job'.state.terminal = true)
    (hsc : (!scopeValid db job) = true) : JobTurn db ends job job' := by
  refine .ended hst fun hv => ?_
  rw [hv] at hsc
  cases hsc

end Writes

/-! #### What a turn comes to -/

section Service

variable {db db' : Database} {lease : JobLease} {now : ℤ} {R : JobView → JobView → Prop}
  {ends : String → JobRecord → Prop} {attemptId jobId workerId : String} {kinds : List JobKind}
  {code : String} {retryable : Bool} {job : JobRecord}

theorem ServiceTurn.works (h : ServiceTurn ends db db') : Works db db' := by
  rcases h.change with rfl | ⟨hj, hs, -, hjs, hims⟩
  · exact Works.refl _
  · exact Relation.ReflTransGen.single (.mk hj hs hjs hims h.frame.sameAccounts)

theorem ServiceTurns.works (h : ServiceTurns ends db db') : Works db db' := by
  induction h with
  | refl => exact Works.refl db
  | tail _ hturn ih => exact ih.trans hturn.works

theorem ServiceTurns.frame (h : ServiceTurns ends db db') : ServiceFrame db db' := by
  induction h with
  | refl => exact ServiceFrame.refl db
  | tail _ hturn ih => exact ih.trans hturn.frame

theorem ServiceWrite.turn (h : ServiceWrite R ends db db') : ServiceTurn ends db db' := by
  cases h with
  | idle hdb =>
    rw [hdb]
    exact ⟨.idle rfl, ServiceFrame.refl db⟩
  | attempt h =>
    obtain ⟨rfl, hims, hj, hheld, hturn, -, hrun, hcan, -⟩ := h
    have hlive := terminal_of_held hheld
    exact ⟨.job hj (JobStep.live hlive hrun.request hcan) hturn rfl
      (hims.takes hlive rfl), hims.frame rfl rfl⟩
  | ended hdb hj hlive hs hst hends _ hims =>
    rw [hdb]
    exact ⟨.job hj hs (.ended hst hends) rfl (hims.takes hlive rfl),
      hims.frame rfl rfl⟩
  | @leased id workerId _ job now _ _ hdb hj hq _ _ _ hims =>
    have hlive : job.state.terminal = false := by
      rw [hq]
      rfl
    rw [hdb]
    exact ⟨.job (f := fun _ => job.leasedBy workerId now) hj (JobStep.live hlive rfl rfl)
      (.held rfl) rfl (hims.takes hlive rfl), hims.frame rfl rfl⟩

/-- **Every job moves along its effects.** -/
theorem ServiceWrite.moves (heff : ∀ v v', JobEffect v v' → R v v')
    (h : ServiceWrite R ends db db') : JobMoves R db db' := by
  cases h with
  | idle hdb =>
    rw [hdb]
    exact JobMoves.refl db
  | @attempt id job f g h =>
    obtain ⟨rfl, -, hj, hheld, -, hclosed, hrun, -, hg⟩ := h
    refine (jobMoves_update hj (fun a => (hg a).1) (heff _ _ ?_)).frame rfl rfl
    cases hst : (f job).state.held with
    | true => exact JobEffect.hold hheld hst hrun fun a => (hg a).2
    | false =>
      refine JobEffect.release hheld hst hrun (fun a => (hg a).2) (hclosed.resolve_left ?_)
      exact Bool.eq_false_iff.mp hst
  | ended hdb hj _ _ _ _ hmove _ =>
    rw [hdb]
    exact (jobMoves_updateJob hj hmove).frame rfl rfl
  | leased hdb hj hq hcan hbud hnew _ =>
    subst hdb
    exact (jobMoves_lease hj hq hcan hbud hnew rfl rfl).mono heff

theorem ServiceWrites.turns (h : ServiceWrites R ends db db') : ServiceTurns ends db db' :=
  Relation.ReflTransGen.mono (fun _ _ hwrite => hwrite.turn) _ _ h

theorem ServiceWrites.moves (heff : ∀ v v', JobEffect v v' → R v v')
    (h : ServiceWrites R ends db db') : JobMoves R db db' := by
  induction h with
  | refl => exact JobMoves.refl db
  | tail _ hwrite ih => exact ih.trans (hwrite.moves heff)

/-! #### The transactions -/

theorem start_write : ServiceWrite JobEffect (fun _ _ => False) db (start db lease now).2 := by
  unfold start
  split
  · exact .idle rfl
  · rename_i job hf
    obtain ⟨hj, hlsd, hmat, -⟩ := currentFencedJob_eq_some.mp hf
    rw [← leaseMatches_fencing hmat]
    exact .attempt (.mk (f := fun job => { job with state := .running })
      (g := fun attempt => { attempt with state := .running }) rfl (.inl rfl) hj
      (held_of_eq (.inl (of_decide_eq_true hlsd))) (.held rfl) (.inl rfl))

theorem start_works : Works db (start db lease now).2 := start_write.turn.works

theorem heartbeat_write :
    ServiceWrite JobEffect (fun _ _ => False) db (heartbeat db lease now).2 := by
  unfold heartbeat
  split
  · exact .idle rfl
  · rename_i job hj
    split
    · rename_i hguard
      simp only [Bool.and_eq_true] at hguard
      obtain ⟨⟨⟨hheld, hmat⟩, -⟩, -⟩ := hguard
      rw [← leaseMatches_fencing hmat]
      exact .attempt (.mk (f := fun job => { job with
        heartbeatAt := some now
        leaseExpiresAt := some (now + leaseDuration) })
        (g := fun attempt => { attempt with leaseExpiresAt := now + leaseDuration }) rfl (.inl rfl)
        hj hheld (.held hheld) (.inl hheld))
    · exact .idle rfl

/-- A failure that is recorded releases the job: it is queued again, failed or cancelled.  In its
scope it ends when the failure is final or no attempt is left. -/
theorem fail_eq {retryDelay : String → ℕ → ℤ} {recorded : Bool}
    (h : fail retryDelay db lease code retryable now = (recorded, db')) :
    recorded = false ∧ db' = db ∨ recorded = true ∧ ∃ job f g,
      AttemptWrite (db.jobs.get? lease.jobId = some job ∧
        ¬ (retryable = true ∧ job.attemptCount < job.maxAttempts)) db db' lease.jobId job f g ∧
      ((f job).state = .queued ∨ (f job).state = .failed ∨ (f job).state = .cancelled) := by
  unfold fail at h
  split at h
  · cases h
    exact .inl ⟨rfl, rfl⟩
  · rename_i job hj
    split at h
    · cases h
      exact .inl ⟨rfl, rfl⟩
    · rename_i hguard
      simp only [Bool.not_eq_true', Bool.not_eq_false, Bool.and_eq_true] at hguard
      obtain ⟨hheld, hmat⟩ := hguard
      rw [← leaseMatches_fencing hmat] at h
      split at h
      · rename_i hsc
        cases h
        exact .inr ⟨rfl, job, fun job => job.finishWithoutLease .cancelled "SCOPE_FENCED" now, _,
          .mk rfl (.inl rfl) hj hheld (.fenced rfl hsc), .inr (.inr rfl)⟩
      · rename_i hsc
        rw [Bool.not_eq_true', Bool.not_eq_false] at hsc
        split at h
        · rename_i hretry
          rw [Bool.and_eq_true, decide_eq_true_eq] at hretry
          cases h
          exact .inr ⟨rfl, job, fun job => { job.released with
            state := .queued
            notBefore := now + retryDelay lease.jobId job.attemptCount }, _,
            .mk audited_updateJobImport (.queued rfl) hj hheld (.requeued rfl hsc hretry.2),
            .inl rfl⟩
        · rename_i hretry
          rw [Bool.and_eq_true, decide_eq_true_eq] at hretry
          cases h
          exact .inr ⟨rfl, job, fun job => job.finishWithoutLease .failed
            (if retryable then "ATTEMPT_BUDGET_EXHAUSTED" else code) now, _,
            .mk audited_updateJobImport (.failed rfl) hj hheld
              (.ended rfl fun _ => ⟨hj, hretry⟩), .inr (.inl rfl)⟩

theorem fail_write {retryDelay : String → ℕ → ℤ} :
    ServiceWrite JobEffect (fun _ job => db.jobs.get? lease.jobId = some job ∧
        ¬ (retryable = true ∧ job.attemptCount < job.maxAttempts))
      db (fail retryDelay db lease code retryable now).2 := by
  rcases fail_eq (Prod.mk.eta (p := fail retryDelay db lease code retryable now)).symm with
    ⟨-, hdb⟩ | ⟨-, job, f, g, hwrite, -⟩
  · exact .idle hdb
  · exact .attempt hwrite

/-- A cancellation by the owner ends the job. -/
theorem JobStep.cancelledByOwner (job : JobRecord) : JobStep job (job.cancelledByOwner now) :=
  ⟨rfl, fun _ => rfl, fun _ => .inr rfl⟩

/-- A cancellation moves a job that has not ended, whatever it was doing. -/
theorem cancel_write {ownerUserId : String}
    (hmove : ∀ job, db.jobs.get? jobId = some job → job.ownerUserId = some ownerUserId →
      job.state.terminal = false →
      R ⟨job, db.attemptsOf jobId⟩ ⟨job.cancelledByOwner now, db.attemptsOf jobId⟩) :
    ServiceWrite R (fun _ job => db.jobs.get? jobId = some job)
      db (cancel db ownerUserId jobId now).2 := by
  unfold cancel
  split
  · exact .idle rfl
  · rename_i job hj
    split
    · exact .idle rfl
    · rename_i howner
      split
      · exact .idle rfl
      · rename_i hterm
        have hlive := Bool.eq_false_iff.mpr hterm
        exact .ended audited_updateJobImport hj hlive (JobStep.cancelledByOwner job) rfl
          (fun _ => hj) (hmove job hj (not_not.mp howner) hlive) (.failed rfl)

theorem completeSystem_write :
    ServiceWrite JobEffect (fun _ _ => True) db (committed db (completeSystem db lease now)) := by
  unfold completeSystem
  split
  · exact .idle rfl
  · split
    · exact .idle rfl
    · rename_i job hf
      obtain ⟨hj, hrun, hmat, -⟩ := currentFencedJob_eq_some.mp hf
      rw [← leaseMatches_fencing hmat]
      split
      · exact .idle rfl
      · exact .attempt (.mk (f := fun job =>
          { job.released with state := .succeeded, completedAt := some now }) rfl (.inl rfl) hj
          (held_of_eq (.inr (of_decide_eq_true hrun))) (.ended rfl fun _ => trivial))

/-! #### Rescuing and leasing -/

theorem rescueJob_write (hj : db.jobs.get? jobId = some job) (hheld : job.state.held = true)
    (hends : job.maxAttempts ≤ job.attemptCount → ends jobId job) :
    ServiceWrite JobEffect ends db (rescueJob now db jobId job) := by
  let close : JobAttemptRecord → JobAttemptRecord := fun attempt =>
    attempt.close .expired (some "LEASE_EXPIRED") now
  unfold rescueJob
  dsimp only
  split
  · rename_i hsc
    exact .attempt (.mk (f := fun job => job.finishWithoutLease .cancelled "SCOPE_FENCED" now)
      (g := close) rfl (.inl rfl) hj hheld (.fenced rfl hsc))
  · rename_i hsc
    rw [Bool.not_eq_true', Bool.not_eq_false] at hsc
    split
    · rename_i hbud
      exact .attempt (.mk (f := fun job =>
        job.finishWithoutLease .failed "ATTEMPT_BUDGET_EXHAUSTED" now) (g := close)
        audited_updateJobImport (.failed rfl) hj hheld (.ended rfl fun _ => hends hbud))
    · rename_i hbud
      exact .attempt (.mk (f := fun job =>
        { job.released with state := .queued, notBefore := now }) (g := close)
        audited_updateJobImport (.queued rfl) hj hheld
        (.requeued rfl hsc (not_le.mp hbud)))

/-- A rescue ends a job in its scope when no attempt is left. -/
theorem rescueExpired_writes :
    ServiceWrites JobEffect (fun id job => (id, job) ∈ db.jobs.entries ∧ expired now job = true ∧
      job.maxAttempts ≤ job.attemptCount) db (rescueExpired db now).2 :=
  rescueExpired_rel (I := fun _ => True) (fun _ => .refl) (fun _ _ _ => .trans)
    (fun _ _ _ _ hj hquery hexp =>
      ⟨.single (rescueJob_write hj (held_of_expired hexp) fun hbud =>
        ⟨Dict.get?_eq_some.mp hquery, hexp, hbud⟩), trivial⟩) trivial

/-- A queued job that is out of attempts. -/
def Exhausted (_ : String) (job : JobRecord) : Prop :=
  job.state = .queued ∧ job.maxAttempts ≤ job.attemptCount

/-- What a turn of the queue writes, and the lease that it hands out. -/
theorem leaseTurn_write {handed : Option JobLease} (hj : db.jobs.get? jobId = some job)
    (hq : job.state = .queued) (hcan : job.cancelRequested = false)
    (h : leaseTurn db workerId now attemptId jobId job = .ok (handed, db')) :
    ServiceWrite JobEffect Exhausted db db' ∧ ∀ lease, handed = some lease →
      lease = leaseOf jobId (job.leasedBy workerId now) workerId now ∧
        db'.jobs = db.jobs.modify jobId fun _ => job.leasedBy workerId now := by
  have hlive : job.state.terminal = false := by
    rw [hq]
    rfl
  unfold leaseTurn at h
  split at h
  · rename_i hsc
    cases h
    exact ⟨.ended (f := fun job => job.finishWithoutLease .cancelled "SCOPE_FENCED" now) rfl hj
      hlive (JobStep.live hlive rfl rfl) rfl (fun hv => absurd hv hsc)
      (.settle hq rfl ⟨rfl, rfl, rfl⟩) (.inl rfl), fun _ hls => nomatch hls⟩
  · split at h
    · rename_i hbud
      cases h
      exact ⟨.ended updateJobImport_eq hj hlive (JobStep.live hlive rfl rfl) rfl
        (fun _ => ⟨hq, hbud⟩) (.settle hq rfl ⟨rfl, rfl, rfl⟩) (.failed rfl),
        fun _ hls => nomatch hls⟩
    · rename_i hbud
      obtain ⟨recorded, hins, hres⟩ := bind_eq_ok.mp h
      cases hres
      obtain ⟨hnew, rfl⟩ := insertAttempt_eq_ok hins
      rw [updateJobImport_attempts] at hnew
      rw [updateJobImport_eq]
      refine ⟨.leased rfl hj hq hcan (not_le.mp hbud) hnew (.processing rfl), ?_⟩
      rintro _ ⟨⟩
      exact ⟨rfl, rfl⟩

theorem leaseLoop_writes {turns : ℕ} {result : Option JobLease × Database}
    (h : leaseLoop kinds workerId now attemptId turns db = .ok result) :
    ServiceWrites JobEffect Exhausted db result.2 := by
  refine leaseLoop_rel (fun _ => .refl) (fun _ _ _ => .trans)
    (fun s jobId job result hj helig hturn => ?_) h
  obtain ⟨hq, hcan⟩ := eligible_queued helig
  exact .single (leaseTurn_write hj hq hcan hturn).1

/-- The loop of `lease_next`, and the job whose lease it hands out. -/
theorem leaseLoop_works {turns : ℕ} {result : Option JobLease × Database}
    (h : leaseLoop kinds workerId now attemptId turns db = .ok result) :
    Works db result.2 ∧ ∀ lease, result.1 = some lease → ∃ job,
      result.2.jobs.get? lease.jobId = some job ∧
        lease = leaseOf lease.jobId job lease.workerId now := by
  refine ⟨(leaseLoop_writes h).turns.works, ?_⟩
  induction turns generalizing db with
  | zero =>
    cases h
    exact fun lease hls => by cases hls
  | succ turns ih =>
    rw [leaseLoop] at h
    split at h
    · cases h
      exact fun lease hls => by cases hls
    · rename_i jobId job hnext
      obtain ⟨hj, helig⟩ := nextEligible_eq_some hnext
      obtain ⟨hq, hcan⟩ := eligible_queued helig
      obtain ⟨⟨handed, db'⟩, hturn, hrest⟩ := bind_eq_ok.mp h
      cases handed with
      | none => exact ih hrest
      | some lease =>
        obtain ⟨rfl, hjs⟩ := (leaseTurn_write hj hq hcan hturn).2 lease rfl
        cases hrest
        rintro _ ⟨⟩
        refine ⟨job.leasedBy workerId now, ?_, rfl⟩
        show db'.jobs.get? jobId = _
        rw [hjs, Dict.get?_modify_self, hj]
        rfl

theorem leaseNext_works :
    Works db (committed db (leaseNext db kinds workerId now attemptId)) :=
  committed_of (Works.refl db) fun _ _ h => (leaseLoop_works h).1

end Service

/-! ### Publications and scenarios -/

section Publications

variable {db db' : Database} {lease : JobLease} {now : ℤ}

theorem publishDraft_works {importId : String} {draft : DraftRows} {workerId : String}
    {fencingGeneration : ℕ} (hk : ∀ jobId job, jobOfImport db importId = some (jobId, job) →
      ∀ record, db.imports.get? importId = some record → record.state = .processing →
        record.lifecycleState = .active → job.kind = .importing) :
    Works db (committed db (publishDraft db importId draft workerId fencingGeneration now)) := by
  refine committed_of (Works.refl db) fun published db' h => ?_
  rcases publishDraft_eq_ok h with ⟨-, rfl⟩ | ⟨-, jobId, job, record, readings, findings, hj,
    hrec, hpubl, rfl⟩
  · exact Works.refl _
  · obtain ⟨hrun, -, -, hproc, hact, -⟩ := publishable_iff.mp hpubl
    obtain ⟨hg, him⟩ := Dict.first_eq_some_get? hj
    have hlive : job.state.terminal = false := by
      rw [hrun]
      rfl
    refine Relation.ReflTransGen.single (.mk
      (f := fun job => { job with state := .succeeded, completedAt := some now }) hg
      (JobStep.live hlive rfl rfl) rfl (.inr ?_) ⟨rfl, rfl, rfl, rfl, rfl⟩)
    refine ⟨importId, fun record => { record with state := .ready, publishedAt := some now },
      hk jobId job hj record hrec hproc hact, hlive, of_decide_eq_true him,
      rfl, fun _ => ⟨rfl, rfl, rfl, rfl⟩, fun other hoth _ => ⟨rfl, ?_⟩⟩
    cases hrec.symm.trans hoth
    exact hact

end Publications

end RateReplay
