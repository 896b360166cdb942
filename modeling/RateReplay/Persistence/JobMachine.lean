import RateReplay.Persistence.Jobs
import Mathlib.Data.Option.Basic
import Mathlib.Logic.Relation

/-!
# The job machine

What a transaction may do to a job, seen apart from the other tables: a job together with its
attempts.  A queued job is leased or settled; a held job is kept or released, and its current
attempt is closed when it is released; a terminal job does not move.  The transactions of
`JobService` move every job along these effects, with one exception: a cancellation ends a held
job and leaves its attempt open.

## Main definitions

* `JobView` — a job and its attempts, in the order in which they were made.
* `JobEffect` — the regular moves.
* `JobMoves` — each job of a database moves, none is created and none removed.

## Main results

* `jobMoves_update`, `jobMoves_updateJob`, `jobMoves_lease` — what is written of one job.
* `rescueExpired_rel`, `leaseLoop_rel` — **the loops of the job service by their turns.**
-/

namespace RateReplay

variable {job job' : JobRecord} {db : Database} {id : String}

open List

/-! ### Jobs and their attempts -/

/-- The columns of a job that are written once, when the job is submitted. -/
structure JobRequest where
  ownerUserId : Option String
  kind : JobKind
  requestSchemaVersion : String
  requestHash : String
  scopeMode : ScopeMode
  requestJson : String
  importId : Option String
  profileVersionId : Option String
  capturedAccountGeneration : ℕ
  capturedImportGeneration : Option ℕ
  capturedProfileGeneration : Option ℕ
  maxAttempts : ℕ
  requestedSemanticHash : Option String
  calculationContractVersion : Option String
  createdAt : ℤ

def JobRecord.request (job : JobRecord) : JobRequest where
  ownerUserId := job.ownerUserId
  kind := job.kind
  requestSchemaVersion := job.requestSchemaVersion
  requestHash := job.requestHash
  scopeMode := job.scopeMode
  requestJson := job.requestJson
  importId := job.importId
  profileVersionId := job.profileVersionId
  capturedAccountGeneration := job.capturedAccountGeneration
  capturedImportGeneration := job.capturedImportGeneration
  capturedProfileGeneration := job.capturedProfileGeneration
  maxAttempts := job.maxAttempts
  requestedSemanticHash := job.requestedSemanticHash
  calculationContractVersion := job.calculationContractVersion
  createdAt := job.createdAt

/-- The same request at the same attempt. -/
structure SameRun (job' job : JobRecord) : Prop where
  request : job'.request = job.request
  attemptCount : job'.attemptCount = job.attemptCount
  fencingGeneration : job'.fencingGeneration = job.fencingGeneration

theorem SameRun.maxAttempts (h : SameRun job' job) :
    job'.maxAttempts = job.maxAttempts :=
  congrArg JobRequest.maxAttempts h.request

structure JobView where
  job : JobRecord
  attempts : List JobAttemptRecord

/-- The attempts after an update of the current one. -/
def JobView.mapCurrent (v : JobView) (f : JobAttemptRecord → JobAttemptRecord) :
    List JobAttemptRecord :=
  v.attempts.map fun a => if a.fencingGeneration = v.job.fencingGeneration then f a else a

/-- The attempts of a job. -/
def Database.attemptsOf (db : Database) (id : String) : List JobAttemptRecord :=
  db.attempts.values.filter fun a => a.jobId = id

/-- A job with its attempts. -/
def Database.view (db : Database) (id : String) : Option JobView :=
  (db.jobs.get? id).map fun job => ⟨job, db.attemptsOf id⟩

theorem view_eq_some {v : JobView} :
    db.view id = some v ↔ db.jobs.get? id = some v.job ∧ v.attempts = db.attemptsOf id := by
  rw [Database.view, Option.map_eq_some_iff]
  constructor
  · rintro ⟨job, hj, rfl⟩
    exact ⟨hj, rfl⟩
  · rintro ⟨hj, hatt⟩
    exact ⟨v.job, hj, by rw [← hatt]⟩

theorem view_congr {db' : Database} (hj : db'.jobs.get? id = db.jobs.get? id)
    (hatt : db'.attemptsOf id = db.attemptsOf id) : db'.view id = db.view id := by
  rw [Database.view, Database.view, hj, hatt]

/-! ### The moves -/

/-- A regular move of a job. -/
inductive JobEffect (v : JobView) : JobView → Prop
  /-- A queued job is leased for its next attempt. -/
  | lease {jobId workerId now} (hqueued : v.job.state = .queued)
      (hcancel : v.job.cancelRequested = false) (hbudget : v.job.attemptCount < v.job.maxAttempts) :
      JobEffect v ⟨v.job.leasedBy workerId now,
        v.attempts ++ [attemptOf jobId (v.job.leasedBy workerId now) workerId now]⟩
  /-- A queued job ends. -/
  | settle {job' : JobRecord} (hqueued : v.job.state = .queued)
      (hstate : job'.state.terminal = true) (hsame : SameRun job' v.job) :
      JobEffect v ⟨job', v.attempts⟩
  /-- A held job stays held. -/
  | hold {job' : JobRecord} {f} (hheld : v.job.state.held = true) (hstate : job'.state.held = true)
      (hsame : SameRun job' v.job) (hf : ∀ a, (f a).fencingGeneration = a.fencingGeneration) :
      JobEffect v ⟨job', v.mapCurrent f⟩
  /-- A held job is released and its current attempt closed. -/
  | release {job' : JobRecord} {f}
      (hheld : v.job.state.held = true) (hstate : job'.state.held = false)
      (hsame : SameRun job' v.job) (hf : ∀ a, (f a).fencingGeneration = a.fencingGeneration)
      (hclosed : ∀ a, (f a).state.open_ = false) :
      JobEffect v ⟨job', v.mapCurrent f⟩

/-- A held job stays held, and its attempts stay as they are. -/
theorem JobEffect.keep {attempts : List JobAttemptRecord} (hheld : job.state.held = true)
    (hst : job'.state.held = true) (hsame : SameRun job' job) :
    JobEffect ⟨job, attempts⟩ ⟨job', attempts⟩ := by
  have heff := JobEffect.hold (v := ⟨job, attempts⟩) (f := fun a => a) hheld hst hsame
    fun _ => rfl
  have hatt : (⟨job, attempts⟩ : JobView).mapCurrent (fun a => a) = attempts := by
    simp [JobView.mapCurrent]
  rw [hatt] at heff
  exact heff

/-- Every job of the database moves along `R`; none is created and none is removed, and no
attempt appears where there is no job. -/
structure JobMoves (R : JobView → JobView → Prop) (db db' : Database) : Prop where
  views : ∀ id, Option.Rel (Relation.ReflTransGen R) (db.view id) (db'.view id)
  orphans : ∀ id, db.jobs.get? id = none → db'.attemptsOf id = db.attemptsOf id

section Moves

variable {R S : JobView → JobView → Prop} {db db' db'' : Database} {id : String}

/-- A transaction that leaves both tables alone moves no job. -/
theorem JobMoves.of_frame (hjs : db'.jobs = db.jobs) (hatt : db'.attempts = db.attempts) :
    JobMoves R db db' := by
  have hof : ∀ id, db'.attemptsOf id = db.attemptsOf id := by
    intro id
    rw [Database.attemptsOf, Database.attemptsOf, hatt]
  refine ⟨fun id => ?_, fun id _ => hof id⟩
  rw [view_congr (by rw [hjs]) (hof id)]
  exact rel_refl (fun _ => .refl) _

theorem JobMoves.refl (db : Database) : JobMoves R db db := JobMoves.of_frame rfl rfl

theorem JobMoves.get?_eq_none (h : JobMoves R db db') :
    db'.jobs.get? id = none ↔ db.jobs.get? id = none := by
  have hview := rel_eq_none (h.views id)
  rwa [Database.view, Database.view, Option.map_eq_none_iff, Option.map_eq_none_iff] at hview

theorem JobMoves.trans (h₁ : JobMoves R db db') (h₂ : JobMoves R db' db'') :
    JobMoves R db db'' := by
  refine ⟨fun id => ?_, fun id hid => ?_⟩
  · exact rel_comp (h₁.views id) (h₂.views id) fun _ _ _ => .trans
  · exact (h₂.orphans id (h₁.get?_eq_none.mpr hid)).trans (h₁.orphans id hid)

/-- What neither table shows is no move. -/
theorem JobMoves.frame (h : JobMoves R db db') (hjs : db''.jobs = db'.jobs)
    (hatt : db''.attempts = db'.attempts) : JobMoves R db db'' :=
  h.trans (JobMoves.of_frame hjs hatt)

theorem JobMoves.audit (h : JobMoves R db db') {owner : Option String} {event : AuditEventType}
    {subject : AuditSubjectType} {subjectId : String} {sequence : ℕ} {now : ℤ} :
    JobMoves R db (appendAuditEvent db' owner event subject subjectId sequence now) :=
  h.frame rfl rfl

theorem JobMoves.mono (himp : ∀ v v', R v v' → S v v') (h : JobMoves R db db') :
    JobMoves S db db' := by
  exact ⟨fun id => rel_mono (h.views id) (Relation.ReflTransGen.mono himp), h.orphans⟩

/-- What becomes of one job. -/
theorem JobMoves.get? (h : JobMoves R db db') {job : JobRecord} (hj : db.jobs.get? id = some job) :
    ∃ job', db'.jobs.get? id = some job' ∧
      Relation.ReflTransGen R ⟨job, db.attemptsOf id⟩ ⟨job', db'.attemptsOf id⟩ := by
  have h := h.views id
  rw [Database.view, hj] at h
  obtain ⟨v', hview', hmoves⟩ := rel_some h
  obtain ⟨hj', hatt⟩ := view_eq_some.mp hview'
  exact ⟨v'.job, hj', by rw [← hatt]; exact hmoves⟩

end Moves

/-! ### Updates of one job -/

section Updates

variable {R : JobView → JobView → Prop} {db db' : Database} {id : String} {job : JobRecord}
  {generation : ℕ}

/-! The tables a partial update leaves alone. -/

@[simp] theorem appendAuditEvent_jobs (owner : Option String) (event : AuditEventType)
    (subject : AuditSubjectType) (subjectId : String) (sequence : ℕ) (now : ℤ) :
    (appendAuditEvent db owner event subject subjectId sequence now).jobs = db.jobs := rfl

@[simp] theorem updateJobImport_jobs (job : JobRecord) (f : ImportRecord → ImportRecord) :
    (db.updateJobImport job f).jobs = db.jobs := by
  unfold Database.updateJobImport
  split
  · split <;> rfl
  · rfl

@[simp] theorem updateJobImport_attempts (job : JobRecord) (f : ImportRecord → ImportRecord) :
    (db.updateJobImport job f).attempts = db.attempts := by
  unfold Database.updateJobImport
  split
  · split <;> rfl
  · rfl

@[simp] theorem updateJob_jobs (f : JobRecord → JobRecord) :
    (db.updateJob id f).jobs = db.jobs.modify id f := rfl

@[simp] theorem updateAttempt_jobs (generation : ℕ) (f : JobAttemptRecord → JobAttemptRecord) :
    (db.updateAttempt id generation f).jobs = db.jobs := rfl

@[simp] theorem updateAttempt_attempts (generation : ℕ) (f : JobAttemptRecord → JobAttemptRecord) :
    (db.updateAttempt id generation f).attempts
      = db.attempts.modifyWhere (isAttempt id generation) f := rfl

theorem attemptsOf_updateAttempt {g : JobAttemptRecord → JobAttemptRecord}
    (hg : ∀ a, (g a).jobId = a.jobId) (j : String) :
    (db.updateAttempt id generation g).attemptsOf j = if j = id
      then (db.attemptsOf id).map fun a => if a.fencingGeneration = generation then g a else a
      else db.attemptsOf j := by
  have hvalues : (db.updateAttempt id generation g).attempts.values
      = db.attempts.values.map fun a => if isAttempt id generation "" a then g a else a := by
    rw [updateAttempt_attempts, Dict.values, Dict.modifyWhere, Dict.entries_mapValues,
      map_map, Dict.values, map_map]
    rfl
  -- the update keeps the job of an attempt, so it commutes with the selection
  have hkeep : ((fun a : JobAttemptRecord => decide (a.jobId = j)) ∘ fun a =>
      if isAttempt id generation "" a then g a else a) = fun a => decide (a.jobId = j) := by
    funext a
    by_cases ha : isAttempt id generation "" a = true
    · simp [ha, hg]
    · simp [ha]
  rw [Database.attemptsOf, hvalues, filter_map, hkeep]
  by_cases hj : j = id
  · rw [if_pos hj, hj, Database.attemptsOf]
    refine map_congr_left fun a ha => ?_
    have hjob : a.jobId = id := by simpa using (mem_filter.mp ha).2
    simp [isAttempt, hjob]
  · rw [if_neg hj, Database.attemptsOf]
    refine (map_congr_left fun a ha => if_neg ?_).trans (map_id _)
    have hjob : a.jobId = j := by simpa using (mem_filter.mp ha).2
    simp [isAttempt, hjob, hj]

/-- An update of one job and of one of its attempts. -/
theorem jobMoves_update {f : JobRecord → JobRecord} {g : JobAttemptRecord → JobAttemptRecord}
    (hjob : db.jobs.get? id = some job) (hg : ∀ a, (g a).jobId = a.jobId)
    (hmove : R ⟨job, db.attemptsOf id⟩ ⟨f job, (db.attemptsOf id).map fun a =>
      if a.fencingGeneration = generation then g a else a⟩) :
    JobMoves R db ((db.updateJob id f).updateAttempt id generation g) := by
  refine ⟨fun j => ?_, fun j hj => ?_⟩
  swap
  · -- only the attempts of a job that is there change
    have hne : j ≠ id := by
      intro heq
      rw [heq, hjob] at hj
      cases hj
    rw [attemptsOf_updateAttempt hg, if_neg hne]
    rfl
  rw [Database.view, Database.view, attemptsOf_updateAttempt hg, updateAttempt_jobs,
    updateJob_jobs, Dict.get?_modify]
  by_cases hj : j = id
  · rw [if_pos hj, if_pos hj, hj, hjob]
    exact .some (.single hmove)
  · rw [if_neg hj, if_neg hj]
    cases db.jobs.get? j with
    | none => exact .none
    | some job => exact .some .refl

/-- An update of one job only. -/
theorem jobMoves_updateJob {f : JobRecord → JobRecord} (hjob : db.jobs.get? id = some job)
    (hmove : R ⟨job, db.attemptsOf id⟩ ⟨f job, db.attemptsOf id⟩) :
    JobMoves R db (db.updateJob id f) := by
  refine ⟨fun j => ?_, fun _ _ => rfl⟩
  rw [Database.view, Database.view, updateJob_jobs, Dict.get?_modify]
  by_cases hj : j = id
  · rw [if_pos hj, hj, hjob]
    exact .some (.single hmove)
  · rw [if_neg hj]
    cases db.jobs.get? j with
    | none => exact .none
    | some job => exact .some .refl

/-- An update of every job that meets a condition. -/
theorem jobMoves_modifyWhere {p : String → JobRecord → Bool} {f : JobRecord → JobRecord}
    (hjs : db'.jobs = db.jobs.modifyWhere p f) (hatt : db'.attempts = db.attempts)
    (hmove : ∀ id job, db.jobs.get? id = some job → p id job = true →
      R ⟨job, db.attemptsOf id⟩ ⟨f job, db.attemptsOf id⟩) : JobMoves R db db' := by
  have hof : ∀ id, db'.attemptsOf id = db.attemptsOf id := by
    intro id
    rw [Database.attemptsOf, Database.attemptsOf, hatt]
  refine ⟨fun j => ?_, fun j _ => hof j⟩
  rw [Database.view, Database.view, hof, hjs, Dict.get?_modifyWhere]
  cases hj : db.jobs.get? j with
  | none => exact .none
  | some job =>
    refine .some ?_
    by_cases hp : p j job = true
    · simp only [hp, if_true]
      exact .single (hmove j job hj hp)
    · simp only [hp]
      exact .refl

end Updates

/-! ### Fences -/

section Fences

variable {db : Database} {lease : JobLease} {job : JobRecord} {now : ℤ}

theorem leaseMatches_fencing (h : leaseMatches job lease = true) :
    job.fencingGeneration = lease.fencingGeneration := by
  simp only [leaseMatches, Bool.and_eq_true, decide_eq_true_eq] at h
  exact h.1.1.1.1.2

theorem leaseMatches_kind (h : leaseMatches job lease = true) : job.kind = lease.kind := by
  simp only [leaseMatches, Bool.and_eq_true, decide_eq_true_eq] at h
  exact h.1.1.1.2

/-- What `current_fenced_job` guarantees. -/
theorem currentFencedJob_eq_some {expected : JobState → Bool} :
    currentFencedJob db lease now expected = some job ↔
      db.jobs.get? lease.jobId = some job ∧ expected job.state = true
        ∧ leaseMatches job lease = true ∧ leaseLive job now = true ∧ job.cancelRequested = false
        ∧ scopeValid db job = true := by
  rw [currentFencedJob, Option.filter_eq_some_iff]
  simp only [Bool.and_eq_true, Bool.not_eq_true', and_assoc]

/-- A lease of another generation than the job's holds no fence. -/
theorem currentFencedJob_of_stale {expected : JobState → Bool}
    (hj : db.jobs.get? lease.jobId = some job)
    (hstale : lease.fencingGeneration ≠ job.fencingGeneration) :
    currentFencedJob db lease now expected = none := by
  cases hf : currentFencedJob db lease now expected with
  | none => rfl
  | some job' =>
    obtain ⟨hj', -, hmat, -⟩ := currentFencedJob_eq_some.mp hf
    cases hj.symm.trans hj'
    exact absurd (leaseMatches_fencing hmat).symm hstale

end Fences

/-! ### The transactions of the job service -/

section Service

variable {db : Database} {lease : JobLease} {now : ℤ} {job : JobRecord}
  {attemptId jobId workerId : String} {kinds : List JobKind} {db' : Database} {state : JobState}
  {attempt : JobAttemptRecord}

theorem held_of_eq (h : state = .leased ∨ state = .running) :
    state.held = true := by
  rcases h with rfl | rfl <;> rfl

theorem terminal_of_held (h : state.held = true) : state.terminal = false := by
  cases state with
  | queued | leased | running => rfl
  | succeeded | failed | cancelled => cases h

/-- A job that a step has not ended had not ended before. -/
theorem live_of_step {job job' : JobRecord}
    (h : job.state.terminal = true → job'.state.terminal = true)
    (hlive : job'.state.terminal = false) : job.state.terminal = false := by
  rw [Bool.eq_false_iff] at hlive ⊢
  exact fun hended => hlive (h hended)

theorem SameRun.cancelledByOwner (job : JobRecord) : SameRun (job.cancelledByOwner now) job :=
  ⟨rfl, rfl, rfl⟩

/-! #### Rescuing -/

/-- A turn of the rescue leaves the other jobs as they are. -/
theorem rescueJob_get?_of_ne {j : String} (hj : j ≠ jobId) :
    (rescueJob now db jobId job).jobs.get? j = db.jobs.get? j := by
  unfold rescueJob
  dsimp only
  split
  · simp [Dict.get?_modify_of_ne _ _ hj]
  · split
    · simp [markImportTerminal, Dict.get?_modify_of_ne _ _ hj]
    · simp [Dict.get?_modify_of_ne _ _ hj]

theorem held_of_expired (h : expired now job = true) : job.state.held = true := by
  rw [expired, Bool.and_eq_true] at h
  exact h.1

/-- **The rescue by its turns**: a relation that every turn extends, at a row that is still the one
of the query and under what the turns keep, holds of the whole rescue. -/
theorem rescueExpired_rel {R : Database → Database → Prop} {I : Database → Prop}
    (hrefl : ∀ s, R s s) (htrans : ∀ s t u, R s t → R t u → R s u)
    (hturn : ∀ s jobId job, I s → s.jobs.get? jobId = some job → db.jobs.get? jobId = some job →
      expired now job = true → R s (rescueJob now s jobId job) ∧ I (rescueJob now s jobId job))
    (h : I db) :
    R db (rescueExpired db now).2 := by
  have hloop : ∀ rows : List (String × JobRecord), (rows.map Prod.fst).Nodup →
      (∀ e ∈ rows, db.jobs.get? e.1 = some e.2 ∧ expired now e.2 = true) → ∀ s, I s →
      (∀ e ∈ rows, s.jobs.get? e.1 = some e.2) →
      R s (rows.foldl (fun s e => rescueJob now s e.1 e.2) s) := by
    intro rows
    induction rows with
    | nil => exact fun _ _ s _ _ => hrefl s
    | cons e rows ih =>
      intro hnodup hquery s hs hrows
      rw [map_cons, nodup_cons] at hnodup
      obtain ⟨hrow, hexp⟩ := hquery e mem_cons_self
      rw [foldl_cons]
      obtain ⟨hmove, hnext⟩ := hturn s e.1 e.2 hs (hrows e mem_cons_self) hrow hexp
      refine htrans _ _ _ hmove (ih hnodup.2
        (fun e' he' => hquery e' (mem_cons_of_mem _ he')) _ hnext fun e' he' => ?_)
      have hne : e'.1 ≠ e.1 := fun heq => hnodup.1 (mem_map.mpr ⟨e', he', heq⟩)
      rw [rescueJob_get?_of_ne hne]
      exact hrows e' (mem_cons_of_mem _ he')
  have hquery : ∀ e ∈ db.jobs.entries.filter fun e => expired now e.2,
      db.jobs.get? e.1 = some e.2 ∧ expired now e.2 = true := fun e he =>
    ⟨Dict.get?_eq_some.mpr (mem_filter.mp he).1, (mem_filter.mp he).2⟩
  exact hloop _ (db.jobs.nodup.sublist (filter_sublist.map Prod.fst)) hquery db h
    fun e he => (hquery e he).1

/-! #### Leasing -/

theorem nextEligible_eq_some (h : nextEligible db kinds now = some (jobId, job)) :
    db.jobs.get? jobId = some job ∧ eligible kinds now job = true := by
  have hmem := mem_of_mem_head? (Option.mem_def.mpr h)
  rw [mem_sortedBy, mem_filter] at hmem
  exact ⟨Dict.get?_eq_some.mpr hmem.1, hmem.2⟩

theorem eligible_queued (h : eligible kinds now job = true) :
    job.state = .queued ∧ job.cancelRequested = false := by
  simp only [eligible, Bool.and_eq_true, decide_eq_true_eq, Bool.not_eq_true'] at h
  exact ⟨h.1.1.1, h.1.2⟩

theorem insertAttempt_eq_ok (h : insertAttempt db attemptId attempt = .ok db') :
    db.attempts.get? attemptId = none ∧
      db' = { db with attempts := db.attempts.set attemptId attempt } := by
  rw [insertAttempt, failIf_bind_eq_ok] at h
  obtain ⟨-, attempts, hins, hdb⟩ := h.imp id bind_eq_ok.mp
  obtain ⟨hnew, rfl⟩ := insertOrRaise_eq_ok.mp hins
  exact ⟨hnew, (Except.ok.inj hdb).symm⟩

theorem attemptsOf_insert (hnew : db.attempts.get? attemptId = none)
    (hatt : db'.attempts = db.attempts.set attemptId attempt) (id : String) :
    db'.attemptsOf id = db.attemptsOf id ++ if attempt.jobId = id then [attempt] else [] := by
  rw [Database.attemptsOf, hatt, Dict.values_set_of_not_mem _ hnew, filter_append]
  by_cases hid : attempt.jobId = id
  · simp [hid, Database.attemptsOf]
  · simp [hid, Database.attemptsOf]

theorem jobMoves_lease (hjob : db.jobs.get? jobId = some job) (hq : job.state = .queued)
    (hcan : job.cancelRequested = false) (hbud : job.attemptCount < job.maxAttempts)
    (hnew : db.attempts.get? attemptId = none)
    (hjs : db'.jobs = db.jobs.modify jobId fun _ => job.leasedBy workerId now)
    (hatt : db'.attempts = db.attempts.set attemptId
      (attemptOf jobId (job.leasedBy workerId now) workerId now)) :
    JobMoves JobEffect db db' := by
  have hof : (attemptOf jobId (job.leasedBy workerId now) workerId now).jobId = jobId := rfl
  refine ⟨fun j => ?_, fun j hj => ?_⟩
  swap
  · have hne : jobId ≠ j := by
      intro heq
      rw [← heq, hjob] at hj
      cases hj
    rw [attemptsOf_insert hnew hatt, hof, if_neg hne, append_nil]
  rw [Database.view, Database.view, attemptsOf_insert hnew hatt, hof, hjs,
    Dict.get?_modify]
  by_cases hj : j = jobId
  · rw [if_pos hj, if_pos hj.symm, hj, hjob]
    exact .some (.single (JobEffect.lease hq hcan hbud))
  · rw [if_neg hj, if_neg (Ne.symm hj), append_nil]
    cases db.jobs.get? j with
    | none => exact .none
    | some job => exact .some .refl

/-- **The loop of `lease_next` by its turns.** -/
theorem leaseLoop_rel {R : Database → Database → Prop} {turns : ℕ}
    {result : Option JobLease × Database} (hrefl : ∀ s, R s s)
    (htrans : ∀ s t u, R s t → R t u → R s u)
    (hturn : ∀ s jobId job result, s.jobs.get? jobId = some job → eligible kinds now job = true →
      leaseTurn s workerId now attemptId jobId job = .ok result → R s result.2)
    (h : leaseLoop kinds workerId now attemptId turns db = .ok result) : R db result.2 := by
  induction turns generalizing db with
  | zero =>
    cases h
    exact hrefl db
  | succ turns ih =>
    rw [leaseLoop] at h
    split at h
    · cases h
      exact hrefl db
    · rename_i jobId job hnext
      obtain ⟨hj, helig⟩ := nextEligible_eq_some hnext
      obtain ⟨⟨lease, db'⟩, hlsd, hrest⟩ := bind_eq_ok.mp h
      have hfst := hturn db jobId job _ hj helig hlsd
      cases lease with
      | some lease =>
        cases hrest
        exact hfst
      | none => exact htrans _ _ _ hfst (ih hrest)

end Service

end RateReplay
