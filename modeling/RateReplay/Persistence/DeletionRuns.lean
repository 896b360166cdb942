import RateReplay.Persistence.StoreRuns

/-!
# Runs of the deletion protocol

A deletion is carried by two stores that do not commit together: the database and the ledger.
Every transaction, every append and every read that a process acts on later is a step of its
own, so that processes interleave in any way, and a process that stops is one that takes no
further step.

What a process has decided to append stays in hand (`decided`), and so does what a sweep has read
(`opened`, `inspected`).  The world also keeps the history that results are about: what each
intent was made for, which fences have committed, which deletions have been completed.

## Main definitions

* `DeletionWorld`, `DeletionOperation`, `DeletionStep` — the system and its steps.
* `DeletionWorld.take`, `DeletionWorld.execute` — steps that are carried out.
* `TargetsEvolve` — accounts, imports and profiles only leave `ACTIVE`.
* `DeletionsEvolve` — and neither intents nor controls are added.

## Main results

* `DeletionWorld.take_step`, `DeletionWorld.execute_runs` — what is carried out is a run.
* `recordRequested_evolve`, `complete_evolve`, … — **once an intent is made and fenced, the
  transactions of a deletion only move on or take away.**
-/

namespace RateReplay

open Dict

/-! ### Targets -/

/-- The two are the same account, import or profile, at different times. -/
structure SameTarget (target' target : DeletionTarget) : Prop where
  id : target'.id = target.id
  ownerUserId : target'.ownerUserId = target.ownerUserId
  deletionScopeId : target'.deletionScopeId = target.deletionScopeId
  importId : target'.importId = target.importId

theorem SameTarget.refl (target : DeletionTarget) : SameTarget target target :=
  ⟨rfl, rfl, rfl, rfl⟩

theorem SameTarget.trans {a b c : DeletionTarget} (hab : SameTarget a b) (hbc : SameTarget b c) :
    SameTarget a c :=
  ⟨hab.id.trans hbc.id, hab.ownerUserId.trans hbc.ownerUserId,
    hab.deletionScopeId.trans hbc.deletionScopeId, hab.importId.trans hbc.importId⟩

/-- A target stays what it is, and does not become active again. -/
structure TargetStep (target target' : DeletionTarget) : Prop where
  same : SameTarget target' target
  active : target'.lifecycleState = .active → target' = target

theorem TargetStep.refl (target : DeletionTarget) : TargetStep target target :=
  ⟨.refl target, fun _ => rfl⟩

/-- Every target was there before. -/
def TargetsEvolve (db db' : Database) : Prop :=
  ∀ kind target', TargetRow db' target' kind →
    ∃ target, TargetRow db target kind ∧ TargetStep target target'

/-- The identifiers of targets have been drawn, and a scope is drawn for one target. -/
structure TargetsKnown (db : Database) (drawn : List String) : Prop where
  drawn : ∀ kind target, TargetRow db target kind →
    target.id ∈ drawn ∧ target.deletionScopeId ∈ drawn
  unique : ∀ kind kind' target target', TargetRow db target kind → TargetRow db target' kind' →
    target.deletionScopeId = target'.deletionScopeId → kind = kind' ∧ target.id = target'.id

section Targets

variable {db db' db'' : Database} {kind : TargetKind} {target : DeletionTarget}
  {target' : DeletionTarget} {drawn : List String} {id : String} {state : LifecycleState}
  {generation : ℕ} {now : ℤ}

theorem targetRow_congr (hus : db'.users = db.users) (hims : db'.imports = db.imports)
    (hpfs : db'.profiles = db.profiles) (kind : TargetKind) (target : DeletionTarget) :
    TargetRow db' target kind ↔ TargetRow db target kind := by
  cases kind with
  | account => rw [TargetRow, TargetRow, hus]
  | importing => rw [TargetRow, TargetRow, hims]
  | profile => rw [TargetRow, TargetRow, hpfs]

/-- A row is read as one target. -/
theorem TargetRow.eq_of_id (h : TargetRow db target kind) (h' : TargetRow db target' kind)
    (hid : target'.id = target.id) : target' = target := by
  cases kind <;>
  · obtain ⟨row, hrow, htgt⟩ := h
    obtain ⟨row', hrow', htgt'⟩ := h'
    rw [hid, hrow] at hrow'
    cases hrow'
    rw [htgt', htgt, hid]

/-- A row is found by its scope. -/
theorem TargetRow.targetByScope (h : TargetRow db target kind) (hknown : TargetsKnown db drawn) :
    RateReplay.targetByScope db kind target.deletionScopeId = some target := by
  have hfnd : (RateReplay.targetByScope db kind target.deletionScopeId).isSome = true := by
    cases kind <;>
    · obtain ⟨row, hrow, htgt⟩ := h
      simp only [RateReplay.targetByScope, Option.isSome_map]
      refine first_isSome.mpr ⟨target.id, row, hrow, decide_eq_true ?_⟩
      rw [htgt]
      rfl
  obtain ⟨found, hfnd⟩ := Option.isSome_iff_exists.mp hfnd
  obtain ⟨hsc, hrow⟩ := targetByScope_eq_some hfnd
  rw [hfnd, h.eq_of_id hrow (hknown.unique _ _ _ _ hrow h hsc).2]

theorem TargetsEvolve.of_same (h : (db'.users, db'.imports, db'.profiles)
    = (db.users, db.imports, db.profiles)) : TargetsEvolve db db' := by
  simp only [Prod.mk.injEq] at h
  obtain ⟨hus, hims, hpfs⟩ := h
  exact fun kind target' hrow =>
    ⟨target', (targetRow_congr hus hims hpfs kind target').mp hrow, .refl target'⟩

theorem TargetsEvolve.trans (h₁ : TargetsEvolve db db') (h₂ : TargetsEvolve db' db'') :
    TargetsEvolve db db'' := by
  intro kind target'' hrow
  obtain ⟨target', hrow', hs'⟩ := h₂ kind target'' hrow
  obtain ⟨target, hrow, hs⟩ := h₁ kind target' hrow'
  refine ⟨target, hrow, hs'.same.trans hs.same, fun hact => ?_⟩
  have hlast := hs'.active hact
  exact hlast.trans (hs.active (hlast ▸ hact))

/-- Rows are removed, and imports are changed in columns a deletion does not read. -/
theorem TargetsEvolve.of_rows
    (hus : ∀ id user, db'.users.get? id = some user → db.users.get? id = some user)
    (hims : ∀ id record', db'.imports.get? id = some record' →
      ∃ record, db.imports.get? id = some record ∧
        ImportRecord.target id record' = ImportRecord.target id record)
    (hpfs : ∀ id profile, db'.profiles.get? id = some profile →
      db.profiles.get? id = some profile) : TargetsEvolve db db' := by
  intro kind target' hrow
  refine ⟨target', ?_, .refl target'⟩
  cases kind with
  | account =>
    obtain ⟨user, huser, htgt⟩ := hrow
    exact ⟨user, hus _ user huser, htgt⟩
  | importing =>
    obtain ⟨record', hrec', htgt⟩ := hrow
    obtain ⟨record, hrec, hsame⟩ := hims _ record' hrec'
    exact ⟨record, hrec, htgt.trans hsame⟩
  | profile =>
    obtain ⟨profile, hpf, htgt⟩ := hrow
    exact ⟨profile, hpfs _ profile hpf, htgt⟩

/-- What the rows are after a lifecycle is set. -/
theorem targetRow_of_setLifecycle {kind' : TargetKind}
    (h : TargetRow (db.setLifecycle kind' id state generation) target' kind) :
    (kind = kind' ∧ target'.id = id ∧ target'.lifecycleState = state ∧
        target'.lifecycleGeneration = generation ∧
        ∃ target, TargetRow db target kind ∧ SameTarget target' target) ∨
      (¬ (kind = kind' ∧ target'.id = id) ∧ TargetRow db target' kind) := by
  by_cases hk : kind = kind'
  · subst hk
    by_cases hid : target'.id = id
    · left
      cases kind <;>
      · obtain ⟨row', hrow', htgt'⟩ := h
        obtain ⟨row, hrow, rfl⟩ := get?_of_modifyWhere hrow'
        rw [if_pos (decide_eq_true hid)] at htgt'
        refine ⟨rfl, hid, by rw [htgt']; rfl, by rw [htgt']; rfl, ?_⟩
        refine ⟨{ target' with
            lifecycleState := row.lifecycleState
            lifecycleGeneration := row.lifecycleGeneration }, ⟨row, hrow, ?_⟩, rfl, rfl, rfl, rfl⟩
        rw [htgt']
        rfl
    · right
      refine ⟨fun hboth => hid hboth.2, ?_⟩
      cases kind <;>
      · obtain ⟨row', hrow', htgt'⟩ := h
        obtain ⟨row, hrow, rfl⟩ := get?_of_modifyWhere hrow'
        rw [if_neg (by simpa using hid)] at htgt'
        exact ⟨row, hrow, htgt'⟩
  · refine .inr ⟨fun hboth => hk hboth.1, ?_⟩
    cases kind <;> cases kind' <;> first | exact absurd rfl hk | exact h

theorem setLifecycle_targetsEvolve (hst : state ≠ .active) :
    TargetsEvolve db (db.setLifecycle kind id state generation) := by
  intro kind' target' hrow
  rcases targetRow_of_setLifecycle hrow with ⟨-, -, hset, -, target, hrow, hsame⟩ | ⟨-, hrow⟩
  · exact ⟨target, hrow, hsame, fun hact => absurd (hset.symm.trans hact) hst⟩
  · exact ⟨target', hrow, .refl target'⟩

theorem Fenced.targetsEvolve {prepared : LedgerEvent} {intent : DeletionIntentRecord}
    (h : Fenced db db' prepared intent target now) :
    TargetsEvolve db db' := by
  intro kind target' hrow
  rw [targetRow_congr h.users h.imports h.profiles] at hrow
  exact setLifecycle_targetsEvolve (by decide) kind target' hrow

theorem SweepStarted.targetsEvolve {keys : DeletionKeys} {deletionId jobId : String}
    {control : DeletionControlOperationRecord}
    (h : SweepStarted keys db db' deletionId jobId control target now) : TargetsEvolve db db' := by
  intro kind target' hrow
  rw [targetRow_congr h.users h.imports h.profiles] at hrow
  exact setLifecycle_targetsEvolve (by decide) kind target' hrow

theorem TargetsKnown.evolve {drawn' : List String} (h : TargetsKnown db drawn)
    (hevo : TargetsEvolve db db') (hdr : drawn ⊆ drawn') : TargetsKnown db' drawn' where
  drawn kind target' hrow := by
    obtain ⟨target, hrow, hs⟩ := hevo kind target' hrow
    rw [hs.same.id, hs.same.deletionScopeId]
    exact ⟨hdr (h.drawn kind target hrow).1, hdr (h.drawn kind target hrow).2⟩
  unique kind kind' target target' hrow hrow' hsc := by
    obtain ⟨before, hpre, hs⟩ := hevo kind target hrow
    obtain ⟨before', hpre', hs'⟩ := hevo kind' target' hrow'
    rw [hs.same.deletionScopeId, hs'.same.deletionScopeId] at hsc
    rw [hs.same.id, hs'.same.id]
    exact h.unique _ _ _ _ hpre hpre' hsc

end Targets

/-! ### The system -/

/-- What an intent was made for, as the target was then. -/
structure Intention where
  deletionId : String
  kind : TargetKind
  target : DeletionTarget

structure DeletionWorld where
  db : Database
  ledger : List LedgerEvent
  /-- The identifiers drawn so far. -/
  drawn : List String
  /-- The appends that processes have decided on. -/
  decided : List LedgerArguments
  /-- The controls that sweeps have read. -/
  opened : List (JobLease × SweepScope)
  /-- The subordinate controls that sweeps have found. -/
  inspected : List (JobLease × List String)
  /-- What each intent was made for. -/
  intentions : List Intention
  /-- The deletions whose fence has committed. -/
  fences : List String
  /-- The deletions whose last transaction has committed. -/
  completions : List String

/-- The world after a transaction that leaves nothing else behind. -/
def DeletionWorld.commit (w : DeletionWorld) (db : Database) : DeletionWorld := { w with db := db }

/-- The transactions of the job service. -/
inductive QueueService
  | lease (kinds : List JobKind) (workerId : String) (now : ℤ) (attemptId : String)
  | start (lease : JobLease) (now : ℤ)
  | heartbeat (lease : JobLease) (now : ℤ)
  | fail (lease : JobLease) (code : String) (retryable : Bool) (now : ℤ)
  | cancel (ownerUserId jobId : String) (now : ℤ)
  | rescue (now : ℤ)

/-- The database after a transaction of the job service. -/
def QueueService.run (retryDelay : String → ℕ → ℤ) (db : Database) : QueueService → Database
  | .lease kinds workerId now attemptId =>
    committed db (leaseNext db kinds workerId now attemptId)
  | .start held now => (RateReplay.start db held now).2
  | .heartbeat held now => (RateReplay.heartbeat db held now).2
  | .fail held code retryable now => (RateReplay.fail retryDelay db held code retryable now).2
  | .cancel ownerUserId jobId now => (RateReplay.cancel db ownerUserId jobId now).2
  | .rescue now => (rescueExpired db now).2

theorem QueueService.frame (retryDelay : String → ℕ → ℤ) (db : Database)
    (service : QueueService) : ServiceFrame db (service.run retryDelay db) := by
  cases service with
  | lease => exact committed_of (.refl db) fun _ _ h => (leaseLoop_writes h).turns.frame
  | start => exact start_write.turn.frame
  | heartbeat => exact heartbeat_write.turn.frame
  | fail => exact fail_write.turn.frame
  | cancel => exact (cancel_write (R := fun _ _ => True) fun _ _ _ _ => trivial).turn.frame
  | rescue => exact rescueExpired_writes.turns.frame

/-- What a transaction that is not about deletions does: it leaves every target and the
bookkeeping of deletions alone, works on no sweep job, and adds targets under identifiers that
were not drawn before. -/
structure OrdinaryChange (w : DeletionWorld) (db' : Database) (drawn' : List String) : Prop where
  intents : db'.intents = w.db.intents
  controls : db'.controls = w.db.controls
  ledgerReceipts : db'.ledgerReceipts = w.db.ledgerReceipts
  drawn : w.drawn ⊆ drawn'
  kept : ∀ kind target, TargetRow w.db target kind → TargetRow db' target kind
  grown : ∀ kind target, TargetRow db' target kind →
    TargetRow w.db target kind ∨ (target.id ∉ w.drawn ∧ target.deletionScopeId ∉ w.drawn)
  known : TargetsKnown db' drawn'
  sweepJobs : ∀ id job, job.kind = .deletion →
    (db'.jobs.get? id = some job ↔ w.db.jobs.get? id = some job)

section Ordinary

variable {w : DeletionWorld} {db db' : Database} {now : ℤ} {id : String} {target : DeletionTarget}

/-- A row is added. -/
theorem targetRow_set {α : Type} {table : Dict String α} {toTarget : String → α → DeletionTarget}
    {row : α} (hid : ∀ id row, (toTarget id row).id = id) (hnew : table.get? id = none) :
    (∃ found, (table.set id row).get? target.id = some found ∧
        target = toTarget target.id found) ↔
      (∃ found, table.get? target.id = some found ∧ target = toTarget target.id found) ∨
        toTarget id row = target := by
  rw [get?_set]
  by_cases h : target.id = id
  · subst h
    simp [hnew, eq_comm]
  · have hne : toTarget id row ≠ target := fun heq => h (heq ▸ hid id row)
    simp [h, hne]

/-- An import is rewritten in columns a deletion does not read. -/
theorem targetRow_modify {f : ImportRecord → ImportRecord} (hus : db'.users = db.users)
    (hims : db'.imports = db.imports.modify id f) (hpfs : db'.profiles = db.profiles)
    (hf : ∀ id record, ImportRecord.target id (f record) = ImportRecord.target id record)
    (kind : TargetKind) (target : DeletionTarget) :
    TargetRow db' target kind ↔ TargetRow db target kind := by
  cases kind with
  | account => rw [TargetRow, TargetRow, hus]
  | profile => rw [TargetRow, TargetRow, hpfs]
  | importing =>
    rw [TargetRow, TargetRow, hims, Dict.modify, get?_modifyWhere]
    by_cases h : target.id = id
    · simp [h, hf]
    · simp [h]

theorem sweepJobs_set {jobs : Dict String JobRecord} {job : JobRecord}
    (hnew : jobs.get? id = none) (hk : job.kind ≠ .deletion) (id' : String) (job' : JobRecord)
    (hk' : job'.kind = .deletion) :
    (jobs.set id job).get? id' = some job' ↔ jobs.get? id' = some job' := by
  rw [get?_set]
  split
  · subst id'
    rw [hnew]
    refine ⟨fun h => ?_, fun h => by cases h⟩
    cases h
    exact absurd hk' hk
  · rfl

variable (hknown : TargetsKnown w.db w.drawn)

include hknown

/-- A target is added under identifiers that were not drawn before, or none is. -/
theorem OrdinaryChange.of_rows (added : Option (TargetKind × DeletionTarget))
    (hrest : (db'.intents, db'.controls, db'.ledgerReceipts)
      = (w.db.intents, w.db.controls, w.db.ledgerReceipts))
    (hrows : ∀ kind target, TargetRow db' target kind ↔
      TargetRow w.db target kind ∨ added = some (kind, target))
    (hnew : ∀ kind target, added = some (kind, target) →
      target.id ∉ w.drawn ∧ target.deletionScopeId ∉ w.drawn)
    (hjobs : ∀ id job, job.kind = .deletion →
      (db'.jobs.get? id = some job ↔ w.db.jobs.get? id = some job)) :
    OrdinaryChange w db'
      ((added.elim [] fun e => [e.2.id, e.2.deletionScopeId]) ++ w.drawn) := by
  simp only [Prod.mk.injEq] at hrest
  refine ⟨hrest.1, hrest.2.1, hrest.2.2, List.subset_append_right _ _,
    fun kind target hrow => (hrows kind target).mpr (.inl hrow),
    fun kind target hrow => ((hrows kind target).mp hrow).imp_right (hnew kind target),
    ⟨fun kind target hrow => ?_, fun kind kind' target target' hrow hrow' hsc => ?_⟩, hjobs⟩
  · rcases (hrows kind target).mp hrow with hold | rfl
    · exact (hknown.drawn kind target hold).imp (List.mem_append_right _) (List.mem_append_right _)
    · simp
  · rcases (hrows kind target).mp hrow with hold | hadded <;>
      rcases (hrows kind' target').mp hrow' with hold' | hadded'
    · exact hknown.unique _ _ _ _ hold hold' hsc
    · exact absurd (hsc ▸ (hknown.drawn _ _ hold).2) (hnew _ _ hadded').2
    · exact absurd (hsc ▸ (hknown.drawn _ _ hold').2) (hnew _ _ hadded).2
    · cases hadded.symm.trans hadded'
      exact ⟨rfl, rfl⟩

theorem OrdinaryChange.of_same
    (hrest : (db'.intents, db'.controls, db'.ledgerReceipts)
      = (w.db.intents, w.db.controls, w.db.ledgerReceipts))
    (hrows : ∀ kind target, TargetRow db' target kind ↔ TargetRow w.db target kind)
    (hjobs : ∀ id job, job.kind = .deletion →
      (db'.jobs.get? id = some job ↔ w.db.jobs.get? id = some job)) :
    OrdinaryChange w db' w.drawn :=
  .of_rows hknown none hrest (fun kind target => by simp [hrows]) (by simp) hjobs

theorem register_ordinary {auth : AuthKeys} {request : Registration} {grant : SessionGrant}
    (hid : request.userId ∉ w.drawn) (hscope : request.deletionScopeId ∉ w.drawn)
    (h : register auth w.db request = .ok (grant, db')) :
    OrdinaryChange w db' (request.userId :: request.deletionScopeId :: w.drawn) := by
  obtain ⟨canonical, auditEvents, -, -, hnew, -, rfl⟩ := register_eq_ok h
  refine OrdinaryChange.of_rows hknown (some (.account, UserRecord.target request.userId
    (newUser canonical request.passwordHash request.deletionScopeId))) rfl
    (fun kind target => ?_) (by rintro _ _ ⟨⟩; exact ⟨hid, hscope⟩) fun _ _ _ => .rfl
  cases kind with
  | account => exact (targetRow_set (fun _ _ => rfl) hnew).trans (or_congr_right (by simp))
  | importing | profile => exact (or_iff_left (by simp)).symm

theorem recordSubmission_ordinary {upload : ImportUpload} {accountGeneration : ℕ}
    {ids : ImportIdentifiers} {submission : ImportSubmission}
    (hid : ids.importId ∉ w.drawn) (hscope : ids.deletionScopeId ∉ w.drawn)
    (h : recordSubmission w.db upload accountGeneration ids now = .ok (submission, db')) :
    ∃ drawn', OrdinaryChange w db' drawn' := by
  rcases recordSubmission_eq_ok h with hinserted | rfl
  · obtain ⟨-, hnew, hjob, auditEvents, rfl⟩ := insertSubmission_eq_ok hinserted
    refine ⟨_, OrdinaryChange.of_rows hknown (some (.importing, ImportRecord.target ids.importId
      (submittedImport upload ids.deletionScopeId now))) rfl (fun kind target => ?_)
      (by rintro _ _ ⟨⟩; exact ⟨hid, hscope⟩)
      (sweepJobs_set hjob (show JobKind.importing ≠ .deletion by decide))⟩
    cases kind with
    | importing => exact (targetRow_set (fun _ _ => rfl) hnew).trans (or_congr_right (by simp))
    | account | profile => exact (or_iff_left (by simp)).symm
  · exact ⟨_, .of_same hknown rfl (fun _ _ => .rfl) fun _ _ _ => .rfl⟩

theorem confirm_ordinary {ownerUserId importId profileId deletionScopeId attached : String}
    {content : ConfirmedContent}
    (hid : profileId ∉ w.drawn) (hscope : deletionScopeId ∉ w.drawn)
    (h : confirm w.db ownerUserId importId content profileId deletionScopeId now
      = .ok (attached, db')) : ∃ drawn', OrdinaryChange w db' drawn' := by
  obtain ⟨record, profiled, -, -, -, hprofiled, rfl⟩ := confirm_eq_ok h
  have hrows := @targetRow_modify profiled
    (finishConfirmation profiled ownerUserId importId record attached now) importId
    (·.confirmedAs attached now) rfl rfl rfl fun _ _ => rfl
  rcases confirmProfile_eq_ok hprofiled with ⟨_, -, rfl⟩ | ⟨-, rfl, -, hnew, rfl⟩
  · exact ⟨_, .of_same hknown rfl hrows fun _ _ _ => .rfl⟩
  · refine ⟨_, OrdinaryChange.of_rows hknown (some (.profile, ProfileVersionRecord.target attached
      (newProfile ownerUserId importId content deletionScopeId now))) rfl
      (fun kind target => (hrows kind target).trans ?_)
      (by rintro _ _ ⟨⟩; exact ⟨hid, hscope⟩) fun _ _ _ => .rfl⟩
    cases kind with
    | account | importing => exact (or_iff_left (by simp)).symm
    | profile => exact (targetRow_set (fun _ _ => rfl) hnew).trans (or_congr_right (by simp))

/-- The job of the import that is published is not one of a deletion. -/
theorem publishDraft_ordinary {importId workerId : String} {draft : DraftRows}
    {fencingGeneration : ℕ} {published : Bool}
    (hkind : ∀ found ∈ jobOfImport w.db importId, found.2.kind ≠ .deletion)
    (h : publishDraft w.db importId draft workerId fencingGeneration now = .ok (published, db')) :
    OrdinaryChange w db' w.drawn := by
  rcases publishDraft_eq_ok h with ⟨-, rfl⟩ |
    ⟨-, jobId, job, record, readings, findings, hjob, -, -, rfl⟩
  · exact .of_same hknown rfl (fun _ _ => .rfl) fun _ _ _ => .rfl
  · refine .of_same hknown rfl (targetRow_modify (f := fun record =>
      { record with state := .ready, publishedAt := some now }) rfl rfl rfl fun _ _ => rfl)
      fun id other hother => ?_
    obtain ⟨hget, -⟩ := first_eq_some_get? hjob
    have hne := hkind _ hjob
    show (w.db.jobs.modify jobId _).get? id = _ ↔ _
    rw [Dict.modify, get?_modifyWhere]
    by_cases hid : id = jobId
    · subst hid
      rw [hget]
      refine iff_of_false (fun hfound => hne ?_) fun hfound => hne ?_
      · rw [Option.map_some, if_pos (decide_eq_true rfl)] at hfound
        cases hfound
        exact hother
      · cases hfound
        exact hother
    · simp [hid]

theorem submitCalculation_ordinary {request : CalculationRequest}
    {initializeNewJob : JobInitializer} {submission : CalculationSubmission}
    (hframes : initializeNewJob.Frames)
    (hrest : ∀ db db' submission, initializeNewJob db submission = .ok db' →
      (db'.intents, db'.controls, db'.ledgerReceipts)
        = (db.intents, db.controls, db.ledgerReceipts))
    (h : submitCalculation w.db request initializeNewJob = .ok (submission, db')) :
    OrdinaryChange w db' w.drawn := by
  rcases submitCalculation_eq_ok h with rfl | ⟨routeId, user, profile, imported, hroute, -,
    ⟨_, rfl⟩ | ⟨auditEvents, hnew, -, hinit⟩⟩
  · exact .of_same hknown rfl (fun _ _ => .rfl) fun _ _ _ => .rfl
  · exact .of_same hknown rfl (targetRow_congr rfl rfl rfl) fun _ _ _ => .rfl
  · obtain ⟨hsame, himports, hjobs⟩ := hframes _ _ _ hinit
    have hbookkeeping := hrest _ _ _ hinit
    refine .of_same hknown hbookkeeping
      (targetRow_congr hsame.users himports hsame.profiles) ?_
    rw [hjobs]
    exact sweepJobs_set hnew (checkCalculation_kind hroute).2

end Ordinary

inductive DeletionOperation
  | intend (request : IntentRequest)
  | prepare (deletionId : String) (now : ℤ)
  | recordPrepared (prepared : LedgerEvent) (receiptId : String)
  | fence (prepared : LedgerEvent) (receiptId : String) (now : ℤ)
  | decideRequested (deletionId : String) (now : ℤ)
  | recordRequested (deletionId : String) (requested : LedgerEvent) (jobId receiptId : String)
      (now : ℤ)
  | proveNoncommit (deletionId : String) (now : ℤ)
  | decideAborted (prepared : LedgerEvent) (now : ℤ)
  | recordAborted (aborted : LedgerEvent) (receiptId : String)
  | expire (deletionId : String) (now : ℤ)
  | append (arguments : LedgerArguments)
  | drainOpen (lease : JobLease) (fenceId : String → String) (now : ℤ)
  | drainUpload (deletionId uploadId : String) (now : ℤ)
  | drainClose (lease : JobLease) (pending : Bool) (now : ℤ)
  | openSweep (lease : JobLease) (now : ℤ)
  | inspect (lease : JobLease) (scope : SweepScope)
  | decideSubsumed (deletionId : String) (event : LedgerEvent) (now : ℤ)
  | subsume (deletionId : String) (requested completed : LedgerEvent)
      (requestedId completedId : String) (now : ℤ)
  | sweep (lease : JobLease) (now : ℤ)
  | verify (lease : JobLease) (objectsOrRowsLeft : Bool) (now : ℤ)
  | decideCompleted (lease : JobLease) (now : ℤ)
  | complete (lease : JobLease) (completed : LedgerEvent) (receiptId : String) (now : ℤ)
  | service (service : QueueService)
  | ordinary

/-- The phase a chain is at, and the one a subsumption takes it to. -/
def subsumedPhase : LedgerPhase → Option LedgerPhase
  | .prepared => some .requested
  | .requested => some .completed
  | .completed | .aborted => none

/-- One step: a transaction that commits, an append that succeeds, or a read that a process acts
on. -/
inductive DeletionStep (keys : DeletionKeys) (retryDelay : String → ℕ → ℤ) (w : DeletionWorld) :
    DeletionOperation → DeletionWorld → Prop
  | intend {request : IntentRequest} {view : DeletionIntentView} {target db'}
      (hfresh : request.deletionId ∉ w.drawn)
      (htarget : targetByResourceId w.db request.targetKind request.targetResourceId
        request.ownerUserId = some target)
      (h : createIntent keys w.db request = .ok (view, db')) :
      DeletionStep keys retryDelay w (.intend request) { w with
        db := db'
        drawn := request.deletionId :: w.drawn
        intentions := if view.repeated then w.intentions
          else ⟨request.deletionId, request.targetKind, target⟩ :: w.intentions }
  | prepare {deletionId now prepared ledger'}
      (h : preparedAppend keys w.db w.ledger deletionId now = .ok (prepared, ledger')) :
      DeletionStep keys retryDelay w (.prepare deletionId now) { w with ledger := ledger' }
  | recordPrepared {prepared receiptId db'} (hevent : prepared ∈ w.ledger)
      (h : recordPrepared keys w.db prepared receiptId = .ok ((), db')) :
      DeletionStep keys retryDelay w (.recordPrepared prepared receiptId) (w.commit db')
  | fence {prepared : LedgerEvent} {receiptId now db'} (hevent : prepared ∈ w.ledger)
      (h : fencePrepared keys w.db prepared receiptId now = .ok ((), db')) :
      DeletionStep keys retryDelay w (.fence prepared receiptId now)
        { w with db := db', fences := w.fences.insert prepared.deletionId }
  | decideRequested {deletionId now arguments}
      (h : requestedArguments w.db deletionId now = .ok arguments) :
      DeletionStep keys retryDelay w (.decideRequested deletionId now)
        { w with decided := arguments :: w.decided }
  | recordRequested {deletionId requested jobId receiptId now db'} (hevent : requested ∈ w.ledger)
      (hfresh : jobId ∉ w.drawn)
      (h : recordRequested keys w.db deletionId requested jobId receiptId now = .ok ((), db')) :
      DeletionStep keys retryDelay w (.recordRequested deletionId requested jobId receiptId now)
        { w with db := db', drawn := jobId :: w.drawn }
  | proveNoncommit {deletionId now prepared db'}
      (h : proveNoncommit keys w.db w.ledger deletionId now = .ok (prepared, db')) :
      DeletionStep keys retryDelay w (.proveNoncommit deletionId now) (w.commit db')
  | decideAborted {prepared now}
      (hevent : prepared ∈ w.ledger) (h : hasProvedNoncommit keys w.db prepared = true) :
      DeletionStep keys retryDelay w (.decideAborted prepared now)
        { w with decided := eventArguments prepared .aborted now :: w.decided }
  | recordAborted {aborted : LedgerEvent} {receiptId db'}
      (hevent : aborted ∈ w.ledger) (hphase : aborted.phase = .aborted)
      (h : recordAborted keys w.db aborted receiptId = .ok ((), db')) :
      DeletionStep keys retryDelay w (.recordAborted aborted receiptId) (w.commit db')
  | expire {deletionId now db'}
      (h : expireDeletionIntent w.db w.ledger deletionId now = .ok ((), db')) :
      DeletionStep keys retryDelay w (.expire deletionId now) (w.commit db')
  | append {arguments event ledger'} (hdecided : arguments ∈ w.decided)
      (h : appendEvent keys.receiptOf w.ledger arguments = .ok (event, ledger')) :
      DeletionStep keys retryDelay w (.append arguments) { w with ledger := ledger' }
  | drainOpen {lease fenceId now result db'}
      (h : drainOpen w.db lease fenceId now = .ok (result, db')) :
      DeletionStep keys retryDelay w (.drainOpen lease fenceId now) (w.commit db')
  | drainUpload {deletionId uploadId now} :
      DeletionStep keys retryDelay w (.drainUpload deletionId uploadId now)
        (w.commit (drainUpload w.db deletionId uploadId now))
  | drainClose {lease pending advanced now db'}
      (h : drainClose w.db lease pending now = .ok (advanced, db')) :
      DeletionStep keys retryDelay w (.drainClose lease pending now) (w.commit db')
  | openSweep {lease now scope} (h : lockedControl w.db lease .sweep now = .ok scope) :
      DeletionStep keys retryDelay w (.openSweep lease now)
        { w with opened := (lease, scope) :: w.opened }
  | inspect {lease} {scope : SweepScope} (hopened : (lease, scope) ∈ w.opened) :
      DeletionStep keys retryDelay w (.inspect lease scope) { w with
        inspected := (lease, subordinateControls w.db scope.deletionId scope.control
          scope.target.ownerUserId) :: w.inspected }
  | decideSubsumed {lease controls} {event : LedgerEvent} {phase now}
      (hinspected : (lease, controls) ∈ w.inspected) (hcontrol : event.deletionId ∈ controls)
      (hevent : event ∈ w.ledger) (hphase : subsumedPhase event.phase = some phase) :
      DeletionStep keys retryDelay w (.decideSubsumed event.deletionId event now)
        { w with decided := eventArguments event phase now :: w.decided }
  | subsume {lease controls deletionId requested completed requestedId completedId now db'}
      (hinspected : (lease, controls) ∈ w.inspected)
      (hcontrol : deletionId ∈ controls) (hrequested : requested ∈ w.ledger)
      (hcompleted : completed ∈ w.ledger)
      (h : completeSubsumed keys w.db deletionId requested completed requestedId completedId now
        = .ok ((), db')) :
      DeletionStep keys retryDelay w
        (.subsume deletionId requested completed requestedId completedId now) (w.commit db')
  | sweep {lease controls now db'} (hinspected : (lease, controls) ∈ w.inspected)
      (hsubsumed : ∀ deletionId ∈ controls, w.db.controls.get? deletionId = none)
      (h : sweepRows w.db lease now = .ok ((), db')) :
      DeletionStep keys retryDelay w (.sweep lease now) (w.commit db')
  | verify {lease objectsOrRowsLeft verified now db'}
      (h : verifyRows w.db lease objectsOrRowsLeft now = .ok (verified, db')) :
      DeletionStep keys retryDelay w (.verify lease objectsOrRowsLeft now) (w.commit db')
  | decideCompleted {lease : JobLease} {now deletionId} {control : DeletionControlOperationRecord}
      {requested} (hcontrol : controlOfJob w.db lease.jobId = some (deletionId, control))
      (hphase : control.phase = .complete)
      (hjob : (currentFencedJob w.db lease now (· = .running)).isSome = true)
      (h : requestedEvent w.ledger deletionId control = .ok requested) :
      DeletionStep keys retryDelay w (.decideCompleted lease now)
        { w with decided := eventArguments requested .completed now :: w.decided }
  | complete {lease} {completed : LedgerEvent} {receiptId now db'} (hevent : completed ∈ w.ledger)
      (h : complete keys w.db lease completed receiptId now = .ok ((), db')) :
      DeletionStep keys retryDelay w (.complete lease completed receiptId now)
        { w with db := db', completions := completed.deletionId :: w.completions }
  | service {service} :
      DeletionStep keys retryDelay w (.service service) (w.commit (service.run retryDelay w.db))
  | ordinary {db' drawn'} (h : OrdinaryChange w db' drawn') :
      DeletionStep keys retryDelay w .ordinary { w with db := db', drawn := drawn' }

/-- A system in which nothing has been deleted yet. -/
structure NoDeletions (w : DeletionWorld) : Prop where
  intents : w.db.intents = Dict.empty
  controls : w.db.controls = Dict.empty
  receipts : w.db.receipts = Dict.empty
  ledgerReceipts : w.db.ledgerReceipts = Dict.empty
  sweepJobs : ∀ id job, w.db.jobs.get? id = some job → job.kind ≠ .deletion
  known : TargetsKnown w.db w.drawn
  ledger : w.ledger = []
  decided : w.decided = []
  opened : w.opened = []
  inspected : w.inspected = []
  intentions : w.intentions = []
  fences : w.fences = []
  completions : w.completions = []

/-! ### Execution -/

/-- Take a step, if it can be taken.  What other transactions do is not determined. -/
def DeletionWorld.take (keys : DeletionKeys) (retryDelay : String → ℕ → ℤ) (w : DeletionWorld) :
    DeletionOperation → Option DeletionWorld
  | .intend request => do
    let target ← targetByResourceId w.db request.targetKind request.targetResourceId
      request.ownerUserId
    let (view, db') ← (createIntent keys w.db request).toOption
    if request.deletionId ∈ w.drawn then none
    else some { w with
      db := db'
      drawn := request.deletionId :: w.drawn
      intentions := if view.repeated then w.intentions
        else ⟨request.deletionId, request.targetKind, target⟩ :: w.intentions }
  | .prepare deletionId now => do
    let (_, ledger') ← (preparedAppend keys w.db w.ledger deletionId now).toOption
    some { w with ledger := ledger' }
  | .recordPrepared prepared receiptId => do
    let (_, db') ← (RateReplay.recordPrepared keys w.db prepared receiptId).toOption
    if prepared ∈ w.ledger then some (w.commit db') else none
  | .fence prepared receiptId now => do
    let (_, db') ← (fencePrepared keys w.db prepared receiptId now).toOption
    if prepared ∈ w.ledger
    then some { w with db := db', fences := w.fences.insert prepared.deletionId } else none
  | .decideRequested deletionId now => do
    let arguments ← (requestedArguments w.db deletionId now).toOption
    some { w with decided := arguments :: w.decided }
  | .recordRequested deletionId requested jobId receiptId now => do
    let (_, db') ←
      (RateReplay.recordRequested keys w.db deletionId requested jobId receiptId now).toOption
    if requested ∈ w.ledger ∧ jobId ∉ w.drawn
    then some { w with db := db', drawn := jobId :: w.drawn } else none
  | .proveNoncommit deletionId now => do
    let (_, db') ← (RateReplay.proveNoncommit keys w.db w.ledger deletionId now).toOption
    some (w.commit db')
  | .decideAborted prepared now =>
    if prepared ∈ w.ledger ∧ hasProvedNoncommit keys w.db prepared = true
    then some { w with decided := eventArguments prepared .aborted now :: w.decided } else none
  | .recordAborted aborted receiptId => do
    let (_, db') ← (RateReplay.recordAborted keys w.db aborted receiptId).toOption
    if aborted ∈ w.ledger ∧ aborted.phase = .aborted then some (w.commit db') else none
  | .expire deletionId now => do
    let (_, db') ← (expireDeletionIntent w.db w.ledger deletionId now).toOption
    some (w.commit db')
  | .append arguments => do
    let (_, ledger') ← (appendEvent keys.receiptOf w.ledger arguments).toOption
    if arguments ∈ w.decided then some { w with ledger := ledger' } else none
  | .drainOpen lease fenceId now => do
    let (_, db') ← (RateReplay.drainOpen w.db lease fenceId now).toOption
    some (w.commit db')
  | .drainUpload deletionId uploadId now =>
    some (w.commit (RateReplay.drainUpload w.db deletionId uploadId now))
  | .drainClose lease pending now => do
    let (_, db') ← (RateReplay.drainClose w.db lease pending now).toOption
    some (w.commit db')
  | .openSweep lease now => do
    let scope ← (lockedControl w.db lease .sweep now).toOption
    some { w with opened := (lease, scope) :: w.opened }
  | .inspect lease scope =>
    if (lease, scope) ∈ w.opened
    then some { w with
      inspected := (lease, subordinateControls w.db scope.deletionId scope.control
        scope.target.ownerUserId) :: w.inspected }
    else none
  | .decideSubsumed deletionId event now => do
    let phase ← subsumedPhase event.phase
    let _ ← w.inspected.find? fun entry => event.deletionId ∈ entry.2
    if event ∈ w.ledger ∧ event.deletionId = deletionId
    then some { w with decided := eventArguments event phase now :: w.decided } else none
  | .subsume deletionId requested completed requestedId completedId now => do
    let (_, db') ←
      (completeSubsumed keys w.db deletionId requested completed requestedId completedId
        now).toOption
    let _ ← w.inspected.find? fun entry => deletionId ∈ entry.2
    if requested ∈ w.ledger ∧ completed ∈ w.ledger then some (w.commit db') else none
  | .sweep lease now => do
    let (_, db') ← (sweepRows w.db lease now).toOption
    let _ ← w.inspected.find? fun entry =>
      entry.1 = lease ∧ ∀ deletionId ∈ entry.2, w.db.controls.get? deletionId = none
    some (w.commit db')
  | .verify lease objectsOrRowsLeft now => do
    let (_, db') ← (verifyRows w.db lease objectsOrRowsLeft now).toOption
    some (w.commit db')
  | .decideCompleted lease now => do
    let (deletionId, control) ← controlOfJob w.db lease.jobId
    let requested ← (requestedEvent w.ledger deletionId control).toOption
    if control.phase = .complete ∧ (currentFencedJob w.db lease now (· = .running)).isSome = true
    then some { w with decided := eventArguments requested .completed now :: w.decided } else none
  | .complete lease completed receiptId now => do
    let (_, db') ← (RateReplay.complete keys w.db lease completed receiptId now).toOption
    if completed ∈ w.ledger
    then some { w with db := db', completions := completed.deletionId :: w.completions } else none
  | .service service => some (w.commit (service.run retryDelay w.db))
  | .ordinary => none

section Execution

variable {keys : DeletionKeys} {retryDelay : String → ℕ → ℤ} {w w' : DeletionWorld} {db : Database}

theorem toOption_bind_eq_some {ε α β : Type} {x : Except ε α} {f : α → Option β} {b : β} :
    (x.toOption >>= f) = some b ↔ ∃ a, x = .ok a ∧ f a = some b := by
  cases x <;> simp [Except.toOption]

theorem if_eq_some {α : Type} {p : Prop} [Decidable p] {a b : α} :
    (if p then some a else none) = some b ↔ p ∧ a = b := by
  by_cases h : p <;> simp [h]

/-- **What is executed is a step.** -/
theorem DeletionWorld.take_step {operation : DeletionOperation}
    (h : w.take keys retryDelay operation = some w') :
    DeletionStep keys retryDelay w operation w' := by
  cases operation with
  | intend request =>
    obtain ⟨target, htgt, h⟩ := Option.bind_eq_some_iff.mp h
    obtain ⟨⟨view, db'⟩, hok, h⟩ := toOption_bind_eq_some.mp h
    dsimp only at h
    split at h
    · cases h
    · rename_i hfr
      cases h
      exact .intend hfr htgt hok
  | prepare deletionId now =>
    obtain ⟨⟨prepared, ledger'⟩, hok, h⟩ := toOption_bind_eq_some.mp h
    cases h
    exact .prepare hok
  | recordPrepared prepared receiptId =>
    obtain ⟨⟨_, db'⟩, hok, h⟩ := toOption_bind_eq_some.mp h
    obtain ⟨hev, rfl⟩ := if_eq_some.mp h
    exact .recordPrepared hev hok
  | fence prepared receiptId now =>
    obtain ⟨⟨_, db'⟩, hok, h⟩ := toOption_bind_eq_some.mp h
    obtain ⟨hev, rfl⟩ := if_eq_some.mp h
    exact .fence hev hok
  | decideRequested deletionId now =>
    obtain ⟨arguments, hok, h⟩ := toOption_bind_eq_some.mp h
    cases h
    exact .decideRequested hok
  | recordRequested deletionId requested jobId receiptId now =>
    obtain ⟨⟨_, db'⟩, hok, h⟩ := toOption_bind_eq_some.mp h
    obtain ⟨⟨hev, hfr⟩, rfl⟩ := if_eq_some.mp h
    exact .recordRequested hev hfr hok
  | proveNoncommit deletionId now =>
    obtain ⟨⟨prepared, db'⟩, hok, h⟩ := toOption_bind_eq_some.mp h
    cases h
    exact .proveNoncommit hok
  | decideAborted prepared now =>
    obtain ⟨⟨hev, hproved⟩, rfl⟩ := if_eq_some.mp h
    exact .decideAborted hev hproved
  | recordAborted aborted receiptId =>
    obtain ⟨⟨_, db'⟩, hok, h⟩ := toOption_bind_eq_some.mp h
    obtain ⟨⟨hev, hph⟩, rfl⟩ := if_eq_some.mp h
    exact .recordAborted hev hph hok
  | expire deletionId now =>
    obtain ⟨⟨_, db'⟩, hok, h⟩ := toOption_bind_eq_some.mp h
    cases h
    exact .expire hok
  | append arguments =>
    obtain ⟨⟨event, ledger'⟩, hok, h⟩ := toOption_bind_eq_some.mp h
    obtain ⟨hdecided, rfl⟩ := if_eq_some.mp h
    exact .append hdecided hok
  | drainOpen lease fenceId now =>
    obtain ⟨⟨result, db'⟩, hok, h⟩ := toOption_bind_eq_some.mp h
    cases h
    exact .drainOpen hok
  | drainUpload deletionId uploadId now =>
    cases h
    exact .drainUpload
  | drainClose lease pending now =>
    obtain ⟨⟨advanced, db'⟩, hok, h⟩ := toOption_bind_eq_some.mp h
    cases h
    exact .drainClose hok
  | openSweep lease now =>
    obtain ⟨scope, hok, h⟩ := toOption_bind_eq_some.mp h
    cases h
    exact .openSweep hok
  | inspect lease scope =>
    obtain ⟨hopened, rfl⟩ := if_eq_some.mp h
    exact .inspect hopened
  | decideSubsumed deletionId event now =>
    obtain ⟨phase, hph, h⟩ := Option.bind_eq_some_iff.mp h
    obtain ⟨⟨lease, controls⟩, hfnd, h⟩ := Option.bind_eq_some_iff.mp h
    obtain ⟨⟨hev, rfl⟩, rfl⟩ := if_eq_some.mp h
    have hctl := List.find?_some hfnd
    exact .decideSubsumed (List.mem_of_find?_eq_some hfnd) (of_decide_eq_true hctl) hev
      hph
  | subsume deletionId requested completed requestedId completedId now =>
    obtain ⟨⟨_, db'⟩, hok, h⟩ := toOption_bind_eq_some.mp h
    obtain ⟨⟨lease, controls⟩, hfnd, h⟩ := Option.bind_eq_some_iff.mp h
    obtain ⟨⟨hreqd, hcomp⟩, rfl⟩ := if_eq_some.mp h
    have hctl := List.find?_some hfnd
    exact .subsume (List.mem_of_find?_eq_some hfnd) (of_decide_eq_true hctl) hreqd
      hcomp hok
  | sweep lease now =>
    obtain ⟨⟨_, db'⟩, hok, h⟩ := toOption_bind_eq_some.mp h
    obtain ⟨⟨reader, controls⟩, hfnd, h⟩ := Option.bind_eq_some_iff.mp h
    cases h
    have hread := List.find?_some hfnd
    obtain ⟨rfl, hsubs⟩ := of_decide_eq_true hread
    exact .sweep (List.mem_of_find?_eq_some hfnd) hsubs hok
  | verify lease objectsOrRowsLeft now =>
    obtain ⟨⟨verified, db'⟩, hok, h⟩ := toOption_bind_eq_some.mp h
    cases h
    exact .verify hok
  | decideCompleted lease now =>
    obtain ⟨⟨deletionId, control⟩, hctl, h⟩ := Option.bind_eq_some_iff.mp h
    obtain ⟨requested, hok, h⟩ := toOption_bind_eq_some.mp h
    obtain ⟨⟨hph, hj⟩, rfl⟩ := if_eq_some.mp h
    exact .decideCompleted hctl hph hj hok
  | complete lease completed receiptId now =>
    obtain ⟨⟨_, db'⟩, hok, h⟩ := toOption_bind_eq_some.mp h
    obtain ⟨hev, rfl⟩ := if_eq_some.mp h
    exact .complete hev hok
  | service service =>
    cases h
    exact .service
  | ordinary => cases h

/-- Take steps one after the other, as long as they are allowed. -/
def DeletionWorld.execute (keys : DeletionKeys) (retryDelay : String → ℕ → ℤ)
    (allowed : DeletionWorld → DeletionOperation → Prop)
    [∀ w operation, Decidable (allowed w operation)] :
    DeletionWorld → List DeletionOperation → Option DeletionWorld
  | world, [] => some world
  | world, operation :: rest => do
    let next ← world.take keys retryDelay operation
    if allowed world operation then execute keys retryDelay allowed next rest else none

theorem DeletionWorld.execute_runs {allowed : DeletionWorld → DeletionOperation → Prop}
    [∀ w operation, Decidable (allowed w operation)] {operations : List DeletionOperation}
    (h : w.execute keys retryDelay allowed operations = some w') :
    Runs (DeletionStep keys retryDelay) allowed w w' := by
  induction operations generalizing w with
  | nil =>
    cases h
    exact Runs.refl _
  | cons operation rest ih =>
    obtain ⟨next, hnext, h⟩ := Option.bind_eq_some_iff.mp h
    split at h
    · rename_i hall
      exact ((Runs.refl w).snoc hall (take_step hnext)).trans (ih h)
    · cases h

/-- All the targets of a database. -/
def Database.targets (db : Database) : List (TargetKind × DeletionTarget) :=
  (db.users.entries.map fun e => (TargetKind.account, UserRecord.target e.1 e.2))
    ++ (db.imports.entries.map fun e => (TargetKind.importing, ImportRecord.target e.1 e.2))
    ++ db.profiles.entries.map fun e => (TargetKind.profile, ProfileVersionRecord.target e.1 e.2)

theorem TargetRow.mem_targets {kind : TargetKind} {target : DeletionTarget}
    (h : TargetRow db target kind) : (kind, target) ∈ db.targets := by
  simp only [Database.targets, List.mem_append, List.mem_map]
  cases kind with
  | account =>
    obtain ⟨user, huser, htgt⟩ := h
    exact .inl (.inl ⟨_, get?_eq_some.mp huser, by rw [htgt]; rfl⟩)
  | importing =>
    obtain ⟨record, hrec, htgt⟩ := h
    exact .inl (.inr ⟨_, get?_eq_some.mp hrec, by rw [htgt]; rfl⟩)
  | profile =>
    obtain ⟨profile, hpf, htgt⟩ := h
    exact .inr ⟨_, get?_eq_some.mp hpf, by rw [htgt]; rfl⟩

/-- The condition on identifiers, as one that can be evaluated. -/
theorem targetsKnown_of_targets {drawn : List String}
    (hdr : ∀ e ∈ db.targets, e.2.id ∈ drawn ∧ e.2.deletionScopeId ∈ drawn)
    (huniq : ∀ e ∈ db.targets, ∀ e' ∈ db.targets,
      e.2.deletionScopeId = e'.2.deletionScopeId → e.1 = e'.1 ∧ e.2.id = e'.2.id) :
    TargetsKnown db drawn where
  drawn _ _ hrow := hdr _ hrow.mem_targets
  unique _ _ _ _ hrow hrow' hsc := huniq _ hrow.mem_targets _ hrow'.mem_targets hsc

end Execution

/-! ### What deletions do to their own rows -/

/-- An intent stays about its target, and one that is settled stays so. -/
structure IntentStep (intent intent' : DeletionIntentRecord) : Prop where
  targetKind : intent'.targetKind = intent.targetKind
  targetScopeId : intent'.targetScopeId = intent.targetScopeId
  ownerUserId : intent'.ownerUserId = intent.ownerUserId
  consumed : intent.state = .consumed → intent'.state = .consumed
  invalidated : intent.state = .invalidated → intent'.state = .invalidated

theorem IntentStep.refl (intent : DeletionIntentRecord) : IntentStep intent intent :=
  ⟨rfl, rfl, rfl, id, id⟩

/-- Nothing is added: targets, intents and controls are removed, or move on. -/
structure DeletionsEvolve (db db' : Database) : Prop where
  targets : TargetsEvolve db db'
  intents : ∀ id intent', db'.intents.get? id = some intent' →
    ∃ intent, db.intents.get? id = some intent ∧ IntentStep intent intent'
  controls : ∀ id control', db'.controls.get? id = some control' →
    ∃ control, db.controls.get? id = some control ∧ control'.targetKind = control.targetKind ∧
      control'.targetScopeId = control.targetScopeId

section Evolution

variable {keys : DeletionKeys} {db db' : Database} {now : ℤ} {deletionId receiptId : String}
  {lease : JobLease} {completed prepared requested : LedgerEvent} {ledger : List LedgerEvent}

theorem keepsIntents (h : db'.intents = db.intents) (id : String) (intent' : DeletionIntentRecord)
    (hg : db'.intents.get? id = some intent') :
    ∃ intent, db.intents.get? id = some intent ∧ IntentStep intent intent' :=
  ⟨intent', h ▸ hg, .refl intent'⟩

theorem keepsControls (h : db'.controls = db.controls) (id : String)
    (control' : DeletionControlOperationRecord) (hg : db'.controls.get? id = some control') :
    ∃ control, db.controls.get? id = some control ∧ control'.targetKind = control.targetKind ∧
      control'.targetScopeId = control.targetScopeId :=
  ⟨control', h ▸ hg, rfl, rfl⟩

/-- The row of a control is rewritten, but not what it is about. -/
theorem modifiesControls {f : DeletionControlOperationRecord → DeletionControlOperationRecord}
    (h : db'.controls = db.controls.modify deletionId f)
    (hf : ∀ control, (f control).targetKind = control.targetKind ∧
      (f control).targetScopeId = control.targetScopeId) (id : String)
    (control' : DeletionControlOperationRecord) (hg : db'.controls.get? id = some control') :
    ∃ control, db.controls.get? id = some control ∧ control'.targetKind = control.targetKind ∧
      control'.targetScopeId = control.targetScopeId := by
  rw [h] at hg
  obtain ⟨control, hold, ⟨-, rfl⟩ | ⟨-, rfl⟩⟩ := get?_of_modify hg
  · exact ⟨control, hold, hf control⟩
  · exact ⟨control', hold, rfl, rfl⟩

theorem DeletionsEvolve.of_same (htgts : (db'.users, db'.imports, db'.profiles)
    = (db.users, db.imports, db.profiles)) (hints : db'.intents = db.intents)
    (hctls : db'.controls = db.controls) : DeletionsEvolve db db' :=
  ⟨.of_same htgts, keepsIntents hints, keepsControls hctls⟩

theorem recordPrepared_evolve (h : recordPrepared keys db prepared receiptId = .ok ((), db')) :
    DeletionsEvolve db db' := by
  obtain ⟨intent, ledgerReceipts, receipts, hint, -, -, rfl⟩ := recordPrepared_eq_ok h
  refine ⟨.of_same rfl, fun id intent' hg => ?_, keepsControls rfl⟩
  by_cases hst : intent.state = .intentCreated
  · rw [if_pos hst] at hg
    obtain ⟨before, hold, ⟨rfl, rfl⟩ | ⟨-, rfl⟩⟩ := get?_of_modify hg
    · rw [hint] at hold
      cases hold
      refine ⟨intent, hint, rfl, rfl, rfl, fun hcons => ?_, fun hinv => ?_⟩
      · rw [hst] at hcons
        cases hcons
      · rw [hst] at hinv
        cases hinv
    · exact ⟨intent', hold, .refl intent'⟩
  · rw [if_neg hst] at hg
    exact ⟨intent', hg, .refl intent'⟩

theorem recordRequested_evolve {jobId : String}
    (h : recordRequested keys db deletionId requested jobId receiptId now = .ok ((), db')) :
    DeletionsEvolve db db' := by
  obtain ⟨control, target, -, -, -, -, -, ⟨ledgerReceipts, -, -, rfl⟩ | ⟨-, hstd⟩⟩ :=
    recordRequested_eq_ok h
  · exact .of_same rfl rfl rfl
  · exact ⟨hstd.targetsEvolve, keepsIntents hstd.intents,
      modifiesControls hstd.controls fun _ => ⟨rfl, rfl⟩⟩

/-- An intent that is not settled is invalidated. -/
theorem invalidated_evolve {intent : DeletionIntentRecord}
    (hint : db.intents.get? deletionId = some intent) (hst : intent.state ≠ .consumed)
    (h : db' = { db with intents := db.intents.modify deletionId (·.invalidated now) }) :
    DeletionsEvolve db db' := by
  subst h
  refine ⟨.of_same rfl, fun id intent' hg => ?_, keepsControls rfl⟩
  obtain ⟨before, hold, ⟨rfl, rfl⟩ | ⟨-, rfl⟩⟩ := get?_of_modify hg
  · rw [hint] at hold
    cases hold
    exact ⟨intent, hint, rfl, rfl, rfl, fun hcons => absurd hcons hst, fun _ => rfl⟩
  · exact ⟨intent', hold, .refl intent'⟩

theorem proveNoncommit_evolve
    (h : proveNoncommit keys db ledger deletionId now = .ok (prepared, db')) :
    DeletionsEvolve db db' := by
  obtain ⟨intent, -, -, hint, -, -, hst, -, hdb'⟩ := proveNoncommit_eq_ok h
  refine invalidated_evolve hint ?_ hdb'
  rcases hst with hst | hst <;> rw [hst] <;> decide

theorem recordAborted_evolve {aborted : LedgerEvent}
    (h : recordAborted keys db aborted receiptId = .ok ((), db')) : DeletionsEvolve db db' := by
  obtain ⟨ledgerReceipts, receipts, -, rfl⟩ := recordAborted_eq_ok h
  exact .of_same rfl rfl rfl

theorem expireDeletionIntent_evolve
    (h : expireDeletionIntent db ledger deletionId now = .ok ((), db')) :
    DeletionsEvolve db db' := by
  obtain rfl | ⟨intent, -, -, -, rfl⟩ := expireDeletionIntent_eq_ok h
  · exact .of_same rfl rfl rfl
  · exact ⟨.of_same rfl,
      fun id intent hg => ⟨intent, get?_of_deleteWhere hg, .refl intent⟩,
      keepsControls rfl⟩

theorem drainOpen_evolve {fenceId : String → String} {result : Bool × List String}
    (h : drainOpen db lease fenceId now = .ok (result, db')) :
    DeletionsEvolve db db' := by
  obtain ⟨fenceTargets, uploads, rfl⟩ := drainOpen_eq_ok h
  exact .of_same rfl rfl rfl

/-- A control moves to another phase, next to what else is written. -/
theorem advanceControl_evolve {phase : ControlPhase} {receipts : Dict String DeletionReceiptRecord}
    (h : db' = { advanceControl db deletionId phase now with receipts := receipts }) :
    DeletionsEvolve db db' := by
  subst h
  refine ⟨.of_same rfl, keepsIntents rfl, ?_⟩
  exact modifiesControls (f := ({ · with phase := phase, updatedAt := now })) rfl
    fun _ => ⟨rfl, rfl⟩

theorem drainClose_evolve {pending advanced : Bool}
    (h : drainClose db lease pending now = .ok (advanced, db')) : DeletionsEvolve db db' := by
  obtain ⟨-, rfl⟩ | ⟨-, scope, receipts, -, hdb'⟩ := drainClose_eq_ok h
  · exact .of_same rfl rfl rfl
  · exact advanceControl_evolve hdb'

theorem DeletionsEvolve.trans {db'' : Database} (h₁ : DeletionsEvolve db db')
    (h₂ : DeletionsEvolve db' db'') : DeletionsEvolve db db'' where
  targets := h₁.targets.trans h₂.targets
  intents id intent'' hg := by
    obtain ⟨intent', hg', hs'⟩ := h₂.intents id intent'' hg
    obtain ⟨intent, hg, hs⟩ := h₁.intents id intent' hg'
    exact ⟨intent, hg, hs'.targetKind.trans hs.targetKind,
      hs'.targetScopeId.trans hs.targetScopeId, hs'.ownerUserId.trans hs.ownerUserId,
      fun h => hs'.consumed (hs.consumed h), fun h => hs'.invalidated (hs.invalidated h)⟩
  controls id control'' hg := by
    obtain ⟨control', hg', hk', hsc'⟩ := h₂.controls id control'' hg
    obtain ⟨control, hg, hk, hsc⟩ := h₁.controls id control' hg'
    exact ⟨control, hg, hk'.trans hk, hsc'.trans hsc⟩

theorem sweepOwnerRows_evolve (ownerUserId jobId : String) :
    DeletionsEvolve db (sweepOwnerRows db ownerUserId jobId) where
  targets := TargetsEvolve.of_rows (fun _ _ hg => hg)
    (fun _ record hg => ⟨record, get?_of_deleteWhere hg, rfl⟩)
    fun _ _ hg => get?_of_deleteWhere hg
  intents _ intent hg := ⟨intent, get?_of_deleteWhere hg, .refl intent⟩
  controls := keepsControls rfl

theorem sweepRows_evolve (h : sweepRows db lease now = .ok ((), db')) :
    DeletionsEvolve db db' := by
  obtain ⟨scope, receipts, -, hdb'⟩ := sweepRows_eq_ok h
  by_cases hacc : scope.control.targetKind = .account
  · rw [if_pos hacc] at hdb'
    exact (sweepOwnerRows_evolve _ _).trans (advanceControl_evolve hdb')
  · rw [if_neg hacc] at hdb'
    exact advanceControl_evolve hdb'

theorem deleteResourceRows_evolve (kind : TargetKind) (target : DeletionTarget) (jobId : String) :
    DeletionsEvolve db (deleteResourceRows db kind target jobId) where
  targets := TargetsEvolve.of_rows (fun _ _ hg => hg) (fun _ record hg => ⟨record, hg, rfl⟩)
    fun _ _ hg => get?_of_deleteWhere hg
  intents := keepsIntents rfl
  controls := keepsControls rfl

theorem verifyRows_evolve {objectsOrRowsLeft verified : Bool}
    (h : verifyRows db lease objectsOrRowsLeft now = .ok (verified, db')) :
    DeletionsEvolve db db' := by
  obtain ⟨scope, receipts, -, ⟨-, hdb'⟩ | ⟨-, hdb'⟩⟩ := verifyRows_eq_ok h
  · exact advanceControl_evolve hdb'
  · by_cases hacc : scope.control.targetKind = .account
    · rw [if_pos hacc] at hdb'
      exact advanceControl_evolve hdb'
    · rw [if_neg hacc] at hdb'
      exact (deleteResourceRows_evolve _ _ _).trans (advanceControl_evolve hdb')

theorem removeControl_evolve (deletionId : String) (jobId : Option String) :
    DeletionsEvolve db (removeControl db deletionId jobId) where
  targets := .of_same rfl
  intents _ intent hg := ⟨intent, get?_of_deleteWhere hg, .refl intent⟩
  controls _ control hg := ⟨control, get?_of_deleteWhere hg, rfl, rfl⟩

theorem completeSubsumed_evolve {requestedId completedId : String}
    (h : completeSubsumed keys db deletionId requested completed requestedId completedId now
      = .ok ((), db')) : DeletionsEvolve db db' := by
  obtain rfl | ⟨control, ledgerReceipts, tombstones, -, -, -, -, rfl⟩ := completeSubsumed_eq_ok h
  · exact .of_same rfl rfl rfl
  · refine DeletionsEvolve.trans ?_ (removeControl_evolve _ _)
    exact .of_same rfl rfl rfl

theorem deleteTarget_evolve (kind : TargetKind) (target : DeletionTarget) :
    DeletionsEvolve db (deleteTarget db kind target) := by
  cases kind with
  | account =>
    exact ⟨.of_rows (fun _ _ hg => get?_of_deleteWhere hg)
      (fun _ record hg => ⟨record, hg, rfl⟩) (fun _ _ hg => hg),
      keepsIntents rfl, keepsControls rfl⟩
  | importing =>
    exact ⟨.of_rows (fun _ _ hg => hg)
      (fun _ record hg => ⟨record, get?_of_deleteWhere hg, rfl⟩) (fun _ _ hg => hg),
      keepsIntents rfl, keepsControls rfl⟩
  | profile =>
    refine ⟨.of_rows (fun _ _ hg => hg) (fun id record' hg => ?_)
      (fun _ _ hg => get?_of_deleteWhere hg), keepsIntents rfl, keepsControls rfl⟩
    obtain ⟨record, hold, rfl⟩ := get?_of_modifyWhere hg
    refine ⟨record, hold, ?_⟩
    split <;> rfl

theorem complete_evolve (h : complete keys db lease completed receiptId now = .ok ((), db')) :
    DeletionsEvolve db db' := by
  obtain ⟨scope, ledgerReceipts, tombstones, -, -, -, rfl⟩ := complete_eq_ok h
  refine DeletionsEvolve.trans ?_ (deleteTarget_evolve _ _)
  refine DeletionsEvolve.trans ?_ (removeControl_evolve _ _)
  exact .of_same rfl rfl rfl

theorem ServiceFrame.evolve (h : ServiceFrame db db') : DeletionsEvolve db db' := by
  refine ⟨.of_rows (fun _ _ hg => h.users ▸ hg) (fun id record' hg => ?_)
    (fun _ _ hg => h.profiles ▸ hg), keepsIntents (by rw [h.rest]),
    keepsControls (by rw [h.rest])⟩
  have hsame := h.imports id
  rw [hg] at hsame
  generalize hold : db.imports.get? id = old at hsame
  cases hsame with
  | some hrec =>
    refine ⟨_, rfl, ?_⟩
    rw [hrec]
    rfl

end Evolution

end RateReplay
