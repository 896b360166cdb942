import RateReplay.Persistence.DeletionSweeps

/-!
# The jobs of deletions under way

A deletion whose request is acknowledged is carried by one job: the queue hands it to a worker,
takes it back when a lease expires, and counts its attempts.  The job goes on as long as its scope
is valid and its budget is not used up.

## Main definitions

* `Sustained` — the job goes on: it has not ended, has attempts left if it is queued, and its
  scope is valid.
* `RetriesSweeps` — the conditions under which the job service ends no such job.
* `SweepJobChange` — what becomes of the job of a deletion.

## Main results

* `QueueService.sustains` — **a transaction of the job service that meets the conditions lets the
  job go on.**
* `DeletionStep.sweepJob` — a job stays, is fenced, or goes with what it works for.
* `scopeValid_of_rows` — the scope of such a job is that of its targets.
-/

namespace RateReplay

open Dict

/-! ### Jobs that go on -/

/-- The job of a deletion goes on. -/
structure Sustained (db : Database) (job : JobRecord) : Prop where
  kind : job.kind = .deletion
  live : job.state.terminal = false
  budget : job.state = .queued → job.attemptCount < job.maxAttempts
  scope : scopeValid db job = true

/-- No attempt at a deletion is the last one when it fails or its lease expires, no failure of one
is final, and no owner cancels one. -/
def RetriesSweeps (db : Database) : QueueService → Prop
  | .fail lease _ retryable _ =>
    ∀ job ∈ db.jobs.get? lease.jobId, job.kind = .deletion →
      retryable = true ∧ job.attemptCount < job.maxAttempts
  | .cancel _ jobId _ => ∀ job ∈ db.jobs.get? jobId, job.kind ≠ .deletion
  | .rescue now =>
    ∀ e ∈ db.jobs.entries, expired now e.2 = true → e.2.kind = .deletion →
      e.2.attemptCount < e.2.maxAttempts
  | .lease .. | .start .. | .heartbeat .. => True

instance (db : Database) (service : QueueService) : Decidable (RetriesSweeps db service) := by
  cases service <;> unfold RetriesSweeps <;> infer_instance

section Service

variable {db db' : Database} {id : String} {job job' : JobRecord}

/-- A scope is captured with the request. -/
theorem scopeValid_congr (h : job'.request = job.request) :
    scopeValid db job' = scopeValid db job := by
  cases job
  cases job'
  simp only [JobRecord.request, JobRequest.mk.injEq] at h
  obtain ⟨rfl, rfl, rfl, rfl, rfl, rfl, rfl, rfl, rfl, rfl, rfl, rfl, rfl, rfl, rfl⟩ := h
  rfl

theorem Sustained.of_frame (h : Sustained db job) (hfrm : ServiceFrame db db')
    (hreq : job'.request = job.request) (hlive : job'.state.terminal = false)
    (hbud : job'.state = .queued → job'.attemptCount < job'.maxAttempts) :
    Sustained db' job' where
  kind := (congrArg JobRequest.kind hreq).trans h.kind
  live := hlive
  budget := hbud
  scope := by
    rw [hfrm.scopeValid_eq, scopeValid_congr hreq]
    exact h.scope

/-- The job at this row goes on. -/
def GoesOn (db' : Database) (id : String) (job : JobRecord) : Prop :=
  ∃ job', db'.jobs.get? id = some job' ∧ job'.request = job.request ∧ Sustained db' job'

theorem Sustained.kept (h : Sustained db job) (hfrm : ServiceFrame db db')
    (hg : db'.jobs.get? id = some job) : GoesOn db' id job :=
  ⟨job, hg, rfl, h.of_frame hfrm rfl h.live h.budget⟩

theorem GoesOn.trans {db'' : Database}
    (h : GoesOn db' id job)
    (h' : ∀ job', db'.jobs.get? id = some job' → Sustained db' job' → GoesOn db'' id job') :
    GoesOn db'' id job := by
  obtain ⟨job', hg', hreq', hsust'⟩ := h
  obtain ⟨job'', hg'', hreq'', hsust''⟩ := h' job' hg' hsust'
  exact ⟨job'', hg'', hreq''.trans hreq', hsust''⟩

/-- A job that is updated in a row of its own. -/
theorem Sustained.modified (h : Sustained db job) (hg : db.jobs.get? id = some job)
    {j : String} {f : JobRecord → JobRecord} (hfrm : ServiceFrame db db')
    (hjs : db'.jobs = db.jobs.modify j f)
    (hf : id = j → (f job).request = job.request ∧ (f job).state.terminal = false ∧
      ((f job).state = .queued → (f job).attemptCount < (f job).maxAttempts)) :
    GoesOn db' id job := by
  by_cases hid : id = j
  · obtain ⟨hreq, hlive, hbud⟩ := hf hid
    refine ⟨f job, ?_, hreq, h.of_frame hfrm hreq hlive hbud⟩
    rw [hjs, hid, get?_modify_self, ← hid, hg]
    rfl
  · refine h.kept hfrm ?_
    rw [hjs, get?_modify_of_ne _ _ hid]
    exact hg

variable {ends : String → JobRecord → Prop}

/-- A turn that ends no job of the kind lets it go on. -/
theorem ServiceTurn.goesOn (hturn : ServiceTurn ends db db')
    (hspares : ∀ db id job, ends id job → ¬ Sustained db job)
    (h : Sustained db job) (hg : db.jobs.get? id = some job) : GoesOn db' id job := by
  rcases hturn.change with rfl | ⟨hrow, hs, hcase, hjs, -⟩
  · exact h.kept hturn.frame hg
  · refine h.modified hg hturn.frame hjs fun hid => ?_
    subst hid
    cases hg.symm.trans hrow
    refine ⟨hs.request, ?_⟩
    cases hcase with
    | held hst =>
      refine ⟨terminal_of_held hst, fun hq => ?_⟩
      rw [hq] at hst
      cases hst
    | requeued hst _ hbud => exact ⟨by rw [hst]; rfl, fun _ => hbud⟩
    | ended _ hends => exact absurd h (hspares db _ job (hends h.scope))

theorem ServiceTurns.goesOn (hturns : ServiceTurns ends db db')
    (hspares : ∀ db id job, ends id job → ¬ Sustained db job)
    (h : Sustained db job) (hg : db.jobs.get? id = some job) : GoesOn db' id job := by
  induction hturns with
  | refl => exact h.kept (.refl db) hg
  | tail _ hturn ih => exact ih.trans fun _ hg' h' => hturn.goesOn hspares h' hg'

/-- **A transaction of the job service that meets the conditions lets the job go on.** -/
theorem QueueService.sustains {retryDelay : String → ℕ → ℤ} {service : QueueService}
    (h : Sustained db job) (hg : db.jobs.get? id = some job)
    (hretries : RetriesSweeps db service) : GoesOn (service.run retryDelay db) id job := by
  cases service with
  | lease =>
    refine committed_of (P := fun db' => GoesOn db' id job) (h.kept (.refl db) hg)
      fun _ _ hok => (leaseLoop_writes hok).turns.goesOn ?_ h hg
    exact fun _ _ _ hexhausted hrow => absurd (hrow.budget hexhausted.1) (not_lt.mpr hexhausted.2)
  | start => exact start_write.turn.goesOn (fun _ _ _ hends => hends.elim) h hg
  | heartbeat => exact heartbeat_write.turn.goesOn (fun _ _ _ hends => hends.elim) h hg
  | fail =>
    exact fail_write.turn.goesOn
      (fun _ _ row hends hrow => hends.2 (hretries row hends.1 hrow.kind)) h hg
  | cancel =>
    exact (cancel_write (R := fun _ _ => True) fun _ _ _ _ => trivial).turn.goesOn
      (fun _ _ row hends hrow => hretries row hends hrow.kind) h hg
  | rescue =>
    refine rescueExpired_writes.turns.goesOn (fun _ _ _ hends hrow => ?_) h hg
    exact absurd (hretries _ hends.1 hends.2.1 hrow.kind) (not_lt.mpr hends.2.2)

end Service

/-! ### Jobs and their deletions -/

/-- The job works within the account, the import or the profile. -/
def JobUnder (kind : TargetKind) (target : DeletionTarget) (job : JobRecord) : Prop :=
  job.ownerUserId = some target.ownerUserId ∧
    match kind with
    | .account => True
    | .importing => job.importId = some target.id
    | .profile => job.profileVersionId = some target.id

/-- The job is for the deletion of this target. -/
def SweepsFor (child : Intention) (job : JobRecord) : Prop :=
  job.ownerUserId = some child.target.ownerUserId ∧
    match child.kind with
    | .account => job.importId = none ∧ job.profileVersionId = none
    | .importing => job.importId = some child.target.id ∧ job.profileVersionId = none
    | .profile => job.importId = child.target.importId ∧
        job.profileVersionId = some child.target.id

/-- What becomes of the job of a deletion. -/
inductive SweepJobChange (w : DeletionWorld) (operation : DeletionOperation) (w' : DeletionWorld)
    (id : String) (job : JobRecord) : Prop
  | kept (h : w'.db.jobs.get? id = some job)
  | fenced {prepared : LedgerEvent} {receiptId : String} {now : ℤ} {intent : DeletionIntentRecord}
      {target : DeletionTarget} (hoperation : operation = .fence prepared receiptId now)
      (hintent : w.db.intents.get? prepared.deletionId = some intent)
      (htarget : targetByScope w.db intent.targetKind intent.targetScopeId = some target)
      (hactive : target.lifecycleState = .active) (hunder : JobUnder intent.targetKind target job)
  | swept {lease : JobLease} {phase : ControlPhase} {now : ℤ} {scope : SweepScope}
      (hlocked : lockedControl w.db lease phase now = .ok scope) (hne : id ≠ lease.jobId)
      (hunder : JobUnder scope.control.targetKind scope.target job)
  | gone {deletionId : String} {control : DeletionControlOperationRecord}
      (hcontrol : w.db.controls.get? deletionId = some control)
      (hjob : control.deletionJobId = some id) (hgone : w'.db.controls.get? deletionId = none)
  | served {service : QueueService} (hoperation : operation = .service service)

section Steps

variable {keys : DeletionKeys} {retryDelay : String → ℕ → ℤ} {w w' : DeletionWorld}
  {operation : DeletionOperation} {id : String} {job : JobRecord} {db : Database}
  {kind : TargetKind} {target : DeletionTarget} {jobId ownerUserId : String}

/-- A job that a fence cancels works within the fenced target. -/
theorem jobUnder_of_fencesJob (ho : target.ownerUserId = ownerUserId)
    (h : fencesJob kind target.id ownerUserId job = true) : JobUnder kind target job := by
  unfold fencesJob at h
  rw [Bool.and_eq_true, Bool.and_eq_true, decide_eq_true_eq] at h
  obtain ⟨⟨hj, -⟩, hk⟩ := h
  refine ⟨by rw [hj, ho], ?_⟩
  cases kind with
  | account => trivial
  | importing => exact of_decide_eq_true hk
  | profile => exact of_decide_eq_true hk

theorem sweepOwnerRows_job (hg : db.jobs.get? id = some job) :
    (sweepOwnerRows db ownerUserId jobId).jobs.get? id = some job ∨
      (id ≠ jobId ∧ job.ownerUserId = some ownerUserId) := by
  by_cases hmem : id ∈ (db.jobs.keysWhere (·.ownerUserId = some ownerUserId)).filter (· ≠ jobId)
  · obtain ⟨hkeys, hne⟩ := List.mem_filter.mp hmem
    obtain ⟨found, hfnd, ho⟩ := mem_keysWhere.mp hkeys
    rw [← get?_eq_some, hg] at hfnd
    cases hfnd
    exact .inr ⟨of_decide_eq_true hne, of_decide_eq_true ho⟩
  · exact .inl (get?_deleteWhere_of_not hg (decide_eq_false hmem))

theorem deleteResourceRows_job (hk : kind ≠ .account) (hg : db.jobs.get? id = some job) :
    (deleteResourceRows db kind target jobId).jobs.get? id = some job ∨
      (id ≠ jobId ∧ JobUnder kind target job) := by
  by_cases hmem : id ∈ (resourceGraph db kind target jobId).jobIds
  · obtain ⟨hkeys, hne⟩ := List.mem_filter.mp hmem
    obtain ⟨found, hfnd, hresource⟩ := mem_keysWhere.mp hkeys
    rw [← get?_eq_some, hg] at hfnd
    cases hfnd
    rw [resourceJob, Bool.and_eq_true, decide_eq_true_eq] at hresource
    refine .inr ⟨of_decide_eq_true hne, hresource.1, ?_⟩
    cases kind with
    | account => exact absurd rfl hk
    | importing => simpa using hresource.2
    | profile => simpa using hresource.2
  · exact .inl (get?_deleteWhere_of_not hg (decide_eq_false hmem))

/-- **The job of a deletion stays, is fenced, or goes with what it works for.** -/
theorem DeletionStep.sweepJob (hs : DeletionStep keys retryDelay w operation w')
    (hg : w.db.jobs.get? id = some job) (hk : job.kind = .deletion) :
    SweepJobChange w operation w' id job := by
  cases hs.write with
  | books h => exact .kept (h.jobs ▸ hg)
  | @fenced _ _ _ intent target hop hint htgt ho hact _ h =>
    by_cases hfences : fencesJob intent.targetKind target.id intent.ownerUserId job = true
    · exact .fenced hop hint htgt hact (jobUnder_of_fencesJob ho hfences)
    · refine .kept ?_
      rw [h.jobs, fenceDependentWork, get?_modifyWhere, hg, Option.map_some,
        if_neg hfences]
  | requested _ _ _ _ _ h =>
    obtain ⟨_, _, -, -, hjs⟩ := h.jobs
    refine .kept ?_
    rw [hjs, get?_set_of_ne]
    · exact hg
    · rintro rfl
      rw [h.newJob] at hg
      cases hg
  | advanced hlk _ hrows h =>
    cases hrows with
    | kept => exact .kept (h ▸ hg)
    | owner hacc =>
      rcases sweepOwnerRows_job hg with hkept | ⟨hne, ho⟩
      · exact .kept (h ▸ hkept)
      · exact .swept hlk hne ⟨ho, by rw [hacc]; trivial⟩
    | resource _ hk =>
      rcases deleteResourceRows_job hk hg with hkept | ⟨hne, hu⟩
      · exact .kept (h ▸ hkept)
      · exact .swept hlk hne hu
  | @removed _ control _ hctl hctls _ hjs =>
    by_cases hj : control.deletionJobId = some id
    · exact .gone hctl hj (hctls ▸ get?_deleteWhere_self _ _)
    · refine .kept ?_
      rw [hjs]
      exact get?_deleteWhere_of_not hg (decide_eq_false fun heq => hj heq.symm)
  | served hop => exact .served hop
  | ordinary _ h => exact .kept ((h.sweepJobs id job hk).mpr hg)

/-! ### Scopes of such jobs -/

/-- What a valid scope of a deletion is: its target is `DELETING`, and what is above it active, at
the generations the job has captured. -/
inductive DeletionScope (job : JobRecord) (user : Option UserRecord)
    (imported : Option ImportRecord) (profile : Option ProfileVersionRecord) : Prop
  | account {u : UserRecord} (hschema : job.requestSchemaVersion = "account-deletion-v1")
      (huser : user = some u) (hgeneration : u.lifecycleGeneration = job.capturedAccountGeneration)
      (hstate : u.lifecycleState = .deleting) (himport : job.importId = none)
      (hprofile : job.profileVersionId = none) (hcaptured : job.capturedImportGeneration = none)
      (hcapturedProfile : job.capturedProfileGeneration = none)
  | importing {u : UserRecord} {i : ImportRecord}
      (hschema : job.requestSchemaVersion = "import-deletion-v1") (huser : user = some u)
      (hgeneration : u.lifecycleGeneration = job.capturedAccountGeneration)
      (hstate : u.lifecycleState = .active) (himport : imported = some i)
      (howner : some i.ownerUserId = job.ownerUserId) (hdeleting : i.lifecycleState = .deleting)
      (hcaptured : some i.lifecycleGeneration = job.capturedImportGeneration)
      (hprofile : job.profileVersionId = none)
      (hcapturedProfile : job.capturedProfileGeneration = none)
  | profile {u : UserRecord} {i : ImportRecord} {p : ProfileVersionRecord}
      (hschema : job.requestSchemaVersion = "profile-deletion-v1") (huser : user = some u)
      (hgeneration : u.lifecycleGeneration = job.capturedAccountGeneration)
      (hstate : u.lifecycleState = .active) (himport : imported = some i)
      (howner : some i.ownerUserId = job.ownerUserId) (hactive : i.lifecycleState = .active)
      (hcaptured : some i.lifecycleGeneration = job.capturedImportGeneration)
      (hprofile : profile = some p) (hprofileOwner : some p.ownerUserId = job.ownerUserId)
      (hof : some p.importId = job.importId) (hdeleting : p.lifecycleState = .deleting)
      (hcapturedProfile : some p.lifecycleGeneration = job.capturedProfileGeneration)

theorem deletionScopeIsValid_iff {user : Option UserRecord} {imported : Option ImportRecord}
    {profile : Option ProfileVersionRecord} :
    deletionScopeIsValid job user imported profile = true ↔
      DeletionScope job user imported profile := by
  constructor
  · intro h
    unfold deletionScopeIsValid at h
    split at h
    · cases h
    · split at h
      · cases h
      · rename_i hgen
        rw [not_not] at hgen
        split at h
        · rename_i hschema
          simp only [Bool.and_eq_true, decide_eq_true_eq] at h
          obtain ⟨⟨⟨⟨hst, him⟩, hpf⟩, hcapd⟩, hcapProf⟩ := h
          exact .account hschema rfl hgen hst him hpf hcapd hcapProf
        · split at h
          · cases h
          · rename_i hst
            rw [not_not] at hst
            split at h
            · rename_i hschema
              split at h
              · cases h
              · simp only [Bool.and_eq_true, decide_eq_true_eq] at h
                obtain ⟨⟨⟨⟨ho, hdel⟩, hcapd⟩, hpf⟩, hcapProf⟩ := h
                exact .importing hschema rfl hgen hst rfl ho hdel hcapd
                  hpf hcapProf
            · split at h
              · rename_i hschema
                split at h
                · simp only [Bool.and_eq_true, decide_eq_true_eq] at h
                  obtain ⟨⟨⟨⟨⟨⟨ho, hact⟩, hcapd⟩, hpfO⟩, hof⟩, hdel⟩,
                    hcapProf⟩ := h
                  exact .profile hschema rfl hgen hst rfl ho hact hcapd rfl
                    hpfO hof hdel hcapProf
                · cases h
              · cases h
  · intro h
    cases h with
    | account hschema huser hgen hst him hpf hcapd hcapProf =>
      subst huser
      unfold deletionScopeIsValid
      simp [*]
    | importing hschema huser hgen hst him ho hdel hcapd hpf
        hcapProf =>
      subst huser him
      unfold deletionScopeIsValid
      simp [*]
    | profile hschema huser hgen hst him ho hact hcapd hpf
        hpfO hof hdel hcapProf =>
      subst huser him hpf
      unfold deletionScopeIsValid
      simp [*]

/-- The scope of a job of this kind is judged as a deletion. -/
theorem scopeValid_iff (hk : job.kind = .deletion) :
    scopeValid db job = true ↔ job.scopeMode = .deletingScope ∧
      DeletionScope job (job.ownerUserId.bind db.users.get?) (job.importId.bind db.imports.get?)
        (job.profileVersionId.bind db.profiles.get?) := by
  rw [← deletionScopeIsValid_iff, scopeValid]
  unfold scopeIsValid
  rw [hk]
  by_cases hmode : job.scopeMode = .deletingScope
  · simp [hmode, JobKind.definition]
  · simp [hmode, JobKind.definition]

/-- The scope of a deletion is that of its targets, so it stays valid as long as their rows are as
they were. -/
theorem scopeValid_of_rows {db' : Database} (hk : job.kind = .deletion)
    (hv : scopeValid db job = true)
    (hrows : ∀ kind target, TargetRow db target kind → JobUnder kind target job →
      TargetRow db' target kind) : scopeValid db' job = true := by
  rw [scopeValid_iff hk] at hv ⊢
  obtain ⟨hmode, hsc⟩ := hv
  refine ⟨hmode, ?_⟩
  have hus : ∀ {u}, job.ownerUserId.bind db.users.get? = some u →
      ∃ u', job.ownerUserId.bind db'.users.get? = some u' ∧
        u'.lifecycleState = u.lifecycleState ∧ u'.lifecycleGeneration = u.lifecycleGeneration := by
    intro u hu
    obtain ⟨owner, ho, hg⟩ := Option.bind_eq_some_iff.mp hu
    obtain ⟨u', hg', htgt⟩ :=
      hrows .account (UserRecord.target owner u) ⟨u, hg, rfl⟩ ⟨ho, trivial⟩
    refine ⟨u', by rw [ho]; exact hg', ?_, ?_⟩
    · exact (congrArg DeletionTarget.lifecycleState htgt).symm
    · exact (congrArg DeletionTarget.lifecycleGeneration htgt).symm
  have hims : ∀ {i}, job.importId.bind db.imports.get? = some i →
      some i.ownerUserId = job.ownerUserId → ∃ i', job.importId.bind db'.imports.get? = some i' ∧
        i'.ownerUserId = i.ownerUserId ∧ i'.lifecycleState = i.lifecycleState ∧
        i'.lifecycleGeneration = i.lifecycleGeneration := by
    intro i hi ho
    obtain ⟨importId, himId, hg⟩ := Option.bind_eq_some_iff.mp hi
    obtain ⟨i', hg', htgt⟩ :=
      hrows .importing (ImportRecord.target importId i) ⟨i, hg, rfl⟩ ⟨ho.symm, himId⟩
    refine ⟨i', by rw [himId]; exact hg', ?_, ?_, ?_⟩
    · exact (congrArg DeletionTarget.ownerUserId htgt).symm
    · exact (congrArg DeletionTarget.lifecycleState htgt).symm
    · exact (congrArg DeletionTarget.lifecycleGeneration htgt).symm
  have hpfs : ∀ {p}, job.profileVersionId.bind db.profiles.get? = some p →
      some p.ownerUserId = job.ownerUserId →
      ∃ p', job.profileVersionId.bind db'.profiles.get? = some p' ∧
        p'.ownerUserId = p.ownerUserId ∧ p'.importId = p.importId ∧
        p'.lifecycleState = p.lifecycleState ∧ p'.lifecycleGeneration = p.lifecycleGeneration := by
    intro p hp ho
    obtain ⟨profileId, hpfId, hg⟩ := Option.bind_eq_some_iff.mp hp
    obtain ⟨p', hg', htgt⟩ :=
      hrows .profile (ProfileVersionRecord.target profileId p) ⟨p, hg, rfl⟩
        ⟨ho.symm, hpfId⟩
    refine ⟨p', by rw [hpfId]; exact hg', ?_, ?_, ?_, ?_⟩
    · exact (congrArg DeletionTarget.ownerUserId htgt).symm
    · exact (Option.some.inj (congrArg DeletionTarget.importId htgt)).symm
    · exact (congrArg DeletionTarget.lifecycleState htgt).symm
    · exact (congrArg DeletionTarget.lifecycleGeneration htgt).symm
  cases hsc with
  | account hschema huser hgen hst him hpf hcapd hcapProf =>
    obtain ⟨u', huser', hst', hgen'⟩ := hus huser
    exact .account hschema huser' (hgen'.trans hgen) (hst'.trans hst) him
      hpf hcapd hcapProf
  | importing hschema huser hgen hst him ho hdel hcapd hpf
      hcapProf =>
    obtain ⟨u', huser', hst', hgen'⟩ := hus huser
    obtain ⟨i', him', ho', hdel', hcapd'⟩ := hims him ho
    exact .importing hschema huser' (hgen'.trans hgen) (hst'.trans hst)
      him' (by rw [ho', ho]) (hdel'.trans hdel)
      (by rw [hcapd', hcapd]) hpf hcapProf
  | profile hschema huser hgen hst him ho hact hcapd hpf
      hpfO hof hdel hcapProf =>
    obtain ⟨u', huser', hst', hgen'⟩ := hus huser
    obtain ⟨i', him', ho', hact', hcapd'⟩ := hims him ho
    obtain ⟨p', hpf', hpfO', hof', hdel', hcapProf'⟩ :=
      hpfs hpf hpfO
    exact .profile hschema huser' (hgen'.trans hgen) (hst'.trans hst)
      him' (by rw [ho', ho]) (hact'.trans hact) (by rw [hcapd', hcapd])
      hpf' (by rw [hpfO', hpfO]) (by rw [hof', hof])
      (hdel'.trans hdel) (by rw [hcapProf', hcapProf])

end Steps

end RateReplay
