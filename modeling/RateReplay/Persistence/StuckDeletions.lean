import RateReplay.Persistence.SweepJobs
import RateReplay.Persistence.SubordinateChains

/-!
# Deletions that cannot get stuck

Once the request of a deletion is acknowledged, nothing queues it again: it goes on only as long
as its job does, or as long as a deletion above it goes on.  The job has a budget of attempts, and
a deletion that has used it up is stuck for good.

Under the conditions of `RetriesSweeps` a deletion that is past its fence has a live job, or is
below one that has.  The fence of an account or an import cancels the jobs below it before its own
job exists, so between that fence and its acknowledgment neither of the two has one.

## Main definitions

* `Acknowledged` — the control of the deletion is past `FENCE`.
* `HasLiveJob` — the control has a job that is queued, leased or running.
* `KeepsRetrying` — the conditions on the steps.
* `Carried` — the invariant.

## Main results

* `DeletionStep.carried` — **every such step keeps the invariant.**
* `acknowledged_deletions_carried` — **no deletion gets stuck in such a run.**
* `deletion_stuck` — a deletion whose hundredth attempt has failed is stuck, and one below a fence
  that is not acknowledged waits for it.
-/

namespace RateReplay

/-- The request of the deletion has been acknowledged: its control is past `FENCE`. -/
def Acknowledged (w : DeletionWorld) (deletionId : String) : Prop :=
  ∃ control, w.db.controls.get? deletionId = some control ∧ control.phase ≠ .fence

/-- The control has a job of its kind that is queued, leased or running. -/
def HasLiveJob (db : Database) (control : DeletionControlOperationRecord) : Prop :=
  ∃ jobId job, control.deletionJobId = some jobId ∧ db.jobs.get? jobId = some job ∧
    job.kind = .deletion ∧ job.state.terminal = false

instance (db : Database) (control : DeletionControlOperationRecord) :
    Decidable (HasLiveJob db control) :=
  decidable_of_iff (control.deletionJobId.any fun jobId => (db.jobs.get? jobId).any fun job =>
    job.kind = .deletion && !job.state.terminal) (by simp [HasLiveJob, Option.any_eq_true])

/-- The job service ends no job of a deletion. -/
def KeepsRetrying (w : DeletionWorld) : DeletionOperation → Prop
  | .service service => RetriesSweeps w.db service
  | _ => True

instance (w : DeletionWorld) (operation : DeletionOperation) :
    Decidable (KeepsRetrying w operation) := by
  apply DeletionOperation.casesOn (motive := fun o => Decidable (KeepsRetrying w o)) operation <;>
    intros <;> unfold KeepsRetrying <;> infer_instance

/-- No deletion above is fenced. -/
def Unfenced (w : DeletionWorld) (child : Intention) : Prop :=
  ∀ parent ∈ w.intentions, child.Under parent → parent.deletionId ∉ w.fences

/-- The control is carried by its own job. -/
structure CarriedBy (w : DeletionWorld) (child : Intention) (jobId : String) (job : JobRecord) :
    Prop where
  get : w.db.jobs.get? jobId = some job
  sweeps : SweepsFor child job
  sustained : Sustained w.db job

structure Carried (w : DeletionWorld) : Prop where
  intents : ∀ child ∈ w.intentions, child.kind ≠ .account → Unfenced w child →
    (w.db.controls.get? child.deletionId).isSome = true →
    (w.db.intents.get? child.deletionId).isSome = true
  /-- The control of a fenced target goes when the deletion is completed, or under another. -/
  held : ∀ parent ∈ w.intentions, parent.deletionId ∈ w.fences → Unfenced w parent →
    (w.db.controls.get? parent.deletionId).isSome = true ∨ parent.deletionId ∈ w.completions
  jobs : ∀ child ∈ w.intentions, Unfenced w child → ∀ control,
    w.db.controls.get? child.deletionId = some control → control.phase ≠ .fence →
    ∃ jobId job, control.deletionJobId = some jobId ∧ CarriedBy w child jobId job

section Steps

variable {keys : DeletionKeys} {retryDelay : String → ℕ → ℤ} {w w' : DeletionWorld}
  {operation : DeletionOperation} {child : Intention} {target : DeletionTarget} {job : JobRecord}
  {now : ℤ} {jobId : String} {control : DeletionControlOperationRecord} {other parent : Intention}
  {lease : JobLease} {phase : ControlPhase} {receiptId : String} {intent : DeletionIntentRecord}
  {db db' : Database} {control' : DeletionControlOperationRecord}

theorem NoDeletions.carried (h : NoDeletions w) : Carried w where
  intents := by simp [h.intentions]
  held := by simp [h.intentions]
  jobs := by simp [h.intentions]

theorem Unfenced.before (h : Unfenced w' child)
    (hs : DeletionStep keys retryDelay w operation w') : Unfenced w child :=
  fun parent hpar hu hf =>
    h parent (hs.intentions_subset hpar) hu (hs.fences_subset hf)

/-! ### Jobs within a fenced target -/

/-- A job that works within a target is for its deletion, or for one below it. -/
theorem SweepsFor.under (h : SweepsFor child job) (hsame : SameTarget target other.target)
    (hacc : ∀ intention ∈ [child, other], intention.kind = .account →
      intention.target.ownerUserId = intention.target.id) (hu : JobUnder other.kind target job) :
    child.Under other ∨ (other.kind = child.kind ∧ other.target.id = child.target.id) := by
  obtain ⟨ho, hreach⟩ := hu
  rw [h.1] at ho
  have ho := (Option.some.inj ho).trans hsame.ownerUserId
  have hfor := h.2
  cases hk : other.kind with
  | account =>
    by_cases hc : child.kind = .account
    · refine .inr ⟨hc.symm, ?_⟩
      rw [← hacc other (by simp) hk, ← ho, hacc child (by simp) hc]
    · exact .inl ⟨ho, .inl ⟨hk, hc⟩⟩
  | importing =>
    simp only [hk] at hreach
    cases hc : child.kind with
    | account =>
      simp only [hc, hreach] at hfor
      cases hfor.1
    | importing =>
      simp only [hc, hreach] at hfor
      exact .inr ⟨rfl, hsame.id.symm.trans (Option.some.inj hfor.1)⟩
    | profile =>
      simp only [hc, hreach] at hfor
      exact .inl ⟨ho, .inr ⟨hk, hc, by rw [← hfor.1, hsame.id]⟩⟩
  | profile =>
    simp only [hk] at hreach
    cases hc : child.kind with
    | account | importing =>
      simp only [hc, hreach] at hfor
      cases hfor.2
    | profile =>
      simp only [hc, hreach] at hfor
      exact .inr ⟨rfl, hsame.id.symm.trans (Option.some.inj hfor.2)⟩

section Fencing

variable (h : SweepsFor child job) (hprot : Protocol w) (hsw : Sweeps w) (hsw' : Sweeps w')
  (hs : DeletionStep keys retryDelay w operation w') (hc : child ∈ w.intentions)
  (hf : child.deletionId ∈ w'.fences) (hfree : Unfenced w' child)

include h hprot hsw hsw' hs hc hf hfree

/-- A fenced target that a job works within is that of its own deletion, as long as none above is
fenced. -/
theorem SweepsFor.eq_of_fenced (hoth : other ∈ w.intentions) (hothF : other.deletionId ∈ w'.fences)
    (hrow : TargetRow w.db target other.kind)
    (hsc : target.deletionScopeId = other.target.deletionScopeId)
    (hu : JobUnder other.kind target job) : other = child := by
  obtain ⟨-, hsame⟩ := hprot.rows other hoth _ target hrow (.inr hsc)
  have hacc : ∀ intention ∈ [child, other], intention.kind = .account →
      intention.target.ownerUserId = intention.target.id := by
    intro intention hmem
    rcases List.mem_pair.mp hmem with rfl | rfl
    · exact hsw.accounts _ hc
    · exact hsw.accounts _ hoth
  rcases h.under hsame hacc hu with hu | ⟨hk, hid⟩
  · exact absurd hothF (hfree other (hs.intentions_subset hoth) hu)
  · obtain ⟨-, hsameChild⟩ := hprot.rows child hc _ target hrow
      (.inl ⟨hk, hsame.id.trans hid⟩)
    refine hsw'.once other (hs.intentions_subset hoth) child
      (hs.intentions_subset hc) hothF hf ?_
    rw [← hsc, hsameChild.deletionScopeId]

/-- What a sweep is about, as a fenced target. -/
theorem SweepsFor.eq_of_locked {scope : SweepScope}
    (hlk : lockedControl w.db lease phase now = .ok scope)
    (hu : JobUnder scope.control.targetKind scope.target job) :
    scope.deletionId = child.deletionId := by
  obtain ⟨hscId, hrow⟩ := lockedControl_row hlk
  obtain ⟨other, hoth, hid, hk, hothS, -, hothF⟩ :=
    hprot.scope_intention hlk
  rw [← hk] at hrow hu
  rw [← hid, h.eq_of_fenced hprot hsw hsw' hs hc hf hfree hoth
    (hs.fences_subset hothF) hrow (hscId.trans hothS.symm) hu]

/-- The fence of another deletion does not reach the job. -/
theorem SweepsFor.eq_of_fence {prepared : LedgerEvent}
    (hop : operation = .fence prepared receiptId now)
    (hint : w.db.intents.get? prepared.deletionId = some intent)
    (htgt : targetByScope w.db intent.targetKind intent.targetScopeId = some target)
    (hu : JobUnder intent.targetKind target job) : prepared.deletionId = child.deletionId := by
  obtain ⟨hscId, hrow⟩ := targetByScope_eq_some htgt
  obtain ⟨other, hoth, hid, hk, hothS, -⟩ := hprot.intents _ intent hint
  have hothF : other.deletionId ∈ w'.fences := by
    subst hop
    cases hs with
    | fence => rw [hid]; exact List.mem_insert_self
  rw [← hk] at hrow hu
  rw [← hid, h.eq_of_fenced hprot hsw hsw' hs hc hf hfree hoth hothF
    hrow (hscId.trans hothS.symm) hu]

end Fencing

/-- A deletion that is fenced is not fenced again. -/
theorem Protocol.not_active_of_fence (hprot : Protocol w) (hc : child ∈ w.intentions)
    (hf : child.deletionId ∈ w.fences) (hint : w.db.intents.get? child.deletionId = some intent)
    (htgt : targetByScope w.db intent.targetKind intent.targetScopeId = some target) :
    target.lifecycleState ≠ .active := by
  intro hact
  obtain ⟨hscId, hrow⟩ := targetByScope_eq_some htgt
  obtain ⟨other, hoth, hid, hk, hsc, -⟩ := hprot.intents _ intent hint
  rw [hprot.unique other hoth child hc hid] at hk hsc
  obtain ⟨-, hsame⟩ := hprot.rows child hc _ target hrow (.inr (hscId.trans hsc.symm))
  obtain ⟨fenced, hfcd, hfencedId, hina⟩ := hprot.fenced _ hf
  rw [hprot.unique fenced hfcd child hc hfencedId, hk] at hina
  exact hina (activeTarget_iff.mpr ⟨target, hrow, hsame.id, hact⟩)

/-! ### Steps that leave a deletion with its job -/

/-- A deletion that keeps its control and its job through a step, with none above fenced. -/
structure Continues (w w' : DeletionWorld) (child : Intention) (jobId : String) : Prop where
  mem : child ∈ w.intentions
  unfenced : Unfenced w' child
  before : ∃ control, w.db.controls.get? child.deletionId = some control ∧
    control.deletionJobId = some jobId
  after : ∃ control, w'.db.controls.get? child.deletionId = some control ∧
    control.deletionJobId = some jobId

theorem Continues.fenced (h : Continues w w' child jobId) (hprot : Protocol w) :
    child.deletionId ∈ w.fences := by
  obtain ⟨control, hg, -⟩ := h.before
  exact (hprot.controls _ control hg).1

/-- **What such a job works within stays as it is.** -/
theorem DeletionStep.carried_row (hprot : Protocol w) (hjs : SweepJobs w) (hsw : Sweeps w)
    (hsw' : Sweeps w') (hs : DeletionStep keys retryDelay w operation w')
    (h : Continues w w' child jobId) (hfor : SweepsFor child job) {kind : TargetKind}
    (hrow : TargetRow w.db target kind) (hu : JobUnder kind target job) :
    TargetRow w'.db target kind := by
  have hc := h.mem
  have hf := h.fenced hprot
  have hf' := hs.fences_subset hf
  have hlk : ∀ {lease phase now scope}, lockedControl w.db lease phase now = .ok scope →
      JobUnder scope.control.targetKind scope.target job →
      scope.deletionId = child.deletionId :=
    fun hlk hu => hfor.eq_of_locked hprot hsw hsw' hs hc hf'
      h.unfenced hlk hu
  obtain ⟨control, hctl, hj⟩ := h.before
  obtain ⟨control', hctl', hj'⟩ := h.after
  cases hs.target hrow with
  | kept hkept => exact hkept
  | fenced hop hint hk htgt hact =>
    subst hk
    have hid := hfor.eq_of_fence hprot hsw hsw' hs hc hf' h.unfenced
      hop hint htgt hu
    rw [hid] at hint
    exact absurd hact (hprot.not_active_of_fence hc hf hint htgt)
  | requested hreqd hk htgt hfr hafter hnew =>
    subst hk
    obtain ⟨hscId, hrow⟩ := targetByScope_eq_some htgt
    obtain ⟨hothF, other, hoth, hid, hk, hsc⟩ :=
      hprot.controls _ _ hreqd
    rw [← hk] at hrow hu
    have heq := hfor.eq_of_fenced hprot hsw hsw' hs hc hf' h.unfenced hoth
      (hid ▸ hs.fences_subset hothF) hrow (hscId.trans hsc.symm) hu
    -- the request would have drawn another job
    rw [← hid, heq, hctl'] at hafter
    cases hafter
    rw [hj'] at hnew
    cases hnew
    exact absurd (hjs.drawn _ _ _ hctl hj) hfr
  | removed hrem =>
    cases hrem with
    | swept hk hacc =>
      obtain ⟨lease, now, scope, _, hsweep, hscK, ho, -⟩ := hacc
      have hid := hlk hsweep ⟨by rw [hu.1, ho], by rw [hscK]; trivial⟩
      have hg := (lockedControl_get? hsweep).1
      rw [hid] at hg
      -- the job is that of the account, and works within no import
      have hcK := (hprot.control_eq hc hg).1.trans hscK
      have hnone := hfor.2
      simp only [hcK] at hnone
      have hreach := hu.2
      cases kind with
      | account => exact absurd rfl hk
      | importing =>
        simp only [hnone.1] at hreach
        cases hreach
      | profile =>
        simp only [hnone.2] at hreach
        cases hreach
    | @verified lease now scope hverify hscK hk him ho =>
      subst hk
      have hreach : job.profileVersionId = some target.id := hu.2
      have hchildFor := hfor.2
      cases hcK : child.kind with
      | account | importing =>
        simp only [hcK, hreach] at hchildFor
        cases hchildFor.2
      | profile =>
        simp only [hcK, hreach] at hchildFor
        obtain ⟨-, hsame⟩ := hprot.rows child hc _ target hrow
          (.inl ⟨hcK.symm, Option.some.inj hchildFor.2⟩)
        have hid := hlk hverify ⟨by rw [hu.1, ho], by
          rw [hscK]
          show job.importId = _
          rw [hchildFor.1, ← hsame.importId, him]⟩
        have hg := (lockedControl_get? hverify).1
        rw [hid] at hg
        have hoth := (hprot.control_eq hc hg).1.trans hscK
        rw [hcK] at hoth
        cases hoth
    | @completed lease now scope hcpl hk hid hgone =>
      subst hk
      obtain ⟨-, hscopeRow⟩ := lockedControl_row hcpl
      rw [hscopeRow.eq_of_id hrow hid] at hu
      rw [hlk hcpl hu, hctl'] at hgone
      cases hgone

theorem SweepsFor.congr {job' : JobRecord} (h : SweepsFor child job)
    (hreq : job'.request = job.request) : SweepsFor child job' := by
  have ho : job'.ownerUserId = job.ownerUserId := congrArg JobRequest.ownerUserId hreq
  have him : job'.importId = job.importId := congrArg JobRequest.importId hreq
  have hpf : job'.profileVersionId = job.profileVersionId :=
    congrArg JobRequest.profileVersionId hreq
  rw [SweepsFor, ho, him, hpf]
  exact h

/-- **A job that carries a deletion carries it through such a step.** -/
theorem DeletionStep.carried_job (hprot : Protocol w) (hjs : SweepJobs w) (hsw : Sweeps w)
    (hsw' : Sweeps w') (hall : KeepsRetrying w operation)
    (hs : DeletionStep keys retryDelay w operation w') (h : Continues w w' child jobId)
    (hcrd : CarriedBy w child jobId job) :
    ∃ job', CarriedBy w' child jobId job' := by
  have hc := h.mem
  have hf := h.fenced hprot
  have hf' := hs.fences_subset hf
  have hsust := hcrd.sustained
  obtain ⟨control, hctl, hj⟩ := h.before
  obtain ⟨control', hctl', -⟩ := h.after
  cases hs.sweepJob hcrd.get hsust.kind with
  | kept hkept =>
    refine ⟨job, hkept, hcrd.sweeps, hsust.kind, hsust.live, hsust.budget, ?_⟩
    exact scopeValid_of_rows hsust.kind hsust.scope fun kind target hrow hu =>
      hs.carried_row hprot hjs hsw hsw' h hcrd.sweeps hrow hu
  | fenced hop hint htgt hact hu =>
    -- no other fence reaches the job, and its own is already there
    have hid := hcrd.sweeps.eq_of_fence hprot hsw hsw' hs hc hf'
      h.unfenced hop hint htgt hu
    rw [hid] at hint
    exact absurd hact (hprot.not_active_of_fence hc hf hint htgt)
  | swept hlk hne hu =>
    -- a sweep spares the job that it runs under
    have hid := hcrd.sweeps.eq_of_locked hprot hsw hsw' hs hc hf'
      h.unfenced hlk hu
    obtain ⟨hg, hlsd, -⟩ := lockedControl_get? hlk
    rw [hid, hctl] at hg
    cases hg
    rw [hj] at hlsd
    cases hlsd
    exact absurd rfl hne
  | gone hoth hotherJob hgone =>
    rw [hjs.distinct _ _ _ _ _ hoth hctl hotherJob hj, hctl'] at hgone
    cases hgone
  | served hop =>
    subst hop
    cases hs with
    | service =>
      obtain ⟨job', hg', hreq, hsust'⟩ :=
        QueueService.sustains hsust hcrd.get hall
      exact ⟨job', hg', hcrd.sweeps.congr hreq, hsust'⟩

/-! ### Requests -/

/-- What the request of the deletion of a profile has found of its import. -/
theorem profileImportGeneration_eq_ok {generation : ℕ}
    (h : profileImportGeneration db target = .ok generation) :
    ∃ importId imported, target.importId = some importId ∧
      db.imports.get? importId = some imported ∧ imported.ownerUserId = target.ownerUserId ∧
      imported.lifecycleState = .active ∧ imported.lifecycleGeneration = generation := by
  unfold profileImportGeneration at h
  split at h
  · cases h
  · rename_i imported himd
    obtain ⟨importId, himId, hg⟩ := Option.bind_eq_some_iff.mp himd
    rw [failIf_bind_eq_ok, not_or, not_not, not_not] at h
    obtain ⟨⟨ho, hact⟩, hgen⟩ := h
    exact ⟨importId, imported, himId, hg, ho, hact, Except.ok.inj hgen⟩

/-- A fenced target is not active. -/
theorem Protocol.not_mem_fences (hprot : Protocol w) (hpar : parent ∈ w.intentions)
    (hact : ActiveTarget w.db parent.kind parent.target.id) :
    parent.deletionId ∉ w.fences := by
  intro hf
  obtain ⟨fenced, hfcd, hid, hina⟩ := hprot.fenced _ hf
  rw [hprot.unique fenced hfcd parent hpar hid] at hina
  exact hina hact

/-- **A request that starts a sweep has found nothing fenced above.** -/
theorem SweepStarted.unfenced (hprot : Protocol w) (hsw : Sweeps w)
    (hstd : SweepStarted keys w.db db' child.deletionId jobId control target now)
    (hk : child.kind = control.targetKind) (hsame : SameTarget target child.target)
    (hf : atFence control target (w.db.users.get? target.ownerUserId) = true) :
    Unfenced w child := by
  intro parent hpar hu
  obtain ⟨user, generation, huser, hgen, -⟩ := hstd.jobs
  refine hprot.not_mem_fences hpar ?_
  rcases hu.2 with ⟨hacc, hne⟩ | ⟨him, hpf, himId⟩
  · rw [atFence, Bool.and_eq_true, huser, parentScopeIsActive, ← hk] at hf
    rw [hacc, ← hsw.accounts parent hpar hacc, ← hu.1, ← hsame.ownerUserId]
    exact ⟨user, huser, by simpa [hne] using hf.2⟩
  · rw [← hk, hpf, deletionImportGeneration] at hgen
    cases hfnd : profileImportGeneration w.db target with
    | error =>
      rw [hfnd] at hgen
      cases hgen
    | ok found =>
      obtain ⟨importId, imported, hid, hg, -, hact, -⟩ := profileImportGeneration_eq_ok hfnd
      rw [him]
      rw [hsame.importId, himId] at hid
      cases hid
      exact ⟨imported, hg, hact⟩

/-- The row of a target after its request. -/
theorem SweepStarted.targetRow {deletionId : String}
    (h : SweepStarted keys db db' deletionId jobId control target now)
    (hrow : TargetRow db target control.targetKind) :
    TargetRow db' { target with lifecycleState := .deleting } control.targetKind :=
  (targetRow_congr h.users h.imports h.profiles _ _).mpr hrow.setLifecycle

/-- **The job of a new sweep carries its deletion.** -/
theorem SweepStarted.carriedBy
    (h : SweepStarted keys w.db w'.db child.deletionId jobId control target now)
    (hk : child.kind = control.targetKind) (hsame : SameTarget target child.target)
    (hrow : TargetRow w.db target control.targetKind)
    (hf : atFence control target (w.db.users.get? target.ownerUserId) = true) :
    ∃ job, CarriedBy w' child jobId job := by
  obtain ⟨user, generation, huser, hgen, hjs⟩ := h.jobs
  refine ⟨deletionJob keys child.deletionId control.targetKind target user generation now, ?_, ?_,
    rfl, rfl, fun _ => by show 0 < 100; decide, ?_⟩
  · rw [hjs, Dict.get?_set_self]
  · refine ⟨congrArg some hsame.ownerUserId, ?_⟩
    rw [hk]
    cases hctl : control.targetKind with
    | account =>
      rw [hctl] at hrow
      obtain ⟨_, -, htgt⟩ := hrow
      exact ⟨congrArg DeletionTarget.importId htgt, rfl⟩
    | importing =>
      rw [hctl] at hrow
      obtain ⟨_, -, htgt⟩ := hrow
      refine ⟨(congrArg DeletionTarget.importId htgt).trans ?_, rfl⟩
      rw [← hsame.id]
      rfl
    | profile => exact ⟨hsame.importId, congrArg some hsame.id⟩
  · -- the scope is captured from the rows that the fence left
    refine (scopeValid_iff rfl).mpr ⟨rfl, ?_⟩
    have hrow' := h.targetRow hrow
    rw [atFence, Bool.and_eq_true, huser, parentScopeIsActive] at hf
    have hus : control.targetKind ≠ .account → w'.db.users.get? target.ownerUserId = some user ∧
        user.lifecycleState = .active := by
      intro hne
      refine ⟨?_, by simpa [hne] using hf.2⟩
      rw [h.users, ← huser]
      cases hctl : control.targetKind with
      | account => exact absurd hctl hne
      | importing | profile => rfl
    cases hctl : control.targetKind with
    | account =>
      rw [hctl] at hrow hrow' hgen
      obtain ⟨_, hg, htgt⟩ := hrow
      obtain ⟨user', hg', htgt'⟩ := hrow'
      have ho : target.ownerUserId = target.id := congrArg DeletionTarget.ownerUserId htgt
      rw [ho, hg] at huser
      cases huser
      cases hgen
      refine .account (u := user') rfl ?_ ?_ ?_ ?_ rfl rfl rfl
      · show w'.db.users.get? target.ownerUserId = _
        rw [ho]
        exact hg'
      · exact (congrArg DeletionTarget.lifecycleGeneration htgt').symm.trans
          (congrArg DeletionTarget.lifecycleGeneration htgt)
      · exact (congrArg DeletionTarget.lifecycleState htgt').symm
      · exact congrArg DeletionTarget.importId htgt
    | importing =>
      obtain ⟨huser', hact⟩ := hus (by rw [hctl]; decide)
      rw [hctl] at hrow' hgen
      obtain ⟨imported, hg', htgt'⟩ := hrow'
      cases hgen
      refine .importing (u := user) (i := imported) rfl huser' rfl hact ?_ ?_ ?_ ?_ rfl rfl
      · show target.importId.bind _ = _
        rw [show target.importId = some target.id from congrArg DeletionTarget.importId htgt']
        exact hg'
      · exact congrArg some (congrArg DeletionTarget.ownerUserId htgt').symm
      · exact (congrArg DeletionTarget.lifecycleState htgt').symm
      · exact congrArg some (congrArg DeletionTarget.lifecycleGeneration htgt').symm
    | profile =>
      obtain ⟨huser', hact⟩ := hus (by rw [hctl]; decide)
      rw [hctl] at hrow' hgen
      obtain ⟨profile, hg', htgt'⟩ := hrow'
      cases hfnd : profileImportGeneration w.db target with
      | error =>
        rw [deletionImportGeneration, hfnd] at hgen
        cases hgen
      | ok found =>
        rw [deletionImportGeneration, hfnd] at hgen
        cases hgen
        obtain ⟨importId, imported, hid, hg, ho, himportActive, rfl⟩ :=
          profileImportGeneration_eq_ok hfnd
        refine .profile (u := user) (i := imported) (p := profile) rfl huser' rfl hact ?_
          (congrArg some ho) himportActive rfl hg'
          (congrArg some (congrArg DeletionTarget.ownerUserId htgt').symm)
          (congrArg DeletionTarget.importId htgt').symm
          (congrArg DeletionTarget.lifecycleState htgt').symm
          (congrArg some (congrArg DeletionTarget.lifecycleGeneration htgt').symm)
        show target.importId.bind w'.db.imports.get? = _
        rw [hid, h.imports, hctl]
        exact hg

/-! ### The invariant -/

/-- The phases that a worker takes a control from are past `FENCE`. -/
theorem ControlMove.past_fence {phase' : ControlPhase} (h : ControlMove w lease phase phase') :
    phase ≠ .fence := by
  cases h <;> decide

section Steps

variable (hs : DeletionStep keys retryDelay w operation w') (hprot : Protocol w)

include hs hprot

/-- What a request that starts a sweep has found and done, for the intention it is about. -/
theorem DeletionStep.request_started (hc : child ∈ w.intentions) {event : LedgerEvent}
    (hctl : w.db.controls.get? child.deletionId = some control)
    (hop : operation = .recordRequested child.deletionId event jobId receiptId now)
    (hnew : w'.db.controls.get? child.deletionId ≠ some control) :
    ∃ target, child.kind = control.targetKind ∧ SameTarget target child.target ∧
      TargetRow w.db target control.targetKind ∧
      atFence control target (w.db.users.get? target.ownerUserId) = true ∧
      SweepStarted keys w.db w'.db child.deletionId jobId control target now := by
  subst hop
  cases hs with
  | recordRequested _ _ hok =>
    obtain ⟨found, target, hfnd, htgt, hf, -, -, ⟨_, -, -, rfl⟩ | ⟨-, hstd⟩⟩ :=
      recordRequested_eq_ok hok
    · exact absurd hctl hnew
    · rw [hctl] at hfnd
      cases hfnd
      obtain ⟨hk, hsc⟩ := hprot.control_eq hc hctl
      obtain ⟨hscId, hrow⟩ := targetByScope_eq_some htgt
      obtain ⟨-, hsame⟩ :=
        hprot.rows child hc _ target hrow (.inr (hscId.trans hsc.symm))
      exact ⟨target, hk, hsame, hrow, hf, hstd⟩

/-- A control that is past its fence was so before and has kept its job, or its sweep has just
started. -/
theorem DeletionStep.acknowledged_cases (hjs : SweepJobs w) (hc : child ∈ w.intentions)
    (hg' : w'.db.controls.get? child.deletionId = some control') (hph : control'.phase ≠ .fence) :
    (∃ control, w.db.controls.get? child.deletionId = some control ∧ control.phase ≠ .fence ∧
        control.deletionJobId = control'.deletionJobId) ∨
      ∃ control target jobId now, w.db.controls.get? child.deletionId = some control ∧
        control'.deletionJobId = some jobId ∧ w'.fences = w.fences ∧
        child.kind = control.targetKind ∧ SameTarget target child.target ∧
        TargetRow w.db target control.targetKind ∧
        atFence control target (w.db.users.get? target.ownerUserId) = true ∧
        SweepStarted keys w.db w'.db child.deletionId jobId control target now := by
  cases hs.control hg' with
  | kept hg => exact .inl ⟨control', hg, hph, rfl⟩
  | fenced _ _ hf => exact absurd hf hph
  | @requested control event jobId receiptId now hg hop hfr _ hctl =>
    subst hctl
    have hnew : w'.db.controls.get? child.deletionId ≠ some control := by
      intro hsame
      rw [hg'] at hsame
      have hj : some jobId = control.deletionJobId :=
        congrArg DeletionControlOperationRecord.deletionJobId (Option.some.inj hsame)
      exact hfr (hjs.drawn _ _ _ hg hj.symm)
    obtain ⟨target, hk, hsame, hrow, hf, hstd⟩ :=
      hs.request_started hprot hc hg hop hnew
    refine .inr ⟨control, target, jobId, now, hg, rfl, ?_, hk, hsame, hrow, hf, hstd⟩
    subst hop
    cases hs with
    | recordRequested => rfl
  | moved hlk hid hmove hctl =>
    subst hctl
    refine .inl ⟨_, hid ▸ (lockedControl_get? hlk).1, hmove.past_fence, rfl⟩

/-- The intent of a deletion stays with its control, as long as none above is fenced. -/
theorem DeletionStep.carried_intent (hsw : Sweeps w) (h : Carried w) (hc : child ∈ w'.intentions)
    (hk : child.kind ≠ .account) (hfree : Unfenced w' child)
    (hsome : (w'.db.controls.get? child.deletionId).isSome = true) :
    (w'.db.intents.get? child.deletionId).isSome = true := by
  have hf' := control_fenced (hs.protocol hprot) hsome
  have hold := hs.intention_of_fence hprot hc hf'
  rcases hs.fence_cases hprot hf' with hf |
    ⟨_, _, _, intent, _, -, -, -, hint, -, -, hfcd⟩
  · have hpre := hs.control_before hprot hf hsome
    obtain ⟨intent, hint⟩ := Option.isSome_iff_exists.mp
      (h.intents child hold hk (hfree.before hs) hpre)
    rcases hs.intent_kept hint with hkept | hrem
    · exact hkept
    · cases hrem with
      | expired hnone => exact absurd hnone (hsw.prepared _ hf)
      | completed hgone =>
        rw [hgone] at hsome
        cases hsome
      | swept hacc =>
        -- the account that is swept is above the target, and fenced
        obtain ⟨lease, now, scope, _, hlk, hscK, ho, -⟩ := hacc
        obtain ⟨parent, hpar, -, hparK, -, hsame, hparF⟩ :=
          hprot.scope_intention hlk
        obtain ⟨other, hoth, hid, -, -, hintO⟩ := hprot.intents _ intent hint
        rw [hprot.unique other hoth child hold hid] at hintO
        refine absurd (hs.fences_subset hparF)
          (hfree parent (hs.intentions_subset hpar) ⟨?_, .inl ⟨?_, hk⟩⟩)
        · rw [hintO, ← ho, hsame.ownerUserId]
        · exact hparK.trans hscK
  · rw [hfcd.intents]
    exact Dict.isSome_modify (by rw [hint]; rfl)

/-- The control of a fenced target stays until the deletion is completed, as long as none above
is fenced. -/
theorem DeletionStep.carried_held {alive : DeletionWorld → String → Prop} (hfnd : Found alive w)
    (h : Carried w) (hpar : parent ∈ w'.intentions) (hf' : parent.deletionId ∈ w'.fences)
    (hfree : Unfenced w' parent) :
    (w'.db.controls.get? parent.deletionId).isSome = true ∨
      parent.deletionId ∈ w'.completions := by
  have hold := hs.intention_of_fence hprot hpar hf'
  rcases hs.fence_cases hprot hf' with hf |
    ⟨_, _, _, _, _, -, -, hid, -, -, -, hfcd⟩
  · rcases h.held parent hold hf (hfree.before hs) with hsome | hcomp
    · rcases hs.control_removed hsome with hkept | hrem
      · exact .inl hkept
      · cases hrem with
        | completed _ hcomp => exact .inr hcomp
        | subsumed _ hinsp hmem =>
          -- a deletion that is subsumed is below the target of the sweep, which is fenced
          obtain ⟨above, habove⟩ := hfnd.inspected _ _ hinsp
          obtain ⟨child, hc, hid, hu⟩ := habove.below _ hmem
          rw [hprot.unique child hc parent hold hid] at hu
          exact absurd (hs.fences_subset habove.fenced)
            (hfree above (hs.intentions_subset habove.mem) hu)
    · exact .inr (hs.completions_subset hcomp)
  · refine .inl ?_
    rw [hfcd.controls, hid, Dict.get?_set_self]
    rfl

/-- The job of a deletion carries it, as long as none above is fenced. -/
theorem DeletionStep.carried_jobs (hjs : SweepJobs w) (hsw : Sweeps w) (hsw' : Sweeps w')
    (h : Carried w) (hall : KeepsRetrying w operation) (hc : child ∈ w'.intentions)
    (hfree : Unfenced w' child) (hg' : w'.db.controls.get? child.deletionId = some control')
    (hph : control'.phase ≠ .fence) :
    ∃ jobId job, control'.deletionJobId = some jobId ∧ CarriedBy w' child jobId job := by
  have hold := hs.intention_of_fence hprot hc
    ((hs.protocol hprot).controls _ control' hg').1
  rcases hs.acknowledged_cases hprot hjs hold hg' hph with
    ⟨control, hg, hph, hsame⟩ |
    ⟨control, target, jobId, now, -, hj, -, hk, hsame, hrow, hf, hstd⟩
  · obtain ⟨jobId, job, hj, hcrd⟩ :=
      h.jobs child hold (hfree.before hs) control hg hph
    have hcontinues : Continues w w' child jobId :=
      ⟨hold, hfree, ⟨control, hg, hj⟩, ⟨control', hg', hsame ▸ hj⟩⟩
    obtain ⟨job', hcrd'⟩ :=
      hs.carried_job hprot hjs hsw hsw' hall hcontinues hcrd
    exact ⟨jobId, job', hsame ▸ hj, hcrd'⟩
  · obtain ⟨job, hcrd⟩ := hstd.carriedBy hk hsame hrow hf
    exact ⟨jobId, job, hj, hcrd⟩

/-- **Every step that meets the conditions keeps the invariant.** -/
theorem DeletionStep.carried {alive : DeletionWorld → String → Prop} (hjs : SweepJobs w)
    (hsw : Sweeps w) (hfnd : Found alive w) (h : Carried w) (hall : KeepsRetrying w operation) :
    Carried w' where
  intents _ hc hk hfree hsome :=
    hs.carried_intent hprot hsw h hc hk hfree hsome
  held _ hpar hf hfree := hs.carried_held hprot hfnd h hpar hf hfree
  jobs _ hc hfree _ hg hph :=
    hs.carried_jobs hprot hjs hsw (hs.sweeps hprot hjs hsw) h hall
      hc hfree hg hph

/-- A deletion is acknowledged below no fenced target. -/
theorem DeletionStep.tracks_acknowledged (hjs : SweepJobs w) (hsw : Sweeps w) (h : Carried w) :
    Tracked Acknowledged w w' := by
  rintro child hc ⟨control', hg', hph⟩
  have hold := hs.intention_of_fence hprot hc
    ((hs.protocol hprot).controls _ control' hg').1
  refine ⟨hold, ?_⟩
  rcases hs.acknowledged_cases hprot hjs hold hg' hph with
    ⟨control, hg, hph, -⟩ |
    ⟨control, target, jobId, now, hg, -, hfences, hk, hsame, hrow, hf, hstd⟩
  · exact .inl ⟨control, hg, hph⟩
  · have hfree := hstd.unfenced hprot hsw hk hsame hf
    refine .inr ⟨fun hne => ⟨?_, ?_⟩, fun parent hpar hu => ?_⟩
    · rw [hstd.intents]
      exact h.intents child hold hne hfree (by rw [hg]; rfl)
    · rw [hk]
      exact ⟨_, hstd.targetRow hrow, hsame.id, hsame.ownerUserId, hsame.deletionScopeId,
        hsame.importId⟩
    · rw [hfences]
      exact hfree parent hpar hu

end Steps

end Steps

/-! ### Reached states -/

section Reached

variable {keys : DeletionKeys} {retryDelay : String → ℕ → ℤ} {w : DeletionWorld}

theorem acknowledged_isSome {deletionId : String} (h : Acknowledged w deletionId) :
    (w.db.controls.get? deletionId).isSome = true := by
  obtain ⟨control, hg, -⟩ := h
  rw [hg]
  rfl

theorem carried_of_reached
    (h : ReachedBy NoDeletions (DeletionStep keys retryDelay) KeepsRetrying w) :
    Protocol w ∧ SweepJobs w ∧ Sweeps w ∧ Found Acknowledged w ∧ Carried w := by
  refine h.invariant (I := fun w => Protocol w ∧ SweepJobs w ∧ Sweeps w ∧ Found Acknowledged w ∧
    Carried w) (fun w hw => ?_) fun w _ w' hw hall hs => ?_
  · exact ⟨hw.protocol, hw.jobs, hw.sweeps, hw.found _, hw.carried⟩
  · obtain ⟨hprot, hjs, hsw, hfnd, hcrd⟩ := hw
    exact ⟨hs.protocol hprot, hs.sweepJobs hjs, hs.sweeps hprot hjs hsw,
      hs.found acknowledged_isSome hprot hsw hfnd
        (hs.tracks_acknowledged hprot hjs hsw hcrd),
      hs.carried hprot hjs hsw hfnd hcrd hall⟩

/-- Above a target with a fenced one above it, there is a fenced one with none above. -/
theorem exists_topmost {child : Intention} (h : ¬ Unfenced w child) :
    ∃ parent ∈ w.intentions, child.Under parent ∧ parent.deletionId ∈ w.fences ∧
      Unfenced w parent := by
  simp only [Unfenced, not_forall, not_not] at h
  obtain ⟨parent, hpar, hu, hf⟩ := h
  by_cases hfree : Unfenced w parent
  · exact ⟨parent, hpar, hu, hf, hfree⟩
  · simp only [Unfenced, not_forall, not_not] at hfree
    obtain ⟨top, htop, habove, htopFence⟩ := hfree
    -- what has something below it is no profile, so what is above it is an account
    have hacc : top.kind = .account := by
      rcases habove.2 with ⟨hacc, -⟩ | ⟨-, hpf, -⟩
      · exact hacc
      · rw [Intention.Under, hpf] at hu
        simp at hu
    refine ⟨top, htop, ⟨hu.1.trans habove.1, .inl ⟨hacc, hu.kind_ne⟩⟩, htopFence,
      fun above _ hu _ => ?_⟩
    exact hu.kind_ne hacc

/-- **A deletion that is past its fence has a live job, or is below one that has**, in runs that
end no job of a deletion, and once the fences above it are acknowledged. -/
theorem acknowledged_deletions_carried
    (h : ReachedBy NoDeletions (DeletionStep keys retryDelay) KeepsRetrying w) :
    ∀ deletionId control, w.db.controls.get? deletionId = some control → control.phase ≠ .fence →
      ∃ child ∈ w.intentions, child.deletionId = deletionId ∧
        ((∀ parent ∈ w.intentions, child.Under parent → ∀ control',
            w.db.controls.get? parent.deletionId = some control' → control'.phase ≠ .fence) →
          HasLiveJob w.db control ∨
            ∃ parent ∈ w.intentions, child.Under parent ∧ ∃ control',
              w.db.controls.get? parent.deletionId = some control' ∧
                HasLiveJob w.db control') := by
  obtain ⟨hprotocol, -, -, hfound, hcarried⟩ := carried_of_reached h
  have hlive : ∀ child ∈ w.intentions, Unfenced w child → ∀ control,
      w.db.controls.get? child.deletionId = some control → control.phase ≠ .fence →
      HasLiveJob w.db control := by
    intro child hchild hfree control hget hphase
    obtain ⟨jobId, job, hjob, hby⟩ := hcarried.jobs child hchild hfree control hget hphase
    exact ⟨jobId, job, hjob, hby.get, hby.sustained.kind, hby.sustained.live⟩
  intro deletionId control hget hphase
  obtain ⟨-, child, hchild, hid, -, -⟩ := hprotocol.controls _ control hget
  subst hid
  refine ⟨child, hchild, rfl, fun hacknowledged => ?_⟩
  by_cases hfree : Unfenced w child
  · exact .inl (hlive child hchild hfree control hget hphase)
  · obtain ⟨parent, hparent, hunder, hfence, htop⟩ := exists_topmost hfree
    rcases hcarried.held parent hparent hfence htop with hsome | hcompleted
    · obtain ⟨control', hget'⟩ := Option.isSome_iff_exists.mp hsome
      have hphase' := hacknowledged parent hparent hunder control' hget'
      exact .inr ⟨parent, hparent, hunder, control', hget',
        hlive parent hparent htop control' hget' hphase'⟩
    · -- nothing is left below a deletion that is completed
      exact absurd ⟨control, hget, hphase⟩
        (hfound.swept parent hparent child hchild hunder (.inr hcompleted))

end Reached

namespace SmallStore

/-- The profile is being deleted when the deletion of its import is requested. -/
def requestedAbove : List DeletionOperation :=
  profileRemoval.prepare ++ profileRemoval.request ++ importRemoval.prepare
    ++ importRemoval.request

/-- The import is fenced, and its deletion not requested yet. -/
def fencedAbove : List DeletionOperation :=
  profileRemoval.prepare ++ profileRemoval.request ++ importRemoval.prepare
    ++ importRemoval.request.take 1

/-- The identifier of the `n`-th attempt. -/
def attemptIdOf (n : ℕ) : String :=
  String.ofList ([n % 10, n / 10 % 10, n / 100].map (fun digit => Char.ofNat ('0'.toNat + digit))
    ++ List.replicate 29 'a')

/-- A worker leases the job, starts it, and reports a failure that may be tried again. -/
def Deletion.failingAttempt (d : Deletion) (n : ℕ) : List DeletionOperation :=
  let held : JobLease := { d.lease with attemptNumber := n, fencingGeneration := n }
  [.service (.lease [.deletion] "worker-1" 0 (attemptIdOf n)), .service (.start held 0),
    .service (.fail held "DELETION_TRANSIENT_FAILURE" true 0)]

/-- The import is being deleted, and every attempt at it fails. -/
def failingRemoval : List DeletionOperation :=
  importRemoval.prepare ++ importRemoval.request
    ++ (List.range 100).flatMap fun n => importRemoval.failingAttempt (n + 1)

end SmallStore

section

open SmallStore

/-- The fence of an import has cancelled the deletion of its profile, which its own deletion now
carries. -/
theorem acknowledged_deletions_carried_above :
    ∃ w control, ReachedBy NoDeletions (DeletionStep keys noDelay)
        KeepsRetrying w ∧
      w.db.controls.get? profileRemoval.deletionId = some control ∧
      ¬ HasLiveJob w.db control ∧ ∃ parent ∈ w.intentions, ∃ control',
        w.db.controls.get? parent.deletionId = some control' ∧ HasLiveJob w.db control' := by
  obtain ⟨w, hreached, ⟨control, hget, hphase, hdead⟩, hpast⟩ := reached_of_execute KeepsRetrying
    (P := fun w => (∃ control ∈ w.db.controls.get? profileRemoval.deletionId,
        control.phase ≠ .fence ∧ ¬ HasLiveJob w.db control) ∧
      ∀ parent ∈ w.intentions, ∀ control ∈ w.db.controls.get? parent.deletionId,
        control.phase ≠ .fence) requestedAbove (by decide +kernel)
  obtain ⟨child, -, -, hcarried⟩ := acknowledged_deletions_carried hreached _ control hget hphase
  rcases hcarried fun parent hparent _ control' hget' => hpast parent hparent control' hget' with
    hlive | ⟨parent, hparent, -, control', hget', hlive⟩
  · exact absurd hlive hdead
  · exact ⟨w, control, hreached, hget, hdead, parent, hparent, control', hget', hlive⟩

/-- **A deletion whose hundredth attempt has failed is stuck**: its control stays in `DRAIN`, its
job has failed, and nothing is above it.  **A deletion whose job was cancelled by a fence above it
is not carried** until that fence is acknowledged: no deletion has a live job, though no attempt
has failed. -/
theorem deletion_stuck :
    (∃ w control, ReachedBy NoDeletions (DeletionStep keys noDelay)
        (fun _ _ => True) w ∧
      w.db.controls.get? importDeletion = some control ∧ control.phase = .drain ∧
      (w.db.jobs.get? importRemoval.jobId).map (·.state) = some .failed ∧
      ¬ HasLiveJob w.db control ∧
      ∀ child ∈ w.intentions, ∀ parent ∈ w.intentions, ¬ child.Under parent) ∧
    ∃ w control, ReachedBy NoDeletions (DeletionStep keys noDelay) KeepsRetrying w ∧
      w.db.controls.get? profileRemoval.deletionId = some control ∧ control.phase = .drain ∧
      ∀ e ∈ w.db.controls.entries, ¬ HasLiveJob w.db e.2 := by
  constructor
  · obtain ⟨w, hreached, control, hget, hfacts⟩ := reached_of_execute (fun _ _ => True)
      (P := fun w => ∃ control ∈ w.db.controls.get? importDeletion, control.phase = .drain ∧
        (w.db.jobs.get? importRemoval.jobId).map (·.state) = some .failed ∧
        ¬ HasLiveJob w.db control ∧
        ∀ child ∈ w.intentions, ∀ parent ∈ w.intentions, ¬ child.Under parent)
      failingRemoval (by decide +kernel)
    exact ⟨w, control, hreached, hget, hfacts⟩
  · obtain ⟨w, hreached, control, hget, hfacts⟩ := reached_of_execute KeepsRetrying
      (P := fun w => ∃ control ∈ w.db.controls.get? profileRemoval.deletionId,
        control.phase = .drain ∧ ∀ e ∈ w.db.controls.entries, ¬ HasLiveJob w.db e.2)
      fencedAbove (by decide +kernel)
    exact ⟨w, control, hreached, hget, hfacts⟩

end

end RateReplay
