import RateReplay.Persistence.DeletionControls

/-!
# What a sweep finds below its target

The sweep of an account or an import reads the controls of the deletions below its target, has
each of them completed, and only then removes rows.  A deletion below is found as long as its
intent and the rows of both targets are there.  What has to be found differs from claim to claim:
the deletions whose chain is open, or those whose request was acknowledged.  So the invariant is
stated for any kind of deletion that a step does not add below a fenced target (`Tracked`).

## Main definitions

* `Intention.Under` — an import or a profile of an account, or a profile of an import.
* `Swept` — the control of a deletion is past its sweep, or the deletion is completed.
* `Sweeps` — what holds of every run: targets are fenced once, and a sweep stays about one
  deletion.
* `Found` — a sweep finds what is alive below its target, and leaves none of it.
* `Tracked` — what a step may add to what is alive.

## Main results

* `DeletionStep.sweeps` — every step keeps `Sweeps`.
* `DeletionStep.found` — **every step that tracks what is alive keeps `Found`.**
-/

namespace RateReplay

open List

/-! ### The invariants -/

/-- The child is an import or a profile of the account, or a profile of the import. -/
def Intention.Under (child parent : Intention) : Prop :=
  child.target.ownerUserId = parent.target.ownerUserId ∧
    ((parent.kind = .account ∧ child.kind ≠ .account) ∨
      (parent.kind = .importing ∧ child.kind = .profile ∧
        child.target.importId = some parent.target.id))

instance (child parent : Intention) : Decidable (child.Under parent) :=
  inferInstanceAs (Decidable (_ ∧ _))

/-- The job is for this deletion, and for no other. -/
structure AssignedTo (w : DeletionWorld) (jobId deletionId : String) : Prop where
  drawn : jobId ∈ w.drawn
  control : ∀ id control, w.db.controls.get? id = some control →
    control.deletionJobId = some jobId → id = deletionId

/-- What a sweep has read is still what it is about. -/
structure OpenedFor (w : DeletionWorld) (lease : JobLease) (scope : SweepScope)
    (parent : Intention) : Prop where
  mem : parent ∈ w.intentions
  deletionId : parent.deletionId = scope.deletionId
  kind : parent.kind = scope.control.targetKind
  scopeId : parent.target.deletionScopeId = scope.control.targetScopeId
  target : SameTarget scope.target parent.target
  fenced : parent.deletionId ∈ w.fences
  assigned : AssignedTo w lease.jobId parent.deletionId

/-- The control of the deletion has been swept, or the deletion is completed. -/
def Swept (w : DeletionWorld) (deletionId : String) : Prop :=
  (∃ control, w.db.controls.get? deletionId = some control ∧
    (control.phase = .verify ∨ control.phase = .complete)) ∨ deletionId ∈ w.completions

/-- A deletion is prepared before its target is fenced, a target is fenced once, and what a sweep
has read is about one deletion. -/
structure Sweeps (w : DeletionWorld) : Prop where
  accounts : ∀ parent ∈ w.intentions, parent.kind = .account →
    parent.target.ownerUserId = parent.target.id
  prepared : ∀ id ∈ w.fences, chainOf w.ledger id ≠ []
  once : ∀ intention ∈ w.intentions, ∀ intention' ∈ w.intentions,
    intention.deletionId ∈ w.fences → intention'.deletionId ∈ w.fences →
    intention.target.deletionScopeId = intention'.target.deletionScopeId → intention = intention'
  completed : ∀ id ∈ w.completions, id ∈ w.fences
  opened : ∀ lease scope, (lease, scope) ∈ w.opened → ∃ parent, OpenedFor w lease scope parent

/-- The subordinate controls that a sweep has found are those below its target. -/
structure InspectedFor (alive : DeletionWorld → String → Prop) (w : DeletionWorld)
    (lease : JobLease) (controls : List String) (parent : Intention) : Prop where
  mem : parent ∈ w.intentions
  fenced : parent.deletionId ∈ w.fences
  assigned : AssignedTo w lease.jobId parent.deletionId
  below : ∀ id ∈ controls, ∃ child ∈ w.intentions, child.deletionId = id ∧ child.Under parent
  children : ∀ child ∈ w.intentions, child.Under parent → alive w child.deletionId →
    child.deletionId ∈ controls

/-- A sweep finds the deletions below its target that are alive, and leaves none of them. -/
structure Found (alive : DeletionWorld → String → Prop) (w : DeletionWorld) : Prop where
  intents : ∀ child ∈ w.intentions, child.kind ≠ .account → alive w child.deletionId →
    (w.db.intents.get? child.deletionId).isSome = true
  rows : ∀ child ∈ w.intentions, child.kind ≠ .account → alive w child.deletionId →
    RowOf w.db child.kind child.target
  parents : ∀ parent ∈ w.intentions, ∀ child ∈ w.intentions, child.Under parent →
    parent.kind ≠ .account → parent.deletionId ∈ w.fences → alive w child.deletionId →
    RowOf w.db parent.kind parent.target
  inspected : ∀ lease controls, (lease, controls) ∈ w.inspected →
    ∃ parent, InspectedFor alive w lease controls parent
  swept : ∀ parent ∈ w.intentions, ∀ child ∈ w.intentions, child.Under parent →
    Swept w parent.deletionId → ¬ alive w child.deletionId

/-- A deletion that is alive after a step was alive before, or it can be found and nothing above
its target is fenced. -/
def Tracked (alive : DeletionWorld → String → Prop) (w w' : DeletionWorld) : Prop :=
  ∀ child ∈ w'.intentions, alive w' child.deletionId → child ∈ w.intentions ∧
    (alive w child.deletionId ∨
      (child.kind ≠ .account → (w'.db.intents.get? child.deletionId).isSome = true ∧
          RowOf w'.db child.kind child.target) ∧
        ∀ parent ∈ w.intentions, child.Under parent → parent.deletionId ∉ w'.fences)

section Steps

variable {keys : DeletionKeys} {retryDelay : String → ℕ → ℤ} {w w' : DeletionWorld}
  {operation : DeletionOperation} {intention : Intention} {deletionId : String} {lease : JobLease}
  {now : ℤ} {scope : SweepScope} {parent : Intention} {db' : Database} {prepared : LedgerEvent}
  {intent : DeletionIntentRecord} {target : DeletionTarget}

theorem Intention.Under.kind_ne {child : Intention} (h : child.Under parent) :
    child.kind ≠ .account := by
  rcases h.2 with ⟨-, hne⟩ | ⟨-, hpf, -⟩
  · exact hne
  · rw [hpf]
    decide

/-- Nothing is below itself. -/
theorem Intention.not_under_self (intention : Intention) : ¬ intention.Under intention := by
  intro h
  rcases h.2 with ⟨hacc, hne⟩ | ⟨him, hpf, -⟩
  · exact hne hacc
  · rw [him] at hpf
    cases hpf

theorem NoDeletions.sweeps (h : NoDeletions w) : Sweeps w where
  accounts := by simp [h.intentions]
  prepared := by simp [h.fences]
  once := by simp [h.intentions]
  completed := by simp [h.completions]
  opened := by simp [h.opened]

theorem NoDeletions.found (alive : DeletionWorld → String → Prop) (h : NoDeletions w) :
    Found alive w where
  intents := by simp [h.intentions]
  rows := by simp [h.intentions]
  parents := by simp [h.intentions]
  inspected := by simp [h.inspected]
  swept := by simp [h.intentions]

/-! ### What a step may add -/

section IntentionSteps

variable (hs : DeletionStep keys retryDelay w operation w')

include hs

/-- An intention was there, or it is new and about a row. -/
theorem DeletionStep.intention_cases (hmem : intention ∈ w'.intentions) :
    intention ∈ w.intentions ∨
      (intention.deletionId ∉ w.drawn ∧ TargetRow w.db intention.target intention.kind ∧
        ∃ request, operation = .intend request) := by
  cases hs with
  | @intend request view target _ hfr htgt hok =>
    have hmem : intention ∈ ite _ _ _ := hmem
    split at hmem
    · exact .inl hmem
    · rcases mem_cons.mp hmem with rfl | hmem
      · exact .inr ⟨hfr, (targetByResourceId_eq_some htgt).2.2, request, rfl⟩
      · exact .inl hmem
  | _ => exact .inl hmem

/-- The ledger is only extended. -/
theorem DeletionStep.ledger_extends : w.ledger <+: w'.ledger := by
  cases hs with
  | prepare hok =>
    obtain ⟨_, -, ⟨rfl, -⟩ | ⟨_, -, -, happend⟩⟩ := preparedAppend_eq_ok hok
    · exact prefix_rfl
    · exact appendEvent_extends happend
  | append _ hok => exact appendEvent_extends hok
  | _ => exact prefix_rfl

/-- A fence that was not there before has found its target active. -/
theorem DeletionStep.fence_cases (hprot : Protocol w) (hmem : deletionId ∈ w'.fences) :
    deletionId ∈ w.fences ∨ ∃ prepared receiptId now intent target,
      operation = .fence prepared receiptId now ∧ prepared ∈ w.ledger ∧
      prepared.deletionId = deletionId ∧ w.db.intents.get? deletionId = some intent ∧
      targetByScope w.db intent.targetKind intent.targetScopeId = some target ∧
      target.lifecycleState = .active ∧ Fenced w.db w'.db prepared intent target now := by
  cases hs with
  | @fence prepared receiptId now _ hev hok =>
    rcases mem_insert_iff.mp hmem with rfl | hold
    · obtain ⟨intent, hint, -, -, ⟨control, _, hcontrol, -, -⟩ |
        ⟨target, user, -, htgt, -, hfable, hfcd⟩⟩ := fencePrepared_eq_ok hok
      · exact .inl (hprot.controls _ control hcontrol).1
      · obtain ⟨-, hact, -⟩ := fenceable_eq_true hfable
        exact .inr ⟨prepared, receiptId, now, intent, target, rfl, hev, rfl, hint, htgt,
          hact, hfcd⟩
    · exact .inl hold
  | _ => exact .inl hmem

/-- The intention of a deletion that has a chain, a control or a fence is not new. -/
theorem Protocol.intention_old (hprot : Protocol w) (hmem : intention ∈ w'.intentions)
    (hknown : ∃ intention' ∈ w.intentions, intention'.deletionId = intention.deletionId) :
    intention ∈ w.intentions := by
  rcases hs.intention_cases hmem with hold | ⟨hfr, -⟩
  · exact hold
  · obtain ⟨intention', hmem', hid⟩ := hknown
    exact absurd (hid ▸ (hprot.intended intention' hmem').1) hfr

end IntentionSteps

/-- The fence of a deletion names an intention. -/
theorem Protocol.intention_of_fence (hprot : Protocol w) (hmem : deletionId ∈ w.fences) :
    ∃ intention ∈ w.intentions, intention.deletionId = deletionId := by
  obtain ⟨intention, hintn, hid, -⟩ := hprot.fenced _ hmem
  exact ⟨intention, hintn, hid⟩

/-- A control is about its intention. -/
theorem Protocol.control_eq (hprot : Protocol w) {control : DeletionControlOperationRecord}
    (hmem : intention ∈ w.intentions)
    (hg : w.db.controls.get? intention.deletionId = some control) :
    intention.kind = control.targetKind ∧
      intention.target.deletionScopeId = control.targetScopeId := by
  obtain ⟨-, other, hoth, hid, hk, hsc⟩ := hprot.controls _ control hg
  rw [hprot.unique other hoth intention hmem hid] at hk hsc
  exact ⟨hk, hsc⟩

/-- The intention that a sweep works for. -/
theorem Protocol.scope_intention (hprot : Protocol w) {phase : ControlPhase}
    (hlk : lockedControl w.db lease phase now = .ok scope) :
    ∃ parent ∈ w.intentions, parent.deletionId = scope.deletionId ∧
      parent.kind = scope.control.targetKind ∧
      parent.target.deletionScopeId = scope.control.targetScopeId ∧
      SameTarget scope.target parent.target ∧ parent.deletionId ∈ w.fences := by
  obtain ⟨hg, -, -⟩ := lockedControl_get? hlk
  obtain ⟨hsc, hrow⟩ := lockedControl_row hlk
  obtain ⟨hf, parent, hpar, hid, hk, hscId⟩ := hprot.controls _ _ hg
  refine ⟨parent, hpar, hid, hk, hscId, ?_, hid ▸ hf⟩
  exact (hprot.rows parent hpar _ _ hrow (.inr (hsc.trans hscId.symm))).2

/-! ### The steps of sweeps -/

theorem AssignedTo.step {jobId : String} (h : AssignedTo w jobId deletionId)
    (hs : DeletionStep keys retryDelay w operation w') : AssignedTo w' jobId deletionId where
  drawn := hs.drawn_subset h.drawn
  control id control' hg hj := by
    rcases hs.job_of_control hg hj with ⟨control, hold, hj⟩ | ⟨hfr, -⟩
    · exact h.control id control hold hj
    · exact absurd h.drawn hfr

theorem OpenedFor.step (h : OpenedFor w lease scope parent)
    (hs : DeletionStep keys retryDelay w operation w') :
    OpenedFor w' lease scope parent where
  mem := hs.intentions_subset h.mem
  deletionId := h.deletionId
  kind := h.kind
  scopeId := h.scopeId
  target := h.target
  fenced := hs.fences_subset h.fenced
  assigned := h.assigned.step hs

/-- The target that a fence is about is there after it. -/
theorem Fenced.rowOf {db : Database} (h : Fenced db db' prepared intent target now)
    (hrow : TargetRow db target intent.targetKind) : RowOf db' intent.targetKind target :=
  ⟨_, (targetRow_congr h.users h.imports h.profiles _ _).mpr hrow.setLifecycle, rfl, rfl, rfl, rfl⟩

/-- What a new fence has found of the intention it is for. -/
theorem Protocol.fence_row (hprot : Protocol w) (hmem : intention ∈ w.intentions)
    (hint : w.db.intents.get? intention.deletionId = some intent)
    (htgt : targetByScope w.db intent.targetKind intent.targetScopeId = some target)
    (hfcd : Fenced w.db db' prepared intent target now) :
    RowOf db' intention.kind intention.target := by
  obtain ⟨hsc, hrow⟩ := targetByScope_eq_some htgt
  obtain ⟨other, hoth, hid, hk, hscId, -⟩ := hprot.intents _ intent hint
  rw [hprot.unique other hoth intention hmem hid] at hk hscId
  obtain ⟨-, hsame⟩ := hprot.rows intention hmem _ target hrow (.inr (hsc.trans hscId.symm))
  rw [hk]
  obtain ⟨target', hrow', hsame'⟩ := hfcd.rowOf hrow
  exact ⟨target', hrow', hsame'.trans hsame⟩

/-- A deletion that was fenced does not get another control. -/
theorem DeletionStep.control_before (hprot : Protocol w)
    (hs : DeletionStep keys retryDelay w operation w') (hf : deletionId ∈ w.fences)
    (hsome : (w'.db.controls.get? deletionId).isSome = true) :
    (w.db.controls.get? deletionId).isSome = true := by
  obtain ⟨control', hg'⟩ := Option.isSome_iff_exists.mp hsome
  cases hs.control hg' with
  | kept hg | requested hg =>
    rw [hg]
    rfl
  | fenced hint hst => exact absurd (hprot.consumed _ hf _ hint) hst
  | moved hlk hid =>
    rw [← hid, (lockedControl_get? hlk).1]
    rfl

theorem DeletionStep.control_fenced (hprot' : Protocol w')
    (hsome : (w'.db.controls.get? deletionId).isSome = true) : deletionId ∈ w'.fences := by
  obtain ⟨control, hg⟩ := Option.isSome_iff_exists.mp hsome
  exact (hprot'.controls _ control hg).1

section SweepSteps

variable (hs : DeletionStep keys retryDelay w operation w') (hprot : Protocol w)

include hs hprot

/-- A target that is fenced now was active, and so is fenced by one deletion. -/
theorem DeletionStep.sweeps_once (h : Sweeps w) {intention' : Intention}
    (hmem : intention ∈ w.intentions) (hmem' : intention' ∈ w.intentions)
    (hf : intention.deletionId ∈ w'.fences) (hf' : intention'.deletionId ∈ w'.fences)
    (hsc : intention.target.deletionScopeId = intention'.target.deletionScopeId) :
    intention = intention' := by
  -- a target that another deletion has fenced is not active
  have hfst : ∀ {first second : Intention}, first ∈ w.intentions → second ∈ w.intentions →
      first.target.deletionScopeId = second.target.deletionScopeId →
      second.deletionId ∈ w.fences → ∀ {intent : DeletionIntentRecord} {target : DeletionTarget},
      w.db.intents.get? first.deletionId = some intent →
      targetByScope w.db intent.targetKind intent.targetScopeId = some target →
      target.lifecycleState ≠ .active := by
    intro first second hfst hsnd hsame hfcd intent target hint htgt hact
    obtain ⟨hid, hrow⟩ := targetByScope_eq_some htgt
    obtain ⟨other, hoth, hothId, -, hothS, -⟩ := hprot.intents _ intent hint
    rw [hprot.unique other hoth first hfst hothId] at hothS
    obtain ⟨hk, hsameTarget⟩ := hprot.rows second hsnd _ target hrow
      (.inr (hid.trans (hothS.symm.trans hsame)))
    obtain ⟨fenced, hfcd', hfencedId, hina⟩ := hprot.fenced _ hfcd
    rw [hprot.unique fenced hfcd' second hsnd hfencedId] at hina
    exact hina (activeTarget_iff.mpr ⟨target, hk ▸ hrow, hsameTarget.id, hact⟩)
  rcases hs.fence_cases hprot hf with hold |
    ⟨prepared, _, _, intent, target, hop, -, hid, hint, htgt, hact, -⟩
  · rcases hs.fence_cases hprot hf' with hold' |
      ⟨_, _, _, intent, target, -, -, -, hint, htgt, hact, -⟩
    · exact h.once intention hmem intention' hmem' hold hold' hsc
    · exact absurd hact (hfst hmem' hmem hsc.symm hold hint htgt)
  · rcases hs.fence_cases hprot hf' with hold' | ⟨_, _, _, _, _, hop', -, hid', -⟩
    · exact absurd hact (hfst hmem hmem' hsc hold' hint htgt)
    · rw [hop] at hop'
      cases hop'
      exact hprot.unique intention hmem intention' hmem' (hid.symm.trans hid')

theorem DeletionStep.sweeps_opened (hjs : SweepJobs w) (h : Sweeps w)
    (hmem : (lease, scope) ∈ w'.opened) :
    ∃ parent, OpenedFor w' lease scope parent := by
  suffices hpre : ∃ parent, OpenedFor w lease scope parent by
    obtain ⟨parent, hpar⟩ := hpre
    exact ⟨parent, hpar.step hs⟩
  cases hs with
  | openSweep hlk =>
    rcases mem_cons.mp hmem with heq | hold
    · cases heq
      obtain ⟨hg, hj, -⟩ := lockedControl_get? hlk
      obtain ⟨parent, hpar, hid, hk, hsc, hsame, hf⟩ :=
        hprot.scope_intention hlk
      exact ⟨parent, hpar, hid, hk, hsc, hsame, hf,
        hjs.drawn _ _ _ hg hj, fun id control hoth hotherJob =>
          hid ▸ hjs.distinct _ _ _ _ _ hoth hg hotherJob hj⟩
    · exact h.opened lease scope hold
  | _ => exact h.opened lease scope hmem

/-- A deletion that has a fence after a step was intended before it. -/
theorem DeletionStep.intention_of_fence (hmem : intention ∈ w'.intentions)
    (hf : intention.deletionId ∈ w'.fences) :
    intention ∈ w.intentions := by
  refine hprot.intention_old hs hmem ?_
  rcases hs.fence_cases hprot hf with hold | ⟨_, _, _, intent, _, -, -, -, hint, -⟩
  · exact hprot.intention_of_fence hold
  · obtain ⟨intention', hmem', hid, -⟩ := hprot.intents _ intent hint
    exact ⟨intention', hmem', hid⟩

theorem DeletionStep.completed_fenced (h : Sweeps w) (hmem : deletionId ∈ w'.completions) :
    deletionId ∈ w'.fences := by
  cases hs with
  | complete hev hok =>
    rcases mem_cons.mp hmem with rfl | hold
    · obtain ⟨scope, _, _, hlk, hv, -, -⟩ := complete_eq_ok hok
      obtain ⟨-, hid, -⟩ := validateControlEvent_eq_ok hv
      rw [hid]
      exact (hprot.controls _ _ (lockedControl_get? hlk).1).1
    · exact h.completed deletionId hold
  | fence => exact mem_insert_of_mem (h.completed deletionId hmem)
  | _ => exact h.completed deletionId hmem

theorem DeletionStep.sweeps (hjs : SweepJobs w) (h : Sweeps w) : Sweeps w' where
  accounts parent hpar hacc := by
    rcases hs.intention_cases hpar with hold | ⟨-, hrow, -⟩
    · exact h.accounts parent hold hacc
    · rw [hacc] at hrow
      obtain ⟨user, -, htgt⟩ := hrow
      rw [htgt]
      rfl
  prepared id hmem := by
    rcases hs.fence_cases hprot hmem with hold | ⟨prepared, _, _, _, _, rfl, hev, rfl, -⟩
    · obtain ⟨event, hev⟩ := exists_mem_of_ne_nil _ (h.prepared id hold)
      obtain ⟨hledger, hid⟩ := mem_chainOf.mp hev
      exact ne_nil_of_mem (mem_chainOf.mpr ⟨hs.ledger_extends.subset hledger, hid⟩)
    · exact ne_nil_of_mem (mem_chainOf.mpr ⟨hs.ledger_extends.subset hev, rfl⟩)
  once intention hmem intention' hmem' hf hf' hsc :=
    hs.sweeps_once hprot h (hs.intention_of_fence hprot hmem hf)
      (hs.intention_of_fence hprot hmem' hf') hf hf' hsc
  completed _ hmem := hs.completed_fenced hprot h hmem
  opened _ _ hmem := hs.sweeps_opened hprot hjs h hmem

end SweepSteps

/-! ### What a sweep leaves -/

section Found

variable {alive : DeletionWorld → String → Prop}
  (hcontrol : ∀ {w id}, alive w id → (w.db.controls.get? id).isSome = true) {lease : JobLease}
  {child parent : Intention} {scope : SweepScope} {controls : List String}

include hcontrol

section FoundSteps

variable (hprot : Protocol w) (h : Found alive w)

include hprot h

/-- **When the subordinate controls that a sweep has found are gone, nothing below is alive.** -/
theorem Found.not_alive_of_sweep (hlk : lockedControl w.db lease .sweep now = .ok scope)
    (hinsp : (lease, controls) ∈ w.inspected)
    (hsubs : ∀ id ∈ controls, w.db.controls.get? id = none) (hpar : parent ∈ w.intentions)
    (hid : parent.deletionId = scope.deletionId) (hc : child ∈ w.intentions)
    (hu : child.Under parent) :
    ¬ alive w child.deletionId := by
  intro halive
  obtain ⟨hg, hj, -⟩ := lockedControl_get? hlk
  -- the sweep has been for this deletion all along
  obtain ⟨found, hfnd⟩ := h.inspected lease controls hinsp
  have hsame : parent = found :=
    hprot.unique parent hpar found hfnd.mem
      (hid.trans (hfnd.assigned.control _ _ hg hj))
  subst hsame
  have hsome := hcontrol halive
  rw [hsubs _ (hfnd.children child hc hu halive)] at hsome
  cases hsome

theorem Found.not_alive_of_sweepsAccount {ownerUserId : String} (hsw : SweepsAccount w ownerUserId)
    (hc : child ∈ w.intentions) (hk : child.kind ≠ .account)
    (ho : child.target.ownerUserId = ownerUserId) :
    ¬ alive w child.deletionId := by
  obtain ⟨lease, now, scope, controls, hlk, hacc, hscopeOwner, hinsp, hsubs⟩ :=
    hsw
  obtain ⟨parent, hpar, hid, hparK, -, hsame, -⟩ := hprot.scope_intention hlk
  refine h.not_alive_of_sweep hcontrol hprot hlk hinsp hsubs hpar hid hc
    ⟨?_, ?_⟩
  · rw [ho, ← hscopeOwner, hsame.ownerUserId]
  · exact .inl ⟨hparK.trans hacc, hk⟩

/-- A target whose row goes has nothing alive below it, and is not alive itself. -/
theorem Found.not_alive_of_removed (hsw : Sweeps w) {target : DeletionTarget}
    (hmem : intention ∈ w.intentions) (hk : intention.kind ≠ .account)
    (hf : intention.deletionId ∈ w.fences) (hsame : SameTarget target intention.target)
    (hrem : RowRemoved w w' intention.kind target) :
    (¬ alive w intention.deletionId ∨ ¬ alive w' intention.deletionId) ∧
      ∀ child ∈ w.intentions, child.Under intention → ¬ alive w child.deletionId := by
  cases hrem with
  | swept _ hacc =>
    refine ⟨.inl (h.not_alive_of_sweepsAccount hcontrol hprot hacc hmem hk
      hsame.ownerUserId.symm), fun child hc hu => ?_⟩
    exact h.not_alive_of_sweepsAccount hcontrol hprot hacc hc hu.kind_ne
      (hu.1.trans hsame.ownerUserId.symm)
  | @verified lease now scope hlk hsc hpf him ho =>
    obtain ⟨parent, hpar, hid, hparK, -, hparentSame, -⟩ :=
      hprot.scope_intention hlk
    obtain ⟨hg, -, hph⟩ := lockedControl_get? hlk
    refine ⟨.inl (h.swept parent hpar intention hmem ⟨?_, .inr ⟨hparK.trans hsc,
      hpf, ?_⟩⟩ (.inl ⟨scope.control, hid ▸ hg, .inl hph⟩)), fun child hc hu => ?_⟩
    · rw [← hsame.ownerUserId, ho, hparentSame.ownerUserId]
    · rw [← hsame.importId, him, hparentSame.id]
    · -- a profile has nothing below it
      rw [Intention.Under, hpf] at hu
      simp at hu
  | @completed lease now scope hlk hsc hid hgone =>
    obtain ⟨parent, hpar, hparentId, hparK, hparentScope, hparentSame, hparF⟩ :=
      hprot.scope_intention hlk
    obtain ⟨hg, -, hph⟩ := lockedControl_get? hlk
    -- the row is the one the sweep is about, and a target is fenced once
    obtain ⟨hscId, hrow⟩ := lockedControl_row hlk
    rw [hsame.id] at hid
    obtain ⟨-, hscopeSame⟩ := hprot.rows intention hmem _ _ hrow (.inl ⟨hsc.symm, hid.symm⟩)
    have heq : parent = intention := by
      refine hsw.once parent hpar intention hmem hparF hf ?_
      rw [hparentScope, ← hscId, hscopeSame.deletionScopeId]
    subst heq
    refine ⟨.inr fun halive => ?_, fun child hc hu => ?_⟩
    · have hsome := hcontrol halive
      rw [hparentId, hgone] at hsome
      cases hsome
    · exact h.swept parent hmem child hc hu
        (.inl ⟨scope.control, hparentId ▸ hg, .inr hph⟩)

/-- A row stays, unless nothing at it or below it is alive. -/
theorem DeletionStep.found_row (hsw : Sweeps w) (hs : DeletionStep keys retryDelay w operation w')
    (hmem : intention ∈ w.intentions) (hk : intention.kind ≠ .account)
    (hf : intention.deletionId ∈ w.fences) (hrow : RowOf w.db intention.kind intention.target)
    (halive : (alive w intention.deletionId ∧ alive w' intention.deletionId) ∨
      ∃ child ∈ w.intentions, child.Under intention ∧ alive w child.deletionId) :
    RowOf w'.db intention.kind intention.target := by
  obtain ⟨target, hrow, hsame⟩ := hrow
  rcases hs.row_kept hrow with ⟨target', hrow', hsame'⟩ | hrem
  · exact ⟨target', hrow', hsame'.trans hsame⟩
  · obtain ⟨hself, hbelow⟩ :=
      h.not_alive_of_removed hcontrol hprot hsw hmem hk hf hsame hrem
    rcases halive with ⟨hpre, hafter⟩ | ⟨child, hc, hu, halive⟩
    · rcases hself with hnot | hnot
      · exact absurd hpre hnot
      · exact absurd hafter hnot
    · exact absurd halive (hbelow child hc hu)

/-- The intent of a deletion that stays alive stays. -/
theorem DeletionStep.found_intent (hsw : Sweeps w)
    (hs : DeletionStep keys retryDelay w operation w') (hc : child ∈ w.intentions)
    (hk : child.kind ≠ .account) (hpre : alive w child.deletionId)
    (hafter : alive w' child.deletionId) :
    (w'.db.intents.get? child.deletionId).isSome = true := by
  obtain ⟨intent, hint⟩ := Option.isSome_iff_exists.mp (h.intents child hc hk hpre)
  rcases hs.intent_kept hint with hkept | hrem
  · exact hkept
  · cases hrem with
    | expired hnone =>
      obtain ⟨control, hg⟩ := Option.isSome_iff_exists.mp (hcontrol hpre)
      exact absurd hnone (hsw.prepared _ (hprot.controls _ control hg).1)
    | completed hgone =>
      have hsome := hcontrol hafter
      rw [hgone] at hsome
      cases hsome
    | swept hacc =>
      obtain ⟨other, hoth, hothId, -, -, ho⟩ := hprot.intents _ intent hint
      rw [hprot.unique other hoth child hc hothId] at ho
      exact absurd hpre
        (h.not_alive_of_sweepsAccount hcontrol hprot hacc hc hk ho)

end FoundSteps

omit hcontrol in
/-- What is alive below a fenced target was alive before. -/
theorem Tracked.below (htracked : Tracked alive w w') (hpar : parent ∈ w.intentions)
    (hc : child ∈ w'.intentions) (hu : child.Under parent)
    (hf : parent.deletionId ∈ w'.fences) (halive : alive w' child.deletionId) :
    child ∈ w.intentions ∧ alive w child.deletionId := by
  obtain ⟨hold, hpre | ⟨-, hfree⟩⟩ := htracked child hc halive
  · exact ⟨hold, hpre⟩
  · exact absurd hf (hfree parent hpar hu)

/-- What has been swept after a step is of a deletion that was fenced, and nothing below it was
alive. -/
theorem DeletionStep.found_swept (hprot : Protocol w) (hsw : Sweeps w) (h : Found alive w)
    (hs : DeletionStep keys retryDelay w operation w') (hpar : parent ∈ w.intentions)
    (hswept : Swept w' parent.deletionId) :
    parent.deletionId ∈ w.fences ∧
      ∀ child ∈ w.intentions, child.Under parent → ¬ alive w child.deletionId := by
  have hold : Swept w parent.deletionId → parent.deletionId ∈ w.fences ∧
      ∀ child ∈ w.intentions, child.Under parent → ¬ alive w child.deletionId := by
    intro hswept
    refine ⟨?_, fun child hmem hu => h.swept parent hpar child hmem hu hswept⟩
    rcases hswept with ⟨control, hg, -⟩ | hcomp
    · exact (hprot.controls _ control hg).1
    · exact hsw.completed _ hcomp
  rcases hswept with ⟨control', hg', hph'⟩ | hcomp
  · cases hs.control hg' with
    | kept hg => exact hold (.inl ⟨control', hg, hph'⟩)
    | fenced _ _ hph =>
      rw [hph] at hph'
      rcases hph' with heq | heq <;> cases heq
    | requested _ _ _ _ hcontrol =>
      subst hcontrol
      rcases hph' with heq | heq <;> cases heq
    | @moved _ _ scope phase hlk hid hmove hcontrol =>
      subst hcontrol
      obtain ⟨hg, -, -⟩ := lockedControl_get? hlk
      generalize hfrom : scope.control.phase = before at hlk hmove
      cases hmove with
      | drained | resumed => rcases hph' with heq | heq <;> cases heq
      | swept hinsp hsubs =>
        refine ⟨hid ▸ (hprot.controls _ _ hg).1, fun child hmem hu => ?_⟩
        exact h.not_alive_of_sweep hcontrol hprot hlk hinsp hsubs hpar hid.symm
          hmem hu
      | verified => exact hold (.inl ⟨scope.control, hid ▸ hg, .inl hfrom⟩)
  · cases hs with
    | complete hev hok =>
      rcases mem_cons.mp hcomp with heq | hcomp
      · obtain ⟨scope, _, _, hlk, hv, -, -⟩ := complete_eq_ok hok
        obtain ⟨hg, -, hph⟩ := lockedControl_get? hlk
        obtain ⟨-, hid, -⟩ := validateControlEvent_eq_ok hv
        rw [heq, hid] at hold ⊢
        exact hold (.inl ⟨scope.control, hg, .inr hph⟩)
      · exact hold (.inr hcomp)
    | _ => exact hold (.inr hcomp)

/-- What an inspection finds: everything that is alive below. -/
theorem Found.mem_subordinateControls (h : Found alive w) (hprot : Protocol w)
    (hopened : OpenedFor w lease scope parent) (hc : child ∈ w.intentions)
    (hu : child.Under parent) (halive : alive w child.deletionId) :
    child.deletionId ∈ subordinateControls w.db scope.deletionId scope.control
      scope.target.ownerUserId := by
  obtain ⟨control, hg⟩ := Option.isSome_iff_exists.mp (hcontrol halive)
  obtain ⟨hcontrolKind, hcontrolScope⟩ := hprot.control_eq hc hg
  refine mem_map.mpr ⟨(child.deletionId, control), mem_filter.mpr
    ⟨Dict.get?_eq_some.mp hg, ?_⟩, rfl⟩
  rw [Bool.and_eq_true, Bool.and_eq_true, decide_eq_true_eq]
  refine ⟨⟨fun heq => ?_, ?_⟩, ?_⟩
  · rw [hprot.unique child hc parent hopened.mem (heq.trans hopened.deletionId.symm)]
      at hu
    exact parent.not_under_self hu
  · obtain ⟨intent, hint⟩ :=
      Option.isSome_iff_exists.mp (h.intents child hc hu.kind_ne halive)
    obtain ⟨other, hoth, hid, -, -, ho⟩ := hprot.intents _ intent hint
    rw [hprot.unique other hoth child hc hid] at ho
    rw [hint]
    refine decide_eq_true ?_
    rw [← ho, hu.1, hopened.target.ownerUserId]
  · rcases hu.2 with ⟨hacc, hk⟩ | ⟨him, hpf, himId⟩
    · rw [controlIsSubordinate, ← hopened.kind, hacc, ← hcontrolKind]
      cases hcK : child.kind with
      | account => exact absurd hcK hk
      | importing | profile => rfl
    · -- both rows are found by their scopes
      have hparK : parent.kind ≠ .account := by rw [him]; decide
      obtain ⟨imported, himd, himportedSame⟩ :=
        h.parents parent hopened.mem child hc hu hparK hopened.fenced halive
      obtain ⟨profile, hprofileRow, hprofileSame⟩ := h.rows child hc hu.kind_ne halive
      have hparentFound := himd.targetByScope hprot.known
      have hchildFound := hprofileRow.targetByScope hprot.known
      rw [himportedSame.deletionScopeId, hopened.scopeId, him] at hparentFound
      rw [hprofileSame.deletionScopeId, hcontrolScope, hpf] at hchildFound
      rw [controlIsSubordinate, ← hopened.kind, him, ← hcontrolKind, hpf]
      simp only [hparentFound, hchildFound]
      rw [Bool.and_eq_true, decide_eq_true_eq, decide_eq_true_eq]
      refine ⟨?_, ?_⟩
      · rw [hprofileSame.importId, himId, himportedSame.id]
      · rw [hprofileSame.ownerUserId, hu.1, himportedSame.ownerUserId]

omit hcontrol in
/-- What an inspection finds is below the target of the sweep. -/
theorem under_of_mem_subordinateControls (hprot : Protocol w)
    (hopened : OpenedFor w lease scope parent)
    (hmem : deletionId ∈ subordinateControls w.db scope.deletionId
      scope.control scope.target.ownerUserId) :
    ∃ child ∈ w.intentions, child.deletionId = deletionId ∧ child.Under parent := by
  obtain ⟨⟨id, control⟩, hentry, rfl⟩ := mem_map.mp hmem
  obtain ⟨hmem, hselected⟩ := mem_filter.mp hentry
  rw [Bool.and_eq_true, Bool.and_eq_true] at hselected
  obtain ⟨⟨-, ho⟩, hsubordinate⟩ := hselected
  obtain ⟨-, child, hc, hid, hk, hsc⟩ :=
    hprot.controls id control (Dict.get?_eq_some.mpr hmem)
  -- the owner of a control is read from its intent
  obtain ⟨intent, hint, ho⟩ := (Option.any_eq_true _ _).mp ho
  obtain ⟨other, hoth, hothId, -, -, hotherOwner⟩ := hprot.intents id intent hint
  rw [hprot.unique other hoth child hc (hothId.trans hid.symm)] at hotherOwner
  refine ⟨child, hc, hid, ?_, ?_⟩
  · rw [hotherOwner, of_decide_eq_true ho, hopened.target.ownerUserId]
  · unfold controlIsSubordinate at hsubordinate
    rw [hopened.kind, hk]
    split at hsubordinate
    · rename_i hparK hcK
      rw [hparK, hcK]
      exact .inl ⟨rfl, by decide⟩
    · rename_i hparK hcK
      rw [hparK, hcK]
      exact .inl ⟨rfl, by decide⟩
    · rename_i hparK hcK
      rw [hparK, hcK]
      split at hsubordinate
      · rename_i imported profile himd hpf
        rw [Bool.and_eq_true, decide_eq_true_eq] at hsubordinate
        obtain ⟨himS, himportRow⟩ := targetByScope_eq_some himd
        obtain ⟨hprofileScope, hprofileRow⟩ := targetByScope_eq_some hpf
        obtain ⟨-, himportSame⟩ := hprot.rows parent hopened.mem _ imported himportRow
          (.inr (himS.trans hopened.scopeId.symm))
        obtain ⟨-, hprofileSame⟩ := hprot.rows child hc _ profile hprofileRow
          (.inr (hprofileScope.trans hsc.symm))
        refine .inr ⟨rfl, rfl, ?_⟩
        rw [← hprofileSame.importId, hsubordinate.1, himportSame.id]
      · cases hsubordinate
    · cases hsubordinate

/-- What a sweep has found before a step or finds in it. -/
theorem DeletionStep.found_inspected (hprot : Protocol w) (hsw : Sweeps w) (h : Found alive w)
    (hs : DeletionStep keys retryDelay w operation w') (hmem : (lease, controls) ∈ w'.inspected) :
    ∃ parent, InspectedFor alive w lease controls parent := by
  cases hs with
  | inspect hopened =>
    rcases mem_cons.mp hmem with heq | hold
    · cases heq
      obtain ⟨parent, hpar⟩ := hsw.opened _ _ hopened
      exact ⟨parent, hpar.mem, hpar.fenced, hpar.assigned,
        fun id hmem => under_of_mem_subordinateControls hprot hpar hmem,
        fun child hc hu halive =>
          h.mem_subordinateControls hcontrol hprot hpar hc hu halive⟩
    · exact h.inspected lease controls hold
  | _ => exact h.inspected lease controls hmem

/-- **Every step that tracks what is alive keeps `Found`.** -/
theorem DeletionStep.found (hprot : Protocol w) (hsw : Sweeps w) (h : Found alive w)
    (htracked : Tracked alive w w') (hs : DeletionStep keys retryDelay w operation w') :
    Found alive w' where
  intents child hc hk halive := by
    obtain ⟨hold, hpre | ⟨hfnd, -⟩⟩ := htracked child hc halive
    · exact hs.found_intent hcontrol hprot h hsw hold hk hpre halive
    · exact (hfnd hk).1
  rows child hc hk halive := by
    obtain ⟨hold, hpre | ⟨hfnd, -⟩⟩ := htracked child hc halive
    · obtain ⟨control, hg⟩ := Option.isSome_iff_exists.mp (hcontrol hpre)
      exact hs.found_row hcontrol hprot h hsw hold hk
        (hprot.controls _ control hg).1 (h.rows child hold hk hpre)
        (.inl ⟨hpre, halive⟩)
    · exact (hfnd hk).2
  parents parent hpar child hc hu hk hf halive := by
    have hpar := hs.intention_of_fence hprot hpar hf
    obtain ⟨hold, hpre⟩ := htracked.below hpar hc hu hf halive
    rcases hs.fence_cases hprot hf with hf |
      ⟨_, _, _, intent, _, -, -, -, hint, htgt, -, hfcd⟩
    · exact hs.found_row hcontrol hprot h hsw hpar hk hf
        (h.parents parent hpar child hold hu hk hf hpre)
        (.inr ⟨child, hold, hu, hpre⟩)
    · exact hprot.fence_row hpar hint htgt hfcd
  inspected lease controls hmem := by
    obtain ⟨parent, hpar⟩ := hs.found_inspected hcontrol hprot hsw h hmem
    have hf := hs.fences_subset hpar.fenced
    refine ⟨parent, hs.intentions_subset hpar.mem, hf, hpar.assigned.step hs,
      fun id hmem => ?_, fun child hc hu halive => ?_⟩
    · obtain ⟨child, hc, hid, hu⟩ := hpar.below id hmem
      exact ⟨child, hs.intentions_subset hc, hid, hu⟩
    · obtain ⟨hold, hpre⟩ := htracked.below hpar.mem hc hu hf halive
      exact hpar.children child hold hu hpre
  swept parent hpar child hc hu hswept halive := by
    have hf : parent.deletionId ∈ w'.fences := by
      rcases hswept with ⟨control, hg, -⟩ | hmem
      · exact ((hs.protocol hprot).controls _ control hg).1
      · exact hs.completed_fenced hprot hsw hmem
    have hpar := hs.intention_of_fence hprot hpar hf
    obtain ⟨-, hnone⟩ := hs.found_swept hcontrol hprot hsw h hpar hswept
    obtain ⟨hold, hpre⟩ := htracked.below hpar hc hu hf halive
    exact hnone child hold hu hpre

end Found

end Steps

end RateReplay
