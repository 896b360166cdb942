import RateReplay.Persistence.OpenChains

/-!
# What a step does to a deletion under way

One inversion for each table that the sweeps work on: how a control comes to be what it is after
a step, and which steps take away a control, an intent or the row of a target.  Later invariants
are read off these and do not look at the transactions again.

## Main definitions

* `ControlMove`, `ControlChange` — the ways a control changes.
* `Bookkeeping` — what the other steps leave alone.
* `ControlRemoved`, `SweepsAccount`, `IntentRemoved`, `RowRemoved` — the ways rows are taken away.
* `SweptRows`, `DeletionWrite` — what one step writes to the tables of a deletion.
* `TargetChange` — what becomes of the row of a target.
* `SweepJobs` — a sweep job is drawn for one deletion.

## Main results

* `DeletionStep.write` — every step is one of these writes.
* `DeletionStep.control` — **a control stays, is new, is requested, or is moved by its worker.**
* `DeletionStep.control_removed` — a control goes only once its completion is in the ledger.
* `DeletionStep.intent_kept` — what takes an intent away.
* `DeletionStep.target` — **a target stays, is fenced, is requested, or goes.**
* `DeletionStep.sweepJobs` — no two deletions share a sweep job.
-/

namespace RateReplay

open Dict

/-! ### The ways a control changes -/

/-- The phases a worker takes a control through.  The rows are swept only when every subordinate
control that was found has gone. -/
inductive ControlMove (w : DeletionWorld) (lease : JobLease) : ControlPhase → ControlPhase → Prop
  | drained : ControlMove w lease .drain .sweep
  | swept {controls : List String} (hinspected : (lease, controls) ∈ w.inspected)
      (hsubsumed : ∀ id ∈ controls, w.db.controls.get? id = none) :
      ControlMove w lease .sweep .verify
  | resumed : ControlMove w lease .verify .sweep
  | verified : ControlMove w lease .verify .complete

/-- How a control came to be what it is after a step. -/
inductive ControlChange (w : DeletionWorld) (operation : DeletionOperation) (w' : DeletionWorld)
    (deletionId : String) (control' : DeletionControlOperationRecord) : Prop
  | kept (h : w.db.controls.get? deletionId = some control')
  | fenced {intent : DeletionIntentRecord} (h : w.db.intents.get? deletionId = some intent)
      (hstate : intent.state ≠ .consumed) (hphase : control'.phase = .fence)
      (hjob : control'.deletionJobId = none)
  | requested {control : DeletionControlOperationRecord} {event : LedgerEvent}
      {jobId receiptId : String} {now : ℤ} (h : w.db.controls.get? deletionId = some control)
      (hoperation : operation = .recordRequested deletionId event jobId receiptId now)
      (hfresh : jobId ∉ w.drawn) (hdrawn : jobId ∈ w'.drawn)
      (hcontrol : control' = { control with
        phase := .drain
        deletionJobId := some jobId
        updatedAt := now })
  | moved {lease : JobLease} {now : ℤ} {scope : SweepScope} {phase : ControlPhase}
      (hlocked : lockedControl w.db lease scope.control.phase now = .ok scope)
      (hid : scope.deletionId = deletionId) (hmove : ControlMove w lease scope.control.phase phase)
      (hcontrol : control' = { scope.control with phase := phase, updatedAt := now })

/-- The sweep of the owner's account has gone through the subordinate controls. -/
def SweepsAccount (w : DeletionWorld) (ownerUserId : String) : Prop :=
  ∃ lease now scope controls, lockedControl w.db lease .sweep now = .ok scope ∧
    scope.control.targetKind = .account ∧ scope.target.ownerUserId = ownerUserId ∧
    (lease, controls) ∈ w.inspected ∧ ∀ id ∈ controls, w.db.controls.get? id = none

/-- The completion of the deletion is in the ledger. -/
def CompletionRecorded (ledger : List LedgerEvent) (deletionId : String) : Prop :=
  ∃ event ∈ ledger, event.deletionId = deletionId ∧ event.phase = .completed

/-- What takes a control away, once its completion is in the ledger: its own last transaction, or
the sweep of a target above. -/
inductive ControlRemoved (w w' : DeletionWorld) (deletionId : String) : Prop
  | completed (hrecorded : CompletionRecorded w.ledger deletionId) (h : deletionId ∈ w'.completions)
  | subsumed {lease : JobLease} {controls : List String}
      (hrecorded : CompletionRecorded w.ledger deletionId)
      (hinspected : (lease, controls) ∈ w.inspected) (h : deletionId ∈ controls)

/-- What takes an intent away: its control goes with it, or the rows of its account. -/
inductive IntentRemoved (w w' : DeletionWorld) (deletionId : String)
    (intent : DeletionIntentRecord) : Prop
  | expired (h : chainOf w.ledger deletionId = [])
  | completed (h : w'.db.controls.get? deletionId = none)
  | swept (h : SweepsAccount w intent.ownerUserId)

/-- What takes the row of a target away. -/
inductive RowRemoved (w w' : DeletionWorld) (kind : TargetKind) (target : DeletionTarget) : Prop
  | swept (hkind : kind ≠ .account) (h : SweepsAccount w target.ownerUserId)
  | verified {lease : JobLease} {now : ℤ} {scope : SweepScope}
      (hlocked : lockedControl w.db lease .verify now = .ok scope)
      (hscope : scope.control.targetKind = .importing) (hkind : kind = .profile)
      (himport : target.importId = some scope.target.id)
      (howner : target.ownerUserId = scope.target.ownerUserId)
  | completed {lease : JobLease} {now : ℤ} {scope : SweepScope}
      (hlocked : lockedControl w.db lease .complete now = .ok scope)
      (hkind : kind = scope.control.targetKind) (hid : target.id = scope.target.id)
      (hcontrol : w'.db.controls.get? scope.deletionId = none)

/-- The row of the target is there, in whatever state. -/
def RowOf (db : Database) (kind : TargetKind) (target : DeletionTarget) : Prop :=
  ∃ target', TargetRow db target' kind ∧ SameTarget target' target

/-- What becomes of the row of a target. -/
inductive TargetChange (w : DeletionWorld) (operation : DeletionOperation) (w' : DeletionWorld)
    (kind : TargetKind) (target : DeletionTarget) : Prop
  | kept (h : TargetRow w'.db target kind)
  | fenced {prepared : LedgerEvent} {receiptId : String} {now : ℤ}
      {intent : DeletionIntentRecord} (hoperation : operation = .fence prepared receiptId now)
      (hintent : w.db.intents.get? prepared.deletionId = some intent)
      (hkind : intent.targetKind = kind)
      (htarget : targetByScope w.db intent.targetKind intent.targetScopeId = some target)
      (hactive : target.lifecycleState = .active) (hrow : RowOf w'.db kind target)
  | requested {deletionId jobId : String} {control control' : DeletionControlOperationRecord}
      (hcontrol : w.db.controls.get? deletionId = some control) (hkind : control.targetKind = kind)
      (htarget : targetByScope w.db control.targetKind control.targetScopeId = some target)
      (hfresh : jobId ∉ w.drawn) (hcontrol' : w'.db.controls.get? deletionId = some control')
      (hjob : control'.deletionJobId = some jobId) (hrow : RowOf w'.db kind target)
  | removed (h : RowRemoved w w' kind target)

/-! ### Bookkeeping -/

/-- The operations that may move a control or a job, or touch a target. -/
def DeletionOperation.Moves : DeletionOperation → Prop
  | .fence _ _ _ | .recordRequested _ _ _ _ _ | .drainClose _ _ _ | .subsume _ _ _ _ _ _
  | .sweep _ _ | .verify _ _ _ | .complete _ _ _ _ | .service _ | .ordinary => True
  | _ => False

/-- The other steps leave these tables alone; an intent goes only when it has run out without an
event. -/
structure Bookkeeping (w w' : DeletionWorld) : Prop where
  controls : w'.db.controls = w.db.controls
  jobs : w'.db.jobs = w.db.jobs
  users : w'.db.users = w.db.users
  imports : w'.db.imports = w.db.imports
  profiles : w'.db.profiles = w.db.profiles
  intents : ∀ id, (w.db.intents.get? id).isSome = true →
    (w'.db.intents.get? id).isSome = true ∨ chainOf w.ledger id = []

/-- The rows that are taken away when a control moves: none, those of its owner's account, or those
of its import or profile. -/
inductive SweptRows (w : DeletionWorld) (lease : JobLease) (now : ℤ) (scope : SweepScope) :
    Database → Prop
  | kept : SweptRows w lease now scope w.db
  | owner (haccount : scope.control.targetKind = .account)
      (h : SweepsAccount w scope.target.ownerUserId) : SweptRows w lease now scope
        (sweepOwnerRows w.db scope.target.ownerUserId lease.jobId)
  | resource (hlocked : lockedControl w.db lease .verify now = .ok scope)
      (hkind : scope.control.targetKind ≠ .account) : SweptRows w lease now scope
        (deleteResourceRows w.db scope.control.targetKind scope.target lease.jobId)

/-- What a step writes to intents, controls, sweep jobs and the rows of targets. -/
inductive DeletionWrite (w : DeletionWorld) (operation : DeletionOperation) (w' : DeletionWorld) :
    Prop
  | books (h : Bookkeeping w w')
  | fenced {prepared : LedgerEvent} {receiptId : String} {now : ℤ} {intent : DeletionIntentRecord}
      {target : DeletionTarget} (hoperation : operation = .fence prepared receiptId now)
      (hintent : w.db.intents.get? prepared.deletionId = some intent)
      (htarget : targetByScope w.db intent.targetKind intent.targetScopeId = some target)
      (howner : target.ownerUserId = intent.ownerUserId) (hactive : target.lifecycleState = .active)
      (hstate : intent.state ≠ .consumed) (h : Fenced w.db w'.db prepared intent target now)
  | requested {keys : DeletionKeys} {deletionId jobId receiptId : String} {event : LedgerEvent}
      {now : ℤ} {control : DeletionControlOperationRecord} {target : DeletionTarget}
      (hoperation : operation = .recordRequested deletionId event jobId receiptId now)
      (hfresh : jobId ∉ w.drawn) (hdrawn : jobId ∈ w'.drawn)
      (hcontrol : w.db.controls.get? deletionId = some control)
      (htarget : targetByScope w.db control.targetKind control.targetScopeId = some target)
      (h : SweepStarted keys w.db w'.db deletionId jobId control target now)
  | advanced {lease : JobLease} {now : ℤ} {scope : SweepScope} {phase phase' : ControlPhase}
      {base : Database} {receipts : Dict String DeletionReceiptRecord}
      (hlocked : lockedControl w.db lease phase now = .ok scope)
      (hmove : ControlMove w lease phase phase') (hrows : SweptRows w lease now scope base)
      (h : w'.db = { advanceControl base scope.deletionId phase' now with receipts := receipts })
  | removed {id : String} {control : DeletionControlOperationRecord}
      (hremoved : ControlRemoved w w' id) (hcontrol : w.db.controls.get? id = some control)
      (hcontrols : w'.db.controls = w.db.controls.deleteWhere fun key _ => key = id)
      (hintents : w'.db.intents = w.db.intents.deleteWhere fun key _ => key = id)
      (hjobs : w'.db.jobs = w.db.jobs.deleteWhere fun key _ => some key = control.deletionJobId)
      (htargets : ∀ kind target, TargetRow w.db target kind →
        TargetRow w'.db target kind ∨ RowRemoved w w' kind target)
      (hevolve : TargetsEvolve w.db w'.db)
  | served {service : QueueService} (hoperation : operation = .service service)
      (h : ServiceFrame w.db w'.db)
  | ordinary {drawn' : List String} (hoperation : operation = .ordinary)
      (h : OrdinaryChange w w'.db drawn')

section Lemmas

variable {keys : DeletionKeys} {retryDelay : String → ℕ → ℤ} {w w' : DeletionWorld}
  {db db' : Database} {deletionId : String} {operation : DeletionOperation}
  {kind kind' : TargetKind} {lease : JobLease} {phase : ControlPhase} {now : ℤ} {scope : SweepScope}
  {control' : DeletionControlOperationRecord} {state : LifecycleState} {generation : ℕ}
  {jobId : String} {target' : DeletionTarget} {ledger : List LedgerEvent}

/-- The control a sweep has locked. -/
theorem lockedControl_get? (h : lockedControl db lease phase now = .ok scope) :
    db.controls.get? scope.deletionId = some scope.control ∧
      scope.control.deletionJobId = some lease.jobId ∧ scope.control.phase = phase := by
  obtain ⟨hctl, -, -, job, -, hswb⟩ := lockedControl_eq_ok h
  obtain ⟨hg, hj⟩ := first_eq_some_get? hctl
  simp only [sweepable, Bool.and_eq_true, decide_eq_true_eq] at hswb
  exact ⟨hg, of_decide_eq_true hj, hswb.1.1.1.1⟩

/-- The target a sweep works on, which is past its request. -/
theorem lockedControl_row (h : lockedControl db lease phase now = .ok scope) :
    scope.target.deletionScopeId = scope.control.targetScopeId ∧
      TargetRow db scope.target scope.control.targetKind := by
  obtain ⟨-, htgt, -, -⟩ := lockedControl_eq_ok h
  exact targetByScope_eq_some htgt

/-- A control that a worker moves, among the others. -/
theorem controlChange_advance {phase' : ControlPhase}
    (hlk : lockedControl w.db lease phase now = .ok scope)
    (hmove : ControlMove w lease phase phase')
    (hctls : w'.db.controls = w.db.controls.modify scope.deletionId
      ({ · with phase := phase', updatedAt := now }))
    (hg : w'.db.controls.get? deletionId = some control') :
    ControlChange w operation w' deletionId control' := by
  obtain ⟨hctl, -, hph⟩ := lockedControl_get? hlk
  rw [hctls] at hg
  obtain ⟨control, hold, ⟨rfl, rfl⟩ | ⟨-, rfl⟩⟩ := get?_of_modify hg
  · rw [hctl] at hold
    cases hold
    subst hph
    exact .moved hlk rfl hmove rfl
  · exact .kept hold

@[simp] theorem deleteTarget_controls (kind : TargetKind) (target : DeletionTarget) :
    (deleteTarget db kind target).controls = db.controls := by
  cases kind <;> rfl

theorem get?_deleteWhere_self {κ α : Type} [DecidableEq κ] (d : Dict κ α) (k : κ) :
    (d.deleteWhere fun j _ => j = k).get? k = none := by
  rw [get?_deleteWhere]
  cases d.get? k <;> simp [Option.filter]

theorem Bookkeeping.refl (w : DeletionWorld) : Bookkeeping w w :=
  ⟨rfl, rfl, rfl, rfl, rfl, fun _ hsome => .inl hsome⟩

/-- **A step that moves nothing keeps the books.** -/
theorem DeletionStep.bookkeeping (hs : DeletionStep keys retryDelay w operation w')
    (hquiet : ¬ operation.Moves) : Bookkeeping w w' := by
  have hsame : Bookkeeping w w := .refl w
  cases hs with
  | intend _ _ hok =>
    rcases createIntent_eq_ok hok with ⟨-, rfl⟩ | ⟨_, cleared, -, -, -, -, -, hclr, -, hins⟩
    · exact { hsame with }
    · obtain ⟨-, -, -, rfl⟩ := insertIntent_eq_ok hins
      obtain rfl | ⟨_, _, -, -, -, rfl⟩ := clearActiveIntent_eq_ok hclr
      · exact { hsame with intents := fun _ hsome => .inl (isSome_set hsome) }
      · exact { hsame with intents := fun _ hsome => .inl (isSome_set (isSome_modify hsome)) }
  | recordPrepared _ hok =>
    obtain ⟨_, _, _, -, -, -, rfl⟩ := recordPrepared_eq_ok hok
    refine { hsame with intents := fun id hsome => .inl ?_ }
    show ((ite _ _ _ : Dict String DeletionIntentRecord).get? id).isSome = true
    split
    · exact isSome_modify hsome
    · exact hsome
  | proveNoncommit hok =>
    obtain ⟨_, -, -, -, -, -, -, -, rfl⟩ := proveNoncommit_eq_ok hok
    exact { hsame with intents := fun _ hsome => .inl (isSome_modify hsome) }
  | recordAborted _ _ hok =>
    obtain ⟨_, _, -, rfl⟩ := recordAborted_eq_ok hok
    exact { hsame with }
  | @expire id _ _ hok =>
    obtain rfl | ⟨_, -, -, hch, rfl⟩ := expireDeletionIntent_eq_ok hok
    · exact hsame
    · refine { hsame with intents := fun deletionId hsome => ?_ }
      by_cases hid : deletionId = id
      · exact .inr (hid ▸ hch)
      · obtain ⟨intent, hg⟩ := Option.isSome_iff_exists.mp hsome
        exact .inl (isSome_deleteWhere hg (decide_eq_false hid))
  | drainOpen hok =>
    obtain ⟨_, _, rfl⟩ := drainOpen_eq_ok hok
    exact { hsame with }
  | prepare | decideRequested | decideAborted | append | openSweep | inspect | decideSubsumed
  | decideCompleted | drainUpload => exact { hsame with }
  | _ => exact absurd trivial hquiet

theorem completionRecorded_of_validate {event : LedgerEvent}
    {control : DeletionControlOperationRecord} (hev : event ∈ ledger)
    (h : validateControlEvent event deletionId control .completed = .ok ()) :
    CompletionRecorded ledger deletionId := by
  obtain ⟨hph, hid, -⟩ := validateControlEvent_eq_ok h
  exact ⟨event, hev, hid, hph⟩

theorem CompletionRecorded.not_open (h : CompletionRecorded ledger deletionId) :
    ¬ OpenChain ledger deletionId := by
  obtain ⟨event, hev, hid, hph⟩ := h
  intro hopen
  exact (hopen.phase_ne hev hid).2 hph

theorem ControlRemoved.recorded (h : ControlRemoved w w' deletionId) :
    CompletionRecorded w.ledger deletionId := by
  cases h with
  | completed hrcd => exact hrcd
  | subsumed hrcd => exact hrcd

/-! ### Rows of targets -/

/-- A change of the lifecycle of another target leaves a row alone. -/
theorem TargetRow.setLifecycle_of_ne {target : DeletionTarget} {id : String}
    (h : TargetRow db target kind) (hne : ¬ (kind = kind' ∧ target.id = id)) :
    TargetRow (db.setLifecycle kind' id state generation) target kind := by
  by_cases hk : kind = kind'
  · subst hk
    have hid : target.id ≠ id := fun heq => hne ⟨rfl, heq⟩
    cases kind <;>
    · obtain ⟨row, hrow, htgt⟩ := h
      refine ⟨row, ?_, htgt⟩
      simp only [Database.setLifecycle]
      rw [get?_modify_of_ne _ _ hid]
      exact hrow
  · cases kind <;> cases kind' <;> first | exact absurd rfl hk | exact h

/-- A change of the lifecycle leaves a row the row of its target. -/
theorem TargetRow.setLifecycle {target : DeletionTarget} (h : TargetRow db target kind) :
    TargetRow (db.setLifecycle kind target.id state generation)
      { target with lifecycleState := state, lifecycleGeneration := generation } kind := by
  cases kind <;>
  · obtain ⟨row, hrow, htgt⟩ := h
    refine ⟨{ row with lifecycleState := state, lifecycleGeneration := generation }, ?_, ?_⟩
    · simp only [Database.setLifecycle]
      rw [get?_modify_self, hrow]
      rfl
    · rw [htgt]
      rfl

/-- The rows of accounts, imports and profiles, one by one. -/
theorem TargetRow.of_rows {target : DeletionTarget} (h : TargetRow db target kind)
    (hus : kind = .account → ∀ user, db.users.get? target.id = some user →
      db'.users.get? target.id = some user)
    (hims : kind = .importing → ∀ record, db.imports.get? target.id = some record →
      target = ImportRecord.target target.id record →
      ∃ record', db'.imports.get? target.id = some record' ∧
        ImportRecord.target target.id record' = ImportRecord.target target.id record)
    (hpfs : kind = .profile → ∀ profile, db.profiles.get? target.id = some profile →
      target = ProfileVersionRecord.target target.id profile →
      db'.profiles.get? target.id = some profile) : TargetRow db' target kind := by
  cases kind with
  | account =>
    obtain ⟨user, huser, htgt⟩ := h
    exact ⟨user, hus rfl user huser, htgt⟩
  | importing =>
    obtain ⟨record, hrec, htgt⟩ := h
    obtain ⟨record', hrec', hsame⟩ := hims rfl record hrec htgt
    exact ⟨record', hrec', htgt.trans hsame.symm⟩
  | profile =>
    obtain ⟨profile, hpf, htgt⟩ := h
    exact ⟨profile, hpfs rfl profile hpf htgt, htgt⟩

theorem get?_deleteWhere_of_not {κ α : Type} [DecidableEq κ] {d : Dict κ α} {k : κ} {v : α}
    {p : κ → α → Bool} (h : d.get? k = some v) (hkeep : p k v = false) :
    (d.deleteWhere p).get? k = some v := by
  rw [get?_deleteWhere, h]
  simp [Option.filter, hkeep]

theorem sweepOwnerRows_targetRow {target : DeletionTarget} {ownerUserId : String}
    (h : TargetRow db target kind) (ho : kind ≠ .account → target.ownerUserId ≠ ownerUserId) :
    TargetRow (sweepOwnerRows db ownerUserId jobId) target kind := by
  refine h.of_rows (fun _ user huser => huser) (fun hk record hrec htgt => ?_)
    fun hk profile hpf htgt => ?_
  · refine ⟨record, get?_deleteWhere_of_not hrec (decide_eq_false fun heq => ?_), rfl⟩
    refine ho (by rw [hk]; decide) ?_
    rw [htgt]
    exact heq
  · refine get?_deleteWhere_of_not hpf (decide_eq_false fun heq => ?_)
    refine ho (by rw [hk]; decide) ?_
    rw [htgt]
    exact heq

/-- The rows of an import take its profiles with them; the rows of a profile take no target. -/
theorem deleteResourceRows_targetRow {target : DeletionTarget} (h : TargetRow db target kind)
    (hkeep : kind = .profile → kind' = .importing → ¬ (target.importId = some target'.id ∧
      target.ownerUserId = target'.ownerUserId)) (hk' : kind' ≠ .account) :
    TargetRow (deleteResourceRows db kind' target' jobId) target kind := by
  refine h.of_rows (fun _ user huser => huser)
    (fun _ record hrec _ => ⟨record, hrec, rfl⟩) fun hk profile hpf htgt => ?_
  refine get?_deleteWhere_of_not hpf (decide_eq_false fun hmem => ?_)
  cases kind' with
  | account => exact hk' rfl
  | importing =>
    rw [if_neg (by decide)] at hmem
    simp only [resourceGraph, if_pos] at hmem
    obtain ⟨found, hfnd, hmatch⟩ := mem_keysWhere.mp hmem
    rw [← get?_eq_some, hpf] at hfnd
    cases hfnd
    rw [Bool.and_eq_true, decide_eq_true_eq, decide_eq_true_eq] at hmatch
    refine hkeep hk rfl ⟨?_, ?_⟩
    · rw [htgt, ← hmatch.1]
      rfl
    · rw [htgt]
      exact hmatch.2
  | profile =>
    rw [if_pos rfl] at hmem
    obtain ⟨hmem, hne⟩ := List.mem_filter.mp hmem
    simp only [resourceGraph, if_neg (show ¬ TargetKind.profile = .importing by decide),
      List.mem_singleton] at hmem
    exact absurd hmem (of_decide_eq_true hne)

theorem deleteTarget_targetRow {target : DeletionTarget} (h : TargetRow db target kind)
    (hne : ¬ (kind = kind' ∧ target.id = target'.id)) :
    TargetRow (deleteTarget db kind' target') target kind := by
  cases kind' with
  | account =>
    refine h.of_rows (fun hk user huser => ?_)
      (fun _ record hrec _ => ⟨record, hrec, rfl⟩) fun _ _ hpf _ => hpf
    exact get?_deleteWhere_of_not huser (decide_eq_false fun heq => hne ⟨hk, heq⟩)
  | importing =>
    refine h.of_rows (fun _ user huser => huser) (fun hk record hrec _ => ?_)
      fun _ _ hpf _ => hpf
    exact ⟨record, get?_deleteWhere_of_not hrec (decide_eq_false fun heq => hne ⟨hk, heq⟩),
      rfl⟩
  | profile =>
    refine h.of_rows (fun _ user huser => huser) (fun _ record hrec _ => ?_)
      fun hk profile hpf _ => ?_
    · -- the import that made the profile is ready again
      refine ⟨_, by rw [deleteTarget, get?_modifyWhere, hrec]; rfl, ?_⟩
      beta_reduce
      split <;> rfl
    · exact get?_deleteWhere_of_not hpf (decide_eq_false fun heq => hne ⟨hk, heq⟩)

theorem ServiceFrame.targetRow {target : DeletionTarget} (h : ServiceFrame db db')
    (hrow : TargetRow db target kind) : TargetRow db' target kind := by
  refine hrow.of_rows (fun _ user huser => by rw [h.rest]; exact huser)
    (fun _ record hrec _ => ?_) fun _ profile hpf _ => by rw [h.rest]; exact hpf
  have hsame := h.imports target.id
  rw [hrec] at hsame
  generalize hnew : db'.imports.get? target.id = new at hsame
  cases hsame with
  | some hsame =>
    refine ⟨_, rfl, ?_⟩
    rw [hsame]
    rfl

/-- A fence or a request, among the rows of targets. -/
theorem targetChange_setLifecycle {target : DeletionTarget}
    (hus : w'.db.users = (w.db.setLifecycle kind' target'.id state generation).users)
    (hims : w'.db.imports = (w.db.setLifecycle kind' target'.id state generation).imports)
    (hpfs : w'.db.profiles = (w.db.setLifecycle kind' target'.id state generation).profiles)
    (hrow : TargetRow w.db target kind) (hrow' : TargetRow w.db target' kind')
    (hchanged : kind = kind' → target = target' → RowOf w'.db kind target →
      TargetChange w operation w' kind target) : TargetChange w operation w' kind target := by
  have hcongr := targetRow_congr hus hims hpfs
  by_cases hown : kind = kind' ∧ target.id = target'.id
  · obtain ⟨rfl, hid⟩ := hown
    obtain rfl := hrow'.eq_of_id hrow hid
    exact hchanged rfl rfl ⟨_, (hcongr _ _).mpr hrow.setLifecycle, rfl, rfl, rfl, rfl⟩
  · exact .kept ((hcongr kind target).mpr (hrow.setLifecycle_of_ne hown))

/-! ### What a step writes -/

section Steps

variable (hs : DeletionStep keys retryDelay w operation w')

include hs

/-- **Every step is one of these.** -/
theorem DeletionStep.write :
    DeletionWrite w operation w' := by
  have hsame : Bookkeeping w w := .refl w
  by_cases hmoves : operation.Moves
  swap
  · exact .books (hs.bookkeeping hmoves)
  cases hs with
  | fence _ hok =>
    obtain ⟨_, hint, -, -, ⟨_, _, -, -, rfl⟩ | ⟨_, _, -, htgt, -, hfable, hfcd⟩⟩ :=
      fencePrepared_eq_ok hok
    · exact .books { hsame with }
    · obtain ⟨ho, hact, hst, -⟩ := fenceable_eq_true hfable
      exact .fenced rfl hint htgt ho hact hst hfcd
  | recordRequested _ hfr hok =>
    obtain ⟨_, _, hctl, htgt, -, -, -, ⟨_, -, -, rfl⟩ | ⟨-, hstd⟩⟩ :=
      recordRequested_eq_ok hok
    · exact .books { hsame with }
    · exact .requested rfl hfr List.mem_cons_self hctl htgt hstd
  | drainClose hok =>
    obtain ⟨-, rfl⟩ | ⟨-, _, _, hlk, hdb⟩ := drainClose_eq_ok hok
    · exact .books hsame
    · exact .advanced hlk .drained .kept hdb
  | subsume hinsp hmem _ hcomp hok =>
    have hevo := (completeSubsumed_evolve hok).targets
    obtain rfl | ⟨_, _, _, hctl, -, hv, -, rfl⟩ := completeSubsumed_eq_ok hok
    · exact .books hsame
    · exact .removed
        (.subsumed (completionRecorded_of_validate hcomp hv) hinsp hmem) hctl rfl
        rfl rfl (fun kind target hrow => .inl ((targetRow_congr rfl rfl rfl kind target).mpr hrow))
        hevo
  | sweep hinsp hsubs hok =>
    obtain ⟨scope, _, hlk, hdb⟩ := sweepRows_eq_ok hok
    refine .advanced hlk (.swept hinsp hsubs) ?_ hdb
    split
    · next hacc =>
      exact .owner hacc ⟨_, _, scope, _, hlk, hacc, rfl, hinsp, hsubs⟩
    · exact .kept
  | verify hok =>
    obtain ⟨_, _, hlk, ⟨-, hdb⟩ | ⟨-, hdb⟩⟩ := verifyRows_eq_ok hok
    · exact .advanced hlk .resumed .kept hdb
    · refine .advanced hlk .verified ?_ hdb
      split
      · exact .kept
      · next hk => exact .resource hlk hk
  | complete hev hok =>
    have hevo := (complete_evolve hok).targets
    obtain ⟨scope, _, _, hlk, hv, -, rfl⟩ := complete_eq_ok hok
    obtain ⟨hctl, hj, -⟩ := lockedControl_get? hlk
    refine .removed (.completed (completionRecorded_of_validate hev hv) ?_) hctl
      (deleteTarget_controls _ _) (deleteTarget_intents _ _) ?_ (fun kind target hrow => ?_) hevo
    · rw [← (validateControlEvent_eq_ok hv).2.1]
      exact List.mem_cons_self
    · rw [hj]
      exact deleteTarget_jobs _ _
    · by_cases hown : kind = scope.control.targetKind ∧ target.id = scope.target.id
      · refine .inr (.completed hlk hown.1 hown.2 ?_)
        rw [deleteTarget_controls]
        exact get?_deleteWhere_self _ _
      · refine .inl (deleteTarget_targetRow ?_ hown)
        exact (targetRow_congr rfl rfl rfl kind target).mpr hrow
  | service => exact .served rfl (QueueService.frame retryDelay w.db _)
  | ordinary hchg => exact .ordinary rfl hchg
  | _ => exact hmoves.elim

/-- **A control stays, is new, is requested, or is moved by its worker.** -/
theorem DeletionStep.control (hg : w'.db.controls.get? deletionId = some control') :
    ControlChange w operation w' deletionId control' := by
  cases hs.write with
  | books h => exact .kept (h.controls ▸ hg)
  | fenced _ hint _ _ _ hst h =>
    rw [h.controls] at hg
    rcases get?_of_set hg with ⟨rfl, rfl⟩ | ⟨-, hold⟩
    · exact .fenced hint hst rfl rfl
    · exact .kept hold
  | requested hop hfr hdr _ _ h =>
    rw [h.controls] at hg
    obtain ⟨before, hold, ⟨rfl, rfl⟩ | ⟨-, rfl⟩⟩ := get?_of_modify hg
    · exact .requested hold hop hfr hdr rfl
    · exact .kept hold
  | advanced hlk hmove hrows h =>
    refine controlChange_advance hlk hmove ?_ hg
    rw [h]
    cases hrows <;> rfl
  | removed _ _ h => exact .kept (get?_of_deleteWhere (h ▸ hg))
  | served _ h =>
    rw [h.rest] at hg
    exact .kept hg
  | ordinary _ h => exact .kept (h.controls ▸ hg)

/-- **A control goes only once its completion is in the ledger.** -/
theorem DeletionStep.control_removed (hg : (w.db.controls.get? deletionId).isSome = true) :
    (w'.db.controls.get? deletionId).isSome = true ∨ ControlRemoved w w' deletionId := by
  cases hs.write with
  | books h => exact .inl (h.controls ▸ hg)
  | fenced _ _ _ _ _ _ h => exact .inl (h.controls ▸ isSome_set hg)
  | requested _ _ _ _ _ h => exact .inl (h.controls ▸ isSome_modify hg)
  | advanced _ _ hrows h =>
    rw [h]
    refine .inl (isSome_modify ?_)
    cases hrows <;> exact hg
  | @removed id _ hrem _ h =>
    by_cases hid : deletionId = id
    · exact .inr (hid ▸ hrem)
    · obtain ⟨control, hctl⟩ := Option.isSome_iff_exists.mp hg
      exact .inl (h ▸ isSome_deleteWhere hctl (decide_eq_false hid))
  | served _ h =>
    rw [h.rest]
    exact .inl hg
  | ordinary _ h => exact .inl (h.controls ▸ hg)

/-- **An intent goes when it has run out, when its completion is in the ledger, or with the rows of
its account.** -/
theorem DeletionStep.intent_kept {intent : DeletionIntentRecord}
    (hg : w.db.intents.get? deletionId = some intent) :
    (w'.db.intents.get? deletionId).isSome = true ∨ IntentRemoved w w' deletionId intent := by
  have hsome : (w.db.intents.get? deletionId).isSome = true := by rw [hg]; rfl
  cases hs.write with
  | books h => exact (h.intents deletionId hsome).imp id .expired
  | fenced _ _ _ _ _ _ h => exact .inl (h.intents ▸ isSome_modify hsome)
  | requested _ _ _ _ _ h => exact .inl (h.intents ▸ hsome)
  | @advanced _ _ scope _ _ _ _ _ _ hrows h =>
    rw [h]
    cases hrows with
    | kept | resource => exact .inl hsome
    | owner hacc hsw =>
      by_cases ho : intent.ownerUserId = scope.target.ownerUserId
      · exact .inr (.swept (ho ▸ hsw))
      · exact .inl (isSome_deleteWhere hg (decide_eq_false ho))
  | @removed id _ _ _ hctls h =>
    by_cases hid : deletionId = id
    · subst hid
      exact .inr (.completed (hctls ▸ get?_deleteWhere_self _ _))
    · exact .inl (h ▸ isSome_deleteWhere hg (decide_eq_false hid))
  | served _ h =>
    rw [h.rest]
    exact .inl hsome
  | ordinary _ h => exact .inl (h.intents ▸ hsome)

/-- **The row of a target stays, is fenced, is requested, or goes**: with its account, with its
import, or when its own deletion is completed. -/
theorem DeletionStep.target {target : DeletionTarget} (hrow : TargetRow w.db target kind) :
    TargetChange w operation w' kind target := by
  cases hs.write with
  | books h => exact .kept ((targetRow_congr h.users h.imports h.profiles kind target).mpr hrow)
  | fenced hop hint hfnd _ hact _ h =>
    refine targetChange_setLifecycle h.users h.imports h.profiles hrow
      (targetByScope_eq_some hfnd).2 ?_
    rintro rfl rfl hchanged
    exact .fenced hop hint rfl hfnd hact hchanged
  | @requested _ deletionId jobId _ _ now control _ _ hfr _ hctl hfnd h =>
    have hafter : w'.db.controls.get? deletionId = some { control with
        phase := .drain
        deletionJobId := some jobId
        updatedAt := now } := by
      rw [h.controls, get?_modify_self, hctl]
      rfl
    refine targetChange_setLifecycle h.users h.imports h.profiles hrow
      (targetByScope_eq_some hfnd).2 ?_
    rintro rfl rfl hchanged
    exact .requested hctl rfl hfnd hfr hafter rfl hchanged
  | @advanced _ _ scope _ _ base _ _ _ hrows h =>
    have hkept : TargetRow base target kind → TargetChange w operation w' kind target := by
      intro hbase
      refine .kept ?_
      rw [h]
      exact (targetRow_congr rfl rfl rfl kind target).mpr hbase
    cases hrows with
    | kept => exact hkept hrow
    | owner hacc hsw =>
      by_cases hswept : kind ≠ .account ∧ target.ownerUserId = scope.target.ownerUserId
      · exact .removed (.swept hswept.1 (hswept.2 ▸ hsw))
      · exact hkept (sweepOwnerRows_targetRow hrow fun hk ho => hswept ⟨hk, ho⟩)
    | resource hlk hsc =>
      by_cases hu : kind = .profile ∧ scope.control.targetKind = .importing ∧
          target.importId = some scope.target.id ∧ target.ownerUserId = scope.target.ownerUserId
      · obtain ⟨hk, hsc, him, ho⟩ := hu
        exact .removed (.verified hlk hsc hk him ho)
      · exact hkept (deleteResourceRows_targetRow hrow
          (fun hk hsc hbelow => hu ⟨hk, hsc, hbelow⟩) hsc)
  | removed _ _ _ _ _ htgts => exact (htgts kind target hrow).elim .kept .removed
  | served _ h => exact .kept (h.targetRow hrow)
  | ordinary _ h => exact .kept (h.kept kind target hrow)

/-- The row of a target is there after a step, unless the step takes it away. -/
theorem DeletionStep.row_kept {target : DeletionTarget} (hrow : TargetRow w.db target kind) :
    RowOf w'.db kind target ∨ RowRemoved w w' kind target := by
  cases hs.target hrow with
  | kept hrow => exact .inl ⟨target, hrow, .refl target⟩
  | fenced _ _ _ _ _ hrow => exact .inl hrow
  | requested _ _ _ _ _ _ hrow => exact .inl hrow
  | removed hrem => exact .inr hrem

/-! ### What only grows -/

theorem DeletionStep.intentions_subset :
    w.intentions ⊆ w'.intentions := by
  cases hs with
  | intend =>
    show w.intentions ⊆ ite _ _ _
    split
    · exact List.Subset.refl _
    · exact List.subset_cons_self _ _
  | _ => exact List.Subset.refl _

theorem DeletionStep.fences_subset :
    w.fences ⊆ w'.fences := by
  cases hs with
  | fence => exact fun _ hmem => List.mem_insert_of_mem hmem
  | _ => exact List.Subset.refl _

theorem DeletionStep.completions_subset :
    w.completions ⊆ w'.completions := by
  cases hs with
  | complete => exact List.subset_cons_self _ _
  | _ => exact List.Subset.refl _

theorem DeletionStep.drawn_subset :
    w.drawn ⊆ w'.drawn := by
  cases hs with
  | intend => exact List.subset_cons_self _ _
  | recordRequested => exact List.subset_cons_self _ _
  | ordinary hchg => exact hchg.drawn
  | _ => exact List.Subset.refl _

end Steps

/-! ### Sweep jobs -/

/-- The job of a sweep has been drawn, and for one deletion only. -/
structure SweepJobs (w : DeletionWorld) : Prop where
  drawn : ∀ id control jobId, w.db.controls.get? id = some control →
    control.deletionJobId = some jobId → jobId ∈ w.drawn
  distinct : ∀ id id' control control' jobId, w.db.controls.get? id = some control →
    w.db.controls.get? id' = some control' → control.deletionJobId = some jobId →
    control'.deletionJobId = some jobId → id = id'

theorem NoDeletions.jobs (h : NoDeletions w) : SweepJobs w where
  drawn := by simp [h.controls]
  distinct := by simp [h.controls]

/-- A control had its job before, or the job has been drawn for it. -/
theorem DeletionStep.job_of_control (hs : DeletionStep keys retryDelay w operation w')
    (hg : w'.db.controls.get? deletionId = some control')
    (hj : control'.deletionJobId = some jobId) :
    (∃ control, w.db.controls.get? deletionId = some control ∧
        control.deletionJobId = some jobId) ∨
      (jobId ∉ w.drawn ∧ jobId ∈ w'.drawn ∧ ∃ event receiptId now,
        operation = .recordRequested deletionId event jobId receiptId now) := by
  cases hs.control hg with
  | kept hold => exact .inl ⟨control', hold, hj⟩
  | fenced _ _ _ hnone =>
    rw [hnone] at hj
    cases hj
  | @requested _ event _ receiptId now _ hop hfr hdr hctl =>
    subst hctl
    cases hj
    exact .inr ⟨hfr, hdr, event, receiptId, now, hop⟩
  | moved hlk hid _ hctl =>
    subst hctl
    subst hid
    exact .inl ⟨_, (lockedControl_get? hlk).1, hj⟩

theorem DeletionStep.sweepJobs (h : SweepJobs w)
    (hs : DeletionStep keys retryDelay w operation w') : SweepJobs w' where
  drawn id control' jobId hg hj := by
    rcases hs.job_of_control hg hj with ⟨control, hold, hj⟩ | ⟨-, hdr, -⟩
    · exact hs.drawn_subset (h.drawn id control jobId hold hj)
    · exact hdr
  distinct id id' control control' jobId hg hg' hj hj' := by
    rcases hs.job_of_control hg hj with
      ⟨before, hold, hpre⟩ | ⟨hfr, -, _, _, _, rfl⟩
    · rcases hs.job_of_control hg' hj' with ⟨before', hold', hpre'⟩ | ⟨hfr, -⟩
      · exact h.distinct id id' before before' jobId hold hold' hpre hpre'
      · exact absurd (h.drawn id before jobId hold hpre) hfr
    · rcases hs.job_of_control hg' hj' with ⟨before', hold', hpre'⟩ | ⟨-, -, _, _, _, hsame⟩
      · exact absurd (h.drawn id' before' jobId hold' hpre') hfr
      · cases hsame
        rfl

end Lemmas

end RateReplay
