import RateReplay.Persistence.DeletionSweeps

/-!
# Chains under a completed deletion

The sweep of an account or an import completes the deletions of what is below it, as far as it
finds their controls.  A deletion below that is prepared but not fenced has no control, and its
chain stays open for good once its target is gone.  Under two conditions, one on preparations and
one on fences, this cannot happen.

## Main definitions

* `SettlesSubordinates` — what a preparation and a fence have to find.
* `OpenControl` — the deletions that a sweep has to find: the chain is open, the control is there.
* `Held` — an open chain below a fenced target has a control.

## Main results

* `DeletionStep.held`, `DeletionStep.tracks_open` — **every such step keeps open chains within
  what the sweeps find.**
* `subordinate_chains_terminal` — **once a deletion is completed, no chain below it is open.**
* `fenced_deletions_kept` — **no fenced deletion is lost**, in any run.
* `subordinate_chain_left_open` — the chain of a deletion that was prepared and not fenced stays
  open.
-/

namespace RateReplay

/-! ### The conditions -/

instance (db : Database) (kind : TargetKind) (id : String) : Decidable (ActiveTarget db kind id) :=
  match kind with
  | .account => decidable_of_iff ((db.users.get? id).any (·.lifecycleState = .active))
      ((Option.any_eq_true _ _).trans (by simp [ActiveTarget, ActiveUser]))
  | .importing => decidable_of_iff ((db.imports.get? id).any (·.lifecycleState = .active))
      ((Option.any_eq_true _ _).trans (by simp [ActiveTarget, ActiveImport]))
  | .profile => decidable_of_iff ((db.profiles.get? id).any (·.lifecycleState = .active))
      ((Option.any_eq_true _ _).trans (by simp [ActiveTarget, ActiveProfile]))

/-- A new preparation finds the account and the import above its target active, and a new fence of
an account or an import finds a control for every open chain below it. -/
def SettlesSubordinates (w : DeletionWorld) : DeletionOperation → Prop
  | .prepare deletionId _ => chainOf w.ledger deletionId = [] →
    ∀ intention ∈ w.intentions, intention.deletionId = deletionId → intention.kind ≠ .account →
      ActiveTarget w.db .account intention.target.ownerUserId ∧
        (intention.kind = .profile →
          ∀ importId ∈ intention.target.importId, ActiveTarget w.db .importing importId)
  | .fence prepared _ _ => w.db.controls.get? prepared.deletionId = none →
    ∀ parent ∈ w.intentions, parent.deletionId = prepared.deletionId →
      ∀ child ∈ w.intentions, child.Under parent → OpenChain w.ledger child.deletionId →
        (w.db.controls.get? child.deletionId).isSome = true
  | _ => True

instance (w : DeletionWorld) (operation : DeletionOperation) :
    Decidable (SettlesSubordinates w operation) := by
  apply DeletionOperation.casesOn (motive := fun o => Decidable (SettlesSubordinates w o))
    operation <;> intros <;> unfold SettlesSubordinates <;> infer_instance

/-! ### The invariant -/

/-- The chain of the deletion is open, and its control is there to be found. -/
def OpenControl (w : DeletionWorld) (deletionId : String) : Prop :=
  (w.db.controls.get? deletionId).isSome = true ∧ OpenChain w.ledger deletionId

/-- A chain that was open when the target above it was fenced has a control. -/
def Held (w : DeletionWorld) : Prop :=
  ∀ parent ∈ w.intentions, ∀ child ∈ w.intentions, child.Under parent →
    parent.deletionId ∈ w.fences → OpenChain w.ledger child.deletionId →
    (w.db.controls.get? child.deletionId).isSome = true

section Steps

variable {keys : DeletionKeys} {retryDelay : String → ℕ → ℤ} {w w' : DeletionWorld}
  {operation : DeletionOperation} {child parent : Intention}

/-! ### What a step may add -/

/-- A chain that is open was open, or it has just been prepared. -/
theorem DeletionStep.open_cases (hprot : Protocol w)
    (hs : DeletionStep keys retryDelay w operation w') {deletionId : String}
    (hopen : OpenChain w'.ledger deletionId) :
    OpenChain w.ledger deletionId ∨
      (chainOf w.ledger deletionId = [] ∧ ∃ now, operation = .prepare deletionId now) := by
  cases hs with
  | @prepare id now _ _ hok =>
    obtain ⟨_, -, ⟨rfl, -⟩ | ⟨_, hnone, -, happend⟩⟩ := preparedAppend_eq_ok hok
    · exact .inl hopen
    · rcases hopen.of_appendEvent happend with hold | ⟨hid, -⟩
      · exact .inl hold
      · cases hid
        exact .inr ⟨hnone, now, rfl⟩
  | append hdecided hok =>
    rcases hopen.of_appendEvent hok with hold | ⟨rfl, hph⟩
    · exact .inl hold
    · exact absurd hph (hprot.decided _ hdecided)
  | _ => exact .inl hopen

/-- The open chains after a step, as far as the intentions were there. -/
theorem DeletionStep.open_old (hprot : Protocol w)
    (hs : DeletionStep keys retryDelay w operation w') (hmem : child ∈ w'.intentions)
    (hopen : OpenChain w'.ledger child.deletionId) :
    child ∈ w.intentions ∧ (OpenChain w.ledger child.deletionId ∨
      (chainOf w.ledger child.deletionId = [] ∧
        ∃ now, operation = .prepare child.deletionId now)) := by
  have hcases := hs.open_cases hprot hopen
  refine ⟨?_, hcases⟩
  rcases hs.intention_cases hmem with hold | ⟨hfr, -, request, rfl⟩
  · exact hold
  · rcases hcases with ⟨⟨event, hev, hph⟩, -⟩ | ⟨-, now, heq⟩
    · obtain ⟨hledger, hid⟩ := mem_chainOf.mp hev
      obtain ⟨intention, hintn, hsame⟩ :=
        hprot.announced _ event.phase (.inl ⟨event, hledger, rfl, rfl⟩)
      exact absurd (hid ▸ hsame ▸ (hprot.intended intention hintn).1) hfr
    · cases heq

/-! ### What the conditions exclude -/

/-- No chain is opened below a fenced target. -/
theorem not_prepared_below (hprot : Protocol w) (h : Sweeps w) {now : ℤ}
    (hall : SettlesSubordinates w (.prepare child.deletionId now))
    (hnone : chainOf w.ledger child.deletionId = []) (hpar : parent ∈ w.intentions)
    (hc : child ∈ w.intentions) (hu : child.Under parent) : parent.deletionId ∉ w.fences := by
  intro hf
  obtain ⟨fenced, hfcd, hid, hina⟩ := hprot.fenced _ hf
  rw [hprot.unique fenced hfcd parent hpar hid] at hina
  obtain ⟨ho, ⟨hacc, hk⟩ | ⟨him, hk, himId⟩⟩ := hu
  · refine hina ?_
    rw [hacc, ← h.accounts parent hpar hacc, ← ho]
    exact (hall hnone child hc rfl hk).1
  · refine hina ?_
    rw [him]
    have hne : child.kind ≠ .account := by rw [hk]; decide
    exact (hall hnone child hc rfl hne).2 hk parent.target.id himId

section Steps

variable (hs : DeletionStep keys retryDelay w operation w') (hprot : Protocol w)
  (hall : SettlesSubordinates w operation)

include hs hprot hall

/-- An open chain below a fenced target was open before. -/
theorem DeletionStep.open_below (h : Sweeps w) (hpar : parent ∈ w.intentions)
    (hc : child ∈ w'.intentions) (hu : child.Under parent) (hf : parent.deletionId ∈ w.fences)
    (hopen : OpenChain w'.ledger child.deletionId) :
    child ∈ w.intentions ∧ OpenChain w.ledger child.deletionId := by
  obtain ⟨hold, hopen | ⟨hnone, now, rfl⟩⟩ := hs.open_old hprot hc hopen
  · exact ⟨hold, hopen⟩
  · exact absurd hf (not_prepared_below hprot h hall hnone hpar hold hu)

/-! ### The steps -/

/-- **An open chain below a fenced target had a control before.** -/
theorem DeletionStep.held_before (hsw : Sweeps w) (h : Held w) (hpar : parent ∈ w.intentions)
    (hc : child ∈ w'.intentions) (hu : child.Under parent) (hf : parent.deletionId ∈ w'.fences)
    (hopen : OpenChain w'.ledger child.deletionId) :
    child ∈ w.intentions ∧ OpenControl w child.deletionId := by
  by_cases hold : parent.deletionId ∈ w.fences
  · obtain ⟨hmem, hopen⟩ :=
      hs.open_below hprot hall hsw hpar hc hu hold hopen
    exact ⟨hmem, h parent hpar child hmem hu hold hopen, hopen⟩
  · -- the parent is fenced now
    obtain ⟨prepared, _, _, _, _, rfl, -, hid, -⟩ := (hs.fence_cases hprot hf).resolve_left hold
    have hnew : w.db.controls.get? prepared.deletionId = none :=
      Option.not_isSome_iff_eq_none.mp fun hsome => hold (hid ▸ control_fenced hprot hsome)
    obtain ⟨hmem, hopen | ⟨-, _, heq⟩⟩ := hs.open_old hprot hc hopen
    · exact ⟨hmem, hall hnew parent hpar hid.symm child hmem hu hopen, hopen⟩
    · cases heq

theorem DeletionStep.held (hsw : Sweeps w) (h : Held w) : Held w' := by
  intro parent hpar child hc hu hf hopen
  have hpar := hs.intention_of_fence hprot hpar hf
  obtain ⟨-, hsome, hopen⟩ :=
    hs.held_before hprot hall hsw h hpar hc hu hf hopen
  rcases hs.control_removed hsome with hkept | hrem
  · exact hkept
  · exact absurd hopen hrem.recorded.not_open

/-- An open chain that gets a control gets it from its fence, and below no fenced target. -/
theorem DeletionStep.tracks_open (hsw : Sweeps w) (h : Held w) : Tracked OpenControl w w' := by
  rintro child hc ⟨hsome, hopen⟩
  have hf := control_fenced (hs.protocol hprot) hsome
  have hold := hs.intention_of_fence hprot hc hf
  refine ⟨hold, ?_⟩
  rcases hs.fence_cases hprot hf with hf |
    ⟨prepared, _, _, intent, _, hop, -, hid, hint, htgt, -, hfcd⟩
  · obtain ⟨-, hopen | ⟨hnone, -⟩⟩ := hs.open_old hprot hc hopen
    · exact .inl ⟨hs.control_before hprot hf hsome, hopen⟩
    · exact absurd hnone (hsw.prepared _ hf)
  · by_cases habove : ∃ parent ∈ w.intentions, child.Under parent ∧ parent.deletionId ∈ w'.fences
    · obtain ⟨parent, hpar, hu, hparF⟩ := habove
      exact .inl (hs.held_before hprot hall hsw h hpar hc hu hparF hopen).2
    · refine .inr ⟨fun _ => ⟨?_, hprot.fence_row hold hint htgt hfcd⟩,
        fun parent hpar hu hf => habove ⟨parent, hpar, hu, hf⟩⟩
      rw [hfcd.intents]
      exact Dict.isSome_modify (by rw [hint]; rfl)

end Steps

theorem DeletionStep.legalChains (h : LegalChains w.ledger)
    (hs : DeletionStep keys retryDelay w operation w') : LegalChains w'.ledger := by
  cases hs with
  | prepare hok =>
    obtain ⟨_, -, ⟨rfl, -⟩ | ⟨_, -, -, happend⟩⟩ := preparedAppend_eq_ok hok
    · exact h
    · exact h.appendEvent happend
  | append _ hok => exact h.appendEvent hok
  | _ => exact h

end Steps

/-! ### Reached states -/

/-- The chain has ended in an abortion or a completion. -/
def TerminalChain (ledger : List LedgerEvent) (deletionId : String) : Prop :=
  ∃ event ∈ chainOf ledger deletionId, event.phase = .aborted ∨ event.phase = .completed

instance (ledger : List LedgerEvent) (deletionId : String) :
    Decidable (TerminalChain ledger deletionId) :=
  inferInstanceAs (Decidable (∃ event ∈ _, _))

/-- A legal chain that is not open has ended. -/
theorem LegalChains.terminal {ledger : List LedgerEvent} {deletionId : String}
    (h : LegalChains ledger) (hch : chainOf ledger deletionId ≠ [])
    (hclosed : ¬ OpenChain ledger deletionId) : TerminalChain ledger deletionId := by
  by_contra hopen
  refine hclosed ⟨h.prepared hch, fun event hev => ⟨fun heq => ?_, fun heq => ?_⟩⟩
  · exact hopen ⟨event, hev, .inl heq⟩
  · exact hopen ⟨event, hev, .inr heq⟩

section Reached

variable {keys : DeletionKeys} {retryDelay : String → ℕ → ℤ} {w : DeletionWorld}

theorem held_of_reached
    (h : ReachedBy NoDeletions (DeletionStep keys retryDelay) SettlesSubordinates w) :
    Protocol w ∧ SweepJobs w ∧ Sweeps w ∧ LegalChains w.ledger ∧ Held w ∧ Found OpenControl w := by
  refine h.invariant (I := fun w => Protocol w ∧ SweepJobs w ∧ Sweeps w ∧ LegalChains w.ledger ∧
    Held w ∧ Found OpenControl w) (fun w hw => ?_) fun w _ w' hw hall hs => ?_
  · refine ⟨hw.protocol, hw.jobs, hw.sweeps, fun deletionId => .inl ?_, ?_, hw.found _⟩
    · rw [hw.ledger]
      rfl
    · intro parent hpar
      rw [hw.intentions] at hpar
      cases hpar
  · obtain ⟨hprot, hjs, hsw, hlegal, hheld, hfnd⟩ := hw
    exact ⟨hs.protocol hprot, hs.sweepJobs hjs, hs.sweeps hprot hjs hsw,
      hs.legalChains hlegal, hs.held hprot hall hsw hheld,
      hs.found And.left hprot hsw hfnd
        (hs.tracks_open hprot hall hsw hheld)⟩

/-- **Once the deletion of an account or an import is completed, every chain below it has ended**,
in runs that prepare deletions only below active targets and fence a target only when the open
chains below it have controls. -/
theorem subordinate_chains_terminal
    (h : ReachedBy NoDeletions (DeletionStep keys retryDelay) SettlesSubordinates w) :
    ∀ parent ∈ w.intentions, parent.deletionId ∈ w.completions →
      ∀ child ∈ w.intentions, child.Under parent → chainOf w.ledger child.deletionId ≠ [] →
        TerminalChain w.ledger child.deletionId := by
  obtain ⟨-, -, hsweeps, hlegal, hheld, hfound⟩ := held_of_reached h
  intro parent hparent hcompleted child hchild hunder hchain
  refine hlegal.terminal hchain fun hopen => ?_
  have hsome := hheld parent hparent child hchild hunder (hsweeps.completed _ hcompleted) hopen
  exact hfound.swept parent hparent child hchild hunder (.inr hcompleted) ⟨hsome, hopen⟩

/-- **No fenced deletion is lost**: it has its control, by which it goes on, until its completion
is in the ledger. -/
theorem fenced_deletions_kept {allowed : DeletionWorld → DeletionOperation → Prop}
    (h : ReachedBy NoDeletions (DeletionStep keys retryDelay) allowed w) :
    ∀ id ∈ w.fences, (w.db.controls.get? id).isSome = true ∨ CompletionRecorded w.ledger id := by
  refine (h.invariant (I := fun w => Protocol w ∧ ∀ id ∈ w.fences,
    (w.db.controls.get? id).isSome = true ∨ CompletionRecorded w.ledger id)
    (fun w hw => ⟨hw.protocol, by simp [hw.fences]⟩) fun w _ w' hw _ hs => ?_).2
  obtain ⟨hprot, hkept⟩ := hw
  have hrecorded : ∀ {id}, CompletionRecorded w.ledger id → CompletionRecorded w'.ledger id :=
    fun ⟨event, hevent, hcompleted⟩ => ⟨event, hs.ledger_extends.subset hevent, hcompleted⟩
  refine ⟨hs.protocol hprot, fun id hmem => ?_⟩
  rcases hs.fence_cases hprot hmem with hold | ⟨_, _, _, _, _, -, -, rfl, -, -, -, hfcd⟩
  · rcases hkept id hold with hsome | hdone
    · refine (hs.control_removed hsome).imp_right fun hrem => hrecorded ?_
      cases hrem with
      | completed h | subsumed h => exact h
    · exact .inr (hrecorded hdone)
  · rw [hfcd.controls, Dict.get?_set_self]
    exact .inl rfl

end Reached

namespace SmallStore

/-- A deletion of the small store, and what is drawn for it. -/
structure Deletion where
  kind : TargetKind
  target : DeletionTarget
  deletionId : String
  jobId : String
  attemptId : String
  preparedReceipt : String
  requestedReceipt : String
  completedReceipt : String

namespace Deletion

variable (d : Deletion)

def prepared : LedgerEvent := preparedOn d.deletionId d.target.deletionScopeId 0

def requested : LedgerEvent := requestedOn d.deletionId d.target.deletionScopeId 0

def completed : LedgerEvent := { d.requested with phase := .completed }

/-- The deletion is prepared in the ledger. -/
def prepare : List DeletionOperation :=
  [.intend (intentOn d.kind d.target.id d.deletionId 0), .prepare d.deletionId 0]

/-- The target is fenced, and its deletion requested. -/
def request : List DeletionOperation :=
  [.fence d.prepared d.preparedReceipt 0, .decideRequested d.deletionId 0,
    .append ⟨d.deletionId, .requested, d.requested.identity, 0⟩,
    .recordRequested d.deletionId d.requested d.jobId d.requestedReceipt 0]

/-- The lease of the worker that sweeps. -/
def lease : JobLease where
  jobId := d.jobId
  importId := d.target.importId
  workerId := "worker-1"
  attemptNumber := 1
  fencingGeneration := 1
  leaseExpiresAt := leaseDuration
  kind := .deletion
  profileVersionId := if d.kind = .profile then some d.target.id else none
  scopeMode := .deletingScope

/-- The worker leases the job of the deletion, and drains. -/
def drain : List DeletionOperation :=
  [.service (.lease [.deletion] "worker-1" 0 d.attemptId), .service (.start d.lease 0),
    .drainOpen d.lease id 0, .drainClose d.lease false 0]

/-- What the sweep reads. -/
def scope (user : UserRecord) : SweepScope where
  deletionId := d.deletionId
  control := {
    targetKind := d.kind
    targetScopeId := d.target.deletionScopeId
    scopeToken := d.prepared.identity.scopeToken
    restoreKeyVersion := d.prepared.identity.restoreKeyVersion
    originalGeneration := 0
    deletionGeneration := 1
    preparationDigest := d.prepared.identity.preparationDigest
    intentProofDigest := d.prepared.identity.intentProofDigest
    phase := .sweep
    deletionJobId := some d.jobId
    createdAt := 0
    updatedAt := 0 }
  target := { d.target with lifecycleState := .deleting, lifecycleGeneration := 1 }
  user := user

/-- The worker sweeps, verifies and completes. -/
def sweep (user : UserRecord) : List DeletionOperation :=
  [.openSweep d.lease 0, .inspect d.lease (d.scope user), .sweep d.lease 0,
    .verify d.lease false 0, .decideCompleted d.lease 0,
    .append ⟨d.deletionId, .completed, d.completed.identity, 0⟩,
    .complete d.lease d.completed d.completedReceipt 0]

end Deletion

def importRemoval : Deletion where
  kind := .importing
  target := ImportRecord.target importId imported
  deletionId := importDeletion
  jobId := "40000000000000000000000000000002"
  attemptId := "40000000000000000000000000000003"
  preparedReceipt := "90000000000000000000000000000002"
  requestedReceipt := "90000000000000000000000000000003"
  completedReceipt := "90000000000000000000000000000004"

def profileRemoval : Deletion where
  kind := .profile
  target := ProfileVersionRecord.target profileId profile
  deletionId := "80000000000000000000000000000004"
  jobId := "40000000000000000000000000000004"
  attemptId := "40000000000000000000000000000005"
  preparedReceipt := "90000000000000000000000000000005"
  requestedReceipt := "90000000000000000000000000000006"
  completedReceipt := "90000000000000000000000000000007"

/-- The profile is being deleted when its import is; both deletions go on, and the import's sweep
completes the other one. -/
def subsumedRemoval : List DeletionOperation :=
  profileRemoval.prepare ++ profileRemoval.request
    ++ importRemoval.prepare ++ importRemoval.request
    ++ importRemoval.drain
    ++ [.openSweep importRemoval.lease 0, .inspect importRemoval.lease (importRemoval.scope user),
      .decideSubsumed profileRemoval.deletionId profileRemoval.requested 0,
      .append ⟨profileRemoval.deletionId, .completed, profileRemoval.completed.identity, 0⟩,
      .subsume profileRemoval.deletionId profileRemoval.requested profileRemoval.completed
        "90000000000000000000000000000008" profileRemoval.completedReceipt 0]
    ++ importRemoval.sweep user

/-- The deletion of the profile is prepared and goes no further; the import is deleted. -/
def unfencedPreparation : List DeletionOperation :=
  profileRemoval.prepare ++ importRemoval.prepare ++ importRemoval.request ++ importRemoval.drain
    ++ importRemoval.sweep user

end SmallStore

section

open SmallStore

/-- The deletion of a profile that was under way is completed with that of its import. -/
theorem subordinate_chains_terminal_subsumed :
    ∃ w, ReachedBy NoDeletions (DeletionStep keys noDelay)
        SettlesSubordinates w ∧
      importDeletion ∈ w.completions ∧
      TerminalChain w.ledger profileRemoval.deletionId := by
  obtain ⟨w, hreached, hcompleted, hchain, parent, hparent, child, hchild, hparentId, hchildId,
    hunder⟩ := reached_of_execute SettlesSubordinates
      (P := fun w => importDeletion ∈ w.completions ∧
        chainOf w.ledger profileRemoval.deletionId ≠ [] ∧
        ∃ parent ∈ w.intentions, ∃ child ∈ w.intentions, parent.deletionId = importDeletion ∧
          child.deletionId = profileRemoval.deletionId ∧ child.Under parent)
      subsumedRemoval (by decide +kernel)
  refine ⟨w, hreached, hcompleted, ?_⟩
  rw [← hchildId] at hchain ⊢
  exact subordinate_chains_terminal hreached parent hparent (hparentId ▸ hcompleted) child hchild
    hunder hchain

theorem fenced_deletions_kept_subsumed :
    ∃ w, ReachedBy NoDeletions (DeletionStep keys noDelay) SettlesSubordinates w ∧
      CompletionRecorded w.ledger importDeletion := by
  obtain ⟨w, hreached, hfence, hgone⟩ := reached_of_execute SettlesSubordinates
    (P := fun w => importDeletion ∈ w.fences ∧ w.db.controls.get? importDeletion = none)
    subsumedRemoval (by decide +kernel)
  refine ⟨w, hreached, (fenced_deletions_kept hreached _ hfence).resolve_left ?_⟩
  simp [hgone]

/-- **The chain of a profile stays open when its import is gone**: its deletion was prepared but
not fenced when the import was deleted, so the sweep of the import did not find it. -/
theorem subordinate_chain_left_open :
    ∃ w, ReachedBy NoDeletions (DeletionStep keys noDelay)
        (fun _ _ => True) w ∧
      importDeletion ∈ w.completions ∧
      (∃ parent ∈ w.intentions, ∃ child ∈ w.intentions,
        parent.deletionId = importDeletion ∧
        child.deletionId = profileRemoval.deletionId ∧ child.Under parent) ∧
      w.db.imports.get? importId = none ∧
      w.db.profiles.get? profileId = none ∧
      OpenChain w.ledger profileRemoval.deletionId ∧
      ¬ TerminalChain w.ledger profileRemoval.deletionId :=
  reached_of_execute _ unfencedPreparation (by decide +kernel)

end

end RateReplay
