import RateReplay.Persistence.DeletionProtocol

/-!
# Open chains of the ledger

A preparation in the ledger stays open until it is aborted or completed.  The guard against a
second preparation of the same target reads the database, where the first one may not be
recorded.  Under two conditions on the steps that the guard leaves open, no target has two open
preparations; without them it may.

## Main definitions

* `OpenChain` — the chain of a deletion is prepared, and neither aborted nor completed.
* `ResolvesFirst` — what a step has to find in order not to pass over an open preparation.
* `SingleChains` — the invariant.

## Main results

* `one_open_chain` — **along runs of such steps a target has one open chain at most.**
* `two_open_chains` — a preparation that was never recorded is passed over.
-/

namespace RateReplay

open Dict

/-! ### Open chains -/

/-- The chain of the deletion is prepared, and neither aborted nor completed. -/
def OpenChain (ledger : List LedgerEvent) (deletionId : String) : Prop :=
  (∃ event ∈ chainOf ledger deletionId, event.phase = .prepared) ∧
    ∀ event ∈ chainOf ledger deletionId, event.phase ≠ .aborted ∧ event.phase ≠ .completed

instance (ledger : List LedgerEvent) (deletionId : String) :
    Decidable (OpenChain ledger deletionId) :=
  inferInstanceAs (Decidable (_ ∧ _))

section OpenChain

variable {ledger : List LedgerEvent} {deletionId : String} {event : LedgerEvent}

theorem mem_chainOf : event ∈ chainOf ledger deletionId ↔
    event ∈ ledger ∧ event.deletionId = deletionId := by
  simp [chainOf]

theorem OpenChain.ne_nil (h : OpenChain ledger deletionId) : chainOf ledger deletionId ≠ [] := by
  obtain ⟨⟨event, hmem, -⟩, -⟩ := h
  exact List.ne_nil_of_mem hmem

/-- The chain has no event that ends it. -/
theorem OpenChain.phase_ne (h : OpenChain ledger deletionId) (hev : event ∈ ledger)
    (hid : event.deletionId = deletionId) : event.phase ≠ .aborted ∧ event.phase ≠ .completed :=
  h.2 event (mem_chainOf.mpr ⟨hev, hid⟩)

/-- A chain that is open after an append was open before, or the append has prepared it. -/
theorem OpenChain.of_append (h : OpenChain (ledger ++ [event]) deletionId) :
    OpenChain ledger deletionId ∨ (event.deletionId = deletionId ∧ event.phase = .prepared) := by
  obtain ⟨⟨prepared, hprepd, hph⟩, hopen⟩ := h
  obtain ⟨hmem, hid⟩ := mem_chainOf.mp hprepd
  rcases List.mem_append.mp hmem with hold | hnew
  · refine .inl ⟨⟨prepared, mem_chainOf.mpr ⟨hold, hid⟩, hph⟩, fun other hoth => ?_⟩
    obtain ⟨hoth, hothId⟩ := mem_chainOf.mp hoth
    exact hopen other (mem_chainOf.mpr ⟨List.mem_append_left _ hoth, hothId⟩)
  · rw [List.mem_singleton] at hnew
    exact .inr ⟨hnew ▸ hid, hnew ▸ hph⟩

theorem OpenChain.of_appendEvent {receiptOf : LedgerArguments → Option String → String}
    {arguments : LedgerArguments} {ledger' : List LedgerEvent}
    (happend : appendEvent receiptOf ledger arguments = .ok (event, ledger'))
    (h : OpenChain ledger' deletionId) :
    OpenChain ledger deletionId ∨
      (arguments.deletionId = deletionId ∧ arguments.phase = .prepared) := by
  obtain ⟨hid, hph, ⟨rfl, -⟩ | ⟨rfl, -⟩⟩ := appendEvent_eq_ok happend
  · exact .inl h
  · rw [← hid, ← hph]
    exact h.of_append

end OpenChain

/-! ### The conditions -/

/-- A new intent finds the open preparations of its target recorded, and a new preparation is
made for an intent that has not been given up. -/
def ResolvesFirst (w : DeletionWorld) : DeletionOperation → Prop
  | .intend request => keyedIntent w.db request = none →
    ∀ target ∈ targetByResourceId w.db request.targetKind request.targetResourceId
        request.ownerUserId,
      ∀ e ∈ w.db.intents.entries, e.2.targetScopeId = target.deletionScopeId →
        OpenChain w.ledger e.1 → e.2.preparationReceipt.isSome = true
  | .prepare deletionId _ => chainOf w.ledger deletionId = [] →
    ∀ intent ∈ w.db.intents.get? deletionId, intent.state ≠ .invalidated
  | _ => True

instance (w : DeletionWorld) (operation : DeletionOperation) :
    Decidable (ResolvesFirst w operation) := by
  cases operation <;> unfold ResolvesFirst <;> infer_instance

/-- What keeps a new intent off the target of an open chain: the intent of the chain is there to
be found, or the target is not active. -/
def Accounted (db : Database) (intention : Intention) : Prop :=
  (db.intents.get? intention.deletionId).isSome = true ∨
    ¬ ActiveTarget db intention.kind intention.target.id

structure SingleChains (w : DeletionWorld) : Prop where
  pending : ∀ id id' intent intent', w.db.intents.get? id = some intent →
    w.db.intents.get? id' = some intent' → intent.targetScopeId = intent'.targetScopeId →
    intent.state ≠ .invalidated → intent'.state ≠ .invalidated → id = id'
  accounted : ∀ intention ∈ w.intentions, OpenChain w.ledger intention.deletionId →
    Accounted w.db intention
  alone : ∀ id intent, w.db.intents.get? id = some intent → intent.state ≠ .invalidated →
    ∀ intention ∈ w.intentions, intention.target.deletionScopeId = intent.targetScopeId →
      OpenChain w.ledger intention.deletionId → intention.deletionId = id
  single : ∀ intention ∈ w.intentions, ∀ intention' ∈ w.intentions,
    intention.target.deletionScopeId = intention'.target.deletionScopeId →
    OpenChain w.ledger intention.deletionId → OpenChain w.ledger intention'.deletionId →
    intention.deletionId = intention'.deletionId
  acknowledged : ∀ id receipt, w.db.ledgerReceipts.get? id = some receipt →
    ∃ event ∈ w.ledger, event.deletionId = receipt.deletionId ∧ event.phase = receipt.phase

section Steps

variable {keys : DeletionKeys} {retryDelay : String → ℕ → ℤ} {w w' : DeletionWorld}
  {db db' : Database} {deletionId : String} {receipts : Dict String DeletionLedgerReceiptRecord}
  {events : List LedgerEvent} {prepared : LedgerEvent} {now : ℤ} {lease : JobLease}
  {intention : Intention} {receiptId : String} {completed : LedgerEvent}
  {receipts' : Dict String DeletionLedgerReceiptRecord} {event : LedgerEvent}
  {request : IntentRequest} {target : DeletionTarget} {ledger' : List LedgerEvent}

theorem NoDeletions.singleChains (h : NoDeletions w) : SingleChains w where
  pending := by simp [h.intents]
  accounted := by simp [h.intentions]
  alone := by simp [h.intents]
  single := by simp [h.intentions]
  acknowledged := by simp [h.ledgerReceipts]

/-- The invariant is about the database, the ledger and what intents were made for. -/
theorem SingleChains.congr (h : SingleChains w) (hdb : w'.db = w.db)
    (hledger : w'.ledger = w.ledger) (hintns : w'.intentions = w.intentions) :
    SingleChains w' := by
  obtain ⟨hpend, haccd, halone, hsingle, hackd⟩ := h
  constructor
  · rw [hdb]
    exact hpend
  · rw [hdb, hledger, hintns]
    exact haccd
  · rw [hdb, hledger, hintns]
    exact halone
  · rw [hledger, hintns]
    exact hsingle
  · rw [hdb, hledger]
    exact hackd

/-! ### Steps that open no chain -/

/-- An intent stays about its target, and one that is given up stays so. -/
def KeepsGivenUp (db db' : Database) : Prop :=
  ∀ id intent', db'.intents.get? id = some intent' → ∃ intent, db.intents.get? id = some intent ∧
    intent'.targetScopeId = intent.targetScopeId ∧
    (intent.state = .invalidated → intent'.state = .invalidated)

theorem DeletionsEvolve.keepsGivenUp (h : DeletionsEvolve db db') :
    KeepsGivenUp db db' := by
  intro id intent' hg
  obtain ⟨intent, hold, hs⟩ := h.intents id intent' hg
  exact ⟨intent, hold, hs.targetScopeId, hs.invalidated⟩

theorem SingleChains.evolve (h : SingleChains w) (hintns : w'.intentions = w.intentions)
    (hopen : ∀ id, OpenChain w'.ledger id → OpenChain w.ledger id)
    (hints : KeepsGivenUp w.db w'.db)
    (haccd : ∀ intention ∈ w.intentions, OpenChain w'.ledger intention.deletionId →
      Accounted w.db intention → Accounted w'.db intention)
    (hackd : ∀ id receipt, w'.db.ledgerReceipts.get? id = some receipt →
      ∃ event ∈ w'.ledger, event.deletionId = receipt.deletionId ∧ event.phase = receipt.phase) :
    SingleChains w' where
  pending id id' intent intent' hg hg' hsc hst hst' := by
    obtain ⟨before, hpre, hkeep, hinv⟩ := hints id intent hg
    obtain ⟨before', hpre', hkeep', hinv'⟩ := hints id' intent' hg'
    rw [hkeep, hkeep'] at hsc
    exact h.pending id id' before before' hpre hpre' hsc
      (fun heq => hst (hinv heq)) fun heq => hst' (hinv' heq)
  accounted intention hmem hch := by
    rw [hintns] at hmem
    exact haccd intention hmem hch (h.accounted intention hmem (hopen _ hch))
  alone id intent hg hst intention hmem hsc hch := by
    obtain ⟨before, hpre, hkeep, hinv⟩ := hints id intent hg
    rw [hintns] at hmem
    exact h.alone id before hpre (fun heq => hst (hinv heq)) intention hmem
      (hsc.trans hkeep) (hopen _ hch)
  single intention hmem intention' hmem' hsc hch hch' := by
    rw [hintns] at hmem hmem'
    exact h.single intention hmem intention' hmem' hsc (hopen _ hch) (hopen _ hch')
  acknowledged := hackd

theorem SingleChains.acknowledges (h : SingleChains w)
    (hack : Acknowledges w.db.ledgerReceipts receipts w.ledger) (id : String)
    (receipt : DeletionLedgerReceiptRecord) (hg : receipts.get? id = some receipt) :
    ∃ event ∈ w.ledger, event.deletionId = receipt.deletionId ∧ event.phase = receipt.phase := by
  rcases hack id receipt hg with hold | ⟨event, hmem, hid, hph⟩
  · exact h.acknowledged id receipt hold
  · exact ⟨event, hmem, hid.symm, hph.symm⟩

/-- A transaction that keeps the intents and acknowledges what is in the ledger. -/
theorem SingleChains.of_kept (h : SingleChains w) (hints : KeepsGivenUp w.db db')
    (hkept : ∀ id, (w.db.intents.get? id).isSome = true → (db'.intents.get? id).isSome = true)
    (htgts : ∀ intention ∈ w.intentions, ActiveTarget db' intention.kind intention.target.id →
      ActiveTarget w.db intention.kind intention.target.id)
    (hack : Acknowledges w.db.ledgerReceipts db'.ledgerReceipts w.ledger) :
    SingleChains (w.commit db') := by
  refine h.evolve rfl (fun _ hch => hch) hints (fun intention hmem _ haccd => ?_)
    (h.acknowledges hack)
  exact haccd.imp (hkept _) fun hina hact => hina (htgts intention hmem hact)

theorem SingleChains.of_intents (h : SingleChains w) (hints : db'.intents = w.db.intents)
    (htgts : ∀ intention ∈ w.intentions, ActiveTarget db' intention.kind intention.target.id →
      ActiveTarget w.db intention.kind intention.target.id)
    (hack : Acknowledges w.db.ledgerReceipts db'.ledgerReceipts w.ledger) :
    SingleChains (w.commit db') :=
  h.of_kept (fun _ intent hg => ⟨intent, hints ▸ hg, rfl, fun heq => heq⟩)
    (fun _ hsome => hints ▸ hsome) htgts hack

theorem Acknowledges.of_eq (h : receipts' = receipts) : Acknowledges receipts receipts' events :=
  fun _ _ hg => .inl (h ▸ hg)

theorem Acknowledges.of_ledger (h : Acknowledges receipts receipts' events)
    (hevents : ∀ event ∈ events, event ∈ w.ledger) : Acknowledges receipts receipts' w.ledger :=
  fun id receipt hg => (h id receipt hg).imp_right fun ⟨event, hmem, hev⟩ =>
    ⟨event, hevents event hmem, hev⟩

/-- Nothing is acknowledged either. -/
theorem SingleChains.of_same (h : SingleChains w) (hints : db'.intents = w.db.intents)
    (htgts : ∀ intention ∈ w.intentions, ActiveTarget db' intention.kind intention.target.id →
      ActiveTarget w.db intention.kind intention.target.id)
    (hrcp : db'.ledgerReceipts = w.db.ledgerReceipts) : SingleChains (w.commit db') :=
  h.of_intents hints htgts (.of_eq hrcp)

theorem Acknowledges.deleteWhere (h : Acknowledges receipts receipts' events)
    (p : String → DeletionLedgerReceiptRecord → Bool) :
    Acknowledges receipts (receipts'.deleteWhere p) events :=
  fun id receipt hg => h id receipt (get?_of_deleteWhere hg)

/-- An intent goes with a chain that is not open. -/
theorem SingleChains.remove (h : SingleChains w)
    (hints : db'.intents = w.db.intents.deleteWhere fun id _ => id = deletionId)
    (hevo : DeletionsEvolve w.db db') (hclosed : ¬ OpenChain w.ledger deletionId)
    (hack : Acknowledges w.db.ledgerReceipts db'.ledgerReceipts w.ledger) :
    SingleChains (w.commit db') := by
  refine h.evolve rfl (fun _ hch => hch) hevo.keepsGivenUp
    (fun intention hmem hch haccd => haccd.imp (fun hsome => ?_)
      fun hina hact => hina (hevo.targets.activeTarget hact)) (h.acknowledges hack)
  have hoth : intention.deletionId ≠ deletionId := by
    intro heq
    exact hclosed (heq ▸ hch)
  show (db'.intents.get? intention.deletionId).isSome = true
  obtain ⟨intent, hg⟩ := Option.isSome_iff_exists.mp hsome
  rw [hints]
  exact isSome_deleteWhere hg (by simpa using hoth)

/-- An intent that has not been given up moves on. -/
theorem KeepsGivenUp.of_modify {intent : DeletionIntentRecord}
    {f : DeletionIntentRecord → DeletionIntentRecord}
    (hint : db.intents.get? deletionId = some intent) (hst : intent.state ≠ .invalidated)
    (hints : db'.intents = db.intents.modify deletionId f)
    (hsc : (f intent).targetScopeId = intent.targetScopeId) : KeepsGivenUp db db' := by
  intro id intent' hg
  rw [hints] at hg
  obtain ⟨before, hold, ⟨rfl, rfl⟩ | ⟨-, rfl⟩⟩ := get?_of_modify hg
  · rw [hint] at hold
    cases hold
    exact ⟨intent, hint, hsc, fun heq => absurd heq hst⟩
  · exact ⟨intent', hold, rfl, fun heq => heq⟩

/-! ### The transactions -/

theorem validateControlEvent_eq_ok {control : DeletionControlOperationRecord} {phase : LedgerPhase}
    {u : Unit} (h : validateControlEvent event deletionId control phase = .ok u) :
    event.phase = phase ∧ event.deletionId = deletionId ∧ event.identity = control.identity := by
  rw [validateControlEvent, failIf_eq_ok] at h
  push Not at h
  exact h

section Recorded

variable (h : SingleChains w)

include h

theorem singleChains_recordPrepared (hev : prepared ∈ w.ledger)
    (hok : recordPrepared keys w.db prepared receiptId = .ok ((), db')) :
    SingleChains (w.commit db') := by
  have hevo := recordPrepared_evolve hok
  obtain ⟨intent, ledgerReceipts, receipts, -, -, hack, rfl⟩ := recordPrepared_eq_ok hok
  refine h.of_kept hevo.keepsGivenUp (fun id hsome => ?_) (fun _ _ hact => hact)
    (hack.of_ledger (by simpa using hev))
  split
  · exact isSome_modify hsome
  · exact hsome

theorem singleChains_fence (hev : prepared ∈ w.ledger)
    (hok : fencePrepared keys w.db prepared receiptId now = .ok ((), db')) :
    SingleChains (w.commit db') := by
  obtain ⟨intent, hint, -, hack, ⟨control, ledgerReceipts, -, -, rfl⟩ |
    ⟨target, user, -, -, -, hfable, hfcd⟩⟩ := fencePrepared_eq_ok hok
  · exact h.of_intents rfl (fun _ _ hact => hact) (hack.of_ledger (by simpa using hev))
  · obtain ⟨-, -, -, hst⟩ := fenceable_eq_true hfable
    refine h.of_kept (.of_modify hint hst hfcd.intents rfl) (fun id hsome => ?_)
      (fun _ _ hact => hfcd.targetsEvolve.activeTarget hact) (hack.of_ledger (by simpa using hev))
    rw [hfcd.intents]
    exact isSome_modify hsome

/-- An intent that is given up stays, so that a preparation that was recorded is still known. -/
theorem singleChains_proveNoncommit
    (hok : proveNoncommit keys w.db w.ledger deletionId now = .ok (prepared, db')) :
    SingleChains (w.commit db') := by
  have hevo := proveNoncommit_evolve hok
  obtain ⟨intent, -, -, -, -, -, -, -, rfl⟩ := proveNoncommit_eq_ok hok
  exact h.of_kept hevo.keepsGivenUp (fun _ hsome => isSome_modify hsome) (fun _ _ hact => hact)
    (.of_eq rfl)

theorem singleChains_expire
    (hok : expireDeletionIntent w.db w.ledger deletionId now = .ok ((), db')) :
    SingleChains (w.commit db') := by
  have hevo := expireDeletionIntent_evolve hok
  obtain rfl | ⟨intent, -, -, hch, rfl⟩ := expireDeletionIntent_eq_ok hok
  · exact h
  · exact h.remove rfl hevo (fun hopen => hopen.ne_nil hch) (.of_eq rfl)

end Recorded

/-- A completed chain is not open. -/
theorem not_openChain_of_completed {ledger : List LedgerEvent} (hmem : completed ∈ ledger)
    (hid : completed.deletionId = deletionId) (hph : completed.phase = .completed) :
    ¬ OpenChain ledger deletionId :=
  fun hopen => (hopen.phase_ne hmem hid).2 hph

theorem singleChains_subsume {requested : LedgerEvent} {requestedId completedId : String}
    (h : SingleChains w) (hreqd : requested ∈ w.ledger)
    (hcomp : completed ∈ w.ledger)
    (hok : completeSubsumed keys w.db deletionId requested completed requestedId completedId now
      = .ok ((), db')) : SingleChains (w.commit db') := by
  have hevo := completeSubsumed_evolve hok
  obtain rfl | ⟨control, ledgerReceipts, tombstones, -, -, hv, hack, rfl⟩ :=
    completeSubsumed_eq_ok hok
  · exact h
  · obtain ⟨hph, hid, -⟩ := validateControlEvent_eq_ok hv
    refine h.remove rfl hevo (not_openChain_of_completed hcomp hid hph)
      ((hack.deleteWhere _).of_ledger ?_)
    intro event hmem
    simp only [List.mem_cons, List.not_mem_nil, or_false] at hmem
    rcases hmem with rfl | rfl
    · exact hreqd
    · exact hcomp

@[simp] theorem deleteTarget_intents (kind : TargetKind) (target : DeletionTarget) :
    (deleteTarget db kind target).intents = db.intents := by
  cases kind <;> rfl

@[simp] theorem deleteTarget_ledgerReceipts (kind : TargetKind) (target : DeletionTarget) :
    (deleteTarget db kind target).ledgerReceipts = db.ledgerReceipts := by
  cases kind <;> rfl

theorem singleChains_complete (h : SingleChains w) (hcomp : completed ∈ w.ledger)
    (hok : complete keys w.db lease completed receiptId now = .ok ((), db')) :
    SingleChains (w.commit db') := by
  have hevo := complete_evolve hok
  obtain ⟨scope, ledgerReceipts, tombstones, -, hv, hack, rfl⟩ := complete_eq_ok hok
  obtain ⟨hph, hid, -⟩ := validateControlEvent_eq_ok hv
  refine h.remove (by rw [deleteTarget_intents]; rfl) hevo
    (not_openChain_of_completed hcomp hid hph) ?_
  rw [deleteTarget_ledgerReceipts]
  exact (hack.deleteWhere _).of_ledger (by simpa using hcomp)

/-! ### The sweep of an account -/

/-- The rows of a swept account are gone, and the account itself is being deleted. -/
theorem not_activeTarget_of_swept (hprot : Protocol w) {scope : SweepScope}
    (hsc : lockedControl w.db lease .sweep now = .ok scope)
    (hacc : scope.control.targetKind = .account) (hmem : intention ∈ w.intentions)
    (ho : intention.target.ownerUserId = scope.target.ownerUserId) :
    ¬ ActiveTarget (sweepOwnerRows w.db scope.target.ownerUserId lease.jobId) intention.kind
      intention.target.id := by
  intro hact
  obtain ⟨target, hrow, hid, hact⟩ := activeTarget_iff.mp hact
  obtain ⟨before, hpre, hs⟩ := (sweepOwnerRows_evolve _ _).targets _ target hrow
  rw [← hs.active hact] at hpre
  obtain ⟨-, hsame⟩ := hprot.rows intention hmem _ target hpre (.inl ⟨rfl, hid⟩)
  have htargetOwner := hsame.ownerUserId.trans ho
  cases hk : intention.kind with
  | account =>
    -- the swept account itself, which is `DELETING`
    rw [hk] at hpre
    obtain ⟨-, htgt, -, job, -, hswb⟩ := lockedControl_eq_ok hsc
    obtain ⟨-, hscopeRow⟩ := targetByScope_eq_some htgt
    rw [hacc] at hscopeRow
    obtain ⟨user, -, htargetUser⟩ := id hpre
    obtain ⟨scopeUser, -, hscopeUser⟩ := id hscopeRow
    have hsameId : target.id = scope.target.id := by
      have howner₁ : target.ownerUserId = target.id := by rw [htargetUser]; rfl
      have howner₂ : scope.target.ownerUserId = scope.target.id := by rw [hscopeUser]; rfl
      rw [← howner₁, htargetOwner, howner₂]
    rw [hscopeRow.eq_of_id hpre hsameId] at hact
    simp only [sweepable, Bool.and_eq_true, decide_eq_true_eq] at hswb
    rw [hswb.1.1.1.2] at hact
    cases hact
  | importing =>
    rw [hk] at hrow
    obtain ⟨record, hrec, htgt⟩ := hrow
    have hg : (w.db.imports.deleteWhere fun _ row =>
      row.ownerUserId = scope.target.ownerUserId).get? target.id = some record := hrec
    rw [get?_deleteWhere, Option.filter_eq_some_iff] at hg
    have hrecordOwner : record.ownerUserId = scope.target.ownerUserId := by
      rw [← htargetOwner, htgt]
      rfl
    simp [hrecordOwner] at hg
  | profile =>
    rw [hk] at hrow
    obtain ⟨profile, hpf, htgt⟩ := hrow
    have hg : (w.db.profiles.deleteWhere fun _ row =>
      row.ownerUserId = scope.target.ownerUserId).get? target.id = some profile := hpf
    rw [get?_deleteWhere, Option.filter_eq_some_iff] at hg
    have hpfO : profile.ownerUserId = scope.target.ownerUserId := by
      rw [← htargetOwner, htgt]
      rfl
    simp [hpfO] at hg

section Single

variable (h : SingleChains w)

include h

theorem singleChains_sweep (hprot : Protocol w) (hok : sweepRows w.db lease now = .ok ((), db')) :
    SingleChains (w.commit db') := by
  have hevo := sweepRows_evolve hok
  obtain ⟨scope, receipts, hsc, rfl⟩ := sweepRows_eq_ok hok
  by_cases hacc : scope.control.targetKind = .account
  · rw [if_pos hacc] at hevo ⊢
    refine h.evolve rfl (fun _ hch => hch) hevo.keepsGivenUp
      (fun intention hmem hch haccd => ?_) h.acknowledged
    by_cases ho : intention.target.ownerUserId = scope.target.ownerUserId
    · -- the target goes with the account
      refine .inr fun hact => ?_
      refine not_activeTarget_of_swept hprot hsc hacc hmem ho ?_
      exact (activeTarget_congr rfl rfl rfl _ _).mp hact
    · -- the intent of another owner stays
      refine haccd.imp (fun hsome => ?_) fun hina hact => hina (hevo.targets.activeTarget hact)
      obtain ⟨intent, hg⟩ := Option.isSome_iff_exists.mp hsome
      obtain ⟨other, hoth, hothId, -, -, hintO⟩ := hprot.intents _ intent hg
      rw [hprot.unique other hoth intention hmem hothId] at hintO
      rw [hintO] at ho
      show ((w.db.intents.deleteWhere fun _ row =>
        row.ownerUserId = scope.target.ownerUserId).get? intention.deletionId).isSome = true
      exact isSome_deleteWhere hg (by simpa using ho)
  · rw [if_neg hacc] at hevo ⊢
    exact h.of_same rfl (fun _ _ hact => hact) rfl

theorem singleChains_verify {objectsOrRowsLeft verified : Bool}
    (hok : verifyRows w.db lease objectsOrRowsLeft now = .ok (verified, db')) :
    SingleChains (w.commit db') := by
  have hevo := verifyRows_evolve hok
  have hsame : db'.intents = w.db.intents ∧ db'.ledgerReceipts = w.db.ledgerReceipts := by
    obtain ⟨scope, receipts, -, ⟨-, rfl⟩ | ⟨-, rfl⟩⟩ := verifyRows_eq_ok hok
    · exact ⟨rfl, rfl⟩
    · split <;> exact ⟨rfl, rfl⟩
  exact h.of_same hsame.1 (fun _ _ hact => hevo.targets.activeTarget hact) hsame.2

/-! ### A new intent -/

theorem singleChains_clear {cleared : Database} {scopeId : String}
    (hclr : clearActiveIntent w.db scopeId now = .ok cleared) :
    SingleChains (w.commit cleared) := by
  have hevo := clearActiveIntent_evolve hclr
  obtain rfl | ⟨activeId, active, -, -, -, rfl⟩ := clearActiveIntent_eq_ok hclr
  · exact h
  · exact h.of_kept hevo.keepsGivenUp (fun _ hsome => isSome_modify hsome)
      (fun _ _ hact => hact) (.of_eq rfl)

/-- **No chain is open on a target that an intent is inserted for**: its preparation would be
recorded, and found unless it is settled. -/
theorem SingleChains.not_open_of_insert (hprot : Protocol w)
    (hrow : TargetRow w.db target request.targetKind) (hact : target.lifecycleState = .active)
    (hunres : hasUnresolvedPreparation w.db target.deletionScopeId = false)
    (hrcd : ∀ id intent, w.db.intents.get? id = some intent →
      intent.targetScopeId = target.deletionScopeId → OpenChain w.ledger id →
      intent.preparationReceipt.isSome = true)
    (hmem : intention ∈ w.intentions)
    (hsc : intention.target.deletionScopeId = target.deletionScopeId) :
    ¬ OpenChain w.ledger intention.deletionId := by
  intro hch
  have hactive : ActiveTarget w.db intention.kind intention.target.id := by
    obtain ⟨hk, hsame⟩ := hprot.rows intention hmem _ target hrow (.inr hsc.symm)
    rw [← hk, ← hsame.id]
    exact activeTarget_iff.mpr ⟨target, hrow, rfl, hact⟩
  obtain ⟨intent, hg⟩ := Option.isSome_iff_exists.mp
    ((h.accounted intention hmem hch).resolve_right (not_not.mpr hactive))
  have habout : intent.targetScopeId = target.deletionScopeId := by
    obtain ⟨other, hoth, hid, -, hothS, -⟩ := hprot.intents _ intent hg
    rw [hprot.unique other hoth intention hmem hid] at hothS
    exact hothS.symm.trans hsc
  have hfree := has_eq_false.mp hunres _ intent (get?_eq_some.mp hg)
  rw [habout, hrcd _ intent hg habout hch] at hfree
  simp only [decide_true, Bool.true_and, Bool.and_true, Bool.not_eq_false'] at hfree
  obtain ⟨id, receipt, hreceipt, hsettles⟩ := has_eq_true.mp hfree
  simp only [Bool.and_eq_true, Bool.or_eq_true, decide_eq_true_eq] at hsettles
  obtain ⟨hid, hph⟩ := hsettles
  obtain ⟨event, hev, heventId, heventPh⟩ := h.acknowledged id receipt (get?_eq_some.mpr hreceipt)
  rw [hid] at heventId
  rw [← heventPh] at hph
  rcases hph with hreqd | habtd
  · -- the target of a requested deletion is fenced
    obtain ⟨fenced, hfcd, hsame, hina⟩ :=
      hprot.fenced _ (hprot.committed _ (.inl (.inl ⟨event, hev, heventId, hreqd⟩)))
    rw [hprot.unique fenced hfcd intention hmem hsame] at hina
    exact hina hactive
  · exact (hch.phase_ne hev heventId).1 habtd

theorem SingleChains.insert (hprot : Protocol w) {receiptVerifier : String}
    (hfr : request.deletionId ∉ w.drawn) (hrow : TargetRow w.db target request.targetKind)
    (hact : target.lifecycleState = .active)
    (hunres : hasUnresolvedPreparation w.db target.deletionScopeId = false)
    (hrcd : ∀ id intent, w.db.intents.get? id = some intent →
      intent.targetScopeId = target.deletionScopeId → OpenChain w.ledger id →
      intent.preparationReceipt.isSome = true)
    (hins : insertIntent w.db request.deletionId (newIntent keys request target)
      receiptVerifier now = .ok db') :
    SingleChains { w with
      db := db'
      drawn := request.deletionId :: w.drawn
      intentions := ⟨request.deletionId, request.targetKind, target⟩ :: w.intentions } := by
  obtain ⟨hothers, -, -, rfl⟩ := insertIntent_eq_ok hins
  have hclosed : ∀ intention ∈ w.intentions,
      intention.target.deletionScopeId = target.deletionScopeId →
      ¬ OpenChain w.ledger intention.deletionId := fun intention hmem hsc =>
    h.not_open_of_insert hprot hrow hact hunres hrcd hmem hsc
  -- the new deletion has no chain yet
  have hnone : ¬ OpenChain w.ledger request.deletionId := by
    rintro ⟨⟨event, hev, -⟩, -⟩
    obtain ⟨hev, hid⟩ := mem_chainOf.mp hev
    obtain ⟨intention, hmem, hintn⟩ := hprot.announced _ event.phase
      (.inl ⟨event, hev, hid, rfl⟩)
    exact hfr (hintn ▸ (hprot.intended intention hmem).1)
  -- so an open chain is one of the deletions before
  have hpre : ∀ {intention}, intention ∈ (⟨request.deletionId, request.targetKind, target⟩ ::
      w.intentions : List Intention) → OpenChain w.ledger intention.deletionId →
      intention ∈ w.intentions := by
    intro intention hmem hch
    rcases List.mem_cons.mp hmem with rfl | hmem
    · exact absurd hch hnone
    · exact hmem
  refine ⟨?_, fun intention hmem hch => ?_, ?_, ?_, h.acknowledged⟩
  · intro id id' intent intent' hg hg' hsc hst hst'
    rcases get?_of_set hg with ⟨rfl, rfl⟩ | ⟨-, hold⟩
    · rcases get?_of_set hg' with ⟨rfl, -⟩ | ⟨-, hold'⟩
      · rfl
      · exact absurd (hothers id' intent' hold' hsc.symm) hst'
    · rcases get?_of_set hg' with ⟨rfl, rfl⟩ | ⟨-, hold'⟩
      · exact absurd (hothers id intent hold hsc) hst
      · exact h.pending id id' intent intent' hold hold' hsc hst hst'
  · exact (h.accounted intention (hpre hmem hch) hch).imp_left fun hsome => isSome_set hsome
  · intro id intent hg hst intention hmem hsc hch
    rcases get?_of_set hg with ⟨rfl, rfl⟩ | ⟨-, hold⟩
    · exact absurd hch (hclosed intention (hpre hmem hch) hsc)
    · exact h.alone id intent hold hst intention (hpre hmem hch) hsc hch
  · intro intention hmem intention' hmem' hsc hch hch'
    exact h.single intention (hpre hmem hch) intention' (hpre hmem' hch') hsc hch
      hch'

/-- First the target is cleared of an intent that has run out, then the new one comes in. -/
theorem singleChains_intend {view : DeletionIntentView} (hprot : Protocol w)
    (hresolves : ResolvesFirst w (.intend request)) (hfr : request.deletionId ∉ w.drawn)
    (htgt : targetByResourceId w.db request.targetKind request.targetResourceId
      request.ownerUserId = some target) (hok : createIntent keys w.db request = .ok (view, db')) :
    SingleChains { w with
      db := db'
      drawn := request.deletionId :: w.drawn
      intentions := if view.repeated then w.intentions
        else ⟨request.deletionId, request.targetKind, target⟩ :: w.intentions } := by
  rcases createIntent_eq_ok hok with ⟨hrep, rfl⟩ |
    ⟨found, cleared, hrep, hnew, -, hfnd, hact, hclr, hunres, hins⟩
  · rw [if_pos hrep]
    exact h.congr rfl rfl rfl
  · rw [if_neg (by simp [hrep])]
    rw [htgt] at hfnd
    cases hfnd
    have hprot' : Protocol (w.commit cleared) :=
      hprot.evolve (clearActiveIntent_evolve hclr) (.refl _)
    refine (singleChains_clear h hclr).insert hprot' hfr
      (clearActiveIntent_targetRow hclr (targetByResourceId_eq_some htgt).2.2) hact
      hunres (fun id intent hg => ?_) hins
    -- what was recorded stays recorded
    obtain ⟨before, hold, hsc, hsame⟩ := clearActiveIntent_intents hclr hg
    rw [hsc, hsame]
    exact hresolves hnew target htgt (id, before) (get?_eq_some.mp hold)

/-! ### Appends -/

theorem singleChains_append {arguments : LedgerArguments} (hph : arguments.phase ≠ .prepared)
    (hok : appendEvent keys.receiptOf w.ledger arguments = .ok (event, ledger')) :
    SingleChains { w with ledger := ledger' } := by
  refine h.evolve rfl (fun id hch => ?_)
    (fun id intent hg => ⟨intent, hg, rfl, fun heq => heq⟩)
    (fun _ _ _ haccd => haccd) fun id receipt hg => ?_
  · rcases hch.of_appendEvent hok with hold | ⟨-, hprepd⟩
    · exact hold
    · exact absurd hprepd hph
  · obtain ⟨acknowledged, hmem, hev⟩ := h.acknowledged id receipt hg
    exact ⟨acknowledged, (appendEvent_extends hok).subset hmem, hev⟩

/-- The chain that a preparation opens is the only one on its target. -/
theorem singleChains_prepare (hprot : Protocol w)
    (hresolves : ResolvesFirst w (.prepare deletionId now))
    (hok : preparedAppend keys w.db w.ledger deletionId now = .ok (prepared, ledger')) :
    SingleChains { w with ledger := ledger' } := by
  obtain ⟨intent, hint, ⟨rfl, -⟩ | ⟨identity, hnone, -, happend⟩⟩ := preparedAppend_eq_ok hok
  · exact h
  · have hst : intent.state ≠ .invalidated := hresolves hnone intent hint
    have hopen : ∀ id, OpenChain ledger' id → OpenChain w.ledger id ∨ id = deletionId := by
      intro id hch
      rcases hch.of_appendEvent happend with hold | ⟨hid, -⟩
      · exact .inl hold
      · exact .inr hid.symm
    have hsc : ∀ intention ∈ w.intentions, intention.deletionId = deletionId →
        intention.target.deletionScopeId = intent.targetScopeId := by
      intro intention hmem hid
      obtain ⟨other, hoth, hothId, -, hothS, -⟩ := hprot.intents _ intent hint
      rw [hprot.unique intention hmem other hoth (hid.trans hothId.symm)]
      exact hothS
    -- the intent is pending: every other open chain of its target would be its own
    refine ⟨h.pending, ?_, ?_, ?_, ?_⟩
    · intro intention hmem hch
      rcases hopen _ hch with hold | hid
      · exact h.accounted intention hmem hold
      · exact .inl (by rw [hid, hint]; rfl)
    · intro id other hg hoth intention hmem hsame hch
      rcases hopen _ hch with hold | hid
      · exact h.alone id other hg hoth intention hmem hsame hold
      · rw [hid]
        exact h.pending deletionId id intent other hint hg
          ((hsc intention hmem hid).symm.trans hsame) hst hoth
    · intro intention hmem intention' hmem' hsame hch hch'
      rcases hopen _ hch with hold | hid
      · rcases hopen _ hch' with hold' | hid'
        · exact h.single intention hmem intention' hmem' hsame hold hold'
        · rw [hid']
          exact h.alone deletionId intent hint hst intention hmem
            (hsame.trans (hsc intention' hmem' hid')) hold
      · rcases hopen _ hch' with hold' | hid'
        · rw [hid]
          exact (h.alone deletionId intent hint hst intention' hmem'
            (hsame.symm.trans (hsc intention hmem hid)) hold').symm
        · rw [hid, hid']
    · intro id receipt hg
      obtain ⟨acknowledged, hmem, hev⟩ := h.acknowledged id receipt hg
      exact ⟨acknowledged, (appendEvent_extends happend).subset hmem, hev⟩

/-- A transaction that is not about deletions. -/
theorem singleChains_ordinary {drawn' : List String} (hprot : Protocol w)
    (hchg : OrdinaryChange w db' drawn') :
    SingleChains (w.commit db') := by
  refine h.of_same hchg.intents (fun intention hmem hact => ?_)
    hchg.ledgerReceipts
  obtain ⟨target, hrow, hid, hact⟩ := activeTarget_iff.mp hact
  refine activeTarget_iff.mpr ⟨target, hchg.targets hrow (.inl ?_), hid, hact⟩
  exact hid ▸ (hprot.intended intention hmem).2.1

/-- **Steps that resolve first keep the chains of each target single.** -/
theorem DeletionStep.singleChains {operation : DeletionOperation} (hprot : Protocol w)
    (hresolves : ResolvesFirst w operation) (hs : DeletionStep keys retryDelay w operation w') :
    SingleChains w' := by
  cases hs with
  | intend hfr htgt hok => exact singleChains_intend h hprot hresolves hfr htgt hok
  | prepare hok => exact singleChains_prepare h hprot hresolves hok
  | recordPrepared hev hok => exact singleChains_recordPrepared h hev hok
  | fence hev hok => exact (singleChains_fence h hev hok).congr rfl rfl rfl
  | recordRequested hev _ hok =>
    have hevo := recordRequested_evolve hok
    obtain ⟨control, target, -, -, -, -, hack, hcases⟩ := recordRequested_eq_ok hok
    refine (h.of_intents ?_ (fun _ _ hact => hevo.targets.activeTarget hact)
      (hack.of_ledger (by simpa using hev))).congr rfl rfl rfl
    rcases hcases with ⟨ledgerReceipts, -, -, rfl⟩ | ⟨-, hstd⟩
    · rfl
    · exact hstd.intents
  | proveNoncommit hok => exact singleChains_proveNoncommit h hok
  | recordAborted hev _ hok =>
    obtain ⟨ledgerReceipts, receipts, hack, rfl⟩ := recordAborted_eq_ok hok
    exact h.of_intents rfl (fun _ _ hact => hact)
      (hack.of_ledger (by simpa using hev))
  | expire hok => exact singleChains_expire h hok
  | append hdecided hok => exact singleChains_append h (hprot.decided _ hdecided) hok
  | drainOpen hok =>
    obtain ⟨fenceTargets, uploads, rfl⟩ := drainOpen_eq_ok hok
    exact h.of_same rfl (fun _ _ hact => hact) rfl
  | drainUpload => exact h.of_same rfl (fun _ _ hact => hact) rfl
  | drainClose hok =>
    obtain ⟨-, rfl⟩ | ⟨-, scope, receipts, -, rfl⟩ := drainClose_eq_ok hok
    · exact h.congr rfl rfl rfl
    · exact h.of_same rfl (fun _ _ hact => hact) rfl
  | subsume _ _ hreqd hcomp hok =>
    exact singleChains_subsume h hreqd hcomp hok
  | sweep _ _ hok => exact singleChains_sweep h hprot hok
  | verify hok => exact singleChains_verify h hok
  | complete hev hok => exact (singleChains_complete h hev hok).congr rfl rfl rfl
  | @service service =>
    have hfrm := service.frame retryDelay w.db
    exact h.of_same (by rw [hfrm.rest])
      (fun _ _ hact => hfrm.evolve.targets.activeTarget hact) (by rw [hfrm.rest])
  | ordinary hchg => exact (singleChains_ordinary h hprot hchg).congr rfl rfl rfl
  | decideRequested _ | decideAborted _ _ | openSweep _ | inspect _ | decideSubsumed _ _ _ _
  | decideCompleted _ _ _ _ => exact h.congr rfl rfl rfl

end Single

end Steps

/-! ### Reached states -/

section Reached

variable {keys : DeletionKeys} {retryDelay : String → ℕ → ℤ} {w : DeletionWorld}

/-- **Along runs whose steps resolve first, a target has one open chain at most**, and every
chain of the ledger is one of a target. -/
theorem one_open_chain
    (h : ReachedBy NoDeletions (DeletionStep keys retryDelay) ResolvesFirst w) :
    (∀ event ∈ w.ledger, ∃ intention ∈ w.intentions,
      intention.deletionId = event.deletionId) ∧
    ∀ intention ∈ w.intentions, ∀ intention' ∈ w.intentions,
      intention.target.deletionScopeId = intention'.target.deletionScopeId →
      OpenChain w.ledger intention.deletionId → OpenChain w.ledger intention'.deletionId →
      intention.deletionId = intention'.deletionId := by
  have hboth : Protocol w ∧ SingleChains w := by
    refine h.invariant (I := fun w => Protocol w ∧ SingleChains w)
      (fun _ hstart => ⟨hstart.protocol, hstart.singleChains⟩) ?_
    rintro w operation w' ⟨hprotocol, hchains⟩ hresolves hstep
    exact ⟨hstep.protocol hprotocol, hstep.singleChains hchains hprotocol hresolves⟩
  refine ⟨fun event hevent => ?_, hboth.2.single⟩
  exact hboth.1.announced _ event.phase (.inl ⟨event, hevent, rfl, rfl⟩)

end Reached

namespace SmallStore

def importScope : String := "10000000000000000000000000000002"

def secondDeletion : String := "80000000000000000000000000000003"

/-- The first intent runs out without a preparation, and the second is prepared. -/
def replacedIntent : List DeletionOperation :=
  [.intend (intentOn .importing importId importDeletion 0),
    .intend (intentOn .importing importId secondDeletion 900000000),
    .prepare secondDeletion 900000000,
    .recordPrepared (preparedOn secondDeletion importScope 900000000)
      "90000000000000000000000000000002"]

/-- The first intent is prepared in the ledger, and the process stops before the database knows;
fifteen minutes later the owner asks again. -/
def unrecordedPreparation : List DeletionOperation :=
  [.intend (intentOn .importing importId importDeletion 0),
    .prepare importDeletion 0,
    .intend (intentOn .importing importId secondDeletion 900000000),
    .prepare secondDeletion 900000000]

end SmallStore

section

open SmallStore

/-- An intent that has run out is replaced, and the chain of the new one is the only open one. -/
theorem one_open_chain_replaced :
    ∃ w, ReachedBy NoDeletions (DeletionStep keys noDelay) ResolvesFirst w ∧
      OpenChain w.ledger secondDeletion ∧
      ∀ intention ∈ w.intentions,
        intention.target.deletionScopeId = importScope →
        OpenChain w.ledger intention.deletionId →
        intention.deletionId = secondDeletion := by
  obtain ⟨w, hreached, hchain, second, hsecond, hid, hsecondScope⟩ := reached_of_execute
    ResolvesFirst (P := fun w => OpenChain w.ledger secondDeletion ∧
      ∃ intention ∈ w.intentions, intention.deletionId = secondDeletion ∧
        intention.target.deletionScopeId = importScope) replacedIntent (by decide +kernel)
  refine ⟨w, hreached, hchain, fun intention hmem hscope hopen => ?_⟩
  have hsame := (one_open_chain hreached).2 intention hmem second hsecond
    (hscope.trans hsecondScope.symm) hopen (hid ▸ hchain)
  exact hsame.trans hid

/-- **A target has two open chains**: the guard of a new intent looks for recorded preparations
only, and gives up an intent whose preparation is in the ledger but not in the database. -/
theorem two_open_chains :
    ∃ w, ReachedBy NoDeletions (DeletionStep keys noDelay)
        (fun _ _ => True) w ∧
      ∃ first ∈ w.intentions, ∃ second ∈ w.intentions,
        first.deletionId = importDeletion ∧
        second.deletionId = secondDeletion ∧
        first.target.deletionScopeId = second.target.deletionScopeId ∧
        OpenChain w.ledger first.deletionId ∧ OpenChain w.ledger second.deletionId :=
  reached_of_execute _ unrecordedPreparation (by decide +kernel)

end

end RateReplay
