import RateReplay.Persistence.DeletionRuns
import RateReplay.Persistence.StoreFences

/-!
# The ledger and the fence

The ledger says what becomes of a deletion; the fence in the database decides it.  The two are
written by separate steps of processes that may stop at any point, and a reconciler resumes what
was left.  The invariant says what may be announced: a request or a completion only of a deletion
whose fence has committed, an abortion only of one whose intent can no longer be fenced.

## Main definitions

* `Announced` — a phase of a deletion is in the ledger, or a process is about to append it.
* `Protocol` — the invariant that ties both stores together.

## Main results

* `DeletionStep.protocol`, `protocol_of_reached` — **every step keeps the invariant.**
* `deletion_ledger_agrees` — **the ledger never contradicts the fence.**
-/

namespace RateReplay

variable {db : Database} {kind : TargetKind} {id : String}

open List

/-! ### The invariant -/

/-- The phase of a deletion is in the ledger, or a process has decided to append it. -/
def Announced (w : DeletionWorld) (deletionId : String) (phase : LedgerPhase) : Prop :=
  (∃ event ∈ w.ledger, event.deletionId = deletionId ∧ event.phase = phase) ∨
    ∃ arguments ∈ w.decided, arguments.deletionId = deletionId ∧ arguments.phase = phase

structure Protocol (w : DeletionWorld) : Prop where
  known : TargetsKnown w.db w.drawn
  intended : ∀ intention ∈ w.intentions, intention.deletionId ∈ w.drawn ∧
    intention.target.id ∈ w.drawn ∧ intention.target.deletionScopeId ∈ w.drawn
  unique : ∀ intention ∈ w.intentions, ∀ intention' ∈ w.intentions,
    intention.deletionId = intention'.deletionId → intention = intention'
  /-- The row of a target stays the row it was, by its identifier and by its scope. -/
  rows : ∀ intention ∈ w.intentions, ∀ kind target, TargetRow w.db target kind →
    (kind = intention.kind ∧ target.id = intention.target.id) ∨
      target.deletionScopeId = intention.target.deletionScopeId →
    kind = intention.kind ∧ SameTarget target intention.target
  intents : ∀ id intent, w.db.intents.get? id = some intent →
    ∃ intention ∈ w.intentions, intention.deletionId = id ∧ intention.kind = intent.targetKind ∧
      intention.target.deletionScopeId = intent.targetScopeId ∧
      intention.target.ownerUserId = intent.ownerUserId
  controls : ∀ id control, w.db.controls.get? id = some control → id ∈ w.fences ∧
    ∃ intention ∈ w.intentions, intention.deletionId = id ∧ intention.kind = control.targetKind ∧
      intention.target.deletionScopeId = control.targetScopeId
  consumed : ∀ id ∈ w.fences, ∀ intent, w.db.intents.get? id = some intent →
    intent.state = .consumed
  fenced : ∀ id ∈ w.fences, ∃ intention ∈ w.intentions, intention.deletionId = id ∧
    ¬ ActiveTarget w.db intention.kind intention.target.id
  announced : ∀ id phase, Announced w id phase → ∃ intention ∈ w.intentions,
    intention.deletionId = id
  committed : ∀ id, Announced w id .requested ∨ Announced w id .completed → id ∈ w.fences
  aborted : ∀ id, Announced w id .aborted → id ∉ w.fences ∧
    ∀ intent, w.db.intents.get? id = some intent → intent.state = .invalidated
  decided : ∀ arguments ∈ w.decided, arguments.phase ≠ .prepared
  inspected : ∀ entry ∈ w.inspected, ∀ id ∈ entry.2, id ∈ w.fences

theorem activeTarget_iff :
    ActiveTarget db kind id ↔
      ∃ target, TargetRow db target kind ∧ target.id = id ∧ target.lifecycleState = .active := by
  constructor
  · intro h
    cases kind with
    | account =>
      obtain ⟨user, huser, hact⟩ := h
      exact ⟨UserRecord.target id user, ⟨user, huser, rfl⟩, rfl, hact⟩
    | importing =>
      obtain ⟨record, hrec, hact⟩ := h
      exact ⟨ImportRecord.target id record, ⟨record, hrec, rfl⟩, rfl, hact⟩
    | profile =>
      obtain ⟨profile, hpf, hact⟩ := h
      exact ⟨ProfileVersionRecord.target id profile, ⟨profile, hpf, rfl⟩, rfl, hact⟩
  · rintro ⟨target, hrow, rfl, hact⟩
    cases kind <;>
    · obtain ⟨row, hrow, htgt⟩ := hrow
      rw [htgt] at hact
      exact ⟨row, hrow, hact⟩

theorem TargetsEvolve.activeTarget {db' : Database} (h : TargetsEvolve db db')
    (hact : ActiveTarget db' kind id) :
    ActiveTarget db kind id := by
  obtain ⟨target', hrow', hid, hact⟩ := activeTarget_iff.mp hact
  obtain ⟨target, hrow, hs⟩ := h kind target' hrow'
  rw [hs.active hact] at hid hact
  exact activeTarget_iff.mpr ⟨target, hrow, hid, hact⟩

section Steps

variable {keys : DeletionKeys} {retryDelay : String → ℕ → ℤ} {w w' : DeletionWorld} {db' : Database}
  {ledger' : List LedgerEvent} {now : ℤ} {prepared : LedgerEvent} {target : DeletionTarget}
  {drawn' : List String} {arguments : LedgerArguments} {event : LedgerEvent} {phase : LedgerPhase}
  {deletionId scopeId : String} {request : IntentRequest} {db : Database} {kind : TargetKind}

theorem NoDeletions.protocol (h : NoDeletions w) : Protocol w where
  known := h.known
  intended := by simp [h.intentions]
  unique := by simp [h.intentions]
  rows := by simp [h.intentions]
  intents := by simp [h.intents]
  controls := by simp [h.controls]
  consumed := by simp [h.fences]
  fenced := by simp [h.fences]
  announced := by simp [Announced, h.ledger, h.decided]
  committed := by simp [Announced, h.ledger, h.decided]
  aborted := by simp [Announced, h.ledger, h.decided]
  decided := by simp [h.decided]
  inspected := by simp [h.inspected]

/-- A transaction after which rows have moved on or are gone. -/
theorem Protocol.evolve (h : Protocol w) {opened' : List (JobLease × SweepScope)}
    {completions' : List String} (hevo : DeletionsEvolve w.db db')
    (hdr : w.drawn ⊆ drawn') :
    Protocol { w with
      db := db'
      drawn := drawn'
      opened := opened'
      completions := completions' } := { h with
  known := h.known.evolve hevo.targets hdr
  intended intention hmem := by
    obtain ⟨hid, htgt, hsc⟩ := h.intended intention hmem
    exact ⟨hdr hid, hdr htgt, hdr hsc⟩
  rows intention hmem kind target' hrow hsame := by
    obtain ⟨target, hrow, hs⟩ := hevo.targets kind target' hrow
    rw [hs.same.id, hs.same.deletionScopeId] at hsame
    obtain ⟨hk, htgt⟩ := h.rows intention hmem kind target hrow hsame
    exact ⟨hk, hs.same.trans htgt⟩
  intents id intent' hg := by
    obtain ⟨intent, hold, hs⟩ := hevo.intents id intent' hg
    rw [hs.targetKind, hs.targetScopeId, hs.ownerUserId]
    exact h.intents id intent hold
  controls id control' hg := by
    obtain ⟨control, hold, hk, hsc⟩ := hevo.controls id control' hg
    rw [hk, hsc]
    exact h.controls id control hold
  consumed id hmem intent' hg := by
    obtain ⟨intent, hold, hs⟩ := hevo.intents id intent' hg
    exact hs.consumed (h.consumed id hmem intent hold)
  fenced id hmem := by
    obtain ⟨intention, hintn, hid, hina⟩ := h.fenced id hmem
    exact ⟨intention, hintn, hid, fun hact =>
      hina (hevo.targets.activeTarget hact)⟩
  aborted id hann := by
    obtain ⟨hf, hinv⟩ := h.aborted id hann
    refine ⟨hf, fun intent' hg => ?_⟩
    obtain ⟨intent, hold, hs⟩ := hevo.intents id intent' hg
    exact hs.invalidated (hinv intent hold) }

/-- Something is appended to the ledger or decided on: one phase of one deletion. -/
theorem Protocol.announce (h : Protocol w) {decided' : List LedgerArguments} (deletionId : String)
    (phase : LedgerPhase)
    (hann : ∀ id phase', Announced { w with ledger := ledger', decided := decided' } id phase' →
      Announced w id phase' ∨ (id = deletionId ∧ phase' = phase))
    (hintended : ∃ intention ∈ w.intentions, intention.deletionId = deletionId)
    (hcommitted : phase = .requested ∨ phase = .completed → deletionId ∈ w.fences)
    (haborted : phase = .aborted → deletionId ∉ w.fences ∧
      ∀ intent, w.db.intents.get? deletionId = some intent → intent.state = .invalidated)
    (hdecided : ∀ arguments ∈ decided', arguments.phase ≠ .prepared) :
    Protocol { w with ledger := ledger', decided := decided' } := { h with
  announced id phase' hph := by
    rcases hann id phase' hph with hold | ⟨rfl, -⟩
    · exact h.announced id phase' hold
    · exact hintended
  committed id hph := by
    rcases hph with hph | hph
    · rcases hann id _ hph with hold | ⟨rfl, hnew⟩
      · exact h.committed id (.inl hold)
      · exact hcommitted (.inl hnew.symm)
    · rcases hann id _ hph with hold | ⟨rfl, hnew⟩
      · exact h.committed id (.inr hold)
      · exact hcommitted (.inr hnew.symm)
  aborted id hph := by
    rcases hann id _ hph with hold | ⟨rfl, hnew⟩
    · exact h.aborted id hold
    · exact haborted hnew.symm
  decided := hdecided }

/-- A process has decided on an append. -/
theorem Protocol.decide (h : Protocol w) (hph : arguments.phase ≠ .prepared)
    (hintended : ∃ intention ∈ w.intentions, intention.deletionId = arguments.deletionId)
    (hcommitted : arguments.phase = .requested ∨ arguments.phase = .completed →
      arguments.deletionId ∈ w.fences)
    (haborted : arguments.phase = .aborted → arguments.deletionId ∉ w.fences ∧
      ∀ intent, w.db.intents.get? arguments.deletionId = some intent →
        intent.state = .invalidated) :
    Protocol { w with decided := arguments :: w.decided } := by
  refine h.announce arguments.deletionId arguments.phase ?_ hintended hcommitted haborted ?_
  · rintro id phase (hev | ⟨decided, hmem, hid, hsame⟩)
    · exact .inl (.inl hev)
    · rcases mem_cons.mp hmem with rfl | hmem
      · exact .inr ⟨hid.symm, hsame.symm⟩
      · exact .inl (.inr ⟨decided, hmem, hid, hsame⟩)
  · exact forall_mem_cons.mpr ⟨hph, h.decided⟩

/-- What an append adds to the ledger. -/
theorem announced_of_append {receiptOf : LedgerArguments → Option String → String}
    (happend : appendEvent receiptOf w.ledger arguments = .ok (event, ledger')) {id : String}
    (h : Announced { w with ledger := ledger' } id phase) :
    Announced w id phase ∨ (id = arguments.deletionId ∧ phase = arguments.phase) := by
  obtain ⟨hid, hph, ⟨rfl, -⟩ | ⟨rfl, -⟩⟩ := appendEvent_eq_ok happend
  · exact .inl h
  · rcases h with ⟨other, hmem, hoth⟩ | hdecided
    · rcases mem_append.mp hmem with hold | hnew
      · exact .inl (.inl ⟨other, hold, hoth⟩)
      · rw [mem_singleton] at hnew
        subst hnew
        exact .inr ⟨hoth.1.symm.trans hid, hoth.2.symm.trans hph⟩
    · exact .inl (.inr hdecided)

theorem DeletionStep.protocol_append (h : Protocol w) (hdecided : arguments ∈ w.decided)
    (happend : appendEvent keys.receiptOf w.ledger arguments = .ok (event, ledger')) :
    Protocol { w with ledger := ledger' } := by
  have hold : Announced w arguments.deletionId arguments.phase :=
    .inr ⟨arguments, hdecided, rfl, rfl⟩
  refine h.announce arguments.deletionId arguments.phase (fun id phase hph => ?_)
    (h.announced _ _ hold) (fun hph => ?_) (fun hph => ?_) h.decided
  · exact announced_of_append happend hph
  · refine h.committed _ ?_
    rcases hph with hph | hph
    · exact .inl (hph ▸ hold)
    · exact .inr (hph ▸ hold)
  · exact h.aborted _ (hph ▸ hold)

theorem DeletionStep.protocol_prepare (h : Protocol w)
    (hprep : preparedAppend keys w.db w.ledger deletionId now = .ok (prepared, ledger')) :
    Protocol { w with ledger := ledger' } := by
  obtain ⟨intent, hint, ⟨rfl, -⟩ | ⟨identity, -, -, happend⟩⟩ := preparedAppend_eq_ok hprep
  · exact h
  · obtain ⟨intention, hmem, hid, -⟩ := h.intents deletionId intent hint
    refine h.announce deletionId .prepared (fun id phase hph => ?_) ⟨intention, hmem, hid⟩
      (fun hph => ?_) (fun hph => ?_) h.decided
    · exact announced_of_append happend hph
    · rcases hph with hph | hph <;> cases hph
    · cases hph

/-! ### A new intent -/

/-- An intent on an active target is inserted under a new identifier. -/
theorem Protocol.insert (h : Protocol w) {receiptVerifier : String}
    (hfr : request.deletionId ∉ w.drawn) (ho : target.ownerUserId = request.ownerUserId)
    (hrow : TargetRow w.db target request.targetKind)
    (hins : insertIntent w.db request.deletionId (newIntent keys request target)
      receiptVerifier now = .ok db') :
    Protocol { w with
      db := db'
      drawn := request.deletionId :: w.drawn
      intentions := ⟨request.deletionId, request.targetKind, target⟩ :: w.intentions } := by
  obtain ⟨-, -, -, rfl⟩ := insertIntent_eq_ok hins
  -- nothing is known of the new identifier
  have hnew : ∀ intention ∈ w.intentions, intention.deletionId ≠ request.deletionId :=
    fun intention hmem heq => hfr (heq ▸ (h.intended intention hmem).1)
  have hnotFenced : request.deletionId ∉ w.fences := by
    intro hmem
    obtain ⟨intention, hintn, hid, -⟩ := h.fenced _ hmem
    exact hnew intention hintn hid
  refine { h with
    known := h.known.evolve (.of_same rfl) (subset_cons_self _ _)
    intended := ?_
    unique := ?_
    rows := ?_
    intents := ?_
    controls := ?_
    consumed := ?_
    fenced := ?_
    announced := ?_
    aborted := ?_ }
  · intro intention hmem
    rcases mem_cons.mp hmem with rfl | hmem
    · obtain ⟨hid, hsc⟩ := h.known.drawn _ target hrow
      exact ⟨mem_cons_self, mem_cons_of_mem _ hid, mem_cons_of_mem _ hsc⟩
    · obtain ⟨hid, htgt, hsc⟩ := h.intended intention hmem
      exact ⟨mem_cons_of_mem _ hid, mem_cons_of_mem _ htgt,
        mem_cons_of_mem _ hsc⟩
  · intro intention hmem intention' hmem' hid
    rcases mem_cons.mp hmem with rfl | hmem
    · rcases mem_cons.mp hmem' with rfl | hmem'
      · rfl
      · exact absurd hid.symm (hnew intention' hmem')
    · rcases mem_cons.mp hmem' with rfl | hmem'
      · exact absurd hid (hnew intention hmem)
      · exact h.unique intention hmem intention' hmem' hid
  · intro intention hmem kind other hoth hsame
    rcases mem_cons.mp hmem with rfl | hmem
    · -- the row the intent was made for, and no other
      have hboth : kind = request.targetKind ∧ other.id = target.id := by
        rcases hsame with hboth | hsc
        · exact hboth
        · exact h.known.unique _ _ _ _ hoth hrow hsc
      obtain ⟨rfl, hid⟩ := hboth
      have hoth : TargetRow w.db other request.targetKind := hoth
      rw [hrow.eq_of_id hoth hid]
      exact ⟨rfl, .refl target⟩
    · exact h.rows intention hmem kind other hoth hsame
  · intro id intent hg
    rcases Dict.get?_of_set hg with ⟨rfl, rfl⟩ | ⟨-, hold⟩
    · exact ⟨_, mem_cons_self, rfl, rfl, rfl, ho⟩
    · obtain ⟨intention, hmem, hintn⟩ := h.intents id intent hold
      exact ⟨intention, mem_cons_of_mem _ hmem, hintn⟩
  · intro id control hg
    obtain ⟨hf, intention, hmem, hintn⟩ := h.controls id control hg
    exact ⟨hf, intention, mem_cons_of_mem _ hmem, hintn⟩
  · intro id hmem intent hg
    rcases Dict.get?_of_set hg with ⟨rfl, -⟩ | ⟨-, hold⟩
    · exact absurd hmem hnotFenced
    · exact h.consumed id hmem intent hold
  · intro id hmem
    obtain ⟨intention, hintn, hid⟩ := h.fenced id hmem
    exact ⟨intention, mem_cons_of_mem _ hintn, hid⟩
  · intro id phase hph
    obtain ⟨intention, hmem, hid⟩ := h.announced id phase hph
    exact ⟨intention, mem_cons_of_mem _ hmem, hid⟩
  · intro id hph
    obtain ⟨hf, hinv⟩ := h.aborted id hph
    refine ⟨hf, fun intent hg => ?_⟩
    rcases Dict.get?_of_set hg with ⟨rfl, -⟩ | ⟨-, hold⟩
    · obtain ⟨intention, hmem, hid⟩ := h.announced _ _ hph
      exact absurd hid (hnew intention hmem)
    · exact hinv intent hold

theorem clearActiveIntent_evolve (h : clearActiveIntent db scopeId now = .ok db') :
    DeletionsEvolve db db' := by
  obtain rfl | ⟨activeId, active, hact, -, hexp, hdb'⟩ := clearActiveIntent_eq_ok h
  · exact .of_same rfl rfl rfl
  · refine invalidated_evolve hact ?_ hdb'
    rw [intentExpired, Bool.and_eq_true, decide_eq_true_eq] at hexp
    rw [hexp.1]
    decide

/-- Clearing keeps what an intent is about and what is recorded of its preparation. -/
theorem clearActiveIntent_intents {id : String} {intent : DeletionIntentRecord}
    (h : clearActiveIntent db scopeId now = .ok db') (hg : db'.intents.get? id = some intent) :
    ∃ before, db.intents.get? id = some before ∧ intent.targetScopeId = before.targetScopeId ∧
      intent.preparationReceipt = before.preparationReceipt := by
  obtain rfl | ⟨_, _, -, -, -, rfl⟩ := clearActiveIntent_eq_ok h
  · exact ⟨intent, hg, rfl, rfl⟩
  · obtain ⟨_, hold, ⟨-, rfl⟩ | ⟨-, rfl⟩⟩ := Dict.get?_of_modify hg <;>
      exact ⟨_, hold, rfl, rfl⟩

/-- Clearing leaves the targets as they are. -/
theorem clearActiveIntent_targetRow (h : clearActiveIntent db scopeId now = .ok db')
    (hrow : TargetRow db target kind) :
    TargetRow db' target kind := by
  obtain rfl | ⟨_, _, -, -, -, rfl⟩ := clearActiveIntent_eq_ok h
  · exact hrow
  · exact hrow

theorem DeletionStep.protocol_intend {view : DeletionIntentView} (h : Protocol w)
    (hfr : request.deletionId ∉ w.drawn)
    (htgt : targetByResourceId w.db request.targetKind request.targetResourceId
      request.ownerUserId = some target)
    (hintend : createIntent keys w.db request = .ok (view, db')) :
    Protocol { w with
      db := db'
      drawn := request.deletionId :: w.drawn
      intentions := if view.repeated then w.intentions
        else ⟨request.deletionId, request.targetKind, target⟩ :: w.intentions } := by
  rcases createIntent_eq_ok hintend with ⟨hrep, rfl⟩ |
    ⟨found, cleared, hrep, -, -, hfnd, -, hclr, -, hins⟩
  · rw [if_pos hrep]
    exact h.evolve (.of_same rfl rfl rfl) (subset_cons_self _ _)
  · rw [if_neg (by simp [hrep])]
    rw [htgt] at hfnd
    cases hfnd
    obtain ⟨-, ho, hrow⟩ := targetByResourceId_eq_some htgt
    have hclear : Protocol (w.commit cleared) :=
      h.evolve (clearActiveIntent_evolve hclr) (.refl _)
    exact hclear.insert hfr ho (clearActiveIntent_targetRow hclr hrow) hins

/-! ### A fence -/

/-- A first fence: what it consumes and puts out of reach was neither. -/
theorem Protocol.fence (h : Protocol w) {intent : DeletionIntentRecord} {user : UserRecord}
    (hint : w.db.intents.get? prepared.deletionId = some intent)
    (htgt : targetByScope w.db intent.targetKind intent.targetScopeId = some target)
    (hfable : fenceable prepared intent target user = true)
    (hfcd : Fenced w.db db' prepared intent target now) :
    Protocol { w with db := db', fences := w.fences.insert prepared.deletionId } := by
  obtain ⟨intention, hintn, hid, hk, hsc, ho⟩ := h.intents _ intent hint
  obtain ⟨htargetScope, hrow⟩ := targetByScope_eq_some htgt
  have hsame : SameTarget target intention.target :=
    (h.rows intention hintn _ target hrow (.inr (htargetScope.trans hsc.symm))).2
  obtain ⟨-, -, -, hst⟩ := fenceable_eq_true hfable
  have htgts := hfcd.targetsEvolve
  have hina : ¬ ActiveTarget db' intention.kind intention.target.id := by
    rw [hk, ← hsame.id]
    exact hfcd.not_active
  -- what becomes of an intent: the one of this deletion is consumed, the others are the same
  have hints : ∀ id intent', db'.intents.get? id = some intent' →
      (id = prepared.deletionId ∧ intent'.state = .consumed ∧
        intent'.targetKind = intent.targetKind ∧ intent'.targetScopeId = intent.targetScopeId ∧
        intent'.ownerUserId = intent.ownerUserId) ∨
      (id ≠ prepared.deletionId ∧ w.db.intents.get? id = some intent') := by
    intro id intent' hg
    rw [hfcd.intents] at hg
    obtain ⟨before, hold, ⟨rfl, rfl⟩ | ⟨hne, rfl⟩⟩ := Dict.get?_of_modify hg
    · rw [hint] at hold
      cases hold
      exact .inl ⟨rfl, rfl, rfl, rfl, rfl⟩
    · exact .inr ⟨hne, hold⟩
  exact { h with
    known := h.known.evolve htgts (List.Subset.refl _)
    rows := fun other hmem kind target' hrow' hsc' => by
      obtain ⟨before, hpre, hs⟩ := htgts kind target' hrow'
      rw [hs.same.id, hs.same.deletionScopeId] at hsc'
      obtain ⟨hk', hsame'⟩ := h.rows other hmem kind before hpre hsc'
      exact ⟨hk', hs.same.trans hsame'⟩
    intents := fun id intent' hg => by
      rcases hints id intent' hg with ⟨rfl, -, hk', hsc', ho'⟩ | ⟨-, hold⟩
      · rw [hk', hsc', ho']
        exact ⟨intention, hintn, hid, hk, hsc, ho⟩
      · exact h.intents id intent' hold
    controls := fun id control hg => by
      rw [hfcd.controls] at hg
      rcases Dict.get?_of_set hg with ⟨rfl, rfl⟩ | ⟨-, hold⟩
      · exact ⟨mem_insert_self, intention, hintn, hid, hk, hsc⟩
      · obtain ⟨hf, hintended⟩ := h.controls id control hold
        exact ⟨mem_insert_of_mem hf, hintended⟩
    consumed := fun id hmem intent' hg => by
      rcases hints id intent' hg with ⟨-, hcons, -⟩ | ⟨hne, hold⟩
      · exact hcons
      · rcases mem_insert_iff.mp hmem with heq | hmem
        · exact absurd heq hne
        · exact h.consumed id hmem intent' hold
    fenced := fun id hmem => by
      rcases mem_insert_iff.mp hmem with rfl | hmem
      · exact ⟨intention, hintn, hid, hina⟩
      · obtain ⟨other, hoth, hid', hina'⟩ := h.fenced id hmem
        exact ⟨other, hoth, hid', fun hact => hina' (htgts.activeTarget hact)⟩
    committed := fun id hph => mem_insert_of_mem (h.committed id hph)
    aborted := fun id hph => by
      obtain ⟨hf, hinv⟩ := h.aborted id hph
      have hne : id ≠ prepared.deletionId := by
        rintro rfl
        exact hst (hinv intent hint)
      refine ⟨fun hmem => ?_, fun intent' hg => ?_⟩
      · rcases mem_insert_iff.mp hmem with heq | hmem
        · exact hne heq
        · exact hf hmem
      · rcases hints id intent' hg with ⟨heq, -⟩ | ⟨-, hold⟩
        · exact absurd heq hne
        · exact hinv intent' hold
    inspected := fun entry hmem id hid => mem_insert_of_mem (h.inspected entry hmem id hid) }

theorem DeletionStep.protocol_fence {receiptId : String} (h : Protocol w)
    (hf : fencePrepared keys w.db prepared receiptId now = .ok ((), db')) :
    Protocol { w with db := db', fences := w.fences.insert prepared.deletionId } := by
  obtain ⟨intent, hint, -, -, ⟨control, ledgerReceipts, hctl, -, rfl⟩ |
    ⟨target, user, -, htgt, -, hfable, hfcd⟩⟩ := fencePrepared_eq_ok hf
  · -- the fence had committed before
    rw [insert_of_mem (h.controls _ control hctl).1]
    exact h.evolve (.of_same rfl rfl rfl) (.refl _)
  · exact h.fence hint htgt hfable hfcd

/-! ### The other transactions -/

theorem OrdinaryChange.targets (h : OrdinaryChange w db' drawn') (hrow : TargetRow db' target kind)
    (hdr : target.id ∈ w.drawn ∨ target.deletionScopeId ∈ w.drawn) :
    TargetRow w.db target kind := by
  rcases h.grown kind target hrow with hold | ⟨hid, hsc⟩
  · exact hold
  · exact hdr.elim (fun hmem => absurd hmem hid) fun hmem => absurd hmem hsc

theorem DeletionStep.protocol_ordinary (h : Protocol w) (hchg : OrdinaryChange w db' drawn') :
    Protocol { w with db := db', drawn := drawn' } := { h with
  known := hchg.known
  intended intention hmem := by
    obtain ⟨hid, htgt, hsc⟩ := h.intended intention hmem
    exact ⟨hchg.drawn hid, hchg.drawn htgt, hchg.drawn hsc⟩
  rows intention hmem kind target hrow hsame := by
    obtain ⟨-, hid, hsc⟩ := h.intended intention hmem
    refine h.rows intention hmem kind target (hchg.targets hrow ?_) hsame
    rcases hsame with ⟨-, heq⟩ | heq
    · exact .inl (heq ▸ hid)
    · exact .inr (heq ▸ hsc)
  intents id intent hg := h.intents id intent (hchg.intents ▸ hg)
  controls id control hg := h.controls id control (hchg.controls ▸ hg)
  consumed id hmem intent hg := h.consumed id hmem intent (hchg.intents ▸ hg)
  fenced id hmem := by
    obtain ⟨intention, hintn, hid, hina⟩ := h.fenced id hmem
    refine ⟨intention, hintn, hid, fun hact => hina ?_⟩
    obtain ⟨target, hrow, htgt, hact⟩ := activeTarget_iff.mp hact
    refine activeTarget_iff.mpr ⟨target, hchg.targets hrow (.inl ?_), htgt, hact⟩
    exact htgt ▸ (h.intended intention hintn).2.1
  aborted id hph := by
    obtain ⟨hf, hinv⟩ := h.aborted id hph
    exact ⟨hf, fun intent hg => hinv intent (hchg.intents ▸ hg)⟩ }

/-- The controls that a sweep finds are fenced. -/
theorem DeletionStep.protocol_inspect {lease : JobLease} {scope : SweepScope} (h : Protocol w) :
    Protocol { w with inspected := (lease, subordinateControls w.db scope.deletionId scope.control
      scope.target.ownerUserId) :: w.inspected } := by
  refine { h with inspected := fun entry hmem id hid => ?_ }
  rcases mem_cons.mp hmem with rfl | hmem
  · obtain ⟨⟨key, control⟩, hentry, rfl⟩ := mem_map.mp hid
    exact (h.controls key control (Dict.get?_eq_some.mpr (mem_filter.mp hentry).1)).1
  · exact h.inspected entry hmem id hid

/-- The fences of the phases that a subsumption or a completion announces. -/
theorem Protocol.decide_committed (h : Protocol w)
    (hph : phase = .requested ∨ phase = .completed) (hf : event.deletionId ∈ w.fences) :
    Protocol { w with decided := eventArguments event phase now :: w.decided } := by
  obtain ⟨intention, hmem, hid, -⟩ := h.fenced _ hf
  refine h.decide ?_ ⟨intention, hmem, hid⟩ (fun _ => hf) fun haborted => ?_
  · rcases hph with rfl | rfl <;> exact fun heq => by cases heq
  · rcases hph with rfl | rfl <;> cases haborted

theorem subsumedPhase_eq_some {phase' : LedgerPhase} (h : subsumedPhase phase = some phase') :
    (phase = .prepared ∧ phase' = .requested) ∨ (phase = .requested ∧ phase' = .completed) := by
  cases phase with
  | prepared => exact .inl ⟨rfl, (Option.some.inj h).symm⟩
  | requested => exact .inr ⟨rfl, (Option.some.inj h).symm⟩
  | completed | aborted => cases h

theorem requestedEvent_eq_ok {ledger : List LedgerEvent} {control : DeletionControlOperationRecord}
    {requested : LedgerEvent} (h : requestedEvent ledger deletionId control = .ok requested) :
    requested.deletionId = deletionId ∧ requested.phase = .requested ∧
      requested.identity = control.identity ∧ requested ∈ ledger := by
  unfold requestedEvent at h
  split at h
  · cases h
  · rename_i event hev
    obtain ⟨_, hv, hres⟩ := bind_eq_ok.mp h
    cases hres
    rw [validateControlEvent, failIf_eq_ok] at hv
    push Not at hv
    refine ⟨hv.2.1, hv.1, hv.2.2, ?_⟩
    exact (mem_filter.mp (mem_of_find?_eq_some hev)).1

theorem hasProvedNoncommit_intent (h : hasProvedNoncommit keys db prepared = true) :
    ∃ intent, db.intents.get? prepared.deletionId = some intent ∧ intent.state = .invalidated := by
  unfold hasProvedNoncommit at h
  split at h
  · cases h
  · rename_i intent hint
    simp only [Bool.and_eq_true, decide_eq_true_eq] at h
    exact ⟨intent, hint, h.1.1.1.2⟩

/-- **Every step keeps the invariant.** -/
theorem DeletionStep.protocol {operation : DeletionOperation} (h : Protocol w)
    (hs : DeletionStep keys retryDelay w operation w') : Protocol w' := by
  cases hs with
  | intend hfr htgt hok => exact protocol_intend h hfr htgt hok
  | prepare hok => exact protocol_prepare h hok
  | recordPrepared _ hok => exact h.evolve (recordPrepared_evolve hok) (.refl _)
  | fence _ hok => exact protocol_fence h hok
  | decideRequested hok =>
    obtain ⟨control, target, hctl, -, -, rfl⟩ := requestedArguments_eq_ok hok
    obtain ⟨hf, intention, hmem, hid, -⟩ := h.controls _ control hctl
    exact h.decide (fun heq => by cases heq) ⟨intention, hmem, hid⟩ (fun _ => hf)
      fun heq => by cases heq
  | recordRequested _ _ hok =>
    exact h.evolve (recordRequested_evolve hok) (subset_cons_self _ _)
  | proveNoncommit hok => exact h.evolve (proveNoncommit_evolve hok) (.refl _)
  | decideAborted hev hok =>
    obtain ⟨intent, hint, hinv⟩ := hasProvedNoncommit_intent hok
    obtain ⟨intention, hmem, hid, -⟩ := h.intents _ intent hint
    refine h.decide (fun heq => by cases heq) ⟨intention, hmem, hid⟩ ?_ fun _ => ⟨?_, ?_⟩
    · rintro (heq | heq) <;> cases heq
    · intro hf
      have hcons := h.consumed _ hf intent hint
      rw [hinv] at hcons
      cases hcons
    · intro other hoth
      have heq : other = intent := Option.some.inj (hoth.symm.trans hint)
      rw [heq, hinv]
  | recordAborted _ _ hok => exact h.evolve (recordAborted_evolve hok) (.refl _)
  | expire hok => exact h.evolve (expireDeletionIntent_evolve hok) (.refl _)
  | append hdecided hok => exact protocol_append h hdecided hok
  | drainOpen hok => exact h.evolve (drainOpen_evolve hok) (.refl _)
  | drainUpload => exact h.evolve (.of_same rfl rfl rfl) (.refl _)
  | drainClose hok => exact h.evolve (drainClose_evolve hok) (.refl _)
  | openSweep _ => exact h.evolve (.of_same rfl rfl rfl) (.refl _)
  | inspect _ => exact protocol_inspect h
  | decideSubsumed hinsp hctl _ hph =>
    refine h.decide_committed ?_ (h.inspected _ hinsp _ hctl)
    rcases subsumedPhase_eq_some hph with ⟨-, hph⟩ | ⟨-, hph⟩
    · exact .inl hph
    · exact .inr hph
  | subsume _ _ _ _ hok => exact h.evolve (completeSubsumed_evolve hok) (.refl _)
  | sweep _ _ hok => exact h.evolve (sweepRows_evolve hok) (.refl _)
  | verify hok => exact h.evolve (verifyRows_evolve hok) (.refl _)
  | @decideCompleted _ _ deletionId control requested hctl _ _ hok =>
    obtain ⟨hid, -, -, -⟩ := requestedEvent_eq_ok hok
    refine h.decide_committed (.inr rfl) ?_
    rw [hid]
    exact (h.controls _ control (Dict.first_eq_some_get? hctl).1).1
  | complete _ hok => exact h.evolve (complete_evolve hok) (.refl _)
  | service => exact h.evolve (QueueService.frame _ _ _).evolve (.refl _)
  | ordinary hchg => exact protocol_ordinary h hchg

end Steps

/-! ### Reached states -/

section Reached

variable {keys : DeletionKeys} {retryDelay : String → ℕ → ℤ}
  {allowed : DeletionWorld → DeletionOperation → Prop} {w : DeletionWorld}

theorem protocol_of_reached (h : ReachedBy NoDeletions (DeletionStep keys retryDelay) allowed w) :
    Protocol w :=
  h.invariant (fun _ => NoDeletions.protocol) fun _ _ _ hprot _ hs =>
    hs.protocol hprot

/-- **The ledger never contradicts the fence.**  Whatever the order of the steps, and wherever
processes stop: a deletion whose fence has committed is not aborted, a deletion is requested or
completed only after its fence has committed, and then its target is active no more. -/
theorem deletion_ledger_agrees
    (h : ReachedBy NoDeletions (DeletionStep keys retryDelay) (fun _ _ => True) w) :
    ∀ event ∈ w.ledger,
      (event.deletionId ∈ w.fences → event.phase ≠ .aborted) ∧
      (event.phase = .requested ∨ event.phase = .completed → event.deletionId ∈ w.fences ∧
        ∀ intention ∈ w.intentions, intention.deletionId = event.deletionId →
          ¬ ActiveTarget w.db intention.kind intention.target.id) := by
  have hprotocol := protocol_of_reached h
  intro event hevent
  have hannounced : Announced w event.deletionId event.phase := .inl ⟨event, hevent, rfl, rfl⟩
  refine ⟨fun hfence haborted => ?_, fun hphase => ?_⟩
  · exact (hprotocol.aborted _ (haborted ▸ hannounced)).1 hfence
  · have hfence : event.deletionId ∈ w.fences := by
      refine hprotocol.committed _ ?_
      rcases hphase with hphase | hphase
      · exact .inl (hphase ▸ hannounced)
      · exact .inr (hphase ▸ hannounced)
    refine ⟨hfence, fun intention hmem hid => ?_⟩
    obtain ⟨fenced, hfenced, hfencedId, hinactive⟩ := hprotocol.fenced _ hfence
    rw [hprotocol.unique intention hmem fenced hfenced (hid.trans hfencedId.symm)]
    exact hinactive

end Reached

namespace SmallStore

/-- The small store, in which nothing has been deleted. -/
def undeleted : DeletionWorld where
  db := initial
  ledger := []
  drawn := [owner, importId, profileId, "10000000000000000000000000000001",
    "10000000000000000000000000000002", "10000000000000000000000000000003"]
  decided := []
  opened := []
  inspected := []
  intentions := []
  fences := []
  completions := []

theorem undeleted_noDeletions : NoDeletions undeleted where
  intents := rfl
  controls := rfl
  receipts := rfl
  ledgerReceipts := rfl
  sweepJobs _ _ hg := by cases hg
  known := targetsKnown_of_targets (by decide +kernel) (by decide +kernel)
  ledger := rfl
  decided := rfl
  opened := rfl
  inspected := rfl
  intentions := rfl
  fences := rfl
  completions := rfl

/-- What is executed from the small store is reached. -/
theorem reached_of_execute (allowed : DeletionWorld → DeletionOperation → Prop)
    [∀ w operation, Decidable (allowed w operation)] {P : DeletionWorld → Prop}
    (operations : List DeletionOperation)
    (h : ∃ w ∈ undeleted.execute keys noDelay allowed operations, P w) :
    ∃ w, ReachedBy NoDeletions (DeletionStep keys noDelay) allowed w ∧ P w := by
  obtain ⟨w, hw, hp⟩ := h
  exact ⟨w, ⟨undeleted, undeleted_noDeletions, DeletionWorld.execute_runs hw⟩, hp⟩

/-- The event that requests a prepared deletion. -/
def requestedOn (deletionId scopeId : String) (now : ℤ) : LedgerEvent :=
  { preparedOn deletionId scopeId now with
    phase := .requested
    previousReceipt := some (digest 'c') }

def accountRequested : LedgerEvent :=
  requestedOn accountDeletion "10000000000000000000000000000001" 1

/-- The account is fenced, and its deletion requested. -/
def accountRequest : List DeletionOperation :=
  [.intend (intentOn .account owner accountDeletion 0), .prepare accountDeletion 0,
    .fence accountPrepared "90000000000000000000000000000001" 0,
    .decideRequested accountDeletion 1,
    .append ⟨accountDeletion, .requested, accountRequested.identity, 1⟩]

end SmallStore

section

open SmallStore

/-- The deletion of the account is requested once the account is fenced, and not active. -/
theorem deletion_ledger_agrees_requested :
    ∃ w, ReachedBy NoDeletions (DeletionStep keys noDelay) (fun _ _ => True) w ∧
      accountRequested ∈ w.ledger ∧
      accountDeletion ∈ w.fences ∧
      ¬ ActiveTarget w.db .account owner := by
  obtain ⟨w, hreached, hevent, intention, hmem, hid, hkind, htarget⟩ := reached_of_execute
    (fun _ _ => True) (P := fun w => accountRequested ∈ w.ledger ∧
      ∃ intention ∈ w.intentions, intention.deletionId = accountDeletion ∧
        intention.kind = .account ∧ intention.target.id = owner) accountRequest (by decide +kernel)
  obtain ⟨hfence, hinactive⟩ := (deletion_ledger_agrees hreached _ hevent).2 (.inl rfl)
  refine ⟨w, hreached, hevent, hfence, ?_⟩
  rw [← hkind, ← htarget]
  exact hinactive intention hmem hid

end

end RateReplay
