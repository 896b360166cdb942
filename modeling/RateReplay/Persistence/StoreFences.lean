import RateReplay.Persistence.StoreSound

/-!
# What a fence holds back

Once an account is fenced for deletion, no row of it should come in any more, and once an import
is fenced, no profile should be attached to it.  Most transactions look at the lifecycle of the
account or the import they write for; the recording of a submission, a login and a confirmation
do not.  A fence holds where no submission of the account was under way when it was fenced and
nobody logs in to it, and where the draft of the import was not published.

## Main definitions

* `Brings` — which rows an operation can bring in, and what it can do to the others.
* `KeepsOwned`, `NoNewOwned` — no row of an owner comes in.
* `StaysOut` — a login to an account does not get its password right.
* `NoNewProfile` — no profile is attached to an import, and none comes in under it.
* `EndsProfile` — a deletion of the profile with some content is fenced, or its sweep started.

## Main results

* `StoreStep.brings` — **what a transaction brings in**; the fences follow from it alone.
* `account_fence_holds` — **no row of a fenced account comes in**, when no submission of it was
  admitted and not recorded, and nobody logs in to it.
* `import_fence_holds` — **no profile of a fenced import comes in**, when its draft was not
  published; no import is confirmed as a fenced profile, when none of the same content is fenced.
* `submission_after_fence`, `confirmation_after_fence` — without the condition both fail.
-/

namespace RateReplay

open Dict

/-! ### What a transaction brings in -/

/-- Every row was there and has moved on as the condition says, or it is new. -/
def RowsFrom {α : Type} (moves : String → α → α → Prop) (new : String → α → Prop)
    (table table' : Dict String α) : Prop :=
  ∀ id row', table'.get? id = some row' →
    (∃ row, table.get? id = some row ∧ moves id row row') ∨ new id row'

section RowsFrom

variable {α : Type} {moves : String → α → α → Prop} {new : String → α → Prop}
  {table table' : Dict String α}

theorem RowsFrom.set {key : String} {row : α} (h : RowsFrom moves new table table')
    (hnew : new key row) : RowsFrom moves new table (table'.set key row) := by
  intro id row' hg
  rcases get?_of_set hg with ⟨rfl, rfl⟩ | ⟨-, hold⟩
  · exact .inr hnew
  · exact h id row' hold

theorem RowsFrom.modifyWhere {p : String → α → Bool} {f : α → α}
    (hrefl : ∀ id row, moves id row row) (hf : ∀ id row, moves id row (f row)) :
    RowsFrom moves new table (table.modifyWhere p f) := by
  intro id row' hg
  obtain ⟨row, hold, rfl⟩ := get?_of_modifyWhere hg
  refine .inl ⟨row, hold, ?_⟩
  split
  · exact hf id row
  · exact hrefl id row

end RowsFrom

/-- The operation may write rows of an account: it registers the account or logs in to it,
records a submission of it, or looks at its lifecycle. -/
def WritesFor (w : StoreWorld) (userId : String) : StoreOperation → Prop
  | .register _ => userId ∉ w.drawn
  | .login request => ∃ canonical user, canonicalizeUsername request.username = .ok canonical ∧
      userOfName w.db canonical = some (userId, user)
  | .record upload _ _ _ => upload.ownerUserId = userId
  | _ => ActiveUser w.db userId

/-- The operation confirms the import, whose draft is published. -/
def Confirms (w : StoreWorld) (importId : String) : StoreOperation → Prop
  | .confirm _ key _ _ _ _ => key = importId ∧
      ∃ record, w.db.imports.get? importId = some record ∧ record.settled = true
  | _ => False

/-- The target of a deletion is a profile of an owner, with some content. -/
def NamesProfile (db : Database) (kind : TargetKind) (scopeId ownerUserId contentHash : String) :
    Prop :=
  kind = .profile ∧ ∃ target profile, targetByScope db kind scopeId = some target ∧
    db.profiles.get? target.id = some profile ∧ profile.ownerUserId = ownerUserId ∧
    profile.contentHash = contentHash

/-- The operation fences a deletion of such a profile, or starts its sweep. -/
def EndsProfile (w : StoreWorld) (ownerUserId contentHash : String) : StoreOperation → Prop
  | .fence prepared _ _ => ∃ intent, w.db.intents.get? prepared.deletionId = some intent ∧
      NamesProfile w.db intent.targetKind intent.targetScopeId ownerUserId contentHash
  | .request deletionId _ _ _ _ => ∃ control, w.db.controls.get? deletionId = some control ∧
      NamesProfile w.db control.targetKind control.targetScopeId ownerUserId contentHash
  | _ => False

/-- An import that was there does not become active again, has its draft published while it is
active, and gets a profile by its confirmation only. -/
structure ImportMoves (w : StoreWorld) (operation : StoreOperation) (importId : String)
    (record record' : ImportRecord) : Prop where
  ownerUserId : record'.ownerUserId = record.ownerUserId
  active : record'.lifecycleState = .active → record.lifecycleState = .active
  settled : record'.settled = true → record.settled = true ∨ record.lifecycleState = .active
  profileVersionId : record'.profileVersionId = record.profileVersionId ∨
    record'.profileVersionId = none ∨ Confirms w importId operation

/-- Which rows an operation can bring in, and what it can do to the others. -/
structure Brings (w : StoreWorld) (operation : StoreOperation) (db' : Database) : Prop where
  users : RowsFrom (fun _ => UserStep) (fun id _ => id ∉ w.drawn) w.db.users db'.users
  sessions : RowsFrom (fun _ row row' => row'.userId = row.userId)
    (fun _ row => WritesFor w row.userId operation) w.db.sessions db'.sessions
  imports : RowsFrom (ImportMoves w operation)
    (fun id row => id ∉ w.drawn ∧ WritesFor w row.ownerUserId operation) w.db.imports db'.imports
  rawObjects : RowsFrom (fun _ row row' => row'.ownerUserId = row.ownerUserId)
    (fun _ row => WritesFor w row.ownerUserId operation) w.db.rawObjects db'.rawObjects
  operationRequests : RowsFrom (fun _ row row' => row'.ownerUserId = row.ownerUserId)
    (fun _ row => WritesFor w row.ownerUserId operation) w.db.operationRequests
    db'.operationRequests
  profiles : RowsFrom (fun _ row row' => row'.importId = row.importId ∧
      (row' = row ∨ EndsProfile w row'.ownerUserId row'.contentHash operation))
    (fun _ row => row.lifecycleState = .active ∧
      (row.importId ∉ w.drawn ∨ Confirms w row.importId operation)) w.db.profiles db'.profiles
  jobs : RowsFrom (fun _ job job' => job'.request = job.request)
    (fun _ job => ∀ userId, job.ownerUserId = some userId → job.kind ≠ .deletion →
      WritesFor w userId operation) w.db.jobs db'.jobs

section Brings

variable {auth : AuthKeys} {keys : DeletionKeys} {w w' : StoreWorld} {db db' : Database}
  {operation : StoreOperation} {now : ℤ}

theorem ImportMoves.refl (importId : String) (record : ImportRecord) :
    ImportMoves w operation importId record record := ⟨rfl, id, .inl, .inl rfl⟩

theorem Evolves.brings (h : Evolves w.db db')
    (hpfs : ∀ id profile, db'.profiles.get? id = some profile →
      w.db.profiles.get? id = some profile ∨
        EndsProfile w profile.ownerUserId profile.contentHash operation) :
    Brings w operation db' where
  users id user' hg := .inl (h.users id user' hg)
  sessions id row' hg := .inl (h.sessions id row' hg)
  imports id record' hg := by
    obtain ⟨record, hold, hs⟩ := h.imports id record' hg
    exact .inl ⟨record, hold, hs.ownerUserId, hs.active,
      fun hsett => .inl (hs.settled.symm.trans hsett), hs.profileVersionId.imp_right .inl⟩
  rawObjects id row' hg := .inl (h.rawObjects id row' hg)
  operationRequests id row' hg := .inl (h.operationRequests id row' hg)
  profiles id profile' hg := by
    rcases hpfs id profile' hg with hold | hends
    · exact .inl ⟨profile', hold, rfl, .inl rfl⟩
    · obtain ⟨profile, hold, hs⟩ := h.profiles id profile' hg
      exact .inl ⟨profile, hold, hs.importId, .inr hends⟩
  jobs id job' hg := by
    obtain ⟨job, hold, hs⟩ := h.jobs id job' hg
    exact .inl ⟨job, hold, hs.request⟩

theorem Recedes.brings (h : Recedes w.db db') : Brings w operation db' :=
  h.toEvolves.brings fun id profile hg => .inl (h.shrinks id profile hg)

theorem Brings.refl : Brings w operation w.db := (Recedes.refl w.db).brings

theorem Brings.of_same (h : Brings w operation db) (hrest : SameAccounts db db')
    (hims : db'.imports = db.imports) (hjs : db'.jobs = db.jobs) : Brings w operation db' :=
  ⟨hrest.users ▸ h.users, hrest.sessions ▸ h.sessions, hims ▸ h.imports,
    hrest.rawObjects ▸ h.rawObjects, hrest.operationRequests ▸ h.operationRequests,
    hrest.profiles ▸ h.profiles, hjs ▸ h.jobs⟩

/-- A change of one job brings in nothing more. -/
theorem JobChange.brings (h : JobChange db db') (hdb : Brings w operation db) :
    Brings w operation db' := by
  obtain @⟨jobId, job, f, hj, hs, hmod, hims, hrest⟩ := h
  -- the rows of the two tables that may have changed are followed back
  refine ⟨hrest.users ▸ hdb.users, hrest.sessions ▸ hdb.sessions, fun id record' hg => ?_,
    hrest.rawObjects ▸ hdb.rawObjects, hrest.operationRequests ▸ hdb.operationRequests,
    hrest.profiles ▸ hdb.profiles, fun id job' hg => ?_⟩
  · rcases hims with hsame | ⟨importId, g, -, -, -, htakes, hsc, hsettles⟩
    · exact hdb.imports id record' (hsame ▸ hg)
    · rw [htakes] at hg
      obtain ⟨between, hbetween, ⟨rfl, rfl⟩ | ⟨-, rfl⟩⟩ := get?_of_modify hg
      · have hkp := hsc between
        rcases hdb.imports id between hbetween with ⟨record, hold, hmoves⟩ | ⟨hnew, hwr⟩
        · refine .inl ⟨record, hold, hkp.ownerUserId.trans hmoves.ownerUserId, ?_,
            fun hsett => .inr (hmoves.active (hsettles between hbetween hsett).2), ?_⟩
          · rw [hkp.lifecycleState]
            exact hmoves.active
          · rw [hkp.profileVersionId]
            exact hmoves.profileVersionId
        · exact .inr ⟨hnew, hkp.ownerUserId ▸ hwr⟩
      · exact hdb.imports id record' hbetween
  · rw [hmod] at hg
    obtain ⟨between, hbetween, ⟨rfl, rfl⟩ | ⟨-, rfl⟩⟩ := get?_of_modify hg
    · cases hj.symm.trans hbetween
      rcases hdb.jobs id job hbetween with ⟨before, hold, hreq⟩ | hnew
      · exact .inl ⟨before, hold, hs.request.trans hreq⟩
      · refine .inr fun userId ho hk => hnew userId ?_ fun hdln => hk ?_
        · exact (congrArg JobRequest.ownerUserId hs.request).symm.trans ho
        · exact (congrArg JobRequest.kind hs.request).trans hdln
    · exact hdb.jobs id job' hbetween

theorem Works.brings (h : Works w.db db') : Brings w operation db' := by
  induction h with
  | refl => exact .refl
  | tail _ hchg ih => exact hchg.brings ih

theorem login_brings {request : Login} {grant : SessionGrant}
    (h : login auth w.db request = .ok (grant, db')) : Brings w (.login request) db' := by
  obtain ⟨canonical, user, sessions, auditEvents, hcan, hfnd, -, rfl, -, rfl⟩ :=
    login_eq_ok h
  have hrefl : Brings w (.login request) w.db := .refl
  refine { hrefl with
    users := ?_
    sessions := RowsFrom.set ?_ ⟨canonical, user, hcan, hfnd⟩ }
  · dsimp only [rehash]
    split
    · intro id user' hg
      obtain ⟨before, hold, ⟨-, rfl⟩ | ⟨-, rfl⟩⟩ := get?_of_modify hg
      · exact .inl ⟨before, hold, fun hact => ⟨hact, rfl⟩⟩
      · exact .inl ⟨user', hold, UserStep.refl user'⟩
    · exact hrefl.users
  · unfold revokePrior
    split
    · exact hrefl.sessions
    · exact .modifyWhere (fun _ _ => rfl) fun _ _ => rfl

theorem recordSubmission_brings {upload : ImportUpload} {accountGeneration : ℕ}
    {ids : ImportIdentifiers} (hfr : ids.importId ∉ w.drawn) :
    Brings w (.record upload accountGeneration ids now)
      (committed w.db (recordSubmission w.db upload accountGeneration ids now)) := by
  refine committed_of .refl fun submission db' h => ?_
  rcases recordSubmission_eq_ok h with hinsd | rfl
  · obtain ⟨-, -, -, auditEvents, rfl⟩ := insertSubmission_eq_ok hinsd
    exact { Brings.refl with
      imports := Brings.refl.imports.set ⟨hfr, rfl⟩
      rawObjects := Brings.refl.rawObjects.set rfl
      operationRequests := Brings.refl.operationRequests.set rfl
      jobs := Brings.refl.jobs.set fun _ ho _ => Option.some.inj ho }
  · exact .refl

theorem installSimulatedProfile_brings {request : SimulatedInstallation}
    (hfr : request.importId ∉ w.drawn) :
    Brings w (.install request) (committed w.db (installSimulatedProfile w.db request)) := by
  refine committed_of .refl fun result db' h => ?_
  rcases installSimulatedProfile_eq_ok h with rfl | ⟨user, installed, huser, hact, hinst,
    hrcd⟩
  · exact .refl
  · obtain ⟨-, rfl⟩ := insertOperation_eq_ok hrcd
    have hwr : WritesFor w request.ownerUserId (.install request) := ⟨user, huser, hact⟩
    have hrefl : Brings w (.install request) w.db := .refl
    rcases installProfile_eq_ok hinst with ⟨-, rfl⟩ | ⟨-, -, -, -, -, readings, auditEvents,
      rfl⟩
    · exact { hrefl with operationRequests := hrefl.operationRequests.set hwr }
    · exact { hrefl with
        imports := hrefl.imports.set ⟨hfr, hwr⟩
        profiles := hrefl.profiles.set ⟨rfl, .inl hfr⟩
        operationRequests := hrefl.operationRequests.set hwr }

theorem submitCalculation_brings {request : CalculationRequest}
    {initializeNewJob : JobInitializer} (hfrm : initializeNewJob.Frames) :
    Brings w (.calculate request)
      (committed w.db (submitCalculation w.db request initializeNewJob)) := by
  refine committed_of .refl fun submission db' h => ?_
  rcases submitCalculation_eq_ok h with rfl | ⟨routeId, user, profile, imported, -, hsc, hcases⟩
  · exact .refl
  · obtain ⟨⟨huser, hact⟩, -⟩ := calculationScope_eq_ok hsc
    have hwr : WritesFor w request.ownerUserId (.calculate request) := ⟨user, huser, hact⟩
    rcases hcases with ⟨jobId, rfl⟩ | ⟨auditEvents, -, -, hini⟩
    · exact { Brings.refl with operationRequests := Brings.refl.operationRequests.set hwr }
    · obtain ⟨hrest, hims, hjs⟩ := hfrm _ _ _ hini
      refine Brings.of_same ?_ hrest hims hjs
      refine { Brings.refl with
        operationRequests := Brings.refl.operationRequests.set hwr
        jobs := Brings.refl.jobs.set fun _ ho _ => ?_ }
      rw [← Option.some.inj ho]
      exact hwr

theorem confirm_brings {ownerUserId importId : String} {content : ConfirmedContent}
    {profileId deletionScopeId : String} :
    Brings w (.confirm ownerUserId importId content profileId deletionScopeId now)
      (committed w.db
        (confirm w.db ownerUserId importId content profileId deletionScopeId now)) := by
  refine committed_of .refl fun attached db' h => ?_
  obtain ⟨record, profiled, hrec, -, hst, hpfd, rfl⟩ := confirm_eq_ok h
  have hsett : record.settled = true := by
    rcases hst with hst | hst <;> rw [ImportRecord.settled, hst] <;> rfl
  have hims : Brings w
      (.confirm ownerUserId importId content profileId deletionScopeId now)
      { w.db with
        imports := w.db.imports.modify importId
          fun record => record.confirmedAs attached now } := by
    refine { Brings.refl with imports := fun id record' hg => .inl ?_ }
    obtain ⟨before, hold, ⟨rfl, rfl⟩ | ⟨-, rfl⟩⟩ := get?_of_modify hg
    · cases hrec.symm.trans hold
      exact ⟨record, hold, rfl, fun hact => hact, fun _ => .inl hsett,
        .inr (.inr ⟨rfl, record, hold, hsett⟩)⟩
    · exact ⟨record', hold, .refl id record'⟩
  rcases confirmProfile_eq_ok hpfd with ⟨_, -, rfl⟩ | ⟨-, -, -, -, rfl⟩
  · exact { hims with rawObjects := .modifyWhere (fun _ _ => rfl) fun _ _ => rfl }
  · exact { hims with
      rawObjects := .modifyWhere (fun _ _ => rfl) fun _ _ => rfl
      profiles := hims.profiles.set ⟨rfl, .inr ⟨rfl, record, hrec, hsett⟩⟩ }

/-- A profile changes its lifecycle as the target of a deletion only. -/
theorem profile_of_setLifecycle {kind : TargetKind} {scopeId id : String} {target : DeletionTarget}
    {state : LifecycleState} {generation : ℕ} {profile' : ProfileVersionRecord}
    (htgt : targetByScope db kind scopeId = some target)
    (h : (db.setLifecycle kind target.id state generation).profiles.get? id = some profile') :
    db.profiles.get? id = some profile' ∨
      NamesProfile db kind scopeId profile'.ownerUserId profile'.contentHash := by
  cases kind with
  | profile =>
    obtain ⟨profile, hg, rfl⟩ := get?_of_modifyWhere h
    split
    · rename_i hid
      exact .inr ⟨rfl, target, profile, htgt, of_decide_eq_true hid ▸ hg, rfl, rfl⟩
    · exact .inl hg
  | account | importing => exact .inl h

theorem fencePrepared_brings {prepared : LedgerEvent} {receiptId : String} :
    Brings w (.fence prepared receiptId now)
      (committed w.db (fencePrepared keys w.db prepared receiptId now)) := by
  refine fencePrepared_evolves.brings (committed_of (P := fun db' => ∀ id profile,
    db'.profiles.get? id = some profile → w.db.profiles.get? id = some profile ∨
      EndsProfile w profile.ownerUserId profile.contentHash (.fence prepared receiptId now))
    (fun _ _ => .inl) fun u db' h id profile hg => ?_)
  obtain ⟨intent, hint, -, -, hcases⟩ := fencePrepared_eq_ok h
  rcases hcases with ⟨control, ledgerReceipts, -, -, rfl⟩ | ⟨target, user, -, htgt, -, -, hfcd⟩
  · exact .inl hg
  · exact (profile_of_setLifecycle htgt (hfcd.profiles ▸ hg)).imp_right fun hnames =>
      ⟨intent, hint, hnames⟩

theorem recordRequested_brings {deletionId jobId receiptId : String} {requested : LedgerEvent} :
    Brings w (.request deletionId requested jobId receiptId now)
      (committed w.db (recordRequested keys w.db deletionId requested jobId receiptId now)) := by
  refine committed_of .refl fun u db' h => ?_
  obtain ⟨control, target, hctl, htgt, -, -, -, ⟨ledgerReceipts, -, -, rfl⟩ | ⟨-, hstd⟩⟩ :=
    recordRequested_eq_ok h
  · exact { Brings.refl with }
  · have hevolves : Evolves w.db { db' with jobs := w.db.jobs } :=
      ⟨fun id user' hg => setLifecycle_userStep (by decide) (hstd.users ▸ hg),
        (Shrinks.of_eq (by rw [hstd.rest])).noNewRows _,
        fun id record' hg => setLifecycle_importStep (by decide) (hstd.imports ▸ hg),
        (Shrinks.of_eq (by rw [hstd.rest])).noNewRows _,
        (Shrinks.of_eq (by rw [hstd.rest])).noNewRows _,
        fun id profile' hg => setLifecycle_profileStep (by decide) (hstd.profiles ▸ hg),
        fun id job hg => ⟨job, hg, FencedStep.refl _ job⟩⟩
    obtain ⟨user, importGeneration, -, -, hjs⟩ := hstd.jobs
    refine { hevolves.brings fun id profile hg => ?_ with jobs := ?_ }
    · exact (profile_of_setLifecycle htgt (hstd.profiles ▸ hg)).imp_right fun hnames =>
        ⟨control, hctl, hnames⟩
    rw [hjs]
    exact Brings.refl.jobs.set fun _ _ hk => absurd rfl hk

/-- **What a transaction brings in.** -/
theorem StoreStep.brings (hsound : Sound w) (hs : StoreStep auth keys w operation w') :
    Brings w operation w'.db := by
  cases hs with
  | @register request _ _ hfr hok =>
    obtain ⟨canonical, auditEvents, -, -, -, -, rfl⟩ := register_eq_ok hok
    have hrefl : Brings w (.register request) w.db := .refl
    exact { hrefl with users := hrefl.users.set hfr, sessions := hrefl.sessions.set hfr }
  | login hok => exact login_brings hok
  | check | abandon => exact .refl
  | record _ hfr _ => exact recordSubmission_brings hfr
  | install hfr => exact installSimulatedProfile_brings hfr
  | lease hok => exact (leaseLoop_works hok).1.brings
  | publish =>
    exact (publishDraft_works fun _ _ hj _ hrec hproc hact =>
      hsound.jobOfImport_kind hj hrec hproc hact).brings
  | confirm => exact confirm_brings
  | calculate hfrm _ => exact submitCalculation_brings hfrm
  | @schedule jobId job _ _ ho _ _ hjs hims hrest =>
    have hscheduled : Brings w (.schedule jobId job)
        { w.db with jobs := w.db.jobs.set jobId job } := by
      refine { Brings.refl with jobs := Brings.refl.jobs.set fun _ howns _ => ?_ }
      rw [ho] at howns
      cases howns
    exact hscheduled.of_same
      ⟨hrest.users, hrest.sessions, hrest.rawObjects, hrest.operationRequests, hrest.profiles⟩
      hims hjs
  | @replay jobId _ _ job _ operation _ _ _ ho _ _ hjs hops hrest hims =>
    have hwr : WritesFor w operation.ownerUserId (.replay jobId job) := ho.2
    have hrefl : Brings w (.replay jobId job) w.db := .refl
    refine ⟨hrest.users ▸ hrefl.users, hrest.sessions ▸ hrefl.sessions, hims ▸ hrefl.imports,
      hrest.rawObjects ▸ hrefl.rawObjects, hops ▸ hrefl.operationRequests.set hwr,
      hrest.profiles ▸ hrefl.profiles, ?_⟩
    rcases hjs with hjs | hjs <;> dsimp only <;> rw [hjs]
    · exact hrefl.jobs.set fun userId howns _ => Option.some.inj (ho.1.symm.trans howns) ▸ hwr
    · exact hrefl.jobs
  | fence => exact fencePrepared_brings
  | request _ => exact recordRequested_brings
  | sweep => exact sweepRows_recedes.brings
  | verify => exact verifyRows_recedes.brings
  | subsume => exact completeSubsumed_recedes.brings
  | complete =>
    exact (complete_recedes fun id profile hg => (hsound.profiles id profile hg).2).brings
  | work hworks => exact hworks.brings
  | other hevo => exact hevo.brings

theorem StoreStep.drawn_subset (hs : StoreStep auth keys w operation w') :
    w.drawn ⊆ w'.drawn := by
  cases hs with
  | register | install | calculate | schedule | replay | request => exact List.subset_cons_self _ _
  | record => exact fun id hid => List.mem_cons_of_mem _ (List.mem_cons_of_mem _ hid)
  | login | check | abandon | lease | publish | confirm | fence | sweep | verify | subsume
  | complete | work | other => exact List.Subset.refl _

end Brings

/-! ### Fenced accounts -/

/-- Every row that meets the condition was there and met it. -/
def KeepsOwned {α : Type} (owns : α → Prop) (table table' : Dict String α) : Prop :=
  ∀ id row', table'.get? id = some row' → owns row' → ∃ row, table.get? id = some row ∧ owns row

theorem not_keepsOwned {α : Type} {owns : α → Prop} [DecidablePred owns]
    {table table' : Dict String α} {id : String} (hnone : table.get? id = none)
    (hnew : (table'.get? id).any (owns ·) = true) : ¬ KeepsOwned owns table table' := by
  intro hkp
  obtain ⟨row', hg, howns⟩ := (Option.any_eq_true _ _).mp hnew
  obtain ⟨row, hold, -⟩ := hkp id row' hg (of_decide_eq_true howns)
  cases hnone.symm.trans hold

/-- No session, import, raw object or operation of an owner comes in, and no job but one that
deletes. -/
structure NoNewOwned (userId : String) (db db' : Database) : Prop where
  sessions : KeepsOwned (·.userId = userId) db.sessions db'.sessions
  imports : KeepsOwned (·.ownerUserId = userId) db.imports db'.imports
  rawObjects : KeepsOwned (·.ownerUserId = userId) db.rawObjects db'.rawObjects
  operationRequests :
    KeepsOwned (·.ownerUserId = userId) db.operationRequests db'.operationRequests
  jobs : KeepsOwned (fun job => job.ownerUserId = some userId ∧ job.kind ≠ .deletion) db.jobs
    db'.jobs

/-- A login to the account does not get its password right. -/
def StaysOut (auth : AuthKeys) (userId : String) (w : StoreWorld) : StoreOperation → Prop
  | .login request => ∀ canonical user, canonicalizeUsername request.username = .ok canonical →
      userOfName w.db canonical = some (userId, user) →
      auth.verify user.passwordHash request.password = false
  | _ => True

section AccountSteps

variable {auth : AuthKeys} {keys : DeletionKeys} {w w' : StoreWorld} {db' : Database}
  {operation : StoreOperation} {userId : String}

/-- A fenced account of which no submission is under way. -/
structure FencedAccount (userId : String) (w : StoreWorld) : Prop where
  sound : Sound w
  drawn : userId ∈ w.drawn
  fenced : ¬ ActiveUser w.db userId
  settled : ∀ generation, (userId, generation) ∉ w.admitted

/-- No rows of it are written. -/
theorem FencedAccount.not_writesFor (h : FencedAccount userId w)
    (hout : StaysOut auth userId w operation)
    (hs : StoreStep auth keys w operation w') : ¬ WritesFor w userId operation := by
  intro hwr
  cases hs with
  | register => exact hwr h.drawn
  | login hok =>
    obtain ⟨canonical, user, hcan, hfnd⟩ := hwr
    have hwrong := hout canonical user hcan hfnd
    obtain ⟨_, _, _, _, hcan', hfnd', hright, -⟩ := login_eq_ok hok
    cases hcan.symm.trans hcan'
    cases hfnd.symm.trans hfnd'
    cases hwrong.symm.trans hright
  | record hadm =>
    obtain rfl : _ = userId := hwr
    exact h.settled _ hadm
  | _ => exact h.fenced hwr

/-- Rows that keep their owner, where no row of the owner is new. -/
theorem RowsFrom.keepsOwned {α : Type} {owner : α → String} {moves : String → α → α → Prop}
    {new : String → α → Prop} {table table' : Dict String α}
    (h : RowsFrom moves new table table')
    (hmoves : ∀ id row row', moves id row row' → owner row' = owner row)
    (hnew : ∀ id row, new id row → WritesFor w (owner row) operation)
    (hnot : ¬ WritesFor w userId operation) : KeepsOwned (owner · = userId) table table' := by
  intro id row' hg howns
  rcases h id row' hg with ⟨row, hold, hrow⟩ | hrow
  · exact ⟨row, hold, (hmoves id row row' hrow).symm.trans howns⟩
  · exact absurd (howns ▸ hnew id row' hrow) hnot

theorem Brings.noNewOwned (h : Brings w operation db') (hnot : ¬ WritesFor w userId operation) :
    NoNewOwned userId w.db db' where
  sessions := h.sessions.keepsOwned (fun _ _ _ hsame => hsame) (fun _ _ hwr => hwr) hnot
  imports := h.imports.keepsOwned (fun _ _ _ hmoves => hmoves.ownerUserId)
    (fun _ _ hnew => hnew.2) hnot
  rawObjects :=
    h.rawObjects.keepsOwned (fun _ _ _ hsame => hsame) (fun _ _ hwr => hwr) hnot
  operationRequests :=
    h.operationRequests.keepsOwned (fun _ _ _ hsame => hsame) (fun _ _ hwr => hwr) hnot
  jobs := by
    rintro id job' hg ⟨ho, hk⟩
    rcases h.jobs id job' hg with ⟨job, hold, hreq⟩ | hnew
    · exact ⟨job, hold, (congrArg JobRequest.ownerUserId hreq).symm.trans ho,
        fun hj => hk ((congrArg JobRequest.kind hreq).trans hj)⟩
    · exact absurd (hnew userId ho hk) hnot

/-- A fenced account stays fenced: only a registration brings in an active account, under an
identifier that was not drawn before. -/
theorem Brings.activeUser (h : Brings w operation db') (hdr : userId ∈ w.drawn)
    (hact : ActiveUser db' userId) : ActiveUser w.db userId := by
  obtain ⟨user', hg, hact⟩ := hact
  rcases h.users userId user' hg with ⟨user, hold, hs⟩ | hnew
  · exact ⟨user, hold, (hs hact).1⟩
  · exact absurd hdr hnew

/-- A fenced account is not admitted to a submission. -/
theorem FencedAccount.step (h : FencedAccount userId w) (hs : StoreStep auth keys w operation w') :
    FencedAccount userId w' := by
  refine ⟨hs.sound h.sound, hs.drawn_subset h.drawn,
    fun hact => h.fenced ((hs.brings h.sound).activeUser h.drawn hact), fun generation hadm => ?_⟩
  cases hs with
  | check hok =>
    obtain ⟨user, huser, hact, -⟩ := admitSubmission_eq_inr hok
    rcases List.mem_cons.mp hadm with heq | hadm
    · cases heq
      exact h.fenced ⟨user, huser, hact⟩
    · exact h.settled generation hadm
  | record | abandon => exact h.settled generation (List.mem_of_mem_erase hadm)
  | _ => exact h.settled generation hadm

/-- **The fence of an account holds**: from a state in which the account is fenced and no
submission of it is between its two transactions, such as the one its fence leaves behind then,
no transaction brings in a row of the account along every run in which no login to it gets the
password right. -/
theorem account_fence_holds {user : UserRecord}
    (hreached : ReachedBy EmptyStore (StoreStep auth keys) (fun _ _ => True) w)
    (huser : w.db.users.get? userId = some user) (hfenced : user.lifecycleState ≠ .active)
    (hsettled : ∀ generation, (userId, generation) ∉ w.admitted)
    {t t' : StoreWorld} {operation : StoreOperation}
    (hrun : Runs (StoreStep auth keys) (StaysOut auth userId) w t)
    (hallowed : StaysOut auth userId t operation) (hstep : StoreStep auth keys t operation t') :
    NoNewOwned userId t.db t'.db := by
  have hsound := sound_of_reached hreached
  have hinactive : ¬ ActiveUser w.db userId := by
    rintro ⟨user', hget, hactive⟩
    cases huser.symm.trans hget
    exact hfenced hactive
  have hkept : FencedAccount userId t :=
    hrun.keeps (fun _ _ _ h _ hs => h.step hs)
      ⟨hsound, (hsound.users userId user huser).1, hinactive, hsettled⟩
  exact (hstep.brings hkept.sound).noNewOwned (hkept.not_writesFor hallowed hstep)

end AccountSteps

namespace SmallStore

/-- A request to delete a target, by its owner. -/
def intentOn (kind : TargetKind) (resourceId deletionId : String) (now : ℤ) : IntentRequest where
  ownerUserId := owner
  targetKind := kind
  targetResourceId := resourceId
  idempotencyKey := "deletion-" ++ deletionId
  receiptSecret := List.replicate 32 0
  deletionId := deletionId
  receiptVerifier := "verifier"
  now := now

/-- The event that prepares the deletion of a scope. -/
def preparedOn (deletionId scopeId : String) (now : ℤ) : LedgerEvent where
  deletionId := deletionId
  phase := .prepared
  identity := ⟨scopeId, "restore-key-1", 0, 1, digest 'b', digest 'a'⟩
  occurredAt := now
  previousReceipt := none
  receipt := digest 'c'

def accountDeletion : String := "80000000000000000000000000000001"

def accountPrepared : LedgerEvent :=
  preparedOn accountDeletion "10000000000000000000000000000001" 0

/-- The owner starts to delete the account. -/
def accountIntended (w : StoreWorld) : StoreWorld :=
  w.commit (committed w.db (createIntent keys w.db (intentOn .account owner accountDeletion 0)))

def accountFenced (w : StoreWorld) : StoreWorld :=
  (accountIntended w).commit (committed (accountIntended w).db
    (fencePrepared keys (accountIntended w).db accountPrepared
      "90000000000000000000000000000001" 0))

def ownerLogin : Login where
  username := "owner"
  password := "a long password"
  rehashed := "a long password"
  priorSessionToken := none
  session := ⟨"50000000000000000000000000000002", digest '5', digest '6', 1⟩

def secondRegistration : Registration where
  username := "second_owner"
  password := "another long password"
  passwordHash := "another long password"
  userId := "00000000000000000000000000000009"
  deletionScopeId := "10000000000000000000000000000009"
  session := ⟨"50000000000000000000000000000003", digest '3', digest '4', 1⟩

theorem accountFenced_reached {w : StoreWorld}
    (h : ReachedBy EmptyStore (StoreStep auth keys) (fun _ _ => True) w) :
    ReachedBy EmptyStore (StoreStep auth keys) (fun _ _ => True) (accountFenced w) :=
  (h.snoc trivial (.other createIntent_recedes)).snoc trivial .fence

end SmallStore

section

open SmallStore

/-- The account of the small store is fenced after its submission was recorded, when another
account is registered. -/
theorem account_fence_holds_registered : ∃ t', StoreStep auth keys
      (accountFenced recorded) (.register secondRegistration) t' ∧
    ((accountFenced recorded).db.users.get? owner).map (·.lifecycleState)
      = some .deletionPendingLedger ∧
    NoNewOwned owner (accountFenced recorded).db t'.db := by
  have hstate : ((accountFenced recorded).db.users.get? owner).map (·.lifecycleState)
      = some .deletionPendingLedger := by decide +kernel
  obtain ⟨user, huser, hfenced⟩ := Option.map_eq_some_iff.mp hstate
  have hadmitted : (accountFenced recorded).admitted = [] := by decide +kernel
  obtain ⟨⟨grant, db'⟩, hok⟩ : ∃ r, register auth (accountFenced recorded).db
      secondRegistration = .ok r := by decide +kernel
  have hstep : StoreStep auth keys (accountFenced recorded)
      (.register secondRegistration) _ := .register (by decide +kernel) hok
  have hallowed : StaysOut auth owner (accountFenced recorded)
      (.register secondRegistration) := trivial
  refine ⟨_, hstep, hstate, account_fence_holds (accountFenced_reached
    (recorded_reached (admitted_reached trivial trivial) trivial)) huser ?_ ?_ (Runs.refl _)
    hallowed hstep⟩
  · rw [hfenced]
    decide
  · rw [hadmitted]
    exact fun _ => List.not_mem_nil

/-- **A submission that was admitted before the fence is recorded after it, and a fenced account
can be logged in to**: neither looks at the account again. -/
theorem submission_after_fence :
    ReachedBy EmptyStore (StoreStep auth keys) (fun _ _ => True)
        (accountFenced admitted) ∧
      preparedAppend keys (accountIntended admitted).db [] accountDeletion 0
        = .ok (accountPrepared, [accountPrepared]) ∧
      ((accountFenced admitted).db.users.get? owner).map (·.lifecycleState)
        = some .deletionPendingLedger ∧
      (owner, 0) ∈ (accountFenced admitted).admitted ∧
      (∃ db', recordSubmission (accountFenced admitted).db upload 0 importIds 1
          = .ok (⟨importId, jobId, false⟩, db') ∧
        ¬ NoNewOwned owner (accountFenced admitted).db db') ∧
      ∃ grant db', login auth (accountFenced admitted).db ownerLogin
          = .ok (grant, db') ∧
        ¬ NoNewOwned owner (accountFenced admitted).db db' := by
  refine ⟨accountFenced_reached (admitted_reached trivial trivial), by decide +kernel,
    by decide +kernel, by decide +kernel, ?_, ?_⟩
  · obtain ⟨⟨_, db'⟩, hok, rfl, himport⟩ : ∃ r, recordSubmission (accountFenced admitted).db upload
        0 importIds 1 = .ok r ∧ r.1 = ⟨importId, jobId, false⟩ ∧
          (r.2.imports.get? importId).any (·.ownerUserId = owner) := by decide +kernel
    exact ⟨db', hok, fun hkeeps => not_keepsOwned (by decide +kernel) himport hkeeps.imports⟩
  · obtain ⟨⟨grant, db'⟩, hok, hsession⟩ : ∃ r, login auth (accountFenced admitted).db ownerLogin
        = .ok r ∧
          (r.2.sessions.get? "50000000000000000000000000000002").any (·.userId = owner) := by
      decide +kernel
    exact ⟨grant, db', hok,
      fun hkeeps => not_keepsOwned (by decide +kernel) hsession hkeeps.sessions⟩

end

/-! ### Fenced imports -/

/-- The import does not get a profile it did not have, and no profile comes in under it. -/
structure NoNewProfile (importId : String) (db db' : Database) : Prop where
  attached : ∀ record', db'.imports.get? importId = some record' →
    record'.profileVersionId = none ∨
      ∃ record, db.imports.get? importId = some record ∧
        record'.profileVersionId = record.profileVersionId
  profiles : KeepsOwned (·.importId = importId) db.profiles db'.profiles

section ImportSteps

variable {auth : AuthKeys} {keys : DeletionKeys} {w w' : StoreWorld} {db db' : Database}
  {operation : StoreOperation} {importId : String} {now : ℤ}

theorem Brings.noNewProfile (h : Brings w operation db') (hdr : importId ∈ w.drawn)
    (hnot : ¬ Confirms w importId operation) : NoNewProfile importId w.db db' where
  attached record' hg := by
    rcases h.imports importId record' hg with ⟨record, hold, hmoves⟩ | ⟨hnew, -⟩
    · rcases hmoves.profileVersionId with hsame | hnone | hcfm
      · exact .inr ⟨record, hold, hsame⟩
      · exact .inl hnone
      · exact absurd hcfm hnot
    · exact absurd hdr hnew
  profiles id profile' hg hu := by
    rcases h.profiles id profile' hg with ⟨profile, hold, hsame, -⟩ | ⟨-, hnew | hcfm⟩
    · exact ⟨profile, hold, hsame.symm.trans hu⟩
    · exact absurd hdr (hu ▸ hnew)
    · exact absurd (hu ▸ hcfm) hnot

/-- A fenced import whose draft is not published. -/
structure FencedImport (importId : String) (w : StoreWorld) : Prop where
  sound : Sound w
  drawn : importId ∈ w.drawn
  fenced : ∀ record, w.db.imports.get? importId = some record →
    record.lifecycleState ≠ .active ∧ record.settled = false

theorem FencedImport.not_confirms (h : FencedImport importId w) :
    ¬ Confirms w importId operation := by
  intro hcfm
  cases operation with
  | confirm =>
    obtain ⟨-, record, hrec, hsett⟩ := hcfm
    cases hsett.symm.trans (h.fenced record hrec).2
  | _ => exact hcfm

/-- It stays so: an active import comes in under an identifier that was not drawn before, and
drafts of active imports are published only. -/
theorem FencedImport.step (h : FencedImport importId w) (hs : StoreStep auth keys w operation w') :
    FencedImport importId w' := by
  refine ⟨hs.sound h.sound, hs.drawn_subset h.drawn, fun record' hg => ?_⟩
  rcases (hs.brings h.sound).imports importId record' hg with ⟨record, hold, hmoves⟩ | ⟨hnew, -⟩
  · obtain ⟨hfcd, hunsettled⟩ := h.fenced record hold
    refine ⟨fun hact => hfcd (hmoves.active hact), ?_⟩
    rw [Bool.eq_false_iff] at hunsettled ⊢
    exact fun hsett => (hmoves.settled hsett).elim hunsettled hfcd
  · exact absurd h.drawn hnew

/-- All profiles of an owner with some content are active. -/
def ContentActive (ownerUserId contentHash : String) (db : Database) : Prop :=
  ∀ id profile, db.profiles.get? id = some profile → profile.ownerUserId = ownerUserId →
    profile.contentHash = contentHash → profile.lifecycleState = .active

theorem Brings.contentActive {ownerUserId contentHash : String} (h : Brings w operation db')
    (hends : ¬ EndsProfile w ownerUserId contentHash operation)
    (hact : ContentActive ownerUserId contentHash w.db) :
    ContentActive ownerUserId contentHash db' := by
  rintro id profile' hg rfl rfl
  rcases h.profiles id profile' hg with ⟨profile, hold, -, rfl | hended⟩ | ⟨hnew, -⟩
  · exact hact id profile' hold rfl rfl
  · exact absurd hended hends
  · exact hnew

theorem confirm_attaches_active {ownerUserId attached : String} {content : ConfirmedContent}
    {profileId deletionScopeId : String}
    (hact : ContentActive ownerUserId content.contentHash db)
    (h : confirm db ownerUserId importId content profileId deletionScopeId now
      = .ok (attached, db')) : ActiveProfile db' attached := by
  obtain ⟨record, profiled, -, -, -, hpfd, rfl⟩ := confirm_eq_ok h
  rcases confirmProfile_eq_ok hpfd with ⟨profile, hfnd, rfl⟩ | ⟨-, rfl, -, -, rfl⟩
  · obtain ⟨hg, hsame⟩ := first_eq_some_get? hfnd
    rw [Bool.and_eq_true, decide_eq_true_eq, decide_eq_true_eq] at hsame
    exact ⟨profile, hg, hact attached profile hg hsame.1 hsame.2⟩
  · exact ⟨_, get?_set_self _ _ _, rfl⟩

/-- **The fence of an import holds, and no import is confirmed as a fenced profile**: from a state
in which an import is fenced and its draft not published, no transaction attaches a profile to it
or creates one under it, along every run; and along every run in which no deletion of a profile of
some content is fenced or swept, every confirmation of that content attaches an active profile. -/
theorem import_fence_holds :
    (∀ w, ReachedBy EmptyStore (StoreStep auth keys) (fun _ _ => True) w →
      ∀ importId record, w.db.imports.get? importId = some record →
      record.lifecycleState ≠ .active → record.settled = false →
      ∀ t t' operation, Runs (StoreStep auth keys) (fun _ _ => True) w t →
        StoreStep auth keys t operation t' → NoNewProfile importId t.db t'.db) ∧
    ∀ w ownerUserId content, ReachedBy EmptyStore (StoreStep auth keys)
        (fun w operation => ¬ EndsProfile w ownerUserId content.contentHash operation) w →
      ∀ importId profileId deletionScopeId now attached db',
      confirm w.db ownerUserId importId content profileId deletionScopeId now
        = .ok (attached, db') → ActiveProfile db' attached := by
  constructor
  · intro w hreached importId record hrecord hfenced hunsettled t t' operation hrun hstep
    have hsound := sound_of_reached hreached
    have hkept : FencedImport importId t := by
      refine hrun.keeps (fun _ _ _ h _ hs => h.step hs)
        ⟨hsound, hsound.imports importId record hrecord, fun other hother => ?_⟩
      cases hrecord.symm.trans hother
      exact ⟨hfenced, hunsettled⟩
    exact (hstep.brings hkept.sound).noNewProfile hkept.drawn hkept.not_confirms
  · intro w ownerUserId content hreached importId profileId deletionScopeId now attached db' hok
    refine confirm_attaches_active (hreached.invariant
      (I := fun w => Sound w ∧ ContentActive ownerUserId content.contentHash w.db)
      (fun w hempty => ⟨sound_of_emptyStore hempty, fun id profile hget => ?_⟩)
      fun w operation w' ⟨hsound, hactive⟩ hallowed hs =>
        ⟨hs.sound hsound, (hs.brings hsound).contentActive hallowed hactive⟩).2 hok
    rw [hempty.2.2.1] at hget
    cases hget

end ImportSteps

namespace SmallStore

def importDeletion : String := "80000000000000000000000000000002"

def importPrepared : LedgerEvent := preparedOn importDeletion "10000000000000000000000000000002" 2

/-- The draft of the import is published. -/
def draftPublished : StoreWorld :=
  importStarted.commit (committed importStarted.db
    (publishDraft importStarted.db importId draftRows "worker-1" 1 1))

/-- The owner starts to delete the import. -/
def importIntended (w : StoreWorld) : StoreWorld :=
  w.commit (committed w.db (createIntent keys w.db (intentOn .importing importId importDeletion 2)))

def importFenced (w : StoreWorld) : StoreWorld :=
  (importIntended w).commit (committed (importIntended w).db
    (fencePrepared keys (importIntended w).db importPrepared
      "90000000000000000000000000000002" 2))

theorem draftPublished_reached {allowed : StoreWorld → StoreOperation → Prop}
    (h : ReachedBy EmptyStore (StoreStep auth keys) allowed importStarted)
    (hpbl : allowed importStarted (.publish importId draftRows "worker-1" 1 1)) :
    ReachedBy EmptyStore (StoreStep auth keys) allowed draftPublished :=
  h.snoc hpbl .publish

theorem importFenced_reached {w : StoreWorld}
    (h : ReachedBy EmptyStore (StoreStep auth keys) (fun _ _ => True) w) :
    ReachedBy EmptyStore (StoreStep auth keys) (fun _ _ => True) (importFenced w) :=
  (h.snoc trivial (.other createIntent_recedes)).snoc trivial .fence

end SmallStore

section

open SmallStore

/-- The import of the small store is fenced while its draft is made: the publication that comes
later attaches no profile.  Where it is published, it is confirmed as an active profile. -/
theorem import_fence_holds_confirmed :
    NoNewProfile importId (importFenced importStarted).db
        (committed (importFenced importStarted).db
          (publishDraft (importFenced importStarted).db importId draftRows "worker-1" 1 3)) ∧
      ∃ db', confirm draftPublished.db owner importId
          content profileId "10000000000000000000000000000003" 2
          = .ok (profileId, db') ∧
        ActiveProfile db' profileId := by
  have hstate : ((importFenced importStarted).db.imports.get? importId).map
      (fun record => (record.lifecycleState, record.settled))
      = some (.deletionPendingLedger, false) := by decide +kernel
  obtain ⟨record, hrecord, hcolumns⟩ := Option.map_eq_some_iff.mp hstate
  obtain ⟨hlifecycle, hunsettled⟩ := Prod.mk.inj hcolumns
  obtain ⟨⟨_, db'⟩, hok, rfl⟩ : ∃ r, confirm draftPublished.db owner importId content profileId
      "10000000000000000000000000000003" 2 = .ok r ∧ r.1 = profileId := by decide +kernel
  refine ⟨?_, db', hok, ?_⟩
  · have hstep : StoreStep auth keys (importFenced importStarted)
        (.publish importId draftRows "worker-1" 1 3) _ := .publish
    refine import_fence_holds.1 (importFenced importStarted) (importFenced_reached
      (importStarted_reached (admitted_reached trivial trivial) trivial trivial trivial))
      importId record hrecord ?_ hunsettled _ _ _ (Runs.refl _) hstep
    rw [hlifecycle]
    decide
  · have hpublished : ReachedBy EmptyStore (StoreStep auth keys)
        (fun w operation => ¬ EndsProfile w owner content.contentHash operation)
        draftPublished :=
      draftPublished_reached (importStarted_reached (admitted_reached id id) id id id) id
    exact import_fence_holds.2 _ _ _ hpublished _ _ _ _ _ _ hok

/-- **A fenced import is confirmed**: a confirmation looks at the processing state of the import
only, and creates a profile under an import that is being deleted. -/
theorem confirmation_after_fence :
    ReachedBy EmptyStore (StoreStep auth keys) (fun _ _ => True)
        (importFenced draftPublished) ∧
      preparedAppend keys (importIntended draftPublished).db [] importDeletion 2
        = .ok (importPrepared, [importPrepared]) ∧
      ((importFenced draftPublished).db.imports.get? importId).map
        (fun record => (record.lifecycleState, record.state, record.profileVersionId))
        = some (.deletionPendingLedger, .ready, none) ∧
      ∃ db', confirm (importFenced draftPublished).db owner importId
          content profileId "10000000000000000000000000000003" 3
          = .ok (profileId, db') ∧
        (db'.imports.get? importId).map
          (fun record => (record.lifecycleState, record.state, record.profileVersionId))
          = some (.deletionPendingLedger, .confirmed, some profileId) ∧
        ¬ NoNewProfile importId (importFenced draftPublished).db db' := by
  refine ⟨importFenced_reached (draftPublished_reached (importStarted_reached
      (admitted_reached trivial trivial) trivial trivial trivial) trivial),
    by decide +kernel, by decide +kernel, ?_⟩
  obtain ⟨⟨_, db'⟩, hok, rfl, hrecord, hprofile⟩ : ∃ r, confirm (importFenced draftPublished).db
      owner importId content profileId "10000000000000000000000000000003" 3 = .ok r ∧
        r.1 = profileId ∧
        (r.2.imports.get? importId).map
          (fun record => (record.lifecycleState, record.state, record.profileVersionId))
          = some (.deletionPendingLedger, .confirmed, some profileId) ∧
        (r.2.profiles.get? profileId).any (·.importId = importId) := by decide +kernel
  exact ⟨db', hok, hrecord,
    fun hkeeps => not_keepsOwned (by decide +kernel) hprofile hkeeps.profiles⟩

end

end RateReplay
