import RateReplay.Api.Accounts
import RateReplay.Lib.Runs
import RateReplay.Persistence.StoreChanges

/-!
# Runs of the store

Accounts, imports, profiles and their jobs under all the transactions that write them, taken in
any order.  A system is the database together with what the processes have in hand: the leases
handed out to workers, and the submissions that were admitted and are not recorded yet.

Identifiers are drawn at random; a system also knows the identifiers drawn so far, and a new one
is none of them.

## Main definitions

* `StoreWorld`, `StoreOperation`, `StoreStep` — the system and its transactions.
* `Evolves`, `Recedes` — what a transaction does that inserts nothing and works on no job, and
  what it does when it fences nothing either.

## Main results

* `fencePrepared_evolves`, `complete_recedes`, … — **deletions only take away**: no row is
  added, and nothing becomes active again.
-/

namespace RateReplay

open Dict

/-! ### Rows that evolve -/

/-- The account is there and active. -/
def ActiveUser (db : Database) (id : String) : Prop :=
  ∃ user, db.users.get? id = some user ∧ user.lifecycleState = .active

/-- The import is there and active. -/
def ActiveImport (db : Database) (id : String) : Prop :=
  ∃ record, db.imports.get? id = some record ∧ record.lifecycleState = .active

/-- The profile is there and active. -/
def ActiveProfile (db : Database) (id : String) : Prop :=
  ∃ profile, db.profiles.get? id = some profile ∧ profile.lifecycleState = .active

/-- The target of a deletion is there and active. -/
def ActiveTarget (db : Database) : TargetKind → String → Prop
  | .account => ActiveUser db
  | .importing => ActiveImport db
  | .profile => ActiveProfile db

/-- The account, the import or the profile of a job is not active any more. -/
def ScopeFenced (db : Database) (request : JobRequest) : Prop :=
  (∃ id, request.ownerUserId = some id ∧ ¬ ActiveUser db id) ∨
    (∃ id, request.importId = some id ∧ ¬ ActiveImport db id) ∨
    ∃ id, request.profileVersionId = some id ∧ ¬ ActiveProfile db id

/-- Every row was there before, with the same value of a column. -/
def NoNewRows {α β : Type} (column : α → β) (table table' : Dict String α) : Prop :=
  ∀ id row', table'.get? id = some row' → ∃ row, table.get? id = some row ∧ column row' = column row

/-- An account does not become active again. -/
def UserStep (user user' : UserRecord) : Prop :=
  user'.lifecycleState = .active →
    user.lifecycleState = .active ∧ user'.lifecycleGeneration = user.lifecycleGeneration

/-- An import does not become active again, and keeps its draft. -/
structure ScopeStep (record record' : ImportRecord) : Prop where
  ownerUserId : record'.ownerUserId = record.ownerUserId
  active : record'.lifecycleState = .active → record.lifecycleState = .active
  settled : record'.settled = record.settled

/-- An import that moves on so loses its profile at most. -/
structure ImportStep (record record' : ImportRecord) : Prop extends ScopeStep record record' where
  profileVersionId : record'.profileVersionId = record.profileVersionId ∨
    record'.profileVersionId = none

/-- A profile stays under its import and does not become active again. -/
structure ProfileStep (profile profile' : ProfileVersionRecord) : Prop where
  importId : profile'.importId = profile.importId
  active : profile'.lifecycleState = .active → profile.lifecycleState = .active

/-- A job whose cancellation is requested has ended, or its scope is fenced. -/
structure FencedStep (db' : Database) (job job' : JobRecord) : Prop where
  request : job'.request = job.request
  terminal : job.state.terminal = true → job'.state.terminal = true
  cancelRequested : job'.cancelRequested = true →
    job.cancelRequested = true ∨ job'.state.terminal = true ∨ ScopeFenced db' job'.request

/-- The scopes of jobs, and the jobs in them, are removed, fenced, or changed in columns that do
not matter to a fence. -/
structure ScopesEvolve (db db' : Database) : Prop where
  users : ∀ id user', db'.users.get? id = some user' →
    ∃ user, db.users.get? id = some user ∧ UserStep user user'
  imports : ∀ id record', db'.imports.get? id = some record' →
    ∃ record, db.imports.get? id = some record ∧ ScopeStep record record'
  profiles : ∀ id profile', db'.profiles.get? id = some profile' →
    ∃ profile, db.profiles.get? id = some profile ∧ ProfileStep profile profile'
  jobs : ∀ id job', db'.jobs.get? id = some job' →
    ∃ job, db.jobs.get? id = some job ∧ FencedStep db' job job'

/-- So it is with every row of an owner; no import gets a profile. -/
structure Evolves (db db' : Database) : Prop where
  users : ∀ id user', db'.users.get? id = some user' →
    ∃ user, db.users.get? id = some user ∧ UserStep user user'
  sessions : NoNewRows (·.userId) db.sessions db'.sessions
  imports : ∀ id record', db'.imports.get? id = some record' →
    ∃ record, db.imports.get? id = some record ∧ ImportStep record record'
  rawObjects : NoNewRows (·.ownerUserId) db.rawObjects db'.rawObjects
  operationRequests : NoNewRows (·.ownerUserId) db.operationRequests db'.operationRequests
  profiles : ∀ id profile', db'.profiles.get? id = some profile' →
    ∃ profile, db.profiles.get? id = some profile ∧ ProfileStep profile profile'
  jobs : ∀ id job', db'.jobs.get? id = some job' →
    ∃ job, db.jobs.get? id = some job ∧ FencedStep db' job job'

section Evolution

variable {db db' : Database} {id : String}

/-- The table is the other one, with rows removed. -/
def Shrinks {α : Type} (table table' : Dict String α) : Prop :=
  ∀ id row, table'.get? id = some row → table.get? id = some row

theorem Shrinks.refl {α : Type} {table : Dict String α} : Shrinks table table :=
  fun _ _ hg => hg

theorem Shrinks.of_eq {α : Type} {table table' : Dict String α} (h : table' = table) :
    Shrinks table table' :=
  h ▸ .refl

theorem Shrinks.deleteWhere {α : Type} (table : Dict String α) (p : String → α → Bool) :
    Shrinks table (table.deleteWhere p) :=
  fun _ _ hg => get?_of_deleteWhere hg

theorem Shrinks.noNewRows {α β : Type} {table table' : Dict String α} (h : Shrinks table table')
    (column : α → β) : NoNewRows column table table' :=
  fun id row hg => ⟨row, h id row hg, rfl⟩

theorem UserStep.refl (user : UserRecord) : UserStep user user := fun h => ⟨h, rfl⟩

theorem ImportStep.refl (record : ImportRecord) : ImportStep record record :=
  ⟨⟨rfl, id, rfl⟩, .inl rfl⟩

theorem ProfileStep.refl (profile : ProfileVersionRecord) : ProfileStep profile profile :=
  ⟨rfl, id⟩

theorem FencedStep.refl (db : Database) (job : JobRecord) : FencedStep db job job :=
  ⟨rfl, id, .inl⟩

/-- No profile changes its lifecycle either: profiles go at most. -/
structure Recedes (db db' : Database) : Prop extends Evolves db db' where
  shrinks : Shrinks db.profiles db'.profiles

/-- Rows are removed, and nothing else happens. -/
theorem Recedes.of_shrinks (hus : Shrinks db.users db'.users)
    (hsessions : Shrinks db.sessions db'.sessions) (hims : Shrinks db.imports db'.imports)
    (hraw : Shrinks db.rawObjects db'.rawObjects)
    (hops : Shrinks db.operationRequests db'.operationRequests)
    (hpfs : Shrinks db.profiles db'.profiles) (hjs : Shrinks db.jobs db'.jobs) :
    Recedes db db' where
  users id user hg := ⟨user, hus id user hg, UserStep.refl user⟩
  sessions := hsessions.noNewRows _
  imports id record hg := ⟨record, hims id record hg, ImportStep.refl record⟩
  rawObjects := hraw.noNewRows _
  operationRequests := hops.noNewRows _
  profiles id profile hg := ⟨profile, hpfs id profile hg, ProfileStep.refl profile⟩
  jobs id job hg := ⟨job, hjs id job hg, FencedStep.refl db' job⟩
  shrinks := hpfs

theorem Recedes.of_same (h : (db'.users, db'.sessions, db'.imports, db'.rawObjects,
    db'.operationRequests, db'.profiles, db'.jobs) = (db.users, db.sessions, db.imports,
      db.rawObjects, db.operationRequests, db.profiles, db.jobs)) : Recedes db db' := by
  simp only [Prod.mk.injEq] at h
  obtain ⟨hus, hsessions, hims, hraw, hops, hpfs, hjs⟩ := h
  exact .of_shrinks (.of_eq hus) (.of_eq hsessions) (.of_eq hims) (.of_eq hraw)
    (.of_eq hops) (.of_eq hpfs) (.of_eq hjs)

theorem Recedes.refl (db : Database) : Recedes db db :=
  .of_same rfl

theorem Evolves.scopes (h : Evolves db db') : ScopesEvolve db db' where
  users := h.users
  imports id record' hg := by
    obtain ⟨record, hold, hs⟩ := h.imports id record' hg
    exact ⟨record, hold, hs.toScopeStep⟩
  profiles := h.profiles
  jobs := h.jobs

theorem ScopesEvolve.of_same (h : (db'.users, db'.imports, db'.profiles, db'.jobs)
    = (db.users, db.imports, db.profiles, db.jobs)) : ScopesEvolve db db' := by
  simp only [Prod.mk.injEq] at h
  obtain ⟨hus, hims, hpfs, hjs⟩ := h
  exact ⟨fun _ user hg => ⟨user, hus ▸ hg, UserStep.refl user⟩,
    fun _ record hg => ⟨record, hims ▸ hg, (ImportStep.refl record).toScopeStep⟩,
    fun _ profile hg => ⟨profile, hpfs ▸ hg, ProfileStep.refl profile⟩,
    fun _ job hg => ⟨job, hjs ▸ hg, FencedStep.refl db' job⟩⟩

/-- A fenced scope stays fenced while nothing it names becomes active. -/
theorem ScopeFenced.mono {request : JobRequest} (h : ScopeFenced db request)
    (hus : ∀ id, request.ownerUserId = some id → ActiveUser db' id → ActiveUser db id)
    (hims : ∀ id, request.importId = some id → ActiveImport db' id → ActiveImport db id)
    (hpfs : ∀ id, request.profileVersionId = some id → ActiveProfile db' id →
      ActiveProfile db id) : ScopeFenced db' request := by
  rcases h with ⟨id, hid, hfcd⟩ | ⟨id, hid, hfcd⟩ | ⟨id, hid, hfcd⟩
  · exact .inl ⟨id, hid, fun hact => hfcd (hus id hid hact)⟩
  · exact .inr (.inl ⟨id, hid, fun hact => hfcd (hims id hid hact)⟩)
  · exact .inr (.inr ⟨id, hid, fun hact => hfcd (hpfs id hid hact)⟩)

end Evolution

/-! ### Deletions evolve -/

section Deletions

variable {keys : DeletionKeys} {db db' : Database} {now : ℤ} {prepared : LedgerEvent}
  {target : DeletionTarget} {receiptId : String} {lease : JobLease} {intent : DeletionIntentRecord}
  {deletionId : String}

/-! The lifecycle of a target moves, to a state that is not `ACTIVE`. -/

section Lifecycle

variable {kind : TargetKind} {target : String} {state : LifecycleState} {generation : ℕ}
  {id : String}

theorem setLifecycle_userStep (hst : state ≠ .active) {user' : UserRecord}
    (h : (db.setLifecycle kind target state generation).users.get? id = some user') :
    ∃ user, db.users.get? id = some user ∧ UserStep user user' := by
  cases kind with
  | account =>
    obtain ⟨user, hg, rfl⟩ := get?_of_modifyWhere h
    refine ⟨user, hg, ?_⟩
    split
    · exact fun hact => absurd hact hst
    · exact UserStep.refl user
  | importing | profile => exact ⟨user', h, UserStep.refl user'⟩

theorem setLifecycle_importStep (hst : state ≠ .active) {record' : ImportRecord}
    (h : (db.setLifecycle kind target state generation).imports.get? id = some record') :
    ∃ record, db.imports.get? id = some record ∧ ImportStep record record' := by
  cases kind with
  | importing =>
    obtain ⟨record, hg, rfl⟩ := get?_of_modifyWhere h
    refine ⟨record, hg, ?_⟩
    split
    · exact ⟨⟨rfl, fun hact => absurd hact hst, rfl⟩, .inl rfl⟩
    · exact ImportStep.refl record
  | account | profile => exact ⟨record', h, ImportStep.refl record'⟩

theorem setLifecycle_profileStep (hst : state ≠ .active) {profile' : ProfileVersionRecord}
    (h : (db.setLifecycle kind target state generation).profiles.get? id = some profile') :
    ∃ profile, db.profiles.get? id = some profile ∧ ProfileStep profile profile' := by
  cases kind with
  | profile =>
    obtain ⟨profile, hg, rfl⟩ := get?_of_modifyWhere h
    refine ⟨profile, hg, ?_⟩
    split
    · exact ⟨rfl, fun hact => absurd hact hst⟩
    · exact ProfileStep.refl profile
  | account | importing => exact ⟨profile', h, ProfileStep.refl profile'⟩

/-- After that the target is not active. -/
theorem setLifecycle_not_active (hst : state ≠ .active) :
    ¬ ActiveTarget (db.setLifecycle kind target state generation) kind target := by
  cases kind <;>
  · rintro ⟨row, hg, hact⟩
    obtain ⟨row, -, rfl⟩ := get?_of_modifyWhere hg
    rw [if_pos (decide_eq_true rfl)] at hact
    exact hst hact

end Lifecycle

theorem activeTarget_congr (hus : db'.users = db.users) (hims : db'.imports = db.imports)
    (hpfs : db'.profiles = db.profiles) (kind : TargetKind) (id : String) :
    ActiveTarget db' kind id ↔ ActiveTarget db kind id := by
  cases kind with
  | account => rw [ActiveTarget, ActiveTarget, ActiveUser, ActiveUser, hus]
  | importing => rw [ActiveTarget, ActiveTarget, ActiveImport, ActiveImport, hims]
  | profile => rw [ActiveTarget, ActiveTarget, ActiveProfile, ActiveProfile, hpfs]

/-- A fence that has committed leaves its target inactive. -/
theorem Fenced.not_active (h : Fenced db db' prepared intent target now) :
    ¬ ActiveTarget db' intent.targetKind target.id := by
  rw [activeTarget_congr h.users h.imports h.profiles]
  exact setLifecycle_not_active (by decide)

/-- What a fence does to a job that depends on its target. -/
theorem Fenced.fencedStep {job : JobRecord} (h : Fenced db db' prepared intent target now)
    (ho : intent.targetKind = .account → target.id = intent.ownerUserId)
    (hfences : fencesJob intent.targetKind target.id intent.ownerUserId job = true) :
    FencedStep db' job (job.fence (intent.targetKind.text ++ "_DELETION") now) := by
  have hfcd := h.not_active
  have hlive := fencesJob_live hfences
  unfold JobRecord.fence
  split
  · exact ⟨rfl, fun _ => rfl, fun _ => .inr (.inl rfl)⟩
  · refine ⟨rfl, id, fun _ => .inr (.inr ?_)⟩
    simp only [fencesJob, Bool.and_eq_true, decide_eq_true_eq] at hfences
    obtain ⟨⟨hjobOwner, -⟩, hsc⟩ := hfences
    cases hk : intent.targetKind with
    | account =>
      rw [hk, ho hk] at hfcd
      exact .inl ⟨intent.ownerUserId, hjobOwner, hfcd⟩
    | importing =>
      rw [hk] at hfcd hsc
      exact .inr (.inl ⟨target.id, of_decide_eq_true hsc, hfcd⟩)
    | profile =>
      rw [hk] at hfcd hsc
      exact .inr (.inr ⟨target.id, of_decide_eq_true hsc, hfcd⟩)

theorem Fenced.evolves (h : Fenced db db' prepared intent target now)
    (ho : intent.targetKind = .account → target.id = intent.ownerUserId) :
    Evolves db db' where
  users id user' hg := setLifecycle_userStep (by decide) (h.users ▸ hg)
  sessions := by
    rw [h.sessions]
    split
    · intro id session' hg
      obtain ⟨session, hold, rfl⟩ := get?_of_modifyWhere hg
      exact ⟨session, hold, by split <;> rfl⟩
    · exact Shrinks.refl.noNewRows _
  imports id record' hg := setLifecycle_importStep (by decide) (h.imports ▸ hg)
  rawObjects := (Shrinks.of_eq (by rw [h.rest])).noNewRows _
  operationRequests := (Shrinks.of_eq (by rw [h.rest])).noNewRows _
  profiles id profile' hg := setLifecycle_profileStep (by decide) (h.profiles ▸ hg)
  jobs id job' hg := by
    rw [h.jobs] at hg
    obtain ⟨job, hold, rfl⟩ := get?_of_modifyWhere hg
    refine ⟨job, hold, ?_⟩
    split
    · rename_i hfences
      exact h.fencedStep ho hfences
    · exact FencedStep.refl db' job

/-- The owner of an account is the account. -/
theorem targetByScope_account_owner {scopeId : String}
    (h : targetByScope db .account scopeId = some target) : target.ownerUserId = target.id := by
  obtain ⟨user, -, htgt⟩ := (targetByScope_eq_some h).2
  rw [htgt]
  rfl

theorem fencePrepared_evolves :
    Evolves db (committed db (fencePrepared keys db prepared receiptId now)) := by
  refine committed_of (Recedes.refl db).toEvolves fun u db' h => ?_
  obtain ⟨intent, -, -, -, hcases⟩ := fencePrepared_eq_ok h
  rcases hcases with ⟨control, ledgerReceipts, -, -, rfl⟩ | ⟨target, user, -, htgt, -,
    hfable, hfcd⟩
  · exact Recedes.toEvolves (.of_same rfl)
  · refine hfcd.evolves fun hk => ?_
    rw [hk] at htgt
    rw [← targetByScope_account_owner htgt]
    exact (fenceable_eq_true hfable).1

/-! Intents, preparations, aborts and drains touch none of the tables of the store. -/

theorem createIntent_recedes {request : IntentRequest} :
    Recedes db (committed db (createIntent keys db request)) := by
  refine committed_of (Recedes.refl db) fun view db' h => ?_
  rcases createIntent_eq_ok h with ⟨-, rfl⟩ | ⟨target, cleared, -, -, -, -, -, hclr, -, hinsd⟩
  · exact Recedes.refl _
  · obtain ⟨-, -, -, rfl⟩ := insertIntent_eq_ok hinsd
    rcases clearActiveIntent_eq_ok hclr with rfl | ⟨_, _, -, -, -, rfl⟩ <;>
      exact .of_same rfl

theorem recordPrepared_recedes :
    Recedes db (committed db (recordPrepared keys db prepared receiptId)) := by
  refine committed_of (Recedes.refl db) fun u db' h => ?_
  obtain ⟨_, _, _, -, -, -, rfl⟩ := recordPrepared_eq_ok h
  exact .of_same rfl

theorem proveNoncommit_recedes {ledger : List LedgerEvent} :
    Recedes db (committed db (proveNoncommit keys db ledger deletionId now)) := by
  refine committed_of (Recedes.refl db) fun prepared db' h => ?_
  obtain ⟨_, -, -, -, -, -, -, -, rfl⟩ := proveNoncommit_eq_ok h
  exact .of_same rfl

theorem recordAborted_recedes {aborted : LedgerEvent} :
    Recedes db (committed db (recordAborted keys db aborted receiptId)) := by
  refine committed_of (Recedes.refl db) fun u db' h => ?_
  obtain ⟨_, _, -, rfl⟩ := recordAborted_eq_ok h
  exact .of_same rfl

theorem expireDeletionIntent_recedes {ledger : List LedgerEvent} :
    Recedes db (committed db (expireDeletionIntent db ledger deletionId now)) := by
  refine committed_of (Recedes.refl db) fun u db' h => ?_
  rcases expireDeletionIntent_eq_ok h with rfl | ⟨_, -, -, -, rfl⟩
  · exact Recedes.refl _
  · exact .of_same rfl

theorem drainOpen_recedes {fenceId : String → String} :
    Recedes db (committed db (drainOpen db lease fenceId now)) := by
  refine committed_of (Recedes.refl db) fun result db' h => ?_
  obtain ⟨_, _, rfl⟩ := drainOpen_eq_ok h
  exact .of_same rfl

theorem drainClose_recedes {pending : Bool} :
    Recedes db (committed db (drainClose db lease pending now)) := by
  refine committed_of (Recedes.refl db) fun advanced db' h => ?_
  rcases drainClose_eq_ok h with ⟨-, rfl⟩ | ⟨-, _, _, -, rfl⟩
  · exact Recedes.refl _
  · exact .of_same rfl

theorem sweepRows_recedes :
    Recedes db (committed db (sweepRows db lease now)) := by
  refine committed_of (Recedes.refl db) fun u db' h => ?_
  obtain ⟨scope, receipts, -, rfl⟩ := sweepRows_eq_ok h
  by_cases hacc : scope.control.targetKind = .account
  · rw [if_pos hacc]
    exact Recedes.of_shrinks .refl (.deleteWhere _ _) (.deleteWhere _ _) (.deleteWhere _ _)
      (.deleteWhere _ _) (.deleteWhere _ _) (.deleteWhere _ _)
  · rw [if_neg hacc]
    exact .of_same rfl

theorem verifyRows_recedes {objectsOrRowsLeft : Bool} :
    Recedes db (committed db (verifyRows db lease objectsOrRowsLeft now)) := by
  refine committed_of (Recedes.refl db) fun verified db' h => ?_
  obtain ⟨scope, receipts, -, ⟨-, rfl⟩ | ⟨-, rfl⟩⟩ := verifyRows_eq_ok h
  · exact .of_same rfl
  · by_cases hacc : scope.control.targetKind = .account
    · rw [if_pos hacc]
      exact .of_same rfl
    · rw [if_neg hacc]
      exact Recedes.of_shrinks .refl .refl .refl (.deleteWhere _ _)
        (.deleteWhere _ _) (.deleteWhere _ _) (.deleteWhere _ _)

theorem completeSubsumed_recedes {requested completed : LedgerEvent}
    {requestedId completedId : String} :
    Recedes db (committed db
      (completeSubsumed keys db deletionId requested completed requestedId completedId now)) := by
  refine committed_of (Recedes.refl db) fun u db' h => ?_
  obtain rfl | ⟨control, ledgerReceipts, tombstones, -, -, -, -, rfl⟩ := completeSubsumed_eq_ok h
  · exact Recedes.refl _
  · exact Recedes.of_shrinks .refl .refl .refl .refl .refl
      .refl (.deleteWhere _ _)

/-- A completed deletion removes its target; the import of a deleted profile, whose draft is
published, is unconfirmed. -/
theorem complete_recedes {completed : LedgerEvent}
    (hsett : ∀ id profile, db.profiles.get? id = some profile →
      ∀ record, db.imports.get? profile.importId = some record → record.settled = true) :
    Recedes db (committed db (complete keys db lease completed receiptId now)) := by
  refine committed_of (Recedes.refl db) fun u db' h => ?_
  obtain ⟨scope, ledgerReceipts, tombstones, hsc, -, -, rfl⟩ := complete_eq_ok h
  obtain ⟨-, htgt, -⟩ := lockedControl_eq_ok hsc
  cases hk : scope.control.targetKind with
  | account =>
    exact Recedes.of_shrinks (.deleteWhere _ _) (.deleteWhere _ _) .refl .refl
      .refl .refl (.deleteWhere _ _)
  | importing =>
    exact Recedes.of_shrinks .refl .refl (.deleteWhere _ _) (.deleteWhere _ _)
      .refl .refl (.deleteWhere _ _)
  | profile =>
    rw [hk] at htgt
    obtain ⟨profile, hpf, hprofileTarget⟩ := (targetByScope_eq_some htgt).2
    refine ⟨⟨fun id user hg => ⟨user, hg, UserStep.refl user⟩, Shrinks.refl.noNewRows _,
      fun key record' hg => ?_, Shrinks.refl.noNewRows _, Shrinks.refl.noNewRows _,
      fun id profile hg => ⟨profile, get?_of_deleteWhere hg, ProfileStep.refl profile⟩,
      fun id job hg => ⟨job, get?_of_deleteWhere hg, FencedStep.refl _ job⟩⟩,
      .deleteWhere _ _⟩
    obtain ⟨record, hold, rfl⟩ := get?_of_modifyWhere hg
    refine ⟨record, hold, ?_⟩
    split
    · rename_i hpar
      rw [Bool.and_eq_true, decide_eq_true_eq, hprofileTarget] at hpar
      obtain ⟨hkey, -⟩ := hpar
      rw [Option.some.inj hkey] at hold
      exact ⟨⟨rfl, id, (hsett _ profile hpf record hold).symm⟩, .inr rfl⟩
    · exact ImportStep.refl record

end Deletions

/-! ### The system -/

structure StoreWorld where
  db : Database
  /-- The identifiers drawn so far. -/
  drawn : List String
  /-- The leases handed out so far. -/
  leases : List JobLease
  /-- The accounts found active by the first transaction of a submission that has not come to its
  second one, with the generation it read. -/
  admitted : List (String × ℕ)

/-- The world after a transaction that draws no identifier the system keeps an eye on. -/
def StoreWorld.commit (w : StoreWorld) (db : Database) : StoreWorld := { w with db := db }

inductive StoreOperation
  | register (request : Registration)
  | login (request : Login)
  | check (upload : ImportUpload)
  | record (upload : ImportUpload) (accountGeneration : ℕ) (ids : ImportIdentifiers) (now : ℤ)
  /-- A submission fails between its two transactions. -/
  | abandon (ownerUserId : String) (accountGeneration : ℕ)
  | install (request : SimulatedInstallation)
  | lease (kinds : List JobKind) (workerId : String) (now : ℤ) (attemptId : String)
  | publish (importId : String) (draft : DraftRows) (workerId : String) (fencingGeneration : ℕ)
      (now : ℤ)
  | confirm (ownerUserId importId : String) (content : ConfirmedContent)
      (profileId deletionScopeId : String) (now : ℤ)
  | calculate (request : CalculationRequest)
  | schedule (jobId : String) (job : JobRecord)
  /-- A replay is computed and published in one request. -/
  | replay (jobId : String) (job : JobRecord)
  | fence (prepared : LedgerEvent) (receiptId : String) (now : ℤ)
  | request (deletionId : String) (requested : LedgerEvent) (jobId receiptId : String) (now : ℤ)
  | sweep (lease : JobLease) (now : ℤ)
  | verify (lease : JobLease) (objectsOrRowsLeft : Bool) (now : ℤ)
  | subsume (deletionId : String) (requested completed : LedgerEvent)
      (requestedId completedId : String) (now : ℤ)
  | complete (lease : JobLease) (completed : LedgerEvent) (receiptId : String) (now : ℤ)
  /-- Any transaction that works on jobs, and on their imports. -/
  | work
  /-- Any transaction that neither inserts nor works on a job. -/
  | other

/-- One transaction that commits. -/
inductive StoreStep (auth : AuthKeys) (keys : DeletionKeys) (w : StoreWorld) :
    StoreOperation → StoreWorld → Prop
  | register {request : Registration} {grant db'}
      (hfresh : request.userId ∉ w.drawn) (h : register auth w.db request = .ok (grant, db')) :
      StoreStep auth keys w (.register request)
        ⟨db', request.userId :: w.drawn, w.leases, w.admitted⟩
  | login {request grant db'} (h : login auth w.db request = .ok (grant, db')) :
      StoreStep auth keys w (.login request) (w.commit db')
  | check {upload : ImportUpload} {accountGeneration}
      (h : admitSubmission w.db upload = .ok (.inr accountGeneration)) :
      StoreStep auth keys w (.check upload)
        ⟨w.db, w.drawn, w.leases, (upload.ownerUserId, accountGeneration) :: w.admitted⟩
  | record {upload : ImportUpload} {accountGeneration} {ids : ImportIdentifiers} {now}
      (hadmitted : (upload.ownerUserId, accountGeneration) ∈ w.admitted)
      (himport : ids.importId ∉ w.drawn) (hjob : ids.jobId ∉ w.drawn) :
      StoreStep auth keys w (.record upload accountGeneration ids now)
        ⟨committed w.db (recordSubmission w.db upload accountGeneration ids now),
          ids.importId :: ids.jobId :: w.drawn, w.leases,
          w.admitted.erase (upload.ownerUserId, accountGeneration)⟩
  | abandon {ownerUserId accountGeneration} :
      StoreStep auth keys w (.abandon ownerUserId accountGeneration)
        ⟨w.db, w.drawn, w.leases, w.admitted.erase (ownerUserId, accountGeneration)⟩
  | install {request : SimulatedInstallation} (himport : request.importId ∉ w.drawn) :
      StoreStep auth keys w (.install request)
        ⟨committed w.db (installSimulatedProfile w.db request), request.importId :: w.drawn,
          w.leases, w.admitted⟩
  | lease {kinds workerId now attemptId} {lease : Option JobLease} {db'}
      (h : leaseNext w.db kinds workerId now attemptId = .ok (lease, db')) :
      StoreStep auth keys w (.lease kinds workerId now attemptId)
        ⟨db', w.drawn, lease.toList ++ w.leases, w.admitted⟩
  | publish {importId draft workerId fencingGeneration now} :
      StoreStep auth keys w (.publish importId draft workerId fencingGeneration now)
        (w.commit (committed w.db
          (publishDraft w.db importId draft workerId fencingGeneration now)))
  | confirm {ownerUserId importId content profileId deletionScopeId now} :
      StoreStep auth keys w (.confirm ownerUserId importId content profileId deletionScopeId now)
        (w.commit (committed w.db
          (confirm w.db ownerUserId importId content profileId deletionScopeId now)))
  | calculate {request : CalculationRequest} {initializeNewJob : JobInitializer}
      (hframe : initializeNewJob.Frames)
      (hjob : request.jobId ∉ w.drawn) :
      StoreStep auth keys w (.calculate request)
        ⟨committed w.db (submitCalculation w.db request initializeNewJob),
          request.jobId :: w.drawn, w.leases, w.admitted⟩
  | schedule {jobId} {job : JobRecord} {db' : Database}
      (hkind : job.kind = .retention) (howner : job.ownerUserId = none)
      (himport : job.importId = none) (hjob : jobId ∉ w.drawn)
      (hjobs : db'.jobs = w.db.jobs.set jobId job) (himports : db'.imports = w.db.imports)
      (hrest : SameAccounts w.db db') :
      StoreStep auth keys w (.schedule jobId job) ⟨db', jobId :: w.drawn, w.leases, w.admitted⟩
  | replay {jobId operationId profileId} {job : JobRecord} {profile : ProfileVersionRecord}
      {operation : OperationRequestRecord} {db' : Database}
      (hprofile : w.db.profiles.get? profileId = some profile) (hkind : job.kind = .replay)
      (howner : job.ownerUserId = some operation.ownerUserId ∧
        ActiveUser w.db operation.ownerUserId)
      (himport : job.importId = some profile.importId) (hjob : jobId ∉ w.drawn)
      -- a result that was computed before is found again, and no job comes in
      (hjobs : db'.jobs = w.db.jobs.set jobId job ∨ db'.jobs = w.db.jobs)
      (hoperations : db'.operationRequests = w.db.operationRequests.set operationId operation)
      (hrest : SameAccounts w.db { db' with operationRequests := w.db.operationRequests })
      (himports : db'.imports = w.db.imports) :
      StoreStep auth keys w (.replay jobId job) ⟨db', jobId :: w.drawn, w.leases, w.admitted⟩
  | fence {prepared receiptId now} :
      StoreStep auth keys w (.fence prepared receiptId now)
        (w.commit (committed w.db (fencePrepared keys w.db prepared receiptId now)))
  | request {deletionId requested jobId receiptId now} (hjob : jobId ∉ w.drawn) :
      StoreStep auth keys w (.request deletionId requested jobId receiptId now)
        ⟨committed w.db (recordRequested keys w.db deletionId requested jobId receiptId now),
          jobId :: w.drawn, w.leases, w.admitted⟩
  | sweep {lease now} :
      StoreStep auth keys w (.sweep lease now)
        (w.commit (committed w.db (sweepRows w.db lease now)))
  | verify {lease objectsOrRowsLeft now} :
      StoreStep auth keys w (.verify lease objectsOrRowsLeft now)
        (w.commit (committed w.db (verifyRows w.db lease objectsOrRowsLeft now)))
  | subsume {deletionId requested completed requestedId completedId now} :
      StoreStep auth keys w
        (.subsume deletionId requested completed requestedId completedId now)
        (w.commit (committed w.db
          (completeSubsumed keys w.db deletionId requested completed requestedId completedId now)))
  | complete {lease completed receiptId now} :
      StoreStep auth keys w (.complete lease completed receiptId now)
        (w.commit (committed w.db (complete keys w.db lease completed receiptId now)))
  | work {db'} (h : Works w.db db') :
      StoreStep auth keys w .work (w.commit db')
  | other {db'} (h : Recedes w.db db') :
      StoreStep auth keys w .other (w.commit db')

/-- A system without rows. -/
def EmptyStore (w : StoreWorld) : Prop :=
  w.db.users = Dict.empty ∧ w.db.imports = Dict.empty ∧ w.db.profiles = Dict.empty ∧
    w.db.jobs = Dict.empty ∧ w.leases = [] ∧ w.admitted = []

end RateReplay
