import RateReplay.Persistence.Queue
import RateReplay.Persistence.StoreRuns

/-!
# What is known of import jobs

An import is processed by one job, under the account that submitted it.  Until that job has
ended, nothing else refers to the import: profiles, calculations and deletions of profiles need
a published draft, and a deletion of the import itself fences it first.  So the job found for an
active import that is being processed is its import job, and a cancellation that is requested
of it means that its account or its import is fenced.

## Main definitions

* `ImportJob`, `DependentJob`, `ImportLease` — what is known of an import job, of another job,
  and of a lease handed out for an import job.
* `Sound` — all of it, and what the identifiers drawn so far are good for.

## Main results

* `Sound.evolve`, `Sound.works` — **deletions and the job service keep it.**
* `StoreStep.sound`, `sound_of_reached` — **so does every transaction.**
* `publication_fenced_iff` — **a published draft was published under the shared fence exactly
  when its lease was live and its account active.**
-/

namespace RateReplay

open List

/-! ### The invariant -/

/-- The columns of an import job. -/
structure ImportRequest (request : JobRequest) (ownerUserId importId : String) : Prop where
  kind : request.kind = .importing
  ownerUserId : request.ownerUserId = some ownerUserId
  importId : request.importId = some importId
  profileVersionId : request.profileVersionId = none
  scopeMode : request.scopeMode = .activeScope
  capturedAccountGeneration : request.capturedAccountGeneration = 0
  capturedProfileGeneration : request.capturedProfileGeneration = none

structure ImportJob (w : StoreWorld) (id : String) (job : JobRecord)
    (ownerUserId importId : String) : Prop where
  request : ImportRequest job.request ownerUserId importId
  idDrawn : id ∈ w.drawn
  ownerDrawn : ownerUserId ∈ w.drawn
  importDrawn : importId ∈ w.drawn
  owned : ∀ record, w.db.imports.get? importId = some record → record.ownerUserId = ownerUserId
  settled : ∀ record, w.db.imports.get? importId = some record → record.settled = true →
    job.state.terminal = true
  cancelled : job.cancelRequested = true → job.state.terminal = false →
    ScopeFenced w.db job.request

/-- A job other than an import job refers to an active import only when its draft is
published. -/
def DependentJob (w : StoreWorld) (job : JobRecord) : Prop :=
  ∀ importId, job.importId = some importId → importId ∈ w.drawn ∧
    ∀ record, w.db.imports.get? importId = some record → record.lifecycleState = .active →
      record.settled = true

/-- A lease for an import job names the one import job of its import. -/
structure ImportLease (w : StoreWorld) (lease : JobLease) (importId : String) : Prop where
  importing : lease.importId = some importId
  profileVersionId : lease.profileVersionId = none
  scopeMode : lease.scopeMode = .activeScope
  idDrawn : lease.jobId ∈ w.drawn
  importDrawn : importId ∈ w.drawn
  own : ∀ job, w.db.jobs.get? lease.jobId = some job →
    job.kind = .importing ∧ job.importId = some importId
  only : ∀ id job, w.db.jobs.get? id = some job → job.kind = .importing →
    job.importId = some importId → id = lease.jobId

structure Sound (w : StoreWorld) : Prop where
  users : ∀ id user, w.db.users.get? id = some user → id ∈ w.drawn ∧
    (user.lifecycleState = .active → user.lifecycleGeneration = 0)
  admitted : ∀ p ∈ w.admitted, p.1 ∈ w.drawn ∧ p.2 = 0
  imports : ∀ id record, w.db.imports.get? id = some record → id ∈ w.drawn
  profiles : ∀ id profile, w.db.profiles.get? id = some profile → profile.importId ∈ w.drawn ∧
    ∀ record, w.db.imports.get? profile.importId = some record → record.settled = true
  importJobs : ∀ id job, w.db.jobs.get? id = some job → job.kind = .importing →
    ∃ ownerUserId importId, ImportJob w id job ownerUserId importId
  dependentJobs : ∀ id job, w.db.jobs.get? id = some job → job.kind ≠ .importing →
    DependentJob w job
  unique : ∀ id id' job job', w.db.jobs.get? id = some job → w.db.jobs.get? id' = some job' →
    job.kind = .importing → job'.kind = .importing → job.importId = job'.importId → id = id'
  leases : ∀ lease ∈ w.leases, lease.kind = .importing → ∃ importId, ImportLease w lease importId

theorem sound_of_emptyStore {w : StoreWorld} (h : EmptyStore w) : Sound w := by
  obtain ⟨hus, hims, hpfs, hjs, hleases, hadm⟩ := h
  constructor <;> simp [hus, hims, hpfs, hjs, hleases, hadm, Dict.get?, Dict.empty]

/-! ### Rows that stay -/

section Rows

variable {w w' : StoreWorld} {importId : String}

/-- Every job was there with the same request, or it is new; a new import job is for a new
import. -/
def JobsFrom (w w' : StoreWorld) : Prop :=
  ∀ id job', w'.db.jobs.get? id = some job' →
    (∃ job, w.db.jobs.get? id = some job ∧ job'.request = job.request) ∨
      id ∉ w.drawn ∧ ∀ importId, job'.kind = .importing → job'.importId = some importId →
        importId ∉ w.drawn

theorem ImportLease.keep {lease : JobLease} (h : ImportLease w lease importId)
    (hdr : w.drawn ⊆ w'.drawn) (hjs : JobsFrom w w') : ImportLease w' lease importId := by
  refine ⟨h.importing, h.profileVersionId, h.scopeMode, hdr h.idDrawn, hdr h.importDrawn,
    fun job' hg => ?_, fun id job' hg hk him => ?_⟩
  · rcases hjs _ job' hg with ⟨job, hold, hreq⟩ | ⟨hnew, -⟩
    · obtain ⟨hk, him⟩ := h.own job hold
      exact ⟨(congrArg JobRequest.kind hreq).trans hk,
        (congrArg JobRequest.importId hreq).trans him⟩
    · exact absurd h.idDrawn hnew
  · rcases hjs id job' hg with ⟨job, hold, hreq⟩ | ⟨-, hnew⟩
    · exact h.only id job hold ((congrArg JobRequest.kind hreq).symm.trans hk)
        ((congrArg JobRequest.importId hreq).symm.trans him)
    · exact absurd h.importDrawn (hnew importId hk him)

/-- The import and the account of an import job that stays are as they were. -/
theorem ImportJob.keep {id ownerUserId : String} {job : JobRecord}
    (h : ImportJob w id job ownerUserId importId) (hdr : w.drawn ⊆ w'.drawn)
    (him : ∀ record, w'.db.imports.get? importId = some record →
      w.db.imports.get? importId = some record)
    (hact : ActiveUser w'.db ownerUserId → ActiveUser w.db ownerUserId) :
    ImportJob w' id job ownerUserId importId := by
  refine ⟨h.request, hdr h.idDrawn, hdr h.ownerDrawn, hdr h.importDrawn,
    fun record hg => h.owned record (him record hg),
    fun record hg => h.settled record (him record hg), fun hcan hlive => ?_⟩
  refine (h.cancelled hcan hlive).mono ?_ ?_ ?_
  · intro key ho
    rw [h.request.ownerUserId] at ho
    rw [← Option.some.inj ho]
    exact hact
  · rintro key hkey ⟨record, hg, hrec⟩
    rw [h.request.importId] at hkey
    cases hkey
    exact ⟨record, him record hg, hrec⟩
  · intro key hkey
    rw [h.request.profileVersionId] at hkey
    cases hkey

end Rows

/-! ### What transactions keep -/

section Keeps

variable {w : StoreWorld} {db' : Database} {id jobId : String} {job : JobRecord} {w' : StoreWorld}

/-- Every job was there with the same request. -/
def SameRequests (db db' : Database) : Prop :=
  ∀ id job', db'.jobs.get? id = some job' →
    ∃ job, db.jobs.get? id = some job ∧ job'.request = job.request

theorem Sound.unique_of_sameRequests (h : Sound w) (hjs : SameRequests w.db db')
    (id id' : String) (job job' : JobRecord) (hg : db'.jobs.get? id = some job)
    (hg' : db'.jobs.get? id' = some job') (hk : job.kind = .importing)
    (hk' : job'.kind = .importing) (him : job.importId = job'.importId) : id = id' := by
  obtain ⟨before, hold, hreq⟩ := hjs id job hg
  obtain ⟨before', hold', hreq'⟩ := hjs id' job' hg'
  refine h.unique id id' before before' hold hold'
    ((congrArg JobRequest.kind hreq).symm.trans hk)
    ((congrArg JobRequest.kind hreq').symm.trans hk') ?_
  exact ((congrArg JobRequest.importId hreq).symm.trans him).trans
    (congrArg JobRequest.importId hreq')

theorem Sound.leases_of_sameRequests (h : Sound w) (hjs : SameRequests w.db db')
    (lease : JobLease) (hls : lease ∈ w.leases) (hk : lease.kind = .importing) :
    ∃ importId, ImportLease (w.commit db') lease importId := by
  obtain ⟨importId, hown⟩ := h.leases lease hls hk
  exact ⟨importId, hown.keep (List.Subset.refl _) fun id job' hg => .inl (hjs id job' hg)⟩

/-- An import that was there: its draft stays published, and one that is published now was so
before, or the import jobs for it have ended. -/
structure KeepsDraft (db' : Database) (importId : String) (record record' : ImportRecord) :
    Prop where
  ownerUserId : record'.ownerUserId = record.ownerUserId
  active : record'.lifecycleState = .active → record.lifecycleState = .active
  stays : record.settled = true → record'.settled = true
  settled : record'.settled = true → record.settled = true ∨
    ∀ id job, db'.jobs.get? id = some job → job.kind = .importing →
      job.importId = some importId → job.state.terminal = true

/-- **What keeps what is known**: rows go, scopes are fenced, and drafts are published by import
jobs that end. -/
theorem Sound.move (h : Sound w)
    (hus : ∀ id user', db'.users.get? id = some user' →
      ∃ user, w.db.users.get? id = some user ∧ UserStep user user')
    (hims : ∀ id record', db'.imports.get? id = some record' →
      ∃ record, w.db.imports.get? id = some record ∧ KeepsDraft db' id record record')
    (hpfs : ∀ id profile', db'.profiles.get? id = some profile' →
      ∃ profile, w.db.profiles.get? id = some profile ∧ ProfileStep profile profile')
    (hjs : ∀ id job', db'.jobs.get? id = some job' →
      ∃ job, w.db.jobs.get? id = some job ∧ FencedStep db' job job') : Sound (w.commit db') := by
  have hsame : SameRequests w.db db' := by
    intro id job' hg
    obtain ⟨job, hold, hs⟩ := hjs id job' hg
    exact ⟨job, hold, hs.request⟩
  -- what was fenced stays fenced, since no row becomes active
  have hfcd : ∀ {request}, ScopeFenced w.db request → ScopeFenced db' request := by
    intro request hfcd
    refine hfcd.mono ?_ ?_ ?_
    · rintro key - ⟨user', hg, hact⟩
      obtain ⟨user, hold, hs⟩ := hus key user' hg
      exact ⟨user, hold, (hs hact).1⟩
    · rintro key - ⟨record', hg, hact⟩
      obtain ⟨record, hold, hkp⟩ := hims key record' hg
      exact ⟨record, hold, hkp.active hact⟩
    · rintro key - ⟨profile', hg, hact⟩
      obtain ⟨profile, hold, hs⟩ := hpfs key profile' hg
      exact ⟨profile, hold, hs.active hact⟩
  refine ⟨?_, h.admitted, ?_, ?_, ?_, ?_, h.unique_of_sameRequests hsame,
    h.leases_of_sameRequests hsame⟩
  · intro id user' hg
    obtain ⟨user, hold, hs⟩ := hus id user' hg
    refine ⟨(h.users id user hold).1, fun hact => ?_⟩
    rw [(hs hact).2]
    exact (h.users id user hold).2 (hs hact).1
  · intro id record' hg
    obtain ⟨record, hold, -⟩ := hims id record' hg
    exact h.imports id record hold
  · intro id profile' hg
    obtain ⟨profile, hold, hs⟩ := hpfs id profile' hg
    rw [hs.importId]
    refine ⟨(h.profiles id profile hold).1, fun record' hg' => ?_⟩
    obtain ⟨record, hrec, hkp⟩ := hims _ record' hg'
    exact hkp.stays ((h.profiles id profile hold).2 record hrec)
  · intro id job' hg hk
    obtain ⟨job, hold, hs⟩ := hjs id job' hg
    obtain ⟨ownerUserId, importId, hj⟩ := h.importJobs id job hold
      ((congrArg JobRequest.kind hs.request).symm.trans hk)
    have hreq : ImportRequest job'.request ownerUserId importId := hs.request ▸ hj.request
    refine ⟨ownerUserId, importId, hreq, hj.idDrawn, hj.ownerDrawn, hj.importDrawn,
      fun record' hg' => ?_, fun record' hg' hsett => ?_, fun hcan hlive => ?_⟩
    · obtain ⟨record, hrec, hkp⟩ := hims _ record' hg'
      rw [hkp.ownerUserId]
      exact hj.owned record hrec
    · obtain ⟨record, hrec, hkp⟩ := hims _ record' hg'
      rcases hkp.settled hsett with hpre | hended
      · exact hs.terminal (hj.settled record hrec hpre)
      · exact hended id job' hg hk hreq.importId
    · have hwas := live_of_step hs.terminal hlive
      rcases hs.cancelRequested hcan with hpre | hended | hsc
      · rw [hs.request]
        exact hfcd (hj.cancelled hpre hwas)
      · rw [hended] at hlive
        cases hlive
      · exact hsc
  · intro id job' hg hk importId him
    obtain ⟨job, hold, hs⟩ := hjs id job' hg
    obtain ⟨hdr, hsc⟩ := h.dependentJobs id job hold
      (fun hj => hk ((congrArg JobRequest.kind hs.request).trans hj)) importId
      ((congrArg JobRequest.importId hs.request).symm.trans him)
    refine ⟨hdr, fun record' hg' hact => ?_⟩
    obtain ⟨record, hrec, hkp⟩ := hims _ record' hg'
    exact hkp.stays (hsc record hrec (hkp.active hact))

/-- **Fences and removals keep what is known.** -/
theorem Sound.evolve (h : Sound w) (hevo : ScopesEvolve w.db db') : Sound (w.commit db') := by
  refine h.move hevo.users (fun id record' hg => ?_) hevo.profiles hevo.jobs
  obtain ⟨record, hold, hs⟩ := hevo.imports id record' hg
  exact ⟨record, hold, hs.ownerUserId, hs.active, fun hsett => hs.settled.trans hsett,
    fun hsett => .inl (hs.settled.symm.trans hsett)⟩

/-- The imports after one job has changed: each is as it was, or it is the import of that job,
which had not ended and whose draft was not published. -/
theorem Sound.import_of_change (h : Sound w) {job' : JobRecord} (hj : w.db.jobs.get? id = some job)
    (hims : db'.imports = w.db.imports ∨ TakesImport w.db db' job job') {key : String}
    {record' : ImportRecord} (hg : db'.imports.get? key = some record') :
    ∃ record, w.db.imports.get? key = some record ∧ KeepsScope record record' ∧
      (record' = record ∨ job.kind = .importing ∧ job.importId = some key ∧
        record.settled = false ∧ (record'.settled = true → job'.state.terminal = true)) := by
  rcases hims with hsame | ⟨importId, g, hk, hlive, him, hmod, hsc, hsettles⟩
  · rw [hsame] at hg
    exact ⟨record', hg, ⟨rfl, rfl, rfl, rfl⟩, .inl rfl⟩
  · rw [hmod] at hg
    obtain ⟨record, hold, ⟨rfl, rfl⟩ | ⟨hne, rfl⟩⟩ := Dict.get?_of_modify hg
    · refine ⟨record, hold, hsc record, .inr ⟨hk, him, ?_,
        fun hsett => (hsettles record hold hsett).1⟩⟩
      obtain ⟨ownerUserId, importId, hown⟩ := h.importJobs id job hj hk
      rw [Bool.eq_false_iff]
      intro hsett
      have hkey : importId = key :=
        Option.some.inj (hown.request.importId.symm.trans him)
      rw [← hkey] at hold
      rw [hown.settled record hold hsett] at hlive
      cases hlive
    · exact ⟨record', hold, ⟨rfl, rfl, rfl, rfl⟩, .inl rfl⟩

/-- **A change of one job keeps what is known**: while the job has not ended, no profile and no
other job depends on the draft of its import. -/
theorem Sound.change (h : Sound w) (hchg : JobChange w.db db') : Sound (w.commit db') := by
  obtain @⟨jobId, job, f, hj, hs, hmod, hims, hrest⟩ := hchg
  refine h.move (fun id user hg => ⟨user, hrest.users ▸ hg, UserStep.refl user⟩)
    (fun key record' hg => ?_)
    (fun id profile hg => ⟨profile, hrest.profiles ▸ hg, ProfileStep.refl profile⟩)
    fun id job' hg => ?_
  · obtain ⟨record, hold, hkp, hcases⟩ := h.import_of_change hj hims hg
    refine ⟨record, hold, hkp.ownerUserId, fun hact => hkp.lifecycleState ▸ hact,
      fun hsett => ?_, fun hsett => ?_⟩
    · rcases hcases with rfl | ⟨-, -, hunsettled, -⟩
      · exact hsett
      · rw [hsett] at hunsettled
        cases hunsettled
    · rcases hcases with rfl | ⟨hk, him, -, hends⟩
      · exact .inl hsett
      · -- the import that was settled is the one of the job that changed
        refine .inr fun id other hoth hotherKind hotherImport => ?_
        rw [hmod] at hoth
        obtain ⟨before, hpre, ⟨rfl, rfl⟩ | ⟨hne, rfl⟩⟩ := Dict.get?_of_modify hoth
        · cases hj.symm.trans hpre
          exact hends hsett
        · exact absurd (h.unique id jobId other job hpre hj hotherKind hk
            (hotherImport.trans him.symm)) hne
  · rw [hmod] at hg
    obtain ⟨before, hold, ⟨rfl, rfl⟩ | ⟨-, rfl⟩⟩ := Dict.get?_of_modify hg
    · cases hj.symm.trans hold
      exact ⟨job, hold, hs.request, hs.terminal,
        fun hcan => (hs.cancelRequested hcan).imp_right .inl⟩
    · exact ⟨job', hold, FencedStep.refl db' job'⟩

/-- **Chains of such changes keep it.** -/
theorem Sound.works (h : Sound w) (hworks : Works w.db db') : Sound (w.commit db') := by
  induction hworks with
  | refl => exact h
  | tail _ hchg ih => exact ih.change hchg

/-- Rows are inserted, under identifiers that were not drawn before where others may refer to
them, and nothing else happens; of the jobs, the one under `jobId` at most. -/
structure Inserts (jobId : String) (w w' : StoreWorld) : Prop where
  drawn : w.drawn ⊆ w'.drawn
  leases : w'.leases = w.leases
  admitted : w'.admitted = w.admitted
  users : ∀ id user, w'.db.users.get? id = some user → w.db.users.get? id = some user ∨
    id ∉ w.drawn ∧ id ∈ w'.drawn ∧ user.lifecycleGeneration = 0
  imports : ∀ id record, w'.db.imports.get? id = some record →
    w.db.imports.get? id = some record ∨ id ∉ w.drawn ∧ id ∈ w'.drawn
  profiles : ∀ id profile, w'.db.profiles.get? id = some profile →
    w.db.profiles.get? id = some profile ∨ profile.importId ∈ w'.drawn ∧
      ∀ record, w'.db.imports.get? profile.importId = some record → record.settled = true
  jobs : ∀ id job, w'.db.jobs.get? id = some job → w.db.jobs.get? id = some job ∨
    id = jobId ∧ jobId ∉ w.drawn ∧
      (job.kind = .importing → ∃ ownerUserId importId, importId ∉ w.drawn ∧
        ImportJob w' id job ownerUserId importId) ∧
      (job.kind ≠ .importing → DependentJob w' job)

/-- Rows under identifiers drawn before were there. -/
theorem Inserts.import_of_drawn (hinss : Inserts jobId w w') (hdr : id ∈ w.drawn)
    (record : ImportRecord) (hg : w'.db.imports.get? id = some record) :
    w.db.imports.get? id = some record := by
  rcases hinss.imports id record hg with hold | ⟨hnew, -⟩
  · exact hold
  · exact absurd hdr hnew

/-- **Insertions keep what is known.** -/
theorem Sound.insert (h : Sound w) (jobId : String) (hinss : Inserts jobId w w') : Sound w' := by
  have hact : ∀ {id}, id ∈ w.drawn → ActiveUser w'.db id → ActiveUser w.db id := by
    rintro id hdr ⟨user, hg, hact⟩
    rcases hinss.users id user hg with hold | ⟨hnew, -⟩
    · exact ⟨user, hold, hact⟩
    · exact absurd hdr hnew
  refine ⟨?_, ?_, ?_, ?_, ?_, ?_, ?_, ?_⟩
  · intro id user hg
    rcases hinss.users id user hg with hold | ⟨-, hdr, hgen⟩
    · exact ⟨hinss.drawn (h.users id user hold).1, (h.users id user hold).2⟩
    · exact ⟨hdr, fun _ => hgen⟩
  · rw [hinss.admitted]
    intro p hp
    exact ⟨hinss.drawn (h.admitted p hp).1, (h.admitted p hp).2⟩
  · intro id record hg
    rcases hinss.imports id record hg with hold | ⟨-, hdr⟩
    · exact hinss.drawn (h.imports id record hold)
    · exact hdr
  · intro id profile hg
    rcases hinss.profiles id profile hg with hold | hnew
    · obtain ⟨hdr, hsett⟩ := h.profiles id profile hold
      exact ⟨hinss.drawn hdr, fun record hg' =>
        hsett record (hinss.import_of_drawn hdr record hg')⟩
    · exact hnew
  · intro id job hg hk
    rcases hinss.jobs id job hg with hold | ⟨-, -, himp, -⟩
    · obtain ⟨ownerUserId, importId, hown⟩ := h.importJobs id job hold hk
      exact ⟨ownerUserId, importId, hown.keep hinss.drawn
        (hinss.import_of_drawn hown.importDrawn) (hact hown.ownerDrawn)⟩
    · obtain ⟨ownerUserId, importId, -, hown⟩ := himp hk
      exact ⟨ownerUserId, importId, hown⟩
  · intro id job hg hk
    rcases hinss.jobs id job hg with hold | ⟨-, -, -, hdependent⟩
    · intro importId him
      obtain ⟨hdr, hsc⟩ := h.dependentJobs id job hold hk importId him
      exact ⟨hinss.drawn hdr, fun record hg' =>
        hsc record (hinss.import_of_drawn hdr record hg')⟩
    · exact hdependent hk
  · -- a new import job is for an import that no other job is for
    have hapart : ∀ {id id' job job'}, w.db.jobs.get? id = some job →
        w'.db.jobs.get? id' = some job' → job.kind = .importing → job'.kind = .importing →
        job.importId = job'.importId → w.db.jobs.get? id' = some job' := by
      intro id id' job job' hold hg' hk hk' him
      rcases hinss.jobs id' job' hg' with hold' | ⟨-, -, himp, -⟩
      · exact hold'
      · obtain ⟨ownerUserId, importId, hown⟩ := h.importJobs id job hold hk
        obtain ⟨ownerUserId', importId', hnew, hown'⟩ := himp hk'
        have hsame : importId = importId' := Option.some.inj
          (hown.request.importId.symm.trans (him.trans hown'.request.importId))
        exact absurd (hsame ▸ hown.importDrawn) hnew
    intro id id' job job' hg hg' hk hk' him
    rcases hinss.jobs id job hg with hold | ⟨hid, -⟩
    · exact h.unique id id' job job' hold (hapart hold hg' hk hk' him) hk hk'
        him
    · rcases hinss.jobs id' job' hg' with hold' | ⟨hid', -⟩
      · exact (h.unique id' id job' job hold' (hapart hold' hg hk' hk him.symm)
          hk' hk him.symm).symm
      · rw [hid, hid']
  · rw [hinss.leases]
    intro lease hls hk
    obtain ⟨importId, hown⟩ := h.leases lease hls hk
    refine ⟨importId, hown.keep hinss.drawn fun id job' hg => ?_⟩
    rcases hinss.jobs id job' hg with hold | ⟨hid, hnew, himp, -⟩
    · exact .inl ⟨job', hold, rfl⟩
    · refine .inr ⟨hid ▸ hnew, fun importId hk him => ?_⟩
      obtain ⟨ownerUserId', importId', hnew, hown'⟩ := himp hk
      rw [← Option.some.inj (hown'.request.importId.symm.trans him)]
      exact hnew

/-- More identifiers may have been drawn. -/
theorem Sound.draw (h : Sound w) {drawn : List String} (hsubset : w.drawn ⊆ drawn) :
    Sound ⟨w.db, drawn, w.leases, w.admitted⟩ :=
  h.insert "" ⟨hsubset, rfl, rfl, fun _ _ => .inl, fun _ _ => .inl, fun _ _ => .inl,
    fun _ _ => .inl⟩

/-- A new job that is not an import job. -/
theorem Sound.addJob (h : Sound w) (hfr : jobId ∉ w.drawn) (hk : job.kind ≠ .importing)
    (hdependent : DependentJob w job) (hus : db'.users = w.db.users)
    (hims : db'.imports = w.db.imports) (hpfs : db'.profiles = w.db.profiles)
    (hjs : db'.jobs = w.db.jobs.set jobId job) :
    Sound ⟨db', jobId :: w.drawn, w.leases, w.admitted⟩ := by
  refine h.insert jobId ⟨subset_cons_self _ _, rfl, rfl,
    fun id user hg => .inl (hus ▸ hg), fun id record hg => .inl (hims ▸ hg),
    fun id profile hg => .inl (hpfs ▸ hg), ?_⟩
  dsimp only
  rw [hjs]
  refine Dict.get?_or_of_set ⟨rfl, hfr, fun himp => absurd himp hk, fun _ => ?_⟩
  intro importId him
  obtain ⟨hdr, hsc⟩ := hdependent importId him
  exact ⟨mem_cons_of_mem _ hdr, fun record hg' => hsc record (hims ▸ hg')⟩

end Keeps

/-! ### Every transaction -/

section Steps

variable {auth : AuthKeys} {keys : DeletionKeys} {w : StoreWorld} {db' : Database} {now : ℤ}
  {upload : ImportUpload} {accountGeneration : ℕ} {importId ownerUserId profileId : String}
  {record : ImportRecord} {grant : SessionGrant} {db : Database}
  {deletionScopeId jobId workerId : String} {content : ConfirmedContent}

theorem register_sound (h : Sound w) {request : Registration} (hfr : request.userId ∉ w.drawn)
    (hok : register auth w.db request = .ok (grant, db')) :
    Sound ⟨db', request.userId :: w.drawn, w.leases, w.admitted⟩ := by
  obtain ⟨canonical, auditEvents, -, -, -, -, rfl⟩ := register_eq_ok hok
  exact h.insert "" ⟨subset_cons_self _ _, rfl, rfl,
    Dict.get?_or_of_set ⟨hfr, mem_cons_self, rfl⟩, fun _ _ => .inl,
    fun _ _ => .inl, fun _ _ => .inl⟩

theorem login_sound (h : Sound w) {request : Login}
    (hok : login auth w.db request = .ok (grant, db')) : Sound (w.commit db') := by
  obtain ⟨canonical, user, sessions, auditEvents, -, -, -, -, -, rfl⟩ := login_eq_ok hok
  refine h.evolve ⟨fun id user' hg => ?_,
    fun id record hg => ⟨record, hg, (ImportStep.refl record).toScopeStep⟩,
    fun id profile hg => ⟨profile, hg, ProfileStep.refl profile⟩,
    fun id job hg => ⟨job, hg, FencedStep.refl _ job⟩⟩
  dsimp only [rehash] at hg
  split at hg
  · obtain ⟨before, hold, ⟨-, rfl⟩ | ⟨-, rfl⟩⟩ := Dict.get?_of_modify hg
    · exact ⟨before, hold, fun hact => ⟨hact, rfl⟩⟩
    · exact ⟨user', hold, UserStep.refl user'⟩
  · exact ⟨user', hg, UserStep.refl user'⟩

theorem admitSubmission_eq_inr (h : admitSubmission db upload = .ok (.inr accountGeneration)) :
    ∃ user, db.users.get? upload.ownerUserId = some user ∧ user.lifecycleState = .active ∧
      user.lifecycleGeneration = accountGeneration := by
  unfold admitSubmission at h
  split at h
  · rw [failIf_bind_eq_ok] at h
    obtain ⟨_, -, hres⟩ := bind_eq_ok.mp h.2
    cases hres
  · split at h
    · cases h
    · rename_i user huser
      rw [failIf_bind_eq_ok, not_not] at h
      obtain ⟨hact, hres⟩ := h
      cases hres
      exact ⟨user, huser, hact, rfl⟩

/-- Only the list of admissions changes. -/
theorem Sound.admit (h : Sound w) {admitted : List (String × ℕ)}
    (hadm : ∀ p ∈ admitted, p.1 ∈ w.drawn ∧ p.2 = 0) :
    Sound ⟨w.db, w.drawn, w.leases, admitted⟩ := by
  refine { h with
    admitted := hadm
    importJobs := fun id job hg hk => ?_
    leases := fun lease hls hk => ?_ }
  · obtain ⟨ownerUserId, importId, hown⟩ := h.importJobs id job hg hk
    exact ⟨ownerUserId, importId, { hown with }⟩
  · obtain ⟨importId, hown⟩ := h.leases lease hls hk
    exact ⟨importId, { hown with }⟩

theorem admit_sound (h : Sound w) (hok : admitSubmission w.db upload = .ok (.inr accountGeneration))
    : Sound ⟨w.db, w.drawn, w.leases, (upload.ownerUserId, accountGeneration) :: w.admitted⟩ := by
  obtain ⟨user, huser, hact, hgen⟩ := admitSubmission_eq_inr hok
  obtain ⟨hdr, hzero⟩ := h.users _ user huser
  refine h.admit fun p hp => ?_
  rcases mem_cons.mp hp with rfl | hp
  · exact ⟨hdr, hgen ▸ hzero hact⟩
  · exact h.admitted p hp

/-- A submission does not go on after its first transaction. -/
theorem Sound.leave (h : Sound w) (p : String × ℕ) :
    Sound ⟨w.db, w.drawn, w.leases, w.admitted.erase p⟩ :=
  h.admit fun q hq => h.admitted q (mem_of_mem_erase hq)

theorem record_sound (h : Sound w) {ids : ImportIdentifiers}
    (hadm : (upload.ownerUserId, accountGeneration) ∈ w.admitted)
    (him : ids.importId ∉ w.drawn) (hj : ids.jobId ∉ w.drawn) :
    Sound ⟨committed w.db (recordSubmission w.db upload accountGeneration ids now),
      ids.importId :: ids.jobId :: w.drawn, w.leases, w.admitted⟩ := by
  have hsubset : w.drawn ⊆ ids.importId :: ids.jobId :: w.drawn := fun id hid =>
    mem_cons_of_mem _ (mem_cons_of_mem _ hid)
  have hsame := h.draw hsubset
  refine committed_of (P := fun db' => Sound
    ⟨db', ids.importId :: ids.jobId :: w.drawn, w.leases, w.admitted⟩) hsame fun _ db' hok => ?_
  rcases recordSubmission_eq_ok hok with hinsd | rfl
  · obtain ⟨-, -, -, auditEvents, rfl⟩ := insertSubmission_eq_ok hinsd
    obtain ⟨ho, rfl⟩ := h.admitted _ hadm
    refine h.insert ids.jobId ⟨hsubset, rfl, rfl, fun _ _ => .inl,
      Dict.get?_or_of_set ⟨him, mem_cons_self⟩, fun _ _ => .inl,
      Dict.get?_or_of_set ?_⟩
    refine ⟨rfl, hj, fun _ => ⟨upload.ownerUserId, ids.importId, him,
      ⟨rfl, rfl, rfl, rfl, rfl, rfl, rfl⟩, mem_cons_of_mem _ mem_cons_self, hsubset ho,
      mem_cons_self, fun record hrec => ?_, fun record hrec => ?_, fun hcan => by cases hcan⟩,
      fun hk => absurd rfl hk⟩
    · cases (Dict.get?_set_self _ _ _).symm.trans hrec
      rfl
    · cases (Dict.get?_set_self _ _ _).symm.trans hrec
      intro hsett
      cases hsett
  · exact hsame

theorem install_sound (h : Sound w) {request : SimulatedInstallation}
    (him : request.importId ∉ w.drawn) :
    Sound ⟨committed w.db (installSimulatedProfile w.db request),
      request.importId :: w.drawn, w.leases, w.admitted⟩ := by
  have hsame := h.draw (subset_cons_self request.importId w.drawn)
  refine committed_of (P := fun db' => Sound
    ⟨db', request.importId :: w.drawn, w.leases, w.admitted⟩) hsame fun _ db' hok => ?_
  rcases installSimulatedProfile_eq_ok hok with rfl | ⟨user, installed, -, -, hinst, hrcd⟩
  · exact hsame
  · obtain ⟨-, rfl⟩ := insertOperation_eq_ok hrcd
    rcases installProfile_eq_ok hinst with ⟨-, rfl⟩ | ⟨-, -, -, -, -, readings, auditEvents,
      rfl⟩
    · exact hsame.evolve (.of_same rfl)
    · refine h.insert "" ⟨subset_cons_self _ _, rfl, rfl, fun _ _ => .inl,
        Dict.get?_or_of_set ⟨him, mem_cons_self⟩,
        Dict.get?_or_of_set ⟨mem_cons_self, fun record hrec => ?_⟩,
        fun _ _ => .inl⟩
      cases (Dict.get?_set_self _ _ _).symm.trans hrec
      rfl

/-- A lease that is handed out for an import job names the one import job of its import. -/
theorem lease_sound (h : Sound w) {kinds : List JobKind} {attemptId : String}
    {lease : Option JobLease} (hok : leaseNext w.db kinds workerId now attemptId = .ok (lease, db'))
    :
    Sound ⟨db', w.drawn, lease.toList ++ w.leases, w.admitted⟩ := by
  obtain ⟨hworks, hls⟩ := leaseLoop_works hok
  have hkp : Sound (w.commit db') := h.works hworks
  refine { hkp with
    importJobs := fun id job hg hk => ?_
    leases := fun held hheld hk => ?_ }
  · obtain ⟨ownerUserId, importId, hown⟩ := hkp.importJobs id job hg hk
    exact ⟨ownerUserId, importId, { hown with }⟩
  · rcases mem_append.mp hheld with hnew | hheld
    · obtain ⟨job, hj, heq⟩ := hls held (Option.mem_toList.mp hnew)
      have hjobKind : job.kind = .importing := by
        rw [heq] at hk
        exact hk
      obtain ⟨ownerUserId, importId, hown⟩ := hkp.importJobs held.jobId job hj hjobKind
      refine ⟨importId, ?_, ?_, ?_, hown.idDrawn, hown.importDrawn, fun job' hg => ?_,
        fun id job' hg hk' him => ?_⟩
      · rw [heq]
        exact hown.request.importId
      · rw [heq]
        exact hown.request.profileVersionId
      · rw [heq]
        exact hown.request.scopeMode
      · cases hj.symm.trans hg
        exact ⟨hjobKind, hown.request.importId⟩
      · exact hkp.unique id held.jobId job' job hg hj hk' hjobKind
          (him.trans hown.request.importId.symm)
    · obtain ⟨importId, hown⟩ := hkp.leases held hheld hk
      exact ⟨importId, { hown with }⟩

/-- The job found for an active import that is being processed is its import job. -/
theorem Sound.jobOfImport_kind (h : Sound w) {job : JobRecord}
    (hj : jobOfImport w.db importId = some (jobId, job))
    (hrec : w.db.imports.get? importId = some record) (hproc : record.state = .processing)
    (hact : record.lifecycleState = .active) : job.kind = .importing := by
  obtain ⟨hg, him⟩ := Dict.first_eq_some_get? hj
  by_contra hk
  obtain ⟨-, hsc⟩ := h.dependentJobs jobId job hg hk importId (of_decide_eq_true him)
  have hsett := hsc record hrec hact
  rw [ImportRecord.settled, hproc] at hsett
  cases hsett

theorem publish_sound (h : Sound w) {draft : DraftRows} {fencingGeneration : ℕ} : Sound (w.commit
      (committed w.db (publishDraft w.db importId draft workerId fencingGeneration now))) :=
  h.works (publishDraft_works fun _ _ hj _ hrec hproc hact =>
    h.jobOfImport_kind hj hrec hproc hact)

theorem confirmProfile_sound (h : Sound w) {attached : String}
    (hrec : w.db.imports.get? importId = some record) (hsett : record.settled = true)
    (hok : confirmProfile w.db ownerUserId importId content profileId deletionScopeId now
      = .ok (attached, db')) : Sound (w.commit db') := by
  rcases confirmProfile_eq_ok hok with ⟨_, -, rfl⟩ | ⟨-, -, -, -, rfl⟩
  · exact h
  · refine h.insert "" ⟨List.Subset.refl _, rfl, rfl, fun _ _ => .inl, fun _ _ => .inl,
      Dict.get?_or_of_set ⟨h.imports importId record hrec, fun other hoth => ?_⟩,
      fun _ _ => .inl⟩
    cases hrec.symm.trans hoth
    exact hsett

/-- A confirmation leaves the scope of its import as it was. -/
theorem finishConfirmation_scopes (hrec : db.imports.get? importId = some record)
    (hsett : record.settled = true) :
    ScopesEvolve db (finishConfirmation db ownerUserId importId record profileId now) := by
  have hsame := (Recedes.refl db).scopes
  refine ⟨hsame.users, fun key record' hg => ?_, hsame.profiles,
    fun _ job hg => ⟨job, hg, FencedStep.refl _ job⟩⟩
  obtain ⟨before, hold, ⟨rfl, rfl⟩ | ⟨-, rfl⟩⟩ := Dict.get?_of_modify hg
  · cases hrec.symm.trans hold
    exact ⟨record, hold, rfl, id, hsett.symm⟩
  · exact ⟨record', hold, (ImportStep.refl record').toScopeStep⟩

theorem confirm_sound (h : Sound w) :
    Sound (w.commit (committed w.db
      (confirm w.db ownerUserId importId content profileId deletionScopeId now))) := by
  refine committed_of (P := fun db' => Sound (w.commit db')) h fun attached db' hok => ?_
  obtain ⟨record, profiled, hrec, -, hst, hpfd, rfl⟩ := confirm_eq_ok hok
  have hsett : record.settled = true := by
    rcases hst with hst | hst <;> rw [ImportRecord.settled, hst] <;> rfl
  have hims : profiled.imports = w.db.imports := by
    rcases confirmProfile_eq_ok hpfd with ⟨_, -, rfl⟩ | ⟨-, -, -, -, rfl⟩ <;> rfl
  refine (confirmProfile_sound h hrec hsett hpfd).evolve
    (finishConfirmation_scopes ?_ hsett)
  show profiled.imports.get? importId = some record
  rw [hims]
  exact hrec

theorem calculate_sound (h : Sound w) {request : CalculationRequest}
    {initializeNewJob : JobInitializer} (hfrm : initializeNewJob.Frames)
    (hfr : request.jobId ∉ w.drawn) :
    Sound ⟨committed w.db (submitCalculation w.db request initializeNewJob),
      request.jobId :: w.drawn, w.leases, w.admitted⟩ := by
  have hsame := h.draw (subset_cons_self request.jobId w.drawn)
  refine committed_of (P := fun db' => Sound
    ⟨db', request.jobId :: w.drawn, w.leases, w.admitted⟩) hsame fun submission db' hok => ?_
  rcases submitCalculation_eq_ok hok with rfl | ⟨routeId, user, profile, imported, hroute, hsc,
    ⟨jobId, rfl⟩ | ⟨auditEvents, -, -, hini⟩⟩
  · exact hsame
  · exact hsame.evolve (.of_same rfl)
  · obtain ⟨hrest, hims, hjs⟩ := hfrm _ _ _ hini
    obtain ⟨-, hpf, -⟩ := calculationScope_eq_ok hsc
    refine h.addJob hfr (checkCalculation_kind hroute).1 ?_ hrest.users hims hrest.profiles
      hjs
    intro importId him
    cases him
    obtain ⟨hdr, hsett⟩ := h.profiles _ profile hpf
    exact ⟨hdr, fun record hrec _ => hsett record hrec⟩

/-- The target of a started sweep is fenced, and a profile that is swept has a published
draft. -/
theorem request_sound (h : Sound w) {deletionId receiptId : String} {requested : LedgerEvent}
    (hfr : jobId ∉ w.drawn) :
    Sound ⟨committed w.db (recordRequested keys w.db deletionId requested jobId receiptId now),
      jobId :: w.drawn, w.leases, w.admitted⟩ := by
  have hsame := h.draw (subset_cons_self jobId w.drawn)
  refine committed_of (P := fun db' => Sound ⟨db', jobId :: w.drawn, w.leases, w.admitted⟩) hsame
    fun u db' hok => ?_
  obtain ⟨control, target, -, htgt, -, -, -, ⟨ledgerReceipts, -, -, rfl⟩ | ⟨-, hstd⟩⟩ :=
    recordRequested_eq_ok hok
  · exact hsame.evolve (.of_same rfl)
  · obtain ⟨user, importGeneration, -, -, hjs⟩ := hstd.jobs
    -- first the target goes on to `DELETING`, then the job comes in
    have hdel : Sound (w.commit { db' with jobs := w.db.jobs }) := by
      refine h.evolve ⟨fun id user' hg => ?_, fun id record' hg => ?_,
        fun id profile' hg => ?_, fun id job hg => ⟨job, hg, FencedStep.refl _ job⟩⟩
      · exact setLifecycle_userStep (by decide) (hstd.users ▸ hg)
      · obtain ⟨record, hold, hs⟩ :=
          setLifecycle_importStep (by decide) (hstd.imports ▸ hg)
        exact ⟨record, hold, hs.toScopeStep⟩
      · exact setLifecycle_profileStep (by decide) (hstd.profiles ▸ hg)
    refine hdel.addJob hfr (by decide : JobKind.deletion ≠ .importing) ?_ rfl rfl rfl hjs
    intro importId him
    have htargetImport : target.importId = some importId := him
    obtain ⟨-, hrow⟩ := targetByScope_eq_some htgt
    cases hk : control.targetKind with
    | account =>
      rw [hk] at hrow
      obtain ⟨user, -, heq⟩ := hrow
      rw [heq] at htargetImport
      cases htargetImport
    | importing =>
      rw [hk] at hrow
      obtain ⟨record, hrec, heq⟩ := hrow
      rw [heq] at htargetImport
      cases htargetImport
      refine ⟨h.imports _ record hrec, fun record' hg hact => ?_⟩
      have hims := hstd.imports
      rw [hk] at hims
      have hnot : ¬ ActiveTarget (w.db.setLifecycle .importing target.id .deleting
          target.lifecycleGeneration) .importing target.id :=
        setLifecycle_not_active (by decide)
      exact absurd ⟨record', hims ▸ hg, hact⟩ hnot
    | profile =>
      rw [hk] at hrow
      obtain ⟨profile, hpf, heq⟩ := hrow
      rw [heq] at htargetImport
      cases htargetImport
      obtain ⟨hdr, hsett⟩ := h.profiles _ profile hpf
      refine ⟨hdr, fun record' hg _ => ?_⟩
      have hims := hstd.imports
      rw [hk] at hims
      exact hsett record' (hims ▸ hg)

/-- **What every transaction keeps.** -/
theorem StoreStep.sound {operation : StoreOperation} {w' : StoreWorld} (h : Sound w)
    (hs : StoreStep auth keys w operation w') : Sound w' := by
  cases hs with
  | register hfr hok => exact register_sound h hfr hok
  | login hok => exact login_sound h hok
  | check hok => exact admit_sound h hok
  | record hadm him hj => exact (record_sound h hadm him hj).leave _
  | abandon => exact h.leave _
  | install him => exact install_sound h him
  | lease hok => exact lease_sound h hok
  | publish => exact publish_sound h
  | confirm => exact confirm_sound h
  | calculate hfrm hj => exact calculate_sound h hfrm hj
  | schedule hk _ him hj hjs hims hrest =>
    refine h.addJob hj ?_ ?_ hrest.users hims hrest.profiles hjs
    · rw [hk]
      decide
    · intro importId hsome
      rw [him] at hsome
      cases hsome
  | replay hpf hk _ him hj hjs _ hrest hims =>
    rcases hjs with hjs | hjs
    · refine h.addJob hj ?_ ?_ hrest.users hims hrest.profiles hjs
      · rw [hk]
        decide
      · intro importId hsome
        cases him.symm.trans hsome
        obtain ⟨hdr, hsett⟩ := h.profiles _ _ hpf
        exact ⟨hdr, fun record hrec _ => hsett record hrec⟩
    · refine (h.draw (subset_cons_self _ _)).evolve (.of_same ?_)
      rw [hrest.users, hims, hrest.profiles, hjs]
  | fence => exact h.evolve fencePrepared_evolves.scopes
  | request hj => exact request_sound h hj
  | sweep => exact h.evolve sweepRows_recedes.scopes
  | verify => exact h.evolve verifyRows_recedes.scopes
  | subsume => exact h.evolve completeSubsumed_recedes.scopes
  | complete =>
    exact h.evolve (complete_recedes fun id profile hg => (h.profiles id profile hg).2).scopes
  | work hworks => exact h.works hworks
  | other hevo => exact h.evolve hevo.scopes

/-- **What is known in every state that is reached.** -/
theorem sound_of_reached {allowed : StoreWorld → StoreOperation → Prop}
    (h : ReachedBy EmptyStore (StoreStep auth keys) allowed w) : Sound w :=
  h.invariant (fun _ hempty => sound_of_emptyStore hempty)
    fun _ _ _ hsound _ hs => hs.sound hsound

end Steps

/-! ### Publication under a fence -/

section Publication

variable {auth : AuthKeys} {keys : DeletionKeys} {w : StoreWorld} {db' : Database}
  {lease : JobLease} {now : ℤ}

/-- The scope of an import job at the generation its import has, by the account alone. -/
theorem ImportJob.scopeValid_iff {id ownerUserId importId : String} {job : JobRecord}
    {record : ImportRecord} (h : Sound w) (hown : ImportJob w id job ownerUserId importId)
    (hrec : w.db.imports.get? importId = some record) (hact : record.lifecycleState = .active)
    (hgen : some record.lifecycleGeneration = job.capturedImportGeneration) :
    scopeValid w.db job = true ↔ ActiveUser w.db ownerUserId := by
  have hk : job.kind = .importing := hown.request.kind
  have ho : job.ownerUserId = some ownerUserId := hown.request.ownerUserId
  have him : job.importId = some importId := hown.request.importId
  have hpf : job.profileVersionId = none := hown.request.profileVersionId
  have hmode : job.scopeMode = .activeScope := hown.request.scopeMode
  have hcapd : job.capturedAccountGeneration = 0 := hown.request.capturedAccountGeneration
  have hnone : job.capturedProfileGeneration = none := hown.request.capturedProfileGeneration
  have hrecordOwner : some record.ownerUserId = job.ownerUserId := by
    rw [ho, hown.owned record hrec]
  have himS : importScopeIsValid job (some record) = true := by
    simp only [importScopeIsValid, hk, JobKind.definition, if_true, hrecordOwner, hact,
      hgen, decide_true, Bool.and_self]
  have hprofileScope : profileScopeIsValid job none = true := by
    simp only [profileScopeIsValid, hk, JobKind.definition, hpf, hnone]
    rfl
  rw [scopeValid, ho, him, hpf]
  show scopeIsValid job (w.db.users.get? ownerUserId) (w.db.imports.get? importId) none = true ↔ _
  rw [hrec]
  unfold scopeIsValid
  rw [hk, hmode]
  cases huser : w.db.users.get? ownerUserId with
  | none =>
    refine iff_of_false (by simp [JobKind.definition]) ?_
    rintro ⟨user, hg, -⟩
    rw [huser] at hg
    cases hg
  | some user =>
    simp only [JobKind.definition, himS, hprofileScope, hcapd]
    constructor
    · intro hv
      refine ⟨user, huser, ?_⟩
      simpa using (by simpa using hv : _ ∧ _).2
    · rintro ⟨user', hg, huserActive⟩
      cases huser.symm.trans hg
      have hzero := (h.users _ user huser).2 huserActive
      simp [hzero, huserActive]

/-- **A draft that is published was published under the fence of its lease exactly when the
lease was still live and the account active**; that no cancellation was requested and that the
account is at the captured generation follows from that. -/
theorem publication_fenced_iff
    (hreached : ReachedBy EmptyStore (StoreStep auth keys) (fun _ _ => True) w)
    (hlease : lease ∈ w.leases) (hkind : lease.kind = .importing) {importId : String}
    (himport : lease.importId = some importId) {draft : DraftRows}
    (hpublished : publishDraft w.db importId draft lease.workerId lease.fencingGeneration now
      = .ok (true, db')) :
    ∃ job ownerUserId, w.db.jobs.get? lease.jobId = some job ∧
      job.ownerUserId = some ownerUserId ∧
      (currentFencedJob w.db lease now (· = .running) = some job ↔
        leaseLive job now = true ∧ ActiveUser w.db ownerUserId) := by
  have h := sound_of_reached hreached
  obtain ⟨hfalse, -⟩ | ⟨-, jobId, job, record, _, _, hjob, hrecord, hpublishable, -⟩ :=
    publishDraft_eq_ok hpublished
  · cases hfalse
  obtain ⟨hrunning, howner, hfencing, hprocessing, hactive, hgeneration⟩ :=
    publishable_iff.mp hpublishable
  obtain ⟨hget, himportId⟩ := Dict.first_eq_some_get? hjob
  have hjobKind := h.jobOfImport_kind hjob hrecord hprocessing hactive
  -- the job found for the import is the one the lease is for
  obtain ⟨importId', hown'⟩ := h.leases lease hlease hkind
  obtain rfl : importId' = importId := Option.some.inj (hown'.importing.symm.trans himport)
  obtain rfl : jobId = lease.jobId :=
    hown'.only jobId job hget hjobKind (of_decide_eq_true himportId)
  obtain ⟨ownerUserId, importId, hown⟩ := h.importJobs lease.jobId job hget hjobKind
  obtain rfl : importId = importId' :=
    Option.some.inj (hown.request.importId.symm.trans (of_decide_eq_true himportId))
  have hlive : job.state.terminal = false := by
    rw [hrunning]
    rfl
  have hmatches : leaseMatches job lease = true := by
    have hmode : job.scopeMode = .activeScope := hown.request.scopeMode
    have hprofile : job.profileVersionId = none := hown.request.profileVersionId
    have himporting : job.importId = some importId := hown.request.importId
    simp only [leaseMatches, howner, hfencing, hjobKind, hkind, hmode, hown'.scopeMode,
      himporting, hown'.importing, hprofile, hown'.profileVersionId, decide_true, Bool.and_self]
  refine ⟨job, ownerUserId, hget, hown.request.ownerUserId, ?_⟩
  rw [currentFencedJob_eq_some, hown.scopeValid_iff h hrecord hactive hgeneration]
  constructor
  · rintro ⟨-, -, -, hunexpired, -, haccount⟩
    exact ⟨hunexpired, haccount⟩
  · rintro ⟨hunexpired, haccount⟩
    refine ⟨hget, decide_eq_true hrunning, hmatches, hunexpired, ?_, haccount⟩
    -- a cancellation would mean that the account or the import is fenced
    rw [Bool.eq_false_iff]
    intro hcancel
    rcases hown.cancelled hcancel hlive with ⟨id, hid, hfenced⟩ | ⟨id, hid, hfenced⟩ | ⟨id, hid, -⟩
    · rw [hown.request.ownerUserId] at hid
      cases hid
      exact hfenced haccount
    · rw [hown.request.importId] at hid
      cases hid
      exact hfenced ⟨record, hrecord, hactive⟩
    · rw [hown.request.profileVersionId] at hid
      cases hid

end Publication

/-! ### A small run -/

namespace SmallStore

/-- Passwords and tokens stand for their digests. -/
def auth : AuthKeys where
  sessionDigest token := token
  csrfDigest token := token
  verify hash password := hash = password
  needsRehash _ := false

/-- Scopes stand for their tokens; every digest is a constant. -/
def keys : DeletionKeys where
  currentVersion := "restore-key-1"
  scopeToken _ scopeId := some scopeId
  intentProofDigest _ _ := digest 'a'
  preparationDigest _ _ _ _ _ _ := digest 'b'
  receiptOf _ _ := digest 'c'
  canonicalSha256 _ := digest 'd'
  receiptDigest _ := digest 'e'
  intentPayloadHash _ _ _ := digest 'f'
  sha256 _ := digest '9'

def registration : Registration where
  username := "owner"
  password := "a long password"
  passwordHash := "a long password"
  userId := owner
  deletionScopeId := "10000000000000000000000000000001"
  session := ⟨"50000000000000000000000000000001", digest '7', digest '8', 0⟩

def upload : ImportUpload where
  ownerUserId := owner
  adapter := "PGE_CSV"
  idempotencyKey := "import-1"
  sizeBytes := 1
  rawHash := digest '1'
  payloadHash := digest '2'

def importIds : ImportIdentifiers where
  importId := importId
  jobId := jobId
  rawId := "60000000000000000000000000000001"
  operationId := operationId
  deletionScopeId := "10000000000000000000000000000002"

def importLease : JobLease where
  jobId := jobId
  importId := some importId
  workerId := "worker-1"
  attemptNumber := 1
  fencingGeneration := 1
  leaseExpiresAt := 20000000
  kind := .importing
  profileVersionId := none
  scopeMode := .activeScope

def draftRows : DraftRows where
  readings := [("70000000000000000000000000000001",
    ⟨importId, 0, 3600, "500"⟩)]
  findings := []

def emptyWorld : StoreWorld := ⟨default, [], [], []⟩

/-- The owner has an account. -/
def registered : StoreWorld :=
  ⟨(((register auth default registration).toOption.map Prod.snd).getD default), [owner], [], []⟩

/-- A submission has found the account active. -/
def admitted : StoreWorld := ⟨registered.db, [owner], [], [(owner, 0)]⟩

def recorded : StoreWorld :=
  ⟨committed admitted.db (recordSubmission admitted.db upload 0 importIds 0),
    [importId, jobId, owner], [], admitted.admitted.erase (owner, 0)⟩

/-- The import job is leased, and started. -/
def importLeased : StoreWorld :=
  ⟨committed recorded.db
      (leaseNext recorded.db [.importing] "worker-1" 0 "20000000000000000000000000000001"),
    [importId, jobId, owner], [importLease], recorded.admitted⟩

def importStarted : StoreWorld := importLeased.commit (start importLeased.db importLease 0).2

section Reached

variable {allowed : StoreWorld → StoreOperation → Prop}

theorem admitted_reached (hrgt : allowed emptyWorld (.register registration))
    (hchk : allowed registered (.check upload)) :
    ReachedBy EmptyStore (StoreStep auth keys) allowed admitted := by
  have hempty : ReachedBy EmptyStore (StoreStep auth keys) allowed emptyWorld :=
    ⟨emptyWorld, ⟨rfl, rfl, rfl, rfl, rfl, rfl⟩, Runs.refl _⟩
  have hreg : ReachedBy EmptyStore (StoreStep auth keys) allowed registered := by
    obtain ⟨⟨grant, db'⟩, hok⟩ : ∃ r, register auth default registration = .ok r := by
      decide +kernel
    have hdb : registered.db = db' := by
      rw [registered, hok]
      rfl
    refine hempty.snoc hrgt (.register (w := emptyWorld) (by decide) (hdb ▸ hok))
  exact hreg.snoc hchk (.check (by decide +kernel))

theorem recorded_reached (h : ReachedBy EmptyStore (StoreStep auth keys) allowed admitted)
    (hrec : allowed admitted (.record upload 0 importIds 0)) :
    ReachedBy EmptyStore (StoreStep auth keys) allowed recorded :=
  h.snoc hrec (.record (by decide +kernel) (by decide +kernel) (by decide +kernel))

theorem importStarted_reached (h : ReachedBy EmptyStore (StoreStep auth keys) allowed admitted)
    (hrec : allowed admitted (.record upload 0 importIds 0))
    (hls : allowed recorded
      (.lease [.importing] "worker-1" 0 "20000000000000000000000000000001"))
    (hwork : allowed importLeased .work) :
    ReachedBy EmptyStore (StoreStep auth keys) allowed importStarted := by
  have hls' : leaseNext recorded.db [.importing] "worker-1" 0 "20000000000000000000000000000001"
      = .ok (some importLease, importLeased.db) := by decide +kernel
  have hlsd : ReachedBy EmptyStore (StoreStep auth keys) allowed importLeased :=
    (recorded_reached h hrec).snoc hls (.lease hls')
  exact hlsd.snoc hwork (.work start_works)

end Reached

end SmallStore

section

open SmallStore

/-- A draft published a second after its lease was handed out. -/
theorem publication_fenced_iff_started :
    ReachedBy EmptyStore (StoreStep auth keys) (fun _ _ => True)
        importStarted ∧
      importLease ∈ importStarted.leases ∧
      (publishDraft importStarted.db importId draftRows "worker-1"
        1 1000000).toOption.map Prod.fst = some true ∧
      ∃ job, currentFencedJob importStarted.db importLease 1000000
        (· = .running) = some job := by
  have hreached : ReachedBy EmptyStore (StoreStep auth keys)
      (fun _ _ => True) importStarted :=
    importStarted_reached (admitted_reached trivial trivial) trivial trivial
      trivial
  have hlease : importLease ∈ importStarted.leases := List.mem_singleton_self _
  have hpublishes : (publishDraft importStarted.db importId
      draftRows "worker-1" 1 1000000).toOption.map Prod.fst = some true := by
    decide +kernel
  obtain ⟨⟨_, db'⟩, hresult, rfl⟩ : ∃ r, publishDraft importStarted.db importId draftRows
      "worker-1" 1 1000000 = .ok r ∧ r.1 = true := by decide +kernel
  obtain ⟨job, ownerUserId, hjob, howner, hiff⟩ :=
    publication_fenced_iff hreached hlease rfl rfl hresult
  refine ⟨hreached, hlease, hpublishes, job, hiff.mpr ⟨?_, ?_⟩⟩
  · have hlive : (importStarted.db.jobs.get? jobId).any
        (fun job => leaseLive job 1000000) = true := by decide +kernel
    rw [show jobId = importLease.jobId from rfl, hjob] at hlive
    exact hlive
  · have hactive : (importStarted.db.jobs.get? jobId).bind (·.ownerUserId)
          = some owner ∧
        (importStarted.db.users.get? owner).map (·.lifecycleState)
          = some .active := by decide +kernel
    rw [show jobId = importLease.jobId from rfl, hjob] at hactive
    obtain rfl : ownerUserId = owner :=
      Option.some.inj (howner.symm.trans hactive.1)
    exact Option.map_eq_some_iff.mp hactive.2

/-- **A draft is published under a lease that has run out**: the import worker does not prolong
its lease, and twenty seconds after it was handed out the shared fence refuses it. -/
theorem published_under_expired_lease :
    ReachedBy EmptyStore (StoreStep auth keys) (fun _ _ => True)
        importStarted ∧
      importLease ∈ importStarted.leases ∧
      (publishDraft importStarted.db importId draftRows "worker-1"
        1 20000000).toOption.map Prod.fst = some true ∧
      currentFencedJob importStarted.db importLease 20000000
        (· = .running) = none := by
  refine ⟨importStarted_reached (admitted_reached trivial trivial) trivial
    trivial trivial, List.mem_singleton_self _, ?_, ?_⟩
  · decide +kernel
  · decide +kernel

end

end RateReplay
