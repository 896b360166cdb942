import RateReplay.Persistence.Publications
import RateReplay.Persistence.StoreSound

/-!
# No stored object is lost from sight

The transactions that speak of an object are not the effect that stores it, and a process may stop
between the two.  While an operation is under way its object is in its hands; when it ends, a
record or a registration that is not deleted has to name the key, or no cleanup will ever find the
object.

An operation that stops, or whose object store raises, may leave an object that nothing names: a
submission that stops before it records its raw object, and an attempt that stores its object only
after the sweeper has collected the registration.

## Main definitions

* `Referenced` — a record or registration that is not deleted names the key.
* `ArtifactTask.holds` — the object in the hands of an operation.
* `Secured` — the key is referenced, and no pending transaction is about to take that back.
* `StopsSafely` — where an operation may end early.

## Main results

* `ArtifactStep.objects` — **every stored object is held or secured.**
* `stored_objects_referenced` — **nothing is stranded when operations end safely.**
* `stopping_strands_objects` — an attempt and a submission that strand their objects.
-/

namespace RateReplay

open List

/-! ### References -/

/-- A raw record names the key. -/
def RawReferenced (db : Database) (key : String) : Prop :=
  ∃ id raw, db.rawObjects.get? id = some raw ∧ raw.objectKey = key ∧ raw.state ≠ .deleted

/-- **A record or a registration that is not deleted names the key.** -/
def Referenced (db : Database) (key : String) : Prop :=
  RawReferenced db key ∨ ∃ id registration, db.uploads.get? id = some registration ∧
    registration.objectKey = key ∧ registration.state ≠ .deleted

/-- The object an operation under way has in its hands. -/
def ArtifactTask.holds : ArtifactTask → Option String
  | .settle _ _ key => some key
  | .remove _ key _ => some key
  | .record submitted _ ids _ => some (rawObjectKey submitted.ownerUserId ids.importId)
  | .discard key _ => some key
  | _ => none

/-- The registration an operation is about to mark as deleted. -/
def ArtifactTask.marks : ArtifactTask → Option String
  | .mark id _ _ => some id
  | _ => none

/-- The registration an operation works on, and its key. -/
def ArtifactTask.registration : ArtifactTask → Option (String × String)
  | .store _ id key => some (id, key)
  | .settle _ id key => some (id, key)
  | .remove id key _ => some (id, key)
  | .mark id key _ => some (id, key)
  | _ => none

/-- An operation has the object in its hands. -/
def InHands (tasks : List ArtifactTask) (key : String) : Prop :=
  ∃ task ∈ tasks, task.holds = some key

/-- The key is referenced, and no transaction that is still to come takes that back: the
registration is not about to be marked as deleted. -/
def Secured (db : Database) (tasks : List ArtifactTask) (key : String) : Prop :=
  RawReferenced db key ∨ ∃ id registration, db.uploads.get? id = some registration ∧
    registration.objectKey = key ∧ registration.state ≠ .deleted ∧
    (registration.state = .deletePending → ∀ task ∈ tasks, task.marks ≠ some id)

/-- The registration is there, for this key. -/
def Registered (db : Database) (id key : String) : Prop :=
  ∃ registration, db.uploads.get? id = some registration ∧ registration.objectKey = key

/-- The object of the registration has been removed by another: the registration is marked as
deleted, or about to be. -/
def Removed (w : ArtifactWorld) (id : String) : Prop :=
  ∃ registration, w.db.uploads.get? id = some registration ∧
    (registration.state = .deleted ∨
      registration.state = .deletePending ∧ ∃ task ∈ w.tasks, task.marks = some id)

/-- Where an operation may end early.  `stage` and the sweeper may stop, or fail to store or to
remove, as long as the registration of a stored object has not been removed by another; a
submission may not stop or fail while its raw object is stored and not yet recorded. -/
def StopsSafely (w : ArtifactWorld) : ArtifactOperation → Prop
  | .raise (.store _ id _) true => ¬ Removed w id
  | .crash (.settle _ id key) | .crash (.remove id key _) | .raise (.remove id key _) false =>
    key ∈ w.objects → ¬ Removed w id
  | .crash (.record upload _ ids _) => rawObjectKey upload.ownerUserId ids.importId ∉ w.objects
  | .crash (.discard key _) | .raise (.discard key false) false => key ∉ w.objects
  | _ => True

/-- Every stored object is in the hands of an operation or secured, and operations work on
registrations that are there. -/
structure ObjectsSound (w : ArtifactWorld) : Prop where
  kept : ∀ key ∈ w.objects, InHands w.tasks key ∨ Secured w.db w.tasks key
  registered : ∀ task ∈ w.tasks, ∀ id key, task.registration = some (id, key) →
    Registered w.db id key

section References

variable {db db' : Database} {tasks tasks' : List ArtifactTask} {key : String}

theorem Registered.secured {w : ArtifactWorld} {id : String} (h : Registered w.db id key)
    (hnot : ¬ Removed w id) : Secured w.db w.tasks key := by
  obtain ⟨registration, hg, hkey⟩ := h
  exact .inr ⟨id, registration, hg, hkey, fun hst => hnot ⟨registration, hg, .inl hst⟩,
    fun hpend task hmem hmark => hnot ⟨registration, hg, .inr ⟨hpend, task, hmem, hmark⟩⟩⟩

theorem Secured.referenced (h : Secured db tasks key) : Referenced db key := by
  rcases h with hraw | ⟨id, registration, hg, hkey, hst, -⟩
  · exact .inl hraw
  · exact .inr ⟨id, registration, hg, hkey, hst⟩

/-- Without raw records, and with every registration deleted, nothing is referenced. -/
theorem not_referenced (hraw : db.rawObjects.entries = [])
    (hups : db.uploads.entries.all (fun e => e.2.state = .deleted) = true) :
    ¬ Referenced db key := by
  rintro (⟨id, raw, hg, -⟩ | ⟨id, registration, hg, -, hst⟩)
  · have hmem := Dict.get?_eq_some.mp hg
    rw [hraw] at hmem
    cases hmem
  · have hdeleted := all_eq_true.mp hups _ (Dict.get?_eq_some.mp hg)
    exact hst (of_decide_eq_true hdeleted)

theorem inHands_singleton {task : ArtifactTask} (h : InHands [task] key) :
    task.holds = some key := by
  obtain ⟨other, hmem, hholds⟩ := h
  rw [mem_singleton.mp hmem] at hholds
  exact hholds

/-- Raw records are not changed or removed. -/
def RawKept (db db' : Database) : Prop :=
  ∀ id raw, db.rawObjects.get? id = some raw → db'.rawObjects.get? id = some raw

theorem RawKept.of_eq (h : db'.rawObjects = db.rawObjects) : RawKept db db' := by
  intro id raw hg
  rw [h]
  exact hg

theorem RawReferenced.kept (h : RawReferenced db key) (hkept : RawKept db db') :
    RawReferenced db' key := by
  obtain ⟨id, raw, hg, hkey, hst⟩ := h
  exact ⟨id, raw, hkept id raw hg, hkey, hst⟩

/-- What moves towards a result stays secured. -/
theorem Secured.advance (h : Secured db tasks key) (hraw : RawKept db db')
    (hadv : UploadsAdvance db db')
    (hmarks : ∀ task ∈ tasks', ∀ id, task.marks = some id → task ∈ tasks) :
    Secured db' tasks' key := by
  rcases h with hkept | ⟨id, registration, hg, hkey, hst, hpend⟩
  · exact .inl (hkept.kept hraw)
  · obtain ⟨registration', hg', hkey', hmoved⟩ := hadv id registration hg
    refine .inr ⟨id, registration', hg', hkey'.trans hkey, ?_⟩
    rcases hmoved with hsame | hacp | ⟨-, hstaged⟩
    · rw [hsame]
      exact ⟨hst, fun hdelete task hmem hmark =>
        hpend hdelete task (hmarks task hmem id hmark) hmark⟩
    · rw [hacp]
      exact ⟨by decide, fun hdelete => by cases hdelete⟩
    · rw [hstaged]
      exact ⟨by decide, fun hdelete => by cases hdelete⟩

/-- Registrations stay, with their keys. -/
def KeysKept (db db' : Database) : Prop := ∀ id key, Registered db id key → Registered db' id key

theorem UploadsAdvance.keys (h : UploadsAdvance db db') : KeysKept db db' := by
  rintro id key ⟨registration, hg, hkey⟩
  obtain ⟨registration', hg', hadv⟩ := h id registration hg
  exact ⟨registration', hg', hadv.objectKey.trans hkey⟩

theorem keysKept_modify {id : String}
    {f : ObjectUploadRegistrationRecord → ObjectUploadRegistrationRecord}
    (hf : ∀ registration, (f registration).objectKey = registration.objectKey) :
    KeysKept db { db with uploads := db.uploads.modify id f } := by
  rintro other key ⟨registration, hg, hkey⟩
  by_cases hoth : other = id
  · subst hoth
    refine ⟨f registration, ?_, (hf registration).trans hkey⟩
    show (db.uploads.modify other f).get? other = _
    rw [Dict.get?_modify_self, hg, Option.map_some]
  · exact ⟨registration, (Dict.get?_modify_of_ne _ _ hoth).trans hg, hkey⟩

/-- What happens to one registration leaves the objects of the others secured. -/
theorem Secured.elsewhere {id own : String} (h : Secured db tasks key) (hraw : RawKept db db')
    (hups : ∀ other, other ≠ id → db'.uploads.get? other = db.uploads.get? other)
    (hown : Registered db id own) (hne : key ≠ own)
    (hmarks : ∀ task ∈ tasks', ∀ other, task.marks = some other → other ≠ id → task ∈ tasks) :
    Secured db' tasks' key := by
  rcases h with hkept | ⟨other, registration, hg, hkey, hst, hpend⟩
  · exact .inl (hkept.kept hraw)
  · have hoth : other ≠ id := by
      rintro rfl
      obtain ⟨registration', hg', hkey'⟩ := hown
      cases hg.symm.trans hg'
      exact hne (hkey.symm.trans hkey')
    exact .inr ⟨other, registration, (hups other hoth).trans hg, hkey, hst,
      fun hdelete task hmem hmark =>
        hpend hdelete task (hmarks task hmem other hmark hoth) hmark⟩

/-- A submission records its raw object, and leaves the others alone. -/
theorem insertSubmission_rawKept {upload : ImportUpload} {accountGeneration : ℕ}
    {ids : ImportIdentifiers} {now : ℤ}
    (h : insertSubmission db upload accountGeneration ids now = .ok db') :
    RawKept db db' ∧ RawReferenced db' (rawObjectKey upload.ownerUserId ids.importId) := by
  have hnew := insertSubmission_newRaw h
  obtain ⟨-, -, -, auditEvents, rfl⟩ := insertSubmission_eq_ok h
  refine ⟨?_, ids.rawId, submittedRaw upload ids.importId now, Dict.get?_set_self _ _ _, rfl,
    by rintro ⟨⟩⟩
  intro id raw hg
  have hne : id ≠ ids.rawId := by
    rintro rfl
    cases hnew.symm.trans hg
  exact (Dict.get?_set_of_ne _ _ hne).trans hg

end References

/-! ### Steps -/

section Steps

variable {w w' : ArtifactWorld} {operation : ArtifactOperation} {task task' : ArtifactTask}
  {own new rest front back : List ArtifactTask} {id key : String} {db db' : Database} {now : ℤ}
  {call : StageCall} {tasks : List ArtifactTask} {olderThan : ℤ}

/-- The operations `own` have become the operations `new`; the `rest` stay. -/
structure TasksChange (w w' : ArtifactWorld) (own new rest : List ArtifactTask) : Prop where
  before : ∀ task, task ∈ w.tasks ↔ task ∈ own ∨ task ∈ rest
  after : ∀ task, task ∈ w'.tasks ↔ task ∈ new ∨ task ∈ rest

theorem TasksChange.replace
    (hpre : w.tasks = front ++ task :: back) (hafter : w'.tasks = front ++ (new ++ back)) :
    TasksChange w w' [task] new (front ++ back) := by
  refine ⟨fun other => ?_, fun other => ?_⟩
  · rw [hpre]
    simp only [mem_append, mem_cons, not_mem_nil, or_false]
    exact or_left_comm
  · rw [hafter]
    simp only [mem_append]
    exact or_left_comm

theorem TasksChange.spawn (hafter : w'.tasks = new ++ w.tasks) :
    TasksChange w w' [] new w.tasks := by
  refine ⟨fun other => ?_, fun other => ?_⟩
  · simp
  · rw [hafter, mem_append]

/-- A step that is about to mark nothing new leaves the marks to come. -/
theorem TasksChange.old (h : TasksChange w w' own new rest) (hmem : task ∈ w'.tasks)
    (hunmarked : ∀ task ∈ new, task.marks = none) (hmark : task.marks = some id) :
    task ∈ w.tasks := by
  rcases (h.after task).mp hmem with hmine | hoth
  · rw [hunmarked task hmine] at hmark
    cases hmark
  · exact (h.before task).mpr (.inr hoth)

/-- **What a step has to show**: what it stores is in its hands, and what it lets go of or changes
is secured. -/
theorem ObjectsSound.change (h : ObjectsSound w) (hchg : TasksChange w w' own new rest)
    (hkeys : KeysKept w.db w'.db)
    (hnew : ∀ task ∈ new, ∀ id key, task.registration = some (id, key) → Registered w'.db id key)
    (hobj : ∀ key ∈ w'.objects, key ∈ w.objects ∨ InHands new key)
    (hown : ∀ key ∈ w'.objects, key ∈ w.objects → InHands own key →
      InHands new key ∨ Secured w'.db w'.tasks key)
    (hsecured : ∀ key ∈ w'.objects, Secured w.db w.tasks key →
      InHands new key ∨ Secured w'.db w'.tasks key) : ObjectsSound w' := by
  have hheld : ∀ key, InHands new key → InHands w'.tasks key := by
    rintro key ⟨task, hmem, hholds⟩
    exact ⟨task, (hchg.after task).mpr (.inl hmem), hholds⟩
  refine ⟨?_, ?_⟩
  · intro key hkey
    rcases hobj key hkey with hold | hsto
    · rcases h.kept key hold with ⟨task, hmem, hholds⟩ | hkept
      · rcases (hchg.before task).mp hmem with hmine | hoth
        · exact (hown key hkey hold ⟨task, hmine, hholds⟩).imp_left (hheld key)
        · exact .inl ⟨task, (hchg.after task).mpr (.inr hoth), hholds⟩
      · exact (hsecured key hkey hkept).imp_left (hheld key)
    · exact .inl (hheld key hsto)
  · intro task hmem id key hregn
    rcases (hchg.after task).mp hmem with hmine | hoth
    · exact hnew task hmine id key hregn
    · exact hkeys id key
        (h.registered task ((hchg.before task).mpr (.inr hoth)) id key hregn)

/-- The same for a step that takes no registration back. -/
theorem ObjectsSound.advance (h : ObjectsSound w) (hchg : TasksChange w w' own new rest)
    (hraw : RawKept w.db w'.db) (hadv : UploadsAdvance w.db w'.db)
    (hunmarked : ∀ task ∈ new, task.marks = none)
    (hnew : ∀ task ∈ new, ∀ id key, task.registration = some (id, key) → Registered w'.db id key)
    (hobj : ∀ key ∈ w'.objects, key ∈ w.objects ∨ InHands new key)
    (hown : ∀ key ∈ w'.objects, key ∈ w.objects → InHands own key →
      InHands new key ∨ Secured w'.db w'.tasks key) : ObjectsSound w' := by
  refine h.change hchg hadv.keys hnew hobj hown ?_
  intro key _ hkept
  exact .inr (hkept.advance hraw hadv fun _ hmem _ hmark => hchg.old hmem hunmarked hmark)

theorem ObjectsSound.of_task (h : ObjectsSound w) (htask : w.tasks = front ++ task :: back)
    (hregn : task.registration = some (id, key)) : Registered w.db id key := by
  refine h.registered task ?_ id key hregn
  rw [htask]
  exact mem_append_right _ mem_cons_self

theorem not_inHands_nil : ¬ InHands [] key := by
  rintro ⟨task, hmem, -⟩
  cases hmem

/-- Operations begin: they have stored nothing yet. -/
theorem ObjectsSound.enter (h : ObjectsSound w) (htasks : w'.tasks = new ++ w.tasks)
    (hobj : w'.objects = w.objects) (hraw : RawKept w.db w'.db)
    (hadv : UploadsAdvance w.db w'.db) (hunmarked : ∀ task ∈ new, task.marks = none)
    (hnew : ∀ task ∈ new, ∀ id key, task.registration = some (id, key) →
      Registered w'.db id key) : ObjectsSound w' := by
  refine h.advance (.spawn htasks) hraw hadv hunmarked hnew ?_
    (fun _ _ _ hheld => absurd hheld not_inHands_nil)
  intro key hmem
  rw [hobj] at hmem
  exact .inl hmem

/-- An operation ends: what it had in its hands is gone or secured. -/
theorem ObjectsSound.leave (h : ObjectsSound w) (htask : w.tasks = front ++ task :: back)
    (hown : ∀ key ∈ w'.objects, task.holds = some key → Secured w'.db w'.tasks key)
    (htasks : w'.tasks = front ++ back) (hraw : RawKept w.db w'.db)
    (hadv : UploadsAdvance w.db w'.db) (hobj : w'.objects ⊆ w.objects) : ObjectsSound w' := by
  have hchg : TasksChange w w' [task] [] (front ++ back) := .replace htask htasks
  exact h.advance hchg hraw hadv (forall_mem_nil _) (forall_mem_nil _)
    (fun _ hmem => .inl (hobj hmem))
    (fun key hmem _ hheld => .inr (hown key hmem (inHands_singleton hheld)))

/-- An operation ends and does nothing: a stored object in its hands has to be secured. -/
theorem ObjectsSound.stop (h : ObjectsSound w) (htask : w.tasks = front ++ task :: back)
    (hsafe : ∀ key ∈ w.objects, task.holds = some key → Secured w.db w.tasks key) :
    ObjectsSound { w with tasks := front ++ back } := by
  refine h.leave htask ?_ rfl (.of_eq rfl) (.of_eq rfl) subset_rfl
  intro key hmem hholds
  refine (hsafe key hmem hholds).advance (.of_eq rfl) (.of_eq rfl) ?_
  intro other hoth _ _
  rw [htask]
  exact mem_append.mpr ((mem_append.mp hoth).imp_right (mem_cons_of_mem _))

/-- An operation goes on without a transaction: what it had in its hands it still has. -/
theorem ObjectsSound.goOn (h : ObjectsSound w) (htask : w.tasks = front ++ task :: back)
    (htasks : w'.tasks = front ++ task' :: back) (hdb : w'.db = w.db)
    (hunmarked : task'.marks = none)
    (hregn : ∀ id key, task'.registration = some (id, key) →
      task.registration = some (id, key))
    (hobj : ∀ key ∈ w'.objects, key ∈ w.objects ∨ task'.holds = some key)
    (hholds : ∀ key, task.holds = some key → task'.holds = some key) : ObjectsSound w' := by
  have hheld : ∀ key, task'.holds = some key → InHands [task'] key :=
    fun _ hholds => ⟨task', mem_singleton_self _, hholds⟩
  have hchg : TasksChange w w' [task] [task'] (front ++ back) := .replace htask htasks
  refine h.advance hchg (.of_eq (congrArg _ hdb)) (.of_eq (congrArg _ hdb))
    (forall_mem_singleton.mpr hunmarked) (forall_mem_singleton.mpr ?_)
    (fun key hmem => (hobj key hmem).imp_right (hheld key))
    (fun key _ _ hmine => .inl (hheld key (hholds key (inHands_singleton hmine))))
  intro id key hnew
  rw [hdb]
  exact h.of_task htask (hregn id key hnew)

theorem held_of_insert (hholds : task.holds = some key) {other : String} {objects : Finset String}
    (hmem : other ∈ insert key objects) : other ∈ objects ∨ task.holds = some other := by
  rcases Finset.mem_insert.mp hmem with rfl | hold
  · exact .inr hholds
  · exact .inl hold

/-- An attempt stores its object, which is then in its hands. -/
theorem ObjectsSound.store (h : ObjectsSound w)
    (htask : w.tasks = front ++ .store call id key :: back) :
    ObjectsSound { w with
      objects := insert key w.objects
      tasks := front ++ .settle call id key :: back } :=
  h.goOn htask rfl rfl rfl (fun _ _ hsame => hsame) (fun _ => held_of_insert rfl)
    (by rintro _ ⟨⟩)

/-- An operation removes its object and ends. -/
theorem ObjectsSound.erase (h : ObjectsSound w) (htask : w.tasks = front ++ task :: back)
    (hholds : task.holds = some key) :
    ObjectsSound { w with objects := w.objects.erase key, tasks := front ++ back } := by
  refine h.leave htask ?_ rfl (.of_eq rfl) (.of_eq rfl) (Finset.erase_subset _ _)
  intro other hmem hother
  cases hholds.symm.trans hother
  exact absurd rfl (Finset.ne_of_mem_erase hmem)

/-- The object of a registration that an attempt has settled is secured. -/
theorem settleUpload_secured (h : settleUpload db call id = (false, db'))
    (hreg : Registered db id key) :
    Secured db' tasks key := by
  obtain ⟨registration, hg, hkey⟩ := hreg
  obtain ⟨current, -, -, rfl⟩ := settleUpload_eq_false h
  refine .inr ⟨id, { registration with
      state := .staged
      contentHash := some call.source.contentHash
      sizeBytes := some call.source.sizeBytes
      updatedAt := call.now }, ?_, hkey, by rintro ⟨⟩, by rintro ⟨⟩⟩
  show (db.uploads.modify id _).get? id = _
  rw [Dict.get?_modify_self, hg, Option.map_some]

/-- A stale attempt changes its own registration at most. -/
theorem settleUpload_stale (h : settleUpload db call id = (true, db')) :
    RawKept db db' ∧ KeysKept db db' ∧
      ∀ other, other ≠ id → db'.uploads.get? other = db.uploads.get? other := by
  rcases settleUpload_eq_true h with rfl | rfl
  · exact ⟨.of_eq rfl, fun _ _ hreg => hreg, fun _ _ => rfl⟩
  · refine ⟨.of_eq rfl, keysKept_modify ?_, fun other hne => Dict.get?_modify_of_ne _ _ hne⟩
    intro registration
    split <;> rfl

theorem markDeleted_keys :
    KeysKept db (markDeleted db id now) := by
  refine keysKept_modify ?_
  intro registration
  split <;> rfl

/-- Marking a registration takes nothing back that was secured: it was about to be marked. -/
theorem Secured.markDeleted {own : String} {tasks' : List ArtifactTask} (h : Secured db tasks key)
    (hmark : ArtifactTask.mark id own now ∈ tasks) (hmarks : ∀ task ∈ tasks', task ∈ tasks) :
    Secured (markDeleted db id now) tasks' key := by
  rcases h with hraw | ⟨other, registration, hg, hkey, hst, hpend⟩
  · exact .inl (hraw.kept (.of_eq rfl))
  · refine .inr ⟨other, registration, ?_, hkey, hst,
      fun hdelete task hmem => hpend hdelete task (hmarks task hmem)⟩
    show (db.uploads.modify id _).get? other = some registration
    by_cases hoth : other = id
    · subst hoth
      have hkeep : registration.state ≠ .deletePending :=
        fun hdelete => hpend hdelete _ hmark rfl
      rw [Dict.get?_modify_self, hg, Option.map_some, if_neg hkeep]
    · exact (Dict.get?_modify_of_ne _ _ hoth).trans hg

/-- What the sweeper collects is in its hands; the rest stays as it was. -/
theorem Secured.collectOrphans {orphans : List (String × String)} {tasks' : List ArtifactTask}
    (h : Secured db tasks key) (hsweep : collectOrphans db now olderThan = (orphans, db'))
    (hmarks : ∀ task ∈ tasks', ∀ id, task.marks = some id → task ∈ tasks) :
    InHands (orphans.map fun orphan => .remove orphan.1 orphan.2 now) key ∨
      Secured db' tasks' key := by
  rcases h with hraw | ⟨id, registration, hg, hkey, hst, hpend⟩
  · refine .inr (.inl (hraw.kept ?_))
    cases hsweep
    exact .of_eq rfl
  · rcases get?_collectOrphans hsweep hg with ⟨-, hg'⟩ | ⟨-, hcol, -⟩
    · exact .inr (.inr ⟨id, registration, hg', hkey, hst, fun hdelete task hmem hmark =>
        hpend hdelete task (hmarks task hmem id hmark) hmark⟩)
    · subst hkey
      exact .inl ⟨_, mem_map.mpr ⟨_, hcol, rfl⟩, rfl⟩

theorem collectOrphans_keys {orphans : List (String × String)}
    (h : collectOrphans db now olderThan = (orphans, db')) :
    KeysKept db db' := by
  rintro id key ⟨registration, hg, hkey⟩
  rcases get?_collectOrphans h hg with ⟨-, hg'⟩ | ⟨-, -, hg'⟩
  · exact ⟨registration, hg', hkey⟩
  · exact ⟨_, hg', hkey⟩

/-! The steps that take a registration back. -/

theorem ObjectsSound.settleStale (h : ObjectsSound w)
    (htask : w.tasks = front ++ .settle call id key :: back)
    (hsettle : settleUpload w.db call id = (true, w'.db)) (hobj : w'.objects = w.objects)
    (htasks : w'.tasks = front ++ .remove id key call.now :: back) : ObjectsSound w' := by
  obtain ⟨hraw, hkeys, hups⟩ := settleUpload_stale hsettle
  have hreg := h.of_task htask rfl
  have hheld : InHands [.remove id key call.now] key := ⟨_, mem_singleton_self _, rfl⟩
  have hchg : TasksChange w w' [.settle call id key] [.remove id key call.now]
      (front ++ back) := .replace htask htasks
  refine h.change hchg hkeys (forall_mem_singleton.mpr ?_) ?_ ?_ ?_
  · rintro _ _ ⟨⟩
    exact hkeys _ _ hreg
  · intro other hmem
    rw [hobj] at hmem
    exact .inl hmem
  · intro other _ _ hoth
    cases inHands_singleton hoth
    exact .inl hheld
  · intro other _ hsecured
    by_cases hne : other = key
    · subst hne
      exact .inl hheld
    · exact .inr (hsecured.elsewhere hraw hups hreg hne
        fun task hmem _ hmark _ => hchg.old hmem (forall_mem_singleton.mpr rfl) hmark)

theorem ObjectsSound.remove (h : ObjectsSound w)
    (htask : w.tasks = front ++ .remove id key now :: back) (hdb : w'.db = w.db)
    (hobj : w'.objects = w.objects.erase key)
    (htasks : w'.tasks = front ++ .mark id key now :: back) : ObjectsSound w' := by
  have hreg := h.of_task htask rfl
  have hchg : TasksChange w w' [.remove id key now] [.mark id key now] (front ++ back) :=
    .replace htask htasks
  have hne : ∀ other ∈ w'.objects, other ≠ key := by
    intro other hmem
    rw [hobj] at hmem
    exact Finset.ne_of_mem_erase hmem
  refine h.change hchg ?_ (forall_mem_singleton.mpr ?_) ?_ ?_ ?_
  · intro _ _ hkept
    rw [hdb]
    exact hkept
  · rintro _ _ ⟨⟩
    rw [hdb]
    exact hreg
  · intro other hmem
    rw [hobj] at hmem
    exact .inl (Finset.mem_of_mem_erase hmem)
  · intro other hmem _ hoth
    cases inHands_singleton hoth
    exact absurd rfl (hne _ hmem)
  · -- the other objects are not those of the registration about to be marked
    intro other hmem hsecured
    rw [hdb]
    refine .inr (hsecured.elsewhere (.of_eq rfl) (fun _ _ => rfl) hreg (hne other hmem) ?_)
    intro task htaskMem other' hmark hoth
    rcases (hchg.after task).mp htaskMem with hmine | hrest
    · rw [mem_singleton.mp hmine] at hmark
      exact absurd (Option.some.inj hmark).symm hoth
    · exact (hchg.before task).mpr (.inr hrest)

theorem ObjectsSound.mark (h : ObjectsSound w) (htask : w.tasks = front ++ .mark id key now :: back)
    (hdb : w'.db = markDeleted w.db id now) (hobj : w'.objects = w.objects)
    (htasks : w'.tasks = front ++ back) : ObjectsSound w' := by
  have hchg : TasksChange w w' [.mark id key now] [] (front ++ back) := .replace htask htasks
  refine h.change hchg ?_ (forall_mem_nil _) ?_ ?_ ?_
  · rw [hdb]
    exact markDeleted_keys
  · intro other hmem
    rw [hobj] at hmem
    exact .inl hmem
  · intro other _ _ hoth
    cases inHands_singleton hoth
  · have hmark : .mark id key now ∈ w.tasks :=
      (hchg.before _).mpr (.inl (mem_singleton_self _))
    intro other _ hsecured
    rw [hdb]
    refine .inr (hsecured.markDeleted hmark ?_)
    intro task hmem
    rw [htasks] at hmem
    exact (hchg.before task).mpr (.inr hmem)

theorem ObjectsSound.sweep (h : ObjectsSound w) {orphans : List (String × String)}
    (hsweep : RateReplay.collectOrphans w.db now olderThan = (orphans, w'.db))
    (hobj : w'.objects = w.objects)
    (htasks : w'.tasks = orphans.map (fun orphan => .remove orphan.1 orphan.2 now) ++ w.tasks) :
    ObjectsSound w' := by
  have hkeys := collectOrphans_keys hsweep
  have hchg := TasksChange.spawn htasks
  refine h.change hchg hkeys ?_ ?_ (fun _ _ _ hheld => absurd hheld not_inHands_nil) ?_
  · intro task hmem id key hregn
    obtain ⟨⟨id', key'⟩, horphan, rfl⟩ := mem_map.mp hmem
    cases hregn
    exact hkeys _ _ (mem_collectOrphans hsweep horphan)
  · intro other hmem
    rw [hobj] at hmem
    exact .inl hmem
  · intro key _ hsecured
    refine hsecured.collectOrphans hsweep fun task hmem _ hmark => hchg.old hmem ?_ hmark
    intro removal hremoval
    obtain ⟨orphan, -, rfl⟩ := mem_map.mp hremoval
    rfl

/-- **Every stored object stays in the hands of an operation or secured**, when operations end
early only where they may. -/
theorem ArtifactStep.objects (hs : ArtifactStep w operation w')
    (hsafe : StopsSafely w operation) (h : ObjectsSound w) : ObjectsSound w' := by
  cases hs with
  | @register _ _ _ _ registration _ hlimit hrgt hst =>
    refine @ObjectsSound.enter _ _ [_] h rfl rfl ?_ (registerUpload_advance hrgt)
      (forall_mem_singleton.mpr rfl) (forall_mem_singleton.mpr ?_)
    · obtain ⟨-, rfl⟩ | ⟨-, -, rfl⟩ := registerUpload_eq_ok hrgt
      · exact .of_eq rfl
      · exact .of_eq rfl
    · rintro _ _ ⟨⟩
      exact ⟨registration, registerUpload_stored hrgt, rfl⟩
  | store htask hlimit hsize => exact h.store htask
  | @storeRaises _ _ _ _ _ done htask =>
    cases done with
    | false => exact h.stop htask (by rintro _ _ ⟨⟩)
    | true =>
      -- as if the attempt had stored its object and then stopped
      refine (h.store htask).stop rfl ?_
      rintro _ - ⟨⟩
      refine ((h.of_task htask rfl).secured hsafe).advance (.of_eq rfl) (.of_eq rfl) ?_
      intro task hmem _ hmark
      exact (@TasksChange.replace _ _ _ [_] _ _ htask rfl).old hmem
        (forall_mem_singleton.mpr rfl) hmark
  | settle htask hsettle =>
    refine h.leave htask ?_ rfl ?_ (settleUpload_advance hsettle) subset_rfl
    · rintro _ - ⟨⟩
      exact settleUpload_secured hsettle (h.of_task htask rfl)
    · obtain ⟨_, -, -, rfl⟩ := settleUpload_eq_false hsettle
      exact .of_eq rfl
  | settleStale htask hsettle => exact h.settleStale htask hsettle rfl rfl
  | remove htask => exact h.remove htask rfl rfl rfl
  | @removeRaises _ _ _ _ _ done htask =>
    cases done with
    | false =>
      refine h.stop htask ?_
      rintro _ hmem ⟨⟩
      exact (h.of_task htask rfl).secured (hsafe hmem)
    | true => exact h.erase htask rfl
  | mark htask => exact h.mark htask rfl rfl rfl
  | sweep hsweep => exact h.sweep hsweep rfl rfl
  | finalize hconf hchk hfinalize =>
    obtain ⟨hadv, hraw⟩ := finalizeOnce_advance hconf hfinalize
    exact @ObjectsSound.enter _ _ [] h rfl rfl (.of_eq hraw) hadv (forall_mem_nil _)
      (forall_mem_nil _)
  | conflict hchk =>
    exact @ObjectsSound.enter _ _ [_] h rfl rfl (.of_eq rfl) (.of_eq rfl)
      (forall_mem_singleton.mpr rfl) (forall_mem_singleton.mpr (by rintro _ _ ⟨⟩))
  | resolve htask hrsv =>
    obtain ⟨-, hups, hraw⟩ := resolveSemanticRace_tables hrsv
    exact h.leave htask (by rintro _ _ ⟨⟩) rfl (.of_eq hraw) (.of_eq hups) subset_rfl
  | unresolved htask =>
    exact h.leave htask (by rintro _ _ ⟨⟩) rfl (.of_eq rfl) (.of_eq rfl) subset_rfl
  | submit hchk hadmit =>
    exact @ObjectsSound.enter _ _ [_] h rfl rfl (.of_eq rfl) (.of_eq rfl)
      (forall_mem_singleton.mpr rfl) (forall_mem_singleton.mpr (by rintro _ _ ⟨⟩))
  | upload htask =>
    exact h.goOn htask rfl rfl rfl (by rintro _ _ ⟨⟩) (fun _ => held_of_insert rfl)
      (by rintro _ ⟨⟩)
  | @uploadRaises _ _ _ _ _ _ done htask =>
    refine h.goOn htask rfl rfl rfl (by rintro _ _ ⟨⟩) (fun _ hmem => ?_) (by rintro _ ⟨⟩)
    cases done with
    | false => exact .inl hmem
    | true => exact held_of_insert rfl hmem
  | record htask hrec hfst =>
    have hinsd := insertSubmission_of_recordSubmission hrec hfst
    obtain ⟨hraw, hreferenced⟩ := insertSubmission_rawKept hinsd
    refine h.leave htask ?_ rfl hraw ?_ subset_rfl
    · rintro _ - ⟨⟩
      exact .inl hreferenced
    · obtain ⟨-, -, -, auditEvents, rfl⟩ := insertSubmission_eq_ok hinsd
      exact .of_eq rfl
  | recordFails htask =>
    exact h.goOn htask rfl rfl rfl (by rintro _ _ ⟨⟩) (fun _ hmem => .inl hmem)
      (fun _ hholds => hholds)
  | discard htask => exact h.erase htask rfl
  | @discardRaises _ guarded done _ _ htask =>
    cases guarded with
    | true =>
      refine h.goOn htask rfl rfl rfl (by rintro _ _ ⟨⟩) (fun _ hmem => .inl ?_)
        (fun _ hholds => hholds)
      cases done with
      | false => exact hmem
      | true => exact Finset.mem_of_mem_erase hmem
    | false =>
      cases done with
      | false =>
        refine h.stop htask ?_
        rintro _ hmem ⟨⟩
        exact absurd hmem hsafe
      | true => exact h.erase htask rfl
  | @crash task _ _ htask =>
    refine h.stop htask ?_
    cases task with
    | settle | remove =>
      rintro _ hmem ⟨⟩
      exact (h.of_task htask rfl).secured (hsafe hmem)
    | record | discard =>
      rintro _ hmem ⟨⟩
      exact absurd hmem hsafe
    | _ => rintro _ _ ⟨⟩
  | other hoth =>
    exact @ObjectsSound.enter _ _ [] h rfl rfl (.of_eq hoth.rawObjects) (.of_eq hoth.uploads)
      (forall_mem_nil _) (forall_mem_nil _)

end Steps

/-- **No stored object is stranded when operations end safely**: over any interleaving of
submissions, attempts and sweeps in which a process stops, or a store or a removal raises, only
where it may, every object that is stored while nothing is under way is named by a record or a
registration that is not deleted. -/
theorem stored_objects_referenced {w : ArtifactWorld}
    (h : ReachedBy NoArtifacts ArtifactStep StopsSafely w) (hquiet : w.tasks = []) :
    ∀ key ∈ w.objects, Referenced w.db key := by
  have hsound : ObjectsSound w := by
    refine ReachedBy.invariant ?_ (fun s _ t hs hsafe hstep => hstep.objects hsafe hs) h
    intro s hinit
    refine ⟨?_, ?_⟩
    · intro key hkey
      rw [hinit.objects] at hkey
      cases hkey
    · intro task htask
      rw [hinit.tasks] at htask
      cases htask
  intro key hkey
  rcases hsound.kept key hkey with hheld | hsecured
  · rw [hquiet] at hheld
    exact absurd hheld not_inHands_nil
  · exact hsecured.referenced

/-! ### A staged report, and two stranded objects -/

namespace SmallStore

/-- The worker of the first job stages a report. -/
def reportCall : StageCall where
  ownerUserId := owner
  lease := leaseOn firstPublication.jobId
  artifactClass := "REPORT"
  source := ⟨digest '8', 512⟩
  now := 0

def reportIds : StageIdentifiers :=
  ⟨"50000000000000000000000000000001", "50000000000000000000000000000002"⟩

def reportRegistration : ObjectUploadRegistrationRecord :=
  newRegistration reportCall reportIds.uploadIdentifier

def reportKey : String := reportRegistration.objectKey

def reportTask : ArtifactTask := .store reportCall reportIds.registrationId reportKey

/-- The report is registered, and still to be stored. -/
def reportRegistered : ArtifactWorld :=
  { racing with
    db := { racing.db with
      uploads := racing.db.uploads.set reportIds.registrationId reportRegistration }
    tasks := [reportTask] }

theorem reportRegistered_eq : registerUpload racing.db reportCall reportIds
    = .ok ((reportIds.registrationId, reportRegistration), reportRegistered.db) := by
  obtain ⟨⟨_, db⟩, hok, rfl, hnew⟩ : ∃ r, registerUpload racing.db reportCall reportIds = .ok r ∧
      r.1 = (reportIds.registrationId, reportRegistration) ∧
      racing.db.uploads.get? reportIds.registrationId = none := by decide +kernel
  obtain ⟨hfnd, -⟩ | ⟨-, -, rfl⟩ := registerUpload_eq_ok hok
  · cases hnew.symm.trans hfnd
  · exact hok

section Reached

variable {allowed : ArtifactWorld → ArtifactOperation → Prop}

theorem reportRegistered_reached
    (hstage : ∀ w call, allowed w (.stage call)) :
    ReachedBy NoArtifacts ArtifactStep allowed reportRegistered := by
  have hracing : ReachedBy NoArtifacts ArtifactStep allowed racing :=
    ⟨racing, racing_noArtifacts, Runs.refl _⟩
  exact hracing.snoc (hstage _ reportCall) (.register rfl reportRegistered_eq rfl)

end Reached

/-- The report is stored and staged. -/
def reportStaged : ArtifactWorld where
  db := (settleUpload reportRegistered.db reportCall reportIds.registrationId).2
  objects := {reportKey}
  tasks := []
  publications := []

theorem reportStaged_reached : ReachedBy NoArtifacts ArtifactStep StopsSafely reportStaged := by
  have hreg : ReachedBy NoArtifacts ArtifactStep StopsSafely reportRegistered :=
    reportRegistered_reached fun _ _ => trivial
  have hsto := hreg.snoc (by exact trivial)
    (@ArtifactStep.store reportRegistered _ _ _ [] [] (10 * 1024 * 1024) rfl rfl (by decide))
  have hfr : (settleUpload reportRegistered.db reportCall reportIds.registrationId).1
      = false := by decide +kernel
  exact hsto.snoc (by exact trivial)
    (@ArtifactStep.settle _ _ _ _ [] [] _ rfl (Prod.ext hfr rfl))

end SmallStore

section

open SmallStore

/-- A report is staged: its object is stored, and named by its registration. -/
theorem stored_objects_referenced_staged :
    ReachedBy NoArtifacts ArtifactStep StopsSafely reportStaged ∧
      reportStaged.tasks = [] ∧
      reportKey ∈ reportStaged.objects ∧
      Referenced reportStaged.db reportKey :=
  ⟨reportStaged_reached, rfl, Finset.mem_singleton_self _,
    stored_objects_referenced reportStaged_reached rfl _ (Finset.mem_singleton_self _)⟩

end

namespace SmallStore

/-- The lease of the attempt runs out while it stores its report, and a sweeper collects the
registration. -/
def reportCollected : ArtifactWorld :=
  { reportRegistered with
    db := (collectOrphans reportRegistered.db 60000000 60000000).2
    tasks := [.remove reportIds.registrationId reportKey 60000000, reportTask] }

/-- The registration is deleted; the attempt then stores its report, and stops. -/
def reportStranded : ArtifactWorld where
  db := markDeleted reportCollected.db reportIds.registrationId 60000000
  objects := {reportKey}
  tasks := []
  publications := []

theorem reportStranded_reached :
    ReachedBy NoArtifacts ArtifactStep (fun _ _ => True) reportStranded := by
  have hreg : ReachedBy NoArtifacts ArtifactStep (fun _ _ => True) reportRegistered :=
    reportRegistered_reached fun _ _ => trivial
  have horphans : (collectOrphans reportRegistered.db 60000000 60000000).1
      = [(reportIds.registrationId, reportKey)] := by decide +kernel
  have hcol : ReachedBy NoArtifacts ArtifactStep (fun _ _ => True) reportCollected :=
    hreg.snoc trivial (@ArtifactStep.sweep reportRegistered 60000000 60000000
      [(reportIds.registrationId, reportKey)] _ (Prod.ext horphans rfl))
  have hrem := hcol.snoc trivial (@ArtifactStep.remove _ _ _ _ [] [reportTask] rfl)
  have hmarked := hrem.snoc trivial (@ArtifactStep.mark _ _ _ _ [] [reportTask] rfl)
  have hsto := hmarked.snoc trivial
    (@ArtifactStep.store _ _ _ _ [] [] (10 * 1024 * 1024) rfl rfl (by decide))
  exact hsto.snoc trivial (@ArtifactStep.crash _ _ [] [] rfl)

/-- A submission stores its raw object, and stops before it records it. -/
def rawStranded : ArtifactWorld where
  db := registered.db
  objects := {rawObjectKey owner importId}
  tasks := []
  publications := []

theorem rawStranded_reached :
    ReachedBy NoArtifacts ArtifactStep (fun _ _ => True) rawStranded := by
  have hinitial : NoArtifacts ⟨registered.db, ∅, [], []⟩ := by
    refine ⟨?_, rfl, rfl, rfl⟩
    intro id id' claim claim' hg
    have hnone : registered.db.claims.entries = [] := by decide +kernel
    have hmem := Dict.get?_eq_some.mp hg
    rw [hnone] at hmem
    cases hmem
  have hreg : ReachedBy NoArtifacts ArtifactStep (fun _ _ => True)
      ⟨registered.db, ∅, [], []⟩ := ⟨_, hinitial, Runs.refl _⟩
  have hsubd := hreg.snoc trivial
    (@ArtifactStep.submit _ upload 0 importIds 0 (by decide +kernel) (by decide +kernel))
  have hsto := hsubd.snoc trivial (@ArtifactStep.upload _ _ _ _ _ [] [] rfl)
  exact hsto.snoc trivial (@ArtifactStep.crash _ _ [] [] rfl)

end SmallStore

section

open SmallStore

/-- **Objects that no cleanup finds**: an attempt that stores its report after the sweeper has
collected its registration, and stops before it removes the report again; and a submission that
stops between storing its raw object and recording it. -/
theorem stopping_strands_objects :
    (ReachedBy NoArtifacts ArtifactStep (fun _ _ => True) reportStranded ∧
      reportStranded.tasks = [] ∧
      reportKey ∈ reportStranded.objects ∧
      ¬ Referenced reportStranded.db reportKey) ∧
    ReachedBy NoArtifacts ArtifactStep (fun _ _ => True) rawStranded ∧
      rawStranded.tasks = [] ∧
      rawObjectKey owner importId ∈ rawStranded.objects ∧
      ¬ Referenced rawStranded.db
        (rawObjectKey owner importId) := by
  refine ⟨⟨reportStranded_reached, rfl, Finset.mem_singleton_self _, ?_⟩,
    rawStranded_reached, rfl, Finset.mem_singleton_self _, ?_⟩
  · exact not_referenced (by decide +kernel) (by decide +kernel)
  · exact not_referenced (by decide +kernel) (by decide +kernel)

end

end RateReplay
