import RateReplay.Persistence.Queue

/-!
# Calls of `submit`

A call of `CalculationSubmissionService.submit` checks its arguments, and then makes up to three
tries, each of them a transaction.  A try finds the operation that the idempotency key is bound
to and answers from it, or binds the key to a new job or to the job of an earlier result.  A try
that violates a constraint is made again.

Calls run concurrently, with each other and with everything else that writes to the store.  A try
that loses a race has written nothing, so it counts as made just before the one that won: at a
time when the key was not bound yet.

The hash of a request is taken to tell payloads apart.

## Main definitions

* `CalculationCall`, `checkCall` — the arguments of a call, and what is refused at once.
* `SubmissionWorld`, `SubmissionStep` — calls under way, and their tries in any order.
* `Answered` — an answer, with the operation its key was bound to when it was given.
* `rejectionOf` — what a call is told whose key is bound to another payload.

## Main results

* `SubmissionStep.sound` — **every step keeps what is known of answers.**
* `submissions_idempotent` — **answers given under one operation name one job, and calls with
  another payload are rejected.**
-/

namespace RateReplay

open List

variable {db : Database} {id payload routeId : String} {operation : OperationRequestRecord}
  {hash : OperationHash} {call : CalculationCall}

/-! ### Calls -/

/-- The arguments of `submit`; a payload that is not JSON data has no canonical text. -/
structure CalculationCall where
  ownerUserId : String
  profileVersionId : String
  jobKind : JobKind
  requestSchemaVersion : String
  idempotencyKey : String
  canonicalPayload : Option String
  identity : SubmittedIdentity
  now : ℤ

/-- The hash of a route, a request schema and a canonical payload; it tells payloads apart. -/
structure OperationHash where
  hash : String → String → String → String
  payload_injective : ∀ {routeId schema payload routeId' schema' payload' : String},
    hash routeId schema payload = hash routeId' schema' payload' → payload = payload'

/-- One try of a call: its request, with the identifiers drawn for it. -/
def CalculationCall.request (call : CalculationCall) (hash : OperationHash)
    (routeId payload jobId operationId : String) : CalculationRequest where
  ownerUserId := call.ownerUserId
  profileVersionId := call.profileVersionId
  jobKind := call.jobKind
  requestSchemaVersion := call.requestSchemaVersion
  idempotencyKey := call.idempotencyKey
  canonicalPayload := payload
  operationRequestHash := hash.hash routeId call.requestSchemaVersion payload
  identity := call.identity
  jobId := jobId
  operationId := operationId
  now := call.now

/-- What `submit` refuses before its first try; the route and the canonical payload. -/
def checkCall (hash : OperationHash) (call : CalculationCall) :
    Except TransactionError (String × String) := do
  let routeId ← checkCalculation (call.request hash "" "" "" "")
  match call.canonicalPayload with
  | none =>
    .error (calculationError "OPERATION_PAYLOAD_INVALID"
      "Operation payload is not canonical JSON data")
  | some payload => .ok (routeId, payload)

def keyReused : TransactionError :=
  calculationError "IDEMPOTENCY_KEY_REUSED"
    "Idempotency key is bound to another calculation request"

def submissionConflict : TransactionError :=
  calculationError "CALCULATION_SUBMISSION_CONFLICT"
    "Calculation submission could not resolve a concurrent request"

/-- What a call is told whose key is bound to another payload: arguments are checked first. -/
def rejectionOf (hash : OperationHash) (call : CalculationCall) : TransactionError :=
  match checkCall hash call with
  | .error e => e
  | .ok _ => keyReused

/-- The operation that the key of a call is bound to. -/
def boundOperation (db : Database) (call : CalculationCall) :
    Option (String × OperationRequestRecord) :=
  (calculationRoute call.jobKind).bind fun route =>
    operationOf db call.ownerUserId route.1 call.idempotencyKey

/-- The payload that an operation was recorded for. -/
def OperationRequestRecord.BoundTo (operation : OperationRequestRecord) (hash : OperationHash)
    (payload : String) : Prop :=
  ∃ schema, operation.canonicalPayloadHash = hash.hash operation.routeId schema payload

/-! ### The system -/

/-- An answer, with the operation that the key was bound to when it was given. -/
structure Answered where
  call : CalculationCall
  answer : Except TransactionError CalculationSubmission
  operation : Option (String × OperationRequestRecord)

structure SubmissionWorld where
  db : Database
  /-- The identifiers drawn so far. -/
  drawn : List String
  /-- The calls under way, with the number of tries made. -/
  pending : List (CalculationCall × ℕ)
  answered : List Answered

/-- No two operations of an owner and a route have the same key (`uq_operation_identity`). -/
def UniqueOperations (db : Database) : Prop :=
  ∀ id id' operation operation', db.operationRequests.get? id = some operation →
    db.operationRequests.get? id' = some operation' →
    operation.ownerUserId = operation'.ownerUserId → operation.routeId = operation'.routeId →
    operation.idempotencyKey = operation'.idempotencyKey → id = id'

/-- What else may happen to operations: they are inserted under new identifiers and the unique
constraint, and removed. -/
structure OperationsMove (w : SubmissionWorld) (db' : Database) (drawn' : List String) : Prop where
  drawn : w.drawn ⊆ drawn'
  unique : UniqueOperations db'
  kept : ∀ id operation, db'.operationRequests.get? id = some operation →
    w.db.operationRequests.get? id = some operation ∨ id ∉ w.drawn ∧ id ∈ drawn'

inductive SubmissionOperation
  | call (call : CalculationCall)
  | refuse (call : CalculationCall)
  | answer (call : CalculationCall) (tries : ℕ)
  | raise (call : CalculationCall) (tries : ℕ)
  | conflict (call : CalculationCall) (tries : ℕ)
  | other

/-- A try violates a constraint, or loses a race to bind its key. -/
def TryConflicts (hash : OperationHash) (w : SubmissionWorld) (call : CalculationCall) : Prop :=
  boundOperation w.db call = none ∨ ∃ routeId payload jobId operationId initializeNewJob,
    checkCall hash call = .ok (routeId, payload) ∧
      submitCalculation w.db (call.request hash routeId payload jobId operationId)
        initializeNewJob = .error .integrity

/-- One step of a call, or a transaction of another component. -/
inductive SubmissionStep (hash : OperationHash) (w : SubmissionWorld) :
    SubmissionOperation → SubmissionWorld → Prop
  | call {call checked} (h : checkCall hash call = .ok checked) :
      SubmissionStep hash w (.call call) { w with pending := (call, 0) :: w.pending }
  | refuse {call e} (h : checkCall hash call = .error e) :
      SubmissionStep hash w (.refuse call)
        { w with answered := ⟨call, .error e, boundOperation w.db call⟩ :: w.answered }
  | answer {call : CalculationCall} {tries} {front back : List (CalculationCall × ℕ)}
      {routeId payload jobId operationId} {initializeNewJob : JobInitializer} {submission}
      {db' : Database} (hpending : w.pending = front ++ (call, tries) :: back)
      (hchecked : checkCall hash call = .ok (routeId, payload)) (hfresh : operationId ∉ w.drawn)
      (hframe : ∀ db db' submission, initializeNewJob db submission = .ok db' →
        db'.operationRequests = db.operationRequests)
      (h : submitCalculation w.db (call.request hash routeId payload jobId operationId)
        initializeNewJob = .ok (submission, db')) :
      SubmissionStep hash w (.answer call tries) ⟨db', operationId :: w.drawn, front ++ back,
        ⟨call, .ok submission, boundOperation db' call⟩ :: w.answered⟩
  | raise {call : CalculationCall} {tries} {front back : List (CalculationCall × ℕ)}
      {routeId payload jobId operationId} {initializeNewJob : JobInitializer} {e}
      (hpending : w.pending = front ++ (call, tries) :: back)
      (hchecked : checkCall hash call = .ok (routeId, payload))
      (h : submitCalculation w.db (call.request hash routeId payload jobId operationId)
        initializeNewJob = .error e) (hraised : e ≠ .integrity) :
      SubmissionStep hash w (.raise call tries) { w with
        pending := front ++ back
        answered := ⟨call, .error e, boundOperation w.db call⟩ :: w.answered }
  | retry {call tries} {front back : List (CalculationCall × ℕ)}
      (hpending : w.pending = front ++ (call, tries) :: back) (htries : tries + 1 < 3)
      (h : TryConflicts hash w call) :
      SubmissionStep hash w (.conflict call tries)
        { w with pending := front ++ (call, tries + 1) :: back }
  | giveUp {call tries} {front back : List (CalculationCall × ℕ)}
      (hpending : w.pending = front ++ (call, tries) :: back) (htries : tries + 1 = 3)
      (h : TryConflicts hash w call) :
      SubmissionStep hash w (.conflict call tries) { w with
        pending := front ++ back
        answered := ⟨call, .error submissionConflict, boundOperation w.db call⟩ :: w.answered }
  | other {db' drawn'} (h : OperationsMove w db' drawn') :
      SubmissionStep hash w .other { w with db := db', drawn := drawn' }

/-- No call has been made yet. -/
structure NoCalls (w : SubmissionWorld) : Prop where
  unique : UniqueOperations w.db
  drawn : ∀ id operation, w.db.operationRequests.get? id = some operation → id ∈ w.drawn
  pending : w.pending = []
  answered : w.answered = []

/-! ### One try -/

section Try

variable {db db' : Database} {request : CalculationRequest} {routeId : String}
  {initializeNewJob : JobInitializer}
  {submission : CalculationSubmission} {operation : OperationRequestRecord} {requestHash : String}

/-- A key that is bound is answered from its operation. -/
theorem submitCalculation_of_bound (hchk : checkCalculation request = .ok routeId)
    (hbound : operationOf db request.ownerUserId routeId request.idempotencyKey
      = some (id, operation)) :
    submitCalculation db request initializeNewJob =
      (repeatOperation db operation request.operationRequestHash).map (·, db) := by
  rw [submitCalculation, hchk, ok_bind, hbound]
  dsimp only
  cases repeatOperation db operation request.operationRequestHash with
  | error e => rfl
  | ok submission => rfl

theorem repeatOperation_eq_ok (h : repeatOperation db operation requestHash = .ok submission) :
    submission.jobId = operation.operationId ∧ operation.canonicalPayloadHash = requestHash := by
  rw [repeatOperation, failIf_bind_eq_ok, not_not] at h
  obtain ⟨hhash, h⟩ := h
  split at h
  · cases h
  · split at h
    · cases h
    · cases h
      exact ⟨rfl, hhash⟩

/-- An answer from an operation is never a violated constraint. -/
theorem repeatOperation_ne_integrity :
    repeatOperation db operation requestHash ≠ .error .integrity := by
  unfold repeatOperation failIf
  split
  · intro h
    cases h
  · rw [ok_bind]
    split
    · intro h
      cases h
    · split <;>
      · intro h
        cases h

theorem repeatOperation_of_ne (h : operation.canonicalPayloadHash ≠ requestHash) :
    repeatOperation db operation requestHash = .error keyReused := by
  rw [repeatOperation, failIf, if_pos h]
  rfl

/-- **A key that is not bound is bound** to the job that is answered. -/
theorem submitCalculation_of_unbound (hchk : checkCalculation request = .ok routeId)
    (hunb : operationOf db request.ownerUserId routeId request.idempotencyKey = none)
    (hfrm : ∀ db db' submission, initializeNewJob db submission = .ok db' →
      db'.operationRequests = db.operationRequests)
    (h : submitCalculation db request initializeNewJob = .ok (submission, db')) :
    db'.operationRequests = db.operationRequests.set request.operationId
      (operationRecord request routeId submission.jobId) := by
  rw [submitCalculation, hchk, ok_bind, hunb] at h
  obtain ⟨⟨user, profile, imported⟩, -, h⟩ := bind_eq_ok.mp h
  dsimp only at h
  split at h
  · obtain ⟨recorded, hrcd, hres⟩ := bind_eq_ok.mp h
    obtain ⟨-, rfl⟩ := insertOperation_eq_ok hrcd
    cases hres
    rfl
  · obtain ⟨jobs, -, h⟩ := bind_eq_ok.mp h
    obtain ⟨recorded, hrcd, h⟩ := bind_eq_ok.mp h
    obtain ⟨initialized, hini, hres⟩ := bind_eq_ok.mp h
    obtain ⟨-, rfl⟩ := insertOperation_eq_ok hrcd
    cases hres
    exact hfrm _ _ _ hini

end Try

theorem operationOf_eq_some {ownerUserId idempotencyKey : String}
    (h : operationOf db ownerUserId routeId idempotencyKey = some (id, operation)) :
    db.operationRequests.get? id = some operation ∧ operation.ownerUserId = ownerUserId ∧
      operation.routeId = routeId ∧ operation.idempotencyKey = idempotencyKey := by
  obtain ⟨hg, hmat⟩ := Dict.first_eq_some_get? h
  rw [Bool.and_eq_true, Bool.and_eq_true, decide_eq_true_eq, decide_eq_true_eq,
    decide_eq_true_eq] at hmat
  exact ⟨hg, hmat.1.1, hmat.1.2, hmat.2⟩

theorem operationOf_ne_none (h : db.operationRequests.get? id = some operation) :
    operationOf db operation.ownerUserId operation.routeId operation.idempotencyKey ≠ none := by
  rw [← Option.isSome_iff_ne_none, operationOf, Dict.first_isSome]
  exact ⟨id, operation, h, by simp⟩

/-- Under the unique constraint the key of an operation finds that operation. -/
theorem UniqueOperations.operationOf_eq (huniq : UniqueOperations db)
    (h : db.operationRequests.get? id = some operation) :
    operationOf db operation.ownerUserId operation.routeId operation.idempotencyKey
      = some (id, operation) := by
  obtain ⟨⟨id', operation'⟩, hfnd⟩ := Option.ne_none_iff_exists'.mp (operationOf_ne_none h)
  obtain ⟨hg, ho, hroute, hkey⟩ := operationOf_eq_some hfnd
  obtain rfl := huniq _ _ _ _ hg h ho hroute hkey
  rw [hfnd, Option.some.inj (hg.symm.trans h)]

/-- An operation whose key is not bound may be inserted under the unique constraint. -/
theorem UniqueOperations.set {db' : Database} (huniq : UniqueOperations db)
    (hunb : operationOf db operation.ownerUserId operation.routeId operation.idempotencyKey
      = none) (hset : db'.operationRequests = db.operationRequests.set id operation) :
    UniqueOperations db' := by
  -- an old operation with the key of the new one would have been found
  have hold : ∀ id' operation', db.operationRequests.get? id' = some operation' →
      operation'.ownerUserId = operation.ownerUserId → operation'.routeId = operation.routeId →
      operation'.idempotencyKey ≠ operation.idempotencyKey := by
    intro id' operation' hg ho hroute hkey
    have hbound := operationOf_ne_none hg
    rw [ho, hroute, hkey] at hbound
    exact hbound hunb
  intro id₁ id₂ operation₁ operation₂ h₁ h₂ ho hroute hkey
  rw [hset, Dict.get?_set] at h₁ h₂
  split at h₁ <;> rename_i hid₁ <;> split at h₂ <;> rename_i hid₂
  · rw [hid₁, hid₂]
  · cases h₁
    exact absurd hkey.symm (hold _ _ h₂ ho.symm hroute.symm)
  · cases h₂
    exact absurd hkey (hold _ _ h₁ ho hroute)
  · exact huniq _ _ _ _ h₁ h₂ ho hroute hkey

section CheckedCall

variable (h : checkCall hash call = .ok (routeId, payload))

include h

theorem checkCall_eq_ok :
    call.canonicalPayload = some payload ∧
      checkCalculation (call.request hash "" "" "" "") = .ok routeId := by
  obtain ⟨route, hroute, h⟩ := bind_eq_ok.mp h
  split at h
  · cases h
  · rename_i canonical hcan
    cases h
    exact ⟨hcan, hroute⟩

/-- The checks read neither the payload nor what a try draws. -/
theorem checkCalculation_of_checkCall (jobId operationId : String) :
    checkCalculation (call.request hash routeId payload jobId operationId) = .ok routeId :=
  (checkCall_eq_ok h).2

theorem boundOperation_of_checkCall (db : Database) :
    boundOperation db call = operationOf db call.ownerUserId routeId call.idempotencyKey := by
  have hcheck := (checkCall_eq_ok h).2
  rw [checkCalculation, failIf_bind_eq_ok] at hcheck
  obtain ⟨-, hcheck⟩ := hcheck
  split at hcheck
  · cases hcheck
  · rename_i route schema hroute
    rw [failIf_bind_eq_ok, failIf_bind_eq_ok] at hcheck
    obtain ⟨-, -, hcheck⟩ := hcheck
    cases hcheck
    have hk : calculationRoute call.jobKind = some (routeId, schema) := hroute
    rw [boundOperation, hk]
    rfl

end CheckedCall

/-- A try of a call whose key is bound is answered from the operation. -/
theorem submitCall_of_bound {jobId operationId : String}
    {initializeNewJob : JobInitializer} (hchk : checkCall hash call = .ok (routeId, payload))
    (hbound : boundOperation db call = some (id, operation)) :
    submitCalculation db (call.request hash routeId payload jobId operationId) initializeNewJob =
      (repeatOperation db operation
        (hash.hash routeId call.requestSchemaVersion payload)).map (·, db) := by
  rw [boundOperation_of_checkCall hchk] at hbound
  exact submitCalculation_of_bound (checkCalculation_of_checkCall hchk _ _) hbound

/-- The operation that a key is bound to is stored. -/
theorem get?_of_boundOperation (h : boundOperation db call = some (id, operation)) :
    db.operationRequests.get? id = some operation := by
  obtain ⟨route, -, hfnd⟩ := Option.bind_eq_some_iff.mp h
  exact (operationOf_eq_some hfnd).1

/-! ### What is known of answers -/

/-- What an answer says when its key is bound to an operation: it names the job of the operation,
and it is a rejection when the operation is for another payload. -/
structure AnsweredFrom (hash : OperationHash) (call : CalculationCall)
    (answer : Except TransactionError CalculationSubmission) (operation : OperationRequestRecord) :
    Prop where
  job : ∀ submission, answer = .ok submission → submission.jobId = operation.operationId ∧
    ∃ payload, call.canonicalPayload = some payload ∧ operation.BoundTo hash payload
  rejected : ∀ payload, operation.BoundTo hash payload → call.canonicalPayload ≠ some payload →
    answer = .error (rejectionOf hash call)

structure SubmissionsSound (hash : OperationHash) (w : SubmissionWorld) : Prop where
  unique : UniqueOperations w.db
  drawn : ∀ id operation, w.db.operationRequests.get? id = some operation → id ∈ w.drawn
  /-- An operation that was answered from is the one still stored, if it is. -/
  kept : ∀ a ∈ w.answered, ∀ id operation, a.operation = some (id, operation) → id ∈ w.drawn ∧
    ∀ operation', w.db.operationRequests.get? id = some operation' → operation' = operation
  settled : ∀ a ∈ w.answered, ∀ id operation, a.operation = some (id, operation) →
    AnsweredFrom hash a.call a.answer operation
  recorded : ∀ a ∈ w.answered, ∀ submission, a.answer = .ok submission → a.operation ≠ none
  agree : ∀ a ∈ w.answered, ∀ b ∈ w.answered, ∀ id operation operation',
    a.operation = some (id, operation) → b.operation = some (id, operation') →
    operation = operation'

section Steps

variable {hash : OperationHash} {w w' : SubmissionWorld} {call : CalculationCall}

theorem NoCalls.sound (h : NoCalls w) : SubmissionsSound hash w where
  unique := h.unique
  drawn := h.drawn
  kept a ha := by simp [h.answered] at ha
  settled a ha := by simp [h.answered] at ha
  recorded a ha := by simp [h.answered] at ha
  agree a ha := by simp [h.answered] at ha

/-- The calls under way say nothing about answers. -/
theorem SubmissionsSound.withPending (h : SubmissionsSound hash w)
    (pending : List (CalculationCall × ℕ)) :
    SubmissionsSound hash { w with pending := pending } :=
  ⟨h.unique, h.drawn, h.kept, h.settled, h.recorded, h.agree⟩

theorem SubmissionsSound.move {db' : Database} {drawn' : List String}
    (h : SubmissionsSound hash w) (hmove : OperationsMove w db' drawn') :
    SubmissionsSound hash { w with db := db', drawn := drawn' } where
  unique := hmove.unique
  drawn id operation hg := by
    rcases hmove.kept id operation hg with hold | ⟨-, hnew⟩
    · exact hmove.drawn (h.drawn id operation hold)
    · exact hnew
  kept a ha id operation hrec := by
    obtain ⟨hdr, hkept⟩ := h.kept a ha id operation hrec
    refine ⟨hmove.drawn hdr, fun operation' hg => ?_⟩
    rcases hmove.kept id operation' hg with hold | ⟨hnew, -⟩
    · exact hkept operation' hold
    · exact absurd hdr hnew
  settled := h.settled
  recorded := h.recorded
  agree := h.agree

/-- An answer that was given from what is stored is added to the history. -/
theorem SubmissionsSound.push (h : SubmissionsSound hash w) {a : Answered}
    (hsto : ∀ id operation, a.operation = some (id, operation) →
      w.db.operationRequests.get? id = some operation ∧
        AnsweredFrom hash a.call a.answer operation)
    (hrcd : ∀ submission, a.answer = .ok submission → a.operation ≠ none)
    (pending : List (CalculationCall × ℕ)) :
    SubmissionsSound hash { w with pending := pending, answered := a :: w.answered } where
  unique := h.unique
  drawn := h.drawn
  kept b hb id operation hrec := by
    rcases mem_cons.mp hb with rfl | hb
    · obtain ⟨hg, -⟩ := hsto id operation hrec
      exact ⟨h.drawn id operation hg, fun _ hg' => Option.some.inj (hg'.symm.trans hg)⟩
    · exact h.kept b hb id operation hrec
  settled := forall_mem_cons.mpr
    ⟨fun id operation hrec => (hsto id operation hrec).2, h.settled⟩
  recorded := forall_mem_cons.mpr ⟨hrcd, h.recorded⟩
  agree b hb c hc id operation operation' hb' hc' := by
    -- the stored operation is the one the other answer was given from
    rcases mem_cons.mp hb with rfl | hold <;> rcases mem_cons.mp hc with rfl | hold'
    · rw [hb'] at hc'
      cases hc'
      rfl
    · exact (h.kept c hold' id operation' hc').2 operation (hsto id operation hb').1
    · exact ((h.kept b hold id operation hb').2 operation' (hsto id operation' hc').1).symm
    · exact h.agree b hold c hold' id operation operation' hb' hc'

/-- A call is answered from the operation that its key is bound to afterwards. -/
theorem SubmissionsSound.answer {db' : Database} {drawn' : List String}
    {result : Except TransactionError CalculationSubmission} (h : SubmissionsSound hash w)
    (hmove : OperationsMove w db' drawn') (hbound : boundOperation db' call = some (id, operation))
    (hans : AnsweredFrom hash call result operation) (pending : List (CalculationCall × ℕ)) :
    SubmissionsSound hash
      ⟨db', drawn', pending, ⟨call, result, boundOperation db' call⟩ :: w.answered⟩ := by
  refine (h.move hmove).push ?_ ?_ pending
  · intro id' operation' hbound'
    cases hbound.symm.trans hbound'
    exact ⟨get?_of_boundOperation hbound, hans⟩
  · intro _ _ hnone
    exact nomatch hbound.symm.trans hnone

/-- A call refused by its arguments is told so, whatever its key is bound to. -/
theorem answeredFrom_refused {e : TransactionError} (h : checkCall hash call = .error e)
    (operation : OperationRequestRecord) : AnsweredFrom hash call (.error e) operation where
  job _ hanswer := nomatch hanswer
  rejected _ _ _ := by rw [rejectionOf, h]

/-- **A try on a bound key answers from the operation.** -/
theorem answeredFrom_repeat (hchk : checkCall hash call = .ok (routeId, payload))
    (hroute : operation.routeId = routeId) :
    AnsweredFrom hash call (repeatOperation w.db operation
      (hash.hash routeId call.requestSchemaVersion payload)) operation where
  job submission h := by
    obtain ⟨hj, hhash⟩ := repeatOperation_eq_ok h
    exact ⟨hj, payload, (checkCall_eq_ok hchk).1, call.requestSchemaVersion,
      by rw [hhash, hroute]⟩
  rejected bound hbound hoth := by
    obtain ⟨schema, hhash⟩ := hbound
    have hne : operation.canonicalPayloadHash
        ≠ hash.hash routeId call.requestSchemaVersion payload := by
      intro hsame
      have hpay := hash.payload_injective (hhash.symm.trans hsame)
      exact hoth (by rw [(checkCall_eq_ok hchk).1, hpay])
    rw [repeatOperation_of_ne hne, rejectionOf, hchk]

/-- A key that is bound makes a try neither lose a race nor violate a constraint. -/
theorem TryConflicts.unbound (h : TryConflicts hash w call) : boundOperation w.db call = none := by
  rcases h with hnone | ⟨routeId, payload, jobId, operationId, init, hchk, hsub⟩
  · exact hnone
  · by_contra hbound
    obtain ⟨⟨id, operation⟩, hfnd⟩ := Option.ne_none_iff_exists'.mp hbound
    rw [submitCall_of_bound hchk hfnd] at hsub
    cases hrepeat : repeatOperation w.db operation
        (hash.hash routeId call.requestSchemaVersion payload) with
    | ok submission =>
      rw [hrepeat] at hsub
      cases hsub
    | error e =>
      rw [hrepeat] at hsub
      cases hsub
      exact repeatOperation_ne_integrity hrepeat

section Tries

variable {routeId payload jobId operationId : String}
  {initializeNewJob : JobInitializer} {submission : CalculationSubmission} {db' : Database}

/-- A try on a bound key changes nothing, and returns or raises what the operation answers. -/
theorem answeredFrom_of_bound (hchk : checkCall hash call = .ok (routeId, payload))
    (hbound : boundOperation w.db call = some (id, operation)) :
    (∀ submission db', submitCalculation w.db (call.request hash routeId payload jobId operationId)
        initializeNewJob = .ok (submission, db') →
      db' = w.db ∧ AnsweredFrom hash call (.ok submission) operation) ∧
    ∀ e, submitCalculation w.db (call.request hash routeId payload jobId operationId)
      initializeNewJob = .error e → AnsweredFrom hash call (.error e) operation := by
  have hroute : operation.routeId = routeId := by
    rw [boundOperation_of_checkCall hchk] at hbound
    exact (operationOf_eq_some hbound).2.2.1
  have hans := answeredFrom_repeat (w := w) hchk hroute
  rw [submitCall_of_bound hchk hbound]
  cases hrepeat : repeatOperation w.db operation
      (hash.hash routeId call.requestSchemaVersion payload) with
  | error e =>
    rw [hrepeat] at hans
    constructor
    · rintro _ _ ⟨⟩
    · rintro _ ⟨⟩
      exact hans
  | ok repeated =>
    rw [hrepeat] at hans
    constructor
    · rintro _ _ ⟨⟩
      exact ⟨rfl, hans⟩
    · rintro _ ⟨⟩

/-- **A try on a key that is not bound binds it** to the payload of the call. -/
theorem answered_of_unbound (huniq : UniqueOperations w.db)
    (hchk : checkCall hash call = .ok (routeId, payload)) (hfr : operationId ∉ w.drawn)
    (hunb : boundOperation w.db call = none)
    (hfrm : ∀ db db' submission, initializeNewJob db submission = .ok db' →
      db'.operationRequests = db.operationRequests)
    (hsub : submitCalculation w.db (call.request hash routeId payload jobId operationId)
      initializeNewJob = .ok (submission, db')) :
    OperationsMove w db' (operationId :: w.drawn) ∧
      ∃ operation, boundOperation db' call = some (operationId, operation) ∧
        AnsweredFrom hash call (.ok submission) operation := by
  rw [boundOperation_of_checkCall hchk] at hunb ⊢
  have hset : db'.operationRequests = w.db.operationRequests.set operationId (operationRecord
      (call.request hash routeId payload jobId operationId) routeId submission.jobId) :=
    submitCalculation_of_unbound (checkCalculation_of_checkCall hchk _ _) hunb hfrm
      hsub
  have huniq' : UniqueOperations db' := huniq.set hunb hset
  have hsto : db'.operationRequests.get? operationId = some (operationRecord
      (call.request hash routeId payload jobId operationId) routeId submission.jobId) := by
    rw [hset]
    exact Dict.get?_set_self _ _ _
  refine ⟨⟨subset_cons_self _ _, huniq', ?_⟩, _, huniq'.operationOf_eq hsto, ?_, ?_⟩
  · intro id operation hg
    by_cases hid : id = operationId
    · subst hid
      exact .inr ⟨hfr, mem_cons_self⟩
    · rw [hset, Dict.get?_set_of_ne _ _ hid] at hg
      exact .inl hg
  · rintro _ ⟨⟩
    exact ⟨rfl, payload, (checkCall_eq_ok hchk).1, call.requestSchemaVersion, rfl⟩
  · rintro bound ⟨schema, hhash⟩ hoth
    have hpay := hash.payload_injective hhash
    exact absurd ((checkCall_eq_ok hchk).1.trans (congrArg some hpay)) hoth

end Tries

/-- **Every step keeps what is known of answers.** -/
theorem SubmissionStep.sound {op : SubmissionOperation} (h : SubmissionsSound hash w)
    (hs : SubmissionStep hash w op w') : SubmissionsSound hash w' := by
  cases hs with
  | call hchk => exact h.withPending _
  | refuse hrefused =>
    refine h.push ?_ (by rintro _ ⟨⟩) w.pending
    intro id operation hbound
    exact ⟨get?_of_boundOperation hbound, answeredFrom_refused hrefused operation⟩
  | answer hpend hchk hfr hfrm hsub =>
    cases hfnd : boundOperation w.db _ with
    | some found =>
      obtain ⟨rfl, hans⟩ := (answeredFrom_of_bound hchk hfnd).1 _ _ hsub
      exact h.answer ⟨subset_cons_self _ _, h.unique, fun _ _ hg => .inl hg⟩ hfnd hans _
    | none =>
      obtain ⟨hmove, operation, hbound, hans⟩ :=
        answered_of_unbound h.unique hchk hfr hfnd hfrm hsub
      exact h.answer hmove hbound hans _
  | raise hpend hchk hsub hraised =>
    refine h.push ?_ (by rintro _ ⟨⟩) _
    intro id operation hbound
    exact ⟨get?_of_boundOperation hbound, (answeredFrom_of_bound hchk hbound).2 _ hsub⟩
  | retry hpend htries hcfl => exact h.withPending _
  | giveUp hpend htries hcfl =>
    refine h.push ?_ (by rintro _ ⟨⟩) _
    intro id operation hbound
    exact nomatch hcfl.unbound.symm.trans hbound
  | other hmove => exact h.move hmove

end Steps

/-! ### Repeated calls -/

/-- **Answers given under one operation name one job, and calls with another payload are
rejected**: with the check that their arguments fail, or because the key is reused. -/
theorem submissions_idempotent (hash : OperationHash) {w : SubmissionWorld}
    (h : ReachedBy NoCalls (SubmissionStep hash) (fun _ _ => True) w) :
    ∀ a ∈ w.answered, (∀ submission, a.answer = .ok submission → a.operation ≠ none) ∧
      ∀ id operation, a.operation = some (id, operation) →
        AnsweredFrom hash a.call a.answer operation ∧
          ∀ b ∈ w.answered, ∀ operation', b.operation = some (id, operation') →
            operation' = operation := by
  have hsound : SubmissionsSound hash w :=
    h.invariant (fun _ h => h.sound) fun _ _ _ hs _ hstep => hstep.sound hs
  intro a ha
  refine ⟨hsound.recorded a ha, fun id operation hrecord => ⟨?_, ?_⟩⟩
  · exact hsound.settled a ha id operation hrecord
  · intro b hb operation' hrecord'
    exact hsound.agree b hb a ha id operation' operation hrecord' hrecord

namespace SmallStore

/-- A hash that tells payloads apart: the payload itself. -/
def plainHash : OperationHash := ⟨fun _ _ payload => payload, fun h => h⟩

/-- The scenario of the small store is submitted. -/
def firstCall : CalculationCall where
  ownerUserId := owner
  profileVersionId := profileId
  jobKind := .scenario
  requestSchemaVersion := "scenario-operation-v1"
  idempotencyKey := "scenario-1"
  canonicalPayload := some "\x7b\x7d"
  identity := request.identity
  now := 0

/-- Another scenario under the same key. -/
def otherPayload : CalculationCall := { firstCall with
  canonicalPayload := some "\x7b\"tariff_version_id\":\"tariff\"\x7d" }

/-- Another scenario under the same key, in a request schema that is not in use. -/
def otherSchema : CalculationCall := { otherPayload with
  requestSchemaVersion := "scenario-operation-v2" }

def schemaMismatch : TransactionError :=
  calculationError "REQUEST_SCHEMA_MISMATCH" "Request schema does not match the calculation kind"

/-- A try of the first call, with the identifiers drawn for it. -/
def firstTry (db : Database) (jobId operationId : String) : Transaction CalculationSubmission :=
  submitCalculation db
    (firstCall.request plainHash "POST:/v1/scenarios" "\x7b\x7d" jobId operationId)
    (fun db _ => .ok db)

theorem checkCall_firstCall :
    checkCall plainHash firstCall = .ok ("POST:/v1/scenarios", "\x7b\x7d") := by
  decide +kernel

/-- The call is made, and answered at its first try. -/
theorem firstCall_answered {w : SubmissionWorld} {submission : CalculationSubmission}
    {db' : Database} {jobId operationId : String}
    (h : ReachedBy NoCalls (SubmissionStep plainHash) (fun _ _ => True) w)
    (hfr : operationId ∉ w.drawn)
    (hsub : firstTry w.db jobId operationId = .ok (submission, db')) :
    ReachedBy NoCalls (SubmissionStep plainHash) (fun _ _ => True) ⟨db', operationId :: w.drawn,
      w.pending, ⟨firstCall, .ok submission, boundOperation db' firstCall⟩ :: w.answered⟩ :=
  (h.snoc trivial (.call checkCall_firstCall)).snoc trivial
    (@SubmissionStep.answer _ _ _ _ [] w.pending _ _ _ _ _ _ _ rfl checkCall_firstCall hfr
      (by rintro _ _ _ ⟨⟩; rfl) hsub)

theorem uncalled_reached : ReachedBy NoCalls (SubmissionStep plainHash) (fun _ _ => True)
    ⟨initial, [], [], []⟩ := by
  refine ⟨_, ⟨?_, ?_, rfl, rfl⟩, Runs.refl _⟩
  · intro _ _ _ _ hg
    cases hg
  · intro _ _ hg
    cases hg

end SmallStore

section

open SmallStore

/-- The call is repeated, and the second answer names the job of the first. -/
theorem submissions_idempotent_repeated : ∃ w a b submission again, ReachedBy NoCalls
    (SubmissionStep plainHash) (fun _ _ => True) w ∧ a ∈ w.answered ∧ b ∈ w.answered ∧
      a.call = firstCall ∧ b.call = firstCall ∧ a.answer = .ok submission ∧
        b.answer = .ok again ∧ submission.repeatedOperation = false ∧
          again.repeatedOperation = true ∧ again.jobId = submission.jobId := by
  obtain ⟨⟨submission, db'⟩, hsub, hfirst, ⟨again, db''⟩, hagain, hrepeated, hsame⟩ :
      ∃ r, firstTry initial jobId operationId = .ok r ∧ r.1.repeatedOperation = false ∧
        ∃ r', firstTry r.2 "00000000000000000000000000000007"
            "00000000000000000000000000000008" = .ok r' ∧
          r'.1.repeatedOperation = true ∧ (boundOperation r'.2 firstCall).map Prod.fst
            = (boundOperation r.2 firstCall).map Prod.fst := by
    decide +kernel
  have hfresh : "00000000000000000000000000000008" ∉ [operationId] := by decide
  have hreached := firstCall_answered (firstCall_answered uncalled_reached not_mem_nil hsub)
    hfresh hagain
  obtain ⟨hrecorded, hsettled⟩ := submissions_idempotent plainHash hreached _
    (mem_cons_of_mem _ mem_cons_self)
  obtain ⟨hrecorded', hsettled'⟩ := submissions_idempotent plainHash hreached _ mem_cons_self
  obtain ⟨⟨id, operation⟩, hbound⟩ := Option.ne_none_iff_exists'.mp (hrecorded submission rfl)
  obtain ⟨⟨id', operation'⟩, hbound'⟩ := Option.ne_none_iff_exists'.mp (hrecorded' again rfl)
  obtain rfl : id' = id := by
    rw [show boundOperation db' firstCall = _ from hbound,
      show boundOperation db'' firstCall = _ from hbound'] at hsame
    exact Option.some.inj hsame
  obtain ⟨hanswered, hagree⟩ := hsettled _ operation hbound
  have hjob := ((hsettled' _ operation' hbound').1.job again rfl).1
  rw [hagree _ mem_cons_self operation' hbound', ← (hanswered.job submission rfl).1] at hjob
  exact ⟨_, _, _, submission, again, hreached, mem_cons_of_mem _ mem_cons_self, mem_cons_self,
    rfl, rfl, rfl, rfl, hfirst, hrepeated, hjob⟩

/-- A call with another payload is rejected for its request schema: its key is bound, and it is
not told that the key is reused. -/
theorem other_schema_not_reused : ∃ w a b submission, ReachedBy NoCalls
    (SubmissionStep plainHash) (fun _ _ => True) w ∧ a ∈ w.answered ∧ b ∈ w.answered ∧
      a.answer = .ok submission ∧ a.operation ≠ none ∧ b.operation = a.operation ∧
        b.call.canonicalPayload ≠ a.call.canonicalPayload ∧
          b.answer = .error schemaMismatch ∧ schemaMismatch ≠ keyReused := by
  obtain ⟨⟨submission, db'⟩, hsub⟩ : ∃ r, firstTry initial jobId operationId = .ok r := by
    decide +kernel
  have hreached := firstCall_answered uncalled_reached not_mem_nil hsub
  have hrefused : checkCall plainHash otherSchema
      = .error schemaMismatch := by decide +kernel
  have hsound : SubmissionsSound plainHash _ :=
    hreached.invariant (fun _ h => h.sound) fun _ _ _ hs _ hstep => hstep.sound hs
  -- the two calls differ in what they ask for, not in the owner, the kind and the key
  refine ⟨_, _, _, submission, hreached.snoc trivial (.refuse hrefused),
    mem_cons_of_mem _ mem_cons_self, mem_cons_self, rfl,
    hsound.recorded _ mem_cons_self _ rfl, rfl, ?_, rfl, ?_⟩
  · show otherSchema.canonicalPayload ≠ firstCall.canonicalPayload
    decide +kernel
  · decide +kernel

end

end RateReplay
