import RateReplay.Persistence.Models

/-!
# The deletion ledger

The external ledger of deletions (`deletion_ledger.py`), as the list of its events.  Each
deletion has a chain of events that share one identity and whose phases follow one of the legal
chains.  Encryption, access records and key rotations leave the events alone and are not
modelled; the receipt of an event is a parameter.

## Main definitions

* `LedgerArguments`, `LedgerEvent` — what is appended, and what is kept.
* `legalChains` — the phases a deletion may go through.
* `chainOf`, `appendEvent` — `chain` and `append`.

## Main results

* `appendEvent_eq_ok` — **an append keeps the ledger or extends one chain legally.**
* `LegalChains.appendEvent` — so the chains stay legal.
-/

namespace RateReplay

variable {ledger : List LedgerEvent} {ledger' : List LedgerEvent} {arguments : LedgerArguments}
  {event : LedgerEvent}

/-- The identity every event of one deletion shares. -/
structure LedgerIdentity where
  scopeToken : String
  restoreKeyVersion : String
  originalGeneration : ℕ
  proposedGeneration : ℕ
  preparationDigest : String
  intentProofDigest : String
  deriving DecidableEq

/-- `LedgerAppendArguments`. -/
structure LedgerArguments where
  deletionId : String
  phase : LedgerPhase
  identity : LedgerIdentity
  occurredAt : ℤ
  deriving DecidableEq

structure LedgerEvent where
  deletionId : String
  phase : LedgerPhase
  identity : LedgerIdentity
  occurredAt : ℤ
  previousReceipt : Option String
  receipt : String
  deriving DecidableEq

instance lawfulBEq_phases : LawfulBEq (List LedgerPhase) := inferInstance

/-- `LEGAL_CHAINS`. -/
def legalChains : List (List LedgerPhase) :=
  [[.prepared], [.prepared, .requested], [.prepared, .requested, .completed], [.prepared, .aborted]]

/-- `chain`: the events of one deletion. -/
def chainOf (ledger : List LedgerEvent) (deletionId : String) : List LedgerEvent :=
  ledger.filter fun event => event.deletionId = deletionId

def ledgerError (code message : String) : TransactionError := .raised .ledger code message

/-- `append`, for a function that makes the receipt of an event. -/
def appendEvent (receiptOf : LedgerArguments → Option String → String) (ledger : List LedgerEvent)
    (arguments : LedgerArguments) : Except TransactionError (LedgerEvent × List LedgerEvent) := do
  let chain := chainOf ledger arguments.deletionId
  failIf (∃ first ∈ chain.head?, first.identity ≠ arguments.identity)
    (ledgerError "LEDGER_IDENTITY_MISMATCH"
      "Deletion ledger identity differs from the prepared event")
  match chain.find? fun event => event.phase = arguments.phase with
  | some existing => do
    failIf (existing.identity ≠ arguments.identity ∨ existing.occurredAt ≠ arguments.occurredAt)
      (ledgerError "LEDGER_DUPLICATE_MISMATCH"
        "Duplicate ledger event differs from its canonical record")
    .ok (existing, ledger)
  | none => do
    failIf (chain.map (·.phase) ++ [arguments.phase] ∉ legalChains)
      (ledgerError "ILLEGAL_LEDGER_CHAIN" "Deletion ledger phase transition is not allowed")
    let previousReceipt := chain.getLast?.map (·.receipt)
    let event : LedgerEvent := {
      deletionId := arguments.deletionId
      phase := arguments.phase
      identity := arguments.identity
      occurredAt := arguments.occurredAt
      previousReceipt := previousReceipt
      receipt := receiptOf arguments previousReceipt }
    .ok (event, ledger ++ [event])

/-- **An append keeps the ledger, returning an event of it, or adds one event that carries its
arguments and extends its chain legally.** -/
theorem appendEvent_eq_ok {receiptOf : LedgerArguments → Option String → String}
    (h : appendEvent receiptOf ledger arguments = .ok (event, ledger')) :
    event.deletionId = arguments.deletionId ∧ event.phase = arguments.phase ∧
      ((ledger' = ledger ∧ event ∈ ledger) ∨
        (ledger' = ledger ++ [event] ∧
          (chainOf ledger arguments.deletionId).map (·.phase) ++ [arguments.phase] ∈ legalChains))
    := by
  rw [appendEvent, failIf_bind_eq_ok] at h
  obtain ⟨-, h⟩ := h
  split at h
  · rename_i existing hfind
    rw [failIf_bind_eq_ok] at h
    obtain ⟨-, hres⟩ := h
    cases hres
    have hmem := List.mem_filter.mp (List.mem_of_find?_eq_some hfind)
    have hph := List.find?_some hfind
    exact ⟨by simpa using hmem.2, by simpa using hph, .inl ⟨rfl, hmem.1⟩⟩
  · rw [failIf_bind_eq_ok, not_not] at h
    obtain ⟨hlegal, hres⟩ := h
    cases hres
    exact ⟨rfl, rfl, .inr ⟨rfl, hlegal⟩⟩

/-- An append extends the ledger. -/
theorem appendEvent_extends {receiptOf : LedgerArguments → Option String → String}
    (h : appendEvent receiptOf ledger arguments = .ok (event, ledger')) : ledger <+: ledger' := by
  obtain ⟨-, -, ⟨rfl, -⟩ | ⟨rfl, -⟩⟩ := appendEvent_eq_ok h
  · exact List.prefix_rfl
  · exact List.prefix_append _ _

/-- The chain of every deletion is legal. -/
def LegalChains (ledger : List LedgerEvent) : Prop :=
  ∀ deletionId, chainOf ledger deletionId = [] ∨
    (chainOf ledger deletionId).map (·.phase) ∈ legalChains

theorem chainOf_append_singleton (ledger : List LedgerEvent) (event : LedgerEvent)
    (deletionId : String) : chainOf (ledger ++ [event]) deletionId =
      if event.deletionId = deletionId then chainOf ledger deletionId ++ [event]
      else chainOf ledger deletionId := by
  by_cases hid : event.deletionId = deletionId <;> simp [chainOf, hid]

/-- **An append keeps the chains legal.** -/
theorem LegalChains.appendEvent {receiptOf : LedgerArguments → Option String → String}
    (h : LegalChains ledger)
    (happend : RateReplay.appendEvent receiptOf ledger arguments = .ok (event, ledger')) :
    LegalChains ledger' := by
  obtain ⟨hid, hph, ⟨rfl, -⟩ | ⟨rfl, hlegal⟩⟩ := appendEvent_eq_ok happend
  · exact h
  · intro deletionId
    rw [chainOf_append_singleton]
    split
    · rename_i heq
      rw [← heq, hid, List.map_append, List.map_singleton, hph]
      exact .inr hlegal
    · exact h deletionId

/-- A legal chain starts with a preparation. -/
theorem LegalChains.prepared {deletionId : String} (h : LegalChains ledger)
    (hch : chainOf ledger deletionId ≠ []) :
    ∃ event ∈ chainOf ledger deletionId, event.phase = .prepared := by
  have hlegal := (h deletionId).resolve_left hch
  have hprepd : ∀ phases ∈ legalChains, LedgerPhase.prepared ∈ phases := by decide
  exact List.mem_map.mp (hprepd _ hlegal)

end RateReplay
