import RateReplay.Lib.Outcome

/-!
# Self-delimiting byte encodings

Two partial encodings `p` and `q` *separate* a property `P` when bytes that start
with both of them force `P` and the same remainder: `P` is what can be read back
from the front of the bytes.  An encoder is *self-delimiting* when the encodings
of any two values separate their equality.  Separation composes under
concatenation, so a record whose fields are self-delimiting is encoded
injectively, whatever follows it.

## Main definitions

* `Separates p q P`, `SelfDelimiting enc` — the properties above.
* `bigEndian w n` — the `w` low bytes of `n`, most significant first.
* `seqBytes items` — the concatenation of a list of encodings, in order.

## Main results

* `Separates.cons` — closure under concatenation.
* `SelfDelimiting.list` — lists of one length, encoded element by element.
* `Separates.of_eq` — equal encodings force `P`.
-/

namespace RateReplay

/-- A byte string. -/
abbrev Bytes := List UInt8

variable {ε : Type*} {α : Type*} {P Q : Prop}

/-- Bytes that start with both encodings force `P` and the same remainder. -/
def Separates (p q : Except ε Bytes) (P : Prop) : Prop :=
  ∀ ⦃x y r s⦄, p = .ok x → q = .ok y → x ++ r = y ++ s → P ∧ r = s

/-- The encodings of any two values separate their equality. -/
def SelfDelimiting (enc : α → Except ε Bytes) : Prop :=
  ∀ a b, Separates (enc a) (enc b) (a = b)

theorem Separates.of_eq {p q : Except ε Bytes} (h : Separates p q P) {x : Bytes} (hp : p = .ok x)
    (hq : q = .ok x) : P :=
  (h hp hq (r := []) (s := []) rfl).1

theorem Separates.mono {p q : Except ε Bytes} (h : Separates p q P) (hPQ : P → Q) :
    Separates p q Q :=
  fun _ _ _ _ hp hq hxy => (h hp hq hxy).imp_left hPQ

/-! ### Concatenation -/

/-- Encode one value after another. -/
def catBytes (p q : Except ε Bytes) : Except ε Bytes := do
  let x ← p
  let y ← q
  pure (x ++ y)

theorem catBytes_eq_ok {p q : Except ε Bytes} {z : Bytes} :
    catBytes p q = .ok z ↔ ∃ x y, p = .ok x ∧ q = .ok y ∧ z = x ++ y := by
  unfold catBytes
  simp only [bind_eq_ok]
  constructor
  · rintro ⟨x, hx, y, hy, h⟩
    cases h
    exact ⟨x, y, hx, hy, rfl⟩
  · rintro ⟨x, y, hx, hy, rfl⟩
    exact ⟨x, hx, y, hy, rfl⟩

/-- What follows a separated front is compared under what the front forced. -/
theorem Separates.cat {p p' q q' : Except ε Bytes} (h : Separates p q P)
    (h' : P → Separates p' q' Q) : Separates (catBytes p p') (catBytes q q') (P ∧ Q) := by
  intro z w r s hz hw hzw
  obtain ⟨x, x', hx, hx', rfl⟩ := catBytes_eq_ok.mp hz
  obtain ⟨y, y', hy, hy', rfl⟩ := catBytes_eq_ok.mp hw
  rw [List.append_assoc, List.append_assoc] at hzw
  obtain ⟨hP, hrest⟩ := h hx hy hzw
  obtain ⟨hQ, hrs⟩ := h' hP hx' hy' hrest
  exact ⟨⟨hP, hQ⟩, hrs⟩

/-- The encodings of a list, in order and without separators. -/
def seqBytes : List (Except ε Bytes) → Except ε Bytes
  | [] => .ok []
  | p :: ps => catBytes p (seqBytes ps)

theorem Separates.nil : Separates (seqBytes ([] : List (Except ε Bytes))) (seqBytes []) True := by
  intro x y r s hx hy hxy
  cases hx
  cases hy
  exact ⟨trivial, hxy⟩

/-- One more field of a record. -/
theorem Separates.cons {p q : Except ε Bytes} {ps qs : List (Except ε Bytes)} (h : Separates p q P)
    (h' : Separates (seqBytes ps) (seqBytes qs) Q) :
    Separates (seqBytes (p :: ps)) (seqBytes (q :: qs)) (P ∧ Q) :=
  h.cat fun _ => h'

/-- Lists of one length, encoded element by element, are told apart. -/
theorem SelfDelimiting.list {enc : α → Except ε Bytes} (h : SelfDelimiting enc) :
    ∀ {as bs : List α}, as.length = bs.length →
      Separates (seqBytes (as.map enc)) (seqBytes (bs.map enc)) (as = bs) := by
  intro as
  induction as with
  | nil =>
    intro bs hlen
    cases bs with
    | nil => exact Separates.nil.mono fun _ => rfl
    | cons b bs => simp at hlen
  | cons a as ih =>
    intro bs hlen
    cases bs with
    | nil => simp at hlen
    | cons b bs =>
      refine ((h a b).cons (ih (by simpa using hlen))).mono ?_
      rintro ⟨hab, htail⟩
      rw [hab, htail]

/-! ### Fixed-width integers -/

/-- The `w` low bytes of `n`, most significant first. -/
def bigEndian : ℕ → ℕ → Bytes
  | 0, _ => []
  | w + 1, n => UInt8.ofNat (n / 256 ^ w) :: bigEndian w n

@[simp] theorem length_bigEndian (w n : ℕ) : (bigEndian w n).length = w := by
  induction w with
  | zero => rfl
  | succ w ih => rw [bigEndian, List.length_cons, ih]

/-- The bytes of a number fix it modulo the width. -/
theorem mod_eq_of_bigEndian_eq : ∀ {w m n : ℕ}, bigEndian w m = bigEndian w n →
    m % 256 ^ w = n % 256 ^ w := by
  intro w
  induction w with
  | zero => intro m n _; simp [Nat.mod_one]
  | succ w ih =>
    intro m n h
    rw [bigEndian, bigEndian, List.cons.injEq] at h
    have hhead : (m / 256 ^ w) % 256 = (n / 256 ^ w) % 256 := by
      simpa [← UInt8.toNat_inj] using h.1
    rw [pow_succ, Nat.mod_mul, Nat.mod_mul, hhead, ih h.2]

/-- Two numbers below the width are read back from their bytes. -/
theorem eq_of_bigEndian_append {w m n : ℕ} {r s : Bytes} (hm : m < 256 ^ w) (hn : n < 256 ^ w)
    (h : bigEndian w m ++ r = bigEndian w n ++ s) : m = n ∧ r = s := by
  obtain ⟨hbytes, hrest⟩ := List.append_inj h (by simp)
  have hmod := mod_eq_of_bigEndian_eq hbytes
  rw [Nat.mod_eq_of_lt hm, Nat.mod_eq_of_lt hn] at hmod
  exact ⟨hmod, hrest⟩

end RateReplay
