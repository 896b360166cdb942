import Mathlib.Tactic

/-!
# Integer constraint models

The part of a CP-SAT model that the lowering uses: bounded integer variables, linear
constraints that may be enforced by a literal, exactly-one, division and maximum
constraints.  A linear expression is kept as the list of its terms in the order they were
added.

## Main definitions

* `LinExpr` — a linear expression, `LinExpr.eval` its value.
* `Constraint`, `CpModel` — constraints and models.
* `CpModel.Satisfies` — the assignments a model admits.

## Main results

* `satisfies_append` — models add up.
* `Constraint.exactlyOne_iff` — exactly-one is a choice.
-/

namespace RateReplay

open List

/-! ### Linear expressions -/

/-- A term of a linear expression. -/
inductive Term (V : Type*) where
  | const (c : ℤ)
  | var (coefficient : ℤ) (v : V)

/-- A linear expression: its terms in order. -/
abbrev LinExpr (V : Type*) := List (Term V)

namespace Term

variable {V : Type*}

def eval (a : V → ℤ) : Term V → ℤ
  | .const c => c
  | .var coefficient v => coefficient * a v

def scale (k : ℤ) : Term V → Term V
  | .const c => .const (k * c)
  | .var coefficient v => .var (k * coefficient) v

@[simp] theorem eval_const (a : V → ℤ) (c : ℤ) : (const c).eval a = c := rfl

@[simp] theorem eval_var (a : V → ℤ) (k : ℤ) (v : V) : (var k v).eval a = k * a v := rfl

@[simp] theorem eval_scale (a : V → ℤ) (k : ℤ) (t : Term V) :
    (t.scale k).eval a = k * t.eval a := by
  cases t with
  | const c => rfl
  | var coefficient v => exact mul_assoc k coefficient (a v)

end Term

namespace LinExpr

variable {V : Type*}

def eval (a : V → ℤ) (e : LinExpr V) : ℤ := (e.map (Term.eval a)).sum

def const (c : ℤ) : LinExpr V := [.const c]

/-- The expression of a single variable. -/
def var (v : V) : LinExpr V := [.var 1 v]

/-- `LinearExpr.sum(variables)`. -/
def sumVars (vs : List V) : LinExpr V := vs.map (Term.var 1)

def scale (k : ℤ) (e : LinExpr V) : LinExpr V := e.map (Term.scale k)

variable (a : V → ℤ)

@[simp] theorem eval_nil : eval a ([] : LinExpr V) = 0 := rfl

@[simp] theorem eval_cons (t : Term V) (e : LinExpr V) : eval a (t :: e) = t.eval a + eval a e := by
  simp [eval]

@[simp] theorem eval_append (e e' : LinExpr V) : eval a (e ++ e') = eval a e + eval a e' := by
  simp [eval]

@[simp] theorem eval_singleton_const (c : ℤ) : eval a (const c) = c := by
  simp [const]

@[simp] theorem eval_singleton_var (v : V) : eval a (var v) = a v := by
  simp [var]

@[simp] theorem eval_sumVars (vs : List V) : eval a (sumVars vs) = (vs.map a).sum := by
  induction vs with
  | nil => rfl
  | cons v vs ih =>
    rw [sumVars, map_cons, eval_cons, ← sumVars, ih]
    simp

@[simp] theorem eval_scale (k : ℤ) (e : LinExpr V) : eval a (scale k e) = k * eval a e := by
  induction e with
  | nil => simp [scale]
  | cons t e ih =>
    rw [scale, map_cons, eval_cons, ← scale, ih]
    simp [mul_add]

@[simp] theorem eval_flatten (es : List (LinExpr V)) :
    eval a es.flatten = (es.map (eval a)).sum := by
  induction es with
  | nil => rfl
  | cons e es ih => simp [ih]

end LinExpr

/-! ### Constraints -/

inductive Relation where
  | le
  | ge
  | eq
  | ne
  deriving DecidableEq

def Relation.Holds : Relation → ℤ → ℤ → Prop
  | .le, x, y => x ≤ y
  | .ge, x, y => x ≥ y
  | .eq, x, y => x = y
  | .ne, x, y => x ≠ y

/-- A Boolean variable or its negation. -/
structure Literal (V : Type*) where
  boolean : V
  positive : Bool

/-- A Boolean variable is true when it is 1. -/
def Literal.Holds {V : Type*} (a : V → ℤ) (l : Literal V) : Prop :=
  if l.positive then a l.boolean = 1 else a l.boolean ≠ 1

/-- The constraints of a model. -/
inductive Constraint (V : Type*) where
  /-- `add(lhs ~ rhs)`, possibly with `only_enforce_if(literal)`. -/
  | linear (lhs : LinExpr V) (relation : Relation) (rhs : LinExpr V)
      (enforcement : Option (Literal V))
  /-- `add_exactly_one(literals)`. -/
  | exactlyOne (literals : List V)
  /-- `add_division_equality(target, numerator, denominator)`, rounded towards zero. -/
  | divisionEquality (target : V) (numerator : LinExpr V) (denominator : ℤ)
  /-- `add_max_equality(target, exprs)`. -/
  | maxEquality (target : V) (exprs : List (LinExpr V))

namespace Constraint

variable {V : Type*}

def Holds (a : V → ℤ) : Constraint V → Prop
  | .linear lhs relation rhs enforcement =>
    (∀ l ∈ enforcement, l.Holds a) → relation.Holds (lhs.eval a) (rhs.eval a)
  | .exactlyOne literals => (literals.filter fun v => a v = 1).length = 1
  | .divisionEquality target numerator denominator =>
    a target = (numerator.eval a).tdiv denominator
  | .maxEquality target exprs =>
    (∀ e ∈ exprs, e.eval a ≤ a target) ∧ ∃ e ∈ exprs, e.eval a = a target

/-- `add(lhs ~ rhs)`. -/
def add (lhs : LinExpr V) (relation : Relation) (rhs : LinExpr V) : Constraint V :=
  .linear lhs relation rhs none

/-- `add(lhs ~ rhs).only_enforce_if(v)`. -/
def addIf (v : V) (lhs : LinExpr V) (relation : Relation) (rhs : LinExpr V) : Constraint V :=
  .linear lhs relation rhs (some ⟨v, true⟩)

/-- `add(lhs ~ rhs).only_enforce_if(v.Not())`. -/
def addIfNot (v : V) (lhs : LinExpr V) (relation : Relation) (rhs : LinExpr V) : Constraint V :=
  .linear lhs relation rhs (some ⟨v, false⟩)

variable (a : V → ℤ)

@[simp] theorem holds_add (lhs rhs : LinExpr V) (relation : Relation) :
    (add lhs relation rhs).Holds a ↔ relation.Holds (lhs.eval a) (rhs.eval a) := by
  simp [add, Holds]

@[simp] theorem holds_addIf (v : V) (lhs rhs : LinExpr V) (relation : Relation) :
    (addIf v lhs relation rhs).Holds a ↔
      (a v = 1 → relation.Holds (lhs.eval a) (rhs.eval a)) := by
  simp [addIf, Holds, Literal.Holds]

@[simp] theorem holds_addIfNot (v : V) (lhs rhs : LinExpr V) (relation : Relation) :
    (addIfNot v lhs relation rhs).Holds a ↔
      (a v ≠ 1 → relation.Holds (lhs.eval a) (rhs.eval a)) := by
  simp [addIfNot, Holds, Literal.Holds]

@[simp] theorem holds_divisionEquality (target : V) (numerator : LinExpr V) (denominator : ℤ) :
    (divisionEquality target numerator denominator).Holds a ↔
      a target = (numerator.eval a).tdiv denominator := Iff.rfl

@[simp] theorem holds_maxEquality (target : V) (exprs : List (LinExpr V)) :
    (maxEquality target exprs).Holds a ↔
      (∀ e ∈ exprs, e.eval a ≤ a target) ∧ ∃ e ∈ exprs, e.eval a = a target := Iff.rfl

variable {a}

/-- **Exactly one of several Boolean variables is true**: they are the indicator of one of
them. -/
theorem exactlyOne_iff [DecidableEq V] {vs : List V} (hnodup : vs.Nodup) :
    ((∀ v ∈ vs, 0 ≤ a v ∧ a v ≤ 1) ∧ (exactlyOne vs).Holds a) ↔
      ∃ v ∈ vs, ∀ w ∈ vs, a w = if w = v then 1 else 0 := by
  constructor
  · rintro ⟨hbool, hone⟩
    obtain ⟨v, hv⟩ := length_eq_one_iff.mp hone
    have hmem : ∀ w, w ∈ vs ∧ a w = 1 ↔ w = v := by
      intro w
      have hfilter : w ∈ vs.filter (fun v => a v = 1) ↔ w ∈ [v] := by rw [hv]
      rwa [mem_filter, decide_eq_true_eq, mem_singleton] at hfilter
    refine ⟨v, ((hmem v).mpr rfl).1, ?_⟩
    intro w hw
    by_cases hwv : w = v
    · rw [if_pos hwv]
      exact ((hmem w).mpr hwv).2
    · have hne : a w ≠ 1 := fun h => hwv ((hmem w).mp ⟨hw, h⟩)
      have := hbool w hw
      rw [if_neg hwv]
      omega
  · rintro ⟨v, hv, hall⟩
    refine ⟨?_, ?_⟩
    · intro w hw
      rw [hall w hw]
      split_ifs <;> omega
    · have hfilter : (vs.filter fun w => a w = 1) = vs.filter fun w => w == v := by
        refine filter_congr fun w hw => ?_
        rw [hall w hw]
        by_cases hwv : w = v <;> simp [hwv]
      rw [Holds, hfilter, ← countP_eq_length_filter]
      exact count_eq_one_of_mem hnodup hv

end Constraint

/-! ### Models -/

/-- `new_int_var(lower, upper)`. -/
structure VarDomain (V : Type*) where
  var : V
  lower : ℤ
  upper : ℤ

/-- `new_bool_var`. -/
def VarDomain.bool {V : Type*} (v : V) : VarDomain V := ⟨v, 0, 1⟩

/-- A model: variables with their domains, constraints, and hints for the search. -/
structure CpModel (V : Type*) where
  domains : List (VarDomain V)
  constraints : List (Constraint V)
  hints : List (V × ℤ)

namespace CpModel

variable {V : Type*}

def empty : CpModel V := ⟨[], [], []⟩

/-- What both models have. -/
def append (m m' : CpModel V) : CpModel V :=
  ⟨m.domains ++ m'.domains, m.constraints ++ m'.constraints, m.hints ++ m'.hints⟩

instance : Append (CpModel V) := ⟨append⟩

/-- What all models of a list have. -/
def concat (ms : List (CpModel V)) : CpModel V := ms.foldr (· ++ ·) empty

/-- The assignment respects every domain. -/
def InDomains (m : CpModel V) (a : V → ℤ) : Prop :=
  ∀ d ∈ m.domains, d.lower ≤ a d.var ∧ a d.var ≤ d.upper

/-- The assignment respects every domain and constraint. -/
def Satisfies (m : CpModel V) (a : V → ℤ) : Prop :=
  m.InDomains a ∧ ∀ c ∈ m.constraints, c.Holds a

variable {a : V → ℤ}

@[simp] theorem domains_append (m m' : CpModel V) : (m ++ m').domains = m.domains ++ m'.domains :=
  rfl

@[simp] theorem constraints_append (m m' : CpModel V) :
    (m ++ m').constraints = m.constraints ++ m'.constraints := rfl

@[simp] theorem domains_concat (ms : List (CpModel V)) :
    (concat ms).domains = ms.flatMap CpModel.domains := by
  induction ms with
  | nil => rfl
  | cons m ms ih => rw [flatMap_cons, ← ih]; rfl

@[simp] theorem constraints_concat (ms : List (CpModel V)) :
    (concat ms).constraints = ms.flatMap CpModel.constraints := by
  induction ms with
  | nil => rfl
  | cons m ms ih => rw [flatMap_cons, ← ih]; rfl

theorem inDomains_append {m m' : CpModel V} :
    (m ++ m').InDomains a ↔ m.InDomains a ∧ m'.InDomains a := by
  rw [InDomains, domains_append, forall_mem_append]
  rfl

theorem inDomains_concat {ms : List (CpModel V)} :
    (concat ms).InDomains a ↔ ∀ m ∈ ms, m.InDomains a := by
  rw [InDomains, domains_concat, forall_mem_flatMap]
  rfl

/-- **A joined model admits what both parts admit.** -/
theorem satisfies_append {m m' : CpModel V} :
    (m ++ m').Satisfies a ↔ m.Satisfies a ∧ m'.Satisfies a := by
  rw [Satisfies, inDomains_append, constraints_append, forall_mem_append, and_and_and_comm]
  rfl

theorem satisfies_concat {ms : List (CpModel V)} :
    (concat ms).Satisfies a ↔ ∀ m ∈ ms, m.Satisfies a := by
  rw [Satisfies, inDomains_concat, constraints_concat, forall_mem_flatMap, ← forall₂_and]
  rfl

end CpModel

end RateReplay
