import Mathlib.Data.List.Basic
import Mathlib.Tactic.Lemma

/-!
# Three-valued predicates over rows

A `WHERE` clause over nullable columns evaluates to true, false or unknown, and a query keeps the
rows on which it is *true*.  `Truth` is Kleene's logic, `Pred ρ` the fragment of predicates built
from column comparisons, `AND` and `OR`.  The point of the file is `Pred.selects_and`,
`Pred.selects_or` and `Pred.selects_any`: on the question "is the row kept?" the connectives are
the two-valued ones, so unknown never has to be tracked past a comparison.
-/

namespace ThreeValued

/-- SQL's truth values. -/
inductive Truth where
  | tt
  | ff
  | unknown
  deriving DecidableEq, Repr

namespace Truth

def and : Truth → Truth → Truth
  | ff, _ => ff
  | _, ff => ff
  | tt, tt => tt
  | _, _ => unknown

def or : Truth → Truth → Truth
  | tt, _ => tt
  | _, tt => tt
  | ff, ff => ff
  | _, _ => unknown

/-- What a query keeps. -/
def isTrue : Truth → Bool
  | tt => true
  | _ => false

@[simp] lemma isTrue_and (a b : Truth) : (a.and b).isTrue = (a.isTrue && b.isTrue) := by
  cases a <;> cases b <;> rfl

@[simp] lemma isTrue_or (a b : Truth) : (a.or b).isTrue = (a.isTrue || b.isTrue) := by
  cases a <;> cases b <;> rfl

/-- `column = literal`, which is unknown on `NULL`. -/
def eqLit (column : Option String) (literal : String) : Truth :=
  match column with
  | none => unknown
  | some value => if value = literal then tt else ff

@[simp] lemma isTrue_eqLit (column : Option String) (literal : String) :
    (eqLit column literal).isTrue = true ↔ column = some literal := by
  cases column with
  | none => simp [eqLit, isTrue]
  | some value =>
      simp only [eqLit, Option.some.injEq]
      split_ifs with h <;> simp [isTrue, h]

/-- A condition that is never unknown, such as `IS TRUE` and `IS NOT NULL`. -/
def ofBool : Bool → Truth
  | true => tt
  | false => ff

/-- A comparison with the value of a column, which is unknown on `NULL`. -/
def compare {α : Type*} (p : α → Bool) (column : Option α) : Truth :=
  match column with
  | none => unknown
  | some value => ofBool (p value)

/-- Conditions joined by `AND`. -/
def all (conditions : List Truth) : Truth := conditions.foldr and tt

@[simp] lemma isTrue_ofBool (b : Bool) : (ofBool b).isTrue = b := by
  cases b <;> rfl

@[simp] lemma isTrue_compare {α : Type*} (p : α → Bool) (column : Option α) :
    (compare p column).isTrue = column.any p := by
  cases column with
  | none => rfl
  | some value => exact isTrue_ofBool (p value)

/-- A row is kept when each condition is true on it. -/
lemma isTrue_all (conditions : List Truth) :
    (all conditions).isTrue = conditions.all isTrue := by
  induction conditions with
  | nil => rfl
  | cons condition conditions ih =>
      rw [List.all_cons, ← ih]
      exact isTrue_and _ _

end Truth

/-- Predicates a query builder can assemble over rows `ρ`. -/
inductive Pred (ρ : Type*) where
  | eq (column : ρ → Option String) (literal : String)
  | and (p q : Pred ρ)
  | or (p q : Pred ρ)
  | never

namespace Pred

variable {ρ : Type*}

def eval : Pred ρ → ρ → Truth
  | eq column literal, row => Truth.eqLit (column row) literal
  | and p q, row => (p.eval row).and (q.eval row)
  | or p q, row => (p.eval row).or (q.eval row)
  | never, _ => Truth.ff

/-- Does a query with this predicate return the row? -/
def selects (p : Pred ρ) (row : ρ) : Bool := (p.eval row).isTrue

/-- The disjunction of a list of predicates. -/
def any : List (Pred ρ) → Pred ρ
  | [] => never
  | [p] => p
  | p :: ps => or p (any ps)

@[simp] lemma selects_eq (column : ρ → Option String) (literal : String) (row : ρ) :
    (eq column literal).selects row = true ↔ column row = some literal := by
  simp [selects, eval]

@[simp] lemma selects_and (p q : Pred ρ) (row : ρ) :
    (and p q).selects row = (p.selects row && q.selects row) := by
  simp [selects, eval]

@[simp] lemma selects_or (p q : Pred ρ) (row : ρ) :
    (or p q).selects row = (p.selects row || q.selects row) := by
  simp [selects, eval]

lemma selects_any (ps : List (Pred ρ)) (row : ρ) :
    (any ps).selects row = true ↔ ∃ p ∈ ps, p.selects row = true := by
  induction ps with
  | nil => simp [any, selects, eval, Truth.isTrue]
  | cons p ps ih =>
      cases ps with
      | nil => simp [any]
      | cons q qs =>
          rw [any, selects_or, Bool.or_eq_true, ih]
          · simp
          · simp

end Pred

end ThreeValued
