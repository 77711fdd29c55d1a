import Mathlib.Data.List.Forall2
import Mathlib.Tactic.Common
import Mathlib.Tactic.Lemma

/-!
# Fallible computations

Inversion rules for `Except`: a sequence of fallible steps succeeds exactly when every step does,
and fails exactly when some step is the first to fail.  `require` is a guard and `demand` a lookup
that must not miss.
-/

namespace Fallible

variable {ε : Type*} {α β : Type}

/-- Refuse with `e` unless the condition holds. -/
def require (c : Prop) [Decidable c] (e : ε) : Except ε Unit := if c then .ok () else .error e

/-- Refuse with `e` when the lookup missed. -/
def demand (x : Option α) (e : ε) : Except ε α :=
  match x with
  | some a => .ok a
  | none => .error e

@[simp] lemma ok_bind (a : α) (f : α → Except ε β) : (Except.ok a >>= f) = f a := rfl

@[simp] lemma error_bind (e : ε) (f : α → Except ε β) :
    ((Except.error e : Except ε α) >>= f) = Except.error e := rfl

theorem bind_eq_ok {x : Except ε α} {f : α → Except ε β} {b : β} :
    (x >>= f) = .ok b ↔ ∃ a, x = .ok a ∧ f a = .ok b := by
  cases x with
  | ok a => simp
  | error e => simp

theorem bind_eq_error {x : Except ε α} {f : α → Except ε β} {e : ε} :
    (x >>= f) = .error e ↔ x = .error e ∨ ∃ a, x = .ok a ∧ f a = .error e := by
  cases x with
  | ok a => simp
  | error e' => simp

/-- A check comes before what follows it. -/
lemma check_bind_eq_ok {x : Except ε Unit} {f : Unit → Except ε β} {b : β} :
    (x >>= f) = .ok b ↔ x = .ok () ∧ f () = .ok b := by
  cases x with
  | ok u => simp
  | error e => simp

lemma map_eq_ok {x : Except ε α} {f : α → β} {b : β} :
    x.map f = .ok b ↔ ∃ a, x = .ok a ∧ f a = b := by
  cases x with
  | ok a => simp [Except.map]
  | error e => simp [Except.map]

lemma mapError_eq_ok {ε' : Type*} {x : Except ε α} {f : ε → ε'} {a : α} :
    x.mapError f = .ok a ↔ x = .ok a := by
  cases x with
  | ok a => simp [Except.mapError]
  | error e => simp [Except.mapError]

/-- What an evaluated computation returned, read off a figure of it. -/
lemma toOption_map_eq_some {x : Except ε α} {f : α → β} {b : β} :
    x.toOption.map f = some b ↔ ∃ a, x = .ok a ∧ f a = b := by
  cases x with
  | ok a => simp [Except.toOption]
  | error e => simp [Except.toOption]

/-- What an evaluated computation returned has a property, decided by the evaluation. -/
lemma exists_ok_and {x : Except ε α} {P : α → Prop} [DecidablePred P]
    (h : x.toOption.any (P ·) = true) : ∃ a, x = .ok a ∧ P a := by
  cases x with
  | ok a => exact ⟨a, rfl, of_decide_eq_true h⟩
  | error e => exact absurd h Bool.false_ne_true

lemma toOption_isSome_iff {x : Except ε α} : x.toOption.isSome = true ↔ ∃ a, x = .ok a := by
  cases x with
  | ok a => simp [Except.toOption]
  | error e => simp [Except.toOption]

@[simp] lemma require_eq_ok {c : Prop} [Decidable c] {e : ε} {u : Unit} :
    require c e = .ok u ↔ c := by
  simp only [require]
  split_ifs with h <;> simp [h]

@[simp] lemma demand_eq_ok {x : Option α} {e : ε} {a : α} :
    demand x e = .ok a ↔ x = some a := by
  cases x <;> simp [demand]

lemma mapM_cons_eq_ok {f : α → Except ε β} {x : α} {xs : List α} {ys : List β} :
    (x :: xs).mapM f = .ok ys ↔ ∃ y ys', f x = .ok y ∧ xs.mapM f = .ok ys' ∧ ys = y :: ys' := by
  simp only [List.mapM_cons, bind_eq_ok]
  refine ⟨fun ⟨y, hy, ys', hys, h⟩ => ⟨y, ys', hy, hys, (Except.ok.inj h).symm⟩, ?_⟩
  rintro ⟨y, ys', hy, hys, rfl⟩
  exact ⟨y, hy, ys', hys, rfl⟩

/-- Mapping a fallible step over a list returns what each step returns, in its place. -/
theorem mapM_eq_ok_iff_forall₂ {f : α → Except ε β} {xs : List α} {ys : List β} :
    xs.mapM f = .ok ys ↔ List.Forall₂ (fun x y => f x = .ok y) xs ys := by
  induction xs generalizing ys with
  | nil => simp [pure, Except.pure, List.forall₂_nil_left_iff, eq_comm]
  | cons x xs ih =>
      rw [mapM_cons_eq_ok, List.forall₂_cons_left_iff]
      simp only [ih, exists_and_left]

/-- Mapping a fallible step over a list collects what the steps return. -/
theorem mem_of_mapM_eq_ok {f : α → Except ε β} {xs : List α} {ys : List β}
    (h : xs.mapM f = .ok ys) (y : β) : y ∈ ys ↔ ∃ x ∈ xs, f x = .ok y := by
  induction xs generalizing ys with
  | nil =>
      cases Except.ok.inj h
      simp
  | cons x xs ih =>
      obtain ⟨z, zs, hz, hzs, rfl⟩ := mapM_cons_eq_ok.mp h
      have hhead : y = z ↔ f x = .ok y := by rw [hz, Except.ok.injEq, eq_comm]
      simp only [List.mem_cons, ih hzs, exists_eq_or_imp, hhead]

/-- It succeeds exactly when every step does. -/
theorem mapM_succeeds_iff {f : α → Except ε β} {xs : List α} :
    (∃ ys, xs.mapM f = .ok ys) ↔ ∀ x ∈ xs, ∃ y, f x = .ok y := by
  induction xs with
  | nil => exact ⟨fun _ x hx => absurd hx List.not_mem_nil, fun _ => ⟨[], rfl⟩⟩
  | cons x xs ih =>
      rw [List.forall_mem_cons, ← ih]
      refine ⟨fun ⟨ys, h⟩ => ?_, fun ⟨⟨y, hy⟩, ys, hys⟩ => ?_⟩
      · obtain ⟨y, ys', hy, hys, -⟩ := mapM_cons_eq_ok.mp h
        exact ⟨⟨y, hy⟩, ys', hys⟩
      · exact ⟨y :: ys, mapM_cons_eq_ok.mpr ⟨y, ys, hy, hys, rfl⟩⟩

/-- A step that a condition decides, and that returns the image where it holds, maps the list. -/
theorem mapM_eq_ok_map {f : α → Except ε β} {c : α → Prop} {g : α → β}
    (h : ∀ x y, f x = .ok y ↔ c x ∧ y = g x) {xs : List α} {ys : List β} :
    xs.mapM f = .ok ys ↔ (∀ x ∈ xs, c x) ∧ ys = xs.map g := by
  induction xs generalizing ys with
  | nil => simp [pure, Except.pure, eq_comm]
  | cons x xs ih =>
      rw [mapM_cons_eq_ok, List.forall_mem_cons, List.map_cons]
      constructor
      · rintro ⟨y, ys', hy, hys, rfl⟩
        obtain ⟨hx, rfl⟩ := (h x y).mp hy
        obtain ⟨hxs, rfl⟩ := ih.mp hys
        exact ⟨⟨hx, hxs⟩, rfl⟩
      · rintro ⟨⟨hx, hxs⟩, rfl⟩
        exact ⟨g x, xs.map g, (h x (g x)).mpr ⟨hx, rfl⟩, ih.mpr ⟨hxs, rfl⟩, rfl⟩

/-! ## Two computations side by side -/

/-- Both raise the same, or what they return is related. -/
inductive Alike (R : α → β → Prop) : Except ε α → Except ε β → Prop where
  | error (e : ε) : Alike R (.error e) (.error e)
  | ok {a : α} {b : β} (h : R a b) : Alike R (.ok a) (.ok b)

/-- After a step that both take, they go on alike. -/
lemma Alike.after {γ : Type} {R : α → β → Prop} (x : Except ε γ) {f : γ → Except ε α}
    {g : γ → Except ε β} (h : ∀ c, x = .ok c → Alike R (f c) (g c)) :
    Alike R (x >>= f) (x >>= g) := by
  cases x with
  | error e => exact .error e
  | ok c => exact h c rfl

end Fallible
