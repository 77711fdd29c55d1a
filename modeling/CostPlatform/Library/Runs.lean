import Mathlib.Data.List.Basic
import Mathlib.Data.List.Forall2
import Mathlib.Tactic.Lemma

/-!
# Runs of a deterministic transition function

A system is a step function `σ → α → σ`; a run is a list of actions.  Two predicates say what
holds along a run:

* `Throughout step I s as` — the state predicate `I` holds in every state the run visits, the
  first and the last included;
* `Along step P s as` — the action predicate `P` holds of every step, judged in the state the
  step is taken from.

`run_part` follows a part of the state that only some actions move.
`run_invariant` is the induction for an invariant that every step keeps, and
`throughout_iff_along` its exact form for one that only some steps keep: where a step keeps the
invariant *if and only if* it meets the condition, a run keeps it throughout if and only if all
its steps meet the condition.

`NeverAfter step I J s as` orders two families of facts: once `I i` has been seen, `J i` is not
seen again.  `neverAfter_iff_along` is its exact rule.

`emitted step e s as` is what the steps of a run emit, one after the other.  A view of the state
that every step extends by what it emits is, after a run, extended by what the run emitted
(`view_run`); and what is emitted keeps any order that every step keeps with what was there
(`emitted_ordered`).  `matched_iff_along` says when two emissions of a run answer each other.
-/

namespace Runs

variable {σ α : Type*}

/-- The state a list of actions ends in. -/
def run (step : σ → α → σ) (s : σ) (as : List α) : σ := as.foldl step s

/-- `P` holds of every step of the run, in the state that step is taken from. -/
def Along (step : σ → α → σ) (P : σ → α → Prop) : σ → List α → Prop
  | _, [] => True
  | s, a :: as => P s a ∧ Along step P (step s a) as

/-- `I` holds in every state the run visits. -/
def Throughout (step : σ → α → σ) (I : σ → Prop) : σ → List α → Prop
  | s, [] => I s
  | s, a :: as => I s ∧ Throughout step I (step s a) as

variable {step : σ → α → σ} {I : σ → Prop} {P Q : σ → α → Prop}

instance decidableThroughout [DecidablePred I] :
    ∀ (s : σ) (as : List α), Decidable (Throughout step I s as)
  | s, [] => inferInstanceAs (Decidable (I s))
  | s, a :: as =>
      haveI := decidableThroughout (step s a) as
      inferInstanceAs (Decidable (I s ∧ Throughout step I (step s a) as))

instance decidableAlong [∀ s a, Decidable (P s a)] :
    ∀ (s : σ) (as : List α), Decidable (Along step P s as)
  | _, [] => inferInstanceAs (Decidable True)
  | s, a :: as =>
      haveI := decidableAlong (step s a) as
      inferInstanceAs (Decidable (P s a ∧ Along step P (step s a) as))

@[simp] lemma run_nil (s : σ) : run step s [] = s := rfl

@[simp] lemma run_cons (s : σ) (a : α) (as : List α) :
    run step s (a :: as) = run step (step s a) as := rfl

lemma run_append (s : σ) (as bs : List α) :
    run step s (as ++ bs) = run step (run step s as) bs := by
  simp [run, List.foldl_append]

lemma Throughout.head {s : σ} {as : List α} (h : Throughout step I s as) : I s := by
  cases as with
  | nil => exact h
  | cons a as => exact h.1

/-- The states of a run are those its beginnings end in. -/
theorem throughout_iff_forall_prefix (s : σ) (as : List α) :
    Throughout step I s as ↔ ∀ pre post, as = pre ++ post → I (run step s pre) := by
  induction as generalizing s with
  | nil =>
      constructor
      · rintro h pre post hsplit
        rw [(List.append_eq_nil_iff.mp hsplit.symm).1]
        exact h
      · exact fun h => h [] [] rfl
  | cons a as ih =>
      constructor
      · rintro ⟨hhead, hrest⟩ pre post hsplit
        cases pre with
        | nil => exact hhead
        | cons b pre =>
            obtain ⟨rfl, rfl⟩ := List.cons.inj hsplit
            exact (ih _).mp hrest pre post rfl
      · intro h
        refine ⟨h [] (a :: as) rfl, (ih _).mpr ?_⟩
        rintro pre post rfl
        exact h (a :: pre) post rfl

/-- The steps of a run are the ways of splitting it around one action. -/
theorem along_iff_forall_split (s : σ) (as : List α) :
    Along step P s as ↔ ∀ pre a post, as = pre ++ a :: post → P (run step s pre) a := by
  induction as generalizing s with
  | nil =>
      constructor
      · intro _ pre a post hsplit
        simp at hsplit
      · intro _
        trivial
  | cons b as ih =>
      constructor
      · rintro ⟨hb, hrest⟩ pre a post hsplit
        cases pre with
        | nil =>
            obtain ⟨rfl, rfl⟩ := List.cons.inj hsplit
            exact hb
        | cons c pre =>
            obtain ⟨rfl, rfl⟩ := List.cons.inj hsplit
            exact (ih _).mp hrest pre a post rfl
      · intro h
        refine ⟨h [] b as rfl, (ih _).mpr ?_⟩
        rintro pre a post rfl
        exact h (b :: pre) a post rfl

lemma Along.mono (hPQ : ∀ s a, P s a → Q s a) {s : σ} {as : List α}
    (h : Along step P s as) : Along step Q s as := by
  induction as generalizing s with
  | nil => trivial
  | cons a as ih => exact ⟨hPQ _ _ h.1, ih h.2⟩

lemma along_congr (hPQ : ∀ s a, P s a ↔ Q s a) (s : σ) (as : List α) :
    Along step P s as ↔ Along step Q s as :=
  ⟨Along.mono fun s a => (hPQ s a).mp, Along.mono fun s a => (hPQ s a).mpr⟩

lemma along_append (s : σ) (as bs : List α) :
    Along step P s (as ++ bs) ↔ Along step P s as ∧ Along step P (run step s as) bs := by
  induction as generalizing s with
  | nil => simp [Along]
  | cons a as ih =>
      show P s a ∧ Along step P (step s a) (as ++ bs) ↔ _
      rw [ih, run_cons]
      exact and_assoc.symm

/-- What the steps that meet `P` keep is kept by a run of them. -/
lemma Along.keeps (hstep : ∀ s a, P s a → I s → I (step s a)) {s : σ} {as : List α}
    (h : Along step P s as) (hs : I s) : I (run step s as) := by
  induction as generalizing s with
  | nil => exact hs
  | cons a as ih => exact ih h.2 (hstep s a h.1 hs)

/-- An invariant every step keeps holds at the end of every run. -/
theorem run_invariant (hstep : ∀ s a, I s → I (step s a)) {s : σ} (as : List α) (hs : I s) :
    I (run step s as) := by
  induction as generalizing s with
  | nil => exact hs
  | cons a as ih => exact ih (hstep _ _ hs)

/-- **A part of the state runs by itself**, through the actions that move it. -/
theorem run_part {τ β : Type*} {part : σ → τ} {move : τ → β → τ} (moves : α → Prop)
    [DecidablePred moves] (read : α → β)
    (hstep : ∀ s a, part (step s a) = if moves a then move (part s) (read a) else part s)
    (s : σ) (as : List α) :
    part (run step s as) = run move (part s) ((as.filter moves).map read) := by
  induction as generalizing s with
  | nil => rfl
  | cons a as ih =>
      rw [run_cons, ih, hstep]
      split_ifs with hmoves
      · rw [List.filter_cons_of_pos (by simpa using hmoves), List.map_cons, run_cons]
      · rw [List.filter_cons_of_neg (by simpa using hmoves)]

/-- **The exact run invariant.**  If a step from a state satisfying `I` keeps `I` exactly when it
meets `P`, then a run from such a state satisfies `I` throughout exactly when all its steps
meet `P`. -/
theorem throughout_iff_along (hstep : ∀ s a, I s → (I (step s a) ↔ P s a)) {s : σ}
    {as : List α} (hs : I s) : Throughout step I s as ↔ Along step P s as := by
  induction as generalizing s with
  | nil => exact ⟨fun _ => trivial, fun _ => hs⟩
  | cons a as ih =>
      constructor
      · rintro ⟨_, hrest⟩
        have hnext : I (step s a) := hrest.head
        exact ⟨(hstep s a hs).mp hnext, (ih hnext).mp hrest⟩
      · rintro ⟨hPa, hrest⟩
        have hnext : I (step s a) := (hstep s a hs).mpr hPa
        exact ⟨hs, (ih hnext).mpr hrest⟩

/-- After a state in which `I i` holds, the run visits none in which `J i` holds. -/
def NeverAfter {ι : Type*} (step : σ → α → σ) (I J : ι → σ → Prop) (s : σ) (as : List α) : Prop :=
  ∀ pre mid post, as = pre ++ mid ++ post →
    ∀ i, I i (run step s pre) → ¬ J i (run step s (pre ++ mid))

/-- **What is seen once is not undone.**  If the steps that meet `P` keep every `I i`, and a step
that does not meet it takes some `I i` straight to `J i`, then a run goes from no `I i` to `J i`
exactly when all its steps meet `P`. -/
theorem neverAfter_iff_along {ι : Type*} {I J : ι → σ → Prop}
    (hexcl : ∀ i s, I i s → ¬ J i s) (hkeep : ∀ s a, P s a → ∀ i, I i s → I i (step s a))
    (hbreak : ∀ s a, ¬ P s a → ∃ i, I i s ∧ J i (step s a)) (s : σ) (as : List α) :
    NeverAfter step I J s as ↔ Along step P s as := by
  constructor
  · intro hnever
    refine (along_iff_forall_split s as).mpr fun pre a post hsplit => ?_
    by_contra hP
    obtain ⟨i, hI, hJ⟩ := hbreak _ a hP
    refine hnever pre [a] post (by simp [hsplit]) i hI ?_
    rw [run_append]
    exact hJ
  · rintro halong pre mid post rfl i hI
    have hmid := ((along_append _ _ _).mp ((along_append _ _ _).mp halong).1).2
    rw [run_append]
    exact hexcl i _ (hmid.keeps (fun s a hP => hkeep s a hP i) hI)

/-! ## What a run emits -/

section Emitted

variable {β : Type*} {emit : σ → α → List β} {V : σ → List β} {R : β → β → Prop}

/-- What the steps of a run emit, in order. -/
def emitted (step : σ → α → σ) (emit : σ → α → List β) : σ → List α → List β
  | _, [] => []
  | s, a :: as => emit s a ++ emitted step emit (step s a) as

/-- A view that every step extends by what it emits is extended by what the run emits. -/
theorem view_run (hview : ∀ s a, V (step s a) = V s ++ emit s a) (s : σ) (as : List α) :
    V (run step s as) = V s ++ emitted step emit s as := by
  induction as generalizing s with
  | nil => simp [emitted]
  | cons a as ih => rw [run_cons, ih, hview, emitted, List.append_assoc]

lemma emitted_append (s : σ) (as bs : List α) :
    emitted step emit s (as ++ bs)
      = emitted step emit s as ++ emitted step emit (run step s as) bs := by
  induction as generalizing s with
  | nil => rfl
  | cons a as ih => rw [List.cons_append, emitted, emitted, ih, run_cons, List.append_assoc]

/-- Where a step emits one thing at most, what a run has emitted at some point is what it emits up
to some step. -/
lemma exists_run_of_emitted_eq {answer : σ → α → Option β} {s : σ} {as : List α} {xs ys : List β}
    (h : emitted step (fun s a => (answer s a).toList) s as = xs ++ ys) :
    ∃ pre post, as = pre ++ post
      ∧ emitted step (fun s a => (answer s a).toList) s pre = xs := by
  induction as generalizing s xs with
  | nil => exact ⟨[], [], rfl, (List.append_eq_nil_iff.mp h.symm).1.symm⟩
  | cons a as ih =>
      rw [emitted] at h
      cases hanswer : answer s a with
      | none =>
          rw [hanswer, Option.toList_none, List.nil_append] at h
          obtain ⟨pre, post, rfl, hpre⟩ := ih h
          refine ⟨a :: pre, post, rfl, ?_⟩
          rw [emitted, hanswer, Option.toList_none, List.nil_append, hpre]
      | some x =>
          rw [hanswer, Option.toList_some, List.singleton_append] at h
          cases xs with
          | nil => exact ⟨[], a :: as, rfl, rfl⟩
          | cons y xs =>
              obtain ⟨rfl, hrest⟩ := List.cons.inj h
              obtain ⟨pre, post, rfl, hpre⟩ := ih hrest
              refine ⟨a :: pre, post, rfl, ?_⟩
              rw [emitted, hanswer, Option.toList_some, List.singleton_append, hpre]

lemma mem_emitted {x : β} {s : σ} {as : List α} (h : x ∈ emitted step emit s as) :
    ∃ s' a, a ∈ as ∧ x ∈ emit s' a := by
  induction as generalizing s with
  | nil => cases h
  | cons a as ih =>
      rcases List.mem_append.mp h with hnow | hlater
      · exact ⟨s, a, List.mem_cons_self, hnow⟩
      · obtain ⟨s', b, hb, hx⟩ := ih hlater
        exact ⟨s', b, List.mem_cons_of_mem a hb, hx⟩

lemma mem_emitted_split {x : β} {s : σ} (pre : List α) (a : α) (post : List α)
    (h : x ∈ emit (run step s pre) a) : x ∈ emitted step emit s (pre ++ a :: post) := by
  induction pre generalizing s with
  | nil => exact List.mem_append_left _ h
  | cons b pre ih => exact List.mem_append_right _ (ih h)

/-- **What a run emits**, some step of it emits, in the state that it is taken from. -/
theorem mem_emitted_iff {x : β} {s : σ} {as : List α} :
    x ∈ emitted step emit s as
      ↔ ∃ pre a post, as = pre ++ a :: post ∧ x ∈ emit (run step s pre) a := by
  constructor
  · intro h
    induction as generalizing s with
    | nil => cases h
    | cons b as ih =>
        rcases List.mem_append.mp h with hnow | hlater
        · exact ⟨[], b, as, rfl, hnow⟩
        · obtain ⟨pre, a, post, rfl, hx⟩ := ih hlater
          exact ⟨b :: pre, a, post, rfl, hx⟩
  · rintro ⟨pre, a, post, rfl, hx⟩
    exact mem_emitted_split pre a post hx

/-- If whatever a step emits comes after everything in view, and after what it emitted itself
before, then whatever a run emits does. -/
theorem emitted_ordered (hview : ∀ s a, V (step s a) = V s ++ emit s a)
    (hafter : ∀ s a, ∀ x ∈ V s, ∀ y ∈ emit s a, R x y)
    (hemit : ∀ s a, (emit s a).Pairwise R) (s : σ) (as : List α) :
    (∀ x ∈ V s, ∀ y ∈ emitted step emit s as, R x y)
      ∧ (emitted step emit s as).Pairwise R := by
  induction as generalizing s with
  | nil => simp [emitted]
  | cons a as ih =>
      obtain ⟨hrest, hpairwise⟩ := ih (step s a)
      rw [hview] at hrest
      constructor
      · intro x hx y hy
        rcases List.mem_append.mp hy with hnow | hlater
        · exact hafter s a x hx y hnow
        · exact hrest x (List.mem_append_left _ hx) y hlater
      · refine List.pairwise_append.mpr ⟨hemit s a, hpairwise, fun x hx y hy => ?_⟩
        exact hrest x (List.mem_append_right _ hx) y hy

/-- Every entry of `xs` has an entry of `ys` of its own, and none of `ys` is left over. -/
def Matched {γ : Type*} (M : γ → β → Prop) (xs : List γ) (ys : List β) : Prop :=
  ∃ zs, zs.Perm ys ∧ List.Forall₂ M xs zs

section Matched

variable {γ : Type*} {M : γ → β → Prop} {question : σ → α → Option γ}
  {answer : σ → α → Option β} {as : List α}

lemma forall₂_toList {question : Option γ} {answer : Option β}
    (h : Option.Rel M question answer) : List.Forall₂ M question.toList answer.toList := by
  cases h with
  | none => exact .nil
  | some hM => exact .cons hM .nil

lemma exists_of_forall₂ {xs : List γ} {zs : List β} (h : List.Forall₂ M xs zs) {x : γ}
    (hx : x ∈ xs) : ∃ z ∈ zs, M x z := by
  induction h with
  | nil => cases hx
  | cons hM _ ih =>
      rcases List.mem_cons.mp hx with rfl | htail
      · exact ⟨_, List.mem_cons_self, hM⟩
      · obtain ⟨z, hz, hMz⟩ := ih htail
        exact ⟨z, List.mem_cons_of_mem _ hz, hMz⟩

lemma forall₂_emitted
    (hmatch : ∀ s, ∀ a ∈ as, P s a → Option.Rel M (question s a) (answer s a)) {s : σ}
    (h : Along step P s as) :
    List.Forall₂ M (emitted step (fun s a => (question s a).toList) s as)
      (emitted step (fun s a => (answer s a).toList) s as) := by
  induction as generalizing s with
  | nil => exact .nil
  | cons a as ih =>
      have hrest := ih (fun s b hb => hmatch s b (List.mem_cons_of_mem a hb)) h.2
      exact List.rel_append (forall₂_toList (hmatch s a List.mem_cons_self h.1)) hrest

/-- Where a step that does not meet `P` answers without a question, there are at least as many
answers as questions, and as many only if every step meets `P`. -/
lemma length_emitted_le (hmatch : ∀ s, ∀ a ∈ as, P s a → Option.Rel M (question s a) (answer s a))
    (s : σ)
    (halone : ∀ pre a post, as = pre ++ a :: post → ¬ P (run step s pre) a →
      question (run step s pre) a = none ∧ (answer (run step s pre) a).isSome = true) :
    (emitted step (fun s a => (question s a).toList) s as).length
        ≤ (emitted step (fun s a => (answer s a).toList) s as).length
      ∧ ((emitted step (fun s a => (question s a).toList) s as).length
          = (emitted step (fun s a => (answer s a).toList) s as).length → Along step P s as) := by
  induction as generalizing s with
  | nil => exact ⟨Nat.le_refl _, fun _ => trivial⟩
  | cons a as ih =>
      obtain ⟨hle, halong⟩ := ih (fun s b hb => hmatch s b (List.mem_cons_of_mem a hb))
        (step s a) fun pre b post hsplit => halone (a :: pre) b post (by rw [hsplit]; rfl)
      simp only [emitted, List.length_append]
      by_cases hP : P s a
      · have hsame := (forall₂_toList (hmatch s a List.mem_cons_self hP)).length_eq
        exact ⟨by omega, fun heq => ⟨hP, halong (by omega)⟩⟩
      · obtain ⟨hquestion, hanswer⟩ := halone [] a as rfl hP
        obtain ⟨y, hy⟩ := Option.isSome_iff_exists.mp hanswer
        simp only [run_nil] at hquestion hy
        rw [hquestion, hy]
        simp only [Option.toList_none, Option.toList_some, List.length_nil, List.length_singleton]
        exact ⟨by omega, fun heq => by omega⟩

/-- **When the answers of a run match its questions.**  If a step that meets `P` answers what it
asks, and one that does not asks what no step answers or answers what it did not ask, then questions
and answers match one to one exactly when every step meets `P`. -/
theorem matched_iff_along
    (hmatch : ∀ s, ∀ a ∈ as, P s a → Option.Rel M (question s a) (answer s a))
    (halone : ∀ s, ∀ a ∈ as, ¬ P s a →
      (∃ x, question s a = some x ∧ ∀ s' a', ∀ y ∈ answer s' a', ¬ M x y)
        ∨ (question s a = none ∧ (answer s a).isSome = true)) (s : σ) :
    Matched M (emitted step (fun s a => (question s a).toList) s as)
        (emitted step (fun s a => (answer s a).toList) s as)
      ↔ Along step P s as := by
  constructor
  · rintro ⟨zs, hperm, hforall⟩
    refine (length_emitted_le hmatch s fun pre a post hsplit hP => ?_).2
      (hforall.length_eq.trans hperm.length_eq)
    have ha : a ∈ as := by simp [hsplit]
    refine (halone _ a ha hP).resolve_left ?_
    rintro ⟨x, hx, hnone⟩
    -- the question `x` is asked in the run, so it has an answer in it
    have hasked : x ∈ emitted step (fun s a => (question s a).toList) s as := by
      rw [hsplit]
      exact mem_emitted_split pre a post (Option.mem_toList.mpr hx)
    obtain ⟨y, hy, hM⟩ := exists_of_forall₂ hforall hasked
    obtain ⟨s', a', -, hemitted⟩ := mem_emitted (hperm.mem_iff.mp hy)
    exact hnone s' a' y (Option.mem_toList.mp hemitted) hM
  · intro halong
    exact ⟨_, List.Perm.refl _, forall₂_emitted hmatch halong⟩

end Matched

end Emitted

end Runs
