import CostPlatform.Guardrails.InputScan
import CostPlatform.Library.Sieve
import CostPlatform.Security.Scope
import Mathlib.Algebra.Order.BigOperators.Group.List

/-!
# The context guard

The context layer of the guardrails: of the fragments that were retrieved, those that may be sent
to the model, as many as fit.  The loop is a sieve (`foldl_filterStep`), so `filter_sound` says what
becomes of every fragment.

The ceiling is on declared sizes, and a fragment that declares none counts as empty.
`ceilingHolds_iff` says when the ceiling holds of the true sizes.
-/

namespace CostPlatform

/-! ## Fragments -/

/-- How sensitive a fragment is. -/
inductive DataClassification where
  | Public
  | Internal
  | Confidential
  | Restricted
  deriving DecidableEq, Repr

/-- One candidate piece of retrieved context. -/
structure ContextFragment where
  text : String
  /-- The owner of the source record, if it is known. -/
  scope : Option ResourceScope
  classification : DataClassification := .Internal
  trust : TrustLevel := .Untrusted
  source : Option String := none
  /-- From 0 to 1, no NaN. -/
  relevance : ℚ := 1
  estimatedTokens : Option Int := none
  deriving DecidableEq

/-- `estimated_tokens or 0`. -/
def ContextFragment.tokens (fragment : ContextFragment) : Int := fragment.estimatedTokens.getD 0

/-- What survived, and what did not. -/
structure ContextDecision where
  admitted : List ContextFragment := []
  dropped : List (ContextFragment × String) := []
  totalTokens : Int := 0
  deriving DecidableEq

/-- `counts[reason] = counts.get(reason, 0) + 1`. -/
def countReason (counts : List (String × ℕ)) (reason : String) : List (String × ℕ) :=
  if reason ∈ counts.map Prod.fst then
    counts.map fun count => if count.1 = reason then (count.1, count.2 + 1) else count
  else counts ++ [(reason, 1)]

def ContextDecision.dropReasons (decision : ContextDecision) : List (String × ℕ) :=
  (decision.dropped.map Prod.snd).foldl countReason []

/-- What the context layer raises. -/
inductive ContextViolation where
  | ContextRejected (reason : String) (dropReasons : List (String × ℕ))
  | ContextTooLarge (reason : String) (maxContextTokens assembledTokens : Int)
  deriving DecidableEq, Repr

/-! ## The guard -/

/-- The context layer, configured per workload. -/
structure ContextGuard where
  maxContextTokens : Option Int := none
  minimumRelevance : ℚ := 0
  sendable : Finset DataClassification := {.Public, .Internal}

/-- `_within_scope`: some branch of the scope asks for nothing that the owner is not. -/
def withinScope (fragmentScope : ResourceScope) (authorized : AuthorizedScope) : Bool :=
  if fragmentScope.tenantId ≠ authorized.tenantId then false
  else
    authorized.branches.any fun branch =>
      (branch.plantId = none || branch.plantId = fragmentScope.plantId)
        && (branch.departmentId = none || branch.departmentId = fragmentScope.departmentId)

namespace ContextGuard

/-- Why a fragment may not be sent, or none if it may. -/
def rejectReason (contextGuard : ContextGuard) (fragment : ContextFragment) (principal : Principal)
    (scope : Option AuthorizedScope) : Option String :=
  match fragment.scope with
  | none => some "no_owner_recorded"
  | some owner =>
      if owner.tenantId ≠ principal.tenantId then some "cross_tenant"
      else if scope.any fun authorized => !withinScope owner authorized then some "out_of_scope"
      else if fragment.classification ∉ contextGuard.sendable then
        some "classification_not_sendable"
      else if fragment.relevance < contextGuard.minimumRelevance then
        some "below_relevance_floor"
      else none

/-- One fragment more would be more than the ceiling allows. -/
def overCeiling (contextGuard : ContextGuard) (total : Int) : Bool :=
  contextGuard.maxContextTokens.any fun ceiling => ceiling < total

/-- One fragment: dropped, dropped because the budget is spent, or admitted. -/
def filterStep (contextGuard : ContextGuard) (principal : Principal)
    (scope : Option AuthorizedScope) (decision : ContextDecision) (fragment : ContextFragment) :
    ContextDecision :=
  match contextGuard.rejectReason fragment principal scope with
  | some reason => { decision with dropped := decision.dropped ++ [(fragment, reason)] }
  | none =>
      if contextGuard.overCeiling (decision.totalTokens + fragment.tokens) then
        { decision with dropped := decision.dropped ++ [(fragment, "context_budget_exhausted")] }
      else
        { decision with
          admitted := decision.admitted ++ [fragment]
          totalTokens := decision.totalTokens + fragment.tokens }

/-- What may be sent. -/
def filter (contextGuard : ContextGuard) (fragments : List ContextFragment)
    (principal : Principal) (scope : Option AuthorizedScope) : ContextDecision :=
  fragments.foldl (contextGuard.filterStep principal scope) {}

/-- Filter, then refuse outright if nothing usable survived a non-empty set. -/
def enforce (contextGuard : ContextGuard) (fragments : List ContextFragment)
    (principal : Principal) (scope : Option AuthorizedScope) :
    Except ContextViolation ContextDecision :=
  let decision := contextGuard.filter fragments principal scope
  if fragments ≠ [] ∧ decision.admitted = [] then
    .error (.ContextRejected "no_authorized_context" decision.dropReasons)
  else
    match contextGuard.maxContextTokens with
    | none => .ok decision
    | some ceiling =>
        if ceiling < decision.totalTokens then
          .error (.ContextTooLarge "context_over_limit" ceiling decision.totalTokens)
        else .ok decision

end ContextGuard

/-! ## What may be sent -/

/-- **In the scope**: of its tenant, and one of its branches demands nothing else. -/
def LiesIn (owner : ResourceScope) (authorized : AuthorizedScope) : Prop :=
  owner.tenantId = authorized.tenantId
    ∧ ∃ branch ∈ authorized.branches,
        ∀ level id, branch.demands level = some id → owner.owner level = some id

/-- **What may be sent**: a fragment of the caller's tenant, in the scope, of a classification that
    is sent and not below the floor. -/
def Admissible (contextGuard : ContextGuard) (principal : Principal)
    (scope : Option AuthorizedScope) (fragment : ContextFragment) : Prop :=
  ∃ owner, fragment.scope = some owner ∧ owner.tenantId = principal.tenantId
    ∧ (∀ authorized ∈ scope, LiesIn owner authorized)
    ∧ fragment.classification ∈ contextGuard.sendable
    ∧ contextGuard.minimumRelevance ≤ fragment.relevance

variable {contextGuard : ContextGuard} {principal : Principal} {scope : Option AuthorizedScope}
  {fragment : ContextFragment} {fragments : List ContextFragment}

/-- A branch, without its tenant, admits an owner that is what it demands. -/
lemma branch_admits_iff {branch : ScopeConstraint} {owner : ResourceScope} :
    ((branch.plantId = none || branch.plantId = owner.plantId)
        && (branch.departmentId = none || branch.departmentId = owner.departmentId)) = true
      ↔ ∀ level id, branch.demands level = some id → owner.owner level = some id := by
  have howner : ∀ level,
      ResourceScope.owner { owner with tenantId := branch.tenantId } level = owner.owner level := by
    intro level
    cases level <;> rfl
  have hcovers := @ScopeConstraint.covers_iff branch { owner with tenantId := branch.tenantId }
  simp only [howner, true_and] at hcovers
  simp only [← hcovers, ScopeConstraint.covers, decide_true, Bool.true_and,
    @eq_comm _ branch.plantId owner.plantId, @eq_comm _ branch.departmentId owner.departmentId]

lemma withinScope_iff {owner : ResourceScope} {authorized : AuthorizedScope} :
    withinScope owner authorized = true ↔ LiesIn owner authorized := by
  rw [withinScope, LiesIn]
  split_ifs with htenant
  · exact iff_of_false nofun fun h => htenant h.1
  · rw [List.any_eq_true, and_iff_right (not_not.mp htenant)]
    exact exists_congr fun branch => and_congr_right fun _ => branch_admits_iff

/-- A scope whose branches are its own covers what lies in it. -/
lemma liesIn_iff_covers {owner : ResourceScope} {authorized : AuthorizedScope}
    (hown : authorized.OwnTenant) : LiesIn owner authorized ↔ authorized.covers owner = true := by
  rw [AuthorizedScope.covers_iff, LiesIn]
  constructor
  · rintro ⟨htenant, branch, hbranch, hdemands⟩
    exact ⟨branch, hbranch, ScopeConstraint.covers_iff.mpr
      ⟨htenant.trans (hown branch hbranch).symm, hdemands⟩⟩
  · rintro ⟨branch, hbranch, hcovers⟩
    obtain ⟨htenant, hdemands⟩ := ScopeConstraint.covers_iff.mp hcovers
    exact ⟨htenant.trans (hown branch hbranch), branch, hbranch, hdemands⟩

/-- **A fragment without a reason against it may be sent.** -/
theorem rejectReason_eq_none_iff :
    contextGuard.rejectReason fragment principal scope = none
      ↔ Admissible contextGuard principal scope fragment := by
  rw [ContextGuard.rejectReason, Admissible]
  cases fragment.scope with
  | none => simp
  | some owner =>
      have hscope : (scope.any fun authorized => !withinScope owner authorized) = true
          ↔ ¬ ∀ authorized ∈ scope, LiesIn owner authorized := by
        cases scope with
        | none => simp
        | some authorized => simp [← withinScope_iff]
      simp only [Option.some.injEq, exists_eq_left']
      by_cases htenant : owner.tenantId = principal.tenantId
      swap
      · rw [if_pos htenant]
        exact iff_of_false nofun fun h => htenant h.1
      rw [if_neg (not_not.mpr htenant)]
      by_cases hlies : ∀ authorized ∈ scope, LiesIn owner authorized
      swap
      · rw [if_pos (hscope.mpr hlies)]
        exact iff_of_false nofun fun h => hlies h.2.1
      rw [if_neg (hscope.not.mpr (not_not.mpr hlies))]
      by_cases hclass : fragment.classification ∈ contextGuard.sendable
      swap
      · rw [if_pos hclass]
        exact iff_of_false nofun fun h => hclass h.2.2.1
      rw [if_neg (not_not.mpr hclass)]
      split_ifs with hfloor
      · exact iff_of_false nofun fun h => absurd h.2.2.2 (not_le.mpr hfloor)
      · exact iff_of_true rfl ⟨htenant, hlies, hclass, not_lt.mp hfloor⟩

/-- The budget is not among the reasons to reject a fragment. -/
lemma rejectReason_ne_budget :
    contextGuard.rejectReason fragment principal scope ≠ some "context_budget_exhausted" := by
  rw [ContextGuard.rejectReason]
  cases fragment.scope with
  | none => simp
  | some owner =>
      dsimp only
      split_ifs <;> simp

/-! ## The loop -/

/-- What a list of fragments declares to come to. -/
def declaredTotal (fragments : List ContextFragment) : Int :=
  (fragments.map ContextFragment.tokens).sum

lemma declaredTotal_cons (fragment : ContextFragment) (fragments : List ContextFragment) :
    declaredTotal (fragment :: fragments) = fragment.tokens + declaredTotal fragments :=
  List.sum_cons ..

/-- The reason to drop a fragment, where a total has been admitted before. -/
def verdict (contextGuard : ContextGuard) (principal : Principal) (scope : Option AuthorizedScope)
    (total : Int) (fragment : ContextFragment) : Option String :=
  (contextGuard.rejectReason fragment principal scope).orElse fun _ =>
    if contextGuard.overCeiling (total + fragment.tokens) then some "context_budget_exhausted"
    else none

def addTokens (total : Int) (fragment : ContextFragment) : Int := total + fragment.tokens

/-- The fragments with the reasons that `filter` has to drop them. -/
def marks (contextGuard : ContextGuard) (principal : Principal) (scope : Option AuthorizedScope)
    (total : Int) (fragments : List ContextFragment) : List (ContextFragment × Option String) :=
  Sieve.run (verdict contextGuard principal scope) addTokens total fragments

lemma foldl_addTokens (total : Int) :
    fragments.foldl addTokens total = total + declaredTotal fragments := by
  induction fragments generalizing total with
  | nil => exact (add_zero total).symm
  | cons fragment fragments ih =>
      rw [List.foldl_cons, ih, addTokens, declaredTotal_cons, add_assoc]

lemma verdict_eq_none_iff {total : Int} :
    verdict contextGuard principal scope total fragment = none
      ↔ contextGuard.rejectReason fragment principal scope = none
        ∧ contextGuard.overCeiling (total + fragment.tokens) = false := by
  rw [verdict]
  cases contextGuard.rejectReason fragment principal scope <;> simp

/-- Only a budget that is spent exhausts a budget. -/
lemma overCeiling_of_verdict {total : Int}
    (h : verdict contextGuard principal scope total fragment = some "context_budget_exhausted") :
    contextGuard.overCeiling (total + fragment.tokens) = true := by
  rw [verdict] at h
  cases hreason : contextGuard.rejectReason fragment principal scope with
  | some reason =>
      rw [hreason] at h
      exact absurd (hreason.trans h) rejectReason_ne_budget
  | none =>
      by_contra hover
      rw [hreason, Option.orElse_none, if_neg hover] at h
      cases h

lemma filterStep_eq (decision : ContextDecision) :
    contextGuard.filterStep principal scope decision fragment
      = match verdict contextGuard principal scope decision.totalTokens fragment with
        | some reason => { decision with dropped := decision.dropped ++ [(fragment, reason)] }
        | none =>
            { decision with
              admitted := decision.admitted ++ [fragment]
              totalTokens := addTokens decision.totalTokens fragment } := by
  rw [ContextGuard.filterStep, verdict]
  cases contextGuard.rejectReason fragment principal scope with
  | some reason => rfl
  | none =>
      cases contextGuard.overCeiling (decision.totalTokens + fragment.tokens) <;> rfl

/-- **The loop is a sieve.** -/
lemma foldl_filterStep {decision : ContextDecision}
    {sieved : List (ContextFragment × Option String)}
    (h : marks contextGuard principal scope decision.totalTokens fragments = sieved) :
    fragments.foldl (contextGuard.filterStep principal scope) decision
      = ⟨decision.admitted ++ Sieve.kept sieved, decision.dropped ++ Sieve.dropped sieved,
          decision.totalTokens + declaredTotal (Sieve.kept sieved)⟩ := by
  induction fragments generalizing decision sieved with
  | nil =>
      subst h
      simp [marks, Sieve.run, Sieve.kept, Sieve.dropped, declaredTotal]
  | cons fragment fragments ih =>
      rw [List.foldl_cons, filterStep_eq]
      cases hverdict : verdict contextGuard principal scope decision.totalTokens fragment with
      | some reason =>
          rw [marks, Sieve.run_cons_some hverdict] at h
          subst h
          rw [ih rfl, Sieve.kept_cons_some, Sieve.dropped_cons_some, List.append_assoc,
            List.singleton_append]
          rfl
      | none =>
          rw [marks, Sieve.run_cons_none hverdict] at h
          subst h
          rw [ih rfl, Sieve.kept_cons_none, Sieve.dropped_cons_none, List.append_assoc,
            List.singleton_append, declaredTotal_cons, ← add_assoc]
          rfl

lemma filter_eq {sieved : List (ContextFragment × Option String)}
    (h : marks contextGuard principal scope 0 fragments = sieved) :
    contextGuard.filter fragments principal scope
      = ⟨Sieve.kept sieved, Sieve.dropped sieved, declaredTotal (Sieve.kept sieved)⟩ := by
  rw [ContextGuard.filter, foldl_filterStep h, List.nil_append, List.nil_append, zero_add]

/-- What is admitted is in the order it came in. -/
lemma admitted_sublist :
    (contextGuard.filter fragments principal scope).admitted.Sublist fragments := by
  have hkept := Sieve.kept_sublist (marks contextGuard principal scope 0 fragments)
  rw [marks, Sieve.map_fst_run] at hkept
  rw [filter_eq rfl]
  exact hkept

lemma totalTokens_filter :
    (contextGuard.filter fragments principal scope).totalTokens
      = declaredTotal (contextGuard.filter fragments principal scope).admitted := by
  rw [filter_eq rfl]

/-- Not over the ceiling. -/
def Within (contextGuard : ContextGuard) (total : Int) : Prop :=
  ∀ ceiling ∈ contextGuard.maxContextTokens, total ≤ ceiling

lemma within_iff {total : Int} :
    Within contextGuard total ↔ contextGuard.overCeiling total = false := by
  rw [Within, ContextGuard.overCeiling, ← Bool.not_eq_true, Option.any_eq_true]
  simp

/-- What is admitted keeps the total within the ceiling. -/
lemma within_addTokens (total : Int) (fragment : ContextFragment)
    (h : verdict contextGuard principal scope total fragment = none) :
    Within contextGuard (addTokens total fragment) :=
  within_iff.mpr (verdict_eq_none_iff.mp h).2

/-- **The declared total of what is admitted is within the ceiling.** -/
theorem within_filter (hstart : Within contextGuard 0) :
    Within contextGuard (contextGuard.filter fragments principal scope).totalTokens := by
  have hend : Within contextGuard
      ((Sieve.kept (marks contextGuard principal scope 0 fragments)).foldl addTokens 0) :=
    Sieve.foldl_kept_run hstart fun total fragment _ h => within_addTokens total fragment h
  rw [foldl_addTokens, zero_add] at hend
  rw [filter_eq rfl]
  exact hend

/-- **Nothing inadmissible is admitted.** -/
theorem admissible_of_admitted
    (h : fragment ∈ (contextGuard.filter fragments principal scope).admitted) :
    Admissible contextGuard principal scope fragment := by
  rw [filter_eq rfl] at h
  obtain ⟨total, hverdict⟩ := Sieve.verdict_of_mem_kept h
  exact rejectReason_eq_none_iff.mp (verdict_eq_none_iff.mp hverdict).1

/-- With a ceiling that nothing at all is within, there is no more to refuse in the end. -/
lemma enforce_ne_tooLarge (hstart : Within contextGuard 0) (reason : String)
    (ceiling tokens : Int) :
    contextGuard.enforce fragments principal scope
      ≠ .error (.ContextTooLarge reason ceiling tokens) := by
  have hwithin := @within_filter contextGuard principal scope fragments hstart
  rw [ContextGuard.enforce]
  split_ifs with hrejected
  · nofun
  · cases hmax : contextGuard.maxContextTokens with
    | none => nofun
    | some bound =>
        dsimp only
        rw [if_neg (not_lt.mpr (hwithin bound hmax))]
        nofun

/-- **Filtering is sound, conservative and lossless.**  The fragments are split in their order; what
    is admitted may be sent, and its total is within the ceiling; only what would not have fit when
    it came is dropped for the budget; and there is never too much left to refuse. -/
theorem filter_sound (contextGuard : ContextGuard) (fragments : List ContextFragment)
    (principal : Principal) (scope : Option AuthorizedScope)
    (hceiling : ∀ ceiling ∈ contextGuard.maxContextTokens, 0 ≤ ceiling) :
    let decision := contextGuard.filter fragments principal scope
    (∃ marks : List (ContextFragment × Option String), marks.map Prod.fst = fragments
        ∧ Sieve.kept marks = decision.admitted ∧ Sieve.dropped marks = decision.dropped
        ∧ ∀ before fragment after,
          marks = before ++ (fragment, some "context_budget_exhausted") :: after →
            ∃ ceiling ∈ contextGuard.maxContextTokens,
              ceiling < declaredTotal (Sieve.kept before) + fragment.tokens)
      ∧ (decision.admitted ++ decision.dropped.map Prod.fst).Perm fragments
      ∧ decision.admitted.Sublist fragments ∧ (decision.dropped.map Prod.fst).Sublist fragments
      ∧ (∀ fragment ∈ decision.admitted, Admissible contextGuard principal scope fragment)
      ∧ decision.totalTokens = declaredTotal decision.admitted
      ∧ (∀ ceiling ∈ contextGuard.maxContextTokens, decision.totalTokens ≤ ceiling)
      ∧ ∀ reason ceiling tokens, contextGuard.enforce fragments principal scope
          ≠ .error (.ContextTooLarge reason ceiling tokens) := by
  intro decision
  have hall : (marks contextGuard principal scope 0 fragments).map Prod.fst = fragments :=
    Sieve.map_fst_run
  have hdecision : decision = ⟨Sieve.kept (marks contextGuard principal scope 0 fragments),
      Sieve.dropped (marks contextGuard principal scope 0 fragments), _⟩ := filter_eq rfl
  refine ⟨⟨marks contextGuard principal scope 0 fragments, hall, ?_, ?_, ?_⟩, ?_, admitted_sublist,
    ?_, fun fragment => admissible_of_admitted, totalTokens_filter, within_filter hceiling,
    enforce_ne_tooLarge hceiling⟩
  · rw [hdecision]
  · rw [hdecision]
  · intro before fragment after hmarks
    have hverdict := Sieve.verdict_of_run hmarks
    rw [foldl_addTokens, zero_add] at hverdict
    have hover := overCeiling_of_verdict hverdict
    rw [ContextGuard.overCeiling, Option.any_eq_true] at hover
    simpa using hover
  · rw [hdecision]
    exact (Sieve.kept_append_dropped_perm _).trans (List.Perm.of_eq hall)
  · have hdropped := Sieve.dropped_sublist (marks contextGuard principal scope 0 fragments)
    rw [hall] at hdropped
    rw [hdecision]
    exact hdropped

/-- A fragment of the first tenant, of ten tokens. -/
def tenTokens : ContextFragment where
  text := "The pump was serviced."
  scope := some ⟨"tenant-a", none, none⟩
  estimatedTokens := some 10

/-- **Of three times ten tokens, twice ten fit into 25.** -/
theorem thirdFragment_dropped :
    let decision := ContextGuard.filter { maxContextTokens := some 25 }
      [tenTokens, tenTokens, tenTokens] ⟨"ana", "tenant-a", []⟩ none
    decision = ⟨[tenTokens, tenTokens], [(tenTokens, "context_budget_exhausted")], 20⟩
      ∧ ∀ ceiling ∈ some 25, decision.totalTokens ≤ ceiling := by
  refine ⟨by decide +kernel, ?_⟩
  obtain ⟨-, -, -, -, -, -, hwithin, -⟩ := filter_sound { maxContextTokens := some 25 }
    [tenTokens, tenTokens, tenTokens] ⟨"ana", "tenant-a", []⟩ none (by decide)
  exact hwithin

/-! ## Unknown sizes -/

/-- Sizes that fragments can really have, where they are declared. -/
def Agrees (size : ContextFragment → ℕ) (fragments : List ContextFragment) : Prop :=
  ∀ fragment ∈ fragments, ∀ tokens ∈ fragment.estimatedTokens, (size fragment : Int) = tokens

/-- **The ceiling holds**: whatever the fragments really come to, what is admitted is within it. -/
def CeilingHolds (contextGuard : ContextGuard) (fragments : List ContextFragment)
    (principal : Principal) (scope : Option AuthorizedScope) : Prop :=
  ∀ size, Agrees size fragments → ∀ ceiling ∈ contextGuard.maxContextTokens,
    (((contextGuard.filter fragments principal scope).admitted.map size).sum : Int) ≤ ceiling

/-- There is room for nothing at all, and no fragment that may be sent is of unknown size. -/
def SizesKnown (contextGuard : ContextGuard) (fragments : List ContextFragment)
    (principal : Principal) (scope : Option AuthorizedScope) : Prop :=
  ∀ ceiling ∈ contextGuard.maxContextTokens, 0 ≤ ceiling
    ∧ ∀ fragment ∈ fragments, fragment.estimatedTokens = none →
        contextGuard.rejectReason fragment principal scope ≠ none

/-- Where all sizes are declared, the declared total is the true one. -/
lemma sum_size_eq {size : ContextFragment → ℕ} (hagrees : Agrees size fragments)
    (hknown : ∀ fragment ∈ fragments, fragment.estimatedTokens ≠ none) :
    (((fragments.map size).sum : ℕ) : Int) = declaredTotal fragments := by
  induction fragments with
  | nil => rfl
  | cons fragment fragments ih =>
      obtain ⟨hfragment, hagrees⟩ := List.forall_mem_cons.mp hagrees
      obtain ⟨hdeclared, hknown⟩ := List.forall_mem_cons.mp hknown
      obtain ⟨tokens, htokens⟩ := Option.ne_none_iff_exists'.mp hdeclared
      have hsize : (size fragment : Int) = fragment.tokens := by
        rw [hfragment tokens htokens, ContextFragment.tokens, htokens, Option.getD_some]
      rw [List.map_cons, List.sum_cons, Nat.cast_add, ih hagrees hknown, hsize,
        declaredTotal_cons]

/-- A fragment that counts as empty always fits. -/
lemma admitted_of_unknown (hstart : Within contextGuard 0) (hfragment : fragment ∈ fragments)
    (hunknown : fragment.estimatedTokens = none)
    (hpasses : contextGuard.rejectReason fragment principal scope = none) :
    fragment ∈ (contextGuard.filter fragments principal scope).admitted := by
  rw [filter_eq rfl]
  refine Sieve.mem_kept_run hstart (fun total fragment _ h => within_addTokens total fragment h)
    hfragment fun total hwithin => verdict_eq_none_iff.mpr ⟨hpasses, ?_⟩
  rw [ContextFragment.tokens, hunknown, Option.getD_none, add_zero]
  exact within_iff.mp hwithin

/-- Declared sizes, and the same guess for every unknown one. -/
def guess (unknown : ℕ) (fragment : ContextFragment) : ℕ :=
  match fragment.estimatedTokens with
  | none => unknown
  | some tokens => tokens.toNat

lemma agrees_guess (unknown : ℕ)
    (hcounts : ∀ fragment ∈ fragments, ∀ tokens ∈ fragment.estimatedTokens, 0 ≤ tokens) :
    Agrees (guess unknown) fragments := by
  intro fragment hfragment tokens htokens
  have hdeclared : fragment.estimatedTokens = some tokens := htokens
  rw [guess, hdeclared]
  exact Int.toNat_of_nonneg (hcounts fragment hfragment tokens htokens)

/-- **The ceiling holds exactly when nothing of unknown size may be sent**: to a fragment without a
    declared size it does not apply. -/
theorem ceilingHolds_iff (contextGuard : ContextGuard) (fragments : List ContextFragment)
    (principal : Principal) (scope : Option AuthorizedScope) :
    CeilingHolds contextGuard fragments principal scope
      ↔ ((∀ fragment ∈ fragments, ∀ tokens ∈ fragment.estimatedTokens, 0 ≤ tokens) →
          SizesKnown contextGuard fragments principal scope) := by
  constructor
  · intro hholds hcounts ceiling hceiling
    have hstart : 0 ≤ ceiling :=
      (Int.natCast_nonneg _).trans (hholds (guess 0) (agrees_guess 0 hcounts) ceiling hceiling)
    refine ⟨hstart, fun fragment hfragment hunknown hpasses => ?_⟩
    have hwithin : Within contextGuard 0 := fun bound hbound => by
      rw [Option.mem_unique hbound hceiling]
      exact hstart
    have hadmitted := admitted_of_unknown hwithin hfragment hunknown hpasses
    -- let it be larger than the ceiling
    have htotal := hholds (guess (ceiling.toNat + 1)) (agrees_guess _ hcounts) ceiling hceiling
    have hsize : guess (ceiling.toNat + 1) fragment = ceiling.toNat + 1 := by rw [guess, hunknown]
    have hle := List.single_le_sum (fun _ _ => Nat.zero_le _) _
      (List.mem_map_of_mem (f := guess (ceiling.toNat + 1)) hadmitted)
    rw [hsize] at hle
    omega
  · intro hknown size hagrees ceiling hceiling
    have hcounts : ∀ fragment ∈ fragments, ∀ tokens ∈ fragment.estimatedTokens, 0 ≤ tokens := by
      intro fragment hfragment tokens htokens
      rw [← hagrees fragment hfragment tokens htokens]
      exact Int.natCast_nonneg _
    have hstart : Within contextGuard 0 := fun bound hbound => (hknown hcounts bound hbound).1
    have hadmitted : ∀ fragment ∈ (contextGuard.filter fragments principal scope).admitted,
        fragment ∈ fragments ∧ fragment.estimatedTokens ≠ none := by
      intro fragment hfragment
      have hmem := admitted_sublist.subset hfragment
      refine ⟨hmem, fun hunknown => (hknown hcounts ceiling hceiling).2 fragment hmem hunknown ?_⟩
      exact rejectReason_eq_none_iff.mpr (admissible_of_admitted hfragment)
    rw [sum_size_eq (fun fragment h => hagrees fragment (hadmitted fragment h).1)
      fun fragment h => (hadmitted fragment h).2, ← totalTokens_filter]
    exact within_filter hstart ceiling hceiling

/-- A fragment that does not say how large it is. -/
def unsizedFragment : ContextFragment where
  text := "The whole maintenance archive."
  scope := some ⟨"tenant-a", none, none⟩

/-- **What is of unknown size is admitted under any ceiling.** -/
theorem unsized_is_admitted :
    (ContextGuard.filter { maxContextTokens := some 25 } [unsizedFragment]
        ⟨"ana", "tenant-a", []⟩ none).admitted = [unsizedFragment]
      ∧ ¬ CeilingHolds { maxContextTokens := some 25 } [unsizedFragment] ⟨"ana", "tenant-a", []⟩
        none := by
  have hadmitted : (ContextGuard.filter { maxContextTokens := some 25 } [unsizedFragment]
      ⟨"ana", "tenant-a", []⟩ none).admitted = [unsizedFragment] := by decide +kernel
  refine ⟨hadmitted, fun hholds => ?_⟩
  have hagrees : Agrees (fun _ => 1000000) [unsizedFragment] := by
    rw [Agrees, List.forall_mem_singleton]
    nofun
  have htotal := hholds (fun _ => 1000000) hagrees 25 rfl
  rw [hadmitted] at htotal
  exact absurd htotal (by decide)

end CostPlatform
