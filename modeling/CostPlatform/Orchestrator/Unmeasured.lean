import CostPlatform.Orchestrator.Selection

/-!
# Unmeasured models in the selection

What is not known of a model is meant to sort last.  The sort key says so in three ways: an unknown
cost sorts behind a marker, an unknown latency is infinite, and an unknown quality counts as 0.  The
last one is also a score that a model can have.

`selectionMeasured_iff` says when the selection is what it is meant to be.  It never depends on the
order of the candidates, and under a downgrade never picks a model of unknown cost while there is a
choice; and it never prefers a model of unknown quality exactly when each of those has a measured
one ahead of it.
-/

namespace CostPlatform

namespace Collaborators

/-- What decides between candidates of one quality. -/
def tieKey (entry : ModelRegistryEntry) : (ℕ ×ₗ WithTop ℚ) ×ₗ WithTop ℚ ×ₗ String :=
  toLex (costKey entry, toLex (latencyKey entry, entry.modelName))

/-- **Selection is order-independent and never prefers an unmeasured model.** -/
structure SelectionMeasured (entries : List ModelRegistryEntry) : Prop where
  orderIndependent : ∀ (others : List ModelRegistryEntry) (preferCheapest : Bool),
    others.Perm entries → selectModel others preferCheapest = selectModel entries preferCheapest
  quality : (∃ entry ∈ entries, entry.qualityScore.isSome = true) →
    ∃ selected, selectModel entries false = some selected ∧ selected.qualityScore.isSome = true
  cost : (∃ entry ∈ entries, entry.inputCost.isSome = true) →
    ∃ selected, selectModel entries true = some selected ∧ selected.inputCost.isSome = true

/-- Wherever some quality is known, every candidate of unknown quality has one ahead of it that is
    known to be positive, or known to be 0 and better in cost, latency or name. -/
def MeasuredAhead (entries : List ModelRegistryEntry) : Prop :=
  (∃ entry ∈ entries, entry.qualityScore.isSome = true) →
    ∀ unmeasured ∈ entries, unmeasured.qualityScore = none →
      ∃ measured ∈ entries, ∃ score ∈ measured.qualityScore,
        0 < score ∨ score = 0 ∧ tieKey measured < tieKey unmeasured

variable {entries : List ModelRegistryEntry}

/-- **The order of the candidates never matters**, as long as their names differ. -/
theorem selectModel_perm (hnames : (entries.map ModelRegistryEntry.modelName).Nodup)
    {others : List ModelRegistryEntry} (hperm : others.Perm entries) (preferCheapest : Bool) :
    selectModel others preferCheapest = selectModel entries preferCheapest := by
  have hothers : (others.map ModelRegistryEntry.modelName).Nodup :=
    (hperm.map _).nodup_iff.mpr hnames
  obtain ⟨hcheapest, hbest⟩ := nodup_keys hothers
  cases preferCheapest with
  | true =>
      simp only [selectModel, if_true, Ranking.firstBy]
      rw [Ranking.sortedBy_eq_of_perm hperm hcheapest]
  | false =>
      simp only [selectModel, Bool.false_eq_true, if_false, Ranking.firstBy]
      rw [Ranking.sortedBy_eq_of_perm hperm hbest]

lemma exists_selected {preferCheapest : Bool} {entry : ModelRegistryEntry}
    (hentry : entry ∈ entries) :
    ∃ selected, selectModel entries preferCheapest = some selected := by
  refine Option.ne_none_iff_exists'.mp fun hnone => ?_
  rw [selectModel_eq_none.mp hnone] at hentry
  cases hentry

/-- **A downgrade picks a known cost wherever there is one**: the marker sorts it first. -/
theorem known_cost_selected {entry : ModelRegistryEntry} (hentry : entry ∈ entries)
    (hknown : entry.inputCost.isSome = true) :
    ∃ selected, selectModel entries true = some selected ∧ selected.inputCost.isSome = true := by
  obtain ⟨selected, hselected⟩ := @exists_selected entries true entry hentry
  refine ⟨selected, hselected, ?_⟩
  obtain ⟨cost, hcost⟩ := Option.isSome_iff_exists.mp hknown
  cases hunknown : selected.inputCost with
  | some _ => rfl
  | none =>
      have hless : cheapestKey entry < cheapestKey selected := by
        refine Prod.Lex.toLex_lt_toLex.mpr (Or.inl ?_)
        rw [costKey, costKey, hcost, hunknown]
        exact Prod.Lex.toLex_lt_toLex.mpr (Or.inl Nat.zero_lt_one)
      exact absurd (Ranking.firstBy_le hselected entry hentry) (not_le.mpr hless)

/-- A measured candidate is ahead of an unmeasured one by a positive score, or by a tie at 0. -/
lemma bestKey_lt_iff {measured unmeasured : ModelRegistryEntry} {score : ℚ}
    (hscore : measured.qualityScore = some score) (hnone : unmeasured.qualityScore = none) :
    bestKey measured < bestKey unmeasured
      ↔ 0 < score ∨ score = 0 ∧ tieKey measured < tieKey unmeasured := by
  have hmeasured : bestKey measured = toLex (-score, tieKey measured) := by
    rw [bestKey, qualityKey, hscore]
    rfl
  have hunmeasured : bestKey unmeasured = toLex (0, tieKey unmeasured) := by
    rw [bestKey, qualityKey, hnone]
    rfl
  rw [hmeasured, hunmeasured, Prod.Lex.toLex_lt_toLex]
  simp

/-- **When selection is order-independent and never prefers an unmeasured model, exactly.** -/
theorem selectionMeasured_iff (hnames : (entries.map ModelRegistryEntry.modelName).Nodup) :
    SelectionMeasured entries ↔ MeasuredAhead entries := by
  constructor
  · intro h hknown unmeasured hunmeasured hnone
    obtain ⟨selected, hselected, hsome⟩ := h.quality hknown
    obtain ⟨score, hscore⟩ := Option.isSome_iff_exists.mp hsome
    obtain ⟨hmem, hfirst⟩ := (selectModel_eq_some hnames).mp hselected
    refine ⟨selected, hmem, score, hscore, (bestKey_lt_iff hscore hnone).mp ?_⟩
    refine lt_of_le_of_ne (hfirst unmeasured hunmeasured) fun hsame => ?_
    -- one key for two candidates, of which only one is measured
    have heq := List.inj_on_of_nodup_map (nodup_keys hnames).2 hmem hunmeasured hsame
    rw [heq, hnone] at hscore
    cases hscore
  · intro h
    refine ⟨fun others preferCheapest hperm => selectModel_perm hnames hperm preferCheapest, ?_, ?_⟩
    · rintro ⟨entry, hentry, hknown⟩
      obtain ⟨selected, hselected⟩ := @exists_selected entries false entry hentry
      refine ⟨selected, hselected, ?_⟩
      obtain ⟨hmem, hfirst⟩ := (selectModel_eq_some hnames).mp hselected
      cases hnone : selected.qualityScore with
      | some _ => rfl
      | none =>
          obtain ⟨measured, hmeasured, score, hscore, hahead⟩ :=
            h ⟨entry, hentry, hknown⟩ selected hmem hnone
          exact absurd (hfirst measured hmeasured)
            (not_le.mpr ((bestKey_lt_iff hscore hnone).mpr hahead))
    · rintro ⟨entry, hentry, hknown⟩
      exact known_cost_selected hentry hknown

end Collaborators

/-- Measured, and found to be of no use. -/
def uselessModel : ModelRegistryEntry where
  id := "m1"
  modelName := "useless"
  capability := .Reasoning
  qualityScore := some 0
  inputCostNonNegative := unknown_nonneg
  outputCostNonNegative := unknown_nonneg
  maxContextTokensPositive := unknown_pos

/-- Never measured, at a known price. -/
def untriedModel : ModelRegistryEntry where
  id := "m2"
  modelName := "untried"
  capability := .Reasoning
  inputCost := some 7
  outputCostNonNegative := unknown_nonneg
  maxContextTokensPositive := unknown_pos

/-- Measured, and good. -/
def provenModel : ModelRegistryEntry where
  id := "m3"
  modelName := "proven"
  capability := .Reasoning
  qualityScore := some (3 / 4)
  inputCostNonNegative := unknown_nonneg
  outputCostNonNegative := unknown_nonneg
  maxContextTokensPositive := unknown_pos

namespace Collaborators

/-- Beside a model of known, positive quality the untried one is no danger. -/
theorem proven_selected : SelectionMeasured [provenModel, untriedModel] := by
  refine (selectionMeasured_iff (by decide)).mpr fun _ unmeasured _ _ => ?_
  exact ⟨provenModel, List.mem_cons_self, 3 / 4, rfl, Or.inl (by norm_num)⟩

/-- **The untried model is preferred to one measured at 0**, because its price is known. -/
theorem untried_selected : ¬ SelectionMeasured [untriedModel, uselessModel] := by
  intro h
  obtain ⟨selected, hselected, hsome⟩ := h.quality
    ⟨uselessModel, List.mem_cons_of_mem _ (List.mem_singleton_self _), rfl⟩
  have hfirst : bestKey untriedModel ≤ bestKey uselessModel := by decide +kernel
  have huntried : selectModel [untriedModel, uselessModel] false = some untriedModel := by
    rw [selectModel, if_neg Bool.false_ne_true, Ranking.firstBy_cons, Ranking.firstBy_cons]
    exact if_pos hfirst
  cases huntried.symm.trans hselected
  cases hsome

end Collaborators

end CostPlatform
