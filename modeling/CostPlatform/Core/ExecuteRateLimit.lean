import CostPlatform.Core.RateLimit
import CostPlatform.Orchestrator.ExecuteEndpoint

/-!
# Whose allowance a request spends

`POST /ai/execute` limits a caller by a key of its tenant and its subject, joined by colons.  The
limiter keeps the keys apart, so what is left to ask is whether the keys keep the callers apart:
`unaffected_iff` says that they do unless one tenant goes on, after a colon, where the subject of
the other caller begins.
-/

namespace CostPlatform

/-- Build a limiter key. -/
def rateLimitKey (tenantId subject : Option String) (route : String) : String :=
  (PyString.truthy tenantId).getD "anonymous" ++ ":"
    ++ (PyString.truthy subject).getD "anonymous" ++ ":" ++ route

structure RateLimitSettings where
  rateLimitEnabled : Bool
  aiExecuteRateLimit : RateLimitPolicy

inductive ExecuteRefusal where
  | ForbiddenError
  | RateLimitedError (retryAfterSeconds : Option Binary64)
  deriving DecidableEq, Repr

structure ExecuteCall where
  now : Binary64
  principal : Principal
  deriving DecidableEq, Repr

def executeKey (principal : Principal) : String :=
  rateLimitKey (some principal.tenantId) (some principal.subject) "/ai/execute"

/-- The key is the one the route asks the limiter for. -/
lemma rateLimitKey_eq_executeKey (principal : Principal) :
    ExecuteRoute.rateLimitKey principal = executeKey principal := by
  rw [ExecuteRoute.rateLimitKey, executeKey, rateLimitKey, @String.append_assoc _ ":" "/ai/execute"]
  rfl

/-- The permission guard, and the rate limit after it. -/
def enforceExecuteRateLimit (settings : RateLimitSettings) (limiter : InMemoryRateLimiter)
    (now : Binary64) (principal : Principal) : Except ExecuteRefusal Unit × InMemoryRateLimiter :=
  if hasPermission principal .AiExecute = true then
    if settings.rateLimitEnabled then
      let checked := limiter.check settings.aiExecuteRateLimit now (executeKey principal)
      (if checked.1.allowed then .ok ()
        else .error (.RateLimitedError checked.1.retryAfterSeconds), checked.2)
    else (.ok (), limiter)
  else (.error .ForbiddenError, limiter)

namespace RateLimitSettings

variable (settings : RateLimitSettings)

def step (limiter : InMemoryRateLimiter) (call : ExecuteCall) : InMemoryRateLimiter :=
  (enforceExecuteRateLimit settings limiter call.now call.principal).2

/-- The limiter after a sequence of execute requests. -/
abbrev after (calls : List ExecuteCall) : InMemoryRateLimiter :=
  Runs.run settings.step .fresh calls

/-- A call that the limiter is asked about, under a key. -/
def Counts (key : String) (call : ExecuteCall) : Prop :=
  settings.rateLimitEnabled = true ∧ hasPermission call.principal .AiExecute = true
    ∧ executeKey call.principal = key

instance (key : String) : DecidablePred (settings.Counts key) :=
  fun _ => inferInstanceAs (Decidable (_ ∧ _ ∧ _))

/-- **A caller is not affected** by another: whatever is requested by whom, the answer to it is the
    one it would get without the requests of the other. -/
def Unaffected (other principal : Principal) : Prop :=
  ∀ (calls : List ExecuteCall) (now : Binary64),
    (calls.map ExecuteCall.now ++ [now]).Pairwise (· ≤ ·) →
    (enforceExecuteRateLimit settings (settings.after calls) now principal).1
      = (enforceExecuteRateLimit settings
          (settings.after (calls.filter fun call => call.principal ≠ other)) now principal).1

/-! ## What a key has spent -/

lemma step_hits (limiter : InMemoryRateLimiter) (call : ExecuteCall) (key : String) :
    (settings.step limiter call).hits key
      = if settings.Counts key call then
          SlidingWindow.offer settings.aiExecuteRateLimit.maxRequests
            (InMemoryRateLimiter.cutoff settings.aiExecuteRateLimit) (limiter.hits key) call.now
        else limiter.hits key := by
  rw [step, enforceExecuteRateLimit]
  by_cases hpermitted : hasPermission call.principal .AiExecute = true
  · by_cases henabled : settings.rateLimitEnabled = true
    · rw [if_pos hpermitted, if_pos henabled, InMemoryRateLimiter.check_hits]
      by_cases hkey : executeKey call.principal = key
      · rw [if_pos ⟨henabled, hpermitted, hkey⟩, hkey, Function.update_self]
      · rw [if_neg fun h => hkey h.2.2, Function.update_of_ne (Ne.symm hkey)]
    · rw [if_pos hpermitted, if_neg henabled, if_neg fun h => henabled h.1]
  · rw [if_neg hpermitted, if_neg fun h => hpermitted h.2.1]

/-- The hits of a key are those of the calls that count for it. -/
lemma run_hits (limiter : InMemoryRateLimiter) (key : String) (calls : List ExecuteCall) :
    (Runs.run settings.step limiter calls).hits key
      = Runs.run (SlidingWindow.offer settings.aiExecuteRateLimit.maxRequests
          (InMemoryRateLimiter.cutoff settings.aiExecuteRateLimit)) (limiter.hits key)
          ((calls.filter (settings.Counts key)).map ExecuteCall.now) :=
  @Runs.run_part _ _ _ _ _ (fun limiter => limiter.hits key) _ (settings.Counts key) _
    ExecuteCall.now (fun limiter call => settings.step_hits limiter call key) limiter calls

/-- An answer depends on the hits of the caller's own key. -/
lemma enforce_congr {limiter other : InMemoryRateLimiter} {now : Binary64} {principal : Principal}
    (h : limiter.hits (executeKey principal) = other.hits (executeKey principal)) :
    (enforceExecuteRateLimit settings limiter now principal).1
      = (enforceExecuteRateLimit settings other now principal).1 := by
  simp only [enforceExecuteRateLimit, InMemoryRateLimiter.check_congr _ _ h]
  split_ifs <;> rfl

/-- The calls that count for a key are there with or without those of a caller that has none. -/
lemma filter_counts_of_ne {key : String} {other : Principal}
    (h : ¬ (settings.rateLimitEnabled = true ∧ hasPermission other .AiExecute = true
      ∧ executeKey other = key)) (calls : List ExecuteCall) :
    (calls.filter fun call => call.principal ≠ other).filter (settings.Counts key)
      = calls.filter (settings.Counts key) := by
  rw [List.filter_filter]
  refine List.filter_congr fun call _ => ?_
  by_cases hcounts : settings.Counts key call
  · have hne : call.principal ≠ other := fun heq => h (heq ▸ hcounts)
    simp [hcounts, hne]
  · simp [hcounts]

/-- A permitted caller is let through where the limiter allows its key. -/
lemma enforce_eq_ok_iff (henabled : settings.rateLimitEnabled = true) {principal : Principal}
    (hprincipal : hasPermission principal .AiExecute = true) (limiter : InMemoryRateLimiter)
    (now : Binary64) :
    (enforceExecuteRateLimit settings limiter now principal).1 = .ok ()
      ↔ (limiter.check settings.aiExecuteRateLimit now (executeKey principal)).1.allowed
        = true := by
  simp only [enforceExecuteRateLimit, if_pos hprincipal, if_pos henabled]
  split_ifs with hallowed
  · exact iff_of_true rfl hallowed
  · exact iff_of_false nofun hallowed

/-- Requests at the start of the clock, as many as the policy allows, use a key up. -/
lemma enforce_after_replicate (henabled : settings.rateLimitEnabled = true)
    {other principal : Principal} (hother : hasPermission other .AiExecute = true)
    (hprincipal : hasPermission principal .AiExecute = true)
    (hkey : executeKey other = executeKey principal) {n : Nat}
    (hn : n ≤ settings.aiExecuteRateLimit.maxRequests) :
    (enforceExecuteRateLimit settings
        (settings.after (List.replicate n ⟨0, other⟩)) 0 principal).1 = .ok ()
      ↔ n < settings.aiExecuteRateLimit.maxRequests := by
  have hcounts : settings.Counts (executeKey principal) ⟨0, other⟩ := ⟨henabled, hother, hkey⟩
  have hcutoff : InMemoryRateLimiter.cutoff settings.aiExecuteRateLimit 0 < 0 :=
    Binary64.zero_sub_lt settings.aiExecuteRateLimit.windowSeconds_pos
  have hhits : (settings.after (List.replicate n ⟨0, other⟩)).hits (executeKey principal)
      = List.replicate n 0 := by
    rw [run_hits, List.filter_replicate, if_pos (decide_eq_true hcounts), List.map_replicate]
    exact SlidingWindow.run_replicate hcutoff hn
  rw [settings.enforce_eq_ok_iff henabled hprincipal, InMemoryRateLimiter.check_allowed, hhits,
    SlidingWindow.admits, SlidingWindow.current_replicate hcutoff, List.length_replicate,
    decide_eq_true_eq]

/-- **Callers affect each other exactly through a key they share.** -/
theorem unaffected_iff_key {other principal : Principal} :
    settings.Unaffected other principal
      ↔ ¬ (settings.rateLimitEnabled = true ∧ hasPermission other .AiExecute = true
        ∧ hasPermission principal .AiExecute = true ∧ executeKey other = executeKey principal) := by
  constructor
  · rintro hunaffected ⟨henabled, hother, hprincipal, hkey⟩
    have hordered : ((List.replicate settings.aiExecuteRateLimit.maxRequests
        (⟨0, other⟩ : ExecuteCall)).map ExecuteCall.now ++ [0]).Pairwise (· ≤ ·) := by
      rw [List.map_replicate, ← List.replicate_succ']
      exact List.pairwise_replicate.mpr (Or.inr le_rfl)
    have hspent := hunaffected _ 0 hordered
    have hnone : (List.replicate settings.aiExecuteRateLimit.maxRequests
        (⟨0, other⟩ : ExecuteCall)).filter (fun call => call.principal ≠ other)
          = List.replicate 0 ⟨0, other⟩ := by
      simp
    have hfresh := (settings.enforce_after_replicate henabled hother hprincipal hkey
      (Nat.zero_le _)).mpr settings.aiExecuteRateLimit.maxRequests_pos
    rw [hnone, hfresh, settings.enforce_after_replicate henabled hother hprincipal hkey le_rfl]
      at hspent
    exact lt_irrefl _ hspent
  · intro hnot calls now _
    by_cases hprincipal : hasPermission principal .AiExecute = true
    · refine settings.enforce_congr ?_
      rw [run_hits, run_hits, filter_counts_of_ne settings fun h =>
        hnot ⟨h.1, h.2.1, hprincipal, h.2.2⟩]
    · simp only [enforceExecuteRateLimit, if_neg hprincipal]

end RateLimitSettings

/-! ## When two callers share a key -/

/-- Joined texts are equal where the parts are, or where one break lies within a part of the
    other. -/
lemma joined_eq_iff {a b c d : List Char} {colon : Char} :
    a ++ colon :: b = c ++ colon :: d
      ↔ (a = c ∧ b = d) ∨ (∃ x, c = a ++ colon :: x ∧ b = x ++ colon :: d)
        ∨ ∃ x, a = c ++ colon :: x ∧ d = x ++ colon :: b := by
  constructor
  · intro h
    rcases List.append_eq_append_iff.mp h with ⟨x, hc, hb⟩ | ⟨x, ha, hd⟩
    · cases x with
      | nil =>
          rw [List.append_nil] at hc
          exact .inl ⟨hc.symm, (List.cons.inj hb).2⟩
      | cons first x =>
          obtain ⟨rfl, hrest⟩ := List.cons.inj hb
          exact .inr (.inl ⟨x, hc, hrest⟩)
    · cases x with
      | nil =>
          rw [List.append_nil] at ha
          exact .inl ⟨ha, (List.cons.inj hd).2.symm⟩
      | cons first x =>
          obtain ⟨rfl, hrest⟩ := List.cons.inj hd
          exact .inr (.inr ⟨x, ha, hrest⟩)
  · rintro (⟨rfl, rfl⟩ | ⟨x, rfl, rfl⟩ | ⟨x, rfl, rfl⟩)
    · rfl
    · simp
    · simp

/-- One tenant goes on, after a colon, where the subject of the other caller begins. -/
def Straddles (principal other : Principal) : Prop :=
  ∃ shared, other.tenantId = principal.tenantId ++ ":" ++ shared
    ∧ principal.subject = shared ++ ":" ++ other.subject

lemma straddles_iff {principal other : Principal} :
    Straddles principal other
      ↔ ∃ x, other.tenantId.toList = principal.tenantId.toList ++ ':' :: x
        ∧ principal.subject.toList = x ++ ':' :: other.subject.toList := by
  constructor
  · rintro ⟨shared, htenant, hsubject⟩
    exact ⟨shared.toList, by simp [htenant], by simp [hsubject]⟩
  · rintro ⟨x, htenant, hsubject⟩
    refine ⟨String.ofList x, ?_, ?_⟩
    · exact String.toList_inj.mp (by simp [htenant])
    · exact String.toList_inj.mp (by simp [hsubject])

/-- Callers of one tenant are not confused. -/
lemma not_straddles_of_tenant_eq {principal other : Principal}
    (h : other.tenantId = principal.tenantId) : ¬ Straddles principal other := by
  rw [straddles_iff]
  rintro ⟨x, htenant, -⟩
  have hlength := congrArg List.length htenant
  rw [h, List.length_append, List.length_cons] at hlength
  omega

lemma executeKey_toList {principal : Principal} (htenant : principal.tenantId ≠ "")
    (hsubject : principal.subject ≠ "") :
    (executeKey principal).toList
      = principal.tenantId.toList ++ ':' :: principal.subject.toList ++ ":/ai/execute".toList := by
  have htruthy : ∀ s, s ≠ "" → PyString.truthy (some s) = some s := fun s hs =>
    PyString.truthy_eq_some.mpr ⟨rfl, hs⟩
  simp [executeKey, rateLimitKey, htruthy _ htenant, htruthy _ hsubject]

/-- **Two callers have one key** when they are one, or when a tenant straddles the colon. -/
theorem executeKey_eq_iff {principal other : Principal} (htenant : principal.tenantId ≠ "")
    (hsubject : principal.subject ≠ "") (htenant' : other.tenantId ≠ "")
    (hsubject' : other.subject ≠ "") :
    executeKey principal = executeKey other
      ↔ (principal.tenantId = other.tenantId ∧ principal.subject = other.subject)
        ∨ Straddles principal other ∨ Straddles other principal := by
  rw [← String.toList_inj, executeKey_toList htenant hsubject, executeKey_toList htenant' hsubject',
    List.append_cancel_right_eq, joined_eq_iff, straddles_iff, straddles_iff, String.toList_inj,
    String.toList_inj]

/-- **Callers cannot spend each other's rate limit exactly when their keys cannot be confused**: the
    limit is off, one of them may not execute at all, or no tenant straddles the colon. -/
theorem unaffected_iff (settings : RateLimitSettings) (other principal : Principal)
    (htenant : other.tenantId ≠ "") (hsubject : other.subject ≠ "")
    (htenant' : principal.tenantId ≠ "") (hsubject' : principal.subject ≠ "")
    (hdiffer : other.tenantId ≠ principal.tenantId ∨ other.subject ≠ principal.subject) :
    settings.Unaffected other principal
      ↔ settings.rateLimitEnabled = false ∨ hasPermission other .AiExecute = false
        ∨ hasPermission principal .AiExecute = false
        ∨ ¬ Straddles other principal ∧ ¬ Straddles principal other := by
  have hsame : ¬ (other.tenantId = principal.tenantId ∧ other.subject = principal.subject) := by
    rintro ⟨htenants, hsubjects⟩
    exact hdiffer.elim (fun h => h htenants) fun h => h hsubjects
  rw [RateLimitSettings.unaffected_iff_key, executeKey_eq_iff htenant hsubject htenant' hsubject',
    or_iff_right hsame, not_and_or, not_and_or, not_and_or, not_or, Bool.not_eq_true,
    Bool.not_eq_true, Bool.not_eq_true]

/-- A caller that may execute anywhere in its tenant. -/
def executor (tenantId subject : String) : Principal where
  subject := subject
  tenantId := tenantId
  assignments := [⟨.AiEngineer, .Tenant, tenantId⟩]

def oneEachTenSeconds : RateLimitSettings where
  rateLimitEnabled := true
  aiExecuteRateLimit := InMemoryRateLimiter.oncePerTenSeconds

/-- Two subjects of one tenant are kept apart. -/
theorem subjects_unaffected :
    oneEachTenSeconds.Unaffected (executor "acme" "ann") (executor "acme" "bob") :=
  (unaffected_iff oneEachTenSeconds (executor "acme" "ann") (executor "acme" "bob") (by decide)
    (by decide) (by decide) (by decide) (.inr (by decide))).mpr
    (.inr (.inr (.inr ⟨not_straddles_of_tenant_eq rfl, not_straddles_of_tenant_eq rfl⟩)))

/-- `acme` with the subject `eu:ann` spends the allowance of `acme:eu` with the subject `ann`. -/
theorem colon_spends_allowance :
    executor "acme" "eu:ann" ≠ executor "acme:eu" "ann"
      ∧ ¬ oneEachTenSeconds.Unaffected (executor "acme" "eu:ann") (executor "acme:eu" "ann") := by
  refine ⟨by decide, fun h => ?_⟩
  exact oneEachTenSeconds.unaffected_iff_key.mp h
    ⟨rfl, by decide +kernel, by decide +kernel, by decide +kernel⟩

end CostPlatform
