import CostPlatform.Guardrails.InputScan
import CostPlatform.Guardrails.OutputPatterns
import CostPlatform.Library.PyFloat
import CostPlatform.Library.Traced
import CostPlatform.Orchestrator.QualityCheck
import Mathlib.Data.Finset.Sort

/-!
# The output guard

The output layer of the guardrails: what a model wrote is searched for credentials and for what
could be executed.  A text is searched as it is, a structured result as `json.dumps` writes it.

The two do not see the same.  In quotes and with its escapes a text no longer starts anything, and a
line that ends runs into the next one.  `scannedAsText_iff` says which objects are searched as
strictly as their texts, and `checkText_of_quoted` which texts quoting does not change.
-/

namespace CostPlatform

open PyJson

/-- The parts of the interpreter that the guard relies on. -/
structure OutputRuntime extends Runtime where
  /-- `str.isalnum` on a character beyond ASCII. -/
  alnumBeyondAscii : Char → Bool
  /-- `json.dumps(value, default=str)`, or the exception it raises. -/
  dumps : Json → Except String String
  dumps_eq : ∀ value text, dumps value = .ok text → text = written ((jsonForm false).pieces value)
  /-- The printed form of a float. -/
  printFloat : PyFloat → String

/-! ## Refusals and security events -/

/-- What the output layer raises. -/
inductive OutputViolation where
  | OutputRejected (message reason : String) (details : List (String × Json))
  | SensitiveOutputBlocked (reason : String) (details : List (String × Json))
  | UnsafeActionBlocked (message reason : String) (details : List (String × Json))

namespace OutputViolation

def statusCode : OutputViolation → Nat := fun _ => 502

def code : OutputViolation → String
  | .OutputRejected _ _ _ => "output_rejected"
  | .SensitiveOutputBlocked _ _ => "sensitive_output_blocked"
  | .UnsafeActionBlocked _ _ _ => "unsafe_action_blocked"

def message : OutputViolation → String
  | .OutputRejected message _ _ => message
  | .SensitiveOutputBlocked _ _ =>
      "Model output was withheld because it contained sensitive data"
  | .UnsafeActionBlocked message _ _ => message

def reason : OutputViolation → String
  | .OutputRejected _ reason _ => reason
  | .SensitiveOutputBlocked reason _ => reason
  | .UnsafeActionBlocked _ reason _ => reason

/-- Value for `usage_events.guardrail_decision`. -/
def decision (violation : OutputViolation) : String := "OUTPUT:" ++ violation.reason

end OutputViolation

/-- The message of a refusal that brings none of its own. -/
def unsafeActionMessage : String := "Model output requested an action that is not permitted"

/-- How a check fails: with a refusal, or with an exception of another kind. -/
inductive OutputFailure where
  | Violation (violation : OutputViolation)
  | Raised (exception : String)

/-- The security events that the output layer records. -/
inductive OutputEvent where
  | SensitiveOutputBlocked (reason : String) (patterns : List String)
  | ExecutableRejected (reason : String) (patterns : List String)
  | ActionRejected (reason requestedAction : String)
  deriving DecidableEq, Repr

def OutputEvent.value : OutputEvent → String
  | .SensitiveOutputBlocked _ _ => "security.sensitive_output_blocked"
  | .ExecutableRejected _ _ => "security.guardrail_rejected"
  | .ActionRejected _ _ => "security.guardrail_rejected"

/-! ## Free text -/

/-- The names of the patterns that are found in a text. -/
def matching (patterns : List (String × Regex)) (content : String) : List String :=
  (patterns.filter fun pattern => pattern.2.search content).map Prod.fst

def patternDetails (names : List String) : List (String × Json) :=
  [("patterns", .Items (names.map .Text))]

/-- Refuse what carries a credential, and then what could be executed. -/
def checkText (runtime : OutputRuntime) (content : String) :
    Traced OutputEvent OutputFailure Unit := do
  let secrets := matching (secretPatterns runtime.alnumBeyondAscii) content
  .require (secrets = [])
    (.perform (.SensitiveOutputBlocked "credential_in_output" (sortedSet secrets))
      (.error (.Violation (.SensitiveOutputBlocked "credential_in_output"
        (patternDetails (sortedSet secrets))))))
  let executable := matching (unsafePatterns runtime.alnumBeyondAscii) content
  .require (executable = [])
    (.perform (.ExecutableRejected "executable_content_in_output" (sortedSet executable))
      (.error (.Violation (.UnsafeActionBlocked unsafeActionMessage
        "executable_content_in_output" (patternDetails (sortedSet executable))))))

/-- Whether a text carries anything shaped like a credential. -/
def containsSecret (runtime : OutputRuntime) (text : String) : Bool :=
  (secretPatterns runtime.alnumBeyondAscii).any fun pattern => pattern.2.search text

/-! ## Structured results -/

/-- The output layer, configured per workload. -/
structure OutputGuard where
  /-- Actions the workload may request.  It may request none where there are none. -/
  allowedActions : Finset String := ∅
  /-- Fields a structured response must contain. -/
  requiredFields : Finset String := ∅
  /-- What a confidence must reach, where the model reports one. -/
  minimumConfidence : Option PyFloat := none

def rejectOutput {α : Type} (message reason : String) (details : List (String × Json)) :
    Traced OutputEvent OutputFailure α :=
  .raise (.Violation (.OutputRejected message reason details))

/-- `json.loads` on a text, and another payload as it is. -/
def decodePayload (runtime : OutputRuntime) : Json → Traced OutputEvent OutputFailure Json
  | .Text text =>
      match runtime.jsonLoads text with
      | .ok payload => pure payload
      | .error .JSONDecodeError => rejectOutput "Model output was not valid JSON" "invalid_json" []
      | .error (.Other exception) => .raise (.Raised exception)
  | payload => pure payload

namespace OutputGuard

/-- The required fields that are not there, in order. -/
def missingFields (outputGuard : OutputGuard) (entries : List (String × Json)) : List String :=
  (outputGuard.requiredFields.sort (· ≤ ·)).filter fun field => field ∉ entries.map Prod.fst

/-- `action in self.allowed_actions`.  What cannot be hashed cannot be looked up. -/
def allows (outputGuard : OutputGuard) : Json → Except String Bool
  | .Text name => .ok (name ∈ outputGuard.allowedActions)
  | .Items _ => .error "TypeError"
  | .Dict _ => .error "TypeError"
  | _ => .ok false

def checkAction (outputGuard : OutputGuard) (runtime : OutputRuntime)
    (entries : List (String × Json)) : Traced OutputEvent OutputFailure Unit :=
  match presentField entries "action" with
  | none => pure ()
  | some action => do
      .require (outputGuard.allowedActions ≠ ∅)
        (.raise (.Violation (.UnsafeActionBlocked
          "This workload's output may not request an action" "actions_not_permitted" [])))
      match outputGuard.allows action with
      | .error exception => .raise (.Raised exception)
      | .ok allowed =>
          .require (allowed = true)
            (.perform (.ActionRejected "action_not_allowlisted" (runtime.str action))
              (.error (.Violation (.UnsafeActionBlocked unsafeActionMessage
                "action_not_allowlisted"
                [("allowed_actions",
                  .Items ((outputGuard.allowedActions.sort (· ≤ ·)).map .Text))]))))

/-- A confidence must reach the minimum, where both are given. -/
def checkConfidence (outputGuard : OutputGuard) (runtime : OutputRuntime)
    (entries : List (String × Json)) : Traced OutputEvent OutputFailure Unit :=
  match outputGuard.minimumConfidence, presentField entries "confidence" with
  | some minimum, some confidence =>
      match runtime.float confidence with
      | .ok value =>
          .require (value.lt minimum = false)
            (rejectOutput "Model confidence is below the threshold for this workload"
              "below_confidence_threshold"
              [("minimum_confidence", .Float minimum (runtime.printFloat minimum))])
      | .error (.Other exception) => .raise (.Raised exception)
      | .error _ =>
          rejectOutput "Model reported a non-numeric confidence" "invalid_confidence" []
  | _, _ => pure ()

/-- The checks of an object behind the search. -/
def checkFields (outputGuard : OutputGuard) (runtime : OutputRuntime)
    (entries : List (String × Json)) : Traced OutputEvent OutputFailure Unit := do
  .require (outputGuard.missingFields entries = [])
    (rejectOutput "Model output is missing required fields" "missing_required_fields"
      [("missing", .Items ((outputGuard.missingFields entries).map .Text))])
  outputGuard.checkAction runtime entries
  outputGuard.checkConfidence runtime entries

/-- Validate a structured result and return it. -/
def checkStructured (outputGuard : OutputGuard) (runtime : OutputRuntime) (payload : Json) :
    Traced OutputEvent OutputFailure (List (String × Json)) := do
  match ← decodePayload runtime payload with
  | .Dict entries =>
      -- written once, and searched as one text
      match runtime.dumps (.Dict entries) with
      | .error exception => .raise (.Raised exception)
      | .ok text => do
          checkText runtime text
          outputGuard.checkFields runtime entries
          return entries
  | _ => rejectOutput "Model output was not a JSON object" "not_an_object" []

end OutputGuard

/-! ## What passes the checks -/

variable {outputGuard : OutputGuard} {runtime : OutputRuntime} {entries : List (String × Json)}

lemma matching_eq_nil_iff {patterns : List (String × Regex)} {content : String} :
    matching patterns content = []
      ↔ ∀ pattern ∈ patterns, ¬ pattern.2.Found content.toList := by
  simp [matching, List.filter_eq_nil_iff, ← Regex.search_iff]

/-- **A text is withheld exactly where it carries a secret.** -/
theorem checkText_withholds_iff {content : String} :
    (∃ reason details, (checkText runtime content).result
        = .error (.Violation (.SensitiveOutputBlocked reason details)))
      ↔ containsSecret runtime content = true := by
  have hsecret : containsSecret runtime content = true
      ↔ matching (secretPatterns runtime.alnumBeyondAscii) content ≠ [] := by
    simp [containsSecret, matching, List.filter_eq_nil_iff]
  rw [hsecret, checkText, Traced.require]
  split_ifs with hnone
  · rw [Traced.ok_bind, Traced.require]
    split_ifs
    · simp [hnone]
    · simp [hnone]
  · simp [hnone]

/-- A text passes where no pattern is found in it. -/
lemma checkText_eq_ok_iff {content : String} :
    (checkText runtime content).result = .ok ()
      ↔ ∀ pattern ∈ outputPatterns runtime.alnumBeyondAscii,
        ¬ pattern.2.Found content.toList := by
  rw [checkText]
  simp only [Traced.perform, Traced.require_bind_result_eq_ok, Traced.require_result_eq_ok,
    matching_eq_nil_iff]
  rw [outputPatterns, List.forall_mem_append]

/-- Nothing is found in a text that passes. -/
lemma checkText_eq_ok_iff_matching {content : String} :
    (checkText runtime content).result = .ok ()
      ↔ matching (outputPatterns runtime.alnumBeyondAscii) content = [] := by
  rw [checkText_eq_ok_iff, matching_eq_nil_iff]

/-- **What is written passes exactly where each of its texts does in quotes.** -/
theorem checkText_written_iff {pieces : List Piece} (hpieces : WrittenJson pieces) :
    (checkText runtime (written pieces)).result = .ok ()
      ↔ ∀ text, Carries pieces text → (checkText runtime (jsonQuote text)).result = .ok () := by
  simp only [checkText_eq_ok_iff]
  constructor
  · intro h text hcarries pattern hpattern hfound
    exact h pattern hpattern
      ((outputPatterns_local _ pattern hpattern pieces hpieces).mpr ⟨text, hcarries, hfound⟩)
  · intro h pattern hpattern hfound
    obtain ⟨text, hcarries, hfound⟩ :=
      (outputPatterns_local _ pattern hpattern pieces hpieces).mp hfound
    exact h text hcarries pattern hpattern hfound

/-- The other checks of an object: the required fields are there, an action is on the list, and a
    confidence reaches the minimum. -/
structure FieldsPass (outputGuard : OutputGuard) (runtime : OutputRuntime)
    (entries : List (String × Json)) : Prop where
  required : ∀ field ∈ outputGuard.requiredFields, ∃ value, (field, value) ∈ entries
  action : ∀ action, presentField entries "action" = some action →
    ∃ name ∈ outputGuard.allowedActions, action = .Text name
  confidence : ∀ minimum, outputGuard.minimumConfidence = some minimum →
    ∀ confidence, presentField entries "confidence" = some confidence →
      ∃ value, runtime.float confidence = .ok value ∧ value.lt minimum = false

lemma missingFields_eq_nil_iff :
    outputGuard.missingFields entries = []
      ↔ ∀ field ∈ outputGuard.requiredFields, ∃ value, (field, value) ∈ entries := by
  simp [OutputGuard.missingFields, List.filter_eq_nil_iff]

lemma allows_eq_ok_true_iff {action : Json} :
    outputGuard.allows action = .ok true
      ↔ ∃ name ∈ outputGuard.allowedActions, action = .Text name := by
  cases action <;> simp [OutputGuard.allows]

lemma checkAction_eq_ok_iff :
    (outputGuard.checkAction runtime entries).result = .ok ()
      ↔ ∀ action, presentField entries "action" = some action →
        ∃ name ∈ outputGuard.allowedActions, action = .Text name := by
  rw [OutputGuard.checkAction]
  cases presentField entries "action" with
  | none => simp
  | some action =>
      simp only [Option.some.injEq, forall_eq', ← allows_eq_ok_true_iff]
      rw [Traced.raise, Traced.require_bind_result_eq_ok]
      cases hallows : outputGuard.allows action with
      | error exception => simp
      | ok allowed =>
          simp only [Traced.perform, Traced.require_result_eq_ok, Except.ok.injEq,
            and_iff_right_iff_imp]
          rintro rfl
          obtain ⟨name, hname, -⟩ := allows_eq_ok_true_iff.mp hallows
          exact Finset.ne_empty_of_mem hname

lemma checkConfidence_eq_ok_iff :
    (outputGuard.checkConfidence runtime entries).result = .ok ()
      ↔ ∀ minimum, outputGuard.minimumConfidence = some minimum →
        ∀ confidence, presentField entries "confidence" = some confidence →
          ∃ value, runtime.float confidence = .ok value ∧ value.lt minimum = false := by
  rw [OutputGuard.checkConfidence]
  cases hminimum : outputGuard.minimumConfidence with
  | none => simp
  | some minimum =>
      cases hfield : presentField entries "confidence" with
      | none => simp
      | some confidence =>
          simp only [Option.some.injEq, forall_eq']
          cases hfloat : runtime.float confidence with
          | ok value => simp [rejectOutput]
          | error exception => cases exception <;> simp [rejectOutput]

lemma checkFields_eq_ok_iff :
    (outputGuard.checkFields runtime entries).result = .ok ()
      ↔ FieldsPass outputGuard runtime entries := by
  rw [OutputGuard.checkFields, rejectOutput, Traced.raise, Traced.require_bind_result_eq_ok,
    missingFields_eq_nil_iff, Traced.bind_result_eq_ok]
  constructor
  · rintro ⟨hrequired, ⟨⟩, haction, hconfidence⟩
    exact ⟨hrequired, checkAction_eq_ok_iff.mp haction, checkConfidence_eq_ok_iff.mp hconfidence⟩
  · rintro ⟨hrequired, haction, hconfidence⟩
    exact ⟨hrequired, (), checkAction_eq_ok_iff.mpr haction,
      checkConfidence_eq_ok_iff.mpr hconfidence⟩

/-- **What is accepted**: an object that passes written as JSON, and the other checks. -/
theorem checkStructured_eq_ok_iff {accepted : List (String × Json)} :
    (outputGuard.checkStructured runtime (.Dict entries)).result = .ok accepted
      ↔ accepted = entries
        ∧ (∃ text, runtime.dumps (.Dict entries) = .ok text
          ∧ (checkText runtime text).result = .ok ())
        ∧ FieldsPass outputGuard runtime entries := by
  have hdecode : decodePayload runtime (.Dict entries) = ⟨[], .ok (.Dict entries)⟩ := rfl
  rw [OutputGuard.checkStructured, hdecode, Traced.ok_bind]
  cases hdumps : runtime.dumps (.Dict entries) with
  | error exception => simp [hdumps]
  | ok text =>
      simp only [hdumps, Traced.bind_result_eq_ok, Traced.pure_def, Except.ok.injEq,
        exists_eq_left']
      constructor
      · rintro ⟨⟨⟩, htext, ⟨⟩, hfields, rfl⟩
        exact ⟨rfl, htext, checkFields_eq_ok_iff.mp hfields⟩
      · rintro ⟨rfl, htext, hfields⟩
        exact ⟨(), htext, (), checkFields_eq_ok_iff.mpr hfields, rfl⟩

/-- A text is checked as the object that it stands for. -/
lemma checkStructured_of_jsonLoads {text : String}
    (h : runtime.jsonLoads text = .ok (.Dict entries)) :
    outputGuard.checkStructured runtime (.Text text)
      = outputGuard.checkStructured runtime (.Dict entries) := by
  have hdecode : decodePayload runtime (.Text text) = decodePayload runtime (.Dict entries) := by
    rw [decodePayload, h]
    rfl
  rw [OutputGuard.checkStructured, OutputGuard.checkStructured, hdecode]

/-! ## Scanned as text -/

/-- An object of JSON, its floats printed as floats are. -/
structure JsonObject where
  entries : List (String × Json)
  printsFloats : (Json.Dict entries).PrintsFloats

/-- The texts of an object and its keys, at any depth. -/
def JsonObject.Holds (object : JsonObject) (text : String) : Prop :=
  text ∈ (Json.Dict object.entries).texts ∨ text ∈ (Json.Dict object.entries).keys

/-- **An object is scanned as strictly as text**: where it is accepted, so is every text in it. -/
def ScannedAsText (outputGuard : OutputGuard) (runtime : OutputRuntime) (object : JsonObject) :
    Prop :=
  ∀ accepted, (outputGuard.checkStructured runtime (.Dict object.entries)).result = .ok accepted →
    ∀ text, object.Holds text → (checkText runtime text).result = .ok ()

/-- **The object written as JSON passes exactly where its texts do in quotes.** -/
lemma checkText_dumps_iff {object : JsonObject} {text : String}
    (h : runtime.dumps (.Dict object.entries) = .ok text) :
    (checkText runtime text).result = .ok ()
      ↔ ∀ held, object.Holds held → (checkText runtime (jsonQuote held)).result = .ok () := by
  rw [runtime.dumps_eq _ _ h, checkText_written_iff (writtenJson_pieces object.printsFloats)]
  simp only [TextForm.carries_pieces_iff, JsonObject.Holds]

/-- In quotes a pattern may not see the text any more: it starts with a command of the shell, or has
    a character that is escaped. -/
def AlteredByQuotes (text : String) : Prop :=
  StartsWithCommand text.toList ∨ ∃ c ∈ text.toList, escapeChar c ≠ c.toString

/-- **Quoting hides only what starts a text or stands with what is escaped**: a text that is
    written as it is, and starts with no command of the shell, passes if it does in quotes. -/
theorem checkText_of_quoted {text : String} (hplain : ¬ AlteredByQuotes text)
    (hquoted : (checkText runtime (jsonQuote text)).result = .ok ()) :
    (checkText runtime text).result = .ok () := by
  rw [AlteredByQuotes, not_or] at hplain
  obtain ⟨hstart, hescapes⟩ := hplain
  have hwritten : ∀ c ∈ text.toList, escapeChar c = c.toString := fun c hc =>
    not_not.mp fun hne => hescapes ⟨c, hc, hne⟩
  have hescaped : escaped text = text.toList := by
    have hsingle : ∀ c ∈ text.toList, (escapeChar c).toList = [c] := fun c hc => by
      simp [hwritten c hc]
    rw [escaped, List.flatMap_congr hsingle, List.flatMap_singleton']
  rw [checkText_eq_ok_iff, toList_jsonQuote, hescaped] at hquoted
  refine checkText_eq_ok_iff.mpr fun pattern hpattern hfound => ?_
  rcases found_in_quotes _ hpattern hfound with hfound | hcommand
  · exact hquoted pattern hpattern hfound
  · exact hstart hcommand

/-- **An object is scanned as strictly as text exactly where quoting hides nothing in it**: the
    other checks refuse it, or one of its texts is blocked in quotes too, or none of those that
    quotes alter is blocked. -/
theorem scannedAsText_iff (outputGuard : OutputGuard) (runtime : OutputRuntime)
    (object : JsonObject) :
    ScannedAsText outputGuard runtime object
      ↔ ((∃ text, runtime.dumps (.Dict object.entries) = .ok text) →
        FieldsPass outputGuard runtime object.entries →
        (∀ text, object.Holds text → (checkText runtime (jsonQuote text)).result = .ok ()) →
        ∀ text, object.Holds text → AlteredByQuotes text →
          (checkText runtime text).result = .ok ()) := by
  simp only [ScannedAsText, checkStructured_eq_ok_iff]
  constructor
  · rintro hscanned ⟨text, hdumps⟩ hfields hquoted held hholds -
    exact hscanned object.entries
      ⟨rfl, ⟨text, hdumps, (checkText_dumps_iff hdumps).mpr hquoted⟩, hfields⟩ held hholds
  · rintro h accepted ⟨-, ⟨text, hdumps, htext⟩, hfields⟩ held hholds
    have hquoted := (checkText_dumps_iff hdumps).mp htext
    by_cases haltered : AlteredByQuotes held
    · exact h ⟨text, hdumps⟩ hfields hquoted held hholds haltered
    · exact checkText_of_quoted haltered (hquoted held hholds)

/-- An interpreter that writes every value, with no word characters beyond ASCII. -/
def plainOutputRuntime : OutputRuntime where
  jsonLoads _ := .error .JSONDecodeError
  jsonDumps _ := .ok ""
  float _ := .error .TypeError
  repr _ := ""
  alnumBeyondAscii _ := false
  dumps value := .ok (written ((jsonForm false).pieces value))
  dumps_eq _ _ h := (Except.ok.inj h).symm
  printFloat _ := ""

/-- An object with one text in it. -/
def oneText (text : String) : JsonObject where
  entries := [("summary", .Text text)]
  printsFloats := by simp [Json.PrintsFloats, Json.numerals, entriesNumerals]

/-- A key on a line of its own. -/
def keyOnItsLine : String := "Here it is:\nsk-abcdefghijklmnopqrstuvwx"

/-- A text is hidden where a pattern is found in it, and none in the object with it. -/
lemma not_scannedAsText_of_hidden {text : String}
    (hfound : matching (outputPatterns fun _ => false) text ≠ [])
    (hnone : matching (outputPatterns fun _ => false)
      (written ((jsonForm false).pieces (.Dict (oneText text).entries))) = []) :
    ¬ ScannedAsText {} plainOutputRuntime (oneText text) := by
  intro hscanned
  have hfields : FieldsPass {} plainOutputRuntime (oneText text).entries :=
    ⟨by simp, by simp [presentField, lookup, oneText], by simp⟩
  have hwritten : (checkText plainOutputRuntime
      (written ((jsonForm false).pieces (.Dict (oneText text).entries)))).result = .ok () :=
    checkText_eq_ok_iff_matching.mpr hnone
  have hholds : (oneText text).Holds text := .inl (by simp [oneText, Json.texts])
  have htext : (checkText plainOutputRuntime text).result = .ok () :=
    hscanned _ (checkStructured_eq_ok_iff.mpr ⟨rfl, ⟨_, rfl, hwritten⟩, hfields⟩) text hholds
  exact hfound (checkText_eq_ok_iff_matching.mp htext)

/-- **A credential is hidden by the end of the line before it**, and a command by the quote. -/
theorem quoting_hides :
    ¬ ScannedAsText {} plainOutputRuntime (oneText keyOnItsLine)
      ∧ ¬ ScannedAsText {} plainOutputRuntime (oneText "rm -rf /") :=
  ⟨not_scannedAsText_of_hidden (by decide +kernel) (by decide +kernel),
    not_scannedAsText_of_hidden (by decide +kernel) (by decide +kernel)⟩

end CostPlatform
