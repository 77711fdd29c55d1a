import CostPlatform.Orchestrator.Execute

/-!
# What a quality verdict rests on

The three stages of parsing an answer, seen from the result.  `parse_cases` says which stage gave it
and from what.

A verdict of an object is the object's own, and no stage compares it with the defect beside it; the
words are looked at where there is no object (`pass_rests_on`).  Parsing falls back where a text is
not JSON, and `totallyParsed_iff` says what it does not fall back from.
-/

namespace CostPlatform

open PyJson

/-! ## The stages -/

/-- There is JSON in an answer: the whole of it, or else the part between its braces. -/
def FindsJson (runtime : Runtime) (content : String) (data : Json) : Prop :=
  runtime.jsonLoads (PyString.strip content) = .ok data
    ∨ runtime.jsonLoads (PyString.strip content) = .error .JSONDecodeError
      ∧ ∃ inner ∈ extractBraces (PyString.strip content), runtime.jsonLoads inner = .ok data

/-- An object says that the part passes. -/
def SaysPass (runtime : Runtime) (entries : List (String × Json)) : Prop :=
  ∃ field, lookup entries "verdict" = some field
    ∧ PyString.upper (PyString.strip (runtime.str field)) ∈ ["PASS", "PASSED", "OK"]

/-- An object names a defect. -/
def NamesDefect (runtime : Runtime) (entries : List (String × Json)) : Prop :=
  ∃ field, presentField entries "defect_type" = some field
    ∧ PyString.strip (runtime.str field) ≠ ""
    ∧ PyString.lower (PyString.strip (runtime.str field)) ∉ ["none", "null", "n/a"]

/-- A word in an answer, whatever its case. -/
def Mentions (content word : String) : Prop :=
  PyString.contains (PyString.lower (PyString.strip content)) word = true

variable {runtime : Runtime} {content : String} {result : QualityResult}

lemma tryLoads_eq_ok_iff {text : String} {found : Option Json} :
    tryLoads runtime text = .ok found
      ↔ (∃ data, runtime.jsonLoads text = .ok data ∧ found = some data)
        ∨ runtime.jsonLoads text = .error .JSONDecodeError ∧ found = none := by
  rw [tryLoads]
  cases hloads : runtime.jsonLoads text with
  | ok data => simp [eq_comm]
  | error e => cases e <;> simp [eq_comm]

/-- What is found is the JSON of the answer. -/
lemma findJson_eq_ok_some_iff {data : Json} :
    findJson runtime (PyString.strip content) = .ok (some data)
      ↔ FindsJson runtime content data := by
  rw [findJson, Fallible.bind_eq_ok, FindsJson]
  constructor
  · rintro ⟨found, htry, h⟩
    rcases tryLoads_eq_ok_iff.mp htry with ⟨whole, hwhole, rfl⟩ | ⟨hnot, rfl⟩
    · cases Except.ok.inj h
      exact .inl hwhole
    · refine .inr ⟨hnot, ?_⟩
      cases hbraces : extractBraces (PyString.strip content) with
      | none => simp [hbraces, pure, Except.pure] at h
      | some inner =>
          simp only [hbraces] at h
          rcases tryLoads_eq_ok_iff.mp h with ⟨part, hpart, heq⟩ | ⟨-, heq⟩
          · cases heq
            exact ⟨inner, rfl, hpart⟩
          · cases heq
  · rintro (hwhole | ⟨hnot, inner, hbraces, hinner⟩)
    · exact ⟨some data, tryLoads_eq_ok_iff.mpr (.inl ⟨data, hwhole, rfl⟩), rfl⟩
    · refine ⟨none, tryLoads_eq_ok_iff.mpr (.inr ⟨hnot, rfl⟩), ?_⟩
      simp only [Option.mem_def.mp hbraces]
      exact tryLoads_eq_ok_iff.mpr (.inl ⟨data, hinner, rfl⟩)

/-- **A result comes from one of three**: a blank answer, an object in it, or its words. -/
theorem parse_cases (h : parseQualityResponse runtime content = .ok result) :
    PyString.strip content = ""
        ∧ result = { verdict := .Inconclusive, defectType := none, confidence := none,
                     rawResponse := content }
      ∨ PyString.strip content ≠ ""
        ∧ (∃ entries confidence, FindsJson runtime content (.Dict entries)
          ∧ readConfidence runtime (presentField entries "confidence") = .ok confidence
          ∧ result = { verdict := readVerdict runtime (lookup entries "verdict")
                       defectType := readDefectType runtime (presentField entries "defect_type")
                       confidence := confidence
                       rawResponse := content })
      ∨ PyString.strip content ≠ "" ∧ (∀ entries, ¬ FindsJson runtime content (.Dict entries))
        ∧ result = heuristicResult (PyString.strip content) content := by
  simp only [parseQualityResponse] at h
  split_ifs at h with hempty
  · exact .inl ⟨hempty, (Except.ok.inj h).symm⟩
  · obtain ⟨found, hfound, h⟩ := Fallible.bind_eq_ok.mp h
    refine .inr ?_
    split at h
    · rename_i entries
      obtain ⟨confidence, hconfidence, h⟩ := Fallible.bind_eq_ok.mp h
      exact .inl ⟨hempty, entries, confidence, findJson_eq_ok_some_iff.mp hfound, hconfidence,
        (Except.ok.inj h).symm⟩
    · rename_i hnot
      refine .inr ⟨hempty, fun entries hentries => ?_, (Except.ok.inj h).symm⟩
      have heq := hfound.symm.trans (findJson_eq_ok_some_iff.mpr hentries)
      exact hnot entries (Except.ok.inj heq)

/-! ## What a pass rests on -/

lemma readVerdict_eq_pass_iff {entries : List (String × Json)} :
    readVerdict runtime (lookup entries "verdict") = .Pass ↔ SaysPass runtime entries := by
  rw [readVerdict, SaysPass]
  cases lookup entries "verdict" with
  | none =>
      have hblank : PyString.upper (PyString.strip "") = "" := by decide
      simp [hblank]
  | some field =>
      simp only [Option.map_some, Option.getD_some, Option.some.injEq, exists_eq_left']
      split_ifs with hpass hfail
      · simp [hpass]
      · simp [hpass]
      · simp [hpass]

lemma readDefectType_eq_none_iff {entries : List (String × Json)} :
    readDefectType runtime (presentField entries "defect_type") = none
      ↔ ¬ NamesDefect runtime entries := by
  rw [readDefectType, NamesDefect]
  cases presentField entries "defect_type" with
  | none => simp [PyString.truthy]
  | some field => simp [PyString.truthy]

lemma heuristicResult_eq_pass_iff :
    (heuristicResult (PyString.strip content) content).verdict = .Pass
      ↔ Mentions content "pass" ∧ ¬ Mentions content "fail" := by
  simp only [heuristicResult, Mentions, Bool.and_eq_true, Bool.not_eq_true', Bool.not_eq_true]
  split_ifs with hpass hfail
  · simp [hpass]
  · simp [hpass]
  · simp [hpass]

/-- The words that the fallback takes for a failure. -/
def FAILURE_WORDS : List String := ["fail", "defect", "crack", "scratch"]

/-- **A pass is not returned against the evidence**: there is no defect with it, and no word of
    failure in an answer that is no object. -/
def PassUncontradicted (runtime : Runtime) (content : String) : Prop :=
  ∀ result, parseQualityResponse runtime content = .ok result → result.verdict = .Pass →
    result.defectType = none
      ∧ ((∀ entries, runtime.jsonLoads (PyString.strip content) ≠ .ok (.Dict entries)) →
        ∀ word ∈ FAILURE_WORDS, ¬ Mentions content word)

/-- What a pass rests on: the object that was found, which may name a defect all the same, or else
    the word for it without the one word against it. -/
inductive PassEvidence (runtime : Runtime) (content : String) (defectType : Option String) : Prop
  | Object {entries : List (String × Json)} (hfound : FindsJson runtime content (.Dict entries))
      (hpass : SaysPass runtime entries)
      (hdefect : ¬ NamesDefect runtime entries → defectType = none)
  | Words (hnone : ∀ entries, ¬ FindsJson runtime content (.Dict entries))
      (hpass : Mentions content "pass") (hfail : ¬ Mentions content "fail")
      (hdefect : defectType = none)

lemma heuristicResult_defectType (h : (heuristicResult (PyString.strip content) content).verdict
    = .Pass) : (heuristicResult (PyString.strip content) content).defectType = none := by
  simp only [heuristicResult] at h ⊢
  split_ifs at h ⊢
  rfl

/-- **A pass rests on the object of the answer where there is one, and on its words where not.** -/
theorem pass_rests_on (runtime : Runtime) (content : String) (result : QualityResult)
    (h : parseQualityResponse runtime content = .ok result) (hpass : result.verdict = .Pass) :
    PassEvidence runtime content result.defectType := by
  rcases parse_cases h with ⟨-, heq⟩ | ⟨-, entries, confidence, hfound, -, heq⟩ | ⟨-, hnone, heq⟩
  · rw [heq] at hpass
    cases hpass
  · simp only [heq, readVerdict_eq_pass_iff] at hpass ⊢
    exact .Object hfound hpass readDefectType_eq_none_iff.mpr
  · simp only [heq] at hpass ⊢
    obtain ⟨hmentions, hfail⟩ := heuristicResult_eq_pass_iff.mp hpass
    exact .Words hnone hmentions hfail (heuristicResult_defectType hpass)

/-- An answer in prose. -/
def noDefectsText : String :=
  "Based on the image inspection, the product shows no defects and passes all quality criteria."

/-- Prose without a word of failure passes on its words. -/
theorem noDefects_words : PassEvidence emptyRuntime noDefectsText none :=
  pass_rests_on emptyRuntime noDefectsText
    { verdict := .Pass, defectType := none, confidence := none, rawResponse := noDefectsText }
    (by decide +kernel) rfl

/-- A runtime that reads one object in every text. -/
def objectRuntime (entries : List (String × Json)) : Runtime where
  jsonLoads _ := .ok (.Dict entries)
  jsonDumps _ := .ok ""
  float
    | .Float value _ => .ok value
    | _ => .error .TypeError
  repr _ := ""

/-- A cracked part that the model passes. -/
def crackedPass : List (String × Json) :=
  [("verdict", .Text "PASS"), ("defect_type", .Text "crack")]

/-- The prose speaks of defects, to deny them, and the object of a crack: both pass. -/
theorem pass_contradicted :
    ¬ PassUncontradicted emptyRuntime noDefectsText
      ∧ ¬ PassUncontradicted (objectRuntime crackedPass)
        "\x7b\"verdict\": \"PASS\", \"defect_type\": \"crack\"\x7d" := by
  constructor
  · intro huncontradicted
    have hwords := (huncontradicted
      { verdict := .Pass, defectType := none, confidence := none, rawResponse := noDefectsText }
      (by decide +kernel) rfl).2 (fun _ => by simp [emptyRuntime])
    exact hwords "defect" (by decide) (by rw [Mentions]; decide +kernel)
  · intro huncontradicted
    have hdefect := (huncontradicted
      { verdict := .Pass, defectType := some "crack", confidence := none,
        rawResponse := "\x7b\"verdict\": \"PASS\", \"defect_type\": \"crack\"\x7d" }
      (by decide +kernel) rfl).1
    cases hdefect

/-! ## Parsing every answer -/

/-- **Parsing is total**: a result, which a billable call can be normalized with, and no confidence
    but a share that a finite number of the answer was clamped to. -/
structure TotallyParsed (runtime : Runtime) (content : String) : Prop where
  returns : ∃ result, parseQualityResponse runtime content = .ok result
  clamped : ∀ result, parseQualityResponse runtime content = .ok result →
    ∀ share ∈ result.confidence, (0 ≤ share ∧ share ≤ 1)
      ∧ ∃ entries field value, FindsJson runtime content (.Dict entries)
        ∧ presentField entries "confidence" = some field
        ∧ runtime.float field = .ok (.Finite value)
        ∧ share = clampConfidence (.Finite value)
  normalizes : ∀ (c : Collaborators) (answered : Collaborators.Answered) (imageCount : Int)
    (guardrailDecision : Option String), c.runtime = runtime → answered.response.content = content →
      ∃ result, c.normalize answered imageCount guardrailDecision = .ok result

/-- `float()` returns a finite number, or raises what is caught. -/
def ReadsFinite (runtime : Runtime) (field : Json) : Prop :=
  runtime.float field = .error .ValueError ∨ runtime.float field = .error .TypeError
    ∨ ∃ value, runtime.float field = .ok (.Finite value)

/-- Decoding an answer meets nothing but text that is not JSON, and its confidence no number that is
    too large or not finite. -/
structure Untroubled (runtime : Runtime) (content : String) : Prop where
  decodes : ∀ exception,
    runtime.jsonLoads (PyString.strip content) ≠ .error (.Other exception)
  extracts : runtime.jsonLoads (PyString.strip content) = .error .JSONDecodeError →
    ∀ inner ∈ extractBraces (PyString.strip content), ∀ exception,
      runtime.jsonLoads inner ≠ .error (.Other exception)
  reads : ∀ entries, FindsJson runtime content (.Dict entries) →
    ∀ field ∈ presentField entries "confidence", ReadsFinite runtime field

lemma tryLoads_succeeds_iff {text : String} :
    (∃ found, tryLoads runtime text = .ok found)
      ↔ ∀ exception, runtime.jsonLoads text ≠ .error (.Other exception) := by
  rw [tryLoads]
  cases runtime.jsonLoads text with
  | ok data => simp
  | error e => cases e <;> simp

/-- Looking for JSON fails where decoding raises what is not caught. -/
lemma findJson_succeeds_iff {cleaned : String} :
    (∃ found, findJson runtime cleaned = .ok found)
      ↔ (∀ exception, runtime.jsonLoads cleaned ≠ .error (.Other exception))
        ∧ (runtime.jsonLoads cleaned = .error .JSONDecodeError →
          ∀ inner ∈ extractBraces cleaned, ∀ exception,
            runtime.jsonLoads inner ≠ .error (.Other exception)) := by
  rw [← tryLoads_succeeds_iff]
  simp only [findJson, Fallible.bind_eq_ok]
  constructor
  · rintro ⟨found, data, htry, h⟩
    refine ⟨⟨data, htry⟩, fun hnot inner hbraces => ?_⟩
    rcases tryLoads_eq_ok_iff.mp htry with ⟨whole, hwhole, -⟩ | ⟨-, rfl⟩
    · cases hwhole.symm.trans hnot
    · simp only [Option.mem_def.mp hbraces] at h
      exact tryLoads_succeeds_iff.mp ⟨found, h⟩
  · rintro ⟨⟨data, htry⟩, hinner⟩
    rcases tryLoads_eq_ok_iff.mp htry with ⟨whole, hwhole, rfl⟩ | ⟨hnot, rfl⟩
    · exact ⟨_, _, htry, rfl⟩
    · cases hbraces : extractBraces cleaned with
      | none => exact ⟨none, none, htry, rfl⟩
      | some inner =>
          obtain ⟨found, hfound⟩ := tryLoads_succeeds_iff.mpr (hinner hnot inner hbraces)
          exact ⟨found, none, htry, hfound⟩

lemma readConfidence_succeeds_iff {field : Option Json} :
    (∃ confidence, readConfidence runtime field = .ok confidence)
      ↔ ∀ value ∈ field, ∀ exception, runtime.float value ≠ .error (.Other exception) := by
  cases field with
  | none => simp [readConfidence]
  | some value =>
      simp only [readConfidence, Option.mem_some_iff, forall_eq']
      cases runtime.float value with
      | ok number => simp
      | error e => cases e <;> simp

/-- A confidence is what a number of the field was clamped to. -/
lemma mem_readConfidence {field : Option Json} {confidence : Option ℚ}
    (h : readConfidence runtime field = .ok confidence) (share : ℚ) :
    share ∈ confidence ↔ ∃ value number, field = some value ∧ runtime.float value = .ok number
      ∧ share = clampConfidence number := by
  cases field with
  | none =>
      cases Except.ok.inj h
      simp
  | some value =>
      simp only [readConfidence] at h
      cases hfloat : runtime.float value with
      | ok number =>
          rw [hfloat] at h
          cases Except.ok.inj h
          simp [hfloat, eq_comm]
      | error e =>
          rw [hfloat] at h
          cases e with
          | ValueError =>
              cases Except.ok.inj h
              simp [hfloat]
          | TypeError =>
              cases Except.ok.inj h
              simp [hfloat]
          | Other exception => cases h

/-- An answer has one JSON. -/
lemma FindsJson.unique {data data' : Json} (h : FindsJson runtime content data)
    (h' : FindsJson runtime content data') : data = data' :=
  Option.some.inj (Except.ok.inj
    ((findJson_eq_ok_some_iff.mpr h).symm.trans (findJson_eq_ok_some_iff.mpr h')))

/-- **An answer gives a result** unless decoding it, or the confidence of its object, raises what is
    not caught. -/
theorem parse_succeeds_iff :
    (∃ result, parseQualityResponse runtime content = .ok result)
      ↔ (PyString.strip content ≠ "" →
        (∃ found, findJson runtime (PyString.strip content) = .ok found)
          ∧ ∀ entries, FindsJson runtime content (.Dict entries) →
            ∃ confidence, readConfidence runtime (presentField entries "confidence")
              = .ok confidence) := by
  by_cases hempty : PyString.strip content = ""
  · simp [parseQualityResponse, hempty, pure, Except.pure]
  · simp only [parseQualityResponse, if_neg hempty, Fallible.bind_eq_ok]
    constructor
    · rintro ⟨result, found, hfound, h⟩ -
      refine ⟨⟨found, hfound⟩, fun entries hentries => ?_⟩
      cases Except.ok.inj (hfound.symm.trans (findJson_eq_ok_some_iff.mpr hentries))
      obtain ⟨confidence, hconfidence, -⟩ := Fallible.bind_eq_ok.mp h
      exact ⟨confidence, hconfidence⟩
    · intro h
      obtain ⟨⟨found, hfound⟩, hconfidence⟩ := h hempty
      rw [exists_comm]
      refine ⟨found, ?_⟩
      split
      · rename_i entries
        obtain ⟨confidence, hread⟩ := hconfidence entries (findJson_eq_ok_some_iff.mp hfound)
        exact ⟨_, hfound, Fallible.bind_eq_ok.mpr ⟨confidence, hread, rfl⟩⟩
      · exact ⟨_, hfound, rfl⟩

/-- **A confidence is what a number was clamped to**, which stands in the object of the answer. -/
theorem confidence_cases (h : parseQualityResponse runtime content = .ok result) {share : ℚ}
    (hshare : share ∈ result.confidence) :
    PyString.strip content ≠ ""
      ∧ ∃ entries field number, FindsJson runtime content (.Dict entries)
        ∧ presentField entries "confidence" = some field ∧ runtime.float field = .ok number
        ∧ share = clampConfidence number := by
  rcases parse_cases h with ⟨-, heq⟩ | ⟨hne, entries, confidence, hfound, hread, heq⟩ | ⟨-, -, heq⟩
  · simp [heq] at hshare
  · rw [heq] at hshare
    obtain ⟨field, number, hfield, hfloat, hclamp⟩ := (mem_readConfidence hread share).mp hshare
    exact ⟨hne, entries, field, number, hfound, hfield, hfloat, hclamp⟩
  · simp [heq, heuristicResult_confidence] at hshare

/-- The number that a confidence was clamped to is reported. -/
lemma confidence_of_float {entries : List (String × Json)} {field : Json} {number : PyFloat}
    (h : parseQualityResponse runtime content = .ok result) (hne : PyString.strip content ≠ "")
    (hentries : FindsJson runtime content (.Dict entries))
    (hfield : presentField entries "confidence" = some field)
    (hfloat : runtime.float field = .ok number) : clampConfidence number ∈ result.confidence := by
  rcases parse_cases h with ⟨hempty, -⟩ | ⟨-, entries', confidence, hentries', hread, heq⟩
    | ⟨-, hnone, -⟩
  · exact absurd hempty hne
  · cases hentries.unique hentries'
    rw [heq]
    exact (mem_readConfidence hread _).mpr ⟨field, number, hfield, hfloat, rfl⟩
  · exact absurd hentries (hnone entries)

/-- **Parsing is total exactly on the answers that decoding is untroubled by**: blank ones, and
    those where nothing but text that is not JSON is met, and no confidence that is not finite. -/
theorem totallyParsed_iff (runtime : Runtime) (content : String) :
    TotallyParsed runtime content ↔ (PyString.strip content ≠ "" → Untroubled runtime content) := by
  constructor
  · intro htotal hne
    obtain ⟨hfound, hconfidence⟩ := parse_succeeds_iff.mp htotal.returns hne
    obtain ⟨hdecodes, hextracts⟩ := findJson_succeeds_iff.mp hfound
    refine ⟨hdecodes, hextracts, fun entries hentries field hfield => ?_⟩
    have hraises := readConfidence_succeeds_iff.mp (hconfidence entries hentries) field hfield
    cases hfloat : runtime.float field with
    | error e =>
        cases e with
        | ValueError => exact .inl hfloat
        | TypeError => exact .inr (.inl hfloat)
        | Other exception => exact absurd hfloat (hraises exception)
    | ok number =>
        -- its share is clamped from a finite number of the same field
        obtain ⟨result, hresult⟩ := htotal.returns
        obtain ⟨-, entries', field', value, hentries', hfield', hfloat', -⟩ :=
          htotal.clamped result hresult _ (confidence_of_float hresult hne hentries hfield hfloat)
        cases hentries.unique hentries'
        cases Option.some.inj (hfield.symm.trans hfield')
        exact .inr (.inr ⟨value, hfloat'⟩)
  · intro huntroubled
    have hreturns : ∃ result, parseQualityResponse runtime content = .ok result := by
      refine parse_succeeds_iff.mpr fun hne => ?_
      have huntroubled := huntroubled hne
      refine ⟨findJson_succeeds_iff.mpr ⟨huntroubled.decodes, huntroubled.extracts⟩,
        fun entries hentries => readConfidence_succeeds_iff.mpr fun field hfield exception => ?_⟩
      rcases huntroubled.reads entries hentries field hfield with h | h | ⟨value, h⟩
      · simp [h]
      · simp [h]
      · simp [h]
    refine ⟨hreturns, fun result hresult share hshare => ?_, ?_⟩
    · refine ⟨parseQualityResponse_confidence hresult share hshare, ?_⟩
      obtain ⟨hne, entries, field, number, hentries, hfield, hfloat, hclamp⟩ :=
        confidence_cases hresult hshare
      rcases (huntroubled hne).reads entries hentries field hfield with h | h | ⟨value, h⟩
      · cases h.symm.trans hfloat
      · cases h.symm.trans hfloat
      · cases h.symm.trans hfloat
        exact ⟨entries, field, value, hentries, hfield, h, hclamp⟩
    · rintro c answered imageCount guardrailDecision rfl rfl
      exact Collaborators.normalize_succeeds_iff.mpr fun _ => hreturns

/-- An answer with a confidence that is no number at all. -/
def nanConfidence : List (String × Json) :=
  [("verdict", .Text "FAIL"), ("confidence", .Float .NaN "nan")]

/-- A decoder with a limit on the digits of an integer, which is no decoding error. -/
def digitRuntime : Runtime where
  jsonLoads text := if 4300 < text.length then .error (.Other "ValueError") else .ok (.Integer 9)
  jsonDumps _ := .ok ""
  float _ := .error .TypeError
  repr _ := ""

lemma digitRuntime_raises {text : String} (h : 4300 < text.length) :
    digitRuntime.jsonLoads text = .error (.Other "ValueError") :=
  if_pos h

def nines (digits : Nat) : String := String.ofList (List.replicate digits '9')

lemma strip_nines (digits : Nat) : PyString.strip (nines digits) = nines digits := by
  have hnine : PyString.isSpace '9' = false := by decide
  simp [PyString.strip, nines, hnine]

lemma length_nines (digits : Nat) : (nines digits).length = digits := by simp [nines]

/-- No number is reported as certainty, and a number that is too long is not reported. -/
theorem parsing_troubled :
    ¬ TotallyParsed (objectRuntime nanConfidence)
        "\x7b\"verdict\": \"FAIL\", \"confidence\": NaN\x7d"
      ∧ ¬ TotallyParsed digitRuntime (nines 4301) := by
  constructor
  · intro htotal
    obtain ⟨-, entries, field, value, hentries, hfield, hfloat, -⟩ := htotal.clamped
      { verdict := .Fail, defectType := none, confidence := some 1,
        rawResponse := "\x7b\"verdict\": \"FAIL\", \"confidence\": NaN\x7d" }
      (by decide +kernel) 1 rfl
    cases hentries.unique (.inl rfl)
    cases hfield
    cases hfloat
  · intro htotal
    have hne : PyString.strip (nines 4301) ≠ "" := by
      rw [strip_nines]
      intro hempty
      exact absurd ((length_nines 4301).symm.trans (congrArg String.length hempty)) (by decide)
    obtain ⟨hfound, -⟩ := parse_succeeds_iff.mp htotal.returns hne
    have hraises := (findJson_succeeds_iff.mp hfound).1 "ValueError"
    rw [strip_nines] at hraises
    exact hraises (digitRuntime_raises (by rw [length_nines]; decide))

end CostPlatform
