import CostPlatform.Library.Fallible
import CostPlatform.Library.PyJson

/-!
# The quality-check workload

Prompt generation for the vision model and parsing of its answer.  Parsing tries the whole text as
JSON, then the part between the first and the last brace, then looks for words.
-/

namespace CostPlatform

open PyJson

inductive QualityVerdict where
  | Pass
  | Fail
  | Inconclusive
  deriving DecidableEq, Repr

def QualityVerdict.value : QualityVerdict → String
  | .Pass => "PASS"
  | .Fail => "FAIL"
  | .Inconclusive => "INCONCLUSIVE"

/-- Structured result of a quality inspection. -/
structure QualityResult where
  verdict : QualityVerdict
  defectType : Option String
  confidence : Option ℚ
  rawResponse : String
  deriving DecidableEq, Repr

/-! ## The prompt -/

/-- The first of the three fields with a truthy value. -/
def partSpec (payload : List (String × Json)) : Option Json :=
  let candidate (key : String) : Option Json := (lookup payload key).filter Json.truthy
  (candidate "part_spec").or ((candidate "description").or (candidate "component"))

def buildQualityPrompt (runtime : Runtime) (payload : List (String × Json)) : String :=
  let contextStr := match partSpec payload with
    | some spec =>
        "\nComponent specifications / expected standards: " ++ runtime.str spec ++ "\n"
    | none => ""
  "You are an expert manufacturing quality control inspector. "
    ++ "Examine the provided image carefully for physical defects, surface scratches, "
    ++ "cracks, misalignments, solder defects, or manufacturing anomalies."
    ++ contextStr ++ "\n"
    ++ "Respond ONLY with a valid JSON object matching this schema:\n"
    ++ "\x7b\n"
    ++ "  \"verdict\": \"PASS\" | \"FAIL\",\n"
    ++ "  \"defect_type\": \"<defect name or null if pass>\",\n"
    ++ "  \"confidence\": <float between 0.0 and 1.0>\n"
    ++ "\x7d\n"
    ++ "Do not include Markdown code blocks or any other commentary outside the JSON."

/-! ## The answer -/

/-- The part of a text from its first opening brace to its last closing one. -/
def extractBraces (text : String) : Option String :=
  let opened := text.toList.dropWhile fun c => c ≠ '\x7b'
  let closed := (opened.reverse.dropWhile fun c => c ≠ '\x7d').reverse
  if closed.isEmpty then none else some (String.ofList closed)

/-- `json.loads`, with a decoding error caught and any other exception let through. -/
def tryLoads (runtime : Runtime) (text : String) : Except String (Option Json) :=
  match runtime.jsonLoads text with
  | .ok data => .ok (some data)
  | .error .JSONDecodeError => .ok none
  | .error (.Other exception) => .error exception

/-- Whatever JSON is found in the text. -/
def findJson (runtime : Runtime) (cleaned : String) : Except String (Option Json) := do
  match ← tryLoads runtime cleaned with
  | some data => return some data
  | none =>
      match extractBraces cleaned with
      | some inner => tryLoads runtime inner
      | none => return none

/-- `max(0.0, min(1.0, value))`, under which a NaN is 1. -/
def clampConfidence : PyFloat → ℚ
  | .Finite value => max 0 (min 1 value)
  | .PosInf => 1
  | .NegInf => 0
  | .NaN => 1

/-- The verdict a `verdict` field stands for. -/
def readVerdict (runtime : Runtime) (field : Option Json) : QualityVerdict :=
  let raw := PyString.upper (PyString.strip ((field.map runtime.str).getD ""))
  if raw ∈ ["PASS", "PASSED", "OK"] then .Pass
  else if raw ∈ ["FAIL", "FAILED", "DEFECT", "REJECT"] then .Fail
  else .Inconclusive

/-- The field where it is there and not `null`. -/
def presentField (entries : List (String × Json)) (key : String) : Option Json :=
  match lookup entries key with
  | some .Null => none
  | field => field

def readDefectType (runtime : Runtime) (field : Option Json) : Option String :=
  (PyString.truthy (field.map fun defect => PyString.strip (runtime.str defect))).filter
    fun defect => PyString.lower defect ∉ ["none", "null", "n/a"]

/-- A confidence that is no number counts as missing; any other exception of `float()` escapes. -/
def readConfidence (runtime : Runtime) (field : Option Json) : Except String (Option ℚ) :=
  match field with
  | none => .ok none
  | some confidence =>
      match runtime.float confidence with
      | .ok value => .ok (some (clampConfidence value))
      | .error .ValueError => .ok none
      | .error .TypeError => .ok none
      | .error (.Other exception) => .error exception

/-- The words of a text that is not a JSON object. -/
def heuristicResult (cleaned content : String) : QualityResult :=
  let lower := PyString.lower cleaned
  let mentions (word : String) : Bool := PyString.contains lower word
  if mentions "pass" && !mentions "fail" then
    { verdict := .Pass, defectType := none, confidence := none, rawResponse := content }
  else if mentions "fail" || mentions "defect" || mentions "crack" || mentions "scratch" then
    { verdict := .Fail, defectType := some "detected_defect", confidence := none,
      rawResponse := content }
  else { verdict := .Inconclusive, defectType := none, confidence := none, rawResponse := content }

/-- Parse the vision model's output, or raise what `json.loads` or `float()` let through. -/
def parseQualityResponse (runtime : Runtime) (content : String) : Except String QualityResult := do
  let cleaned := PyString.strip content
  if cleaned = "" then
    return { verdict := .Inconclusive, defectType := none, confidence := none,
             rawResponse := content }
  match ← findJson runtime cleaned with
  | some (.Dict entries) =>
      let confidence ← readConfidence runtime (presentField entries "confidence")
      return { verdict := readVerdict runtime (lookup entries "verdict")
               defectType := readDefectType runtime (presentField entries "defect_type")
               confidence := confidence
               rawResponse := content }
  | _ => return heuristicResult cleaned content

/-- A confidence is reported as a share. -/
lemma clampConfidence_mem (value : PyFloat) :
    0 ≤ clampConfidence value ∧ clampConfidence value ≤ 1 := by
  cases value with
  | Finite value => exact ⟨le_max_left _ _, max_le (by decide) (min_le_left _ _)⟩
  | _ => exact ⟨by decide, by decide⟩

lemma readConfidence_mem {runtime : Runtime} {field : Option Json} {confidence : Option ℚ}
    (h : readConfidence runtime field = .ok confidence) :
    ∀ value ∈ confidence, 0 ≤ value ∧ value ≤ 1 := by
  simp only [readConfidence] at h
  split at h
  · cases h
    simp
  · split at h
    · cases h
      intro value hvalue
      cases Option.some.inj hvalue
      exact clampConfidence_mem _
    all_goals
      cases h
      try simp

lemma heuristicResult_confidence (cleaned content : String) :
    (heuristicResult cleaned content).confidence = none := by
  simp only [heuristicResult]
  split_ifs <;> rfl

/-- **A parsed confidence lies between 0 and 1.** -/
theorem parseQualityResponse_confidence {runtime : Runtime} {content : String}
    {result : QualityResult} (h : parseQualityResponse runtime content = .ok result) :
    ∀ value ∈ result.confidence, 0 ≤ value ∧ value ≤ 1 := by
  simp only [parseQualityResponse] at h
  split_ifs at h with hempty
  · cases Except.ok.inj h
    simp
  · obtain ⟨data, -, h⟩ := Fallible.bind_eq_ok.mp h
    split at h
    · obtain ⟨confidence, hconfidence, h⟩ := Fallible.bind_eq_ok.mp h
      cases Except.ok.inj h
      exact readConfidence_mem hconfidence
    · cases Except.ok.inj h
      rw [heuristicResult_confidence]
      simp

end CostPlatform
