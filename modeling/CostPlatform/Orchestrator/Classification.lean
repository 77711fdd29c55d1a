import CostPlatform.Library.PyJson
import CostPlatform.Lifecycle.Store
import Mathlib.Tactic.Linarith

/-!
# Request classification

Complexity and risk are rules over the shape of a request.  The payload is measured with a
worklist; `payloadSize_eq` says that the list is worked off and what the measure is.
-/

namespace CostPlatform

open PyJson

/-! ## Levels -/

abbrev Complexity := PolicyComplexity

def PolicyComplexity.value : PolicyComplexity → String
  | .Simple => "SIMPLE"
  | .Medium => "MEDIUM"
  | .Complex => "COMPLEX"

inductive BusinessPriority where
  | Low
  | Normal
  | High
  | Critical
  deriving DecidableEq, Repr

def BusinessPriority.value : BusinessPriority → String
  | .Low => "LOW"
  | .Normal => "NORMAL"
  | .High => "HIGH"
  | .Critical => "CRITICAL"

/-- `BusinessPriority(text)`, or `none` for the `ValueError`. -/
def BusinessPriority.ofValue (text : String) : Option BusinessPriority :=
  [.Low, .Normal, .High, .Critical].find? fun priority => BusinessPriority.value priority = text

/-- `list(BusinessPriority).index(priority)`. -/
def BusinessPriority.index : BusinessPriority → Nat
  | .Low => 0
  | .Normal => 1
  | .High => 2
  | .Critical => 3

inductive RiskLevel where
  | Low
  | Medium
  | High
  | Critical
  deriving DecidableEq, Repr

def RiskLevel.value : RiskLevel → String
  | .Low => "LOW"
  | .Medium => "MEDIUM"
  | .High => "HIGH"
  | .Critical => "CRITICAL"

/-- `RiskLevel(text)`, or `none` for the `ValueError`. -/
def RiskLevel.ofValue (text : String) : Option RiskLevel :=
  [.Low, .Medium, .High, .Critical].find? fun risk => RiskLevel.value risk = text

/-! ## Payload size -/

/-- One pass over the worklist, whose top is the head.  Keys go on before values, so a value comes
    off first. -/
def payloadSizeLoop (runtime : Runtime) : Nat → List Json → Nat → Nat
  | 0, _, total => total
  | _ + 1, [], total => total
  | fuel + 1, item :: stack, total =>
      match item with
      | .Text text => payloadSizeLoop runtime fuel stack (total + text.length)
      | .Dict entries =>
          payloadSizeLoop runtime fuel
            ((entries.map fun entry => entry.2).reverse
              ++ (entries.map fun entry => Json.Text entry.1).reverse ++ stack)
            total
      | .Items items => payloadSizeLoop runtime fuel (items.reverse ++ stack) total
      | .Null => payloadSizeLoop runtime fuel stack total
      | other => payloadSizeLoop runtime fuel stack (total + (runtime.str other).length)

/-- Approximate character size of the request payload. -/
def payloadSize (runtime : Runtime) (payload : Json) : Nat :=
  payloadSizeLoop runtime payload.weight [payload] 0

mutual

/-- The lengths of the texts, keys and printed numbers in a value, added up. -/
def printedLength (runtime : Runtime) : Json → Nat
  | .Null => 0
  | .Text text => text.length
  | .Items items => itemsLength runtime items
  | .Dict entries => entriesLength runtime entries
  | .Boolean value => (runtime.str (.Boolean value)).length
  | .Integer value => (runtime.str (.Integer value)).length
  | .Float value text => (runtime.str (.Float value text)).length

def itemsLength (runtime : Runtime) : List Json → Nat
  | [] => 0
  | item :: items => printedLength runtime item + itemsLength runtime items

def entriesLength (runtime : Runtime) : List (String × Json) → Nat
  | [] => 0
  | (key, value) :: entries =>
      key.length + printedLength runtime value + entriesLength runtime entries

end

section Worklist

variable {runtime : Runtime}

lemma itemsLength_eq (items : List Json) :
    itemsLength runtime items = (items.map (printedLength runtime)).sum := by
  induction items with
  | nil => simp [itemsLength]
  | cons item items ih => simp [itemsLength, ih]

lemma entriesLength_eq (entries : List (String × Json)) :
    entriesLength runtime entries
      = (entries.map fun entry => entry.1.length).sum
        + (entries.map fun entry => printedLength runtime entry.2).sum := by
  induction entries with
  | nil => simp [entriesLength]
  | cons entry entries ih =>
      simp only [entriesLength, ih, List.map_cons, List.sum_cons]
      omega

/-- **The loop adds what is on the worklist**, given a step for every value on it. -/
lemma payloadSizeLoop_eq (fuel : Nat) (stack : List Json) (total : Nat)
    (hfuel : (stack.map Json.weight).sum ≤ fuel) :
    payloadSizeLoop runtime fuel stack total
      = total + (stack.map (printedLength runtime)).sum := by
  induction fuel generalizing stack total with
  | zero =>
      cases stack with
      | nil => simp [payloadSizeLoop]
      | cons item stack =>
          have hpos := item.weight_pos
          simp only [List.map_cons, List.sum_cons] at hfuel
          omega
  | succ fuel ih =>
      cases stack with
      | nil => simp [payloadSizeLoop]
      | cons item stack =>
          simp only [List.map_cons, List.sum_cons] at hfuel
          cases item with
          | Dict entries =>
              simp only [Json.weight, entriesWeight_eq] at hfuel
              simp only [payloadSizeLoop]
              rw [ih]
              · simp only [printedLength, entriesLength_eq, List.map_append, List.map_reverse,
                  List.map_map, List.sum_append, List.sum_reverse, List.map_cons, List.sum_cons,
                  Function.comp_def]
                omega
              · simp only [List.map_append, List.map_reverse, List.map_map, List.sum_append,
                  List.sum_reverse, Function.comp_def, Json.weight]
                omega
          | Items items =>
              simp only [Json.weight, itemsWeight_eq] at hfuel
              simp only [payloadSizeLoop]
              rw [ih]
              · simp [printedLength, itemsLength_eq]
              · simp only [List.map_append, List.map_reverse, List.sum_append, List.sum_reverse]
                omega
          | _ =>
              simp only [Json.weight] at hfuel
              simp only [payloadSizeLoop]
              rw [ih _ _ (by omega)]
              simp [printedLength, Nat.add_assoc]

end Worklist

/-- **The worklist is worked off**, and the size is the total printed length. -/
theorem payloadSize_eq (runtime : Runtime) (payload : Json) :
    payloadSize runtime payload = printedLength runtime payload := by
  rw [payloadSize, payloadSizeLoop_eq _ _ _ (by simp)]
  simp

/-! ## Classification -/

/-- Cut-offs for the complexity classifier. -/
structure ComplexityThresholds where
  mediumChars : Int := 2000
  complexChars : Int := 12000
  complexImageCount : Int := 2
  highQualityRequirement : ℚ := 9 / 10

def DEFAULT_THRESHOLDS : ComplexityThresholds := {}

/-- Everything the classifier is allowed to look at. -/
structure ClassificationInput where
  workloadType : String
  businessPriority : BusinessPriority
  payload : List (String × Json)
  imageCount : Int := 0
  qualityRequirement : Option ℚ := none
  workloadRiskLevel : Option String := none

/-- Classify a request as SIMPLE, MEDIUM or COMPLEX. -/
def classifyComplexity (runtime : Runtime) (request : ClassificationInput)
    (thresholds : ComplexityThresholds) : Complexity :=
  let size := payloadSize runtime (.Dict request.payload)
  if thresholds.complexImageCount ≤ request.imageCount then .Complex
  else if thresholds.complexChars ≤ size then .Complex
  else if request.qualityRequirement.any (thresholds.highQualityRequirement ≤ ·) then .Complex
  else if thresholds.mediumChars ≤ size || request.imageCount = 1 then .Medium
  else .Simple

/-- A declared risk level wins; an unrecognised one falls through to the priority. -/
def determineRisk (request : ClassificationInput) : RiskLevel :=
  let derived : RiskLevel := match request.businessPriority with
    | .Low => .Low
    | .Normal => .Low
    | .High => .Medium
    | .Critical => .High
  match PyString.truthy request.workloadRiskLevel with
  | none => derived
  | some declared =>
      (RiskLevel.ofValue (PyString.upper (PyString.strip declared))).getD derived

end CostPlatform
