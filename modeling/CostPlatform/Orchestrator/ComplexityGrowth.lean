import CostPlatform.Library.Worklist
import CostPlatform.Orchestrator.Classification
import Mathlib.Data.List.Infix

/-!
# How the complexity follows the request

The payload is measured the same in whatever order its values come off the worklist.  `Grows` says
that a request is another one with keys, elements and characters added to the payload, more images
and a higher demand on quality.

More of a request is no reason to call it simpler, and `classifyComplexity_mono_iff` says when the
classifier does: a single image makes a request MEDIUM, and a second one takes that away where it
does not yet make it COMPLEX.
-/

namespace CostPlatform

open PyJson

/-! ## The worklist in any order -/

/-- What goes on the worklist for a value that comes off it. -/
def unpacked : Json → List Json
  | .Dict entries => entries.map (fun entry => .Text entry.1) ++ entries.map fun entry => entry.2
  | .Items items => items
  | _ => []

/-- What a value that comes off the worklist counts. -/
def printedAlone (runtime : Runtime) : Json → Nat
  | .Text text => text.length
  | .Null | .Dict _ | .Items _ => 0
  | other => (runtime.str other).length

/-- **The payload is measured in any order**: every way to work its values off comes to an end, and
    to the size that the loop returns, which is the lengths of all texts, keys and printed scalars
    added up. -/
def MeasuredInAnyOrder (runtime : Runtime) (payload : Json) : Prop :=
  (WellFounded fun state' state : List Json × Nat =>
      Worklist.Step unpacked (printedAlone runtime) state state')
    ∧ (∀ size, Worklist.Finishes unpacked (printedAlone runtime) [payload] 0 size
        ↔ size = printedLength runtime payload)
    ∧ payloadSize runtime payload = printedLength runtime payload

lemma printedLength_eq_unpacked (runtime : Runtime) (value : Json) :
    printedLength runtime value
      = printedAlone runtime value + ((unpacked value).map (printedLength runtime)).sum := by
  cases value with
  | Dict entries =>
      simp [printedLength, printedAlone, unpacked, entriesLength_eq, Function.comp_def]
  | Items items => simp [printedLength, printedAlone, unpacked, itemsLength_eq]
  | _ => simp [printedLength, printedAlone, unpacked]

lemma unpacked_weight_lt (value : Json) :
    ((unpacked value).map Json.weight).sum < value.weight := by
  cases value with
  | Dict entries =>
      simp only [unpacked, Json.weight, entriesWeight_eq, List.map_append, List.map_map,
        List.sum_append, Function.comp_def]
      omega
  | Items items => simp [unpacked, Json.weight, itemsWeight_eq]
  | _ => simp [unpacked, Json.weight]

lemma measuredInAnyOrder (runtime : Runtime) (payload : Json) :
    MeasuredInAnyOrder runtime payload := by
  refine ⟨Worklist.wellFounded_step unpacked_weight_lt, fun size => ?_, payloadSize_eq _ _⟩
  rw [Worklist.finishes_iff (printedLength_eq_unpacked runtime) unpacked_weight_lt]
  simp

/-! ## Growing requests -/

mutual

/-- A value with keys, elements or characters added to it, at any depth. -/
inductive ValueGrows : Json → Json → Prop
  | same (value : Json) : ValueGrows value value
  | text {text longer : String} :
      text.toList.Sublist longer.toList → ValueGrows (.Text text) (.Text longer)
  | items {items more : List Json} : ItemsGrow items more → ValueGrows (.Items items) (.Items more)
  | dict {entries more : List (String × Json)} :
      EntriesGrow entries more → ValueGrows (.Dict entries) (.Dict more)

inductive ItemsGrow : List Json → List Json → Prop
  | nil : ItemsGrow [] []
  | insert (item : Json) {items more : List Json} : ItemsGrow items more →
      ItemsGrow items (item :: more)
  | grow {item grown : Json} {items more : List Json} : ValueGrows item grown →
      ItemsGrow items more → ItemsGrow (item :: items) (grown :: more)

inductive EntriesGrow : List (String × Json) → List (String × Json) → Prop
  | nil : EntriesGrow [] []
  | insert (entry : String × Json) {entries more : List (String × Json)} :
      EntriesGrow entries more → EntriesGrow entries (entry :: more)
  | grow {key longer : String} {value grown : Json} {entries more : List (String × Json)} :
      key.toList.Sublist longer.toList → ValueGrows value grown → EntriesGrow entries more →
      EntriesGrow ((key, value) :: entries) ((longer, grown) :: more)

end

mutual

theorem ValueGrows.printedLength_le {runtime : Runtime} :
    ∀ {value more : Json}, ValueGrows value more →
      printedLength runtime value ≤ printedLength runtime more
  | _, _, .same _ => Nat.le_refl _
  | _, _, .text h => h.length_le
  | _, _, .items h => h.itemsLength_le
  | _, _, .dict h => h.entriesLength_le

theorem ItemsGrow.itemsLength_le {runtime : Runtime} :
    ∀ {items more : List Json}, ItemsGrow items more →
      itemsLength runtime items ≤ itemsLength runtime more
  | _, _, .nil => Nat.le_refl _
  | _, _, .insert _ h => Nat.le_add_left_of_le h.itemsLength_le
  | _, _, .grow hitem h => Nat.add_le_add hitem.printedLength_le h.itemsLength_le

theorem EntriesGrow.entriesLength_le {runtime : Runtime} :
    ∀ {entries more : List (String × Json)}, EntriesGrow entries more →
      entriesLength runtime entries ≤ entriesLength runtime more
  | _, _, .nil => Nat.le_refl _
  | _, _, .insert _ h => Nat.le_add_left_of_le h.entriesLength_le
  | _, _, .grow hkey hvalue h =>
      Nat.add_le_add (Nat.add_le_add hkey.length_le hvalue.printedLength_le) h.entriesLength_le

end

/-- A request with more to it: a larger payload, more images, and a higher demand on quality, or one
    where there was none. -/
structure Grows (request grown : ClassificationInput) : Prop where
  payload : EntriesGrow request.payload grown.payload
  imageCount : request.imageCount ≤ grown.imageCount
  qualityRequirement : ∀ quality, request.qualityRequirement = some quality →
    ∃ higher, grown.qualityRequirement = some higher ∧ quality ≤ higher

lemma Grows.payloadSize_le {runtime : Runtime} {request grown : ClassificationInput}
    (h : Grows request grown) :
    payloadSize runtime (.Dict request.payload) ≤ payloadSize runtime (.Dict grown.payload) := by
  rw [payloadSize_eq, payloadSize_eq]
  exact h.payload.entriesLength_le

lemma Grows.demanding {request grown : ClassificationInput} (h : Grows request grown) {cutOff : ℚ}
    (hrequest : request.qualityRequirement.any (cutOff ≤ ·) = true) :
    grown.qualityRequirement.any (cutOff ≤ ·) = true := by
  obtain ⟨quality, hquality, hcutOff⟩ := Option.any_eq_true _ _ |>.mp hrequest
  obtain ⟨higher, hhigher, hle⟩ := h.qualityRequirement quality hquality
  rw [hhigher, Option.any_some]
  exact decide_eq_true ((of_decide_eq_true hcutOff).trans hle)

/-! ## The class of a grown request -/

def PolicyComplexity.rank : PolicyComplexity → Nat
  | .Simple => 0
  | .Medium => 1
  | .Complex => 2

/-- What makes a request COMPLEX. -/
def IsComplex (runtime : Runtime) (thresholds : ComplexityThresholds)
    (request : ClassificationInput) : Prop :=
  thresholds.complexImageCount ≤ request.imageCount
    ∨ thresholds.complexChars ≤ payloadSize runtime (.Dict request.payload)
    ∨ request.qualityRequirement.any (thresholds.highQualityRequirement ≤ ·) = true

/-- What makes a request at least MEDIUM. -/
def IsMedium (runtime : Runtime) (thresholds : ComplexityThresholds)
    (request : ClassificationInput) : Prop :=
  thresholds.mediumChars ≤ payloadSize runtime (.Dict request.payload) ∨ request.imageCount = 1

/-- One image that becomes several, too few for COMPLEX, with nothing else to make the request
    MEDIUM. -/
def LosesItsImage (runtime : Runtime) (thresholds : ComplexityThresholds)
    (request grown : ClassificationInput) : Prop :=
  request.imageCount = 1 ∧ 1 < grown.imageCount ∧ grown.imageCount < thresholds.complexImageCount
    ∧ payloadSize runtime (.Dict grown.payload) < thresholds.mediumChars
    ∧ grown.qualityRequirement.any (thresholds.highQualityRequirement ≤ ·) = false

section Monotone

variable {runtime : Runtime} {thresholds : ComplexityThresholds}
  {request grown : ClassificationInput}

lemma two_le_rank_iff :
    2 ≤ (classifyComplexity runtime request thresholds).rank
      ↔ IsComplex runtime thresholds request := by
  simp only [classifyComplexity, IsComplex]
  split_ifs <;> simp_all [PolicyComplexity.rank]

lemma one_le_rank_iff :
    1 ≤ (classifyComplexity runtime request thresholds).rank
      ↔ IsComplex runtime thresholds request ∨ IsMedium runtime thresholds request := by
  simp only [classifyComplexity, IsComplex, IsMedium]
  split_ifs <;> simp_all [PolicyComplexity.rank]

lemma rank_le_iff {complexity other : PolicyComplexity} :
    complexity.rank ≤ other.rank
      ↔ (2 ≤ complexity.rank → 2 ≤ other.rank) ∧ (1 ≤ complexity.rank → 1 ≤ other.rank) := by
  cases complexity <;> cases other <;> simp [PolicyComplexity.rank]

/-- What makes a request COMPLEX makes it so with more to it. -/
lemma Grows.isComplex (h : Grows request grown) (hrequest : IsComplex runtime thresholds request) :
    IsComplex runtime thresholds grown := by
  rcases hrequest with himages | hsize | hquality
  · exact .inl (himages.trans h.imageCount)
  · exact .inr (.inl (hsize.trans (Int.ofNat_le.mpr h.payloadSize_le)))
  · exact .inr (.inr (h.demanding hquality))

/-- What makes a request MEDIUM does not, with more to it, only where a single image did. -/
lemma Grows.loses_iff (h : Grows request grown)
    (hcutOffs : thresholds.mediumChars ≤ thresholds.complexChars) :
    (IsMedium runtime thresholds request ∧ ¬ IsComplex runtime thresholds grown
        ∧ ¬ IsMedium runtime thresholds grown)
      ↔ LosesItsImage runtime thresholds request grown := by
  have hsize : (payloadSize runtime (.Dict request.payload) : Int)
      ≤ payloadSize runtime (.Dict grown.payload) := Int.ofNat_le.mpr h.payloadSize_le
  have himages := h.imageCount
  simp only [IsMedium, IsComplex, LosesItsImage, not_or, not_le, Bool.not_eq_true]
  constructor
  · rintro ⟨hmedium, ⟨hfew, -, hquality⟩, hsmall, hnotOne⟩
    have hone : request.imageCount = 1 := hmedium.resolve_left (by omega)
    exact ⟨hone, by omega, hfew, hsmall, hquality⟩
  · rintro ⟨hone, hmore, hfew, hsmall, hquality⟩
    exact ⟨.inr hone, ⟨hfew, by omega, hquality⟩, hsmall, by omega⟩

end Monotone

/-- The payloads are measured in any order, and more of a request makes it no simpler. -/
def ClassifiesMonotonically (runtime : Runtime) (thresholds : ComplexityThresholds)
    (request grown : ClassificationInput) : Prop :=
  MeasuredInAnyOrder runtime (.Dict request.payload)
    ∧ MeasuredInAnyOrder runtime (.Dict grown.payload)
    ∧ (classifyComplexity runtime request thresholds).rank
      ≤ (classifyComplexity runtime grown thresholds).rank

/-- **More of a request makes it no simpler** exactly where it does not lose the one image that made
    it MEDIUM. -/
theorem classifyComplexity_mono_iff (runtime : Runtime) (thresholds : ComplexityThresholds)
    (request grown : ClassificationInput)
    (hcutOffs : thresholds.mediumChars ≤ thresholds.complexChars) (hgrows : Grows request grown) :
    ClassifiesMonotonically runtime thresholds request grown
      ↔ ¬ LosesItsImage runtime thresholds request grown := by
  have hcomplex := @Grows.isComplex runtime thresholds request grown hgrows
  rw [← hgrows.loses_iff hcutOffs, ClassifiesMonotonically, rank_le_iff, two_le_rank_iff,
    two_le_rank_iff, one_le_rank_iff, one_le_rank_iff]
  constructor
  · rintro ⟨-, -, -, hmedium⟩ ⟨hrequest, hnotComplex, hnotMedium⟩
    exact (hmedium (.inr hrequest)).elim hnotComplex hnotMedium
  · intro hkept
    refine ⟨measuredInAnyOrder _ _, measuredInAnyOrder _ _, hcomplex, ?_⟩
    rintro (hrequest | hrequest)
    · exact .inl (hcomplex hrequest)
    · by_contra hlost
      exact hkept ⟨hrequest, not_or.mp hlost⟩

/-- A request with so many pictures and a short note. -/
def pictures (count : Int) : ClassificationInput where
  workloadType := "quality_inspection"
  businessPriority := .Normal
  payload := [("note", .Text "scratch")]
  imageCount := count

/-- No texts read or printed but those of single values. -/
def scalarRuntime : Runtime where
  jsonLoads _ := .error .JSONDecodeError
  jsonDumps _ := .ok ""
  float _ := .error .TypeError
  repr _ := ""

lemma pictures_grow : Grows (pictures 1) (pictures 2) where
  payload := .grow (List.Sublist.refl _) (.same _) .nil
  imageCount := by decide
  qualityRequirement := fun _ h => absurd h.symm (Option.some_ne_none _)

/-- By default a second picture makes a request COMPLEX. -/
theorem secondPicture_mono :
    ClassifiesMonotonically scalarRuntime DEFAULT_THRESHOLDS (pictures 1) (pictures 2) :=
  (classifyComplexity_mono_iff scalarRuntime DEFAULT_THRESHOLDS (pictures 1) (pictures 2)
    (by decide) pictures_grow).mpr fun hlost => absurd hlost.2.2.1 (by decide)

/-- The default cut-offs, but for the number of pictures that makes a request COMPLEX. -/
def threePictures : ComplexityThresholds := { complexImageCount := 3 }

/-- Where only the third one does, a second picture makes a MEDIUM request SIMPLE. -/
theorem secondPicture_simple :
    threePictures.mediumChars ≤ threePictures.complexChars ∧ Grows (pictures 1) (pictures 2)
      ∧ ¬ ClassifiesMonotonically scalarRuntime threePictures (pictures 1) (pictures 2) :=
  ⟨by decide, pictures_grow, fun h => absurd h.2.2 (by decide +kernel)⟩

end CostPlatform
