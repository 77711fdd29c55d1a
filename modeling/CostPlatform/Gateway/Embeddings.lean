import CostPlatform.Gateway.ResilientGateway
import CostPlatform.Library.Ranking
import CostPlatform.Orchestrator.Plan

/-!
# Embeddings

The adapter asks the provider for a vector per input and puts the items of the answer in the order
of their labels.  An item without a label goes where zero goes.  What is checked is how many items
came and that each has a vector.

`embed_aligned_iff` says for which answers the vectors end up with their inputs: no item has a
label, or the labels are the places of the inputs, each of them once.
-/

namespace CostPlatform

open PyJson

/-! ## Requests and answers -/

/-- A label as the provider sends it.  Numbers compare with numbers and texts with texts, and
    nothing else compares. -/
inductive IndexLabel where
  | Number (value : ℚ)
  | Text (value : String)
  | Null
  | Other
  deriving DecidableEq, Repr

/-- One item of an answer, with the attributes it has. -/
structure EmbeddingItem where
  index : Option IndexLabel := none
  embedding : Option Json := none
  deriving Repr

/-- The token counts of an answer, as they came. -/
structure RawUsage where
  promptTokens : Option Json := none
  completionTokens : Option Json := none
  totalTokens : Option Json := none
  deriving Repr

structure EmbeddingsAnswer where
  data : Option (List EmbeddingItem)
  model : Option Json := none
  usage : Option RawUsage := none
  deriving Repr

structure EmbeddingRequest where
  model : String
  inputs : List String
  timeoutSeconds : Option ℚ := none
  requestId : Option String := none
  traceId : Option String := none
  deriving DecidableEq, Repr

/-- What is sent to the provider. -/
structure EmbeddingsCall where
  model : String
  input : List String
  timeout : ℚ
  extraHeaders : List (String × String)
  deriving DecidableEq, Repr

/-- One vector per input, in the order the inputs were supplied. -/
structure EmbeddingResponse where
  model : String
  provider : String
  usage : TokenUsage := {}
  latencyMs : ℚ
  attempts : Int := 1
  embeddings : List (List PyFloat)
  deriving DecidableEq, Repr

inductive EmbedError where
  /-- The provider's error, normalized. -/
  | Provider (error : GatewayError)
  /-- A `GatewayResponseError`. -/
  | Response (message : String) (details : List (String × Nat))
  | Raised (error : FloatError)
  deriving DecidableEq, Repr

structure GenAILabAdapter where
  runtime : Runtime
  /-- `int(value)`. -/
  int : Json → Except FloatError Int
  genaiTimeoutSeconds : ℚ
  latencyMs : ℚ
  /-- `client.embeddings.create`, with its errors normalized. -/
  create : EmbeddingsCall → Except GatewayError EmbeddingsAnswer

/-! ## The order of the items -/

/-- `getattr(item, "index", 0)`. -/
def EmbeddingItem.label (item : EmbeddingItem) : IndexLabel := item.index.getD (.Number 0)

def IndexLabel.number? : IndexLabel → Option ℚ
  | .Number value => some value
  | _ => none

def IndexLabel.text? : IndexLabel → Option String
  | .Text value => some value
  | _ => none

/-- `sorted(items, key=...)`.  Labels that do not compare raise as soon as there are two of them. -/
def sortedByLabel (items : List EmbeddingItem) : Except EmbedError (List EmbeddingItem) :=
  if items.length < 2 then .ok items
  else if items.all fun item => item.label.number?.isSome then
    .ok (Ranking.sortedBy (fun item : EmbeddingItem => item.label.number?.getD 0) items)
  else if items.all fun item => item.label.text?.isSome then
    .ok (Ranking.sortedBy (fun item : EmbeddingItem => item.label.text?.getD "") items)
  else .error (.Raised .TypeError)

namespace GenAILabAdapter

variable (adapter : GenAILabAdapter)

/-! ## Decoding -/

def correlationHeaders (requestId traceId : Option String) : List (String × String) :=
  ((PyString.truthy requestId).map fun id => ("X-Request-ID", id)).toList
    ++ ((PyString.truthy traceId).map fun id => ("X-Trace-ID", id)).toList

/-- `for value in embedding`. -/
def iterate : Json → Except EmbedError (List Json)
  | .Items items => .ok items
  | .Text text => .ok (text.toList.map fun c => .Text (String.singleton c))
  | .Dict entries => .ok (entries.map fun entry => .Text entry.1)
  | _ => .error (.Raised .TypeError)

def toFloat (value : Json) : Except EmbedError PyFloat :=
  (adapter.runtime.float value).mapError .Raised

/-- The vector of an item. -/
def vectorOf (item : EmbeddingItem) : Except EmbedError (List PyFloat) := do
  let embedding ← Fallible.demand (item.embedding.filter Json.truthy)
    (.Response "Embedding item contained no vector" [])
  let values ← iterate embedding
  values.mapM adapter.toFloat

/-- Only what cannot be read as a number counts as absent. -/
def intOrNone : Option Json → Except EmbedError (Option Int)
  | none | some .Null | some (.Boolean _) => .ok none
  | some value =>
      match adapter.int value with
      | .ok count => .ok (some count)
      | .error (.Other exception) => .error (.Raised (.Other exception))
      | .error _ => .ok none

/-- Read token usage only when the provider actually reported it. -/
def extractUsage : Option RawUsage → Except EmbedError TokenUsage
  | none => .ok {}
  | some raw => do
      let inputTokens ← adapter.intOrNone raw.promptTokens
      let outputTokens ← adapter.intOrNone raw.completionTokens
      let totalTokens ← adapter.intOrNone raw.totalTokens
      if inputTokens.isNone && outputTokens.isNone && totalTokens.isNone then return {}
      return {
        inputTokens := inputTokens
        outputTokens := outputTokens
        totalTokens := totalTokens
        provenance := .Actual }

def embeddingsCall (request : EmbeddingRequest) : EmbeddingsCall where
  model := request.model
  input := request.inputs
  timeout := (request.timeoutSeconds.filter (· ≠ 0)).getD adapter.genaiTimeoutSeconds
  extraHeaders := correlationHeaders request.requestId request.traceId

def embed (request : EmbeddingRequest) : Except EmbedError EmbeddingResponse := do
  let answer ← (adapter.create (adapter.embeddingsCall request)).mapError .Provider
  let items := answer.data.getD []
  -- a partial result would silently misalign vectors with inputs
  Fallible.require (items.length = request.inputs.length)
    (.Response "Embedding count did not match the number of inputs"
      [("expected", request.inputs.length), ("received", items.length)])
  let ordered ← sortedByLabel items
  let vectors ← ordered.mapM adapter.vectorOf
  let usage ← adapter.extractUsage answer.usage
  return {
    model := (answer.model.map adapter.runtime.str).getD request.model
    provider := "genailab"
    usage := usage
    latencyMs := adapter.latencyMs
    embeddings := vectors }

/-! ## Which vectors belong to which inputs -/

/-- An item that carries no label. -/
def Unlabelled (item : EmbeddingItem) : Prop := item.index = none ∨ item.index = some .Null

/-- **Each vector stands where it belongs**: at its label or, where nothing is labelled, where its
    item stood. -/
def AlignedWith (items : List EmbeddingItem) (inputs : Nat) (vectors : List (List PyFloat)) :
    Prop :=
  vectors.length = inputs
    ∧ ((∀ item ∈ items, Unlabelled item) → items.mapM adapter.vectorOf = .ok vectors)
    ∧ ((∃ item ∈ items, ¬ Unlabelled item) →
      ∀ (place : Nat) (h : place < vectors.length), ∃ item ∈ items,
        item.index = some (.Number place) ∧ adapter.vectorOf item = .ok vectors[place])

/-- No answer of the provider ends up misaligned. -/
def NeverMisaligned (request : EmbeddingRequest) : Prop :=
  ∀ answer response, adapter.create (adapter.embeddingsCall request) = .ok answer →
    adapter.embed request = .ok response →
      adapter.AlignedWith (answer.data.getD []) request.inputs.length response.embeddings

/-- Labels that `sorted` can put in order. -/
def Comparable (items : List EmbeddingItem) : Prop :=
  items.length < 2 ∨ (∀ item ∈ items, item.label.number?.isSome = true)
    ∨ ∀ item ∈ items, item.label.text?.isSome = true

/-- An answer that is taken: as many items as inputs, labels that compare, a vector in each item and
    token counts that can be read. -/
def Taken (request : EmbeddingRequest) (answer : EmbeddingsAnswer) : Prop :=
  (answer.data.getD []).length = request.inputs.length ∧ Comparable (answer.data.getD [])
    ∧ (∀ item ∈ answer.data.getD [], ∃ vector, adapter.vectorOf item = .ok vector)
    ∧ ∃ usage, adapter.extractUsage answer.usage = .ok usage

/-- The labels are the places of the items, each of them once. -/
def LabelledByPlace (items : List EmbeddingItem) : Prop :=
  (items.map EmbeddingItem.index).Perm
    ((List.range items.length).map fun place : Nat => some (.Number (place : ℚ)))

variable {adapter} {request : EmbeddingRequest} {answer : EmbeddingsAnswer}
  {items ordered : List EmbeddingItem}

lemma perm_of_sortedByLabel (h : sortedByLabel items = .ok ordered) : ordered.Perm items := by
  rw [sortedByLabel] at h
  split_ifs at h
  · cases h
    exact List.Perm.refl _
  · cases h
    exact Ranking.perm_sortedBy _ _
  · cases h
    exact Ranking.perm_sortedBy _ _

lemma sortedByLabel_succeeds_iff :
    (∃ ordered, sortedByLabel items = .ok ordered) ↔ Comparable items := by
  rw [sortedByLabel, Comparable]
  simp only [List.all_eq_true]
  split_ifs <;> simp_all

/-- Numbers are sorted as numbers, however few there are. -/
lemma sortedByLabel_of_numbers (h : ∀ item ∈ items, item.label.number?.isSome = true) :
    sortedByLabel items
      = .ok (Ranking.sortedBy (fun item : EmbeddingItem => item.label.number?.getD 0) items) := by
  rw [sortedByLabel]
  split_ifs with hfew hall
  · match items, hfew with
    | [], _ => rfl
    | [item], _ => rfl
  · rfl
  · exact absurd (List.all_eq_true.mpr h) hall
  · exact absurd (List.all_eq_true.mpr h) hall

/-- Items without labels stay in their order. -/
lemma sortedByLabel_of_unlabelled (hitems : ∀ item ∈ items, Unlabelled item)
    (h : sortedByLabel items = .ok ordered) : ordered = items := by
  have htexts : ∀ item ∈ items, item.label.text?.isSome = false := by
    intro item hitem
    rcases hitems item hitem with hnone | hnull
    · rw [EmbeddingItem.label, hnone]
      rfl
    · rw [EmbeddingItem.label, hnull]
      rfl
  rw [sortedByLabel] at h
  split_ifs at h with hfew hnumbers hall
  · exact (Except.ok.inj h).symm
  · have hkeys : ∀ item ∈ items, item.label.number?.getD 0 = 0 := by
      intro item hitem
      rcases hitems item hitem with hnone | hnull
      · rw [EmbeddingItem.label, hnone]
        rfl
      · rw [EmbeddingItem.label, hnull]
        rfl
    cases h
    refine List.Pairwise.insertionSort_eq ?_
    exact List.pairwise_of_forall_mem_list fun item hitem other hother =>
      ((hkeys item hitem).trans (hkeys other hother).symm).le
  · match items, hfew with
    | item :: _, _ =>
        have hitem := List.all_eq_true.mp hall item List.mem_cons_self
        rw [htexts item List.mem_cons_self] at hitem
        cases hitem

/-- An item of a list that is labelled by place has a place for its label. -/
lemma LabelledByPlace.index_eq (h : LabelledByPlace items) {item : EmbeddingItem}
    (hitem : item ∈ items) : ∃ place < items.length, item.index = some (.Number (place : ℚ)) := by
  obtain ⟨place, hplace, heq⟩ := List.mem_map.mp (h.mem_iff.mp (List.mem_map_of_mem hitem))
  exact ⟨place, List.mem_range.mp hplace, heq.symm⟩

/-- **Labels that are the places of the items** are sorted to their places. -/
lemma LabelledByPlace.index_ordered (h : LabelledByPlace items)
    (hordered : sortedByLabel items = .ok ordered) (place : Nat) (hplace : place < ordered.length) :
    ordered[place].index = some (.Number (place : ℚ)) := by
  have hperm := perm_of_sortedByLabel hordered
  have hkeys : ordered.map (fun item => item.label.number?.getD 0)
      = (List.range items.length).map fun place : Nat => (place : ℚ) := by
    refine List.Perm.eq_of_pairwise (fun a b _ _ => le_antisymm) ?_ ?_ ?_
    · rw [sortedByLabel_of_numbers fun item hitem => ?_] at hordered
      · cases hordered
        exact List.pairwise_map.mpr (Ranking.pairwise_sortedBy _ _)
      · obtain ⟨place, -, hindex⟩ := h.index_eq hitem
        rw [EmbeddingItem.label, hindex]
        rfl
    · exact List.pairwise_map.mpr (List.pairwise_lt_range.imp fun hlt => Nat.cast_le.mpr hlt.le)
    · have hlabels := h.map fun index => (index.getD (.Number 0)).number?.getD 0
      rw [List.map_map, List.map_map] at hlabels
      exact (hperm.map _).trans hlabels
  obtain ⟨label, -, hindex⟩ := h.index_eq (hperm.mem_iff.mp (List.getElem_mem hplace))
  have hkey : (ordered.map fun item => item.label.number?.getD 0)[place]? = some (label : ℚ) := by
    rw [List.getElem?_map, List.getElem?_eq_getElem hplace, Option.map_some, EmbeddingItem.label,
      hindex]
    rfl
  have hlt : place < items.length := hperm.length_eq ▸ hplace
  rw [hkeys, List.getElem?_map, List.getElem?_range hlt, Option.map_some, Option.some.injEq] at hkey
  rw [hindex, hkey]

/-- Labels with one item at each place, and no more items, are the places. -/
lemma labelledByPlace_of_forall
    (h : ∀ place < items.length, ∃ item ∈ items, item.index = some (.Number (place : ℚ))) :
    LabelledByPlace items := by
  have hsub : ((List.range items.length).map fun place : Nat => some (IndexLabel.Number place))
      ⊆ items.map EmbeddingItem.index := by
    intro index hindex
    obtain ⟨place, hplace, rfl⟩ := List.mem_map.mp hindex
    obtain ⟨item, hitem, hlabel⟩ := h place (List.mem_range.mp hplace)
    exact List.mem_map.mpr ⟨item, hitem, hlabel⟩
  have hnodup : ((List.range items.length).map fun place : Nat =>
      some (IndexLabel.Number place)).Nodup := by
    refine List.nodup_range.map fun place other heq => ?_
    exact Nat.cast_injective (IndexLabel.Number.inj (Option.some.inj heq))
  exact ((hnodup.subperm hsub).perm_of_length_le (by simp)).symm

/-- **When an answer is taken**, and what becomes of its vectors. -/
lemma embed_eq_ok_iff (hcreate : adapter.create (adapter.embeddingsCall request) = .ok answer)
    {vectors : List (List PyFloat)} :
    (∃ response, adapter.embed request = .ok response ∧ response.embeddings = vectors)
      ↔ (answer.data.getD []).length = request.inputs.length
        ∧ (∃ ordered, sortedByLabel (answer.data.getD []) = .ok ordered
          ∧ ordered.mapM adapter.vectorOf = .ok vectors)
        ∧ ∃ usage, adapter.extractUsage answer.usage = .ok usage := by
  have hanswer : (adapter.create (adapter.embeddingsCall request)).mapError EmbedError.Provider
      = .ok answer := by
    rw [hcreate]
    rfl
  simp only [embed, hanswer, Fallible.ok_bind, Fallible.check_bind_eq_ok, Fallible.require_eq_ok]
  simp only [Fallible.bind_eq_ok]
  constructor
  · rintro ⟨response, ⟨hlength, ordered, hordered, _, hvectors, usage, husage, hresponse⟩, rfl⟩
    cases Except.ok.inj hresponse
    exact ⟨hlength, ⟨ordered, hordered, hvectors⟩, usage, husage⟩
  · rintro ⟨hlength, ⟨ordered, hordered, hvectors⟩, usage, husage⟩
    exact ⟨_, ⟨hlength, ordered, hordered, vectors, hvectors, usage, husage, rfl⟩, rfl⟩

lemma exists_response_iff (hcreate : adapter.create (adapter.embeddingsCall request) = .ok answer) :
    (∃ response, adapter.embed request = .ok response) ↔ adapter.Taken request answer := by
  have hvectors := @embed_eq_ok_iff adapter request answer hcreate
  constructor
  · rintro ⟨response, hresponse⟩
    obtain ⟨hlength, ⟨ordered, hordered, hmap⟩, husage⟩ := hvectors.mp ⟨response, hresponse, rfl⟩
    refine ⟨hlength, sortedByLabel_succeeds_iff.mp ⟨ordered, hordered⟩, fun item hitem => ?_,
      husage⟩
    exact Fallible.mapM_succeeds_iff.mp ⟨_, hmap⟩ item
      ((perm_of_sortedByLabel hordered).mem_iff.mpr hitem)
  · rintro ⟨hlength, hcomparable, hitems, husage⟩
    obtain ⟨ordered, hordered⟩ := sortedByLabel_succeeds_iff.mpr hcomparable
    obtain ⟨vectors, hmap⟩ := Fallible.mapM_succeeds_iff.mpr fun item hitem =>
      hitems item ((perm_of_sortedByLabel hordered).mem_iff.mp hitem)
    obtain ⟨response, hresponse, -⟩ := hvectors.mpr ⟨hlength, ⟨ordered, hordered, hmap⟩, husage⟩
    exact ⟨response, hresponse⟩

/-- **No embedding is misaligned** exactly where each answer that is taken has no labels, or the
    places of the inputs for labels, each of them once. -/
theorem embed_aligned_iff (adapter : GenAILabAdapter) (request : EmbeddingRequest) :
    adapter.NeverMisaligned request
      ↔ ∀ answer, adapter.create (adapter.embeddingsCall request) = .ok answer →
        adapter.Taken request answer →
          (∀ item ∈ answer.data.getD [], Unlabelled item)
            ∨ LabelledByPlace (answer.data.getD []) := by
  constructor
  · intro haligned answer hcreate htaken
    obtain ⟨response, hresponse⟩ := (exists_response_iff hcreate).mpr htaken
    obtain ⟨hlength, -, hplaces⟩ := haligned answer response hcreate hresponse
    refine or_iff_not_imp_left.mpr fun hlabelled => labelledByPlace_of_forall fun place hplace => ?_
    push Not at hlabelled
    rw [htaken.1, ← hlength] at hplace
    obtain ⟨item, hitem, hindex, -⟩ := hplaces hlabelled place hplace
    exact ⟨item, hitem, hindex⟩
  · intro hanswers answer response hcreate hresponse
    have htaken := (exists_response_iff hcreate).mp ⟨response, hresponse⟩
    obtain ⟨hcount, ⟨ordered, hordered, hmap⟩, -⟩ :=
      (embed_eq_ok_iff hcreate).mp ⟨response, hresponse, rfl⟩
    have hperm := perm_of_sortedByLabel hordered
    have hvectors := Fallible.mapM_eq_ok_iff_forall₂.mp hmap
    refine ⟨hvectors.length_eq.symm.trans (hperm.length_eq.trans hcount), fun hunlabelled => ?_,
      fun ⟨item, hitem, hlabelled⟩ place hplace => ?_⟩
    · rw [← sortedByLabel_of_unlabelled hunlabelled hordered]
      exact hmap
    · have hplaces := (hanswers answer hcreate htaken).resolve_left fun hunlabelled =>
        hlabelled (hunlabelled item hitem)
      have hplace' : place < ordered.length := hvectors.length_eq ▸ hplace
      refine ⟨ordered[place], hperm.mem_iff.mp (List.getElem_mem hplace'),
        hplaces.index_ordered hordered place hplace', ?_⟩
      exact hvectors.get hplace' hplace

/-- A provider whose answer is always the same. -/
def answering (items : List EmbeddingItem) : GenAILabAdapter where
  runtime :=
    { jsonLoads _ := .error .JSONDecodeError
      jsonDumps _ := .ok ""
      float
        | .Float value _ => .ok value
        | _ => .error .TypeError
      repr _ := "" }
  int
    | .Integer value => .ok value
    | _ => .error .ValueError
  genaiTimeoutSeconds := 30
  latencyMs := 12
  create _ := .ok { data := some items }

/-- An item with a vector of one number. -/
def itemAt (index : Option IndexLabel) (value : ℚ) : EmbeddingItem where
  index := index
  embedding := some (.Items [.Float (.Finite value) ""])

def twoInputs : EmbeddingRequest := { model := "text-embedding", inputs := ["spindle", "bearing"] }

/-- Two items that are both labelled as the first. -/
def bothFirst : List EmbeddingItem := [itemAt (some (.Number 0)) 7, itemAt (some (.Number 0)) 8]

/-- The second input gets a vector that the provider did not label as its. -/
theorem bothFirst_misaligned : ¬ (answering bothFirst).NeverMisaligned twoInputs := by
  intro haligned
  obtain ⟨response, hresponse, hembeddings⟩ : ∃ response,
      (answering bothFirst).embed twoInputs = .ok response
        ∧ response.embeddings = [[.Finite 7], [.Finite 8]] :=
    Fallible.toOption_map_eq_some.mp (by decide +kernel)
  obtain ⟨-, -, hplaces⟩ := haligned _ response rfl hresponse
  obtain ⟨item, hitem, hindex, -⟩ :=
    hplaces ⟨_, List.mem_cons_self, by rw [Unlabelled]; decide⟩ 1 (by rw [hembeddings]; decide)
  rcases List.mem_pair.mp hitem with rfl | rfl
  · exact absurd hindex (by decide +kernel)
  · exact absurd hindex (by decide +kernel)

end GenAILabAdapter

end CostPlatform
