import CostPlatform.Gateway.Embeddings
import CostPlatform.Library.Base64

/-!
# Chat completions

The adapter puts a request's messages into the provider's format and takes the text out of the first
choice of the answer.  An image goes out as a data URL.

`read_chatCall` is that nothing is lost on the way: what was asked can be read off the call.  The
ceiling on tool calls is no part of it, and requests that differ in nothing else are sent alike
(`chatCall_eq_iff`).
-/

namespace CostPlatform

open PyJson

/-! ## Requests -/

/-- Who speaks in a message. -/
inductive MessageRole where
  | System
  | User
  | Assistant
  deriving DecidableEq, Repr

def MessageRole.value : MessageRole → String
  | .System => "system"
  | .User => "user"
  | .Assistant => "assistant"

/-- `[a-zA-Z0-9.+-]`. -/
def isSubtypeChar (c : Char) : Bool :=
  ('a' ≤ c && c ≤ 'z') || ('A' ≤ c && c ≤ 'Z') || ('0' ≤ c && c ≤ '9') || c ∈ ['.', '+', '-']

/-- `^image/[a-zA-Z0-9.+-]+$`. -/
def IsImageType (mediaType : String) : Prop :=
  ∃ subtype : List Char, mediaType.toList = "image/".toList ++ subtype ∧ subtype ≠ []
    ∧ ∀ c ∈ subtype, isSubtypeChar c = true

/-- A chat message.  Its images have a media type of their kind. -/
structure Message where
  role : MessageRole
  content : MessageContent
  imagesTyped : ∀ parts, content = .Parts parts → ∀ data mediaType,
    .ImagePart data mediaType ∈ parts → IsImageType mediaType

def ContentPart.isImage : ContentPart → Bool
  | .ImagePart _ _ => true
  | .TextPart _ => false

def Message.hasImage (message : Message) : Bool :=
  match message.content with
  | .Text _ => false
  | .Parts parts => parts.any ContentPart.isImage

structure TextGenerationRequest where
  model : String
  messages : List Message
  timeoutSeconds : Option ℚ := none
  requestId : Option String := none
  traceId : Option String := none
  maxOutputTokens : Option Int := none
  temperature : Option ℚ := none
  responseFormat : ResponseFormat := .Text
  maxToolCalls : Option Int := none
  modelNonempty : 1 ≤ model.length
  messagesNonempty : 1 ≤ messages.length
  timeoutPositive : ∀ seconds ∈ timeoutSeconds, 0 < seconds
  maxOutputTokensPositive : ∀ tokens ∈ maxOutputTokens, 0 < tokens
  temperatureValid : ∀ degree ∈ temperature, 0 ≤ degree ∧ degree ≤ 2
  maxToolCallsValid : ∀ calls ∈ maxToolCalls, 0 ≤ calls

/-! ## The call -/

/-- The arguments of `client.chat.completions.create`.  What is unset is left out. -/
structure ChatCall where
  model : String
  messages : List Json
  maxTokens : Option Int
  temperature : Option ℚ
  responseFormat : Option Json
  timeout : ℚ
  extraHeaders : List (String × String)

def dataUrl (data : List UInt8) (mediaType : String) : String :=
  "data:" ++ mediaType ++ ";base64," ++ String.ofList (Base64.encode data)

def encodePart : ContentPart → Json
  | .TextPart text => .Dict [("type", .Text "text"), ("text", .Text text)]
  | .ImagePart data mediaType =>
      .Dict [("type", .Text "image_url"),
        ("image_url", .Dict [("url", .Text (dataUrl data mediaType))])]

def encodeContent : MessageContent → Json
  | .Text text => .Text text
  | .Parts parts => .Items (parts.map encodePart)

/-- `_encode_message`. -/
def encodeMessage (message : Message) : Json :=
  .Dict [("role", .Text message.role.value), ("content", encodeContent message.content)]

/-! ## The answer -/

structure Choice where
  /-- The content of its message, where there is one. -/
  content : Option Json
  finishReason : Option String
  deriving Repr

structure ChatAnswer where
  choices : Option (List Choice)
  model : Option Json := none
  usage : Option RawUsage := none
  deriving Repr

/-- What a choice says.  No text is not the empty text. -/
def Choice.text (choice : Choice) : Option Json :=
  match choice.content with
  | some .Null => none
  | content => content

inductive ChatError where
  /-- The provider's error, normalized. -/
  | Provider (error : GatewayError)
  | BadRequest (message : String)
  | Response (message : String) (details : List (String × Option String))
  /-- What reading the token counts raises. -/
  | Usage (error : EmbedError)
  deriving DecidableEq, Repr

structure ChatAdapter extends GenAILabAdapter where
  /-- `client.chat.completions.create`, with its errors normalized. -/
  complete : ChatCall → Except GatewayError ChatAnswer

namespace ChatAdapter

variable (adapter : ChatAdapter)

/-- The request's own timeout, or the configured one. -/
def timeoutOf (request : TextGenerationRequest) : ℚ :=
  (request.timeoutSeconds.filter (· ≠ 0)).getD adapter.genaiTimeoutSeconds

def chatCall (request : TextGenerationRequest) : ChatCall where
  model := request.model
  messages := request.messages.map encodeMessage
  maxTokens := request.maxOutputTokens
  temperature := request.temperature
  responseFormat :=
    if request.responseFormat = .JsonObject then some (.Dict [("type", .Text "json_object")])
    else none
  timeout := adapter.timeoutOf request
  extraHeaders := GenAILabAdapter.correlationHeaders request.requestId request.traceId

def chatCompletion (request : TextGenerationRequest) : Except ChatError TextGenerationResponse := do
  let answer ← (adapter.complete (adapter.chatCall request)).mapError .Provider
  match answer.choices.getD [] with
  | [] => throw (.Response "Response contained no choices" [])
  | first :: _ =>
      let content ← Fallible.demand first.text
        (.Response "Response choice contained no message content"
          [("finish_reason", first.finishReason)])
      let usage ← (adapter.extractUsage answer.usage).mapError .Usage
      return {
        model := (answer.model.map adapter.runtime.str).getD request.model
        provider := "genailab"
        usage := usage
        latencyMs := adapter.latencyMs
        content := adapter.runtime.str content
        finishReason := first.finishReason }

def generateText (request : TextGenerationRequest) : Except ChatError TextGenerationResponse :=
  adapter.chatCompletion request

/-- A request without an image is refused, not sent as text. -/
def generateMultimodal (request : TextGenerationRequest) :
    Except ChatError TextGenerationResponse := do
  Fallible.require (request.messages.any Message.hasImage = true)
    (.BadRequest "A multimodal request must contain at least one image part")
  adapter.chatCompletion request

end ChatAdapter

/-! ## Reading a call -/

/-- What a request asks the provider for. -/
structure Asked where
  model : String
  messages : List (MessageRole × MessageContent)
  maxOutputTokens : Option Int
  temperature : Option ℚ
  responseFormat : ResponseFormat
  deriving DecidableEq, Repr

def TextGenerationRequest.asked (request : TextGenerationRequest) : Asked where
  model := request.model
  messages := request.messages.map fun message => (message.role, message.content)
  maxOutputTokens := request.maxOutputTokens
  temperature := request.temperature
  responseFormat := request.responseFormat

/-- The data of a data URL, and its media type. -/
def readDataUrl (url : String) : Option ContentPart :=
  let rest := url.toList.drop "data:".toList.length
  let mediaType := rest.takeWhile (· ≠ ';')
  let body := rest.dropWhile (· ≠ ';')
  if "data:".toList <+: url.toList ∧ ";base64,".toList <+: body then
    (Base64.decode (body.drop ";base64,".toList.length)).map fun data =>
      .ImagePart data (String.ofList mediaType)
  else none

def readPart : Json → Option ContentPart
  | .Dict [("type", .Text "text"), ("text", .Text text)] => some (.TextPart text)
  | .Dict [("type", .Text "image_url"), ("image_url", .Dict [("url", .Text url)])] =>
      readDataUrl url
  | _ => none

def MessageRole.ofValue : String → Option MessageRole
  | "system" => some .System
  | "user" => some .User
  | "assistant" => some .Assistant
  | _ => none

def readContent : Json → Option MessageContent
  | .Text text => some (.Text text)
  | .Items items => (items.mapM readPart).map .Parts
  | _ => none

def readMessage : Json → Option (MessageRole × MessageContent)
  | .Dict [("role", .Text role), ("content", content)] => do
      return (← MessageRole.ofValue role, ← readContent content)
  | _ => none

/-- What a call asks for. -/
def ChatCall.read (call : ChatCall) : Option Asked := do
  let messages ← call.messages.mapM readMessage
  return {
    model := call.model
    messages := messages
    maxOutputTokens := call.maxTokens
    temperature := call.temperature
    responseFormat := if call.responseFormat.isSome then .JsonObject else .Text }

/-! ## What the provider is told -/

lemma mapM_map_eq_some {α β γ : Type} {encode : α → β} {read : β → Option γ} {meaning : α → γ}
    {xs : List α} (h : ∀ x ∈ xs, read (encode x) = some (meaning x)) :
    (xs.map encode).mapM read = some (xs.map meaning) := by
  induction xs with
  | nil => rfl
  | cons x xs ih =>
      obtain ⟨hx, hxs⟩ := List.forall_mem_cons.mp h
      rw [List.map_cons, List.mapM_cons, hx, ih hxs]
      rfl

/-- A semicolon is in no media type, so the first one ends it. -/
lemma readDataUrl_dataUrl (data : List UInt8) {mediaType : String} (h : IsImageType mediaType) :
    readDataUrl (dataUrl data mediaType) = some (.ImagePart data mediaType) := by
  have hno : ∀ c ∈ mediaType.toList, decide (c ≠ ';') = true := by
    obtain ⟨subtype, hsplit, -, hchars⟩ := h
    intro c hc
    rw [hsplit, List.mem_append] at hc
    rw [decide_eq_true_eq]
    rintro rfl
    rcases hc with hc | hc
    · exact absurd hc (by decide)
    · exact absurd (hchars ';' hc) (by decide)
  have hurl : (dataUrl data mediaType).toList
      = "data:".toList ++ (mediaType.toList ++ (";base64,".toList ++ Base64.encode data)) := by
    simp only [dataUrl, String.toList_append, String.toList_ofList, List.append_assoc]
  have hrest : (dataUrl data mediaType).toList.drop "data:".toList.length
      = mediaType.toList ++ (";base64,".toList ++ Base64.encode data) := by
    rw [hurl, List.drop_left']
    rfl
  have hend : (";base64,".toList ++ Base64.encode data).takeWhile (fun c => decide (c ≠ ';')) = []
      := rfl
  have hbody : (";base64,".toList ++ Base64.encode data).dropWhile (fun c => decide (c ≠ ';'))
      = ";base64,".toList ++ Base64.encode data := rfl
  simp only [readDataUrl, hrest, List.takeWhile_append_of_pos hno,
    List.dropWhile_append_of_pos hno, hend, hbody, List.append_nil, String.ofList_toList]
  rw [if_pos ⟨⟨_, hurl.symm⟩, ⟨_, rfl⟩⟩, List.drop_left' rfl, Base64.decode_encode]
  rfl

lemma readPart_encodePart {part : ContentPart}
    (h : ∀ data mediaType, part = .ImagePart data mediaType → IsImageType mediaType) :
    readPart (encodePart part) = some part := by
  cases part with
  | TextPart text => rfl
  | ImagePart data mediaType => exact readDataUrl_dataUrl data (h data mediaType rfl)

/-- **A message is read as it was written.** -/
theorem readMessage_encodeMessage (message : Message) :
    readMessage (encodeMessage message) = some (message.role, message.content) := by
  have hcontent : readContent (encodeContent message.content) = some message.content := by
    cases hcase : message.content with
    | Text text => rfl
    | Parts parts =>
        have hparts := @mapM_map_eq_some _ _ _ encodePart readPart id parts fun part hpart =>
          readPart_encodePart fun data mediaType heq =>
            message.imagesTyped parts hcase data mediaType (heq ▸ hpart)
        rw [List.map_id] at hparts
        simp only [encodeContent, readContent, hparts, Option.map_some]
  have hrole : MessageRole.ofValue message.role.value = some message.role := by
    cases message.role <;> rfl
  rw [encodeMessage, readMessage, hrole, hcontent]
  rfl

namespace ChatAdapter

variable (adapter : ChatAdapter)

lemma messages_chatCall (request : TextGenerationRequest) :
    (adapter.chatCall request).messages.mapM readMessage
      = some (request.messages.map fun message => (message.role, message.content)) :=
  mapM_map_eq_some fun message _ => readMessage_encodeMessage message

lemma responseFormat_chatCall (request : TextGenerationRequest) :
    (if (adapter.chatCall request).responseFormat.isSome = true
      then ResponseFormat.JsonObject else .Text) = request.responseFormat := by
  rw [chatCall]
  cases request.responseFormat <;> rfl

/-- **What was asked can be read off the call.** -/
theorem read_chatCall (request : TextGenerationRequest) :
    (adapter.chatCall request).read = some request.asked := by
  rw [ChatCall.read, messages_chatCall, responseFormat_chatCall]
  rfl

/-- **Which requests the provider cannot tell apart**: those that ask for the same, wait as long and
    name the same request and trace.  How many tool calls are allowed does not matter. -/
theorem chatCall_eq_iff (request other : TextGenerationRequest) :
    adapter.chatCall request = adapter.chatCall other
      ↔ request.asked = other.asked ∧ adapter.timeoutOf request = adapter.timeoutOf other
        ∧ GenAILabAdapter.correlationHeaders request.requestId request.traceId
          = GenAILabAdapter.correlationHeaders other.requestId other.traceId := by
  constructor
  · intro h
    refine ⟨?_, congrArg ChatCall.timeout h, congrArg ChatCall.extraHeaders h⟩
    have hread := congrArg ChatCall.read h
    rw [ChatCall.read, ChatCall.read, messages_chatCall, messages_chatCall,
      responseFormat_chatCall, responseFormat_chatCall] at hread
    exact Option.some.inj hread
  · rintro ⟨hasked, htimeout, hheaders⟩
    have hmessages : ∀ request : TextGenerationRequest, request.messages.map encodeMessage
        = request.asked.messages.map fun message =>
          .Dict [("role", .Text message.1.value), ("content", encodeContent message.2)] := by
      intro request
      rw [TextGenerationRequest.asked, List.map_map]
      rfl
    have hmodel := congrArg Asked.model hasked
    have htokens := congrArg Asked.maxOutputTokens hasked
    have htemperature := congrArg Asked.temperature hasked
    have hformat := congrArg Asked.responseFormat hasked
    simp only [TextGenerationRequest.asked] at hmodel htokens htemperature hformat
    simp only [chatCall, hmessages, hasked, hmodel, htokens, htemperature, hformat, htimeout,
      hheaders]

end ChatAdapter

end CostPlatform
