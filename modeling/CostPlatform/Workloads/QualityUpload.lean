import CostPlatform.Gateway.ChatCompletion
import CostPlatform.Orchestrator.ExecuteEndpoint
import CostPlatform.Orchestrator.Vision

/-!
# Uploaded images

`POST /quality/upload` stores an image under a name of its own.  A body of the execute endpoint
refers to images by their paths, and whatever is found at a path is sent along.

`images_sent_iff` follows the bytes from the uploads to the provider: what can be read off a call
are the contents of the paths that the body names, in order, and what is at a path is what was there
before or what some caller uploaded.  Nobody asks who.
-/

namespace CostPlatform

/-! ## The upload -/

/-- The accepted types, each with the extension of its files. -/
def ALLOWED_CONTENT_TYPES : List (String × String) :=
  [("image/jpeg", ".jpg"), ("image/png", ".png"), ("image/webp", ".webp")]

def MAX_FILE_SIZE : Nat := 5 * 1024 * 1024

/-- Reference to an uploaded image. -/
structure ImageUploadResponse where
  ref : String
  contentType : String
  sizeBytes : Nat
  classification : String
  deriving DecidableEq, Repr

inductive UploadError where
  | UnsupportedType (contentType : String)
  | Empty
  | TooLarge
  deriving DecidableEq, Repr

def UploadError.statusCode : UploadError → Nat
  | .UnsupportedType _ => 400
  | .Empty => 400
  | .TooLarge => 413

def UploadError.detail : UploadError → String
  | .UnsupportedType contentType =>
      "Unsupported file type '" ++ contentType
        ++ "'. Allowed types: ['image/jpeg', 'image/png', 'image/webp']"
  | .Empty => "Uploaded file is empty"
  | .TooLarge => "File exceeds maximum allowed size of " ++ toString MAX_FILE_SIZE ++ " bytes"

/-- A file that an authenticated caller uploads, and the id that is drawn for it. -/
structure ImageUpload where
  principal : Principal
  contentType : Option String
  content : List UInt8
  fileId : String

/-- `upload_quality_image`, up to the writing of the file. -/
def ImageUpload.handle (upload : ImageUpload) : Except UploadError ImageUploadResponse := do
  let contentType := upload.contentType.getD ""
  let extension ← Fallible.demand (ALLOWED_CONTENT_TYPES.lookup contentType)
    (.UnsupportedType contentType)
  Fallible.require (upload.content.length ≠ 0) .Empty
  Fallible.require (upload.content.length ≤ MAX_FILE_SIZE) .TooLarge
  return {
    ref := "data/uploads/" ++ upload.fileId ++ extension
    contentType := contentType
    sizeBytes := upload.content.length
    classification := "manufacturing_product_image" }

/-- What the application can read on its machine, by the place of the file. -/
abbrev Files := String → Option (List UInt8)

section Storing

-- the place that a path leads to, from the working directory and through dots and links
variable (locate : String → String)

def ImageUpload.after (files : Files) (upload : ImageUpload) : Files :=
  match upload.handle with
  | .ok response => Function.update files (locate response.ref) (some upload.content)
  | .error _ => files

/-- There is no file yet where the upload is stored. -/
def ImageUpload.DrawsNew (files : Files) (upload : ImageUpload) : Prop :=
  ∀ response, upload.handle = .ok response → files (locate response.ref) = none

/-- The upload is accepted, and stored at the place. -/
def ImageUpload.StoredAt (upload : ImageUpload) (place : String) : Prop :=
  ∃ response, upload.handle = .ok response ∧ locate response.ref = place

variable {locate} {files : Files}

/-- An upload adds its own file. -/
lemma after_eq_some_iff {upload : ImageUpload} (hnew : upload.DrawsNew locate files)
    (place : String) (bytes : List UInt8) :
    upload.after locate files place = some bytes
      ↔ files place = some bytes ∨ (upload.StoredAt locate place ∧ upload.content = bytes) := by
  rw [ImageUpload.after, ImageUpload.StoredAt]
  cases hhandle : upload.handle with
  | error e => simp
  | ok response =>
      have hnone := hnew response hhandle
      simp only [Except.ok.injEq, exists_eq_left']
      by_cases hplace : place = locate response.ref
      · cases hplace
        simp [hnone]
      · rw [Function.update_of_ne hplace]
        simp [Ne.symm hplace]

/-- **What is stored after any uploads**: what was there, and what was uploaded. -/
theorem stored_eq_some_iff {uploads : List ImageUpload}
    (hnew : Runs.Along (ImageUpload.after locate) (ImageUpload.DrawsNew locate) files uploads)
    (place : String) (bytes : List UInt8) :
    Runs.run (ImageUpload.after locate) files uploads place = some bytes
      ↔ files place = some bytes
        ∨ ∃ upload ∈ uploads, upload.StoredAt locate place ∧ upload.content = bytes := by
  induction uploads generalizing files with
  | nil => simp
  | cons upload uploads ih =>
      rw [Runs.run_cons, ih hnew.2, after_eq_some_iff hnew.1, List.exists_mem_cons_iff, or_assoc]

end Storing

/-! ## The images of a call -/

def ContentPart.image? : ContentPart → Option (List UInt8 × String)
  | .TextPart _ => none
  | .ImagePart data mediaType => some (data, mediaType)

def MessageContent.images : MessageContent → List (List UInt8 × String)
  | .Text _ => []
  | .Parts parts => parts.filterMap ContentPart.image?

/-- All the images of a request, with their media types. -/
def Asked.images (asked : Asked) : List (List UInt8 × String) :=
  asked.messages.flatMap fun message => message.2.images

/-- The orchestrator's request, as the gateway's types have it. -/
structure ModelRequest.SameRequest (sent : ModelRequest) (request : TextGenerationRequest) :
    Prop where
  asked : request.asked =
    { model := sent.model, messages := [(.User, sent.content)]
      maxOutputTokens := sent.maxOutputTokens, temperature := none
      responseFormat := sent.responseFormat }
  requestId : request.requestId = sent.requestId
  traceId : request.traceId = sent.traceId

namespace Collaborators

variable {c : Collaborators} {plan : ExecutionPlan} {model : String}
  {request : OrchestrationRequest} {principal : Principal} {requestId traceId : String}

/-- The images of a request are the parts behind its prompt. -/
lemma images_of_buildModelRequest {sent : ModelRequest}
    (h : c.buildModelRequest plan model request = .ok sent) :
    sent.content.images = request.imageBytes := by
  obtain ⟨promptText, -, h⟩ := Fallible.bind_eq_ok.mp h
  obtain ⟨_, -, h⟩ := Fallible.bind_eq_ok.mp h
  obtain ⟨_, -, h⟩ := Fallible.bind_eq_ok.mp h
  cases Except.ok.inj h
  cases himages : request.imageBytes with
  | nil => rfl
  | cons image images =>
      have himage : ContentPart.image? ∘ (fun image : List UInt8 × String =>
          .ImagePart image.1 image.2) = some := rfl
      simp only [List.isEmpty_cons, Bool.false_eq_true, if_false, MessageContent.images]
      rw [List.filterMap_cons_none rfl, List.filterMap_map, himage, List.filterMap_some]

/-- **Every call of an execution, the fallback's among them, carries the request's images.** -/
lemma images_of_modelCall {role : ModelRole} {sent : ModelRequest}
    (h : .ModelCall role sent ∈ (c.execute request principal requestId traceId).events) :
    sent.content.images = request.imageBytes := by
  obtain ⟨plan, -, -, model, -, -, primaryRequest, hbuilt, hcalls⟩ := modelCall_mem_execute.mp h
  have himages := images_of_buildModelRequest hbuilt
  cases role with
  | Primary =>
      cases hcalls
      exact himages
  | Fallback =>
      obtain ⟨-, fallback, -, rfl⟩ := hcalls
      exact himages

lemma isSubtypeChar_of_alphanum {c : Char}
    (h : (c.isAlphanum || c = '.' || c = '+' || c = '-') = true) : isSubtypeChar c = true := by
  delta Char.isAlphanum Char.isAlpha Char.isUpper Char.isLower Char.isDigit at h
  simp only [isSubtypeChar, Bool.or_eq_true, Bool.and_eq_true, decide_eq_true_eq, List.mem_cons,
    List.not_mem_nil, or_false, Char.le_def] at h ⊢
  tauto

/-- A media type that a part is validated with is one that the gateway takes. -/
lemma isImageType_of_mediaTypeValid {mediaType : String} (h : mediaTypeValid mediaType = true) :
    IsImageType mediaType := by
  simp only [mediaTypeValid, Bool.and_eq_true, List.isPrefixOf_iff_prefix, Bool.not_eq_true',
    List.isEmpty_eq_false_iff, List.all_eq_true] at h
  obtain ⟨⟨⟨subtype, hsplit⟩, hne⟩, hchars⟩ := h
  have hdrop : mediaType.toList.drop 6 = subtype := by
    rw [← hsplit]
    rfl
  rw [hdrop] at hne hchars
  refine ⟨subtype, hsplit.symm, hne, fun c hc => ?_⟩
  exact isSubtypeChar_of_alphanum (hchars c hc)

/-- **The gateway takes every call that names a model.** -/
lemma exists_sameRequest {role : ModelRole} {sent : ModelRequest}
    (h : .ModelCall role sent ∈ (c.execute request principal requestId traceId).events)
    (hmodel : sent.model ≠ "") : ∃ request, sent.SameRequest request := by
  obtain ⟨plan, -, -, model, -, -, primaryRequest, hbuilt, hcalls⟩ := modelCall_mem_execute.mp h
  obtain ⟨promptText, -, hbuilt⟩ := Fallible.bind_eq_ok.mp hbuilt
  obtain ⟨_, hvalid, hbuilt⟩ := Fallible.bind_eq_ok.mp hbuilt
  obtain ⟨_, -, hbuilt⟩ := Fallible.bind_eq_ok.mp hbuilt
  have hsame : sent.content = primaryRequest.content ∧ sent.maxOutputTokens = none := by
    cases Except.ok.inj hbuilt
    cases role with
    | Primary =>
        cases hcalls
        exact ⟨rfl, rfl⟩
    | Fallback =>
        obtain ⟨-, fallback, -, rfl⟩ := hcalls
        exact ⟨rfl, rfl⟩
  have htyped : ∀ parts, sent.content = .Parts parts → ∀ data mediaType,
      .ImagePart data mediaType ∈ parts → IsImageType mediaType := by
    intro parts hparts data mediaType hpart
    rw [hsame.1, ← Except.ok.inj hbuilt] at hparts
    dsimp only at hparts
    split_ifs at hparts
    cases MessageContent.Parts.inj hparts
    obtain ⟨image, himage, hsplit⟩ := List.mem_map.mp
      ((List.mem_cons.mp hpart).resolve_left (by simp))
    cases hsplit
    exact isImageType_of_mediaTypeValid (Fallible.require_eq_ok.mp hvalid image himage)
  refine ⟨{ model := sent.model
            messages := [⟨.User, sent.content, htyped⟩]
            requestId := sent.requestId
            traceId := sent.traceId
            responseFormat := sent.responseFormat
            modelNonempty :=
              Nat.one_le_iff_ne_zero.mpr fun hlength => hmodel (by simpa using hlength)
            messagesNonempty := Nat.le_refl 1
            timeoutPositive := by rintro _ ⟨⟩
            maxOutputTokensPositive := by rintro _ ⟨⟩
            temperatureValid := by rintro _ ⟨⟩
            maxToolCallsValid := by rintro _ ⟨⟩ }, ?_, rfl, rfl⟩
  rw [hsame.2]
  rfl

end Collaborators

/-! ## From the upload to the provider -/

namespace ExecuteRoute

/-- The route of an application that reads these files. -/
def reading (route : ExecuteRoute) (locate : String → String) (files : Files) : ExecuteRoute :=
  { route with
    isFile := fun path => .ok (files (locate path)).isSome
    readBytes := fun path => files (locate path) }

/-- Such a route reads the files at the image references. -/
lemma readImages_reading (route : ExecuteRoute) (locate : String → String) (files : Files)
    (body : AIExecutionRequest) :
    (route.reading locate files).readImages body
      = .ok ((body.inputRefs.filter InputRef.isImage).filterMap fun input =>
          (files (locate input.ref)).map fun bytes => (bytes, input.contentType)) := by
  have himage : ∀ input found, (route.reading locate files).readImage input = .ok found
      ↔ True ∧ found = (files (locate input.ref)).map fun bytes => (bytes, input.contentType) := by
    intro input found
    simp only [readImage, reading]
    cases files (locate input.ref) with
    | none => simp [pure, Except.pure, eq_comm]
    | some bytes => simp [pure, Except.pure, eq_comm]
  rw [readImages, (Fallible.mapM_eq_ok_map himage).mpr ⟨fun _ _ => trivial, rfl⟩,
    Fallible.ok_bind]
  exact congrArg Except.ok List.filterMap_map

lemma modelCall_of_executeAiWorkload {route : ExecuteRoute} {body : AIExecutionRequest}
    {principal : Principal} {requestId traceId : String} {event : ExecutionEvent}
    (h : event ∈ (route.executeAiWorkload body principal requestId traceId).events) :
    ∃ imageBytes, route.readImages body = .ok imageBytes
      ∧ event ∈ (route.getOrchestrator.execute (orchestrationRequest body imageBytes) principal
        requestId traceId).events := by
  simp only [executeAiWorkload, Traced.mem_bind_events, Traced.silent_def, Traced.pure_def,
    List.not_mem_nil, false_or, and_false] at h
  obtain ⟨_, -, _, -, imageBytes, himages, h | ⟨_, hnever⟩⟩ := h
  · exact ⟨imageBytes, himages, h⟩
  · exact hnever.elim

end ExecuteRoute

/-- **What the provider is sent of the machine's files.**  Whoever uploads what and in whatever
    order, and whoever executes: the images that can be read off a call are the files at the paths
    of the body's image references, in their order and under the media types that the body claims;
    and a file holds what it did before the uploads, or what one of them brought.  The names that
    the uploads draw are new. -/
theorem images_sent_iff (route : ExecuteRoute) (adapter : ChatAdapter) (locate : String → String)
    {files : Files} {uploads : List ImageUpload} {body : AIExecutionRequest}
    {principal : Principal} {requestId traceId : String} {role : ModelRole} {sent : ModelRequest}
    {request : TextGenerationRequest}
    (hnew : Runs.Along (ImageUpload.after locate) (ImageUpload.DrawsNew locate) files uploads)
    (hcall : .ModelCall role sent ∈ ((route.reading locate (Runs.run (ImageUpload.after locate)
      files uploads)).executeAiWorkload body principal requestId traceId).events)
    (hsame : sent.SameRequest request) :
    let stored := Runs.run (ImageUpload.after locate) files uploads
    (∃ asked, (adapter.chatCall request).read = some asked
        ∧ asked.images = (body.inputRefs.filter InputRef.isImage).filterMap fun input =>
          (stored (locate input.ref)).map fun bytes => (bytes, input.contentType))
      ∧ ∀ path bytes, stored (locate path) = some bytes
        ↔ files (locate path) = some bytes
          ∨ ∃ upload ∈ uploads, upload.StoredAt locate (locate path) ∧ upload.content = bytes := by
  refine ⟨⟨request.asked, ?_, ?_⟩,
    fun path bytes => stored_eq_some_iff hnew (locate path) bytes⟩
  · rw [ChatCall.read, adapter.messages_chatCall, adapter.responseFormat_chatCall]
    rfl
  · obtain ⟨imageBytes, hread, hcalled⟩ := ExecuteRoute.modelCall_of_executeAiWorkload hcall
    rw [ExecuteRoute.readImages_reading] at hread
    cases Except.ok.inj hread
    rw [hsame.asked, Asked.images, List.flatMap_singleton,
      Collaborators.images_of_modelCall hcalled]
    rfl

/-- Two uploads, each for another tenant. -/
def twoUploads : List ImageUpload :=
  [ { principal := plantManager, contentType := some "image/png", content := [137, 80],
      fileId := "f1" },
    { principal := { plantManager with tenantId := "t2" }, contentType := some "image/jpeg",
      content := [255], fileId := "f2" } ]

/-- A body that names the first of them under another type, and one that nobody uploaded. -/
def foreignImageBody : AIExecutionRequest :=
  { foreignPlantBody with
      plantId := none
      departmentId := none
      inputRefs :=
        [⟨"data/uploads/f1.png", "image/webp"⟩, ⟨"data/uploads/f3.png", "image/png"⟩] }

/-- What the orchestrator makes of it. -/
def foreignImageRequest : ModelRequest where
  multimodal := true
  model := "alpha"
  content := .Parts [.TextPart "\x7b\x7d", .ImagePart [137, 80] "image/webp"]
  requestId := some "r1"
  traceId := some "r1"
  responseFormat := .Text

/-- A provider that offers no choices. -/
def silentProvider : ChatAdapter :=
  { GenAILabAdapter.answering [] with complete := fun _ => .ok { choices := none } }

/-- **A picture of another tenant** goes to the provider for whoever names its path. -/
theorem foreign_picture_sent :
    ∃ request : TextGenerationRequest, foreignImageRequest.SameRequest request
      ∧ ∃ asked, (silentProvider.chatCall request).read = some asked
        ∧ asked.images = [([137, 80], "image/webp")] := by
  have hnew : Runs.Along (ImageUpload.after id) (ImageUpload.DrawsNew id) (fun _ => none)
      twoUploads := by
    refine ⟨fun response _ => rfl, fun response hresponse => ?_, trivial⟩
    cases hresponse
    decide +kernel
  have hcall : ExecutionEvent.ModelCall .Primary foreignImageRequest
      ∈ ((smallRoute.reading id (Runs.run (ImageUpload.after id) (fun _ => none)
        twoUploads)).executeAiWorkload foreignImageBody { plantManager with tenantId := "t2" } "r1"
          "r1").events := by
    decide +kernel
  obtain ⟨_, -, hcalled⟩ := ExecuteRoute.modelCall_of_executeAiWorkload hcall
  obtain ⟨request, hsame⟩ := Collaborators.exists_sameRequest hcalled (by decide)
  obtain ⟨⟨asked, hread, himages⟩, -⟩ := images_sent_iff smallRoute silentProvider id hnew hcall
    hsame
  exact ⟨request, hsame, asked, hread, himages.trans (by decide +kernel)⟩

end CostPlatform
