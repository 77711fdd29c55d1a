import CostPlatform.Core.Redaction
import CostPlatform.Library.Dict
import CostPlatform.Library.Fallible
import CostPlatform.Library.JsonReader

/-!
# The log line

What the JSON formatter makes of a record behind the filter, and what a reader of the log gets.
`logLine_sound` is that a record whose arguments fit its message becomes one line, that the line is
read back as the fields it was made of, and that of its values a secret can only be in one which the
filter does not see: the event with its arguments put in, the names of the logger and of the
exception's type, the correlation ids.  `interpolated_token_logged` is such a record.
-/

namespace CostPlatform

open PyJson

/-! ## Definitions -/

/-- The identifiers that are bound to a request. -/
structure Correlation where
  requestId : Option String
  traceId : Option String
  tenantId : Option String
  userId : Option String

/-- `current_correlation()`, without its nulls. -/
def Correlation.fields (correlation : Correlation) : List (String × String) :=
  [("request_id", correlation.requestId), ("trace_id", correlation.traceId),
    ("tenant_id", correlation.tenantId), ("user_id", correlation.userId)].filterMap
    fun field => field.2.map fun value => (field.1, value)

/-- What the formatter reads of a record, besides what the filter does. -/
structure FormattedRecord extends LogRecord where
  /-- `formatTime(record, …)`. -/
  asctime : String
  levelname : String
  name : String
  /-- What `msg % args` makes of a message, where there are arguments.  They may not fit it. -/
  args : Option (String → Except String String)
  /-- The name of the exception's type, and the text of the exception. -/
  excInfo : Option (String × String)

def FormattedRecord.getMessage (record : FormattedRecord) (runtime : Runtime) :
    Except String String :=
  match record.args with
  | some interpolate => interpolate (runtime.str record.msg)
  | none => .ok (runtime.str record.msg)

/-- The record behind the filter of the handler. -/
def FormattedRecord.filtered (alnumBeyondAscii : Char → Bool) (record : FormattedRecord) :
    FormattedRecord :=
  { record with toLogRecord := redactionFilter alnumBeyondAscii record.toLogRecord }

/-- The attributes that are structured extras. -/
def FormattedRecord.extras (record : FormattedRecord) : List (String × Json) :=
  record.attributes.filter fun entry => entry.1 ∉ RESERVED ∧ entry.1.toList.head? ≠ some '_'

structure JsonFormatter where
  service : String
  runtime : Runtime
  -- what `str.isalnum` says of a character beyond ASCII
  alnumBeyondAscii : Char → Bool

namespace JsonFormatter

variable (formatter : JsonFormatter) (correlation : Correlation) (record : FormattedRecord)

/-- The fields of every line, and the correlation. -/
def ownFields (event : String) : List (String × String) :=
  [("timestamp", record.asctime), ("level", record.levelname), ("service", formatter.service),
    ("logger", record.name), ("event", event)] ++ correlation.fields

/-- Type and message only. -/
def exceptionFields : List (String × String) :=
  match record.excInfo with
  | some (type, message) =>
      [("exception_type", type),
        ("exception_message", redactText formatter.alnumBeyondAscii message)]
  | none => []

def texts (fields : List (String × String)) : List (String × Json) :=
  fields.map fun field => (field.1, .Text field.2)

/-- The payload: what is set later replaces what was set under the same key. -/
def payload (event : String) : Dict String Json :=
  .ofPairs (texts (formatter.ownFields correlation record event) ++ record.extras
    ++ texts (formatter.exceptionFields record))

def format : Except String String := do
  let event ← record.getMessage formatter.runtime
  return compact (.Dict (formatter.payload correlation record event).entries)

/-- The fields that are written as they are. -/
def unfilteredFields (event : String) : List (String × String) :=
  formatter.ownFields correlation record event
    ++ record.excInfo.toList.map fun exception => ("exception_type", exception.1)

end JsonFormatter

/-! ## Floats -/

section

variable {alnumBeyondAscii : Char → Bool} {float : String → Option ℚ}

/-- Redaction puts in texts only. -/
lemma floats_redactValue {key : String} {value : Json} {printed : PyFloat × String}
    (h : printed ∈ (redactValue alnumBeyondAscii key value).floats) : printed ∈ value.floats := by
  induction value using Json.induct generalizing key with
  | items items ih =>
      rw [redactValue] at h
      split_ifs at h with hhint
      · cases h
      · rw [Json.floats, redactItems_eq, mem_itemsFloats] at h
        obtain ⟨_, hmem, h⟩ := h
        obtain ⟨item, hitem, rfl⟩ := List.mem_map.mp hmem
        rw [Json.floats, mem_itemsFloats]
        exact ⟨item, hitem, ih item hitem h⟩
  | dict entries ih =>
      rw [redactValue] at h
      split_ifs at h with hhint
      · cases h
      · rw [Json.floats, redactEntries_eq, mem_entriesFloats] at h
        obtain ⟨_, hmem, h⟩ := h
        obtain ⟨entry, hentry, rfl⟩ := List.mem_map.mp hmem
        rw [Json.floats, mem_entriesFloats]
        exact ⟨entry, hentry, ih entry hentry h⟩
  | _ =>
      rw [redactValue] at h
      split_ifs at h with hhint
      · cases h
      · exact h

lemma floats_redactAttribute {entry : String × Json} {printed : PyFloat × String}
    (h : printed ∈ (redactAttribute alnumBeyondAscii entry).2.floats) :
    printed ∈ entry.2.floats := by
  rw [redactAttribute] at h
  split_ifs at h with hreserved
  · exact h
  · exact floats_redactValue h

end

/-! ## The line -/

namespace JsonFormatter

variable {formatter : JsonFormatter} {correlation : Correlation} {record : FormattedRecord}
  {float : String → Option ℚ} {event : String}

lemma mem_payload {key : String} {value : Json}
    (h : (key, value) ∈ (formatter.payload correlation record event).entries) :
    (key, value) ∈ texts (formatter.ownFields correlation record event)
      ∨ (key, value) ∈ record.extras
      ∨ (key, value) ∈ texts (formatter.exceptionFields record) := by
  have hset := Dict.mem_of_get?_ofPairs (Dict.get?_eq_some.mpr h)
  simpa only [List.mem_append, or_assoc] using hset

/-- The floats of a payload are those of the extras. -/
lemma printed_payload
    (hprinted : ∀ entry ∈ record.attributes, entry.2.Printed float) :
    (Json.Dict (formatter.payload correlation
      (record.filtered formatter.alnumBeyondAscii) event).entries).Printed float := by
  intro printed hmem
  rw [Json.floats, mem_entriesFloats] at hmem
  obtain ⟨⟨key, value⟩, hentry, hmem⟩ := hmem
  have htext : ∀ fields, (key, value) ∈ texts fields → printed ∉ value.floats := by
    intro fields hfield
    obtain ⟨field, -, heq⟩ := List.mem_map.mp hfield
    cases heq
    simp [Json.floats]
  rcases mem_payload hentry with hown | hextra | hexception
  · exact absurd hmem (htext _ hown)
  · obtain ⟨raw, hraw, heq⟩ := List.mem_map.mp (List.mem_filter.mp hextra).1
    exact hprinted raw hraw printed
      (@floats_redactAttribute formatter.alnumBeyondAscii raw printed (heq ▸ hmem))
  · exact absurd hmem (htext _ hexception)

/-- The filter redacts an extra under its own key. -/
lemma redacted_extra {key : String} {value : Json}
    (h : (key, value) ∈ (record.filtered formatter.alnumBeyondAscii).extras) :
    Redacted formatter.alnumBeyondAscii key value := by
  obtain ⟨hattribute, hkept⟩ := List.mem_filter.mp h
  exact (recordRedacted_redactionFilter record.toLogRecord).attributes (key, value) hattribute
    (of_decide_eq_true hkept).1

lemma redacted_text {key text : String} (hhint : hintsAtSecret key = false)
    (hfree : SecretFree formatter.alnumBeyondAscii text) :
    Redacted formatter.alnumBeyondAscii key (.Text text) := by
  refine redacted_of_leaf (by simp [hhint]) (fun _ _ h => by cases h; exact ⟨rfl, rfl⟩) ?_
  intro text' htext
  cases htext
  exact hfree

lemma noHint_exceptionMessage : hintsAtSecret "exception_message" = false := by decide +kernel

lemma keys_fields_sublist (fields : List (String × Option String)) :
    ((fields.filterMap fun field => field.2.map fun value => (field.1, value)).map
      Prod.fst).Sublist (fields.map Prod.fst) := by
  induction fields with
  | nil => exact List.Sublist.slnil
  | cons field fields ih =>
      obtain ⟨key, value⟩ := field
      cases value with
      | none => exact ih.cons key
      | some value => exact ih.cons_cons key

lemma nodup_ownFields : ((formatter.ownFields correlation record event).map Prod.fst).Nodup := by
  have hsublist := (keys_fields_sublist
    [("request_id", correlation.requestId), ("trace_id", correlation.traceId),
      ("tenant_id", correlation.tenantId), ("user_id", correlation.userId)]).append_left
    ["timestamp", "level", "service", "logger", "event"]
  have hnodup : ["timestamp", "level", "service", "logger", "event", "request_id", "trace_id",
      "tenant_id", "user_id"].Nodup := by decide
  rw [ownFields, List.map_append]
  exact hnodup.sublist hsublist

/-- A field of the line's own is written as it is, where nothing is set over it. -/
lemma ownField_written {field : String × String}
    (hfield : field ∈ formatter.ownFields correlation record event)
    (hkey : field.1 ∉ (record.extras ++ texts (formatter.exceptionFields record)).map Prod.fst) :
    (formatter.payload correlation record event).get? field.1 = some (.Text field.2) := by
  obtain ⟨before, after, hsplit⟩ := List.append_of_mem hfield
  have hlater : field.1 ∉ after.map Prod.fst := by
    have hnodup := @nodup_ownFields formatter correlation record event
    rw [hsplit, List.map_append, List.map_cons, List.nodup_append] at hnodup
    exact (List.nodup_cons.mp hnodup.2.1).1
  rw [payload, Dict.get?_ofPairs_eq_some_iff]
  refine ⟨texts before,
    texts after ++ (record.extras ++ texts (formatter.exceptionFields record)), ?_, ?_⟩
  · simp [texts, hsplit]
  · rw [List.map_append, List.mem_append, not_or]
    exact ⟨by simpa [texts] using hlater, hkey⟩

/-- **What a log line holds.**  Whatever is logged with arguments that fit, it is one line of
    printable ASCII, it is read back as the payload of the record, and of each field of the payload
    the value has nothing left to redact or is one that the filter does not see.  Such a field is
    there as it is, unless an extra or the exception is set over it. -/
theorem logLine_sound (formatter : JsonFormatter) (correlation : Correlation)
    (record : FormattedRecord)
    (hprinted : ∀ entry ∈ record.attributes, entry.2.Printed float)
    (hevent : (record.filtered formatter.alnumBeyondAscii).getMessage formatter.runtime
      = .ok event) :
    let sent := record.filtered formatter.alnumBeyondAscii
    let payload := formatter.payload correlation sent event
    ∃ line, formatter.format correlation sent = .ok line
      ∧ (∀ c ∈ line.toList, Printable c)
      ∧ readJson float line = some (.Dict payload.entries)
      ∧ (∀ key value, (key, value) ∈ payload.entries →
          Redacted formatter.alnumBeyondAscii key value
            ∨ ∃ text, value = .Text text
              ∧ (key, text) ∈ formatter.unfilteredFields correlation sent event)
      ∧ ∀ field ∈ formatter.ownFields correlation sent event,
          field.1 ∉ (sent.extras ++ texts (formatter.exceptionFields sent)).map Prod.fst →
            payload.get? field.1 = some (.Text field.2) := by
  intro sent payload
  have hpayload := @printed_payload formatter correlation record float event hprinted
  have hformat : formatter.format correlation sent = .ok (compact (.Dict payload.entries)) := by
    rw [format, hevent, Fallible.ok_bind]
    rfl
  refine ⟨_, hformat, ?_, readJson_compact hpayload, ?_, fun field => ownField_written⟩
  · rw [compact, String.toList_ofList]
    exact printable_compactChars hpayload
  · intro key value hentry
    rcases mem_payload hentry with hown | hextra | hexception
    · obtain ⟨⟨key, text⟩, hfield, heq⟩ := List.mem_map.mp hown
      cases heq
      exact .inr ⟨text, rfl, List.mem_append_left _ hfield⟩
    · exact .inl (redacted_extra hextra)
    · obtain ⟨⟨key, text⟩, hfield, heq⟩ := List.mem_map.mp hexception
      cases heq
      rw [exceptionFields] at hfield
      cases hinfo : sent.excInfo with
      | none =>
          rw [hinfo] at hfield
          cases hfield
      | some exception =>
          simp only [hinfo, List.mem_cons, Prod.mk.injEq, List.not_mem_nil, or_false] at hfield
          rcases hfield with ⟨rfl, rfl⟩ | ⟨rfl, rfl⟩
          · refine .inr ⟨_, rfl, List.mem_append_right _ ?_⟩
            simp [hinfo]
          · exact .inl (redacted_text noHint_exceptionMessage (secretFree_redactText _))

/-- A record that hands its token over as an argument, with an extra that holds one too. -/
def tokenRecord : FormattedRecord where
  msg := .Text "Authorization: Bearer %s"
  attributes := [("args", .Items [.Text "abc.def"]), ("header", .Text "Bearer abc.def")]
  asctime := "2026-08-26T08:00:00+0000"
  levelname := "INFO"
  name := "httpx"
  args := some fun msg => .ok (String.ofList (msg.toList.dropLast.dropLast ++ "abc.def".toList))
  excInfo := none

def someFormatter : JsonFormatter where
  service := "cost-platform"
  runtime :=
    { jsonLoads := fun _ => .error .JSONDecodeError
      jsonDumps := fun _ => .error "TypeError"
      float := fun _ => .error .TypeError
      repr := fun _ => "[]" }
  alnumBeyondAscii _ := false

/-- **A token that is put in by the logger is written out**: there was none in the message when the
    filter saw it, and it does not see arguments.  The same token in an extra is gone. -/
theorem interpolated_token_logged :
    let sent := tokenRecord.filtered someFormatter.alnumBeyondAscii
    let payload :=
      someFormatter.payload ⟨none, none, none, none⟩ sent "Authorization: Bearer abc.def"
    (∃ line, someFormatter.format ⟨none, none, none, none⟩ sent = .ok line
        ∧ readJson (fun _ => none) line = some (.Dict payload.entries))
      ∧ payload.get? "event" = some (.Text "Authorization: Bearer abc.def")
      ∧ ¬ SecretFree someFormatter.alnumBeyondAscii "Authorization: Bearer abc.def"
      ∧ ∀ value, ("header", value) ∈ payload.entries →
          Redacted someFormatter.alnumBeyondAscii "header" value := by
  intro sent payload
  have hkeys : "header" ∉ (someFormatter.unfilteredFields ⟨none, none, none, none⟩
      (tokenRecord.filtered someFormatter.alnumBeyondAscii)
      "Authorization: Bearer abc.def").map Prod.fst := by decide +kernel
  have hprinted : ∀ entry ∈ tokenRecord.attributes, entry.2.Printed fun _ => none := by
    simp [tokenRecord, Json.Printed, Json.floats, itemsFloats]
  have hevent : sent.getMessage someFormatter.runtime
      = .ok "Authorization: Bearer abc.def" := by decide +kernel
  obtain ⟨line, hline, -, hread, hfields, hown⟩ :=
    logLine_sound someFormatter ⟨none, none, none, none⟩ tokenRecord hprinted hevent
  refine ⟨⟨line, hline, hread⟩, hown ("event", "Authorization: Bearer abc.def") (by decide +kernel)
    (by decide +kernel), ?_, ?_⟩
  · rintro ⟨hbearer, -⟩
    exact hbearer ((Regex.search_iff _ _).mp (by decide +kernel))
  · intro value hvalue
    rcases hfields "header" value hvalue with hredacted | ⟨text, -, hmem⟩
    · exact hredacted
    · exact absurd (List.mem_map_of_mem (f := Prod.fst) hmem) hkeys

end JsonFormatter

end CostPlatform
