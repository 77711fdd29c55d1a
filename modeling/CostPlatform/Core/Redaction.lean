import CostPlatform.Guardrails.OutputPatterns
import CostPlatform.Library.JsonText
import CostPlatform.Library.RegexSub

/-!
# Secrets kept out of the log

The filter in front of every log sink.  A message and every text of an extra is redacted by two
substitutions in a row, bearer tokens and then keys; what stands under a key that hints at a secret
is replaced as a whole, at any depth.

`redactText_clean` is that neither pattern is left in a text: the second substitution does not put a
bearer token together again.  `redactionFilter_sound` is what this means for a whole record.
-/

namespace CostPlatform

open PyJson

/-! ## Definitions -/

/-- Reserved `LogRecord` attributes; anything else is treated as structured extra. -/
def RESERVED : List String :=
  ["args", "asctime", "created", "exc_info", "exc_text", "filename", "funcName", "levelname",
    "levelno", "lineno", "module", "msecs", "message", "msg", "name", "pathname", "process",
    "processName", "relativeCreated", "stack_info", "thread", "threadName", "taskName"]

def SECRET_KEY_HINTS : List String :=
  ["api_key", "apikey", "secret", "token", "password", "passwd", "authorization", "cookie",
    "credential", "private_key"]

def REDACTED : String := "***redacted***"

/-- The key hints at a secret. -/
def hintsAtSecret (key : String) : Bool :=
  SECRET_KEY_HINTS.any fun hint => PyString.contains (PyString.lower key) hint

section

-- what `str.isalnum` says of a character beyond ASCII
variable (alnumBeyondAscii : Char → Bool)

def bearerRe : Regex :=
  .allOf (wordEdge alnumBeyondAscii)
    [caseless "bearer", someSpace, .many 1 none (caselessAlnumOr "._-")]

def apikeyRe : Regex :=
  .allOf (wordEdge alnumBeyondAscii) [exactly "sk-", .many 8 none (alnumOr "._-")]

/-- `\1` and a mark: the group is the word itself. -/
def bearerReplaced (found : List Char) : List Char := found.take 6 ++ ' ' :: REDACTED.toList

def redactBearer (value : String) : String := (bearerRe alnumBeyondAscii).sub bearerReplaced value

def redactText (value : String) : String :=
  (apikeyRe alnumBeyondAscii).sub (fun _ => REDACTED.toList) (redactBearer alnumBeyondAscii value)

mutual

def redactValue (key : String) (value : Json) : Json :=
  if hintsAtSecret key then .Text REDACTED
  else
    match value with
    | .Text text => .Text (redactText alnumBeyondAscii text)
    | .Dict entries => .Dict (redactEntries entries)
    | .Items items => .Items (redactItems key items)
    | .Null => .Null
    | .Boolean value => .Boolean value
    | .Integer value => .Integer value
    | .Float value text => .Float value text

/-- Each entry by its own key. -/
def redactEntries : List (String × Json) → List (String × Json)
  | [] => []
  | (key, value) :: entries => (key, redactValue key value) :: redactEntries entries

/-- Each item by the key of its list. -/
def redactItems (key : String) : List Json → List Json
  | [] => []
  | item :: items => redactValue key item :: redactItems key items

end

/-- What the filter reads of a record whose values are JSON values, with texts for keys. -/
structure LogRecord where
  msg : Json
  /-- The other attributes, in `record.__dict__`. -/
  attributes : List (String × Json)

def redactMessage : Json → Json
  | .Text text => .Text (redactText alnumBeyondAscii text)
  | msg => msg

def redactAttribute (entry : String × Json) : String × Json :=
  if entry.1 ∈ RESERVED then entry
  else (entry.1, redactValue alnumBeyondAscii entry.1 entry.2)

/-- The record that goes on: `RedactionFilter.filter` lets every one through. -/
def redactionFilter (record : LogRecord) : LogRecord where
  msg := redactMessage alnumBeyondAscii record.msg
  attributes := record.attributes.map (redactAttribute alnumBeyondAscii)

end

/-! ## What the two patterns match -/

section

variable {alnumBeyondAscii : Char → Bool}

/-- The word, space, and the first character of the token. -/
def IsBearerCore (core : List Char) : Prop :=
  ∃ word space c, core = word ++ space ++ [c]
    ∧ List.Forall₂ (fun letter d => eitherCase letter d = true) "bearer".toList word
    ∧ space ≠ [] ∧ (∀ d ∈ space, PyString.isSpace d = true) ∧ caselessAlnumOr "._-" c = true

/-- The prefix, and the first eight characters of the key. -/
def IsApikeyCore (core : List Char) : Prop :=
  ∃ key, core = "sk-".toList ++ key ∧ key.length = 8 ∧ ∀ d ∈ key, alnumOr "._-" d = true

lemma bearerRe_matches_iff {before text after : List Char} :
    (bearerRe alnumBeyondAscii).Matches before text after
      ↔ before.head?.any (isWord alnumBeyondAscii)
            ≠ (text ++ after).head?.any (isWord alnumBeyondAscii)
        ∧ ∃ word space token, text = word ++ (space ++ token)
            ∧ List.Forall₂ (fun letter d => eitherCase letter d = true) "bearer".toList word
            ∧ (space ≠ [] ∧ ∀ d ∈ space, PyString.isSpace d = true)
            ∧ token ≠ [] ∧ ∀ d ∈ token, caselessAlnumOr "._-" d = true := by
  have hcaseless : ∀ before word after, (caseless "bearer").Matches before word after
      ↔ List.Forall₂ (fun letter d => eitherCase letter d = true) "bearer".toList word := by
    intro before word after
    rw [caseless, Regex.sequence_matches_iff, List.forall₂_map_left_iff]
  constructor
  · rintro ⟨_, _, rfl, ⟨rfl, hedge⟩, word, _, rfl, hword, space, token, rfl, hspace, htoken⟩
    exact ⟨by simpa using hedge, word, space, token, rfl, (hcaseless _ _ _).mp hword,
      ⟨List.length_pos_iff.mp hspace.1, hspace.2.2⟩, List.length_pos_iff.mp htoken.1, htoken.2.2⟩
  · rintro ⟨hedge, word, space, token, rfl, hword, ⟨hspace, hspaces⟩, htoken, htokens⟩
    exact ⟨[], _, rfl, ⟨rfl, hedge⟩, word, _, rfl, (hcaseless _ _ _).mpr hword, space, token, rfl,
      matches_of_ne_nil hspace hspaces, matches_of_ne_nil htoken htokens⟩

lemma apikeyRe_matches_iff {before text after : List Char} :
    (apikeyRe alnumBeyondAscii).Matches before text after
      ↔ before.head?.any (isWord alnumBeyondAscii)
            ≠ (text ++ after).head?.any (isWord alnumBeyondAscii)
        ∧ ∃ key, text = "sk-".toList ++ key ∧ 8 ≤ key.length
            ∧ ∀ d ∈ key, alnumOr "._-" d = true := by
  constructor
  · rintro ⟨_, _, rfl, ⟨rfl, hedge⟩, sk, key, rfl, hsk, hkey⟩
    rw [exactly_matches_iff.mp hsk] at hedge ⊢
    exact ⟨by simpa using hedge, key, rfl, hkey.1, hkey.2.2⟩
  · rintro ⟨hedge, key, rfl, hlength, hkey⟩
    exact ⟨[], _, rfl, ⟨rfl, hedge⟩, _, key, rfl, exactly_matches_iff.mpr rfl, hlength, by simp,
      hkey⟩

lemma bearerCore_starts {core : List Char} (h : IsBearerCore core) :
    ∃ c cs, core = c :: cs ∧ eitherCase 'b' c = true := by
  obtain ⟨word, space, c, rfl, hword, -⟩ := h
  obtain ⟨d, word, hd, -, rfl⟩ := List.forall₂_cons_left_iff.mp hword
  exact ⟨d, _, rfl, hd⟩

lemma bearer_hasCores :
    (bearerRe alnumBeyondAscii).HasCores IsBearerCore (eitherCase 'b') where
  of_match := by
    intro before text after h
    obtain ⟨hedge, word, space, token, rfl, hword, hspace, htoken, htokens⟩ :=
      bearerRe_matches_iff.mp h
    obtain ⟨c, more, rfl⟩ := List.exists_cons_of_ne_nil htoken
    have hc := htokens c List.mem_cons_self
    refine ⟨word ++ space ++ [c], more, by simp,
      ⟨word, space, c, rfl, hword, hspace.1, hspace.2, hc⟩,
      fun after' => bearerRe_matches_iff.mpr ⟨?_, word, space, [c], by simp, hword, hspace, by simp,
        by simpa using hc⟩⟩
    obtain ⟨d, word, hd, -, rfl⟩ := List.forall₂_cons_left_iff.mp hword
    exact hedge
  starts := bearerCore_starts

lemma apikey_hasCores :
    (apikeyRe alnumBeyondAscii).HasCores IsApikeyCore (fun c => decide (c = 's')) where
  of_match := by
    intro before text after h
    obtain ⟨hedge, key, rfl, hlength, hkey⟩ := apikeyRe_matches_iff.mp h
    have hfirst : ∀ d ∈ key.take 8, alnumOr "._-" d = true :=
      fun d hd => hkey d (List.mem_of_mem_take hd)
    have hlength' := List.length_take_of_le hlength
    exact ⟨"sk-".toList ++ key.take 8, key.drop 8, by simp, ⟨key.take 8, rfl, hlength', hfirst⟩,
      fun after' => apikeyRe_matches_iff.mpr ⟨hedge, key.take 8, rfl, hlength'.ge, hfirst⟩⟩
  starts := by
    rintro core ⟨key, rfl, -⟩
    exact ⟨'s', _, rfl, rfl⟩

/-! ## The mark -/

lemma star_not_mem_bearerCore {core : List Char} (h : IsBearerCore core) : '*' ∉ core := by
  obtain ⟨word, space, c, rfl, hword, -, hspace, hc⟩ := h
  intro hstar
  rcases List.mem_append.mp hstar with hstar | hstar
  · rcases List.mem_append.mp hstar with hstar | hstar
    · have hletters : ∀ letters word : List Char, (∀ l ∈ letters, eitherCase l '*' = false) →
          List.Forall₂ (fun l d => eitherCase l d = true) letters word → '*' ∉ word := by
        intro letters word hno hall
        induction hall with
        | nil => simp
        | cons hd _ ih =>
            rw [List.forall_mem_cons] at hno
            rw [List.mem_cons, not_or]
            refine ⟨fun heq => ?_, ih hno.2⟩
            rw [← heq, hno.1] at hd
            cases hd
      exact hletters _ word (List.forall_iff_forall_mem.mp (by decide)) hword hstar
    · have := hspace '*' hstar
      revert this
      decide
  · rw [← List.mem_singleton.mp hstar] at hc
    revert hc
    decide

lemma star_not_mem_apikeyCore {core : List Char} (h : IsApikeyCore core) : '*' ∉ core := by
  obtain ⟨key, rfl, -, hkey⟩ := h
  intro hstar
  rcases List.mem_append.mp hstar with hstar | hstar
  · revert hstar
    decide
  · have := hkey '*' hstar
    revert this
    decide

/-- No core runs into the mark. -/
lemma stops_redacted {IsCore : List Char → Prop} (h : ∀ core, IsCore core → '*' ∉ core) :
    Regex.Stops IsCore REDACTED.toList := by
  rintro front back later hne ⟨rest, hback⟩ hcore
  obtain ⟨c, back, rfl⟩ := List.exists_cons_of_ne_nil hne
  obtain rfl : c = '*' := (List.cons.inj hback).1
  exact h _ hcore (by simp)

/-- What a mark is put in for is gone as a whole. -/
lemma shields_redacted {IsCore : List Char → Prop} {starts : Char → Bool}
    (hnil : ¬ IsCore []) (hstar : ∀ core, IsCore core → '*' ∉ core)
    (hstarts : ∀ c ∈ REDACTED.toList, starts c = false) (text : List Char) :
    Regex.Shields IsCore starts text REDACTED.toList := by
  refine ⟨[], text, REDACTED.toList, rfl, rfl, ?_, hstarts, stops_redacted hstar⟩
  intro core hinfix
  rwa [List.infix_nil.mp hinfix]

lemma shields_bearer {before text after : List Char}
    (h : (bearerRe alnumBeyondAscii).Matches before text after) :
    Regex.Shields IsBearerCore (eitherCase 'b') text (bearerReplaced text) := by
  obtain ⟨-, word, space, token, rfl, hword, -⟩ := bearerRe_matches_iff.mp h
  have hlength : word.length = 6 := hword.length_eq.symm
  refine ⟨word, space ++ token, ' ' :: REDACTED.toList, rfl, ?_, ?_,
    List.forall_iff_forall_mem.mp (by decide), ?_⟩
  · rw [bearerReplaced, List.take_left' hlength]
  · rintro core hinfix ⟨other, space, c, rfl, hother, hspace, -⟩
    have hle := hinfix.length_le
    have hpos := List.length_pos_iff.mpr hspace
    have hsix : other.length = 6 := hother.length_eq.symm
    simp only [List.length_append, List.length_singleton] at hle
    omega
  · rintro front back later hne ⟨rest, hback⟩ hcore
    obtain ⟨c, back, rfl⟩ := List.exists_cons_of_ne_nil hne
    obtain ⟨hspace, hmark⟩ := List.cons.inj hback
    subst hspace
    cases back with
    | nil =>
        -- a core ends with a character of the token
        obtain ⟨word, space, d, hsplit, -, -, -, hd⟩ := hcore
        obtain ⟨-, hlast⟩ := List.append_inj' hsplit rfl
        cases hlast
        revert hd
        decide
    | cons c back =>
        obtain rfl : c = '*' := (List.cons.inj hmark).1
        exact star_not_mem_bearerCore hcore (by simp)

/-! ## Texts -/

/-- Neither pattern is found in the text. -/
def SecretFree (alnumBeyondAscii : Char → Bool) (text : String) : Prop :=
  ¬ (bearerRe alnumBeyondAscii).Found text.toList ∧ ¬ (apikeyRe alnumBeyondAscii).Found text.toList

lemma redactBearer_clean (value : String) :
    ¬ (bearerRe alnumBeyondAscii).Found (redactBearer alnumBeyondAscii value).toList := by
  rw [redactBearer, Regex.sub, String.toList_ofList, ← Regex.clean_iff_not_found]
  refine Regex.clean_subFrom bearer_hasCores ?_ ?_ (fun _ _ _ h => shields_bearer h) 0 ?_
    (Or.inl rfl) (absurd rfl)
  · rintro before text after h rfl
    obtain ⟨core, more, hnil, hcore, -⟩ := bearer_hasCores.of_match h
    obtain ⟨c, cs, rfl, -⟩ := bearerCore_starts hcore
    cases hnil
  · exact (((Regex.takesAll_many 1 _).cat _).cat _ |>.cat _).mono fun c hc => by
      rcases (by simpa [eitherCase] using hc : c = 'b' ∨ c = 'B') with rfl | rfl <;> rfl
  · exact fun skipped left _ hnone text after hleft => Regex.behind_eq_none hnone hleft

/-- The keys of a text are replaced without putting a bearer token together. -/
lemma apikeySub_clean {value : String} (h : ¬ (bearerRe alnumBeyondAscii).Found value.toList) :
    SecretFree alnumBeyondAscii
      ((apikeyRe alnumBeyondAscii).sub (fun _ => REDACTED.toList) value) := by
  have hconsumes : ∀ before text after, (apikeyRe alnumBeyondAscii).Matches before text after →
      text ≠ [] := by
    rintro before text after h rfl
    obtain ⟨-, key, hnil, -⟩ := apikeyRe_matches_iff.mp h
    cases hnil
  have htakes : (apikeyRe alnumBeyondAscii).TakesAll (alnumOr "._-") :=
    ((Regex.takesAll_many 8 _).cat _).cat _
  rw [SecretFree, Regex.sub, String.toList_ofList, ← Regex.clean_iff_not_found,
    ← Regex.clean_iff_not_found]
  constructor
  · refine Regex.clean_subFrom bearer_hasCores hconsumes (htakes.mono fun c hc => ?_)
      (fun _ text _ _ => shields_redacted ?_ (fun _ => star_not_mem_bearerCore)
        (List.forall_iff_forall_mem.mp (by decide)) text) 0 ?_ (Or.inl rfl) (absurd rfl)
    · rcases (by simpa [eitherCase] using hc : c = 'b' ∨ c = 'B') with rfl | rfl <;> rfl
    · intro hnil
      obtain ⟨c, cs, hcons, -⟩ := bearerCore_starts hnil
      cases hcons
    · exact fun skipped left hsplit _ =>
        (Regex.clean_iff_not_found _ _).mpr h skipped left hsplit
  · refine Regex.clean_subFrom apikey_hasCores hconsumes (htakes.mono fun c hc => ?_)
      (fun _ text _ _ => shields_redacted ?_ (fun _ => star_not_mem_apikeyCore)
        (List.forall_iff_forall_mem.mp (by decide)) text) 0 ?_ (Or.inl rfl) (absurd rfl)
    · rw [of_decide_eq_true hc]
      rfl
    · rintro ⟨key, hnil, -⟩
      cases hnil
    · exact fun skipped left _ hnone text after hleft => Regex.behind_eq_none hnone hleft

lemma secretFree_redactText (value : String) :
    SecretFree alnumBeyondAscii (redactText alnumBeyondAscii value) :=
  apikeySub_clean (redactBearer_clean value)

lemma redactText_eq_self_iff {value : String} :
    redactText alnumBeyondAscii value = value ↔ SecretFree alnumBeyondAscii value := by
  refine ⟨fun h => h ▸ secretFree_redactText value, fun ⟨hbearer, hapikey⟩ => ?_⟩
  rw [← Regex.clean_iff_not_found] at hbearer hapikey
  rw [redactText, redactBearer, Regex.sub, Regex.sub, String.toList_ofList,
    Regex.subFrom_of_clean hbearer, Regex.subFrom_of_clean hapikey, String.ofList_toList]

/-- **No bearer token and no key is left in a text**, and a text without one is left as it is. -/
theorem redactText_clean (value : String) :
    SecretFree alnumBeyondAscii (redactText alnumBeyondAscii value)
      ∧ (redactText alnumBeyondAscii value = value ↔ SecretFree alnumBeyondAscii value) :=
  ⟨secretFree_redactText value, redactText_eq_self_iff⟩

example : redactText (fun _ => false) "Bearer abc.def, sk-12345678, sk-1234"
    = "Bearer ***redacted***, ***redacted***, sk-1234" := by decide +kernel

lemma secretFree_redacted : SecretFree alnumBeyondAscii REDACTED :=
  ⟨bearer_hasCores.not_found (List.forall_iff_forall_mem.mp (by decide)),
    apikey_hasCores.not_found (List.forall_iff_forall_mem.mp (by decide))⟩

/-! ## Values and records -/

/-- A value, read under a key, holds another one under a key: an item is read under the key of its
    list, what is in an object under its own. -/
inductive Holds : String → Json → String → Json → Prop where
  | here (key : String) (value : Json) : Holds key value key value
  | item {key key' : String} {items : List Json} {item value : Json} (hmem : item ∈ items)
      (h : Holds key item key' value) : Holds key (.Items items) key' value
  | entry {key key' : String} {entries : List (String × Json)} {entry : String × Json}
      {value : Json} (hmem : entry ∈ entries) (h : Holds entry.1 entry.2 key' value) :
      Holds key (.Dict entries) key' value

/-- Nothing in the value is left to redact. -/
def Redacted (alnumBeyondAscii : Char → Bool) (key : String) (value : Json) : Prop :=
  ∀ key' held, Holds key value key' held →
    (hintsAtSecret key' = true → held = .Text REDACTED)
      ∧ ∀ text, held = .Text text → SecretFree alnumBeyondAscii text

lemma redactItems_eq (key : String) (items : List Json) :
    redactItems alnumBeyondAscii key items = items.map (redactValue alnumBeyondAscii key) := by
  induction items with
  | nil => rfl
  | cons item items ih => rw [redactItems, ih, List.map_cons]

lemma redactEntries_eq (entries : List (String × Json)) :
    redactEntries alnumBeyondAscii entries
      = entries.map fun entry => (entry.1, redactValue alnumBeyondAscii entry.1 entry.2) := by
  induction entries with
  | nil => rfl
  | cons entry entries ih => rw [redactEntries, ih, List.map_cons]

lemma redacted_mark (key : String) : Redacted alnumBeyondAscii key (.Text REDACTED) := by
  intro key' held h
  cases h
  refine ⟨fun _ => rfl, fun text htext => ?_⟩
  cases htext
  exact secretFree_redacted

/-- A value without parts, and no text, holds nothing but itself. -/
lemma redacted_of_leaf {key : String} {value : Json} (hhint : ¬ hintsAtSecret key = true)
    (hself : ∀ key' held, Holds key value key' held → key' = key ∧ held = value)
    (htext : ∀ text, value = .Text text → SecretFree alnumBeyondAscii text) :
    Redacted alnumBeyondAscii key value := by
  intro key' held h
  obtain ⟨rfl, rfl⟩ := hself key' held h
  exact ⟨fun hkey => absurd hkey hhint, htext⟩

/-- **What comes out has nothing left to redact**, at any depth. -/
theorem redactValue_redacted (key : String) (value : Json) :
    Redacted alnumBeyondAscii key (redactValue alnumBeyondAscii key value) := by
  induction value using Json.induct generalizing key with
  | items items ih =>
      rw [redactValue]
      split_ifs with hhint
      · exact redacted_mark key
      · intro key' held h
        rw [redactItems_eq] at h
        cases h with
        | here => exact ⟨fun hkey => absurd hkey hhint, nofun⟩
        | item hmem h =>
            obtain ⟨item, hitem, rfl⟩ := List.mem_map.mp hmem
            exact ih item hitem key key' held h
  | dict entries ih =>
      rw [redactValue]
      split_ifs with hhint
      · exact redacted_mark key
      · intro key' held h
        rw [redactEntries_eq] at h
        cases h with
        | here => exact ⟨fun hkey => absurd hkey hhint, nofun⟩
        | entry hmem h =>
            obtain ⟨entry, hentry, rfl⟩ := List.mem_map.mp hmem
            exact ih entry hentry entry.1 key' held h
  | text text =>
      rw [redactValue]
      split_ifs with hhint
      · exact redacted_mark key
      · refine redacted_of_leaf hhint (fun _ _ h => by cases h; exact ⟨rfl, rfl⟩) ?_
        intro text' htext
        cases htext
        exact secretFree_redactText text
  | _ =>
      rw [redactValue]
      split_ifs with hhint
      · exact redacted_mark key
      · exact redacted_of_leaf hhint (fun _ _ h => by cases h; exact ⟨rfl, rfl⟩) nofun

/-- **A value is left as it is exactly if nothing in it is left to redact.** -/
theorem redactValue_eq_self_iff (key : String) (value : Json) :
    redactValue alnumBeyondAscii key value = value ↔ Redacted alnumBeyondAscii key value := by
  refine ⟨fun h => h ▸ redactValue_redacted key value, fun h => ?_⟩
  induction value using Json.induct generalizing key with
  | items items ih =>
      have hhint : ¬ hintsAtSecret key = true := fun hkey => nomatch (h _ _ (.here _ _)).1 hkey
      have hitems : items.map (redactValue alnumBeyondAscii key) = items.map id :=
        List.map_congr_left fun item hitem =>
          ih item hitem key fun key' held hheld => h key' held (.item hitem hheld)
      rw [redactValue, if_neg hhint, redactItems_eq, hitems, List.map_id]
  | dict entries ih =>
      have hhint : ¬ hintsAtSecret key = true := fun hkey => nomatch (h _ _ (.here _ _)).1 hkey
      have hentries : entries.map (fun entry =>
          (entry.1, redactValue alnumBeyondAscii entry.1 entry.2)) = entries.map id :=
        List.map_congr_left fun entry hentry => Prod.ext rfl
          (ih entry hentry entry.1 fun key' held hheld => h key' held (.entry hentry hheld))
      rw [redactValue, if_neg hhint, redactEntries_eq, hentries, List.map_id]
  | text text =>
      rw [redactValue]
      split_ifs with hhint
      · exact ((h _ _ (.here _ _)).1 hhint).symm
      · exact congrArg Json.Text (redactText_eq_self_iff.mpr ((h _ _ (.here _ _)).2 text rfl))
  | _ =>
      have hhint : ¬ hintsAtSecret key = true := fun hkey => nomatch (h _ _ (.here _ _)).1 hkey
      rw [redactValue, if_neg hhint]

/-- Nothing in the record is left to redact. -/
structure RecordRedacted (alnumBeyondAscii : Char → Bool) (record : LogRecord) : Prop where
  msg : ∀ text, record.msg = .Text text → SecretFree alnumBeyondAscii text
  attributes : ∀ entry ∈ record.attributes, entry.1 ∉ RESERVED →
    Redacted alnumBeyondAscii entry.1 entry.2

lemma redactMessage_eq_self_iff (msg : Json) :
    redactMessage alnumBeyondAscii msg = msg
      ↔ ∀ text, msg = .Text text → SecretFree alnumBeyondAscii text := by
  cases msg with
  | Text text =>
      rw [redactMessage, Json.Text.injEq, redactText_eq_self_iff]
      exact ⟨fun h text' htext => by cases htext; exact h, fun h => h text rfl⟩
  | _ => exact ⟨fun _ => nofun, fun _ => rfl⟩

lemma redactAttribute_eq_self_iff (entry : String × Json) :
    redactAttribute alnumBeyondAscii entry = entry
      ↔ (entry.1 ∉ RESERVED → Redacted alnumBeyondAscii entry.1 entry.2) := by
  obtain ⟨key, value⟩ := entry
  rw [redactAttribute]
  split_ifs with hreserved
  · exact ⟨fun _ h => absurd hreserved h, fun _ => rfl⟩
  · rw [Prod.mk.injEq, redactValue_eq_self_iff]
    exact ⟨fun h _ => h.2, fun h => ⟨rfl, h hreserved⟩⟩

lemma recordRedacted_redactionFilter (record : LogRecord) :
    RecordRedacted alnumBeyondAscii (redactionFilter alnumBeyondAscii record) := by
  constructor
  · rw [← redactMessage_eq_self_iff]
    cases hmsg : record.msg with
    | Text text =>
        simp only [redactionFilter, hmsg, redactMessage, Json.Text.injEq]
        exact redactText_eq_self_iff.mpr (secretFree_redactText text)
    | _ => simp only [redactionFilter, hmsg, redactMessage]
  · intro entry hentry hreserved
    obtain ⟨raw, -, rfl⟩ := List.mem_map.mp hentry
    rw [redactAttribute] at hreserved ⊢
    split_ifs with hraw
    · rw [if_pos hraw] at hreserved
      exact absurd hraw hreserved
    · exact redactValue_redacted raw.1 raw.2

/-- **Behind the filter nothing in a record is left to redact**: its message and the texts in its
    extras hold no bearer token and no key, and under a key that hints at a secret there is the mark
    alone.  A record that is so already goes through as it is. -/
theorem redactionFilter_sound (record : LogRecord) :
    RecordRedacted alnumBeyondAscii (redactionFilter alnumBeyondAscii record)
      ∧ (redactionFilter alnumBeyondAscii record = record
          ↔ RecordRedacted alnumBeyondAscii record) := by
  constructor
  · exact recordRedacted_redactionFilter record
  · rw [redactionFilter]
    constructor
    · intro h
      have hmap : record.attributes.map (redactAttribute alnumBeyondAscii)
          = record.attributes.map id := by
        rw [List.map_id]
        exact congrArg LogRecord.attributes h
      refine ⟨(redactMessage_eq_self_iff _).mp (congrArg LogRecord.msg h), fun entry hentry => ?_⟩
      exact (redactAttribute_eq_self_iff entry).mp (List.map_inj_left.mp hmap entry hentry)
    · rintro ⟨hmsg, hattributes⟩
      have hself : record.attributes.map (redactAttribute alnumBeyondAscii)
          = record.attributes.map id := List.map_congr_left fun entry hentry =>
        (redactAttribute_eq_self_iff entry).mpr (hattributes entry hentry)
      rw [(redactMessage_eq_self_iff _).mpr hmsg, hself, List.map_id]

end

end CostPlatform
