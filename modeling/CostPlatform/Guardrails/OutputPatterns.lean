import CostPlatform.Library.JsonQuotes
import CostPlatform.Library.PyString

/-!
# The patterns of the output guard

The credentials and the executable fragments that the output layer searches for, each as written
in the source.  What `\w` takes beyond ASCII is left open.

Every one of them is local to a quoted text: written as JSON, an object holds it exactly where one
of its texts or keys, in quotes and with its escapes, holds it.  For eight this is read off the
pattern.  Two take a quote on their way: `assignedCredential_quoteFree` and `connectionText_within`
say why neither gets past the end of its text.
-/

namespace CostPlatform

open PyJson

/-! ## Patterns -/

/-- Either case of a letter, with the letters beyond ASCII that share it. -/
def eitherCase (letter c : Char) : Bool :=
  c = letter || c = letter.toUpper
    || (letter = 'i' && (c.toNat = 0x130 || c.toNat = 0x131))
    || (letter = 's' && c.toNat = 0x17F)
    || (letter = 'k' && c.toNat = 0x212A)

def exactly (text : String) : Regex := .sequence (text.toList.map fun letter c => c = letter)

def caseless (text : String) : Regex := .sequence (text.toList.map eitherCase)

def oneAmong (chars : String) : Regex := .one fun c => c ∈ chars.toList

def optional (chars : String) : Regex := .many 0 (some 1) fun c => c ∈ chars.toList

def anySpace : Regex := .many 0 none PyString.isSpace

def someSpace : Regex := .many 1 none PyString.isSpace

/-- A letter, a digit or one of these. -/
def alnumOr (others : String) (c : Char) : Bool := c.isAlphanum || c ∈ others.toList

/-- The same whatever the case: four letters beyond ASCII have an ASCII letter for their other. -/
def caselessAlnumOr (others : String) (c : Char) : Bool :=
  alnumOr others c || c.toNat ∈ [0x130, 0x131, 0x17F, 0x212A]

/-- Two words with space between them. -/
def phrase (first second : String) : Regex := .allOf (caseless first) [someSpace, caseless second]

section

-- what `str.isalnum` says of a character beyond ASCII
variable (alnumBeyondAscii : Char → Bool)

/-- A character of a word. -/
def isWord (c : Char) : Bool :=
  if c.toNat < 128 then alnumOr "_" c else alnumBeyondAscii c

def wordEdge : Regex := .boundary (isWord alnumBeyondAscii)

def bearerToken : Regex :=
  .allOf (wordEdge alnumBeyondAscii)
    [caseless "bearer", someSpace, .many 16 none (caselessAlnumOr "._~+/-")]

def openaiStyleKey : Regex :=
  .allOf (wordEdge alnumBeyondAscii) [exactly "sk-", .many 16 none (alnumOr "")]

def jwt : Regex :=
  .allOf (wordEdge alnumBeyondAscii)
    [exactly "eyJ", .many 8 none (alnumOr "_-"), exactly ".", .many 8 none (alnumOr "_-"),
      exactly ".", .many 8 none (alnumOr "_-")]

def privateKeyBlock : Regex :=
  .allOf (exactly "-----BEGIN ")
    [.many 0 none fun c => c.isUpper || c = ' ', exactly "PRIVATE KEY-----"]

/-- The name of a credential, and the sign after it. -/
def credentialName : Regex :=
  .allOf (wordEdge alnumBeyondAscii)
    [.oneOf (.allOf (caseless "api") [optional "_-", caseless "key"])
        [caseless "secret", caseless "password", caseless "token", caseless "credential"],
      wordEdge alnumBeyondAscii, anySpace, oneAmong ":=", anySpace]

def assignedCredential : Regex :=
  .cat (credentialName alnumBeyondAscii)
    (.cat (optional "'\"") (.many 12 none (caselessAlnumOr "._~+/-")))

def awsAccessKey : Regex :=
  .allOf (wordEdge alnumBeyondAscii)
    [exactly "AKIA", .many 16 (some 16) fun c => c.isDigit || c.isUpper, wordEdge alnumBeyondAscii]

/-- A character of the parts of a connection string. -/
def connectionChar (c : Char) : Bool := !PyString.isSpace c && c ≠ ':' && c ≠ '@'

def connectionString : Regex :=
  .allOf (wordEdge alnumBeyondAscii)
    [.many 1 none (isWord alnumBeyondAscii), exactly "://", .many 1 none connectionChar,
      exactly ":", .many 1 none connectionChar, exactly "@",
      .many 1 none fun c => !PyString.isSpace c && c ≠ '/']

def sqlMutation : Regex :=
  .allOf (wordEdge alnumBeyondAscii)
    [.oneOf (phrase "drop" "table")
        [phrase "truncate" "table", phrase "delete" "from",
          .allOf (caseless "update")
            [someSpace, .many 1 none (isWord alnumBeyondAscii), someSpace, caseless "set"],
          phrase "insert" "into", phrase "alter" "table", phrase "grant" "all"],
      wordEdge alnumBeyondAscii]

def shellCommand : Regex :=
  .allOf (.oneOf .start [oneAmong ";&|`", exactly "$("])
    [anySpace,
      .oneOf (phrase "rm" "-rf")
        [.cat (caseless "curl") (.one PyString.isSpace),
          .cat (caseless "wget") (.one PyString.isSpace),
          .cat (caseless "chmod") (.one PyString.isSpace),
          .cat (caseless "sudo") (.one PyString.isSpace)]]

def codeExecution : Regex :=
  .allOf (wordEdge alnumBeyondAscii)
    [.oneOf (caseless "eval")
        [caseless "exec", caseless "system", caseless "subprocess", caseless "os.popen"],
      anySpace, exactly "("]

/-- Credential shapes that must never appear in a response. -/
def secretPatterns : List (String × Regex) :=
  [("bearer_token", bearerToken alnumBeyondAscii),
    ("openai_style_key", openaiStyleKey alnumBeyondAscii), ("jwt", jwt alnumBeyondAscii),
    ("private_key_block", privateKeyBlock),
    ("assigned_credential", assignedCredential alnumBeyondAscii),
    ("aws_access_key", awsAccessKey alnumBeyondAscii),
    ("connection_string", connectionString alnumBeyondAscii)]

/-- Output shaped like something to execute. -/
def unsafePatterns : List (String × Regex) :=
  [("sql_mutation", sqlMutation alnumBeyondAscii), ("shell_command", shellCommand),
    ("code_execution", codeExecution alnumBeyondAscii)]

/-- What a text is searched for. -/
def outputPatterns : List (String × Regex) :=
  secretPatterns alnumBeyondAscii ++ unsafePatterns alnumBeyondAscii

/-! ## Patterns without quotes -/

lemma bearerToken_local : QuoteLocal (bearerToken alnumBeyondAscii) :=
  quoteLocal_of_avoids rfl rfl

lemma openaiStyleKey_local : QuoteLocal (openaiStyleKey alnumBeyondAscii) :=
  quoteLocal_of_avoids rfl rfl

lemma jwt_local : QuoteLocal (jwt alnumBeyondAscii) := quoteLocal_of_avoids rfl rfl

lemma privateKeyBlock_local : QuoteLocal privateKeyBlock := quoteLocal_of_avoids rfl rfl

lemma awsAccessKey_local : QuoteLocal (awsAccessKey alnumBeyondAscii) :=
  quoteLocal_of_avoids rfl rfl

lemma sqlMutation_local : QuoteLocal (sqlMutation alnumBeyondAscii) := quoteLocal_of_avoids rfl rfl

lemma shellCommand_local : QuoteLocal shellCommand := quoteLocal_of_avoids rfl rfl

lemma codeExecution_local : QuoteLocal (codeExecution alnumBeyondAscii) :=
  quoteLocal_of_avoids rfl rfl

/-! ## Assigned credentials -/

/-- No separator is a character of a credential. -/
lemma separator_not_credential {c : Char} (h : c ∈ [',', ':', ']', '\x7d']) :
    caselessAlnumOr "._~+/-" c = false := by
  have hall : [',', ':', ']', '\x7d'].all (fun c => !caselessAlnumOr "._~+/-" c) = true := by
    decide
  simpa using List.all_eq_true.mp hall c h

/-- **The quote before a credential is no quote of the JSON**: behind the last of a text comes a
    separator, and one within a text has a backslash before it. -/
lemma assignedCredential_quoteFree {pieces : List Piece} (hpieces : WrittenJson pieces)
    {before found after : List Char}
    (hwritten : (written pieces).toList = before.reverse ++ found ++ after)
    (hmatches : (assignedCredential alnumBeyondAscii).Matches before found after) :
    '"' ∉ found := by
  obtain ⟨name, rest, rfl, hname, quote, value, rfl, ⟨-, hquote, hquotes⟩, hvalue, -, hclass⟩ :=
    hmatches
  have hnameFree : '"' ∉ name := Regex.not_mem_of_avoids (by rfl) hname
  have hvalueFree : '"' ∉ value := fun h => Bool.false_ne_true (hclass _ h)
  intro hmem
  have hmem : '"' ∈ quote := by simpa [hnameFree, hvalueFree] using hmem
  obtain ⟨c, rfl⟩ : ∃ c, quote = [c] :=
    List.length_eq_one_iff.mp (le_antisymm (hquote 1 rfl) (List.length_pos_of_mem hmem))
  obtain rfl := List.mem_singleton.mp hmem
  have hneeds : ∃ c ∈ name, c ∉ OUTSIDE := Regex.exists_mem_of_needs (by rfl) hname
  obtain ⟨front, text, back, opened, closed, rfl, hescaped, -, hclosed⟩ :=
    quoteFree_lies hpieces.plain
      (show (written _).toList = before.reverse ++ (name ++ '"' :: (value ++ after)) by
        rw [hwritten]; simp) hnameFree hneeds
  cases closed with
  | nil =>
      -- the text ends before the quote, and the credential would have to start with a separator
      cases value with
      | nil => exact absurd hvalue (by decide)
      | cons first value =>
          have hseparator := (follows_of_wellSpaced hpieces.spaced).separator first (by
            rw [← (List.cons_eq_cons.mp hclosed).2]
            rfl)
          exact absurd (hclass first List.mem_cons_self)
            (Bool.eq_false_iff.mp (separator_not_credential hseparator))
  | cons next closed =>
      obtain ⟨rfl, -⟩ := List.cons_eq_cons.mp hclosed
      obtain ⟨c, hc, -⟩ := hneeds
      have hlast : '\\' ∈ name := by
        have hbackslash := backslash_before_quote
          (show escaped text = opened ++ name ++ '"' :: closed by simpa using hescaped)
        rw [List.getLast?_append_of_ne_nil _ (List.ne_nil_of_mem hc)] at hbackslash
        exact List.mem_of_getLast? hbackslash
      exact absurd hlast (Regex.not_mem_of_avoids (by rfl) hname)

lemma assignedCredential_local : QuoteLocal (assignedCredential alnumBeyondAscii) :=
  quoteLocal_of_quoteFree rfl fun _ hpieces _ _ _ hwritten hmatches =>
    assignedCredential_quoteFree alnumBeyondAscii hpieces hwritten hmatches

/-! ## Connection strings -/

/-- The parts of a connection string: at the edge of a word a scheme, a user and a password, and
    what the host starts with. -/
structure ConnectionParts (front scheme user password : List Char) (host : Char) : Prop where
  edge : front.getLast?.any (isWord alnumBeyondAscii) = false
  scheme_ne_nil : scheme ≠ []
  scheme_word : ∀ c ∈ scheme, isWord alnumBeyondAscii c = true
  user_ne_nil : user ≠ []
  user_chars : ∀ c ∈ user, connectionChar c = true
  password_ne_nil : password ≠ []
  password_chars : ∀ c ∈ password, connectionChar c = true
  host_char : (!PyString.isSpace host && host ≠ '/') = true

/-- A connection string up to its host. -/
def connectionText (scheme user password : List Char) : List Char :=
  scheme ++ ':' :: '/' :: '/' :: (user ++ ':' :: password)

lemma exactly_matches_iff {text : String} {before found after : List Char} :
    (exactly text).Matches before found after ↔ found = text.toList := by
  rw [exactly, Regex.sequence_matches_iff, List.forall₂_map_left_iff]
  simp only [decide_eq_true_eq]
  constructor
  · intro h
    exact List.forall₂_eq_eq_eq ▸ h.flip
  · rintro rfl
    exact List.forall₂_same.mpr fun _ _ => rfl

lemma matches_of_ne_nil {inClass : Char → Bool} {before part after : List Char} (hne : part ≠ [])
    (hchars : ∀ c ∈ part, inClass c = true) :
    (Regex.many 1 none inClass).Matches before part after :=
  ⟨List.length_pos_iff.mpr hne, by simp, hchars⟩

/-- **Where a connection string is found**: the host counts with its first character only. -/
theorem connectionString_found_iff {text : List Char} :
    (connectionString alnumBeyondAscii).Found text
      ↔ ∃ front scheme user password host back,
          text = front ++ (connectionText scheme user password ++ '@' :: host :: back)
            ∧ ConnectionParts alnumBeyondAscii front scheme user password host := by
  constructor
  · rintro ⟨before, _, after, rfl, _, _, rfl, ⟨rfl, hedge⟩, scheme, _, rfl,
      ⟨hscheme, -, hschemeChars⟩, _, _, rfl, hslashes, user, _, rfl, ⟨huser, -, huserChars⟩, _, _,
      rfl, hcolon, password, _, rfl, ⟨hpassword, -, hpasswordChars⟩, _, host, rfl, hat,
      ⟨hhost, -, hhostChars⟩⟩
    obtain rfl := exactly_matches_iff.mp hslashes
    obtain rfl := exactly_matches_iff.mp hcolon
    obtain rfl := exactly_matches_iff.mp hat
    cases scheme with
    | nil => exact absurd hscheme (by decide)
    | cons first scheme =>
        cases host with
        | nil => exact absurd hhost (by decide)
        | cons first' host =>
            have hfirst := hschemeChars first List.mem_cons_self
            refine ⟨before.reverse, first :: scheme, user, password, first', host ++ after, ?_,
              ?_, List.cons_ne_nil _ _, hschemeChars, List.length_pos_iff.mp huser, huserChars,
              List.length_pos_iff.mp hpassword, hpasswordChars, hhostChars _ List.mem_cons_self⟩
            · simp [connectionText]
            · simpa [hfirst] using hedge
  · rintro ⟨front, scheme, user, password, host, back, rfl, hparts⟩
    obtain ⟨first, scheme, rfl⟩ := List.exists_cons_of_ne_nil hparts.scheme_ne_nil
    have hfirst := hparts.scheme_word first List.mem_cons_self
    refine ⟨front.reverse, connectionText (first :: scheme) user password ++ ['@', host], back, ?_,
      [], _, rfl, ⟨rfl, ?_⟩, first :: scheme, _, ?_,
      matches_of_ne_nil hparts.scheme_ne_nil hparts.scheme_word, _, _, rfl,
      exactly_matches_iff.mpr rfl, user, _, rfl,
      matches_of_ne_nil hparts.user_ne_nil hparts.user_chars, _, _, rfl,
      exactly_matches_iff.mpr rfl, password, _, rfl,
      matches_of_ne_nil hparts.password_ne_nil hparts.password_chars, _, [host], rfl,
      exactly_matches_iff.mpr rfl,
      matches_of_ne_nil (List.cons_ne_nil _ _) (List.forall_mem_singleton.mpr hparts.host_char)⟩
    · simp
    · simp [hfirst, hparts.edge]
    · simp

lemma space_not_connectionText {front scheme user password : List Char} {host : Char}
    (hparts : ConnectionParts alnumBeyondAscii front scheme user password host) :
    ' ' ∉ user ++ ':' :: password := by
  have hspace : ∀ part : List Char, (∀ c ∈ part, connectionChar c = true) → ' ' ∉ part :=
    fun part hchars hmem => Bool.false_ne_true (hchars ' ' hmem)
  simp [hspace user hparts.user_chars, hspace password hparts.password_chars]

lemma quote_not_scheme {front scheme user password : List Char} {host : Char}
    (hparts : ConnectionParts alnumBeyondAscii front scheme user password host) :
    '"' ∉ scheme ++ [':', '/'] := by
  have hscheme : '"' ∉ scheme := fun h => Bool.false_ne_true (hparts.scheme_word '"' h)
  simp [hscheme]

/-- **A connection string is in one text from its scheme on.**  Otherwise the scheme and the host
    lie in two texts, and between them is a space. -/
lemma connectionText_within {before behind : List Piece} {text : String}
    (hpieces : WrittenJson (before ++ .Carried text (jsonQuote text) :: behind))
    {front scheme user password opened : List Char} {host : Char}
    (hparts : ConnectionParts alnumBeyondAscii front scheme user password host)
    (hfront : front ++ connectionText scheme user password
      = (written before).toList ++ '"' :: opened) :
    ∃ rest, front = (written before).toList ++ '"' :: rest
      ∧ opened = rest ++ connectionText scheme user password := by
  rcases append_eq_append_cons hfront with hwithin | ⟨rest, hbefore, htext⟩
  · exact hwithin
  -- the text of the host is opened after the scheme and the slashes
  have hsplit : (scheme ++ [':', '/']) ++ '/' :: (user ++ ':' :: password)
      = rest ++ '"' :: opened := by
    rw [← htext]
    simp [connectionText]
  rcases append_eq_append_cons hsplit with ⟨rest', hscheme, -⟩ | ⟨rest', rfl, htail⟩
  · exact absurd (by simp [hscheme]) (quote_not_scheme alnumBeyondAscii hparts)
  cases rest' with
  | nil => exact absurd (List.cons_eq_cons.mp htail).1 (by decide)
  | cons slash rest' =>
      obtain ⟨rfl, huser⟩ := List.cons_eq_cons.mp htail
      obtain ⟨before', text', behind', opened', closed, rfl, -, -, hclosed⟩ :=
        exists_carried (fun piece hpiece => hpieces.plain piece (List.mem_append_left _ hpiece))
          (c := '/') (by decide) (by decide)
          (show (written before).toList = (front ++ (scheme ++ [':', '/'])) ++ '/' :: rest' by
            rw [hbefore]; simp)
      have hspace : ' ' ∈ (written behind').toList := by
        have hspaced := hpieces.spaced
        rw [List.append_assoc, List.cons_append] at hspaced
        exact space_of_spaceFirst (follows_of_wellSpaced hspaced).space
      exact absurd (by simp [huser, hclosed, hspace])
        (space_not_connectionText alnumBeyondAscii hparts)

/-- **A connection string lies in one text**: it has no space, and one is written between two
    texts. -/
theorem connectionString_local : QuoteLocal (connectionString alnumBeyondAscii) := by
  intro pieces hpieces
  simp only [connectionString_found_iff]
  constructor
  · rintro ⟨front, scheme, user, password, host, after, hwritten, hparts⟩
    obtain ⟨before, text, behind, opened, closed, rfl, hescaped, hfront, hback⟩ :=
      exists_carried hpieces.plain (c := '@') (by decide) (by decide)
        (show (written _).toList
            = (front ++ connectionText scheme user password) ++ '@' :: (host :: after) by
          rw [hwritten, List.append_assoc])
    obtain ⟨rest, rfl, rfl⟩ := connectionText_within alnumBeyondAscii hpieces hparts hfront
    -- of the host the first character is in the text, or the quote behind it
    obtain ⟨back, hhost⟩ : ∃ back, closed ++ ['"'] = host :: back := by
      cases closed with
      | nil => exact ⟨[], by rw [(List.cons_eq_cons.mp hback).1]; rfl⟩
      | cons next closed => exact ⟨closed ++ ['"'], by rw [(List.cons_eq_cons.mp hback).1]; rfl⟩
    refine ⟨text, ⟨jsonQuote text, by simp⟩, '"' :: rest, scheme, user, password, host, back, ?_,
      { hparts with edge := ?_ }⟩
    · simp [toList_jsonQuote, hescaped, ← hhost]
    · have hedge := hparts.edge
      rwa [List.getLast?_append_of_ne_nil _ (List.cons_ne_nil _ _)] at hedge
  · rintro ⟨text, ⟨printed, hcarried⟩, front, scheme, user, password, host, back, hquoted, hparts⟩
    cases hpieces.plain _ hcarried
    obtain ⟨before, behind, rfl⟩ := List.append_of_mem hcarried
    have hne : front ≠ [] := by
      rintro rfl
      obtain ⟨first, scheme, rfl⟩ := List.exists_cons_of_ne_nil hparts.scheme_ne_nil
      rw [toList_jsonQuote] at hquoted
      obtain rfl := (List.cons_eq_cons.mp hquoted).1
      exact Bool.false_ne_true (hparts.scheme_word '"' List.mem_cons_self)
    refine ⟨(written before).toList ++ front, scheme, user, password, host,
      back ++ (written behind).toList, ?_, { hparts with edge := ?_ }⟩
    · simp [Piece.printed, hquoted]
    · rw [List.getLast?_append_of_ne_nil _ hne]
      exact hparts.edge

/-- **Every pattern is local to a quoted text.** -/
theorem outputPatterns_local :
    ∀ pattern ∈ outputPatterns alnumBeyondAscii, QuoteLocal pattern.2 := by
  simp only [outputPatterns, secretPatterns, unsafePatterns, List.cons_append, List.nil_append,
    List.forall_mem_cons]
  exact ⟨bearerToken_local _, openaiStyleKey_local _, jwt_local _, privateKeyBlock_local,
    assignedCredential_local _, awsAccessKey_local _, connectionString_local _,
    sqlMutation_local _, shellCommand_local, codeExecution_local _, by simp⟩

/-! ## Texts in quotes -/

/-- To every pattern the quote is no character of a word, and all but one can start anywhere. -/
lemma outputPatterns_edgeless :
    ∀ pattern ∈ outputPatterns alnumBeyondAscii, pattern.2.edgeless '"' = true
      ∧ (pattern.2 = shellCommand ∨ pattern.2.unanchored = true) := by
  simp only [outputPatterns, secretPatterns, unsafePatterns, List.cons_append, List.nil_append,
    List.forall_mem_cons]
  exact ⟨⟨rfl, .inr rfl⟩, ⟨rfl, .inr rfl⟩, ⟨rfl, .inr rfl⟩, ⟨rfl, .inr rfl⟩, ⟨rfl, .inr rfl⟩,
    ⟨rfl, .inr rfl⟩, ⟨rfl, .inr rfl⟩, ⟨rfl, .inr rfl⟩, ⟨rfl, .inl trivial⟩, ⟨rfl, .inr rfl⟩,
    by simp⟩

/-- A text that starts with a command of the shell. -/
def StartsWithCommand (text : List Char) : Prop :=
  ∃ found after, text = found ++ after ∧ shellCommand.Matches [] found after

/-- **What is found in a text is found in quotes too**, but for a command that starts it. -/
theorem found_in_quotes {pattern : String × Regex}
    (hpattern : pattern ∈ outputPatterns alnumBeyondAscii) {text : List Char}
    (h : pattern.2.Found text) :
    pattern.2.Found ('"' :: (text ++ ['"'])) ∨ StartsWithCommand text := by
  obtain ⟨before, found, after, rfl, hmatches⟩ := h
  obtain ⟨hedge, hanchor⟩ := outputPatterns_edgeless alnumBeyondAscii pattern hpattern
  by_cases hstart : before ≠ [] ∨ pattern.2.unanchored = true
  · exact .inl (Regex.found_enclosed hedge hstart hmatches)
  · obtain ⟨hbefore, hanchored⟩ := not_or.mp hstart
    obtain rfl := not_not.mp hbefore
    rw [hanchor.resolve_right hanchored] at hmatches
    exact .inr ⟨found, after, rfl, hmatches⟩

end

end CostPlatform
