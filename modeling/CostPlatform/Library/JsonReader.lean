import CostPlatform.Library.JsonQuotes

/-!
# Reading JSON back

Compact JSON, and a reader for it.  `readJson_compact` is the round trip: what is written is read
back as the value it was written from, and `compact_printable` that it is a line of printable ASCII,
whatever the texts in it.

A reader with fuel: `readValue_append` says how much is enough, and what it does is independent of
what comes after the value.
-/

namespace PyJson

/-! ## Compact JSON -/

mutual

/-- `json.dumps(value, separators=(",", ":"))`. -/
def compactChars : Json → List Char
  | .Null => "null".toList
  | .Boolean value => (if value then "true" else "false").toList
  | .Integer value => (toString value).toList
  | .Float value text => ((jsonForm false).float value text).toList
  | .Text text => (jsonQuote text).toList
  | .Items [] => ['[', ']']
  | .Items (item :: items) => '[' :: (compactChars item ++ itemsTail items)
  | .Dict [] => ['\x7b', '\x7d']
  | .Dict ((key, value) :: entries) =>
      '\x7b' :: ((jsonQuote key).toList ++ ':' :: (compactChars value ++ entriesTail entries))

/-- The items after the first one, and the end of the list. -/
def itemsTail : List Json → List Char
  | [] => [']']
  | item :: items => ',' :: (compactChars item ++ itemsTail items)

def entriesTail : List (String × Json) → List Char
  | [] => ['\x7d']
  | (key, value) :: entries =>
      ',' :: ((jsonQuote key).toList ++ ':' :: (compactChars value ++ entriesTail entries))

end

def compact (value : Json) : String := String.ofList (compactChars value)

/-! ## Numbers -/

def readDigits (token : List Char) : Option Nat :=
  if token ≠ [] ∧ token.all Char.isDigit then some (Nat.ofDigitChars 10 token 0) else none

/-- `int(token)`, for digits after a sign or without one. -/
def readInteger (token : List Char) : Option ℤ :=
  if token.head? = some '-' then (readDigits token.tail).map fun n : Nat => -(n : ℤ)
  else (readDigits token).map fun n : Nat => (n : ℤ)

mutual

/-- The floats of a value, with their printed forms. -/
def Json.floats : Json → List (PyFloat × String)
  | .Null => []
  | .Boolean _ => []
  | .Integer _ => []
  | .Float value text => [(value, text)]
  | .Text _ => []
  | .Items items => itemsFloats items
  | .Dict entries => entriesFloats entries

def itemsFloats : List Json → List (PyFloat × String)
  | [] => []
  | item :: items => item.floats ++ itemsFloats items

def entriesFloats : List (String × Json) → List (PyFloat × String)
  | [] => []
  | (_, value) :: entries => value.floats ++ entriesFloats entries

end

lemma mem_itemsFloats {items : List Json} {printed : PyFloat × String} :
    printed ∈ itemsFloats items ↔ ∃ item ∈ items, printed ∈ item.floats := by
  induction items with
  | nil => simp [itemsFloats]
  | cons item items ih => simp [itemsFloats, ih]

lemma mem_entriesFloats {entries : List (String × Json)} {printed : PyFloat × String} :
    printed ∈ entriesFloats entries ↔ ∃ entry ∈ entries, printed ∈ entry.2.floats := by
  induction entries with
  | nil => simp [entriesFloats]
  | cons entry entries ih => simp [entriesFloats, ih]

/-- `float.__repr__` and `float()`: a finite float is printed with a point or an exponent, and read
    back as what it is. -/
def PrintsFloat (float : String → Option ℚ) : PyFloat → String → Prop
  | .Finite value, text =>
      float text = some value ∧ readInteger text.toList = none ∧ text ≠ ""
        ∧ ∀ c ∈ text.toList, c ∈ NUMERIC
  | .PosInf, text => text = "inf"
  | .NegInf, text => text = "-inf"
  | .NaN, text => text = "nan"

/-- Every float of the value is printed so. -/
def Json.Printed (float : String → Option ℚ) (value : Json) : Prop :=
  ∀ printed ∈ value.floats, PrintsFloat float printed.1 printed.2

/-! ## The reader -/

def hexValue (c : Char) : Option Nat :=
  if '0' ≤ c ∧ c ≤ '9' then some (c.toNat - 48)
  else if 'a' ≤ c ∧ c ≤ 'f' then some (c.toNat - 87)
  else if 'A' ≤ c ∧ c ≤ 'F' then some (c.toNat - 55)
  else none

/-- What an escape of one character stands for. -/
def shortEscape : Char → Option Nat
  | '"' => some 0x22
  | '\\' => some 0x5C
  | '/' => some 0x2F
  | 'n' => some 0x0A
  | 'r' => some 0x0D
  | 't' => some 0x09
  | 'f' => some 0x0C
  | 'b' => some 0x08
  | _ => none

/-- The code units up to the closing quote, and what comes after it. -/
def readUnits : List Char → Option (List Nat × List Char)
  | [] => none
  | c :: chars =>
      if c = '"' then some ([], chars)
      else if c = '\\' then
        match chars with
        | [] => none
        | escape :: chars =>
            if escape = 'u' then
              match chars with
              | first :: second :: third :: fourth :: chars => do
                  let first ← hexValue first
                  let second ← hexValue second
                  let third ← hexValue third
                  let fourth ← hexValue fourth
                  let (units, rest) ← readUnits chars
                  some ((first * 4096 + second * 256 + third * 16 + fourth) :: units, rest)
              | _ => none
            else do
              let code ← shortEscape escape
              let (units, rest) ← readUnits chars
              some (code :: units, rest)
      else do
        let (units, rest) ← readUnits chars
        some (c.toNat :: units, rest)

/-- The characters of code units: two surrogates are one. -/
def joinUnits : List Nat → List Char
  | [] => []
  | [code] => [Char.ofNat code]
  | code :: next :: units =>
      if 0xD800 ≤ code ∧ code < 0xDC00 ∧ 0xDC00 ≤ next ∧ next < 0xE000 then
        Char.ofNat (0x10000 + (code - 0xD800) * 0x400 + (next - 0xDC00)) :: joinUnits units
      else Char.ofNat code :: joinUnits (next :: units)

/-- A text behind its opening quote. -/
def readText (chars : List Char) : Option (String × List Char) := do
  let (units, rest) ← readUnits chars
  some (String.ofList (joinUnits units), rest)

/-- A key, with the colon behind it. -/
def readKey (chars : List Char) : Option (String × List Char) :=
  if chars.head? = some '"' then do
    let (key, rest) ← readText chars.tail
    if rest.head? = some ':' then some (key, rest.tail) else none
  else none

def constants : List (String × Json) :=
  [("null", .Null), ("true", .Boolean true), ("false", .Boolean false), ("NaN", .Float .NaN "nan"),
    ("Infinity", .Float .PosInf "inf"), ("-Infinity", .Float .NegInf "-inf")]

lemma mem_constants {constant : String × Json} :
    constant ∈ constants ↔ constant = ("null", .Null) ∨ constant = ("true", .Boolean true)
      ∨ constant = ("false", .Boolean false) ∨ constant = ("NaN", .Float .NaN "nan")
      ∨ constant = ("Infinity", .Float .PosInf "inf")
      ∨ constant = ("-Infinity", .Float .NegInf "-inf") := by
  simp only [constants, List.mem_cons, List.not_mem_nil, or_false]

def readConstant (chars : List Char) : Option (Json × List Char) :=
  (constants.find? fun constant => constant.1.toList.isPrefixOf chars).map fun constant =>
    (constant.2, chars.drop constant.1.toList.length)

/-- A number: an integer where it is written as one. -/
def readNumber (float : String → Option ℚ) (chars : List Char) : Option (Json × List Char) :=
  let token := chars.takeWhile (· ∈ NUMERIC)
  let rest := chars.dropWhile (· ∈ NUMERIC)
  match readInteger token with
  | some value => some (.Integer value, rest)
  | none =>
      (float (String.ofList token)).map fun value =>
        (.Float (.Finite value) (String.ofList token), rest)

section

variable (float : String → Option ℚ)

mutual

/-- A value at the start of the text, and what comes after it. -/
def readValue : Nat → List Char → Option (Json × List Char)
  | 0, _ => none
  | fuel + 1, chars =>
      if chars.head? = some '"' then do
        let (text, rest) ← readText chars.tail
        some (.Text text, rest)
      else if chars.head? = some '[' then
        if chars.tail.head? = some ']' then some (.Items [], chars.tail.tail)
        else do
          let (item, rest) ← readValue fuel chars.tail
          let (items, rest) ← readItems fuel rest
          some (.Items (item :: items), rest)
      else if chars.head? = some '\x7b' then
        if chars.tail.head? = some '\x7d' then some (.Dict [], chars.tail.tail)
        else do
          let (key, rest) ← readKey chars.tail
          let (value, rest) ← readValue fuel rest
          let (entries, rest) ← readEntries fuel rest
          some (.Dict ((key, value) :: entries), rest)
      else (readConstant chars).or (readNumber float chars)

/-- The items behind the first one. -/
def readItems : Nat → List Char → Option (List Json × List Char)
  | 0, _ => none
  | fuel + 1, chars =>
      if chars.head? = some ']' then some ([], chars.tail)
      else if chars.head? = some ',' then do
        let (item, rest) ← readValue fuel chars.tail
        let (items, rest) ← readItems fuel rest
        some (item :: items, rest)
      else none

def readEntries : Nat → List Char → Option (List (String × Json) × List Char)
  | 0, _ => none
  | fuel + 1, chars =>
      if chars.head? = some '\x7d' then some ([], chars.tail)
      else if chars.head? = some ',' then do
        let (key, rest) ← readKey chars.tail
        let (value, rest) ← readValue fuel rest
        let (entries, rest) ← readEntries fuel rest
        some ((key, value) :: entries, rest)
      else none

end

/-- `json.loads(text)`, given `float()`. -/
def readJson (text : String) : Option Json :=
  match readValue float text.length text.toList with
  | some (value, []) => some value
  | _ => none

end

/-! ## Texts -/

lemma hexValue_hexDigit {digit : Nat} (h : digit < 16) :
    hexValue (hexDigit digit) = some digit := by
  revert digit
  decide

/-- The code units of a character. -/
def codeUnits (c : Char) : List Nat :=
  if c.toNat < 0x10000 then [c.toNat]
  else [0xD800 + (c.toNat - 0x10000) / 0x400, 0xDC00 + (c.toNat - 0x10000) % 0x400]

section Units

variable {chars rest : List Char} {units : List Nat}

lemma readUnits_short {escape : Char} {code : Nat} (hunicode : escape ≠ 'u')
    (hcode : shortEscape escape = some code) (hread : readUnits chars = some (units, rest)) :
    readUnits ('\\' :: escape :: chars) = some (code :: units, rest) := by
  rw [readUnits.eq_def]
  simp [hunicode, hcode, hread]

lemma readUnits_plain {c : Char} (hquote : c ≠ '"') (hbackslash : c ≠ '\\')
    (hread : readUnits chars = some (units, rest)) :
    readUnits (c :: chars) = some (c.toNat :: units, rest) := by
  rw [readUnits.eq_def]
  simp [hquote, hbackslash, hread]

lemma readUnits_unicodeEscape {code : Nat} (h : code < 0x10000)
    (hread : readUnits chars = some (units, rest)) :
    readUnits ((unicodeEscape code).toList ++ chars) = some (code :: units, rest) := by
  have hdigit : ∀ n, hexValue (hexDigit (n % 16)) = some (n % 16) :=
    fun n => hexValue_hexDigit (Nat.mod_lt n (by decide))
  have hcode : code / 4096 % 16 * 4096 + code / 256 % 16 * 256 + code / 16 % 16 * 16 + code % 16
      = code := by omega
  have hescape : (unicodeEscape code).toList = ['\\', 'u', hexDigit (code / 4096 % 16),
      hexDigit (code / 256 % 16), hexDigit (code / 16 % 16), hexDigit (code % 16)] := by
    simp [unicodeEscape]
  rw [hescape]
  simp [readUnits, hdigit, hread, hcode]

/-- **An escaped character is read back.** -/
lemma readUnits_escapeChar (c : Char)
    (hread : readUnits chars = some (units, rest)) :
    readUnits ((escapeChar c).toList ++ chars) = some (codeUnits c ++ units, rest) := by
  have hshort : ∀ {code : Nat}, c.toNat = code → code < 0x10000 → codeUnits c = [code] := by
    rintro code rfl hcode
    exact if_pos hcode
  simp only [escapeChar]
  split_ifs with hquote hbackslash hnewline hreturn htab hfeed hback hprintable hplane
  · rw [hshort hquote (by decide)]
    exact readUnits_short (by decide) rfl hread
  · rw [hshort hbackslash (by decide)]
    exact readUnits_short (by decide) rfl hread
  · rw [hshort hnewline (by decide)]
    exact readUnits_short (by decide) rfl hread
  · rw [hshort hreturn (by decide)]
    exact readUnits_short (by decide) rfl hread
  · rw [hshort htab (by decide)]
    exact readUnits_short (by decide) rfl hread
  · rw [hshort hfeed (by decide)]
    exact readUnits_short (by decide) rfl hread
  · rw [hshort hback (by decide)]
    exact readUnits_short (by decide) rfl hread
  · have hne : c ≠ '"' ∧ c ≠ '\\' := ⟨fun h => hquote (h ▸ rfl), fun h => hbackslash (h ▸ rfl)⟩
    rw [hshort rfl (by omega), show c.toString.toList = [c] by simp]
    exact readUnits_plain hne.1 hne.2 hread
  · rw [hshort rfl hplane, List.singleton_append]
    exact readUnits_unicodeEscape hplane hread
  · have hbound : c.toNat < 0x110000 := by
      rcases c.valid with h | h
      · exact Nat.lt_trans h (by decide)
      · exact h.2
    rw [codeUnits, if_neg hplane, String.toList_append, List.append_assoc]
    exact readUnits_unicodeEscape (by omega) (readUnits_unicodeEscape (by omega) hread)

end Units

lemma readUnits_escaped (chars rest : List Char) :
    readUnits ((chars.flatMap fun c => (escapeChar c).toList) ++ '"' :: rest)
      = some (chars.flatMap codeUnits, rest) := by
  induction chars with
  | nil =>
      rw [readUnits.eq_def]
      simp
  | cons c chars ih =>
      rw [List.flatMap_cons, List.flatMap_cons, List.append_assoc]
      exact readUnits_escapeChar c ih

/-- **The code units of a character are that character**, whatever comes after them. -/
lemma joinUnits_codeUnits (c : Char) (units : List Nat) :
    joinUnits (codeUnits c ++ units) = c :: joinUnits units := by
  rw [codeUnits]
  split_ifs with hplane
  · have hnoPair : ¬ (0xD800 ≤ c.toNat ∧ c.toNat < 0xDC00) := by
      rintro ⟨hlow, hhigh⟩
      rcases c.valid with h | h
      · exact absurd hlow (Nat.not_le.mpr h)
      · exact absurd hhigh (Nat.not_lt.mpr (Nat.le_of_lt (Nat.lt_trans (by decide) h.1)))
    cases units with
    | nil => simp [joinUnits, Char.ofNat_toNat]
    | cons next units =>
        rw [List.singleton_append, joinUnits, if_neg fun h => hnoPair ⟨h.1, h.2.1⟩,
          Char.ofNat_toNat]
  · have hbound : c.toNat < 0x110000 := by
      rcases c.valid with h | h
      · exact Nat.lt_trans h (by decide)
      · exact h.2
    have hcode : 0x10000 + (0xD800 + (c.toNat - 0x10000) / 0x400 - 0xD800) * 0x400
        + (0xDC00 + (c.toNat - 0x10000) % 0x400 - 0xDC00) = c.toNat := by omega
    rw [List.cons_append, List.singleton_append, joinUnits, if_pos (by omega), hcode,
      Char.ofNat_toNat]

lemma joinUnits_flatMap (chars : List Char) : joinUnits (chars.flatMap codeUnits) = chars := by
  induction chars with
  | nil => rfl
  | cons c chars ih => rw [List.flatMap_cons, joinUnits_codeUnits, ih]

/-- **A quoted text is read back.** -/
theorem readText_escaped (text : String) (rest : List Char) :
    readText (escaped text ++ '"' :: rest) = some (text, rest) := by
  simp [readText, escaped, readUnits_escaped, joinUnits_flatMap]

lemma readKey_quoted (key : String) (rest : List Char) :
    readKey ((jsonQuote key).toList ++ ':' :: rest) = some (key, rest) := by
  simp [readKey, toList_jsonQuote, readText_escaped]

/-! ## Numbers and constants -/

/-- What may come after a value: the end, or a character that ends it. -/
def Ends (rest : List Char) : Prop := ∀ c ∈ rest.head?, c ∈ [',', ']', '\x7d']

lemma not_numeric_of_ends {rest : List Char} (h : Ends rest) :
    ∀ c ∈ rest.head?, c ∉ NUMERIC := by
  intro c hc
  have hall : ∀ d ∈ [',', ']', '\x7d'], d ∉ NUMERIC := List.forall_iff_forall_mem.mp (by decide)
  exact hall c (h c hc)

lemma span_numeric {token rest : List Char} (htoken : ∀ c ∈ token, c ∈ NUMERIC)
    (hrest : Ends rest) :
    (token ++ rest).takeWhile (· ∈ NUMERIC) = token
      ∧ (token ++ rest).dropWhile (· ∈ NUMERIC) = rest := by
  have hhead : rest.takeWhile (· ∈ NUMERIC) = [] ∧ rest.dropWhile (· ∈ NUMERIC) = rest := by
    cases rest with
    | nil => exact ⟨rfl, rfl⟩
    | cons c rest => simp [not_numeric_of_ends hrest c rfl]
  rw [List.takeWhile_append_of_pos (by simpa using htoken),
    List.dropWhile_append_of_pos (by simpa using htoken), hhead.1, hhead.2, List.append_nil]
  exact ⟨rfl, rfl⟩

/-- No constant begins like a number. -/
lemma readConstant_numeric {token rest : List Char} (hne : token ≠ [])
    (htoken : ∀ c ∈ token, c ∈ NUMERIC) (hrest : Ends rest) :
    readConstant (token ++ rest) = none := by
  obtain ⟨first, token, rfl⟩ := List.exists_cons_of_ne_nil hne
  obtain ⟨hfirst, htoken⟩ := List.forall_mem_cons.mp htoken
  have hsecond : (token ++ rest).head? ≠ some 'I' := by
    cases token with
    | nil =>
        intro h
        have hI := hrest 'I' h
        revert hI
        decide
    | cons second token =>
        intro h
        cases h
        have hI := htoken 'I' List.mem_cons_self
        revert hI
        decide
  rw [readConstant, Option.map_eq_none_iff, List.find?_eq_none]
  intro constant hconstant hprefix
  obtain ⟨tail, htail⟩ := List.isPrefixOf_iff_prefix.mp hprefix
  have hnot : ∀ letter ∈ ['n', 't', 'f', 'N', 'I'], letter ∉ NUMERIC :=
    List.forall_iff_forall_mem.mp (by decide)
  have hother : ∀ letter ∈ ['n', 't', 'f', 'N', 'I'], letter ≠ first :=
    fun letter hletter heq => hnot letter hletter (heq ▸ hfirst)
  rcases mem_constants.mp hconstant with rfl | rfl | rfl | rfl | rfl | rfl
  · exact hother 'n' (by decide) (List.cons.inj htail).1
  · exact hother 't' (by decide) (List.cons.inj htail).1
  · exact hother 'f' (by decide) (List.cons.inj htail).1
  · exact hother 'N' (by decide) (List.cons.inj htail).1
  · exact hother 'I' (by decide) (List.cons.inj htail).1
  · exact hsecond ((congrArg List.head? (List.cons.inj htail).2).symm.trans rfl)

lemma readDigits_repr (n : Nat) : readDigits n.repr.toList = some n := by
  have hdigits : n.repr.toList.all Char.isDigit = true :=
    List.all_eq_true.mpr fun c hc => isDigit_of_mem_repr hc
  have hne : n.repr.toList ≠ [] := by
    rw [Nat.toList_repr]
    exact Nat.toDigits_ne_nil
  rw [readDigits, if_pos ⟨hne, hdigits⟩, Nat.toList_repr, Nat.ofDigitChars_ten_toDigits]

/-- **An integer is read back.** -/
lemma readInteger_toString (value : ℤ) :
    readInteger (toString value).toList = some value := by
  cases value with
  | ofNat n =>
      have hsign : n.repr.toList.head? ≠ some '-' := by
        intro h
        have hdigit := isDigit_of_mem_repr (List.mem_of_mem_head? h)
        revert hdigit
        decide
      rw [show (toString (Int.ofNat n)).toList = n.repr.toList from rfl, readInteger, if_neg hsign,
        readDigits_repr]
      rfl
  | negSucc n =>
      rw [toList_toString_negSucc, readInteger, List.head?_cons, if_pos rfl, List.tail_cons,
        readDigits_repr]
      rfl

/-! ## Values -/

section Values

variable {float : String → Option ℚ}

/-- The characters of a constant or a number. -/
lemma readValue_leaf {chars : List Char} (fuel : Nat)
    (hhead : ∀ c ∈ chars.head?, c ∉ ['"', '[', '\x7b']) :
    readValue float (fuel + 1) chars = (readConstant chars).or (readNumber float chars) := by
  have hno : ∀ c ∈ ['"', '[', '\x7b'], chars.head? ≠ some c := fun c hc h => hhead c h hc
  rw [readValue, if_neg (hno '"' (by decide)), if_neg (hno '[' (by decide)),
    if_neg (hno '\x7b' (by decide))]

lemma readConstant_append {constant : String × Json} (hconstant : constant ∈ constants)
    (rest : List Char) :
    readConstant (constant.1.toList ++ rest) = some (constant.2, rest) := by
  rcases mem_constants.mp hconstant with rfl | rfl | rfl | rfl | rfl | rfl
  all_goals rfl

lemma readValue_constant {constant : String × Json} (hconstant : constant ∈ constants) (fuel : Nat)
    (rest : List Char) :
    readValue float (fuel + 1) (constant.1.toList ++ rest) = some (constant.2, rest) := by
  have hhead : ∀ c ∈ (constant.1.toList ++ rest).head?, c ∉ ['"', '[', '\x7b'] := by
    rcases mem_constants.mp hconstant with rfl | rfl | rfl | rfl | rfl | rfl
    all_goals simp
  rw [readValue_leaf fuel hhead, readConstant_append hconstant, Option.some_or]

lemma readValue_number {token rest : List Char} {value : Json} (hne : token ≠ [])
    (htoken : ∀ c ∈ token, c ∈ NUMERIC) (hrest : Ends rest) (fuel : Nat)
    (hread : readNumber float (token ++ rest) = some (value, rest)) :
    readValue float (fuel + 1) (token ++ rest) = some (value, rest) := by
  have hhead : ∀ c ∈ (token ++ rest).head?, c ∉ ['"', '[', '\x7b'] := by
    intro c hc
    rw [List.head?_append_of_ne_nil _ hne] at hc
    have hnot : ∀ d ∈ ['"', '[', '\x7b'], d ∉ NUMERIC := List.forall_iff_forall_mem.mp (by decide)
    exact fun hmem => hnot c hmem (htoken c (List.mem_of_mem_head? hc))
  rw [readValue_leaf fuel hhead, readConstant_numeric hne htoken hrest, Option.none_or, hread]

lemma readNumber_integer {value : ℤ} {rest : List Char} (hrest : Ends rest) :
    readNumber float ((toString value).toList ++ rest) = some (.Integer value, rest) := by
  obtain ⟨htake, hdrop⟩ := span_numeric (numeric_toString value) hrest
  simp only [readNumber, htake, hdrop, readInteger_toString]

lemma readNumber_float {value : ℚ} {text : String} {rest : List Char}
    (hprinted : PrintsFloat float (.Finite value) text) (hrest : Ends rest) :
    readNumber float (text.toList ++ rest) = some (.Float (.Finite value) text, rest) := by
  obtain ⟨hfloat, hinteger, -, hnumeric⟩ := hprinted
  obtain ⟨htake, hdrop⟩ := span_numeric hnumeric hrest
  simp only [readNumber, htake, hdrop, hinteger, String.ofList_toList, hfloat, Option.map_some]

/-! ## How a value is written -/

lemma toString_ne_nil (value : ℤ) : (toString value).toList ≠ [] := by
  intro h
  have hread := readInteger_toString value
  rw [h] at hread
  cases hread

/-- The value is written as a number and read as one. -/
structure WrittenNumber (float : String → Option ℚ) (value : Json) : Prop where
  weight : value.weight = 1
  ne_nil : compactChars value ≠ []
  numeric : ∀ c ∈ compactChars value, c ∈ NUMERIC
  read : ∀ {rest}, Ends rest → readNumber float (compactChars value ++ rest) = some (value, rest)

lemma writtenNumber_integer (value : ℤ) : WrittenNumber float (.Integer value) where
  weight := by simp [Json.weight]
  ne_nil := toString_ne_nil value
  numeric := numeric_toString value
  read := readNumber_integer

lemma writtenNumber_float {value : ℚ} {text : String}
    (hprinted : PrintsFloat float (.Finite value) text) :
    WrittenNumber float (.Float (.Finite value) text) where
  weight := by simp [Json.weight]
  ne_nil := mt String.toList_eq_nil_iff.mp hprinted.2.2.1
  numeric := hprinted.2.2.2
  read := readNumber_float hprinted

lemma compactChars_constant {constant : String × Json} (hconstant : constant ∈ constants) :
    compactChars constant.2 = constant.1.toList := by
  rcases mem_constants.mp hconstant with rfl | rfl | rfl | rfl | rfl | rfl
  all_goals simp [compactChars, jsonForm]

lemma Json.Printed.item {items : List Json} (hprinted : (Json.Items items).Printed float)
    {item : Json} (hitem : item ∈ items) : item.Printed float :=
  fun printed hmem => hprinted printed (mem_itemsFloats.mpr ⟨item, hitem, hmem⟩)

lemma Json.Printed.entry {entries : List (String × Json)}
    (hprinted : (Json.Dict entries).Printed float) {entry : String × Json}
    (hentry : entry ∈ entries) : entry.2.Printed float :=
  fun printed hmem => hprinted printed (mem_entriesFloats.mpr ⟨entry, hentry, hmem⟩)

/-- **Induction on how a value is written**: as a constant, a number or a text, or from the values
    in it. -/
@[elab_as_elim]
theorem Json.Printed.induct {motive : ∀ value : Json, value.Printed float → Prop}
    (constant : ∀ constant hprinted, constant ∈ constants → motive constant.2 hprinted)
    (number : ∀ value hprinted, WrittenNumber float value → motive value hprinted)
    (text : ∀ text hprinted, motive (.Text text) hprinted)
    (items : ∀ items hprinted, (∀ item (hitem : item ∈ items), motive item (hprinted.item hitem)) →
      motive (.Items items) hprinted)
    (dict : ∀ entries hprinted,
      (∀ entry (hentry : entry ∈ entries), motive entry.2 (hprinted.entry hentry)) →
        motive (.Dict entries) hprinted)
    {value : Json} (hprinted : value.Printed float) : motive value hprinted := by
  induction value using Json.induct with
  | null => exact constant ("null", .Null) hprinted (by simp [constants])
  | boolean value =>
      cases value with
      | true => exact constant ("true", .Boolean true) hprinted (by simp [constants])
      | false => exact constant ("false", .Boolean false) hprinted (by simp [constants])
  | integer value => exact number _ hprinted (writtenNumber_integer value)
  | float value form =>
      have hfloat : PrintsFloat float value form := hprinted (value, form) (by simp [Json.floats])
      cases value with
      | Finite value => exact number _ hprinted (writtenNumber_float hfloat)
      | PosInf =>
          obtain rfl : form = "inf" := hfloat
          exact constant ("Infinity", .Float .PosInf "inf") hprinted (by simp [constants])
      | NegInf =>
          obtain rfl : form = "-inf" := hfloat
          exact constant ("-Infinity", .Float .NegInf "-inf") hprinted (by simp [constants])
      | NaN =>
          obtain rfl : form = "nan" := hfloat
          exact constant ("NaN", .Float .NaN "nan") hprinted (by simp [constants])
  | text value => exact text value hprinted
  | items values ih => exact items values hprinted fun item hitem => ih item hitem _
  | dict values ih => exact dict values hprinted fun entry hentry => ih entry hentry _

/-! ## Reading back -/

/-- The value is read from what is written of it, with enough fuel and whatever comes after it. -/
def Reads (float : String → Option ℚ) (value : Json) : Prop :=
  ∀ fuel rest, value.weight ≤ fuel → Ends rest →
    readValue float fuel (compactChars value ++ rest) = some (value, rest)

/-- No value is written as the end of a list. -/
lemma head_compactChars {value : Json} (hprinted : value.Printed float) (rest : List Char) :
    (compactChars value ++ rest).head? ≠ some ']' := by
  induction hprinted using Json.Printed.induct with
  | constant constant _ hconstant =>
      rw [compactChars_constant hconstant]
      rcases mem_constants.mp hconstant with rfl | rfl | rfl | rfl | rfl | rfl
      all_goals simp
  | number value _ hwritten =>
      intro h
      rw [List.head?_append_of_ne_nil _ hwritten.ne_nil] at h
      have hbracket := hwritten.numeric ']' (List.mem_of_mem_head? h)
      revert hbracket
      decide
  | text text => simp [compactChars, toList_jsonQuote]
  | items items => cases items <;> simp [compactChars]
  | dict entries => cases entries <;> simp [compactChars]

lemma ends_itemsTail (items : List Json) (rest : List Char) : Ends (itemsTail items ++ rest) := by
  cases items <;> simp [itemsTail, Ends]

lemma ends_entriesTail (entries : List (String × Json)) (rest : List Char) :
    Ends (entriesTail entries ++ rest) := by
  cases entries <;> simp [entriesTail, Ends]

lemma readItems_append {items : List Json} (h : ∀ item ∈ items, Reads float item) (fuel : Nat)
    (rest : List Char) (hfuel : itemsWeight items < fuel) :
    readItems float fuel (itemsTail items ++ rest) = some (items, rest) := by
  induction items generalizing fuel with
  | nil =>
      obtain ⟨fuel, rfl⟩ := Nat.exists_eq_add_one.mpr (Nat.zero_lt_of_lt hfuel)
      simp [readItems, itemsTail]
  | cons item items ih =>
      obtain ⟨fuel, rfl⟩ := Nat.exists_eq_add_one.mpr (Nat.zero_lt_of_lt hfuel)
      obtain ⟨hitem, hitems⟩ := List.forall_mem_cons.mp h
      rw [itemsWeight] at hfuel
      have hpos := item.weight_pos
      have hfirst := hitem fuel (itemsTail items ++ rest) (by omega) (ends_itemsTail items rest)
      have hothers := ih hitems fuel (by omega)
      simp [readItems, itemsTail, hfirst, hothers]

lemma readEntries_append {entries : List (String × Json)}
    (h : ∀ entry ∈ entries, Reads float entry.2) (fuel : Nat) (rest : List Char)
    (hfuel : entriesWeight entries < fuel) :
    readEntries float fuel (entriesTail entries ++ rest) = some (entries, rest) := by
  induction entries generalizing fuel with
  | nil =>
      obtain ⟨fuel, rfl⟩ := Nat.exists_eq_add_one.mpr (Nat.zero_lt_of_lt hfuel)
      simp [readEntries, entriesTail]
  | cons entry entries ih =>
      obtain ⟨fuel, rfl⟩ := Nat.exists_eq_add_one.mpr (Nat.zero_lt_of_lt hfuel)
      obtain ⟨key, value⟩ := entry
      obtain ⟨hvalue, hentries⟩ : Reads float value ∧ ∀ entry ∈ entries, Reads float entry.2 :=
        List.forall_mem_cons.mp h
      rw [entriesWeight] at hfuel
      have hpos := value.weight_pos
      have hfirst := hvalue fuel (entriesTail entries ++ rest) (by omega)
        (ends_entriesTail entries rest)
      have hothers := ih hentries fuel (by omega)
      simp [readEntries, entriesTail, readKey_quoted, hfirst, hothers]

/-- Every value takes some fuel. -/
lemma reads_of_succ {value : Json} (h : ∀ fuel rest, value.weight ≤ fuel + 1 → Ends rest →
    readValue float (fuel + 1) (compactChars value ++ rest) = some (value, rest)) :
    Reads float value := by
  intro fuel rest hfuel hrest
  cases fuel with
  | zero => exact absurd hfuel (Nat.not_le.mpr value.weight_pos)
  | succ fuel => exact h fuel rest hfuel hrest

/-- **A value is read back**, with fuel for the values it is made of. -/
theorem readValue_append {value : Json} (hprinted : value.Printed float) : Reads float value := by
  induction hprinted using Json.Printed.induct with
  | constant constant _ hconstant =>
      refine reads_of_succ fun fuel rest _ _ => ?_
      rw [compactChars_constant hconstant]
      exact readValue_constant hconstant fuel rest
  | number value _ hwritten =>
      exact reads_of_succ fun fuel rest _ hrest =>
        readValue_number hwritten.ne_nil hwritten.numeric hrest fuel (hwritten.read hrest)
  | text text =>
      refine reads_of_succ fun fuel rest _ _ => ?_
      simp [readValue, compactChars, toList_jsonQuote, readText_escaped]
  | items items hprinted ih =>
      refine reads_of_succ fun fuel rest hfuel _ => ?_
      cases items with
      | nil => simp [readValue, compactChars]
      | cons item items =>
          obtain ⟨hitem, hothers⟩ := List.forall_mem_cons.mp ih
          rw [Json.weight, itemsWeight] at hfuel
          have hpos := item.weight_pos
          have hopen := head_compactChars (hprinted.item List.mem_cons_self)
            (itemsTail items ++ rest)
          have hfirst := hitem fuel (itemsTail items ++ rest) (by omega) (ends_itemsTail items rest)
          have htail := readItems_append hothers fuel rest (by omega)
          simp [readValue, compactChars, hopen, hfirst, htail, -List.head?_append]
  | dict entries _ ih =>
      refine reads_of_succ fun fuel rest hfuel _ => ?_
      cases entries with
      | nil => simp [readValue, compactChars]
      | cons entry entries =>
          obtain ⟨key, value⟩ := entry
          obtain ⟨hvalue, hothers⟩ :
              Reads float value ∧ ∀ entry ∈ entries, Reads float entry.2 :=
            List.forall_mem_cons.mp ih
          rw [Json.weight, entriesWeight] at hfuel
          have hpos := value.weight_pos
          have hfirst := hvalue fuel (entriesTail entries ++ rest) (by omega)
            (ends_entriesTail entries rest)
          have htail := readEntries_append hothers fuel rest (by omega)
          have hopen : ((jsonQuote key).toList ++ ':' :: (compactChars value
              ++ (entriesTail entries ++ rest))).head? ≠ some '\x7d' := by
            simp [toList_jsonQuote]
          simp [readValue, compactChars, hopen, readKey_quoted, hfirst, htail, -List.head?_append]

/-! ## Lines -/

/-- Printable ASCII: no line break among them. -/
def Printable (c : Char) : Prop := 0x20 ≤ c.toNat ∧ c.toNat ≤ 0x7E

instance : DecidablePred Printable :=
  fun c => inferInstanceAs (Decidable (0x20 ≤ c.toNat ∧ c.toNat ≤ 0x7E))

lemma printable_numeric {c : Char} (h : c ∈ NUMERIC) : Printable c := by
  have hall : ∀ d ∈ NUMERIC, Printable d := List.forall_iff_forall_mem.mp (by decide)
  exact hall c h

lemma printable_unicodeEscape (code : Nat) : ∀ c ∈ (unicodeEscape code).toList, Printable c := by
  have hdigit : ∀ digit < 16, Printable (hexDigit digit) := by decide
  have hmod : ∀ n, Printable (hexDigit (n % 16)) := fun n => hdigit _ (Nat.mod_lt n (by decide))
  intro c hc
  simp only [unicodeEscape, String.toList_append, String.toList_ofList, List.mem_append,
    List.mem_cons, List.not_mem_nil, or_false] at hc
  rcases hc with hc | rfl | rfl | rfl | rfl
  · have hstart : ∀ d ∈ "\\u".toList, Printable d := List.forall_iff_forall_mem.mp (by decide)
    exact hstart c hc
  all_goals exact hmod _

lemma printable_escapeChar (c : Char) : ∀ d ∈ (escapeChar c).toList, Printable d := by
  simp only [escapeChar]
  split_ifs with hquote hbackslash hnewline hreturn htab hfeed hback hprintable hplane
  · exact List.forall_iff_forall_mem.mp (by decide)
  · exact List.forall_iff_forall_mem.mp (by decide)
  · exact List.forall_iff_forall_mem.mp (by decide)
  · exact List.forall_iff_forall_mem.mp (by decide)
  · exact List.forall_iff_forall_mem.mp (by decide)
  · exact List.forall_iff_forall_mem.mp (by decide)
  · exact List.forall_iff_forall_mem.mp (by decide)
  · intro d hd
    obtain rfl : d = c := by simpa using hd
    exact hprintable
  · exact printable_unicodeEscape _
  · rw [String.toList_append, List.forall_mem_append]
    exact ⟨printable_unicodeEscape _, printable_unicodeEscape _⟩

lemma printable_jsonQuote (text : String) : ∀ c ∈ (jsonQuote text).toList, Printable c := by
  rw [toList_jsonQuote, List.forall_mem_cons, List.forall_mem_append, List.forall_mem_singleton]
  refine ⟨by decide, fun c hc => ?_, by decide⟩
  obtain ⟨d, -, hd⟩ := List.mem_flatMap.mp hc
  exact printable_escapeChar d c hd

lemma printable_constants :
    ∀ constant ∈ constants, ∀ c ∈ constant.1.toList, Printable c := by
  have hall : constants.Forall fun constant => constant.1.toList.Forall Printable := by decide
  exact fun constant hconstant =>
    List.forall_iff_forall_mem.mp (List.forall_iff_forall_mem.mp hall constant hconstant)

lemma printable_itemsTail {items : List Json}
    (h : ∀ item ∈ items, ∀ c ∈ compactChars item, Printable c) :
    ∀ c ∈ itemsTail items, Printable c := by
  induction items with
  | nil =>
      rw [itemsTail, List.forall_mem_singleton]
      decide
  | cons item items ih =>
      obtain ⟨hitem, hitems⟩ := List.forall_mem_cons.mp h
      rw [itemsTail, List.forall_mem_cons, List.forall_mem_append]
      exact ⟨by decide, hitem, ih hitems⟩

lemma printable_entriesTail {entries : List (String × Json)}
    (h : ∀ entry ∈ entries, ∀ c ∈ compactChars entry.2, Printable c) :
    ∀ c ∈ entriesTail entries, Printable c := by
  induction entries with
  | nil =>
      rw [entriesTail, List.forall_mem_singleton]
      decide
  | cons entry entries ih =>
      obtain ⟨key, value⟩ := entry
      obtain ⟨hvalue, hentries⟩ := List.forall_mem_cons.mp h
      rw [entriesTail, List.forall_mem_cons, List.forall_mem_append, List.forall_mem_cons,
        List.forall_mem_append]
      exact ⟨by decide, printable_jsonQuote key, by decide, hvalue, ih hentries⟩

/-- **A value is written in printable ASCII**, whatever its texts are. -/
theorem printable_compactChars {value : Json} (hprinted : value.Printed float) :
    ∀ c ∈ compactChars value, Printable c := by
  induction hprinted using Json.Printed.induct with
  | constant constant _ hconstant =>
      rw [compactChars_constant hconstant]
      exact printable_constants constant hconstant
  | number value _ hwritten => exact fun c hc => printable_numeric (hwritten.numeric c hc)
  | text text => exact printable_jsonQuote text
  | items items _ ih =>
      cases items with
      | nil =>
          rw [compactChars]
          exact List.forall_iff_forall_mem.mp (by decide)
      | cons item items =>
          obtain ⟨hitem, hothers⟩ := List.forall_mem_cons.mp ih
          rw [compactChars, List.forall_mem_cons, List.forall_mem_append]
          exact ⟨by decide, hitem, printable_itemsTail hothers⟩
  | dict entries _ ih =>
      cases entries with
      | nil =>
          rw [compactChars]
          exact List.forall_iff_forall_mem.mp (by decide)
      | cons entry entries =>
          obtain ⟨key, value⟩ := entry
          obtain ⟨hvalue, hothers⟩ := List.forall_mem_cons.mp ih
          rw [compactChars, List.forall_mem_cons, List.forall_mem_append, List.forall_mem_cons,
            List.forall_mem_append]
          exact ⟨by decide, printable_jsonQuote key, by decide, hvalue,
            printable_entriesTail hothers⟩

/-! ## The round trip -/

lemma itemsWeight_lt_length {items : List Json}
    (h : ∀ item ∈ items, item.weight ≤ (compactChars item).length) :
    itemsWeight items < (itemsTail items).length := by
  induction items with
  | nil => simp [itemsWeight, itemsTail]
  | cons item items ih =>
      obtain ⟨hitem, hitems⟩ := List.forall_mem_cons.mp h
      have htail := ih hitems
      simp only [itemsWeight, itemsTail, List.length_cons, List.length_append]
      omega

lemma entriesWeight_lt_length {entries : List (String × Json)}
    (h : ∀ entry ∈ entries, entry.2.weight ≤ (compactChars entry.2).length) :
    entriesWeight entries < (entriesTail entries).length := by
  induction entries with
  | nil => simp [entriesWeight, entriesTail]
  | cons entry entries ih =>
      obtain ⟨key, value⟩ := entry
      obtain ⟨hvalue, hentries⟩ := List.forall_mem_cons.mp h
      have htail := ih hentries
      simp only [entriesWeight, entriesTail, List.length_cons, List.length_append] at hvalue ⊢
      omega

/-- What is written is as long as what it is written from. -/
lemma weight_le_length {value : Json} (hprinted : value.Printed float) :
    value.weight ≤ (compactChars value).length := by
  induction hprinted using Json.Printed.induct with
  | constant constant _ hconstant =>
      rw [compactChars_constant hconstant]
      rcases mem_constants.mp hconstant with rfl | rfl | rfl | rfl | rfl | rfl
      all_goals simp [Json.weight]
  | number value _ hwritten =>
      rw [hwritten.weight]
      exact List.length_pos_iff.mpr hwritten.ne_nil
  | text text => simp [Json.weight, compactChars, toList_jsonQuote]
  | items items _ ih =>
      cases items with
      | nil => simp [Json.weight, itemsWeight, compactChars]
      | cons item items =>
          obtain ⟨hitem, hothers⟩ := List.forall_mem_cons.mp ih
          have htail := itemsWeight_lt_length hothers
          simp only [Json.weight, itemsWeight, compactChars, List.length_cons, List.length_append]
          omega
  | dict entries _ ih =>
      cases entries with
      | nil => simp [Json.weight, entriesWeight, compactChars]
      | cons entry entries =>
          obtain ⟨key, value⟩ := entry
          obtain ⟨hvalue, hothers⟩ := List.forall_mem_cons.mp ih
          have htail := entriesWeight_lt_length hothers
          simp only [Json.weight, entriesWeight, compactChars, List.length_cons,
            List.length_append] at hvalue ⊢
          omega

/-- **Compact JSON is read back as the value it was written from.** -/
theorem readJson_compact {value : Json} (hprinted : value.Printed float) :
    readJson float (compact value) = some value := by
  have hread := readValue_append hprinted (compactChars value).length [] (weight_le_length hprinted)
    (by simp [Ends])
  rw [List.append_nil] at hread
  simp [readJson, compact, hread]

end Values

/-- Escapes, two surrogates, and numbers, read and written again. -/
example :
    let text := "\x7b\"a\":[1,-20,0.5,NaN],\"\\u00e9\":\"\\ud83d\\ude00\\n\"\x7d"
    (readJson (fun text => if text = "0.5" then some (1 / 2) else none) text).map compact
      = some text := by
  decide +kernel

end PyJson
