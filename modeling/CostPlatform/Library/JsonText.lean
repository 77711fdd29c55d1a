import CostPlatform.Library.PyJson
import Mathlib.Data.List.Sort

/-!
# JSON values as text

How a value is written: `json.dumps` and the printed form of a container differ in the words they
use for a few values, in how they quote a text and in whether they sort keys, and share the rest.
A `TextForm` is what they differ in.

A value is written as a list of pieces, so that a text can be followed into what is written: a piece
is a mark of the writer's own, or it carries a text of the value.  `carries_pieces_iff` says
that the texts carried are the texts and the keys of the value, at any depth.
-/

namespace PyJson

/-! ## The texts and the keys of a value -/

/-- **Induction over a JSON value**, through its lists and its objects. -/
@[elab_as_elim]
theorem Json.induct {motive : Json → Prop} (null : motive .Null)
    (boolean : ∀ value, motive (.Boolean value)) (integer : ∀ value, motive (.Integer value))
    (float : ∀ value text, motive (.Float value text)) (text : ∀ value, motive (.Text value))
    (items : ∀ items : List Json, (∀ item ∈ items, motive item) → motive (.Items items))
    (dict : ∀ entries : List (String × Json), (∀ entry ∈ entries, motive entry.2) →
      motive (.Dict entries))
    (value : Json) : motive value :=
  @Json.rec motive (fun values => ∀ item ∈ values, motive item)
    (fun values => ∀ entry ∈ values, motive entry.2) (fun entry => motive entry.2)
    null boolean integer float text items dict
    nofun (fun _ _ hhead htail => List.forall_mem_cons.mpr ⟨hhead, htail⟩)
    nofun (fun _ _ hhead htail => List.forall_mem_cons.mpr ⟨hhead, htail⟩)
    (fun _ _ hvalue => hvalue) value

mutual

/-- The texts of a value, in order.  Keys are not among them. -/
def Json.texts : Json → List String
  | .Null => []
  | .Boolean _ => []
  | .Integer _ => []
  | .Float _ _ => []
  | .Text text => [text]
  | .Items items => itemsTexts items
  | .Dict entries => entriesTexts entries

def itemsTexts : List Json → List String
  | [] => []
  | item :: items => item.texts ++ itemsTexts items

def entriesTexts : List (String × Json) → List String
  | [] => []
  | (_, value) :: entries => value.texts ++ entriesTexts entries

end

mutual

/-- The keys of the objects in a value, at any depth. -/
def Json.keys : Json → List String
  | .Null => []
  | .Boolean _ => []
  | .Integer _ => []
  | .Float _ _ => []
  | .Text _ => []
  | .Items items => itemsKeys items
  | .Dict entries => entriesKeys entries

def itemsKeys : List Json → List String
  | [] => []
  | item :: items => item.keys ++ itemsKeys items

def entriesKeys : List (String × Json) → List String
  | [] => []
  | (key, value) :: entries => key :: value.keys ++ entriesKeys entries

end

@[simp] lemma mem_itemsTexts {items : List Json} {text : String} :
    text ∈ itemsTexts items ↔ ∃ item ∈ items, text ∈ item.texts := by
  induction items with
  | nil => simp [itemsTexts]
  | cons item items ih => simp [itemsTexts, ih]

@[simp] lemma mem_entriesTexts {entries : List (String × Json)} {text : String} :
    text ∈ entriesTexts entries ↔ ∃ entry ∈ entries, text ∈ entry.2.texts := by
  induction entries with
  | nil => simp [entriesTexts]
  | cons entry entries ih => simp [entriesTexts, ih]

@[simp] lemma mem_itemsKeys {items : List Json} {key : String} :
    key ∈ itemsKeys items ↔ ∃ item ∈ items, key ∈ item.keys := by
  induction items with
  | nil => simp [itemsKeys]
  | cons item items ih => simp [itemsKeys, ih]

@[simp] lemma mem_entriesKeys {entries : List (String × Json)} {key : String} :
    key ∈ entriesKeys entries ↔ ∃ entry ∈ entries, key = entry.1 ∨ key ∈ entry.2.keys := by
  induction entries with
  | nil => simp [entriesKeys]
  | cons entry entries ih => simp [entriesKeys, ih, or_assoc]

/-! ## Pieces -/

/-- A piece of what is written. -/
inductive Piece where
  /-- A mark of the writer's own: a bracket, a separator, a number. -/
  | Mark (printed : String)
  /-- A text of the value, and what it is printed as. -/
  | Carried (text printed : String)
  deriving DecidableEq, Repr

def Piece.printed : Piece → String
  | .Mark printed => printed
  | .Carried _ printed => printed

/-- The text that is written. -/
def written (pieces : List Piece) : String := String.join (pieces.map Piece.printed)

@[simp] lemma written_nil : written [] = "" := String.join_nil

@[simp] lemma written_cons (piece : Piece) (pieces : List Piece) :
    written (piece :: pieces) = piece.printed ++ written pieces := String.join_cons

@[simp] lemma written_append (front back : List Piece) :
    written (front ++ back) = written front ++ written back := by
  simp [written]

/-- A text is carried by one of the pieces. -/
def Carries (pieces : List Piece) (text : String) : Prop :=
  ∃ printed, Piece.Carried text printed ∈ pieces

@[simp] lemma carries_nil (text : String) : ¬ Carries [] text := by
  rintro ⟨_, h⟩
  cases h

@[simp] lemma carries_append {front back : List Piece} {text : String} :
    Carries (front ++ back) text ↔ Carries front text ∨ Carries back text := by
  simp [Carries, exists_or]

@[simp] lemma carries_mark {printed : String} {pieces : List Piece} {text : String} :
    Carries (.Mark printed :: pieces) text ↔ Carries pieces text := by
  simp [Carries]

@[simp] lemma carries_carried {carried printed : String} {pieces : List Piece} {text : String} :
    Carries (.Carried carried printed :: pieces) text ↔ text = carried ∨ Carries pieces text := by
  simp [Carries, exists_or]

/-- `", ".join(parts)`. -/
def commaSeparated : List (List Piece) → List Piece
  | [] => []
  | [part] => part
  | part :: next :: parts => part ++ .Mark ", " :: commaSeparated (next :: parts)

@[simp] lemma carries_commaSeparated {parts : List (List Piece)} {text : String} :
    Carries (commaSeparated parts) text ↔ ∃ part ∈ parts, Carries part text := by
  induction parts with
  | nil => simp [commaSeparated]
  | cons part parts ih =>
      cases parts with
      | nil => simp [commaSeparated]
      | cons next parts =>
          rw [commaSeparated, carries_append, carries_mark, ih]
          simp

/-! ## Writing a value -/

/-- What ways of writing a value differ in. -/
structure TextForm where
  null : String
  boolean : Bool → String
  float : PyFloat → String → String
  quote : String → String
  sortKeys : Bool

namespace TextForm

variable (form : TextForm)

/-- The entries of an object in the order they are written in. -/
def arrange (entries : List (String × List Piece)) : List (String × List Piece) :=
  if form.sortKeys then entries.insertionSort fun entry next => entry.1 ≤ next.1 else entries

@[simp] lemma mem_arrange {entries : List (String × List Piece)} {entry : String × List Piece} :
    entry ∈ form.arrange entries ↔ entry ∈ entries := by
  rw [arrange]
  split_ifs
  · exact List.mem_insertionSort _
  · rfl

mutual

/-- The pieces a value is written as. -/
def pieces : Json → List Piece
  | .Null => [.Mark form.null]
  | .Boolean value => [.Mark (form.boolean value)]
  | .Integer value => [.Mark (toString value)]
  | .Float value text => [.Mark (form.float value text)]
  | .Text text => [.Carried text (form.quote text)]
  | .Items items => .Mark "[" :: commaSeparated (itemPieces items) ++ [.Mark "]"]
  | .Dict entries =>
      .Mark "\x7b"
        :: commaSeparated ((form.arrange (entryPieces entries)).map fun (key, value) =>
          .Carried key (form.quote key) :: .Mark ": " :: value)
        ++ [.Mark "\x7d"]

def itemPieces : List Json → List (List Piece)
  | [] => []
  | item :: items => pieces item :: itemPieces items

def entryPieces : List (String × Json) → List (String × List Piece)
  | [] => []
  | (key, value) :: entries => (key, pieces value) :: entryPieces entries

end

lemma itemPieces_eq (items : List Json) : form.itemPieces items = items.map form.pieces := by
  induction items with
  | nil => rfl
  | cons item items ih => rw [itemPieces, ih, List.map_cons]

lemma entryPieces_eq (entries : List (String × Json)) :
    form.entryPieces entries = entries.map fun entry => (entry.1, form.pieces entry.2) := by
  induction entries with
  | nil => rfl
  | cons entry entries ih => rw [entryPieces, ih, List.map_cons]

/-- **A value is written with all its texts and keys**, and no others. -/
theorem carries_pieces_iff {value : Json} {text : String} :
    Carries (form.pieces value) text ↔ text ∈ value.texts ∨ text ∈ value.keys := by
  induction value using Json.induct with
  | null => simp [pieces, Json.texts, Json.keys]
  | boolean value => simp [pieces, Json.texts, Json.keys]
  | integer value => simp [pieces, Json.texts, Json.keys]
  | float value printed => simp [pieces, Json.texts, Json.keys]
  | text value => simp [pieces, Json.texts, Json.keys]
  | items items ih =>
      simp only [pieces, Json.texts, Json.keys, List.cons_append, carries_mark, carries_append,
        carries_nil, or_false, carries_commaSeparated, itemPieces_eq, List.mem_map,
        exists_exists_and_eq_and, mem_itemsTexts, mem_itemsKeys]
      constructor
      · rintro ⟨item, hitem, hcarries⟩
        rcases (ih item hitem).mp hcarries with htext | hkey
        · exact .inl ⟨item, hitem, htext⟩
        · exact .inr ⟨item, hitem, hkey⟩
      · rintro (⟨item, hitem, htext⟩ | ⟨item, hitem, hkey⟩)
        · exact ⟨item, hitem, (ih item hitem).mpr (.inl htext)⟩
        · exact ⟨item, hitem, (ih item hitem).mpr (.inr hkey)⟩
  | dict entries ih =>
      simp only [pieces, Json.texts, Json.keys, List.cons_append, carries_mark, carries_append,
        carries_nil, or_false, carries_commaSeparated, entryPieces_eq, List.mem_map, mem_arrange,
        exists_exists_and_eq_and, carries_carried, mem_entriesTexts, mem_entriesKeys]
      constructor
      · rintro ⟨entry, hentry, rfl | hcarries⟩
        · exact .inr ⟨entry, hentry, .inl rfl⟩
        · rcases (ih entry hentry).mp hcarries with htext | hkey
          · exact .inl ⟨entry, hentry, htext⟩
          · exact .inr ⟨entry, hentry, .inr hkey⟩
      · rintro (⟨entry, hentry, htext⟩ | ⟨entry, hentry, rfl | hkey⟩)
        · exact ⟨entry, hentry, .inr ((ih entry hentry).mpr (.inl htext))⟩
        · exact ⟨entry, hentry, .inl rfl⟩
        · exact ⟨entry, hentry, .inr ((ih entry hentry).mpr (.inr hkey))⟩

end TextForm

/-! ## JSON -/

def hexDigit (digit : Nat) : Char := Char.ofNat (if digit < 10 then 48 + digit else 87 + digit)

/-- Four hexadecimal digits after a backslash and a `u`. -/
def unicodeEscape (code : Nat) : String :=
  "\\u" ++ String.ofList
    [hexDigit (code / 4096 % 16), hexDigit (code / 256 % 16), hexDigit (code / 16 % 16),
      hexDigit (code % 16)]

/-- What a character is written as: printable ASCII as it is, but for the quote and the backslash;
    a character beyond the basic plane as its two surrogates. -/
def escapeChar (c : Char) : String :=
  let code := c.toNat
  if code = 0x22 then "\\\""
  else if code = 0x5C then "\\\\"
  else if code = 0x0A then "\\n"
  else if code = 0x0D then "\\r"
  else if code = 0x09 then "\\t"
  else if code = 0x0C then "\\f"
  else if code = 0x08 then "\\b"
  else if 0x20 ≤ code ∧ code ≤ 0x7E then c.toString
  else if code < 0x10000 then unicodeEscape code
  else
    unicodeEscape (0xD800 + (code - 0x10000) / 0x400)
      ++ unicodeEscape (0xDC00 + (code - 0x10000) % 0x400)

def jsonQuote (text : String) : String :=
  "\"" ++ String.join (text.toList.map escapeChar) ++ "\""

/-- `json.dumps(value, sort_keys=…)`. -/
def jsonForm (sortKeys : Bool) : TextForm where
  null := "null"
  boolean value := if value then "true" else "false"
  float value text :=
    match value with
    | .Finite _ => text
    | .PosInf => "Infinity"
    | .NegInf => "-Infinity"
    | .NaN => "NaN"
  quote := jsonQuote
  sortKeys := sortKeys

/-! ## Printed forms -/

/-- `repr(value)`, given the printed form of a text. -/
def reprForm (quote : String → String) : TextForm where
  null := "None"
  boolean value := if value then "True" else "False"
  float _ text := text
  quote := quote
  sortKeys := false

/-- `str(value)`: a text as it is, another value in its printed form. -/
def strPieces (quote : String → String) : Json → List Piece
  | .Text text => [.Carried text text]
  | value => (reprForm quote).pieces value

lemma carries_strPieces_iff {quote : String → String} {value : Json} {text : String} :
    Carries (strPieces quote value) text ↔ text ∈ value.texts ∨ text ∈ value.keys := by
  cases value with
  | Text value => simp [strPieces, Json.texts, Json.keys]
  | _ => exact TextForm.carries_pieces_iff _

/-- **The interpreter writes values so**, where it does not raise. -/
structure Runtime.Writes (runtime : Runtime) (quote : String → String) : Prop where
  jsonDumps : ∀ value text, runtime.jsonDumps value = .ok text →
    text = written ((jsonForm true).pieces value)
  reprItems : ∀ items,
    runtime.repr (.Items items) = written ((reprForm quote).pieces (.Items items))
  reprDict : ∀ entries,
    runtime.repr (.Dict entries) = written ((reprForm quote).pieces (.Dict entries))

lemma Runtime.Writes.str_eq {runtime : Runtime} {quote : String → String}
    (hwrites : runtime.Writes quote) (value : Json) :
    runtime.str value = written (strPieces quote value) := by
  cases value with
  | Items items => exact hwrites.reprItems items
  | Dict entries => exact hwrites.reprDict entries
  | Boolean value =>
      cases value <;> simp [Runtime.str, strPieces, reprForm, TextForm.pieces, Piece.printed]
  | _ => simp [Runtime.str, strPieces, reprForm, TextForm.pieces, Piece.printed]

/-- Keys in order, and what is not ASCII escaped. -/
example :
    written ((jsonForm true).pieces
        (.Dict [("b", .Items [.Null, .Boolean true]), ("a", .Text "é\n")]))
      = "\x7b\"a\": \"\\u00e9\\n\", \"b\": [null, true]\x7d" := by
  decide +kernel

end PyJson
