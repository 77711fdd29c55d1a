import CostPlatform.Library.JsonText
import CostPlatform.Library.Regex

/-!
# Patterns in written JSON

Where a match can lie in what `json.dumps` writes.  Outside its quoted texts there are a few
characters only (`OUTSIDE`), after a quoted text comes a separator, and between two of them a space.
So a match with a character of its own and without a quote lies in one quoted text, and is found in
the whole exactly where it is found in a quoted text of it (`quoteLocal_of_quoteFree`).
-/

namespace PyJson

/-- The characters of separators, constants and numbers. -/
def OUTSIDE : List Char := "\x7b\x7d[],: 0123456789.-+etrufalsnNIiy".toList

/-- The characters that a number is printed with. -/
def NUMERIC : List Char := "0123456789.-+e".toList

/-- A character of two lists lies in the first or in the second. -/
lemma append_eq_append_cons {α : Type} {first second front back : List α} {c : α}
    (h : first ++ second = front ++ c :: back) :
    (∃ rest, first = front ++ c :: rest ∧ back = rest ++ second)
      ∨ ∃ rest, front = first ++ rest ∧ second = rest ++ c :: back := by
  rcases List.append_eq_append_iff.mp h with ⟨rest, hfront, hsecond⟩ | ⟨rest, hfirst, hback⟩
  · exact .inr ⟨rest, hfront, hsecond⟩
  · cases rest with
    | nil => exact .inr ⟨[], by simpa using hfirst.symm, by simpa using hback.symm⟩
    | cons d rest =>
        obtain ⟨rfl, rfl⟩ := List.cons_eq_cons.mp hback
        exact .inl ⟨rest, hfirst, rfl⟩

/-! ## Quoted texts -/

/-- What stands between the quotes. -/
def escaped (text : String) : List Char := text.toList.flatMap fun c => (escapeChar c).toList

lemma toList_jsonQuote (text : String) :
    (jsonQuote text).toList = '"' :: (escaped text ++ ['"']) := by
  simp [jsonQuote, escaped, List.flatMap_map]

lemma quote_not_mem_unicodeEscape (code : Nat) : '"' ∉ (unicodeEscape code).toList := by
  have hdigit : ∀ digit < 16, hexDigit digit ≠ '"' := by decide
  have hne : ∀ n, '"' ≠ hexDigit (n % 16) := fun n => (hdigit _ (Nat.mod_lt n (by decide))).symm
  simp [unicodeEscape, hne]

/-- A quote is escaped, and nothing else is written with one. -/
lemma escapeChar_of_quote {c : Char} (h : '"' ∈ (escapeChar c).toList) :
    (escapeChar c).toList = ['\\', '"'] := by
  simp only [escapeChar] at h ⊢
  split_ifs at h ⊢ with hquote hbackslash hnewline hreturn htab hfeed hback hprintable hplane
  · rfl
  · revert h; decide
  · revert h; decide
  · revert h; decide
  · revert h; decide
  · revert h; decide
  · revert h; decide
  · have hc : c = '"' := by simpa [eq_comm] using h
    exact absurd (congrArg Char.toNat hc) hquote
  · exact absurd h (quote_not_mem_unicodeEscape _)
  · rw [String.toList_append, List.mem_append] at h
    exact absurd h (not_or.mpr ⟨quote_not_mem_unicodeEscape _, quote_not_mem_unicodeEscape _⟩)

/-- **A quote between the quotes comes after a backslash.** -/
theorem backslash_before_quote {text : String} {front back : List Char}
    (h : escaped text = front ++ '"' :: back) : front.getLast? = some '\\' := by
  rw [escaped] at h
  generalize text.toList = chars at h
  induction chars generalizing front with
  | nil => simp at h
  | cons c cs ih =>
      rw [List.flatMap_cons] at h
      rcases append_eq_append_cons h with ⟨rest, hc, -⟩ | ⟨rest, rfl, hcs⟩
      · rw [escapeChar_of_quote (by simp [hc])] at hc
        match front with
        | [] => simp at hc
        | [d] => simpa [eq_comm] using (List.cons_eq_cons.mp hc).1
        | d :: e :: front => simp at hc
      · rw [List.getLast?_append, ih hcs]
        rfl

/-! ## What is written -/

mutual

/-- What the finite floats of a value are printed as. -/
def Json.numerals : Json → List String
  | .Null => []
  | .Boolean _ => []
  | .Integer _ => []
  | .Float (.Finite _) text => [text]
  | .Float _ _ => []
  | .Text _ => []
  | .Items items => itemsNumerals items
  | .Dict entries => entriesNumerals entries

def itemsNumerals : List Json → List String
  | [] => []
  | item :: items => item.numerals ++ itemsNumerals items

def entriesNumerals : List (String × Json) → List String
  | [] => []
  | (_, value) :: entries => value.numerals ++ entriesNumerals entries

end

lemma mem_itemsNumerals {items : List Json} {text : String} :
    text ∈ itemsNumerals items ↔ ∃ item ∈ items, text ∈ item.numerals := by
  induction items with
  | nil => simp [itemsNumerals]
  | cons item items ih => simp [itemsNumerals, ih]

lemma mem_entriesNumerals {entries : List (String × Json)} {text : String} :
    text ∈ entriesNumerals entries ↔ ∃ entry ∈ entries, text ∈ entry.2.numerals := by
  induction entries with
  | nil => simp [entriesNumerals]
  | cons entry entries ih => simp [entriesNumerals, ih]

/-- The floats of a value are printed as floats are. -/
def Json.PrintsFloats (value : Json) : Prop :=
  ∀ numeral ∈ value.numerals, ∀ c ∈ numeral.toList, c ∈ NUMERIC

/-- A space comes before the next quoted text, if there is one. -/
def SpaceFirst : List Piece → Prop
  | [] => True
  | .Mark printed :: pieces => ' ' ∈ printed.toList ∨ SpaceFirst pieces
  | .Carried _ _ :: _ => False

/-- What follows a quoted text: a separator or nothing, and a space before the next one. -/
structure Follows (pieces : List Piece) : Prop where
  separator : ∀ c ∈ (written pieces).toList.head?, c ∈ [',', ':', ']', '\x7d']
  space : SpaceFirst pieces

def WellSpaced : List Piece → Prop
  | [] => True
  | .Mark _ :: pieces => WellSpaced pieces
  | .Carried _ _ :: pieces => Follows pieces ∧ WellSpaced pieces

/-- A mark is made of a few characters, and a text is quoted. -/
def Piece.Plain : Piece → Prop
  | .Mark printed => ∀ c ∈ printed.toList, c ∈ OUTSIDE
  | .Carried text printed => printed = jsonQuote text

/-- **Written JSON**: a few characters outside the quoted texts, and the quoted texts apart. -/
structure WrittenJson (pieces : List Piece) : Prop where
  plain : ∀ piece ∈ pieces, piece.Plain
  spaced : WellSpaced pieces

lemma SpaceFirst.append {front back : List Piece} (hfront : SpaceFirst front)
    (hback : SpaceFirst back) : SpaceFirst (front ++ back) := by
  induction front with
  | nil => exact hback
  | cons piece front ih =>
      cases piece with
      | Mark printed => exact hfront.imp_right ih
      | Carried text printed => exact hfront.elim

lemma Follows.append {front back : List Piece} (hfront : Follows front) (hback : Follows back) :
    Follows (front ++ back) where
  separator := by
    intro c hc
    rw [written_append, String.toList_append, List.head?_append] at hc
    cases hhead : (written front).toList.head? with
    | none => exact hback.separator c (by simpa [hhead] using hc)
    | some d => exact hfront.separator c (by simpa [hhead] using hc)
  space := hfront.space.append hback.space

lemma WellSpaced.append {front back : List Piece} (hfront : WellSpaced front)
    (hback : WellSpaced back) (hfollows : Follows back) : WellSpaced (front ++ back) := by
  induction front with
  | nil => exact hback
  | cons piece front ih =>
      cases piece with
      | Mark printed => exact ih hfront
      | Carried text printed => exact ⟨hfront.1.append hfollows, ih hfront.2⟩

lemma follows_mark {printed : String} {pieces : List Piece}
    (hseparator : printed.toList.head?.all (· ∈ [',', ':', ']', '\x7d']) = true)
    (hne : printed ≠ "") (hspace : ' ' ∈ printed.toList ∨ SpaceFirst pieces) :
    Follows (.Mark printed :: pieces) where
  separator := by
    intro c hc
    have hchars : printed.toList ≠ [] := fun h => hne (String.toList_eq_nil_iff.mp h)
    rw [written_cons, Piece.printed, String.toList_append,
      List.head?_append_of_ne_nil _ hchars] at hc
    exact of_decide_eq_true ((Option.all_eq_true _ _).mp hseparator c hc)
  space := hspace

lemma WellSpaced.commaSeparated {parts : List (List Piece)}
    (h : ∀ part ∈ parts, WellSpaced part) : WellSpaced (commaSeparated parts) := by
  induction parts with
  | nil => trivial
  | cons part parts ih =>
      obtain ⟨hpart, hparts⟩ := List.forall_mem_cons.mp h
      cases parts with
      | nil => exact hpart
      | cons next parts =>
          exact hpart.append (ih hparts) (follows_mark (by decide) (by decide) (.inl (by decide)))

lemma numeric_of_isDigit {c : Char} (h : c.isDigit = true) : c ∈ NUMERIC := by
  have hdigits : ∀ code < 58, 48 ≤ code → Char.ofNat code ∈ NUMERIC := by decide
  obtain ⟨hlow, hhigh⟩ := Char.isDigit_iff_toNat.mp h
  rw [← Char.ofNat_toNat c]
  exact hdigits c.toNat (Nat.lt_succ_of_le hhigh) hlow

lemma isDigit_of_mem_repr {n : Nat} {c : Char} (h : c ∈ n.repr.toList) : c.isDigit = true := by
  rw [Nat.toList_repr] at h
  exact Nat.isDigit_of_mem_toDigits (by decide) (by decide) h

lemma toList_toString_negSucc (n : Nat) :
    (toString (Int.negSucc n)).toList = '-' :: (n + 1).repr.toList := by
  simp [toString, Int.repr]

/-- An integer is printed with the characters of a number. -/
lemma numeric_toString (value : ℤ) : ∀ c ∈ (toString value).toList, c ∈ NUMERIC := by
  cases value with
  | ofNat n => exact fun c hc => numeric_of_isDigit (isDigit_of_mem_repr hc)
  | negSucc n =>
      rw [toList_toString_negSucc, List.forall_mem_cons]
      exact ⟨by decide, fun c hc => numeric_of_isDigit (isDigit_of_mem_repr hc)⟩

lemma numeric_outside {c : Char} (h : c ∈ NUMERIC) : c ∈ OUTSIDE := by
  have hall : NUMERIC.all (· ∈ OUTSIDE) = true := by decide
  exact of_decide_eq_true (List.all_eq_true.mp hall c h)

lemma integer_plain (value : ℤ) : (Piece.Mark (toString value)).Plain :=
  fun c hc => numeric_outside (numeric_toString value c hc)

lemma mark_plain {printed : String} (h : printed.toList.all (· ∈ OUTSIDE) = true) :
    (Piece.Mark printed).Plain :=
  fun c hc => of_decide_eq_true (List.all_eq_true.mp h c hc)

lemma plain_commaSeparated {parts : List (List Piece)}
    (h : ∀ part ∈ parts, ∀ piece ∈ part, piece.Plain) :
    ∀ piece ∈ commaSeparated parts, piece.Plain := by
  induction parts with
  | nil => simp [commaSeparated]
  | cons part parts ih =>
      obtain ⟨hpart, hparts⟩ := List.forall_mem_cons.mp h
      cases parts with
      | nil => exact hpart
      | cons next parts =>
          rw [commaSeparated, List.forall_mem_append, List.forall_mem_cons]
          exact ⟨hpart, mark_plain (by decide), ih hparts⟩

/-- A list or an object is written between brackets. -/
lemma plain_enclosed {opening closing : String} {pieces : List Piece}
    (hopening : opening.toList.all (· ∈ OUTSIDE) = true)
    (hclosing : closing.toList.all (· ∈ OUTSIDE) = true) (h : ∀ piece ∈ pieces, piece.Plain) :
    ∀ piece ∈ .Mark opening :: pieces ++ [.Mark closing], piece.Plain := by
  rw [List.cons_append, List.forall_mem_cons, List.forall_mem_append, List.forall_mem_singleton]
  exact ⟨mark_plain hopening, h, mark_plain hclosing⟩

lemma pieces_plain {sortKeys : Bool} {value : Json} (h : value.PrintsFloats) :
    ∀ piece ∈ (jsonForm sortKeys).pieces value, piece.Plain := by
  induction value using Json.induct with
  | null =>
      rw [TextForm.pieces, List.forall_mem_singleton]
      exact (mark_plain (by decide) : (Piece.Mark "null").Plain)
  | boolean value =>
      rw [TextForm.pieces, List.forall_mem_singleton]
      cases value with
      | true => exact (mark_plain (by decide) : (Piece.Mark "true").Plain)
      | false => exact (mark_plain (by decide) : (Piece.Mark "false").Plain)
  | integer value => simpa [TextForm.pieces] using integer_plain value
  | float value text =>
      rw [TextForm.pieces, List.forall_mem_singleton]
      cases value with
      | Finite value => exact fun c hc => numeric_outside (h text (by simp [Json.numerals]) c hc)
      | PosInf => exact (mark_plain (by decide) : (Piece.Mark "Infinity").Plain)
      | NegInf => exact (mark_plain (by decide) : (Piece.Mark "-Infinity").Plain)
      | NaN => exact (mark_plain (by decide) : (Piece.Mark "NaN").Plain)
  | text value =>
      rw [TextForm.pieces, List.forall_mem_singleton]
      rfl
  | items items ih =>
      rw [TextForm.pieces, TextForm.itemPieces_eq]
      refine plain_enclosed (by decide) (by decide) (plain_commaSeparated ?_)
      intro part hpart
      obtain ⟨item, hitem, rfl⟩ := List.mem_map.mp hpart
      exact ih item hitem fun numeral hnumeral =>
        h numeral (mem_itemsNumerals.mpr ⟨item, hitem, hnumeral⟩)
  | dict entries ih =>
      rw [TextForm.pieces, TextForm.entryPieces_eq]
      refine plain_enclosed (by decide) (by decide) (plain_commaSeparated ?_)
      intro part hpart
      obtain ⟨written, hwritten, rfl⟩ := List.mem_map.mp hpart
      obtain ⟨entry, hentry, rfl⟩ := List.mem_map.mp (((jsonForm sortKeys).mem_arrange).mp hwritten)
      rw [List.forall_mem_cons, List.forall_mem_cons]
      exact ⟨rfl, mark_plain (by decide), ih entry hentry fun numeral hnumeral =>
        h numeral (mem_entriesNumerals.mpr ⟨entry, hentry, hnumeral⟩)⟩

/-- A closing bracket may follow anything. -/
lemma WellSpaced.close {pieces : List Piece} (h : WellSpaced pieces) {bracket : String}
    (hbracket : bracket = "]" ∨ bracket = "\x7d") : WellSpaced (pieces ++ [.Mark bracket]) := by
  refine h.append trivial (follows_mark ?_ ?_ (.inr trivial))
  · rcases hbracket with rfl | rfl <;> decide
  · rcases hbracket with rfl | rfl <;> decide

lemma pieces_wellSpaced (sortKeys : Bool) (value : Json) :
    WellSpaced ((jsonForm sortKeys).pieces value) := by
  induction value using Json.induct with
  | null => trivial
  | boolean value => trivial
  | integer value => trivial
  | float value text => trivial
  | text value => exact ⟨⟨by simp, trivial⟩, trivial⟩
  | items items ih =>
      rw [TextForm.pieces, TextForm.itemPieces_eq]
      refine WellSpaced.close (WellSpaced.commaSeparated ?_) (.inl rfl)
      intro part hpart
      obtain ⟨item, hitem, rfl⟩ := List.mem_map.mp hpart
      exact ih item hitem
  | dict entries ih =>
      rw [TextForm.pieces, TextForm.entryPieces_eq]
      refine WellSpaced.close (WellSpaced.commaSeparated ?_) (.inr rfl)
      intro part hpart
      obtain ⟨written, hwritten, rfl⟩ := List.mem_map.mp hpart
      obtain ⟨entry, hentry, rfl⟩ := List.mem_map.mp (((jsonForm sortKeys).mem_arrange).mp hwritten)
      exact ⟨follows_mark (by decide) (by decide) (.inl (by decide)), ih entry hentry⟩

/-- **What `json.dumps` writes is written JSON.** -/
theorem writtenJson_pieces {sortKeys : Bool} {value : Json} (h : value.PrintsFloats) :
    WrittenJson ((jsonForm sortKeys).pieces value) :=
  ⟨pieces_plain h, pieces_wellSpaced sortKeys value⟩

/-! ## Where a match lies -/

/-- **A character that is no quote and not used outside stands between two quotes.** -/
theorem exists_carried {pieces : List Piece} (hplain : ∀ piece ∈ pieces, piece.Plain)
    {front back : List Char} {c : Char} (hown : c ∉ OUTSIDE) (hquote : c ≠ '"')
    (hwritten : (written pieces).toList = front ++ c :: back) :
    ∃ before text after opened closed,
      pieces = before ++ .Carried text (jsonQuote text) :: after
        ∧ escaped text = opened ++ c :: closed
        ∧ front = (written before).toList ++ '"' :: opened
        ∧ back = closed ++ '"' :: (written after).toList := by
  induction pieces generalizing front with
  | nil => simp at hwritten
  | cons piece pieces ih =>
      obtain ⟨hpiece, hpieces⟩ := List.forall_mem_cons.mp hplain
      rw [written_cons, String.toList_append] at hwritten
      rcases append_eq_append_cons hwritten with ⟨rest, hprinted, rfl⟩ | ⟨rest, rfl, hrest⟩
      · cases piece with
        | Mark printed =>
            rw [Piece.printed] at hprinted
            exact absurd (hpiece c (by simp [hprinted])) hown
        | Carried text printed =>
            cases hpiece
            rw [Piece.printed, toList_jsonQuote] at hprinted
            cases front with
            | nil => exact absurd (List.cons_eq_cons.mp hprinted).1.symm hquote
            | cons d front =>
                rw [List.cons_append, List.cons_eq_cons] at hprinted
                obtain ⟨rfl, htail⟩ := hprinted
                rcases append_eq_append_cons htail with ⟨closed, hescaped, rfl⟩ | ⟨last, -, hlast⟩
                · exact ⟨[], text, pieces, front, closed, rfl, hescaped, by simp, by simp⟩
                · have hc : c ∈ ['"'] := by simp [hlast]
                  exact absurd (List.mem_singleton.mp hc) hquote
      · obtain ⟨before, text, after, opened, closed, rfl, hescaped, rfl, hback⟩ :=
          ih hpieces hrest
        exact ⟨piece :: before, text, after, opened, closed, rfl, hescaped, by simp, hback⟩

/-- **A match without quotes, and with a character of its own, lies between two quotes.** -/
theorem quoteFree_lies {pieces : List Piece} (hplain : ∀ piece ∈ pieces, piece.Plain)
    {front found back : List Char} (hwritten : (written pieces).toList = front ++ (found ++ back))
    (hquote : '"' ∉ found) (hown : ∃ c ∈ found, c ∉ OUTSIDE) :
    ∃ before text after opened closed,
      pieces = before ++ .Carried text (jsonQuote text) :: after
        ∧ escaped text = opened ++ (found ++ closed)
        ∧ front = (written before).toList ++ '"' :: opened
        ∧ back = closed ++ '"' :: (written after).toList := by
  obtain ⟨c, hc, hown⟩ := hown
  obtain ⟨start, finish, rfl⟩ := List.append_of_mem hc
  obtain ⟨hstart, hfinish⟩ : '"' ∉ start ∧ '"' ∉ c :: finish := by
    rwa [List.mem_append, not_or] at hquote
  obtain ⟨hne, hfinish⟩ : '"' ≠ c ∧ '"' ∉ finish := by rwa [List.mem_cons, not_or] at hfinish
  obtain ⟨before, text, after, opened, closed, hpieces, hescaped, hfront, hback⟩ :=
    exists_carried hplain hown hne.symm
      (show (written pieces).toList = (front ++ start) ++ c :: (finish ++ back) by
        rw [hwritten]; simp)
  -- the quote before the character is before the match, and the one behind it is behind the match
  rcases append_eq_append_cons hfront with ⟨opened', hopened, rfl⟩ | ⟨rest, -, hrest⟩
  · rcases append_eq_append_cons hback with ⟨rest, hrest, -⟩ | ⟨closed', rfl, hclosed⟩
    · exact absurd (by simp [hrest]) hfinish
    · exact ⟨before, text, after, opened', closed', hpieces, by rw [hescaped]; simp, hopened,
        hclosed⟩
  · exact absurd (by simp [hrest]) hstart

/-- A quoted text alone is written JSON. -/
lemma writtenJson_quote (text : String) : WrittenJson [.Carried text (jsonQuote text)] where
  plain := (List.forall_mem_singleton (p := Piece.Plain)).mpr rfl
  spaced := ⟨⟨by simp, trivial⟩, trivial⟩

/-- What is found in a quoted text, with something on both sides of it, is found in the whole. -/
lemma found_of_quoted {pattern : Regex} {front back : List Piece} {text : String}
    {before found after : List Char} (hbefore : before ≠ []) (hafter : after ≠ [])
    (hquoted : (jsonQuote text).toList = before.reverse ++ found ++ after)
    (h : pattern.Matches before found after) :
    pattern.Found (written (front ++ .Carried text (jsonQuote text) :: back)).toList := by
  refine ⟨before ++ (written front).toList.reverse, found, after ++ (written back).toList, ?_,
    Regex.matches_congr ?_ ?_ h⟩
  · simp [Piece.printed, hquoted]
  · rw [List.head?_append_of_ne_nil _ hbefore]
  · rw [List.head?_append_of_ne_nil _ hafter]

/-- A pattern is found in written JSON exactly where it is found in a quoted text. -/
def QuoteLocal (pattern : Regex) : Prop :=
  ∀ pieces, WrittenJson pieces → (pattern.Found (written pieces).toList
    ↔ ∃ text, Carries pieces text ∧ pattern.Found (jsonQuote text).toList)

/-- **A pattern whose matches have no quote, and a character of their own, is local.** -/
theorem quoteLocal_of_quoteFree {pattern : Regex} (hown : pattern.needs OUTSIDE = true)
    (hfree : ∀ pieces, WrittenJson pieces → ∀ before found after,
      (written pieces).toList = before.reverse ++ found ++ after →
      pattern.Matches before found after → '"' ∉ found) : QuoteLocal pattern := by
  intro pieces hpieces
  constructor
  · rintro ⟨before, found, after, hwritten, hmatches⟩
    obtain ⟨front, text, back, opened, closed, rfl, hescaped, hopened, rfl⟩ :=
      quoteFree_lies hpieces.plain (by rw [hwritten, List.append_assoc])
        (hfree pieces hpieces before found after hwritten hmatches)
        (Regex.exists_mem_of_needs hown hmatches)
    refine ⟨text, ⟨jsonQuote text, by simp⟩, opened.reverse ++ ['"'], found, closed ++ ['"'], ?_,
      Regex.matches_congr ?_ ?_ hmatches⟩
    · simp [toList_jsonQuote, hescaped]
    · rw [List.reverse_eq_iff.mp hopened]
      simp [List.head?_append]
    · simp [List.head?_append]
  · rintro ⟨text, ⟨printed, hcarried⟩, before, found, after, hquoted, hmatches⟩
    cases hpieces.plain _ hcarried
    obtain ⟨front, back, rfl⟩ := List.append_of_mem hcarried
    -- in the quoted text the match has a quote to each side
    have halone : (written [.Carried text (jsonQuote text)]).toList
        = before.reverse ++ found ++ after := by simpa [Piece.printed] using hquoted
    obtain ⟨front', text', back', opened, closed, -, -, hopened, hclosed⟩ :=
      quoteFree_lies (writtenJson_quote text).plain (by rw [halone, List.append_assoc])
        (hfree _ (writtenJson_quote text) before found after halone hmatches)
        (Regex.exists_mem_of_needs hown hmatches)
    refine found_of_quoted ?_ ?_ hquoted hmatches
    · rintro rfl
      simp at hopened
    · rw [hclosed]
      simp

lemma quoteLocal_of_avoids {pattern : Regex} (hown : pattern.needs OUTSIDE = true)
    (havoids : pattern.avoids '"' = true) : QuoteLocal pattern :=
  quoteLocal_of_quoteFree hown fun _ _ _ _ _ _ hmatches =>
    Regex.not_mem_of_avoids havoids hmatches

/-- What follows a quoted text in written JSON. -/
lemma follows_of_wellSpaced {front back : List Piece} {text printed : String}
    (h : WellSpaced (front ++ .Carried text printed :: back)) : Follows back := by
  induction front with
  | nil => exact h.1
  | cons piece front ih =>
      cases piece with
      | Mark _ => exact ih h
      | Carried _ _ => exact ih h.2

/-- A space is written between two quoted texts. -/
lemma space_of_spaceFirst {front back : List Piece} {text printed : String}
    (h : SpaceFirst (front ++ .Carried text printed :: back)) : ' ' ∈ (written front).toList := by
  induction front with
  | nil => exact h.elim
  | cons piece front ih =>
      cases piece with
      | Mark printed =>
          rw [written_cons, String.toList_append, List.mem_append]
          exact h.imp_right ih
      | Carried _ _ => exact h.elim

end PyJson
