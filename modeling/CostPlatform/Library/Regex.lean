import Mathlib.Data.List.Forall2
import Mathlib.Data.List.TakeWhile
import Mathlib.Tactic.Common
import Mathlib.Tactic.Lemma

/-!
# Regular expressions in a text

Patterns that are searched for: classes of characters, repeated, one after the other or one of two,
the start of the text and the boundary of a word.  A match lies between what is before it, which
is kept in reverse, and what is after it.

`Matches` says what a match is and `search` looks for one; `search_iff` is that it finds one exactly
where there is one.  A match sees one character to each side (`matches_congr`), and what it can and
what it must contain is read off the pattern (`not_mem_of_avoids`, `exists_mem_of_needs`).
-/

inductive Regex where
  /-- A character of the class, so many times. -/
  | many (least : Nat) (most : Option Nat) (inClass : Char → Bool)
  | cat (first second : Regex)
  | alt (first second : Regex)
  | start
  /-- Between a character of a word and none. -/
  | boundary (inWord : Char → Bool)

namespace Regex

def one (inClass : Char → Bool) : Regex := many 1 (some 1) inClass

/-- A sequence of classes. -/
def sequence : List (Char → Bool) → Regex
  | [] => many 0 (some 0) fun _ => false
  | [inClass] => one inClass
  | inClass :: next :: classes => cat (one inClass) (sequence (next :: classes))

/-- One of several. -/
def oneOf (first : Regex) : List Regex → Regex
  | [] => first
  | second :: rest => alt first (oneOf second rest)

/-- All of several, one after the other. -/
def allOf (first : Regex) : List Regex → Regex
  | [] => first
  | second :: rest => cat first (allOf second rest)

/-! ## Matching -/

/-- A text is a match between what is before it, in reverse, and what is after it. -/
def Matches : Regex → (before text after : List Char) → Prop
  | many least most inClass, _, text, _ =>
      least ≤ text.length ∧ (∀ bound ∈ most, text.length ≤ bound) ∧ ∀ c ∈ text, inClass c = true
  | cat first second, before, text, after =>
      ∃ front back, text = front ++ back ∧ first.Matches before front (back ++ after)
        ∧ second.Matches (front.reverse ++ before) back after
  | alt first second, before, text, after =>
      first.Matches before text after ∨ second.Matches before text after
  | start, before, text, _ => text = [] ∧ before = []
  | boundary inWord, before, text, after =>
      text = [] ∧ before.head?.any inWord ≠ after.head?.any inWord

/-- There is a match in a text. -/
def Found (pattern : Regex) (text : List Char) : Prop :=
  ∃ before found after, text = before.reverse ++ found ++ after
    ∧ pattern.Matches before found after

/-- The ways to match at a place: what is then before it, and what after. -/
def run : Regex → (before rest : List Char) → List (List Char × List Char)
  | many least most inClass, before, rest =>
      let reach := (rest.takeWhile inClass).length
      ((List.range (reach + 1)).filter fun n => least ≤ n && most.all fun bound => n ≤ bound).map
        fun n => ((rest.take n).reverse ++ before, rest.drop n)
  | cat first second, before, rest =>
      (first.run before rest).flatMap fun place => second.run place.1 place.2
  | alt first second, before, rest => first.run before rest ++ second.run before rest
  | start, before, rest => if before.isEmpty then [(before, rest)] else []
  | boundary inWord, before, rest =>
      if before.head?.any inWord ≠ rest.head?.any inWord then [(before, rest)] else []

def searchFrom (pattern : Regex) : (before rest : List Char) → Bool
  | before, [] => !(pattern.run before []).isEmpty
  | before, c :: rest =>
      !(pattern.run before (c :: rest)).isEmpty || pattern.searchFrom (c :: before) rest

/-- `pattern.search(text)`, as a truth value. -/
def search (pattern : Regex) (text : String) : Bool := pattern.searchFrom [] text.toList

lemma le_length_takeWhile_iff {α : Type} (p : α → Bool) (xs : List α) (n : Nat) :
    n ≤ (xs.takeWhile p).length ↔ n ≤ xs.length ∧ ∀ x ∈ xs.take n, p x = true := by
  induction xs generalizing n with
  | nil => simp +contextual
  | cons x xs ih =>
      cases n with
      | zero => simp
      | succ n =>
          by_cases hx : p x = true
          · simp [hx, ih]
          · simp [hx]

/-- **The ways to match are the matches.** -/
theorem mem_run_iff (pattern : Regex) (before rest before' after : List Char) :
    (before', after) ∈ pattern.run before rest
      ↔ ∃ text, rest = text ++ after ∧ before' = text.reverse ++ before
        ∧ pattern.Matches before text after := by
  induction pattern generalizing before rest before' after with
  | many least most inClass =>
      simp only [run, Matches, List.mem_map, List.mem_filter, List.mem_range, Nat.lt_succ_iff,
        le_length_takeWhile_iff, Bool.and_eq_true, decide_eq_true_eq, Option.all_eq_true,
        Prod.mk.injEq]
      constructor
      · rintro ⟨n, ⟨⟨hn, hclass⟩, hleast, hmost⟩, rfl, rfl⟩
        refine ⟨rest.take n, (List.take_append_drop n rest).symm, rfl, ?_, ?_, hclass⟩
        · rwa [List.length_take_of_le hn]
        · simpa [List.length_take_of_le hn] using hmost
      · rintro ⟨text, rfl, rfl, hleast, hmost, hclass⟩
        refine ⟨text.length, ⟨⟨by simp, by simpa using hclass⟩, hleast, by simpa using hmost⟩,
          ?_, ?_⟩
        · simp
        · simp
  | cat first second ihfirst ihsecond =>
      simp only [run, Matches, List.mem_flatMap, Prod.exists, ihfirst, ihsecond]
      constructor
      · rintro ⟨middle, rest', ⟨front, rfl, rfl, hfirst⟩, back, rfl, rfl, hsecond⟩
        exact ⟨front ++ back, by simp, by simp, front, back, rfl, hfirst, hsecond⟩
      · rintro ⟨text, rfl, rfl, front, back, rfl, hfirst, hsecond⟩
        exact ⟨_, _, ⟨front, by simp, rfl, hfirst⟩, back, rfl, by simp, hsecond⟩
  | alt first second ihfirst ihsecond =>
      simp only [run, Matches, List.mem_append, ihfirst, ihsecond, ← exists_or, and_or_left]
  | start =>
      simp only [run, Matches, List.isEmpty_iff]
      split_ifs with hbefore
      · simp [hbefore, and_comm, eq_comm]
      · simp [hbefore]
  | boundary inWord =>
      simp only [run, Matches]
      split_ifs with hedge
      · constructor
        · intro h
          cases List.mem_singleton.mp h
          exact ⟨[], rfl, rfl, rfl, hedge⟩
        · rintro ⟨_, rfl, rfl, rfl, -⟩
          exact List.mem_singleton.mpr rfl
      · constructor
        · intro h
          cases h
        · rintro ⟨_, rfl, rfl, rfl, h⟩
          exact absurd h hedge

/-- A match starts where there is a way to match. -/
lemma run_ne_nil_iff (pattern : Regex) (before rest : List Char) :
    (!(pattern.run before rest).isEmpty) = true
      ↔ ∃ text after, rest = text ++ after ∧ pattern.Matches before text after := by
  rw [Bool.not_eq_true', List.isEmpty_eq_false_iff_exists_mem, Prod.exists]
  simp only [mem_run_iff]
  constructor
  · rintro ⟨_, after, text, hrest, -, hmatches⟩
    exact ⟨text, after, hrest, hmatches⟩
  · rintro ⟨text, after, hrest, hmatches⟩
    exact ⟨_, after, text, hrest, rfl, hmatches⟩

lemma searchFrom_iff (pattern : Regex) (before rest : List Char) :
    pattern.searchFrom before rest = true
      ↔ ∃ skipped found after, rest = skipped ++ found ++ after
        ∧ pattern.Matches (skipped.reverse ++ before) found after := by
  induction rest generalizing before with
  | nil =>
      rw [searchFrom, run_ne_nil_iff]
      constructor
      · rintro ⟨found, after, hrest, hmatches⟩
        exact ⟨[], found, after, hrest, hmatches⟩
      · rintro ⟨skipped, found, after, hrest, hmatches⟩
        obtain ⟨rfl, rfl, rfl⟩ : skipped = [] ∧ found = [] ∧ after = [] := by simpa using hrest.symm
        exact ⟨[], [], rfl, hmatches⟩
  | cons c rest ih =>
      rw [searchFrom, Bool.or_eq_true, run_ne_nil_iff, ih]
      constructor
      · rintro (⟨found, after, hrest, hmatches⟩ | ⟨skipped, found, after, rfl, hmatches⟩)
        · exact ⟨[], found, after, hrest, hmatches⟩
        · exact ⟨c :: skipped, found, after, rfl, by simpa using hmatches⟩
      · rintro ⟨skipped, found, after, hrest, hmatches⟩
        cases skipped with
        | nil => exact .inl ⟨found, after, hrest, hmatches⟩
        | cons first skipped =>
            obtain ⟨rfl, rfl⟩ : c = first ∧ rest = skipped ++ found ++ after := by simpa using hrest
            exact .inr ⟨skipped, found, after, rfl, by simpa using hmatches⟩

/-- **A search finds a match exactly where there is one.** -/
theorem search_iff (pattern : Regex) (text : String) :
    pattern.search text = true ↔ pattern.Found text.toList := by
  rw [search, searchFrom_iff, Found]
  constructor
  · rintro ⟨skipped, found, after, htext, hmatches⟩
    exact ⟨skipped.reverse, found, after, by simpa using htext, by simpa using hmatches⟩
  · rintro ⟨before, found, after, htext, hmatches⟩
    exact ⟨before.reverse, found, after, htext, by simpa using hmatches⟩

/-- A class matches one character of it. -/
lemma one_matches_iff (inClass : Char → Bool) (before text after : List Char) :
    (one inClass).Matches before text after ↔ ∃ c, text = [c] ∧ inClass c = true := by
  constructor
  · rintro ⟨hleast, hmost, hclass⟩
    obtain ⟨c, rfl⟩ := List.length_eq_one_iff.mp (le_antisymm (hmost 1 rfl) hleast)
    exact ⟨c, rfl, hclass c (List.mem_singleton_self c)⟩
  · rintro ⟨c, rfl, hc⟩
    exact ⟨le_refl 1, fun bound hbound => by cases hbound; exact le_refl 1,
      List.forall_mem_singleton.mpr hc⟩

/-- A sequence of classes matches character by character. -/
lemma sequence_matches_iff (classes : List (Char → Bool)) (before text after : List Char) :
    (sequence classes).Matches before text after
      ↔ List.Forall₂ (fun inClass c => inClass c = true) classes text := by
  induction classes generalizing before text with
  | nil =>
      rw [List.forall₂_nil_left_iff, sequence, Matches]
      constructor
      · rintro ⟨-, hmost, -⟩
        exact List.length_eq_zero_iff.mp (Nat.le_zero.mp (hmost 0 rfl))
      · rintro rfl
        simp
  | cons inClass classes ih =>
      rw [List.forall₂_cons_left_iff]
      cases classes with
      | nil =>
          rw [sequence, one_matches_iff]
          simp only [List.forall₂_nil_left_iff]
          constructor
          · rintro ⟨c, rfl, hc⟩
            exact ⟨c, [], hc, rfl, rfl⟩
          · rintro ⟨c, _, hc, rfl, rfl⟩
            exact ⟨c, rfl, hc⟩
      | cons next classes =>
          rw [sequence, Matches]
          simp only [one_matches_iff, ih]
          constructor
          · rintro ⟨_, back, rfl, ⟨c, rfl, hc⟩, hback⟩
            exact ⟨c, back, hc, hback, rfl⟩
          · rintro ⟨c, back, hc, hback, rfl⟩
            exact ⟨[c], back, rfl, ⟨c, rfl, hc⟩, hback⟩

/-! ## What a match sees and contains -/

/-- **A match sees one character to each side.** -/
theorem matches_congr {pattern : Regex} {before before' text after after' : List Char}
    (hbefore : before.head? = before'.head?) (hafter : after.head? = after'.head?)
    (h : pattern.Matches before text after) : pattern.Matches before' text after' := by
  induction pattern generalizing before before' text after after' with
  | many least most inClass => exact h
  | cat first second ihfirst ihsecond =>
      obtain ⟨front, back, rfl, hfirst, hsecond⟩ := h
      refine ⟨front, back, rfl, ihfirst hbefore ?_ hfirst, ihsecond ?_ hafter hsecond⟩
      · rw [List.head?_append, List.head?_append, hafter]
      · rw [List.head?_append, List.head?_append, hbefore]
  | alt first second ihfirst ihsecond =>
      exact h.imp (ihfirst hbefore hafter) (ihsecond hbefore hafter)
  | start =>
      refine ⟨h.1, List.head?_eq_none_iff.mp ?_⟩
      rw [← hbefore, h.2]
      rfl
  | boundary inWord =>
      refine ⟨h.1, ?_⟩
      rw [← hbefore, ← hafter]
      exact h.2

/-- No class of the pattern has the character, where any of it is taken at all. -/
def avoids (c : Char) : Regex → Bool
  | many _ most inClass => most = some 0 || !inClass c
  | cat first second => first.avoids c && second.avoids c
  | alt first second => first.avoids c && second.avoids c
  | start => true
  | boundary _ => true

lemma not_mem_of_avoids {pattern : Regex} {c : Char} (havoids : pattern.avoids c = true)
    {before text after : List Char} (h : pattern.Matches before text after) : c ∉ text := by
  induction pattern generalizing before text after with
  | many least most inClass =>
      intro hc
      obtain ⟨-, hmost, hclass⟩ := h
      rcases Bool.or_eq_true _ _ ▸ havoids with hnone | hnot
      · have hlength := hmost 0 (by simpa using hnone)
        rw [List.length_eq_zero_iff.mp (Nat.le_zero.mp hlength)] at hc
        cases hc
      · rw [hclass c hc] at hnot
        cases hnot
  | cat first second ihfirst ihsecond =>
      obtain ⟨front, back, rfl, hfirst, hsecond⟩ := h
      obtain ⟨havoidsFirst, havoidsSecond⟩ := Bool.and_eq_true_iff.mp havoids
      rw [List.mem_append, not_or]
      exact ⟨ihfirst havoidsFirst hfirst, ihsecond havoidsSecond hsecond⟩
  | alt first second ihfirst ihsecond =>
      obtain ⟨havoidsFirst, havoidsSecond⟩ := Bool.and_eq_true_iff.mp havoids
      exact h.elim (ihfirst havoidsFirst) (ihsecond havoidsSecond)
  | start => simp [h.1]
  | boundary inWord => simp [h.1]

/-- Some part of the pattern cannot do with those characters. -/
def needs (others : List Char) : Regex → Bool
  | many least _ inClass => 0 < least && others.all fun c => !inClass c
  | cat first second => first.needs others || second.needs others
  | alt first second => first.needs others && second.needs others
  | start => false
  | boundary _ => false

lemma exists_mem_of_needs {pattern : Regex} {others : List Char}
    (hneeds : pattern.needs others = true) {before text after : List Char}
    (h : pattern.Matches before text after) : ∃ c ∈ text, c ∉ others := by
  induction pattern generalizing before text after with
  | many least most inClass =>
      obtain ⟨hleast, -, hclass⟩ := h
      obtain ⟨hpos, hothers⟩ := Bool.and_eq_true_iff.mp hneeds
      have hne : text ≠ [] := by
        rintro rfl
        exact absurd (of_decide_eq_true hpos) (by simpa using hleast)
      obtain ⟨c, hc⟩ := List.exists_mem_of_ne_nil text hne
      refine ⟨c, hc, fun hother => ?_⟩
      have hnot := List.all_eq_true.mp hothers c hother
      rw [hclass c hc] at hnot
      cases hnot
  | cat first second ihfirst ihsecond =>
      obtain ⟨front, back, rfl, hfirst, hsecond⟩ := h
      rcases Bool.or_eq_true_iff.mp hneeds with hneeds | hneeds
      · obtain ⟨c, hc, hnot⟩ := ihfirst hneeds hfirst
        exact ⟨c, List.mem_append_left _ hc, hnot⟩
      · obtain ⟨c, hc, hnot⟩ := ihsecond hneeds hsecond
        exact ⟨c, List.mem_append_right _ hc, hnot⟩
  | alt first second ihfirst ihsecond =>
      obtain ⟨hneedsFirst, hneedsSecond⟩ := Bool.and_eq_true_iff.mp hneeds
      exact h.elim (ihfirst hneedsFirst) (ihsecond hneedsSecond)
  | start => cases hneeds
  | boundary inWord => cases hneeds

/-! ## Texts between two characters -/

/-- No boundary takes the character for one of a word. -/
def edgeless (c : Char) : Regex → Bool
  | many _ _ _ => true
  | cat first second => first.edgeless c && second.edgeless c
  | alt first second => first.edgeless c && second.edgeless c
  | start => true
  | boundary inWord => !inWord c

/-- The pattern can start anywhere. -/
def unanchored : Regex → Bool
  | many _ _ _ => true
  | cat first second => first.unanchored && second.unanchored
  | alt first second => first.unanchored && second.unanchored
  | start => false
  | boundary _ => true

/-- **A match stays one between two characters that are none of a word**, unless it has to be at the
    start. -/
theorem matches_enclosed {pattern : Regex} {edge : Char} (hedge : pattern.edgeless edge = true)
    {before text after : List Char} (hstart : before ≠ [] ∨ pattern.unanchored = true)
    (h : pattern.Matches before text after) :
    pattern.Matches (before ++ [edge]) text (after ++ [edge]) := by
  induction pattern generalizing before text after with
  | many least most inClass => exact h
  | cat first second ihfirst ihsecond =>
      obtain ⟨front, back, rfl, hfirst, hsecond⟩ := h
      obtain ⟨hedgeFirst, hedgeSecond⟩ := Bool.and_eq_true_iff.mp hedge
      have hstartFirst := hstart.imp_right fun h => (Bool.and_eq_true_iff.mp h).1
      have hstartSecond : front.reverse ++ before ≠ [] ∨ second.unanchored = true :=
        hstart.imp (List.append_ne_nil_of_right_ne_nil _) fun h => (Bool.and_eq_true_iff.mp h).2
      refine ⟨front, back, rfl, ?_, ?_⟩
      · simpa using ihfirst hedgeFirst hstartFirst hfirst
      · simpa using ihsecond hedgeSecond hstartSecond hsecond
  | alt first second ihfirst ihsecond =>
      obtain ⟨hedgeFirst, hedgeSecond⟩ := Bool.and_eq_true_iff.mp hedge
      refine h.imp (ihfirst hedgeFirst ?_) (ihsecond hedgeSecond ?_)
      · exact hstart.imp_right fun h => (Bool.and_eq_true_iff.mp h).1
      · exact hstart.imp_right fun h => (Bool.and_eq_true_iff.mp h).2
  | start =>
      rcases hstart with hne | hunanchored
      · exact absurd h.2 hne
      · cases hunanchored
  | boundary inWord =>
      have hnot : inWord edge = false := by simpa [edgeless] using hedge
      have hend : ∀ chars : List Char,
          (chars ++ [edge]).head?.any inWord = chars.head?.any inWord := by
        intro chars
        cases chars with
        | nil => simp [hnot]
        | cons c chars => simp
      refine ⟨h.1, ?_⟩
      rw [hend, hend]
      exact h.2

lemma found_enclosed {pattern : Regex} {edge : Char} (hedge : pattern.edgeless edge = true)
    {before found after : List Char} (hstart : before ≠ [] ∨ pattern.unanchored = true)
    (h : pattern.Matches before found after) :
    pattern.Found (edge :: (before.reverse ++ found ++ after ++ [edge])) :=
  ⟨before ++ [edge], found, after ++ [edge], by simp, matches_enclosed hedge hstart h⟩

end Regex
