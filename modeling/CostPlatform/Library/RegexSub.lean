import CostPlatform.Library.Regex

/-!
# Replacing the matches in a text

`pattern.sub(replacement, text)`: from left to right, the match that is tried first at each place is
replaced, and the search goes on behind it.

`clean_subFrom` says when the text that comes out is free of a pattern.  A *core* of a match is a
beginning of it that matches whatever follows.  If the text between the replaced matches has no
match, no core starts in what is put in or runs into it, and none starts right behind a replaced
match, then the text that comes out has no match either.
-/

namespace Regex

/-! ## The match that is tried first -/

/-- The ways to match at a place, in the order in which they are tried: as many characters as
    there are, the first of two patterns. -/
def ways : Regex → (before rest : List Char) → List (List Char × List Char)
  | many least most inClass, before, rest =>
      let reach := (rest.takeWhile inClass).length
      ((List.range (reach + 1)).reverse.filter fun n =>
        least ≤ n && most.all fun bound => n ≤ bound).map
          fun n => ((rest.take n).reverse ++ before, rest.drop n)
  | cat first second, before, rest =>
      (first.ways before rest).flatMap fun place => second.ways place.1 place.2
  | alt first second, before, rest => first.ways before rest ++ second.ways before rest
  | start, before, rest => if before.isEmpty then [(before, rest)] else []
  | boundary inWord, before, rest =>
      if before.head?.any inWord ≠ rest.head?.any inWord then [(before, rest)] else []

/-- The order does not matter for what the ways are. -/
lemma mem_ways_iff_mem_run (pattern : Regex) (before rest : List Char)
    (place : List Char × List Char) :
    place ∈ pattern.ways before rest ↔ place ∈ pattern.run before rest := by
  induction pattern generalizing before rest place with
  | many least most inClass => simp [ways, run]
  | cat first second ihfirst ihsecond =>
      simp only [ways, run, List.mem_flatMap, ihfirst, ihsecond]
  | alt first second ihfirst ihsecond =>
      simp only [ways, run, List.mem_append, ihfirst, ihsecond]
  | start => rfl
  | boundary inWord => rfl

/-- What is left behind the match at a place. -/
def behind (pattern : Regex) (before rest : List Char) : Option (List Char) :=
  (pattern.ways before rest).head?.map Prod.snd

lemma behind_eq_some {pattern : Regex} {before rest after : List Char}
    (h : pattern.behind before rest = some after) :
    ∃ text, rest = text ++ after ∧ pattern.Matches before text after := by
  obtain ⟨⟨before', after'⟩, hhead, rfl⟩ := Option.map_eq_some_iff.mp h
  have hmem := (mem_ways_iff_mem_run pattern before rest _).mp (List.mem_of_mem_head? hhead)
  obtain ⟨text, hrest, -, hmatches⟩ := (mem_run_iff _ _ _ _ _).mp hmem
  exact ⟨text, hrest, hmatches⟩

lemma behind_eq_none {pattern : Regex} {before rest : List Char}
    (h : pattern.behind before rest = none) {text after : List Char}
    (hrest : rest = text ++ after) :
    ¬ pattern.Matches before text after := by
  intro hmatches
  have hmem := (mem_ways_iff_mem_run pattern before rest _).mpr
    ((mem_run_iff _ _ _ _ _).mpr ⟨text, hrest, rfl, hmatches⟩)
  rw [behind, Option.map_eq_none_iff, List.head?_eq_none_iff] at h
  rw [h] at hmem
  cases hmem

/-! ## Matches that take all there is -/

/-- No character of the class is left behind a match. -/
def TakesAll (pattern : Regex) (inClass : Char → Bool) : Prop :=
  ∀ before rest after, pattern.behind before rest = some after → after.head?.any inClass = false

lemma drop_length_takeWhile {α : Type} (p : α → Bool) (xs : List α) :
    xs.drop (xs.takeWhile p).length = xs.dropWhile p := by
  induction xs with
  | nil => rfl
  | cons x xs ih => by_cases hx : p x = true <;> simp [hx, ih]

lemma takesAll_many (least : Nat) (inClass : Char → Bool) :
    (many least none inClass).TakesAll inClass := by
  intro before rest after h
  have hhead : ∀ n, ((List.range (n + 1)).reverse.filter fun k => decide (least ≤ k)).head?
      = if least ≤ n then some n else none := by
    intro n
    rw [List.range_succ, List.reverse_append, List.reverse_singleton, List.singleton_append]
    split_ifs with hn
    · rw [List.filter_cons_of_pos (by simpa using hn), List.head?_cons]
    · rw [List.filter_cons_of_neg (by simpa using hn), List.head?_eq_none_iff,
        List.filter_eq_nil_iff]
      intro k hk
      have hlt : k < n := List.mem_range.mp (List.mem_reverse.mp hk)
      simp only [decide_eq_true_eq, not_le]
      omega
  simp only [behind, ways, Option.all_none, Bool.and_true, List.head?_map, hhead,
    Option.map_map] at h
  split_ifs at h with hleast
  · simp only [Option.map_some, Function.comp_apply, Option.some.injEq] at h
    rw [← h, drop_length_takeWhile]
    cases hleft : rest.dropWhile inClass with
    | nil => rfl
    | cons c left =>
        have hne : rest.dropWhile inClass ≠ [] := by simp [hleft]
        simpa [hleft] using List.head_dropWhile_not inClass hne
  · cases h

lemma TakesAll.mono {pattern : Regex} {inClass smaller : Char → Bool} (h : pattern.TakesAll inClass)
    (hsmaller : ∀ c, smaller c = true → inClass c = true) : pattern.TakesAll smaller := by
  intro before rest after hbehind
  have hnot := h before rest after hbehind
  cases after with
  | nil => rfl
  | cons c after =>
      rw [List.head?_cons, Option.any_some] at hnot ⊢
      rw [Bool.eq_false_iff] at hnot ⊢
      exact fun hc => hnot (hsmaller c hc)

lemma TakesAll.cat {second : Regex} {inClass : Char → Bool} (first : Regex)
    (h : second.TakesAll inClass) : (cat first second).TakesAll inClass := by
  intro before rest after hbehind
  obtain ⟨⟨before', after'⟩, hhead, rfl⟩ := Option.map_eq_some_iff.mp hbehind
  rw [ways] at hhead
  clear hbehind
  generalize first.ways before rest = places at hhead
  induction places with
  | nil => cases hhead
  | cons place places ih =>
      rw [List.flatMap_cons, List.head?_append] at hhead
      cases hfirst : (second.ways place.1 place.2).head? with
      | none =>
          rw [hfirst] at hhead
          exact ih hhead
      | some found =>
          rw [hfirst] at hhead
          cases hhead
          exact h place.1 place.2 after' (by rw [behind, hfirst]; rfl)

/-! ## Substitution -/

/-- The text with its matches replaced, from a place on.  A match of nothing is passed over. -/
def subFrom (pattern : Regex) (replace : List Char → List Char) :
    Nat → (before rest : List Char) → List Char
  | _, _, [] => []
  -- within a match that has been replaced
  | skip + 1, before, c :: rest => subFrom pattern replace skip (c :: before) rest
  | 0, before, c :: rest =>
      match (pattern.behind before (c :: rest)).map fun after =>
          (c :: rest).length - after.length with
      | some (n + 1) =>
          replace ((c :: rest).take (n + 1)) ++ subFrom pattern replace n (c :: before) rest
      | _ => c :: subFrom pattern replace 0 (c :: before) rest

/-- `pattern.sub(replacement, text)`. -/
def sub (pattern : Regex) (replace : List Char → List Char) (text : String) : String :=
  String.ofList (pattern.subFrom replace 0 [] text.toList)

/-- The match that is replaced, by its length. -/
lemma exists_replaced {pattern : Regex} {before rest : List Char} {n : Nat}
    (h : (pattern.behind before rest).map (fun after => rest.length - after.length) = some n) :
    ∃ after, pattern.behind before rest = some after ∧ rest = rest.take n ++ after
      ∧ rest.drop n = after ∧ pattern.Matches before (rest.take n) after := by
  obtain ⟨after, hbehind, rfl⟩ := Option.map_eq_some_iff.mp h
  obtain ⟨text, rfl, hmatches⟩ := behind_eq_some hbehind
  have hlength : (text ++ after).length - after.length = text.length := by simp
  rw [hlength, List.take_left]
  exact ⟨after, hbehind, rfl, List.drop_left, hmatches⟩

/-- Where every match takes something, a place that is passed over has none. -/
lemma behind_eq_none_of_passed {pattern : Regex} {before rest : List Char}
    (hconsumes : ∀ before text after, pattern.Matches before text after → text ≠ [])
    (hno : ∀ n, (pattern.behind before rest).map (fun after => rest.length - after.length)
      ≠ some (n + 1)) :
    pattern.behind before rest = none := by
  cases hbehind : pattern.behind before rest with
  | none => rfl
  | some after =>
      obtain ⟨text, rfl, hmatches⟩ := behind_eq_some hbehind
      have hpos := List.length_pos_iff.mpr (hconsumes before text after hmatches)
      refine absurd ?_ (hno (text.length - 1))
      rw [hbehind, Option.map_some, List.length_append, Nat.add_sub_cancel]
      exact congrArg some (Nat.sub_add_cancel hpos).symm

/-- No match starts at a place. -/
def NoMatch (pattern : Regex) (before rest : List Char) : Prop :=
  ∀ text after, rest = text ++ after → ¬ pattern.Matches before text after

/-- No match starts from a place on. -/
def Clean (pattern : Regex) (before rest : List Char) : Prop :=
  ∀ skipped left, rest = skipped ++ left → pattern.NoMatch (skipped.reverse ++ before) left

lemma clean_iff_not_found (pattern : Regex) (text : List Char) :
    pattern.Clean [] text ↔ ¬ pattern.Found text := by
  constructor
  · rintro hclean ⟨before, found, after, htext, hmatches⟩
    refine hclean before.reverse (found ++ after) (by simpa using htext) found after rfl ?_
    simpa using hmatches
  · rintro hfound skipped left rfl text after rfl hmatches
    exact hfound ⟨skipped.reverse, text, after, by simp, by simpa using hmatches⟩

lemma clean_cons {pattern : Regex} {before rest : List Char} {c : Char} :
    pattern.Clean before (c :: rest)
      ↔ pattern.NoMatch before (c :: rest) ∧ pattern.Clean (c :: before) rest := by
  constructor
  · intro h
    refine ⟨h [] (c :: rest) rfl, ?_⟩
    rintro skipped left rfl
    simpa using h (c :: skipped) left rfl
  · rintro ⟨hhere, hrest⟩ skipped left hsplit
    cases skipped with
    | nil =>
        rw [List.nil_append] at hsplit
        exact hsplit ▸ hhere
    | cons d skipped =>
        obtain ⟨rfl, rfl⟩ := List.cons.inj hsplit
        simpa using hrest skipped left rfl

/-- A text is clean if none of its first places starts a match and the rest is clean. -/
lemma clean_append {pattern : Regex} {before front rest : List Char}
    (hfront : ∀ skipped c left, front = skipped ++ c :: left →
      pattern.NoMatch (skipped.reverse ++ before) (c :: left ++ rest))
    (hrest : pattern.Clean (front.reverse ++ before) rest) :
    pattern.Clean before (front ++ rest) := by
  induction front generalizing before with
  | nil => exact hrest
  | cons d front ih =>
      refine clean_cons.mpr ⟨hfront [] d front rfl, ih ?_ ?_⟩
      · rintro skipped c left rfl
        simpa using hfront (d :: skipped) c left rfl
      · simpa using hrest

/-- **A clean text is left as it is.** -/
theorem subFrom_of_clean {pattern : Regex} {replace : List Char → List Char}
    {before rest : List Char} (h : pattern.Clean before rest) :
    pattern.subFrom replace 0 before rest = rest := by
  induction rest generalizing before with
  | nil => rfl
  | cons c rest ih =>
      obtain ⟨hhere, hrest⟩ := clean_cons.mp h
      have hnone : pattern.behind before (c :: rest) = none := by
        cases hbehind : pattern.behind before (c :: rest) with
        | none => rfl
        | some after =>
            obtain ⟨text, htext, hmatches⟩ := behind_eq_some hbehind
            exact absurd hmatches (hhere text after htext)
      rw [subFrom, hnone]
      exact congrArg (c :: ·) (ih hrest)

/-! ## Texts that come out clean -/

/-- A beginning of every match matches whatever follows, and starts with one of these characters. -/
structure HasCores (pattern : Regex) (IsCore : List Char → Prop) (starts : Char → Bool) :
    Prop where
  of_match : ∀ {before text after}, pattern.Matches before text after →
    ∃ core more, text = core ++ more ∧ IsCore core
      ∧ ∀ after', pattern.Matches before core after'
  starts : ∀ {core}, IsCore core → ∃ c cs, core = c :: cs ∧ starts c = true

/-- A text in which no core can start is clean. -/
lemma HasCores.not_found {pattern : Regex} {IsCore : List Char → Prop} {starts : Char → Bool}
    (h : pattern.HasCores IsCore starts) {text : List Char} (hno : ∀ c ∈ text, starts c = false) :
    ¬ pattern.Found text := by
  rintro ⟨before, found, after, rfl, hmatches⟩
  obtain ⟨core, more, rfl, hcore, -⟩ := h.of_match hmatches
  obtain ⟨c, cs, rfl, hc⟩ := h.starts hcore
  rw [hno c (by simp)] at hc
  cases hc

/-- No core runs into a text, however it goes on. -/
def Stops (IsCore : List Char → Prop) (fresh : List Char) : Prop :=
  ∀ front back later, back ≠ [] → back <+: fresh ++ later → ¬ IsCore (front ++ back)

/-- What is put in for a match keeps a beginning of it that holds no core; in what is new no core
    starts, and none runs into it. -/
def Shields (IsCore : List Char → Prop) (starts : Char → Bool) (text replacement : List Char) :
    Prop :=
  ∃ keep gone fresh, text = keep ++ gone ∧ replacement = keep ++ fresh
    ∧ (∀ core, core <:+: keep → ¬ IsCore core) ∧ (∀ c ∈ fresh, starts c = false)
    ∧ Stops IsCore fresh

variable {pattern target : Regex} {replace : List Char → List Char}
  {IsCore : List Char → Prop} {starts : Char → Bool}

/-- Up to the first replacement the text is what it was. -/
lemma subFrom_begins
    (hshields : ∀ before text after, pattern.Matches before text after →
      Shields IsCore starts text (replace text)) (before rest : List Char) :
    ∃ same old new, rest = same ++ old ∧ pattern.subFrom replace 0 before rest = same ++ new
      ∧ (new = [] ∨ ∃ fresh later, new = fresh ++ later ∧ Stops IsCore fresh) := by
  induction rest generalizing before with
  | nil => exact ⟨[], [], [], rfl, rfl, Or.inl rfl⟩
  | cons c rest ih =>
      rw [subFrom]
      split
      · next n hlength =>
          obtain ⟨after, -, hrest, -, hmatches⟩ := exists_replaced hlength
          obtain ⟨keep, gone, fresh, hkeep, hreplace, -, -, hstops⟩ :=
            hshields before _ after hmatches
          refine ⟨keep, gone ++ after, fresh ++ pattern.subFrom replace n (c :: before) rest,
            ?_, ?_, Or.inr ⟨fresh, _, rfl, hstops⟩⟩
          · rw [← List.append_assoc, ← hkeep]
            exact hrest
          · rw [← List.append_assoc, ← hreplace]
      · obtain ⟨same, old, new, hrest, hnew, hcase⟩ := ih (c :: before)
        exact ⟨c :: same, old, new, congrArg (c :: ·) hrest, congrArg (c :: ·) hnew, hcase⟩

/-- A character that was passed over starts no match in the text that comes out. -/
lemma noMatch_of_passed (hcores : target.HasCores IsCore starts)
    (hshields : ∀ before text after, pattern.Matches before text after →
      Shields IsCore starts text (replace text))
    {before before' rest : List Char} {c : Char} (hnone : target.NoMatch before (c :: rest))
    (hhead : starts c = true → before.head? = before'.head?) :
    target.NoMatch before' (c :: pattern.subFrom replace 0 (c :: before) rest) := by
  intro text after htext hmatches
  obtain ⟨core, more, rfl, hcore, hwhatever⟩ := hcores.of_match hmatches
  obtain ⟨d, ds, hd, hstarts⟩ := hcores.starts hcore
  obtain ⟨same, old, new, rfl, hnew, hcase⟩ :=
    subFrom_begins hshields (c :: before) rest
  rw [hnew, List.append_assoc] at htext
  obtain rfl : c = d := by
    rw [hd] at htext
    exact (List.cons.inj htext).1
  have hsplit : (c :: same) ++ new = core ++ (more ++ after) := htext
  rcases List.append_eq_append_iff.mp hsplit with ⟨back, rfl, hback⟩ | ⟨kept, hkept, -⟩
  · -- the core is more than what is the same
    by_cases hempty : back = []
    · subst hempty
      rw [List.append_nil] at hcore hwhatever
      exact hnone (c :: same) old rfl
        (matches_congr (hhead hstarts).symm rfl (hwhatever old))
    · rcases hcase with rfl | ⟨fresh, later, rfl, hstops⟩
      · exact hempty (List.append_eq_nil_iff.mp hback.symm).1
      · exact hstops (c :: same) back later hempty ⟨_, hback.symm⟩ hcore
  · refine hnone core (kept ++ old) ?_ (matches_congr (hhead hstarts).symm rfl (hwhatever _))
    rw [← List.append_assoc, ← hkept]
    rfl

/-- What is put in for a match starts no match. -/
lemma noMatch_of_put (hcores : target.HasCores IsCore starts) {text replacement rest : List Char}
    (hshields : Shields IsCore starts text replacement) {before skipped left : List Char} {c : Char}
    (hsplit : replacement = skipped ++ c :: left) :
    target.NoMatch before (c :: left ++ rest) := by
  obtain ⟨keep, gone, fresh, -, hreplacement, hkeep, hfresh, hstops⟩ := hshields
  intro found after hfound hmatches
  obtain ⟨core, more, rfl, hcore, -⟩ := hcores.of_match hmatches
  obtain ⟨d, ds, hd, hstarts⟩ := hcores.starts hcore
  obtain rfl : c = d := by
    rw [hd] at hfound
    exact (List.cons.inj hfound).1
  have hwhere : keep ++ fresh = skipped ++ c :: left := hreplacement ▸ hsplit
  rcases List.append_eq_append_iff.mp hwhere with ⟨behindKeep, hskipped, hinFresh⟩ |
    ⟨inKeep, hinKeep, hleft⟩
  · -- the place is in what is new
    rw [hfresh c (by rw [hinFresh]; simp)] at hstarts
    cases hstarts
  · -- the place is in what was kept
    rw [hleft, List.append_assoc, List.append_assoc] at hfound
    rcases List.append_eq_append_iff.mp hfound with ⟨back, rfl, hback⟩ | ⟨kept, hkept, -⟩
    · by_cases hempty : back = []
      · subst hempty
        rw [List.append_nil] at hcore
        exact hkeep inKeep ⟨skipped, [], by rw [List.append_nil, hinKeep]⟩ hcore
      · exact hstops inKeep back rest hempty ⟨_, hback.symm⟩ hcore
    · exact hkeep core ⟨skipped, kept, by rw [List.append_assoc, ← hkept, hinKeep]⟩ hcore

/-- **The text that comes out is clean**, where the text between the replaced matches is. -/
theorem clean_subFrom (hcores : target.HasCores IsCore starts)
    (hconsumes : ∀ before text after, pattern.Matches before text after → text ≠ [])
    (htakes : pattern.TakesAll starts)
    (hshields : ∀ before text after, pattern.Matches before text after →
      Shields IsCore starts text (replace text))
    (skip : Nat) {before before' rest : List Char}
    (hpassed : ∀ skipped left, rest = skipped ++ left →
      pattern.behind (skipped.reverse ++ before) left = none →
        target.NoMatch (skipped.reverse ++ before) left)
    (hnext : before.head? = before'.head? ∨ (rest.drop skip).head?.any starts = false)
    (hskip : skip ≠ 0 → (rest.drop skip).head?.any starts = false) :
    target.Clean before' (pattern.subFrom replace skip before rest) := by
  induction rest generalizing skip before before' with
  | nil =>
      rintro skipped left hnil text after hleft hmatches
      obtain ⟨core, more, rfl, hcore, -⟩ := hcores.of_match hmatches
      obtain ⟨d, ds, rfl, -⟩ := hcores.starts hcore
      rw [hleft] at hnil
      simp [subFrom] at hnil
  | cons c rest ih =>
      have hpassed' : ∀ skipped left, rest = skipped ++ left →
          pattern.behind (skipped.reverse ++ c :: before) left = none →
            target.NoMatch (skipped.reverse ++ c :: before) left := by
        rintro skipped left rfl hnone
        have h := hpassed (c :: skipped) left rfl
        rw [List.reverse_cons, List.append_assoc] at h
        exact h hnone
      cases skip with
      | succ skip =>
          have hbehind := hskip (Nat.succ_ne_zero skip)
          exact ih skip hpassed' (Or.inr hbehind) fun _ => hbehind
      | zero =>
          rw [subFrom]
          split
          · next n hlength =>
              obtain ⟨after, hbehind, -, hdrop, hmatches⟩ := exists_replaced hlength
              have hafter : (rest.drop n).head?.any starts = false := by
                rw [show rest.drop n = after from hdrop]
                exact htakes before (c :: rest) after hbehind
              refine clean_append (fun skipped d left hsplit => ?_) ?_
              · exact noMatch_of_put hcores (hshields before _ after hmatches) hsplit
              · exact ih n hpassed' (Or.inr hafter) fun _ => hafter
          · next hno =>
              have hhere := hpassed [] (c :: rest) rfl (behind_eq_none_of_passed hconsumes hno)
              refine clean_cons.mpr ⟨noMatch_of_passed hcores hshields hhere fun hstarts => ?_, ?_⟩
              · exact hnext.resolve_right (by simp [hstarts])
              · exact ih 0 hpassed' (Or.inl rfl) fun h => absurd rfl h

end Regex
