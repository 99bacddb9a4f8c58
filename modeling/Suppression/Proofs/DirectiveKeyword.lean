import Mathlib.Data.List.Basic
import Mathlib.Data.List.TakeWhile
import Suppression.Directive

namespace Suppression

namespace Directive

/-- The characters spell a word, in any letter case. -/
def Spells (text : List Char) (word : String) : Prop :=
  text.map Char.toLower = word.toList

/-- Between the two texts, `ignore` or `ignoring` stands in the line as a whole word, and no line
break comes after it. -/
structure KeywordAt (line before after : List Char) : Prop where
  word : ∃ text, line = before ++ text ++ after ∧ (Spells text "ignore" ∨ Spells text "ignoring")
  apart_before : ∀ c ∈ before.getLast?, Text.isWord c = false
  apart_after : ∀ c ∈ after.head?, Text.isWord c = false
  unbroken : ∀ c ∈ after, Text.isLineBreak c = false

/-- No other keyword stands further left. -/
structure FirstKeyword (line before after : List Char) : Prop extends
    KeywordAt line before after where
  least : ∀ earlier later, KeywordAt line earlier later → before.length ≤ earlier.length

/-- The text before a keyword ends in a whole word with blanks after it. -/
def Announces (word : String) (before : List Char) : Prop :=
  ∃ earlier text blanks, before = earlier ++ text ++ blanks ∧ Spells text word ∧
    (∀ c ∈ earlier.getLast?, Text.isWord c = false) ∧
    blanks ≠ [] ∧ ∀ c ∈ blanks, Text.isBlank c = true

theorem afterWord?_eq_some_iff {word text after : List Char} :
    afterWord? word text = some after ↔
      ∃ own, text = own ++ after ∧ own.map Char.toLower = word := by
  constructor
  · intro h
    fun_induction afterWord? word text with
    | case1 text =>
        obtain rfl := Option.some.inj h
        exact ⟨[], rfl, rfl⟩
    | case2 => simp at h
    | case3 word c text ih =>
        obtain ⟨own, rfl, rfl⟩ := ih h
        exact ⟨c :: own, rfl, rfl⟩
    | case4 => simp at h
  · rintro ⟨own, rfl, rfl⟩
    induction own with
    | nil => rfl
    | cons c own ih => simpa [afterWord?] using ih

theorem atWordEnd_iff {text : List Char} :
    atWordEnd text = true ↔ ∀ c ∈ text.head?, Text.isWord c = false := by
  cases text <;> simp [atWordEnd]

theorem not_spells_of_spells {text other after rest : List Char} (h : Spells text "ignore")
    (hother : Spells other "ignoring") : text ++ after ≠ other ++ rest := by
  intro heq
  have hlength : text.length = 6 := by simpa using congrArg List.length h
  have hlength' : other.length = 8 := by simpa using congrArg List.length hother
  have htake : text = other.take 6 := by
    have := congrArg (List.take 6) heq
    rwa [List.take_left' hlength, List.take_append_of_le_length (by omega)] at this
  have hspelled : (other.take 6).map Char.toLower = "ignori".toList := by
    rw [List.map_take, hother]
    rfl
  rw [← htake, h] at hspelled
  exact absurd hspelled (by decide)

theorem afterKeyword?_eq_some_iff {text after : List Char} :
    afterKeyword? text = some after ↔
      (∃ own, text = own ++ after ∧ (Spells own "ignore" ∨ Spells own "ignoring")) ∧
        (∀ c ∈ after.head?, Text.isWord c = false) ∧ ∀ c ∈ after, Text.isLineBreak c = false := by
  have hwhole : (atWordEnd after && !after.any Text.isLineBreak) = true ↔
      (∀ c ∈ after.head?, Text.isWord c = false) ∧ ∀ c ∈ after, Text.isLineBreak c = false := by
    simp [atWordEnd_iff]
  rw [afterKeyword?, Option.or_eq_some_iff, Option.filter_eq_some_iff, Option.filter_eq_some_iff,
    hwhole, afterWord?_eq_some_iff, afterWord?_eq_some_iff]
  constructor
  · rintro (⟨⟨own, rfl, hown⟩, hafter⟩ | ⟨-, ⟨own, rfl, hown⟩, hafter⟩)
    · exact ⟨⟨own, rfl, Or.inl hown⟩, hafter⟩
    · exact ⟨⟨own, rfl, Or.inr hown⟩, hafter⟩
  · rintro ⟨⟨own, rfl, hown | hown⟩, hafter⟩
    · exact Or.inl ⟨⟨own, rfl, hown⟩, hafter⟩
    · refine Or.inr ⟨?_, ⟨own, rfl, hown⟩, hafter⟩
      rw [Option.filter_eq_none_iff]
      intro rest hrest
      obtain ⟨other, heq, hother⟩ := afterWord?_eq_some_iff.mp hrest
      exact absurd heq.symm (not_spells_of_spells hother hown)

theorem keywordAt_iff {line before after : List Char} :
    KeywordAt line before after ↔ ∃ text, line = before ++ text ∧
      atWordEnd before.reverse = true ∧ afterKeyword? text = some after := by
  simp only [atWordEnd_iff, List.head?_reverse, afterKeyword?_eq_some_iff]
  constructor
  · rintro ⟨⟨text, rfl, htext⟩, hbefore, hafter, hunbroken⟩
    exact ⟨text ++ after, by simp, hbefore, ⟨text, rfl, htext⟩, hafter, hunbroken⟩
  · rintro ⟨-, rfl, hbefore, ⟨text, rfl, htext⟩, hafter, hunbroken⟩
    exact ⟨⟨text, by simp, htext⟩, hbefore, hafter, hunbroken⟩

theorem FirstKeyword.unique {line before after earlier later : List Char}
    (h : FirstKeyword line before after) (h' : FirstKeyword line earlier later) :
    before = earlier ∧ after = later := by
  have hlength := Nat.le_antisymm (h.least _ _ h'.toKeywordAt) (h'.least _ _ h.toKeywordAt)
  obtain ⟨text, hline, -, hafter⟩ := keywordAt_iff.mp h.toKeywordAt
  obtain ⟨text', hline', -, hlater⟩ := keywordAt_iff.mp h'.toKeywordAt
  obtain ⟨rfl, rfl⟩ := List.append_inj (hline.symm.trans hline') hlength
  exact ⟨rfl, Option.some.inj (hafter.symm.trans hlater)⟩

theorem FirstKeyword.exists_iff {line before after : List Char}
    (h : FirstKeyword line before after) {P : List Char → List Char → Prop} :
    (∃ earlier later, FirstKeyword line earlier later ∧ P earlier later) ↔ P before after := by
  constructor
  · rintro ⟨earlier, later, hother, hP⟩
    obtain ⟨rfl, rfl⟩ := h.unique hother
    exact hP
  · intro hP
    exact ⟨before, after, h, hP⟩

theorem toLower_of_isBlank {c : Char} (h : Text.isBlank c = true) : c.toLower = c := by
  have hupper : ¬ (65 ≤ c.toNat ∧ c.toNat ≤ 90) := by
    simp only [Text.isBlank, Bool.or_eq_true, Bool.and_eq_true, decide_eq_true_eq, beq_iff_eq] at h
    omega
  exact dif_neg hupper

/-- The text, read backwards, begins with a word that is whole. -/
def endsIn (word : String) (text : List Char) : Bool :=
  match afterWord? word.toList.reverse text with
  | some earlier => atWordEnd earlier
  | none => false

theorem kindAfter_eq (before : List Char) :
    kindAfter before =
      if (before.dropWhile Text.isBlank).length = before.length then .inline
      else if endsIn "start" (before.dropWhile Text.isBlank) then .start
      else if endsIn "stop" (before.dropWhile Text.isBlank) then .stop
      else .inline := rfl

theorem endsIn_iff {word : String} {text : List Char} :
    endsIn word text = true ↔
      ∃ own earlier, text = own ++ earlier ∧ own.map Char.toLower = word.toList.reverse ∧
        atWordEnd earlier = true := by
  unfold endsIn
  constructor
  · intro h
    split at h
    · next earlier hfound =>
        obtain ⟨own, heq, hown⟩ := afterWord?_eq_some_iff.mp hfound
        exact ⟨own, earlier, heq, hown, h⟩
    · simp at h
  · rintro ⟨own, earlier, heq, hown, hend⟩
    rw [afterWord?_eq_some_iff.mpr ⟨own, heq, hown⟩]
    exact hend

theorem announces_iff {word : String} {last : Char} {others : List Char}
    (hword : word.toList.reverse = last :: others) (hlast : Text.isBlank last = false)
    {before : List Char} :
    Announces word before.reverse ↔ (before.dropWhile Text.isBlank).length ≠ before.length ∧
      endsIn word (before.dropWhile Text.isBlank) = true := by
  rw [endsIn_iff]
  constructor
  · rintro ⟨earlier, text, blanks, heq, htext, hearlier, hne, hblanks⟩
    have hbefore : before = blanks.reverse ++ (text.reverse ++ earlier.reverse) := by
      simpa using congrArg List.reverse heq
    have hspelled : text.reverse.map Char.toLower = last :: others := by
      rw [List.map_reverse, htext, hword]
    have hrest : before.dropWhile Text.isBlank = text.reverse ++ earlier.reverse := by
      obtain ⟨c, rest, hreverse, hc, -⟩ := List.map_eq_cons_iff.mp hspelled
      have hblank : ¬ Text.isBlank c = true := fun hblank => by
        rw [← hc, toLower_of_isBlank hblank, hblank] at hlast
        exact absurd hlast (by decide)
      rw [hbefore, List.dropWhile_append_of_pos (fun d hd => hblanks d (List.mem_reverse.mp hd)),
        hreverse, List.cons_append, List.dropWhile_cons_of_neg hblank]
    constructor
    · have hpositive := List.length_pos_iff.mpr hne
      rw [hrest, hbefore, @List.length_append _ blanks.reverse, List.length_reverse]
      omega
    · refine ⟨text.reverse, earlier.reverse, hrest, hspelled.trans hword.symm, ?_⟩
      rw [atWordEnd_iff, List.head?_reverse]
      exact hearlier
  · rintro ⟨hlength, own, earlier, hrest, hown, hend⟩
    have hbefore : before = before.takeWhile Text.isBlank ++ (own ++ earlier) := by
      rw [← hrest, List.takeWhile_append_dropWhile]
    refine ⟨earlier.reverse, own.reverse, (before.takeWhile Text.isBlank).reverse, ?_, ?_, ?_, ?_,
      ?_⟩
    · simpa using congrArg List.reverse hbefore
    · rw [Spells, List.map_reverse, hown, List.reverse_reverse]
    · rw [List.getLast?_reverse, ← atWordEnd_iff]
      exact hend
    · intro hempty
      rw [List.reverse_eq_nil_iff.mp hempty, List.nil_append, ← hrest] at hbefore
      exact hlength (congrArg List.length hbefore.symm)
    · intro c hc
      exact List.mem_takeWhile_imp (List.mem_reverse.mp hc)

theorem not_endsIn_stop {text : List Char} (h : endsIn "start" text = true) :
    endsIn "stop" text = false := by
  rw [← Bool.not_eq_true]
  intro hstop
  obtain ⟨own, earlier, hown, hstart, -⟩ := endsIn_iff.mp h
  obtain ⟨other, later, hother, hstop, -⟩ := endsIn_iff.mp hstop
  obtain ⟨c, rest, rfl, hc, -⟩ := List.map_eq_cons_iff.mp hstart
  obtain ⟨d, others, rfl, hd, -⟩ := List.map_eq_cons_iff.mp hstop
  obtain ⟨rfl, -⟩ := List.cons.inj (hown.symm.trans hother)
  exact absurd (hc.symm.trans hd) (by decide)

/-- The kind that a directive has after some text. -/
def KindFits (kind : DirectiveKind) (before : List Char) : Prop :=
  (kind = .start ↔ Announces "start" before) ∧ (kind = .stop ↔ Announces "stop" before)

theorem KindFits.unique {kind other : DirectiveKind} {before : List Char}
    (h : KindFits kind before) (h' : KindFits other before) : kind = other := by
  have hstart := h.1.trans h'.1.symm
  have hstop := h.2.trans h'.2.symm
  cases kind <;> cases other <;> simp_all

theorem kindFits_kindAfter (before : List Char) : KindFits (kindAfter before) before.reverse := by
  rw [KindFits, @announces_iff "start" 't' ['r', 'a', 't', 's'] rfl rfl,
    @announces_iff "stop" 'p' ['o', 't', 's'] rfl rfl, kindAfter_eq]
  split
  · next hlength => simp [hlength]
  · next hlength =>
      split
      · next hstart => simp [hlength, hstart, not_endsIn_stop hstart]
      · next hstart =>
          split
          · next hstop => simp [hlength, hstart, hstop]
          · next hstop => simp [hstart, hstop]

theorem keywordAt_reverse_iff {passed text after : List Char} :
    KeywordAt (passed.reverse ++ text) passed.reverse after ↔
      (if atWordEnd passed then afterKeyword? text else none) = some after := by
  rw [keywordAt_iff, List.reverse_reverse]
  constructor
  · rintro ⟨rest, heq, hend, hafter⟩
    obtain rfl := List.append_cancel_left heq
    rw [if_pos hend]
    exact hafter
  · intro h
    split at h
    · next hend => exact ⟨text, rfl, hend, h⟩
    · simp at h

theorem KeywordAt.eq_of_length_eq {passed text before after : List Char}
    (h : KeywordAt (passed.reverse ++ text) before after)
    (hlength : before.length = passed.length) : before = passed.reverse := by
  obtain ⟨rest, heq, -⟩ := keywordAt_iff.mp h
  exact ((List.append_inj heq (by simp [hlength])).1).symm

theorem length_lt_of_findAfter? {passed text : List Char} (h : findAfter? passed text = none)
    {before after : List Char} (hkeyword : KeywordAt (passed.reverse ++ text) before after) :
    before.length < passed.length := by
  induction text generalizing passed with
  | nil =>
      obtain ⟨rest, heq, -, hafter⟩ := keywordAt_iff.mp hkeyword
      have hrest : rest ≠ [] := by
        rintro rfl
        exact nomatch hafter
      have hpositive := List.length_pos_iff.mpr hrest
      have hlength := congrArg List.length heq
      simp only [List.append_nil, List.length_reverse, List.length_append] at hlength
      omega
  | cons c text ih =>
      rw [findAfter?] at h
      split at h
      · simp at h
      · next hhere =>
          have hline : passed.reverse ++ c :: text = (c :: passed).reverse ++ text := by simp
          have hlt := ih h (hline ▸ hkeyword)
          rw [List.length_cons, Nat.lt_succ_iff_lt_or_eq] at hlt
          refine hlt.resolve_right fun hlength => ?_
          obtain rfl := hkeyword.eq_of_length_eq hlength
          rw [keywordAt_reverse_iff.mp hkeyword] at hhere
          exact absurd hhere (by simp)

theorem exists_keywordAt_of_findAfter? {passed text after : List Char} {kind : DirectiveKind}
    (h : findAfter? passed text = some (kind, after)) :
    ∃ before, KeywordAt (passed.reverse ++ text) before after ∧ KindFits kind before ∧
      ∀ earlier later, KeywordAt (passed.reverse ++ text) earlier later →
        passed.length ≤ earlier.length → before.length ≤ earlier.length := by
  induction text generalizing passed with
  | nil => simp [findAfter?] at h
  | cons c text ih =>
      rw [findAfter?] at h
      split at h
      · next found hhere =>
          obtain ⟨rfl, rfl⟩ := Prod.mk.inj (Option.some.inj h)
          refine ⟨passed.reverse, keywordAt_reverse_iff.mpr hhere, kindFits_kindAfter passed, ?_⟩
          intro earlier later _ hle
          rwa [List.length_reverse]
      · next hhere =>
          have hline : passed.reverse ++ c :: text = (c :: passed).reverse ++ text := by simp
          obtain ⟨before, hbefore, hkind, hleast⟩ := ih h
          rw [hline]
          refine ⟨before, hbefore, hkind, fun earlier later hearlier hle => ?_⟩
          apply hleast earlier later hearlier
          refine Nat.lt_of_le_of_ne hle fun hlength => ?_
          rw [← hline] at hearlier
          obtain rfl := hearlier.eq_of_length_eq hlength.symm
          rw [keywordAt_reverse_iff.mp hearlier] at hhere
          exact absurd hhere (by simp)

theorem not_keywordAt_of_find? {line : String} (h : find? line = none) (before after : List Char) :
    ¬ KeywordAt line.toList before after := by
  intro hkeyword
  have hnone : findAfter? [] line.toList = none := Option.map_eq_none_iff.mp h
  exact Nat.not_lt_zero _ (length_lt_of_findAfter? hnone hkeyword)

theorem exists_firstKeyword_of_find? {line text : String} {kind : DirectiveKind}
    (h : find? line = some (kind, text)) :
    ∃ before, FirstKeyword line.toList before text.toList ∧ KindFits kind before := by
  obtain ⟨⟨found, after⟩, hfound, heq⟩ := Option.map_eq_some_iff.mp h
  obtain ⟨rfl, rfl⟩ := Prod.mk.inj heq
  obtain ⟨before, hbefore, hkind, hleast⟩ := exists_keywordAt_of_findAfter? hfound
  rw [String.toList_ofList]
  exact ⟨before, ⟨hbefore, fun earlier later hearlier =>
    hleast earlier later hearlier (Nat.zero_le _)⟩, hkind⟩

theorem exists_find?_of_firstKeyword {line : String} {before after : List Char}
    (h : FirstKeyword line.toList before after) :
    ∃ kind, find? line = some (kind, String.ofList after) ∧ KindFits kind before := by
  cases hfind : find? line with
  | none => exact absurd h.toKeywordAt (not_keywordAt_of_find? hfind before after)
  | some found =>
      obtain ⟨kind, text⟩ := found
      obtain ⟨earlier, hearlier, hkind⟩ := exists_firstKeyword_of_find? hfind
      obtain ⟨rfl, rfl⟩ := h.unique hearlier
      exact ⟨kind, by rw [String.ofList_toList], hkind⟩

theorem exists_firstKeyword_or (line : String) :
    (∀ before after, ¬ KeywordAt line.toList before after) ∨
      ∃ before after, FirstKeyword line.toList before after := by
  cases hfind : find? line with
  | none => exact Or.inl (not_keywordAt_of_find? hfind)
  | some found =>
      obtain ⟨before, hfirst, -⟩ := exists_firstKeyword_of_find? hfind
      exact Or.inr ⟨before, _, hfirst⟩

end Directive

namespace Matcher

open Directive

variable {grammar : Grammar} {line : String}

theorem ofGrammar_of_not_keywordAt
    (h : ∀ before after, ¬ KeywordAt line.toList before after) :
    ofGrammar grammar line = .ok none := by
  unfold ofGrammar
  cases hfind : find? line with
  | none => rfl
  | some found =>
      obtain ⟨before, hfirst, -⟩ := exists_firstKeyword_of_find? hfind
      exact absurd hfirst.toKeywordAt (h _ _)

theorem exists_ofGrammar_of_firstKeyword {before after : List Char}
    (h : FirstKeyword line.toList before after) :
    ∃ kind, KindFits kind before ∧ ofGrammar grammar line =
      (grammar (String.ofList after)).map fun targets? =>
        targets?.map fun targets => { kind, targets } := by
  obtain ⟨kind, hfind, hkind⟩ := exists_find?_of_firstKeyword h
  refine ⟨kind, hkind, ?_⟩
  rw [ofGrammar, hfind]

/-- A line is a directive exactly if it has a keyword and the grammar accepts the text after the
first one. The targets are those that the grammar lists there, the kind is that of the word before
the keyword, and where the grammar breaks off, so does the matcher. -/
theorem ofGrammar_spec (grammar : Grammar) (line : String) :
    (ofGrammar grammar line = .ok none ↔
      (∀ before after, ¬ KeywordAt line.toList before after) ∨
        ∃ before after, FirstKeyword line.toList before after ∧
          grammar (String.ofList after) = .ok none) ∧
    (∀ directive, ofGrammar grammar line = .ok (some directive) ↔
      ∃ before after, FirstKeyword line.toList before after ∧
        grammar (String.ofList after) = .ok (some directive.targets) ∧
        (directive.kind = .start ↔ Announces "start" before) ∧
        (directive.kind = .stop ↔ Announces "stop" before)) ∧
    ∀ message, ofGrammar grammar line = .error message ↔
      ∃ before after, FirstKeyword line.toList before after ∧
        grammar (String.ofList after) = .error message := by
  rcases exists_firstKeyword_or line with hnone | ⟨before, after, hfirst⟩
  · have hnot (P : List Char → List Char → Prop) :
        ¬ ∃ before after, FirstKeyword line.toList before after ∧ P before after := by
      rintro ⟨before, after, hfirst, -⟩
      exact hnone before after hfirst.toKeywordAt
    rw [ofGrammar_of_not_keywordAt hnone]
    refine ⟨⟨fun _ => Or.inl hnone, fun _ => rfl⟩, fun directive => ?_, fun message => ?_⟩
    · exact ⟨nofun, fun h => absurd h (hnot _)⟩
    · exact ⟨nofun, fun h => absurd h (hnot _)⟩
  · obtain ⟨kind, hkind, heq⟩ := @exists_ofGrammar_of_firstKeyword grammar line _ _ hfirst
    have hnot : ¬ ∀ before after, ¬ KeywordAt line.toList before after :=
      fun h => h before after hfirst.toKeywordAt
    simp only [hfirst.exists_iff, hnot, false_or, heq]
    cases grammar (String.ofList after) with
    | error message => simp [Except.map]
    | ok targets? =>
        cases targets? with
        | none => simp [Except.map]
        | some targets =>
            refine ⟨by simp [Except.map], fun directive => ?_, by simp [Except.map]⟩
            constructor
            · intro h
              obtain rfl := Option.some.inj (Except.ok.inj h)
              exact ⟨rfl, hkind⟩
            · rintro ⟨htargets, hfits⟩
              obtain rfl := Option.some.inj (Except.ok.inj htargets)
              obtain rfl := hkind.unique hfits
              rfl

-- A line break after the first word has the search go on to the second one.
example : find? "ignore a\r# stop ignoring b" = some (.stop, " b") := by decide +kernel

end Matcher

end Suppression
