import Mathlib.Data.List.TakeWhile
import Suppression.Target.Grammar

namespace Suppression

namespace Grammar

theorem toNat_lt_of_isNameChar {c : Char} (h : isNameChar c = true) : c.toNat < 128 := by
  simp only [isNameChar, Text.isWord, Char.isAlphanum, Bool.or_eq_true, beq_iff_eq] at h
  delta Char.isAlpha Char.isUpper Char.isLower Char.isDigit at h
  simp only [Bool.or_eq_true, Bool.and_eq_true, decide_eq_true_eq, UInt32.le_iff_toNat_le] at h
  rcases h with ((((h | h) | h) | rfl) | rfl) | rfl
  · exact lt_of_le_of_lt h.2 (by decide)
  · exact lt_of_le_of_lt h.2 (by decide)
  · exact lt_of_le_of_lt h.2 (by decide)
  all_goals decide

theorem isNameChar_of_isNameStart {c : Char} (h : isNameStart c = true) : isNameChar c = true := by
  simp only [isNameStart, isNameChar, Text.isWord, Char.isAlphanum, Bool.or_eq_true] at h ⊢
  rcases h with h | h
  · exact Or.inl (Or.inl (Or.inl (Or.inl h)))
  · exact Or.inl (Or.inl (Or.inr h))

theorem isNameChar_toLower {c : Char} (h : isNameChar c = true) : isNameChar c.toLower = true := by
  have hall : ∀ n < 128, isNameChar (Char.ofNat n) = true →
      isNameChar (Char.ofNat n).toLower = true := by decide
  have := hall c.toNat (toNat_lt_of_isNameChar h)
  rw [Char.ofNat_toNat] at this
  exact this h

end Grammar

namespace Text

theorem lowerAfter_of_isNameChar {text : List Char}
    (h : ∀ c ∈ text, Grammar.isNameChar c = true) (before : List Char) :
    lowerAfter before text = text.map Char.toLower := by
  induction text generalizing before with
  | nil => rfl
  | cons c after ih =>
      obtain ⟨hc, hafter⟩ := List.forall_mem_cons.mp h
      have hascii := Grammar.toNat_lt_of_isNameChar hc
      have hdotted : c ≠ '\u0130' := by rintro rfl; exact absurd hascii (by decide)
      have hsigma : c ≠ '\u03a3' := by rintro rfl; exact absurd hascii (by decide)
      rw [lowerAfter, ih hafter, lowerBetween]
      simp [hdotted, hsigma, lowerChar, hascii]

end Text

/-- The target can be written in the flat grammar: its analyzer is a name, and its rule, which comes
after it, may stand between brackets and commas. -/
structure Target.IsPlain (target : Target) : Prop where
  analyzer : ∃ name : String, target.analyzer = name ∧ name ≠ "" ∧
    ∀ c ∈ name.toList, Grammar.isNameChar c = true
  rule : ∀ rule, target.rule = some rule → ∃ written : String, rule = written ∧ written ≠ "" ∧
    ∀ c ∈ written.toList, c ≠ ',' ∧ c ≠ '('
  ruleFirst : target.ruleFirst = false

def Targets.ArePlain (targets : Targets) : Prop :=
  ∀ target ∈ targets, target.IsPlain

namespace Grammar

theorem mem_of_mem_splitAt {separator : Char} {text piece : List Char}
    (h : piece ∈ splitAt separator text) : ∀ c ∈ piece, c ∈ text ∧ c ≠ separator := by
  induction text generalizing piece with
  | nil =>
      obtain rfl : piece = [] := by simpa [splitAt] using h
      simp
  | cons first rest ih =>
      rw [splitAt] at h
      split at h
      · rcases List.mem_cons.mp h with rfl | hlater
        · simp
        · intro c hc
          obtain ⟨hrest, hne⟩ := ih hlater c hc
          exact ⟨List.mem_cons_of_mem _ hrest, hne⟩
      · next hfirst =>
          split at h
          · obtain rfl := List.mem_singleton.mp h
            intro c hc
            obtain rfl := List.mem_singleton.mp hc
            exact ⟨List.mem_cons_self, hfirst⟩
          · next own pieces hpieces =>
              rw [hpieces] at ih
              rcases List.mem_cons.mp h with rfl | hlater
              · intro c hc
                rcases List.mem_cons.mp hc with rfl | hown
                · exact ⟨List.mem_cons_self, hfirst⟩
                · obtain ⟨hrest, hne⟩ := ih List.mem_cons_self c hown
                  exact ⟨List.mem_cons_of_mem _ hrest, hne⟩
              · intro c hc
                obtain ⟨hrest, hne⟩ := ih (List.mem_cons_of_mem _ hlater) c hc
                exact ⟨List.mem_cons_of_mem _ hrest, hne⟩

theorem not_mem_of_group? {text inside after : List Char} (h : group? text = some (inside, after)) :
    ∀ c ∈ inside, c ≠ '(' ∧ c ≠ ')' := by
  induction text generalizing inside with
  | nil => simp [group?] at h
  | cons first rest ih =>
      rw [group?] at h
      split_ifs at h with hclosed hopened
      · obtain ⟨rfl, -⟩ := Prod.mk.inj (Option.some.inj h)
        simp
      · obtain ⟨⟨found, left⟩, hgroup, heq⟩ := Option.map_eq_some_iff.mp h
        obtain ⟨rfl, rfl⟩ := Prod.mk.inj heq
        exact List.forall_mem_cons.mpr ⟨⟨hopened, hclosed⟩, ih hgroup⟩

end Grammar

namespace Text

theorem mem_of_mem_trimChars {text : List Char} {c : Char} (h : c ∈ trimChars text) :
    c ∈ text := by
  rw [trimChars, List.mem_reverse] at h
  have hinner := (List.dropWhile_suffix _).subset h
  exact (List.dropWhile_suffix _).subset (List.mem_reverse.mp hinner)

theorem isBlank_of_head?_dropWhile {text : List Char} {c : Char}
    (h : c ∈ (text.dropWhile isBlank).head?) : isBlank c = false := by
  have hfirst := List.head?_dropWhile_not isBlank text
  rw [Option.mem_def.mp h] at hfirst
  simpa using hfirst

theorem isBlank_of_ends_trimChars {text : List Char} {c : Char}
    (h : c ∈ (trimChars text).head? ∨ c ∈ (trimChars text).getLast?) : isBlank c = false := by
  rw [trimChars, List.head?_reverse, List.getLast?_reverse] at h
  rcases h with hfirst | hlast
  · obtain ⟨dropped, heq⟩ : (text.dropWhile isBlank).reverse.dropWhile isBlank <:+
        (text.dropWhile isBlank).reverse := List.dropWhile_suffix _
    apply @isBlank_of_head?_dropWhile text
    rw [← List.getLast?_reverse, ← heq, List.getLast?_append, Option.mem_def.mp hfirst]
    rfl
  · exact isBlank_of_head?_dropWhile hlast

end Text

namespace Grammar

/-- The text may stand between brackets and commas as a rule. -/
structure IsRule (rule : String) : Prop where
  ne_empty : rule ≠ ""
  chars : ∀ c ∈ rule.toList, c ≠ '(' ∧ c ≠ ')' ∧ c ≠ ','
  ends : ∀ c, c ∈ rule.toList.head? ∨ c ∈ rule.toList.getLast? → Text.isBlank c = false

theorem isRule_of_mem_rules {inside : List Char} (hinside : ∀ c ∈ inside, c ≠ '(' ∧ c ≠ ')')
    {rule : Wide} (h : rule ∈ rules inside) :
    ∃ written : String, rule = written ∧ IsRule written := by
  rw [rules, List.mem_filterMap] at h
  obtain ⟨trimmed, hmem, hrule⟩ := h
  obtain ⟨piece, hpiece, rfl⟩ := List.mem_map.mp hmem
  split at hrule
  · simp at hrule
  · next hne =>
      obtain rfl := Option.some.inj hrule
      refine ⟨_, rfl, ?_, ?_, ?_⟩
      · intro hempty
        rw [← String.toList_inj, String.toList_ofList] at hempty
        simp [hempty] at hne
      · intro c hc
        rw [String.toList_ofList] at hc
        obtain ⟨hmem, hcomma⟩ := mem_of_mem_splitAt hpiece c (Text.mem_of_mem_trimChars hc)
        exact ⟨(hinside c hmem).1, (hinside c hmem).2, hcomma⟩
      · intro c hc
        rw [String.toList_ofList] at hc
        exact Text.isBlank_of_ends_trimChars hc

def IsName (name : String) : Prop :=
  ∃ first rest, name.toList = first :: rest ∧ isNameStart first = true ∧
    ∀ c ∈ rest, isNameChar c = true

end Grammar

/-- The flat grammar may list the target: its analyzer is a name, and its rule is one. -/
structure Target.IsFlat (target : Target) : Prop where
  analyzer : ∃ name : String, target.analyzer = name ∧ Grammar.IsName name
  rule : ∀ rule, target.rule = some rule → ∃ written : String, rule = written ∧
    Grammar.IsRule written
  ruleFirst : target.ruleFirst = false

theorem Target.IsFlat.isPlain {target : Target} (h : target.IsFlat) : target.IsPlain := by
  obtain ⟨name, hanalyzer, first, rest, hname, hfirst, hrest⟩ := h.analyzer
  refine ⟨⟨name, hanalyzer, ?_, ?_⟩, fun rule hrule => ?_, h.ruleFirst⟩
  · intro hempty
    rw [hempty] at hname
    exact nomatch hname
  · rw [hname]
    exact List.forall_mem_cons.mpr ⟨Grammar.isNameChar_of_isNameStart hfirst, hrest⟩
  · obtain ⟨written, heq, hwritten⟩ := h.rule rule hrule
    exact ⟨written, heq, hwritten.ne_empty,
      fun c hc => ⟨(hwritten.chars c hc).2.2, (hwritten.chars c hc).1⟩⟩

namespace Grammar

theorem isFlat_targetsOf {analyzer : String} {inside : List Char} (hname : IsName analyzer)
    (hinside : ∀ c ∈ inside, c ≠ '(' ∧ c ≠ ')') :
    ∀ target ∈ targetsOf analyzer inside, target.IsFlat := by
  intro target h
  unfold targetsOf at h
  split at h
  · obtain rfl := List.mem_singleton.mp h
    exact ⟨⟨analyzer, rfl, hname⟩, by simp, rfl⟩
  · obtain ⟨rule, hrule, rfl⟩ := List.mem_map.mp h
    refine ⟨⟨analyzer, rfl, hname⟩, fun other hother => ?_, rfl⟩
    obtain rfl := Option.some.inj hother
    exact isRule_of_mem_rules hinside hrule

theorem isName_ofList {first : Char} (h : isNameStart first = true) (rest : List Char) :
    IsName (String.ofList (first :: rest.takeWhile isNameChar)) :=
  ⟨first, _, String.toList_ofList, h, fun _ hc => List.mem_takeWhile_imp hc⟩

theorem isFlat_of_flat? {text : List Char} {targets : Targets} (h : flat? text = some targets) :
    ∀ target ∈ targets, target.IsFlat := by
  fun_induction flat? text generalizing targets with
  | case1 =>
      obtain rfl := Option.some.inj h
      simp
  | case2 => simp at h
  | case3 c rest hstart analyzer opened hrest inside after hgroup =>
      rename_i ih
      obtain ⟨others, hothers, rfl⟩ := Option.map_eq_some_iff.mp h
      intro target hmem
      rcases List.mem_append.mp hmem with hown | hlater
      · exact isFlat_targetsOf (isName_ofList hstart rest) (not_mem_of_group? hgroup) target hown
      · exact ih hothers target hlater
  | case4 c rest hstart analyzer hother =>
      rename_i ih
      obtain ⟨others, hothers, rfl⟩ := Option.map_eq_some_iff.mp h
      exact List.forall_mem_cons.mpr
        ⟨⟨⟨_, rfl, isName_ofList hstart rest⟩, by simp, rfl⟩, ih hothers⟩
  | case5 => simp at h
  | case6 rest inside after hgroup hstart ih => exact ih h
  | case7 c rest hstart hopen hname ih => exact ih h
  | case8 c rest hstart hopen hname ih => exact ih h

theorem arePlain_of_flat? {text : List Char} {targets : Targets} (h : flat? text = some targets) :
    targets.ArePlain :=
  fun target hmem => (isFlat_of_flat? h target hmem).isPlain

end Grammar

end Suppression
