import Suppression.Proofs.DirectiveKeyword
import Suppression.Proofs.PlainTarget

namespace Suppression

namespace Grammar

def isBracket (c : Char) : Bool :=
  c == '(' || c == ')'

/-- Some bracket is opened in the text, and the next bracket to its right is missing or opens
another group. -/
def IsMalformed (text : List Char) : Prop :=
  ∃ before after, text = before ++ '(' :: after ∧
    (after.find? isBracket = none ∨ after.find? isBracket = some '(')

theorem not_isMalformed_nil : ¬ IsMalformed [] := by
  rintro ⟨before, after, heq, -⟩
  exact List.append_ne_nil_of_right_ne_nil before (List.cons_ne_nil _ after) heq.symm

theorem isMalformed_cons_iff {c : Char} {rest : List Char} :
    IsMalformed (c :: rest) ↔
      (c = '(' ∧ (rest.find? isBracket = none ∨ rest.find? isBracket = some '(')) ∨
        IsMalformed rest := by
  constructor
  · rintro ⟨before, after, heq, hafter⟩
    cases before with
    | nil =>
        obtain ⟨rfl, rfl⟩ := List.cons.inj heq
        exact Or.inl ⟨rfl, hafter⟩
    | cons d before =>
        obtain ⟨rfl, rfl⟩ := List.cons.inj heq
        exact Or.inr ⟨before, after, rfl, hafter⟩
  · rintro (⟨rfl, hrest⟩ | ⟨before, after, rfl, hafter⟩)
    · exact ⟨[], rest, rfl, hrest⟩
    · exact ⟨c :: before, after, rfl, hafter⟩

theorem isMalformed_append_iff {passed rest : List Char} (h : ∀ c ∈ passed, c ≠ '(') :
    IsMalformed (passed ++ rest) ↔ IsMalformed rest := by
  induction passed with
  | nil => rfl
  | cons c passed ih =>
      obtain ⟨hc, hpassed⟩ := List.forall_mem_cons.mp h
      rw [List.cons_append, isMalformed_cons_iff, ih hpassed]
      simp [hc]

theorem group?_eq_none_iff {text : List Char} :
    group? text = none ↔
      text.find? isBracket = none ∨ text.find? isBracket = some '(' := by
  induction text with
  | nil => simp [group?]
  | cons c rest ih =>
      rw [group?]
      split_ifs with hclosed hopened
      · simp [hclosed, isBracket]
      · simp [hopened, isBracket]
      · have hother : isBracket c = false := by simp [isBracket, hclosed, hopened]
        rw [Option.map_eq_none_iff, ih, List.find?_cons_of_neg (by simp [hother])]

theorem eq_append_of_group? {text inside after : List Char}
    (h : group? text = some (inside, after)) : text = inside ++ ')' :: after := by
  induction text generalizing inside with
  | nil => simp [group?] at h
  | cons c rest ih =>
      rw [group?] at h
      split_ifs at h with hclosed
      · obtain ⟨rfl, rfl⟩ := Prod.mk.inj (Option.some.inj h)
        rw [hclosed]
        rfl
      · obtain ⟨⟨found, left⟩, hgroup, heq⟩ := Option.map_eq_some_iff.mp h
        obtain ⟨rfl, rfl⟩ := Prod.mk.inj heq
        rw [ih hgroup]
        rfl

theorem isMalformed_group_iff {text inside after : List Char}
    (h : group? text = some (inside, after)) :
    IsMalformed ('(' :: text) ↔ IsMalformed after := by
  have hclosed : ¬ (text.find? isBracket = none ∨ text.find? isBracket = some '(') := by
    rw [← group?_eq_none_iff, h]
    exact nofun
  have hinside : ∀ c ∈ inside ++ [')'], c ≠ '(' := by
    intro c hc
    rcases List.mem_append.mp hc with hin | hlast
    · exact (not_mem_of_group? h c hin).1
    · rw [List.mem_singleton.mp hlast]
      decide
  calc
    IsMalformed ('(' :: text) ↔ IsMalformed text := by
      rw [isMalformed_cons_iff]
      exact or_iff_right fun hopen => hclosed hopen.2
    _ ↔ IsMalformed ((inside ++ [')']) ++ after) := by
      rw [eq_append_of_group? h, List.append_assoc, List.singleton_append]
    _ ↔ IsMalformed after := isMalformed_append_iff hinside

theorem isMalformed_name_iff {c : Char} (h : isNameChar c = true) (rest : List Char) :
    IsMalformed (c :: rest) ↔ IsMalformed (rest.dropWhile isNameChar) := by
  have hchars : ∀ d ∈ c :: rest.takeWhile isNameChar, d ≠ '(' := by
    have hopen : ∀ d, isNameChar d = true → d ≠ '(' := by
      rintro d hd rfl
      exact absurd hd (by decide)
    exact List.forall_mem_cons.mpr ⟨hopen c h, fun d hd => hopen d (List.mem_takeWhile_imp hd)⟩
  calc
    IsMalformed (c :: rest) ↔
        IsMalformed ((c :: rest.takeWhile isNameChar) ++ rest.dropWhile isNameChar) := by
      rw [List.cons_append, List.takeWhile_append_dropWhile]
    _ ↔ IsMalformed (rest.dropWhile isNameChar) := isMalformed_append_iff hchars

theorem flat?_eq_none_iff {text : List Char} : flat? text = none ↔ IsMalformed text := by
  fun_induction flat? text with
  | case1 => simp [not_isMalformed_nil]
  | case2 c rest hstart opened hrest hgroup =>
      rw [isMalformed_name_iff (isNameChar_of_isNameStart hstart), hrest, isMalformed_cons_iff]
      exact iff_of_true rfl (Or.inl ⟨rfl, group?_eq_none_iff.mp hgroup⟩)
  | case3 c rest hstart analyzer opened hrest inside after hgroup =>
      rename_i ih
      rw [isMalformed_name_iff (isNameChar_of_isNameStart hstart), hrest,
        isMalformed_group_iff hgroup, Option.map_eq_none_iff, ih]
  | case4 c rest hstart analyzer hother =>
      rename_i ih
      rw [isMalformed_name_iff (isNameChar_of_isNameStart hstart), Option.map_eq_none_iff, ih]
  | case5 rest hgroup =>
      rw [isMalformed_cons_iff]
      exact iff_of_true rfl (Or.inl ⟨rfl, group?_eq_none_iff.mp hgroup⟩)
  | case6 rest inside after hgroup hstart ih => rw [isMalformed_group_iff hgroup, ih]
  | case7 c rest hstart hopen hname ih => rw [isMalformed_name_iff hname, ih]
  | case8 c rest hstart hopen hname ih =>
      rw [isMalformed_cons_iff, ih]
      exact (or_iff_right fun hfirst => hopen hfirst.1).symm

/-- The flat grammar refuses the malformed texts and no others. What it lists otherwise is written
with names and rules only, and a line with a malformed text after its keyword is no directive. -/
theorem flat_eq_none_iff (text : String) :
    (flat text = .ok none ↔ IsMalformed text.toList) ∧
    (¬ IsMalformed text.toList → ∃ targets, flat text = .ok (some targets) ∧
      ∀ target ∈ targets, target.IsFlat) ∧
    ∀ (line : String) before, Directive.FirstKeyword line.toList before text.toList →
      IsMalformed text.toList → Matcher.standard line = .ok none := by
  have hnone : flat text = .ok none ↔ IsMalformed text.toList := by
    rw [← flat?_eq_none_iff]
    exact ⟨Except.ok.inj, congrArg Except.ok⟩
  refine ⟨hnone, fun hgood => ?_, fun line before hfirst hmalformed => ?_⟩
  · rw [← flat?_eq_none_iff, ← ne_eq, Option.ne_none_iff_exists'] at hgood
    obtain ⟨targets, htargets⟩ := hgood
    exact ⟨targets, congrArg Except.ok htargets, isFlat_of_flat? htargets⟩
  · obtain ⟨kind, -, heq⟩ := @Matcher.exists_ofGrammar_of_firstKeyword flat line _ _ hfirst
    rw [Matcher.standard, heq, String.ofList_toList, hnone.mpr hmalformed]
    rfl

theorem flat_eq_none_iff_nestedGroup :
    Matcher.standard "# ignore mypy(a(b))" = .ok none ∧
      ∃ targets, flat " mypy(a, b) -7" = .ok (some targets) ∧
        ∀ target ∈ targets, target.IsFlat := by
  constructor
  · obtain ⟨before, hfirst, -⟩ := @Directive.exists_firstKeyword_of_find? "# ignore mypy(a(b))"
      " mypy(a(b))" .inline (by decide +kernel)
    apply (flat_eq_none_iff " mypy(a(b))").2.2 "# ignore mypy(a(b))" before hfirst
    exact ⟨" mypy".toList, "a(b))".toList, by decide, Or.inr (by decide)⟩
  · apply (flat_eq_none_iff " mypy(a, b) -7").2.1
    rw [← flat?_eq_none_iff]
    decide +kernel

end Grammar

end Suppression
