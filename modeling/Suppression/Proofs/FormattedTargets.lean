import Mathlib.Data.List.Forall2
import Suppression.Pairing
import Suppression.Proofs.PlainTarget

namespace Suppression

namespace Text

theorem dropWhile_isBlank_eq_self {text : List Char} (h : ∀ c ∈ text.head?, isBlank c = false) :
    text.dropWhile isBlank = text := by
  cases text with
  | nil => rfl
  | cons c rest => exact List.dropWhile_cons_of_neg (by simp [h c rfl])

theorem trimChars_eq_self {text : List Char}
    (h : ∀ c, c ∈ text.head? ∨ c ∈ text.getLast? → isBlank c = false) : trimChars text = text := by
  have hfirst : text.dropWhile isBlank = text :=
    dropWhile_isBlank_eq_self fun c hc => h c (Or.inl hc)
  have hlast : text.reverse.dropWhile isBlank = text.reverse := by
    apply dropWhile_isBlank_eq_self
    rw [List.head?_reverse]
    exact fun c hc => h c (Or.inr hc)
  rw [trimChars, hfirst, hlast, List.reverse_reverse]

end Text

namespace Grammar

theorem splitAt_eq_singleton {separator : Char} {text : List Char} (h : separator ∉ text) :
    splitAt separator text = [text] := by
  induction text with
  | nil => rfl
  | cons c rest ih =>
      obtain ⟨hc, hrest⟩ := List.ne_and_not_mem_of_not_mem_cons h
      rw [splitAt, if_neg hc.symm, ih hrest]

theorem rules_of_isRule {rule : String} (h : IsRule rule) : rules rule.toList = [↑rule] := by
  have hcomma : ',' ∉ rule.toList := fun hmem => (h.chars ',' hmem).2.2 rfl
  have hne : rule.toList ≠ [] := fun hempty => h.ne_empty (String.toList_eq_nil_iff.mp hempty)
  rw [rules, splitAt_eq_singleton hcomma, List.map_singleton, Text.trimChars_eq_self h.ends]
  simp [hne]

theorem targetsOf_of_isRule (analyzer : String) {rule : String} (h : IsRule rule) :
    targetsOf analyzer rule.toList = [{ analyzer, rule := some rule }] := by
  rw [targetsOf, rules_of_isRule h]
  rfl

theorem group?_append {inside : List Char} (h : ∀ c ∈ inside, c ≠ '(' ∧ c ≠ ')')
    (after : List Char) : group? (inside ++ ')' :: after) = some (inside, after) := by
  induction inside with
  | nil => rfl
  | cons c inside ih =>
      obtain ⟨⟨hopen, hclose⟩, hinside⟩ := List.forall_mem_cons.mp h
      rw [List.cons_append, group?, if_neg hclose, if_neg hopen, ih hinside]
      rfl

section Names

variable {c : Char} {rest : List Char}

theorem flat?_cons_group (hstart : isNameStart c = true) {opened inside after : List Char}
    (hrest : rest.dropWhile isNameChar = '(' :: opened)
    (hgroup : group? opened = some (inside, after)) :
    flat? (c :: rest) = (flat? after).map fun targets =>
      targetsOf (String.ofList (c :: rest.takeWhile isNameChar)) inside ++ targets := by
  rw [flat?, if_pos hstart]
  split
  · next opened' hopened =>
      obtain rfl : opened = opened' := (List.cons.inj (hrest.symm.trans hopened)).2
      generalize group? opened = group at hgroup ⊢
      subst hgroup
      rfl
  · next hother => exact absurd hrest (hother opened)

theorem flat?_cons_name (hstart : isNameStart c = true) {after : List Char}
    (hrest : rest.dropWhile isNameChar = after) (hafter : after.head? ≠ some '(') :
    flat? (c :: rest) = (flat? after).map fun targets =>
      { analyzer := String.ofList (c :: rest.takeWhile isNameChar) } :: targets := by
  rw [flat?, if_pos hstart]
  split
  · next opened hopened =>
      rw [hrest] at hopened
      exact absurd (congrArg List.head? hopened) hafter
  · rw [hrest]

theorem takeWhile_name {own : List Char} (hown : ∀ c ∈ own, isNameChar c = true)
    (hrest : ∀ c ∈ rest.head?, isNameChar c = false) :
    (own ++ rest).takeWhile isNameChar = own ∧ (own ++ rest).dropWhile isNameChar = rest := by
  rw [List.takeWhile_append_of_pos hown, List.dropWhile_append_of_pos hown]
  cases rest with
  | nil => simp
  | cons c rest => simp [hrest c rfl]

theorem flat?_name_append {name : String} (h : IsName name)
    (hrest : ∀ c ∈ rest.head?, isNameChar c = false ∧ c ≠ '(') :
    flat? (name.toList ++ rest) =
      (flat? rest).map fun targets => { analyzer := name } :: targets := by
  obtain ⟨first, own, hname, hfirst, hown⟩ := h
  obtain ⟨htake, hdrop⟩ := takeWhile_name hown fun c hc => (hrest c hc).1
  have hopen : rest.head? ≠ some '(' := fun hopen => (hrest '(' hopen).2 rfl
  rw [hname, List.cons_append, flat?_cons_name hfirst hdrop hopen, htake, ← hname,
    String.ofList_toList]

theorem flat?_name_group {name : String} (h : IsName name) {inside : List Char}
    (hinside : ∀ c ∈ inside, c ≠ '(' ∧ c ≠ ')') :
    flat? (name.toList ++ '(' :: (inside ++ ')' :: rest)) =
      (flat? rest).map fun targets => targetsOf name inside ++ targets := by
  obtain ⟨first, own, hname, hfirst, hown⟩ := h
  have hopen : ∀ c ∈ ('(' :: (inside ++ ')' :: rest)).head?, isNameChar c = false := by
    intro c hc
    obtain rfl := Option.some.inj hc
    decide
  obtain ⟨htake, hdrop⟩ := takeWhile_name hown hopen
  rw [hname, List.cons_append, flat?_cons_group hfirst hdrop (group?_append hinside rest), htake,
    ← hname, String.ofList_toList]

end Names

theorem flat?_cons_of_not_isNameChar {c : Char} (hname : isNameChar c = false) (hopen : c ≠ '(')
    (rest : List Char) : flat? (c :: rest) = flat? rest := by
  have hstart : ¬ isNameStart c = true := by
    intro hstart
    rw [isNameChar_of_isNameStart hstart] at hname
    exact nomatch hname
  rw [flat?, if_neg hstart, if_neg hopen, if_neg (by simp [hname])]

theorem flat?_separator (rest : List Char) : flat? (", ".toList ++ rest) = flat? rest := by
  change flat? (',' :: ' ' :: rest) = flat? rest
  rw [flat?_cons_of_not_isNameChar (by decide) (by decide),
    flat?_cons_of_not_isNameChar (by decide) (by decide)]

/-- A target is written as a text, which is read as the target if nothing follows that could belong
to its name. -/
theorem flat?_format_append {target : Target} (h : target.IsFlat) :
    ∃ written : String, target.format = written ∧ ∀ rest : List Char,
      (∀ c ∈ rest.head?, isNameChar c = false ∧ c ≠ '(') →
      flat? (written.toList ++ rest) = (flat? rest).map fun targets => target :: targets := by
  obtain ⟨analyzer, rule, ruleFirst⟩ := target
  obtain rfl : ruleFirst = false := h.ruleFirst
  obtain ⟨name, rfl : analyzer = name, hname⟩ := h.analyzer
  cases rule with
  | none => exact ⟨name, rfl, fun rest hrest => flat?_name_append hname hrest⟩
  | some rule =>
      obtain ⟨rule, rfl, hrule⟩ := h.rule rule rfl
      have hinside : ∀ c ∈ rule.toList, c ≠ '(' ∧ c ≠ ')' :=
        fun c hc => ⟨(hrule.chars c hc).1, (hrule.chars c hc).2.1⟩
      refine ⟨name ++ "(" ++ rule ++ ")", rfl, fun rest hrest => ?_⟩
      have hwritten : (name ++ "(" ++ rule ++ ")").toList ++ rest =
          name.toList ++ '(' :: (rule.toList ++ ')' :: rest) := by
        simp
      rw [hwritten, flat?_name_group hname hinside, targetsOf_of_isRule name hrule]
      rfl

theorem flat?_join {targets : Targets} (h : ∀ target ∈ targets, target.IsFlat) :
    ∃ written : String, Wide.join ", " (targets.map Target.format) = written ∧
      flat? written.toList = some targets := by
  induction targets with
  | nil => exact ⟨"", rfl, by simp [flat?]⟩
  | cons target rest ih =>
      obtain ⟨htarget, hrest⟩ := List.forall_mem_cons.mp h
      obtain ⟨first, hfirst, hread⟩ := flat?_format_append htarget
      obtain ⟨others, hothers, hlater⟩ := ih hrest
      cases rest with
      | nil =>
          refine ⟨first, hfirst, ?_⟩
          rw [← List.append_nil first.toList, hread [] (by simp), flat?]
          rfl
      | cons next rest =>
          refine ⟨first ++ ", " ++ others, ?_, ?_⟩
          · rw [List.map_cons, List.map_cons, Wide.join, ← List.map_cons, hothers, hfirst]
            · rfl
            · exact List.cons_ne_nil _ _
          · rw [String.toList_append, String.toList_append, List.append_assoc,
              hread _ (by simp; decide), flat?_separator, hlater]
            rfl

theorem flat?_format {text : List Char} {targets : Targets} (h : flat? text = some targets)
    (hne : targets ≠ []) : ∃ written : String, Targets.format targets = written ∧
      flat? written.toList = some targets := by
  have hflat : ∀ target ∈ targets, target.IsFlat := isFlat_of_flat? h
  cases targets with
  | nil => exact absurd rfl hne
  | cons target rest => exact flat?_join hflat

/-- The flat grammar takes the text for the targets, or for another list of every analyzer. -/
def Denotes (text : Wide) (targets : Targets) : Prop :=
  ∃ (written : String) (again : Targets), text = written ∧ flat? written.toList = some again ∧
    (again = targets ∨
      Targets.isWildcard targets = true ∧ Targets.isWildcard again = true ∧
        Targets.key again = Targets.key targets)

theorem exists_flat?_format_nil :
    ∃ (written : String) (again : Targets), Targets.format [] = written ∧
      flat? written.toList = some again ∧ Targets.isWildcard again = true ∧
      Targets.key again = Targets.key [] :=
  ⟨"all", [{ analyzer := Target.wildcard }], by decide +kernel⟩

theorem denotes_format {text : List Char} {targets : Targets} (h : flat? text = some targets) :
    Denotes (Targets.format targets) targets := by
  by_cases hempty : targets = []
  · subst hempty
    obtain ⟨written, again, hwritten, hagain, hwildcard, hkey⟩ := exists_flat?_format_nil
    exact ⟨written, again, hwritten, hagain, Or.inr ⟨rfl, hwildcard, hkey⟩⟩
  · obtain ⟨written, hwritten, hagain⟩ := flat?_format h hempty
    exact ⟨written, targets, hwritten, hagain, Or.inl rfl⟩

theorem Denotes.blank {text : Wide} {targets : Targets} (h : Denotes text targets) :
    Denotes (" " ++ text) targets := by
  obtain ⟨written, again, rfl, hagain, htargets⟩ := h
  refine ⟨" " ++ written, again, rfl, ?_, htargets⟩
  rw [← hagain, String.toList_append]
  exact flat?_cons_of_not_isNameChar (by decide) (by decide) written.toList

theorem denotes_empty {targets : Targets} (h : Targets.isWildcard targets = true) :
    Denotes "" targets := by
  have hkey : Targets.key [] = Targets.key targets := by
    rw [Targets.key, Targets.key, if_pos h]
    rfl
  exact ⟨"", [], rfl, by simp [flat?], Or.inr ⟨h, rfl, hkey⟩⟩

end Grammar

namespace PairingProblem

variable {problem : PairingProblem} {directive : LineDirective}

/-- The problem has the line and the targets of the directive. -/
inductive IsOf (directive : LineDirective) : PairingProblem → Prop
  | duplicateStart (hkind : directive.kind = .start) (openSince : Number) :
      IsOf directive (.duplicateStart directive.line directive.targets openSince)
  | unmatchedStop (hkind : directive.kind = .stop) :
      IsOf directive (.unmatchedStop directive.line directive.targets)

/-- The message gives the line and the kind of the directive and, between fixed words, a text that
denotes its targets. -/
def Tells (problem : PairingProblem) (directive : LineDirective) : Prop :=
  ∃ shown words, Grammar.Denotes shown directive.targets ∧
    (∀ file, problem.message file =
      reportLabel ++ " " ++ file ++ ":" ++ directive.line.text ++ " -> " ++ words) ∧
    ((directive.kind = .start ∧ ∃ since : Number,
        words = "duplicate start ignoring" ++ shown ++
          " (already open since line " ++ since.text ++ ")") ∨
      (directive.kind = .stop ∧
        words = "stop ignoring" ++ shown ++ " without matching start ignoring"))

theorem IsOf.tells (h : IsOf directive problem) {text : List Char}
    (hflat : Grammar.flat? text = some directive.targets) : problem.Tells directive := by
  have hformat := (Grammar.denotes_format hflat).blank
  cases h with
  | duplicateStart hkind openSince =>
      refine ⟨_, _, hformat, fun file => ?_, Or.inl ⟨hkind, openSince, rfl⟩⟩
      simp [message, Wide.append_assoc, String.append_assoc]
  | unmatchedStop hkind =>
      by_cases hwildcard : Targets.isWildcard directive.targets = true
      · refine ⟨_, _, Grammar.denotes_empty hwildcard, fun file => ?_, Or.inr ⟨hkind, rfl⟩⟩
        simp [message, hwildcard, Wide.append_assoc, String.append_assoc]
      · refine ⟨_, _, hformat, fun file => ?_, Or.inr ⟨hkind, rfl⟩⟩
        simp [message, hwildcard, Wide.append_assoc, String.append_assoc]

end PairingProblem

namespace Pairing

variable {problem : PairingProblem} {directive : LineDirective}

theorem isOf_of_step {starts : List OpenStart} (h : (step starts directive).2 = some problem) :
    problem.IsOf directive := by
  cases hkind : directive.kind with
  | inline => simp [step, hkind] at h
  | start =>
      simp only [step, hkind] at h
      split at h
      · obtain rfl := Option.some.inj h
        exact .duplicateStart hkind _
      · exact nomatch h
  | stop =>
      simp only [step, hkind] at h
      split at h
      · exact nomatch h
      · obtain rfl := Option.some.inj h
        exact .unmatchedStop hkind

/-- The run lemma: the messages tell some of the directives, in the same order. -/
theorem exists_told {directives : List LineDirective}
    (hflat : ∀ directive ∈ directives, ∃ text, Grammar.flat? text = some directive.targets)
    (starts : List OpenStart) :
    ∃ told, List.Sublist told directives ∧
      List.Forall₂ PairingProblem.Tells (problemsFrom starts directives) told := by
  induction directives generalizing starts with
  | nil => exact ⟨[], List.Sublist.refl _, .nil⟩
  | cons directive rest ih =>
      obtain ⟨⟨text, htext⟩, hrest⟩ := List.forall_mem_cons.mp hflat
      obtain ⟨told, hsublist, hlater⟩ := ih hrest (step starts directive).1
      cases hproblem : (step starts directive).2 with
      | none =>
          refine ⟨told, hsublist.cons directive, ?_⟩
          simpa [problemsFrom, hproblem] using hlater
      | some problem =>
          have hown := (isOf_of_step hproblem).tells htext
          refine ⟨directive :: told, hsublist.cons_cons directive, ?_⟩
          simpa [problemsFrom, hproblem] using And.intro hown hlater

end Pairing

namespace Targets

/-- Formatted targets are read as the targets they were, in their order and spelling; no targets
are read as a list of every analyzer. So the messages of the pairing check tell, one by one, the
directives that do not pair up. -/
theorem format_spec :
    (∀ text targets, Grammar.flat? text = some targets →
      (targets ≠ [] → ∃ written : String, format targets = written ∧
        Grammar.flat? written.toList = some targets) ∧
      (targets = [] → ∃ (written : String) (again : Targets), format targets = written ∧
        Grammar.flat? written.toList = some again ∧ isWildcard again = true ∧
        key again = key targets)) ∧
    ∀ directives : List LineDirective,
      (∀ directive ∈ directives, ∃ text, Grammar.flat? text = some directive.targets) →
      ∃ told, List.Sublist told directives ∧
        List.Forall₂ PairingProblem.Tells (Pairing.problems directives) told := by
  constructor
  · intro text targets h
    constructor
    · exact Grammar.flat?_format h
    · rintro rfl
      exact Grammar.exists_flat?_format_nil
  · intro directives hflat
    exact Pairing.exists_told hflat []

theorem format_spec_rules :
    let targets : Targets :=
      [{ analyzer := "flake8", rule := some "E501" }, { analyzer := "Flake8", rule := some "a b" },
        { analyzer := "pylint" }]
    let stop : LineDirective := ⟨⟨.stop, targets⟩, .ofNat 3⟩
    Grammar.flat? " flake8(E501) Flake8(, a b ) - pylint".toList = some targets ∧
      (∃ written : String, format targets = written ∧
        Grammar.flat? written.toList = some targets) ∧
      (∃ (written : String) (again : Targets), format [] = written ∧
        Grammar.flat? written.toList = some again ∧ isWildcard again = true ∧
        key again = key []) ∧
      ∃ told, List.Sublist told [stop] ∧
        List.Forall₂ PairingProblem.Tells (Pairing.problems [stop]) told := by
  intro targets stop
  have hflat : Grammar.flat? " flake8(E501) Flake8(, a b ) - pylint".toList = some targets := by
    decide +kernel
  refine ⟨hflat, (format_spec.1 _ targets hflat).1 (by decide), ?_, ?_⟩
  · exact (format_spec.1 [] [] (by decide +kernel)).2 rfl
  · apply format_spec.2 [stop]
    intro directive hmem
    obtain rfl := List.mem_singleton.mp hmem
    exact ⟨_, hflat⟩

end Targets

end Suppression
