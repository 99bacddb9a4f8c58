import Suppression.Proofs.ArgumentPlace
import Suppression.Proofs.TypedNumber

namespace Suppression

open Reading
open ArgumentPlace (Leads after leads_iff leads_append)

/-- Something that is asked for on a command line. -/
inductive Wish where
  | flag (flag : Flag)
  | setting (setting : Setting) (value : String)

namespace Wish

def option : Wish → CommandOption
  | flag f => .flag f
  | setting s _ => .setting s

/-- The spellings of a wish: by the letter or by the word, and a value apart or, after the word and
an equals sign, in the same argument. -/
inductive Spelled : Wish → List String → Prop
  | letter (f : Flag) : Spelled (flag f) [String.ofList ['-', f.names.1]]
  | word (f : Flag) : Spelled (flag f) [f.names.2]
  | short (s : Setting) (value : String) : Spelled (setting s value) [s.short, value]
  | long (s : Setting) (value : String) : Spelled (setting s value) [s.long, value]
  | assigned (s : Setting) (value : String) : Spelled (setting s value) [s.long ++ "=" ++ value]

theorem exists_spelled : ∀ wish : Wish, ∃ arguments, wish.Spelled arguments
  | flag f => ⟨_, .word f⟩
  | setting s value => ⟨_, .assigned s value⟩

/-- How the spellings of a wish are read. -/
inductive Read : Wish → List String → Prop
  | flag {f : Flag} {argument : String} : split argument = ([], argument) →
      ofArgument argument = .flag f → Read (flag f) [argument]
  | apart {s : Setting} {argument : String} (value : String) : split argument = ([], argument) →
      ofArgument argument = .setting s → Read (setting s value) [argument, value]
  | joined {s : Setting} {argument value : String} : split argument = ([], argument) →
      ofArgument argument = .assigned s value → Read (setting s value) [argument]

variable {wish : Wish} {arguments : List String}

theorem toList_assigned (s : Setting) (value : String) : (s.long ++ "=" ++ value).toList =
    '-' :: '-' :: (s.long.toList.drop 2 ++ '=' :: value.toList) := by
  cases s <;> simp [Setting.long, Setting.names]

theorem split_assigned (s : Setting) (value : String) :
    split (s.long ++ "=" ++ value) = ([], s.long ++ "=" ++ value) := by
  have hcluster := splitCluster_append [] ofLetter?_hyphen
    (s.long.toList.drop 2 ++ '=' :: value.toList)
  rw [List.map_nil, List.nil_append] at hcluster
  simp only [split, toList_assigned, hcluster]
  rw [← toList_assigned, String.ofList_toList]

theorem equals_not_mem_names (option : CommandOption) :
    '=' ∉ option.names.2.toList ∧ '=' ∉ ['-', option.names.1] := by
  rcases option with (_ | _ | _) | (_ | _ | _) <;> decide

theorem ofAssignment?_assigned (s : Setting) (value : String) :
    ofAssignment? (s.long.toList ++ '=' :: value.toList) = some (.assigned s value) := by
  have hword : ∀ c ∈ s.long.toList, (c != '=') = true := by
    intro c hc
    rw [bne_iff_ne]
    rintro rfl
    exact (equals_not_mem_names (.setting s)).1 hc
  have hfind : (Setting.all.find? fun other => other.long.toList == s.long.toList) = some s := by
    cases s <;> decide
  rw [ofAssignment?, List.takeWhile_append_of_pos hword, List.dropWhile_append_of_pos hword]
  simp [hfind]

theorem ofArgument_assigned (s : Setting) (value : String) :
    ofArgument (s.long ++ "=" ++ value) = .assigned s value := by
  have hmem : '=' ∈ (s.long ++ "=" ++ value).toList := by simp
  have hend : s.long ++ "=" ++ value ≠ "--" := by
    intro heq
    rw [heq] at hmem
    exact absurd hmem (by decide)
  have hoption : CommandOption.ofArgument? (s.long ++ "=" ++ value) = none := by
    refine List.find?_eq_none.mpr fun option _ heq => ?_
    rw [Bool.or_eq_true, beq_iff_eq, beq_iff_eq] at heq
    rcases heq with heq | heq
    · exact (equals_not_mem_names option).1 (heq ▸ hmem)
    · rw [heq, String.toList_ofList] at hmem
      exact (equals_not_mem_names option).2 hmem
  have hshort : ofShort? (s.long ++ "=" ++ value).toList = none := by
    rw [toList_assigned]
    cases s <;> rfl
  have hassigned : ofAssignment? (s.long ++ "=" ++ value).toList = some (.assigned s value) := by
    have hlist : (s.long ++ "=" ++ value).toList = s.long.toList ++ '=' :: value.toList := by simp
    rw [hlist, ofAssignment?_assigned]
  simp only [ofArgument, if_neg hend, hoption, hshort, hassigned, Option.none_or]

theorem Spelled.read (h : wish.Spelled arguments) : wish.Read arguments := by
  cases h with
  | letter f => cases f <;> exact .flag rfl rfl
  | word f => cases f <;> exact .flag rfl rfl
  | short s value => exact .apart value (by cases s <;> rfl) (ofArgument_short s)
  | long s value => exact .apart value (by cases s <;> rfl) (ofArgument_long s)
  | assigned s value => exact .joined (split_assigned s value) (ofArgument_assigned s value)

theorem Read.leads (h : wish.Read arguments) : Leads .option arguments .option := by
  cases h with
  | flag hsplit hread => exact leads_iff.mpr (by simp [after, hsplit, hread])
  | apart value hsplit hread => exact leads_iff.mpr (by simp [after, hsplit, hread])
  | joined hsplit hread => exact leads_iff.mpr (by simp [after, hsplit, hread])

def Holds (choice : Choice) : Wish → Prop
  | flag .warn => choice.warn = true
  | flag .help => choice.help = true
  | flag .verbose => choice.verbose = true
  | setting .parallelism value => choice.parallelism = Number.ofText value
  | setting .cache value => choice.cache = some value
  | setting .scan value => choice.scan = some value

end Wish

namespace Choice

/-- The choices are the same in what an option is about. -/
def AgreesOn (first second : Choice) : CommandOption → Prop
  | .flag .warn => first.warn = second.warn
  | .flag .help => first.help = second.help
  | .flag .verbose => first.verbose = second.verbose
  | .setting .parallelism => first.parallelism = second.parallelism
  | .setting .cache => first.cache = second.cache
  | .setting .scan => first.scan = second.scan

/-- Every wish holds of the choice, and of what no wish is about, the choice has the default. -/
structure IsAsked (choice : Choice) (wishes : List Wish) : Prop where
  holds : ∀ wish ∈ wishes, wish.Holds choice
  default : ∀ option, (∀ wish ∈ wishes, wish.option ≠ option) → AgreesOn {} choice option

/-- The file of diagnostics, if there is one, stands after `--`. -/
def operands (choice : Choice) : List String :=
  match choice.diagnostics with
  | none => []
  | some file => ["--", file]

/-- The arguments spell wishes, in any order, that ask for the choice, and then its operands. -/
def SpelledBy (choice : Choice) (arguments : List String) : Prop :=
  ∃ wishes spellings, choice.IsAsked wishes ∧ List.Forall₂ Wish.Spelled wishes spellings ∧
    arguments = spellings.flatten ++ choice.operands

/-- A choice with what an option is about taken from the goal. -/
def take (goal choice : Choice) : CommandOption → Choice
  | .flag .warn => { choice with warn := goal.warn }
  | .flag .help => { choice with help := goal.help }
  | .flag .verbose => { choice with verbose := goal.verbose }
  | .setting .parallelism => { choice with parallelism := goal.parallelism }
  | .setting .cache => { choice with cache := goal.cache }
  | .setting .scan => { choice with scan := goal.scan }

variable {goal choice : Choice} {option : CommandOption}

theorem take_diagnostics (goal choice : Choice) (option : CommandOption) :
    (goal.take choice option).diagnostics = choice.diagnostics := by
  rcases option with (_ | _ | _) | (_ | _ | _) <;> rfl

theorem agreesOn_take_self (goal choice : Choice) (option : CommandOption) :
    (goal.take choice option).AgreesOn goal option := by
  rcases option with (_ | _ | _) | (_ | _ | _) <;> rfl

theorem AgreesOn.take (h : choice.AgreesOn goal option) (other : CommandOption) :
    (goal.take choice other).AgreesOn goal option := by
  by_cases heq : other = option
  · rw [heq]
    exact agreesOn_take_self goal choice option
  · rcases other with (_ | _ | _) | (_ | _ | _) <;> rcases option with (_ | _ | _) | (_ | _ | _) <;>
      first | exact h | exact absurd rfl heq

theorem foldl_take_diagnostics (goal choice : Choice) (options : List CommandOption) :
    (options.foldl goal.take choice).diagnostics = choice.diagnostics := by
  induction options generalizing choice with
  | nil => rfl
  | cons first rest ih => rw [List.foldl_cons, ih, take_diagnostics]

theorem agreesOn_foldl_take {options : List CommandOption}
    (h : option ∈ options ∨ choice.AgreesOn goal option) :
    (options.foldl goal.take choice).AgreesOn goal option := by
  induction options generalizing choice with
  | nil => exact h.resolve_left List.not_mem_nil
  | cons first rest ih =>
      refine ih ?_
      rcases h with hmem | hagrees
      · rcases List.mem_cons.mp hmem with rfl | hrest
        · exact Or.inr (agreesOn_take_self goal choice option)
        · exact Or.inl hrest
      · exact Or.inr (hagrees.take first)

theorem eq_of_agreesOn (h : ∀ option, choice.AgreesOn goal option)
    (hnone : choice.diagnostics = none) : choice = { goal with diagnostics := none } := by
  have hwarn : choice.warn = goal.warn := h (.flag .warn)
  have hhelp : choice.help = goal.help := h (.flag .help)
  have hverbose : choice.verbose = goal.verbose := h (.flag .verbose)
  have hparallelism : choice.parallelism = goal.parallelism := h (.setting .parallelism)
  have hcache : choice.cache = goal.cache := h (.setting .cache)
  have hscan : choice.scan = goal.scan := h (.setting .scan)
  cases choice
  simp_all

theorem IsAsked.foldl_take {wishes : List Wish} (h : goal.IsAsked wishes) :
    (wishes.map Wish.option).foldl goal.take {} = { goal with diagnostics := none } := by
  refine eq_of_agreesOn (fun option => agreesOn_foldl_take ?_) (foldl_take_diagnostics ..)
  by_cases hmem : option ∈ wishes.map Wish.option
  · exact Or.inl hmem
  · refine Or.inr (h.default option fun wish hwish heq => hmem ?_)
    exact List.mem_map.mpr ⟨wish, hwish, heq⟩

theorem set_flag_eq_take {f : Flag} (hholds : (Wish.flag f).Holds goal) (choice : Choice) :
    f.set choice = goal.take choice (.flag f) := by
  cases f with
  | warn => exact congrArg (fun warn => { choice with warn }) hholds.symm
  | help => exact congrArg (fun help => { choice with help }) hholds.symm
  | verbose => exact congrArg (fun verbose => { choice with verbose }) hholds.symm

theorem set_setting_eq_take {s : Setting} {value : String}
    (hholds : (Wish.setting s value).Holds goal) (hinteger : goal.parallelism.isInteger = true)
    (hleast : ¬ goal.parallelism < .finite (-1)) (choice : Choice) :
    s.set choice value = .ok (goal.take choice (.setting s)) := by
  cases s with
  | parallelism =>
      have hvalue : goal.parallelism = Number.ofText value := hholds
      rw [hvalue] at hinteger hleast
      simp [Setting.set, take, hvalue, hinteger, hleast]
  | cache =>
      have hvalue : goal.cache = some value := hholds
      rw [take, hvalue]
      rfl
  | scan =>
      have hvalue : goal.scan = some value := hholds
      rw [take, hvalue]
      rfl

def wishes (choice : Choice) : List Wish :=
  (if choice.warn then [.flag .warn] else []) ++ (if choice.help then [.flag .help] else []) ++
    (if choice.verbose then [.flag .verbose] else []) ++
    [.setting .parallelism choice.parallelism.text] ++
    choice.cache.toList.map (.setting .cache) ++ choice.scan.toList.map (.setting .scan)

theorem mem_wishes {wish : Wish} : wish ∈ choice.wishes ↔ match wish with
    | .setting .parallelism value => value = choice.parallelism.text
    | _ => wish.Holds choice := by
  rcases wish with (_ | _ | _) | ⟨_ | _ | _, value⟩ <;>
    simp [wishes, Wish.Holds]

theorem isAsked_wishes (h : Number.ofText choice.parallelism.text = choice.parallelism) :
    choice.IsAsked choice.wishes := by
  constructor
  · intro wish hmem
    rw [mem_wishes] at hmem
    split at hmem
    · rw [hmem]
      exact h.symm
    · exact hmem
  · intro option hunasked
    have hnone (wish : Wish) (heq : wish.option = option) : wish ∉ choice.wishes :=
      fun hmem => hunasked wish hmem heq
    simp only [mem_wishes] at hnone
    rcases option with (_ | _ | _) | (_ | _ | _)
    · exact (Bool.eq_false_iff.mpr (hnone (.flag .warn) rfl)).symm
    · exact (Bool.eq_false_iff.mpr (hnone (.flag .help) rfl)).symm
    · exact (Bool.eq_false_iff.mpr (hnone (.flag .verbose) rfl)).symm
    · exact absurd rfl (hnone (.setting .parallelism _) rfl)
    · exact (Option.eq_none_iff_forall_ne_some.mpr fun value =>
        hnone (.setting .cache value) rfl).symm
    · exact (Option.eq_none_iff_forall_ne_some.mpr fun value =>
        hnone (.setting .scan value) rfl).symm

theorem exists_spelledBy (choice : Choice) (hheld : choice.parallelism.IsHeld)
    (hinteger : choice.parallelism.isInteger = true) (hleast : .finite (-1) ≤ choice.parallelism) :
    ∃ arguments, choice.SpelledBy arguments := by
  obtain ⟨spellings, hspelled⟩ :
      ∃ spellings, List.Forall₂ Wish.Spelled choice.wishes spellings := by
    induction choice.wishes with
    | nil => exact ⟨[], .nil⟩
    | cons wish wishes ih =>
        obtain ⟨arguments, hfirst⟩ := wish.exists_spelled
        obtain ⟨spellings, hrest⟩ := ih
        exact ⟨arguments :: spellings, .cons hfirst hrest⟩
  have hasked := isAsked_wishes (Number.ofText_text hheld hinteger hleast)
  exact ⟨_, choice.wishes, spellings, hasked, hspelled, rfl⟩

end Choice

namespace CommandLine

variable {goal : Choice} {wish : Wish} {arguments : List String}

theorem readFrom_wish (hread : wish.Read arguments) (hholds : wish.Holds goal)
    (hinteger : goal.parallelism.isInteger = true) (hleast : ¬ goal.parallelism < .finite (-1))
    (r : Reckoning) (rest : List String) : readFrom r (arguments ++ rest) =
      readFrom { r with choice := goal.take r.choice wish.option } rest := by
  cases hread with
  | flag hsplit hread =>
      simp [readFrom, hsplit, hread, setAll, Choice.set_flag_eq_take hholds, Wish.option]
  | apart value hsplit hread =>
      have hset := Choice.set_setting_eq_take hholds hinteger hleast r.choice
      simp [readFrom, hsplit, hread, setAll, hset, Wish.option]
  | joined hsplit hread =>
      have hset := Choice.set_setting_eq_take hholds hinteger hleast r.choice
      simp [readFrom, hsplit, hread, setAll, hset, Wish.option]

theorem readFrom_wishes {wishes : List Wish} {spellings : List (List String)}
    (hspelled : List.Forall₂ Wish.Spelled wishes spellings)
    (hholds : ∀ wish ∈ wishes, wish.Holds goal)
    (hinteger : goal.parallelism.isInteger = true) (hleast : ¬ goal.parallelism < .finite (-1))
    (r : Reckoning) (rest : List String) : readFrom r (spellings.flatten ++ rest) =
      readFrom { r with choice := (wishes.map Wish.option).foldl goal.take r.choice } rest := by
  induction hspelled generalizing r with
  | nil => rfl
  | cons hfirst _ ih =>
      obtain ⟨hown, hothers⟩ := List.forall_mem_cons.mp hholds
      rw [List.flatten_cons, List.append_assoc, readFrom_wish hfirst.read hown hinteger hleast,
        ih hothers]
      rfl

theorem readFrom_operands (choice goal : Choice) :
    readFrom { choice } goal.operands =
      .ok { choice, plain := goal.diagnostics.toList } := by
  rw [Choice.operands]
  cases goal.diagnostics <;> rfl

theorem readFrom_spelled {choice : Choice} (h : choice.SpelledBy arguments)
    (hinteger : choice.parallelism.isInteger = true)
    (hleast : ¬ choice.parallelism < .finite (-1)) : readFrom {} arguments = .ok {
      choice := { choice with diagnostics := none }
      plain := choice.diagnostics.toList } := by
  obtain ⟨wishes, spellings, hasked, hspelled, rfl⟩ := h
  rw [readFrom_wishes hspelled hasked.holds hinteger hleast, hasked.foldl_take, readFrom_operands]

/-- The order of the checks: what the last argument spells, then the reading, then options that are
not known, then the operands. -/
theorem parse_eq (arguments : List String) : parse arguments =
    match danglingSetting? arguments with
    | some s => .error (.missingValue s)
    | none =>
      match readFrom {} arguments with
      | .error e => .error e
      | .ok r =>
        match r.unknown, r.plain with
        | some argument, _ => .error (.unknownOption argument)
        | none, [] => .ok r.choice
        | none, [file] => .ok { r.choice with diagnostics := some file }
        | none, _ => .error .tooManyArguments := by
  rw [parse]
  cases danglingSetting? arguments with
  | some s => rfl
  | none =>
      cases readFrom {} arguments with
      | error e => rfl
      | ok r =>
          rcases r with ⟨choice, _ | argument, _ | ⟨file, _ | ⟨other, more⟩⟩⟩ <;> rfl

theorem parse_of_readFrom {choice : Choice} (hdangling : danglingSetting? arguments = none)
    (hread : readFrom {} arguments = .ok {
      choice := { choice with diagnostics := none }
      plain := choice.diagnostics.toList }) : parse arguments = .ok choice := by
  rw [parse_eq, hdangling, hread]
  rcases choice with ⟨warn, help, verbose, parallelism, cache, scan, _ | file⟩ <;> rfl

theorem not_lacksValue_of_spelledBy {choice : Choice} (h : choice.SpelledBy arguments)
    (s : Setting) : ¬ s.LacksValue arguments := by
  obtain ⟨wishes, spellings, -, hspelled, rfl⟩ := h
  have hwishes : Leads .option spellings.flatten .option := by
    induction hspelled with
    | nil => exact .nil .option
    | cons hfirst _ ih => exact leads_append.mpr ⟨.option, hfirst.read.leads, ih⟩
  intro hlacks
  obtain ⟨place, hplace, hoperands⟩ := leads_append.mp hlacks
  obtain rfl : place = .option := hplace.unique hwishes
  rw [Choice.operands] at hoperands
  cases hdiagnostics : choice.diagnostics with
  | none =>
      rw [hdiagnostics] at hoperands
      exact nomatch hoperands
  | some file =>
      rw [hdiagnostics, leads_iff] at hoperands
      exact nomatch hoperands

theorem parse_error {error : UsageError} (h : parse arguments = .error error) :
    (∃ s, danglingSetting? arguments = some s ∧ error = .missingValue s) ∨
      readFrom {} arguments = .error error ∨ (∃ argument, error = .unknownOption argument) ∨
        error = .tooManyArguments := by
  rw [parse_eq] at h
  cases hdangling : danglingSetting? arguments with
  | some s =>
      rw [hdangling] at h
      exact Or.inl ⟨s, rfl, (Except.error.inj h).symm⟩
  | none =>
      rw [hdangling] at h
      cases hread : readFrom {} arguments with
      | error e =>
          simp only [hread] at h
          obtain rfl := Except.error.inj h
          exact Or.inr (Or.inl rfl)
      | ok r =>
          simp only [hread] at h
          split at h
          · exact Or.inr (Or.inr (Or.inl ⟨_, (Except.error.inj h).symm⟩))
          · exact nomatch h
          · exact nomatch h
          · exact Or.inr (Or.inr (Or.inr (Except.error.inj h).symm))

theorem lacksValue_or_isMistaken_of_parse {error : UsageError} {s : Setting}
    (h : error = .missingValue s ∨ error = .noArgument s)
    (hparse : parse arguments = .error error) :
    s.LacksValue arguments ∨ s.IsMistaken arguments := by
  rcases parse_error hparse with ⟨other, hdangling, rfl⟩ | hread | ⟨argument, rfl⟩ | rfl
  · obtain rfl : other = s := by simpa using h
    exact lacksValue_or_isMistaken hdangling
  · left
    cases breaks_of_readFrom hread with
    | badParallelism value => simp at h
    | noArgument hlacks =>
        rw [or_iff_right (by simp), UsageError.noArgument.injEq] at h
        exact h ▸ hlacks
  · simp at h
  · simp at h

/-- Every choice can be spelled, and its spellings are read as it, unless the last argument is
mistaken for a setting. A missing value is reported only then and where a setting does lack its
value; and then always, although no setting lacks one. -/
theorem parse_spec (choice : Choice) (hheld : choice.parallelism.IsHeld)
    (hinteger : choice.parallelism.isInteger = true) (hleast : .finite (-1) ≤ choice.parallelism) :
    (∃ arguments, choice.SpelledBy arguments) ∧ ∀ arguments,
      (choice.SpelledBy arguments → (∀ s : Setting, ¬ s.IsMistaken arguments) →
        parse arguments = .ok choice) ∧
      (∀ s : Setting, parse arguments = .error (.missingValue s) ∨
          parse arguments = .error (.noArgument s) →
        s.LacksValue arguments ∨ s.IsMistaken arguments) ∧
      ∀ s : Setting, s.IsMistaken arguments →
        parse arguments = .error (.missingValue s) ∧
          ∀ other : Setting, ¬ other.LacksValue arguments := by
  refine ⟨choice.exists_spelledBy hheld hinteger hleast, fun arguments => ⟨?_, ?_, ?_⟩⟩
  · intro hspelled hmistaken
    have hread := readFrom_spelled hspelled hinteger (Number.not_lt_of_finite_le hleast)
    cases hdangling : danglingSetting? arguments with
    | none => exact parse_of_readFrom hdangling hread
    | some s =>
        rcases lacksValue_or_isMistaken hdangling with hlacks | hlast
        · exact absurd hlacks (not_lacksValue_of_spelledBy hspelled s)
        · exact absurd hlast (hmistaken s)
  · rintro s (herror | herror)
    · exact lacksValue_or_isMistaken_of_parse (Or.inl rfl) herror
    · exact lacksValue_or_isMistaken_of_parse (Or.inr rfl) herror
  · intro s hmistaken
    exact ⟨by rw [parse_eq, danglingSetting?_of_isMistaken hmistaken], hmistaken.not_lacksValue⟩

/-- Options in another order, and a file that is named like one. -/
theorem parse_spec_reordered :
    let choice : Choice :=
      { warn := true, parallelism := 16, cache := some "a b", diagnostics := some "-v" }
    let arguments := ["--cache=a b", "-p", "16", "-w", "--", "-v"]
    choice.SpelledBy arguments ∧ parse arguments = .ok choice := by
  intro choice arguments
  have hspelled : choice.SpelledBy arguments := by
    refine ⟨[.setting .cache "a b", .setting .parallelism "16", .flag .warn],
      [["--cache=a b"], ["-p", "16"], ["-w"]], ⟨?_, ?_⟩, ?_, rfl⟩
    · have hnumber : (16 : Number) = Number.ofText "16" := by decide +kernel
      simp [Wish.Holds, choice, hnumber]
    · rintro ((_ | _ | _) | (_ | _ | _)) hunasked <;>
        first | rfl | simp [Wish.option] at hunasked
    · exact .cons (.assigned .cache "a b") <| .cons (.short .parallelism "16") <|
        .cons (.letter .warn) .nil
  have hmistaken (s : Setting) : ¬ s.IsMistaken arguments := by
    have hnone : danglingSetting? arguments = none := by decide
    intro h
    exact nomatch hnone.symm.trans (danglingSetting?_of_isMistaken h)
  have hheld : choice.parallelism.IsHeld := Number.isHeld_ofNat (show 16 ≤ 2 ^ 53 by decide)
  obtain ⟨-, hparse⟩ := parse_spec choice hheld (by decide +kernel) (by decide +kernel)
  exact ⟨hspelled, (hparse arguments).1 hspelled hmistaken⟩

/-- A file of diagnostics that is named like a setting is mistaken for it. -/
theorem parse_operand_named_as_setting :
    ({ diagnostics := some "-p" } : Choice).SpelledBy ["--", "-p"] ∧
      parse ["--", "-p"] = .error (.missingValue .parallelism) ∧
        ∀ s : Setting, ¬ s.LacksValue ["--", "-p"] := by
  have hspelled : ({ diagnostics := some "-p" } : Choice).SpelledBy ["--", "-p"] := by
    refine ⟨[], [], ⟨by simp, ?_⟩, .nil, rfl⟩
    rintro ((_ | _ | _) | (_ | _ | _)) - <;> rfl
  exact ⟨hspelled, rfl, not_lacksValue_of_spelledBy hspelled⟩

end CommandLine

end Suppression
