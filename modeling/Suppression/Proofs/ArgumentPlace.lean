import Suppression.CommandLine

namespace Suppression

variable {setting : Setting} {argument word : String} {letter : Char}

namespace Reading

/-- The argument is the word, perhaps with letters of flags put after the hyphen that the word
starts with. -/
def Clusters (argument word : String) : Prop :=
  ∃ (flags : List Flag) (rest : List Char), word.toList = '-' :: rest ∧
    argument.toList = '-' :: (flags.map (fun flag => flag.names.1) ++ rest)

/-- The words by which the place of the next argument changes. -/
inductive IsTurn : String → Prop
  | ending : IsTurn "--"
  | short (setting : Setting) : IsTurn setting.short
  | long (setting : Setting) : IsTurn setting.long

theorem ofLetter?_eq_flag {flag : Flag} :
    CommandOption.ofLetter? letter = some (.flag flag) ↔ letter = flag.names.1 := by
  constructor
  · intro h
    have hletter := List.find?_some h
    exact (beq_iff_eq.mp hletter).symm
  · rintro rfl
    cases flag <;> rfl

theorem splitCluster_append (flags : List Flag)
    (h : ∀ flag, CommandOption.ofLetter? letter ≠ some (.flag flag)) (rest : List Char) :
    splitCluster (flags.map (fun flag => flag.names.1) ++ letter :: rest) =
      (flags, '-' :: letter :: rest) := by
  induction flags with
  | nil =>
      cases rest with
      | nil => rfl
      | cons next more =>
          rw [List.map_nil, List.nil_append, splitCluster]
          split
          · exact absurd ‹_› (h _)
          · rfl
  | cons flag flags ih =>
      obtain ⟨next, more, hmore⟩ := List.exists_cons_of_ne_nil
        (List.append_ne_nil_of_right_ne_nil (flags.map fun flag => flag.names.1)
          (List.cons_ne_nil letter rest))
      rw [List.map_cons, List.cons_append, hmore, splitCluster, ofLetter?_eq_flag.mpr rfl, ← hmore]
      simp only [ih]

theorem exists_splitCluster (letters : List Char) : ∃ more,
    (splitCluster letters).2 = '-' :: more ∧
      letters = (splitCluster letters).1.map (fun flag => flag.names.1) ++ more := by
  induction letters using splitCluster.induct with
  | case1 letter next more flag hflag _ _ _ ih =>
      obtain ⟨tail, hrest, hletters⟩ := ih
      rw [splitCluster, hflag]
      refine ⟨tail, hrest, ?_⟩
      rw [List.map_cons, List.cons_append, ← hletters, ofLetter?_eq_flag.mp hflag]
  | case2 letter next more hflag =>
      rw [splitCluster]
      split
      · exact absurd ‹_› (hflag _)
      · exact ⟨_, rfl, rfl⟩
  | case3 letters hshort =>
      rw [splitCluster]
      · exact ⟨letters, rfl, rfl⟩
      · exact hshort

theorem ofLetter?_hyphen (flag : Flag) : CommandOption.ofLetter? '-' ≠ some (.flag flag) := by
  cases flag <;> decide

theorem IsTurn.exists_letter (h : IsTurn word) : ∃ letter rest,
    word.toList = '-' :: letter :: rest ∧
      ∀ flag, CommandOption.ofLetter? letter ≠ some (.flag flag) := by
  cases h with
  | ending => exact ⟨'-', [], rfl, ofLetter?_hyphen⟩
  | short setting =>
      refine ⟨setting.names.1, [], String.toList_ofList, fun flag => ?_⟩
      cases setting <;> cases flag <;> decide
  | long setting =>
      refine ⟨'-', setting.long.toList.drop 2, ?_, ofLetter?_hyphen⟩
      cases setting <;> rfl

theorem Clusters.split_eq (h : Clusters argument word) (hturn : IsTurn word) :
    (split argument).2 = word := by
  obtain ⟨letter, rest, hword, hletter⟩ := hturn.exists_letter
  obtain ⟨flags, more, hmore, hargument⟩ := h
  obtain rfl : more = letter :: rest := (List.cons.inj (hmore.symm.trans hword)).2
  simp only [split, hargument, splitCluster_append flags hletter rest]
  rw [← hword, String.ofList_toList]

theorem clusters_of_split (h : (split argument).2 = word) (hturn : IsTurn word) :
    Clusters argument word := by
  obtain ⟨letter, rest, hword, -⟩ := hturn.exists_letter
  rw [split] at h
  split at h
  case h_1 letters hargument =>
    obtain ⟨more, hmore, hletters⟩ := exists_splitCluster letters
    have hlist : word.toList = '-' :: more := by
      rw [← h, ← hmore]
      exact String.toList_ofList
    exact ⟨_, more, hlist, by rw [hargument, ← hletters]⟩
  case h_2 hplain =>
    rw [← h] at hword
    exact absurd hword (hplain _)

theorem ofShort?_eq {chars : List Char} {reading : Reading} (h : ofShort? chars = some reading) :
    ∃ setting value, reading = .assigned setting value := by
  unfold ofShort? at h
  split at h
  · split at h
    · exact ⟨_, _, (Option.some.inj h).symm⟩
    · exact nomatch h
  · exact nomatch h

theorem ofAssignment?_eq {chars : List Char} {reading : Reading}
    (h : ofAssignment? chars = some reading) :
    ∃ setting value, reading = .assigned setting value := by
  unfold ofAssignment? at h
  split at h
  · obtain ⟨setting, -, hreading⟩ := Option.map_eq_some_iff.mp h
    exact ⟨_, _, hreading.symm⟩
  · exact nomatch h

theorem ofArgument_cases (word : String) :
    (word = "--" ∧ ofArgument word = .endOfOptions) ∨
      (∃ setting : Setting, (word = setting.short ∨ word = setting.long) ∧
        ofArgument word = .setting setting) ∨
      (∀ setting, ofArgument word ≠ .setting setting) ∧ ofArgument word ≠ .endOfOptions := by
  unfold ofArgument
  by_cases hend : word = "--"
  · exact Or.inl ⟨hend, by rw [if_pos hend]⟩
  · simp only [if_neg hend]
    right
    cases hoption : CommandOption.ofArgument? word with
    | some option =>
        cases option with
        | flag flag => exact Or.inr (by simp)
        | setting setting =>
            have hname := List.find?_some hoption
            rw [Bool.or_eq_true, beq_iff_eq, beq_iff_eq, or_comm] at hname
            exact Or.inl ⟨setting, hname, rfl⟩
    | none =>
        right
        cases hvalue : (ofShort? word.toList).or (ofAssignment? word.toList) with
        | some reading =>
            obtain ⟨setting, value, rfl⟩ : ∃ setting value, reading = .assigned setting value := by
              rcases Option.or_eq_some_iff.mp hvalue with hshort | ⟨-, hassigned⟩
              · exact ofShort?_eq hshort
              · exact ofAssignment?_eq hassigned
            simp
        | none =>
            simp only
            split <;> simp

theorem ofArgument_short (setting : Setting) : ofArgument setting.short = .setting setting := by
  cases setting <;> rfl

theorem ofArgument_long (setting : Setting) : ofArgument setting.long = .setting setting := by
  cases setting <;> rfl

theorem clusters_ending_iff :
    Clusters argument "--" ↔ ofArgument (split argument).2 = .endOfOptions := by
  constructor
  · intro h
    rw [h.split_eq .ending]
    rfl
  · intro h
    rcases ofArgument_cases (split argument).2 with ⟨hword, -⟩ | ⟨_, -, hread⟩ | ⟨-, hread⟩
    · exact clusters_of_split hword .ending
    · exact nomatch h.symm.trans hread
    · exact absurd h hread

end Reading

open Reading

/-- The argument names a setting and has no value with it. -/
def Setting.NamedBy (setting : Setting) (argument : String) : Prop :=
  Clusters argument setting.short ∨ Clusters argument setting.long

theorem Setting.namedBy_iff :
    setting.NamedBy argument ↔ ofArgument (split argument).2 = .setting setting := by
  constructor
  · rintro (h | h)
    · rw [h.split_eq (.short setting), ofArgument_short]
    · rw [h.split_eq (.long setting), ofArgument_long]
  · intro h
    rcases ofArgument_cases (split argument).2 with ⟨-, hread⟩ | ⟨other, hword, hread⟩ | ⟨hread, -⟩
    · exact nomatch h.symm.trans hread
    · obtain rfl : setting = other := Reading.setting.inj (h.symm.trans hread)
      exact hword.imp (clusters_of_split · (.short setting)) (clusters_of_split · (.long setting))
    · exact absurd h (hread setting)

/-- What the next argument stands for: an option may stand there, the value of a setting must, or
everything is an operand. -/
inductive ArgumentPlace where
  | option
  | value (setting : Setting)
  | operand
  deriving DecidableEq

namespace ArgumentPlace

variable {place next last : ArgumentPlace} {arguments : List String}

/-- The place after an argument that stands in a place. -/
inductive Next : ArgumentPlace → String → ArgumentPlace → Prop
  | named {setting : Setting} {argument : String} : setting.NamedBy argument →
      Next option argument (value setting)
  | ending {argument : String} : Clusters argument "--" → Next option argument operand
  | own {argument : String} : (∀ setting : Setting, ¬ setting.NamedBy argument) →
      ¬ Clusters argument "--" → Next option argument option
  | value (setting : Setting) (argument : String) : Next (value setting) argument option
  | operand (argument : String) : Next operand argument operand

/-- The place after arguments the first of which stands in a place. -/
inductive Leads : ArgumentPlace → List String → ArgumentPlace → Prop
  | nil (place : ArgumentPlace) : Leads place [] place
  | cons {place next last : ArgumentPlace} {argument : String} {arguments : List String} :
      Next place argument next → Leads next arguments last →
        Leads place (argument :: arguments) last

/-- The place after an argument, by what is read in the argument. -/
def after : ArgumentPlace → String → ArgumentPlace
  | option, argument =>
      match ofArgument (split argument).2 with
      | .endOfOptions => operand
      | .setting setting => value setting
      | _ => option
  | value _, _ => option
  | operand, _ => operand

theorem next_iff : Next place argument next ↔ place.after argument = next := by
  constructor
  · intro h
    cases h with
    | named hname => simp [after, Setting.namedBy_iff.mp hname]
    | ending hending => simp [after, clusters_ending_iff.mp hending]
    | own hname hending =>
        simp only [Setting.namedBy_iff] at hname
        rw [clusters_ending_iff] at hending
        rw [after]
        split
        · exact absurd ‹_› hending
        · exact absurd ‹_› (hname _)
        · rfl
    | value setting argument => rfl
    | operand argument => rfl
  · rintro rfl
    cases place with
    | value setting => exact .value setting argument
    | operand => exact .operand argument
    | option =>
        rw [after]
        split
        case h_1 hread => exact .ending (clusters_ending_iff.mpr hread)
        case h_2 setting hread => exact .named (Setting.namedBy_iff.mpr hread)
        case h_3 hending hname =>
          exact .own (fun setting h => hname setting (Setting.namedBy_iff.mp h))
            (fun h => hending (clusters_ending_iff.mp h))

theorem leads_iff : Leads place arguments last ↔ arguments.foldl after place = last := by
  induction arguments generalizing place with
  | nil =>
      constructor
      · rintro ⟨⟩
        rfl
      · rintro rfl
        exact .nil place
  | cons argument arguments ih =>
      rw [List.foldl_cons, ← ih]
      constructor
      · rintro (_ | ⟨hnext, hrest⟩)
        rwa [next_iff.mp hnext]
      · exact .cons (next_iff.mpr rfl)

theorem leads_singleton : Leads place [argument] next ↔ place.after argument = next :=
  leads_iff

theorem Leads.unique (h : Leads place arguments last) (hnext : Leads place arguments next) :
    last = next :=
  (leads_iff.mp h).symm.trans (leads_iff.mp hnext)

theorem leads_append {others : List String} :
    Leads place (arguments ++ others) last ↔
      ∃ next, Leads place arguments next ∧ Leads next others last := by
  simp [leads_iff, List.foldl_append]

end ArgumentPlace

open ArgumentPlace

def Setting.LacksValue (setting : Setting) (arguments : List String) : Prop :=
  Leads .option arguments (.value setting)

/-- The last argument is the letter or the word of the setting, but stands for a value or for an
operand. -/
def Setting.IsMistaken (setting : Setting) (arguments : List String) : Prop :=
  ∃ before argument place, arguments = before ++ [argument] ∧
    (argument = setting.short ∨ argument = setting.long) ∧ Leads .option before place ∧
      place ≠ .option

theorem Setting.IsMistaken.not_lacksValue {arguments : List String}
    (h : setting.IsMistaken arguments) (other : Setting) : ¬ other.LacksValue arguments := by
  obtain ⟨before, argument, place, rfl, -, hbefore, hplace⟩ := h
  intro hlacks
  obtain ⟨next, hnext, hlast⟩ := leads_append.mp hlacks
  obtain rfl := hnext.unique hbefore
  rw [leads_iff] at hlast
  cases next with
  | option => exact hplace rfl
  | value setting => exact nomatch hlast
  | operand => exact nomatch hlast

/-- The errors that end the reading of the arguments: a value is wrong, or missing. -/
inductive UsageError.Breaks (arguments : List String) : UsageError → Prop
  | badParallelism (value : String) : Breaks arguments (.badParallelism value)
  | noArgument {setting : Setting} : setting.LacksValue arguments →
      Breaks arguments (.noArgument setting)

variable {arguments : List String} {error : UsageError}

theorem UsageError.Breaks.append {front : List String} (hfront : Leads .option front .option)
    (h : error.Breaks arguments) : error.Breaks (front ++ arguments) := by
  cases h with
  | badParallelism value => exact .badParallelism value
  | noArgument hlacks => exact .noArgument (leads_append.mpr ⟨.option, hfront, hlacks⟩)

theorem Setting.breaks_of_set {choice : Choice} {value : String}
    (h : setting.set choice value = .error error) : error.Breaks arguments := by
  cases setting with
  | parallelism =>
      simp only [Setting.set] at h
      split at h
      · obtain rfl := Except.error.inj h
        exact .badParallelism value
      · exact nomatch h
  | cache => exact nomatch h
  | scan => exact nomatch h

namespace CommandLine

theorem danglingSetting?_eq_some : danglingSetting? arguments = some setting ↔
    ∃ before argument, arguments = before ++ [argument] ∧
      (argument = setting.short ∨ argument = setting.long) := by
  constructor
  · intro h
    obtain ⟨argument, hlast, hfind⟩ := Option.bind_eq_some_iff.mp h
    obtain ⟨before, rfl⟩ := List.getLast?_eq_some_iff.mp hlast
    have hname := List.find?_some hfind
    rw [Bool.or_eq_true, beq_iff_eq, beq_iff_eq] at hname
    exact ⟨before, argument, rfl, hname⟩
  · rintro ⟨before, argument, rfl, rfl | rfl⟩ <;>
      rw [danglingSetting?, List.getLast?_concat] <;> cases setting <;> rfl

theorem danglingSetting?_of_isMistaken (h : setting.IsMistaken arguments) :
    danglingSetting? arguments = some setting := by
  obtain ⟨before, argument, -, heq, hname, -⟩ := h
  exact danglingSetting?_eq_some.mpr ⟨before, argument, heq, hname⟩

theorem lacksValue_or_isMistaken (h : danglingSetting? arguments = some setting) :
    setting.LacksValue arguments ∨ setting.IsMistaken arguments := by
  obtain ⟨before, argument, rfl, hname⟩ := danglingSetting?_eq_some.mp h
  have hbefore : Leads .option before (before.foldl after .option) := leads_iff.mpr rfl
  by_cases hplace : before.foldl after .option = .option
  · left
    rw [hplace] at hbefore
    have hlast : Next .option argument (.value setting) := .named (Setting.namedBy_iff.mpr ?_)
    · exact leads_append.mpr ⟨.option, hbefore, .cons hlast (.nil _)⟩
    · rcases hname with rfl | rfl <;> cases setting <;> rfl
  · exact Or.inr ⟨before, argument, _, rfl, hname, hbefore, hplace⟩

/-- By induction on the reading: an argument that has all that belongs to it leads back to where an
option may stand. -/
theorem breaks_of_readFrom {r : Reckoning} (h : readFrom r arguments = .error error) :
    error.Breaks arguments := by
  induction r, arguments using readFrom.induct with
  | case1 r => exact nomatch h
  | case2 r argument rest flags word hsplit hread => simp [readFrom, hsplit, hread] at h
  | case3 r argument rest flags word hsplit r' flag hread ih =>
      simp only [readFrom, hsplit, hread] at h
      exact (ih h).append (leads_singleton.mpr (by simp [after, hsplit, hread]))
  | case4 r argument flags word hsplit setting hread =>
      simp only [readFrom, hsplit, hread] at h
      obtain rfl := Except.error.inj h
      exact .noArgument (leads_singleton.mpr (by simp [after, hsplit, hread]))
  | case5 r argument flags word hsplit r' setting hread value rest e hset =>
      simp only [r'] at hset
      simp only [readFrom, hsplit, hread, hset] at h
      obtain rfl := Except.error.inj h
      exact Setting.breaks_of_set hset
  | case6 r argument flags word hsplit r' setting hread value rest choice hset ih =>
      simp only [r'] at hset
      simp only [readFrom, hsplit, hread, hset] at h
      have hnext : Next .option argument (.value setting) :=
        next_iff.mpr (by simp [after, hsplit, hread])
      exact (ih h).append (.cons hnext (.cons (.value setting value) (.nil _)))
  | case7 r argument rest flags word hsplit r' setting value hread e hset =>
      simp only [r'] at hset
      simp only [readFrom, hsplit, hread, hset] at h
      obtain rfl := Except.error.inj h
      exact Setting.breaks_of_set hset
  | case8 r argument rest flags word hsplit r' setting value hread choice hset ih =>
      simp only [r'] at hset
      simp only [readFrom, hsplit, hread, hset] at h
      exact (ih h).append (leads_singleton.mpr (by simp [after, hsplit, hread]))
  | case9 r argument rest flags word hsplit r' hread ih =>
      simp only [readFrom, hsplit, hread] at h
      exact (ih h).append (leads_singleton.mpr (by simp [after, hsplit, hread]))
  | case10 r argument rest flags word hsplit r' hread ih =>
      simp only [readFrom, hsplit, hread] at h
      exact (ih h).append (leads_singleton.mpr (by simp [after, hsplit, hread]))

end CommandLine

end Suppression
