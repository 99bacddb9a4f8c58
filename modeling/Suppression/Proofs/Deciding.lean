import Suppression.Diagnostic.Partition
import Suppression.Proofs.LineSweep

namespace Suppression

theorem Matcher.exists_standard_inLinesFrom (number : Nat) (lines : List (List Char)) :
    ∃ directives, standard.inLinesFrom number lines = .ok directives := by
  apply exists_inLinesFrom
  apply exists_ofGrammar
  exact fun text => ⟨_, rfl⟩

/-- What is said of a result can be told if it can be told of a value. -/
instance decidableForallOk {ε α : Type} {p : α → Prop} [DecidablePred p] (result : Except ε α) :
    Decidable (∀ a, result = .ok a → p a) :=
  match result with
  | .error _ => isTrue (by simp)
  | .ok a => decidable_of_iff (p a) (by simp)

instance decidableExistsOk {ε α : Type} {p : α → Prop} [DecidablePred p] (result : Except ε α) :
    Decidable (∃ a, result = .ok a ∧ p a) :=
  match result with
  | .error _ => isFalse (by simp)
  | .ok a => decidable_of_iff (p a) (by simp)

namespace Diagnostic

/-- Whether a finding is ignored: that is told by the intervals of all directives in its file, and
nothing is ignored in a file that cannot be read. -/
def verdict (tree : FileTree) (d : Diagnostic) : Except DecisionError Bool :=
  match d.range with
  | .error .noText => .error .noText
  | .error (.range _) => .ok false
  | .ok range =>
      match tree.readText d.file with
      | .error _ => .ok false
      | .ok text =>
          match Matcher.standard.inLinesFrom 1 (Text.fileLines text.toList) with
          | .error _ => .ok false
          | .ok directives => .ok ((Intervals.applyAll [] directives).ignore range d.origin)

def IsExact (d : Diagnostic) : Prop :=
  ∀ range, d.range = .ok range → range.IsExact

instance (d : Diagnostic) : Decidable d.IsExact :=
  inferInstanceAs (Decidable (∀ range, d.range = .ok range → range.IsExact))

theorem accepted_of_range {d : Diagnostic} {range : Range} (h : d.range = .ok range) :
    range.file = d.file ∧ range.Accepted := by
  unfold Diagnostic.range at h
  split at h
  · obtain rfl := Except.ok.inj h
    exact ⟨rfl, .wholeFile d.file⟩
  · simp only [Range.ofWritten, bind, Except.bind] at h
    split at h
    · simp at h
    next start hstart =>
    split at h
    · simp at h
    next stop hstop =>
    cases hbetween : Range.between d.file start stop with
    | error e => simp [hbetween, Except.mapError] at h
    | ok found =>
        obtain rfl : found = range := by simpa [hbetween, Except.mapError] using h
        obtain ⟨-, -, -, rfl⟩ := Range.between_cases hbetween
        exact ⟨rfl, .between hbetween⟩

end Diagnostic

namespace Sorting

variable {tree : FileTree} {sorting : Sorting}

theorem idles_note (tree : FileTree) (sorting : Sorting) (text : Wide) :
    Tracker.Idles tree sorting.tracker (sorting.note text).tracker := by
  unfold note
  split
  · exact .saw tree sorting.tracker (.noted text)
  · exact .refl tree sorting.tracker

theorem idles_fail (tree : FileTree) (sorting : Sorting) (e : AccessError) :
    Tracker.Idles tree sorting.tracker (sorting.fail e).tracker := by
  unfold fail
  split
  · exact .refl tree sorting.tracker
  · exact sorting.idles_note tree _

theorem exists_decide {d : Diagnostic} {range : Range} (hrange : d.range = .ok range)
    {answer : Except QueryError Bool} {asked : Tracker}
    (hask : sorting.tracker.isIgnored tree range d.origin = (answer, asked)) :
    ∃ after : Sorting, Tracker.Idles tree asked after.tracker ∧
      (sorting.decide tree d).2 = after ∧
      (∀ ignored, answer = .ok ignored → (sorting.decide tree d).1 = .ok ignored) ∧
      ∀ e, answer = .error (.access e) → (sorting.decide tree d).1 = .ok false := by
  simp only [decide, hrange, hask]
  cases answer with
  | ok ignored => exact ⟨_, .refl tree asked, rfl, by simp [Except.mapError], by simp⟩
  | error e =>
      cases e with
      | access e =>
          exact ⟨_, idles_fail tree { sorting with tracker := asked } e, rfl, by simp, by simp⟩
      | range e => exact ⟨_, .refl tree asked, rfl, by simp, by simp⟩
      | grammar text => exact ⟨_, .refl tree asked, rfl, by simp, by simp⟩

theorem idles_decide (tree : FileTree) (sorting : Sorting) (d : Diagnostic) :
    Tracker.Idles tree sorting.tracker (sorting.decide tree d).2.tracker ∨
      ∃ range, d.range = .ok range ∧
        Tracker.Idles tree (sorting.tracker.isIgnored tree range d.origin).2
          (sorting.decide tree d).2.tracker := by
  cases hrange : d.range with
  | error e =>
      left
      simp only [decide, hrange]
      cases e with
      | noText => exact .refl tree sorting.tracker
      | range e => exact sorting.idles_note tree _
  | ok range =>
      right
      rcases hask : sorting.tracker.isIgnored tree range d.origin with ⟨answer, asked⟩
      obtain ⟨after, hidle, hafter, -⟩ := exists_decide hrange hask
      rw [hafter]
      exact ⟨range, rfl, by rwa [hask]⟩

theorem decide_sound (h : sorting.tracker.Sound tree) {d : Diagnostic}
    (hheld : ∀ text, tree.readText d.file = .ok text → text.length < 2 ^ 53) :
    (sorting.decide tree d).2.tracker.Sound tree ∧
      Tracker.Learns tree sorting.tracker (sorting.decide tree d).2.tracker := by
  rcases idles_decide tree sorting d with hidle | ⟨range, hrange, hidle⟩
  · exact ⟨h.idles hidle, hidle.toLearns⟩
  · rw [← (Diagnostic.accepted_of_range hrange).1] at hheld
    obtain ⟨hsound, hlearns⟩ := h.isIgnored hheld d.origin
    exact ⟨hsound.idles hidle, hlearns.trans hidle.toLearns⟩

theorem decide_of_unreadable (h : sorting.tracker.Sound tree) {d : Diagnostic} {range : Range}
    (hrange : d.range = .ok range) {error : FileError}
    (htext : tree.readText d.file = .error error) : (sorting.decide tree d).1 = .ok false := by
  obtain ⟨hfile, -⟩ := Diagnostic.accepted_of_range hrange
  rcases hask : sorting.tracker.isIgnored tree range d.origin with ⟨answer, asked⟩
  obtain ⟨-, -, -, -, hunreadable⟩ := exists_decide hrange hask
  rcases h.isIgnored_cases range d.origin with
    ⟨error, after, -, -, -, hrun⟩ | ⟨text, record, line, result, known, after, htext', -⟩
  · exact hunreadable error (congrArg Prod.fst (hask.symm.trans hrun))
  · simp [hfile, htext] at htext'

theorem decide_of_answer {d : Diagnostic} {range : Range} (hrange : d.range = .ok range)
    {ignored : Bool} (h : (sorting.tracker.isIgnored tree range d.origin).1 = .ok ignored) :
    (sorting.decide tree d).1 = .ok ignored := by
  rcases hask : sorting.tracker.isIgnored tree range d.origin with ⟨answer, asked⟩
  obtain ⟨-, -, -, hanswered, -⟩ := exists_decide hrange hask
  rw [hask] at h
  exact hanswered ignored h

theorem decide_eq_verdict (h : sorting.tracker.Sound tree)
    (hmatcher : sorting.tracker.settings.matcher = .standard) {d : Diagnostic}
    (hheld : ∀ text, tree.readText d.file = .ok text → text.length < 2 ^ 53)
    (hexact : d.IsExact) : (sorting.decide tree d).1 = d.verdict tree := by
  cases hrange : d.range with
  | error e =>
      simp only [decide, Diagnostic.verdict, hrange]
      cases e with
      | noText => rfl
      | range e => rfl
  | ok range =>
      obtain ⟨hfile, haccepted⟩ := Diagnostic.accepted_of_range hrange
      cases htext : tree.readText d.file with
      | error e =>
          simp only [Diagnostic.verdict, hrange, htext]
          exact decide_of_unreadable h hrange htext
      | ok text =>
          obtain ⟨directives, hdirectives⟩ := Matcher.exists_standard_inLinesFrom 1
            (Text.fileLines text.toList)
          simp only [Diagnostic.verdict, hrange, htext, hdirectives]
          have hlength := hheld text htext
          rw [← hfile] at htext
          exact decide_of_answer hrange (h.isIgnored_eq htext hlength (hmatcher ▸ hdirectives)
            haccepted (hexact range hrange) d.origin)

/-- Decisions leave what is known true, and they are the verdicts. -/
theorem decideAll_spec (h : sorting.tracker.Sound tree)
    (hmatcher : sorting.tracker.settings.matcher = .standard) {diagnostics : List Diagnostic}
    (hheld : ∀ d ∈ diagnostics, ∀ text, tree.readText d.file = .ok text → text.length < 2 ^ 53) :
    (sorting.decideAll tree diagnostics).2.tracker.Sound tree ∧
      Tracker.Learns tree sorting.tracker (sorting.decideAll tree diagnostics).2.tracker ∧
      ((∀ d ∈ diagnostics, d.IsExact) →
        (sorting.decideAll tree diagnostics).1 = diagnostics.map (Diagnostic.verdict tree)) := by
  induction diagnostics generalizing sorting with
  | nil => exact ⟨h, .refl tree sorting.tracker, fun _ => rfl⟩
  | cons d rest ih =>
      obtain ⟨hfirst, hrest⟩ := List.forall_mem_cons.mp hheld
      obtain ⟨hsound, hlearns⟩ := decide_sound h hfirst
      obtain ⟨hsound', hlearns', hverdicts⟩ := ih hsound (hlearns.settings ▸ hmatcher) hrest
      refine ⟨hsound', hlearns.trans hlearns', ?_⟩
      intro hexact
      obtain ⟨hd, hothers⟩ := List.forall_mem_cons.mp hexact
      have hverdict := decide_eq_verdict h hmatcher hfirst hd
      simp only [decideAll, List.map_cons, hverdict, hverdicts hothers]

end Sorting

end Suppression
