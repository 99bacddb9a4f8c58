import Suppression.Proofs.AnyCache
import Suppression.Proofs.Rejection
import Suppression.Proofs.TurnResults

namespace Suppression

theorem Record.Fits.isMeasured {text : String} {record : Record} (h : record.Fits text)
    (hheld : text.length < 2 ^ 53) : record.IsMeasured := by
  obtain ⟨line, -, hline⟩ := h.watermark
  exact ⟨h.lineCount ▸ Record.Knows.lines_lt hheld, line, hline⟩

namespace Tracker

variable {tree : FileTree} {tracker other : Tracker} {file : Wide} {range : Range}
  {origin : Origin}

/-- What is known and what is stored about files counts the lines that they have. -/
abbrev Fits (tree : FileTree) (tracker : Tracker) : Prop :=
  tracker.Carries (fun _ text record => record.Fits text) tree

theorem Carries.mono {P Q : Wide → String → Record → Prop} (h : tracker.Carries P tree)
    (hPQ : ∀ file text record, P file text record → Q file text record) :
    tracker.Carries Q tree := by
  refine ⟨h.reflects, ?_, ?_⟩
  · intro file record hrecord
    obtain ⟨text, htext, hP⟩ := h.records file record hrecord
    exact ⟨text, htext, hPQ _ _ _ hP⟩
  · intro cache file entry text hcache hentry htext hsame hpast
    exact hPQ _ _ _ (h.stored cache file entry text hcache hentry htext hsame hpast)

theorem fits_start (tree : FileTree) (settings : TrackerSettings) {store : Option Store}
    (h : ∀ store' ∈ store, store'.opened = none) : Fits tree { settings, store } := by
  cases store with
  | none =>
      refine Sound.carries (sound_fresh tree settings) |>.mono ?_
      exact fun file text record hknows => hknows.fits
  | some store =>
      obtain ⟨path, verboseStore, opened, changed⟩ := store
      obtain rfl : opened = none := h _ rfl
      have hfresh := (usable_fresh tree settings path verboseStore).mono
        fun file text record husable => husable.1
      exact ⟨hfresh.reflects, hfresh.records, hfresh.stored⟩

theorem Fits.isIgnored (h : tracker.Fits tree) (range : Range) (origin : Origin) :
    (tracker.isIgnored tree range origin).2.Fits tree := by
  rcases h.isIgnored_cases (fun _ => Record.fits_cold) (fun _ _ _ => id) range origin with
    ⟨error, after, -, -, hidle, hrun⟩ |
    ⟨text, record, line, result, known, after, htext, hfits, -, -, hanswered, hidle, hrun⟩
  · rw [hrun]
    exact h.idles hidle
  · rw [hrun]
    exact (h.remember htext (hanswered.fits hfits)).idles hidle

theorem Fits.askAll (h : tracker.Fits tree) (questions : List Question) :
    (tracker.askAll tree questions).2.Fits tree := by
  induction questions generalizing tracker with
  | nil => exact h
  | cons question rest ih => exact ih (h.isIgnored question.range question.origin)

/-- Without a question that fails, those that are asked after it are answered alike, reading the
same lines, and know the same of the files that they are about. -/
theorem Fits.askAll_of_error (h : tracker.Fits tree) (htree : tree.Holdable) {question : Question}
    {error : QueryError}
    (herror : (tracker.isIgnored tree question.range question.origin).1 = .error error)
    (later : List Question) :
    let rejected := (tracker.isIgnored tree question.range question.origin).2
    (rejected.askAll tree later).1 = (tracker.askAll tree later).1 ∧
      (∃ news, (rejected.askAll tree later).2.reads = rejected.reads ++ news ∧
        (tracker.askAll tree later).2.reads = tracker.reads ++ news) ∧
      ∀ asked ∈ later, (rejected.askAll tree later).2.snapshotOf? asked.range.file =
        (tracker.askAll tree later).2.snapshotOf? asked.range.file := by
  intro rejected
  have hmeasured : ∀ record, tracker.resolved tree question.range.file = .ok record →
      record.IsMeasured := by
    intro record hrecord
    obtain ⟨text, htext, hfits⟩ := h.of_resolved (fun _ => Record.fits_cold) hrecord
    exact hfits.isMeasured (htree.length_lt htext)
  have hresumes (file : Wide) : Resumes tree file tracker rejected :=
    resumes_of_error hmeasured herror file
  obtain ⟨hanswers, ⟨news, hnews, hnews'⟩, -, hknown⟩ :=
    @Resumes.askAll tree tracker rejected (fun _ => True) later (fun file _ => hresumes file)
      fun _ _ => trivial
  refine ⟨hanswers.symm, ⟨news, hnews', hnews⟩, fun asked hmem => ?_⟩
  have halike := hknown asked.range.file (Or.inr ⟨asked, hmem, rfl⟩)
  rw [snapshotOf?, snapshotOf?, halike.record]

/-- Questions about a file come to the same whatever is asked about other files in between. -/
theorem SameOn.askAll_filter (h : SameOn tree file tracker other)
    (hsettings : other.settings = tracker.settings) (questions : List Question) :
    ((questions.zip (tracker.askAll tree questions).1).filter fun asked =>
        asked.1.range.file = file).map Prod.snd =
      (other.askAll tree (questions.filter fun question => question.range.file = file)).1 ∧
    SameOn tree file (tracker.askAll tree questions).2
      (other.askAll tree (questions.filter fun question => question.range.file = file)).2 := by
  induction questions generalizing tracker other with
  | nil => exact ⟨rfl, h⟩
  | cons question rest ih =>
      have hkept (tracker : Tracker) :
          (tracker.isIgnored tree question.range question.origin).2.settings = tracker.settings :=
        settings_run tree _ tracker
      by_cases hfile : question.range.file = file
      · subst hfile
        obtain ⟨hanswer, hsame⟩ := h.isIgnored hsettings question.origin
        obtain ⟨hanswers, hrest⟩ := ih hsame (by rw [hkept, hkept, hsettings])
        simp only [List.filter_cons, askAll_cons, List.zip_cons_cons, decide_true, if_true,
          List.map_cons, hanswer, hanswers]
        exact ⟨trivial, hrest⟩
      · have hother := @sameOn_isIgnored tree file question.range (Ne.symm hfile) tracker
          question.origin
        obtain ⟨hanswers, hrest⟩ := ih (hother.symm.trans h) (by rw [hkept, hsettings])
        simp only [List.filter_cons, askAll_cons, List.zip_cons_cons, hfile, decide_false,
          Bool.false_eq_true, if_false]
        exact ⟨hanswers, hrest⟩

end Tracker

namespace Turns

variable {tree : FileTree} {settings : TrackerSettings} {tracker : Tracker} {turns after : Turns}

theorem getElem?_finish {calls : List Call} {index : Nat} {call : Call}
    {result : Except QueryError Bool} (hcall : calls[index]? = some call)
    (hrest : call.rest settings = .done result) (tracker : Tracker) :
    (finish tree settings tracker calls).1[index]? = some result := by
  induction calls generalizing index tracker with
  | nil => simp at hcall
  | cons first rest ih =>
      rw [finish_cons]
      cases index with
      | zero =>
          obtain rfl := Option.some.inj hcall
          rw [hrest]
          rfl
      | succ index => exact ih hcall _

theorem questions_advance (h : Advance tree turns after) :
    after.calls.map Call.question = turns.calls.map Call.question := by
  cases h with
  | start hcalls _ => simp [hcalls]
  | request hcalls => simp [hcalls]
  | answer hcalls => simp [hcalls]
  | settle hcalls => simp [hcalls]

theorem Reached.exists_settled (h : Reached tree tracker turns) :
    ∃ last, Reached tree tracker last ∧
      last.calls.map Call.question = turns.calls.map Call.question ∧
        ∀ call ∈ last.calls, call.isSettled = true := by
  induction turns using (wellFounded_advance tree).induction with
  | _ turns ih =>
      by_cases hsettled : ∀ call ∈ turns.calls, call.isSettled = true
      · exact ⟨turns, h, rfl, hsettled⟩
      · simp only [not_forall, Bool.not_eq_true, exists_prop] at hsettled
        obtain ⟨next, hnext⟩ := h.exists_advance hsettled
        obtain ⟨last, hlast, hquestions, hall⟩ := ih next hnext (h.advance hnext)
        exact ⟨last, hlast, hquestions.trans (questions_advance hnext), hall⟩

/-- Calls that have been launched on a tracker, as compared with asking the same questions one after
the other in the order of the launches. -/
structure IsSerial (tree : FileTree) (tracker : Tracker) (turns : Turns)
    (questions : List Question) : Prop where
  /-- A call comes to the result that its question has in that order. -/
  results : ∀ (index : Nat) (call : Call) (result : Except QueryError Bool),
    turns.calls[index]? = some call →
    (call.stage = .answered result ∨ call.stage = .settled result) →
      (tracker.askAll tree questions).1[index]? = some result
  /-- When all calls about a file have settled, the same is known of it and has been read of it. -/
  known : ∀ file, (∀ call ∈ turns.calls, call.file = file → call.isSettled = true) →
    turns.tracker.snapshotOf? file = (tracker.askAll tree questions).2.snapshotOf? file ∧
      turns.tracker.readsOf file = (tracker.askAll tree questions).2.readsOf file
  /-- No call is blocked for good: some call can proceed until all have settled. -/
  proceeds : (∃ call ∈ turns.calls, call.isSettled = false) → ∃ next, Advance tree turns next
  /-- All calls settle in the end, whichever proceeds. -/
  ends : Acc (fun next turns => Advance tree turns next) turns
  /-- Of each file, all is as if there were no questions about other files. -/
  apart : ∀ file, let own := questions.filter fun question => question.range.file = file
    ((questions.zip (tracker.askAll tree questions).1).filter fun asked =>
        asked.1.range.file = file).map Prod.snd = (tracker.askAll tree own).1 ∧
      (tracker.askAll tree questions).2.snapshotOf? file =
        (tracker.askAll tree own).2.snapshotOf? file ∧
      (tracker.askAll tree questions).2.readsOf file = (tracker.askAll tree own).2.readsOf file
  /-- After a question that fails, all is as if it had not been asked. -/
  spared : tree.Holdable → tracker.Fits tree → ∀ before question later error,
    questions = before ++ question :: later →
      let asked := (tracker.askAll tree before).2
      let rejected := (asked.isIgnored tree question.range question.origin).2
      (asked.isIgnored tree question.range question.origin).1 = .error error →
        (rejected.askAll tree later).1 = (asked.askAll tree later).1 ∧
        (∃ news, (rejected.askAll tree later).2.reads = rejected.reads ++ news ∧
          (asked.askAll tree later).2.reads = asked.reads ++ news) ∧
        ∀ other ∈ later, (rejected.askAll tree later).2.snapshotOf? other.range.file =
          (asked.askAll tree later).2.snapshotOf? other.range.file

/-- Calls on one tracker come to what their questions come to when they are asked one after the
other in the order in which the calls were launched, however they take turns. -/
theorem Reached.serial (h : Reached tree tracker turns) :
    IsSerial tree tracker turns (turns.calls.map Call.question) := by
  have hcompletes := h.completes
  have hdone {call : Call} {result : Except QueryError Bool}
      (hstage : call.stage = .answered result ∨ call.stage = .settled result) :
      call.rest tracker.settings = .done result := by
    obtain ⟨question, stage⟩ := call
    rcases hstage with rfl | rfl <;> rfl
  refine ⟨?_, ?_, h.exists_advance, (wellFounded_advance tree).apply turns, ?_, ?_⟩
  · intro index call result hcall hstage
    rw [← hcompletes.results]
    exact getElem?_finish hcall (hdone hstage) turns.tracker
  · intro file hsettled
    have hsame := (sameOn_finish tree hcompletes.keeps (fun call hmem hfile =>
      Call.exists_rest_of_isSettled (hsettled call hmem hfile) tracker.settings)
      turns.tracker).trans (hcompletes.sameOn file)
    exact ⟨hsame.snapshotOf?_eq.symm, hsame.readsOf.symm⟩
  · intro file own
    obtain ⟨hanswers, hsame⟩ := (Tracker.SameOn.refl tree file tracker).askAll_filter rfl
      (turns.calls.map Call.question)
    exact ⟨hanswers, hsame.snapshotOf?_eq.symm, hsame.readsOf.symm⟩
  · intro htree hfits before question later error _ asked rejected herror
    exact (hfits.askAll before).askAll_of_error htree herror later

/-- Three calls, one of them on a file that cannot be read, have settled in some order. -/
theorem serial_unreadableFile :
    let tree := FileTree.single "a.py" "# ignore mypy\n"
    let tracker : Tracker := { settings := {} }
    let questions : List Question := [
      ⟨.wholeFile "a.py", { analyzer := "pylint" }⟩,
      ⟨.wholeFile "b.py", { analyzer := "pylint" }⟩,
      ⟨{ file := "a.py", span := some ⟨⟨1, 0⟩, ⟨1, 4⟩⟩ }, { analyzer := "mypy" }⟩]
    ∃ turns, Reached tree tracker turns ∧ turns.calls.map Call.question = questions ∧
      (∀ call ∈ turns.calls, call.isSettled = true) ∧ IsSerial tree tracker turns questions ∧
        tree.Holdable ∧ tracker.Fits tree ∧
        ((questions.zip (tracker.askAll tree questions).1).filter fun asked =>
          asked.1.range.file = ("a.py" : Wide)).map Prod.snd = [.ok false, .ok true] := by
  intro tree tracker questions
  have hlaunched : Reached tree tracker (questions.foldl launch { tracker }) :=
    .launch _ (.launch _ (.launch _ .idle))
  obtain ⟨turns, hturns, hquestions, hsettled⟩ := hlaunched.exists_settled
  have hserial := hturns.serial
  rw [hquestions] at hserial
  have hfits : tracker.Fits tree := Tracker.fits_start tree {} (by simp)
  refine ⟨turns, hturns, hquestions, hsettled, hserial,
    FileTree.holdable_single (by decide +kernel), hfits, (hserial.apart "a.py").1.trans ?_⟩
  have halike := Tracker.alike_read (FileTree.readText_single_script "# ignore mypy\n") {} none none
    rfl
  exact (halike.askAll _).trans (by decide +kernel)

end Turns

end Suppression
