import Suppression.Proofs.FailingDiagnostics
import Suppression.Proofs.SerialTurns

namespace Suppression

namespace Diagnostic

/-- The question about a finding that has a range. -/
def question? (d : Diagnostic) : Option Question :=
  match d.range with
  | .error _ => none
  | .ok range => some ⟨range, d.origin⟩

/-- What an answer decides; findings in a file that cannot be read are reported. -/
def decisionOf : Except QueryError Bool → Except DecisionError Bool
  | .error (.access _) => .ok false
  | answer => answer.mapError .query

/-- The decisions on findings that come of the answers to the questions about them. -/
inductive DecidedBy :
    List Diagnostic → List (Except QueryError Bool) → List (Except DecisionError Bool) → Prop
  | nil : DecidedBy [] [] []
  | nowhere {d : Diagnostic} {rest : List Diagnostic} {answers : List (Except QueryError Bool)}
      {decisions : List (Except DecisionError Bool)} : d.range = .error .noText →
      DecidedBy rest answers decisions → DecidedBy (d :: rest) answers (.error .noText :: decisions)
  | rejected {d : Diagnostic} {rest : List Diagnostic} {answers : List (Except QueryError Bool)}
      {decisions : List (Except DecisionError Bool)} {error : RangeError} :
      d.range = .error (.range error) → DecidedBy rest answers decisions →
        DecidedBy (d :: rest) answers (.ok false :: decisions)
  | answered {d : Diagnostic} {rest : List Diagnostic} {answers : List (Except QueryError Bool)}
      {decisions : List (Except DecisionError Bool)} {range : Range}
      (answer : Except QueryError Bool) : d.range = .ok range → DecidedBy rest answers decisions →
        DecidedBy (d :: rest) (answer :: answers) (decisionOf answer :: decisions)

end Diagnostic

/-- A file could not be read when a question about it was answered. -/
def FailedIn (answers : List (Except QueryError Bool)) (file : Wide) : Prop :=
  ∃ error, .error (.access error) ∈ answers ∧ error.file = file

theorem failedIn_cons (answer : Except QueryError Bool) (answers : List (Except QueryError Bool))
    (file : Wide) : FailedIn (answer :: answers) file ↔
      (∃ error, answer = .error (.access error) ∧ error.file = file) ∨ FailedIn answers file := by
  simp only [FailedIn, List.mem_cons]
  constructor
  · rintro ⟨error, hanswer | hmem, hfile⟩
    · exact Or.inl ⟨error, hanswer.symm, hfile⟩
    · exact Or.inr ⟨error, hmem, hfile⟩
  · rintro (⟨error, hanswer, hfile⟩ | ⟨error, hmem, hfile⟩)
    · exact ⟨error, Or.inl hanswer.symm, hfile⟩
    · exact ⟨error, Or.inr hmem, hfile⟩

namespace Tracker

variable {tree : FileTree} {tracker other : Tracker}

theorem SameOn.note {file : Wide} (h : SameOn tree file tracker other) (text : Wide) :
    SameOn tree file (tracker.saw (.noted text)) other := by
  refine ⟨h.toAlikeOn.left _, h.readsOf.trans ?_⟩
  rw [Tracker.readsOf, Tracker.readsOf, reads_saw_noted]

/-- The step lemma: a question comes to the same on trackers that are the same for all files. -/
theorem SameOn.isIgnored_all (h : ∀ file, SameOn tree file tracker other)
    (hsettings : other.settings = tracker.settings) (range : Range) (origin : Origin) :
    (tracker.isIgnored tree range origin).1 = (other.isIgnored tree range origin).1 ∧
      (∀ file, SameOn tree file (tracker.isIgnored tree range origin).2
        (other.isIgnored tree range origin).2) ∧
      (other.isIgnored tree range origin).2.settings =
        (tracker.isIgnored tree range origin).2.settings := by
  obtain ⟨hanswer, hown⟩ := (h range.file).isIgnored hsettings origin
  refine ⟨hanswer, fun file => ?_, ?_⟩
  · by_cases heq : file = range.file
    · exact heq ▸ hown
    · exact (sameOn_isIgnored heq tracker origin).symm.trans
        ((h file).trans (sameOn_isIgnored heq other origin))
  · exact (settings_run tree _ other).trans (hsettings.trans (settings_run tree _ tracker).symm)

end Tracker

namespace Sorting

variable {tree : FileTree} {sorting : Sorting} {other : Tracker}

theorem sameOn_note (sorting : Sorting) (tree : FileTree) (text : Wide) (file : Wide) :
    Tracker.SameOn tree file sorting.tracker (sorting.note text).tracker ∧
      (sorting.note text).tracker.settings = sorting.tracker.settings := by
  unfold note
  split
  · exact ⟨((Tracker.SameOn.refl tree file sorting.tracker).note _).symm, rfl⟩
  · exact ⟨.refl tree file sorting.tracker, rfl⟩

theorem sameOn_fail (sorting : Sorting) (tree : FileTree) (e : AccessError) (file : Wide) :
    Tracker.SameOn tree file sorting.tracker (sorting.fail e).tracker ∧
      (sorting.fail e).tracker.settings = sorting.tracker.settings := by
  unfold fail
  split
  · exact ⟨.refl tree file sorting.tracker, rfl⟩
  · exact sameOn_note sorting tree _ file

theorem mem_failedFiles_fail (sorting : Sorting) (e : AccessError) (file : Wide) :
    file ∈ (sorting.fail e).failedFiles ↔ file ∈ sorting.failedFiles ∨ e.file = file := by
  rw [failedFiles_fail]
  split
  · next hknown => exact ⟨Or.inl, fun h => h.elim id fun heq => heq ▸ hknown⟩
  · rw [List.mem_append, List.mem_singleton, @eq_comm _ file]

theorem nodup_failedFiles_fail (h : sorting.failedFiles.Nodup) (e : AccessError) :
    (sorting.fail e).failedFiles.Nodup := by
  rw [failedFiles_fail]
  split
  · exact h
  · next hnew => exact List.nodup_append.mpr ⟨h, List.nodup_singleton _, by
      rintro file hmem _ hfile rfl
      exact hnew (List.mem_singleton.mp hfile ▸ hmem)⟩

theorem decide_answered {d : Diagnostic} {range : Range} (hrange : d.range = .ok range)
    {answer : Except QueryError Bool} {asked : Tracker}
    (hasked : sorting.tracker.isIgnored tree range d.origin = (answer, asked)) :
    let after := sorting.decide tree d
    after.1 = Diagnostic.decisionOf answer ∧
      (∀ file, Tracker.SameOn tree file asked after.2.tracker) ∧
      after.2.tracker.settings = asked.settings ∧
      (∀ file, file ∈ after.2.failedFiles ↔ file ∈ sorting.failedFiles ∨
        ∃ error, answer = .error (.access error) ∧ error.file = file) ∧
      (sorting.failedFiles.Nodup → after.2.failedFiles.Nodup) := by
  simp only [decide, hrange, hasked]
  cases answer with
  | ok ignored => exact ⟨rfl, fun file => .refl tree file asked, rfl, by simp, id⟩
  | error e =>
      cases e with
      | access e =>
          let before : Sorting := { sorting with tracker := asked }
          refine ⟨rfl, fun file => (sameOn_fail before tree e file).1,
            (sameOn_fail before tree e e.file).2, fun file => ?_,
            fun h => @nodup_failedFiles_fail before h e⟩
          simpa using mem_failedFiles_fail before e file
      | range e => exact ⟨rfl, fun file => .refl tree file asked, rfl, by simp, id⟩
      | grammar text => exact ⟨rfl, fun file => .refl tree file asked, rfl, by simp, id⟩

/-- The run lemma: deciding findings one after the other comes to what the answers to their
questions decide. -/
theorem decideAll_askAll (h : ∀ file, Tracker.SameOn tree file sorting.tracker other)
    (hsettings : other.settings = sorting.tracker.settings) (diagnostics : List Diagnostic) :
    let asked := other.askAll tree (diagnostics.filterMap Diagnostic.question?)
    let after := sorting.decideAll tree diagnostics
    Diagnostic.DecidedBy diagnostics asked.1 after.1 ∧
      (∀ file, Tracker.SameOn tree file after.2.tracker asked.2) ∧
      (∀ file, file ∈ after.2.failedFiles ↔
        file ∈ sorting.failedFiles ∨ FailedIn asked.1 file) ∧
      (sorting.failedFiles.Nodup → after.2.failedFiles.Nodup) := by
  -- The trackers differ in their logs, where a finding without a range or a failure is noted; it is
  -- enough that they are the same for every file.
  induction diagnostics generalizing sorting other with
  | nil => exact ⟨.nil, h, by simp [Tracker.askAll, decideAll, FailedIn], id⟩
  | cons d rest ih =>
      cases hrange : d.range with
      | error e =>
          have hquestion : d.question? = none := by rw [Diagnostic.question?, hrange]
          rw [List.filterMap_cons_none hquestion]
          cases e with
          | noText =>
              obtain ⟨hdecided, hrest⟩ := ih h hsettings
              simp only [decideAll, decide, hrange]
              exact ⟨.nowhere hrange hdecided, hrest⟩
          | range e =>
              have hnote := sameOn_note sorting tree
                ("Reporting diagnostic in " ++ d.file ++ " unfiltered: " ++ e.message)
              obtain ⟨hdecided, hsame, hfailed, hnodup⟩ :=
                ih (fun file => (hnote file).1.symm.trans (h file))
                  (hsettings.trans (hnote d.file).2.symm)
              rw [failedFiles_note] at hfailed hnodup
              simp only [decideAll, decide, hrange]
              exact ⟨.rejected hrange hdecided, hsame, hfailed, hnodup⟩
      | ok range =>
          have hquestion : d.question? = some ⟨range, d.origin⟩ := by
            rw [Diagnostic.question?, hrange]
          rw [List.filterMap_cons_some hquestion, Tracker.askAll_cons]
          obtain ⟨hdecision, htracker, hkept, hfile, hnodup⟩ :=
            decide_answered hrange (Prod.eta _).symm
          obtain ⟨hanswer, hasked, hsettings'⟩ :=
            Tracker.SameOn.isIgnored_all h hsettings range d.origin
          obtain ⟨hdecided, hsame, hfailed, hnodup'⟩ :=
            ih (fun file => (htracker file).symm.trans (hasked file)) (hsettings'.trans hkept.symm)
          rw [hanswer] at hdecision hfile
          simp only [decideAll]
          refine ⟨hdecision ▸ .answered _ hrange hdecided, hsame, fun file => ?_,
            fun h => hnodup' (hnodup h)⟩
          rw [hfailed, hfile, failedIn_cons, or_assoc]

end Sorting

namespace Turns

variable {tree : FileTree} {tracker : Tracker} {turns : Turns}
  {answers : List (Except QueryError Bool)}

theorem finish_settled {calls : List Call}
    (h : calls.map Call.stage = answers.map Stage.settled) (tree : FileTree)
    (settings : TrackerSettings) (tracker : Tracker) :
    finish tree settings tracker calls = (answers, tracker) := by
  induction calls generalizing answers with
  | nil =>
      obtain rfl := List.map_eq_nil_iff.mp h.symm
      rfl
  | cons call rest ih =>
      cases answers with
      | nil => simp at h
      | cons answer answers =>
          obtain ⟨hstage, hrest⟩ := List.cons.inj h
          simp only [finish, Call.rest, hstage, Query.run, ih hrest]

/-- Findings are parted as the answers decide that come of putting all their questions at once, in
whatever order the calls proceed. Afterwards the same is known of every file, and has been read of
it, as when one finding is decided after the other. -/
theorem Reached.partition (h : Reached tree tracker turns) {diagnostics : List Diagnostic}
    (hquestions : turns.calls.map Call.question = diagnostics.filterMap Diagnostic.question?)
    (hsettled : turns.calls.map Call.stage = answers.map Stage.settled) (verbose : Bool) :
    let parted := Diagnostic.partition diagnostics tracker tree verbose
    (∃ decisions failedFiles, Diagnostic.DecidedBy diagnostics answers decisions ∧
      (∀ file, file ∈ failedFiles ↔ FailedIn answers file) ∧ failedFiles.Nodup ∧
      parted.1 = (Diagnostic.decisions decisions).map fun decisions => {
        kept := Diagnostic.withDecision false diagnostics decisions
        ignored := Diagnostic.withDecision true diagnostics decisions
        failedFiles }) ∧
      ∀ file, parted.2.snapshotOf? file = turns.tracker.snapshotOf? file ∧
        parted.2.readsOf file = turns.tracker.readsOf file := by
  intro parted
  obtain ⟨-, -, hanswers, hsame⟩ := h.completes
  rw [finish_settled hsettled, hquestions] at hanswers hsame
  obtain ⟨hdecided, hsorted, hfailed, hnodup⟩ :=
    @Sorting.decideAll_askAll tree { tracker, verbose } tracker
      (fun file => .refl tree file tracker) rfl diagnostics
  rw [← hanswers] at hdecided hfailed
  refine ⟨⟨_, _, hdecided, fun file => ?_, hnodup List.nodup_nil, rfl⟩, fun file => ?_⟩
  · simpa using hfailed file
  · have hlast := (hsame file).trans (hsorted file).symm
    exact ⟨hlast.snapshotOf?_eq, hlast.readsOf⟩

theorem exists_answers {calls : List Call} (h : ∀ call ∈ calls, call.isSettled = true) :
    ∃ answers : List (Except QueryError Bool),
      calls.map Call.stage = answers.map Stage.settled := by
  induction calls with
  | nil => exact ⟨[], rfl⟩
  | cons call rest ih =>
      obtain ⟨hcall, hrest⟩ := List.forall_mem_cons.mp h
      obtain ⟨answers, hanswers⟩ := ih hrest
      obtain ⟨question, stage⟩ := call
      cases stage with
      | settled result => exact ⟨result :: answers, by simp [hanswers]⟩
      | _ => simp [Call.isSettled, Stage.isSettled] at hcall

theorem exists_launched (tree : FileTree) (tracker : Tracker) (questions : List Question) :
    ∃ turns, Reached tree tracker turns ∧ turns.calls.map Call.question = questions := by
  induction questions using List.reverseRecOn with
  | nil => exact ⟨_, .idle, rfl⟩
  | append_singleton before question ih =>
      obtain ⟨turns, hturns, hquestions⟩ := ih
      refine ⟨_, hturns.launch question, ?_⟩
      rw [launch, List.map_append, hquestions]
      rfl

theorem exists_answered (tree : FileTree) (tracker : Tracker) (diagnostics : List Diagnostic) :
    ∃ (turns : Turns) (answers : List (Except QueryError Bool)), Reached tree tracker turns ∧
      turns.calls.map Call.question = diagnostics.filterMap Diagnostic.question? ∧
      turns.calls.map Call.stage = answers.map Stage.settled := by
  obtain ⟨launched, hlaunched, hquestions⟩ :=
    exists_launched tree tracker (diagnostics.filterMap Diagnostic.question?)
  obtain ⟨turns, hturns, hsame, hsettled⟩ := hlaunched.exists_settled
  obtain ⟨answers, hanswers⟩ := exists_answers hsettled
  exact ⟨turns, answers, hturns, hsame.trans hquestions, hanswers⟩

end Turns

end Suppression
