import Suppression.Proofs.OneFile
import Suppression.Proofs.TurnTaking

/-!
What calls that take turns come to. Having all calls do what they have yet to do, one after the
other in the order in which they were launched, comes to the same at every point of a run
(`Turns.Reached.completes`): a request that one call makes before its turn concerns none of the
calls before it, since those on its file have settled. So what is there in the end is what asking
one question after the other comes to (`Turns.Reached.serial`).
-/

namespace Suppression

namespace Tracker

/-- The lines that have been asked for of one file, in the order in which they were. -/
def readsOf (tracker : Tracker) (file : Wide) : List Nat :=
  (tracker.reads.filter fun read => read.1 = file).map Prod.snd

/-- Two trackers are alike in all that concerns a file, and have read the same of it. -/
structure SameOn (tree : FileTree) (file : Wide) (tracker other : Tracker) : Prop extends
    AlikeOn tree file tracker other where
  readsOf : other.readsOf file = tracker.readsOf file

variable {tree : FileTree} {file : Wide} {tracker other third : Tracker}

theorem SameOn.refl (tree : FileTree) (file : Wide) (tracker : Tracker) :
    SameOn tree file tracker tracker :=
  ⟨.refl tree file tracker, rfl⟩

theorem SameOn.symm (h : SameOn tree file tracker other) : SameOn tree file other tracker :=
  ⟨h.toAlikeOn.symm, h.readsOf.symm⟩

theorem SameOn.trans (h : SameOn tree file tracker other) (h' : SameOn tree file other third) :
    SameOn tree file tracker third :=
  ⟨h.toAlikeOn.trans h'.toAlikeOn, h'.readsOf.trans h.readsOf⟩

theorem SameOn.snapshotOf?_eq (h : SameOn tree file tracker other) :
    other.snapshotOf? file = tracker.snapshotOf? file := by
  rw [snapshotOf?, snapshotOf?, h.record]

section run

variable {α : Type} {query : Query α} {asked : Wide}

theorem SameOn.run (h : SameOn tree file tracker other)
    (huses : query.Uses (Request.IsAbout file)) :
    (Query.run (respond tree) query tracker).1 = (Query.run (respond tree) query other).1 ∧
      SameOn tree file (Query.run (respond tree) query tracker).2
        (Query.run (respond tree) query other).2 := by
  obtain ⟨hresult, halike, news, hnews, hnews'⟩ := huses.agree.run_alike (fun _ => id) h.toAlikeOn
  refine ⟨hresult, halike, ?_⟩
  rw [Tracker.readsOf, Tracker.readsOf, hnews, hnews', List.filter_append, List.filter_append,
    List.map_append, List.map_append]
  exact congrArg (· ++ _) h.readsOf

theorem sameOn_run (huses : query.Uses (Request.IsAbout asked)) (hne : file ≠ asked)
    (tracker : Tracker) :
    SameOn tree file tracker (Query.run (respond tree) query tracker).2 := by
  refine ⟨huses.run_elsewhere hne tracker, ?_⟩
  obtain ⟨news, hnews, hall⟩ := huses.reads_run tree tracker
  have hnone : news.filter (fun read => read.1 = file) = [] := by
    rw [List.filter_eq_nil_iff]
    intro read hmem
    have habout : read.1 = asked := Option.some.inj (hall read hmem)
    simp [habout, hne.symm]
  rw [Tracker.readsOf, Tracker.readsOf, hnews, List.filter_append, hnone, List.append_nil]

theorem settings_run (tree : FileTree) (query : Query α) (tracker : Tracker) :
    (Query.run (respond tree) query tracker).2.settings = tracker.settings := by
  induction query generalizing tracker with
  | done result => rfl
  | ask r next ih => exact (ih _ _).trans (settings_respond tree r tracker)

end run

theorem settings_askAll (tracker : Tracker) (tree : FileTree) (questions : List Question) :
    (tracker.askAll tree questions).2.settings = tracker.settings := by
  induction questions generalizing tracker with
  | nil => rfl
  | cons question rest ih => exact (ih _).trans (settings_run tree _ tracker)

theorem SameOn.isIgnored {range : Range} (h : SameOn tree range.file tracker other)
    (hsettings : other.settings = tracker.settings) (origin : Origin) :
    (tracker.isIgnored tree range origin).1 = (other.isIgnored tree range origin).1 ∧
      SameOn tree range.file (tracker.isIgnored tree range origin).2
        (other.isIgnored tree range origin).2 := by
  unfold Tracker.isIgnored
  rw [hsettings]
  exact h.run (uses_answer tracker.settings range origin)

theorem sameOn_isIgnored {range : Range} (hne : file ≠ range.file) (tracker : Tracker)
    (origin : Origin) : SameOn tree file tracker (tracker.isIgnored tree range origin).2 :=
  sameOn_run (uses_answer tracker.settings range origin) hne tracker

end Tracker

namespace Call

def rest (settings : TrackerSettings) (call : Call) : Query (Except QueryError Bool) :=
  match call.stage with
  | .waiting _ => (settings.answer call.question.range call.question.origin).run
  | .running rest => rest
  | .answered result => .done result
  | .settled result => .done result

/-- A call is about its own file, whatever it has yet to do. -/
def KeepsTo (settings : TrackerSettings) (call : Call) : Prop :=
  (call.rest settings).Uses (Request.IsAbout call.file)

theorem exists_rest_of_isSettled {call : Call} (h : call.isSettled = true)
    (settings : TrackerSettings) : ∃ result, call.rest settings = .done result := by
  obtain ⟨question, stage⟩ := call
  cases stage with
  | settled result => exact ⟨result, rfl⟩
  | _ => simp [isSettled, Stage.isSettled] at h

end Call

namespace Turns

/-- Has calls do what they have yet to do, one after the other. -/
def finish (tree : FileTree) (settings : TrackerSettings) (tracker : Tracker) :
    List Call → List (Except QueryError Bool) × Tracker
  | [] => ([], tracker)
  | call :: calls =>
      let (result, tracker) := Query.run (Tracker.respond tree) (call.rest settings) tracker
      let (results, tracker) := finish tree settings tracker calls
      (result :: results, tracker)

variable {tree : FileTree} {settings : TrackerSettings} {tracker other : Tracker}
  {calls : List Call} {file : Wide}

theorem finish_cons (tracker : Tracker) (call : Call) (calls : List Call) :
    finish tree settings tracker (call :: calls) =
      ((Query.run (Tracker.respond tree) (call.rest settings) tracker).1 ::
          (finish tree settings
            (Query.run (Tracker.respond tree) (call.rest settings) tracker).2 calls).1,
        (finish tree settings
          (Query.run (Tracker.respond tree) (call.rest settings) tracker).2 calls).2) := rfl

theorem finish_append (tracker : Tracker) (before after : List Call) :
    finish tree settings tracker (before ++ after) =
      ((finish tree settings tracker before).1 ++
          (finish tree settings (finish tree settings tracker before).2 after).1,
        (finish tree settings (finish tree settings tracker before).2 after).2) := by
  induction before generalizing tracker with
  | nil => rfl
  | cons call rest ih =>
      rw [List.cons_append, finish_cons, finish_cons, ih]
      rfl

/-- Calls come to the same on trackers that are the same for the files of all calls that have yet
something to do, and leave the trackers the same for these files. -/
theorem finish_same (files : Wide → Prop)
    (hcalls : ∀ call ∈ calls, call.KeepsTo settings ∧
      (files call.file ∨ ∃ result, call.rest settings = .done result))
    (h : ∀ file, files file → Tracker.SameOn tree file tracker other) :
    (finish tree settings tracker calls).1 = (finish tree settings other calls).1 ∧
      ∀ file, files file → Tracker.SameOn tree file (finish tree settings tracker calls).2
        (finish tree settings other calls).2 := by
  induction calls generalizing tracker other with
  | nil => exact ⟨rfl, h⟩
  | cons call rest ih =>
      obtain ⟨⟨hkeeps, hfiles⟩, hrest⟩ := List.forall_mem_cons.mp hcalls
      have hcall : (Query.run (Tracker.respond tree) (call.rest settings) tracker).1 =
            (Query.run (Tracker.respond tree) (call.rest settings) other).1 ∧
          ∀ file, files file → Tracker.SameOn tree file
            (Query.run (Tracker.respond tree) (call.rest settings) tracker).2
            (Query.run (Tracker.respond tree) (call.rest settings) other).2 := by
        -- A call that has nothing left to do makes no request, whatever its file is.
        rcases hfiles with hfile | ⟨result, hdone⟩
        · refine ⟨((h _ hfile).run hkeeps).1, fun file hin => ?_⟩
          by_cases heq : file = call.file
          · subst heq
            exact ((h _ hfile).run hkeeps).2
          · exact (Tracker.sameOn_run hkeeps heq tracker).symm.trans
              ((h file hin).trans (Tracker.sameOn_run hkeeps heq other))
        · rw [hdone]
          exact ⟨rfl, h⟩
      obtain ⟨hresults, hafter⟩ := ih hrest hcall.2
      simp only [finish, hcall.1, hresults]
      exact ⟨trivial, hafter⟩

theorem sameOn_finish (tree : FileTree) (hcalls : ∀ call ∈ calls, call.KeepsTo settings)
    (hsettled : ∀ call ∈ calls, call.file = file → ∃ result, call.rest settings = .done result)
    (tracker : Tracker) :
    Tracker.SameOn tree file tracker (finish tree settings tracker calls).2 := by
  induction calls generalizing tracker with
  | nil => exact .refl tree file tracker
  | cons call rest ih =>
      obtain ⟨hkeeps, hrest⟩ := List.forall_mem_cons.mp hcalls
      obtain ⟨hcall, hlater⟩ := List.forall_mem_cons.mp hsettled
      refine Tracker.SameOn.trans ?_ (ih hrest hlater _)
      by_cases heq : call.file = file
      · obtain ⟨result, hdone⟩ := hcall heq
        rw [hdone]
        exact .refl tree file tracker
      · exact Tracker.sameOn_run hkeeps (Ne.symm heq) tracker

/-- A request about a file concerns none of the calls before it, as long as those on its file have
settled: made before them or after them, it is answered alike, and they come to the same. -/
theorem finish_respond (tree : FileTree) (tracker : Tracker) {before : List Call} {file : Wide}
    {r : Request} (hbefore : ∀ call ∈ before, call.KeepsTo settings)
    (hlocks : Locks before file none) (hown : (Query.request r).Uses (Request.IsAbout file)) :
    (finish tree settings (Tracker.respond tree r tracker).2 before).1 =
        (finish tree settings tracker before).1 ∧
      (Tracker.respond tree r tracker).1 =
        (Tracker.respond tree r (finish tree settings tracker before).2).1 ∧
      ∀ other, Tracker.SameOn tree other
        (finish tree settings (Tracker.respond tree r tracker).2 before).2
        (Tracker.respond tree r (finish tree settings tracker before).2).2 := by
  have hdone : ∀ call ∈ before, call.file = file → ∃ result, call.rest settings = .done result :=
    fun call hmem hfile => Call.exists_rest_of_isSettled (hlocks call hmem hfile) settings
  have hfiles : ∀ call ∈ before, call.KeepsTo settings ∧
      (call.file ≠ file ∨ ∃ result, call.rest settings = .done result) := by
    intro call hmem
    refine ⟨hbefore call hmem, ?_⟩
    by_cases hfile : call.file = file
    · exact Or.inr (hdone call hmem hfile)
    · exact Or.inl hfile
  obtain ⟨hresults, hothers⟩ := finish_same (fun other => other ≠ file) hfiles
    fun other hne => Tracker.sameOn_run hown hne tracker
  have hkept := sameOn_finish tree hbefore hdone tracker
  have hkept' := sameOn_finish tree hbefore hdone (Tracker.respond tree r tracker).2
  obtain ⟨hanswer, hsame⟩ := hkept.run hown
  refine ⟨hresults.symm, hanswer, fun other => ?_⟩
  by_cases hother : other = file
  · subst hother
    exact hkept'.symm.trans hsame
  · exact (hothers other hother).symm.trans (Tracker.sameOn_run hown hother _)

/-- The step lemma of the results: a request that is made before its turn is made in its turn as
well, as far as anyone can tell. -/
theorem finish_request (tree : FileTree) (tracker : Tracker) {before after : List Call}
    {question : Question} {r : Request}
    {next : r.Answer → Query (Except QueryError Bool)}
    (hcalls : ∀ call ∈ before ++ ⟨question, .running (.ask r next)⟩ :: after,
      call.KeepsTo settings)
    (hlocks : Locks before question.range.file none) :
    (finish tree settings (Tracker.respond tree r tracker).2
          (before ++ ⟨question, .running (next (Tracker.respond tree r tracker).1)⟩ :: after)).1 =
        (finish tree settings tracker (before ++ ⟨question, .running (.ask r next)⟩ :: after)).1 ∧
      ∀ file, Tracker.SameOn tree file
        (finish tree settings (Tracker.respond tree r tracker).2
          (before ++ ⟨question, .running (next (Tracker.respond tree r tracker).1)⟩ :: after)).2
        (finish tree settings tracker
          (before ++ ⟨question, .running (.ask r next)⟩ :: after)).2 := by
  rw [List.forall_mem_append, List.forall_mem_cons] at hcalls
  obtain ⟨hbefore, hcall, hafter⟩ := hcalls
  obtain ⟨hresults, hanswer, hstates⟩ :=
    @finish_respond settings tree tracker before _ r hbefore hlocks ⟨hcall.1, fun _ => trivial⟩
  have hnext : ∀ call ∈ ⟨question, .running (next (Tracker.respond tree r tracker).1)⟩ :: after,
      call.KeepsTo settings ∧ (True ∨ ∃ result, call.rest settings = .done result) :=
    List.forall_mem_cons.mpr ⟨⟨hcall.2 _, Or.inl trivial⟩,
      fun call hmem => ⟨hafter call hmem, Or.inl trivial⟩⟩
  obtain ⟨hrest, hlast⟩ := finish_same (fun _ => True) hnext fun file _ => hstates file
  have hturn : finish tree settings (finish tree settings tracker before).2
      (⟨question, .running (.ask r next)⟩ :: after) =
        finish tree settings (Tracker.respond tree r (finish tree settings tracker before).2).2
          (⟨question, .running (next (Tracker.respond tree r tracker).1)⟩ :: after) := by
    rw [hanswer]
    rfl
  rw [finish_append, finish_append, hturn]
  exact ⟨by rw [hresults, hrest], fun file => hlast file trivial⟩

/-- What a run has come to so far: each call keeps to its file, and to finish all calls in turn
comes to what asking the questions one after the other comes to. -/
structure Completes (tree : FileTree) (tracker : Tracker) (turns : Turns) : Prop where
  settings : turns.tracker.settings = tracker.settings
  keeps : ∀ call ∈ turns.calls, call.KeepsTo tracker.settings
  results : (finish tree tracker.settings turns.tracker turns.calls).1 =
    (tracker.askAll tree (turns.calls.map Call.question)).1
  sameOn : ∀ file, Tracker.SameOn tree file
    (finish tree tracker.settings turns.tracker turns.calls).2
    (tracker.askAll tree (turns.calls.map Call.question)).2

theorem completes_idle (tree : FileTree) (tracker : Tracker) :
    Completes tree tracker { tracker } :=
  ⟨rfl, by simp, rfl, fun file => .refl tree file tracker⟩

variable {turns after : Turns}

theorem Completes.launch (h : Completes tree tracker turns) (question : Question) :
    Completes tree tracker (turns.launch question) := by
  have hsettings := Tracker.settings_askAll tracker tree (turns.calls.map Call.question)
  have hrun (finished : Tracker) : finish tree tracker.settings finished
        [⟨question, .waiting (turns.locks.get? question.range.file)⟩] =
      ([(Query.run (Tracker.respond tree)
          (tracker.settings.answer question.range question.origin).run finished).1],
        (Query.run (Tracker.respond tree)
          (tracker.settings.answer question.range question.origin).run finished).2) := rfl
  have huses := Tracker.uses_answer tracker.settings question.range question.origin
  obtain ⟨hresult, hsame⟩ := (h.sameOn question.range.file).run huses
  refine ⟨h.settings, ?_, ?_, fun file => ?_⟩
  · intro call hmem
    rcases List.mem_append.mp hmem with hold | hnew
    · exact h.keeps call hold
    · obtain rfl := List.mem_singleton.mp hnew
      exact huses
  · simp only [Turns.launch, List.map_append, List.map_cons, List.map_nil]
    rw [finish_append, Tracker.askAll_append, hrun, Tracker.askAll_cons, h.results,
      Tracker.isIgnored, hsettings, hresult]
    rfl
  · simp only [Turns.launch, List.map_append, List.map_cons, List.map_nil]
    rw [finish_append, Tracker.askAll_append, hrun, Tracker.askAll_cons, Tracker.isIgnored,
      hsettings]
    by_cases hfile : file = question.range.file
    · subst hfile
      exact hsame
    · exact (Tracker.sameOn_run huses hfile _).symm.trans
        ((h.sameOn file).trans (Tracker.sameOn_run huses hfile _))

theorem Completes.replace (h : Completes tree tracker turns) {before after : List Call}
    {call : Call} (hcalls : turns.calls = before ++ call :: after) (next : Call)
    (hquestion : next.question = call.question)
    (hrest : next.rest tracker.settings = call.rest tracker.settings) (locks : Entries Nat) :
    Completes tree tracker { turns with calls := before ++ next :: after, locks } := by
  obtain ⟨hsettings, hkeeps, hresults, hsame⟩ := h
  have hquestions : (before ++ next :: after).map Call.question =
      (before ++ call :: after).map Call.question := by simp [hquestion]
  have hfinish : finish tree tracker.settings turns.tracker (before ++ next :: after) =
      finish tree tracker.settings turns.tracker (before ++ call :: after) := by
    rw [finish_append, finish_append, finish_cons, finish_cons, hrest]
  rw [hcalls] at hkeeps hresults hsame
  refine ⟨hsettings, ?_, ?_, fun file => ?_⟩
  · rw [List.forall_mem_append, List.forall_mem_cons] at hkeeps ⊢
    refine ⟨hkeeps.1, ?_, hkeeps.2.2⟩
    rw [Call.KeepsTo, hrest, Call.file, hquestion]
    exact hkeeps.2.1
  · rw [hfinish, hquestions]
    exact hresults
  · rw [hfinish, hquestions]
    exact hsame file

theorem Completes.advance (h : Completes tree tracker turns) (hordered : Ordered turns)
    (hstep : Advance tree turns after) : Completes tree tracker after := by
  cases hstep with
  | start hcalls _ =>
      refine h.replace hcalls _ ?_ ?_ _
      · rfl
      · rw [h.settings]
        rfl
  | answer hcalls =>
      refine h.replace hcalls _ ?_ ?_ _
      · rfl
      · rfl
  | settle hcalls =>
      refine h.replace hcalls _ ?_ ?_ _
      · rfl
      · rfl
  | @request before rest question r next hcalls =>
      obtain ⟨hsettings, hkeeps, hresults, hsame⟩ := h
      rw [hcalls] at hkeeps hresults hsame
      obtain ⟨hresults', hsame'⟩ := finish_request tree turns.tracker hkeeps
        (hordered.queued before _ rest hcalls)
      refine ⟨(Tracker.settings_respond tree r turns.tracker).trans hsettings, ?_, ?_,
        fun file => ?_⟩
      · rw [List.forall_mem_append, List.forall_mem_cons] at hkeeps ⊢
        exact ⟨hkeeps.1, hkeeps.2.1.2 _, hkeeps.2.2⟩
      · simpa using hresults'.trans hresults
      · simpa using (hsame' file).trans (hsame file)

theorem Reached.completes (h : Reached tree tracker turns) : Completes tree tracker turns := by
  induction h with
  | idle => exact completes_idle tree tracker
  | launch question _ ih => exact ih.launch question
  | advance hreached hstep ih => exact ih.advance hreached.ordered hstep

end Turns

end Suppression
