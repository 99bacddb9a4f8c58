import Suppression.Proofs.Resolving

namespace Suppression

namespace Tracker

variable {tree : FileTree} {tracker other after after' : Tracker} {file : Wide}

/-- Two trackers come by the same about a file, if they have not done so before: what one of them
has found out, the other one may still have to make out. -/
structure Resumes (tree : FileTree) (file : Wide) (tracker other : Tracker) : Prop where
  matcher : other.settings.matcher = tracker.settings.matcher
  kept : (other.kept tree).map (fun cache => cache.get? file) =
    (tracker.kept tree).map fun cache => cache.get? file
  source : (other.reader.source tree file).1 = (tracker.reader.source tree file).1
  resolved : other.resolved tree file = tracker.resolved tree file

theorem AlikeOn.resolved_eq (h : AlikeOn tree file tracker other) :
    other.resolved tree file = tracker.resolved tree file := by
  have hload (fingerprint : Wide) : (other.load tree file fingerprint).1 =
      (tracker.load tree file fingerprint).1 := load_fst_congr h.kept fingerprint
  simp only [resolved, h.record, h.source, hload]

theorem AlikeOn.resumes (h : AlikeOn tree file tracker other) : Resumes tree file tracker other :=
  ⟨h.matcher, h.kept, h.source, h.resolved_eq⟩

theorem Resumes.congr (h : Resumes tree file tracker other)
    (hleft : AlikeOn tree file tracker after) (hright : AlikeOn tree file other after') :
    Resumes tree file after after' := by
  refine ⟨?_, ?_, ?_, ?_⟩
  · rw [hright.matcher, hleft.matcher, h.matcher]
  · rw [hright.kept, hleft.kept, h.kept]
  · rw [hright.source, hleft.source, h.source]
  · rw [hright.resolved_eq, hleft.resolved_eq, h.resolved]

theorem Resumes.trans {third : Tracker} (h : Resumes tree file tracker other)
    (h' : Resumes tree file other third) : Resumes tree file tracker third :=
  ⟨h'.matcher.trans h.matcher, h'.kept.trans h.kept, h'.source.trans h.source,
    h'.resolved.trans h.resolved⟩

theorem Resumes.alikeOn_resolve (h : Resumes tree file tracker other) :
    AlikeOn tree file (tracker.resolve tree file) (other.resolve tree file) := by
  unfold resolve
  rw [h.resolved]
  cases hresolved : tracker.resolved tree file with
  | ok record => exact ⟨h.matcher, by simp [Entries.get?_put], h.kept, h.source⟩
  | error e =>
      refine ⟨h.matcher, ?_, h.kept, h.source⟩
      rw [get?_of_resolved_error hresolved, get?_of_resolved_error (h.resolved.trans hresolved)]

theorem reads_resolve (tracker : Tracker) (tree : FileTree) (file : Wide) :
    (tracker.resolve tree file).reads = tracker.reads := by
  unfold resolve
  split <;> rfl

/-- A question is answered alike, reading the same lines, and from then on the trackers are alike in
what concerns its file. -/
theorem Resumes.isIgnored {range : Range} (h : Resumes tree range.file tracker other)
    (origin : Origin) :
    (tracker.isIgnored tree range origin).1 = (other.isIgnored tree range origin).1 ∧
      AlikeOn tree range.file (tracker.isIgnored tree range origin).2
        (other.isIgnored tree range origin).2 ∧
      ∃ news, (tracker.isIgnored tree range origin).2.reads = tracker.reads ++ news ∧
        (other.isIgnored tree range origin).2.reads = other.reads ++ news := by
  obtain ⟨resolved, hrun, hrests⟩ := run_resolve tracker tree tracker.settings range.file
  obtain ⟨resolved', hrun', hrests'⟩ := run_resolve other tree other.settings range.file
  have halike : AlikeOn tree range.file resolved resolved' := by
    have hleft := (hrests.alikeOn range.file).symm
    exact (hleft.trans h.alikeOn_resolve).trans (hrests'.alikeOn range.file)
  have hreads : resolved.reads = tracker.reads := hrests.reads.trans (reads_resolve _ _ _)
  have hreads' : resolved'.reads = other.reads := hrests'.reads.trans (reads_resolve _ _ _)
  unfold Tracker.isIgnored
  rw [TrackerSettings.answer_eq, TrackerSettings.answer_eq]
  rw [h.resolved] at hrun'
  cases hresolved : tracker.resolved tree range.file with
  | error e =>
      rw [hresolved] at hrun hrun'
      rw [Asking.run_bind_error hrun, Asking.run_bind_error hrun']
      exact ⟨rfl, halike, [], by rw [hreads, List.append_nil], by rw [hreads', List.append_nil]⟩
  | ok record =>
      rw [hresolved] at hrun hrun'
      rw [Asking.run_bind_ok hrun, Asking.run_bind_ok hrun', ← hreads, ← hreads']
      exact (TrackerSettings.answerFrom_agree h.matcher range origin record).run_alike
        (fun _ => And.left) halike

/-- The run lemma of going on: a sequence of questions about some files is answered alike, reading
the same lines, and what has been asked about is known alike. -/
theorem Resumes.askAll {files : Wide → Prop} {questions : List Question}
    (h : ∀ file, files file → Resumes tree file tracker other)
    (hquestions : ∀ question ∈ questions, files question.range.file) :
    (tracker.askAll tree questions).1 = (other.askAll tree questions).1 ∧
      (∃ news, (tracker.askAll tree questions).2.reads = tracker.reads ++ news ∧
        (other.askAll tree questions).2.reads = other.reads ++ news) ∧
      (∀ file, files file →
        Resumes tree file (tracker.askAll tree questions).2 (other.askAll tree questions).2) ∧
      ∀ file, (AlikeOn tree file tracker other ∨ ∃ question ∈ questions,
          question.range.file = file) →
        AlikeOn tree file (tracker.askAll tree questions).2 (other.askAll tree questions).2 := by
  induction questions generalizing tracker other with
  | nil =>
      refine ⟨rfl, ⟨[], (List.append_nil _).symm, (List.append_nil _).symm⟩, h, ?_⟩
      intro file hfile
      rcases hfile with halike | ⟨question, hmem, -⟩
      · exact halike
      · simp at hmem
  | cons question rest ih =>
      obtain ⟨hfirst, hrest⟩ := List.forall_mem_cons.mp hquestions
      obtain ⟨hanswer, halike, news, hnews, hnews'⟩ :=
        (h _ hfirst).isIgnored question.origin
      -- What concerns another file is as before.
      have helsewhere {file : Wide} (hne : file ≠ question.range.file) (tracker : Tracker) :=
        @isIgnored_elsewhere tree question.range file hne tracker question.origin
      obtain ⟨hanswers, ⟨later, hlater, hlater'⟩, hresumes, hknown⟩ :=
        @ih (tracker.isIgnored tree question.range question.origin).2
          (other.isIgnored tree question.range question.origin).2 (fun file hfile => by
            by_cases heq : file = question.range.file
            · exact heq ▸ halike.resumes
            · exact (h file hfile).congr (helsewhere heq tracker) (helsewhere heq other)) hrest
      rw [askAll_cons, askAll_cons]
      refine ⟨by rw [hanswer, hanswers], ⟨news ++ later, ?_, ?_⟩, hresumes, fun file hfile => ?_⟩
      · rw [hlater, hnews, List.append_assoc]
      · rw [hlater', hnews', List.append_assoc]
      · by_cases heq : file = question.range.file
        · exact hknown file (Or.inl (heq ▸ halike))
        · refine hknown file ?_
          rcases hfile with hbefore | ⟨asked, hmem, rfl⟩
          · left
            exact ((helsewhere heq tracker).symm.trans hbefore).trans (helsewhere heq other)
          · rcases List.mem_cons.mp hmem with rfl | hmem
            · exact absurd rfl heq
            · exact Or.inr ⟨asked, hmem, rfl⟩

/-- A file is known up to a line, at least. -/
def KnowsTo (file : Wide) (line : Nat) (tracker : Tracker) : Prop :=
  ∃ record reached, tracker.records.get? file = some record ∧
    record.watermark = .ofNat reached ∧ line ≤ reached

theorem KnowsTo.elsewhere {line : Nat} (h : tracker.KnowsTo file line)
    (helsewhere : AlikeOn tree file tracker other) : other.KnowsTo file line := by
  obtain ⟨record, reached, hrecord, hreached, hle⟩ := h
  exact ⟨record, reached, helsewhere.record.trans hrecord, hreached, hle⟩

end Tracker

namespace Query

variable {α : Type} {p : Request → Prop} {query : Query α} {tree : FileTree} {file : Wide}

theorem Uses.knowsTo {line : Nat} (h : query.Uses (TrackerSettings.GoesOn file (.ofNat line)))
    {tracker : Tracker} (hknown : tracker.KnowsTo file line) :
    (run (Tracker.respond tree) query tracker).2.KnowsTo file line := by
  refine h.run_keeps (fun r state hp hstate => ?_) hknown
  by_cases hr : ∀ file record, r ≠ .remember file record
  · obtain ⟨record, reached, hrecord, hreached⟩ := hstate
    exact ⟨record, reached, (Tracker.records_respond r hr).symm ▸ hrecord, hreached⟩
  · push Not at hr
    obtain ⟨asked, record, rfl⟩ := hr
    obtain ⟨habout, hbeyond⟩ := hp asked rfl
    obtain rfl : asked = file := Option.some.inj habout
    have hrecord : (Tracker.respond tree (.remember asked record) state).2.records.get?
        asked = some record := by simp [Tracker.respond, Entries.get?_put]
    rcases hbeyond with hsame | ⟨last, hlast, hnot⟩
    · exact ⟨record, line, hrecord, hsame, le_rfl⟩
    · rw [Number.ofNat_le_ofNat, not_le] at hnot
      exact ⟨record, last, hrecord, hlast, hnot.le⟩

end Query

namespace Tracker

variable {tree : FileTree} {tracker : Tracker} {file : Wide} {line : Nat}

/-- The step lemma of what is known: it is neither read again nor given up. -/
theorem KnowsTo.isIgnored (h : tracker.KnowsTo file line) (tree : FileTree) (range : Range)
    (origin : Origin) :
    (tracker.isIgnored tree range origin).2.KnowsTo file line ∧
      ∃ news, (tracker.isIgnored tree range origin).2.reads = tracker.reads ++ news ∧
        ∀ read ∈ news, read.1 = file → line < read.2 := by
  by_cases heq : file = range.file
  · subst heq
    obtain ⟨record, reached, hrecord, hreached, hle⟩ := h
    have hknown : respond tree (.known range.file) tracker = (some record, tracker) :=
      congrArg (·, tracker) hrecord
    have hrun := @Asking.run_resolve_known _ _ _ _ _ tracker.settings _ hknown
    have huses := (@TrackerSettings.answerFrom_agree tracker.settings tracker.settings rfl range
      origin record).uses
    rw [hreached] at huses
    obtain ⟨news, hnews, hall⟩ := huses.reads_run tree tracker
    unfold Tracker.isIgnored
    rw [TrackerSettings.answer_eq, Asking.run_bind_ok hrun]
    obtain ⟨record', reached', hrecord', hreached', hle'⟩ :=
      @Query.Uses.knowsTo _ _ tree _ _ huses tracker ⟨record, reached, hrecord, hreached, le_rfl⟩
    refine ⟨⟨record', reached', hrecord', hreached', hle.trans hle'⟩, news, hnews, ?_⟩
    intro read hmem _
    have hbeyond : Number.ofNat reached < Number.ofNat read.2 := (hall read hmem).2
    rw [Number.ofNat_lt_ofNat] at hbeyond
    exact hle.trans_lt hbeyond
  · obtain ⟨news, hnews, hall⟩ := reads_isIgnored tracker tree range origin
    refine ⟨h.elsewhere (isIgnored_elsewhere heq tracker origin), news, hnews, ?_⟩
    intro read hmem hfile
    exact absurd (hfile.symm.trans (hall read hmem)) heq

theorem KnowsTo.askAll (h : tracker.KnowsTo file line) (tree : FileTree)
    (questions : List Question) :
    (tracker.askAll tree questions).2.KnowsTo file line ∧
      ∃ news, (tracker.askAll tree questions).2.reads = tracker.reads ++ news ∧
        ∀ read ∈ news, read.1 = file → line < read.2 := by
  induction questions generalizing tracker with
  | nil => exact ⟨h, [], (List.append_nil _).symm, by simp⟩
  | cons question rest ih =>
      obtain ⟨hknown, news, hnews, hall⟩ := h.isIgnored tree question.range question.origin
      obtain ⟨hknown', later, hlater, hall'⟩ := ih hknown
      rw [askAll_cons]
      refine ⟨hknown', news ++ later, ?_, ?_⟩
      · rw [hlater, hnews, List.append_assoc]
      · intro read hmem
        rcases List.mem_append.mp hmem with hfirst | hrest
        · exact hall read hfirst
        · exact hall' read hrest

theorem resumes_resolve_self (tracker : Tracker) (tree : FileTree) (resolved file : Wide) :
    Resumes tree file tracker (tracker.resolve tree resolved) := by
  cases hresolved : tracker.resolved tree resolved with
  | error e => simpa only [resolve, hresolved] using (AlikeOn.refl tree file tracker).resumes
  | ok record =>
      simp only [resolve, hresolved]
      by_cases heq : file = resolved
      · subst heq
        refine ⟨rfl, rfl, rfl, (resolved_of_get? ?_ tree).trans hresolved.symm⟩
        rw [Entries.get?_put, if_pos rfl]
      · exact AlikeOn.resumes ⟨rfl, by rw [Entries.get?_put, if_neg heq], rfl, rfl⟩

theorem reads_beyond_resolved {record : Record} (h : tracker.resolved tree file = .ok record)
    (hline : record.watermark = .ofNat line) (questions : List Question) :
    ∃ news, (tracker.askAll tree questions).2.reads = tracker.reads ++ news ∧
      ∀ read ∈ news, read.1 = file → line < read.2 := by
  have hknows : (tracker.resolve tree file).KnowsTo file line := by
    refine ⟨record, line, ?_, hline, le_rfl⟩
    simp only [resolve, h, Entries.get?_put, if_true]
  obtain ⟨-, news, hnews, hall⟩ := hknows.askAll tree questions
  obtain ⟨-, ⟨same, hsame, hsame'⟩, -⟩ := @Resumes.askAll tree tracker (tracker.resolve tree file)
    (fun _ => True) questions (fun other _ => resumes_resolve_self tracker tree file other)
    (fun _ _ => trivial)
  obtain rfl : same = news := List.append_cancel_left (hsame'.symm.trans hnews)
  exact ⟨same, hsame, hall⟩

end Tracker

end Suppression
