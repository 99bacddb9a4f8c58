import Mathlib.Tactic.Abel
import Mathlib.Logic.Hydra
import Suppression.Proofs.LazyScanning

/-!
Calls that take turns. Questions may be put to a tracker before earlier ones have been answered:
then each waits for the call before it on the same file, and calls on different files proceed
request by request in any order. A call starts when all earlier ones on its file have settled
(`Turns.Reached.queued`), some call can always proceed until all have settled (`exists_advance`),
and none can do so for ever (`wellFounded_advance`).
-/

namespace Suppression

/-- How far a call has come. -/
inductive Stage where
  /-- It waits for an earlier call on its file, or may start at once. -/
  | waiting (previous : Option Nat)
  /-- It has yet to do the rest of its computation. -/
  | running (rest : Query (Except QueryError Bool))
  /-- It has come to a result, for which the calls after it still wait. -/
  | answered (result : Except QueryError Bool)
  | settled (result : Except QueryError Bool)

/-- What a call waits for, if it has not started. -/
def Stage.previous? : Stage → Option Nat
  | waiting previous => previous
  | _ => none

def Stage.isSettled : Stage → Bool
  | settled _ => true
  | _ => false

theorem Stage.previous?_of_isSettled {stage : Stage} (h : stage.isSettled = true) :
    stage.previous? = none := by
  cases stage with
  | waiting previous => simp [isSettled] at h
  | _ => rfl

structure Call where
  question : Question
  stage : Stage

/-- A tracker with the calls on it, in the order in which they were launched. A file is locked by
the last call on it, until that call has settled. -/
structure Turns where
  tracker : Tracker
  calls : List Call := []
  locks : Entries Nat := []

namespace Call

def file (call : Call) : Wide :=
  call.question.range.file

def isSettled (call : Call) : Bool :=
  call.stage.isSettled

end Call

namespace Turns

def SettledAt (calls : List Call) (index : Nat) : Prop :=
  ∃ call, calls[index]? = some call ∧ call.isSettled = true

/-- Puts one more question: the call waits for the one that locks the file, and locks it in turn. -/
def launch (turns : Turns) (question : Question) : Turns :=
  { turns with
    calls := turns.calls ++ [⟨question, .waiting (turns.locks.get? question.range.file)⟩]
    locks := turns.locks.put question.range.file turns.calls.length }

/-- The locks after a call has settled: its own is removed, unless a later call has taken it. -/
def unlock (locks : Entries Nat) (file : Wide) (index : Nat) : Entries Nat :=
  if locks.get? file = some index then locks.remove file else locks

/-- One call comes further by one step. -/
inductive Advance (tree : FileTree) (turns : Turns) : Turns → Prop
  | start {before after : List Call} {question : Question} {previous : Option Nat} :
      turns.calls = before ++ ⟨question, .waiting previous⟩ :: after →
      (∀ index, previous = some index → SettledAt turns.calls index) →
        Advance tree turns { turns with
          calls := before ++ ⟨question, .running
            (turns.tracker.settings.answer question.range question.origin).run⟩ :: after }
  | request {before after : List Call} {question : Question} {r : Request}
      {next : r.Answer → Query (Except QueryError Bool)} :
      turns.calls = before ++ ⟨question, .running (.ask r next)⟩ :: after →
        Advance tree turns { turns with
          tracker := (Tracker.respond tree r turns.tracker).2
          calls := before ++
            ⟨question, .running (next (Tracker.respond tree r turns.tracker).1)⟩ :: after }
  | answer {before after : List Call} {question : Question}
      {result : Except QueryError Bool} :
      turns.calls = before ++ ⟨question, .running (.done result)⟩ :: after →
        Advance tree turns { turns with
          calls := before ++ ⟨question, .answered result⟩ :: after }
  | settle {before after : List Call} {question : Question}
      {result : Except QueryError Bool} :
      turns.calls = before ++ ⟨question, .answered result⟩ :: after →
        Advance tree turns { turns with
          calls := before ++ ⟨question, .settled result⟩ :: after
          locks := unlock turns.locks question.range.file before.length }

/-- What can come of a tracker without calls, in whatever order calls are launched and proceed. -/
inductive Reached (tree : FileTree) (tracker : Tracker) : Turns → Prop
  | idle : Reached tree tracker { tracker }
  | launch {turns : Turns} (question : Question) : Reached tree tracker turns →
      Reached tree tracker (turns.launch question)
  | advance {turns after : Turns} : Reached tree tracker turns → Advance tree turns after →
      Reached tree tracker after

/-- A lock on a file is that of the last of some calls that is about the file. Without a lock, all
calls about the file have settled. -/
def Locks (calls : List Call) (file : Wide) : Option Nat → Prop
  | none => ∀ call ∈ calls, call.file = file → call.isSettled = true
  | some index => (calls.map Call.file)[index]? = some file ∧
      file ∉ (calls.map Call.file).drop (index + 1)

/-- A call waits for the last call before it on its file. Once it has started, all of these have
settled. -/
def Queued (calls : List Call) : Prop :=
  ∀ before call after, calls = before ++ call :: after →
    Locks before call.file call.stage.previous?

section queue

variable {calls before after : List Call} {call next : Call} {file : Wide} {lock : Option Nat}

theorem queued_nil : Queued [] := by
  intro before call after h
  simp at h

theorem queued_concat : Queued (calls ++ [call]) ↔
    Queued calls ∧ Locks calls call.file call.stage.previous? := by
  constructor
  · intro h
    constructor
    · rintro before other after rfl
      exact h before other (after ++ [call]) (by simp)
    · exact h calls call [] rfl
  · rintro ⟨hcalls, hcall⟩ before other after heq
    rcases List.eq_nil_or_concat after with rfl | ⟨after, last, rfl⟩
    · obtain ⟨rfl, hlast⟩ := List.append_inj' heq rfl
      obtain rfl := List.singleton_inj.mp hlast
      exact hcall
    · rw [List.concat_eq_append, ← List.cons_append, ← List.append_assoc] at heq
      exact hcalls before other after (List.append_inj' heq rfl).1

theorem Locks.replace (h : Locks (before ++ call :: after) file lock)
    (hfile : next.file = call.file)
    (hcall : call.isSettled = false) : Locks (before ++ next :: after) file lock := by
  cases lock with
  | none =>
      intro other hother hothers
      rcases List.mem_append.mp hother with hbefore | hrest
      · exact h other (List.mem_append_left _ hbefore) hothers
      · rcases List.mem_cons.mp hrest with rfl | hafter
        · have := h call (List.mem_append_right _ List.mem_cons_self) (hfile.symm.trans hothers)
          rw [this] at hcall
          exact absurd hcall (by simp)
        · exact h other (List.mem_append_right _ (List.mem_cons_of_mem _ hafter)) hothers
  | some index =>
      have hsame : (before ++ next :: after).map Call.file =
          (before ++ call :: after).map Call.file := by simp [hfile]
      rw [Locks, hsame]
      exact h

theorem Queued.replace (h : Queued (before ++ call :: after)) (hfile : next.file = call.file)
    (hcall : call.isSettled = false) (hnext : Locks before next.file next.stage.previous?) :
    Queued (before ++ next :: after) := by
  induction after using List.reverseRecOn with
  | nil =>
      rw [queued_concat] at h ⊢
      exact ⟨h.1, hnext⟩
  | append_singleton after last ih =>
      rw [← List.cons_append, ← List.append_assoc, queued_concat] at h ⊢
      exact ⟨ih h.1, h.2.replace hfile hcall⟩

theorem Queued.locks_none (h : Queued (before ++ call :: after))
    (hsettled : ∀ index, call.stage.previous? = some index →
      SettledAt (before ++ call :: after) index) : Locks before call.file none := by
  have hcall := h before call after rfl
  cases hprevious : call.stage.previous? with
  | none => rwa [hprevious] at hcall
  | some index =>
      rw [hprevious] at hcall
      obtain ⟨hindex, hlater⟩ := hcall
      rw [List.getElem?_map, Option.map_eq_some_iff] at hindex
      obtain ⟨last, hlast, hfile⟩ := hindex
      obtain ⟨hlt, hget⟩ := List.getElem?_eq_some_iff.mp hlast
      obtain ⟨other, hother, hdone⟩ := hsettled index hprevious
      rw [List.getElem?_append_left hlt, hlast] at hother
      obtain rfl := Option.some.inj hother
      -- The earlier calls: those before the last one, that one, and those after it.
      have hsplit : before = before.take index ++ last :: before.drop (index + 1) := by
        rw [← hget, List.getElem_cons_drop, List.take_append_drop]
      have hearlier := h (before.take index) last (before.drop (index + 1) ++ call :: after) (by
        rw [← List.cons_append, ← List.append_assoc, ← hsplit])
      have hnone : last.stage.previous? = none := Stage.previous?_of_isSettled hdone
      rw [hnone, hfile] at hearlier
      intro earlier hmem hsame
      rw [hsplit] at hmem
      rcases List.mem_append.mp hmem with hfirst | hrest
      · exact hearlier earlier hfirst hsame
      · rcases List.mem_cons.mp hrest with rfl | hafter
        · exact hdone
        · rw [← List.map_drop] at hlater
          exact absurd (hsame ▸ List.mem_map_of_mem hafter) hlater

theorem locks_launch (h : Locks calls file lock) (question : Question) (stage : Stage) :
    Locks (calls ++ [⟨question, stage⟩]) file
      (if file = question.range.file then some calls.length else lock) := by
  split
  · next heq =>
      refine ⟨by simp [Call.file, heq], ?_⟩
      rw [List.drop_eq_nil_of_le (by simp)]
      exact List.not_mem_nil
  · next hne =>
      cases lock with
      | none =>
          intro call hmem hfile
          rcases List.mem_append.mp hmem with hold | hnew
          · exact h call hold hfile
          · obtain rfl := List.mem_singleton.mp hnew
            exact absurd hfile.symm hne
      | some index =>
          obtain ⟨hindex, hlater⟩ := h
          have hlt : index < (calls.map Call.file).length :=
            (List.getElem?_eq_some_iff.mp hindex).1
          rw [Locks, List.map_append, List.getElem?_append_left hlt,
            List.drop_append_of_le_length hlt]
          refine ⟨hindex, fun hmem => ?_⟩
          rcases List.mem_append.mp hmem with hold | hnew
          · exact hlater hold
          · exact hne (List.mem_singleton.mp hnew)

theorem locks_settle (hbefore : Locks before call.file none)
    (hlast : Locks (before ++ call :: after) call.file (some before.length))
    (hfile : next.file = call.file) (hnext : next.isSettled = true) :
    Locks (before ++ next :: after) call.file none := by
  obtain ⟨-, hlater⟩ := hlast
  intro other hother hothers
  rcases List.mem_append.mp hother with hfirst | hrest
  · exact hbefore other hfirst hothers
  · rcases List.mem_cons.mp hrest with rfl | hafter
    · exact hnext
    · have hdrop : (before ++ call :: after).drop (before.length + 1) = after := by
        rw [← List.drop_drop, List.drop_left, List.drop_succ_cons, List.drop_zero]
      rw [← List.map_drop, hdrop] at hlater
      exact absurd (hothers ▸ List.mem_map_of_mem hafter) hlater

end queue

/-- Calls on one file come one after the other, in the order in which they were launched. -/
structure Ordered (turns : Turns) : Prop where
  queued : Queued turns.calls
  locks : ∀ file, Locks turns.calls file (turns.locks.get? file)

variable {tree : FileTree} {tracker : Tracker} {turns after : Turns}

theorem Ordered.proceed (h : Ordered turns) (tracker : Tracker) {before rest : List Call}
    {call : Call} (next : Call) (hcalls : turns.calls = before ++ call :: rest)
    (hprevious : ∀ index, call.stage.previous? = some index → SettledAt turns.calls index)
    (hfile : next.file = call.file) (hcall : call.isSettled = false)
    (hnext : next.stage.previous? = none) :
    Ordered { turns with tracker, calls := before ++ next :: rest } := by
  obtain ⟨hqueued, hlocks⟩ := h
  rw [hcalls] at hqueued hlocks hprevious
  have hbefore : Locks before next.file next.stage.previous? := by
    rw [hfile, hnext]
    exact hqueued.locks_none hprevious
  exact ⟨hqueued.replace hfile hcall hbefore, fun file => (hlocks file).replace hfile hcall⟩

theorem Ordered.settle (h : Ordered turns) {before rest : List Call} {call : Call} (next : Call)
    (hcalls : turns.calls = before ++ call :: rest) (hfile : next.file = call.file)
    (hcall : call.isSettled = false) (hstarted : call.stage.previous? = none)
    (hnext : next.isSettled = true) :
    Ordered { turns with
      calls := before ++ next :: rest
      locks := unlock turns.locks call.file before.length } := by
  obtain ⟨hqueued, hlocks⟩ := h
  rw [hcalls] at hqueued hlocks
  have hbefore : Locks before call.file none := hstarted ▸ hqueued _ _ _ rfl
  have hnone : next.stage.previous? = none := Stage.previous?_of_isSettled hnext
  refine ⟨hqueued.replace hfile hcall (by rw [hfile, hnone]; exact hbefore), fun file => ?_⟩
  dsimp only [unlock]
  split
  · next hown =>
      rw [Entries.get?_remove]
      split
      · next heq =>
          subst heq
          exact locks_settle hbefore (hown ▸ hlocks call.file) hfile hnext
      · exact (hlocks file).replace hfile hcall
  · exact (hlocks file).replace hfile hcall

/-- The step lemma of the order. -/
theorem Ordered.advance (h : Ordered turns) (hstep : Advance tree turns after) : Ordered after := by
  cases hstep with
  | start hcalls hprevious => exact h.proceed _ _ hcalls hprevious rfl rfl rfl
  | request hcalls => exact h.proceed _ _ hcalls nofun rfl rfl rfl
  | answer hcalls => exact h.proceed _ _ hcalls nofun rfl rfl rfl
  | settle hcalls => exact h.settle _ hcalls rfl rfl rfl rfl

theorem Ordered.idle (h : Ordered turns) {before rest : List Call} {call : Call}
    (hcalls : turns.calls = before ++ call :: rest)
    (hprevious : ∀ index, call.stage.previous? = some index → SettledAt turns.calls index)
    (hcall : call.isSettled = false) {other : Call} (hother : other ∈ before ++ rest)
    (hfile : other.file = call.file) :
    other.isSettled = true ∨ ∃ index, other.stage.previous? = some index := by
  have hqueued := h.queued
  rw [hcalls] at hqueued hprevious
  rcases List.mem_append.mp hother with hearlier | hlater
  · exact Or.inl (hqueued.locks_none hprevious other hearlier hfile)
  · obtain ⟨between, last, rfl⟩ := List.append_of_mem hlater
    have hwaits := hqueued (before ++ call :: between) other last (by simp)
    cases hstage : other.stage.previous? with
    | some index => exact Or.inr ⟨index, rfl⟩
    | none =>
        rw [hstage] at hwaits
        have := hwaits call (by simp) hfile.symm
        rw [hcall] at this
        exact absurd this (by decide)

theorem Ordered.launch (h : Ordered turns) (question : Question) :
    Ordered (turns.launch question) := by
  refine ⟨queued_concat.mpr ⟨h.queued, h.locks question.range.file⟩, fun file => ?_⟩
  simp only [Turns.launch, Entries.get?_put]
  exact locks_launch (h.locks file) question _

theorem Reached.ordered (h : Reached tree tracker turns) : Ordered turns := by
  induction h with
  | idle => exact ⟨queued_nil, fun file => by simp [Entries.get?, Locks]⟩
  | launch question _ ih => exact ih.launch question
  | advance _ hstep ih => exact ih.advance hstep

/-- As long as a call has not settled, some call can come further. -/
theorem Reached.exists_advance (h : Reached tree tracker turns)
    (hunsettled : ∃ call ∈ turns.calls, call.isSettled = false) :
    ∃ next, Advance tree turns next := by
  -- The first call that has not settled waits for none that has not.
  obtain ⟨call, hfind⟩ : ∃ call, turns.calls.find? (fun call => !call.isSettled) = some call := by
    rw [← Option.isSome_iff_exists, List.find?_isSome]
    simpa using hunsettled
  obtain ⟨hcall, before, after, hcalls, hbefore⟩ := List.find?_eq_some_iff_append.mp hfind
  obtain ⟨question, stage⟩ := call
  cases stage with
  | waiting previous =>
      refine ⟨_, .start hcalls ?_⟩
      rintro index rfl
      obtain ⟨hindex, -⟩ := h.ordered.queued before _ after hcalls
      rw [List.getElem?_map, Option.map_eq_some_iff] at hindex
      obtain ⟨last, hlast, -⟩ := hindex
      refine ⟨last, ?_, by simpa using hbefore last (List.mem_of_getElem? hlast)⟩
      rw [hcalls, List.getElem?_append_left (List.getElem?_eq_some_iff.mp hlast).1, hlast]
  | running rest =>
      cases rest with
      | done result => exact ⟨_, .answer hcalls⟩
      | ask r next => exact ⟨_, .request hcalls⟩
  | answered result => exact ⟨_, .settle hcalls⟩
  | settled result => simp [Call.isSettled, Stage.isSettled] at hcall

end Turns

/-- One stage comes right after another one. -/
inductive Stage.Follows : Stage → Stage → Prop
  | start (previous : Option Nat) (rest : Query (Except QueryError Bool)) :
      Follows (running rest) (waiting previous)
  | request {r : Request} {next : r.Answer → Query (Except QueryError Bool)} (answer : r.Answer) :
      Follows (running (next answer)) (running (.ask r next))
  | answer (result : Except QueryError Bool) : Follows (answered result) (running (.done result))
  | settle (result : Except QueryError Bool) : Follows (settled result) (answered result)

/-- A call comes to its end, by induction on what it has yet to do. -/
theorem Stage.wellFounded_follows : WellFounded Stage.Follows := by
  have hsettled (result : Except QueryError Bool) : Acc Follows (settled result) :=
    ⟨_, fun _ h => nomatch h⟩
  have hanswered (result : Except QueryError Bool) : Acc Follows (answered result) := by
    refine ⟨_, fun _ h => ?_⟩
    cases h
    exact hsettled result
  have hrunning (rest : Query (Except QueryError Bool)) : Acc Follows (running rest) := by
    induction rest with
    | done result =>
        refine ⟨_, fun _ h => ?_⟩
        cases h
        exact hanswered result
    | ask r next ih =>
        refine ⟨_, fun _ h => ?_⟩
        cases h with
        | request answer => exact ih answer
  refine ⟨fun stage => ?_⟩
  cases stage with
  | waiting previous =>
      refine ⟨_, fun _ h => ?_⟩
      cases h with
      | start _ rest => exact hrunning rest
  | running rest => exact hrunning rest
  | answered result => exact hanswered result
  | settled result => exact hsettled result

namespace Turns

def stages (turns : Turns) : Multiset Stage :=
  turns.calls.map Call.stage

theorem cutExpand_replace {before after : List Call} {call next : Call}
    (h : next.stage.Follows call.stage) :
    Relation.CutExpand Stage.Follows ((before ++ next :: after).map Call.stage : Multiset Stage)
      ((before ++ call :: after).map Call.stage : Multiset Stage) := by
  refine ⟨{next.stage}, call.stage, fun stage hstage => ?_, ?_⟩
  · rwa [Multiset.mem_singleton.mp hstage]
  · simp only [List.map_append, List.map_cons, ← Multiset.coe_add, ← Multiset.cons_coe,
      ← Multiset.singleton_add]
    abel

/-- Without further calls, those there are come to an end, whatever their order. -/
theorem wellFounded_advance (tree : FileTree) :
    WellFounded fun after turns : Turns => Advance tree turns after := by
  refine Subrelation.wf ?_ (InvImage.wf stages Stage.wellFounded_follows.cutExpand)
  intro after turns hstep
  change Relation.CutExpand Stage.Follows after.stages turns.stages
  cases hstep with
  | start hcalls _ =>
      rw [stages, stages, hcalls]
      exact cutExpand_replace (.start _ _)
  | request hcalls =>
      rw [stages, stages, hcalls]
      exact cutExpand_replace (.request _)
  | answer hcalls =>
      rw [stages, stages, hcalls]
      exact cutExpand_replace (.answer _)
  | settle hcalls =>
      rw [stages, stages, hcalls]
      exact cutExpand_replace (.settle _)

end Turns

end Suppression
