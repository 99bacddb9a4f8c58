import Suppression.Proofs.HeldEntries
import Suppression.Proofs.TurnTaking

/-!
Sessions: a tracker that keeps snapshots in a cache file, with the questions that have been put to
it and the calls of persist, which proceed in any order. What is done to a file takes its turn: a
question, or handing over what is known about the file, starts when all that was to be done to the
file before has settled. A persist visits the files that are known, those included that become known
on the way; it hands over what is known about each, and has the store write the cache file at the
end.
-/

namespace Suppression

/-- What is done to a file in its turn. -/
inductive Job where
  | question (asked : Question)
  | handOver (file : Wide)

/-- As far as turns go, a hand-over is like a question about the whole file. -/
def Job.asked : Job → Question
  | question asked => asked
  | handOver file => ⟨.wholeFile file, { analyzer := "" }⟩

def Job.file (job : Job) : Wide :=
  job.asked.range.file

/-- What has come of a job. -/
inductive Outcome where
  | answered (result : Except QueryError Bool)
  | handedOver (result : Except FileError Record)

inductive Progress where
  /-- It waits for an earlier job on its file, or may start at once. -/
  | waiting (previous : Option Nat)
  /-- A question has yet to do the rest of its computation. -/
  | asking (rest : Query (Except QueryError Bool))
  | saving (entry : CacheEntry)
  /-- The store has been handed the entry, and what is known still counts as changed. -/
  | marking
  /-- The job has come to its end, for which those after it still wait. -/
  | ended (outcome : Outcome)
  | settled (outcome : Outcome)

namespace Progress

def outcome? : Progress → Option Outcome
  | ended outcome => some outcome
  | settled outcome => some outcome
  | _ => none

def stage : Progress → Stage
  | waiting previous => .waiting previous
  | asking rest => .running rest
  | ended _ => .answered (.ok true)
  | settled _ => .settled (.ok true)
  | _ => .running (.done (.ok true))

end Progress

structure Errand where
  job : Job
  progress : Progress

namespace Errand

def file (errand : Errand) : Wide :=
  errand.job.file

def call (errand : Errand) : Call :=
  ⟨errand.job.asked, errand.progress.stage⟩

end Errand

/-- One step of a job whose turn it is. -/
inductive Job.Works (tree : FileTree) (tracker : Tracker) :
    Job → Progress → Tracker → Progress → Prop
  | start (asked : Question) (previous : Option Nat) :
      Works tree tracker (.question asked) (.waiting previous) tracker
        (.asking (tracker.settings.answer asked.range asked.origin).run)
  | request (job : Job) (r : Request) (next : r.Answer → Query (Except QueryError Bool)) :
      Works tree tracker job (.asking (.ask r next)) (Tracker.respond tree r tracker).2
        (.asking (next (Tracker.respond tree r tracker).1))
  | answer (job : Job) (result : Except QueryError Bool) :
      Works tree tracker job (.asking (.done result)) tracker (.ended (.answered result))
  | skip {file : Wide} {record : Record} (previous : Option Nat) :
      tracker.records.get? file = some record → record.changed = false →
        Works tree tracker (.handOver file) (.waiting previous) tracker
          (.ended (.handedOver (.ok record)))
  | hand {file : Wide} {record : Record} (previous : Option Nat) :
      tracker.records.get? file = some record → record.changed = true →
        Works tree tracker (.handOver file) (.waiting previous) tracker (.saving record.entry)
  | save {file : Wide} {entry : CacheEntry} {after : Tracker} :
      tracker.saveEntry tree file entry = (.ok (), after) →
        Works tree tracker (.handOver file) (.saving entry) after .marking
  | refuse {file : Wide} {entry : CacheEntry} {error : FileError} {after : Tracker} :
      tracker.saveEntry tree file entry = (.error error, after) →
        Works tree tracker (.handOver file) (.saving entry) after
          (.ended (.handedOver (.error error)))
  | mark {file : Wide} {record : Record} : tracker.records.get? file = some record →
      Works tree tracker (.handOver file) .marking (tracker.markSaved file)
        (.ended (.handedOver (.ok { record with changed := false })))

inductive PersistStage where
  | visiting
  | handing (errand : Nat)
  | flushing
  | writing (text : String)
  | ended (result : Except FileError Unit)

/-- A call of persist: the files that were known when it was made, those that have had their turn,
with what was known about each at the end of it, and how far the call has come. As many files have
been visited as have had their turn. -/
structure Persist where
  tracked : List Wide
  turns : Entries Record := []
  stage : PersistStage := .visiting

namespace Persist

def IsWriting (persist : Persist) : Prop :=
  ∃ text, persist.stage = .writing text

def IsFlushing (persist : Persist) : Prop :=
  persist.stage = .flushing ∨ persist.IsWriting

end Persist

/-- A tracker with the files, with what is done to them in turn, in the order in which it was
launched, and with the calls of persist. A file is locked by the last job on it, until that job has
settled. -/
structure Session where
  tree : FileTree
  tracker : Tracker
  errands : List Errand := []
  locks : Entries Nat := []
  persists : List Persist := []

namespace Session

/-- A tracker of which nothing has been asked, with a store of which nothing has been read. -/
def fresh (tree : FileTree) (settings : TrackerSettings) (path : String) (verbose : Bool) :
    Session :=
  { tree, tracker := { settings, store := some { path, verbose } } }

def IsWriting (session : Session) : Prop :=
  ∃ persist ∈ session.persists, persist.IsWriting

def IsFlushing (session : Session) : Prop :=
  ∃ persist ∈ session.persists, persist.IsFlushing

def SettledAt (session : Session) (index : Nat) : Prop :=
  ∃ job outcome, session.errands[index]? = some ⟨job, .settled outcome⟩

/-- One more job: it waits for the one that locks its file, and locks the file in turn. -/
def launch (session : Session) (job : Job) : Session :=
  { session with
    errands := session.errands ++ [⟨job, .waiting (session.locks.get? job.file)⟩]
    locks := session.locks.put job.file session.errands.length }

end Session

/-- One step of a persist, apart from visiting a file. Unless persists are to keep apart, the cache
file may be written for one while it is written for another. -/
inductive Persist.Goes (apart : Prop) (session : Session) (persist : Persist) :
    FileTree → Tracker → Persist → Prop
  | proceed {index : Nat} {file : Wide} {progress : Progress} {record : Record} :
      persist.stage = .handing index →
      session.errands[index]? = some ⟨.handOver file, progress⟩ →
      progress.outcome? = some (.handedOver (.ok record)) →
        Goes apart session persist session.tree session.tracker
          { persist with turns := persist.turns ++ [(file, record)], stage := .visiting }
  | reject {index : Nat} {file : Wide} {progress : Progress} {error : FileError} :
      persist.stage = .handing index →
      session.errands[index]? = some ⟨.handOver file, progress⟩ →
      progress.outcome? = some (.handedOver (.error error)) →
        Goes apart session persist session.tree session.tracker
          { persist with stage := .ended (.error error) }
  | rest {store : Store} : persist.stage = .visiting →
      session.tracker.records[persist.turns.length]? = none →
      session.tracker.store = some store → store.changed = false →
        Goes apart session persist session.tree session.tracker
          { persist with stage := .ended (.ok ()) }
  | flush {store : Store} : persist.stage = .visiting →
      session.tracker.records[persist.turns.length]? = none →
      session.tracker.store = some store → store.changed = true →
      (apart → ¬ session.IsFlushing) →
        Goes apart session persist session.tree session.tracker
          { persist with stage := .flushing }
  | begin {store : Store} {cache : Cache} : persist.stage = .flushing →
      session.tracker.store = some store → (store.entries session.tree).1 = .ok cache →
        Goes apart session persist session.tree
          ({ session.tracker with store := some (store.entries session.tree).2.1 }.noteAll
            (store.entries session.tree).2.2)
          { persist with stage := .writing cache.encode }
  /-- What has been handed over in the meantime does not count as changed any more, either. -/
  | write {text : String} {store : Store} {cache : Cache} {written : FileTree} :
      persist.stage = .writing text → session.tracker.store = some store →
      (store.entries session.tree).1 = .ok cache →
      session.tree.writeWithParents store.path (Text.encodeUtf8 text) = (.ok (), written) →
      written.Holdable →
        Goes apart session persist written
          ({ session.tracker with store := some { store with changed := false } }.noteAll
            (store.note
              ("Wrote " ++ toString cache.length ++ " snapshot(s) to " ++ store.path)))
          { persist with stage := .ended (.ok ()) }
  /-- Whatever the files are then. -/
  | fail {later : FileTree} (error : FileError) : persist.IsFlushing → later.Holdable →
      Goes apart session persist later session.tracker
        { persist with stage := .ended (.error error) }

namespace Session

theorem mem_of_mem_replace {α : Type} {before rest : List α} {old next element : α}
    (h : element ∈ before ++ next :: rest) : element = next ∨ element ∈ before ++ old :: rest := by
  simp only [List.mem_append, List.mem_cons] at h ⊢
  tauto

/-- One step of a session. Anyone may write to the sources at any time, but nobody else to the cache
file; while it is written, it may hold anything. If persists are to keep apart, nothing is handed
over while the cache file is written. -/
inductive Step (apart : Prop) (session : Session) : Session → Prop
  | ask (question : Question) : Step apart session (session.launch (.question question))
  | call : Step apart session { session with
      persists := session.persists ++ [{ tracked := session.tracker.records.keys }] }
  | work {before after : List Errand} {job : Job} {progress later : Progress} {tracker : Tracker} :
      session.errands = before ++ ⟨job, progress⟩ :: after →
      (∀ index, progress = .waiting (some index) → session.SettledAt index) →
      (apart → ∀ entry, progress = .saving entry → ¬ session.IsWriting) →
      job.Works session.tree session.tracker progress tracker later →
        Step apart session { session with tracker, errands := before ++ ⟨job, later⟩ :: after }
  | settle {before after : List Errand} {job : Job} {outcome : Outcome} :
      session.errands = before ++ ⟨job, .ended outcome⟩ :: after →
        Step apart session { session with
          errands := before ++ ⟨job, .settled outcome⟩ :: after
          locks := Turns.unlock session.locks job.file before.length }
  | visit {before after : List Persist} {persist : Persist} {file : Wide} {record : Record} :
      session.persists = before ++ persist :: after → persist.stage = .visiting →
      session.tracker.records[persist.turns.length]? = some (file, record) →
        Step apart session { session.launch (.handOver file) with
          persists := before ++ { persist with stage := .handing session.errands.length } :: after }
  | go {before after : List Persist} {persist next : Persist} {tree : FileTree}
      {tracker : Tracker} : session.persists = before ++ persist :: after →
      persist.Goes apart session tree tracker next →
        Step apart session { session with tree, tracker, persists := before ++ next :: after }
  | edit {later : FileTree} : later.Holdable →
      (¬ session.IsWriting → ∀ store, session.tracker.store = some store →
        later.readText store.path = session.tree.readText store.path) →
        Step apart session { session with tree := later }

abbrev Reached (apart : Prop) : Session → Session → Prop :=
  Relation.ReflTransGen (Step apart)

end Session

end Suppression
