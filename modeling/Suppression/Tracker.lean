import Suppression.Snapshot.Store
import Suppression.Tracker.Answer

/-!
A tracker holds what is known about files, the sources that are being read and the store that keeps
snapshots between runs. `isIgnored` answers one question, and `persist` hands over to the store what
the store does not have yet. What a tracker does with files is written down in its log.
-/

namespace Suppression

inductive Event where
  /-- A line was asked for, whether or not there is one. -/
  | read (file : Wide) (line : Nat)
  | released (file : Wide)
  | noted (text : Wide)
  deriving DecidableEq

/-- What is known about files, and where it comes from and goes to. -/
structure Tracker where
  settings : TrackerSettings := {}
  reader : Reader := {}
  store : Option Store := none
  records : Entries Record := []
  log : Array Event := #[]

namespace Tracker

def saw (tracker : Tracker) (event : Event) : Tracker :=
  { tracker with log := tracker.log.push event }

def noteAll (tracker : Tracker) (texts : List Wide) : Tracker :=
  texts.foldl (fun tracker text => tracker.saw (.noted text)) tracker

def load (tracker : Tracker) (tree : FileTree) (file fingerprint : Wide) :
    Except FileError (Option Snapshot) × Tracker :=
  match tracker.store with
  | none => (.ok none, tracker)
  | some store =>
      let (answer, store, notes) := store.load tree file fingerprint
      (answer, { tracker with store := some store }.noteAll notes)

/-- Answers one request. The files do not change in between. -/
def respond (tree : FileTree) : (r : Request) → Tracker → r.Answer × Tracker
  | .known file, tracker => (tracker.records.get? file, tracker)
  | .remember file record, tracker =>
      ((), { tracker with records := tracker.records.put file record })
  | .fingerprint file, tracker =>
      let (answer, reader) := tracker.reader.fingerprint tree file
      (answer, { tracker with reader })
  | .lineCount file, tracker =>
      let (answer, reader) := tracker.reader.lineCount tree file
      (answer, { tracker with reader })
  | .readLine file line, tracker =>
      let (answer, reader) := tracker.reader.readLine tree file (.ofNat line)
      (answer, { tracker with reader }.saw (.read file line))
  | .release file, tracker =>
      ((), { tracker with reader := tracker.reader.release file }.saw (.released file))
  | .load file fingerprint, tracker => tracker.load tree file fingerprint
  | .note text, tracker => ((), tracker.saw (.noted text))

def isIgnored (tracker : Tracker) (tree : FileTree) (range : Range) (origin : Origin) :
    Except QueryError Bool × Tracker :=
  Query.run (respond tree) (tracker.settings.answer range origin).run tracker

/-- What is known about a file, if anything was ever asked about it. -/
def snapshotOf? (tracker : Tracker) (file : Wide) : Option Snapshot :=
  (tracker.records.get? file).map Record.snapshot

/-- Hands what is known about a file over to the store, if the store does not have it. -/
def saveRecord (tracker : Tracker) (tree : FileTree) (file : Wide) :
    Except FileError Unit × Tracker :=
  match tracker.store, tracker.records.get? file with
  | some store, some record =>
      if record.changed then
        let (result, store, notes) := store.save tree file record.entry
        let tracker := { tracker with store := some store }.noteAll notes
        match result with
        | .error e => (.error e, tracker)
        | .ok () =>
            let records := tracker.records.put file { record with changed := false }
            (.ok (), { tracker with records })
      else (.ok (), tracker)
  | _, _ => (.ok (), tracker)

/-- Hands over what is known about some files, until the store refuses it. -/
def saveRecords (tracker : Tracker) (tree : FileTree) :
    List Wide → Except FileError Unit × Tracker
  | [] => (.ok (), tracker)
  | file :: rest =>
      match tracker.saveRecord tree file with
      | (.error e, tracker) => (.error e, tracker)
      | (.ok (), tracker) => saveRecords tracker tree rest

/-- Has the store write down what it was handed. -/
def flush (tracker : Tracker) (tree : FileTree) : Except FileError Unit × FileTree × Tracker :=
  match tracker.store with
  | none => (.ok (), tree, tracker)
  | some store =>
      let (result, tree, store, notes) := store.flush tree
      (result, tree, { tracker with store := some store }.noteAll notes)

def persist (tracker : Tracker) (tree : FileTree) :
    Except FileError Unit × FileTree × Tracker :=
  match tracker.saveRecords tree tracker.records.keys with
  | (.error e, tracker) => (.error e, tree, tracker)
  | (.ok (), tracker) => tracker.flush tree

def notes (tracker : Tracker) : List Wide :=
  tracker.log.toList.filterMap fun event =>
    match event with
    | .noted text => some text
    | _ => none

end Tracker

end Suppression
