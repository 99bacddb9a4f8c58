import Suppression.FileTree.Change
import Suppression.Snapshot.Cache
import Suppression.Source

/-!
A store keeps snapshots in a cache file. The file is read once, when the first snapshot is asked for
or handed over, and written when the store is flushed after something has been handed over. A read
that failed is remembered: the store answers with the same failure from then on.
-/

namespace Suppression

structure Store where
  path : String
  verbose : Bool := false
  opened : Option (Except FileError Cache) := none
  changed : Bool := false

namespace Store

/-- The notes that a store makes when it is told to be verbose. -/
def note (store : Store) (text : Wide) : List Wide :=
  if store.verbose then [text] else []

/-- What the cache file holds. A missing file and one that is no cache hold nothing. -/
def readCache (store : Store) (tree : FileTree) : Except FileError Cache × List Wide :=
  match tree.readText store.path with
  | .error e => if e.code? = some .noEntry then (.ok [], []) else (.error e, [])
  | .ok text =>
      match Cache.decode? text with
      | some cache => (.ok cache, [])
      | none => (.ok [], store.note ("Ignoring corrupt snapshot cache " ++ store.path))

/-- The entries, the store that has them, and the notes of reading them if that comes first. -/
def entries (store : Store) (tree : FileTree) : Except FileError Cache × Store × List Wide :=
  match store.opened with
  | some entries => (entries, store, [])
  | none =>
      let (entries, notes) := store.readCache tree
      (entries, { store with opened := some entries }, notes)

/-- The snapshot kept for a file, if it was taken from the content with this fingerprint. -/
def load (store : Store) (tree : FileTree) (file fingerprint : Wide) :
    Except FileError (Option Snapshot) × Store × List Wide :=
  let (entries, store, notes) := store.entries tree
  match entries.map fun cache => cache.get? file with
  | .error e => (.error e, store, notes)
  | .ok none => (.ok none, store, notes)
  | .ok (some entry) =>
      if entry.fingerprint = fingerprint then (.ok (some entry.snapshot), store, notes)
      else
        (.ok none, store,
          notes ++ store.note ("Cached snapshot for " ++ file ++ " is stale; rescanning"))

def save (store : Store) (tree : FileTree) (file : Wide) (entry : CacheEntry) :
    Except FileError Unit × Store × List Wide :=
  let (entries, store, notes) := store.entries tree
  match entries with
  | .error e => (.error e, store, notes)
  | .ok cache =>
      (.ok (), { store with opened := some (.ok (cache.put file entry)), changed := true }, notes)

/-- Writes the cache file if a snapshot has been handed over since it was last written. -/
def flush (store : Store) (tree : FileTree) :
    Except FileError Unit × FileTree × Store × List Wide :=
  if store.changed then
    let (entries, store, notes) := store.entries tree
    match entries with
    | .error e => (.error e, tree, store, notes)
    | .ok cache =>
        match tree.writeWithParents store.path (Text.encodeUtf8 (Cache.encode cache)) with
        | (.error e, tree) => (.error e, tree, store, notes)
        | (.ok (), tree) =>
            let written := "Wrote " ++ toString cache.length ++ " snapshot(s) to " ++ store.path
            (.ok (), tree, { store with changed := false }, notes ++ store.note written)
  else (.ok (), tree, store, [])

end Store

end Suppression
