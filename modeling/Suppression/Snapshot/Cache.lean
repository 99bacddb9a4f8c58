import Suppression.Json.KeyOrder
import Suppression.Json.Reader
import Suppression.Json.Writer
import Suppression.Snapshot

namespace Suppression

/-- The entries of a cache, keyed by file. -/
abbrev Cache := Entries CacheEntry

namespace Cache

def version : Number := 1

/-- The entries that a document holds, whether valid or not, in the order in which they are listed.
-/
def ofJson? (json : Json) : Option Cache := do
  let fields ← json.fieldsAmong? ["version", "files"]
  let written ← (← fields.get? "version").num?
  let files ← (← fields.get? "files").fields?
  if written = version then
    (Json.inKeyOrder files).mapM fun (file, json) => do return (file, ← CacheEntry.ofJson? json)
  else none

def toJson (cache : Cache) : Json :=
  .obj [
    ("version", .num version),
    ("files", .obj <| (Json.inKeyOrder cache).map fun (file, entry) => (file, entry.toJson))]

def decode? (text : String) : Option Cache :=
  ((Json.read? text).bind ofJson?).filter fun cache => cache.all fun (_, entry) => entry.isValid

def encode (cache : Cache) : String :=
  cache.toJson.pretty ++ "\n"

end Cache

end Suppression
