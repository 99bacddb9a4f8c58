import Suppression.Interval
import Suppression.Json

namespace Suppression

/-- What is known about a file. `intervalsFirst` remembers how a stored document wrote the two. -/
structure Snapshot where
  watermark : Number
  intervals : Intervals
  intervalsFirst : Bool := false
  deriving DecidableEq

/-- A snapshot with the fingerprint of the content it belongs to. `snapshotFirst` remembers how a
stored document wrote the two. -/
structure CacheEntry where
  fingerprint : Wide
  snapshot : Snapshot
  snapshotFirst : Bool := false
  deriving DecidableEq

namespace Json

/-- The fields of an object that has no others than the named ones. -/
def fieldsAmong? (json : Json) (allowed : List Wide) : Option (Entries Json) :=
  json.fields?.filter fun fields => fields.all fun field => allowed.contains field.1

/-- Two fields in one order or the other. -/
def twoFields (swapped : Bool) (first second : Wide × Json) : Json :=
  .obj (if swapped then [second, first] else [first, second])

end Json

namespace Target

def toJson (target : Target) : Json :=
  match target.rule with
  | none => .obj [("analyzer", .str target.analyzer)]
  | some rule =>
      .twoFields target.ruleFirst ("analyzer", .str target.analyzer) ("rule", .str rule)

def ofJson? (json : Json) : Option Target := do
  let fields ← json.fieldsAmong? ["analyzer", "rule"]
  let analyzer ← (← fields.get? "analyzer").str?
  match fields.get? "rule" with
  | none => return { analyzer }
  | some rule =>
      let rule ← rule.str?
      return { analyzer, rule := some rule, ruleFirst := fields.keys.head? == some "rule" }

def isValid (target : Target) : Bool :=
  target.analyzer != "" && target.rule != some ""

end Target

namespace IntervalEnd

def toJson : IntervalEnd → Json
  | unbounded => .str "open"
  | line number => .num number

def ofJson? : Json → Option IntervalEnd
  | .str (.text "open") => some unbounded
  | .num number => some (line number)
  | _ => none

end IntervalEnd

namespace IntervalOrigin

def ofName? (name : Wide) : Option IntervalOrigin :=
  if name = "Start" then some start
  else if name = "Inline" then some inline
  else none

end IntervalOrigin

namespace Interval

/-- The written fields, in the order in which they are usually written. -/
def toFields (interval : Interval) : Entries Json := [
  ("origin", .str interval.origin.name),
  ("startLine", .num interval.startLine),
  ("endLine", interval.endLine.toJson),
  ("targets", .arr (interval.targets.map Target.toJson))]

def toJson (interval : Interval) : Json :=
  .obj <| interval.fieldOrder.filterMap fun name =>
    (interval.toFields.get? name).map fun value => (name, value)

def ofJson? (json : Json) : Option Interval := do
  let fields ← json.fieldsAmong? ["origin", "startLine", "endLine", "targets"]
  let origin ← IntervalOrigin.ofName? (← (← fields.get? "origin").str?)
  let startLine ← (← fields.get? "startLine").num?
  let endLine ← IntervalEnd.ofJson? (← fields.get? "endLine")
  let targets ← (← (← fields.get? "targets").arr?).mapM Target.ofJson?
  return { origin, startLine, endLine, targets, fieldOrder := fields.keys }

/-- The lines have no fraction and count from one, and the last one is not before the first. -/
def isValid (interval : Interval) : Bool :=
  let isLine (number : Number) : Bool := number.hasNoFraction && 1 ≤ number
  isLine interval.startLine && interval.targets.all Target.isValid &&
    match interval.endLine with
    | .unbounded => true
    | .line number => isLine number && interval.startLine ≤ number

end Interval

namespace Snapshot

def toJson (snapshot : Snapshot) : Json :=
  .twoFields snapshot.intervalsFirst ("watermark", .num snapshot.watermark)
    ("intervals", .arr (snapshot.intervals.map Interval.toJson))

def ofJson? (json : Json) : Option Snapshot := do
  let fields ← json.fieldsAmong? ["watermark", "intervals"]
  let watermark ← (← fields.get? "watermark").num?
  let intervals ← (← (← fields.get? "intervals").arr?).mapM Interval.ofJson?
  return { watermark, intervals, intervalsFirst := fields.keys.head? == some "intervals" }

/-- The watermark has no fraction and counts from zero, and every interval is valid. -/
def isValid (snapshot : Snapshot) : Bool :=
  snapshot.watermark.hasNoFraction && 0 ≤ snapshot.watermark &&
    snapshot.intervals.all Interval.isValid

end Snapshot

namespace CacheEntry

def toJson (entry : CacheEntry) : Json :=
  .twoFields entry.snapshotFirst ("fingerprint", .str entry.fingerprint)
    ("snapshot", entry.snapshot.toJson)

def ofJson? (json : Json) : Option CacheEntry := do
  let fields ← json.fieldsAmong? ["fingerprint", "snapshot"]
  let fingerprint ← (← fields.get? "fingerprint").str?
  let snapshot ← Snapshot.ofJson? (← fields.get? "snapshot")
  return { fingerprint, snapshot, snapshotFirst := fields.keys.head? == some "snapshot" }

def isValid (entry : CacheEntry) : Bool :=
  entry.fingerprint != "" && entry.snapshot.isValid

end CacheEntry

end Suppression
