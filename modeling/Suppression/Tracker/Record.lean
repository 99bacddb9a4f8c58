import Suppression.Snapshot

namespace Suppression

/-- What is known about one file. `changed` is set as soon as the store does not have it. -/
structure Record where
  fingerprint : String
  lineCount : Nat
  watermark : Number
  intervals : Intervals
  changed : Bool
  deriving DecidableEq

namespace Record

def cold (fingerprint : String) (lineCount : Nat) : Record :=
  { fingerprint, lineCount, watermark := 0, intervals := [], changed := true }

def ofSnapshot (fingerprint : String) (lineCount : Nat) (snapshot : Snapshot) : Record :=
  { fingerprint, lineCount, watermark := snapshot.watermark, intervals := snapshot.intervals,
    changed := false }

def snapshot (record : Record) : Snapshot :=
  { watermark := record.watermark, intervals := record.intervals }

def entry (record : Record) : CacheEntry :=
  { fingerprint := record.fingerprint, snapshot := record.snapshot }

def isComplete (record : Record) : Bool :=
  Number.ofNat record.lineCount ≤ record.watermark

/-- The last line that an interval without an end is known to reach. -/
def horizon (record : Record) : Number :=
  if record.isComplete then .lastExact else record.watermark

def cover (record : Record) (range : Range) (origin : Origin) : Except RangeError Bool :=
  record.intervals.cover range origin record.horizon

def mention (record : Record) (origin : Origin) : Bool :=
  record.intervals.mention origin

/-- The knowledge with the directive of one line beyond the watermark. -/
def addInline (record : Record) (directive : LineDirective) : Record :=
  { record with
    intervals := record.intervals.addInline directive.line directive.targets
    changed := true }

/-- The knowledge with all directives from the watermark to a line, in ascending order. -/
def commit (record : Record) (last : Nat) (directives : List LineDirective) : Record :=
  { record with
    intervals := record.intervals.applyAll directives
    watermark := .ofNat last
    changed := true }

end Record

end Suppression
