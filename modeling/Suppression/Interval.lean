import Suppression.Directive
import Suppression.Range

/-!
Intervals: the lines over which directives have results ignored. `apply` takes one directive into a
list of intervals that is sorted by first line; directives are applied from the top of a file to its
bottom. A start opens an interval without a known end, a stop gives open intervals their end, and
what a stop does not name goes on from the line after it.
-/

namespace Suppression

/-- What an interval comes from: a start, or a directive for its own line. -/
inductive IntervalOrigin where
  | start
  | inline
  deriving DecidableEq

/-- The last line of an interval, or none yet. -/
inductive IntervalEnd where
  | unbounded
  | line (number : Number)
  deriving DecidableEq

/-- Whole lines over which results are ignored. `fieldOrder` remembers in which order a stored
document wrote the other fields, and nothing else depends on it. -/
structure Interval where
  origin : IntervalOrigin
  startLine : Number
  endLine : IntervalEnd
  targets : Targets
  fieldOrder : List Wide := ["origin", "startLine", "endLine", "targets"]
  deriving DecidableEq

namespace IntervalOrigin

def name : IntervalOrigin → String
  | start => "Start"
  | inline => "Inline"

end IntervalOrigin

namespace Interval

def opened (line : Number) (targets : Targets) : Interval :=
  { origin := .start, startLine := line, endLine := .unbounded, targets }

def oneLine (line : Number) (targets : Targets) : Interval :=
  { origin := .inline, startLine := line, endLine := .line line, targets }

def isOpen (interval : Interval) : Bool :=
  interval.origin = .start && interval.endLine = .unbounded

def isInlineAt (interval : Interval) (line : Number) : Bool :=
  interval.origin = .inline && interval.startLine.same line

/-- The lines of an interval as a range. An interval without an end reaches the horizon, the last
line up to which no stop is known to come. -/
def range (interval : Interval) (file : Wide) (horizon : Number) : Except RangeError Range :=
  let last := match interval.endLine with
    | .unbounded => horizon
    | .line number => number
  Range.between file ⟨interval.startLine, 0⟩ ⟨last.max interval.startLine, .lastExact⟩

/-- What a stop makes of an interval, and the interval that goes on after it, if one does. -/
def stop (line : Number) (targets : Targets) (interval : Interval) : Interval × Option Interval :=
  if interval.isOpen then
    match Targets.stopEffect targets interval.targets with
    | .none => (interval, none)
    | .close => ({ interval with endLine := .line line }, none)
    | .narrow remaining =>
        ({ interval with endLine := .line line }, some (opened line.succ remaining))
  else (interval, none)

end Interval

abbrev Intervals := List Interval

namespace Intervals

/-- An interval put before the first one that starts on a later line. -/
def insert (intervals : Intervals) (interval : Interval) : Intervals :=
  match intervals with
  | [] => [interval]
  | first :: rest =>
      if interval.startLine < first.startLine then interval :: first :: rest
      else first :: insert rest interval

def addInline (intervals : Intervals) (line : Number) (targets : Targets) : Intervals :=
  if intervals.any fun interval => interval.isInlineAt line then intervals
  else insert intervals (.oneLine line targets)

def stopAt (intervals : Intervals) (line : Number) (targets : Targets) : Intervals :=
  let stopped := intervals.map (Interval.stop line targets)
  (stopped.filterMap Prod.snd).foldl insert (stopped.map Prod.fst)

/-- The intervals with one more directive, which comes after all directives applied before. -/
def apply (intervals : Intervals) (directive : LineDirective) : Intervals :=
  match directive.kind with
  | .inline => addInline intervals directive.line directive.targets
  | .start => insert intervals (.opened directive.line directive.targets)
  | .stop => stopAt intervals directive.line directive.targets

/-- The intervals with more directives, in ascending order of their lines. -/
def applyAll (intervals : Intervals) (directives : List LineDirective) : Intervals :=
  directives.foldl apply intervals

/-- Some interval speaks for an origin, wherever it lies. -/
def mention (intervals : Intervals) (origin : Origin) : Bool :=
  intervals.any fun interval => Targets.cover interval.targets origin

/-- Some interval that speaks for an origin contains the range. The intervals are tried in order,
and one that makes no range ends the search. -/
def cover (intervals : Intervals) (range : Range) (origin : Origin) (horizon : Number) :
    Except RangeError Bool :=
  match intervals with
  | [] => .ok false
  | first :: rest =>
      if Targets.cover first.targets origin then
        match first.range range.file horizon with
        | .error e => .error e
        | .ok lines => if lines.contains range then .ok true else cover rest range origin horizon
      else cover rest range origin horizon

end Intervals

end Suppression
