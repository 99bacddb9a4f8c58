import Suppression.Tracker.Query

/-!
How a tracker answers whether a range is ignored: from what is known about the file, and otherwise
by reading upwards from the range's last line to the watermark. A directive for the very line that
is asked about ends the search at once; the watermark moves only when every line up to it has been
read.
-/

namespace Suppression

/-- How a tracker works: how it tells directives, and whether it reports what it does. -/
structure TrackerSettings where
  matcher : Matcher := .standard
  verbose : Bool := false

/-- What a search upwards has found. -/
inductive Found where
  /-- A directive for the line that was asked about. -/
  | inline (directive : LineDirective)
  /-- The directives of all lines from the watermark on, in ascending order. -/
  | complete (directives : List LineDirective)

namespace TrackerSettings

def note (settings : TrackerSettings) (text : Wide) : Asking Unit :=
  if settings.verbose then Asking.request (.note text) else pure ()

/-- What the store keeps for a file, as far as it can be used. -/
def seed (settings : TrackerSettings) (file : Wide) (fingerprint : String) (lineCount : Nat) :
    Asking (Option Snapshot) := do
  match ← Asking.request (.load file fingerprint) with
  | .error e =>
      settings.note ("Snapshot for " ++ file ++ " unavailable (" ++ e.message ++ "); scanning cold")
      return none
  | .ok none => return none
  | .ok (some snapshot) =>
      if Number.ofNat lineCount < snapshot.watermark then
        settings.note ("Snapshot for " ++ file ++ " runs past the end of the file; scanning cold")
        return none
      else
        settings.note
          ("Seeded " ++ file ++ " from snapshot (watermark " ++ snapshot.watermark.text ++ ")")
        return some snapshot

/-- What is known about a file; at the first question, what the store keeps, or nothing. -/
def resolve (settings : TrackerSettings) (file : Wide) : Asking Record := do
  match ← Asking.request (.known file) with
  | some record => return record
  | none =>
      let fingerprint ← Asking.access (Query.request (.fingerprint file))
      let lineCount ← Asking.access (Query.request (.lineCount file))
      let record := match ← settings.seed file fingerprint lineCount with
        | some snapshot => Record.ofSnapshot fingerprint lineCount snapshot
        | none => Record.cold fingerprint lineCount
      Asking.request (.remember file record)
      return record

/-- A directive on a line speaks for exactly the line that is asked about, and for the origin. -/
def endsSearch (span : Option Span) (origin : Origin) (directive : LineDirective) : Bool :=
  match span with
  | none => false
  | some span =>
      directive.kind = .inline && directive.line.same span.start.line &&
        directive.line.same span.stop.line && Targets.cover directive.targets origin

def directiveAt (settings : TrackerSettings) (file : Wide) (line : Nat) :
    Asking (Option LineDirective) := do
  let text ← Asking.access (Query.request (.readLine file line))
  let directive? ← Asking.ofExcept .grammar (settings.matcher text)
  return directive?.map fun directive => { directive with line := .ofNat line }

/-- Reads the lines from the given one up to the watermark, with the directives found below it. Line
zero is asked for only if a stored watermark lies below it, and then there is no such line. -/
def search (settings : TrackerSettings) (file : Wide) (span : Option Span) (origin : Origin)
    (watermark : Number) (found : List LineDirective) (line : Nat) : Asking Found :=
  match line with
  | 0 =>
      if watermark < Number.ofNat 0 then do
        let directive? ← settings.directiveAt file 0
        return .complete (directive?.toList ++ found)
      else return .complete found
  | above + 1 =>
      if watermark < Number.ofNat (above + 1) then do
        match ← settings.directiveAt file (above + 1) with
        | none => settings.search file span origin watermark found above
        | some directive =>
            if endsSearch span origin directive then return .inline directive
            else settings.search file span origin watermark (directive :: found) above
      else return .complete found

/-- Reports a search and makes it. -/
def searchFrom (settings : TrackerSettings) (file : Wide) (span : Option Span) (origin : Origin)
    (watermark : Number) (last : Nat) : Asking Found := do
  settings.note ("Scanning " ++ file ++ " lines " ++ (Number.ofNat last).text ++ " down to " ++
    watermark.succ.text)
  settings.search file span origin watermark [] last

/-- The last line of a range within a file of so many lines. -/
def lastLine (span : Span) (lineCount : Nat) : Nat :=
  if span.stop.line < Number.ofNat lineCount then span.stop.line.toNat else lineCount

/-- Whether lines are ignored, and what is known after the answer. -/
def answerLines (settings : TrackerSettings) (record : Record) (range : Range) (span : Span)
    (origin : Origin) : Asking (Bool × Record) := do
  if ← Asking.ofExcept .range (record.cover range origin) then return (true, record)
  let last := lastLine span record.lineCount
  if Number.ofNat last ≤ record.watermark then return (false, record)
  match ← settings.searchFrom range.file span origin record.watermark last with
  | .inline directive =>
      let record := record.addInline directive
      Asking.request (.remember range.file record)
      settings.note ("Ignored " ++ range.format ++ " by inline directive")
      return (true, record)
  | .complete directives =>
      let record := record.commit last directives
      Asking.request (.remember range.file record)
      return (← Asking.ofExcept .range (record.cover range origin), record)

/-- Whether anything in the file speaks for the origin, and what is known after the answer. -/
def answerFile (settings : TrackerSettings) (record : Record) (file : Wide) (origin : Origin) :
    Asking (Bool × Record) := do
  if record.mention origin || record.isComplete then return (record.mention origin, record)
  match ← settings.searchFrom file none origin record.watermark record.lineCount with
  | .inline _ => return (record.mention origin, record)
  | .complete directives =>
      let record := record.commit record.lineCount directives
      Asking.request (.remember file record)
      return (record.mention origin, record)

/-- Whether a range is ignored for an origin. A file of which every line is known is released. -/
def answer (settings : TrackerSettings) (range : Range) (origin : Origin) : Asking Bool := do
  let record ← settings.resolve range.file
  let (ignored, record) ← match range.span with
    | some span => settings.answerLines record range span origin
    | none => settings.answerFile record range.file origin
  if record.isComplete then Asking.request (.release range.file)
  return ignored

end TrackerSettings

end Suppression
