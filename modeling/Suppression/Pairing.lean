import Suppression.Interval

namespace Suppression

inductive PairingProblem where
  | duplicateStart (line : Number) (targets : Targets) (openSince : Number)
  | unmatchedStop (line : Number) (targets : Targets)
  deriving DecidableEq

/-- The label at the head of every report line. -/
def reportLabel : String := "[lazy-ignore]"

def PairingProblem.message (file : Wide) : PairingProblem → Wide
  | duplicateStart line targets openSince =>
      reportLabel ++ " " ++ file ++ ":" ++ line.text ++ " -> duplicate start ignoring " ++
        Targets.format targets ++ " (already open since line " ++ openSince.text ++ ")"
  | unmatchedStop line targets =>
      let named : Wide := if Targets.isWildcard targets then "" else " " ++ Targets.format targets
      reportLabel ++ " " ++ file ++ ":" ++ line.text ++ " -> stop ignoring" ++ named ++
        " without matching start ignoring"

/-- A start that is open, with the targets that stops have left of it. -/
structure OpenStart where
  line : Number
  targets : Targets
  deriving DecidableEq

namespace Pairing

/-- What a stop leaves of one open start. -/
def stopOne (stop : Targets) (start : OpenStart) : Option OpenStart :=
  ((Targets.stopEffect stop start.targets).left start.targets).bind fun targets =>
    some { start with targets }

/-- A stop ends something of one of the open starts. -/
def endsAny (stop : Targets) (starts : List OpenStart) : Bool :=
  starts.any fun start => Targets.stopEffect stop start.targets != .none

/-- The open starts after one directive, and the problem that the directive makes. -/
def step (starts : List OpenStart) (directive : LineDirective) :
    List OpenStart × Option PairingProblem :=
  match directive.kind with
  | .inline => (starts, none)
  | .start =>
      let key := Targets.key directive.targets
      match starts.find? fun start => Targets.key start.targets == key with
      | some start => (starts, some (.duplicateStart directive.line directive.targets start.line))
      | none => (starts ++ [⟨directive.line, directive.targets⟩], none)
  | .stop =>
      let problem :=
        if endsAny directive.targets starts then none
        else some (.unmatchedStop directive.line directive.targets)
      (starts.filterMap (stopOne directive.targets), problem)

/-- The problems of directives in line order, after some starts that are open already. -/
def problemsFrom (starts : List OpenStart) : List LineDirective → List PairingProblem
  | [] => []
  | directive :: rest =>
      let (starts, problem) := step starts directive
      problem.toList ++ problemsFrom starts rest

def problems (directives : List LineDirective) : List PairingProblem :=
  problemsFrom [] directives

end Pairing

end Suppression
