import Suppression.Text.Wide

namespace Suppression

/-- The analyzer that produced a result, and the rule if the analyzer tells it. -/
structure Origin where
  analyzer : Wide
  rule : Option Wide := none
  deriving DecidableEq

/-- An analyzer named by a directive, or one of its rules. `ruleFirst` remembers how a stored
document wrote the two, and nothing else depends on it. -/
structure Target where
  analyzer : Wide
  rule : Option Wide := none
  ruleFirst : Bool := false
  deriving DecidableEq

namespace Target

def wildcard : Wide := "all"

/-- The analyzer in small letters, in which analyzers are compared. -/
def name (target : Target) : Wide :=
  target.analyzer.lower

/-- The target is every rule of every analyzer. -/
def isWildcard (target : Target) : Bool :=
  target.name == wildcard && target.rule.isNone

def covers (target : Target) (origin : Origin) : Bool :=
  (target.name == wildcard || target.name == origin.analyzer.lower) &&
    (target.rule.isNone || target.rule == origin.rule)

/-- A stop that names this target ends the other one. Here `all` is a name like any other. -/
def ends (target other : Target) : Bool :=
  target.name == other.name && (target.rule.isNone || target.rule == other.rule)

def withRule (analyzer : Wide) (rule : Option Wide) : Wide :=
  match rule with
  | none => analyzer
  | some rule => analyzer ++ "(" ++ rule ++ ")"

def format (target : Target) : Wide :=
  withRule target.analyzer target.rule

def key (target : Target) : Wide :=
  withRule target.name target.rule

end Target

abbrev Targets := List Target

/-- What a stop leaves of an open start: all of it, nothing, or some of its targets. -/
inductive StopEffect where
  | none
  | close
  | narrow (remaining : Targets)
  deriving DecidableEq

namespace Targets

/-- The targets name every analyzer: there are none, or each is `all` without a rule. -/
def isWildcard (targets : Targets) : Bool :=
  targets.all Target.isWildcard

def cover (targets : Targets) (origin : Origin) : Bool :=
  targets.isEmpty || targets.any fun target => target.covers origin

/-- A key that is the same for lists that differ in order, repetition and letter case only. -/
def key (targets : Targets) : Wide :=
  if isWildcard targets then Target.wildcard
  else Wide.join "," (Wide.sort (targets.map Target.key).eraseDups)

def format (targets : Targets) : Wide :=
  match targets with
  | [] => Target.wildcard
  | _ => Wide.join ", " (targets.map Target.format)

/-- The targets of a start that no target of a stop ends. -/
def without (start stop : Targets) : Targets :=
  start.filter fun target => !(stop.any fun other => other.ends target)

/-- What a stop leaves of an open start. A stop for every analyzer closes every start, and a start
for every analyzer is closed by no other stop. -/
def stopEffect (stop start : Targets) : StopEffect :=
  if isWildcard stop then .close
  else if isWildcard start then .none
  else
    let remaining := without start stop
    if remaining.length = start.length then .none
    else if remaining.isEmpty then .close
    else .narrow remaining

end Targets

/-- The targets that stay open, if any do. -/
def StopEffect.left (effect : StopEffect) (start : Targets) : Option Targets :=
  match effect with
  | none => some start
  | close => Option.none
  | narrow remaining => some remaining

end Suppression
