import Suppression.Number.Literal

namespace Suppression

/-- What a user chooses on the command line. -/
structure Choice where
  warn : Bool := false
  help : Bool := false
  verbose : Bool := false
  parallelism : Number := .finite (-1)
  cache : Option String := none
  scan : Option String := none
  diagnostics : Option String := none
  deriving DecidableEq

inductive Flag where
  | warn
  | help
  | verbose
  deriving DecidableEq

inductive Setting where
  | parallelism
  | cache
  | scan
  deriving DecidableEq

inductive CommandOption where
  | flag (flag : Flag)
  | setting (setting : Setting)
  deriving DecidableEq

inductive UsageError where
  | missingValue (setting : Setting)
  | noArgument (setting : Setting)
  | badParallelism (value : String)
  | unknownOption (argument : String)
  | tooManyArguments
  deriving DecidableEq

namespace Flag

def names : Flag → Char × String
  | warn => ('w', "--warn")
  | help => ('h', "--help")
  | verbose => ('v', "--verbose")

def all : List Flag := [warn, help, verbose]

def set (choice : Choice) : Flag → Choice
  | warn => { choice with warn := true }
  | help => { choice with help := true }
  | verbose => { choice with verbose := true }

end Flag

namespace Setting

def names : Setting → Char × String
  | parallelism => ('p', "--parallelism")
  | cache => ('c', "--cache")
  | scan => ('s', "--scan")

def valueName : Setting → String
  | parallelism => "<number>"
  | cache => "<file>"
  | scan => "<dir>"

def all : List Setting := [parallelism, cache, scan]

def short (setting : Setting) : String :=
  String.ofList ['-', setting.names.1]

def long (setting : Setting) : String :=
  setting.names.2

/-- The setting with both of its spellings, as messages name it. -/
def describe (setting : Setting) : String :=
  setting.short ++ ", " ++ setting.long ++ " " ++ setting.valueName

def set (choice : Choice) (value : String) : Setting → Except UsageError Choice
  | parallelism =>
      let number := Number.ofText value
      if number.isInteger = false ∨ number < .finite (-1) then .error (.badParallelism value)
      else .ok { choice with parallelism := number }
  | cache => .ok { choice with cache := some value }
  | scan => .ok { choice with scan := some value }

end Setting

namespace UsageError

def message : UsageError → String
  | missingValue setting => "Missing value for " ++ setting.long
  | noArgument setting => "error: option '" ++ setting.describe ++ "' argument missing"
  | badParallelism value =>
      "error: option '" ++ Setting.parallelism.describe ++ "' argument '" ++ value ++
        "' is invalid. Invalid parallelism value: " ++ value
  | unknownOption argument => "error: unknown option '" ++ argument ++ "'"
  | tooManyArguments => "Too many arguments"

end UsageError

namespace CommandOption

def names : CommandOption → Char × String
  | .flag f => f.names
  | .setting s => s.names

def all : List CommandOption :=
  Flag.all.map .flag ++ Setting.all.map .setting

def ofLetter? (letter : Char) : Option CommandOption :=
  all.find? fun option => option.names.1 == letter

def ofArgument? (argument : String) : Option CommandOption :=
  all.find? fun option =>
    argument == option.names.2 || argument == String.ofList ['-', option.names.1]

end CommandOption

/-- What one argument says, once flags that are clustered before it have been split off. -/
inductive Reading where
  /-- The arguments after this one are no options. -/
  | endOfOptions
  | flag (flag : Flag)
  | setting (setting : Setting)
  /-- A setting with its value in the same argument. -/
  | assigned (setting : Setting) (value : String)
  | unknown
  | plain

namespace Reading

/-- The flags at the head of a cluster of letters, and the argument that the rest of it makes: the
letters after a hyphen are taken off as long as they are flags and more follows. -/
def splitCluster : List Char → List Flag × List Char
  | letter :: next :: more =>
      match CommandOption.ofLetter? letter with
      | some (.flag f) =>
          let (flags, argument) := splitCluster (next :: more)
          (f :: flags, argument)
      | _ => ([], '-' :: letter :: next :: more)
  | letters => ([], '-' :: letters)

def split (argument : String) : List Flag × String :=
  match argument.toList with
  | '-' :: letters =>
      let (flags, rest) := splitCluster letters
      (flags, String.ofList rest)
  | _ => ([], argument)

/-- A hyphen, the letter of a setting, and its value. -/
def ofShort? : List Char → Option Reading
  | '-' :: letter :: next :: more =>
      match CommandOption.ofLetter? letter with
      | some (.setting s) => some (.assigned s (String.ofList (next :: more)))
      | _ => none
  | _ => none

/-- The word of a setting, an equals sign and a value, which may be empty. -/
def ofAssignment? (argument : List Char) : Option Reading :=
  let word := argument.takeWhile (· != '=')
  match argument.dropWhile (· != '=') with
  | _ :: value =>
      (Setting.all.find? fun s => s.long.toList == word).map fun s =>
        .assigned s (String.ofList value)
  | [] => none

/-- What an argument says where options may stand. -/
def ofArgument (argument : String) : Reading :=
  let chars := argument.toList
  if argument = "--" then .endOfOptions
  else match CommandOption.ofArgument? argument with
    | some (.flag f) => .flag f
    | some (.setting s) => .setting s
    | none =>
        match (ofShort? chars).or (ofAssignment? chars) with
        | some reading => reading
        | none => if chars.head? = some '-' ∧ 1 < chars.length then .unknown else .plain

end Reading

/-- What the arguments read so far have said. -/
structure Reckoning where
  choice : Choice := {}
  unknown : Option String := none
  plain : List String := []

namespace CommandLine

def setAll (choice : Choice) (flags : List Flag) : Choice :=
  flags.foldl Flag.set choice

/-- Reads arguments from left to right. A value that is wrong or missing ends the reading at once;
an option that is not known is only noted. -/
def readFrom (r : Reckoning) : List String → Except UsageError Reckoning
  | [] => .ok r
  | argument :: rest =>
      let (flags, argument) := Reading.split argument
      let r := { r with choice := setAll r.choice flags }
      match Reading.ofArgument argument with
      | .endOfOptions => .ok { r with plain := r.plain ++ rest }
      | .flag flag => readFrom { r with choice := flag.set r.choice } rest
      | .setting setting =>
          match rest with
          | [] => .error (.noArgument setting)
          | value :: rest =>
              match setting.set r.choice value with
              | .error e => .error e
              | .ok choice => readFrom { r with choice } rest
      | .assigned setting value =>
          match setting.set r.choice value with
          | .error e => .error e
          | .ok choice => readFrom { r with choice } rest
      | .unknown => readFrom { r with unknown := r.unknown.or (some argument) } rest
      | .plain => readFrom { r with plain := r.plain ++ [argument] } rest

/-- A setting that the last argument spells without its value. -/
def danglingSetting? (arguments : List String) : Option Setting :=
  arguments.getLast?.bind fun argument =>
    Setting.all.find? fun setting => argument == setting.short || argument == setting.long

def parse (arguments : List String) : Except UsageError Choice := do
  if let some setting := danglingSetting? arguments then
    throw (.missingValue setting)
  let r ← readFrom {} arguments
  if let some argument := r.unknown then
    throw (.unknownOption argument)
  match r.plain with
  | [] => return r.choice
  | [file] => return { r.choice with diagnostics := some file }
  | _ => throw .tooManyArguments

def usage : String :=
  "\n".intercalate [
    "Usage: lazy-ignore [options] [diagnosticsFile]",
    "",
    "Options:",
    "  -h, --help              Show this help message and exit",
    "  -w, --warn              Report remaining diagnostics but exit with code 0",
    "  -v, --verbose           Show verbose logging (files being scanned)",
    "  -c, --cache <file>      Reuse and update directive snapshots stored in this JSON file",
    "  -p, --parallelism <n>   Number of scan workers, or -1 for CPU cores",
    "  -s, --scan <dir>        Check start/stop ignore directives under a directory",
    "",
    "Diagnostics are a JSON array or JSON Lines. If diagnosticsFile is '-' or omitted, " ++
      "input is read from stdin"]

end CommandLine

end Suppression
