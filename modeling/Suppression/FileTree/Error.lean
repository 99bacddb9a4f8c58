import Suppression.Text.Quoted

namespace Suppression

inductive SystemErrorCode where
  | noEntry
  | notDirectory
  | isDirectory
  | exists
  | tooManyLinks
  | nameTooLong
  | notEmpty
  | invalidArgument
  | busy
  deriving DecidableEq

inductive SystemCall where
  | openFile (path : String)
  | read
  | makeDirectory (path : String)
  | makeLink (target path : String)
  | removeFile (path : String)
  | removeDirectory (path : String)
  deriving DecidableEq

namespace SystemErrorCode

def symbol : SystemErrorCode → String
  | noEntry => "ENOENT"
  | notDirectory => "ENOTDIR"
  | isDirectory => "EISDIR"
  | «exists» => "EEXIST"
  | tooManyLinks => "ELOOP"
  | nameTooLong => "ENAMETOOLONG"
  | notEmpty => "ENOTEMPTY"
  | invalidArgument => "EINVAL"
  | busy => "EBUSY"

def meaning : SystemErrorCode → String
  | noEntry => "no such file or directory"
  | notDirectory => "not a directory"
  | isDirectory => "illegal operation on a directory"
  | «exists» => "file already exists"
  | tooManyLinks => "too many symbolic links encountered"
  | nameTooLong => "name too long"
  | notEmpty => "directory not empty"
  | invalidArgument => "invalid argument"
  | busy => "resource busy or locked"

end SystemErrorCode

def SystemCall.format : SystemCall → String
  | openFile path => "open '" ++ path ++ "'"
  | read => "read"
  | makeDirectory path => "mkdir '" ++ path ++ "'"
  | makeLink target path => "symlink '" ++ target ++ "' -> '" ++ path ++ "'"
  | removeFile path => "unlink '" ++ path ++ "'"
  | removeDirectory path => "rmdir '" ++ path ++ "'"

inductive FileError where
  | system (code : SystemErrorCode) (call : SystemCall)
  | nullInPath (argument path : String)
  deriving DecidableEq

namespace FileError

/-- The reason of the system, if it is the system that refused. -/
def code? : FileError → Option SystemErrorCode
  | system code _ => some code
  | nullInPath _ _ => none

def message : FileError → String
  | system code call => code.symbol ++ ": " ++ code.meaning ++ ", " ++ call.format
  | nullInPath argument path =>
      "The argument '" ++ argument ++
        "' must be a string, Uint8Array, or URL without null bytes. Received " ++ Text.shown path

def kind : FileError → String
  | system _ _ => "Error"
  | nullInPath _ _ => "TypeError [ERR_INVALID_ARG_VALUE]"

/-- A path can be handed to the system. -/
def checkPath (path : String) (argument : String := "path") : Except FileError Unit :=
  if path.contains '\x00' then .error (.nullInPath argument path) else .ok ()

end FileError

end Suppression
