import RpcDispatch.Project.Path

/-!
# Errors

What stops a run, with the wording of each. Signatures that cannot be dispatched are no errors;
they are annotated in the output.
-/

namespace RpcDispatch

inductive FileFault where
  | missing
  | notDirectory
  | isDirectory
  | alreadyExists
  | nameTooLong
  | nulInPath
  | notUtf8
  /-- A directory could not be listed. -/
  | listing (path : Path) (cause : FileFault)
  | other (text : Text)
deriving DecidableEq, Repr

namespace FileFault

def message : FileFault → Text
  | missing => "No such file or directory (os error 2)"
  | notDirectory => "Not a directory (os error 20)"
  | isDirectory => "Is a directory (os error 21)"
  | alreadyExists => "File exists (os error 17)"
  | nameTooLong => "File name too long (os error 36)"
  | nulInPath => "file name contained an unexpected NUL byte"
  | notUtf8 => "stream did not contain valid UTF-8"
  | listing path cause => "IO error for operation on " ++ path.text ++ ": " ++ cause.message
  | other text => text

def chain : FileFault → List Text
  | listing path cause => (listing path cause).message :: cause.chain
  | f => [f.message]

end FileFault

inductive Error where
  | workspaceNotFound (searched : Path)
  | invalidWorkspace (path : Path) (reason : Text)
  | sourceNotFound (path : Path)
  | fileSystem (action : Text) (path : Option Path) (cause : Option FileFault)
  | configuration (problem : Text)
  /-- The exclude expression is no valid regular expression. -/
  | invalidRegex
deriving DecidableEq, Repr

namespace Error

def message : Error → Text
  | workspaceNotFound path => "Workspace not found (searched " ++ path.text ++ ")"
  | invalidWorkspace path reason => "Invalid workspace " ++ path.text ++ ": " ++ reason
  | sourceNotFound path => "Source file not found: " ++ path.text
  | fileSystem action _ _ => "File system error: " ++ action
  | configuration problem => "Configuration error: " ++ problem
  | invalidRegex => "invalid regex"

/-- Whether an input is missing, rather than something being wrong with it. -/
def isMissingInput : Error → Bool
  | workspaceNotFound _ | sourceNotFound _ => true
  | _ => false

def chain : Error → List Text
  | fileSystem action path (some cause) => (fileSystem action path (some cause)).message :: cause.chain
  | e => [e.message]

end Error

end RpcDispatch
