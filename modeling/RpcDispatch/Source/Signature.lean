import RpcDispatch.Text.Blank
import RpcDispatch.Source.Location
import RpcDispatch.Project.Path

/-!
# Function definitions found in a source file

What reading a file yields: the definitions it holds, and a diagnostic for every keyword behind
which no definition could be read.
-/

namespace RpcDispatch

inductive ArrayWidth where
  | unsized
  /-- The width as written, a literal or any constant expression. -/
  | sized (text : Text)
deriving DecidableEq, Repr

namespace ArrayWidth

def ofText (t : Text) : ArrayWidth :=
  match Text.trim t with
  | [] => unsized
  | w => sized w

def text : ArrayWidth → Text
  | unsized => "[]"
  | sized w => "[" ++ w ++ "]"

def typeText (type : Text) : Option ArrayWidth → Text
  | none => type
  | some w => type ++ w.text

end ArrayWidth

structure Signature where
  /-- Block comment directly before the keyword. -/
  docComment : Option Text
  /-- `none` for a function without return value. -/
  returnType : Option Text
  returnWidth : Option ArrayWidth
  name : Text
  /-- What stands between the parentheses, trimmed. -/
  rawParams : Text
  /-- What stands between the braces. -/
  body : Text
  sourceFile : Path
  /-- Byte offsets of the definition, doc comment included. -/
  start : Nat
  stop : Nat
  /-- Place of the keyword. -/
  location : Location
deriving DecidableEq, Repr

inductive Severity where
  | warning
  | error
deriving DecidableEq, Repr

namespace Severity

def text : Severity → Text
  | warning => "warning"
  | error => "error"

end Severity

structure Diagnostic where
  severity : Severity
  file : Path
  location : Location
  message : Text
deriving DecidableEq, Repr

namespace Diagnostic

def text (d : Diagnostic) : Text :=
  d.file.text ++ ":" ++ d.location.text ++ ": " ++ d.severity.text ++ ": " ++ d.message

end Diagnostic

structure FileScan where
  path : Path
  signatures : List Signature
  diagnostics : List Diagnostic
deriving DecidableEq, Repr

end RpcDispatch
