import RpcDispatch.Dispatch.Table
import RpcDispatch.Settings.Basic
import RpcDispatch.Text.Blank

/-!
# Writing the dispatcher

The dispatcher is one event handler that compares the function name of an incoming message with
the name of every branch. A signature without a branch leaves a comment that says why.
-/

namespace RpcDispatch

/-- Display paths of the files that were scanned and of those that were left out. -/
structure Audit where
  included : List Text := []
  excluded : List Text := []
deriving DecidableEq, Repr

namespace Render

def line (indent : Nat) (t : Text) : Text := List.replicate indent ' ' ++ t ++ ['\n']

def lines (ts : List Text) : Text := ts.flatMap (line 0)

def outer : Nat := 8

def inner : Nat := 12

def returnValue : Text := "return_value"

def functionName : Text := "f_name"

def message : Text := "data.text"

def header (s : DispatchSettings) (audit : Audit) : Text :=
  lines
    ["(***********************************************************)",
     "(*                         WARNING                         *)",
     "(***********************************************************)",
     "(*  This file is automatically generated.                  *)",
     "(***********************************************************)",
     "",
     "/*",
     "Included Files:",
     "---------------"] ++
  lines audit.included ++
  lines ["", "", "Excluded Files:", "---------------"] ++
  lines audit.excluded ++
  lines
    ["",
     "*/",
     "",
     "",
     "#if_not_defined " ++ s.guard,
     "#define " ++ s.guard ++ " 1",
     "",
     "DEFINE_EVENT",
     "",
     "data_event[" ++ s.device ++ "]",
     "\x7b"] ++
  line 4 "string:" ++
  line 4 "\x7b" ++
  line outer ("char " ++ functionName ++ "[255];") ++
  line outer (functionName ++ " = rpc_function_name(" ++ message ++ ");") ++
  line outer []

def banner (path : Text) : Text :=
  line outer "/*------------------------------------------------------------------/" ++
  line (outer + 4) ("FILE: '" ++ path ++ "'") ++
  line outer "/------------------------------------------------------------------*/" ++
  line 0 []

/-- The arguments of a call, the first of them at `index`. -/
def arguments (index : Nat) : List ResolvedParameter → List Text
  | [] => []
  | p :: ps => p.support.argument index message :: arguments (index + 1) ps

def call (s : ResolvedSignature) : Text :=
  let target := if s.returns.isSome then returnValue ++ " = " ++ s.name else s.name
  match arguments 1 s.parameters with
  | [] => line inner (target ++ "();")
  | args =>
      line inner (target ++ "(") ++
      Text.intercalate [',', '\n'] (args.map (List.replicate 16 ' ' ++ ·)) ++ ['\n'] ++
      line inner ");"

def declareReturn : Option TypeSupport → Text
  | none => []
  | some t => line inner (t.declare returnValue) ++ line inner []

def logReturn (s : DispatchSettings) : Option TypeSupport → Text
  | none => []
  | some t =>
      line inner [] ++
      line inner
        ("print(" ++ s.logLevel ++ ", \"'RPC RTN: ', " ++ t.stringify returnValue ++ "\");")

def branch (s : DispatchSettings) (f : ResolvedSignature) : Text :=
  line outer ("if(compare_string(" ++ functionName ++ ", '" ++ Text.lower f.name ++ "'))") ++
  line outer "\x7b" ++
  declareReturn f.returns ++
  line inner ("print(" ++ s.logLevel ++ ", 'RPC: " ++ f.name ++ "()');") ++
  line inner [] ++
  call f ++
  logReturn s f.returns ++
  line outer "\x7d" ++
  line 0 []

def skip (name rawParams : Text) (reason : SkipReason) : Text :=
  line outer ("// " ++ reason.describe) ++
  line outer "// Skipped:" ++
  line outer ("// " ++ name ++ "(" ++ Text.collapse rawParams ++ ")") ++
  line 0 []

def footer : Text :=
  line 4 "\x7d" ++ line 0 "\x7d" ++ line 0 "#end_if" ++ line 0 []

def entry (s : DispatchSettings) (e : DispatchEntry) : Text :=
  match e.fragment with
  | .branch f => branch s f
  | .skip rawParams reason => skip e.name rawParams reason

def fileSection (s : DispatchSettings) (f : FileSection) : Text :=
  banner f.path ++ f.entries.flatMap (entry s)

end Render

namespace DispatchTable

def render (t : DispatchTable) (s : DispatchSettings) (audit : Audit) : Text :=
  Render.header s audit ++ t.sections.flatMap (Render.fileSection s) ++ Render.footer

end DispatchTable

end RpcDispatch
