import RpcDispatch.Progress.Context

/-!
# The crash report

The report names the message and place of a crash and what the program was doing.
-/

namespace RpcDispatch.CrashReport

def rule : Text := List.replicate 80 '='

/-- What a crash leaves behind: a message, or a value that is none. -/
inductive Payload where
  | message (text : Text)
  | other
deriving DecidableEq, Repr

def Payload.text : Payload → Text
  | message t => t
  | other => "Unknown panic"

structure Host where
  version : Text := "0.1.0"
  system : Text := "linux"

def contextLines (c : Context) : List Text :=
  [match c.phase with
    | some p => "Phase: " ++ p.text
    | none => "Phase: (not set - crash occurred before generation started)"] ++
  (match c.file with
    | some f => [("File: " : Text) ++ f.text]
    | none => []) ++
  if c.total > 0 then
    ["Progress: " ++ Text.ofNat c.scanned ++ " / " ++ Text.ofNat c.total ++ " files"]
  else []

def headLines (h : Host) : List Text :=
  [[], rule, "netlinx-rpc " ++ h.version ++ " crashed (" ++ h.system ++ ")", rule]

def detailLines (payload : Payload) (location : Text) : List Text :=
  ["PANIC: " ++ payload.text, "Location: " ++ location]

def footLines : List Text := ["Run with RUST_BACKTRACE=1 for a stack trace", rule]

def render (h : Host) (payload : Payload) (location : Text) (c : Context) : Text :=
  (headLines h ++ detailLines payload location ++ contextLines c ++ footLines).flatMap
    (· ++ ['\n'])

end RpcDispatch.CrashReport
