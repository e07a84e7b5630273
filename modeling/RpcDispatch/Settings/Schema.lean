import RpcDispatch.Error
import RpcDispatch.Pattern.Glob
import RpcDispatch.Pattern.Regex.Parser
import RpcDispatch.Settings.Basic
import RpcDispatch.Settings.Toml.Document

/-!
# Reading settings

Which sections a settings document may have and which keys a section, and what has to hold of the
values. A key that is left out takes its default, one that is not known is a fault.
-/

namespace RpcDispatch.Settings

def fileName : Text := ".netlinx-rpc.toml"

def text? : Toml.Value → Option Text
  | .string t => some t
  | _ => none

def texts? : Toml.Value → Option (List Text)
  | .array items => items.mapM text?
  | _ => none

/-- The entries of a section with the given keys. A section may also be written as an array of
its values in the order of the keys; what lies beyond the last key does not count. -/
def entries? (keys : List Text) : Toml.Value → Option Toml.Entries
  | .table _ es => if es.all fun e => keys.contains e.1 then some es else none
  | .array items => some (keys.zip items)
  | .tables items => some (keys.zip (items.map (Toml.Value.table .header)))
  | .string _ => none
  | .scalar => none

/-- The value under a key, or the default where the key is left out. -/
def valueOr {α : Type} (default : α) (read : Toml.Value → Option α) (es : Toml.Entries)
    (key : Text) : Option α :=
  match es.find? key with
  | none => some default
  | some v => read v

def output? (v : Toml.Value) : Option OutputSettings := do
  let base : OutputSettings := {}
  let es ← entries? ["path", "listing_path"] v
  let path ← valueOr base.path (fun v => (text? v).map Path.mk) es "path"
  let listingPath ← valueOr base.listingPath (fun v => (text? v).map Path.mk) es "listing_path"
  pure { path, listingPath }

def scan? (v : Toml.Value) : Option ScanSettings := do
  let base : ScanSettings := {}
  let es ← entries? ["extensions", "exclude", "audit_ignore"] v
  let extensions ← valueOr base.extensions texts? es "extensions"
  let exclude ← valueOr base.exclude text? es "exclude"
  let auditIgnore ← valueOr base.auditIgnore texts? es "audit_ignore"
  pure { extensions, exclude, auditIgnore }

def dispatch? (v : Toml.Value) : Option DispatchSettings := do
  let base : DispatchSettings := {}
  let es ← entries? ["device", "guard", "log_level"] v
  let device ← valueOr base.device text? es "device"
  let guard ← valueOr base.guard text? es "guard"
  let logLevel ← valueOr base.logLevel text? es "log_level"
  pure { device, guard, logLevel }

def ofEntries? (es : Toml.Entries) : Option Settings := do
  let es ← entries? ["output", "scan", "dispatch"] (.table .header es)
  let output ← valueOr {} output? es "output"
  let scan ← valueOr {} scan? es "scan"
  let dispatch ← valueOr {} dispatch? es "dispatch"
  pure { output, scan, dispatch }

/-- The first pattern that cannot be read. -/
def checkPatterns : List Text → Except Error Unit
  | [] => .ok ()
  | p :: ps => match Glob.parse p with
      | .ok _ => checkPatterns ps
      | .error f =>
          .error (.configuration ("Invalid audit_ignore pattern '" ++ p ++ "': " ++ f.message))

/-- The exclude expression has to be readable, some extension has to be given and every pattern
has to be readable, checked in this order. -/
def check (s : Settings) : Except Error Unit := do
  if (Regex.parse? s.scan.exclude).isNone then
    throw .invalidRegex
  if s.scan.extensions = [] then
    throw (.configuration "scan.extensions must not be empty")
  checkPatterns s.scan.auditIgnore

def parse (document : Text) : Except Error Settings :=
  match (Toml.parse? document).bind ofEntries? with
  | none => .error (.configuration ("Failed to parse " ++ fileName))
  | some s => (check s).map fun _ => s

end RpcDispatch.Settings
