import RpcDispatch.Command.Sources
import RpcDispatch.Project.Scan

/-!
# Making a product

The dispatcher and the listing are made from the sources of a project. Nothing is written before
every source has been read.
-/

namespace RpcDispatch

/-- What a command leaves to see beside the files: what it printed, its warnings, and why it failed
if it did. -/
structure Report where
  printed : Text
  warnings : List Text := []
  failure : Option Failure := none
deriving DecidableEq, Repr

inductive Product where
  | dispatcher
  | listing
deriving DecidableEq, Repr

namespace Product

def opening : Product → Text
  | dispatcher => "Generating RPC dispatch code...\n-------------------------------\n"
  | listing => "Generating function listing...\n------------------------------\n"

def closing (written : Text) : Text := "   " ++ written ++ "\n\nDone.\n"

/-- Where it is written, relative to the project root. -/
def path (p : Product) (s : OutputSettings) : Path :=
  match p with
  | dispatcher => s.path
  | listing => s.listingPath

def render (p : Product) (r : Resolved) (s : Session) : Text :=
  match p with
  | dispatcher => (s.render r.settings.dispatch r.sources.audit).contents
  | listing => s.listing

/-- The findings of the sources, and for the dispatcher how many there are. -/
def warnings (p : Product) (s : Session) : List Text :=
  s.diagnostics.map (·.text) ++ match p with
    | listing => []
    | dispatcher =>
        if s.diagnostics = [] then []
        else [Text.ofNat s.diagnostics.length ++
          " definition(s) could not be read and are missing from the dispatcher"]

/-- The path given, or the one in the settings below the root. -/
def target (p : Product) (r : Resolved) (cwd : Path) (output : Option Path) : Path :=
  match output with
  | some o => cwd.join o
  | none => r.sources.root.join (p.path r.settings.output)

/-- A path as it is printed: relative to the working directory if it lies below. -/
def shown (path cwd : Path) : Text := ((path.stripBase? cwd).getD path).slashed

def write (p : Product) (t : FileTree) (cwd : Path) (output : Option Path) (r : Resolved)
    (s : Session) : Tracked (Report × FileTree) := do
  let contents ← Tracked.duringPhase .emission (pure (p.render r s))
  let path := p.target r cwd output
  match ← Tracked.duringPhase .writing (pure (t.writeText path contents)) with
  | (.error e, t) =>
      let failure := Failure.error (some ("Failed to write " ++ path.text)) e
      pure (⟨p.opening, p.warnings s, failure⟩, t)
  | (.ok (), t) => pure (⟨p.opening ++ closing (shown path cwd), p.warnings s, none⟩, t)

def make (p : Product) (t : FileTree) (cwd : Path) (a : SourceArguments) (output : Option Path) :
    Tracked (Report × FileTree) := do
  match ← Tracked.duringPhase .discovery (pure (a.resolve t cwd)) with
  | .error f => pure (⟨p.opening, [], f⟩, t)
  | .ok r =>
      match ← Session.scanAll t r.sources.files with
      | ⟨s, some e⟩ => pure (⟨p.opening, s.diagnostics.map (·.text), Failure.ofError e⟩, t)
      | ⟨s, none⟩ => p.write t cwd output r s

end Product

end RpcDispatch
