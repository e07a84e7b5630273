import RpcDispatch.Command.Line
import RpcDispatch.Project.Search
import RpcDispatch.Project.Selection

/-!
# The sources of a command

Sources are the files given, or the files of a workspace that is given or found.
-/

namespace RpcDispatch

inductive Failure where
  /-- An error, and what was being done when it came up. -/
  | error (doing : Option Text) (e : Error)
  | refused (reason : Text)
deriving DecidableEq, Repr

namespace Failure

def ofError (e : Error) : Failure := .error none e

def chain : Failure → List Text
  | error doing e => doing.toList ++ e.chain
  | refused reason => [reason]

end Failure

structure Resolved where
  settings : Settings
  sources : SourceSet
deriving DecidableEq, Repr

/-- A project and the entries to select its sources from, relative to `base`. -/
structure Located where
  root : Path
  base : Path
  entries : List Text
deriving DecidableEq, Repr

namespace Located

def resolve (l : Located) (t : FileTree) : Except Error Resolved := do
  let settings ← t.loadSettings l.root
  pure ⟨settings, ← settings.scan.sources t l.root l.base l.entries⟩

end Located

namespace SourceArguments

def givenRoot (a : SourceArguments) (cwd : Path) : Option Path := a.root.map cwd.join

def workspacePath (a : SourceArguments) (t : FileTree) (cwd : Path) : Except Error Path :=
  match a.workspace with
  | some p => .ok (cwd.join p)
  | none => t.findWorkspace ((a.givenRoot cwd).getD cwd)

def locateWorkspace (a : SourceArguments) (t : FileTree) (cwd : Path) :
    Except Failure Located := do
  let path ← (a.workspacePath t cwd).mapError .ofError
  let w ← (t.loadWorkspace path).mapError (.error (some ("Failed to load workspace " ++ path.text)))
  pure ⟨(a.givenRoot cwd).getD w.directory, w.directory, w.entries⟩

def locate (a : SourceArguments) (t : FileTree) (cwd : Path) : Except Failure Located :=
  if a.files = [] then a.locateWorkspace t cwd
  else .ok ⟨(a.givenRoot cwd).getD cwd, cwd, a.files.map (·.text)⟩

def resolve (a : SourceArguments) (t : FileTree) (cwd : Path) : Except Failure Resolved := do
  let l ← a.locate t cwd
  (l.resolve t).mapError .ofError

/-- The files whose bytes matter, as far as the tree tells: the workspace, the settings in effect
and the sources selected. -/
def reads (a : SourceArguments) (t : FileTree) (cwd : Path) : List Path :=
  (if a.files = [] then (a.workspacePath t cwd).toOption.toList else []) ++
  match a.locate t cwd with
  | .error _ => []
  | .ok l => (t.findSettings l.root).toList ++
      match t.loadSettings l.root with
      | .error _ => []
      | .ok s => match s.scan.select l.root l.base l.entries with
          | .error _ => []
          | .ok files => files.map (·.path)

end SourceArguments

end RpcDispatch
