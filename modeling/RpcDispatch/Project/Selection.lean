import RpcDispatch.Dispatch.Render
import RpcDispatch.Pattern.Regex.Parser
import RpcDispatch.Project.Walk
import RpcDispatch.Settings.Basic

/-!
# Selecting sources

Entries become files to scan: those with a source extension that the exclude expression does not
match, in order. The audit shows them beside all other sources of the project.
-/

namespace RpcDispatch

structure SourceFile where
  path : Path
  /-- The path shown for it. -/
  display : Text
deriving DecidableEq, Repr

structure SourceSet where
  root : Path
  files : List SourceFile
  audit : Audit
deriving DecidableEq, Repr

namespace SourceFile

/-- An entry relative to `base`, shown relative to `root` if it lies below. -/
def ofEntry (root base : Path) (entry : Text) : SourceFile :=
  let path := (base.join ⟨Text.replaceChar '\\' '/' entry⟩).fold
  ⟨path, ((path.stripBase? root.fold).getD path).slashed⟩

end SourceFile

namespace ScanSettings

def selectBy (s : ScanSettings) (exclude : Regex) (root base : Path) (entries : List Text) :
    List SourceFile :=
  (entries.map (SourceFile.ofEntry root base)).filter fun f =>
    s.extensions.any (Path.hasExtension · f.path) && !exclude.isMatch f.display

def select (s : ScanSettings) (root base : Path) (entries : List Text) :
    Except Error (List SourceFile) :=
  match Regex.parse? s.exclude with
  | none => .error .invalidRegex
  | some exclude => .ok (s.selectBy exclude root base entries)

def audit (s : ScanSettings) (t : FileTree) (root : Path) (files : List SourceFile) :
    Except Error SourceSet := do
  let listed ← t.walk root ⟨s.extensions, s.auditIgnore⟩
  let included := files.map (·.display)
  pure ⟨root, files, included, listed.filter fun p => !included.contains p⟩

def sources (s : ScanSettings) (t : FileTree) (root base : Path) (entries : List Text) :
    Except Error SourceSet := do
  s.audit t root (← s.select root base entries)

end ScanSettings

end RpcDispatch
