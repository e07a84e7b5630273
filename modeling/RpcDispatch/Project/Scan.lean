import RpcDispatch.Dispatch.Session
import RpcDispatch.Progress.Context
import RpcDispatch.Project.Selection
import RpcDispatch.Project.Storage
import RpcDispatch.Source.Extract

/-!
# Scanning a project

Files are read one after the other, up to the first that cannot be read.
-/

namespace RpcDispatch.Session

structure Scanned where
  session : Session
  failure : Option Error
deriving DecidableEq, Repr

def scanFile (t : FileTree) (s : Session) (f : SourceFile) : Except Error Session :=
  (t.readText f.path).map fun text => s.add f.display (SourceText.extract ⟨f.path, text⟩)

/-- Scans files behind the first `done` of `total`. -/
def scanFrom (t : FileTree) (total : Nat) :
    (done : Nat) → Session → List SourceFile → Tracked Scanned
  | done, s, [] => do
      Tracked.progress done total
      pure ⟨s, none⟩
  | done, s, f :: fs => do
      Tracked.progress done total
      match ← Tracked.duringFile f.path (pure (scanFile t s f)) with
      | .error e => pure ⟨s, some e⟩
      | .ok s => scanFrom t total (done + 1) s fs

def scanAll (t : FileTree) (files : List SourceFile) : Tracked Scanned :=
  Tracked.duringPhase .scanning (scanFrom t files.length 0 {} files)

end RpcDispatch.Session
