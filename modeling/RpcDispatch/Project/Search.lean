import RpcDispatch.Project.Walk
import RpcDispatch.Settings.Schema
import RpcDispatch.Text.Latin
import RpcDispatch.Text.Utf8
import RpcDispatch.Workspace.Document

/-!
# Finding a project's files

The workspace and the settings of a project lie in the directory where the search starts or in one
of the nearest around it.
-/

namespace RpcDispatch

namespace FileTree

def searchDepth : Nat := 10

def searched (start : Path) : List Path := start.ancestors searchDepth

def workspaceExtension : Text := "apw"

def workspacesIn (t : FileTree) (directory : Path) : List Path :=
  let names := ((t.route directory).toOption.map fun r => (t.children r).map (·.1)).getD []
  ((Text.sort names).map fun name => directory.join ⟨name⟩).filter fun p =>
    t.isFile p && p.hasExtension workspaceExtension

def findWorkspace (t : FileTree) (start : Path) : Except Error Path :=
  match (searched start).findSome? fun d => (t.workspacesIn d).head? with
  | some p => .ok p
  | none => .error (.workspaceNotFound start)

def loadWorkspace (t : FileTree) (p : Path) : Except Error Workspace :=
  match t.read p with
  | .ok bytes => Workspace.parse p (Latin.decode bytes)
  | .error .missing => .error (.workspaceNotFound p)
  | .error f => .error (.fileSystem "Failed to read workspace" p f)

def findSettings (t : FileTree) (start : Path) : Option Path :=
  ((searched start).map (·.join ⟨Settings.fileName⟩)).find? t.isFile

def readSettings (t : FileTree) (p : Path) : Except Error Settings :=
  match t.read p with
  | .error f => .error (.fileSystem "Failed to read config" p f)
  | .ok bytes => match Utf8.decode? bytes with
      | none => .error (.fileSystem "Failed to read config" p FileFault.notUtf8)
      | some document => Settings.parse document

/-- The settings that hold from a directory on; the defaults if there are none. -/
def loadSettings (t : FileTree) (start : Path) : Except Error Settings :=
  match t.findSettings start with
  | none => .ok {}
  | some p => t.readSettings p

end FileTree

end RpcDispatch
