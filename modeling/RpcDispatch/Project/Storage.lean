import RpcDispatch.Project.FileTree
import RpcDispatch.Text.Latin

/-!
# Stored texts

Sources and generated texts are files in Latin-1. Writing one makes the directories around it.
-/

namespace RpcDispatch.FileTree

def readText (t : FileTree) (p : Path) : Except Error Text :=
  match t.read p with
  | .ok bytes => .ok (Latin.decode bytes)
  | .error .missing => .error (.sourceNotFound p)
  | .error f => .error (.fileSystem "Failed to read file" p f)

/-- Makes the directory that a path lies in, unless something is there. -/
def ensureParent (t : FileTree) (p : Path) : Except Error Unit × FileTree :=
  match p.parent? with
  | none => (.ok (), t)
  | some d =>
      if d.text = [] ∨ t.isPresent d then (.ok (), t)
      else match t.makeDirectories d with
        | (.ok (), t) => (.ok (), t)
        | (.error f, t) => (.error (.fileSystem "Failed to create directory" d f), t)

/-- The result of writing and the tree behind it; directories made on the way stay. -/
def writeText (t : FileTree) (p : Path) (text : Text) : Except Error Unit × FileTree :=
  match t.ensureParent p with
  | (.error e, t) => (.error e, t)
  | (.ok (), t) => match t.write p (Latin.encode text) with
      | .ok t => (.ok (), t)
      | .error f => (.error (.fileSystem "Failed to write file" p f), t)

end RpcDispatch.FileTree
