import RpcDispatch.Error
import RpcDispatch.Text.Blank
import RpcDispatch.Unicode.Lookup
import RpcDispatch.Workspace.Entity

/-!
# Workspace documents

A workspace lists the files of its systems. Only the first system of the first project counts.
The document is searched for tags, it need not be well formed elsewhere.
-/

namespace RpcDispatch

structure Workspace where
  path : Path
  entries : List Text
deriving DecidableEq, Repr

namespace Workspace

def endsName (t : Text) : Bool := !t.head?.any Unicode.isWordChar

/-- What follows the first opening tag with the name. -/
def afterTag? (name : Text) : Text → Option Text
  | [] => none
  | c :: t => match Text.dropStart? ('<' :: name) (c :: t) with
      | some rest =>
          if endsName rest then (Text.cutAt? ">" rest).map (·.2) else afterTag? name t
      | none => afterTag? name t

/-- What stands between the first opening tag and the next closing one. -/
def element? (name : Text) (t : Text) : Option Text := do
  let rest ← afterTag? name t
  let (inside, _) ← Text.cutAt? ("</" ++ name ++ ">") rest
  pure inside

/-- What stands between two marks, for every such pair from left to right. The number counts the
characters that belong to the last pair. -/
def between (opening closing : Text) : Nat → Text → List Text
  | _, [] => []
  | n + 1, _ :: t => between opening closing n t
  | 0, c :: t => match Text.dropStart? opening (c :: t) with
      | none => between opening closing 0 t
      | some rest => match Text.cutAt? closing rest with
          | none => []
          | some (inside, rest) =>
              inside :: between opening closing (t.length - rest.length) t

def entriesOf (system : Text) : List Text :=
  (between "<FilePathName>" "</FilePathName>" 0 system).map fun t => Entity.decode (Text.trim t)

def parse (path : Path) (document : Text) : Except Error Workspace :=
  match element? "Project" document with
  | none => .error (.invalidWorkspace path "no <Project> element")
  | some project => match element? "System" project with
      | none => .error (.invalidWorkspace path "first project has no <System> element")
      | some system => .ok ⟨path, entriesOf system⟩

def directory (w : Workspace) : Path := w.path.parent?.getD ⟨[]⟩

end Workspace

end RpcDispatch
