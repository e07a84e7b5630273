import RpcDispatch.Pattern.Glob
import RpcDispatch.Pattern.IgnoreFile
import RpcDispatch.Project.FileTree

/-!
# Listing a project

Which files lie below a directory, apart from those that a repository excludes. An entry obeys the
exclude file of the innermost repository around it, if that lies below the directory listed.
-/

namespace RpcDispatch.FileTree

def filesBelow (t : FileTree) (root : Route) : List Route :=
  (t.files.map (·.1)).filterMap fun r =>
    if root.isPrefixOf r && r != root then some (r.drop root.length) else none

/-- A repository is a directory with this name in it. -/
def repositoryMark : Route := [".git"]

def excludeFile : Route := [".git", "info", "exclude"]

def repositoryRules (t : FileTree) (repository : Route) : List IgnoreRule :=
  match t.node? (repository ++ excludeFile) with
  | some (.file bytes) => IgnoreFile.rules bytes
  | _ => []

/-- Number of names that lead from the root to the innermost repository around an entry. -/
def repositoryDepth? (t : FileTree) (root below : Route) : Option Nat :=
  (List.range below.length).reverse.find? fun n =>
    (t.node? (root ++ below.take n ++ repositoryMark)).isSome

def isExcluded (t : FileTree) (root below : Route) (isDirectory : Bool) : Bool :=
  match t.repositoryDepth? root below with
  | none => false
  | some n => IgnoreFile.ignores (t.repositoryRules (root ++ below.take n))
      (Text.intercalate "/" (below.drop n)) isDirectory

/-- Whether a file below the root is left out: it or a directory on the way is excluded. -/
def isLeftOut (t : FileTree) (root below : Route) : Bool :=
  (List.range below.length).any fun n =>
    t.isExcluded root (below.take (n + 1)) (n + 1 < below.length)

def shown (below : Route) : Text := Text.replaceChar '\\' '/' (Text.intercalate "/" below)

structure Wanted where
  extensions : List Text := ["axi", "axs"]
  /-- Patterns of files that are not listed. -/
  ignore : List Text := []
deriving DecidableEq, Repr

def Wanted.takes (w : Wanted) (path : Text) : Bool :=
  w.extensions.any (Path.hasExtension · ⟨path⟩) && !w.ignore.any (Glob.isMatch · path)

def walk (t : FileTree) (root : Path) (w : Wanted) : Except Error (List Text) :=
  match t.lookup root with
  | .error f =>
      let cause := FileFault.listing root f
      .error (.fileSystem ("Failed to list " ++ root.text ++ ": " ++ root.text ++ ": " ++
        cause.message) root cause)
  | .ok _ =>
      let r := (t.route root).toOption.getD []
      let files := (t.filesBelow r).filter fun below => !t.isLeftOut r below
      .ok (Text.sort ((files.map shown).filter w.takes))

end RpcDispatch.FileTree
