import RpcDispatch.Error

/-!
# File trees

A tree of directories and files, and what reading, writing and making directories at a path does
to it. A path is followed part by part from the root: every part but the last has to be a
directory, `.` and empty parts stay where they are and `..` goes up.
-/

namespace RpcDispatch

inductive Node where
  | directory
  | file (bytes : List UInt8)
deriving DecidableEq, Repr

/-- The names on the way from the root to a node. -/
abbrev Route := List Text

structure FileTree where
  nodes : List (Route × Node) := []
deriving DecidableEq, Repr

namespace FileTree

/-- The root is always a directory. -/
def node? (t : FileTree) (r : Route) : Option Node :=
  if r = [] then some .directory else (t.nodes.find? (·.1 = r)).map (·.2)

def set (t : FileTree) (r : Route) (n : Node) : FileTree :=
  ⟨(r, n) :: t.nodes.filter (·.1 ≠ r)⟩

@[simp] theorem node?_nil (t : FileTree) : t.node? [] = some .directory := rfl

theorem node?_set_self (t : FileTree) {r : Route} (n : Node) (h : r ≠ []) :
    (t.set r n).node? r = some n := by
  simp [node?, set, h]

theorem node?_set_of_ne (t : FileTree) {r s : Route} (n : Node) (h : s ≠ r) :
    (t.set r n).node? s = t.node? s := by
  unfold node? set
  split
  · rfl
  · congr 1
    simp only [List.find?_cons, Ne.symm h, decide_false]
    rw [List.find?_filter]
    congr 1
    funext e
    by_cases he : e.1 = s
    · simp [he, h]
    · simp [he]

def enter (t : FileTree) (r : Route) : Except FileFault Unit :=
  match t.node? r with
  | some .directory => .ok ()
  | some (.file _) => .error .notDirectory
  | none => .error .missing

/-- Where a part of a path leads from a directory. A name has at most 255 bytes. -/
def step (here : Route) (part : Text) : Except FileFault Route :=
  if part = [] ∨ part = "." then .ok here
  else if part = ".." then .ok here.dropLast
  else if 255 < Text.byteSize part then .error .nameTooLong
  else .ok (here ++ [part])

/-- Follows the parts of a path. What stands at the end need not exist. -/
def follow (t : FileTree) : Route → List Text → Except FileFault Route
  | here, [] => .ok here
  | here, part :: parts => do
      t.enter here
      follow t (← step here part) parts

/-- The parts of a path. A path has fewer than 4096 bytes. -/
def parts (p : Path) : Except FileFault (List Text) :=
  if '\x00' ∈ p.text then .error .nulInPath
  else if p.text = [] then .error .missing
  else if 4096 ≤ Text.byteSize p.text then .error .nameTooLong
  else .ok (Text.splitOn '/' p.text)

def route (t : FileTree) (p : Path) : Except FileFault Route := do
  t.follow [] (← parts p)

def lookup (t : FileTree) (p : Path) : Except FileFault Node := do
  match t.node? (← t.route p) with
  | some n => pure n
  | none => throw .missing

def isPresent (t : FileTree) (p : Path) : Bool := (t.lookup p).toOption.isSome

def isDirectory (t : FileTree) (p : Path) : Bool := (t.lookup p).toOption == some .directory

def isFile (t : FileTree) (p : Path) : Bool :=
  match t.lookup p with
  | .ok (.file _) => true
  | _ => false

def read (t : FileTree) (p : Path) : Except FileFault (List UInt8) := do
  match ← t.lookup p with
  | .file bytes => pure bytes
  | .directory => throw .isDirectory

/-- The last name of a path, apart from the parts in front of it. -/
structure Target where
  front : List Text
  name : Text
  /-- Whether a separator follows the name. -/
  closed : Bool

namespace Target

def ofParts? (parts : List Text) : Option Target :=
  match parts.reverse.dropWhile (· = []) with
  | [] => none
  | name :: front => some ⟨front.reverse, name, parts.getLast? = some []⟩

end Target

def around (t : FileTree) (x : Target) : Except FileFault Route := do
  let here ← t.follow [] x.front
  t.enter here
  pure here

def write (t : FileTree) (p : Path) (bytes : List UInt8) : Except FileFault FileTree := do
  match Target.ofParts? (← parts p) with
  | none => throw .isDirectory
  | some x =>
      let here ← t.around x
      if x.closed then
        throw .isDirectory
      let r ← step here x.name
      match t.node? r with
      | some .directory => throw .isDirectory
      | _ => pure (t.set r (.file bytes))

def makeDirectory (t : FileTree) (p : Path) : Except FileFault FileTree := do
  match Target.ofParts? (← parts p) with
  | none => throw .alreadyExists
  | some x =>
      let r ← step (← t.around x) x.name
      if (t.node? r).isSome then
        throw .alreadyExists
      pure (t.set r .directory)

/-- Makes a directory where none is, and the directories around it. The paths are those of the
directory and its ancestors, the nearest first. What has been made stays if a later one fails. -/
def makeAll (t : FileTree) : List Path → Except FileFault Unit × FileTree
  | [] => (.ok (), t)
  | p :: ps => match t.makeDirectory p with
      | .ok t => (.ok (), t)
      | .error .missing => match makeAll t ps with
          | (.error e, t) => (.error e, t)
          | (.ok (), t) => match t.makeDirectory p with
              | .ok t => (.ok (), t)
              | .error e => (if e = .alreadyExists ∧ t.isDirectory p then .ok () else .error e, t)
      | .error e => (if e = .alreadyExists ∧ t.isDirectory p then .ok () else .error e, t)

def makeDirectories (t : FileTree) (p : Path) : Except FileFault Unit × FileTree :=
  t.makeAll (p.ancestors (p.text.length + 1))

def children (t : FileTree) (r : Route) : List (Text × Node) :=
  t.nodes.filterMap fun (s, n) => match s.getLast? with
    | some name => if s.dropLast = r then some (name, n) else none
    | none => none

def remove (t : FileTree) (p : Path) : FileTree :=
  match t.route p with
  | .ok r => ⟨t.nodes.filter fun e => !r.isPrefixOf e.1⟩
  | .error _ => t

def files (t : FileTree) : List (Route × List UInt8) :=
  t.nodes.filterMap fun (r, n) => match n with
    | .file bytes => some (r, bytes)
    | .directory => none

def changed (before after : FileTree) : List (Route × List UInt8) :=
  after.files.filter fun (r, bytes) => before.node? r ≠ some (.file bytes)

def removed (before after : FileTree) : List Route :=
  (before.files.map (·.1)).filter fun r => match after.node? r with
    | some (.file _) => false
    | _ => true

end FileTree

end RpcDispatch
