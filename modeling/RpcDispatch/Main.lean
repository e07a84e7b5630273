import RpcDispatch.Command.Run

/-!
# The program

The program loads the part of the machine's files that a command can look at, runs the command on
that tree and writes down what has changed.
-/

namespace RpcDispatch.Program

def machinePath (r : Route) : String :=
  String.ofList (if r = [] then ['/'] else r.flatMap ('/' :: ·))

def routeOf (p : Path) : Route :=
  p.fold.components.filterMap fun c => match c with
    | .name t => some t
    | _ => none

def namesIn (r : Route) : IO (Option (List Text)) := do
  try
    let entries ← ((← IO.currentDir) / machinePath r).readDir
    pure (some (entries.toList.map (·.fileName.toList)))
  catch _ => pure none

def addFile (t : FileTree) (r : Route) : IO FileTree := do
  try
    let bytes ← IO.FS.readBinFile (machinePath r)
    pure (t.set r (.file bytes.toList))
  catch _ => pure t

/-- Adds a node that exists, a file without its bytes. -/
def addNode (t : FileTree) (r : Route) : IO FileTree := do
  if (t.node? r).isSome then
    pure t
  else if (← namesIn r).isSome then
    pure (t.set r .directory)
  else
    pure (t.set r (.file []))

def addDirectory (t : FileTree) (r : Route) : IO FileTree := do
  match ← namesIn r with
  | none => pure t
  | some names => names.foldlM (fun t name => addNode t (r ++ [name])) (t.set r .directory)

/-- Adds the directories on the way to a path, and the one that it names. -/
def addAround (t : FileTree) (p : Path) : IO FileTree :=
  let r := routeOf p
  (List.range (r.length + 1)).foldlM (fun t n => addDirectory t (r.take n)) t

/-- Adds all below a directory; of the files only those that exclude others have their bytes. -/
partial def addBelow (t : FileTree) (r : Route) : IO FileTree := do
  let t ← addDirectory t r
  (t.children r).foldlM (fun t (name, n) =>
    match n with
    | .directory => addBelow t (r ++ [name])
    | .file _ =>
        let file := r ++ [name]
        if FileTree.excludeFile.reverse.isPrefixOf file.reverse then addFile t file else pure t) t

def addSources (a : SourceArguments) (cwd : Path) (t : FileTree) : IO FileTree := do
  let starts := cwd :: ((a.givenRoot cwd).toList ++ (a.workspace.map cwd.join).toList)
  let t ← starts.foldlM addAround t
  let t ← match a.locate t cwd with
    | .error _ => pure t
    | .ok l => do addBelow (← addAround t l.root) (routeOf l.root)
  (a.reads t cwd).foldlM (fun t p => do addFile (← addAround t p) (routeOf p)) t

/-- Every round tells more: the workspace, then the settings, then the sources. -/
def loadSources (a : SourceArguments) (output : Option Path) (cwd : Path) : IO FileTree := do
  let t ← (List.range 4).foldlM (fun t _ => addSources a cwd t) {}
  match a.resolve t cwd, output with
  | _, some o => addAround t (cwd.join o)
  | .ok r, none =>
      let o := r.settings.output
      [o.path, o.listingPath].foldlM (fun t p => addAround t (r.sources.root.join p)) t
  | .error _, none => pure t

def load (cwd : Path) : Command → IO FileTree
  | .generate a output => loadSources a output cwd
  | .list a output => loadSources a output cwd
  | .init _ => addAround {} cwd

def store (before after : FileTree) : IO Unit :=
  (before.changed after).forM fun (r, bytes) => do
    IO.FS.createDirAll (machinePath r.dropLast)
    IO.FS.writeBinFile (machinePath r) ⟨bytes.toArray⟩

def usage : String :=
  "Usage: netlinx-rpc [-v]... <generate | list> [-w <workspace>] [--root <root>] " ++
    "[--file <path>]... [-o <output>]\n       netlinx-rpc [-v]... init [-f]"

def refuse (f : LineFault) : IO UInt32 := do
  match f with
  | .help =>
      IO.println usage
      pure 0
  | .version =>
      IO.print (String.ofList CommandLine.versionText)
      pure 0
  | _ =>
      IO.eprintln usage
      pure 2

def carryOut (c : CommandLine) : IO UInt32 := do
  let cwd : Path := ⟨(← IO.currentDir).toString.toList⟩
  let before ← load cwd c.command
  let ((report, after), _) := Command.run before cwd c.command Context.empty
  store before after
  IO.print (String.ofList report.printed)
  report.warnings.forM fun w => IO.eprintln (String.ofList ("WARN " ++ w))
  match report.failure with
  | none => pure 0
  | some f =>
      IO.eprintln (String.ofList ("Error: " ++ Text.intercalate ": " f.chain))
      pure 1

end RpcDispatch.Program

def main (args : List String) : IO UInt32 :=
  match RpcDispatch.CommandLine.parse (args.map String.toList) with
  | .ok c => RpcDispatch.Program.carryOut c
  | .error f => RpcDispatch.Program.refuse f
