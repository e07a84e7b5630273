import RpcDispatch.Project.Path

/-!
# What the program is doing

The context names the phase, the file being scanned and the progress, for the crash report. A
guard remembers phase and file from before a change and puts both back; progress stays.
-/

namespace RpcDispatch

inductive Phase where
  /-- Finding the workspace and selecting files. -/
  | discovery
  /-- Reading files. -/
  | scanning
  /-- Rendering. -/
  | emission
  | writing
deriving DecidableEq, Repr

namespace Phase

def text : Phase → Text
  | discovery => "discovery"
  | scanning => "scanning"
  | emission => "emission"
  | writing => "writing"

end Phase

structure Context where
  phase : Option Phase := none
  file : Option Path := none
  scanned : Nat := 0
  total : Nat := 0
deriving DecidableEq, Repr

/-- Phase and file as they were before a change. -/
structure Guard where
  phase : Option Phase
  file : Option Path
deriving DecidableEq, Repr

namespace Context

def empty : Context := {}

def guard (c : Context) : Guard := ⟨c.phase, c.file⟩

def setPhase (c : Context) (p : Phase) : Context := { c with phase := some p }

def setFile (c : Context) (f : Path) : Context := { c with file := some f }

def setProgress (c : Context) (scanned total : Nat) : Context :=
  { c with scanned := scanned, total := total }

def restore (c : Context) (g : Guard) : Context := { c with phase := g.phase, file := g.file }

end Context

abbrev Tracked (α : Type) := StateM Context α

namespace Tracked

def duringPhase {α : Type} (p : Phase) (body : Tracked α) : Tracked α := do
  let before ← get
  modify (·.setPhase p)
  let a ← body
  modify (·.restore before.guard)
  pure a

def duringFile {α : Type} (f : Path) (body : Tracked α) : Tracked α := do
  let before ← get
  modify (·.setFile f)
  let a ← body
  modify (·.restore before.guard)
  pure a

def progress (scanned total : Nat) : Tracked Unit := modify (·.setProgress scanned total)

end Tracked

end RpcDispatch
