import RpcDispatch.Dispatch.Render
import RpcDispatch.Dispatch.Listing

/-!
# Sessions

The scans of one run, in the order the files were read.
-/

namespace RpcDispatch

/-- A dispatcher held in memory, and how many signatures it dispatches and skips. -/
structure GeneratedModule where
  contents : Text
  branches : Nat
  skipped : Nat
deriving DecidableEq, Repr

structure Session where
  scans : List DisplayedScan := []
deriving DecidableEq, Repr

namespace Session

def add (s : Session) (display : Text) (scan : FileScan) : Session :=
  ⟨s.scans ++ [⟨display, scan⟩]⟩

def diagnostics (s : Session) : List Diagnostic := s.scans.flatMap (·.scan.diagnostics)

def table (s : Session) : DispatchTable := DispatchTable.build s.scans

def render (s : Session) (settings : DispatchSettings) (audit : Audit) : GeneratedModule where
  contents := s.table.render settings audit
  branches := s.table.branchCount
  skipped := s.table.skipCount

def listing (s : Session) : Text := Listing.render s.scans

end Session

end RpcDispatch
