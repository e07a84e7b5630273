import RpcDispatch.Dispatch.Validate

/-!
# The dispatch table

One section for each file, one entry for each signature, in order. One registry is threaded
through all files.
-/

namespace RpcDispatch

inductive Fragment where
  | branch (signature : ResolvedSignature)
  | skip (rawParams : Text) (reason : SkipReason)
deriving DecidableEq, Repr

structure DispatchEntry where
  /-- Name as written in source. -/
  name : Text
  fragment : Fragment
deriving DecidableEq, Repr

namespace DispatchEntry

def ofOutcome (s : Signature) : Except SkipReason ResolvedSignature → DispatchEntry
  | .ok resolved => ⟨s.name, .branch resolved⟩
  | .error reason => ⟨s.name, .skip s.rawParams reason⟩

def isBranch (e : DispatchEntry) : Bool :=
  match e.fragment with
  | .branch _ => true
  | .skip _ _ => false

end DispatchEntry

structure FileSection where
  /-- The path shown for the file. -/
  path : Text
  entries : List DispatchEntry
deriving DecidableEq, Repr

structure DisplayedScan where
  display : Text
  scan : FileScan
deriving DecidableEq, Repr

structure DispatchTable where
  sections : List FileSection
deriving DecidableEq, Repr

namespace DispatchTable

/-- Entries of signatures in turn, and the registry behind the last. -/
def entriesOf : List Signature → Registry → List DispatchEntry × Registry
  | [], r => ([], r)
  | s :: ss, r =>
      let (outcome, r) := s.validate r
      let (es, r) := entriesOf ss r
      (DispatchEntry.ofOutcome s outcome :: es, r)

def sectionsOf : List DisplayedScan → Registry → List FileSection
  | [], _ => []
  | d :: ds, r =>
      let (es, r) := entriesOf d.scan.signatures r
      ⟨d.display, es⟩ :: sectionsOf ds r

def build (scans : List DisplayedScan) : DispatchTable := ⟨sectionsOf scans .empty⟩

def entries (t : DispatchTable) : List DispatchEntry := t.sections.flatMap (·.entries)

def branchCount (t : DispatchTable) : Nat := t.entries.countP (·.isBranch)

def skipCount (t : DispatchTable) : Nat := t.entries.countP (!·.isBranch)

end DispatchTable

end RpcDispatch
