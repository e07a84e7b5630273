import RpcDispatch.Source.Definition

/-!
# Finding the definitions of a file

Every keyword outside a definition starts one or raises one diagnostic. Reading goes on behind
the closing brace of a definition, and behind the keyword where none could be read, unless the
failure swallowed the rest of the file.
-/

namespace RpcDispatch

structure SourceText where
  path : Path
  text : Text
deriving DecidableEq, Repr

/-- What one keyword came to. -/
inductive Finding where
  | signature (s : Signature)
  | diagnostic (d : Diagnostic)
deriving DecidableEq, Repr

namespace Finding

def signature? : Finding → Option Signature
  | signature s => some s
  | diagnostic _ => none

def diagnostic? : Finding → Option Diagnostic
  | signature _ => none
  | diagnostic d => some d

end Finding

namespace SourceText

def locate (s : SourceText) (t : Token) : Location := Location.locate s.text t.start

def signature (s : SourceText) (doc : Option Token) (keyword : Token) (d : Definition) :
    Signature where
  docComment := doc.map (·.text)
  returnType := d.head.returnType
  returnWidth := d.head.returnWidth
  name := d.head.name.text
  rawParams := Text.trim d.params.text
  body := d.body.text
  sourceFile := s.path
  start := (doc.getD keyword).start
  stop := d.body.close.stop
  location := s.locate keyword

def diagnostic (s : SourceText) (f : DefinitionFailure) : Diagnostic where
  severity := f.fault.severity
  file := s.path
  location := s.locate f.place
  message := f.fault.message

/-- The findings in a run of tokens. The number counts tokens at its head that belong to the
definition before, `doc` is the comment directly before the run. -/
def findingsFrom (s : SourceText) : Nat → (doc : Option Token) → List Token → List Finding
  | _, _, [] => []
  | n + 1, _, _ :: ts => findingsFrom s n none ts
  | 0, doc, t :: ts =>
      if t.kind = .defineFunction then
        match Definition.read t ts with
        | .ok d =>
            .signature (s.signature doc t d) ::
              findingsFrom s (ts.length - d.rest.length) none ts
        | .error f =>
            .diagnostic (s.diagnostic f) ::
              if f.fault.isFatal then [] else findingsFrom s 0 none ts
      else findingsFrom s 0 (if t.isComment then some t else none) ts

def findings (s : SourceText) : List Finding := s.findingsFrom 0 none (Token.ofText s.text)

def extract (s : SourceText) : FileScan where
  path := s.path
  signatures := s.findings.filterMap Finding.signature?
  diagnostics := s.findings.filterMap Finding.diagnostic?

end SourceText

end RpcDispatch
