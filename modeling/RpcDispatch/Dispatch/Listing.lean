import RpcDispatch.Dispatch.Table

/-!
# The function listing

Every function found, grouped by file, with its doc comment.
-/

namespace RpcDispatch.Listing

def rule : Text := List.replicate 50 '-'

def signature (s : Signature) : Text := s.docComment.getD [] ++ "\n" ++ s.name ++ "\n\n\n"

def file (d : DisplayedScan) : Text :=
  rule ++ "\nFILE: '" ++ d.display ++ "'\n" ++ rule ++ "\n\n\n" ++
    d.scan.signatures.flatMap signature

def render (scans : List DisplayedScan) : Text := scans.flatMap file

end RpcDispatch.Listing
