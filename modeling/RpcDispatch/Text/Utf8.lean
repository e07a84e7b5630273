import RpcDispatch.Text.Basic

/-!
# UTF-8

Settings files and names of files are stored in UTF-8, where not every run of bytes is a text.
-/

namespace RpcDispatch.Utf8

def encode (t : Text) : List UInt8 := t.flatMap String.utf8EncodeChar

def decode? (bytes : List UInt8) : Option Text :=
  (String.fromUTF8? ⟨bytes.toArray⟩).map String.toList

end RpcDispatch.Utf8
