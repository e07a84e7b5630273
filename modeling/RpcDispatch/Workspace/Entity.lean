import RpcDispatch.Text.Basic

/-!
# Entities

Five characters are written as entities between the tags of a workspace file. They are decoded
one kind after the other, the ampersand last, so that no entity comes to life on the way.
-/

namespace RpcDispatch

structure Entity where
  text : Text
  char : Char
deriving DecidableEq, Repr

namespace Entity

/-- In the order of decoding. -/
def all : List Entity :=
  [⟨"&lt;", '<'⟩, ⟨"&gt;", '>'⟩, ⟨"&quot;", '"'⟩, ⟨"&apos;", '\''⟩, ⟨"&amp;", '&'⟩]

def expand (t : Text) (e : Entity) : Text := Text.replaceAll e.text [e.char] t

def decode (t : Text) : Text := all.foldl expand t

def encodeChar (c : Char) : Text :=
  match all.find? (·.char = c) with
  | some e => e.text
  | none => [c]

def encode (t : Text) : Text := t.flatMap encodeChar

end Entity

end RpcDispatch
