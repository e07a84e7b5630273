import RpcDispatch.Text.Basic

/-!
# Latin-1

Source files are stored with one byte per character. Each byte is the character of the same
number, so reading cannot fail, and writing has to replace what lies above `\u00FF`.
-/

namespace RpcDispatch.Latin

def decode (bytes : List UInt8) : Text := bytes.map fun b => Char.ofNat b.toNat

def encodeChar (c : Char) : UInt8 := if c.toNat < 256 then c.toNat.toUInt8 else '?'.toNat.toUInt8

def encode (t : Text) : List UInt8 := t.map encodeChar

end RpcDispatch.Latin
