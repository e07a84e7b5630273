import RpcDispatch.Text.Basic

/-!
# Types that can be passed

The validator and the renderer both consult `TypeSupport.table`; a new entry makes signatures
with its type dispatchable.
-/

namespace RpcDispatch

inductive TypeKind where
  | integer
deriving DecidableEq, Repr

/-- How values of one type are received, declared and printed. -/
structure TypeSupport where
  kind : TypeKind
  /-- Keyword of the language, in any letter case. -/
  keyword : Text
  /-- Function that takes one argument out of a message. -/
  accessor : Text
  declaration : Text
  /-- Function that turns a value into a string. -/
  printer : Text
deriving DecidableEq, Repr

namespace TypeSupport

def argument (s : TypeSupport) (index : Nat) (message : Text) : Text :=
  s.accessor ++ "(" ++ Text.ofNat index ++ ", " ++ message ++ ")"

def declare (s : TypeSupport) (name : Text) : Text := s.declaration ++ " " ++ name ++ ";"

def stringify (s : TypeSupport) (name : Text) : Text := s.printer ++ "(" ++ name ++ ")"

def integer : TypeSupport := ⟨.integer, "integer", "rpc_get_arg_i", "integer", "itoa"⟩

def table : List TypeSupport := [integer]

def lookup? (type : Text) : Option TypeSupport :=
  table.find? fun s => Text.sameLetters s.keyword type

end TypeSupport

end RpcDispatch
