import RpcDispatch.Source.Signature
import RpcDispatch.Source.Token

/-!
# Parameter lists

An entry of a parameter list is a run of names, the last of them the parameter's own and the one
before it its type, followed by an optional width in brackets.
-/

namespace RpcDispatch

structure Parameter where
  /-- Leading modifiers such as `CONSTANT`. -/
  qualifiers : List Text
  type : Text
  name : Text
  width : Option ArrayWidth
deriving DecidableEq, Repr

inductive ParameterFault where
  | noTypeAndName
  | tokensAfterName
deriving DecidableEq, Repr

namespace ParameterFault

def message : ParameterFault → Text
  | noTypeAndName => "expected a type followed by a name"
  | tokensAfterName => "unexpected tokens after parameter name"

end ParameterFault

/-- The first entry that could not be read; positions count from one. -/
structure ParameterFailure where
  position : Nat
  fault : ParameterFault
deriving DecidableEq, Repr

namespace ParameterFailure

def wording (position : Nat) (problem : Text) : Text :=
  "parameter " ++ Text.ofNat position ++ ": " ++ problem

def message (f : ParameterFailure) : Text := wording f.position f.fault.message

end ParameterFailure

namespace Parameter

def isArray (p : Parameter) : Bool := p.width.isSome

/-- The tokens between commas; always at least one entry. -/
def splitEntries : List Token → List (List Token)
  | [] => [[]]
  | t :: ts =>
      if t.kind = .comma then [] :: splitEntries ts
      else match splitEntries ts with
        | [] => [[t]]
        | e :: es => (t :: e) :: es

def readWidth : List Token → Except ParameterFault (Option ArrayWidth)
  | [] => .ok none
  | first :: more => match more.getLast? with
      | some last =>
          if first.kind = .leftBracket ∧ last.kind = .rightBracket then
            .ok (some (ArrayWidth.ofText (Token.between more.dropLast last)))
          else .error .tokensAfterName
      | none => .error .tokensAfterName

def isName (t : Token) : Bool := t.kind = .ident

def readEntry (entry : List Token) : Except ParameterFault Parameter :=
  match (entry.takeWhile isName).reverse with
  | name :: type :: qualifiers => do
      let width ← readWidth (entry.dropWhile isName)
      pure ⟨qualifiers.reverse.map (·.text), type.text, name.text, width⟩
  | _ => .error .noTypeAndName

def readEntries (position : Nat) :
    List (List Token) → Except ParameterFailure (List Parameter)
  | [] => .ok []
  | e :: es => match readEntry e with
      | .error f => .error ⟨position, f⟩
      | .ok p => (readEntries (position + 1) es).map (p :: ·)

def parseList (raw : Text) : Except ParameterFailure (List Parameter) :=
  match Token.absorbComments [] (Token.ofText raw) with
  | [] => .ok []
  | ts => readEntries 1 (splitEntries ts)

end Parameter

end RpcDispatch
