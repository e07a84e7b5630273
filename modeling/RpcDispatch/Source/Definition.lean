import RpcDispatch.Source.Signature
import RpcDispatch.Source.Token

/-!
# Reading one definition

Behind the keyword stand an optional return type with an optional width, the name, a parameter
list and a body. Comments may stand between any two of them. A bracket group ends where its own
kind of bracket balances; other kinds are not counted.
-/

namespace RpcDispatch

inductive DefinitionFault where
  | noName
  | noNameAfterType
  | noParameterList (first : Text)
  | noOpenParen (name : Text)
  | noBody
  | unclosedWidth
  | unclosedParameters
  | unclosedBody
deriving DecidableEq, Repr

namespace DefinitionFault

def message : DefinitionFault → Text
  | noName => "expected function name after DEFINE_FUNCTION"
  | noNameAfterType => "expected function name after return type"
  | noParameterList first => "expected parameter list after '" ++ first ++ "'"
  | noOpenParen name => "expected '(' after '" ++ name ++ "'"
  | noBody => "expected '\x7b' to open function body"
  | unclosedWidth => "unterminated array width"
  | unclosedParameters => "unterminated parameter list"
  | unclosedBody => "unterminated function body"

/-- An unclosed list or body swallows the rest of the file. -/
def isFatal : DefinitionFault → Bool
  | unclosedParameters | unclosedBody => true
  | _ => false

def severity (f : DefinitionFault) : Severity := if f.isFatal then .error else .warning

end DefinitionFault

/-- Why no definition could be read, and the token it shows at. -/
structure DefinitionFailure where
  fault : DefinitionFault
  place : Token
deriving DecidableEq, Repr

structure Group where
  inner : List Token
  close : Token
  rest : List Token
deriving DecidableEq, Repr

namespace Group

def text (g : Group) : Text := Token.between g.inner g.close

def cons (t : Token) (g : Group) : Group := { g with inner := t :: g.inner }

/-- Reads on to the token that closes a group in which `depth` groups of the same kind are open
already. -/
def read? (opener closer : TokenKind) : (depth : Nat) → List Token → Option Group
  | _, [] => none
  | depth, t :: ts =>
      if t.kind = opener then (read? opener closer (depth + 1) ts).map (cons t)
      else if t.kind = closer then match depth with
        | 0 => some ⟨[], t, ts⟩
        | d + 1 => (read? opener closer d ts).map (cons t)
      else (read? opener closer depth ts).map (cons t)

end Group

def nextSignificant? : List Token → Option (Token × List Token)
  | [] => none
  | t :: ts => if t.isComment then nextSignificant? ts else some (t, ts)

def nextOfKind? (kind : TokenKind) (ts : List Token) : Option (Token × List Token) :=
  (nextSignificant? ts).filter fun (t, _) => t.kind = kind

structure DefinitionHead where
  returnType : Option Text
  returnWidth : Option ArrayWidth
  name : Token
  rest : List Token
deriving DecidableEq, Repr

def DefinitionHead.read (keyword : Token) (ts : List Token) :
    Except DefinitionFailure DefinitionHead := do
  let (first, afterFirst) ← (nextOfKind? .ident ts).elim (throw ⟨.noName, keyword⟩) pure
  match nextSignificant? afterFirst with
  | some (second, afterSecond) => match second.kind with
      | .leftParen => pure ⟨none, none, first, afterFirst⟩
      | .ident => pure ⟨some first.text, none, second, afterSecond⟩
      | .leftBracket => do
          let width ← (Group.read? .leftBracket .rightBracket 0 afterSecond).elim
            (throw ⟨.unclosedWidth, second⟩) pure
          let (name, rest) ← (nextOfKind? .ident width.rest).elim
            (throw ⟨.noNameAfterType, width.close⟩) pure
          pure ⟨some first.text, some (ArrayWidth.ofText width.text), name, rest⟩
      | _ => throw ⟨.noParameterList first.text, first⟩
  | none => throw ⟨.noParameterList first.text, first⟩

structure Definition where
  head : DefinitionHead
  params : Group
  body : Group
deriving DecidableEq, Repr

namespace Definition

def read (keyword : Token) (ts : List Token) : Except DefinitionFailure Definition := do
  let head ← DefinitionHead.read keyword ts
  let (openParen, inParens) ← (nextOfKind? .leftParen head.rest).elim
    (throw ⟨.noOpenParen head.name.text, head.name⟩) pure
  let params ← (Group.read? .leftParen .rightParen 0 inParens).elim
    (throw ⟨.unclosedParameters, openParen⟩) pure
  let (openBrace, inBraces) ← (nextOfKind? .leftBrace params.rest).elim
    (throw ⟨.noBody, params.close⟩) pure
  let body ← (Group.read? .leftBrace .rightBrace 0 inBraces).elim
    (throw ⟨.unclosedBody, openBrace⟩) pure
  pure ⟨head, params, body⟩

def rest (d : Definition) : List Token := d.body.rest

end Definition

end RpcDispatch
