import RpcDispatch.Text.Basic

/-!
# Tokens

A source text is cut into pieces: blank runs, line comments and lexemes. Nothing is lost, so the
pieces spell out the text again. A token is a lexeme together with the layout in front of it
and its place; the text between two tokens can be read off the tokens themselves.
-/

namespace RpcDispatch

inductive TokenKind where
  | defineFunction
  | slashComment
  | parenComment
  | leftParen
  | rightParen
  | leftBrace
  | rightBrace
  | leftBracket
  | rightBracket
  | comma
  | string
  | number
  | ident
  | other
deriving DecidableEq, Repr

namespace TokenKind

def isComment : TokenKind → Bool
  | slashComment | parenComment => true
  | _ => false

end TokenKind

inductive PieceKind where
  | blank
  | lineComment
  | lexeme (kind : TokenKind)
deriving DecidableEq, Repr

structure Piece where
  kind : PieceKind
  text : Text
deriving DecidableEq, Repr

structure Token where
  kind : TokenKind
  /-- Blanks and line comments between the token before and this one. -/
  gap : Text
  text : Text
  /-- Byte offset of the first character. -/
  start : Nat
deriving DecidableEq, Repr

namespace Token

def stop (t : Token) : Nat := t.start + Text.byteSize t.text

def withGap (t : Token) : Text := t.gap ++ t.text

def isComment (t : Token) : Bool := t.kind.isComment

end Token

namespace Piece

def isBlank (c : Char) : Bool :=
  c == ' ' || c == '\t' || c == '\r' || c == '\n' || c == '\x0c'

def isLineEnd (c : Char) : Bool := c == '\r' || c == '\n'

def isWordStart (c : Char) : Bool := c.isAlpha || c == '_'

def isWordPart (c : Char) : Bool := c.isAlphanum || c == '_'

def keyword : Text := "define_function"

/-- How many characters lie before the end of the first `a` directly followed by `b`. -/
def closing? (a b : Char) : Text → Option Nat
  | x :: y :: t => if x = a && y = b then some 2 else (closing? a b (y :: t)).map (· + 1)
  | _ => none

def run (p : Char → Bool) (t : Text) : Nat := (t.takeWhile p).length

def wordKind (w : Text) : TokenKind :=
  if Text.foldCase w = keyword then .defineFunction else .ident

def singleKind (c : Char) : TokenKind :=
  match c with
  | '(' => .leftParen
  | ')' => .rightParen
  | '{' => .leftBrace
  | '}' => .rightBrace
  | '[' => .leftBracket
  | ']' => .rightBracket
  | ',' => .comma
  | _ => .other

/-- A group opened by `c`: up to its end if it has one, else the one character. -/
def closedOr (c : Char) (kind : TokenKind) : Option Nat → PieceKind × Nat
  | some n => (.lexeme kind, n)
  | none => (.lexeme (singleKind c), 0)

/-- Kind of the longest piece at the head of `c :: rest`, and how many characters of `rest`
it takes. -/
def head (c : Char) (rest : Text) : PieceKind × Nat :=
  if isBlank c then (.blank, run isBlank rest)
  else if isWordStart c then
    let n := run isWordPart rest
    (.lexeme (wordKind (c :: rest.take n)), n)
  else if c.isDigit then (.lexeme .number, run Char.isDigit rest)
  else match c, rest with
    | '/', '/' :: _ => (.lineComment, run (fun x => !isLineEnd x) rest)
    | '/', '*' :: inner => closedOr c .slashComment ((closing? '*' '/' inner).map (· + 1))
    | '(', '*' :: inner => closedOr c .parenComment ((closing? '*' ')' inner).map (· + 1))
    | '\'', _ =>
        let n := run (· != '\'') rest
        closedOr c .string (if n < rest.length then some (n + 1) else none)
    | _, _ => (.lexeme (singleKind c), 0)

/-- The pieces of a text; the number counts the characters at its head that belong to the piece
before. -/
def cut : Nat → Text → List Piece
  | _, [] => []
  | n + 1, _ :: rest => cut n rest
  | 0, c :: rest =>
      let (kind, n) := head c rest
      ⟨kind, c :: rest.take n⟩ :: cut n rest

def ofText (t : Text) : List Piece := cut 0 t

end Piece

namespace Token

/-- Joins each lexeme with the layout before it; `offset` is the place of the first piece and
`gap` the layout already passed. -/
def ofPieces (offset : Nat) (gap : Text) : List Piece → List Token
  | [] => []
  | ⟨.lexeme kind, text⟩ :: ps =>
      ⟨kind, gap, text, offset⟩ :: ofPieces (offset + Text.byteSize text) [] ps
  | ⟨.blank, text⟩ :: ps => ofPieces (offset + Text.byteSize text) (gap ++ text) ps
  | ⟨.lineComment, text⟩ :: ps => ofPieces (offset + Text.byteSize text) (gap ++ text) ps

def ofText (t : Text) : List Token := ofPieces 0 [] (Piece.ofText t)

/-- The tokens that are not comments; a comment becomes layout before the next token. -/
def absorbComments (carry : Text) : List Token → List Token
  | [] => []
  | t :: ts =>
      if t.isComment then absorbComments (carry ++ t.withGap) ts
      else { t with gap := carry ++ t.gap } :: absorbComments [] ts

/-- Source text from behind one token up to a later one: the tokens between them, and the layout
before the last. -/
def between (inner : List Token) (close : Token) : Text :=
  inner.flatMap withGap ++ close.gap

end Token

end RpcDispatch
