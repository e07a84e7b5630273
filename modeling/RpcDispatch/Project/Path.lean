import RpcDispatch.Text.Basic

/-!
# Paths

A path keeps the text it was written with. Its components leave out empty parts and every `.`
but a leading one; `..` stays a component, nothing is looked up.
-/

namespace RpcDispatch

structure Path where
  text : Text
deriving DecidableEq, Repr

inductive Component where
  | root
  | current
  | parent
  | name (text : Text)
deriving DecidableEq, Repr

namespace Component

def text : Component → Text
  | root => "/"
  | current => "."
  | parent => ".."
  | name t => t

end Component

namespace Path

def isAbsolute (p : Path) : Bool := p.text.head? == some '/'

def part? (t : Text) : Option Component :=
  if t = [] then none
  else if t = "." then none
  else if t = ".." then some .parent
  else some (.name t)

def startsAtCurrent (t : Text) : Bool := t == ['.'] || ['.', '/'].isPrefixOf t

/-- What precedes the body: the root, a leading `.`, or nothing. -/
def lead (p : Path) : List Component :=
  if p.isAbsolute then [.root]
  else if startsAtCurrent p.text then [.current]
  else []

def components (p : Path) : List Component :=
  p.lead ++ (Text.splitOn '/' p.text).filterMap part?

def leadLength (p : Path) : Nat := p.lead.length

/-- Cuts separators, and parts that are empty or `.`, off the end of a body, given in reverse. -/
def trimBody : (reversed : Text) → Text
  | '/' :: r => trimBody r
  | '.' :: '/' :: r => trimBody r
  | ['.'] => []
  | r => r

def body (p : Path) : Text := p.text.drop p.leadLength

/-- The path without its last component, as a cut of its text; the root and the empty path have
none. -/
def parent? (p : Path) : Option Path :=
  let lead := p.text.take p.leadLength
  match trimBody p.body.reverse with
  | [] => match p.lead with
      | [.current] => some ⟨[]⟩
      | _ => none
  | last => some ⟨lead ++ (trimBody (last.dropWhile (· ≠ '/'))).reverse⟩

def join (p q : Path) : Path :=
  if q.isAbsolute then q
  else match p.text.getLast? with
    | none => q
    | some c => if c = '/' then ⟨p.text ++ q.text⟩ else ⟨p.text ++ '/' :: q.text⟩

def fileName? (p : Path) : Option Text :=
  match p.components.getLast? with
  | some (.name t) => some t
  | _ => none

/-- What follows the last dot of a file name, unless the dot is its first character. -/
def extension? (p : Path) : Option Text :=
  p.fileName?.bind fun name =>
    let tail := (name.reverse.takeWhile (· ≠ '.')).reverse
    if tail.length + 1 < name.length then some tail else none

def trimFront : Text → Text
  | '/' :: t => trimFront t
  | '.' :: '/' :: t => trimFront t
  | ['.'] => []
  | t => t

def skipParts : Nat → Text → Text
  | 0, t => t
  | n + 1, t => skipParts n ((trimFront t).dropWhile (· ≠ '/'))

/-- What remains of `p` below `base`, if the components of `base` are the first of `p`. -/
def stripBase? (p base : Path) : Option Path :=
  let front := base.components
  if front = [] then some ⟨p.text.take p.leadLength ++ trimEnd p.body⟩
  else if front.isPrefixOf p.components then
    some ⟨trimEnd (trimFront (skipParts (front.length - p.lead.length) p.body))⟩
  else none
where
  trimEnd (t : Text) : Text := (trimBody t.reverse).reverse

def ancestors : (depth : Nat) → Path → List Path
  | 0, _ => []
  | n + 1, p => p :: match p.parent? with
      | some q => ancestors n q
      | none => []

def hasExtension (wanted : Text) (p : Path) : Bool :=
  match p.extension? with
  | some e => Text.sameLetters e wanted
  | none => false

/-- One component more; `..` takes the last one back if there is one. -/
def foldStep (p : Path) : Component → Path
  | .current => p
  | .parent => (p.parent?).getD (p.join ⟨".."⟩)
  | c => p.join ⟨c.text⟩

def fold (p : Path) : Path := p.components.foldl foldStep ⟨[]⟩

def slashed (p : Path) : Text := Text.replaceChar '\\' '/' p.text

end Path

end RpcDispatch
