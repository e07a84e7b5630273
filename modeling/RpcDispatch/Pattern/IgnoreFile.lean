import RpcDispatch.Pattern.Regex.Basic
import RpcDispatch.Text.Latin
import RpcDispatch.Text.Utf8

/-!
# Ignore files

Every line of an ignore file is a pattern for paths below its directory; the last one that matches
a path decides. Patterns are matched byte by byte: the expression made from one reads a path with
a character for every byte of its UTF-8 encoding.
-/

namespace RpcDispatch

inductive IgnorePiece where
  | part (r : Regex)
  /-- `**` with a separator behind it, at the front. -/
  | anyDirectories
  /-- `**` with a separator in front of it, at the end. -/
  | anythingBelow
deriving DecidableEq, Repr

namespace IgnorePiece

def byteClass (ranges : List (Nat × Nat)) : CharClass :=
  .runs (ranges.map fun (first, last) => ⟨first, last, 1⟩)

def separatorClass : CharClass := byteClass [(0x2F, 0x2F)]

def separator : Regex := .chars separatorClass

def nameByte : Regex := .chars (.compl separatorClass)

def nameRun : Regex := .times nameByte 0 none

def anything : Regex := .times (.chars (.compl .empty)) 0 none

/-- `**` between two separators. -/
def between : Regex := .alt separator (.seq separator (.seq anything separator))

def char (c : Char) : Regex :=
  (Utf8.encode [c]).foldr (fun b r => .seq (.chars (byteClass [(b.toNat, b.toNat)])) r) .empty

def regex : IgnorePiece → Regex
  | part r => r
  | anyDirectories => .alt (.times separator 0 (some 1)) (.seq anything separator)
  | anythingBelow => .seq separator anything

end IgnorePiece

namespace IgnorePattern

/-- How far a pattern has been read. Pieces and branches have the latest first. -/
structure Reading where
  pieces : List IgnorePiece := []
  /-- The finished branches of the group that is open. -/
  branches : List Regex := []
  /-- The groups around it: the pieces in front of each and its finished branches. -/
  outer : List (List IgnorePiece × List Regex) := []

namespace Reading

def add (s : Reading) (r : Regex) : Reading := { s with pieces := .part r :: s.pieces }

def sequence (pieces : List IgnorePiece) : Regex :=
  pieces.foldl (fun r p => .seq p.regex r) .empty

/-- The branches of the open group; one without pieces does not count. -/
def finished (s : Reading) : List Regex :=
  if s.pieces = [] then s.branches else sequence s.pieces :: s.branches

def openGroup (s : Reading) : Reading := ⟨[], [], (s.pieces, s.branches) :: s.outer⟩

def comma (s : Reading) : Reading :=
  if s.outer = [] then s.add (IgnorePiece.char ',')
  else { s with pieces := [], branches := s.finished }

def closeGroup? (s : Reading) : Option Reading :=
  match s.outer with
  | [] => none
  | (pieces, branches) :: outer =>
      let group := match s.finished with
        | [] => .empty
        | r :: rs => rs.foldl (fun acc r => .alt r acc) r
      some ⟨.part group :: pieces, branches, outer⟩

/-- Puts `**` in place of the separator read last. -/
def widen (s : Reading) (piece : IgnorePiece) : Reading :=
  match s.pieces with
  | .anyDirectories :: _ => s
  | .anythingBelow :: _ => s
  | pieces => { s with pieces := piece :: pieces.tail }

end Reading

/-- The byte ranges of a member of a set. Of a character in several bytes each byte is a member
of its own, and a range lies between the bytes that meet. -/
def memberBytes (first last : Char) : List (Nat × Nat) :=
  let lower := (Utf8.encode [first]).map UInt8.toNat
  let upper := (Utf8.encode [last]).map UInt8.toNat
  let single (n : Nat) := (n, n)
  if first = last then lower.map single
  else lower.dropLast.map single ++ [(lower.getLast?.getD 0, upper.head?.getD 0)] ++
    upper.tail.map single

/-- Reads the members of a set up to its closing bracket. Members have the latest first; `inRange`
is set between the `-` behind a member and the other end of the range. -/
def readMembers (first inRange : Bool) (members : List (Char × Char)) :
    Text → Option (List (Char × Char) × Text)
  | [] => none
  | c :: t =>
      if c = ']' ∧ !first then some (if inRange then ('-', '-') :: members else members, t)
      else if c = '-' ∧ !first ∧ !inRange then readMembers false true members t
      else match inRange, members with
        | true, (a, _) :: members =>
            if c < a then none else readMembers false false ((a, c) :: members) t
        | _, members => readMembers false false ((c, c) :: members) t

def readSet? (t : Text) : Option (Regex × Text) :=
  let negated : Bool := t.head? == some '!' || t.head? == some '^'
  (readMembers true false [] (if negated then t.tail else t)).map fun (members, rest) =>
    let set := IgnorePiece.byteClass (members.flatMap fun (a, b) => memberBytes a b)
    (.chars (if negated then .compl set else set), rest)

/-- Reads a pattern; `before` is the character in front of it. -/
def readFrom : (fuel : Nat) → (before : Option Char) → Reading → Text → Option Reading
  | 0, _, _, _ => none
  | _ + 1, _, s, [] => some s
  | fuel + 1, before, s, c :: t =>
      match c with
      | '?' => readFrom fuel (some c) (s.add IgnorePiece.nameByte) t
      | '[' => do
          let (set, t) ← readSet? t
          readFrom fuel (some ']') (s.add set) t
      | '\x7b' => readFrom fuel (some c) s.openGroup t
      | '\x7d' => do readFrom fuel (some c) (← s.closeGroup?) t
      | ',' => readFrom fuel (some c) s.comma t
      | '\\' => match t with
          | [] => none
          | d :: t => readFrom fuel (some d) (s.add (IgnorePiece.char d)) t
      | '*' => match t with
          | '*' :: t =>
              let runs := (s.add IgnorePiece.nameRun).add IgnorePiece.nameRun
              if s.pieces = [] then
                match t with
                | [] => some { s with pieces := [.anyDirectories] }
                | '/' :: t => readFrom fuel (some '/') { s with pieces := [.anyDirectories] } t
                | t => readFrom fuel (some c) runs t
              else if before ≠ some '/' ∧
                  (s.outer = [] ∨ before ≠ some ',' ∧ before ≠ some '\x7b') then
                readFrom fuel (some c) runs t
              else match t with
                | [] => some (s.widen .anythingBelow)
                | '/' :: t => readFrom fuel (some '/') (s.widen (.part IgnorePiece.between)) t
                | d :: u =>
                    if (d = ',' ∨ d = '\x7d') ∧ s.outer ≠ [] then
                      readFrom fuel (some c) (s.widen .anythingBelow) (d :: u)
                    else readFrom fuel (some c) runs (d :: u)
          | t => readFrom fuel (some c) (s.add IgnorePiece.nameRun) t
      | c => readFrom fuel (some c) (s.add (IgnorePiece.char c)) t

def regex? (pattern : Text) : Option Regex := do
  let s ← readFrom (pattern.length + 1) none {} pattern
  if s.outer ≠ [] then
    none
  let path := match s.pieces with
    | [.anyDirectories] => IgnorePiece.anything
    | pieces => Reading.sequence pieces
  pure (.seq (.look .textStart) (.seq path (.look .textEnd)))

end IgnorePattern

structure IgnoreRule where
  path : Regex
  /-- Whether matching paths are kept after all. -/
  keeps : Bool
  directoriesOnly : Bool
deriving DecidableEq, Repr

namespace IgnoreRule

/-- The pattern that is meant: one without separators holds at any depth, and a `**` at the end
leaves the directory itself out. -/
def complete (anchored : Bool) (pattern : Text) : Text :=
  let pattern :=
    if anchored || pattern.contains '/' || pattern == ['*', '*'] then pattern else "**/" ++ pattern
  if ['*', '*', '/'].isPrefixOf pattern.reverse then pattern ++ "/*" else pattern

/-- Takes the separator off the end of a pattern for directories, with a backslash before it. -/
def openEnd? (pattern : Text) : Option Text :=
  match pattern.reverse with
  | '/' :: '\\' :: t => some t.reverse
  | '/' :: t => some t.reverse
  | _ => none

def ofPattern? (keeps anchored : Bool) (pattern : Text) : Option IgnoreRule :=
  let directory := openEnd? pattern
  (IgnorePattern.regex? (complete anchored (directory.getD pattern))).map fun path =>
    ⟨path, keeps, directory.isSome⟩

/-- White space at the end does not count, unless it is one blank behind a backslash. -/
def trimLine (line : Text) : Text :=
  if [' ', '\\'].isPrefixOf line.reverse then line else Text.trimEnd line

def ofLine? (line : Text) : Option IgnoreRule :=
  match trimLine line with
  | [] => none
  | '#' :: _ => none
  | '\\' :: '!' :: t => ofPattern? false false ('!' :: t)
  | '\\' :: '#' :: t => ofPattern? false false ('#' :: t)
  | '!' :: '/' :: t => ofPattern? true true t
  | '!' :: t => ofPattern? true false t
  | '/' :: t => ofPattern? false true t
  | t => ofPattern? false false t

def applies (r : IgnoreRule) (path : Text) (isDirectory : Bool) : Bool :=
  (!r.directoriesOnly || isDirectory) && r.path.isMatch (Latin.decode (Utf8.encode path))

end IgnoreRule

namespace IgnoreFile

/-- The lines up to the first that is no text. -/
def texts (lines : List (List UInt8)) : List Text :=
  match lines with
  | [] => []
  | l :: ls => match Utf8.decode? l with
      | some t => t :: texts ls
      | none => []

/-- The rules in an ignore file. Byte order marks in front do not count. -/
def rules (bytes : List UInt8) : List IgnoreRule :=
  let lines := texts ((Text.lines (Latin.decode bytes)).map Latin.encode)
  (match lines with
    | [] => []
    | l :: ls => l.dropWhile (· = '\ufeff') :: ls).filterMap IgnoreRule.ofLine?

def ignores (rules : List IgnoreRule) (path : Text) (isDirectory : Bool) : Bool :=
  match rules.reverse.find? (·.applies path isDirectory) with
  | some r => !r.keeps
  | none => false

end IgnoreFile

end RpcDispatch
