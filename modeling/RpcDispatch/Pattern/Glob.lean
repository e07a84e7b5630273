import RpcDispatch.Text.Basic

/-!
# File name patterns

`?` stands for one character, `*` for any run, `[…]` for one character of a set. `**` as a whole
component stands for any number of components. A separator is a character like any other.
-/

namespace RpcDispatch

inductive GlobMember where
  | single (c : Char)
  | range (first last : Char)
deriving DecidableEq, Repr

namespace GlobMember

def contains : GlobMember → Char → Bool
  | single d, c => c == d
  | range first last, c => first ≤ c && c ≤ last

def ofText : Text → List GlobMember
  | a :: '-' :: b :: t => range a b :: ofText t
  | a :: t => single a :: ofText t
  | [] => []

end GlobMember

inductive GlobToken where
  | char (c : Char)
  | anyChar
  | anyRun
  | anyComponents
  | oneOf (members : List GlobMember)
  | noneOf (members : List GlobMember)
deriving DecidableEq, Repr

inductive GlobFault where
  | wildcards
  | recursive
  | range
deriving DecidableEq, Repr

/-- Why a text is no pattern, and the index of the character where it shows. -/
structure GlobFailure where
  position : Nat
  fault : GlobFault
deriving DecidableEq, Repr

namespace GlobFailure

def reason : GlobFault → Text
  | .wildcards => "wildcards are either regular `*` or recursive `**`"
  | .recursive => "recursive wildcards must form a single path component"
  | .range => "invalid range pattern"

def message (f : GlobFailure) : Text :=
  "Pattern syntax error near position " ++ Text.ofNat f.position ++ ": " ++ reason f.fault

end GlobFailure

namespace Glob

/-- Splits a bracket off behind its `[`, where `skip` characters belong to it in any case. -/
def readSet? (skip : Nat) (t : Text) : Option (List GlobMember × Text) :=
  if t.length < skip then none
  else (Text.cutAt? "]" (t.drop skip)).map fun (inside, rest) =>
    (GlobMember.ofText (t.take skip ++ inside), rest)

/-- Adds a `**`, unless one stands there already. The tokens have the latest first. -/
def addComponents (tokens : List GlobToken) : List GlobToken :=
  match tokens with
  | .anyComponents :: _ :: _ => tokens
  | _ => .anyComponents :: tokens

/-- Reads the pattern from index `i` on; `before` is the character in front of it and `tokens`
what has been read, latest first. -/
def parseFrom : (fuel i : Nat) → (before : Option Char) → List GlobToken → Text →
    Except GlobFailure (List GlobToken)
  | 0, _, _, tokens, _ => .ok tokens.reverse
  | _ + 1, _, _, tokens, [] => .ok tokens.reverse
  | fuel + 1, i, before, tokens, c :: t =>
      match c with
      | '?' => parseFrom fuel (i + 1) (some c) (.anyChar :: tokens) t
      | '*' =>
          let stars := 1 + (t.takeWhile (· = '*')).length
          let rest := t.dropWhile (· = '*')
          if stars > 2 then .error ⟨i + 2, .wildcards⟩
          else if stars = 1 then parseFrom fuel (i + 1) (some c) (.anyRun :: tokens) rest
          else if before.any (· ≠ '/') then .error ⟨i - 1, .recursive⟩
          else match rest with
            | [] => parseFrom fuel (i + 2) (some c) (addComponents tokens) []
            | '/' :: rest => parseFrom fuel (i + 3) (some '/') (addComponents tokens) rest
            | _ => .error ⟨i + 2, .recursive⟩
      | '[' =>
          let set : Option (GlobToken × Text) := match t with
            | '!' :: u => (readSet? 1 u).map fun (ms, rest) => (.noneOf ms, rest)
            | u => (readSet? 1 u).map fun (ms, rest) => (.oneOf ms, rest)
          match set with
          | some (token, rest) =>
              parseFrom fuel (i + 1 + (t.length - rest.length)) (some ']') (token :: tokens) rest
          | none => .error ⟨i, .range⟩
      | c => parseFrom fuel (i + 1) (some c) (.char c :: tokens) t

def parse (pattern : Text) : Except GlobFailure (List GlobToken) :=
  parseFrom pattern.length 0 none [] pattern

/-- Whether a token other than a wildcard run takes the character. -/
def takes : GlobToken → Char → Bool
  | .char d, c => c == d
  | .anyChar, _ => true
  | .oneOf ms, c => ms.any (·.contains c)
  | .noneOf ms, c => !ms.any (·.contains c)
  | .anyRun, _ => false
  | .anyComponents, _ => false

/-- Tries `rest` here and behind every further character. -/
def afterRun (rest : Text → Bool) : Text → Bool
  | [] => rest []
  | c :: t => rest (c :: t) || afterRun rest t

/-- Tries `rest` behind every separator and at the end. -/
def afterComponents (rest : Text → Bool) : Text → Bool
  | [] => rest []
  | c :: t => (c = '/' && rest t) || afterComponents rest t

def accepts : List GlobToken → Text → Bool
  | [], t => t.isEmpty
  | .anyRun :: ts, t => afterRun (accepts ts) t
  | .anyComponents :: ts, t => accepts ts t || afterComponents (accepts ts) t
  | _ :: _, [] => false
  | token :: ts, c :: t => takes token c && accepts ts t

/-- Whether the pattern matches; a faulty pattern matches nothing. -/
def isMatch (pattern t : Text) : Bool :=
  match parse pattern with
  | .ok tokens => accepts tokens t
  | .error _ => false

end Glob

end RpcDispatch
