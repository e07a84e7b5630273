import RpcDispatch.Pattern.Regex.Basic

/-!
# Reading escapes and bracketed classes

Escapes stand for a character, a set of characters or a condition. A bracketed class is a union
of characters, ranges, escapes and further classes, which set operators can combine.
-/

namespace RpcDispatch.Regex

structure Flags where
  ignoreCase : Bool := false
  multiLine : Bool := false
  dotAll : Bool := false
  unicode : Bool := true
  /-- `\r` ends a line too. -/
  anyLineEnd : Bool := false
  /-- Blanks and comments in the expression do not count. -/
  spaced : Bool := false
deriving DecidableEq, Repr

/-- Passes over blanks and over comments, which run from `#` to the end of the line. -/
def skipSpace : (inComment : Bool) → Text → Text
  | _, [] => []
  | false, c :: t =>
      if Text.isSpace c then skipSpace false t
      else if c = '#' then skipSpace true t
      else c :: t
  | true, c :: t => skipSpace (c != '\n') t

/-- The text from its next character that counts. -/
def Flags.rest (f : Flags) (t : Text) : Text := if f.spaced then skipSpace false t else t

inductive PerlClass where
  | digit
  | space
  | word
deriving DecidableEq, Repr

/-- What an escape or a single character stands for. -/
inductive Primitive where
  /-- A character; `byte` if it was written as two hexadecimal digits. -/
  | literal (c : Char) (byte : Bool)
  | look (l : Look)
  | perl (kind : PerlClass) (negated : Bool)
  | property (set : Unicode.PropertySet) (negated : Bool)
deriving DecidableEq, Repr

def metaChars : Text := "\\.+*?()|[]\x7b\x7d^$#&-~"

/-- ASCII characters that may be escaped though they need not be. -/
def isEscapable (c : Char) : Bool :=
  metaChars.contains c || (c.toNat < 0x80 && !c.isAlphanum && c != '<' && c != '>')

def hexDigit? (c : Char) : Option Nat :=
  if c.isDigit then some (c.toNat - 48)
  else if 'a' ≤ c ∧ c ≤ 'f' then some (c.toNat - 87)
  else if 'A' ≤ c ∧ c ≤ 'F' then some (c.toNat - 55)
  else none

def scalar? (n : Nat) : Option Char := if n.isValidChar then some (Char.ofNat n) else none

def readHexDigits (f : Flags) : (n value : Nat) → Text → Option (Nat × Text)
  | 0, value, t => some (value, t)
  | n + 1, value, c :: t => do
      let d ← hexDigit? c
      readHexDigits f n (16 * value + d) (f.rest t)
  | _ + 1, _, [] => none

/-- Reads hexadecimal digits up to a closing brace; `started` once there was one. -/
def readHexBraced (f : Flags) : (fuel : Nat) → (started : Bool) → (value : Nat) → Text →
    Option (Nat × Text)
  | 0, _, _, _ => none
  | _ + 1, _, _, [] => none
  | fuel + 1, started, value, c :: t =>
      if c = '\x7d' then if started then some (value, f.rest t) else none
      else do
        let d ← hexDigit? c
        readHexBraced f fuel true (16 * value + d) (f.rest t)

def readHex (f : Flags) (digits : Nat) (t : Text) : Option (Char × Bool × Text) :=
  match t with
  | '\x7b' :: body => do
      let (n, t) ← readHexBraced f (body.length + 1) false 0 (f.rest body)
      pure (← scalar? n, false, t)
  | t => do
      let (n, t) ← readHexDigits f digits 0 t
      pure (← scalar? n, digits == 2, t)

def readBraced (f : Flags) : (fuel : Nat) → Text → Option (Text × Text)
  | 0, _ => none
  | _ + 1, [] => none
  | fuel + 1, c :: t =>
      if c = '\x7d' then some ([], t)
      else (readBraced f fuel (f.rest t)).map fun (name, t) => (c :: name, t)

def namedSet? (name : Text) : Option (Unicode.PropertySet × Bool) :=
  match Text.cutAt? "!=" name with
  | some (n, v) => (Unicode.propertyValue? n v).map fun s => (s, true)
  | none => match (Text.cutAt? ":" name).or (Text.cutAt? "=" name) with
      | some (n, v) => (Unicode.propertyValue? n v).map fun s => (s, false)
      | none => (Unicode.property? name).map fun s => (s, false)

def readProperty (f : Flags) (negated : Bool) (t : Text) : Option (Primitive × Text) :=
  match f.rest t with
  | [] => none
  | '\x7b' :: body => do
      let (name, t) ← readBraced f (body.length + 1) (f.rest body)
      let (set, unequal) ← namedSet? name
      pure (.property set (negated != unequal), t)
  | c :: t =>
      if c = '\\' then none
      else do
        let set ← Unicode.property? [c]
        pure (.property set negated, f.rest t)

/-- The condition named between the braces of `\b\x7b…\x7d`, with the rest behind them. Braces
that start otherwise belong to a repetition. -/
def readBoundary (f : Flags) (t : Text) : Option (Look × Text) :=
  match t with
  | '\x7b' :: body =>
      let inside := f.rest body
      match inside with
      | [] => none
      | c :: _ =>
          if !isNameChar c then some (.wordBoundary f.unicode, t)
          else match name (inside.length + 1) inside with
            | (n, '\x7d' :: t) => (kind? n).map (·, t)
            | _ => none
  | t => some (.wordBoundary f.unicode, t)
where
  isNameChar (c : Char) : Bool := c.isAlpha || c == '-'
  name : Nat → Text → Text × Text
    | 0, t => ([], t)
    | _ + 1, [] => ([], [])
    | fuel + 1, c :: t =>
        if isNameChar c then
          let (n, t) := name fuel (f.rest t)
          (c :: n, t)
        else ([], c :: t)
  kind? (n : Text) : Option Look :=
    if n = "start" then some (.wordStart f.unicode)
    else if n = "end" then some (.wordEnd f.unicode)
    else if n = "start-half" then some (.noWordBefore f.unicode)
    else if n = "end-half" then some (.noWordAfter f.unicode)
    else none

def readEscape (f : Flags) : Text → Option (Primitive × Text)
  | [] => none
  | c :: t =>
      match c with
      | 'x' => hex 2 t
      | 'u' => hex 4 t
      | 'U' => hex 8 t
      | 'p' => readProperty f false t
      | 'P' => readProperty f true t
      | 'd' => some (.perl .digit false, t)
      | 'D' => some (.perl .digit true, t)
      | 's' => some (.perl .space false, t)
      | 'S' => some (.perl .space true, t)
      | 'w' => some (.perl .word false, t)
      | 'W' => some (.perl .word true, t)
      | 'a' => char '\x07' t
      | 'f' => char '\x0c' t
      | 't' => char '\t' t
      | 'n' => char '\n' t
      | 'r' => char '\r' t
      | 'v' => char '\x0b' t
      | 'A' => some (.look .textStart, t)
      | 'z' => some (.look .textEnd, t)
      | 'b' => (readBoundary f t).map fun (l, t) => (.look l, t)
      | 'B' => some (.look (.noWordBoundary f.unicode), t)
      | '<' => some (.look (.wordStart f.unicode), t)
      | '>' => some (.look (.wordEnd f.unicode), t)
      | c => if isEscapable c then char c t else none
where
  char (c : Char) (t : Text) : Option (Primitive × Text) := some (.literal c false, t)
  hex (digits : Nat) (t : Text) : Option (Primitive × Text) :=
    (readHex f digits (f.rest t)).map fun (c, byte, t) => (.literal c byte, t)

def range (a b : Char) : CodeRun := ⟨a.toNat, b.toNat, 1⟩

/-- The set of what agrees with some runs, as the flags have it. -/
def Flags.members (f : Flags) (rs : List CodeRun) : CharClass :=
  if f.ignoreCase then if f.unicode then .folded rs else .foldedAscii rs else .runs rs

def Flags.charClass (f : Flags) (c : Char) : CharClass :=
  if f.ignoreCase then
    if f.unicode then .runs ((Unicode.orbit c.toNat).map fun n => ⟨n, n, 1⟩)
    else .foldedAscii [range c c]
  else .single c

def asciiRuns (name : Text) : Option (List CodeRun) :=
  let upper := range 'A' 'Z'
  let lower := range 'a' 'z'
  let digit := range '0' '9'
  if name = "alnum" then some [digit, upper, lower]
  else if name = "alpha" then some [upper, lower]
  else if name = "ascii" then some [⟨0, 0x7F, 1⟩]
  else if name = "blank" then some [range '\t' '\t', range ' ' ' ']
  else if name = "cntrl" then some [⟨0, 0x1F, 1⟩, ⟨0x7F, 0x7F, 1⟩]
  else if name = "digit" then some [digit]
  else if name = "graph" then some [range '!' '~']
  else if name = "lower" then some [lower]
  else if name = "print" then some [range ' ' '~']
  else if name = "punct" then some [range '!' '/', range ':' '@', range '[' '\x60', range '\x7b' '~']
  else if name = "space" then some [range '\t' '\r', range ' ' ' ']
  else if name = "upper" then some [upper]
  else if name = "word" then some [digit, upper, lower, range '_' '_']
  else if name = "xdigit" then some [digit, range 'A' 'F', range 'a' 'f']
  else none

def spaceRuns : List CodeRun :=
  [⟨0x09, 0x0D, 1⟩, ⟨0x20, 0x20, 1⟩, ⟨0x85, 0x85, 1⟩, ⟨0xA0, 0xA0, 1⟩, ⟨0x1680, 0x1680, 1⟩,
    ⟨0x2000, 0x200A, 1⟩, ⟨0x2028, 0x2029, 1⟩, ⟨0x202F, 0x202F, 1⟩, ⟨0x205F, 0x205F, 1⟩,
    ⟨0x3000, 0x3000, 1⟩]

def perlRuns (unicode : Bool) : PerlClass → List CodeRun
  | .digit => if unicode then Unicode.digits else [range '0' '9']
  | .space => if unicode then spaceRuns else [range '\t' '\r', range ' ' ' ']
  | .word =>
      if unicode then Unicode.wordRuns
      else [range '0' '9', range 'A' 'Z', range 'a' 'z', range '_' '_']

/-- Without Unicode a negated class would match parts of characters. -/
def perlClass? (f : Flags) (kind : PerlClass) (negated : Bool) : Option CharClass :=
  let members := CharClass.runs (perlRuns f.unicode kind)
  if !negated then some members
  else if f.unicode then some (.compl members)
  else none

/-- The categories outside of which a set is given as a complement have no letters in it, so case
does not matter there. -/
def propertyClass? (f : Flags) (s : Unicode.PropertySet) (negated : Bool) : Option CharClass :=
  if !f.unicode then none
  else
    let set := if s.complement then .compl (.runs s.runs) else f.members s.runs
    some (if negated then .compl set else set)

/-- A character that may stand in a class: without Unicode only an ASCII one. -/
def classChar? (f : Flags) (c : Char) : Option Char :=
  if f.unicode ∨ c.toNat < 0x80 then some c else none

def Primitive.class? (f : Flags) : Primitive → Option CharClass
  | literal c _ => (classChar? f c).map f.charClass
  | look _ => none
  | perl kind negated => perlClass? f kind negated
  | property s negated => propertyClass? f s negated

def Primitive.bound? (f : Flags) : Primitive → Option Char
  | literal c _ => classChar? f c
  | _ => none

def readMember (f : Flags) : Text → Option (Primitive × Text)
  | [] => none
  | '\\' :: t => readEscape f t
  | c :: t => some (.literal c false, t)

/-- The character after the next one, blanks aside. -/
def peek? (f : Flags) (t : Text) : Option Char :=
  match t with
  | [] => none
  | _ :: u =>
      if !f.spaced then u.head?
      else match u.dropWhile Text.isSpace with
        | '#' :: v => ((v.dropWhile Text.isSpace).head?).or u.head?
        | [] => u.head?
        | c :: _ => some c

def readRange (f : Flags) (t : Text) : Option (CharClass × Text) := do
  let (first, t) ← readMember f t
  let t := f.rest t
  if t.isEmpty then none
  else if t.head? ≠ some '-' ∨ peek? f t = some ']' ∨ peek? f t = some '-' then
    pure (← first.class? f, t)
  else
    let (last, t) ← readMember f (f.rest (t.drop 1))
    let a ← first.bound? f
    let b ← last.bound? f
    if a ≤ b then pure (f.members [range a b], t) else none

/-- Reads `[:name:]` behind its first bracket. -/
def readAsciiClass (f : Flags) (t : Text) : Option (CharClass × Text) := do
  let t ← Text.dropStart? ":" t
  let (negated, t) := match t with
    | '^' :: t => (true, t)
    | t => (false, t)
  let (name, t) ← Text.cutAt? ":" t
  let t ← Text.dropStart? "]" t
  let rs ← asciiRuns name
  let members := f.members rs
  pure (if negated then .compl members else members, t)

inductive SetOperator where
  | inter
  | diff
  | symmDiff
deriving DecidableEq, Repr

def SetOperator.apply : SetOperator → CharClass → CharClass → CharClass
  | inter => .inter
  | diff => .diff
  | symmDiff => .symmDiff

structure OpenClass where
  negated : Bool
  /-- What stands left of the last set operator. -/
  left : Option (SetOperator × CharClass)
  members : CharClass
  /-- How deep the classes, operators and unions nest inside. -/
  depth : Nat
deriving DecidableEq, Repr

namespace OpenClass

def add (o : OpenClass) (c : CharClass) (depth : Nat) : OpenClass :=
  { o with members := .union o.members c, depth := max o.depth depth }

def combined (o : OpenClass) : CharClass :=
  match o.left with
  | none => o.members
  | some (operator, left) => operator.apply left o.members

def operate (o : OpenClass) (operator : SetOperator) : OpenClass :=
  { o with left := some (operator, o.combined), members := .empty, depth := o.depth + 1 }

/-- The finished class. Without Unicode a negated one would match parts of characters. -/
def close? (o : OpenClass) (f : Flags) : Option CharClass :=
  if !o.negated then some o.combined
  else if f.unicode then some (.compl o.combined)
  else none

end OpenClass

/-- Reads the head of a class behind its bracket: a negation, hyphens, a first `]`. -/
def openClass (f : Flags) (t : Text) : OpenClass × Text :=
  let t := f.rest t
  let (negated, t) := match t with
    | '^' :: u => (true, f.rest u)
    | t => (false, t)
  let (o, t) := hyphens (t.length + 1) ⟨negated, none, .empty, 0⟩ t
  match o.members, t with
  | .runs [], ']' :: u => (o.add (f.charClass ']') 0, f.rest u)
  | _, t => (o, t)
where
  hyphens : Nat → OpenClass → Text → OpenClass × Text
    | fuel + 1, o, '-' :: t => hyphens fuel (o.add (f.charClass '-') 0) (f.rest t)
    | _, o, t => (o, t)

/-- Reads on to the end of the innermost class; `outer` holds the classes around it. -/
def readClass (f : Flags) : (fuel : Nat) → OpenClass → (outer : List OpenClass) → Text →
    Option (CharClass × Nat × Text)
  | 0, _, _, _ => none
  | fuel + 1, o, outer, t =>
      match f.rest t with
      | [] => none
      | '[' :: u =>
          match readAsciiClass f u with
          | some (c, u) => readClass f fuel (o.add c 0) outer u
          | none =>
              let (inner, u) := openClass f u
              readClass f fuel inner (o :: outer) u
      | ']' :: u => do
          let c ← o.close? f
          match outer with
          | [] => pure (c, o.depth + 1, u)
          | enclosing :: outer => readClass f fuel (enclosing.add c (o.depth + 1)) outer u
      | '&' :: '&' :: u => readClass f fuel (o.operate .inter) outer u
      | '-' :: '-' :: u => readClass f fuel (o.operate .diff) outer u
      | '~' :: '~' :: u => readClass f fuel (o.operate .symmDiff) outer u
      | u => do
          let (c, u) ← readRange f u
          readClass f fuel (o.add c 0) outer u

def readBracket (f : Flags) (t : Text) : Option (CharClass × Nat × Text) :=
  let (o, u) := openClass f t
  readClass f (t.length + 1) o [] u

end RpcDispatch.Regex
