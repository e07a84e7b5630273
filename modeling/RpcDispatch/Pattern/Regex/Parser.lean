import RpcDispatch.Pattern.Regex.Class

/-!
# Reading regular expressions

An expression is read from left to right. Flags hold to the end of their group, so an open group
remembers the flags around it. An expression may nest only so deep and grow only so large.
-/

namespace RpcDispatch.Regex

/-- An element of a sequence: an expression with the depth to which it nests, or a change of
flags, which cannot be repeated. -/
inductive Element where
  | regex (r : Regex) (depth : Nat)
  | flags
deriving DecidableEq, Repr

/-- A group that is being read: finished alternatives and the elements of the last one, both with
the latest first. -/
structure OpenGroup where
  alternatives : List (Regex × Nat) := []
  elements : List Element := []
deriving DecidableEq, Repr

namespace OpenGroup

def add (g : OpenGroup) (r : Regex) (depth : Nat) : OpenGroup :=
  { g with elements := .regex r depth :: g.elements }

/-- A sequence as one expression, with its depth; more than one element nest one deeper. -/
def sequence (elements : List Element) : Regex × Nat :=
  let rs := elements.filterMap fun e => match e with
    | .regex r d => some (r, d)
    | .flags => none
  let depth := (rs.map (·.2)).foldl max 0
  let regex := match rs with
    | [] => .empty
    | (r, _) :: rs => rs.foldl (fun acc (r, _) => .seq r acc) r
  (regex, if elements.length > 1 then depth + 1 else depth)

/-- Ends the alternative that is being read. -/
def bar (g : OpenGroup) : OpenGroup := ⟨sequence g.elements :: g.alternatives, []⟩

def close (g : OpenGroup) : Regex × Nat :=
  let last := sequence g.elements
  match g.alternatives with
  | [] => last
  | alternatives =>
      let depth := (alternatives.map (·.2)).foldl max last.2
      (alternatives.foldl (fun acc (r, _) => .alt r acc) last.1, depth + 1)

end OpenGroup

structure Reading where
  flags : Flags := {}
  group : OpenGroup := {}
  /-- The groups around, with the flags that hold in each. -/
  outer : List (OpenGroup × Flags) := []
  /-- Names of groups. -/
  names : List Text := []
deriving DecidableEq, Repr

namespace Reading

def add (s : Reading) (r : Regex) (depth : Nat := 0) : Reading :=
  { s with group := s.group.add r depth }

end Reading

def isZeroWidth : Regex → Bool
  | empty => true
  | chars _ => false
  | look _ => true
  | seq a b => a.isZeroWidth && b.isZeroWidth
  | alt a b => a.isZeroWidth && b.isZeroWidth
  | times a _ max => a.isZeroWidth || max == some 0

/-- Repeats; a condition holds again if it holds once. -/
def repeated (a : Regex) (min : Nat) (max : Option Nat) : Regex :=
  if a.isZeroWidth then times a (Nat.min min 1) (some ((max.getD 1).min 1)) else times a min max

def applyRepetition (s : Reading) (min : Nat) (max : Option Nat) : Option Reading :=
  match s.group.elements with
  | .regex r depth :: es =>
      some { s with group.elements := .regex (repeated r min max) (depth + 1) :: es }
  | _ => none

def skipLazy (t : Text) : Text := (Text.dropStart? "?" t).getD t

/-- Reads a number, with blanks around it. -/
def readCount (f : Flags) (t : Text) : Option (Nat × Text) :=
  let t := t.dropWhile Text.isSpace
  let (digits, t) := digitRun (t.length + 1) t
  if digits = [] then none
  else
    let n := digits.foldl (fun n c => 10 * n + (c.toNat - 48)) 0
    if n < 0x100000000 then some (n, blanks (t.length + 1) t) else none
where
  digitRun : Nat → Text → Text × Text
    | 0, t => ([], t)
    | _ + 1, [] => ([], [])
    | fuel + 1, c :: t =>
        if c.isDigit then
          let (ds, t) := digitRun fuel (f.rest t)
          (c :: ds, t)
        else ([], c :: t)
  blanks : Nat → Text → Text
    | 0, t => t
    | _ + 1, [] => []
    | fuel + 1, c :: t => if Text.isSpace c then blanks fuel (f.rest t) else c :: t

def readBounds (f : Flags) (t : Text) : Option (Nat × Option Nat × Text) := do
  let (min, t) ← readCount f (f.rest t)
  match t with
  | ',' :: t => match f.rest t with
      | '\x7d' :: t => pure (min, none, f.rest t)
      | t => do
          let (max, t) ← readCount f t
          let t ← Text.dropStart? "\x7d" t
          if min ≤ max then pure (min, some max, f.rest t) else none
  | '\x7d' :: t => pure (min, some min, f.rest t)
  | _ => none

/-- Reads flags up to a `:` or `)`. `enable` is false behind the hyphen, `seen` holds the marks
so far. -/
def readFlags (f : Flags) (enable : Bool) (seen : List Char) : Text → Option (Flags × Text)
  | [] => none
  | c :: t =>
      if c = ':' ∨ c = ')' then
        if seen.head? = some '-' then none else some (f, c :: t)
      else if seen.contains c then none
      else match c with
        | '-' => readFlags f false (c :: seen) t
        | 'i' => readFlags { f with ignoreCase := enable } enable (c :: seen) t
        | 'm' => readFlags { f with multiLine := enable } enable (c :: seen) t
        | 's' => readFlags { f with dotAll := enable } enable (c :: seen) t
        | 'u' => readFlags { f with unicode := enable } enable (c :: seen) t
        | 'R' => readFlags { f with anyLineEnd := enable } enable (c :: seen) t
        | 'x' => readFlags { f with spaced := enable } enable (c :: seen) t
        | 'U' => readFlags f enable (c :: seen) t
        | _ => none

def isNameStart (c : Char) : Bool := c == '_' || Unicode.isAlphabetic c

def isNamePart (c : Char) : Bool :=
  c == '_' || c == '.' || c == '[' || c == ']' || Unicode.isAlphanumeric c

def readGroupName (t : Text) : Option (Text × Text) := do
  let (name, t) ← Text.cutAt? ">" t
  match name with
  | [] => none
  | c :: more => if isNameStart c && more.all isNamePart then pure (name, t) else none

def Reading.open (s : Reading) (f : Flags) : Reading :=
  { s with flags := f, group := {}, outer := (s.group, s.flags) :: s.outer }

def Reading.openNamed (s : Reading) (t : Text) : Option (Reading × Text) := do
  let (name, t) ← readGroupName t
  if s.names.contains name then none
  else pure ({ s.open s.flags with names := name :: s.names }, t)

def readGroupHead (s : Reading) (t : Text) : Option (Reading × Text) :=
  match s.flags.rest t with
  | '?' :: '=' :: _ => none
  | '?' :: '!' :: _ => none
  | '?' :: '<' :: '=' :: _ => none
  | '?' :: '<' :: '!' :: _ => none
  | '?' :: 'P' :: '<' :: t => s.openNamed t
  | '?' :: '<' :: t => s.openNamed t
  | '?' :: t => do
      let (f, rest) ← readFlags s.flags true [] t
      match rest with
      | ':' :: rest => pure (s.open f, rest)
      | _ :: rest =>
          if t.head? = some ')' then none
          else pure ({ s with flags := f, group.elements := .flags :: s.group.elements }, rest)
      | [] => none
  | t => some (s.open s.flags, t)

def Reading.close (s : Reading) : Option Reading :=
  match s.outer with
  | [] => none
  | (group, flags) :: outer =>
      let (r, depth) := s.group.close
      some { s with flags, group := group.add r (depth + 1), outer }

def dotClass (f : Flags) : CharClass :=
  if f.dotAll then .compl .empty
  else if f.anyLineEnd then .compl (.union (.single '\r') (.single '\n'))
  else .compl (.single '\n')

def lineStart (f : Flags) : Look :=
  if !f.multiLine then .textStart else if f.anyLineEnd then .anyLineStart else .lineStart

def lineEnd (f : Flags) : Look :=
  if !f.multiLine then .textEnd else if f.anyLineEnd then .anyLineEnd else .lineEnd

/-- A character by itself. Without Unicode a byte above ASCII is no character, and only ASCII
letters have case. -/
def literalClass? (f : Flags) (c : Char) (byte : Bool) : Option CharClass :=
  if f.unicode then some (f.charClass c)
  else if c.toNat < 0x80 then some (f.charClass c)
  else if byte then none
  else some (.single c)

def Primitive.regex? (f : Flags) : Primitive → Option Regex
  | literal c byte => (literalClass? f c byte).map .chars
  | look l => some (.look l)
  | perl kind negated => (perlClass? f kind negated).map .chars
  | property s negated => (propertyClass? f s negated).map .chars

def readConstruct (s : Reading) (c : Char) (t : Text) : Option (Reading × Text) :=
  match c with
  | '(' => readGroupHead s t
  | ')' => s.close.map (·, t)
  | '|' => some ({ s with group := s.group.bar }, t)
  | '[' => do
      let (members, depth, t) ← readBracket s.flags t
      pure (s.add (.chars members) depth, t)
  | '?' => (applyRepetition s 0 (some 1)).map (·, skipLazy t)
  | '*' => (applyRepetition s 0 none).map (·, skipLazy t)
  | '+' => (applyRepetition s 1 none).map (·, skipLazy t)
  | '\x7b' => do
      let (min, max, t) ← readBounds s.flags t
      pure (← applyRepetition s min max, skipLazy t)
  | '\\' => do
      let (p, t) ← readEscape s.flags t
      pure (s.add (← p.regex? s.flags), t)
  | '.' => if s.flags.unicode then some (s.add (.chars (dotClass s.flags)), t) else none
  | '^' => some (s.add (.look (lineStart s.flags)), t)
  | '$' => some (s.add (.look (lineEnd s.flags)), t)
  | c => do
      let members ← literalClass? s.flags c false
      pure (s.add (.chars members), t)

/-- Reads on to the end; every construct takes at least one character. -/
def readAll : (fuel : Nat) → Reading → Text → Option Reading
  | 0, _, _ => none
  | fuel + 1, s, t =>
      match s.flags.rest t with
      | [] => some s
      | c :: t => (readConstruct s c t).bind fun (s, t) => readAll fuel s t

/-- Size of a matching program for an expression; copies of a repeated part count each. -/
def size : Regex → Nat
  | empty => 32
  | chars c => 32 + c.size
  | look _ => 32
  | seq a b => a.size + b.size
  | alt a b => a.size + b.size + 32
  | times a min max => (max.getD (min + 1)) * (a.size + 32)

def maxSize : Nat := 10 * 1024 * 1024

def maxDepth : Nat := 250

def parse? (t : Text) : Option Regex := do
  let s ← readAll (t.length + 1) {} t
  if s.outer ≠ [] then none
  else
    let (r, depth) := s.group.close
    if depth ≤ maxDepth ∧ r.size ≤ maxSize then some r else none

end RpcDispatch.Regex
