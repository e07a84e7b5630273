import RpcDispatch.Text.Blank
import RpcDispatch.Unicode.Folding
import RpcDispatch.Unicode.Lookup

/-!
# Regular expressions

Expressions over sets of characters, with conditions on the place in the text. Running an
expression turns a set of places into the set of places where it can end; a text matches if
some run from some place can end anywhere.
-/

namespace RpcDispatch

inductive CharClass where
  | runs (rs : List CodeRun)
  /-- What agrees with a member up to case. -/
  | folded (rs : List CodeRun)
  /-- What agrees with a member up to the case of ASCII letters. -/
  | foldedAscii (rs : List CodeRun)
  | compl (a : CharClass)
  | union (a b : CharClass)
  | inter (a b : CharClass)
deriving DecidableEq, Repr

namespace CharClass

def empty : CharClass := runs []

def single (c : Char) : CharClass := runs [⟨c.toNat, c.toNat, 1⟩]

def diff (a b : CharClass) : CharClass := inter a (compl b)

def symmDiff (a b : CharClass) : CharClass := union (diff a b) (diff b a)

def contains : CharClass → Char → Bool
  | runs rs, c => rs.any (·.contains c)
  | folded rs, c => (Unicode.orbit c.toNat).any fun n => rs.any (·.contains (Char.ofNat n))
  | foldedAscii rs, c => rs.any fun r => r.contains c || r.contains c.toLower || r.contains c.toUpper
  | compl a, c => !a.contains c
  | union a b, c => a.contains c || b.contains c
  | inter a b, c => a.contains c && b.contains c

def rangeCount (rs : List CodeRun) : Nat :=
  rs.foldl (fun n r => n + if r.step = 1 then 1 else (r.last - r.first) / r.step + 1) 0

/-- Size of a matching program for a set of characters: a table entry for every range, and more
for characters that are encoded in several bytes. -/
def size : CharClass → Nat
  | runs rs => 8 * rangeCount rs + 56 * rangeCount (rs.filter (0x80 ≤ ·.last))
  | folded rs => 16 * rangeCount rs + 112 * rangeCount (rs.filter (0x80 ≤ ·.last))
  | foldedAscii rs => 16 * rangeCount rs
  | compl a => a.size + 256
  | union a b => a.size + b.size
  | inter a b => max a.size b.size

end CharClass

inductive Look where
  | textStart
  | textEnd
  | lineStart
  | lineEnd
  /-- Lines may also end in `\r` or `\r\n`. -/
  | anyLineStart
  | anyLineEnd
  | wordBoundary (unicode : Bool)
  | noWordBoundary (unicode : Bool)
  | wordStart (unicode : Bool)
  | wordEnd (unicode : Bool)
  | noWordBefore (unicode : Bool)
  | noWordAfter (unicode : Bool)
deriving DecidableEq, Repr

/-- A place in a text: the character before it and the text after it. -/
structure Place where
  before : Option Char
  after : Text
deriving DecidableEq, Repr

namespace Place

def next? (p : Place) : Option (Char × Place) :=
  match p.after with
  | [] => none
  | c :: t => some (c, ⟨some c, t⟩)

def allFrom (before : Option Char) : Text → List Place
  | [] => [⟨before, []⟩]
  | c :: t => ⟨before, c :: t⟩ :: allFrom (some c) t

end Place

namespace Look

def isWord (unicode : Bool) (c : Char) : Bool :=
  if c.toNat < 0x80 then c.isAlphanum || c == '_' else unicode && Unicode.isWordChar c

def holds (l : Look) (p : Place) : Bool :=
  let next := p.after.head?
  match l with
  | textStart => p.before.isNone
  | textEnd => next.isNone
  | lineStart => p.before.all (· == '\n')
  | lineEnd => next.all (· == '\n')
  | anyLineStart => p.before.all fun c => c == '\n' || (c == '\r' && next != some '\n')
  | anyLineEnd => next.all fun c => c == '\r' || (c == '\n' && p.before != some '\r')
  | wordBoundary u => p.before.any (isWord u) != next.any (isWord u)
  | noWordBoundary u => p.before.any (isWord u) == next.any (isWord u)
  | wordStart u => !p.before.any (isWord u) && next.any (isWord u)
  | wordEnd u => p.before.any (isWord u) && !next.any (isWord u)
  | noWordBefore u => !p.before.any (isWord u)
  | noWordAfter u => !next.any (isWord u)

end Look

inductive Regex where
  | empty
  | chars (c : CharClass)
  | look (l : Look)
  | seq (a b : Regex)
  | alt (a b : Regex)
  /-- At least `min` copies, at most `max` of them if there is a bound. -/
  | times (a : Regex) (min : Nat) (max : Option Nat)
deriving DecidableEq, Repr

namespace Regex

/-- Adds the places that are not there yet; places of one text differ in what follows them. -/
def merge (ps qs : List Place) : List Place :=
  qs.foldl (fun acc q => if acc.any (·.after.length == q.after.length) then acc else acc ++ [q]) ps

/-- Applies `f` again and again, `n` times at most, and keeps every place on the way; stops as
soon as nothing new turns up. -/
def closure (f : List Place → List Place) : (n : Nat) → (seen fresh : List Place) → List Place
  | 0, seen, _ => seen
  | n + 1, seen, fresh =>
      let new := (f fresh).filter fun p => !seen.any (·.after.length == p.after.length)
      if new.isEmpty then seen else closure f n (seen ++ new) new

def iterate (f : List Place → List Place) : Nat → List Place → List Place
  | 0, ps => ps
  | n + 1, ps => if ps.isEmpty then [] else iterate f n (f ps)

def longest (ps : List Place) : Nat := (ps.map (·.after.length)).foldl max 0

/-- Where the expression can end if it starts at one of the places. -/
def run : Regex → List Place → List Place
  | empty, ps => ps
  | chars c, ps => ps.filterMap fun p => p.next?.bind fun (x, q) => if c.contains x then some q else none
  | look l, ps => ps.filter l.holds
  | seq a b, ps => b.run (a.run ps)
  | alt a b, ps => merge (a.run ps) (b.run ps)
  | times a min max, ps =>
      let start := iterate a.run min ps
      match max with
      | none => closure a.run (longest start + 1) start start
      | some m => closure a.run (m - min) start start

def isMatch (r : Regex) (t : Text) : Bool := !(r.run (Place.allFrom none t)).isEmpty

end Regex

end RpcDispatch
