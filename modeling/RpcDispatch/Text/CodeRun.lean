import RpcDispatch.Text.Basic

/-!
# Runs of code points

Character properties are given as runs of code points with a fixed step, in tables that follow
the Unicode Character Database. A table is written as hexadecimal words: `41` is one code point,
`41-5A` a range, `100:136` every second code point of a range.
-/

namespace RpcDispatch

structure CodeRun where
  first : Nat
  last : Nat
  step : Nat := 1
deriving DecidableEq, Repr

namespace CodeRun

def contains (r : CodeRun) (c : Char) : Bool :=
  r.first ≤ c.toNat && c.toNat ≤ r.last && (c.toNat - r.first) % r.step == 0

def hexDigit (c : Char) : Nat := if c.isDigit then c.toNat - 48 else c.toNat - 55

def hexValue (t : Text) : Nat := t.foldl (fun n c => 16 * n + hexDigit c) 0

def ofWord (w : Text) : CodeRun :=
  match Text.splitOn '-' w, Text.splitOn ':' w with
  | [a, b], _ => ⟨hexValue a, hexValue b, 1⟩
  | _, [a, b] => ⟨hexValue a, hexValue b, 2⟩
  | _, _ => ⟨hexValue w, hexValue w, 1⟩

def ofTable (table : List String) : List CodeRun :=
  table.flatMap fun line => (Text.splitOn ' ' line.toList).map ofWord

end CodeRun

/-- A run of code points with a common distance to their images. -/
structure CaseRun where
  first : Nat
  last : Nat
  step : Nat
  /-- Image of `first`. -/
  image : Nat
deriving DecidableEq, Repr

namespace CaseRun

def imageOf? (r : CaseRun) (n : Nat) : Option Nat :=
  if r.first ≤ n ∧ n ≤ r.last ∧ (n - r.first) % r.step = 0 then some (r.image + (n - r.first))
  else none

def sourceOf? (r : CaseRun) (m : Nat) : Option Nat :=
  if r.image ≤ m ∧ m ≤ r.image + (r.last - r.first) ∧ (m - r.image) % r.step = 0 then
    some (r.first + (m - r.image))
  else none

end CaseRun

end RpcDispatch
