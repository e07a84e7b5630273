import RpcDispatch.Text.Basic

/-!
# Unquoted scalars

The forms of booleans, numbers, dates and times. Their values are never asked for.
-/

namespace RpcDispatch.Toml

/-- Digits with single underscores between them. -/
def isDigits (p : Char → Bool) (t : Text) : Bool :=
  (Text.splitOn '_' t).all fun part => part ≠ [] && part.all p

def dropSign (t : Text) : Text :=
  match t with
  | '+' :: t => t
  | '-' :: t => t
  | t => t

def isPlainNumber (t : Text) : Bool :=
  isDigits Char.isDigit t && (t.length == 1 || t.head? != some '0')

def isHexDigit (c : Char) : Bool :=
  c.isDigit || ('a' ≤ c && c ≤ 'f') || ('A' ≤ c && c ≤ 'F')

def isInteger (t : Text) : Bool :=
  match t with
  | '0' :: 'x' :: t => isDigits isHexDigit t
  | '0' :: 'o' :: t => isDigits (fun c => '0' ≤ c && c ≤ '7') t
  | '0' :: 'b' :: t => isDigits (fun c => c == '0' || c == '1') t
  | t => isPlainNumber (dropSign t)

def isExponent (t : Text) : Bool := isDigits Char.isDigit (dropSign t)

def isFloat (t : Text) : Bool :=
  let t := dropSign t
  let mantissa := t.takeWhile fun c => c != 'e' && c != 'E'
  let exponent := t.drop (mantissa.length + 1)
  let hasExponent := mantissa.length < t.length
  t = "inf" || t = "nan" ||
    ((!hasExponent || isExponent exponent) &&
      match Text.splitOn '.' mantissa with
      | [whole] => hasExponent && isPlainNumber whole
      | [whole, fraction] => isPlainNumber whole && isDigits Char.isDigit fraction
      | _ => false)

/-- The number written with exactly `n` digits. -/
def digits? (n : Nat) (t : Text) : Option Nat :=
  if t.length = n ∧ t.all Char.isDigit then some (t.foldl (fun v c => 10 * v + (c.toNat - 48)) 0)
  else none

def daysIn (year month : Nat) : Nat :=
  if month = 2 then
    if year % 4 = 0 ∧ (year % 100 ≠ 0 ∨ year % 400 = 0) then 29 else 28
  else if month = 4 ∨ month = 6 ∨ month = 9 ∨ month = 11 then 30
  else 31

def isDate (t : Text) : Bool :=
  match Text.splitOn '-' t with
  | [y, m, d] => match digits? 4 y, digits? 2 m, digits? 2 d with
      | some y, some m, some d => 1 ≤ m && m ≤ 12 && 1 ≤ d && d ≤ daysIn y m
      | _, _, _ => false
  | _ => false

def isClock (h m : Text) : Bool := (digits? 2 h).any (· ≤ 23) && (digits? 2 m).any (· ≤ 59)

/-- A time, with seconds or without. -/
def isTime (t : Text) : Bool :=
  match Text.splitOn ':' t with
  | [h, m] => isClock h m
  | [h, m, s] =>
      let (whole, fraction) := match Text.splitOn '.' s with
        | [w] => (w, true)
        | [w, f] => (w, f ≠ [] && f.all Char.isDigit)
        | _ => (s, false)
      fraction && isClock h m && (digits? 2 whole).any (· ≤ 60)
  | _ => false

def isOffset (t : Text) : Bool :=
  match t with
  | ['Z'] => true
  | ['z'] => true
  | sign :: t => (sign == '+' || sign == '-') && match Text.splitOn ':' t with
      | [h, m] => isClock h m
      | _ => false
  | [] => false

/-- A time, with an offset or without. -/
def isZonedTime (t : Text) : Bool :=
  let time := t.takeWhile fun c => c.isDigit || c == ':' || c == '.'
  let offset := t.drop time.length
  isTime time && (offset = [] || isOffset offset)

def isDateTime (t : Text) : Bool :=
  let date := t.take 10
  isTime t ||
    (isDate date && match t.drop 10 with
      | [] => true
      | c :: time => (c == 'T' || c == 't' || c == ' ') && isZonedTime time)

def isScalar (t : Text) : Bool :=
  t = "true" || t = "false" || isInteger t || isFloat t || isDateTime t

end RpcDispatch.Toml
