import RpcDispatch.Settings.Toml.Scalar

/-!
# Values of a settings document

Strings are kept, other scalars are only recognised. Readers of a value return what follows it.
-/

namespace RpcDispatch.Toml

/-- How a table came about; this decides what may be added to it. -/
inductive Origin where
  /-- Written between braces. -/
  | inline
  /-- By a dotted key. -/
  | dotted
  /-- By a header for something inside it. -/
  | implicit
  /-- By its own header. -/
  | header
deriving DecidableEq, Repr

inductive Value where
  | string (t : Text)
  | scalar
  | array (items : List Value)
  | table (origin : Origin) (entries : List (Text × Value))
  /-- An array of tables with a header each. -/
  | tables (items : List (List (Text × Value)))

abbrev Entries := List (Text × Value)

/-- Control characters may stand in no string or comment. -/
def isPlain (c : Char) : Bool := c == '\t' || (0x20 ≤ c.toNat && c.toNat != 0x7F)

def isBlank (c : Char) : Bool := c == ' ' || c == '\t'

def skipBlanks (t : Text) : Text := t.dropWhile isBlank

def newline? (t : Text) : Option Text :=
  match t with
  | '\n' :: t => some t
  | '\r' :: '\n' :: t => some t
  | _ => none

def skipComment? (t : Text) : Option Text :=
  match t with
  | '#' :: t =>
      let rest := t.dropWhile isPlain
      if rest = [] ∨ (newline? rest).isSome then some rest else none
  | t => some t

def skipLines : (fuel : Nat) → Text → Option Text
  | 0, t => some t
  | fuel + 1, t => do
      let rest ← skipComment? (skipBlanks t)
      match newline? rest with
      | some rest => skipLines fuel rest
      | none => pure rest

def scalarChar? (digits : Text) : Option Char :=
  if digits.all isHexDigit then
    let n := codePoint digits
    if n.isValidChar then some (Char.ofNat n) else none
  else none
where
  codePoint (t : Text) : Nat := t.foldl (fun n c => 16 * n + digit c) 0
  digit (c : Char) : Nat :=
    if c.isDigit then c.toNat - 48 else if c ≤ 'F' then c.toNat - 55 else c.toNat - 87

def readEscape (t : Text) : Option (Char × Text) :=
  match t with
  | 'b' :: t => some ('\x08', t)
  | 't' :: t => some ('\t', t)
  | 'n' :: t => some ('\n', t)
  | 'f' :: t => some ('\x0c', t)
  | 'r' :: t => some ('\r', t)
  | 'e' :: t => some ('\x1b', t)
  | '"' :: t => some ('"', t)
  | '\\' :: t => some ('\\', t)
  | 'x' :: t => if t.length < 2 then none else (scalarChar? (t.take 2)).map (·, t.drop 2)
  | 'u' :: t => if t.length < 4 then none else (scalarChar? (t.take 4)).map (·, t.drop 4)
  | 'U' :: t => if t.length < 8 then none else (scalarChar? (t.take 8)).map (·, t.drop 8)
  | _ => none

/-- Reads a quoted string on one line behind its first quote. -/
def readBasic : (fuel : Nat) → Text → Option (Text × Text)
  | 0, _ => none
  | _ + 1, [] => none
  | _ + 1, '"' :: t => some ([], t)
  | fuel + 1, '\\' :: t => do
      let (c, t) ← readEscape t
      let (s, t) ← readBasic fuel t
      pure (c :: s, t)
  | fuel + 1, c :: t =>
      if isPlain c then (readBasic fuel t).map fun (s, t) => (c :: s, t) else none

def readLiteral (t : Text) : Option (Text × Text) :=
  match Text.cutAt? "'" t with
  | some (s, t) => if s.all isPlain then some (s, t) else none
  | none => none

def skipWhite : (fuel : Nat) → Text → Text
  | 0, t => t
  | fuel + 1, t =>
      let rest := skipBlanks t
      match newline? rest with
      | some rest => skipWhite fuel rest
      | none => rest

/-- Goes past a line end that a backslash hides, with the blank lines and blanks after it. -/
def skipHidden? (t : Text) : Option Text :=
  (newline? (skipBlanks t)).map (skipWhite (t.length + 1))

/-- Closes a string of several lines at its quotes; up to two further quotes belong to it. -/
def closeLong? (quote : Char) (t : Text) : Option (Text × Text) :=
  let n := (t.takeWhile (· = quote)).length
  if n < 3 then none
  else some (List.replicate (min n 5 - 3) quote, t.drop (min n 5))

def readLong (quote : Char) : (fuel : Nat) → Text → Option (Text × Text)
  | 0, _ => none
  | fuel + 1, t =>
      match closeLong? quote t with
      | some (s, t) => some (s, t)
      | none => match t with
          | [] => none
          | '\r' :: '\n' :: t => (readLong quote fuel t).map fun (s, t) => ('\r' :: '\n' :: s, t)
          | '\n' :: t => (readLong quote fuel t).map fun (s, t) => ('\n' :: s, t)
          | c :: t =>
              if c = '\\' ∧ quote = '"' then
                match skipHidden? t with
                | some t => readLong quote fuel t
                | none => do
                    let (c, t) ← readEscape t
                    let (s, t) ← readLong quote fuel t
                    pure (c :: s, t)
              else if isPlain c then (readLong quote fuel t).map fun (s, t) => (c :: s, t)
              else none

/-- A line end directly behind the opening quotes does not count. -/
def readLongString (quote : Char) (t : Text) : Option (Text × Text) :=
  readLong quote (t.length + 1) ((newline? t).getD t)

def isBareKeyChar (c : Char) : Bool := c.isAlphanum || c == '_' || c == '-'

def readSimpleKey (t : Text) : Option (Text × Text) :=
  match t with
  | '"' :: t => readBasic (t.length + 1) t
  | '\'' :: t => readLiteral t
  | t =>
      let key := t.takeWhile isBareKeyChar
      if key = [] then none else some (key, t.drop key.length)

/-- Reads a key of one or more parts, and the blanks behind it. -/
def readKey : (fuel : Nat) → Text → Option (List Text × Text)
  | 0, _ => none
  | fuel + 1, t => do
      let (key, t) ← readSimpleKey (skipBlanks t)
      match skipBlanks t with
      | '.' :: t => do
          let (keys, t) ← readKey fuel t
          pure (key :: keys, t)
      | t => pure ([key], t)

namespace Entries

def find? (es : Entries) (key : Text) : Option Value := (List.find? (·.1 = key) es).map (·.2)

def set (es : Entries) (key : Text) (v : Value) : Entries :=
  es.map fun e => if e.1 = key then (key, v) else e

end Entries

/-- Adds a value under a key of several parts. Tables on the way are made, or must have been made
in the same manner. -/
def assign (es : Entries) : (path : List Text) → Value → Option Entries
  | [], _ => none
  | [key], v => match Entries.find? es key with
      | none => some (es ++ [(key, v)])
      | some _ => none
  | key :: path, v => match Entries.find? es key with
      | none => (assign [] path v).map fun inner => es ++ [(key, .table .dotted inner)]
      | some (.table .dotted inner) =>
          (assign inner path v).map fun inner => Entries.set es key (.table .dotted inner)
      | some _ => none

def isScalarChar (c : Char) : Bool :=
  c.isAlphanum || c == '_' || c == '+' || c == '-' || c == '.' || c == ':'

/-- Reads an unquoted scalar. A date may be parted from its time by a blank. -/
def readScalar (t : Text) : Option (Value × Text) :=
  let word := t.takeWhile isScalarChar
  let rest := t.drop word.length
  let time := (rest.drop 1).takeWhile isScalarChar
  if isDate word ∧ rest.head? = some ' ' ∧ isZonedTime time then
    some (.scalar, rest.drop (1 + time.length))
  else if isScalar word then some (.scalar, rest)
  else none

/-- A value, the items of an array, or the entries of a table between braces. -/
inductive Goal where
  | value
  | items (done : List Value)
  | entries (done : Entries)

def read : (fuel : Nat) → Goal → Text → Option (Value × Text)
  | 0, _, _ => none
  | fuel + 1, .value, t =>
      match t with
      | '"' :: '"' :: '"' :: t => (readLongString '"' t).map fun (s, t) => (.string s, t)
      | '\'' :: '\'' :: '\'' :: t => (readLongString '\'' t).map fun (s, t) => (.string s, t)
      | '"' :: t => (readBasic (t.length + 1) t).map fun (s, t) => (.string s, t)
      | '\'' :: t => (readLiteral t).map fun (s, t) => (.string s, t)
      | '[' :: t => read fuel (.items []) t
      | '\x7b' :: t => read fuel (.entries []) t
      | t => readScalar t
  | fuel + 1, .items done, t => do
      match ← skipLines (t.length + 1) t with
      | ']' :: t => pure (.array done, t)
      | t => do
          let (v, t) ← read fuel .value t
          match ← skipLines (t.length + 1) t with
          | ',' :: t => read fuel (.items (done ++ [v])) t
          | ']' :: t => pure (.array (done ++ [v]), t)
          | _ => none
  | fuel + 1, .entries done, t => do
      match ← skipLines (t.length + 1) t with
      | '\x7d' :: t => pure (.table .inline done, t)
      | t => do
          let (path, t) ← readKey (t.length + 1) t
          let t ← Text.dropStart? "=" t
          let (v, t) ← read fuel .value (skipBlanks t)
          let done ← assign done path v
          match ← skipLines (t.length + 1) t with
          | ',' :: t => read fuel (.entries done) t
          | '\x7d' :: t => pure (.table .inline done, t)
          | _ => none

def readValue (t : Text) : Option (Value × Text) := read (2 * t.length + 2) .value t

end RpcDispatch.Toml
