import RpcDispatch.Settings.Toml.Value

/-!
# Settings documents

A document is a list of statements, one a line: headers of tables and assignments below them. A
table has at most one header, and headers and dotted keys may not extend what the other made.
-/

namespace RpcDispatch.Toml

inductive Statement where
  | header (path : List Text)
  /-- Header of a further table in an array of tables. -/
  | itemHeader (path : List Text)
  | assignment (path : List Text) (v : Value)

/-- Goes past the end of a statement: blanks, a comment, a line end. -/
def endStatement? (t : Text) : Option Text := do
  let t ← skipComment? (skipBlanks t)
  match t with
  | [] => pure []
  | t => newline? t

def readStatement (t : Text) : Option (Statement × Text) :=
  match t with
  | '[' :: '[' :: t => do
      let (path, t) ← readKey (t.length + 1) t
      let t ← Text.dropStart? "]]" t
      pure (.itemHeader path, ← endStatement? t)
  | '[' :: t => do
      let (path, t) ← readKey (t.length + 1) t
      let t ← Text.dropStart? "]" t
      pure (.header path, ← endStatement? t)
  | t => do
      let (path, t) ← readKey (t.length + 1) t
      let t ← Text.dropStart? "=" t
      let (v, t) ← readValue (skipBlanks t)
      pure (.assignment path v, ← endStatement? t)

def readStatements : (fuel : Nat) → Text → Option (List Statement)
  | 0, _ => none
  | fuel + 1, t => do
      match ← skipLines (t.length + 1) t with
      | [] => pure []
      | t => do
          let (s, t) ← readStatement t
          pure (s :: (← readStatements fuel t))

/-- Changes the table at a path. On the way tables are made, and of an array of tables the last
one is meant. -/
def within (f : Entries → Option Entries) : (path : List Text) → Entries → Option Entries
  | [], es => f es
  | key :: path, es => match Entries.find? es key with
      | none => (within f path []).map fun inner => es ++ [(key, .table .implicit inner)]
      | some (.table .inline _) => none
      | some (.table origin inner) =>
          (within f path inner).map fun inner => Entries.set es key (.table origin inner)
      | some (.tables items) => do
          let last ← items.getLast?
          let last ← within f path last
          pure (Entries.set es key (.tables (items.dropLast ++ [last])))
      | some _ => none

def open? (key : Text) (es : Entries) : Option Entries :=
  match Entries.find? es key with
  | none => some (es ++ [(key, .table .header [])])
  | some (.table .implicit inner) => some (Entries.set es key (.table .header inner))
  | some _ => none

def openItem? (key : Text) (es : Entries) : Option Entries :=
  match Entries.find? es key with
  | none => some (es ++ [(key, .tables [[]])])
  | some (.tables items) => some (Entries.set es key (.tables (items ++ [[]])))
  | some _ => none

/-- Applies `f` to the table around the last part of a path. -/
def around (f : Text → Entries → Option Entries) (path : List Text) (es : Entries) :
    Option Entries :=
  match path.getLast? with
  | none => none
  | some key => within (f key) path.dropLast es

/-- Carries out statements in turn, below the header `here`. -/
def carryOut (here : List Text) (es : Entries) : List Statement → Option Entries
  | [] => some es
  | .header path :: ss => do carryOut path (← around open? path es) ss
  | .itemHeader path :: ss => do carryOut path (← around openItem? path es) ss
  | .assignment path v :: ss => do
      carryOut here (← within (fun inner => assign inner path v) here es) ss

/-- The entries of a document, if it is well formed. A byte order mark in front does not count. -/
def parse? (t : Text) : Option Entries := do
  let t := (Text.dropStart? ['\ufeff'] t).getD t
  carryOut [] [] (← readStatements (t.length + 1) t)

end RpcDispatch.Toml
