import RpcDispatch.Text.Basic

/-!
# Lines and columns

Lines and columns count from one; only `\n` ends a line, and a column counts characters. To locate
an offset, the line is looked up among the beginnings of all lines, and the text is read only from
the beginning of that line on.
-/

namespace RpcDispatch

structure Location where
  line : Nat
  column : Nat
deriving DecidableEq, Repr

namespace Location

def text (l : Location) : Text := Text.ofNat l.line ++ ":" ++ Text.ofNat l.column

/-- Where a line begins behind a line end of the text, if the text begins at `offset`. -/
def laterStarts (offset : Nat) : Text → List Nat
  | [] => []
  | c :: t =>
      if c = '\n' then (offset + 1) :: laterStarts (offset + 1) t
      else laterStarts (offset + c.utf8Size) t

def lineStarts (t : Text) : List Nat := 0 :: laterStarts 0 t

/-- Looks a number up among increasing ones: its position, or the position where it would have to
be inserted. -/
def search (ns : List Nat) (n : Nat) : Except Nat Nat :=
  let position := ns.countP (· < n)
  if ns[position]? = some n then .ok position else .error position

end Location

structure LineIndex where
  lineStarts : List Nat
deriving DecidableEq, Repr

namespace LineIndex

def ofText (t : Text) : LineIndex := ⟨Location.lineStarts t⟩

/-- The line that an offset lies in, counted from zero. -/
def line (i : LineIndex) (offset : Nat) : Nat :=
  match Location.search i.lineStarts offset with
  | .ok position => position
  | .error position => position - 1

/-- The place of an offset in the text of the index. Beyond the end the place is the end; inside a
character it is the first column of the line. -/
def locate (i : LineIndex) (t : Text) (offset : Nat) : Location :=
  let line := i.line offset
  let start := i.lineStarts.getD line 0
  let column := (t.slice? start (min offset t.byteSize)).elim 1 (·.length + 1)
  ⟨line + 1, column⟩

end LineIndex

def Location.locate (source : Text) (offset : Nat) : Location :=
  (LineIndex.ofText source).locate source offset

end RpcDispatch
