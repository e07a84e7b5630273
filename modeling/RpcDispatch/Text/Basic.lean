/-!
# Texts

Everything read or written is a list of characters, so reading is recursion on a list. Offsets
into a text count the bytes of its UTF-8 encoding. Small operations on texts stand here: byte
lengths and slices, ASCII letter case, splitting, joining and replacing.
-/

namespace RpcDispatch

abbrev Text := List Char

/-- Fixed words of the output are written as string literals. -/
instance : Coe String Text := ⟨String.toList⟩

namespace Text

def byteSize : Text → Nat
  | [] => 0
  | c :: t => c.utf8Size + byteSize t

@[simp] theorem byteSize_nil : byteSize [] = 0 := rfl

@[simp] theorem byteSize_cons (c : Char) (t : Text) :
    byteSize (c :: t) = c.utf8Size + byteSize t := rfl

@[simp] theorem byteSize_append (s t : Text) : byteSize (s ++ t) = byteSize s + byteSize t := by
  induction s with
  | nil => simp
  | cons c s ih =>
      rw [List.cons_append, byteSize_cons, byteSize_cons, ih]
      omega

/-- The first `n` bytes of a text and what follows them, unless the text is shorter or a character
is cut in two. -/
def splitAt? : Text → (n : Nat) → Option (Text × Text)
  | t, 0 => some ([], t)
  | [], _ + 1 => none
  | c :: t, n + 1 =>
      if c.utf8Size ≤ n + 1 then
        (splitAt? t (n + 1 - c.utf8Size)).map fun (before, behind) => (c :: before, behind)
      else none

def slice? (t : Text) (start stop : Nat) : Option Text := do
  guard (start ≤ stop)
  let (_, behind) ← splitAt? t start
  let (slice, _) ← splitAt? behind (stop - start)
  pure slice

/-- ASCII letters in lower case, all else as it is. -/
def foldCase (t : Text) : Text := t.map Char.toLower

def sameLetters (s t : Text) : Bool := foldCase s == foldCase t

def le : Text → Text → Bool
  | [], _ => true
  | _ :: _, [] => false
  | a :: s, b :: t => a < b || (a == b && le s t)

def sort (ts : List Text) : List Text := ts.mergeSort le

/-- The pieces between the occurrences of `sep`; always at least one. -/
def splitOn (sep : Char) : Text → List Text
  | [] => [[]]
  | c :: t =>
      if c = sep then [] :: splitOn sep t
      else match splitOn sep t with
        | [] => [[c]]
        | p :: ps => (c :: p) :: ps

theorem splitOn_ne_nil (sep : Char) (t : Text) : splitOn sep t ≠ [] := by
  cases t with
  | nil => simp [splitOn]
  | cons c t =>
      unfold splitOn
      split
      · simp
      · split <;> simp

def intercalate (sep : Text) : List Text → Text
  | [] => []
  | [t] => t
  | t :: u :: ts => t ++ sep ++ intercalate sep (u :: ts)

theorem intercalate_cons (sep t : Text) {ts : List Text} (h : ts ≠ []) :
    intercalate sep (t :: ts) = t ++ sep ++ intercalate sep ts := by
  cases ts with
  | nil => exact absurd rfl h
  | cons u ts => rfl

def replaceChar (old new : Char) (t : Text) : Text := t.map fun c => if c = old then new else c

def dropStart? : (start : Text) → Text → Option Text
  | [], t => some t
  | _ :: _, [] => none
  | a :: s, b :: t => if a = b then dropStart? s t else none

theorem dropStart?_eq_some {start t rest : Text} :
    dropStart? start t = some rest ↔ t = start ++ rest := by
  induction start generalizing t with
  | nil => simp [dropStart?]
  | cons a s ih =>
      cases t with
      | nil => simp [dropStart?]
      | cons b t =>
          by_cases hab : a = b
          · simp [dropStart?, hab, ih]
          · simp [dropStart?, hab, Ne.symm hab]

def cutAt? (mark : Text) : Text → Option (Text × Text)
  | [] => match mark with
      | [] => some ([], [])
      | _ :: _ => none
  | c :: t => match dropStart? mark (c :: t) with
      | some rest => some ([], rest)
      | none => (cutAt? mark t).map fun (before, rest) => (c :: before, rest)

/-- Replaces every occurrence of `old`, from left to right. The first argument counts the
characters that the last replacement has already used. -/
def replaceFrom (old new : Text) : Nat → Text → Text
  | _, [] => []
  | n + 1, _ :: t => replaceFrom old new n t
  | 0, c :: t =>
      if old.isPrefixOf (c :: t) then new ++ replaceFrom old new (old.length - 1) t
      else c :: replaceFrom old new 0 t

def replaceAll (old new t : Text) : Text := replaceFrom old new 0 t

def ofNat (n : Nat) : Text := Nat.toDigits 10 n

/-- The lines of a text: `\n` ends a line, a `\r` before it belongs to the line end, and a line
end at the very end opens no further line. -/
def lines (t : Text) : List Text :=
  match (splitOn '\n' t).reverse with
  | [] :: ls => (ls.map stripReturn).reverse
  | last :: ls => ((ls.map stripReturn).reverse) ++ [last]
  | [] => []
where
  stripReturn (l : Text) : Text := if l.getLast? = some '\r' then l.dropLast else l

end Text

end RpcDispatch
