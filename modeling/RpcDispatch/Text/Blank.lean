import RpcDispatch.Text.Basic

/-!
# White space

The characters with the Unicode property White_Space, and trimming and splitting at them. The
layout between tokens is a smaller set, see `Piece.isBlank`.
-/

namespace RpcDispatch.Text

def isSpace (c : Char) : Bool :=
  let n := c.toNat
  (0x09 ≤ n && n ≤ 0x0D) || n == 0x20 || n == 0x85 || n == 0xA0 || n == 0x1680 ||
    (0x2000 ≤ n && n ≤ 0x200A) || n == 0x2028 || n == 0x2029 || n == 0x202F || n == 0x205F ||
    n == 0x3000

def trimStart (t : Text) : Text := t.dropWhile isSpace

def trimEnd (t : Text) : Text := (t.reverse.dropWhile isSpace).reverse

def trim (t : Text) : Text := trimEnd (trimStart t)

def words : Text → List Text
  | [] => []
  | c :: t =>
      if isSpace c then words t
      else match t with
        | [] => [[c]]
        | d :: _ => if isSpace d then [c] :: words t
            else match words t with
              | [] => [[c]]
              | w :: ws => (c :: w) :: ws

/-- Every run of white space becomes one blank, none stays at the ends. -/
def collapse (t : Text) : Text := intercalate " " (words t)

end RpcDispatch.Text
