import RpcDispatch.Proofs.Lexing.Tokens

/-!
# Putting texts together

A text that closes what it opens keeps its tokens when another text follows, as long as its last
lexeme does not run into that text. So the tokens of a list of such texts are the tokens of one
after the other.
-/

namespace RpcDispatch

namespace Piece

def allClosed : List Piece → Bool
  | [] => true
  | p :: ps => !isLoneMark p.text (ps.flatMap text) && allClosed ps

def endsInLineComment (ps : List Piece) : Bool := ps.getLast?.any (·.kind == .lineComment)

theorem allClosed_ofText_cons {c : Char} {t : Text} (h : allClosed (ofText (c :: t)) = true) :
    isLoneMark (c :: t.take (head c t).2) (t.drop (head c t).2) = false ∧
      allClosed (ofText (t.drop (head c t).2)) = true := by
  rw [ofText_cons, allClosed, flatMap_text_ofText] at h
  simpa using h

theorem getLast?_ofText_cons {c : Char} {t : Text} (h : (head c t).2 < t.length) :
    (ofText (c :: t)).getLast? = (ofText (t.drop (head c t).2)).getLast? := by
  have hne : t.drop (head c t).2 ≠ [] := by simpa using h
  rw [ofText_cons, List.getLast?_cons]
  cases hl : (ofText (t.drop (head c t).2)).getLast? with
  | none => exact absurd (List.getLast?_eq_none_iff.mp hl) (ofText_ne_nil hne)
  | some p => rfl

end Piece

namespace Text

/-- Every string and block comment that the text opens is closed in it, and it does not end
inside a line comment. -/
def isSelfContained (t : Text) : Bool :=
  Piece.allClosed (Piece.ofText t) && !Piece.endsInLineComment (Piece.ofText t)

/-- The last lexeme of the text stays as it is when `rest` follows. -/
def staysApart (t rest : Text) : Bool :=
  match (Piece.ofText t).getLast? with
  | some ⟨.lexeme kind, c :: w⟩ => Piece.head c (w ++ rest) == (.lexeme kind, w.length)
  | _ => true

/-- Self-contained texts none of which runs into those behind it. -/
def areJoined : List Text → Bool
  | [] => true
  | t :: ts => t.isSelfContained && t.staysApart ts.flatten && areJoined ts

def areJoinedTo (rest : Text) : List Text → Bool
  | [] => true
  | t :: ts => t.isSelfContained && t.staysApart (ts.flatten ++ rest) && areJoinedTo rest ts

end Text

namespace Token

/-- A text that is one piece of its own. -/
theorem ofTextFrom_append_piece {c : Char} {t r : Text} {kind : PieceKind}
    (hx : Piece.head c t = (kind, t.length)) (hc : Text.isSelfContained (c :: t) = true)
    (ha : Text.staysApart (c :: t) r = true) (offset : Nat) (gap : Text) :
    ofTextFrom offset gap (c :: t ++ r) = ofTextFrom offset gap (c :: t) ++
      ofTextFrom (offset + Text.byteSize (c :: t)) (layoutAfter gap (c :: t)) r := by
  have hone : Piece.ofText (c :: t) = [⟨kind, c :: t⟩] := by
    rw [Piece.ofText_cons, hx]
    simp
  cases kind with
  | blank =>
      have hb : ∀ d ∈ c :: t, Piece.isBlank d = true := by
        simpa using Piece.blanks_of_head_eq hx
      have hnil := ofTextFrom_blanks hb offset gap []
      have hafter : layoutAfter gap (c :: t) = gap ++ c :: t := by
        rw [layoutAfter_layout hx (by simp)]
        simp
      rw [List.append_nil] at hnil
      rw [ofTextFrom_blanks hb, hnil, hafter]
      rfl
  | lineComment => simp [Text.isSelfContained, hone, Piece.endsInLineComment] at hc
  | lexeme k =>
      have hr : Piece.head c (t ++ r) = (.lexeme k, t.length) := by
        simpa [Text.staysApart, hone] using ha
      rw [List.cons_append, ofTextFrom_lexeme hr, ofTextFrom_lexeme hx, layoutAfter_lexeme hx]
      simp

/-- Texts that are kept apart are read one behind the other. -/
theorem ofTextFrom_append {t r : Text} (hc : t.isSelfContained = true)
    (ha : t.staysApart r = true) (offset : Nat) (gap : Text) :
    ofTextFrom offset gap (t ++ r) = ofTextFrom offset gap t ++
      ofTextFrom (offset + Text.byteSize t) (layoutAfter gap t) r := by
  induction t using Piece.ofText_induction generalizing offset gap with
  | nil => simp
  | cons c t ih =>
      have hself := hc
      simp only [Text.isSelfContained, Bool.and_eq_true, Bool.not_eq_true'] at hc ih
      obtain ⟨hmark, hclosed⟩ := Piece.allClosed_ofText_cons hc.1
      rcases hx : Piece.head c t with ⟨kind, n⟩
      have hle := Piece.head_snd_le c t
      rw [hx] at hle
      by_cases hlt : n < t.length
      · have hlast := Piece.getLast?_ofText_cons (c := c) (t := t) (by rw [hx]; exact hlt)
        have hr := Piece.head_append (by rw [hx]; exact hlt) hmark r
        rw [hx] at ih hr hlast hclosed
        have hrest := ih ⟨hclosed, by
          rw [Piece.endsInLineComment, ← hlast]
          exact hc.2⟩ (by
          rw [Text.staysApart, ← hlast]
          exact ha)
        have htake : (t ++ r).take n = t.take n := List.take_append_of_le_length hle
        have hdrop : (t ++ r).drop n = t.drop n ++ r := List.drop_append_of_le_length hle
        have hsize : Text.byteSize (c :: t) =
            Text.byteSize (c :: t.take n) + Text.byteSize (t.drop n) := by
          rw [← Text.byteSize_append, List.cons_append, List.take_append_drop]
        by_cases hk : ∀ k, kind ≠ .lexeme k
        · rw [List.cons_append, ofTextFrom_layout hr hk, ofTextFrom_layout hx hk,
            layoutAfter_layout hx hk, htake, hdrop, hrest, hsize, Nat.add_assoc]
        · obtain ⟨k, rfl⟩ : ∃ k, kind = .lexeme k := by simpa using hk
          rw [List.cons_append, ofTextFrom_lexeme hr, ofTextFrom_lexeme hx,
            layoutAfter_lexeme hx, htake, hdrop, hrest, hsize, Nat.add_assoc]
          rfl
      · obtain rfl : n = t.length := by omega
        exact ofTextFrom_append_piece hx hself ha offset gap

def ofTextsFrom (offset : Nat) (gap : Text) : List Text → List Token
  | [] => []
  | t :: ts => ofTextFrom offset gap t ++
      ofTextsFrom (offset + Text.byteSize t) (layoutAfter gap t) ts

/-- Texts that do not run together have the tokens of one after the other. -/
theorem ofTextFrom_flatten {ts : List Text} (h : Text.areJoined ts = true) (offset : Nat)
    (gap : Text) : ofTextFrom offset gap ts.flatten = ofTextsFrom offset gap ts := by
  induction ts generalizing offset gap with
  | nil => rfl
  | cons t ts ih =>
      simp only [Text.areJoined, Bool.and_eq_true] at h
      rw [List.flatten_cons, ofTextFrom_append h.1.1 h.1.2, ih h.2]
      rfl

/-- The last text may end in a line comment. -/
theorem ofTextFrom_flatten_append {rest : Text} {ts : List Text}
    (h : Text.areJoinedTo rest ts = true) (offset : Nat) (gap : Text) :
    ofTextFrom offset gap (ts.flatten ++ rest) = ofTextsFrom offset gap (ts ++ [rest]) := by
  induction ts generalizing offset gap with
  | nil => exact (List.append_nil _).symm
  | cons t ts ih =>
      simp only [Text.areJoinedTo, Bool.and_eq_true] at h
      rw [List.flatten_cons, List.append_assoc, ofTextFrom_append h.1.1 h.1.2, ih h.2]
      rfl

end Token

end RpcDispatch
