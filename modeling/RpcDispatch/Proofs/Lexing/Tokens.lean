import RpcDispatch.Proofs.Lexing.Pieces

/-!
# The tokens of a part of a text

The tokens of a text that stands behind other text differ from its tokens alone only in their
places, and the first of them in the layout in front of it.
-/

namespace RpcDispatch.Token

/-- The tokens of `t` where it stands at `offset`, behind the layout `gap`. -/
def ofTextFrom (offset : Nat) (gap t : Text) : List Token := ofPieces offset gap (Piece.ofText t)

/-- The layout at the end of `t`, where `t` stands behind the layout `gap`. -/
def layoutAfter (gap t : Text) : Text := after gap (Piece.ofText t)
where
  after (gap : Text) : List Piece → Text
    | [] => gap
    | ⟨.lexeme _, _⟩ :: ps => after [] ps
    | ⟨.blank, text⟩ :: ps => after (gap ++ text) ps
    | ⟨.lineComment, text⟩ :: ps => after (gap ++ text) ps

def kinds (t : Text) : List TokenKind := (ofText t).map kind

theorem ofText_eq (t : Text) : ofText t = ofTextFrom 0 [] t := rfl

@[simp] theorem ofTextFrom_nil (offset : Nat) (gap : Text) : ofTextFrom offset gap [] = [] := rfl

@[simp] theorem layoutAfter_nil (gap : Text) : layoutAfter gap [] = gap := rfl

@[simp] theorem kinds_nil : kinds [] = [] := rfl

variable {c : Char} {t : Text} {n : Nat}

/-! ## The token at the head -/

theorem ofTextFrom_lexeme {kind : TokenKind} (h : Piece.head c t = (.lexeme kind, n))
    (offset : Nat) (gap : Text) :
    ofTextFrom offset gap (c :: t) = ⟨kind, gap, c :: t.take n, offset⟩ ::
      ofTextFrom (offset + Text.byteSize (c :: t.take n)) [] (t.drop n) := by
  rw [ofTextFrom, Piece.ofText_cons, h]
  rfl

theorem layoutAfter_lexeme {kind : TokenKind} (h : Piece.head c t = (.lexeme kind, n))
    (gap : Text) : layoutAfter gap (c :: t) = layoutAfter [] (t.drop n) := by
  rw [layoutAfter, Piece.ofText_cons, h]
  rfl

/-- A piece that is no lexeme is layout in front of what follows. -/
theorem ofTextFrom_layout {kind : PieceKind} (h : Piece.head c t = (kind, n))
    (hk : ∀ k, kind ≠ .lexeme k) (offset : Nat) (gap : Text) :
    ofTextFrom offset gap (c :: t) =
      ofTextFrom (offset + Text.byteSize (c :: t.take n)) (gap ++ c :: t.take n) (t.drop n) := by
  rw [ofTextFrom, Piece.ofText_cons, h]
  cases kind with
  | lexeme k => exact absurd rfl (hk k)
  | blank => rfl
  | lineComment => rfl

theorem layoutAfter_layout {kind : PieceKind} (h : Piece.head c t = (kind, n))
    (hk : ∀ k, kind ≠ .lexeme k) (gap : Text) :
    layoutAfter gap (c :: t) = layoutAfter (gap ++ c :: t.take n) (t.drop n) := by
  rw [layoutAfter, Piece.ofText_cons, h]
  cases kind with
  | lexeme k => exact absurd rfl (hk k)
  | blank => rfl
  | lineComment => rfl

/-- Blanks may be passed one by one. -/
theorem ofTextFrom_blank (hc : Piece.isBlank c = true) (offset : Nat) (gap t : Text) :
    ofTextFrom offset gap (c :: t) = ofTextFrom (offset + c.utf8Size) (gap ++ [c]) t := by
  rw [ofTextFrom_layout (Piece.Head.blank hc).head_eq (by simp)]
  cases t with
  | nil => simp [Piece.run]
  | cons d u =>
      by_cases hd : Piece.isBlank d = true
      · rw [ofTextFrom_layout (Piece.Head.blank hd).head_eq (by simp)]
        simp [Piece.run, hd, Nat.add_assoc]
      · simp [Piece.run, hd]

theorem ofTextFrom_blanks {s : Text} (hs : ∀ c ∈ s, Piece.isBlank c = true) (offset : Nat)
    (gap t : Text) :
    ofTextFrom offset gap (s ++ t) = ofTextFrom (offset + Text.byteSize s) (gap ++ s) t := by
  induction s generalizing offset gap with
  | nil => simp
  | cons c s ih =>
      rw [List.cons_append, ofTextFrom_blank (hs c (by simp)),
        ih (fun d hd => hs d (List.mem_cons_of_mem c hd))]
      simp [Nat.add_assoc]

/-! ## What does not depend on the place -/

theorem map_kind_ofTextFrom (offset : Nat) (gap t : Text) :
    (ofTextFrom offset gap t).map kind = kinds t := by
  have h : ∀ (ps : List Piece) (o o' : Nat) (g g' : Text),
      (ofPieces o g ps).map kind = (ofPieces o' g' ps).map kind := by
    intro ps
    induction ps with
    | nil => intros; rfl
    | cons p ps ih =>
        intro o o' g g'
        obtain ⟨k, text⟩ := p
        cases k with
        | lexeme k => simp [ofPieces, ih _ (o' + Text.byteSize text) [] []]
        | blank => exact ih _ _ _ _
        | lineComment => exact ih _ _ _ _
  exact h _ _ _ _ _

theorem mem_kinds {t : Text} {offset : Nat} {gap : Text} {x : Token}
    (hx : x ∈ ofTextFrom offset gap t) : x.kind ∈ kinds t := by
  rw [← map_kind_ofTextFrom offset gap t]
  exact List.mem_map_of_mem hx

def unplaced (t : Token) : Token := { t with start := 0 }

theorem map_unplaced_ofTextFrom (offset offset' : Nat) (gap t : Text) :
    (ofTextFrom offset gap t).map unplaced = (ofTextFrom offset' gap t).map unplaced := by
  induction t using Piece.lexeme_induction generalizing offset offset' gap with
  | nil => rfl
  | layout c t kind n hx hk ih =>
      rw [ofTextFrom_layout hx hk, ofTextFrom_layout hx hk]
      exact ih _ _ _
  | lexeme c t k n hx ih =>
      rw [ofTextFrom_lexeme hx, ofTextFrom_lexeme hx, List.map_cons, List.map_cons]
      exact congrArg _ (ih _ _ _)

/-- The tokens of a text and the layout behind them spell it out. -/
theorem between_ofTextFrom (offset : Nat) (gap t : Text) :
    (ofTextFrom offset gap t).flatMap withGap ++ layoutAfter gap t = gap ++ t := by
  induction t using Piece.lexeme_induction generalizing offset gap with
  | nil => simp
  | layout c t kind n hx hk ih =>
      rw [ofTextFrom_layout hx hk, layoutAfter_layout hx hk, ih]
      simp
  | lexeme c t k n hx ih =>
      rw [ofTextFrom_lexeme hx, layoutAfter_lexeme hx, List.flatMap_cons, List.append_assoc, ih]
      simp [withGap]

/-! ## Names -/

theorem isWord_of_head_ident (h : Piece.head c t = (.lexeme .ident, n)) :
    ∀ d ∈ c :: t.take n, Piece.isWordPart d = true := by
  have hs := Piece.head_spec c t
  rw [h] at hs
  generalize hx : (PieceKind.lexeme TokenKind.ident, n) = x at hs
  cases hs with
  | blank => cases hx
  | word hw =>
      obtain rfl := (Prod.mk.inj hx).2
      intro d hd
      rw [Piece.take_run] at hd
      rcases List.mem_cons.mp hd with rfl | hd
      · exact Piece.isWordPart_of_isWordStart hw
      · exact List.mem_takeWhile_imp hd
  | number => cases hx
  | lineComment => cases hx
  | slashComment => cases hx
  | parenComment => cases hx
  | string => cases hx
  | single =>
      have hk := (Prod.mk.inj hx).1
      rw [Piece.singleKind.eq_def] at hk
      split at hk <;> cases hk

theorem isWord_of_mem_ofTextFrom {offset : Nat} {gap : Text} {x : Token}
    (hx : x ∈ ofTextFrom offset gap t) (hk : x.kind = .ident) :
    ∀ c ∈ x.text, Piece.isWordPart c = true := by
  induction t using Piece.lexeme_induction generalizing offset gap with
  | nil => cases hx
  | layout c t kind n hhead hlayout ih =>
      rw [ofTextFrom_layout hhead hlayout] at hx
      exact ih hx
  | lexeme c t k n hhead ih =>
      rw [ofTextFrom_lexeme hhead] at hx
      rcases List.mem_cons.mp hx with rfl | hx
      · obtain rfl : k = .ident := hk
        exact isWord_of_head_ident hhead
      · exact ih hx

end RpcDispatch.Token
