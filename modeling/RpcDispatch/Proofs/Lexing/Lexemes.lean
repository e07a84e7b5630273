import RpcDispatch.Proofs.Lexing.Trimming

/-!
# Lexemes and the layout between them

The lexemes of a text are its pieces other than blanks. They determine those of every part of the
text that ends before a token, and up to the text of its last line comment those of the trimmed
text, although trimming takes away tokens too.
-/

namespace RpcDispatch

/-! ## Lexemes -/

namespace Piece

def isLexeme (p : Piece) : Bool :=
  match p.kind with
  | .lexeme _ => true
  | _ => false

/-- Two lists of pieces are cut in the same way at lexemes with as many lexemes before them. -/
theorem append_inj_of_countP {ps ps' qs qs' : List Piece} {p p' : Piece}
    (h : ps ++ p :: qs = ps' ++ p' :: qs') (hp : p.isLexeme = true) (hp' : p'.isLexeme = true)
    (hcount : ps.countP isLexeme = ps'.countP isLexeme) : ps = ps' ∧ p = p' ∧ qs = qs' := by
  induction ps generalizing ps' with
  | nil =>
      cases ps' with
      | nil =>
          obtain ⟨rfl, rfl⟩ := List.cons.inj h
          exact ⟨rfl, rfl, rfl⟩
      | cons r ps' =>
          obtain ⟨rfl, -⟩ := List.cons.inj h
          rw [List.countP_nil, List.countP_cons_of_pos hp] at hcount
          cases hcount
  | cons r ps ih =>
      cases ps' with
      | nil =>
          obtain ⟨rfl, -⟩ := List.cons.inj h
          rw [List.countP_nil, List.countP_cons_of_pos hp'] at hcount
          cases hcount
      | cons r' ps' =>
          obtain ⟨rfl, hrest⟩ := List.cons.inj h
          rw [List.countP_cons, List.countP_cons, Nat.add_right_cancel_iff] at hcount
          obtain ⟨rfl, rfl, rfl⟩ := ih hrest hcount
          exact ⟨rfl, rfl, rfl⟩

end Piece

/-- The tokens and line comments of a text. -/
def Text.lexemes (t : Text) : List Piece := (Piece.ofText t).filter (·.kind ≠ .blank)

namespace Token

theorem countP_lexemes (offset : Nat) (gap t : Text) :
    t.lexemes.countP Piece.isLexeme = (ofTextFrom offset gap t).length := by
  induction t using Piece.lexeme_induction generalizing offset gap with
  | nil => rfl
  | layout c t kind n hx hk ih =>
      rw [ofTextFrom_layout hx hk, ← ih, Text.lexemes, Piece.ofText_cons, hx]
      cases kind with
      | lexeme k => exact absurd rfl (hk k)
      | blank => rfl
      | lineComment => rfl
  | lexeme c t k n hx ih =>
      rw [ofTextFrom_lexeme hx, List.length_cons, ← ih, Text.lexemes, Piece.ofText_cons, hx,
        List.filter_cons_of_pos (by simp), List.countP_cons_of_pos rfl]
      rfl

/-- A token cuts the lexemes of a text in two. -/
theorem exists_lexemes {offset : Nat} {t : Text} {xs ys : List Token} {x : Token}
    (h : ofTextFrom offset [] t = xs ++ x :: ys) :
    ∃ after, t.lexemes = (between xs x).lexemes ++ x.lexeme :: Text.lexemes after ∧
      (between xs x).lexemes.countP Piece.isLexeme = xs.length ∧
      ys = ofTextFrom x.stop [] after := by
  obtain ⟨before, after, hs, hpieces⟩ := exists_cut h
  refine ⟨after, ?_, ?_, hs.back.symm⟩
  · rw [hs.between_eq, Text.lexemes, hpieces, List.filter_append,
      List.filter_cons_of_pos (by simp [lexeme])]
    rfl
  · rw [hs.between_eq, countP_lexemes offset [], hs.front]

end Token

/-! ## Trimming -/

/-- A piece as far as trimming the text around it leaves it alone: no blanks, and nothing of what a
line comment says. -/
def Piece.mark? : Piece → Option Piece
  | ⟨.blank, _⟩ => none
  | ⟨.lineComment, _⟩ => some ⟨.lineComment, []⟩
  | ⟨.lexeme k, text⟩ => some ⟨.lexeme k, text⟩

def Piece.isSpace (p : Piece) : Bool := p.kind = .lexeme .other && p.text.all Text.isSpace

namespace Text

def marks (t : Text) : List Piece := (Piece.ofText t).filterMap Piece.mark?

variable {c : Char} {t u w : Text} {n : Nat}

theorem marks_eq (t : Text) : t.marks = t.lexemes.filterMap Piece.mark? := by
  rw [marks, lexemes, List.filterMap_filter]
  congr 1
  funext p
  obtain ⟨kind, text⟩ := p
  cases kind <;> rfl

theorem marks_cons {kind : PieceKind} (h : Piece.head c t = (kind, n)) :
    marks (c :: t) = (Piece.mark? ⟨kind, c :: t.take n⟩).toList ++ marks (t.drop n) := by
  rw [marks, Piece.ofText_cons, h, List.filterMap_cons]
  cases Piece.mark? ⟨kind, c :: t.take n⟩ <;> rfl

theorem marks_blank (hc : Piece.isBlank c = true) (t : Text) : marks (c :: t) = marks t := by
  rw [marks_cons (Piece.Head.blank hc).head_eq]
  cases t with
  | nil => rfl
  | cons d u =>
      by_cases hd : Piece.isBlank d = true
      · rw [marks_cons (Piece.Head.blank hd).head_eq]
        simp [Piece.run, hd, Piece.mark?]
      · simp [Piece.run, hd, Piece.mark?]

/-- A piece that is not all white space leaves a mark that is none. -/
theorem exists_mark {kind : PieceKind} (h : Piece.head c t = (kind, n)) {d : Char}
    (hd : d ∈ c :: t.take n) (hspace : isSpace d = false) :
    ∃ p, Piece.mark? ⟨kind, c :: t.take n⟩ = some p ∧ p.isSpace = false := by
  cases kind with
  | blank =>
      rw [isSpace_of_isBlank (Piece.blanks_of_head_eq h d hd)] at hspace
      cases hspace
  | lineComment => exact ⟨_, rfl, rfl⟩
  | lexeme k =>
      refine ⟨_, rfl, ?_⟩
      have hall : (c :: t.take n).all isSpace = false :=
        List.all_eq_false.mpr ⟨d, hd, by simp [hspace]⟩
      rw [Piece.isSpace, hall, Bool.and_false]

theorem marks_trimStart (t : Text) : (trimStart t).marks = t.marks.dropWhile Piece.isSpace := by
  induction t with
  | nil => rfl
  | cons c t ih =>
      by_cases hc : isSpace c = true
      · have htrim : trimStart (c :: t) = trimStart t := List.dropWhile_cons_of_pos hc
        rw [htrim, ih]
        by_cases hb : Piece.isBlank c = true
        · rw [marks_blank hb]
        · have hspace : Piece.isSpace ⟨.lexeme .other, [c]⟩ = true := by simp [Piece.isSpace, hc]
          rw [marks_cons (Piece.head_of_isSpace hc (by simpa using hb) t)]
          exact (List.dropWhile_cons_of_pos hspace).symm
      · have htrim : trimStart (c :: t) = c :: t := List.dropWhile_cons_of_neg hc
        have hhead := (Prod.eta (Piece.head c t)).symm
        obtain ⟨p, hmark, hp⟩ := exists_mark hhead List.mem_cons_self (by simpa using hc)
        rw [htrim, marks_cons hhead, hmark, Option.toList_some, List.singleton_append,
          List.dropWhile_cons_of_neg (by simp [hp])]

theorem isSpace_of_mem_marks (hw : ∀ c ∈ w, isSpace c = true) :
    ∀ p ∈ w.marks, p.isSpace = true := by
  have htrim : trimStart w = [] := List.dropWhile_eq_nil_iff.mpr hw
  have hmarks := marks_trimStart w
  rw [htrim] at hmarks
  exact List.dropWhile_eq_nil_iff.mp hmarks.symm

/-- White space behind a text that does not end in it adds marks of white space only, and the last
mark of the text is none. -/
theorem exists_marks_append (hw : ∀ d ∈ w, isSpace d = true) (hu : u ≠ [])
    (hlast : ∀ d ∈ u.getLast?, isSpace d = false) :
    ∃ ps p post, u.marks = ps ++ [p] ∧ p.isSpace = false ∧ (∀ q ∈ post, q.isSpace = true) ∧
      (u ++ w).marks = u.marks ++ post := by
  induction u using Piece.ofText_induction with
  | nil => exact absurd rfl hu
  | cons c u ih =>
      rcases hx : Piece.head c u with ⟨kind, n⟩
      rw [hx] at ih
      rcases Piece.head_append_spaces hw hlast with hle | ⟨hkind, hhead⟩
      · obtain ⟨hsame, htake, hdrop⟩ := Token.head_append_eq hx hle
        rw [List.cons_append, marks_cons hsame, marks_cons hx, htake, hdrop]
        by_cases hrest : u.drop n = []
        · have hend := hlast _ (List.getLast?_eq_some_getLast (List.cons_ne_nil c u))
          have hall : u.take n = u := by
            rw [← List.append_nil (u.take n), ← hrest, List.take_append_drop]
          have hmem : (c :: u).getLast (List.cons_ne_nil c u) ∈ c :: u.take n := by
            rw [hall]
            exact List.getLast_mem _
          obtain ⟨p, hmark, hp⟩ := exists_mark hx hmem hend
          refine ⟨[], p, w.marks, ?_, hp, isSpace_of_mem_marks hw, ?_⟩
          · rw [hmark, hrest]
            rfl
          · rw [hrest, List.nil_append]
            simp [marks]
        · obtain ⟨ps, p, post, hmarks, hp, hpost, happend⟩ :=
            ih hrest fun d hd => hlast d (Token.of_mem_getLast?_drop hd)
          refine ⟨(Piece.mark? ⟨kind, c :: u.take n⟩).toList ++ ps, p, post, ?_, hp, hpost, ?_⟩
          · rw [hmarks, List.append_assoc]
          · rw [happend, List.append_assoc]
      · -- the line comment ends the text, and what it does not take of the white space is left
        rcases hy : Piece.head c (u ++ w) with ⟨kind', m⟩
        rw [hy] at hkind
        obtain rfl : kind' = .lineComment := hkind
        have hdrop := Piece.drop_lineComment hhead hy
        rw [List.cons_append, marks_cons hy, marks_cons hhead, hdrop, List.drop_length]
        refine ⟨[], ⟨.lineComment, []⟩, marks (w.drop (m - u.length)), rfl, rfl, ?_, rfl⟩
        exact isSpace_of_mem_marks fun d hd => hw d (List.mem_of_mem_drop hd)

theorem marks_trimEnd (t : Text) : (trimEnd t).marks = t.marks.rdropWhile Piece.isSpace := by
  have hsplit : trimEnd t ++ t.rtakeWhile isSpace = t := List.rdropWhile_append_rtakeWhile
  have hw : ∀ c ∈ t.rtakeWhile isSpace, isSpace c = true := fun c hc => List.mem_rtakeWhile_imp hc
  by_cases hu : trimEnd t = []
  · rw [hu, List.nil_append] at hsplit
    rw [hsplit] at hw
    rw [hu, List.rdropWhile_eq_nil_iff.mpr (isSpace_of_mem_marks hw)]
    rfl
  · have hlast : ∀ c ∈ (trimEnd t).getLast?, isSpace c = false := by
      intro c hc
      rw [List.getLast?_eq_some_getLast hu] at hc
      obtain rfl := Option.some.inj hc
      exact eq_false_of_ne_true (List.rdropWhile_last_not isSpace t hu)
    obtain ⟨ps, p, post, hmarks, hp, hpost, happend⟩ := exists_marks_append hw hu hlast
    rw [hsplit] at happend
    rw [happend, hmarks, List.rdropWhile, List.reverse_append, List.dropWhile_append_of_pos
      (by simpa using hpost), List.reverse_concat, List.dropWhile_cons_of_neg (by simp [hp]),
      List.reverse_cons, List.reverse_reverse]

/-- Trimming takes the tokens of white space from both ends. -/
theorem marks_trim (t : Text) :
    (trim t).marks = (t.marks.dropWhile Piece.isSpace).rdropWhile Piece.isSpace := by
  rw [trim, marks_trimEnd, marks_trimStart]

theorem trim_eq_nil_iff : trim t = [] ↔ (trim t).marks = [] := by
  constructor
  · intro h
    rw [h]
    rfl
  · intro h
    by_contra hne
    obtain ⟨lead, trail, -, -, -, hlast⟩ := trim_spec t
    obtain ⟨ps, p, post, hmarks, -, -, -⟩ := exists_marks_append (w := []) (by simp) hne hlast
    rw [h] at hmarks
    simp at hmarks

end Text

/-! ## Tokens -/

/-- Without gaps and places, the tokens are the lexemes among the marks. -/
theorem Token.map_lexeme_ofTextFrom (offset : Nat) (gap t : Text) :
    (ofTextFrom offset gap t).map lexeme = t.marks.filter Piece.isLexeme := by
  induction t using Piece.lexeme_induction generalizing offset gap with
  | nil => rfl
  | layout c t kind n hx hk ih =>
      rw [ofTextFrom_layout hx hk, ih, Text.marks_cons hx]
      cases kind with
      | lexeme k => exact absurd rfl (hk k)
      | blank => rfl
      | lineComment => rfl
  | lexeme c t k n hx ih =>
      rw [ofTextFrom_lexeme hx, List.map_cons, ih, Text.marks_cons hx]
      rfl

end RpcDispatch
