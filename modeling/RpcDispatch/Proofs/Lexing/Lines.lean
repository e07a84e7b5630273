import RpcDispatch.Proofs.Lexing.Tokens

/-!
# Texts without tokens

A text has no token if and only if each of its lines is blank or a line comment. A carriage
return ends a line as well: it ends the line comments of the lexer.
-/

namespace RpcDispatch

namespace Text

/-- The pieces between line ends; always at least one. -/
def sourceLines : Text → List Text
  | [] => [[]]
  | c :: t =>
      if Piece.isLineEnd c then [] :: sourceLines t
      else match sourceLines t with
        | [] => [[c]]
        | l :: ls => (c :: l) :: ls

/-- The line is blank, or two slashes are the first that stands on it. -/
def isInertLine (l : Text) : Bool :=
  match l.dropWhile Piece.isBlank with
  | [] => true
  | '/' :: '/' :: _ => true
  | _ => false

def isInert (t : Text) : Bool := t.sourceLines.all isInertLine

def isOneLine (t : Text) : Bool := t.all fun c => !Piece.isLineEnd c

/-! ## Lines -/

theorem sourceLines_lineEnd {c : Char} (hc : Piece.isLineEnd c = true) (t : Text) :
    sourceLines (c :: t) = [] :: sourceLines t := by
  rw [sourceLines, if_pos hc]

theorem sourceLines_eq_cons (t : Text) : ∃ l ls, sourceLines t = l :: ls := by
  cases t with
  | nil => exact ⟨[], [], rfl⟩
  | cons c t =>
      by_cases hc : Piece.isLineEnd c = true
      · exact ⟨_, _, sourceLines_lineEnd hc t⟩
      · rw [sourceLines, if_neg hc]
        cases sourceLines t with
        | nil => exact ⟨_, _, rfl⟩
        | cons l ls => exact ⟨_, _, rfl⟩

theorem sourceLines_cons {c : Char} (hc : Piece.isLineEnd c = false) {t l : Text} {ls : List Text}
    (ht : sourceLines t = l :: ls) : sourceLines (c :: t) = (c :: l) :: ls := by
  rw [sourceLines, if_neg (by simp [hc]), ht]

/-- Text without a line end goes to the first line of what follows it. -/
theorem sourceLines_prepend {p : Text} (hp : p.isOneLine = true) {t l : Text} {ls : List Text}
    (ht : sourceLines t = l :: ls) : sourceLines (p ++ t) = (p ++ l) :: ls := by
  induction p with
  | nil => exact ht
  | cons c p ih =>
      rw [isOneLine, List.all_cons, Bool.and_eq_true, Bool.not_eq_true'] at hp
      have hrest : sourceLines (p ++ t) = (p ++ l) :: ls := ih hp.2
      exact sourceLines_cons hp.1 hrest

theorem sourceLines_of_isOneLine {t : Text} (h : t.isOneLine = true) : sourceLines t = [t] := by
  have hnil := sourceLines_prepend h (show sourceLines [] = [] :: [] from rfl)
  rwa [List.append_nil] at hnil

theorem sourceLines_append_lineEnd {c : Char} (hc : Piece.isLineEnd c = true) (t r : Text) :
    sourceLines (t ++ c :: r) = sourceLines t ++ sourceLines r := by
  induction t with
  | nil => exact sourceLines_lineEnd hc r
  | cons d t ih =>
      by_cases hd : Piece.isLineEnd d = true
      · rw [List.cons_append, sourceLines_lineEnd hd, sourceLines_lineEnd hd, ih]
        rfl
      · obtain ⟨l, ls, hl⟩ := sourceLines_eq_cons t
        have hd' : Piece.isLineEnd d = false := by simpa using hd
        rw [hl] at ih
        rw [List.cons_append, sourceLines_cons hd' ih, sourceLines_cons hd' hl]
        rfl

/-- A text of several lines splits at the last line end. -/
theorem isOneLine_or_split (t : Text) :
    t.isOneLine = true ∨
      ∃ r c l, t = r ++ c :: l ∧ Piece.isLineEnd c = true ∧ isOneLine l = true := by
  induction t with
  | nil => exact .inl rfl
  | cons d t ih =>
      rcases ih with hone | ⟨r, c, l, rfl, hc, hl⟩
      · by_cases hd : Piece.isLineEnd d = true
        · exact .inr ⟨[], d, t, rfl, hd, hone⟩
        · exact .inl (by simpa [isOneLine, hd] using hone)
      · exact .inr ⟨d :: r, c, l, rfl, hc, hl⟩

theorem isOneLine_append {s t : Text} :
    isOneLine (s ++ t) = true ↔ isOneLine s = true ∧ isOneLine t = true := by
  rw [isOneLine, List.all_append, Bool.and_eq_true]
  rfl

theorem isBlank_of_isLineEnd {c : Char} (h : Piece.isLineEnd c = true) :
    Piece.isBlank c = true := by
  rw [Piece.isLineEnd, Bool.or_eq_true, beq_iff_eq, beq_iff_eq] at h
  rcases h with rfl | rfl <;> rfl

/-! ## Inert lines -/

theorem isInertLine_blank {c : Char} (hc : Piece.isBlank c = true) (l : Text) :
    isInertLine (c :: l) = isInertLine l := by
  rw [isInertLine, List.dropWhile_cons, if_pos hc]
  rfl

/-- A line that starts with a visible character is inert only as a comment. -/
theorem isInertLine_of_not_isBlank {c : Char} (hc : Piece.isBlank c = false) (l : Text) :
    isInertLine (c :: l) = true ↔ c = '/' ∧ l.head? = some '/' := by
  rw [isInertLine, List.dropWhile_cons, if_neg (by simp [hc])]
  split
  next h => cases h
  next r h =>
    obtain ⟨rfl, rfl⟩ := List.cons.inj h
    simp
  next hne =>
    refine iff_of_false Bool.false_ne_true ?_
    rintro ⟨rfl, hl⟩
    obtain ⟨r, rfl⟩ := List.head?_eq_some_iff.mp hl
    exact hne r rfl

/-- What follows the last visible character of a line does not matter, unless it is a slash. -/
theorem isInertLine_append {l q : Text} {d : Char} (hl : l.getLast? = some d)
    (hd : Piece.isBlank d = false) (hq : q.head? ≠ some '/') :
    isInertLine (l ++ q) = isInertLine l := by
  induction l with
  | nil => cases hl
  | cons c l ih =>
      by_cases hc : Piece.isBlank c = true
      · rw [List.cons_append, isInertLine_blank hc, isInertLine_blank hc]
        apply ih
        cases l with
        | nil =>
            obtain rfl : c = d := by simpa using hl
            rw [hc] at hd
            cases hd
        | cons e l => simpa using hl
      · have hc' : Piece.isBlank c = false := by simpa using hc
        rw [List.cons_append, Bool.eq_iff_iff, isInertLine_of_not_isBlank hc',
          isInertLine_of_not_isBlank hc']
        cases l with
        | nil => simp [hq]
        | cons e l => simp

theorem isInert_blank {c : Char} (hc : Piece.isBlank c = true) (t : Text) :
    isInert (c :: t) = isInert t := by
  by_cases he : Piece.isLineEnd c = true
  · rw [isInert, sourceLines_lineEnd he]
    rfl
  · obtain ⟨l, ls, hl⟩ := sourceLines_eq_cons t
    have he' : Piece.isLineEnd c = false := by simpa using he
    rw [isInert, isInert, sourceLines_cons he' hl, hl, List.all_cons, List.all_cons,
      isInertLine_blank hc]

/-- A line comment ends with its line, so each side is inert by itself. -/
theorem isInert_append_lineEnd {c : Char} (hc : Piece.isLineEnd c = true) (t r : Text) :
    isInert (t ++ c :: r) = (isInert t && isInert r) := by
  rw [isInert, sourceLines_append_lineEnd hc, List.all_append]
  rfl

/-- A text whose first visible character does not start a line comment is not inert. -/
theorem isInert_eq_false {c : Char} {t : Text} (hc : Piece.isBlank c = false)
    (hslash : c = '/' → t.head? ≠ some '/') : isInert (c :: t) = false := by
  obtain ⟨l, ls, hl⟩ := sourceLines_eq_cons t
  have he : Piece.isLineEnd c = false := by
    by_contra he
    rw [isBlank_of_isLineEnd (by simpa using he)] at hc
    cases hc
  have hline : isInertLine (c :: l) = false := by
    by_contra hline
    obtain ⟨rfl, hhead⟩ := (isInertLine_of_not_isBlank hc l).mp (by simpa using hline)
    apply hslash rfl
    cases t with
    | nil =>
        obtain ⟨rfl, -⟩ := List.cons.inj hl
        cases hhead
    | cons d t =>
        by_cases hd : Piece.isLineEnd d = true
        · rw [sourceLines_lineEnd hd] at hl
          obtain ⟨rfl, -⟩ := List.cons.inj hl
          cases hhead
        · obtain ⟨k, ks, hk⟩ := sourceLines_eq_cons t
          rw [sourceLines_cons (by simpa using hd) hk] at hl
          obtain ⟨rfl, -⟩ := List.cons.inj hl
          exact hhead
  rw [isInert, sourceLines_cons he hl, List.all_cons, hline, Bool.false_and]

theorem isInert_blanks {s : Text} (hs : ∀ c ∈ s, Piece.isBlank c = true) (t : Text) :
    isInert (s ++ t) = isInert t := by
  induction s with
  | nil => rfl
  | cons c s ih =>
      rw [List.cons_append, isInert_blank (hs c List.mem_cons_self)]
      exact ih fun d hd => hs d (List.mem_cons_of_mem c hd)

end Text

/-! ## Lexing -/

/-- A lexeme starts with a visible character, and not with two slashes. -/
theorem Piece.of_head_lexeme {c : Char} {t : Text} {kind : TokenKind} {n : Nat}
    (h : head c t = (.lexeme kind, n)) :
    isBlank c = false ∧ (c = '/' → t.head? ≠ some '/') := by
  have hs := head_spec c t
  rw [h] at hs
  cases hs with
  | word hw =>
      refine ⟨isBlank_of_isWordStart hw, ?_⟩
      rintro rfl
      simp [isWordStart] at hw
  | number hd =>
      refine ⟨isBlank_of_isDigit hd, ?_⟩
      rintro rfl
      simp at hd
  | slashComment inner m hc ht =>
      subst hc ht
      exact ⟨rfl, by simp⟩
  | parenComment inner m hc =>
      subst hc
      exact ⟨rfl, by simp⟩
  | string hc =>
      subst hc
      exact ⟨rfl, by simp⟩
  | single hb _ _ hl => exact ⟨hb, hl⟩

/-- A line comment lies on one line, up to a line end or the end of the text. -/
theorem Text.isInert_lineComment {t : Text} (ht : t.head? = some '/') :
    isInert ('/' :: t) = isInert (t.dropWhile fun x => !Piece.isLineEnd x) := by
  obtain ⟨u, rfl⟩ := List.head?_eq_some_iff.mp ht
  have hone : isOneLine ('/' :: '/' :: u.takeWhile fun x => !Piece.isLineEnd x) = true := by
    rw [isOneLine, List.all_cons, List.all_cons, List.all_takeWhile]
    rfl
  have hinert : isInert ('/' :: '/' :: u.takeWhile fun x => !Piece.isLineEnd x) = true := by
    rw [isInert, sourceLines_of_isOneLine hone]
    rfl
  have hsplit : '/' :: '/' :: u = ('/' :: '/' :: u.takeWhile fun x => !Piece.isLineEnd x) ++
      u.dropWhile fun x => !Piece.isLineEnd x := by
    simp [List.takeWhile_append_dropWhile]
  have hdrop : ('/' :: u).dropWhile (fun x => !Piece.isLineEnd x) =
      u.dropWhile fun x => !Piece.isLineEnd x := rfl
  rw [hdrop, hsplit]
  cases hr : u.dropWhile fun x => !Piece.isLineEnd x with
  | nil => rw [List.append_nil, hinert]; rfl
  | cons e r =>
      have he : Piece.isLineEnd e = true := by
        have hhead := List.head_dropWhile_not (fun x => !Piece.isLineEnd x) (l := u) (by simp [hr])
        simpa [hr] using hhead
      rw [isInert_append_lineEnd he, hinert, Bool.true_and, isInert_blank (isBlank_of_isLineEnd he)]

/-- No token is read where every line is blank or a comment, and nowhere else. -/
theorem Token.ofTextFrom_eq_nil_iff (offset : Nat) (gap t : Text) :
    ofTextFrom offset gap t = [] ↔ t.isInert = true := by
  induction t using Piece.ofText_induction generalizing offset gap with
  | nil => simp [Text.isInert, Text.sourceLines, Text.isInertLine]
  | cons c t ih =>
      rcases hx : Piece.head c t with ⟨kind, n⟩
      rw [hx] at ih
      cases kind with
      | blank =>
          have hblank := Piece.blanks_of_head_eq hx
          have hsplit : c :: t = (c :: t.take n) ++ t.drop n := by simp
          rw [ofTextFrom_layout hx (by simp), ih, hsplit, Text.isInert_blanks hblank]
      | lineComment =>
          have hs := Piece.head_spec c t
          rw [hx] at hs
          cases hs with
          | lineComment hc ht =>
              subst hc
              rw [ofTextFrom_layout hx (by simp), ih, Piece.drop_run, Text.isInert_lineComment ht]
      | lexeme k =>
          obtain ⟨hc, hslash⟩ := Piece.of_head_lexeme hx
          rw [ofTextFrom_lexeme hx, Text.isInert_eq_false hc hslash]
          simp

/-- A text has no token if and only if every line of it is blank or a line comment. -/
theorem Token.ofText_eq_nil_iff (t : Text) : ofText t = [] ↔ t.isInert = true :=
  ofTextFrom_eq_nil_iff 0 [] t

end RpcDispatch
