import Mathlib.Data.List.Chain
import RpcDispatch.Proofs.Lexing.Joining
import RpcDispatch.Proofs.Lexing.Lines
import RpcDispatch.Proofs.Lexing.Tokenization

/-!
# Texts that leave alone what follows them

The code of a text is its tokens without the comments. Some texts have the same code in front of
every other text, and open nothing that could swallow it: blanks, closed comments and strings, lines
of code. Any number of them can be put together.
-/

namespace RpcDispatch

namespace Piece

def code? : Piece → Option (TokenKind × Text)
  | ⟨.lexeme kind, text⟩ => if kind.isComment then none else some (kind, text)
  | ⟨.blank, _⟩ | ⟨.lineComment, _⟩ => none

/-- A quote, or the first half of a comment mark whose other half is not taken with it. -/
theorem isLoneMark_iff {p after : Text} : isLoneMark p after = true ↔
    p = ['\''] ∨ (p = ['/'] ∨ p = ['(']) ∧ after.head? = some '*' := by
  unfold isLoneMark
  split
  · simp
  · simp
  · simp
  next hquote hslash hparen =>
    simp only [Bool.false_eq_true, false_iff]
    rintro (rfl | ⟨rfl | rfl, hafter⟩)
    · exact hquote rfl
    · obtain ⟨r, rfl⟩ := List.head?_eq_some_iff.mp hafter
      exact hslash r rfl rfl
    · obtain ⟨r, rfl⟩ := List.head?_eq_some_iff.mp hafter
      exact hparen r rfl rfl

theorem isLoneMark_append {after : Text} (h : after ≠ []) (p r : Text) :
    isLoneMark p (after ++ r) = isLoneMark p after := by
  rw [Bool.eq_iff_iff, isLoneMark_iff, isLoneMark_iff, List.head?_append,
    List.head?_eq_some_head h, Option.some_or]

theorem isLoneMark_eq_false {c : Char} {t : Text}
    (h : t ≠ [] ∨ c ≠ '\'' ∧ c ≠ '/' ∧ c ≠ '(') (after : Text) :
    isLoneMark (c :: t) after = false := by
  rw [Bool.eq_false_iff, Ne, isLoneMark_iff]
  rintro (hp | ⟨hp | hp, -⟩) <;> simp_all

/-- A class of characters without the marks. -/
theorem isLoneMark_of_class {p : Char → Bool} {c : Char}
    (hp : ['\'', '/', '('].all (!p ·) = true) (hc : p c = true) (t after : Text) :
    isLoneMark (c :: t) after = false := by
  apply isLoneMark_eq_false
  right
  and_intros <;> rintro rfl <;> simp [hc] at hp

end Piece

namespace Text

def code (t : Text) : List (TokenKind × Text) :=
  ((Token.ofText t).filter (!·.isComment)).map fun x => (x.kind, x.text)

/-- In front of any other text this one has the given code, and leaves the other text as it is. -/
structure Leads (t : Text) (ps : List (TokenKind × Text)) : Prop where
  code_append (r : Text) : code (t ++ r) = ps ++ code r
  isSelfContained_append (r : Text) : isSelfContained (t ++ r) = isSelfContained r

variable {c d : Char} {t u : Text} {n : Nat} {ps qs : List (TokenKind × Text)}

/-! ## The piece at the head -/

theorem code_eq (t : Text) : code t = (Piece.ofText t).filterMap Piece.code? := by
  have h (offset : Nat) (gap : Text) :
      ((Token.ofTextFrom offset gap t).filter (!·.isComment)).map (fun x => (x.kind, x.text)) =
        (Piece.ofText t).filterMap Piece.code? := by
    induction t using Piece.lexeme_induction generalizing offset gap with
    | nil => rfl
    | layout c t kind n hx hk ih =>
        rw [Token.ofTextFrom_layout hx hk, ih, Piece.ofText_cons, hx]
        cases kind with
        | lexeme k => exact absurd rfl (hk k)
        | blank => rfl
        | lineComment => rfl
    | lexeme c t k n hx ih =>
        rw [Token.ofTextFrom_lexeme hx, Piece.ofText_cons, hx, List.filter_cons,
          List.filterMap_cons, Piece.code?, Token.isComment]
        cases k.isComment with
        | true => exact ih _ _
        | false => exact congrArg _ (ih _ _)
  exact h 0 []

theorem code_cons {kind : PieceKind} (h : Piece.head c t = (kind, n)) :
    code (c :: t) = (Piece.code? ⟨kind, c :: t.take n⟩).toList ++ code (t.drop n) := by
  rw [code_eq, code_eq, Piece.ofText_cons, h, List.filterMap_cons]
  cases Piece.code? ⟨kind, c :: t.take n⟩ <;> rfl

theorem isSelfContained_cons {kind : PieceKind} (h : Piece.head c t = (kind, n))
    (hk : kind ≠ .lineComment ∨ t.drop n ≠ []) :
    isSelfContained (c :: t) =
      (!Piece.isLoneMark (c :: t.take n) (t.drop n) && isSelfContained (t.drop n)) := by
  have hend : Piece.endsInLineComment (Piece.ofText (c :: t)) =
      Piece.endsInLineComment (Piece.ofText (t.drop n)) := by
    rw [Piece.endsInLineComment, Piece.ofText_cons, h, List.getLast?_cons]
    cases hlast : (Piece.ofText (t.drop n)).getLast? with
    | some p => rw [Piece.endsInLineComment, hlast]; rfl
    | none =>
        have hnil : t.drop n = [] := by
          by_contra hne
          exact Piece.ofText_ne_nil hne (List.getLast?_eq_none_iff.mp hlast)
        have hkind := hk.resolve_right fun hne => hne hnil
        rw [Piece.endsInLineComment, hlast]
        simpa using hkind
  rw [isSelfContained, hend, Piece.ofText_cons, h, Piece.allClosed, Piece.flatMap_text_ofText,
    Bool.and_assoc]
  rfl

/-! ## Putting together -/

namespace Leads

theorem code_eq (h : Leads t ps) : code t = ps := by
  have hnil := h.code_append []
  rwa [List.append_nil, show code [] = [] from rfl, List.append_nil] at hnil

theorem isSelfContained (h : Leads t ps) : t.isSelfContained = true := by
  have hnil := h.isSelfContained_append []
  rwa [List.append_nil] at hnil

theorem nil : Leads [] [] := ⟨fun _ => rfl, fun _ => rfl⟩

theorem append (ht : Leads t ps) (hu : Leads u qs) : Leads (t ++ u) (ps ++ qs) where
  code_append r := by rw [List.append_assoc, ht.code_append, hu.code_append, List.append_assoc]
  isSelfContained_append r := by
    rw [List.append_assoc, ht.isSelfContained_append, hu.isSelfContained_append]

theorem flatMap {α : Type} {xs : List α} {f : α → Text} {g : α → List (TokenKind × Text)}
    (h : ∀ x ∈ xs, Leads (f x) (g x)) : Leads (xs.flatMap f) (xs.flatMap g) := by
  induction xs with
  | nil => exact nil
  | cons x xs ih =>
      rw [List.forall_mem_cons] at h
      rw [List.flatMap_cons, List.flatMap_cons]
      exact h.1.append (ih h.2)

/-- A piece that ends where such a text begins. -/
theorem piece {kind : PieceKind} (hx : ∀ r, Piece.head c (t ++ (u ++ r)) = (kind, t.length))
    (hk : kind ≠ .lineComment ∨ u ≠ []) (hmark : ∀ r, Piece.isLoneMark (c :: t) (u ++ r) = false)
    (hu : Leads u ps) : Leads (c :: t ++ u) ((Piece.code? ⟨kind, c :: t⟩).toList ++ ps) where
  code_append r := by
    rw [List.cons_append, List.cons_append, List.append_assoc, code_cons (hx r),
      List.take_left, List.drop_left, hu.code_append, List.append_assoc]
  isSelfContained_append r := by
    have hk' : kind ≠ .lineComment ∨ (t ++ (u ++ r)).drop t.length ≠ [] := by
      rw [List.drop_left]
      exact hk.imp_right (by simp_all)
    rw [List.cons_append, List.cons_append, List.append_assoc, isSelfContained_cons (hx r) hk',
      List.take_left, List.drop_left, hmark r, hu.isSelfContained_append]
    rfl

end Leads

/-! ## Blanks -/

theorem code_blank (hc : Piece.isBlank c = true) (t : Text) : code (c :: t) = code t := by
  rw [code_cons (Piece.Head.blank hc).head_eq]
  cases t with
  | nil => rfl
  | cons d t =>
      by_cases hd : Piece.isBlank d = true
      · rw [code_cons (Piece.Head.blank hd).head_eq]
        simp [Piece.run, hd, Piece.code?]
      · simp [Piece.run, hd, Piece.code?]

theorem isSelfContained_blank (hc : Piece.isBlank c = true) (t : Text) :
    isSelfContained (c :: t) = isSelfContained t := by
  have hmark {d : Char} : Piece.isBlank d = true → ∀ p r : Text,
      Piece.isLoneMark (d :: p) r = false := Piece.isLoneMark_of_class (by decide)
  rw [isSelfContained_cons (Piece.Head.blank hc).head_eq (by simp), hmark hc]
  cases t with
  | nil => rfl
  | cons d t =>
      by_cases hd : Piece.isBlank d = true
      · rw [isSelfContained_cons (Piece.Head.blank hd).head_eq (by simp), hmark hd]
        simp [Piece.run, hd]
      · simp [Piece.run, hd]

theorem leads_blanks (h : t.all Piece.isBlank = true) : Leads t [] := by
  induction t with
  | nil => exact .nil
  | cons c t ih =>
      rw [List.all_cons, Bool.and_eq_true] at h
      have hrest := ih h.2
      constructor
      · intro r
        rw [List.cons_append, code_blank h.1, hrest.code_append]
      · intro r
        rw [List.cons_append, isSelfContained_blank h.1, hrest.isSelfContained_append]

/-! ## Tokens -/

theorem isComment_wordKind (w : Text) : (Piece.wordKind w).isComment = false := by
  rw [Piece.wordKind]
  split <;> rfl

namespace Leads

/-- A token that is read in the same way in front of every text. -/
theorem token {kind : TokenKind} (h : ∀ r, Token.Reads kind (c :: t) (u ++ r))
    (hmark : ∀ r, Piece.isLoneMark (c :: t) (u ++ r) = false) (hu : Leads u ps) :
    Leads (c :: t ++ u) ((Piece.code? ⟨.lexeme kind, c :: t⟩).toList ++ ps) :=
  piece (fun r => Token.reads_iff.mp (h r)) (.inl (by simp)) hmark hu

/-- A word, in front of a character that does not belong to it. -/
theorem word (hc : Piece.isWordStart c = true) (ht : ∀ x ∈ t, Piece.isWordPart x = true)
    (hd : Piece.isWordPart d = false) (hu : Leads (d :: u) ps) :
    Leads (c :: t ++ d :: u) ((Piece.wordKind (c :: t), c :: t) :: ps) := by
  have hreads : ∀ r, Token.Reads (Piece.wordKind (c :: t)) (c :: t) (d :: u ++ r) :=
    fun _ => .word hc ht (by simpa using hd)
  have h := token hreads (fun _ => Piece.isLoneMark_of_class (by decide) hc _ _) hu
  rwa [Piece.code?, isComment_wordKind] at h

/-- A number, in front of a character that is no digit. -/
theorem number (ht : ∀ x ∈ t, x.isDigit = true) (hne : t ≠ []) (hd : d.isDigit = false)
    (hu : Leads (d :: u) ps) : Leads (t ++ d :: u) ((.number, t) :: ps) := by
  have hreads : ∀ r, Token.Reads .number t (d :: u ++ r) :=
    fun _ => .number hne ht (by simpa using hd)
  obtain ⟨c, t, rfl⟩ := List.exists_cons_of_ne_nil hne
  have hc : c.isDigit = true := ht c List.mem_cons_self
  exact token hreads (fun _ => Piece.isLoneMark_of_class (by decide) hc _ _) hu

/-- An opening parenthesis, in front of anything but an asterisk. -/
theorem leftParen (hd : d ≠ '*') (hu : Leads (d :: u) ps) :
    Leads ('(' :: d :: u) ((.leftParen, ['(']) :: ps) := by
  have hreads : ∀ r, Token.Reads .leftParen ['('] (d :: u ++ r) := by
    intro r
    refine Token.Reads.single (c := '(') rfl rfl rfl (by simp) (by simp) ?_ (by simp)
    rintro inner - h
    exact absurd (List.cons.inj h).1 hd
  have hmark : ∀ r, Piece.isLoneMark ['('] (d :: u ++ r) = false := by
    intro r
    rw [Bool.eq_false_iff, Ne, Piece.isLoneMark_iff]
    simpa using hd
  exact token hreads hmark hu

end Leads

/-- A token of several characters that stands for itself. -/
theorem leads_of_reads {kind : TokenKind} (h : ∀ r, Token.Reads kind (c :: t) r) (hne : t ≠ []) :
    Leads (c :: t) (Piece.code? ⟨.lexeme kind, c :: t⟩).toList := by
  have hone := Leads.token (u := []) (fun r => h r)
    (fun _ => Piece.isLoneMark_eq_false (.inl hne) _) .nil
  rwa [List.append_nil, List.append_nil] at hone

/-- A string, where the text in it has no quote. -/
theorem leads_string (h : '\'' ∉ t) : Leads ("'" ++ t ++ "'") [(.string, "'" ++ t ++ "'")] :=
  leads_of_reads (fun _ => .string h) (by simp)

/-! ## Comments -/

/-- A line comment and the line end behind it. -/
theorem leads_lineComment (h : t.isOneLine = true) : Leads ("//" ++ t ++ "\n") [] := by
  have hall : ∀ x ∈ '/' :: t, (!Piece.isLineEnd x) = true :=
    List.forall_mem_cons.mpr ⟨rfl, List.all_eq_true.mp h⟩
  have hhead : ∀ r, Piece.head '/' (('/' :: t) ++ (['\n'] ++ r)) =
      (.lineComment, ('/' :: t).length) := by
    intro r
    have hline := (Piece.Head.lineComment (c := '/') (t := '/' :: t ++ '\n' :: r) rfl rfl).head_eq
    rwa [Piece.run, Token.takeWhile_append_of_head? hall (by simp [Piece.isLineEnd])] at hline
  have hend : Leads ['\n'] [] := leads_blanks (by decide)
  exact Leads.piece hhead (.inr (by simp))
    (fun _ => Piece.isLoneMark_eq_false (.inl (by simp)) _) hend

/-- Nothing in the text ends a comment that is opened by a slash and an asterisk. -/
def KeepsOpen (t : Text) : Prop := ¬ ("*/" : Text) <:+: t

/-- A comment stays open as long as no star meets a slash. -/
theorem keepsOpen_iff : KeepsOpen t ↔ t.IsChain fun x y => ¬ (x = '*' ∧ y = '/') := by
  rw [List.isChain_iff_forall_rel_of_append_cons_cons, KeepsOpen]
  constructor
  · rintro h _ _ before after rfl ⟨rfl, rfl⟩
    exact h ⟨before, after, by simp⟩
  · rintro h ⟨before, after, rfl⟩
    exact @h '*' '/' before after (by simp) ⟨rfl, rfl⟩

theorem keepsOpen_of_notMem (h : '*' ∉ t) : KeepsOpen t :=
  fun hmark => h (hmark.subset (by decide))

theorem KeepsOpen.append (ht : KeepsOpen t) (hu : KeepsOpen u)
    (h : t.getLast? ≠ some '*' ∨ u.head? ≠ some '/') : KeepsOpen (t ++ u) := by
  rw [keepsOpen_iff] at *
  refine List.IsChain.append ht hu ?_
  rintro x hx y hy ⟨rfl, rfl⟩
  exact h.elim (· hx) (· hy)

theorem leads_blockComment (h : KeepsOpen t) : Leads ("/*" ++ t ++ "*/") [] := by
  have hfirst : KeepsOpen (t ++ ['*']) :=
    h.append (fun hmark => absurd hmark (by decide)) (.inr (by decide))
  exact leads_of_reads (fun _ => .slashComment hfirst) (by simp)

/-! ## Fixed texts -/

/-- Every string and block comment that the text opens is closed in it, and it ends in blanks. -/
def isBlock (t : Text) : Bool :=
  Piece.allClosed (Piece.ofText t) && (Piece.ofText t).getLast?.all (·.kind == .blank)

theorem leads_of_isBlock (h : t.isBlock = true) : Leads t t.code := by
  induction t using Piece.ofText_induction with
  | nil => exact .nil
  | cons c t ih =>
      rw [isBlock, Bool.and_eq_true] at h
      obtain ⟨hmark, hclosed⟩ := Piece.allClosed_ofText_cons h.1
      rcases hx : Piece.head c t with ⟨kind, n⟩
      by_cases hlt : n < t.length
      · have hhead := Piece.head_append (by rw [hx]; exact hlt) hmark
        have hlast := Piece.getLast?_ofText_cons (c := c) (t := t) (by rw [hx]; exact hlt)
        rw [hx] at ih hhead hlast hmark hclosed
        have hne : t.drop n ≠ [] := by simpa using hlt
        have hrest := ih (by rw [isBlock, Bool.and_eq_true, ← hlast]; exact ⟨hclosed, h.2⟩)
        have hpiece : Leads (c :: t.take n ++ t.drop n)
            ((Piece.code? ⟨kind, c :: t.take n⟩).toList ++ code (t.drop n)) := by
          refine Leads.piece ?_ (.inr hne) ?_ hrest
          · intro r
            rw [← List.append_assoc, List.take_append_drop, hhead, List.length_take_of_le hlt.le]
          · intro r
            rw [Piece.isLoneMark_append hne, hmark]
        rw [List.cons_append, List.take_append_drop] at hpiece
        rwa [code_cons hx]
      · -- the last piece, which is blank
        have hle := Piece.head_snd_le c t
        rw [hx] at hle
        obtain rfl : n = t.length := by omega
        have hone : Piece.ofText (c :: t) = [⟨kind, c :: t⟩] := by
          rw [Piece.ofText_cons, hx]
          simp
        obtain rfl : kind = .blank := by simpa [hone] using h.2
        have hblank := Piece.blanks_of_head_eq hx
        rw [List.take_length] at hblank
        have hcode : code (c :: t) = [] := by
          rw [code_eq, hone]
          rfl
        rw [hcode]
        exact leads_blanks (List.all_eq_true.mpr hblank)

end Text

end RpcDispatch
