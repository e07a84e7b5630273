import Mathlib.Data.List.DropRight
import RpcDispatch.Proofs.Lexing.Prefixes
import RpcDispatch.Text.Blank

/-!
# The tokens of a trimmed text

Trimming knows more white space than the lexer, for which the rest of it are tokens of one
character. So a trimmed text lacks such tokens at its ends, and nothing else: a string or a comment
never ends in white space, and a line comment at the end stays one.
-/

namespace RpcDispatch

/-! ## White space -/

namespace Text

theorem isSpace_of_isBlank {c : Char} (h : Piece.isBlank c = true) : isSpace c = true := by
  simp only [Piece.isBlank, Bool.or_eq_true, beq_iff_eq] at h
  rcases h with (((rfl | rfl) | rfl) | rfl) | rfl <;> rfl

theorem isSpace_eq_false_of_isWordPart {c : Char} (h : Piece.isWordPart c = true) :
    isSpace c = false := by
  have hrange : (48 ≤ c.toNat ∧ c.toNat ≤ 57) ∨ (65 ≤ c.toNat ∧ c.toNat ≤ 90) ∨
      (97 ≤ c.toNat ∧ c.toNat ≤ 122) ∨ c.toNat = 95 := by
    by_cases hd : c.isDigit = true
    · exact .inl (Piece.range_of_isDigit hd)
    · right
      apply Piece.range_of_isWordStart
      simpa [Piece.isWordPart, Piece.isWordStart, Char.isAlphanum, hd] using h
  by_contra hspace
  simp only [isSpace, Bool.not_eq_false, Bool.or_eq_true, Bool.and_eq_true, decide_eq_true_eq,
    beq_iff_eq] at hspace
  omega

/-- What trimming takes away in front and behind. -/
theorem trim_spec (t : Text) : ∃ lead trail, t = lead ++ (trim t ++ trail) ∧
    (∀ c ∈ lead, isSpace c = true) ∧ (∀ c ∈ trail, isSpace c = true) ∧
      ∀ c ∈ (trim t).getLast?, isSpace c = false := by
  have hstart : t.takeWhile isSpace ++ trimStart t = t := List.takeWhile_append_dropWhile
  have hend : trim t ++ (trimStart t).rtakeWhile isSpace = trimStart t :=
    List.rdropWhile_append_rtakeWhile
  refine ⟨t.takeWhile isSpace, (trimStart t).rtakeWhile isSpace, ?_, ?_, ?_, ?_⟩
  · rw [hend, hstart]
  · exact fun c hc => List.mem_takeWhile_imp hc
  · exact fun c hc => List.mem_rtakeWhile_imp hc
  · intro c hc
    have htrim : (trimStart t).rdropWhile isSpace = trim t := rfl
    obtain ⟨front, hfront⟩ := List.getLast?_eq_some_iff.mp hc
    rw [← htrim] at hfront
    have hlast := List.rdropWhile_last_not isSpace (trimStart t) (by simp [hfront])
    simpa [hfront] using hlast

end Text

namespace Piece

variable {c : Char} {u w : Text}

theorem isWordPart_of_isDigit (hc : c.isDigit = true) : isWordPart c = true := by
  simp [isWordPart, Char.isAlphanum, hc]

/-- A character of white space is layout or a token of its own, whatever follows it. -/
theorem head_of_isSpace (hc : Text.isSpace c = true) (hb : isBlank c = false) (t : Text) :
    head c t = (.lexeme .other, 0) := by
  have hword : isWordStart c = false := by
    by_contra hw
    have hpart := isWordPart_of_isWordStart (by simpa using hw)
    rw [Text.isSpace_eq_false_of_isWordPart hpart] at hc
    cases hc
  have hdigit : c.isDigit = false := by
    by_contra hd
    have hpart := isWordPart_of_isDigit (by simpa using hd)
    rw [Text.isSpace_eq_false_of_isWordPart hpart] at hc
    cases hc
  have hkind : singleKind c = .other := by
    rw [singleKind.eq_def]
    split <;> first | rfl | cases hc
  have hne (d : Char) (hd : Text.isSpace d = false) : c ≠ d := by
    rintro rfl
    rw [hd] at hc
    cases hc
  rw [← hkind]
  apply Head.head_eq
  refine .single hb hword hdigit ?_ ?_ ?_ ?_
  · exact fun h => absurd h (hne '/' (by decide))
  · exact fun _ h => absurd h (hne '/' (by decide))
  · exact fun _ h => absurd h (hne '(' (by decide))
  · exact fun h => absurd h (hne '\'' (by decide))

/-! ## White space behind a text -/

theorem mem_of_closing? {a b : Char} {t : Text} {n : Nat} (h : closing? a b t = some n) :
    b ∈ t := by
  induction t generalizing n with
  | nil => simp [closing?] at h
  | cons x t ih =>
      cases t with
      | nil => simp [closing?] at h
      | cons y t =>
          rw [closing?] at h
          split at h
          next hxy => simp_all
          next =>
            obtain ⟨m, hm, -⟩ := Option.map_eq_some_iff.mp h
            exact List.mem_cons_of_mem x (ih hm)

theorem length_le_of_closing? {a b : Char} (hb : b ∉ w) {n : Nat}
    (h : closing? a b (u ++ w) = some n) : n ≤ u.length := by
  induction u generalizing n with
  | nil => exact absurd (mem_of_closing? h) hb
  | cons x u ih =>
      cases u with
      | nil =>
          cases w with
          | nil => simp [closing?] at h
          | cons y w =>
              rw [List.cons_append, List.nil_append, closing?] at h
              split at h
              next hxy => simp_all
              next =>
                obtain ⟨m, hm, -⟩ := Option.map_eq_some_iff.mp h
                exact absurd (mem_of_closing? hm) hb
      | cons y u =>
          rw [List.cons_append, List.cons_append, closing?] at h
          split at h
          next =>
            obtain rfl := Option.some.inj h
            simp
          next =>
            obtain ⟨m, hm, rfl⟩ := Option.map_eq_some_iff.mp h
            have hle := ih hm
            rw [List.length_cons]
            omega

/-- A comment whose mark is closed by no character of `w` ends before `w`. -/
theorem succ_le_of_closing? {a b d : Char} (hb : b ∉ w) {inner : Text} {n : Nat}
    (ht : u ++ w = d :: inner) (h : closing? a b inner = some n) : n + 1 ≤ u.length := by
  cases u with
  | nil =>
      rw [List.nil_append] at ht
      rw [ht] at hb
      exact absurd (List.mem_cons_of_mem d (mem_of_closing? h)) hb
  | cons e u =>
      obtain ⟨rfl, rfl⟩ := List.cons.inj ht
      exact Nat.succ_le_succ (length_le_of_closing? hb h)

/-- A run that reaches up to a text behind takes in all before it. -/
theorem of_length_le_run {p : Char → Bool} (h : u.length ≤ run p (u ++ w)) :
    ∀ d ∈ u, p d = true := by
  induction u with
  | nil => simp
  | cons x u ih =>
      by_cases hx : p x = true
      · have hle : u.length ≤ run p (u ++ w) := by simpa [run, hx] using h
        have hu := ih hle
        simpa [hx] using hu
      · simp [run, hx] at h

theorem exists_of_length_lt_run {p : Char → Bool} (h : u.length < run p (u ++ w)) :
    ∃ d ∈ w, p d = true := by
  have hu := of_length_le_run (Nat.le_of_lt h)
  rw [run, List.takeWhile_append_of_pos hu, List.length_append] at h
  cases w with
  | nil => simp at h
  | cons d w =>
      refine ⟨d, List.mem_cons_self, ?_⟩
      by_contra hd
      simp [hd] at h

/-- White space behind a text belongs to its first piece only if that is a line comment. -/
theorem head_append_spaces (hw : ∀ d ∈ w, Text.isSpace d = true)
    (hlast : ∀ d ∈ (c :: u).getLast?, Text.isSpace d = false) :
    (head c (u ++ w)).2 ≤ u.length ∨
      (head c (u ++ w)).1 = .lineComment ∧ head c u = (.lineComment, u.length) := by
  have hnot (d : Char) (hd : Text.isSpace d = false) : d ∉ w := by
    intro hmem
    rw [hw d hmem] at hd
    cases hd
  have hrun {p : Char → Bool} (hp : ∀ d, p d = true → isWordPart d = true) :
      run p (u ++ w) ≤ u.length := by
    by_contra hgt
    obtain ⟨d, hd, hpd⟩ := exists_of_length_lt_run (Nat.lt_of_not_le hgt)
    exact hnot d (Text.isSpace_eq_false_of_isWordPart (hp d hpd)) hd
  have hs := head_spec c (u ++ w)
  generalize head c (u ++ w) = x at hs ⊢
  cases hs with
  | blank hb =>
      -- a blank run that went on would have taken in all of `c :: u`, which ends in no white space
      left
      by_contra hgt
      have hall := of_length_le_run (Nat.le_of_not_le hgt)
      have hblank : ∀ d ∈ c :: u, isBlank d = true := by
        intro d hd
        rcases List.mem_cons.mp hd with rfl | hd
        · exact hb
        · exact hall d hd
      have hspace := hlast _ (List.getLast?_eq_some_getLast (List.cons_ne_nil c u))
      rw [Text.isSpace_of_isBlank (hblank _ (List.getLast_mem _))] at hspace
      cases hspace
  | word => exact .inl (hrun fun d hd => hd)
  | number => exact .inl (hrun fun d hd => isWordPart_of_isDigit hd)
  | lineComment hc ht =>
      by_cases hle : run (fun x => !isLineEnd x) (u ++ w) ≤ u.length
      · exact .inl hle
      · right
        have hall := of_length_le_run (Nat.le_of_not_le hle)
        have hhead : u.head? = some '/' := by
          cases u with
          | nil =>
              have hmem : '/' ∈ w := List.mem_of_head? ht
              exact absurd hmem (hnot '/' (by decide))
          | cons d u => exact ht
        refine ⟨rfl, ?_⟩
        rw [(Head.lineComment hc hhead).head_eq, run_eq_length_iff.mpr hall]
  | slashComment inner n _ ht hn => exact .inl (succ_le_of_closing? (hnot '/' (by decide)) ht hn)
  | parenComment inner n _ ht hn => exact .inl (succ_le_of_closing? (hnot ')' (by decide)) ht hn)
  | string hc hn =>
      left
      by_contra hgt
      have hall := of_length_le_run (p := (· != '\'')) (u := u) (w := w) (by omega)
      have hrun : run (· != '\'') (u ++ w) = (u ++ w).length := by
        rw [run_eq_length_iff]
        intro d hd
        rcases List.mem_append.mp hd with hd | hd
        · exact hall d hd
        · rw [bne_iff_ne]
          rintro rfl
          exact hnot '\'' (by decide) hd
      omega
  | single => exact .inl (Nat.zero_le _)

/-- A line comment that takes up a text goes on behind it. -/
theorem drop_lineComment {n : Nat} (hu : head c u = (.lineComment, u.length))
    (huw : head c (u ++ w) = (.lineComment, n)) : (u ++ w).drop n = w.drop (n - u.length) := by
  have hle : u.length ≤ n := by
    by_contra hlt
    have hsame := head_of_append (c := c) (t := u) (r := w) (by rw [huw]; omega)
    rw [hu, huw] at hsame
    have heq := (Prod.mk.inj hsame).2
    omega
  rw [List.drop_append, List.drop_of_length_le hle, List.nil_append]

end Piece

/-! ## Tokens of white space -/

namespace Token

def IsSpace (x : Token) : Prop := x.kind = .other ∧ ∃ c, x.text = [c] ∧ Text.isSpace c = true

def placed (offset : Nat) (x : Token) : TokenKind × Text × Nat :=
  (x.kind, x.text, offset + x.start)

theorem map_placed_ofTextFrom (offset : Nat) (gap t : Text) :
    (ofTextFrom offset gap t).map (placed 0) = (ofText t).map (placed offset) := by
  have h : ∀ (ps : List Piece) (o : Nat) (g g' : Text),
      (ofPieces (offset + o) g ps).map (placed 0) = (ofPieces o g' ps).map (placed offset) := by
    intro ps
    induction ps with
    | nil => intros; rfl
    | cons p ps ih =>
        intro o g g'
        obtain ⟨k, text⟩ := p
        have hrest := ih (o + Text.byteSize text)
        rw [← Nat.add_assoc] at hrest
        cases k with
        | lexeme k => simp [ofPieces, placed, hrest [] []]
        | blank => exact hrest _ _
        | lineComment => exact hrest _ _
  exact h _ 0 gap []

/-- White space in front of a text gives tokens of white space. -/
theorem ofTextFrom_spaces_append {s : Text} (hs : ∀ c ∈ s, Text.isSpace c = true) (offset : Nat)
    (gap t : Text) : ∃ pre gap', (∀ x ∈ pre, IsSpace x) ∧
      ofTextFrom offset gap (s ++ t) = pre ++ ofTextFrom (offset + Text.byteSize s) gap' t := by
  induction s generalizing offset gap with
  | nil => exact ⟨[], gap, by simp, rfl⟩
  | cons c s ih =>
      have hs' : ∀ d ∈ s, Text.isSpace d = true := fun d hd => hs d (List.mem_cons_of_mem c hd)
      have hc := hs c List.mem_cons_self
      by_cases hb : Piece.isBlank c = true
      · obtain ⟨pre, gap', hpre, htokens⟩ := ih hs' (offset + c.utf8Size) (gap ++ [c])
        refine ⟨pre, gap', hpre, ?_⟩
        rw [List.cons_append, ofTextFrom_blank hb, htokens, Text.byteSize_cons, Nat.add_assoc]
      · have hhead := Piece.head_of_isSpace hc (by simpa using hb) (s ++ t)
        obtain ⟨pre, gap', hpre, htokens⟩ := ih hs' (offset + c.utf8Size) []
        refine ⟨⟨.other, gap, [c], offset⟩ :: pre, gap', ?_, ?_⟩
        · intro x hx
          rcases List.mem_cons.mp hx with rfl | hx
          · exact ⟨rfl, c, rfl, hc⟩
          · exact hpre x hx
        · rw [List.cons_append, ofTextFrom_lexeme hhead, List.drop_zero, List.take_zero,
            Text.byteSize_cons, Text.byteSize_nil, Nat.add_zero, htokens, Text.byteSize_cons,
            Nat.add_assoc, List.cons_append]

/-- White space that is not blank to the lexer falls back to tokens of one character. -/
theorem isSpace_of_mem_spaces {s : Text} (hs : ∀ c ∈ s, Text.isSpace c = true) {offset : Nat}
    {gap : Text} : ∀ x ∈ ofTextFrom offset gap s, IsSpace x := by
  obtain ⟨pre, gap', hpre, htokens⟩ := ofTextFrom_spaces_append hs offset gap []
  rw [List.append_nil, ofTextFrom_nil, List.append_nil] at htokens
  rw [htokens]
  exact hpre

/-- A piece that takes in nothing of the text behind is the same without that text. -/
theorem head_append_eq {c : Char} {u w : Text} {kind : PieceKind} {n : Nat}
    (hx : Piece.head c u = (kind, n)) (hle : (Piece.head c (u ++ w)).2 ≤ u.length) :
    Piece.head c (u ++ w) = (kind, n) ∧ (u ++ w).take n = u.take n ∧
      (u ++ w).drop n = u.drop n ++ w := by
  have hsame : Piece.head c (u ++ w) = (kind, n) := (Piece.head_of_append hle).symm.trans hx
  rw [hsame] at hle
  exact ⟨hsame, List.take_append_of_le_length hle, List.drop_append_of_le_length hle⟩

theorem of_mem_getLast?_drop {c d : Char} {u : Text} {n : Nat} (hd : d ∈ (u.drop n).getLast?) :
    d ∈ (c :: u).getLast? := by
  rw [List.getLast?_drop] at hd
  split at hd
  next => cases hd
  next =>
    rw [List.getLast?_cons, Option.mem_def.mp hd]
    rfl

/-- White space behind a text that does not end in it gives tokens of white space. -/
theorem ofTextFrom_append_spaces {u w : Text} (hw : ∀ c ∈ w, Text.isSpace c = true)
    (hlast : ∀ c ∈ u.getLast?, Text.isSpace c = false) (offset : Nat) (gap : Text) :
    ∃ post, (∀ x ∈ post, IsSpace x) ∧
      ofTextFrom offset gap (u ++ w) = ofTextFrom offset gap u ++ post := by
  induction u using Piece.lexeme_induction generalizing offset gap with
  | nil => exact ⟨ofTextFrom offset gap w, isSpace_of_mem_spaces hw, rfl⟩
  | layout c u kind n hx hk ih =>
      rcases Piece.head_append_spaces hw hlast with hle | ⟨hkind, hhead⟩
      · obtain ⟨hsame, htake, hdrop⟩ := head_append_eq hx hle
        obtain ⟨post, hpost, htokens⟩ := ih (fun d hd => hlast d (of_mem_getLast?_drop hd))
          (offset + Text.byteSize (c :: u.take n)) (gap ++ c :: u.take n)
        refine ⟨post, hpost, ?_⟩
        rw [List.cons_append, ofTextFrom_layout hsame hk, ofTextFrom_layout hx hk, htake, hdrop,
          htokens]
      · -- the line comment ends the text, and what it does not take of the white space is left
        rcases hy : Piece.head c (u ++ w) with ⟨kind', m⟩
        rw [hy] at hkind
        obtain rfl : kind' = .lineComment := hkind
        have hdrop := Piece.drop_lineComment hhead hy
        rw [List.cons_append, ofTextFrom_layout hy (by simp), ofTextFrom_layout hhead (by simp),
          hdrop, List.drop_length, ofTextFrom_nil]
        exact ⟨_, isSpace_of_mem_spaces fun d hd => hw d (List.mem_of_mem_drop hd), rfl⟩
  | lexeme c u k n hx ih =>
      rcases Piece.head_append_spaces hw hlast with hle | ⟨-, hhead⟩
      · obtain ⟨hsame, htake, hdrop⟩ := head_append_eq hx hle
        obtain ⟨post, hpost, htokens⟩ := ih (fun d hd => hlast d (of_mem_getLast?_drop hd))
          (offset + Text.byteSize (c :: u.take n)) []
        refine ⟨post, hpost, ?_⟩
        rw [List.cons_append, ofTextFrom_lexeme hsame, ofTextFrom_lexeme hx, htake, hdrop,
          htokens, List.cons_append]
      · rw [hx] at hhead
        cases hhead

/-- The tokens of a trimmed text are those of the text but for white space at its ends. -/
theorem ofTextFrom_trim (offset : Nat) (gap t : Text) :
    ∃ lead trail pre middle post, t = lead ++ (Text.trim t ++ trail) ∧
      (∀ c ∈ lead, Text.isSpace c = true) ∧ (∀ c ∈ trail, Text.isSpace c = true) ∧
      ofTextFrom offset gap t = pre ++ (middle ++ post) ∧ (∀ x ∈ pre, IsSpace x) ∧
      (∀ x ∈ post, IsSpace x) ∧
      (ofText (Text.trim t)).map (placed (offset + Text.byteSize lead)) =
        middle.map (placed 0) := by
  obtain ⟨lead, trail, ht, hlead, htrail, hlast⟩ := Text.trim_spec t
  obtain ⟨pre, gap', hpre, hfront⟩ := ofTextFrom_spaces_append hlead offset gap
    (Text.trim t ++ trail)
  obtain ⟨post, hpost, hback⟩ := ofTextFrom_append_spaces htrail hlast
    (offset + Text.byteSize lead) gap'
  rw [← ht, hback] at hfront
  exact ⟨lead, trail, pre, _, post, ht, hlead, htrail, hfront, hpre, hpost,
    (map_placed_ofTextFrom _ _ _).symm⟩

end Token

end RpcDispatch
