import RpcDispatch.Proofs.Lexing.LongestMatch

/-!
# The tokens of a text

The tokens spell out the text together with the layout between them. What a token is can be told
from the text at its start: a string or comment reaches to the first closing mark, a word or a
number as far as it goes, and all else is one character.
-/

namespace RpcDispatch

/-! ## Closing marks -/

namespace Piece

theorem infix_cons_cons {a b x y : Char} {t : Text} :
    [a, b] <:+: x :: y :: t ↔ x = a ∧ y = b ∨ [a, b] <:+: y :: t := by
  rw [List.infix_cons_iff]
  simp [eq_comm]

theorem closing?_eq_none_iff {a b : Char} {t : Text} :
    closing? a b t = none ↔ ¬[a, b] <:+: t := by
  induction t with
  | nil => simp [closing?]
  | cons x t ih =>
      cases t with
      | nil => simp [closing?, List.infix_cons_iff]
      | cons y t =>
          rw [closing?_cons_cons, infix_cons_cons, not_or]
          split
          next hxy => simp [hxy]
          next hxy => rw [Option.map_eq_none_iff, ih, and_iff_right hxy]

/-- The first closing mark, with what stands before and behind it. -/
theorem of_closing?_eq_some {a b : Char} (hab : a ≠ b) {t : Text} {n : Nat}
    (h : closing? a b t = some n) :
    ∃ body, t.take n = body ++ [a, b] ∧ ¬[a, b] <:+: body ++ [a] := by
  induction t generalizing n with
  | nil => simp [closing?] at h
  | cons x t ih =>
      cases t with
      | nil => simp [closing?] at h
      | cons y t =>
          rw [closing?_cons_cons] at h
          split at h
          next hxy =>
            obtain ⟨rfl, rfl⟩ := hxy
            obtain rfl := Option.some.inj h
            exact ⟨[], rfl, by simp [List.infix_cons_iff]⟩
          next hxy =>
            obtain ⟨m, hm, rfl⟩ := Option.map_eq_some_iff.mp h
            obtain ⟨body, hbody, hfirst⟩ := ih hm
            refine ⟨x :: body, by rw [List.take_succ_cons, hbody, List.cons_append], ?_⟩
            -- one character more in front makes one pair more, and that pair is no closing mark
            cases body with
            | nil =>
                rw [List.cons_append, List.nil_append, infix_cons_cons, not_or]
                exact ⟨fun hxa => hab hxa.2, hfirst⟩
            | cons z body =>
                obtain rfl : y = z := by
                  cases m with
                  | zero => simp at hbody
                  | succ m => exact (List.cons.inj hbody).1
                rw [List.cons_append, List.cons_append, infix_cons_cons, not_or]
                exact ⟨hxy, hfirst⟩

theorem closing?_of_first {a b : Char} {body : Text} (h : ¬[a, b] <:+: body ++ [a]) (r : Text) :
    closing? a b (body ++ [a, b] ++ r) = some (body.length + 2) := by
  induction body with
  | nil => simp [closing?_cons_cons]
  | cons x body ih =>
      obtain ⟨y, u, v, hu, hv⟩ : ∃ y u v, body ++ [a, b] ++ r = y :: u ∧ body ++ [a] = y :: v := by
        cases body with
        | nil => exact ⟨a, b :: r, [], rfl, rfl⟩
        | cons y body => exact ⟨y, body ++ [a, b] ++ r, body ++ [a], rfl, rfl⟩
      rw [List.cons_append, hv, infix_cons_cons, not_or, ← hv] at h
      have hrest := ih h.2
      rw [hu] at hrest
      rw [List.cons_append, List.cons_append, hu, closing?_cons_cons, if_neg h.1, hrest]
      rfl

end Piece

/-! ## What a token is -/

namespace Token

/-- The kind and the characters of the token at the head of a text, where `after` follows it. -/
inductive Reads : TokenKind → (text after : Text) → Prop
  /-- A word goes as far as it can. -/
  | word {c : Char} {w after : Text} : Piece.isWordStart c = true →
      (∀ d ∈ w, Piece.isWordPart d = true) → (∀ d ∈ after.head?, Piece.isWordPart d = false) →
      Reads (if Text.foldCase (c :: w) = Piece.keyword then .defineFunction else .ident) (c :: w)
        after
  | number {w after : Text} : w ≠ [] → (∀ d ∈ w, d.isDigit = true) →
      (∀ d ∈ after.head?, d.isDigit = false) → Reads .number w after
  /-- A comment reaches to the first closing mark that begins behind its opening mark. -/
  | slashComment {body after : Text} : ¬['*', '/'] <:+: body ++ ['*'] →
      Reads .slashComment ('/' :: '*' :: (body ++ ['*', '/'])) after
  | parenComment {body after : Text} : ¬['*', ')'] <:+: body ++ ['*'] →
      Reads .parenComment ('(' :: '*' :: (body ++ ['*', ')'])) after
  | string {body after : Text} : '\'' ∉ body → Reads .string ('\'' :: (body ++ ['\''])) after
  /-- Any other character is a token of its own, an opening mark if it is closed nowhere. -/
  | single {c : Char} {after : Text} : Piece.isBlank c = false → Piece.isWordStart c = false →
      c.isDigit = false → (c = '/' → after.head? ≠ some '/') →
      (∀ inner, c = '/' → after = '*' :: inner → ¬['*', '/'] <:+: inner) →
      (∀ inner, c = '(' → after = '*' :: inner → ¬['*', ')'] <:+: inner) →
      (c = '\'' → '\'' ∉ after) → Reads (Piece.singleKind c) [c] after

theorem of_run_append {p : Char → Bool} {w r : Text} (h : Piece.run p (w ++ r) = w.length) :
    (∀ c ∈ w, p c = true) ∧ ∀ c ∈ r.head?, p c = false := by
  have htake : (w ++ r).takeWhile p = w := by
    rw [← Piece.take_run, h, List.take_left]
  have hdrop : (w ++ r).dropWhile p = r := by
    rw [← Piece.drop_run, h, List.drop_left]
  constructor
  · intro c hc
    rw [← htake] at hc
    exact List.mem_takeWhile_imp hc
  · intro c hc
    have hnot := List.head?_dropWhile_not p (w ++ r)
    rw [hdrop, Option.mem_def.mp hc] at hnot
    simpa using hnot

theorem takeWhile_append_of_head? {p : Char → Bool} {w r : Text} (hw : ∀ c ∈ w, p c = true)
    (hr : ∀ c ∈ r.head?, p c = false) : (w ++ r).takeWhile p = w := by
  rw [List.takeWhile_append_of_pos hw]
  cases r with
  | nil => simp
  | cons c r => simp [hr c rfl]

/-- A comment behind its first character, up to the first closing mark. -/
theorem exists_body {z : Char} (hz : '*' ≠ z) {w after inner : Text} {n : Nat}
    (ht : w ++ after = '*' :: inner) (hn : Piece.closing? '*' z inner = some n)
    (hlength : w.length = n + 1) :
    ∃ body, w = '*' :: (body ++ ['*', z]) ∧ ¬['*', z] <:+: body ++ ['*'] := by
  obtain ⟨body, htake, hfirst⟩ := Piece.of_closing?_eq_some hz hn
  refine ⟨body, ?_, hfirst⟩
  rw [← htake, ← List.take_succ_cons, ← ht, ← hlength, List.take_left]

/-- A piece that is a lexeme satisfies the rule of its kind. -/
theorem reads_of_head {c : Char} {w after : Text} {kind : TokenKind}
    (h : Piece.head c (w ++ after) = (.lexeme kind, w.length)) : Reads kind (c :: w) after := by
  have hs := Piece.head_spec c (w ++ after)
  rw [h] at hs
  generalize hx : (PieceKind.lexeme kind, w.length) = x at hs
  cases hs with
  | blank => cases hx
  | lineComment => cases hx
  | word hc =>
      obtain ⟨hkind, hlength⟩ := Prod.mk.inj hx
      obtain ⟨hw, hafter⟩ := of_run_append hlength.symm
      have htake : (w ++ after).takeWhile Piece.isWordPart = w := by
        rw [← Piece.take_run, ← hlength, List.take_left]
      rw [htake, Piece.wordKind] at hkind
      rw [PieceKind.lexeme.inj hkind]
      exact .word hc hw hafter
  | number hc =>
      obtain ⟨hkind, hlength⟩ := Prod.mk.inj hx
      obtain ⟨hw, hafter⟩ := of_run_append hlength.symm
      rw [PieceKind.lexeme.inj hkind]
      refine .number (by simp) ?_ hafter
      intro d hd
      rcases List.mem_cons.mp hd with rfl | hd
      · exact hc
      · exact hw d hd
  | slashComment inner n hc ht hn =>
      obtain ⟨hkind, hlength⟩ := Prod.mk.inj hx
      obtain ⟨body, rfl, hfirst⟩ := exists_body (by decide) ht hn hlength
      rw [PieceKind.lexeme.inj hkind, hc]
      exact .slashComment hfirst
  | parenComment inner n hc ht hn =>
      obtain ⟨hkind, hlength⟩ := Prod.mk.inj hx
      obtain ⟨body, rfl, hfirst⟩ := exists_body (by decide) ht hn hlength
      rw [PieceKind.lexeme.inj hkind, hc]
      exact .parenComment hfirst
  | string hc hn =>
      obtain ⟨hkind, hlength⟩ := Prod.mk.inj hx
      obtain ⟨x, hx, htake⟩ := Piece.take_run_succ hn
      obtain rfl : x = '\'' := by simpa using hx
      rw [← hlength, List.take_left] at htake
      rw [PieceKind.lexeme.inj hkind, hc, htake]
      refine .string ?_
      intro hmem
      simpa using List.mem_takeWhile_imp hmem
  | single hb hw hd hl hs hp hq =>
      obtain ⟨hkind, hlength⟩ := Prod.mk.inj hx
      obtain rfl := List.length_eq_zero_iff.mp hlength
      rw [List.nil_append] at hl hs hp hq
      rw [PieceKind.lexeme.inj hkind]
      refine .single hb hw hd hl ?_ ?_ ?_
      · exact fun inner hc ht => Piece.closing?_eq_none_iff.mp (hs inner hc ht)
      · exact fun inner hc ht => Piece.closing?_eq_none_iff.mp (hp inner hc ht)
      · intro hc hmem
        simpa using Piece.run_eq_length_iff.mp (hq hc) _ hmem

/-- What is read is the piece at the head, and nothing else. -/
theorem reads_iff {c : Char} {w after : Text} {kind : TokenKind} :
    Reads kind (c :: w) after ↔ Piece.head c (w ++ after) = (.lexeme kind, w.length) := by
  refine ⟨fun h => ?_, reads_of_head⟩
  generalize hv : c :: w = v at h
  cases h with
  | word hc hw hafter =>
      obtain ⟨rfl, rfl⟩ := List.cons.inj hv
      have htake : (w ++ after).takeWhile Piece.isWordPart = w :=
        takeWhile_append_of_head? hw hafter
      have hhead := (Piece.Head.word (t := w ++ after) hc).head_eq
      rwa [Piece.run, htake] at hhead
  | number _ hw hafter =>
      subst hv
      have hd : c.isDigit = true := hw c List.mem_cons_self
      have htake : (w ++ after).takeWhile Char.isDigit = w :=
        takeWhile_append_of_head? (fun d hmem => hw d (List.mem_cons_of_mem c hmem)) hafter
      have hhead := (Piece.Head.number (t := w ++ after) hd).head_eq
      rwa [Piece.run, htake] at hhead
  | @slashComment body _ hfirst =>
      obtain ⟨rfl, rfl⟩ := List.cons.inj hv
      have hclose := Piece.closing?_of_first hfirst after
      have hhead := (Piece.Head.slashComment _ _ rfl rfl hclose).head_eq
      simpa using hhead
  | @parenComment body _ hfirst =>
      obtain ⟨rfl, rfl⟩ := List.cons.inj hv
      have hclose := Piece.closing?_of_first hfirst after
      have hhead := (Piece.Head.parenComment _ _ rfl rfl hclose).head_eq
      simpa using hhead
  | @string body _ hbody =>
      obtain ⟨rfl, rfl⟩ := List.cons.inj hv
      have htake : (body ++ ('\'' :: after)).takeWhile (· != '\'') = body := by
        refine takeWhile_append_of_head? ?_ (by simp)
        intro x hx
        rw [bne_iff_ne]
        rintro rfl
        exact hbody hx
      have hrun : Piece.run (· != '\'') (body ++ ('\'' :: after)) = body.length := by
        rw [Piece.run, htake]
      have hlt : Piece.run (· != '\'') (body ++ ('\'' :: after)) <
          (body ++ ('\'' :: after)).length := by
        rw [hrun]
        simp
      have hhead := (Piece.Head.string rfl hlt).head_eq
      rw [hrun] at hhead
      simpa using hhead
  | single hb hw hd hl hs hp hq =>
      obtain ⟨rfl, rfl⟩ := List.cons.inj hv
      apply Piece.Head.head_eq
      refine .single hb hw hd hl ?_ ?_ ?_
      · exact fun inner hc ht => Piece.closing?_eq_none_iff.mpr (hs inner hc ht)
      · exact fun inner hc ht => Piece.closing?_eq_none_iff.mpr (hp inner hc ht)
      · intro hc
        rw [Piece.run_eq_length_iff]
        intro x hx
        rw [bne_iff_ne]
        rintro rfl
        exact hq hc hx

theorem Reads.eq_rightBrace {text after : Text} (h : Reads .rightBrace text after) :
    text = ['}'] := by
  generalize hkind : TokenKind.rightBrace = kind at h
  cases h with
  | word => split at hkind <;> cases hkind
  | number => cases hkind
  | slashComment => cases hkind
  | parenComment => cases hkind
  | string => cases hkind
  | single =>
      rw [Piece.singleKind.eq_def] at hkind
      split at hkind <;> first | rfl | cases hkind

/-! ## The tokens in order -/

variable {t : Text} {offset : Nat} {gap : Text}

theorem le_start_of_mem {x : Token} (h : x ∈ ofTextFrom offset gap t) : offset ≤ x.start := by
  obtain ⟨xs, ys, hsplit⟩ := List.mem_iff_append.mp h
  obtain ⟨before, after, hs⟩ := exists_splits hsplit
  rw [hs.start]
  exact Nat.le_add_right _ _

theorem text_eq_of_rightBrace {xs ys : List Token} {x : Token}
    (h : ofTextFrom offset gap t = xs ++ x :: ys) (hkind : x.kind = .rightBrace) :
    x.text = ['}'] := by
  obtain ⟨before, after, hs⟩ := exists_splits h
  obtain ⟨c, w, htext, hhead⟩ := hs.lexeme
  rw [hkind] at hhead
  rw [htext]
  exact (reads_of_head hhead).eq_rightBrace

theorem pairwise_ofTextFrom (offset : Nat) (gap t : Text) :
    (ofTextFrom offset gap t).Pairwise fun x y => x.stop ≤ y.start := by
  induction t using Piece.lexeme_induction generalizing offset gap with
  | nil => exact .nil
  | layout c t kind n hx hk ih =>
      rw [ofTextFrom_layout hx hk]
      exact ih _ _
  | lexeme c t k n hx ih =>
      rw [ofTextFrom_lexeme hx, List.pairwise_cons]
      exact ⟨fun y hy => le_start_of_mem hy, ih _ _⟩

/-- The tokens cut the text without a gap but for layout, each of them the longest match at its
start. -/
structure IsTokenization (t : Text) (ts : List Token) : Prop where
  ordered : ts.Pairwise fun x y => x.stop ≤ y.start
  token : ∀ xs x ys, ts = xs ++ x :: ys → ∃ after,
    t = xs.flatMap withGap ++ x.gap ++ x.text ++ after ∧ x.text ≠ [] ∧
      x.start = Text.byteSize (xs.flatMap withGap ++ x.gap) ∧
      Text.LayoutBefore (x.text ++ after) x.gap ∧
      Piece.Leads (.lexeme x.kind) x.text after ∧ Reads x.kind x.text after
  rest : ∃ last, t = ts.flatMap withGap ++ last ∧ Text.LayoutBefore [] last

/-- There is one way to cut a text into longest matches, and its lexemes are the tokens, which lose
nothing of the text. -/
theorem ofText_isTokenization (t : Text) :
    (∀ ps, Piece.CutsInto t ps ↔ ps = Piece.ofText t) ∧ IsTokenization t (ofText t) := by
  refine ⟨fun ps => Piece.cutsInto_iff, pairwise_ofTextFrom 0 [] t, ?_, ?_⟩
  · intro xs x ys hsplit
    obtain ⟨before, after, hs⟩ := exists_splits hsplit
    obtain ⟨c, w, htext, hhead⟩ := hs.lexeme
    have hbefore : xs.flatMap withGap ++ x.gap = before := by
      rw [← hs.front, ← hs.between, between_ofTextFrom]
      rfl
    have hlead := Piece.leads_head c (w ++ after)
    rw [hhead, List.take_left, List.drop_left, ← htext] at hlead
    refine ⟨after, ?_, ?_, ?_, hs.layout .nil, hlead, ?_⟩
    · rw [hbefore, List.append_assoc]
      exact hs.text
    · simp [htext]
    · rw [hbefore, hs.start, Nat.zero_add]
    · rw [htext]
      exact reads_of_head hhead
  · exact ⟨layoutAfter [] t, (between_ofTextFrom 0 [] t).symm, layoutBefore_layoutAfter .nil⟩

end Token

end RpcDispatch
