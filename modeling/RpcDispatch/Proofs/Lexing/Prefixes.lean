import RpcDispatch.Proofs.Lexing.Tokens

/-!
# Cutting a text off

A piece is read without looking at what follows it, except to learn that a mark is not closed. So a
text that is cut off behind one of its pieces has the same pieces up to there, and each token can be
looked at with the text before and behind it.
-/

namespace RpcDispatch

/-- A text has at most one cut at an offset. -/
theorem Text.append_inj_of_byteSize {s s' t t' : Text} (h : s ++ t = s' ++ t')
    (hsize : byteSize s = byteSize s') : s = s' ∧ t = t' := by
  induction s generalizing s' with
  | nil =>
      cases s' with
      | nil => exact ⟨rfl, h⟩
      | cons c s' =>
          have hpos := c.utf8Size_pos
          rw [byteSize_nil, byteSize_cons] at hsize
          omega
  | cons c s ih =>
      cases s' with
      | nil =>
          have hpos := c.utf8Size_pos
          rw [byteSize_nil, byteSize_cons] at hsize
          omega
      | cons c' s' =>
          obtain ⟨rfl, hrest⟩ := List.cons.inj h
          rw [byteSize_cons, byteSize_cons, Nat.add_left_cancel_iff] at hsize
          obtain ⟨rfl, rfl⟩ := ih hrest hsize
          exact ⟨rfl, rfl⟩

namespace Piece

theorem run_of_append {p : Char → Bool} {t r : Text} (h : run p (t ++ r) ≤ t.length) :
    run p t = run p (t ++ r) := by
  induction t with
  | nil =>
      have hr : run p r = 0 := by simpa using h
      rw [List.nil_append, hr]
      rfl
  | cons c t ih =>
      by_cases hc : p c = true
      · have ht : run p (t ++ r) ≤ t.length := by simpa [run, hc] using h
        simpa [run, hc] using ih ht
      · simp [run, hc]

theorem two_le_of_closing? {a b : Char} {t : Text} {n : Nat} (h : closing? a b t = some n) :
    2 ≤ n := by
  induction t generalizing n with
  | nil => simp [closing?] at h
  | cons x t ih =>
      cases t with
      | nil => simp [closing?] at h
      | cons y t =>
          rw [closing?] at h
          split at h
          next =>
            obtain rfl := Option.some.inj h
            exact Nat.le_refl 2
          next =>
            obtain ⟨m, hm, rfl⟩ := Option.map_eq_some_iff.mp h
            have hle := ih hm
            omega

theorem closing?_of_append {a b : Char} {t r : Text} {n : Nat}
    (h : closing? a b (t ++ r) = some n) (hn : n ≤ t.length) : closing? a b t = some n := by
  have htwo := two_le_of_closing? h
  induction t generalizing n with
  | nil =>
      rw [List.length_nil] at hn
      omega
  | cons x t ih =>
      cases t with
      | nil =>
          rw [List.length_singleton] at hn
          omega
      | cons y t =>
          simp only [closing?, List.cons_append] at h ⊢
          split at h
          next hxy => simpa [hxy] using h
          next hxy =>
            obtain ⟨m, hm, rfl⟩ := Option.map_eq_some_iff.mp h
            have hlength : m ≤ (y :: t).length := by
              simp only [List.length_cons] at hn ⊢
              omega
            rw [if_neg hxy, ih hm hlength (two_le_of_closing? hm)]
            rfl

theorem closing?_eq_none_of_append {a b : Char} {t r : Text} (h : closing? a b (t ++ r) = none) :
    closing? a b t = none := by
  rw [Option.eq_none_iff_forall_ne_some]
  intro n hn
  rw [closing?_append hn r] at h
  cases h

/-- A comment that ends in `t` is closed there. -/
theorem exists_inner {b d : Char} {t r inner : Text} {n : Nat} (ht : t ++ r = d :: inner)
    (hn : closing? d b inner = some n) (h : n + 1 ≤ t.length) :
    ∃ inner', t = d :: inner' ∧ closing? d b inner' = some n := by
  cases t with
  | nil => simp at h
  | cons e t =>
      obtain ⟨rfl, rfl⟩ := List.cons.inj ht
      exact ⟨t, rfl, closing?_of_append hn (Nat.le_of_succ_le_succ h)⟩

/-- A piece that ends in `t` is there whatever follows `t`. -/
theorem head_of_append {c : Char} {t r : Text} (h : (head c (t ++ r)).2 ≤ t.length) :
    head c t = head c (t ++ r) := by
  apply Head.head_eq
  have hs := head_spec c (t ++ r)
  generalize head c (t ++ r) = x at h hs
  cases hs with
  | blank hb =>
      rw [← run_of_append h]
      exact .blank hb
  | word hw =>
      have htake : (t ++ r).takeWhile isWordPart = t.takeWhile isWordPart := by
        rw [← take_run, ← take_run, ← run_of_append h,
          List.take_append_of_le_length (run_le_length _ _)]
      rw [htake, ← run_of_append h]
      exact .word hw
  | number hd =>
      rw [← run_of_append h]
      exact .number hd
  | lineComment hc hl =>
      have ht : t.head? = some '/' := by
        cases t with
        | nil =>
            obtain ⟨u, rfl⟩ := List.head?_eq_some_iff.mp hl
            simp [run, isLineEnd] at h
        | cons d t => exact hl
      rw [← run_of_append h]
      exact .lineComment hc ht
  | slashComment inner n hc ht hn =>
      obtain ⟨inner', ht', hn'⟩ := exists_inner ht hn h
      exact .slashComment inner' n hc ht' hn'
  | parenComment inner n hc ht hn =>
      obtain ⟨inner', ht', hn'⟩ := exists_inner ht hn h
      exact .parenComment inner' n hc ht' hn'
  | string hc hn =>
      have hrun := run_of_append (Nat.le_of_succ_le h)
      rw [← hrun] at h ⊢
      exact .string hc h
  | single hb hw hd hl hs hp hq =>
      refine .single hb hw hd ?_ ?_ ?_ ?_
      · intro hc ht
        apply hl hc
        rw [List.head?_append, ht]
        rfl
      · intro inner hc ht
        have hnone := hs (inner ++ r) hc (by rw [ht, List.cons_append])
        exact closing?_eq_none_of_append hnone
      · intro inner hc ht
        have hnone := hp (inner ++ r) hc (by rw [ht, List.cons_append])
        exact closing?_eq_none_of_append hnone
      · intro hc
        rw [run_eq_length_iff]
        intro d hd
        exact run_eq_length_iff.mp (hq hc) d (List.mem_append_left r hd)

/-- The piece at the head stays as it is when the text is cut off somewhere behind it. -/
theorem head_take_append {c : Char} {t u r : Text} {kind : PieceKind} {n : Nat}
    (h : head c t = (kind, n)) (hu : t.drop n = u ++ r) : head c (t.take n ++ u) = (kind, n) := by
  have ht : (t.take n ++ u) ++ r = t := by
    rw [List.append_assoc, ← hu, List.take_append_drop]
  have hn : n ≤ t.length := by
    have hle := head_snd_le c t
    rwa [h] at hle
  have hle : (head c ((t.take n ++ u) ++ r)).2 ≤ (t.take n ++ u).length := by
    rw [ht, h, List.length_append, List.length_take_of_le hn]
    exact Nat.le_add_right n u.length
  rw [head_of_append hle, ht, h]

theorem ofText_cons_take {c : Char} {t u r : Text} {kind : PieceKind} {n : Nat}
    (h : head c t = (kind, n)) (hu : t.drop n = u ++ r) :
    ofText (c :: (t.take n ++ u)) = ⟨kind, c :: t.take n⟩ :: ofText u := by
  have hle := head_snd_le c t
  rw [h] at hle
  rw [ofText_cons, head_take_append h hu, List.take_left' (List.length_take_of_le hle),
    List.drop_left' (List.length_take_of_le hle)]

/-- Some pieces of a text are the pieces of their own text. -/
theorem ofText_of_append {t : Text} {ps qs : List Piece} (h : ofText t = ps ++ qs) :
    ofText (ps.flatMap text) = ps ∧ ofText (qs.flatMap text) = qs := by
  induction t using ofText_induction generalizing ps with
  | nil =>
      obtain ⟨rfl, rfl⟩ := List.append_eq_nil_iff.mp h.symm
      exact ⟨rfl, rfl⟩
  | cons c t ih =>
      rw [ofText_cons] at h
      cases ps with
      | nil =>
          rw [List.nil_append] at h
          rw [← h, ← ofText_cons, flatMap_text_ofText]
          exact ⟨rfl, rfl⟩
      | cons p ps =>
          rw [List.cons_append] at h
          obtain ⟨rfl, hrest⟩ := List.cons.inj h
          obtain ⟨hps, hqs⟩ := ih hrest
          have htext := congrArg (List.flatMap text) hrest
          rw [flatMap_text_ofText, List.flatMap_append] at htext
          refine ⟨?_, hqs⟩
          rw [List.flatMap_cons, List.cons_append,
            ofText_cons_take (Prod.eta (head c t)).symm htext, hps]

end Piece

/-! ## Layout -/

/-- Blanks and line comments, where `rest` follows: a line comment goes up to a line end or to the
end of the text. -/
inductive Text.LayoutBefore (rest : Text) : Text → Prop
  | nil : LayoutBefore rest []
  | blank {c : Char} {g : Text} : Piece.isBlank c = true → LayoutBefore rest g →
      LayoutBefore rest (c :: g)
  | lineComment {w g : Text} : (∀ c ∈ w, Piece.isLineEnd c = false) →
      (∀ c ∈ (g ++ rest).head?, Piece.isLineEnd c = true) → LayoutBefore rest g →
      LayoutBefore rest ('/' :: '/' :: (w ++ g))

namespace Text.LayoutBefore

theorem append {g g' rest : Text} (h : LayoutBefore (g' ++ rest) g) (h' : LayoutBefore rest g') :
    LayoutBefore rest (g ++ g') := by
  induction h with
  | nil => exact h'
  | blank hc _ ih => exact .blank hc ih
  | lineComment hw hend _ ih =>
      rw [← List.append_assoc] at hend
      rw [List.cons_append, List.cons_append, List.append_assoc]
      exact .lineComment hw hend ih

theorem of_blanks {s rest : Text} (hs : ∀ c ∈ s, Piece.isBlank c = true) :
    LayoutBefore rest s := by
  induction s with
  | nil => exact .nil
  | cons c s ih =>
      have hrest : LayoutBefore rest s := ih fun d hd => hs d (List.mem_cons_of_mem c hd)
      exact .blank (hs c List.mem_cons_self) hrest

/-- A piece that is no lexeme is layout. -/
theorem of_head {c : Char} {t : Text} {kind : PieceKind} {n : Nat}
    (h : Piece.head c t = (kind, n)) (hk : ∀ k, kind ≠ .lexeme k) :
    LayoutBefore (t.drop n) (c :: t.take n) := by
  cases kind with
  | lexeme k => exact absurd rfl (hk k)
  | blank => exact of_blanks (Piece.blanks_of_head_eq h)
  | lineComment =>
      have hs := Piece.head_spec c t
      rw [h] at hs
      cases hs with
      | lineComment hc ht =>
          obtain ⟨u, rfl⟩ := List.head?_eq_some_iff.mp ht
          rw [hc, Piece.take_run, Piece.drop_run]
          have htake : ('/' :: u).takeWhile (fun x => !Piece.isLineEnd x) =
              '/' :: (u.takeWhile (fun x => !Piece.isLineEnd x) ++ []) := by
            rw [List.append_nil]
            rfl
          rw [htake]
          refine .lineComment ?_ ?_ .nil
          · intro d hd
            simpa using List.mem_takeWhile_imp hd
          · intro d hd
            have hnot := List.head?_dropWhile_not (fun x => !Piece.isLineEnd x) ('/' :: u)
            rw [List.nil_append, Option.mem_def] at hd
            rw [hd] at hnot
            simpa using hnot

theorem append_head {c : Char} {t gap : Text} {kind : PieceKind} {n : Nat}
    (hg : LayoutBefore (c :: t) gap) (h : Piece.head c t = (kind, n))
    (hk : ∀ k, kind ≠ .lexeme k) : LayoutBefore (t.drop n) (gap ++ c :: t.take n) := by
  refine append ?_ (of_head h hk)
  rwa [List.cons_append, List.take_append_drop]

end Text.LayoutBefore

/-! ## A token among others -/

namespace Token

variable {t : Text} {offset : Nat} {gap : Text}

/-- Behind the last token there is only layout. -/
theorem layoutBefore_layoutAfter (hg : Text.LayoutBefore t gap) :
    Text.LayoutBefore [] (layoutAfter gap t) := by
  induction t using Piece.lexeme_induction generalizing gap with
  | nil => exact hg
  | layout c t kind n hx hk ih =>
      rw [layoutAfter_layout hx hk]
      exact ih (hg.append_head hx hk)
  | lexeme c t k n hx ih =>
      rw [layoutAfter_lexeme hx]
      exact ih .nil

/-- The tokens before a token are those of the text before it, and the tokens behind it those of the
text behind it. -/
structure Splits (offset : Nat) (gap t : Text) (xs : List Token) (x : Token) (ys : List Token)
    (before after : Text) : Prop where
  text : t = before ++ (x.text ++ after)
  front : ofTextFrom offset gap before = xs
  between : layoutAfter gap before = x.gap
  layout : Text.LayoutBefore t gap → Text.LayoutBefore (x.text ++ after) x.gap
  start : x.start = offset + Text.byteSize before
  lexeme : ∃ c w, x.text = c :: w ∧ Piece.head c (w ++ after) = (.lexeme x.kind, w.length)
  back : ofTextFrom x.stop [] after = ys

namespace Splits

variable {c : Char} {kind : PieceKind} {n : Nat} {xs ys : List Token} {x : Token} {u v : Text}

theorem take_drop_append (hx : Piece.head c t = (kind, n)) (u : Text) :
    (t.take n ++ u).take n = t.take n ∧ (t.take n ++ u).drop n = u := by
  have hle := Piece.head_snd_le c t
  rw [hx] at hle
  exact ⟨List.take_left' (List.length_take_of_le hle), List.drop_left' (List.length_take_of_le hle)⟩

theorem text_cons (hu : t.drop n = u ++ v) : c :: t = (c :: (t.take n ++ u)) ++ v := by
  rw [List.cons_append, List.append_assoc, ← hu, List.take_append_drop]

theorem start_cons (hu : x.start = offset + Text.byteSize (c :: t.take n) + Text.byteSize u) :
    x.start = offset + Text.byteSize (c :: (t.take n ++ u)) := by
  rw [hu, ← List.cons_append, Text.byteSize_append, Nat.add_assoc]

/-- Layout in front of a text belongs to what stands before the token. -/
theorem cons_layout (hx : Piece.head c t = (kind, n)) (hk : ∀ k, kind ≠ .lexeme k)
    (hs : Splits (offset + Text.byteSize (c :: t.take n)) (gap ++ c :: t.take n) (t.drop n)
      xs x ys u v) : Splits offset gap (c :: t) xs x ys (c :: (t.take n ++ u)) v := by
  obtain ⟨htake, hdrop⟩ := take_drop_append hx u
  have hu := Piece.head_take_append hx hs.text
  refine ⟨text_cons hs.text, ?_, ?_, ?_, start_cons hs.start, hs.lexeme, hs.back⟩
  · rw [ofTextFrom_layout hu hk, htake, hdrop]
    exact hs.front
  · rw [layoutAfter_layout hu hk, htake, hdrop]
    exact hs.between
  · exact fun hg => hs.layout (hg.append_head hx hk)

/-- A lexeme in front of a text is one token more before the token. -/
theorem cons_lexeme {k : TokenKind} (hx : Piece.head c t = (.lexeme k, n))
    (hs : Splits (offset + Text.byteSize (c :: t.take n)) [] (t.drop n) xs x ys u v) :
    Splits offset gap (c :: t) (⟨k, gap, c :: t.take n, offset⟩ :: xs) x ys
      (c :: (t.take n ++ u)) v := by
  obtain ⟨htake, hdrop⟩ := take_drop_append hx u
  have hu := Piece.head_take_append hx hs.text
  refine ⟨text_cons hs.text, ?_, ?_, ?_, start_cons hs.start, hs.lexeme, hs.back⟩
  · rw [ofTextFrom_lexeme hu, htake, hdrop, hs.front]
  · rw [layoutAfter_lexeme hu, hdrop]
    exact hs.between
  · exact fun _ => hs.layout .nil

/-- The token at the head of a text stands right behind the layout that has been passed. -/
theorem head {k : TokenKind} (hx : Piece.head c t = (.lexeme k, n)) :
    Splits offset gap (c :: t) [] ⟨k, gap, c :: t.take n, offset⟩
      (ofTextFrom (offset + Text.byteSize (c :: t.take n)) [] (t.drop n)) [] (t.drop n) := by
  have htext : (c :: t.take n) ++ t.drop n = c :: t := by
    rw [List.cons_append, List.take_append_drop]
  have hle := Piece.head_snd_le c t
  rw [hx] at hle
  refine ⟨htext.symm, rfl, rfl, ?_, rfl, ⟨c, t.take n, rfl, ?_⟩, rfl⟩
  · intro hg
    rwa [htext]
  · rw [List.take_append_drop, hx, List.length_take_of_le hle]

end Splits

def lexeme (x : Token) : Piece := ⟨.lexeme x.kind, x.text⟩

/-- A token splits the pieces of a text, and with them the text. -/
theorem exists_cut {xs ys : List Token} {x : Token}
    (h : ofTextFrom offset gap t = xs ++ x :: ys) :
    ∃ before after, Splits offset gap t xs x ys before after ∧
      Piece.ofText t = Piece.ofText before ++ x.lexeme :: Piece.ofText after := by
  induction t using Piece.lexeme_induction generalizing offset gap xs with
  | nil => simp at h
  | layout c t kind n hx hk ih =>
      rw [ofTextFrom_layout hx hk] at h
      obtain ⟨u, v, hs, hpieces⟩ := ih h
      refine ⟨_, _, hs.cons_layout hx hk, ?_⟩
      rw [Piece.ofText_cons, hx, hpieces, Piece.ofText_cons_take hx hs.text]
      rfl
  | lexeme c t k n hx ih =>
      rw [ofTextFrom_lexeme hx] at h
      cases xs with
      | nil =>
          obtain ⟨rfl, rfl⟩ := List.cons.inj h
          refine ⟨_, _, Splits.head hx, ?_⟩
          rw [Piece.ofText_cons, hx]
          rfl
      | cons y xs =>
          obtain ⟨rfl, hrest⟩ := List.cons.inj h
          obtain ⟨u, v, hs, hpieces⟩ := ih hrest
          refine ⟨_, _, hs.cons_lexeme hx, ?_⟩
          rw [Piece.ofText_cons, hx, hpieces, Piece.ofText_cons_take hx hs.text]
          rfl

/-- Where the tokens are parted, the text is parted too. -/
theorem exists_splits {xs ys : List Token} {x : Token}
    (h : ofTextFrom offset gap t = xs ++ x :: ys) :
    ∃ before after, Splits offset gap t xs x ys before after := by
  obtain ⟨before, after, hs, -⟩ := exists_cut h
  exact ⟨before, after, hs⟩

/-- The text before a token is spelled out by the tokens before it and the layout behind them. -/
theorem Splits.between_eq {xs ys : List Token} {x : Token} {before after : Text}
    (hs : Splits offset [] t xs x ys before after) : Token.between xs x = before := by
  have hspelled := between_ofTextFrom offset [] before
  rwa [hs.front, hs.between] at hspelled

theorem ofPieces_append (offset : Nat) (gap : Text) (ps qs : List Piece) :
    ofPieces offset gap (ps ++ qs) = ofPieces offset gap ps ++
      ofPieces (offset + Text.byteSize (ps.flatMap Piece.text)) (layoutAfter.after gap ps) qs := by
  induction ps generalizing offset gap with
  | nil => rfl
  | cons p ps ih =>
      obtain ⟨kind, text⟩ := p
      rw [List.flatMap_cons, Text.byteSize_append, ← Nat.add_assoc]
      cases kind with
      | lexeme k => exact congrArg _ (ih _ _)
      | blank => exact ih _ _
      | lineComment => exact ih _ _

/-- Cut off behind a token, a text has the tokens up to there. -/
theorem ofTextFrom_through {xs ys : List Token} {x : Token}
    (h : ofTextFrom offset [] t = xs ++ x :: ys) :
    ∃ after, t = (between xs x ++ x.text) ++ after ∧
      x.stop = offset + Text.byteSize (between xs x ++ x.text) ∧
      ofTextFrom offset [] (between xs x ++ x.text) = xs ++ [x] ∧
      ys = ofTextFrom x.stop [] after := by
  obtain ⟨before, after, hs, hpieces⟩ := exists_cut h
  have hbetween := hs.between_eq
  rw [List.append_cons] at hpieces
  have hthrough := (Piece.ofText_of_append hpieces).1
  rw [List.flatMap_append, Piece.flatMap_text_ofText, List.flatMap_singleton] at hthrough
  refine ⟨after, ?_, ?_, ?_, hs.back.symm⟩
  · rw [hbetween, List.append_assoc, hs.text]
  · rw [stop, hs.start, hbetween, Text.byteSize_append, Nat.add_assoc]
  · have hfront := hs.front
    have hgap := hs.between
    rw [ofTextFrom] at hfront
    rw [layoutAfter] at hgap
    rw [hbetween, ofTextFrom]
    change ofPieces offset [] (Piece.ofText (before ++ x.lexeme.text)) = xs ++ [x]
    rw [hthrough, ofPieces_append, hfront, hgap, Piece.flatMap_text_ofText, ← hs.start]
    rfl

end Token

end RpcDispatch
