import RpcDispatch.Proofs.Lexing.Prefixes

/-!
# Slices of a text

A range of bytes is a slice of a text if it begins and ends between two characters. Cut out from the
beginning of one token to the end of another, a slice has the tokens that stand there, moved to its
front.
-/

namespace RpcDispatch

/-! ## Ranges of bytes -/

namespace Text

variable {t u v : Text}

theorem splitAt?_append (u v : Text) : splitAt? (u ++ v) (byteSize u) = some (u, v) := by
  induction u with
  | nil => cases v <;> rfl
  | cons c u ih =>
      have hpos := c.utf8Size_pos
      obtain ⟨n, hn⟩ : ∃ n, byteSize (c :: u) = n + 1 :=
        Nat.exists_eq_succ_of_ne_zero (by rw [byteSize_cons]; omega)
      have hrest : n + 1 - c.utf8Size = byteSize u := by
        rw [← hn, byteSize_cons, Nat.add_sub_cancel_left]
      have hle : c.utf8Size ≤ n + 1 := by
        rw [← hn, byteSize_cons]
        exact Nat.le_add_right _ _
      rw [hn, List.cons_append, splitAt?, if_pos hle, hrest, ih]
      rfl

theorem splitAt?_eq_some {n : Nat} :
    splitAt? t n = some (u, v) ↔ t = u ++ v ∧ byteSize u = n := by
  refine ⟨fun h => ?_, ?_⟩
  · induction t generalizing n u with
    | nil =>
        cases n with
        | zero =>
            obtain ⟨rfl, rfl⟩ := Prod.mk.inj (Option.some.inj h)
            exact ⟨rfl, rfl⟩
        | succ n => cases h
    | cons c t ih =>
        cases n with
        | zero =>
            obtain ⟨rfl, rfl⟩ := Prod.mk.inj (Option.some.inj h)
            exact ⟨rfl, rfl⟩
        | succ n =>
            rw [splitAt?, Option.ite_none_right_eq_some, Option.map_eq_some_iff] at h
            obtain ⟨hle, ⟨w, v'⟩, hsplit, hw⟩ := h
            obtain ⟨rfl, rfl⟩ := Prod.mk.inj hw
            obtain ⟨rfl, hsize⟩ := ih hsplit
            refine ⟨rfl, ?_⟩
            rw [byteSize_cons]
            omega
  · rintro ⟨rfl, rfl⟩
    exact splitAt?_append u v

/-- A slice exists exactly if both offsets are boundaries, in this order. -/
theorem slice?_eq_some {a b : Nat} :
    slice? t a b = some u ↔
      ∃ before after, t = before ++ (u ++ after) ∧ byteSize before = a ∧
        byteSize (before ++ u) = b := by
  have hslice : slice? t a b = some u ↔ a ≤ b ∧
      ∃ before behind, splitAt? t a = some (before, behind) ∧
        ∃ after, splitAt? behind (b - a) = some (u, after) := by
    rw [slice?]
    by_cases hle : a ≤ b
    · have hguard : guard (a ≤ b) = some () := if_pos hle
      rw [hguard]
      simp [hle, Option.bind_eq_some_iff]
    · have hguard : guard (a ≤ b) = none := if_neg hle
      rw [hguard]
      simp [hle]
  simp only [hslice, splitAt?_eq_some, byteSize_append]
  constructor
  · rintro ⟨hle, before, _, ⟨rfl, hbefore⟩, after, rfl, hu⟩
    exact ⟨before, after, rfl, hbefore, by omega⟩
  · rintro ⟨before, after, rfl, hbefore, hu⟩
    exact ⟨by omega, before, u ++ after, ⟨rfl, hbefore⟩, after, rfl, by omega⟩

end Text

/-! ## Tokens that stand further on -/

namespace Token

def movedBy (n : Nat) (x : Token) : Token := { x with start := n + x.start }

variable {n : Nat} {x : Token}

@[simp] theorem kind_movedBy : (x.movedBy n).kind = x.kind := rfl

@[simp] theorem gap_movedBy : (x.movedBy n).gap = x.gap := rfl

@[simp] theorem text_movedBy : (x.movedBy n).text = x.text := rfl

@[simp] theorem start_movedBy : (x.movedBy n).start = n + x.start := rfl

@[simp] theorem stop_movedBy : (x.movedBy n).stop = n + x.stop := Nat.add_assoc _ _ _

/-- The lexer only adds to the offset that it is given. -/
theorem ofTextFrom_movedBy (n offset : Nat) (gap t : Text) :
    ofTextFrom (n + offset) gap t = (ofTextFrom offset gap t).map (movedBy n) := by
  induction t using Piece.lexeme_induction generalizing offset gap with
  | nil => rfl
  | layout c t kind m hx hk ih =>
      rw [ofTextFrom_layout hx hk, ofTextFrom_layout hx hk, Nat.add_assoc, ih]
  | lexeme c t k m hx ih =>
      rw [ofTextFrom_lexeme hx, ofTextFrom_lexeme hx, List.map_cons, Nat.add_assoc, ih]
      rfl

/-- The text of a token is a slice. -/
theorem slice?_of_mem {t : Text} {x : Token} (h : x ∈ ofText t) :
    t.slice? x.start x.stop = some x.text := by
  obtain ⟨xs, ys, hsplit⟩ := List.append_of_mem h
  obtain ⟨before, after, hs⟩ := exists_splits hsplit
  refine Text.slice?_eq_some.mpr ⟨before, after, hs.text, ?_, ?_⟩
  · rw [hs.start, Nat.zero_add]
  · rw [stop, hs.start, Text.byteSize_append, Nat.zero_add]

/-- A token stands between two characters. -/
theorem exists_append_of_mem {t : Text} {x : Token} (h : x ∈ ofText t) :
    ∃ u v, t = u ++ v ∧ x.start = Text.byteSize u := by
  obtain ⟨xs, ys, hsplit⟩ := List.append_of_mem h
  obtain ⟨before, after, hs⟩ := exists_splits hsplit
  exact ⟨before, _, hs.text, hs.start.trans (Nat.zero_add _)⟩

/-- The text between two tokens is a slice. -/
theorem slice?_between {t : Text} {xs ys zs : List Token} {x y : Token}
    (h : ofText t = xs ++ x :: (ys ++ y :: zs)) :
    t.slice? x.stop y.start = some (between ys y) := by
  obtain ⟨before, behind, hs⟩ := exists_splits h
  obtain ⟨middle, after, hy⟩ := exists_splits hs.back
  have hstop : x.stop = Text.byteSize (before ++ x.text) := by
    rw [stop, hs.start, Text.byteSize_append, Nat.zero_add]
  refine Text.slice?_eq_some.mpr ⟨before ++ x.text, y.text ++ after, ?_, hstop.symm, ?_⟩
  · rw [hs.text, hy.text, hy.between_eq, List.append_assoc]
  · rw [hy.between_eq, hy.start, hstop, Text.byteSize_append (before ++ x.text)]

/-- The text behind a token is a slice, and has the tokens that follow. -/
theorem exists_behind {t : Text} {xs ys : List Token} {x : Token}
    (h : ofText t = xs ++ x :: ys) :
    ∃ rest, t.slice? x.stop (Text.byteSize t) = some rest ∧
      (ofText rest).map (movedBy x.stop) = ys := by
  obtain ⟨before, rest, hs⟩ := exists_splits h
  refine ⟨rest, Text.slice?_eq_some.mpr ⟨before ++ x.text, [], ?_, ?_, ?_⟩, ?_⟩
  · rw [List.append_nil, List.append_assoc]
    exact hs.text
  · rw [stop, hs.start, Text.byteSize_append, Nat.zero_add]
  · rw [hs.text, List.append_assoc]
  · rw [ofText_eq, ← ofTextFrom_movedBy]
    exact hs.back

/-- From one token to another, a text has the tokens that stand there. -/
theorem exists_slice {t : Text} {xs ys zs : List Token} {x y : Token}
    (h : ofText t = xs ++ x :: (ys ++ y :: zs)) :
    ∃ slice, t.slice? x.start y.stop = some slice ∧
      slice = x.text ++ (between ys y ++ y.text) ∧
      (ofText slice).map (movedBy x.start) = { x with gap := [] } :: (ys ++ [y]) := by
  obtain ⟨before, behind, hs⟩ := exists_splits h
  obtain ⟨c, w, htext, hhead⟩ := hs.lexeme
  obtain ⟨after, hthrough, hstop, htokens, -⟩ := ofTextFrom_through hs.back
  refine ⟨x.text ++ (between ys y ++ y.text), ?_, rfl, ?_⟩
  · refine Text.slice?_eq_some.mpr ⟨before, after, ?_, ?_, ?_⟩
    · rw [hs.text, hthrough]
      simp only [List.append_assoc]
    · rw [hs.start, Nat.zero_add]
    · rw [hstop, stop, hs.start]
      simp only [Text.byteSize_append]
      omega
  · -- the first token is read in the slice as in the text, whatever is cut off behind
    have hle : (Piece.head c (w ++ (between ys y ++ y.text) ++ after)).2 ≤
        (w ++ (between ys y ++ y.text)).length := by
      rw [List.append_assoc, ← hthrough, hhead]
      simp
    have hsame := Piece.head_of_append hle
    rw [List.append_assoc, ← hthrough, hhead] at hsame
    have hfirst : ofText (x.text ++ (between ys y ++ y.text)) = ⟨x.kind, [], x.text, 0⟩ ::
        ofTextFrom (Text.byteSize x.text) [] (between ys y ++ y.text) := by
      rw [ofText_eq, htext, List.cons_append, ofTextFrom_lexeme hsame, List.take_left,
        List.drop_left, Nat.zero_add]
    rw [hfirst, List.map_cons, ← ofTextFrom_movedBy]
    exact congrArg₂ _ rfl htokens

end Token

end RpcDispatch
