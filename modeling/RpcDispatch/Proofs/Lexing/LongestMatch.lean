import RpcDispatch.Proofs.Lexing.Prefixes

/-!
# Cutting by the longest match

Each kind of piece has a pattern. The piece at the head of a text is its longest start that matches
one of them; where two patterns match the same start, their rank decides. Going on like this there
is exactly one way to cut a text, and it is the one computed.
-/

namespace RpcDispatch.Piece

/-! ## The patterns -/

/-- The pattern `([^*]|\*+[^*z])*\*+z`: a block comment that `z` ends, behind its opening mark. -/
inductive CommentRest (z : Char) : Text → Prop
  | other {c : Char} {w : Text} : c ≠ '*' → CommentRest z w → CommentRest z (c :: w)
  | stars {n : Nat} {c : Char} {w : Text} : c ≠ '*' → c ≠ z → CommentRest z w →
      CommentRest z (List.replicate (n + 1) '*' ++ c :: w)
  | close {n : Nat} : CommentRest z (List.replicate (n + 1) '*' ++ [z])

inductive Matches : PieceKind → Text → Prop
  | blank {w : Text} : w ≠ [] → (∀ c ∈ w, isBlank c = true) → Matches .blank w
  | lineComment {w : Text} : (∀ c ∈ w, isLineEnd c = false) →
      Matches .lineComment ('/' :: '/' :: w)
  | defineFunction {w : Text} : Text.foldCase w = keyword → Matches (.lexeme .defineFunction) w
  | slashComment {w : Text} : CommentRest '/' w →
      Matches (.lexeme .slashComment) ('/' :: '*' :: w)
  | parenComment {w : Text} : CommentRest ')' w →
      Matches (.lexeme .parenComment) ('(' :: '*' :: w)
  | leftParen : Matches (.lexeme .leftParen) ['(']
  | rightParen : Matches (.lexeme .rightParen) [')']
  | leftBrace : Matches (.lexeme .leftBrace) ['\x7b']
  | rightBrace : Matches (.lexeme .rightBrace) ['\x7d']
  | leftBracket : Matches (.lexeme .leftBracket) ['[']
  | rightBracket : Matches (.lexeme .rightBracket) [']']
  | comma : Matches (.lexeme .comma) [',']
  | string {w : Text} : '\'' ∉ w → Matches (.lexeme .string) ('\'' :: (w ++ ['\'']))
  | number {w : Text} : w ≠ [] → (∀ c ∈ w, c.isDigit = true) → Matches (.lexeme .number) w
  | ident {c : Char} {w : Text} : isWordStart c = true → (∀ d ∈ w, isWordPart d = true) →
      Matches (.lexeme .ident) (c :: w)
  | other {c : Char} : isBlank c = false → Matches (.lexeme .other) [c]

/-- Any pattern goes before that of a single character, and the keyword before other words. -/
def rank : PieceKind → Nat
  | .lexeme .other => 0
  | .lexeme .ident => 1
  | _ => 2

/-- Of all matches at the head of `w ++ rest`, `w` is the longest, and of all kinds that match it
`kind` has the highest rank. -/
structure Leads (kind : PieceKind) (w rest : Text) : Prop where
  isMatch : Matches kind w
  longest : ∀ kind' w' rest', w' ++ rest' = w ++ rest → Matches kind' w' → w'.length ≤ w.length
  highest : ∀ kind', Matches kind' w → kind' ≠ kind → rank kind' < rank kind

inductive CutsInto : Text → List Piece → Prop
  | nil : CutsInto [] []
  | cons {kind : PieceKind} {w rest : Text} {ps : List Piece} : Leads kind w rest →
      CutsInto rest ps → CutsInto (w ++ rest) (⟨kind, w⟩ :: ps)

/-! ## The end of a block comment -/

/-- A star in front belongs to the stars behind it. -/
theorem CommentRest.star {z y : Char} {w : Text} (hy : y ≠ z) (h : CommentRest z (y :: w)) :
    CommentRest z ('*' :: y :: w) := by
  generalize hv : y :: w = v at h
  cases h with
  | @other c u hc hu =>
      obtain ⟨rfl, rfl⟩ := List.cons.inj hv
      exact .stars (n := 0) hc hy hu
  | @stars n c u hc hz hu => exact .stars (n := n + 1) hc hz hu
  | @close n => exact .close (n := n + 1)

theorem closing?_cons_cons (a b x y : Char) (t : Text) : closing? a b (x :: y :: t) =
    if x = a ∧ y = b then some 2 else (closing? a b (y :: t)).map (· + 1) := by
  simp [closing?]

theorem commentRest_of_closing? {z : Char} {t : Text} {n : Nat}
    (h : closing? '*' z t = some n) : CommentRest z (t.take n) := by
  induction t generalizing n with
  | nil => simp [closing?] at h
  | cons x t ih =>
      cases t with
      | nil => simp [closing?] at h
      | cons y t =>
          rw [closing?_cons_cons] at h
          split at h
          next hxy =>
            obtain ⟨rfl, rfl⟩ := hxy
            obtain rfl := Option.some.inj h
            exact .close (n := 0)
          next hxy =>
            obtain ⟨m, hm, rfl⟩ := Option.map_eq_some_iff.mp h
            have hrest := ih hm
            rw [List.take_succ_cons]
            -- a star that is not followed by the end is joined to the stars or the text behind it
            by_cases hx : x = '*'
            · obtain ⟨k, rfl⟩ : ∃ k, m = k + 1 := by
                have htwo := two_le_of_closing? hm
                exact ⟨m - 1, by omega⟩
              rw [List.take_succ_cons] at hrest ⊢
              have hy : y ≠ z := fun hy => hxy ⟨hx, hy⟩
              rw [hx]
              exact hrest.star hy
            · exact .other hx hrest

theorem closing?_cons_of_ne {a b x : Char} {t : Text} {n : Nat}
    (hx : ¬(x = a ∧ t.head? = some b)) (h : closing? a b t = some n) :
    closing? a b (x :: t) = some (n + 1) := by
  cases t with
  | nil => simp [closing?] at h
  | cons y t =>
      have hxy : ¬(x = a ∧ y = b) := by simpa using hx
      rw [closing?_cons_cons, if_neg hxy, h]
      rfl

/-- The pattern ends with the first closing mark. -/
theorem CommentRest.closing?_eq {z : Char} (hz : z ≠ '*') {w : Text} (h : CommentRest z w)
    (r : Text) : closing? '*' z (w ++ r) = some w.length := by
  have hstars {n : Nat} {c : Char} {u : Text} {m : Nat} (hc : c ≠ z)
      (hu : closing? '*' z (c :: u) = some m) :
      closing? '*' z (List.replicate n '*' ++ c :: u) = some (n + m) := by
    induction n with
    | zero => rw [Nat.zero_add]; exact hu
    | succ n ih =>
        rw [List.replicate_succ, List.cons_append, closing?_cons_of_ne _ ih, Nat.add_right_comm]
        rintro ⟨-, hhead⟩
        cases n with
        | zero => exact hc (Option.some.inj hhead)
        | succ n => exact hz (Option.some.inj hhead).symm
  induction h with
  | @other c w hc hw ih =>
      rw [List.cons_append, closing?_cons_of_ne (fun h => hc h.1) ih]
      rfl
  | @stars n c w hc hcz hw ih =>
      have htail := closing?_cons_of_ne (x := c) (fun h => hc h.1) ih
      rw [List.append_assoc, List.cons_append, hstars hcz htail]
      simp
  | @close n =>
      have hone : closing? '*' z ('*' :: z :: r) = some 2 := by simp [closing?]
      rw [List.replicate_succ', List.append_assoc, List.append_assoc, List.singleton_append,
        List.singleton_append, hstars hz.symm hone]
      simp

/-! ## The piece at the head -/

theorem Matches.ne_nil {kind : PieceKind} {w : Text} (h : Matches kind w) : w ≠ [] := by
  cases h with
  | blank hw => exact hw
  | number hw => exact hw
  | defineFunction hw =>
      rintro rfl
      exact absurd hw (by decide)
  | _ => simp

theorem matches_word {c : Char} {w : Text} (hc : isWordStart c = true)
    (hw : ∀ d ∈ w, isWordPart d = true) : Matches (.lexeme (wordKind (c :: w))) (c :: w) := by
  rw [wordKind]
  split
  next hkey => exact .defineFunction hkey
  next => exact .ident hc hw

theorem matches_single {c : Char} (hc : isBlank c = false) :
    Matches (.lexeme (singleKind c)) [c] := by
  rw [singleKind.eq_def]
  split
  · exact .leftParen
  · exact .rightParen
  · exact .leftBrace
  · exact .rightBrace
  · exact .leftBracket
  · exact .rightBracket
  · exact .comma
  · exact .other hc

theorem take_run_succ {p : Char → Bool} {t : Text} (h : run p t < t.length) :
    ∃ x, p x = false ∧ t.take (run p t + 1) = t.takeWhile p ++ [x] := by
  induction t with
  | nil => simp at h
  | cons c t ih =>
      by_cases hc : p c = true
      · have ht : run p t < t.length := by simpa [run, hc] using h
        obtain ⟨x, hx, htake⟩ := ih ht
        refine ⟨x, hx, ?_⟩
        simpa [run, hc] using htake
      · exact ⟨c, by simpa using hc, by simp [run, hc]⟩

/-- What the lexer cuts off matches the kind that it gives. -/
theorem matches_head (c : Char) (t : Text) :
    Matches (head c t).1 (c :: t.take (head c t).2) := by
  have hs := head_spec c t
  generalize head c t = x at hs ⊢
  cases hs with
  | blank hb =>
      rw [take_run]
      refine .blank (by simp) ?_
      intro d hd
      rcases List.mem_cons.mp hd with rfl | hd
      · exact hb
      · exact List.mem_takeWhile_imp hd
  | word hw =>
      rw [take_run]
      exact matches_word hw fun d hd => List.mem_takeWhile_imp hd
  | number hd =>
      rw [take_run]
      refine .number (by simp) ?_
      intro d hmem
      rcases List.mem_cons.mp hmem with rfl | hmem
      · exact hd
      · exact List.mem_takeWhile_imp hmem
  | lineComment hc ht =>
      obtain ⟨u, rfl⟩ := List.head?_eq_some_iff.mp ht
      have htake : ('/' :: u).takeWhile (fun x => !isLineEnd x) =
          '/' :: u.takeWhile fun x => !isLineEnd x := rfl
      rw [take_run, htake, hc]
      refine .lineComment ?_
      intro d hd
      simpa using List.mem_takeWhile_imp hd
  | slashComment inner n hc ht hn =>
      rw [hc, ht, List.take_succ_cons]
      exact .slashComment (commentRest_of_closing? hn)
  | parenComment inner n hc ht hn =>
      rw [hc, ht, List.take_succ_cons]
      exact .parenComment (commentRest_of_closing? hn)
  | string hc hn =>
      obtain ⟨x, hx, htake⟩ := take_run_succ hn
      obtain rfl : x = '\'' := by simpa using hx
      rw [hc, htake]
      refine .string ?_
      intro hmem
      simpa using List.mem_takeWhile_imp hmem
  | single hb => exact matches_single hb

theorem length_le_run {p : Char → Bool} {w : Text} (hw : ∀ c ∈ w, p c = true) (r : Text) :
    w.length ≤ run p (w ++ r) := by
  rw [run, List.takeWhile_append_of_pos hw, List.length_append]
  exact Nat.le_add_right _ _

theorem rank_other_lt {kind : PieceKind} (h : kind ≠ .lexeme .other) :
    rank (.lexeme .other) < rank kind := by
  cases kind with
  | lexeme k => cases k <;> first | exact absurd rfl h | decide
  | blank => decide
  | lineComment => decide

/-- A match of this kind and length is not preferred to a reading of the head. -/
def Within (kind : PieceKind) (length : Nat) (x : PieceKind × Nat) : Prop :=
  length ≤ x.2 + 1 ∧ (length = x.2 + 1 → kind = x.1 ∨ rank kind < rank x.1)

theorem within_self (kind : PieceKind) (n : Nat) : Within kind (n + 1) (kind, n) :=
  ⟨Nat.le_refl _, fun _ => .inl rfl⟩

theorem within_of_le {kind : PieceKind} {m n : Nat} (h : m ≤ n) :
    Within kind (m + 1) (kind, n) :=
  ⟨Nat.succ_le_succ h, fun _ => .inl rfl⟩

theorem within_word {c : Char} {w : Text} {kind : TokenKind} (hc : isWordStart c = true)
    (hw : ∀ d ∈ w, isWordPart d = true)
    (hkind : kind = wordKind (c :: w) ∨ rank (.lexeme kind) < rank (.lexeme (wordKind (c :: w))))
    (r : Text) : Within (.lexeme kind) (c :: w).length (head c (w ++ r)) := by
  rw [(Head.word hc).head_eq]
  refine ⟨Nat.succ_le_succ (length_le_run hw r), ?_⟩
  intro hlength
  have hrun : run isWordPart (w ++ r) = w.length := (Nat.succ.inj hlength).symm
  have htake : (w ++ r).takeWhile isWordPart = w := by
    rw [← take_run, hrun, List.take_left]
  rw [htake]
  exact hkind.imp (congrArg _) id

theorem within_single {c : Char} {kind : TokenKind} (hkind : singleKind c = kind)
    (hb : isBlank c = false) (hw : isWordStart c = false) (hd : c.isDigit = false) (t : Text) :
    Within (.lexeme kind) 1 (head c t) := by
  subst hkind
  have hs := head_spec c t
  generalize head c t = x at hs ⊢
  cases hs with
  | blank h => exact absurd h (by simp [hb])
  | word h => exact absurd h (by simp [hw])
  | number h => exact absurd h (by simp [hd])
  | lineComment hc =>
      subst hc
      have hrank : rank (.lexeme .other) < rank .lineComment := by decide
      exact ⟨Nat.succ_le_succ (Nat.zero_le _), fun _ => .inr hrank⟩
  | slashComment inner n => exact ⟨by omega, fun h => absurd h (by simp)⟩
  | parenComment inner n => exact ⟨by omega, fun h => absurd h (by simp)⟩
  | string => exact ⟨by omega, fun h => absurd h (by simp)⟩
  | single => exact within_self _ 0

/-- No match at the head of a text is preferred to its first piece. -/
theorem Matches.within_head {kind : PieceKind} {w r t : Text} {c : Char} (h : Matches kind w)
    (hw : w ++ r = c :: t) : Within kind w.length (head c t) := by
  cases h with
  | blank hne hall =>
      obtain ⟨d, v, rfl⟩ := List.exists_cons_of_ne_nil hne
      rw [List.cons_append] at hw
      obtain ⟨rfl, rfl⟩ := List.cons.inj hw
      rw [(Head.blank (hall d List.mem_cons_self)).head_eq]
      exact within_of_le (length_le_run (fun x hx => hall x (List.mem_cons_of_mem d hx)) r)
  | @lineComment v hall =>
      rw [List.cons_append] at hw
      obtain ⟨rfl, rfl⟩ := List.cons.inj hw
      rw [(Head.lineComment rfl rfl).head_eq]
      have hrun : ∀ x ∈ '/' :: v, (!isLineEnd x) = true := by
        intro x hx
        rcases List.mem_cons.mp hx with rfl | hx
        · rfl
        · rw [hall x hx]
          rfl
      exact within_of_le (length_le_run hrun r)
  | defineFunction hkey =>
      cases w with
      | nil => exact absurd hkey (by decide)
      | cons d v =>
          rw [List.cons_append] at hw
          obtain ⟨rfl, rfl⟩ := List.cons.inj hw
          have hstart := fun x hx => isWordStart_of_mem_keyword (c := x) hkey hx
          refine within_word (hstart d List.mem_cons_self) ?_ ?_ r
          · intro x hx
            exact isWordPart_of_isWordStart (hstart x (List.mem_cons_of_mem d hx))
          · rw [wordKind, if_pos hkey]
            exact .inl rfl
  | @slashComment v hrest =>
      rw [List.cons_append, List.cons_append] at hw
      obtain ⟨rfl, rfl⟩ := List.cons.inj hw
      have hclose := hrest.closing?_eq (by decide) r
      rw [(Head.slashComment (v ++ r) v.length rfl rfl hclose).head_eq]
      exact within_self _ _
  | @parenComment v hrest =>
      rw [List.cons_append, List.cons_append] at hw
      obtain ⟨rfl, rfl⟩ := List.cons.inj hw
      have hclose := hrest.closing?_eq (by decide) r
      rw [(Head.parenComment (v ++ r) v.length rfl rfl hclose).head_eq]
      exact within_self _ _
  | @string v hq =>
      rw [List.cons_append] at hw
      obtain ⟨rfl, rfl⟩ := List.cons.inj hw
      have hv : ∀ x ∈ v, (x != '\'') = true := by
        intro x hx
        rw [bne_iff_ne]
        rintro rfl
        exact hq hx
      have hrun : run (· != '\'') (v ++ ['\''] ++ r) = v.length := by
        rw [run, List.append_assoc, List.takeWhile_append_of_pos hv]
        simp
      have hlt : run (· != '\'') (v ++ ['\''] ++ r) < (v ++ ['\''] ++ r).length := by
        rw [hrun]
        simp
      rw [(Head.string rfl hlt).head_eq, hrun]
      simpa using within_self (.lexeme .string) (v.length + 1)
  | number hne hall =>
      obtain ⟨d, v, rfl⟩ := List.exists_cons_of_ne_nil hne
      rw [List.cons_append] at hw
      obtain ⟨rfl, rfl⟩ := List.cons.inj hw
      rw [(Head.number (hall d List.mem_cons_self)).head_eq]
      exact within_of_le (length_le_run (fun x hx => hall x (List.mem_cons_of_mem d hx)) r)
  | @ident d v hc hall =>
      rw [List.cons_append] at hw
      obtain ⟨rfl, rfl⟩ := List.cons.inj hw
      refine within_word hc hall ?_ r
      rw [wordKind]
      split
      · exact .inr (by decide)
      · exact .inl rfl
  | other hb =>
      refine ⟨Nat.succ_le_succ (Nat.zero_le _), fun _ => ?_⟩
      by_cases hk : (head c t).1 = .lexeme .other
      · exact .inl hk.symm
      · exact .inr (rank_other_lt hk)
  | leftParen | rightParen | leftBrace | rightBrace | leftBracket | rightBracket | comma =>
      obtain ⟨rfl, rfl⟩ := List.cons.inj hw
      exact within_single rfl rfl rfl rfl _

/-! ## The cut -/

/-- What is cut off is the longest match, and of the highest rank among those. -/
theorem leads_head (c : Char) (t : Text) :
    Leads (head c t).1 (c :: t.take (head c t).2) (t.drop (head c t).2) := by
  have hlength : (c :: t.take (head c t).2).length = (head c t).2 + 1 := by
    rw [List.length_cons, List.length_take_of_le (head_snd_le c t)]
  have htext : (c :: t.take (head c t).2) ++ t.drop (head c t).2 = c :: t := by
    rw [List.cons_append, List.take_append_drop]
  constructor
  · exact matches_head c t
  · intro kind w rest hw hmatch
    rw [htext] at hw
    rw [hlength]
    exact (hmatch.within_head hw).1
  · intro kind hmatch hne
    exact ((hmatch.within_head htext).2 hlength).resolve_left hne

/-- Only the first piece leads a text. -/
theorem Leads.eq_head {kind : PieceKind} {w rest : Text} (h : Leads kind w rest) {c : Char}
    {t : Text} (hw : w ++ rest = c :: t) :
    kind = (head c t).1 ∧ w = c :: t.take (head c t).2 := by
  have hhead := leads_head c t
  have htext : (c :: t.take (head c t).2) ++ t.drop (head c t).2 = w ++ rest := by
    rw [List.cons_append, List.take_append_drop, hw]
  have hle : (c :: t.take (head c t).2).length ≤ w.length :=
    h.longest _ _ _ htext hhead.isMatch
  have hge : w.length ≤ (c :: t.take (head c t).2).length :=
    hhead.longest _ _ _ htext.symm h.isMatch
  obtain ⟨rfl, -⟩ := List.append_inj htext.symm (Nat.le_antisymm hge hle)
  refine ⟨?_, rfl⟩
  by_contra hne
  have hlt := hhead.highest _ h.isMatch hne
  have hgt := h.highest _ hhead.isMatch (Ne.symm hne)
  omega

/-- A text is cut into longest matches in one way. -/
theorem cutsInto_iff {t : Text} {ps : List Piece} : CutsInto t ps ↔ ps = ofText t := by
  constructor
  · intro h
    induction h with
    | nil => rfl
    | @cons kind w rest ps hlead _ ih =>
        obtain ⟨c, u, hw⟩ := List.exists_cons_of_ne_nil hlead.isMatch.ne_nil
        have htext : w ++ rest = c :: (u ++ rest) := by rw [hw, List.cons_append]
        obtain ⟨hkind, hhead⟩ := hlead.eq_head htext
        have hrest : (u ++ rest).drop (head c (u ++ rest)).2 = rest := by
          have hsplit : w ++ rest =
              w ++ (u ++ rest).drop (head c (u ++ rest)).2 := by
            rw [htext, hhead, List.cons_append, List.take_append_drop]
          exact (List.append_cancel_left hsplit).symm
        rw [htext, ofText_cons, hrest, ← hkind, ← hhead, ih]
  · rintro rfl
    induction t using ofText_induction with
    | nil => exact .nil
    | cons c t ih =>
        have hcut := CutsInto.cons (leads_head c t) ih
        rw [List.cons_append, List.take_append_drop] at hcut
        rwa [ofText_cons]

end RpcDispatch.Piece
