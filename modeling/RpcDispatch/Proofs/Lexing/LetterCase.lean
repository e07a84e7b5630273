import RpcDispatch.Proofs.Lexing.Tokens
import RpcDispatch.Source.Location
import RpcDispatch.Text.Blank
import RpcDispatch.Text.Lowercase

/-!
# Letter case of a source

A text with its ASCII letters in lower case is cut into tokens of the same kinds at the same places,
and white space and lines are where they were.
-/

namespace RpcDispatch

/-! ## Characters -/

theorem toLower_cases (c : Char) :
    c.toLower = c ∨ ∃ n < 26, c = Char.ofNat (65 + n) ∧ c.toLower = Char.ofNat (97 + n) := by
  have hletters : ∀ n < 26, (Char.ofNat (65 + n)).toLower = Char.ofNat (97 + n) := by decide
  by_cases hupper : 65 ≤ c.toNat ∧ c.toNat ≤ 90
  · right
    refine ⟨c.toNat - 65, by omega, ?_⟩
    have hc : c = Char.ofNat (65 + (c.toNat - 65)) := by
      rw [Nat.add_sub_cancel' hupper.1, Char.ofNat_toNat]
    exact ⟨hc, by rw [← hletters _ (by omega), ← hc]⟩
  · left
    unfold Char.toLower
    rw [dif_neg]
    intro h
    exact hupper ⟨UInt32.le_iff_toNat_le.mp h.1, UInt32.le_iff_toNat_le.mp h.2⟩

/-- What tells no letter from its capital does not see a change of case. -/
theorem apply_toLower {α : Type} {f : Char → α}
    (h : ∀ n < 26, f (Char.ofNat (97 + n)) = f (Char.ofNat (65 + n))) (c : Char) :
    f c.toLower = f c := by
  rcases toLower_cases c with hc | ⟨n, hn, hc, hlower⟩
  · rw [hc]
  · rw [hlower, hc]
    exact h n hn

theorem toLower_eq_iff {a : Char} (h : ∀ n < 26, Char.ofNat (97 + n) ≠ a ∧ Char.ofNat (65 + n) ≠ a)
    (c : Char) : c.toLower = a ↔ c = a := by
  rcases toLower_cases c with hc | ⟨n, hn, hc, hlower⟩
  · rw [hc]
  · rw [hlower, hc]
    exact iff_of_false (h n hn).1 (h n hn).2

namespace Text

variable {t : Text}

theorem byteSize_foldCase (t : Text) : byteSize (foldCase t) = byteSize t := by
  induction t with
  | nil => rfl
  | cons c t ih =>
      have hsize : c.toLower.utf8Size = c.utf8Size := apply_toLower (by decide) c
      rw [foldCase, List.map_cons, byteSize_cons, byteSize_cons, hsize]
      exact congrArg (c.utf8Size + ·) ih

theorem foldCase_cons (c : Char) (t : Text) : foldCase (c :: t) = c.toLower :: foldCase t := rfl

theorem foldCase_append (s t : Text) : foldCase (s ++ t) = foldCase s ++ foldCase t :=
  List.map_append

theorem foldCase_foldCase (t : Text) : foldCase (foldCase t) = foldCase t := by
  rw [foldCase, foldCase, List.map_map]
  apply List.map_congr_left
  intro c _
  exact apply_toLower (by decide) c

theorem takeWhile_foldCase {p : Char → Bool} (hp : ∀ c, p c.toLower = p c) (t : Text) :
    (foldCase t).takeWhile p = foldCase (t.takeWhile p) := by
  rw [foldCase, foldCase, List.takeWhile_map]
  congr 2
  funext c
  exact hp c

theorem dropWhile_foldCase {p : Char → Bool} (hp : ∀ c, p c.toLower = p c) (t : Text) :
    (foldCase t).dropWhile p = foldCase (t.dropWhile p) := by
  rw [foldCase, foldCase, List.dropWhile_map]
  congr 2
  funext c
  exact hp c

theorem trim_foldCase (t : Text) : trim (foldCase t) = foldCase (trim t) := by
  have hspace : ∀ c : Char, isSpace c.toLower = isSpace c := apply_toLower (by decide)
  have hreverse : ∀ u : Text, (foldCase u).reverse = foldCase u.reverse := fun u =>
    List.map_reverse.symm
  rw [trim, trimStart, trimEnd, dropWhile_foldCase hspace, hreverse, dropWhile_foldCase hspace,
    hreverse]
  rfl

/-- A text of ASCII characters has no other letters. -/
theorem lower_eq_foldCase (h : ∀ c ∈ t, c.toNat < 0x80) : lower t = foldCase t := by
  have hfrom (passed : Text) : lowerFrom passed t = foldCase t := by
    induction t generalizing passed with
    | nil => rfl
    | cons c t ih =>
        have hc : c.toNat < 0x80 := h c List.mem_cons_self
        have hsigma : c ≠ '\u03A3' := by
          rintro rfl
          exact absurd hc (by decide)
        rw [lowerFrom, if_neg hsigma, lowerChar, if_pos hc,
          ih fun d hd => h d (List.mem_cons_of_mem c hd)]
        rfl
  exact hfrom []

end Text

/-! ## Lines and columns -/

/-- Folding changes no size, so offsets keep their meaning. -/
theorem Text.splitAt?_foldCase (t : Text) (n : Nat) :
    splitAt? (foldCase t) n = (splitAt? t n).map (Prod.map foldCase foldCase) := by
  induction t generalizing n with
  | nil => cases n <;> rfl
  | cons c t ih =>
      cases n with
      | zero => rfl
      | succ n =>
          have hsize : c.toLower.utf8Size = c.utf8Size := apply_toLower (by decide) c
          rw [foldCase_cons, splitAt?, splitAt?, hsize, ih]
          split
          next => cases splitAt? t (n + 1 - c.utf8Size) <;> rfl
          next => rfl

theorem Text.slice?_foldCase (t : Text) (a b : Nat) :
    slice? (foldCase t) a b = (slice? t a b).map foldCase := by
  rw [slice?, slice?, splitAt?_foldCase]
  cases (guard (a ≤ b) : Option Unit) with
  | none => rfl
  | some _ =>
      cases splitAt? t a with
      | none => rfl
      | some p =>
          have hrest := splitAt?_foldCase p.2 (b - a)
          cases hcut : splitAt? p.2 (b - a) with
          | none => simp [hcut, hrest]
          | some q => simp [hcut, hrest]

theorem Location.laterStarts_foldCase (offset : Nat) (t : Text) :
    laterStarts offset (Text.foldCase t) = laterStarts offset t := by
  induction t generalizing offset with
  | nil => rfl
  | cons c t ih =>
      have hsize : c.toLower.utf8Size = c.utf8Size := apply_toLower (by decide) c
      have hline : c.toLower = '\n' ↔ c = '\n' := toLower_eq_iff (by decide) c
      rw [Text.foldCase_cons, laterStarts, laterStarts, hsize]
      simp only [hline, ih]

theorem Location.locate_foldCase (t : Text) (offset : Nat) :
    locate (Text.foldCase t) offset = locate t offset := by
  have hindex : LineIndex.ofText (Text.foldCase t) = LineIndex.ofText t := by
    rw [LineIndex.ofText, LineIndex.ofText, lineStarts, lineStarts, laterStarts_foldCase]
  have hlength (o : Option Text) :
      (o.map Text.foldCase).elim 1 (·.length + 1) = o.elim 1 (·.length + 1) := by
    cases o with
    | none => rfl
    | some s => exact congrArg (· + 1) (List.length_map _)
  rw [locate, locate, hindex, LineIndex.locate, LineIndex.locate, Text.slice?_foldCase,
    Text.byteSize_foldCase, hlength]

/-! ## Pieces -/

namespace Piece

theorem wordKind_foldCase (w : Text) : wordKind (Text.foldCase w) = wordKind w := by
  rw [wordKind, wordKind, Text.foldCase_foldCase]

theorem run_foldCase {p : Char → Bool} (hp : ∀ c, p c.toLower = p c) (t : Text) :
    run p (Text.foldCase t) = run p t := by
  rw [run, run, Text.takeWhile_foldCase hp, Text.foldCase, List.length_map]

theorem closing?_foldCase {a b : Char} (ha : ∀ c : Char, c.toLower = a ↔ c = a)
    (hb : ∀ c : Char, c.toLower = b ↔ c = b) (t : Text) :
    closing? a b (Text.foldCase t) = closing? a b t := by
  induction t with
  | nil => rfl
  | cons x t ih =>
      cases t with
      | nil => rfl
      | cons y t =>
          rw [Text.foldCase_cons] at ih
          rw [Text.foldCase_cons, Text.foldCase_cons, closing?, closing?, ih]
          simp only [ha, hb]

/-- The piece at the head has the same kind and length in lower case. -/
theorem head_foldCase (c : Char) (t : Text) : head c.toLower (Text.foldCase t) = head c t := by
  have hblank : ∀ c : Char, isBlank c.toLower = isBlank c := apply_toLower (by decide)
  have hstart : ∀ c : Char, isWordStart c.toLower = isWordStart c := apply_toLower (by decide)
  have hpart : ∀ c : Char, isWordPart c.toLower = isWordPart c := apply_toLower (by decide)
  have hdigit : ∀ c : Char, c.toLower.isDigit = c.isDigit := apply_toLower (by decide)
  have hend : ∀ c : Char, (!isLineEnd c.toLower) = !isLineEnd c :=
    apply_toLower (f := fun c => !isLineEnd c) (by decide)
  have hquote : ∀ c : Char, (c.toLower != '\'') = (c != '\'') :=
    apply_toLower (f := (· != '\'')) (by decide)
  have hslash : ∀ c : Char, c.toLower = '/' ↔ c = '/' := toLower_eq_iff (by decide)
  have hstar : ∀ c : Char, c.toLower = '*' ↔ c = '*' := toLower_eq_iff (by decide)
  have hparen : ∀ c : Char, c.toLower = '(' ↔ c = '(' := toLower_eq_iff (by decide)
  have hclose : ∀ c : Char, c.toLower = ')' ↔ c = ')' := toLower_eq_iff (by decide)
  have hmark : ∀ c : Char, c.toLower = '\'' ↔ c = '\'' := toLower_eq_iff (by decide)
  have hsingle : singleKind c.toLower = singleKind c := apply_toLower (by decide) c
  have hhead : (Text.foldCase t).head? = some '/' ↔ t.head? = some '/' := by
    rw [Text.foldCase, List.head?_map]
    cases t with
    | nil => simp
    | cons d t => simpa using hslash d
  have hinner {inner : Text} (h : Text.foldCase t = '*' :: inner) :
      ∃ inner', t = '*' :: inner' ∧ inner = Text.foldCase inner' := by
    cases t with
    | nil => cases h
    | cons d t =>
        rw [Text.foldCase_cons] at h
        obtain ⟨hd, rfl⟩ := List.cons.inj h
        exact ⟨t, by rw [(hstar d).mp hd], rfl⟩
  apply Head.head_eq
  have hs := head_spec c t
  generalize head c t = x at hs
  cases hs with
  | blank hb =>
      rw [← run_foldCase hblank]
      exact .blank ((hblank c).trans hb)
  | word hw =>
      have hword := Head.word (t := Text.foldCase t) ((hstart c).trans hw)
      rwa [Text.takeWhile_foldCase hpart, ← Text.foldCase_cons, wordKind_foldCase,
        run_foldCase hpart] at hword
  | number hd =>
      rw [← run_foldCase hdigit]
      exact .number ((hdigit c).trans hd)
  | lineComment hc hl =>
      rw [← run_foldCase hend]
      exact .lineComment ((hslash c).mpr hc) (hhead.mpr hl)
  | slashComment inner n hc ht hn =>
      rw [← closing?_foldCase hstar hslash] at hn
      exact .slashComment (Text.foldCase inner) n ((hslash c).mpr hc) (by rw [ht]; rfl) hn
  | parenComment inner n hc ht hn =>
      rw [← closing?_foldCase hstar hclose] at hn
      exact .parenComment (Text.foldCase inner) n ((hparen c).mpr hc) (by rw [ht]; rfl) hn
  | string hc hn =>
      have hlength : (Text.foldCase t).length = t.length := List.length_map _
      rw [← run_foldCase hquote, ← hlength] at hn
      rw [← run_foldCase hquote]
      exact .string ((hmark c).mpr hc) hn
  | single hb hw hd hl hsc hpc hq =>
      rw [← hsingle]
      refine .single ((hblank c).trans hb) ((hstart c).trans hw) ((hdigit c).trans hd) ?_ ?_ ?_ ?_
      · intro hc
        rw [Ne, hhead]
        exact hl ((hslash c).mp hc)
      · intro inner hc ht
        obtain ⟨inner', ht', rfl⟩ := hinner ht
        rw [closing?_foldCase hstar hslash]
        exact hsc inner' ((hslash c).mp hc) ht'
      · intro inner hc ht
        obtain ⟨inner', ht', rfl⟩ := hinner ht
        rw [closing?_foldCase hstar hclose]
        exact hpc inner' ((hparen c).mp hc) ht'
      · intro hc
        rw [run_foldCase hquote, hq ((hmark c).mp hc)]
        exact (List.length_map _).symm

end Piece

/-! ## Tokens -/

namespace Token

def foldCase (t : Token) : Token :=
  { t with gap := Text.foldCase t.gap, text := Text.foldCase t.text }

theorem of_foldCase_eq {t u : Token} (h : t.foldCase = u.foldCase) :
    t.kind = u.kind ∧ Text.foldCase t.text = Text.foldCase u.text ∧ t.start = u.start := by
  obtain ⟨hkind, -, htext, hstart⟩ := Token.mk.inj h
  exact ⟨hkind, htext, hstart⟩

theorem stop_foldCase (t : Token) : t.foldCase.stop = t.stop := by
  rw [stop, stop, foldCase, Text.byteSize_foldCase]

/-- The lexer looks at letter case only where it compares with the keyword, and there it folds. -/
theorem ofTextFrom_foldCase (offset : Nat) (gap t : Text) :
    ofTextFrom offset (Text.foldCase gap) (Text.foldCase t) =
      (ofTextFrom offset gap t).map foldCase := by
  induction t using Piece.lexeme_induction generalizing offset gap with
  | nil => rfl
  | layout c t kind n hx hk ih =>
      rw [← Piece.head_foldCase] at hx
      have hpiece : c.toLower :: (Text.foldCase t).take n = Text.foldCase (c :: t.take n) := by
        rw [Text.foldCase_cons, Text.foldCase, Text.foldCase, List.map_take]
      have hrest : (Text.foldCase t).drop n = Text.foldCase (t.drop n) := List.map_drop.symm
      rw [Text.foldCase_cons, ofTextFrom_layout hx hk, hpiece, hrest, Text.byteSize_foldCase,
        ← Text.foldCase_append, ih]
      rw [Piece.head_foldCase] at hx
      rw [ofTextFrom_layout hx hk]
  | lexeme c t k n hx ih =>
      rw [← Piece.head_foldCase] at hx
      have hpiece : c.toLower :: (Text.foldCase t).take n = Text.foldCase (c :: t.take n) := by
        rw [Text.foldCase_cons, Text.foldCase, Text.foldCase, List.map_take]
      have hrest : (Text.foldCase t).drop n = Text.foldCase (t.drop n) := List.map_drop.symm
      have hbehind := ih (offset + Text.byteSize (c :: t.take n)) []
      rw [Text.foldCase_cons, ofTextFrom_lexeme hx, hpiece, hrest, Text.byteSize_foldCase]
      rw [Piece.head_foldCase] at hx
      rw [ofTextFrom_lexeme hx, List.map_cons, ← hbehind]
      rfl

theorem ofText_foldCase (t : Text) : ofText (Text.foldCase t) = (ofText t).map foldCase :=
  ofTextFrom_foldCase 0 [] t

theorem between_foldCase (inner : List Token) (close : Token) :
    between (inner.map foldCase) close.foldCase = Text.foldCase (between inner close) := by
  induction inner with
  | nil => rfl
  | cons t ts ih =>
      have hcons (u : Token) (us : List Token) (v : Token) :
          between (u :: us) v = u.gap ++ (u.text ++ between us v) := by
        simp [between, withGap]
      rw [List.map_cons, hcons, hcons, ih, Text.foldCase_append, Text.foldCase_append]
      rfl

end Token

end RpcDispatch
