import Mathlib.Data.List.TakeWhile
import RpcDispatch.Source.Token

/-!
# Cutting a text into pieces

The piece at the head of a text depends on what follows it only where the text ends too early: at
the last piece, or at the mark of a string or comment that is not closed. A text without such
marks can therefore be cut on its own.
-/

namespace RpcDispatch.Piece

/-! ## The piece at the head -/

theorem run_le_length (p : Char → Bool) (t : Text) : run p t ≤ t.length :=
  (List.takeWhile_sublist p).length_le

/-- A run that stops inside a text stops there whatever follows. -/
theorem run_append_of_lt {p : Char → Bool} {t : Text} (h : run p t < t.length) (r : Text) :
    run p (t ++ r) = run p t := by
  induction t with
  | nil => simp [run] at h
  | cons c t ih =>
      by_cases hc : p c = true
      · have ht : run p t < t.length := by simpa [run, hc] using h
        simpa [run, hc] using ih ht
      · simp [run, hc]

theorem run_eq_length_iff {p : Char → Bool} {t : Text} :
    run p t = t.length ↔ ∀ c ∈ t, p c = true := by
  induction t with
  | nil => simp [run]
  | cons c t ih =>
      by_cases hc : p c = true
      · simpa [run, hc] using ih
      · simp [run, hc]

theorem take_run (p : Char → Bool) (t : Text) : t.take (run p t) = t.takeWhile p := by
  induction t with
  | nil => rfl
  | cons c t ih =>
      by_cases hc : p c = true
      · simpa [run, hc] using ih
      · simp [run, hc]

theorem drop_run (p : Char → Bool) (t : Text) : t.drop (run p t) = t.dropWhile p := by
  induction t with
  | nil => rfl
  | cons c t ih =>
      by_cases hc : p c = true
      · simpa [run, hc] using ih
      · simp [run, hc]

theorem closing?_append {a b : Char} {t : Text} {n : Nat} (h : closing? a b t = some n)
    (r : Text) : closing? a b (t ++ r) = some n := by
  induction t generalizing n with
  | nil => simp [closing?] at h
  | cons x t ih =>
      cases t with
      | nil => simp [closing?] at h
      | cons y t =>
          simp only [closing?, List.cons_append] at h ⊢
          split at h
          next hxy => simpa [hxy] using h
          next hxy =>
            obtain ⟨m, hm, rfl⟩ := Option.map_eq_some_iff.mp h
            have hr := ih hm
            simp only [List.cons_append] at hr
            simp [hxy, hr]

theorem closing?_le_length {a b : Char} {t : Text} {n : Nat} (h : closing? a b t = some n) :
    n ≤ t.length := by
  induction t generalizing n with
  | nil => simp [closing?] at h
  | cons x t ih =>
      cases t with
      | nil => simp [closing?] at h
      | cons y t =>
          simp only [closing?] at h
          split at h
          next =>
            obtain rfl := Option.some.inj h
            simp
          next =>
            obtain ⟨m, hm, rfl⟩ := Option.map_eq_some_iff.mp h
            have hle := ih hm
            simp only [List.length_cons] at hle ⊢
            omega

/-- Kind and length of the piece at the head of `c :: t`, by the class of its first characters. -/
inductive Head (c : Char) (t : Text) : PieceKind × Nat → Prop
  | blank : isBlank c = true → Head c t (.blank, run isBlank t)
  | word : isWordStart c = true →
      Head c t (.lexeme (wordKind (c :: t.takeWhile isWordPart)), run isWordPart t)
  | number : c.isDigit = true → Head c t (.lexeme .number, run Char.isDigit t)
  | lineComment : c = '/' → t.head? = some '/' →
      Head c t (.lineComment, run (fun x => !isLineEnd x) t)
  | slashComment (inner : Text) (n : Nat) : c = '/' → t = '*' :: inner →
      closing? '*' '/' inner = some n → Head c t (.lexeme .slashComment, n + 1)
  | parenComment (inner : Text) (n : Nat) : c = '(' → t = '*' :: inner →
      closing? '*' ')' inner = some n → Head c t (.lexeme .parenComment, n + 1)
  | string : c = '\'' → run (· != '\'') t < t.length →
      Head c t (.lexeme .string, run (· != '\'') t + 1)
  | single : isBlank c = false → isWordStart c = false → c.isDigit = false →
      (c = '/' → t.head? ≠ some '/') →
      (∀ inner, c = '/' → t = '*' :: inner → closing? '*' '/' inner = none) →
      (∀ inner, c = '(' → t = '*' :: inner → closing? '*' ')' inner = none) →
      (c = '\'' → run (· != '\'') t = t.length) → Head c t (.lexeme (singleKind c), 0)

theorem isBlank_of_isWordStart {c : Char} (h : isWordStart c = true) : isBlank c = false := by
  by_contra hb
  simp only [isBlank, Bool.not_eq_false, Bool.or_eq_true, beq_iff_eq] at hb
  rcases hb with (((rfl | rfl) | rfl) | rfl) | rfl <;> simp [isWordStart] at h

theorem isBlank_of_isDigit {c : Char} (h : c.isDigit = true) : isBlank c = false := by
  by_contra hb
  simp only [isBlank, Bool.not_eq_false, Bool.or_eq_true, beq_iff_eq] at hb
  rcases hb with (((rfl | rfl) | rfl) | rfl) | rfl <;> simp at h

theorem isWordPart_of_isWordStart {c : Char} (h : isWordStart c = true) :
    isWordPart c = true := by
  rw [isWordStart, Bool.or_eq_true] at h
  rcases h with h | h
  · simp [isWordPart, Char.isAlphanum, h]
  · simp [isWordPart, h]

theorem isWordStart_of_toLower {c : Char} (h : isWordStart c.toLower = true) :
    isWordStart c = true := by
  unfold Char.toLower at h
  split at h
  next hu =>
    have hup : c.isUpper = true := decide_eq_true hu
    have halpha : c.isAlpha = (c.isUpper || c.isLower) := rfl
    simp [isWordStart, halpha, hup]
  next => exact h

/-- The keyword is a word in any letter case. -/
theorem isWordStart_of_mem_keyword {t : Text} (h : t.foldCase = keyword) {c : Char} (hc : c ∈ t) :
    isWordStart c = true := by
  have hall : keyword.all isWordStart = true := by decide
  apply isWordStart_of_toLower
  apply List.all_eq_true.mp hall
  rw [← h]
  exact List.mem_map_of_mem hc

theorem range_of_isDigit {c : Char} (h : c.isDigit = true) : 48 ≤ c.toNat ∧ c.toNat ≤ 57 := by
  simpa [Char.isDigit, UInt32.le_iff_toNat_le] using h

theorem range_of_isWordStart {c : Char} (h : isWordStart c = true) :
    (65 ≤ c.toNat ∧ c.toNat ≤ 90) ∨ (97 ≤ c.toNat ∧ c.toNat ≤ 122) ∨ c.toNat = 95 := by
  have hupper (hc : c.isUpper = true) : 65 ≤ c.toNat ∧ c.toNat ≤ 90 :=
    (of_decide_eq_true hc).imp UInt32.le_iff_toNat_le.mp UInt32.le_iff_toNat_le.mp
  have hlower (hc : c.isLower = true) : 97 ≤ c.toNat ∧ c.toNat ≤ 122 := by
    obtain ⟨hlo, hhi⟩ := Bool.and_eq_true_iff.mp hc
    exact ⟨UInt32.le_iff_toNat_le.mp (of_decide_eq_true hlo),
      UInt32.le_iff_toNat_le.mp (of_decide_eq_true hhi)⟩
  have halpha : c.isAlpha = (c.isUpper || c.isLower) := rfl
  rw [isWordStart, halpha, Bool.or_eq_true, Bool.or_eq_true, beq_iff_eq] at h
  rcases h with (h | h) | rfl
  · exact .inl (hupper h)
  · exact .inr (.inl (hlower h))
  · exact .inr (.inr rfl)

theorem isWordStart_of_isDigit {c : Char} (h : c.isDigit = true) : isWordStart c = false := by
  by_contra hw
  have hdigit := range_of_isDigit h
  have hword := range_of_isWordStart (by simpa using hw)
  omega

theorem Head.head_eq {c : Char} {t : Text} {x : PieceKind × Nat} (h : Head c t x) :
    head c t = x := by
  cases h with
  | blank hb => simp [head, hb]
  | word hw => simp [head, hw, isBlank_of_isWordStart hw, take_run]
  | number hd => simp [head, hd, isBlank_of_isDigit hd, isWordStart_of_isDigit hd]
  | lineComment hc ht =>
      subst hc
      cases t with
      | nil => simp at ht
      | cons d u =>
          obtain rfl : d = '/' := by simpa using ht
          rfl
  | slashComment inner n hc ht hn =>
      subst hc ht
      simp [head, isBlank, isWordStart, closedOr, hn]
  | parenComment inner n hc ht hn =>
      subst hc ht
      simp [head, isBlank, isWordStart, closedOr, hn]
  | string hc hn =>
      subst hc
      simp [head, isBlank, isWordStart, closedOr, hn]
  | single hb hw hd hl hs hp hq =>
      simp only [head, hb, hw, hd, Bool.false_eq_true, if_false]
      split
      · simp at hl
      next inner => simp [closedOr, hs inner rfl rfl]
      next inner => simp [closedOr, hp inner rfl rfl]
      next => simp [closedOr, hq rfl]
      · rfl

/-- The cases of `head`, one for each way in which a piece can begin. -/
theorem head_spec (c : Char) (t : Text) : Head c t (head c t) := by
  suffices h : ∃ x, Head c t x by
    obtain ⟨x, hx⟩ := h
    rwa [hx.head_eq]
  by_cases hb : isBlank c = true
  · exact ⟨_, .blank hb⟩
  by_cases hw : isWordStart c = true
  · exact ⟨_, .word hw⟩
  by_cases hd : c.isDigit = true
  · exact ⟨_, .number hd⟩
  by_cases hl : c = '/' ∧ t.head? = some '/'
  · exact ⟨_, .lineComment hl.1 hl.2⟩
  by_cases hs : ∃ inner n, c = '/' ∧ t = '*' :: inner ∧ closing? '*' '/' inner = some n
  · obtain ⟨inner, n, hc, ht, hn⟩ := hs
    exact ⟨_, .slashComment inner n hc ht hn⟩
  by_cases hp : ∃ inner n, c = '(' ∧ t = '*' :: inner ∧ closing? '*' ')' inner = some n
  · obtain ⟨inner, n, hc, ht, hn⟩ := hp
    exact ⟨_, .parenComment inner n hc ht hn⟩
  by_cases hq : c = '\'' ∧ run (· != '\'') t < t.length
  · exact ⟨_, .string hq.1 hq.2⟩
  refine ⟨_, .single (by simpa using hb) (by simpa using hw) (by simpa using hd) ?_ ?_ ?_ ?_⟩
  · exact fun hc ht => hl ⟨hc, ht⟩
  · exact fun inner hc ht => Option.eq_none_iff_forall_ne_some.mpr fun n hn =>
      hs ⟨inner, n, hc, ht, hn⟩
  · exact fun inner hc ht => Option.eq_none_iff_forall_ne_some.mpr fun n hn =>
      hp ⟨inner, n, hc, ht, hn⟩
  · exact fun hc => Nat.le_antisymm (run_le_length _ _) (Nat.le_of_not_lt fun h => hq ⟨hc, h⟩)

theorem head_snd_le (c : Char) (t : Text) : (head c t).2 ≤ t.length := by
  have h := head_spec c t
  generalize head c t = x at h ⊢
  cases h with
  | blank => exact run_le_length _ _
  | word => exact run_le_length _ _
  | number => exact run_le_length _ _
  | lineComment => exact run_le_length _ _
  | slashComment inner n _ ht hn =>
      have hle := closing?_le_length hn
      simpa [ht] using hle
  | parenComment inner n _ ht hn =>
      have hle := closing?_le_length hn
      simpa [ht] using hle
  | string _ hn => exact hn
  | single => exact Nat.zero_le _

theorem blanks_of_head_eq {c : Char} {t : Text} {n : Nat} (h : head c t = (.blank, n)) :
    ∀ d ∈ c :: t.take n, isBlank d = true := by
  have hs := head_spec c t
  rw [h] at hs
  cases hs with
  | blank hb =>
      intro d hd
      rw [take_run] at hd
      rcases List.mem_cons.mp hd with rfl | hd
      · exact hb
      · exact List.mem_takeWhile_imp hd

/-! ## Marks that are not closed -/

/-- Whether a piece is the mark of a string or a block comment that is not closed: `after` is the
text behind it. -/
def isLoneMark : (piece after : Text) → Bool
  | ['\''], _ => true
  | ['/'], '*' :: _ => true
  | ['('], '*' :: _ => true
  | _, _ => false

/-- What follows a text changes its first piece only if that reaches up to the end or is a lone
mark. -/
theorem head_append {c : Char} {t : Text} (hlt : (head c t).2 < t.length)
    (hmark : isLoneMark (c :: t.take (head c t).2) (t.drop (head c t).2) = false) (r : Text) :
    head c (t ++ r) = head c t := by
  apply Head.head_eq
  obtain ⟨x, u, rfl⟩ : ∃ x u, t = x :: u := by
    cases t with
    | nil => simp at hlt
    | cons x u => exact ⟨x, u, rfl⟩
  generalize hx : head c (x :: u) = y at hlt hmark
  have hs := head_spec c (x :: u)
  rw [hx] at hs
  cases hs with
  | blank hb =>
      rw [← run_append_of_lt hlt r]
      exact .blank hb
  | word hw =>
      have ht : (x :: u).takeWhile isWordPart = ((x :: u) ++ r).takeWhile isWordPart := by
        rw [← take_run, ← take_run, run_append_of_lt hlt,
          List.take_append_of_le_length (run_le_length _ _)]
      rw [ht, ← run_append_of_lt hlt r]
      exact .word hw
  | number hd =>
      rw [← run_append_of_lt hlt r]
      exact .number hd
  | lineComment hc hl =>
      rw [← run_append_of_lt hlt r]
      exact .lineComment hc (by simpa using hl)
  | slashComment inner n hc ht hn =>
      exact .slashComment (inner ++ r) n hc (by rw [ht]; rfl) (closing?_append hn r)
  | parenComment inner n hc ht hn =>
      exact .parenComment (inner ++ r) n hc (by rw [ht]; rfl) (closing?_append hn r)
  | string hc hn =>
      rw [← run_append_of_lt hn r]
      refine .string hc ?_
      rw [run_append_of_lt hn]
      exact hn.trans_le (by simp)
  | single hb hw hd hl hs hp hq =>
      refine .single hb hw hd (by simpa using hl) ?_ ?_ ?_
      · rintro inner rfl ht
        obtain rfl : x = '*' := (List.cons.inj ht).1
        simp [isLoneMark] at hmark
      · rintro inner rfl ht
        obtain rfl : x = '*' := (List.cons.inj ht).1
        simp [isLoneMark] at hmark
      · rintro rfl
        simp [isLoneMark] at hmark

/-! ## The pieces of a text -/

theorem cut_eq_drop (n : Nat) (t : Text) : cut n t = cut 0 (t.drop n) := by
  induction n generalizing t with
  | zero => rfl
  | succ n ih =>
      cases t with
      | nil => rfl
      | cons c t => simpa [cut] using ih t

@[simp] theorem ofText_nil : ofText [] = [] := rfl

theorem ofText_cons (c : Char) (t : Text) :
    ofText (c :: t) =
      ⟨(head c t).1, c :: t.take (head c t).2⟩ :: ofText (t.drop (head c t).2) := by
  rw [ofText, ofText, ← cut_eq_drop]
  rfl

/-- Induction along the pieces of a text. -/
theorem ofText_induction {motive : Text → Prop} (nil : motive [])
    (cons : ∀ c t, motive (t.drop (head c t).2) → motive (c :: t)) (t : Text) : motive t := by
  induction hn : t.length using Nat.strong_induction_on generalizing t with
  | _ n ih =>
      cases t with
      | nil => exact nil
      | cons c t =>
          refine cons c t (ih _ ?_ _ rfl)
          simp only [List.length_cons, List.length_drop] at hn ⊢
          omega

/-- Induction along the pieces of a text, where those that are no lexemes are all alike. -/
theorem lexeme_induction {motive : Text → Prop} (nil : motive [])
    (layout : ∀ c t kind n, head c t = (kind, n) → (∀ k, kind ≠ .lexeme k) → motive (t.drop n) →
      motive (c :: t))
    (lexeme : ∀ c t k n, head c t = (.lexeme k, n) → motive (t.drop n) → motive (c :: t))
    (t : Text) : motive t := by
  induction t using ofText_induction with
  | nil => exact nil
  | cons c t ih =>
      rcases hx : head c t with ⟨kind, n⟩
      rw [hx] at ih
      cases kind with
      | lexeme k => exact lexeme c t k n hx ih
      | blank => exact layout c t .blank n hx (by simp) ih
      | lineComment => exact layout c t .lineComment n hx (by simp) ih

/-- Cutting loses nothing. -/
theorem flatMap_text_ofText (t : Text) : (ofText t).flatMap text = t := by
  induction t using ofText_induction with
  | nil => rfl
  | cons c t ih =>
      rw [ofText_cons, List.flatMap_cons, ih]
      simp

theorem ofText_ne_nil {t : Text} (h : t ≠ []) : ofText t ≠ [] := by
  cases t with
  | nil => exact absurd rfl h
  | cons c t => simp [ofText_cons]

end RpcDispatch.Piece
