import RpcDispatch.Proofs.Extraction.Relexing
import RpcDispatch.Proofs.Lexing.Blocks

/-!
# Brackets and keywords in a run of tokens

A run of tokens is neutral if it closes the brackets of each kind that it opens, no others, and has
no keyword. Neutral runs can be put behind each other and between brackets. Comments do not count.
-/

namespace RpcDispatch

/-! ## Depths -/

section

variable {opener closer : TokenKind} {d e : Nat} {xs : List TokenKind}

theorem depthAfter?_append (hne : opener ≠ closer) (d : Nat) (xs ys : List TokenKind) :
    depthAfter? opener closer d (xs ++ ys) =
      (depthAfter? opener closer d xs).bind (depthAfter? opener closer · ys) := by
  induction xs generalizing d with
  | nil => rfl
  | cons k xs ih =>
      rw [List.cons_append]
      by_cases ho : k = opener
      · rw [depthAfter?_opener ho, depthAfter?_opener ho, ih]
      by_cases hc : k = closer
      · cases d with
        | zero => rw [depthAfter?_closer_zero hc hne, depthAfter?_closer_zero hc hne]; rfl
        | succ d => rw [depthAfter?_closer_succ hc hne, depthAfter?_closer_succ hc hne, ih]
      · rw [depthAfter?_other ho hc, depthAfter?_other ho hc, ih]

/-- Brackets that lie open already stay open. -/
theorem depthAfter?_add (hne : opener ≠ closer) (h : depthAfter? opener closer d xs = some e)
    (n : Nat) : depthAfter? opener closer (d + n) xs = some (e + n) := by
  induction xs generalizing d with
  | nil =>
      obtain rfl : d = e := Option.some.inj h
      rfl
  | cons k xs ih =>
      by_cases ho : k = opener
      · rw [depthAfter?_opener ho] at h
        rw [depthAfter?_opener ho, Nat.add_right_comm, ih h]
      by_cases hc : k = closer
      · cases d with
        | zero => simp [depthAfter?_closer_zero hc hne] at h
        | succ d =>
            rw [depthAfter?_closer_succ hc hne] at h
            rw [Nat.add_right_comm, depthAfter?_closer_succ hc hne, ih h]
      · rw [depthAfter?_other ho hc] at h
        rw [depthAfter?_other ho hc, ih h]

end

namespace TokenKind

def brackets : List (TokenKind × TokenKind) :=
  [(leftParen, rightParen), (leftBracket, rightBracket), (leftBrace, rightBrace)]

/-- No keyword, and every bracket has its partner. -/
def IsNeutral (ks : List TokenKind) : Prop :=
  defineFunction ∉ ks ∧ ∀ b ∈ brackets, depthAfter? b.1 b.2 0 ks = some 0

instance (ks : List TokenKind) : Decidable (IsNeutral ks) :=
  inferInstanceAs (Decidable (_ ∧ _))

variable {xs ys : List TokenKind} {b : TokenKind × TokenKind}

theorem ne_of_mem_brackets (hb : b ∈ brackets) : b.1 ≠ b.2 := by
  have hall : ∀ b ∈ brackets, b.1 ≠ b.2 := by decide
  exact hall b hb

/-- A neutral list may stand at any depth. -/
theorem IsNeutral.depthAfter? (h : IsNeutral xs) (hb : b ∈ brackets) (d : Nat) :
    depthAfter? b.1 b.2 d xs = some d := by
  have hdepth := depthAfter?_add (ne_of_mem_brackets hb) (h.2 b hb) d
  rwa [Nat.zero_add] at hdepth

theorem IsNeutral.append (hx : IsNeutral xs) (hy : IsNeutral ys) : IsNeutral (xs ++ ys) := by
  refine ⟨List.not_mem_append hx.1 hy.1, fun b hb => ?_⟩
  rw [depthAfter?_append (ne_of_mem_brackets hb), hx.depthAfter? hb, Option.bind_some,
    hy.depthAfter? hb]

theorem IsNeutral.flatMap {α : Type} {as : List α} {f : α → List TokenKind}
    (h : ∀ a ∈ as, IsNeutral (f a)) : IsNeutral (as.flatMap f) := by
  induction as with
  | nil => exact (by decide : IsNeutral [])
  | cons a as ih =>
      rw [List.forall_mem_cons] at h
      exact h.1.append (ih h.2)

/-- What stands between two neutral halves of a text can be neutral itself. -/
theorem IsNeutral.insert (h : IsNeutral (xs ++ ys)) {zs : List TokenKind} (hz : IsNeutral zs) :
    IsNeutral (xs ++ zs ++ ys) := by
  refine ⟨?_, fun b hb => ?_⟩
  · have hxy := h.1
    rw [List.mem_append, not_or] at hxy
    exact List.not_mem_append (List.not_mem_append hxy.1 hz.1) hxy.2
  · have hne := ne_of_mem_brackets hb
    have hdepth := h.2 b hb
    rw [depthAfter?_append hne] at hdepth
    rw [List.append_assoc, depthAfter?_append hne]
    cases hx : RpcDispatch.depthAfter? b.1 b.2 0 xs with
    | none => simp [hx] at hdepth
    | some e =>
        rw [hx, Option.bind_some] at hdepth
        rw [Option.bind_some, depthAfter?_append hne, hz.depthAfter? hb, Option.bind_some, hdepth]

end TokenKind

/-! ## Texts -/

namespace Text

variable {t : Text}

theorem map_fst_code (t : Text) :
    t.code.map Prod.fst = (Token.kinds t).filter (!·.isComment) := by
  rw [code, Token.kinds, List.map_map, List.filter_map]
  rfl

/-- The comments of a text are no brackets and no keywords. -/
theorem isNeutral_code_iff : TokenKind.IsNeutral (t.code.map Prod.fst) ↔
    .defineFunction ∉ Token.kinds t ∧ ∀ b ∈ TokenKind.brackets, t.isBalanced b.1 b.2 = true := by
  have hbrackets : ∀ b ∈ TokenKind.brackets, b.1.isComment = false ∧ b.2.isComment = false := by
    decide
  rw [map_fst_code, TokenKind.IsNeutral]
  refine and_congr ?_ (forall₂_congr fun b hb => ?_)
  · simp [TokenKind.isComment]
  · obtain ⟨ho, hc⟩ := hbrackets b hb
    rw [depthAfter?_filter (by simp [ho]) (by simp [hc]), isBalanced, beq_iff_eq]

/-- The text leaves alone what follows it, and has neutral code. -/
structure IsNeutral (t : Text) : Prop where
  leads : Leads t t.code
  neutral : TokenKind.IsNeutral (t.code.map Prod.fst)

theorem Leads.isNeutral {ps : List (TokenKind × Text)} (h : Leads t ps)
    (hps : TokenKind.IsNeutral (ps.map Prod.fst)) : t.IsNeutral := by
  obtain rfl := h.code_eq
  exact ⟨h, hps⟩

end Text

/-- Where there is no keyword, nothing is found. -/
theorem SourceText.extract_of_noKeyword {s : SourceText}
    (h : .defineFunction ∉ Token.kinds s.text) :
    s.extract.signatures = [] ∧ s.extract.diagnostics = [] := by
  have hkinds : ∀ x ∈ Token.ofText s.text, x.kind ≠ .defineFunction := by
    rintro x hx hk
    exact h (hk ▸ Token.mem_kinds hx)
  have hnone := s.findingsFrom_append hkinds none []
  rw [List.append_nil] at hnone
  have hfindings : s.findings = [] := by rw [findings, hnone]; rfl
  simp [extract, hfindings]

/-! ## Names -/

theorem Token.Reads.isIdentifier {t after : Text} (h : Reads .ident t after) :
    t.isIdentifier = true := by
  generalize hkind : TokenKind.ident = kind at h
  cases h with
  | word hc hw hafter =>
      split at hkind
      next => cases hkind
      next hkeyword =>
        simp only [Text.isIdentifier, Bool.and_eq_true, List.all_eq_true, bne_iff_ne]
        exact ⟨⟨hc, hw⟩, hkeyword⟩
  | single =>
      rw [Piece.singleKind.eq_def] at hkind
      split at hkind <;> cases hkind
  | _ => cases hkind

theorem Token.isIdentifier_of_mem {t : Text} {x : Token} (hx : x ∈ ofText t)
    (hk : x.kind = .ident) : x.text.isIdentifier = true := by
  obtain ⟨xs, ys, hsplit⟩ := List.append_of_mem hx
  obtain ⟨before, after, hs⟩ := exists_splits hsplit
  obtain ⟨c, w, htext, hhead⟩ := hs.lexeme
  rw [hk] at hhead
  rw [htext]
  exact (reads_of_head hhead).isIdentifier

theorem SourceText.isIdentifier_of_mem_signatures {s : SourceText} {sig : Signature}
    (h : sig ∈ s.extract.signatures) : sig.name.isIdentifier = true := by
  obtain ⟨doc, keyword, rest, d, hsuffix, -, hread, rfl⟩ := s.exists_read_of_mem_signatures h
  obtain ⟨⟨hname, hkind⟩, -⟩ := DefinitionHead.mem_of_read (Definition.read_eq_ok.mp hread).1
  have hmem : d.head.name ∈ Token.ofText s.text :=
    hsuffix.subset (List.mem_cons_of_mem keyword hname)
  exact Token.isIdentifier_of_mem hmem hkind

theorem Text.isWord_of_isIdentifier {t : Text} (h : t.isIdentifier = true) :
    ∀ c ∈ t, Piece.isWordPart c = true := by
  cases t with
  | nil => simp [isIdentifier] at h
  | cons c t =>
      simp only [isIdentifier, Bool.and_eq_true, List.all_eq_true] at h
      exact List.forall_mem_cons.mpr ⟨Piece.isWordPart_of_isWordStart h.1.1, h.1.2⟩

/-- An identifier, in front of a character that does not belong to it. -/
theorem Text.Leads.identifier {t u : Text} {d : Char} {ps : List (TokenKind × Text)}
    (ht : t.isIdentifier = true) (hd : Piece.isWordPart d = false) (hu : Leads (d :: u) ps) :
    Leads (t ++ d :: u) ((.ident, t) :: ps) := by
  cases t with
  | nil => simp [isIdentifier] at ht
  | cons c t =>
      simp only [isIdentifier, Bool.and_eq_true, List.all_eq_true, bne_iff_ne] at ht
      have hword := Leads.word ht.1.1 ht.1.2 hd hu
      rwa [Piece.wordKind, if_neg ht.2] at hword

end RpcDispatch
