import RpcDispatch.Proofs.Extraction.ParameterLookups
import RpcDispatch.Proofs.Extraction.Restarting
import RpcDispatch.Proofs.Lexing.LongestMatch
import RpcDispatch.Proofs.Lexing.Tokenization
import RpcDispatch.Proofs.Lexing.Trimming

/-!
# Spans

A definition spans the text from its doc comment, or else its keyword, to its closing brace. Spans
follow each other, and what a signature keeps of its parameters and its body stands in its span.
Together with the readers that look up tokens and cut out texts: no lookup fails, in any text.
-/

namespace RpcDispatch

open Token

/-! ## The text of a span -/

/-- A mark matches only itself. -/
theorem Piece.Matches.eq_mark {c : Char} {w : Text} (hc : singleKind c ≠ .other)
    (h : Matches (.lexeme (singleKind c)) w) : w = [c] := by
  rw [singleKind.eq_def] at hc h
  split at hc
  case h_8 => exact absurd rfl hc
  all_goals
    cases h
    rfl

/-- A token is a match of its kind. -/
theorem Token.matches_of_mem {t : Text} {x : Token} (h : x ∈ ofText t) :
    Piece.Matches (.lexeme x.kind) x.text := by
  obtain ⟨xs, ys, hsplit⟩ := List.append_of_mem h
  obtain ⟨before, after, hs⟩ := exists_splits hsplit
  obtain ⟨c, w, htext, hhead⟩ := hs.lexeme
  have hmatch := Piece.matches_head c (w ++ after)
  rw [hhead, List.take_left] at hmatch
  rw [htext]
  exact hmatch

theorem Token.between_append (us vs : List Token) (x y : Token) :
    between (us ++ x :: vs) y = between us x ++ (x.text ++ between vs y) := by
  simp [between, withGap]

/-- The text of a span: a doc comment, or else a keyword, begins it, the parameters stand in
parentheses, the body in braces behind them, and the closing brace ends it. -/
structure Signature.Spells (sig : Signature) (span : Text) : Prop where
  begins : ∃ first rest, span = first ++ rest ∧ (sig.docComment = some first ∨
    sig.docComment = none ∧ Text.foldCase first = Piece.keyword)
  encloses : ∃ before lead trail between,
    span = before ++ '(' :: (lead ++ (sig.rawParams ++ (trail ++ ')' ::
      (between ++ '{' :: (sig.body ++ ['}']))))) ∧
    (∀ c ∈ lead, Text.isSpace c = true) ∧ ∀ c ∈ trail, Text.isSpace c = true

theorem Signature.Spells.byteSize_pos {sig : Signature} {span : Text} (h : sig.Spells span) :
    0 < Text.byteSize span := by
  obtain ⟨before, lead, trail, between, rfl, -, -⟩ := h.encloses
  have hpos := ('('.utf8Size_pos)
  rw [Text.byteSize_append, Text.byteSize_cons]
  omega

theorem pairwise_of_append {α : Type} {R : α → α → Prop} {xs : List α}
    (h : ∀ before a after, xs = before ++ a :: after → ∀ b ∈ after, R a b) : xs.Pairwise R := by
  induction xs with
  | nil => exact .nil
  | cons x xs ih =>
      refine List.pairwise_cons.mpr ⟨h [] x xs rfl, ih ?_⟩
      rintro before a after rfl
      exact h (x :: before) a after rfl

namespace SourceText

variable {s : SourceText} {sig : Signature} {front behind : List Token} {doc : Option Token}
  {keyword : Token} {d : Definition}

/-- A signature begins with one of the tokens it was read from. -/
theorem ReadAt.exists_start (h : s.ReadAt sig front doc keyword behind d) :
    ∃ x ∈ front ++ keyword :: behind, x.start = sig.start := by
  refine ⟨doc.getD keyword, ?_, by rw [h.signature]; rfl⟩
  cases doc with
  | none => simp
  | some t =>
      obtain ⟨-, xs, rfl⟩ := h.doc t rfl
      simp

/-- The span of a signature can be cut out of its text, and spells the signature. -/
theorem ReadAt.exists_spells (h : s.ReadAt sig front doc keyword behind d)
    (htokens : ofText s.text = front ++ keyword :: behind) :
    ∃ span, s.text.slice? sig.start sig.stop = some span ∧ sig.Spells span := by
  obtain ⟨head, openParen, middle, openBrace, rfl, hopenParen, hcloseParen, hopenBrace,
    hcloseBrace⟩ := Definition.exists_tokens h.read
  -- the layout and the tokens between the first token and the parameters are not looked at
  obtain ⟨xs, first, lead, hspan, hstart, hfirst⟩ : ∃ xs first lead,
      ofText s.text = xs ++ first :: ((lead ++ openParen :: (d.params.inner ++ d.params.close ::
        (middle ++ openBrace :: d.body.inner))) ++ d.body.close :: d.rest) ∧
      first.start = sig.start ∧ (sig.docComment = some first.text ∨
        sig.docComment = none ∧ Text.foldCase first.text = Piece.keyword) := by
    cases doc with
    | none =>
        refine ⟨front, keyword, head, by simp [htokens], by rw [h.signature]; rfl, .inr ?_⟩
        have hmatch := matches_of_mem (by simp [htokens] : keyword ∈ ofText s.text)
        rw [h.kind] at hmatch
        cases hmatch with
        | defineFunction hword => exact ⟨by rw [h.signature]; rfl, hword⟩
    | some t =>
        obtain ⟨-, xs, rfl⟩ := h.doc t rfl
        refine ⟨xs, t, keyword :: head, by simp [htokens], by rw [h.signature]; rfl, .inl ?_⟩
        rw [h.signature]
        rfl
  have hmark (c : Char) (hc : Piece.singleKind c ≠ .other) {x : Token} (hx : x ∈ ofText s.text)
      (hk : x.kind = Piece.singleKind c) : x.text = [c] := by
    have hmatch := matches_of_mem hx
    rw [hk] at hmatch
    exact hmatch.eq_mark hc
  have hparen := hmark '(' (by decide) (by simp [hspan]) hopenParen
  have hparenClose := hmark ')' (by decide) (by simp [hspan]) hcloseParen
  have hbrace := hmark '{' (by decide) (by simp [hspan]) hopenBrace
  have hbraceClose := hmark '}' (by decide) (by simp [hspan]) hcloseBrace
  obtain ⟨span, hslice, htext, -⟩ := exists_slice hspan
  rw [hstart, h.stop_eq] at hslice
  refine ⟨span, hslice, ⟨first.text, _, htext, hfirst⟩, ?_⟩
  obtain ⟨leading, trailing, hparams, hleading, htrailing, -⟩ := Text.trim_spec d.params.text
  have hraw : sig.rawParams = Text.trim d.params.text := by rw [h.signature]; rfl
  have hbody : sig.body = between d.body.inner d.body.close := by rw [h.signature]; rfl
  refine ⟨first.text ++ between lead openParen, leading, trailing, between middle openBrace, ?_,
    hleading, htrailing⟩
  rw [Group.text] at hparams
  rw [htext, between_append, between_append, between_append, hparams, hparen, hparenClose, hbrace,
    hbraceClose, hraw, hbody]
  simp [Group.text]

/-- Nothing of a definition is read again behind it. -/
theorem pairwise_stop_le_start (s : SourceText) :
    s.extract.signatures.Pairwise fun a b => a.stop ≤ b.start := by
  apply pairwise_of_append
  intro before sig after hsplit later hlater
  obtain ⟨_, late, front, doc, keyword, behind, d, -, -, hafter, htokens, hread, rfl⟩ :=
    exists_readAt_of_signatures hsplit
  rw [← hafter] at hlater
  obtain ⟨f, hf, hsig⟩ := List.mem_filterMap.mp hlater
  obtain rfl := Finding.signature?_eq_some.mp hsig
  obtain ⟨early, latest, hfindings⟩ := List.append_of_mem hf
  obtain ⟨front', doc', keyword', behind', d', htokens', hread', -⟩ :=
    exists_readAt [] (by simp) hfindings
  obtain ⟨x, hx, hstart⟩ := hread'.exists_start
  rw [← htokens', List.nil_append] at hx
  obtain ⟨xs, hclose⟩ := hread.exists_close htokens
  have hapart : (ofText s.text).Pairwise fun x y => x.stop ≤ y.start :=
    pairwise_ofTextFrom 0 [] s.text
  rw [hclose] at hapart
  rw [← hstart, ← hread.stop_eq]
  exact (List.pairwise_cons.mp (List.pairwise_append.mp hapart).2.1).1 x hx

/-- Whatever the text, no token that is looked up is missing, no depth is counted below zero and no
cut fails, and spans are not empty, follow each other, and spell what was read from them. -/
theorem lookups_and_spans (s : SourceText) (raw : Text) :
    s.extractByLookups? = some s.extract ∧
    Parameter.parseByLookups? raw = some (Parameter.parseList raw) ∧
    s.extract.signatures.Pairwise (fun a b => a.stop ≤ b.start) ∧
    ∀ sig ∈ s.extract.signatures, sig.start < sig.stop ∧
      ∃ span, s.text.slice? sig.start sig.stop = some span ∧ sig.Spells span := by
  refine ⟨s.extractByLookups?_eq, Parameter.parseByLookups?_eq raw, s.pairwise_stop_le_start, ?_⟩
  intro sig hsig
  obtain ⟨before, after, hsplit⟩ := List.append_of_mem hsig
  obtain ⟨_, _, front, doc, keyword, behind, d, -, -, -, htokens, hread, -⟩ :=
    exists_readAt_of_signatures hsplit
  obtain ⟨span, hslice, hspells⟩ := hread.exists_spells htokens
  refine ⟨?_, span, hslice, hspells⟩
  obtain ⟨front, after, -, hstart, hstop⟩ := Text.slice?_eq_some.mp hslice
  have hpos := hspells.byteSize_pos
  rw [Text.byteSize_append] at hstop
  omega

theorem lookups_and_spans_stray :
    straySource.extractByLookups? = some straySource.extract ∧
      strayFirst ∈ straySource.extract.signatures ∧ strayFirst.start < strayFirst.stop ∧
      ∃ span, straySource.text.slice? 18 51 = some span ∧ strayFirst.Spells span := by
  have h : strayFirst ∈ straySource.extract.signatures := by decide
  obtain ⟨hread, -, -, hspans⟩ := lookups_and_spans straySource []
  exact ⟨hread, h, hspans strayFirst h⟩

end SourceText

end RpcDispatch
