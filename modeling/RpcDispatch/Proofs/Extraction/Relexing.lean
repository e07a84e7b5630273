import RpcDispatch.Proofs.Extraction.Writing
import RpcDispatch.Proofs.Lexing.Trimming

/-!
# Reading a parameter list again

The parameters of a signature are kept as text, which is cut into tokens a second time to read them.
The text was cut out between two parentheses and trimmed, and the tokens are still those that stood
there, but for white space at both ends that is no layout to the lexer.
-/

namespace RpcDispatch

open Token

/-! ## Tokens that a bracket group does not count -/

variable {opener closer : TokenKind}

/-- Tokens that are not the brackets may be left out of the count. -/
theorem depthAfter?_filter {p : TokenKind → Bool} (ho : p opener = true) (hc : p closer = true)
    (depth : Nat) (ks : List TokenKind) :
    depthAfter? opener closer depth (ks.filter p) = depthAfter? opener closer depth ks := by
  induction ks generalizing depth with
  | nil => rfl
  | cons k ks ih =>
      by_cases hk : p k = true
      · rw [List.filter_cons_of_pos hk]
        cases depth <;> simp only [depthAfter?, ih]
      · have hne : k ≠ opener ∧ k ≠ closer := by
          constructor
          · rintro rfl
            exact hk ho
          · rintro rfl
            exact hk hc
        rw [List.filter_cons_of_neg hk, depthAfter?_other hne.1 hne.2]
        exact ih depth

/-- White space around a run of tokens does not change which brackets it leaves open. -/
theorem depthAfter?_spaces {pre middle post : List Token} (hpre : ∀ x ∈ pre, IsSpace x)
    (hpost : ∀ x ∈ post, IsSpace x) (ho : opener ≠ .other) (hc : closer ≠ .other) (depth : Nat) :
    depthAfter? opener closer depth ((pre ++ (middle ++ post)).map kind) =
      depthAfter? opener closer depth (middle.map kind) := by
  have hnone {xs : List Token} (hx : ∀ x ∈ xs, IsSpace x) :
      (xs.map kind).filter (· != .other) = [] := by
    rw [List.filter_eq_nil_iff]
    intro k hk
    obtain ⟨x, hmem, rfl⟩ := List.mem_map.mp hk
    simp [(hx x hmem).1]
  have hfilter : ((pre ++ (middle ++ post)).map kind).filter (· != .other) =
      (middle.map kind).filter (· != .other) := by
    rw [List.map_append, List.map_append, List.filter_append, List.filter_append, hnone hpre,
      hnone hpost, List.nil_append, List.append_nil]
  have hopen : (opener != .other) = true := by simpa using ho
  have hclose : (closer != .other) = true := by simpa using hc
  have hcount := depthAfter?_filter (p := (· != .other)) hopen hclose depth
  rw [← hcount, hfilter, hcount]

/-! ## A slice of a source -/

/-- `raw` is a slice that begins at `offset`, without the white space at its ends; and its tokens,
moved to its place, are those of the slice, without the tokens of white space at their ends. -/
inductive Token.Relexes (offset : Nat) : (slice raw : Text) → List Token → Prop
  | mk {lead raw trail : Text} {pre middle post : List Token} :
      (∀ c ∈ lead, Text.isSpace c = true) → (∀ c ∈ trail, Text.isSpace c = true) →
      (∀ x ∈ pre, IsSpace x) → (∀ x ∈ post, IsSpace x) →
      (ofText raw).map (placed (offset + Text.byteSize lead)) = middle.map (placed 0) →
      Relexes offset (lead ++ (raw ++ trail)) raw (pre ++ (middle ++ post))

namespace Token

/-- White space at the ends is layout or tokens of its own, so trimming breaks no token. -/
theorem relexes_trim (offset : Nat) (gap t : Text) :
    Relexes offset t (Text.trim t) (ofTextFrom offset gap t) := by
  obtain ⟨lead, trail, pre, middle, post, ht, hlead, htrail, htokens, hpre, hpost, hsame⟩ :=
    ofTextFrom_trim offset gap t
  rw [htokens]
  generalize hraw : Text.trim t = raw at ht hsame
  rw [ht]
  exact .mk hlead htrail hpre hpost hsame

/-- Brackets that balance in a slice balance in what is kept of it. -/
theorem Relexes.isBalanced {offset : Nat} {slice raw : Text} {tokens : List Token}
    (h : Relexes offset slice raw tokens) (ho : opener ≠ .other) (hc : closer ≠ .other)
    (hd : depthAfter? opener closer 0 (tokens.map kind) = some 0) :
    raw.isBalanced opener closer = true := by
  cases h with
  | @mk lead raw trail pre middle post _ _ hpre hpost hsame =>
      have hkinds : kinds raw = middle.map kind := by
        have hfst := congrArg (List.map Prod.fst) hsame
        rw [List.map_map, List.map_map] at hfst
        exact hfst
      rw [depthAfter?_spaces hpre hpost ho hc] at hd
      rw [Text.isBalanced, hkinds, hd]
      rfl

/-- The text between two tokens, and the tokens that are cut from it. -/
structure Encloses (source : Text) (opening : Token) (inner : List Token) (close : Token)
    (before slice after : Text) : Prop where
  among : opening :: (inner ++ [close]) <:+: ofText source
  text : source = before ++ (slice ++ after)
  stop : opening.stop = Text.byteSize before
  start : close.start = Text.byteSize (before ++ slice)
  tokens : inner = ofTextFrom opening.stop [] slice
  spelled : slice = between inner close

theorem exists_encloses {source : Text} {xs inner ys : List Token} {opening close : Token}
    (h : ofText source = xs ++ opening :: (inner ++ close :: ys)) :
    ∃ before slice after, Encloses source opening inner close before slice after := by
  rw [ofText_eq] at h
  obtain ⟨front, behind, hopen⟩ := exists_splits h
  obtain ⟨slice, after, hclose⟩ := exists_splits hopen.back
  have hstop : opening.stop = Text.byteSize (front ++ opening.text) := by
    rw [Token.stop, hopen.start, Text.byteSize_append]
    omega
  refine ⟨front ++ opening.text, slice, close.text ++ after, ?_, ?_, hstop, ?_,
    hclose.front.symm, ?_⟩
  · exact ⟨xs, ys, by simp [ofText_eq, h]⟩
  · rw [hopen.text, hclose.text, List.append_assoc]
  · rw [hclose.start, hstop, Text.byteSize_append (front ++ opening.text)]
  · exact hclose.between_eq.symm

end Token

/-! ## The parameters of a signature -/

/-- What a signature was made of: a keyword, the definition read behind it, and the parenthesis that
opens its parameter list. -/
structure SourceText.Origin (s : SourceText) (sig : Signature) (keyword : Token) (d : Definition)
    (opening : Token) : Prop where
  kind : keyword.kind = .defineFunction
  read : ∃ rest, keyword :: rest <:+ ofText s.text ∧ Definition.read keyword rest = .ok d
  opens : nextOfKind? .leftParen d.head.rest =
    some (opening, d.params.inner ++ d.params.close :: d.params.rest)
  closes : d.params.close.kind = .rightParen
  balanced : depthAfter? .leftParen .rightParen 0 (d.params.inner.map Token.kind) = some 0
  signature : ∃ doc, sig = s.signature doc keyword d

namespace SourceText

variable (s : SourceText)

theorem exists_origin {sig : Signature} (h : sig ∈ s.extract.signatures) :
    ∃ keyword d opening, Origin s sig keyword d opening := by
  obtain ⟨doc, keyword, rest, d, hsuffix, hkind, hread, hsig⟩ := s.exists_read_of_mem_signatures h
  obtain ⟨-, opening, inParens, -, -, hopen, hparams, -, -⟩ := Definition.read_eq_ok.mp hread
  obtain ⟨rfl, hclose, hdepth⟩ := (Group.read?_eq_some (by decide)).mp hparams
  exact ⟨keyword, d, opening, hkind, ⟨rest, hsuffix, hread⟩, hopen, hclose, hdepth, doc, hsig⟩

/-- The parentheses and what they enclose follow each other among the tokens of the source. -/
theorem Origin.exists_ofText_eq {s : SourceText} {sig : Signature} {keyword opening : Token}
    {d : Definition} (h : Origin s sig keyword d opening) : ∃ xs ys,
      ofText s.text = xs ++ opening :: (d.params.inner ++ d.params.close :: ys) := by
  obtain ⟨rest, hsuffix, hread⟩ := h.read
  obtain ⟨cs, -, -, hhead⟩ := nextSignificant?_eq_some.mp (nextOfKind?_eq_some.mp h.opens).1
  have hopening : opening :: (d.params.inner ++ d.params.close :: d.params.rest) <:+ d.head.rest :=
    ⟨cs, hhead.symm⟩
  have hrest := DefinitionHead.read_suffix (Definition.read_eq_ok.mp hread).1
  obtain ⟨xs, hxs⟩ := hopening.trans (hrest.trans ((List.suffix_cons keyword rest).trans hsuffix))
  exact ⟨xs, d.params.rest, hxs.symm⟩

/-- The kept parameter text has the tokens that stand between the parentheses of its definition, and
its parentheses are balanced. -/
theorem relexes_rawParams {sig : Signature} (h : sig ∈ s.extract.signatures) :
    ∃ (keyword : Token) (d : Definition) (opening : Token) (before slice after : Text),
      Origin s sig keyword d opening ∧
      Encloses s.text opening d.params.inner d.params.close before slice after ∧
      Relexes opening.stop slice sig.rawParams d.params.inner ∧
      sig.rawParams.isBalanced .leftParen .rightParen = true := by
  obtain ⟨keyword, d, opening, horigin⟩ := s.exists_origin h
  obtain ⟨xs, ys, htokens⟩ := horigin.exists_ofText_eq
  obtain ⟨before, slice, after, hencloses⟩ := exists_encloses htokens
  have hraw : sig.rawParams = Text.trim slice := by
    obtain ⟨doc, rfl⟩ := horigin.signature
    rw [hencloses.spelled]
    rfl
  have hrelexes : Relexes opening.stop slice sig.rawParams d.params.inner := by
    rw [hraw, hencloses.tokens]
    exact relexes_trim opening.stop [] slice
  refine ⟨keyword, d, opening, before, slice, after, horigin, hencloses, hrelexes, ?_⟩
  exact hrelexes.isBalanced (by decide) (by decide) horigin.balanced

def paddedSource : SourceText where
  path := ⟨"a.axi".toList⟩
  text := "define_function f(\u00a0 integer i // x\n) \x7b\x7d".toList

def paddedSignature : Signature where
  docComment := none
  returnType := none
  returnWidth := none
  name := "f".toList
  rawParams := "integer i // x".toList
  body := []
  sourceFile := ⟨"a.axi".toList⟩
  start := 0
  stop := 40
  location := ⟨1, 1⟩

/-- The space in front is one that the lexer takes for a token. -/
theorem relexes_rawParams_padded :
    paddedSignature ∈ paddedSource.extract.signatures ∧
      ∃ (keyword : Token) (d : Definition) (opening : Token) (before slice after : Text),
        Origin paddedSource paddedSignature keyword d opening ∧
        Encloses paddedSource.text opening d.params.inner d.params.close before slice after ∧
        Relexes opening.stop slice paddedSignature.rawParams d.params.inner ∧
        paddedSignature.rawParams.isBalanced .leftParen .rightParen = true :=
  ⟨by decide, paddedSource.relexes_rawParams (by decide)⟩

end SourceText

end RpcDispatch
