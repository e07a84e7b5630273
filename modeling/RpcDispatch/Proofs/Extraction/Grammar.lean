import RpcDispatch.Proofs.Extraction.Closing

/-!
# The grammar of a definition

A definition is read where, comments dropped, the tokens behind the keyword begin with a name, a
type and a name, or a type with a width and a name, then a parameter list in parentheses, then a
body in braces. Every bracket ends where its own kind closes first. What is opened and not closed
swallows the rest of the file.
-/

namespace RpcDispatch

open Token

/-! ## Forms -/

abbrev Identifier := { t : Token // t.kind = .ident }

inductive HeadForm where
  | plain (name : Identifier)
  | typed (type name : Identifier)
  | sized (type : Identifier) (width : Bracketed .leftBracket .rightBracket) (name : Identifier)

namespace HeadForm

def tokens : HeadForm → List Token
  | plain name => [name.1]
  | typed type name => [type.1, name.1]
  | sized type width name => type.1 :: (width.tokens ++ [name.1])

def name : HeadForm → Token
  | plain name | typed _ name | sized _ _ name => name.1

def type? : HeadForm → Option Token
  | plain _ => none
  | typed type _ | sized type _ _ => some type.1

def width? : HeadForm → Option (Bracketed .leftBracket .rightBracket)
  | plain _ | typed _ _ => none
  | sized _ width _ => some width

end HeadForm

structure DefinitionForm where
  head : HeadForm
  params : Bracketed .leftParen .rightParen
  body : Bracketed .leftBrace .rightBrace

def DefinitionForm.tokens (f : DefinitionForm) : List Token :=
  f.head.tokens ++ (f.params.tokens ++ f.body.tokens)

/-- Behind a head, a parameter list is opened and not closed; or behind that, a body. -/
inductive Unclosed : List Token → Prop
  | params {head : HeadForm} {opening : Token} {rest : List Token} : opening.kind = .leftParen →
      (∀ xs, xs <+: rest → ¬Closes .leftParen .rightParen xs) →
      Unclosed (head.tokens ++ opening :: rest)
  | body {head : HeadForm} {params : Bracketed .leftParen .rightParen} {opening : Token}
      {rest : List Token} : opening.kind = .leftBrace →
      (∀ xs, xs <+: rest → ¬Closes .leftBrace .rightBrace xs) →
      Unclosed (head.tokens ++ (params.tokens ++ opening :: rest))

/-! ## Reading with comments -/

section

variable {opener closer kind : TokenKind} {ts us rest : List Token} {t : Token}

theorem significant_of_next (h : nextSignificant? ts = some (t, rest)) :
    significant ts = t :: significant rest := by
  obtain ⟨cs, hcomments, ht, rfl⟩ := nextSignificant?_eq_some.mp h
  have hnone : significant cs = [] := by
    rw [significant, List.filter_eq_nil_iff]
    intro c hc
    simp [hcomments c hc]
  rw [significant, List.filter_append]
  exact congrArg₂ _ hnone (significant_cons ht rest)

theorem exists_next_of_significant (h : significant ts = t :: us) :
    ∃ rest, nextSignificant? ts = some (t, rest) ∧ significant rest = us := by
  induction ts with
  | nil => cases h
  | cons x ts ih =>
      by_cases hx : x.isComment = true
      · rw [significant_comment hx] at h
        rw [nextSignificant?, if_pos hx]
        exact ih h
      · rw [significant_cons (by simpa using hx)] at h
        obtain ⟨rfl, rfl⟩ := List.cons.inj h
        exact ⟨ts, by rw [nextSignificant?, if_neg hx], rfl⟩

theorem exists_nextOfKind_of_significant (h : significant ts = t :: us) (hk : t.kind = kind) :
    ∃ rest, nextOfKind? kind ts = some (t, rest) ∧ significant rest = us := by
  obtain ⟨rest, hnext, hrest⟩ := exists_next_of_significant h
  exact ⟨rest, nextOfKind?_eq_some.mpr ⟨hnext, hk⟩, hrest⟩

namespace Bracketed

variable {b : Bracketed opener closer} {g : Group}

/-- Among the tokens `ts` the group `g` was read behind the bracket. -/
structure IsReadAs (b : Bracketed opener closer) (ts : List Token) (g : Group) : Prop where
  suffix : b.opening :: (g.inner ++ g.close :: g.rest) <:+ ts
  closing : g.close = b.closing

theorem IsReadAs.mono {ts' : List Token} (h : b.IsReadAs ts g) (hts : ts <:+ ts') :
    b.IsReadAs ts' g :=
  ⟨h.suffix.trans hts, h.closing⟩

/-- A bracket that comes next is read as a group. -/
theorem exists_isReadAs (hne : opener ≠ closer) (ho : opener.isComment = false)
    (hc : closer.isComment = false) (h : significant ts = b.tokens ++ us) :
    ∃ after g, nextOfKind? opener ts = some (b.opening, after) ∧
      Group.read? opener closer 0 after = some g ∧ b.IsReadAs ts g ∧ significant g.rest = us := by
  have htokens : b.tokens ++ us = b.opening :: (b.inner ++ b.closing :: us) := by simp [tokens]
  rw [htokens] at h
  obtain ⟨after, hnext, hafter⟩ := exists_nextOfKind_of_significant h b.opens
  have hread : Group.read? opener closer 0 (significant after) = some ⟨b.inner, b.closing, us⟩ :=
    (Group.read?_eq_some_iff hne).mpr ⟨b.closes, hafter⟩
  rw [Group.read?_significant hne ho hc] at hread
  obtain ⟨g, hg, hsignificant⟩ := Option.map_eq_some_iff.mp hread
  refine ⟨after, g, hnext, hg, ⟨?_, congrArg Group.close hsignificant⟩,
    congrArg Group.rest hsignificant⟩
  obtain ⟨cs, -, -, hts⟩ := nextSignificant?_eq_some.mp (nextOfKind?_eq_some.mp hnext).1
  rw [← ((Group.read?_eq_some_iff hne).mp hg).2]
  exact ⟨cs, hts.symm⟩

/-- What is read as a group is a bracket up to the one that closes it. -/
theorem exists_of_read (hne : opener ≠ closer) (ho : opener.isComment = false)
    (hc : closer.isComment = false) (hnext : nextOfKind? opener ts = some (t, rest))
    (hg : Group.read? opener closer 0 rest = some g) :
    ∃ b : Bracketed opener closer, significant ts = b.tokens ++ significant g.rest := by
  obtain ⟨hnext, hk⟩ := nextOfKind?_eq_some.mp hnext
  have hread : Group.read? opener closer 0 (significant rest) = some g.significant := by
    rw [Group.read?_significant hne ho hc, hg]
    rfl
  obtain ⟨hcloses, hrest⟩ := (Group.read?_eq_some_iff hne).mp hread
  refine ⟨⟨t, significant g.inner, g.close, hk, hcloses⟩, ?_⟩
  rw [significant_of_next hnext, hrest]
  simp [tokens, Group.significant]

end Bracketed

end

/-! ## Heads -/

namespace HeadForm

variable {f : HeadForm} {head : DefinitionHead} {keyword opening : Token}
  {ts us : List Token}

/-- The parts of a head that was read among the tokens `ts` are those of the form. -/
structure Fits (f : HeadForm) (ts : List Token) (head : DefinitionHead) : Prop where
  name : head.name = f.name
  returnType : head.returnType = f.type?.map (·.text)
  returnWidth : Option.Rel (fun b w => ∃ g, b.IsReadAs ts g ∧ w = ArrayWidth.ofText g.text)
    f.width? head.returnWidth

/-- In front of a parenthesis, every form of a head is read. -/
theorem exists_fits (keyword : Token) (hk : opening.kind = .leftParen)
    (h : significant ts = f.tokens ++ opening :: us) :
    ∃ head, DefinitionHead.read keyword ts = .ok head ∧ f.Fits ts head ∧
      head.rest <:+ ts ∧ significant head.rest = opening :: us := by
  cases f with
  | plain name =>
      obtain ⟨afterName, hname, hafter⟩ := exists_nextOfKind_of_significant h name.2
      obtain ⟨behind, hopening, -⟩ := exists_next_of_significant hafter
      have hread : DefinitionHead.read keyword ts = .ok _ := DefinitionHead.read_eq_ok.mpr
        ⟨_, _, _, _, hname, hopening, .inl ⟨hk, rfl⟩⟩
      exact ⟨_, hread, ⟨rfl, rfl, .none⟩, DefinitionHead.read_suffix hread, hafter⟩
  | typed type name =>
      obtain ⟨afterType, htype, hafter⟩ := exists_nextOfKind_of_significant h type.2
      obtain ⟨afterName, hname, hafter⟩ := exists_next_of_significant hafter
      have hread : DefinitionHead.read keyword ts = .ok _ := DefinitionHead.read_eq_ok.mpr
        ⟨_, _, _, _, htype, hname, .inr (.inl ⟨name.2, rfl⟩)⟩
      exact ⟨_, hread, ⟨rfl, rfl, .none⟩, DefinitionHead.read_suffix hread, hafter⟩
  | sized type width name =>
      have htokens : (sized type width name).tokens ++ opening :: us =
          type.1 :: (width.tokens ++ (name.1 :: opening :: us)) := by simp [tokens]
      rw [htokens] at h
      obtain ⟨afterType, htype, hafter⟩ := exists_nextOfKind_of_significant h type.2
      obtain ⟨inner, g, hbracket, hg, hreadAs, hrest⟩ :=
        Bracketed.exists_isReadAs (by decide) rfl rfl hafter
      obtain ⟨afterName, hname, hafterName⟩ := exists_nextOfKind_of_significant hrest name.2
      obtain ⟨hbracket, hkind⟩ := nextOfKind?_eq_some.mp hbracket
      have hread : DefinitionHead.read keyword ts = .ok _ := DefinitionHead.read_eq_ok.mpr
        ⟨_, _, _, _, htype, hbracket, .inr (.inr ⟨hkind, g, _, _, hg, hname, rfl⟩)⟩
      refine ⟨_, hread, ⟨rfl, rfl, .some ⟨g, ?_, rfl⟩⟩, DefinitionHead.read_suffix hread,
        hafterName⟩
      exact hreadAs.mono (nextOfKind?_suffix htype)

/-- A head that was read has one of the forms. -/
theorem exists_of_read (h : DefinitionHead.read keyword ts = .ok head) :
    ∃ f : HeadForm, significant ts = f.tokens ++ significant head.rest := by
  obtain ⟨first, afterFirst, second, afterSecond, hfirst, hsecond, hform⟩ :=
    DefinitionHead.read_eq_ok.mp h
  obtain ⟨hfirst, hfirstKind⟩ := nextOfKind?_eq_some.mp hfirst
  rw [significant_of_next hfirst]
  rcases hform with ⟨-, rfl⟩ | ⟨hk, rfl⟩ | ⟨hk, width, name, rest, hwidth, hname, rfl⟩
  · exact ⟨.plain ⟨first, hfirstKind⟩, rfl⟩
  · refine ⟨.typed ⟨first, hfirstKind⟩ ⟨second, hk⟩, ?_⟩
    rw [significant_of_next hsecond]
    rfl
  · obtain ⟨b, hb⟩ := Bracketed.exists_of_read (by decide) rfl rfl
      (nextOfKind?_eq_some.mpr ⟨hsecond, hk⟩) hwidth
    obtain ⟨hname, hnameKind⟩ := nextOfKind?_eq_some.mp hname
    refine ⟨.sized ⟨first, hfirstKind⟩ b ⟨name, hnameKind⟩, ?_⟩
    rw [hb, significant_of_next hname]
    simp [tokens]

end HeadForm

/-! ## Definitions -/

namespace DefinitionForm

variable {f : DefinitionForm} {d : Definition} {keyword : Token} {ts : List Token}

/-- The parts of a definition that was read among the tokens `ts` are those of the form. -/
structure Fits (f : DefinitionForm) (ts : List Token) (d : Definition) : Prop where
  head : f.head.Fits ts d.head
  params : f.params.IsReadAs ts d.params
  body : f.body.IsReadAs ts d.body

/-- Tokens that begin with a form are read, whatever follows it. -/
theorem exists_fits (keyword : Token) (h : f.tokens <+: significant ts) :
    ∃ d, Definition.read keyword ts = .ok d ∧ f.Fits ts d := by
  obtain ⟨us, hus⟩ := h
  have htokens : f.tokens ++ us = f.head.tokens ++
      f.params.opening :: (f.params.inner ++ f.params.closing :: (f.body.tokens ++ us)) := by
    simp [tokens, Bracketed.tokens]
  rw [htokens] at hus
  obtain ⟨head, hhead, hfits, hsuffix, hrest⟩ :=
    HeadForm.exists_fits keyword f.params.opens hus.symm
  obtain ⟨inParens, params, hparen, hparams, hparamsAs, hrest⟩ :=
    Bracketed.exists_isReadAs (by decide) rfl rfl
      (show significant head.rest = f.params.tokens ++ (f.body.tokens ++ us) by
        simpa [Bracketed.tokens] using hrest)
  obtain ⟨inBraces, body, hbrace, hbody, hbodyAs, -⟩ :=
    Bracketed.exists_isReadAs (by decide) rfl rfl hrest
  have hparamsAs := hparamsAs.mono hsuffix
  have hbehind : params.rest <:+ ts := by
    refine List.IsSuffix.trans ?_ hparamsAs.suffix
    exact ⟨f.params.opening :: (params.inner ++ [params.close]), by simp⟩
  refine ⟨⟨head, params, body⟩, ?_, hfits, hparamsAs, hbodyAs.mono hbehind⟩
  exact Definition.read_eq_ok.mpr ⟨hhead, _, _, _, _, hparen, hparams, hbrace, hbody⟩

/-- Conversely, what was read begins with a form. -/
theorem exists_of_read (h : Definition.read keyword ts = .ok d) :
    ∃ f : DefinitionForm, f.tokens <+: significant ts := by
  obtain ⟨hhead, _, _, _, _, hparen, hparams, hbrace, hbody⟩ := Definition.read_eq_ok.mp h
  obtain ⟨head, htokens⟩ := HeadForm.exists_of_read hhead
  obtain ⟨params, hrest⟩ := Bracketed.exists_of_read (by decide) rfl rfl hparen hparams
  obtain ⟨body, hbehind⟩ := Bracketed.exists_of_read (by decide) rfl rfl hbrace hbody
  refine ⟨⟨head, params, body⟩, significant d.body.rest, ?_⟩
  rw [htokens, hrest, hbehind]
  simp [tokens]

end DefinitionForm

/-! ## Failures -/

section

variable {keyword : Token} {ts : List Token} {e : DefinitionFailure}

/-- No failure in a head is fatal, not even an open width. -/
theorem DefinitionHead.isFatal_of_error (h : read keyword ts = .error e) :
    e.fault.isFatal = false := by
  simp only [read, bind_eq_error, elim_throw_eq_error] at h
  rcases h with ⟨-, rfl⟩ | ⟨first, -, h⟩
  · rfl
  split at h
  next =>
    split at h
    next => cases h
    next => cases h
    next =>
      simp only [bind_eq_error, elim_throw_eq_error] at h
      rcases h with ⟨-, rfl⟩ | ⟨width, -, ⟨-, rfl⟩ | ⟨name, -, h⟩⟩
      · rfl
      · rfl
      · cases h
    next =>
      obtain rfl := Except.error.inj h
      rfl
  next =>
    obtain rfl := Except.error.inj h
    rfl

/-- Only an open parameter list or an open body swallows the rest. -/
theorem Definition.read_eq_fatal_iff :
    (∃ e, read keyword ts = .error e ∧ e.fault.isFatal = true) ↔
      ∃ head paren inParens, DefinitionHead.read keyword ts = .ok head ∧
        nextOfKind? .leftParen head.rest = some (paren, inParens) ∧
        (Group.read? .leftParen .rightParen 0 inParens = none ∨
          ∃ params brace inBraces, Group.read? .leftParen .rightParen 0 inParens = some params ∧
            nextOfKind? .leftBrace params.rest = some (brace, inBraces) ∧
            Group.read? .leftBrace .rightBrace 0 inBraces = none) := by
  simp only [read, bind_eq_error, elim_throw_eq_error, elim_throw_eq_ok]
  constructor
  · rintro ⟨e, h, hfatal⟩
    rcases h with h | ⟨head, hhead, ⟨-, rfl⟩ | ⟨⟨paren, inParens⟩, hparen, h⟩⟩
    · rw [DefinitionHead.isFatal_of_error h] at hfatal
      cases hfatal
    · cases hfatal
    refine ⟨head, paren, inParens, hhead, hparen, ?_⟩
    rcases h with ⟨hnone, -⟩ | ⟨params, hparams, ⟨-, rfl⟩ | ⟨⟨brace, inBraces⟩, hbrace, h⟩⟩
    · exact .inl hnone
    · cases hfatal
    rcases h with ⟨hnone, -⟩ | ⟨body, -, h⟩
    · exact .inr ⟨params, brace, inBraces, hparams, hbrace, hnone⟩
    · cases h
  · rintro ⟨head, paren, inParens, hhead, hparen, hnone | ⟨params, brace, inBraces, hparams, hbrace,
      hnone⟩⟩
    · exact ⟨_, .inr ⟨head, hhead, .inr ⟨_, hparen, .inl ⟨hnone, rfl⟩⟩⟩, rfl⟩
    · exact ⟨_, .inr ⟨head, hhead, .inr ⟨_, hparen, .inr ⟨params, hparams, .inr ⟨_, hbrace,
        .inl ⟨hnone, rfl⟩⟩⟩⟩⟩, rfl⟩

/-- A group that comes to no end, with comments dropped. -/
theorem Group.read?_eq_none_iff_significant {opener closer : TokenKind} (hne : opener ≠ closer)
    (ho : opener.isComment = false) (hc : closer.isComment = false) :
    read? opener closer 0 ts = none ↔
      ∀ xs, xs <+: Token.significant ts → ¬Closes opener closer xs := by
  rw [← read?_eq_none_iff hne, read?_significant hne ho hc, Option.map_eq_none_iff]

/-- A failure is fatal where a parameter list or a body is open to the end of the file. -/
theorem fatal_iff_unclosed :
    (∃ e, Definition.read keyword ts = .error e ∧ e.fault.isFatal = true) ↔
      Unclosed (significant ts) := by
  rw [Definition.read_eq_fatal_iff]
  constructor
  · rintro ⟨head, paren, inParens, hhead, hparen, h⟩
    obtain ⟨f, hf⟩ := HeadForm.exists_of_read hhead
    obtain ⟨hnext, hkind⟩ := nextOfKind?_eq_some.mp hparen
    rcases h with hnone | ⟨params, brace, inBraces, hparams, hbrace, hnone⟩
    · rw [hf, significant_of_next hnext]
      exact .params hkind
        ((Group.read?_eq_none_iff_significant (by decide) rfl rfl).mp hnone)
    · obtain ⟨b, hb⟩ := Bracketed.exists_of_read (by decide) rfl rfl hparen hparams
      obtain ⟨hnext, hkind⟩ := nextOfKind?_eq_some.mp hbrace
      rw [hf, hb, significant_of_next hnext]
      exact .body hkind ((Group.read?_eq_none_iff_significant (by decide) rfl rfl).mp hnone)
  · intro h
    generalize hts : significant ts = us at h
    cases h with
    | params hkind hopen =>
        obtain ⟨head, hhead, -, -, hrest⟩ := HeadForm.exists_fits keyword hkind hts
        obtain ⟨inParens, hparen, hin⟩ := exists_nextOfKind_of_significant hrest hkind
        refine ⟨head, _, inParens, hhead, hparen, .inl ?_⟩
        rwa [Group.read?_eq_none_iff_significant (by decide) rfl rfl, hin]
    | @body f params brace rest hkind hopen =>
        have hopening : significant ts =
            f.tokens ++ params.opening :: (params.inner ++ params.closing :: brace :: rest) := by
          simp [hts, Bracketed.tokens]
        obtain ⟨head, hhead, -, -, hrest⟩ := HeadForm.exists_fits keyword params.opens hopening
        obtain ⟨inParens, g, hparen, hg, -, hbehind⟩ :=
          Bracketed.exists_isReadAs (by decide) rfl rfl
            (show significant head.rest = params.tokens ++ brace :: rest by
              simpa [Bracketed.tokens] using hrest)
        obtain ⟨inBraces, hbrace, hin⟩ := exists_nextOfKind_of_significant hbehind hkind
        refine ⟨head, _, inParens, hhead, hparen, .inr ⟨g, _, inBraces, hg, hbrace, ?_⟩⟩
        rwa [Group.read?_eq_none_iff_significant (by decide) rfl rfl, hin]

end

/-! ## The source text -/

/-- `t` is the text of the source between a bracket and the one that closes it. -/
def Bracketed.Spells {opener closer : TokenKind} (b : Bracketed opener closer) (source t : Text) :
    Prop :=
  ∃ before after, source = before ++ (t ++ after) ∧ b.opening.stop = Text.byteSize before ∧
    b.closing.start = Text.byteSize (before ++ t)

theorem Bracketed.IsReadAs.spells {opener closer : TokenKind} {b : Bracketed opener closer}
    {source : Text} {g : Group} (h : b.IsReadAs (ofText source) g) : b.Spells source g.text := by
  obtain ⟨xs, hxs⟩ := h.suffix
  obtain ⟨before, slice, after, hencloses⟩ := exists_encloses hxs.symm
  have hslice : slice = g.text := hencloses.spelled
  rw [hslice] at hencloses
  refine ⟨before, after, hencloses.text, hencloses.stop, ?_⟩
  rw [← h.closing]
  exact hencloses.start

/-- A signature says what stands in the source in the places of the form. -/
structure DefinitionForm.Describes (f : DefinitionForm) (source : Text) (sig : Signature) :
    Prop where
  name : sig.name = f.head.name.text
  returnType : sig.returnType = f.head.type?.map (·.text)
  returnWidth : Option.Rel (fun b w => ∃ t, b.Spells source t ∧ w = ArrayWidth.ofText t)
    f.head.width? sig.returnWidth
  rawParams : ∃ t, f.params.Spells source t ∧ sig.rawParams = Text.trim t
  body : f.body.Spells source sig.body

theorem DefinitionForm.Fits.describes {s : SourceText} {f : DefinitionForm} {d : Definition}
    {ts : List Token} (h : f.Fits ts d) (hts : ts <:+ ofText s.text) (doc : Option Token)
    (keyword : Token) : f.Describes s.text (s.signature doc keyword d) where
  name := congrArg Token.text h.head.name
  returnType := h.head.returnType
  returnWidth := by
    refine optionRel_imp h.head.returnWidth ?_
    rintro b _ ⟨g, hg, rfl⟩
    exact ⟨g.text, (hg.mono hts).spells, rfl⟩
  rawParams := ⟨d.params.text, (h.params.mono hts).spells, rfl⟩
  body := (h.body.mono hts).spells

namespace SourceText

/-- A definition is read where the tokens behind the keyword begin with one of the forms, and
nowhere else; the signature says what stands there. The rest of the file is swallowed where a
parameter list or a body is open to its end. -/
theorem reads_forms_exactly {s : SourceText} {xs rest : List Token} {keyword : Token}
    (h : ofText s.text = xs ++ keyword :: rest) :
    ((∃ d, Definition.read keyword rest = .ok d) ↔
      ∃ f : DefinitionForm, f.tokens <+: significant rest) ∧
    (∀ (d : Definition) (f : DefinitionForm) (doc : Option Token),
      Definition.read keyword rest = .ok d → f.tokens <+: significant rest →
        f.Describes s.text (s.signature doc keyword d)) ∧
    ((∃ e, Definition.read keyword rest = .error e ∧ e.fault.isFatal = true) ↔
      Unclosed (significant rest)) := by
  refine ⟨⟨?_, ?_⟩, ?_, fatal_iff_unclosed⟩
  · rintro ⟨d, hd⟩
    exact DefinitionForm.exists_of_read hd
  · rintro ⟨f, hf⟩
    obtain ⟨d, hd, -⟩ := DefinitionForm.exists_fits keyword hf
    exact ⟨d, hd⟩
  · intro d f doc hd hf
    obtain ⟨d', hd', hfits⟩ := DefinitionForm.exists_fits keyword hf
    obtain rfl : d = d' := Except.ok.inj (hd.symm.trans hd')
    exact hfits.describes ⟨xs ++ [keyword], by simp [h]⟩ doc keyword

def nestedSource : SourceText where
  path := ⟨"a.axi".toList⟩
  text := "x define_function /* ( */ char[a[1]] f((integer) i (* ) *)) \x7b ')' \x7b \x7d \x7d y".toList

def nestedKeyword : Token := ⟨.defineFunction, " ".toList, "define_function".toList, 2⟩

def nestedRest : List Token := (ofText nestedSource.text).drop 2

/-- Brackets in brackets, in comments and in a string, and a return type with a width. -/
theorem reads_forms_exactly_nested :
    ofText nestedSource.text = (ofText nestedSource.text).take 1 ++ nestedKeyword :: nestedRest ∧
    ((∃ d, Definition.read nestedKeyword nestedRest = .ok d) ↔
      ∃ f : DefinitionForm, f.tokens <+: significant nestedRest) ∧
    (∀ (d : Definition) (f : DefinitionForm) (doc : Option Token),
      Definition.read nestedKeyword nestedRest = .ok d → f.tokens <+: significant nestedRest →
        f.Describes nestedSource.text (nestedSource.signature doc nestedKeyword d)) ∧
    ((∃ e, Definition.read nestedKeyword nestedRest = .error e ∧ e.fault.isFatal = true) ↔
      Unclosed (significant nestedRest)) :=
  have h : ofText nestedSource.text =
      (ofText nestedSource.text).take 1 ++ nestedKeyword :: nestedRest := by decide
  ⟨h, reads_forms_exactly h⟩

def blankSource : SourceText where
  path := ⟨"a.axi".toList⟩
  text := "define_function f( ) \x7b\x7d".toList

def blankKeyword : Token := ⟨.defineFunction, [], "define_function".toList, 0⟩

def blankRest : List Token := (ofText blankSource.text).drop 1

def blankName : Token := ⟨.ident, " ".toList, "f".toList, 16⟩

def blankClose : Token := ⟨.rightParen, " ".toList, ")".toList, 19⟩

def blankEnd : Token := ⟨.rightBrace, [], "\x7d".toList, 22⟩

def blankForm : DefinitionForm where
  head := .plain ⟨blankName, rfl⟩
  params := ⟨⟨.leftParen, [], "(".toList, 17⟩, [], blankClose, rfl, by decide⟩
  body := ⟨⟨.leftBrace, " ".toList, "\x7b".toList, 21⟩, [], blankEnd, rfl, by decide⟩

def blankDefinition : Definition where
  head := ⟨none, none, blankName, blankRest.drop 1⟩
  params := ⟨[], blankClose, blankRest.drop 3⟩
  body := ⟨[], blankEnd, []⟩

/-- White space at the ends of a parameter list is not kept. -/
theorem rawParams_ne_between :
    ofText blankSource.text = blankKeyword :: blankRest ∧ blankKeyword.kind = .defineFunction ∧
      Definition.read blankKeyword blankRest = .ok blankDefinition ∧
      blankForm.tokens <+: significant blankRest ∧
      blankForm.params.Spells blankSource.text " ".toList ∧
      (blankSource.signature none blankKeyword blankDefinition).rawParams ≠ " ".toList := by
  refine ⟨by decide, rfl, by decide, by decide, ?_, by decide⟩
  exact ⟨"define_function f(".toList, ") \x7b\x7d".toList, by decide⟩

end SourceText

end RpcDispatch
