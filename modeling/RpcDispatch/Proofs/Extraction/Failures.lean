import RpcDispatch.Proofs.Extraction.Nesting

/-!
# Where a definition fails

Behind a keyword the brackets in front of a body may be read, the width and the parameter list. A
failure shows behind all that were read, and if another keyword stands in front of the token where
it shows, then it stands in these brackets.
-/

namespace RpcDispatch

open Token

/-! ## Brackets -/

inductive HeadBrackets where
  | width
  | params
deriving DecidableEq

namespace HeadBrackets

def opener : HeadBrackets → TokenKind
  | width => .leftBracket
  | params => .leftParen

def closer : HeadBrackets → TokenKind
  | width => .rightBracket
  | params => .rightParen

theorem opener_ne_closer (b c : HeadBrackets) : b.opener ≠ c.closer := by
  cases b <;> cases c <;> decide

theorem closer_injective {b c : HeadBrackets} (h : b.closer = c.closer) : b = c := by
  cases b <;> cases c <;> first | rfl | cases h

end HeadBrackets

/-- The brackets that were read in the tokens behind a keyword. -/
inductive Passes (ts : List Token) : HeadBrackets → Group → Prop
  | width {first bracket : Token} {afterFirst inside : List Token} {g : Group} :
      nextOfKind? .ident ts = some (first, afterFirst) →
      nextOfKind? .leftBracket afterFirst = some (bracket, inside) →
      Group.read? .leftBracket .rightBracket 0 inside = some g → Passes ts .width g
  | params {keyword paren : Token} {head : DefinitionHead} {inside : List Token} {g : Group} :
      DefinitionHead.read keyword ts = .ok head →
      nextOfKind? .leftParen head.rest = some (paren, inside) →
      Group.read? .leftParen .rightParen 0 inside = some g → Passes ts .params g

/-- How reading fails behind a keyword, and the token it shows at. -/
inductive Fails (keyword : Token) (ts : List Token) : DefinitionFailure → Prop
  | noName : nextOfKind? .ident ts = none → Fails keyword ts ⟨.noName, keyword⟩
  | noParameterList {first : Token} {rest : List Token} :
      nextOfKind? .ident ts = some (first, rest) →
      Fails keyword ts ⟨.noParameterList first.text, first⟩
  | unclosedWidth {first bracket : Token} {rest inside : List Token} :
      nextOfKind? .ident ts = some (first, rest) →
      nextOfKind? .leftBracket rest = some (bracket, inside) →
      Fails keyword ts ⟨.unclosedWidth, bracket⟩
  | noNameAfterType {g : Group} : Passes ts .width g →
      Fails keyword ts ⟨.noNameAfterType, g.close⟩
  | noOpenParen {head : DefinitionHead} : DefinitionHead.read keyword ts = .ok head →
      Fails keyword ts ⟨.noOpenParen head.name.text, head.name⟩
  | unclosedParameters {head : DefinitionHead} {paren : Token} {inside : List Token} :
      DefinitionHead.read keyword ts = .ok head →
      nextOfKind? .leftParen head.rest = some (paren, inside) →
      Fails keyword ts ⟨.unclosedParameters, paren⟩
  | noBody {g : Group} : Passes ts .params g → Fails keyword ts ⟨.noBody, g.close⟩
  | unclosedBody {g : Group} {brace : Token} {inside : List Token} : Passes ts .params g →
      nextOfKind? .leftBrace g.rest = some (brace, inside) →
      Fails keyword ts ⟨.unclosedBody, brace⟩

section

variable {keyword : Token} {ts : List Token} {f : DefinitionFailure}

theorem DefinitionHead.fails_of_read (h : read keyword ts = .error f) : Fails keyword ts f := by
  simp only [read, bind_eq_error, elim_throw_eq_error, elim_throw_eq_ok] at h
  rcases h with ⟨hnone, rfl⟩ | ⟨⟨first, afterFirst⟩, hfirst, h⟩
  · exact .noName hnone
  dsimp only at h
  split at h
  next second afterSecond hsecond =>
    split at h
    next => cases h
    next => cases h
    next hk =>
      have hbracket := nextOfKind?_eq_some.mpr ⟨hsecond, hk⟩
      simp only [bind_eq_error, elim_throw_eq_error, elim_throw_eq_ok] at h
      rcases h with ⟨-, rfl⟩ | ⟨width, hwidth, ⟨-, rfl⟩ | ⟨name, -, h⟩⟩
      · exact .unclosedWidth hfirst hbracket
      · exact .noNameAfterType (.width hfirst hbracket hwidth)
      · cases h
    next =>
      obtain rfl := Except.error.inj h
      exact .noParameterList hfirst
  next =>
    obtain rfl := Except.error.inj h
    exact .noParameterList hfirst

/-- What can fail behind a head that was read. -/
theorem Definition.cases_of_head {head : DefinitionHead}
    (hhead : DefinitionHead.read keyword ts = .ok head) (h : read keyword ts = .error f) :
    (nextOfKind? .leftParen head.rest = none ∧ f = ⟨.noOpenParen head.name.text, head.name⟩) ∨
    ∃ paren inside, nextOfKind? .leftParen head.rest = some (paren, inside) ∧
      ((Group.read? .leftParen .rightParen 0 inside = none ∧ f = ⟨.unclosedParameters, paren⟩) ∨
        ∃ g, Group.read? .leftParen .rightParen 0 inside = some g ∧
          (f = ⟨.noBody, g.close⟩ ∨ ∃ brace inBraces,
            nextOfKind? .leftBrace g.rest = some (brace, inBraces) ∧
              f = ⟨.unclosedBody, brace⟩)) := by
  simp only [read, hhead, ok_bind, bind_eq_error, elim_throw_eq_error, elim_throw_eq_ok] at h
  rcases h with ⟨hnone, rfl⟩ | ⟨⟨paren, inside⟩, hparen, h⟩
  · exact .inl ⟨hnone, rfl⟩
  refine .inr ⟨paren, inside, hparen, ?_⟩
  rcases h with ⟨hnone, rfl⟩ | ⟨g, hg, ⟨-, rfl⟩ | ⟨⟨brace, inBraces⟩, hbrace, h⟩⟩
  · exact .inl ⟨hnone, rfl⟩
  · exact .inr ⟨g, hg, .inl rfl⟩
  rcases h with ⟨-, rfl⟩ | ⟨body, -, h⟩
  · exact .inr ⟨g, hg, .inr ⟨brace, inBraces, hbrace, rfl⟩⟩
  · cases h

/-- Every failure is one of those listed, at the token that it names. -/
theorem Definition.fails_of_read (h : read keyword ts = .error f) : Fails keyword ts f := by
  cases hhead : DefinitionHead.read keyword ts with
  | error e =>
      rw [read, hhead] at h
      obtain rfl := Except.error.inj h
      exact DefinitionHead.fails_of_read hhead
  | ok head =>
      rcases cases_of_head hhead h with ⟨-, rfl⟩ | ⟨paren, inside, hparen, ⟨-, rfl⟩ | ⟨g, hg, rfl |
        ⟨brace, inBraces, hbrace, rfl⟩⟩⟩
      · exact .noOpenParen hhead
      · exact .unclosedParameters hhead hparen
      · exact .noBody (.params hhead hparen hg)
      · exact .unclosedBody (.params hhead hparen hg) hbrace

/-! ## In front of a failure -/

/-- A token stands in the width or in the parameter list. -/
def StandsWithin (ts : List Token) (x : Token) : Prop := ∃ b g, Passes ts b g ∧ x ∈ g.inner

/-- The tokens `rest` are left, and keywords in front of them stand in brackets that were read. -/
def Reaches (ts rest : List Token) : Prop :=
  ∃ before, ts = before ++ rest ∧ ∀ x ∈ before, x.kind = .defineFunction → StandsWithin ts x

namespace Reaches

variable {rest inside : List Token} {t : Token} {kind : TokenKind}

theorem refl (ts : List Token) : Reaches ts ts := ⟨[], rfl, by simp⟩

theorem tail (h : Reaches ts (t :: rest)) (ht : t.kind ≠ .defineFunction) : Reaches ts rest := by
  obtain ⟨before, hts, hbefore⟩ := h
  refine ⟨before ++ [t], by simp [hts], fun x hx hk => ?_⟩
  rcases List.mem_append.mp hx with hx | hx
  · exact hbefore x hx hk
  · obtain rfl := List.mem_singleton.mp hx
    exact absurd hk ht

theorem nextSignificant (h : Reaches ts rest) (hnext : nextSignificant? rest = some (t, inside)) :
    Reaches ts (t :: inside) := by
  obtain ⟨cs, hcomments, -, rfl⟩ := nextSignificant?_eq_some.mp hnext
  clear hnext
  induction cs with
  | nil => exact h
  | cons c cs ih =>
      rw [List.forall_mem_cons] at hcomments
      refine ih hcomments.2 (h.tail fun hk => ?_)
      have hcomment := hcomments.1
      rw [isComment_eq hk] at hcomment
      cases hcomment

theorem nextOfKind (h : Reaches ts rest) (hnext : nextOfKind? kind rest = some (t, inside))
    (hkind : kind ≠ .defineFunction) : Reaches ts (t :: inside) ∧ Reaches ts inside := by
  obtain ⟨hsignificant, hk⟩ := nextOfKind?_eq_some.mp hnext
  have ht := h.nextSignificant hsignificant
  exact ⟨ht, ht.tail (hk ▸ hkind)⟩

/-- Keywords in a group that is read stand in brackets, so they may be passed. -/
theorem group {b : HeadBrackets} {g : Group} (h : Reaches ts inside) (hg : Passes ts b g)
    (hread : Group.read? b.opener b.closer 0 inside = some g) :
    Reaches ts (g.close :: g.rest) ∧ Reaches ts g.rest := by
  obtain ⟨rfl, hclose, -⟩ := (Group.read?_eq_some (b.opener_ne_closer b)).mp hread
  obtain ⟨before, hts, hbefore⟩ := h
  have hreach : Reaches ts (g.close :: g.rest) := by
    refine ⟨before ++ g.inner, by simp [hts], fun x hx hk => ?_⟩
    rcases List.mem_append.mp hx with hx | hx
    · exact hbefore x hx hk
    · exact ⟨b, g, hg, hx⟩
  refine ⟨hreach, hreach.tail ?_⟩
  rw [hclose]
  cases b <;> decide

end Reaches

theorem DefinitionHead.reaches_name {head : DefinitionHead} (h : read keyword ts = .ok head) :
    Reaches ts (head.name :: head.rest) ∧ Reaches ts head.rest := by
  obtain ⟨first, afterFirst, second, afterSecond, hfirst, hsecond, hform⟩ := read_eq_ok.mp h
  have hafter := (Reaches.refl ts).nextOfKind hfirst (by decide)
  rcases hform with ⟨-, rfl⟩ | ⟨hk, rfl⟩ | ⟨hk, width, name, rest, hwidth, hname, rfl⟩
  · exact hafter
  · exact hafter.2.nextOfKind (nextOfKind?_eq_some.mpr ⟨hsecond, hk⟩) (by decide)
  · have hbracket := nextOfKind?_eq_some.mpr ⟨hsecond, hk⟩
    have hinside := (hafter.2.nextOfKind hbracket (by decide)).2
    have hrest := (hinside.group (.width hfirst hbracket hwidth) hwidth).2
    exact hrest.nextOfKind hname (by decide)

/-- The tokens in front of brackets that were read are passed, and the brackets are a group. -/
theorem Passes.exists_inside {b : HeadBrackets} {g : Group} (h : Passes ts b g) :
    ∃ inside, Reaches ts inside ∧ Group.read? b.opener b.closer 0 inside = some g := by
  cases h with
  | width hfirst hbracket hwidth =>
      have hafter := (Reaches.refl ts).nextOfKind hfirst (by decide)
      exact ⟨_, (hafter.2.nextOfKind hbracket (by decide)).2, hwidth⟩
  | params hhead hparen hparams =>
      have hname := DefinitionHead.reaches_name hhead
      exact ⟨_, (hname.2.nextOfKind hparen (by decide)).2, hparams⟩

theorem Passes.reaches_close {b : HeadBrackets} {g : Group} (h : Passes ts b g) :
    Reaches ts (g.close :: g.rest) ∧ Reaches ts g.rest := by
  obtain ⟨inside, hinside, hread⟩ := h.exists_inside
  exact hinside.group h hread

/-- Keywords between a keyword and the token where its failure shows stand in brackets. -/
theorem Fails.reaches_place (h : Fails keyword ts f) :
    f.place = keyword ∨ ∃ rest, Reaches ts (f.place :: rest) := by
  cases h with
  | noName => exact .inl rfl
  | noParameterList hfirst => exact .inr ⟨_, ((Reaches.refl ts).nextOfKind hfirst (by decide)).1⟩
  | unclosedWidth hfirst hbracket =>
      have hafter := ((Reaches.refl ts).nextOfKind hfirst (by decide)).2
      exact .inr ⟨_, (hafter.nextOfKind hbracket (by decide)).1⟩
  | noNameAfterType hg => exact .inr ⟨_, hg.reaches_close.1⟩
  | noOpenParen hhead => exact .inr ⟨_, (DefinitionHead.reaches_name hhead).1⟩
  | unclosedParameters hhead hparen =>
      exact .inr ⟨_, ((DefinitionHead.reaches_name hhead).2.nextOfKind hparen (by decide)).1⟩
  | noBody hg => exact .inr ⟨_, hg.reaches_close.1⟩
  | unclosedBody hg hbrace => exact .inr ⟨_, (hg.reaches_close.2.nextOfKind hbrace (by decide)).1⟩

/-! ## Behind brackets -/

/-- The parentheses among the tokens have their partners there. -/
def ClosesParens (xs : List Token) : Prop :=
  depthAfter? .leftParen .rightParen 0 (xs.map kind) = some 0

namespace ClosesParens

variable {xs ys : List Token} {t : Token}

theorem append (hx : ClosesParens xs) (hy : ClosesParens ys) : ClosesParens (xs ++ ys) := by
  rw [ClosesParens, List.map_append, depthAfter?_append (by decide), hx]
  exact hy

theorem singleton (ht : t.kind = .ident) : ClosesParens [t] := by
  rw [ClosesParens, List.map_singleton, ht]
  rfl

theorem comments (h : ∀ t ∈ xs, t.isComment = true) : ClosesParens xs := by
  induction xs with
  | nil => rfl
  | cons t xs ih =>
      rw [List.forall_mem_cons] at h
      have hkind {k : TokenKind} (hk : k.isComment = false) : t.kind ≠ k := by
        intro heq
        rw [isComment_eq heq, hk] at h
        cases h.1
      rw [ClosesParens, List.map_cons, depthAfter?_other (hkind rfl) (hkind rfl)]
      exact ih h.2

theorem group {g : Group} {inside : List Token} (ht : t.kind = .leftParen)
    (hg : Group.read? .leftParen .rightParen 0 inside = some g) :
    ClosesParens (t :: (g.inner ++ [g.close])) := by
  obtain ⟨-, hclose, hdepth⟩ := (Group.read?_eq_some (by decide)).mp hg
  have hopen := depthAfter?_add (by decide) hdepth 1
  rw [ClosesParens, List.map_cons, depthAfter?_opener ht, List.map_append,
    depthAfter?_append (by decide), hopen, Option.bind_some, List.map_singleton, hclose]
  rfl

end ClosesParens

theorem DefinitionHead.read_of_width {first bracket : Token} {afterFirst inside : List Token}
    {g : Group} (hfirst : nextOfKind? .ident ts = some (first, afterFirst))
    (hbracket : nextOfKind? .leftBracket afterFirst = some (bracket, inside))
    (hg : Group.read? .leftBracket .rightBracket 0 inside = some g) :
    read keyword ts = (nextOfKind? .ident g.rest).elim (throw ⟨.noNameAfterType, g.close⟩)
      fun name => pure ⟨some first.text, some (ArrayWidth.ofText g.text), name.1, name.2⟩ := by
  obtain ⟨hsecond, hk⟩ := nextOfKind?_eq_some.mp hbracket
  simp only [read, hfirst, hg, hsecond, hk, Option.elim_some, pure_bind]
  cases nextOfKind? .ident g.rest <;> rfl

/-- Behind a parameter list only an open body can fail further on. -/
theorem Definition.exists_place_of_params {head : DefinitionHead} {paren : Token}
    {inside : List Token} {g : Group} (hhead : DefinitionHead.read keyword ts = .ok head)
    (hparen : nextOfKind? .leftParen head.rest = some (paren, inside))
    (hg : Group.read? .leftParen .rightParen 0 inside = some g) (h : read keyword ts = .error f) :
    f.place = g.close ∨
      ∃ front behind, g.rest = front ++ f.place :: behind ∧ f.fault.isFatal = true := by
  rcases cases_of_head hhead h with ⟨hnone, -⟩ | ⟨paren', inside', hparen', h⟩
  · rw [hparen] at hnone
    cases hnone
  obtain ⟨rfl, rfl⟩ := Prod.mk.inj (Option.some.inj (hparen.symm.trans hparen'))
  rcases h with ⟨hnone, -⟩ | ⟨g', hg', h⟩
  · rw [hg] at hnone
    cases hnone
  obtain rfl := Option.some.inj (hg.symm.trans hg')
  rcases h with rfl | ⟨brace, inBraces, hbrace, rfl⟩
  · exact .inl rfl
  · obtain ⟨cs, -, -, hcs⟩ := nextSignificant?_eq_some.mp (nextOfKind?_eq_some.mp hbrace).1
    exact .inr ⟨cs, inBraces, hcs, rfl⟩

/-- Between a width and a failure that leaves the file to be read on, there is only a name or a
parameter list. -/
theorem Definition.exists_place_of_width {first bracket : Token} {afterFirst inside : List Token}
    {g : Group} (hfirst : nextOfKind? .ident ts = some (first, afterFirst))
    (hbracket : nextOfKind? .leftBracket afterFirst = some (bracket, inside))
    (hg : Group.read? .leftBracket .rightBracket 0 inside = some g)
    (h : read keyword ts = .error f) :
    f.place = g.close ∨ ∃ front behind, g.rest = front ++ f.place :: behind ∧
      (f.fault.isFatal = true ∨ ClosesParens (front ++ [f.place])) := by
  have hread := @DefinitionHead.read_of_width keyword _ _ _ _ _ _ hfirst hbracket hg
  cases hname : nextOfKind? .ident g.rest with
  | none =>
      rw [hname] at hread
      rw [read, hread] at h
      obtain rfl := Except.error.inj h
      exact .inl rfl
  | some name =>
      obtain ⟨name, rest⟩ := name
      rw [hname] at hread
      obtain ⟨hnext, hk⟩ := nextOfKind?_eq_some.mp hname
      obtain ⟨cs, hcomments, -, hrest⟩ := nextSignificant?_eq_some.mp hnext
      have hfront := (ClosesParens.comments hcomments).append (.singleton hk)
      right
      rcases cases_of_head hread h with ⟨-, rfl⟩ | ⟨paren, inParens, hparen, h⟩
      · exact ⟨cs, rest, hrest, .inr hfront⟩
      obtain ⟨hparenNext, hparenKind⟩ := nextOfKind?_eq_some.mp hparen
      obtain ⟨ds, hds, -, hbehind⟩ := nextSignificant?_eq_some.mp hparenNext
      dsimp only at hbehind
      subst hbehind
      rcases h with ⟨-, rfl⟩ | ⟨params, hparams, h⟩
      · exact ⟨cs ++ name :: ds, inParens, by simp [hrest], .inl rfl⟩
      obtain ⟨rfl, -, -⟩ := (Group.read?_eq_some (by decide)).mp hparams
      rcases h with rfl | ⟨brace, inBraces, hbrace, rfl⟩
      · refine ⟨cs ++ name :: (ds ++ paren :: params.inner), params.rest, by simp [hrest],
          .inr ?_⟩
        have hlist := (hfront.append (.comments hds)).append (.group hparenKind hparams)
        simpa using hlist
      · obtain ⟨es, -, -, hes⟩ := nextSignificant?_eq_some.mp (nextOfKind?_eq_some.mp hbrace).1
        exact ⟨cs ++ name :: (ds ++ paren :: (params.inner ++ params.close :: es)), inBraces,
          by simp [hrest, hes], .inl rfl⟩

/-- Behind brackets that were read, a failure shows at their end or later. If it leaves the file to
be read on, there is only a name or a parameter list between them. -/
theorem Passes.exists_place {b : HeadBrackets} {g : Group} (hp : Passes ts b g)
    (h : Definition.read keyword ts = .error f) :
    f.place = g.close ∨ ∃ front behind, g.rest = front ++ f.place :: behind ∧
      (f.fault.isFatal = true ∨ b = .width ∧ ClosesParens (front ++ [f.place])) := by
  cases hp with
  | width hfirst hbracket hg =>
      rcases Definition.exists_place_of_width hfirst hbracket hg h with hplace | hplace
      · exact .inl hplace
      · obtain ⟨front, behind, hrest, hcloses⟩ := hplace
        exact .inr ⟨front, behind, hrest, hcloses.imp_right fun hcloses => ⟨rfl, hcloses⟩⟩
  | @params _ _ head _ _ hhead hparen hg =>
      -- a head that is read behind one keyword is read behind any
      have hhead : DefinitionHead.read keyword ts = .ok head :=
        DefinitionHead.read_eq_ok.mpr (DefinitionHead.read_eq_ok.mp hhead)
      rcases Definition.exists_place_of_params hhead hparen hg h with hplace | hplace
      · exact .inl hplace
      · obtain ⟨front, behind, hrest, hfatal⟩ := hplace
        exact .inr ⟨front, behind, hrest, .inl hfatal⟩

end

end RpcDispatch
