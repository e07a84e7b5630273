import RpcDispatch.Proofs.Lexing.Tokens
import RpcDispatch.Proofs.Outcomes
import RpcDispatch.Source.Extract

/-!
# Reading behind known tokens

What each reader of a definition does with a list of tokens of which the first part is known:
comments are passed over, a balanced run belongs to the group around it, and tokens without a
keyword leave no finding.
-/

namespace RpcDispatch

open Token

/-! ## Significant tokens -/

theorem Token.isComment_eq {t : Token} {kind : TokenKind} (h : t.kind = kind) :
    t.isComment = kind.isComment := by
  rw [Token.isComment, h]

theorem nextSignificant?_append {cs : List Token} (hc : ∀ t ∈ cs, t.isComment = true)
    (ts : List Token) : nextSignificant? (cs ++ ts) = nextSignificant? ts := by
  induction cs with
  | nil => rfl
  | cons c cs ih =>
      rw [List.cons_append, nextSignificant?, if_pos (hc c List.mem_cons_self)]
      exact ih fun t ht => hc t (List.mem_cons_of_mem c ht)

theorem nextSignificant?_eq_some {ts rest : List Token} {t : Token} :
    nextSignificant? ts = some (t, rest) ↔
      ∃ cs, (∀ c ∈ cs, c.isComment = true) ∧ t.isComment = false ∧ ts = cs ++ t :: rest := by
  constructor
  · intro h
    induction ts with
    | nil => simp [nextSignificant?] at h
    | cons x ts ih =>
        rw [nextSignificant?] at h
        by_cases hx : x.isComment = true
        · rw [if_pos hx] at h
          obtain ⟨cs, hc, ht, rfl⟩ := ih h
          refine ⟨x :: cs, ?_, ht, rfl⟩
          intro c hmem
          rcases List.mem_cons.mp hmem with rfl | hmem
          · exact hx
          · exact hc c hmem
        · rw [if_neg hx] at h
          obtain ⟨rfl, rfl⟩ := Prod.mk.inj (Option.some.inj h)
          exact ⟨[], by simp, by simpa using hx, rfl⟩
  · rintro ⟨cs, hc, ht, rfl⟩
    rw [nextSignificant?_append hc, nextSignificant?, if_neg (by simp [ht])]

theorem nextOfKind?_eq_some {kind : TokenKind} {ts rest : List Token} {t : Token} :
    nextOfKind? kind ts = some (t, rest) ↔
      nextSignificant? ts = some (t, rest) ∧ t.kind = kind := by
  rw [nextOfKind?, Option.filter_eq_some_iff]
  simp

theorem nextSignificant?_comments {cs : List Token} (hc : ∀ t ∈ cs, t.isComment = true)
    {t : Token} (ht : t.isComment = false) (ts : List Token) :
    nextSignificant? (cs ++ t :: ts) = some (t, ts) :=
  nextSignificant?_eq_some.mpr ⟨cs, hc, ht, rfl⟩

theorem nextOfKind?_comments {kind : TokenKind} {cs : List Token}
    (hc : ∀ t ∈ cs, t.isComment = true) {t : Token} (ht : t.kind = kind)
    (hk : kind.isComment = false) (ts : List Token) :
    nextOfKind? kind (cs ++ t :: ts) = some (t, ts) :=
  nextOfKind?_eq_some.mpr ⟨nextSignificant?_comments hc ((Token.isComment_eq ht).trans hk) ts, ht⟩

theorem nextOfKind?_suffix {kind : TokenKind} {ts rest : List Token} {t : Token}
    (h : nextOfKind? kind ts = some (t, rest)) : rest <:+ ts := by
  obtain ⟨cs, -, -, rfl⟩ := nextSignificant?_eq_some.mp (nextOfKind?_eq_some.mp h).1
  exact ⟨cs ++ [t], by simp⟩

/-! ## Bracket groups -/

/-- How deep a bracket group lies open behind tokens of the given kinds, if none was closed that
had not been opened. -/
def depthAfter? (opener closer : TokenKind) : (depth : Nat) → List TokenKind → Option Nat
  | depth, [] => some depth
  | depth, k :: ks =>
      if k = opener then depthAfter? opener closer (depth + 1) ks
      else if k = closer then match depth with
        | 0 => none
        | d + 1 => depthAfter? opener closer d ks
      else depthAfter? opener closer depth ks

variable {opener closer : TokenKind} {depth : Nat}

theorem depthAfter?_opener {k : TokenKind} (h : k = opener) (ks : List TokenKind) :
    depthAfter? opener closer depth (k :: ks) = depthAfter? opener closer (depth + 1) ks := by
  cases depth <;> rw [depthAfter?, if_pos h]

theorem depthAfter?_closer_zero {k : TokenKind} (h : k = closer) (hne : opener ≠ closer)
    (ks : List TokenKind) : depthAfter? opener closer 0 (k :: ks) = none := by
  rw [depthAfter?, if_neg (by rw [h]; exact hne.symm), if_pos h]

theorem depthAfter?_closer_succ {k : TokenKind} (h : k = closer) (hne : opener ≠ closer)
    (ks : List TokenKind) :
    depthAfter? opener closer (depth + 1) (k :: ks) = depthAfter? opener closer depth ks := by
  rw [depthAfter?, if_neg (by rw [h]; exact hne.symm), if_pos h]

theorem depthAfter?_other {k : TokenKind} (ho : k ≠ opener) (hc : k ≠ closer)
    (ks : List TokenKind) :
    depthAfter? opener closer depth (k :: ks) = depthAfter? opener closer depth ks := by
  cases depth <;> rw [depthAfter?, if_neg ho, if_neg hc]

namespace Group

variable {t : Token}

theorem read?_opener (h : t.kind = opener) (ts : List Token) :
    read? opener closer depth (t :: ts) = (read? opener closer (depth + 1) ts).map (cons t) := by
  cases depth <;> rw [read?, if_pos h]

theorem read?_closer_zero (h : t.kind = closer) (hne : opener ≠ closer) (ts : List Token) :
    read? opener closer 0 (t :: ts) = some ⟨[], t, ts⟩ := by
  rw [read?, if_neg (by rw [h]; exact hne.symm), if_pos h]

theorem read?_closer_succ (h : t.kind = closer) (hne : opener ≠ closer) (ts : List Token) :
    read? opener closer (depth + 1) (t :: ts) = (read? opener closer depth ts).map (cons t) := by
  rw [read?, if_neg (by rw [h]; exact hne.symm), if_pos h]

theorem read?_other (ho : t.kind ≠ opener) (hc : t.kind ≠ closer) (ts : List Token) :
    read? opener closer depth (t :: ts) = (read? opener closer depth ts).map (cons t) := by
  cases depth <;> rw [read?, if_neg ho, if_neg hc]

/-- Tokens in front of a group that is read on belong to it. -/
theorem read?_append (hne : opener ≠ closer) {xs : List Token} {depth' : Nat}
    (h : depthAfter? opener closer depth (xs.map kind) = some depth') (ts : List Token) :
    read? opener closer depth (xs ++ ts) =
      (read? opener closer depth' ts).map fun g => { g with inner := xs ++ g.inner } := by
  induction xs generalizing depth with
  | nil =>
      obtain rfl : depth = depth' := by simpa [depthAfter?] using h
      simp
  | cons x xs ih =>
      rw [List.map_cons] at h
      rw [List.cons_append]
      by_cases ho : x.kind = opener
      · rw [depthAfter?_opener ho] at h
        rw [read?_opener ho, ih h, Option.map_map]
        rfl
      by_cases hc : x.kind = closer
      · cases depth with
        | zero => simp [depthAfter?_closer_zero hc hne] at h
        | succ d =>
            rw [depthAfter?_closer_succ hc hne] at h
            rw [read?_closer_succ hc hne, ih h, Option.map_map]
            rfl
      · rw [depthAfter?_other ho hc] at h
        rw [read?_other ho hc, ih h, Option.map_map]
        rfl

/-- A group is read where a run that balances is followed by a closing token. -/
theorem read?_eq_some (hne : opener ≠ closer) {ts : List Token} {g : Group} :
    read? opener closer depth ts = some g ↔ ts = g.inner ++ g.close :: g.rest ∧
      g.close.kind = closer ∧ depthAfter? opener closer depth (g.inner.map kind) = some 0 := by
  constructor
  · intro h
    induction ts generalizing depth g with
    | nil => simp [read?] at h
    | cons t ts ih =>
        have hcons {g' : Group} {d : Nat} (hr : read? opener closer d ts = some g')
            (hg : cons t g' = g) : t :: ts = g.inner ++ g.close :: g.rest ∧
              g.close.kind = closer ∧ g.inner.map kind = t.kind :: g'.inner.map kind ∧
              depthAfter? opener closer d (g'.inner.map kind) = some 0 := by
          obtain ⟨hts, hclose, hd⟩ := ih hr
          subst hg
          exact ⟨congrArg (t :: ·) hts, hclose, rfl, hd⟩
        by_cases ho : t.kind = opener
        · rw [read?_opener ho] at h
          obtain ⟨g', hr, hg⟩ := Option.map_eq_some_iff.mp h
          obtain ⟨hts, hclose, hinner, hd⟩ := hcons hr hg
          refine ⟨hts, hclose, ?_⟩
          rw [hinner, depthAfter?_opener ho]
          exact hd
        by_cases hc : t.kind = closer
        · cases depth with
          | zero =>
              rw [read?_closer_zero hc hne] at h
              obtain rfl := Option.some.inj h
              exact ⟨rfl, hc, rfl⟩
          | succ d =>
              rw [read?_closer_succ hc hne] at h
              obtain ⟨g', hr, hg⟩ := Option.map_eq_some_iff.mp h
              obtain ⟨hts, hclose, hinner, hd⟩ := hcons hr hg
              refine ⟨hts, hclose, ?_⟩
              rw [hinner, depthAfter?_closer_succ hc hne]
              exact hd
        · rw [read?_other ho hc] at h
          obtain ⟨g', hr, hg⟩ := Option.map_eq_some_iff.mp h
          obtain ⟨hts, hclose, hinner, hd⟩ := hcons hr hg
          refine ⟨hts, hclose, ?_⟩
          rw [hinner, depthAfter?_other ho hc]
          exact hd
  · rintro ⟨rfl, hclose, hd⟩
    rw [read?_append hne hd, read?_closer_zero hclose hne]
    simp

theorem read?_suffix (hne : opener ≠ closer) {ts : List Token} {g : Group}
    (h : read? opener closer depth ts = some g) : g.rest <:+ ts := by
  obtain ⟨rfl, -, -⟩ := (read?_eq_some hne).mp h
  exact ⟨g.inner ++ [g.close], by simp⟩

end Group

/-! ## Definitions -/

/-- A head is a name, a type and a name, or a type, its width and a name. -/
theorem DefinitionHead.read_eq_ok {keyword : Token} {ts : List Token} {h : DefinitionHead} :
    read keyword ts = .ok h ↔ ∃ first afterFirst second afterSecond,
      nextOfKind? .ident ts = some (first, afterFirst) ∧
      nextSignificant? afterFirst = some (second, afterSecond) ∧
      (second.kind = .leftParen ∧ h = ⟨none, none, first, afterFirst⟩ ∨
        second.kind = .ident ∧ h = ⟨some first.text, none, second, afterSecond⟩ ∨
        second.kind = .leftBracket ∧ ∃ width name rest,
          Group.read? .leftBracket .rightBracket 0 afterSecond = some width ∧
          nextOfKind? .ident width.rest = some (name, rest) ∧
          h = ⟨some first.text, some (ArrayWidth.ofText width.text), name, rest⟩) := by
  constructor
  · intro hr
    simp only [read, bind_eq_ok, elim_throw_eq_ok] at hr
    obtain ⟨⟨first, afterFirst⟩, hf, hr⟩ := hr
    simp only at hr
    split at hr
    next second afterSecond hs =>
      refine ⟨first, afterFirst, second, afterSecond, hf, hs, ?_⟩
      split at hr
      next hk => exact .inl ⟨hk, (Except.ok.inj hr).symm⟩
      next hk => exact .inr (.inl ⟨hk, (Except.ok.inj hr).symm⟩)
      next hk =>
        simp only [bind_eq_ok, elim_throw_eq_ok] at hr
        obtain ⟨width, hw, ⟨name, rest⟩, hn, hr⟩ := hr
        exact .inr (.inr ⟨hk, width, name, rest, hw, hn, (Except.ok.inj hr).symm⟩)
      next => cases hr
    next => cases hr
  · rintro ⟨first, afterFirst, second, afterSecond, hf, hs, hr⟩
    simp only [read, bind_eq_ok, elim_throw_eq_ok]
    refine ⟨(first, afterFirst), hf, ?_⟩
    rcases hr with ⟨hk, rfl⟩ | ⟨hk, rfl⟩ | ⟨hk, width, name, rest, hw, hn, rfl⟩
    · simp only [hs, hk]
      rfl
    · simp only [hs, hk]
      rfl
    · simp only [hs, hk, bind_eq_ok, elim_throw_eq_ok]
      exact ⟨_, hw, _, hn, rfl⟩

theorem Definition.read_eq_ok {keyword : Token} {ts : List Token} {d : Definition} :
    read keyword ts = .ok d ↔ DefinitionHead.read keyword ts = .ok d.head ∧
      ∃ openParen inParens openBrace inBraces,
        nextOfKind? .leftParen d.head.rest = some (openParen, inParens) ∧
        Group.read? .leftParen .rightParen 0 inParens = some d.params ∧
        nextOfKind? .leftBrace d.params.rest = some (openBrace, inBraces) ∧
        Group.read? .leftBrace .rightBrace 0 inBraces = some d.body := by
  constructor
  · intro h
    simp only [read, bind_eq_ok, elim_throw_eq_ok] at h
    obtain ⟨head, hh, ⟨openParen, inParens⟩, hp, params, hps, ⟨openBrace, inBraces⟩, hb, body, hbs,
      hd⟩ := h
    obtain rfl := Except.ok.inj hd
    exact ⟨hh, openParen, inParens, openBrace, inBraces, hp, hps, hb, hbs⟩
  · rintro ⟨hh, openParen, inParens, openBrace, inBraces, hp, hps, hb, hbs⟩
    simp only [read, bind_eq_ok, elim_throw_eq_ok]
    exact ⟨_, hh, _, hp, _, hps, _, hb, _, hbs, rfl⟩

/-- The keyword tells only where a failure shows. -/
theorem Definition.read_of_ok {keyword : Token} {ts : List Token} {d : Definition}
    (h : read keyword ts = .ok d) (keyword' : Token) : read keyword' ts = .ok d := by
  rw [read_eq_ok, DefinitionHead.read_eq_ok] at h ⊢
  exact h

theorem DefinitionHead.read_suffix {keyword : Token} {ts : List Token} {h : DefinitionHead}
    (hr : read keyword ts = .ok h) : h.rest <:+ ts := by
  obtain ⟨first, afterFirst, second, afterSecond, hf, hs, hr⟩ := read_eq_ok.mp hr
  have hafter := nextOfKind?_suffix hf
  obtain ⟨cs, -, -, rfl⟩ := nextSignificant?_eq_some.mp hs
  have hsecond : afterSecond <:+ cs ++ second :: afterSecond := ⟨cs ++ [second], by simp⟩
  rcases hr with ⟨-, rfl⟩ | ⟨-, rfl⟩ | ⟨-, width, name, rest, hw, hn, rfl⟩
  · exact hafter
  · exact hsecond.trans hafter
  · exact (nextOfKind?_suffix hn).trans
      ((Group.read?_suffix (by decide) hw).trans (hsecond.trans hafter))

/-- What is left behind a definition ends the tokens it was read from. -/
theorem Definition.read_suffix {keyword : Token} {ts : List Token} {d : Definition}
    (hr : read keyword ts = .ok d) : d.rest <:+ ts := by
  obtain ⟨hh, openParen, inParens, openBrace, inBraces, hp, hps, hb, hbs⟩ := read_eq_ok.mp hr
  have hparams := (Group.read?_suffix (by decide) hps).trans (nextOfKind?_suffix hp)
  have hbody := (Group.read?_suffix (by decide) hbs).trans (nextOfKind?_suffix hb)
  exact hbody.trans (hparams.trans (DefinitionHead.read_suffix hh))

/-- The tokens of a definition behind its keyword: its parameters in parentheses, then its body in
braces. -/
theorem Definition.exists_tokens {keyword : Token} {ts : List Token} {d : Definition}
    (h : read keyword ts = .ok d) :
    ∃ head openParen middle openBrace,
      ts = head ++ openParen :: (d.params.inner ++ d.params.close ::
        (middle ++ openBrace :: (d.body.inner ++ d.body.close :: d.rest))) ∧
      openParen.kind = .leftParen ∧ d.params.close.kind = .rightParen ∧
      openBrace.kind = .leftBrace ∧ d.body.close.kind = .rightBrace := by
  obtain ⟨hhead, openParen, inParens, openBrace, inBraces, hparen, hparams, hbrace, hbody⟩ :=
    read_eq_ok.mp h
  obtain ⟨rfl, hclose, -⟩ := (Group.read?_eq_some (by decide)).mp hbody
  obtain ⟨hbraceNext, hbraceKind⟩ := nextOfKind?_eq_some.mp hbrace
  obtain ⟨middle, -, -, hmiddle⟩ := nextSignificant?_eq_some.mp hbraceNext
  obtain ⟨rfl, hparamsClose, -⟩ := (Group.read?_eq_some (by decide)).mp hparams
  obtain ⟨hparenNext, hparenKind⟩ := nextOfKind?_eq_some.mp hparen
  obtain ⟨cs, -, -, hcs⟩ := nextSignificant?_eq_some.mp hparenNext
  obtain ⟨front, hfront⟩ := DefinitionHead.read_suffix hhead
  refine ⟨front ++ cs, openParen, middle, openBrace, ?_, hparenKind, hparamsClose, hbraceKind,
    hclose⟩
  rw [← hfront, hcs, hmiddle, List.append_assoc]
  rfl

theorem Definition.exists_close {keyword : Token} {ts : List Token} {d : Definition}
    (h : read keyword ts = .ok d) :
    ∃ xs, ts = xs ++ d.body.close :: d.rest ∧ d.body.close.kind = .rightBrace := by
  obtain ⟨front, openParen, middle, openBrace, rfl, -, -, -, hclose⟩ := exists_tokens h
  refine ⟨front ++ openParen :: (d.params.inner ++ d.params.close ::
    (middle ++ openBrace :: d.body.inner)), ?_, hclose⟩
  simp

/-- The name is a token of the definition, and so is the return type. -/
theorem DefinitionHead.mem_of_read {keyword : Token} {ts : List Token} {h : DefinitionHead}
    (hr : read keyword ts = .ok h) :
    (h.name ∈ ts ∧ h.name.kind = .ident) ∧
      ∀ type ∈ h.returnType, ∃ t ∈ ts, t.kind = .ident ∧ t.text = type := by
  obtain ⟨first, afterFirst, second, afterSecond, hf, hs, hform⟩ := read_eq_ok.mp hr
  obtain ⟨hfirst, hfirstKind⟩ := nextOfKind?_eq_some.mp hf
  obtain ⟨cs, -, -, rfl⟩ := nextSignificant?_eq_some.mp hfirst
  obtain ⟨ds, -, -, rfl⟩ := nextSignificant?_eq_some.mp hs
  have htype : ∀ type ∈ some first.text,
      ∃ t ∈ cs ++ first :: (ds ++ second :: afterSecond), t.kind = .ident ∧ t.text = type := by
    intro type htype
    exact ⟨first, by simp, hfirstKind, Option.some.inj htype⟩
  rcases hform with ⟨-, rfl⟩ | ⟨hk, rfl⟩ | ⟨-, width, name, rest, hw, hn, rfl⟩
  · exact ⟨⟨by simp, hfirstKind⟩, by simp⟩
  · exact ⟨⟨by simp, hk⟩, htype⟩
  · obtain ⟨hname, hnameKind⟩ := nextOfKind?_eq_some.mp hn
    obtain ⟨es, -, -, hes⟩ := nextSignificant?_eq_some.mp hname
    have hmem : name ∈ width.rest := by simp [hes]
    have hafter := (Group.read?_suffix (by decide) hw).subset hmem
    exact ⟨⟨by simp [hafter], hnameKind⟩, htype⟩

/-! ## Findings -/

namespace SourceText

/-- The comment that a definition behind these tokens gets. -/
def docAfter (doc : Option Token) (xs : List Token) : Option Token :=
  match xs.getLast? with
  | none => doc
  | some t => if t.isComment then some t else none

theorem docAfter_cons (doc : Option Token) (x : Token) (xs : List Token) :
    docAfter (if x.isComment then some x else none) xs = docAfter doc (x :: xs) := by
  rw [docAfter, docAfter, List.getLast?_cons]
  cases xs.getLast? <;> rfl

variable (s : SourceText)

theorem findingsFrom_skip (xs ts : List Token) :
    s.findingsFrom xs.length none (xs ++ ts) = s.findingsFrom 0 none ts := by
  induction xs with
  | nil => rfl
  | cons x xs ih => exact ih

/-- Without a keyword, tokens only change which comment is pending. -/
theorem findingsFrom_append {xs : List Token} (hx : ∀ t ∈ xs, t.kind ≠ .defineFunction)
    (doc : Option Token) (ts : List Token) :
    s.findingsFrom 0 doc (xs ++ ts) = s.findingsFrom 0 (docAfter doc xs) ts := by
  induction xs generalizing doc with
  | nil => rfl
  | cons x xs ih =>
      rw [List.cons_append, findingsFrom, if_neg (hx x List.mem_cons_self),
        ih (fun t ht => hx t (List.mem_cons_of_mem x ht)), docAfter_cons]

/-- The tokens of a definition are passed over. -/
theorem findingsFrom_rest {keyword : Token} {ts : List Token} {d : Definition}
    (hd : Definition.read keyword ts = .ok d) :
    s.findingsFrom (ts.length - d.rest.length) none ts = s.findingsFrom 0 none d.rest := by
  obtain ⟨xs, hxs⟩ := Definition.read_suffix hd
  have hlen : ts.length - d.rest.length = xs.length := by simp [← hxs]
  rw [hlen, ← hxs, findingsFrom_skip]

/-- A definition is one finding, and reading goes on behind it. -/
theorem findingsFrom_definition {keyword : Token} (hk : keyword.kind = .defineFunction)
    {ts : List Token} {d : Definition} (hd : Definition.read keyword ts = .ok d)
    (doc : Option Token) :
    s.findingsFrom 0 doc (keyword :: ts) =
      .signature (s.signature doc keyword d) :: s.findingsFrom 0 none d.rest := by
  rw [findingsFrom, if_pos hk, hd]
  simp only
  rw [s.findingsFrom_rest hd]

/-- Every signature was read from a keyword and the tokens behind it. -/
theorem of_mem_findingsFrom {n : Nat} {doc : Option Token} {ts : List Token} {sig : Signature}
    (h : .signature sig ∈ s.findingsFrom n doc ts) :
    ∃ doc keyword rest d, keyword :: rest <:+ ts ∧ keyword.kind = .defineFunction ∧
      Definition.read keyword rest = .ok d ∧ sig = s.signature doc keyword d := by
  induction ts generalizing n doc with
  | nil => cases n <;> cases h
  | cons t ts ih =>
      have hlater : ∀ {n doc}, .signature sig ∈ s.findingsFrom n doc ts → ∃ doc keyword rest d,
          keyword :: rest <:+ t :: ts ∧ keyword.kind = .defineFunction ∧
            Definition.read keyword rest = .ok d ∧ sig = s.signature doc keyword d := by
        intro n doc hmem
        obtain ⟨doc', keyword, rest, d, hsuffix, hread⟩ := ih hmem
        exact ⟨doc', keyword, rest, d, hsuffix.trans (List.suffix_cons t ts), hread⟩
      cases n with
      | succ n => exact hlater h
      | zero =>
          rw [findingsFrom] at h
          split at h
          next hk =>
            split at h
            next d hd =>
              rcases List.mem_cons.mp h with heq | hmem
              · exact ⟨doc, t, ts, d, List.suffix_refl _, hk, hd, Finding.signature.inj heq⟩
              · exact hlater hmem
            next f hf =>
              rcases List.mem_cons.mp h with heq | hmem
              · cases heq
              · split at hmem
                · cases hmem
                · exact hlater hmem
          next => exact hlater h

/-- Every signature is read behind a keyword of the text. -/
theorem exists_read_of_mem_signatures {sig : Signature} (h : sig ∈ s.extract.signatures) :
    ∃ doc keyword rest d, keyword :: rest <:+ Token.ofText s.text ∧
      keyword.kind = .defineFunction ∧ Definition.read keyword rest = .ok d ∧
      sig = s.signature doc keyword d := by
  obtain ⟨finding, hmem, hsig⟩ := List.mem_filterMap.mp h
  obtain rfl : finding = .signature sig := by
    cases finding with
    | signature s' => exact congrArg _ (Option.some.inj hsig)
    | diagnostic d => cases hsig
  exact s.of_mem_findingsFrom hmem

theorem isWord_of_mem_signatures {sig : Signature} (h : sig ∈ s.extract.signatures) :
    (∀ c ∈ sig.name, Piece.isWordPart c = true) ∧
      ∀ type ∈ sig.returnType, ∀ c ∈ type, Piece.isWordPart c = true := by
  obtain ⟨doc, keyword, rest, d, hsuffix, -, hread, rfl⟩ := s.exists_read_of_mem_signatures h
  have hhead := (Definition.read_eq_ok.mp hread).1
  obtain ⟨⟨hname, hnameKind⟩, htype⟩ := DefinitionHead.mem_of_read hhead
  have hsub : ∀ {x}, x ∈ rest → x ∈ Token.ofTextFrom 0 [] s.text := fun hx =>
    hsuffix.subset (List.mem_cons_of_mem keyword hx)
  refine ⟨isWord_of_mem_ofTextFrom (hsub hname) hnameKind, ?_⟩
  intro type ht
  obtain ⟨x, hx, hxKind, rfl⟩ := htype type ht
  exact isWord_of_mem_ofTextFrom (hsub hx) hxKind

end SourceText

end RpcDispatch
