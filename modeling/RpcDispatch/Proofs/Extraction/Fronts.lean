import RpcDispatch.Proofs.Extraction.Likeness

/-!
# What stands in front of a body

A definition is read from the front, so what it is does not depend on what stands in its body, and
the definitions that come before another one do not depend on what follows its keyword.
-/

namespace RpcDispatch

open Token

/-! ## Readers and what follows -/

section

variable {ts ys behind : List Token} {t : Token} {kind opener closer : TokenKind}

/-- What a reader leaves of the tokens behind a place is left of any others there. -/
theorem nextSignificant?_frame (h : nextSignificant? ts = some (t, ys ++ behind)) :
    ∃ xs, ts = xs ++ behind ∧
      ∀ behind', nextSignificant? (xs ++ behind') = some (t, ys ++ behind') := by
  obtain ⟨cs, hcomments, ht, rfl⟩ := nextSignificant?_eq_some.mp h
  refine ⟨cs ++ t :: ys, by simp, ?_⟩
  intro behind'
  rw [List.append_assoc]
  exact nextSignificant?_comments hcomments ht (ys ++ behind')

/-- A search depends on what it passes and not on what is behind. -/
theorem nextOfKind?_frame (h : nextOfKind? kind ts = some (t, ys ++ behind)) :
    ∃ xs, ts = xs ++ behind ∧
      ∀ behind', nextOfKind? kind (xs ++ behind') = some (t, ys ++ behind') := by
  obtain ⟨hnext, hkind⟩ := nextOfKind?_eq_some.mp h
  obtain ⟨xs, rfl, hframe⟩ := nextSignificant?_frame hnext
  exact ⟨xs, rfl, fun behind' => nextOfKind?_eq_some.mpr ⟨hframe behind', hkind⟩⟩

theorem Group.read?_frame (hne : opener ≠ closer) {g : Group}
    (h : read? opener closer 0 ts = some g) (hrest : g.rest = ys ++ behind) :
    ∃ xs, ts = xs ++ behind ∧
      ∀ behind', read? opener closer 0 (xs ++ behind') = some { g with rest := ys ++ behind' } := by
  obtain ⟨rfl, hclose, hdepth⟩ := (read?_eq_some hne).mp h
  refine ⟨g.inner ++ g.close :: ys, by simp [hrest], ?_⟩
  intro behind'
  rw [read?_eq_some hne]
  exact ⟨by simp, hclose, hdepth⟩

/-- The head is read without a look behind the token that follows it. -/
theorem DefinitionHead.read_frame {keyword : Token} {h : DefinitionHead}
    (hr : read keyword ts = .ok h) (hnext : nextSignificant? h.rest = some (t, ys ++ behind)) :
    ∃ xs zs, ts = xs ++ behind ∧ ∀ behind',
      read keyword (xs ++ behind') = .ok { h with rest := zs ++ behind' } ∧
      nextSignificant? (zs ++ behind') = some (t, ys ++ behind') := by
  obtain ⟨first, afterFirst, second, afterSecond, hfirst, hsecond, hform⟩ := read_eq_ok.mp hr
  rcases hform with ⟨hk, rfl⟩ | ⟨hk, rfl⟩ | ⟨hk, width, name, rest, hwidth, hname, rfl⟩
  · rw [hsecond] at hnext
    obtain ⟨rfl, rfl⟩ := Prod.mk.inj (Option.some.inj hnext)
    obtain ⟨zs, rfl, hsecond'⟩ := nextSignificant?_frame hsecond
    obtain ⟨xs, rfl, hfirst'⟩ := nextOfKind?_frame hfirst
    refine ⟨xs, zs, rfl, fun behind' => ⟨?_, hsecond' behind'⟩⟩
    rw [read_eq_ok]
    exact ⟨_, _, _, _, hfirst' behind', hsecond' behind', .inl ⟨hk, rfl⟩⟩
  · obtain ⟨zs, hrest, hnext'⟩ := nextSignificant?_frame hnext
    dsimp only at hrest
    subst hrest
    obtain ⟨ws, rfl, hsecond'⟩ := nextSignificant?_frame hsecond
    obtain ⟨xs, rfl, hfirst'⟩ := nextOfKind?_frame hfirst
    refine ⟨xs, zs, rfl, fun behind' => ⟨?_, hnext' behind'⟩⟩
    rw [read_eq_ok]
    exact ⟨_, _, _, _, hfirst' behind', hsecond' behind', .inr (.inl ⟨hk, rfl⟩)⟩
  · obtain ⟨zs, hrest, hnext'⟩ := nextSignificant?_frame hnext
    dsimp only at hrest
    subst hrest
    obtain ⟨vs, hvs, hname'⟩ := nextOfKind?_frame hname
    obtain ⟨us, rfl, hwidth'⟩ := Group.read?_frame (by decide) hwidth hvs
    obtain ⟨ws, rfl, hsecond'⟩ := nextSignificant?_frame hsecond
    obtain ⟨xs, rfl, hfirst'⟩ := nextOfKind?_frame hfirst
    refine ⟨xs, zs, rfl, fun behind' => ⟨?_, hnext' behind'⟩⟩
    rw [read_eq_ok]
    exact ⟨_, _, _, _, hfirst' behind', hsecond' behind',
      .inr (.inr ⟨hk, _, _, _, hwidth' behind', hname' behind', rfl⟩)⟩

end

/-! ## Definitions -/

structure Definition.SameFront (d d' : Definition) : Prop where
  returnType : d.head.returnType = d'.head.returnType
  returnWidth : d.head.returnWidth = d'.head.returnWidth
  name : d.head.name = d'.head.name
  params : d.params.text = d'.params.text

/-- Behind its opening brace any body can stand. -/
theorem Definition.exists_front {keyword : Token} {ts : List Token} {d : Definition}
    (h : read keyword ts = .ok d) :
    ∃ front brace behind, ts = front ++ brace :: behind ∧
      Group.read? .leftBrace .rightBrace 0 behind = some d.body ∧
      ∀ behind' body, Group.read? .leftBrace .rightBrace 0 behind' = some body →
        ∃ d', read keyword (front ++ brace :: behind') = .ok d' ∧ d.SameFront d' ∧
          d'.body = body := by
  obtain ⟨hhead, paren, inParens, brace, behind, hparen, hparams, hbrace, hbody⟩ :=
    read_eq_ok.mp h
  obtain ⟨hbraceNext, hbraceKind⟩ := nextOfKind?_eq_some.mp hbrace
  obtain ⟨cs, hcomments, -, hrest⟩ := nextSignificant?_eq_some.mp hbraceNext
  obtain ⟨us, rfl, hparams'⟩ := Group.read?_frame (by decide) hparams hrest
  obtain ⟨hparenNext, hparenKind⟩ := nextOfKind?_eq_some.mp hparen
  obtain ⟨xs, zs, rfl, hhead'⟩ := DefinitionHead.read_frame hhead hparenNext
  refine ⟨xs, brace, behind, rfl, hbody, ?_⟩
  intro behind' body hbody'
  obtain ⟨hread, hparen'⟩ := hhead' (brace :: behind')
  let d' : Definition :=
    ⟨{ d.head with rest := zs ++ brace :: behind' },
      { d.params with rest := cs ++ brace :: behind' }, body⟩
  refine ⟨d', ?_, ⟨rfl, rfl, rfl, rfl⟩, rfl⟩
  rw [read_eq_ok]
  exact ⟨hread, paren, _, brace, behind', nextOfKind?_eq_some.mpr ⟨hparen', hparenKind⟩,
    hparams' _, nextOfKind?_comments hcomments hbraceKind rfl behind', hbody'⟩

/-! ## Signatures -/

structure Signature.SameFront (s s' : Signature) : Prop where
  docComment : s.docComment = s'.docComment
  returnType : s.returnType = s'.returnType
  returnWidth : s.returnWidth = s'.returnWidth
  name : s.name = s'.name
  rawParams : s.rawParams = s'.rawParams
  sourceFile : s.sourceFile = s'.sourceFile

/-- Where alike words and slices are the same, alike signatures have the same text. -/
theorem Signature.AlikeIn.sameFront {L : Likeness} {s s' : SourceText} {sig sig' : Signature}
    (hwords : ∀ a b, L.words a b → a = b) (hslices : ∀ a b, L.slices a b → a = b)
    (hpath : s.path = s'.path) (h : sig.AlikeIn L s s' sig') :
    sig.SameFront sig' ∧ sig.body = sig'.body := by
  cases h with
  | @mk doc doc' keyword keyword' d d' hdoc _ hd =>
      have hword {t u : Token} (htoken : L.tokens t u) : t.text = u.text :=
        hwords _ _ (L.word htoken)
      refine ⟨⟨?_, ?_, ?_, hword hd.head.name, ?_, hpath⟩, hslices _ _ hd.body.text⟩
      · exact optionRel_map_eq hdoc fun _ _ hcomment => hword hcomment
      · exact optionRel_eq (optionRel_imp hd.head.returnType hwords)
      · exact optionRel_eq (optionRel_imp hd.head.returnWidth fun _ _ hwidth => hwidth.eq hslices)
      · exact congrArg Text.trim (hslices _ _ hd.params.text)

theorem Definition.SameFront.signature {s s' : SourceText} {d d' : Definition}
    (hd : d.SameFront d') (hpath : s.path = s'.path) (doc : Option Token) (keyword : Token) :
    (s.signature doc keyword d).SameFront (s'.signature doc keyword d') where
  docComment := rfl
  returnType := hd.returnType
  returnWidth := hd.returnWidth
  name := congrArg Token.text hd.name
  rawParams := congrArg Text.trim hd.params
  sourceFile := hpath

theorem Definition.SameFront.signature_eq {s : SourceText} {d d' : Definition}
    (hd : d.SameFront d') (hbody : d.body.text = d'.body.text)
    (hclose : d.body.close = d'.body.close) (doc : Option Token) (keyword : Token) :
    s.signature doc keyword d = s.signature doc keyword d' := by
  obtain ⟨htype, hwidth, hname, hparams⟩ := hd
  simp only [SourceText.signature, htype, hwidth, hname, hparams, hbody, hclose]

namespace SourceText

variable {s s' : SourceText}

theorem findingsFrom_eq_signature_cons {doc : Option Token} {ts : List Token} {sig : Signature}
    {after : List Finding} (h : s.findingsFrom 0 doc ts = .signature sig :: after) :
    ∃ xs keyword us d, ts = xs ++ keyword :: us ∧ (∀ x ∈ xs, x.kind ≠ .defineFunction) ∧
      keyword.kind = .defineFunction ∧ Definition.read keyword us = .ok d ∧
      sig = s.signature (docAfter doc xs) keyword d ∧ after = s.findingsFrom 0 none d.rest := by
  induction ts generalizing doc with
  | nil => cases h
  | cons t ts ih =>
      by_cases hk : t.kind = .defineFunction
      · rcases hread : Definition.read t ts with f | d
        · rw [findingsFrom, if_pos hk, hread] at h
          cases h
        · rw [findingsFrom_definition s hk hread] at h
          obtain ⟨hsig, rfl⟩ := List.cons.inj h
          exact ⟨[], t, ts, d, rfl, by simp, hk, hread, (Finding.signature.inj hsig).symm, rfl⟩
      · rw [findingsFrom, if_neg hk] at h
        obtain ⟨xs, keyword, us, d, rfl, hxs, hkeyword, hread, hsig, hafter⟩ := ih h
        rw [docAfter_cons] at hsig
        refine ⟨t :: xs, keyword, us, d, rfl, ?_, hkeyword, hread, hsig, hafter⟩
        intro x hx
        rcases List.mem_cons.mp hx with rfl | hx
        · exact hk
        · exact hxs x hx

/-- Whatever body follows `front` and `brace`, the signatures `before` and `sig` are found, the last
of them with that body. -/
def TakesBody (s : SourceText) (doc : Option Token) (front : List Token) (brace : Token)
    (before : List Signature) (sig : Signature) : Prop :=
  ∀ behind body, Group.read? .leftBrace .rightBrace 0 behind = some body →
    ∃ before' sig', s.findingsFrom 0 doc (front ++ brace :: behind) =
        before'.map .signature ++ .signature sig' :: s.findingsFrom 0 none body.rest ∧
      List.Forall₂ Signature.SameFront before before' ∧
      before'.map (·.body) = before.map (·.body) ∧ sig.SameFront sig' ∧ sig'.body = body.text

/-- The body of `sig`, and the findings behind it, stand behind `front` and `brace`. -/
structure OpensAt (s : SourceText) (ts front : List Token) (brace : Token) (behind : List Token)
    (sig : Signature) (after : List Finding) (body : Group) : Prop where
  tokens : ts = front ++ brace :: behind
  read : Group.read? .leftBrace .rightBrace 0 behind = some body
  text : sig.body = body.text
  stop : sig.stop = body.close.stop
  after : after = s.findingsFrom 0 none body.rest

/-- Behind the brace of a definition any body can stand, in any source of the same path. -/
theorem exists_opensAt_cons (hpath : s.path = s'.path) {doc : Option Token} {ts : List Token}
    {sig : Signature} {after : List Finding}
    (h : s.findingsFrom 0 doc ts = .signature sig :: after) :
    ∃ front brace behind body, s.OpensAt ts front brace behind sig after body ∧
      s'.TakesBody doc front brace [] sig := by
  obtain ⟨xs, keyword, us, d, rfl, hxs, hkeyword, hread, rfl, rfl⟩ :=
    findingsFrom_eq_signature_cons h
  obtain ⟨front, brace, behind, rfl, hbody, hfront⟩ := Definition.exists_front hread
  refine ⟨xs ++ keyword :: front, brace, behind, d.body, ⟨by simp, hbody, rfl, rfl, rfl⟩, ?_⟩
  intro behind' body' hbody'
  obtain ⟨d', hread', hsame, rfl⟩ := hfront behind' body' hbody'
  refine ⟨[], s'.signature (docAfter doc xs) keyword d', ?_, .nil, rfl,
    hsame.signature hpath _ _, rfl⟩
  rw [List.append_assoc, List.cons_append, findingsFrom_append s' hxs,
    findingsFrom_definition s' hkeyword hread']
  rfl

/-- The bodies of earlier definitions are read before the brace, so they stay. -/
theorem exists_opensAt (hpath : s.path = s'.path) {before : List Signature}
    {doc : Option Token} {ts : List Token} {sig : Signature} {after : List Finding}
    (h : s.findingsFrom 0 doc ts = before.map .signature ++ .signature sig :: after) :
    ∃ front brace behind body, s.OpensAt ts front brace behind sig after body ∧
      s'.TakesBody doc front brace before sig := by
  induction before generalizing doc ts with
  | nil => exact exists_opensAt_cons hpath h
  | cons first before ih =>
      obtain ⟨front, brace, behind, body, hopens, htakes⟩ := exists_opensAt_cons hpath h
      obtain ⟨front₂, brace₂, behind₂, body₂, hopens₂, htakes₂⟩ := ih hopens.after.symm
      -- the body of the first is read without a look at what follows the second brace
      obtain ⟨ws, rfl, hframe⟩ := Group.read?_frame (by decide) hopens.read hopens₂.tokens
      refine ⟨front ++ brace :: ws, brace₂, behind₂, body₂, ⟨?_, hopens₂.read, hopens₂.text,
        hopens₂.stop, hopens₂.after⟩, ?_⟩
      · rw [hopens.tokens, List.append_assoc, List.cons_append]
      intro behind' body' hbody'
      obtain ⟨_, first', hfindings, hnil, -, hfirst, htext⟩ :=
        htakes _ _ (hframe (brace₂ :: behind'))
      cases hnil
      obtain ⟨before', sig', hfindings₂, hbefore, hbodies, hsame, htext₂⟩ :=
        htakes₂ behind' body' hbody'
      refine ⟨first' :: before', sig', ?_, .cons hfirst hbefore, ?_, hsame, htext₂⟩
      · rw [List.append_assoc, List.cons_append, hfindings, hfindings₂]
        rfl
      · rw [List.map_cons, List.map_cons, hbodies, htext, hopens.text]
        rfl

end SourceText

end RpcDispatch
