import Mathlib.Data.List.Forall2
import RpcDispatch.Proofs.Extraction.Reading

/-!
# Alike sources

Reading looks at the kinds of tokens only, and takes texts over as they are. So if two lists of
tokens are alike, what is read from them is alike too: the same readers succeed, at corresponding
tokens, and the texts they take are alike.
-/

namespace RpcDispatch

open Token

theorem forall₂_map_eq_iff {α β γ : Type} {f : α → γ} {g : β → γ} {as : List α} {bs : List β} :
    List.Forall₂ (fun a b => f a = g b) as bs ↔ as.map f = bs.map g := by
  rw [← List.forall₂_map_left_iff (R := fun c b => c = g b), ← List.forall₂_map_right_iff (R := Eq),
    List.forall₂_eq_eq_eq]

/-- A way in which two lists of tokens can be alike, and what it means for their tokens, for the
words in them and for the text up to one of them. -/
structure Likeness where
  lists : List Token → List Token → Prop
  tokens : Token → Token → Prop
  words : Text → Text → Prop
  slices : Text → Text → Prop
  length : ∀ {ts us}, lists ts us → ts.length = us.length
  cons : ∀ {t u ts us}, lists (t :: ts) (u :: us) → tokens t u ∧ lists ts us
  kind : ∀ {t u}, tokens t u → t.kind = u.kind
  word : ∀ {t u}, tokens t u → words t.text u.text
  slice : ∀ {xs ys t u ts us}, lists (xs ++ t :: ts) (ys ++ u :: us) → xs.length = ys.length →
    slices (between xs t) (between ys u)

namespace Likeness

variable (L : Likeness)

/-- Alike lists are both empty, or both begin with a token. -/
inductive View : List Token → List Token → Prop
  | nil : View [] []
  | cons {t u : Token} {ts us : List Token} : L.tokens t u → L.lists ts us →
      View (t :: ts) (u :: us)

variable {L} {ts us : List Token}

theorem view (h : L.lists ts us) : L.View ts us := by
  have hlength := L.length h
  cases ts with
  | nil =>
      obtain rfl := List.length_eq_zero_iff.mp hlength.symm
      exact .nil
  | cons t ts =>
      cases us with
      | nil => cases hlength
      | cons u us =>
          obtain ⟨htoken, hrest⟩ := L.cons h
          exact .cons htoken hrest

theorem isComment {t u : Token} (h : L.tokens t u) : t.isComment = u.isComment := by
  rw [Token.isComment, Token.isComment, L.kind h]

/-! ## Single tokens -/

def Next (L : Likeness) (p q : Token × List Token) : Prop :=
  L.tokens p.1 q.1 ∧ L.lists p.2 q.2

theorem nextSignificant? (h : L.lists ts us) :
    Option.Rel L.Next (RpcDispatch.nextSignificant? ts) (RpcDispatch.nextSignificant? us) := by
  induction ts generalizing us with
  | nil =>
      cases view h
      exact .none
  | cons t ts ih =>
      cases view h with
      | cons htoken hrest =>
          rw [RpcDispatch.nextSignificant?, RpcDispatch.nextSignificant?, isComment htoken]
          split
          next => exact ih hrest
          next => exact .some ⟨htoken, hrest⟩

theorem nextOfKind? (kind : TokenKind) (h : L.lists ts us) :
    Option.Rel L.Next (RpcDispatch.nextOfKind? kind ts) (RpcDispatch.nextOfKind? kind us) := by
  have hnext := nextSignificant? h
  rw [RpcDispatch.nextOfKind?, RpcDispatch.nextOfKind?]
  generalize RpcDispatch.nextSignificant? ts = x at hnext
  generalize RpcDispatch.nextSignificant? us = y at hnext
  cases hnext with
  | none => exact .none
  | @some p q hp =>
      by_cases hk : q.1.kind = kind
      · rw [Option.filter_some_pos (by simpa [L.kind hp.1] using hk),
          Option.filter_some_pos (by simpa using hk)]
        exact .some hp
      · rw [Option.filter_some_neg (by simpa [L.kind hp.1] using hk),
          Option.filter_some_neg (by simpa using hk)]
        exact .none

end Likeness

/-! ## Bracket groups -/

structure Group.Alike (L : Likeness) (g g' : Group) : Prop where
  text : L.slices g.text g'.text
  close : L.tokens g.close g'.close
  rest : L.lists g.rest g'.rest

namespace Likeness

variable {L : Likeness} {ts us : List Token} {opener closer : TokenKind}

/-- Groups of alike lists close at the same place. -/
theorem read?_places (hne : opener ≠ closer) (depth : Nat) (h : L.lists ts us) :
    Option.Rel (fun g g' : Group => g.inner.length = g'.inner.length ∧
        L.tokens g.close g'.close ∧ L.lists g.rest g'.rest)
      (Group.read? opener closer depth ts) (Group.read? opener closer depth us) := by
  induction ts generalizing us depth with
  | nil =>
      cases view h
      rw [Group.read?]
      exact .none
  | cons t ts ih =>
      cases view h with
      | @cons _ u _ us htoken hrest =>
          have hcons (d : Nat) :
              Option.Rel (fun g g' : Group => g.inner.length = g'.inner.length ∧
                  L.tokens g.close g'.close ∧ L.lists g.rest g'.rest)
                ((Group.read? opener closer d ts).map (Group.cons t))
                ((Group.read? opener closer d us).map (Group.cons u)) :=
            optionRel_map (ih d hrest) fun _ _ hg => ⟨congrArg (· + 1) hg.1, hg.2⟩
          by_cases ho : u.kind = opener
          · rw [Group.read?_opener ((L.kind htoken).trans ho), Group.read?_opener ho]
            exact hcons _
          by_cases hc : u.kind = closer
          · cases depth with
            | zero =>
                rw [Group.read?_closer_zero ((L.kind htoken).trans hc) hne,
                  Group.read?_closer_zero hc hne]
                exact .some ⟨rfl, htoken, hrest⟩
            | succ d =>
                rw [Group.read?_closer_succ ((L.kind htoken).trans hc) hne,
                  Group.read?_closer_succ hc hne]
                exact hcons d
          · rw [← L.kind htoken] at ho hc
            rw [Group.read?_other ho hc]
            rw [L.kind htoken] at ho hc
            rw [Group.read?_other ho hc]
            exact hcons depth

/-- Both groups are closed by tokens in the same position, or neither is. -/
theorem read? (hne : opener ≠ closer) (h : L.lists ts us) :
    Option.Rel (Group.Alike L) (Group.read? opener closer 0 ts)
      (Group.read? opener closer 0 us) := by
  have hplaces := read?_places hne 0 h
  generalize hx : Group.read? opener closer 0 ts = x at hplaces
  generalize hy : Group.read? opener closer 0 us = y at hplaces
  cases hplaces with
  | none => exact .none
  | some hg =>
      obtain ⟨hlength, hclose, hrest⟩ := hg
      obtain ⟨rfl, -, -⟩ := (Group.read?_eq_some hne).mp hx
      obtain ⟨rfl, -, -⟩ := (Group.read?_eq_some hne).mp hy
      exact .some ⟨L.slice h hlength, hclose, hrest⟩

end Likeness

/-! ## Definitions -/

inductive DefinitionFault.Alike (L : Likeness) : DefinitionFault → DefinitionFault → Prop
  | same (f : DefinitionFault) : Alike L f f
  | noParameterList {first first' : Text} : L.words first first' →
      Alike L (.noParameterList first) (.noParameterList first')
  | noOpenParen {name name' : Text} : L.words name name' →
      Alike L (.noOpenParen name) (.noOpenParen name')

structure DefinitionFailure.Alike (L : Likeness) (f f' : DefinitionFailure) : Prop where
  fault : f.fault.Alike L f'.fault
  place : L.tokens f.place f'.place

def ArrayWidth.Alike (L : Likeness) (w w' : ArrayWidth) : Prop :=
  ∃ text text', L.slices text text' ∧ w = ofText text ∧ w' = ofText text'

structure DefinitionHead.Alike (L : Likeness) (h h' : DefinitionHead) : Prop where
  returnType : Option.Rel L.words h.returnType h'.returnType
  returnWidth : Option.Rel (ArrayWidth.Alike L) h.returnWidth h'.returnWidth
  name : L.tokens h.name h'.name
  rest : L.lists h.rest h'.rest

structure Definition.Alike (L : Likeness) (d d' : Definition) : Prop where
  head : d.head.Alike L d'.head
  params : d.params.Alike L d'.params
  body : d.body.Alike L d'.body

theorem DefinitionFault.Alike.isFatal {L : Likeness} {f f' : DefinitionFault}
    (h : f.Alike L f') : f.isFatal = f'.isFatal := by
  cases h <;> rfl

theorem DefinitionFault.Alike.eq {L : Likeness} (hL : ∀ a b, L.words a b → a = b)
    {f f' : DefinitionFault} (h : f.Alike L f') : f = f' := by
  cases h with
  | same => rfl
  | noParameterList hword => rw [hL _ _ hword]
  | noOpenParen hword => rw [hL _ _ hword]

theorem ArrayWidth.Alike.eq {L : Likeness} (hL : ∀ a b, L.slices a b → a = b)
    {w w' : ArrayWidth} (h : w.Alike L w') : w = w' := by
  obtain ⟨text, text', hslice, rfl, rfl⟩ := h
  rw [hL _ _ hslice]

namespace Likeness

variable {L : Likeness} {keyword keyword' : Token} {ts us : List Token}

theorem readHead (hk : L.tokens keyword keyword') (h : L.lists ts us) :
    Corresponds (DefinitionFailure.Alike L) (DefinitionHead.Alike L)
      (DefinitionHead.read keyword ts) (DefinitionHead.read keyword' us) := by
  rw [DefinitionHead.read, DefinitionHead.read]
  apply Corresponds.bind
  · exact .elim_throw (nextOfKind? .ident h) ⟨.same _, hk⟩
  rintro ⟨first, afterFirst⟩ ⟨first', afterFirst'⟩ ⟨hfirst, hafter⟩
  have hword : L.words first.text first'.text := L.word hfirst
  have hnext := nextSignificant? hafter
  dsimp only at hafter ⊢
  generalize RpcDispatch.nextSignificant? afterFirst = x at hnext
  generalize RpcDispatch.nextSignificant? afterFirst' = y at hnext
  cases hnext with
  | none => exact .error ⟨.noParameterList hword, hfirst⟩
  | @some p q hp =>
      obtain ⟨second, afterSecond⟩ := p
      obtain ⟨second', afterSecond'⟩ := q
      obtain ⟨hsecond, hbehind⟩ := hp
      have hkind := L.kind hsecond
      dsimp only at hkind ⊢
      rw [hkind]
      cases second'.kind with
      | leftParen => exact .ok ⟨.none, .none, hfirst, hafter⟩
      | ident => exact .ok ⟨.some hword, .none, hsecond, hbehind⟩
      | leftBracket =>
          apply Corresponds.bind
          · exact .elim_throw (read? (by decide) hbehind) ⟨.same _, hsecond⟩
          intro width width' hwidth
          apply Corresponds.bind
          · exact .elim_throw (nextOfKind? .ident hwidth.rest) ⟨.same _, hwidth.close⟩
          rintro ⟨name, rest⟩ ⟨name', rest'⟩ ⟨hname, hrest⟩
          exact .ok ⟨.some hword, .some ⟨_, _, hwidth.text, rfl, rfl⟩, hname, hrest⟩
      | _ => exact .error ⟨.noParameterList hword, hfirst⟩

/-- Alike lists hold alike definitions, or are faulty at corresponding tokens. -/
theorem readDefinition (hk : L.tokens keyword keyword') (h : L.lists ts us) :
    Corresponds (DefinitionFailure.Alike L) (Definition.Alike L)
      (Definition.read keyword ts) (Definition.read keyword' us) := by
  rw [Definition.read, Definition.read]
  apply Corresponds.bind (readHead hk h)
  intro head head' hhead
  apply Corresponds.bind
  · exact .elim_throw (nextOfKind? .leftParen hhead.rest)
      ⟨.noOpenParen (L.word hhead.name), hhead.name⟩
  rintro ⟨openParen, inParens⟩ ⟨openParen', inParens'⟩ ⟨hparen, hinParens⟩
  apply Corresponds.bind
  · exact .elim_throw (read? (by decide) hinParens) ⟨.same _, hparen⟩
  intro params params' hparams
  apply Corresponds.bind
  · exact .elim_throw (nextOfKind? .leftBrace hparams.rest) ⟨.same _, hparams.close⟩
  rintro ⟨openBrace, inBraces⟩ ⟨openBrace', inBraces'⟩ ⟨hbrace, hinBraces⟩
  apply Corresponds.bind
  · exact .elim_throw (read? (by decide) hinBraces) ⟨.same _, hbrace⟩
  intro body body' hbody
  exact .ok ⟨hhead, hparams, hbody⟩

end Likeness

/-! ## Findings -/

section

variable (L : Likeness) (s s' : SourceText)

inductive Signature.AlikeIn : Signature → Signature → Prop
  | mk {doc doc' : Option Token} {keyword keyword' : Token} {d d' : Definition} :
      Option.Rel L.tokens doc doc' → L.tokens keyword keyword' → d.Alike L d' →
      AlikeIn (s.signature doc keyword d) (s'.signature doc' keyword' d')

inductive Diagnostic.AlikeIn : Diagnostic → Diagnostic → Prop
  | mk {f f' : DefinitionFailure} : f.Alike L f' →
      AlikeIn (s.diagnostic f) (s'.diagnostic f')

inductive Finding.AlikeIn : Finding → Finding → Prop
  | signature {sig sig' : Signature} : sig.AlikeIn L s s' sig' →
      AlikeIn (.signature sig) (.signature sig')
  | diagnostic {g g' : Diagnostic} : g.AlikeIn L s s' g' →
      AlikeIn (.diagnostic g) (.diagnostic g')

end

structure Diagnostic.SameWords (g g' : Diagnostic) : Prop where
  severity : g.severity = g'.severity
  file : g.file = g'.file
  message : g.message = g'.message

theorem Diagnostic.AlikeIn.sameWords {L : Likeness} {s s' : SourceText} {g g' : Diagnostic}
    (hL : ∀ a b, L.words a b → a = b) (hpath : s.path = s'.path) (h : g.AlikeIn L s s' g') :
    g.SameWords g' := by
  cases h with
  | @mk f f' hf =>
      have hfault : f.fault = f'.fault := hf.fault.eq hL
      refine ⟨?_, hpath, ?_⟩
      · exact congrArg DefinitionFault.severity hfault
      · exact congrArg DefinitionFault.message hfault

namespace Likeness

variable {L : Likeness} {s s' : SourceText}

/-- Alike lists hold alike findings, whatever part of them is passed over. -/
theorem findingsFrom {doc doc' : Option Token} {ts us : List Token} (n : Nat)
    (hdoc : Option.Rel L.tokens doc doc') (h : L.lists ts us) :
    List.Forall₂ (Finding.AlikeIn L s s') (s.findingsFrom n doc ts)
      (s'.findingsFrom n doc' us) := by
  induction ts generalizing us n doc doc' with
  | nil =>
      cases view h
      cases n <;> exact .nil
  | cons t ts ih =>
      cases view h with
      | @cons _ u _ us htoken hrest =>
          cases n with
          | succ n => exact ih n .none hrest
          | zero =>
              rw [SourceText.findingsFrom, SourceText.findingsFrom, L.kind htoken,
                isComment htoken]
              by_cases hkeyword : u.kind = .defineFunction
              · rw [if_pos hkeyword, if_pos hkeyword]
                have hread := readDefinition htoken hrest
                generalize Definition.read t ts = x at hread
                generalize Definition.read u us = y at hread
                cases hread with
                | ok hd =>
                    refine .cons (.signature (.mk hdoc htoken hd)) ?_
                    have hbehind := L.length hd.body.rest
                    rw [Definition.rest, Definition.rest, L.length hrest, hbehind]
                    exact ih _ .none hrest
                | error hf =>
                    refine .cons (.diagnostic (.mk hf)) ?_
                    rw [hf.fault.isFatal]
                    split
                    next => exact .nil
                    next => exact ih 0 .none hrest
              · rw [if_neg hkeyword, if_neg hkeyword]
                refine ih 0 ?_ hrest
                split
                next => exact .some htoken
                next => exact .none

variable {fs fs' : List Finding}

theorem signatures (h : List.Forall₂ (Finding.AlikeIn L s s') fs fs') :
    List.Forall₂ (Signature.AlikeIn L s s') (fs.filterMap Finding.signature?)
      (fs'.filterMap Finding.signature?) := by
  refine List.rel_filterMap ?_ h
  intro f f' hf
  cases hf with
  | signature hsig => exact .some hsig
  | diagnostic => exact .none

theorem diagnostics (h : List.Forall₂ (Finding.AlikeIn L s s') fs fs') :
    List.Forall₂ (Diagnostic.AlikeIn L s s') (fs.filterMap Finding.diagnostic?)
      (fs'.filterMap Finding.diagnostic?) := by
  refine List.rel_filterMap ?_ h
  intro f f' hf
  cases hf with
  | signature => exact .none
  | diagnostic hg => exact .some hg

/-- Sources whose tokens are alike have findings that are alike, one for one. -/
theorem findings (h : L.lists (ofText s.text) (ofText s'.text)) :
    List.Forall₂ (Finding.AlikeIn L s s') s.findings s'.findings :=
  findingsFrom 0 .none h

end Likeness

end RpcDispatch
