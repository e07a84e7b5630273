import RpcDispatch.Proofs.Dispatch.AlikeTables
import RpcDispatch.Proofs.Extraction.Likeness
import RpcDispatch.Proofs.Lexing.Lexemes

/-!
# Layout does not matter

Sources with the same tokens and line comments, whatever blanks are between them, hold the same
definitions, and what is dispatched is the same.
-/

namespace RpcDispatch

/-! ## Tokens with the same lexemes -/

section

variable {o o' : Nat} {t t' : Text} {xs xs' ys ys' : List Token} {x x' : Token}

/-- Tokens with as many tokens before them cut texts with the same lexemes in the same way. -/
theorem Token.exists_same_lexemes (h : t.lexemes = t'.lexemes)
    (hx : ofTextFrom o [] t = xs ++ x :: ys) (hx' : ofTextFrom o' [] t' = xs' ++ x' :: ys')
    (hlength : xs.length = xs'.length) :
    (between xs x).lexemes = (between xs' x').lexemes ∧ Token.Alike Eq x x' ∧
      ∃ after after', ys = ofTextFrom x.stop [] after ∧ ys' = ofTextFrom x'.stop [] after' ∧
        Text.lexemes after = Text.lexemes after' := by
  obtain ⟨after, hcut, hcount, hys⟩ := exists_lexemes hx
  obtain ⟨after', hcut', hcount', hys'⟩ := exists_lexemes hx'
  rw [hcut, hcut'] at h
  obtain ⟨hbetween, hlexeme, hafter⟩ := Piece.append_inj_of_countP h rfl rfl
    (by rw [hcount, hcount', hlength])
  obtain ⟨hkind, htext⟩ := Piece.mk.inj hlexeme
  exact ⟨hbetween, ⟨PieceKind.lexeme.inj hkind, htext⟩, after, after', hys, hys', hafter⟩

end

/-- Tokens with the same kind and text, cut from texts with the same lexemes. -/
def Likeness.layout : Likeness where
  lists ts us := ∃ o o' t t', ts = Token.ofTextFrom o [] t ∧ us = Token.ofTextFrom o' [] t' ∧
    Text.lexemes t = Text.lexemes t'
  tokens := Token.Alike Eq
  words := Eq
  slices a b := a.lexemes = b.lexemes
  length := by
    rintro _ _ ⟨o, o', t, t', rfl, rfl, h⟩
    rw [← Token.countP_lexemes, ← Token.countP_lexemes, h]
  cons := by
    rintro x x' ys ys' ⟨o, o', t, t', hx, hx', h⟩
    have hhead : Token.ofTextFrom o [] t = [] ++ x :: ys := hx.symm
    have hhead' : Token.ofTextFrom o' [] t' = [] ++ x' :: ys' := hx'.symm
    obtain ⟨-, htoken, after, after', hys, hys', hafter⟩ :=
      Token.exists_same_lexemes h hhead hhead' rfl
    exact ⟨htoken, _, _, after, after', hys, hys', hafter⟩
  kind h := h.1
  word h := h.2
  slice := by
    rintro xs xs' x x' ys ys' ⟨o, o', t, t', hx, hx', h⟩ hlength
    exact (Token.exists_same_lexemes h hx.symm hx'.symm hlength).1

/-! ## Trimmed texts -/

theorem Text.marks_trim_eq {a b : Text} (h : a.lexemes = b.lexemes) :
    (trim a).marks = (trim b).marks := by
  rw [marks_trim, marks_trim, marks_eq, marks_eq, h]

theorem ArrayWidth.ofText_eq_unsized_iff {t : Text} : ofText t = unsized ↔ Text.trim t = [] := by
  rw [ofText]
  split
  next h => simp [h]
  next h => exact iff_of_false (by simp) h

/-- Both widths are left open, or both are given. -/
def ArrayWidth.SameForm (w w' : ArrayWidth) : Prop := w = unsized ↔ w' = unsized

theorem ArrayWidth.Alike.sameForm {w w' : ArrayWidth} (h : w.Alike .layout w') :
    w.SameForm w' := by
  obtain ⟨a, b, hlexemes, rfl, rfl⟩ := h
  rw [SameForm, ofText_eq_unsized_iff, ofText_eq_unsized_iff, Text.trim_eq_nil_iff,
    Text.trim_eq_nil_iff, Text.marks_trim_eq hlexemes]

/-- Trimming takes away layout only, so the same parameters are read. -/
theorem Parameter.parseList_trim {a b : Text} (h : a.lexemes = b.lexemes) :
    Corresponds Eq (List.Forall₂ (Parameter.Alike Eq)) (parseList (Text.trim a))
      (parseList (Text.trim b)) := by
  apply parseList_alike
  have htokens : (Token.ofText (Text.trim a)).map Token.lexeme =
      (Token.ofText (Text.trim b)).map Token.lexeme := by
    rw [Token.ofText_eq, Token.ofText_eq, Token.map_lexeme_ofTextFrom,
      Token.map_lexeme_ofTextFrom, Text.marks_trim_eq h]
  apply (forall₂_map_eq_iff.mpr htokens).imp
  intro t u htu
  obtain ⟨hkind, htext⟩ := Piece.mk.inj htu
  exact ⟨PieceKind.lexeme.inj hkind, htext⟩

/-! ## Signatures -/

/-- Signatures that differ in their places, in the text of their widths and of their parameters, and
in their bodies only. -/
structure Signature.SameWords (s s' : Signature) : Prop where
  name : s.name = s'.name
  returnType : s.returnType = s'.returnType
  docComment : s.docComment = s'.docComment
  returnWidth : Option.Rel ArrayWidth.SameForm s.returnWidth s'.returnWidth

section

variable {s s' : SourceText}

theorem Signature.AlikeIn.sameWords {sig sig' : Signature} (h : sig.AlikeIn .layout s s' sig') :
    sig.SameWords sig' := by
  cases h with
  | @mk doc doc' keyword keyword' d d' hdoc _ hd =>
      refine ⟨hd.head.name.2, optionRel_eq hd.head.returnType, ?_, ?_⟩
      · exact optionRel_map_eq hdoc fun _ _ hcomment => hcomment.2
      · exact optionRel_imp hd.head.returnWidth fun _ _ hwidth => hwidth.sameForm

theorem Signature.AlikeIn.sameCall {sig sig' : Signature} (h : sig.AlikeIn .layout s s' sig') :
    sig.Alike Eq sig' := by
  have hwords := h.sameWords
  refine ⟨hwords.name, congrArg Text.lower hwords.name, ?_, ?_, ?_⟩
  · rw [hwords.returnType]
    cases sig'.returnType with
    | none => exact .none
    | some type => exact .some rfl
  · exact optionRel_isSome hwords.returnWidth
  · cases h with
    | mk _ _ hd => exact Parameter.parseList_trim hd.params.text

end

/-! ## Entries -/

theorem ResolvedParameter.Alike.eq {p q : ResolvedParameter} (h : p.Alike Eq q) : p = q := by
  obtain ⟨⟨qualifiers, type, name, width⟩, support⟩ := p
  obtain ⟨⟨qualifiers', type', name', width'⟩, support'⟩ := q
  obtain ⟨⟨hqualifiers, rfl, rfl, hsome⟩, rfl, rfl⟩ := h
  obtain rfl : width' = none := by simpa using hsome.symm
  rw [List.forall₂_eq_eq_eq] at hqualifiers
  obtain rfl := hqualifiers
  rfl

theorem ResolvedSignature.Alike.eq {f f' : ResolvedSignature} (h : f.Alike Eq f') : f = f' := by
  obtain ⟨name, returns, parameters⟩ := f
  obtain ⟨name', returns', parameters'⟩ := f'
  obtain ⟨rfl, -, rfl, hparameters⟩ := h
  have hsame := hparameters.imp fun _ _ hp => hp.eq
  rw [List.forall₂_eq_eq_eq] at hsame
  obtain rfl := hsame
  rfl

/-- One branch, or skips on the same ground. -/
inductive Fragment.SameWords : Fragment → Fragment → Prop
  | branch (f : ResolvedSignature) : SameWords (.branch f) (.branch f)
  | skip {rawParams rawParams' : Text} {reason reason' : SkipReason} :
      reason.SameGround reason' →
      SameWords (.skip rawParams reason) (.skip rawParams' reason')

structure DispatchEntry.SameWords (e e' : DispatchEntry) : Prop where
  name : e.name = e'.name
  fragment : e.fragment.SameWords e'.fragment
  rendered : ∀ settings, e.isBranch = true → Render.entry settings e = Render.entry settings e'

theorem DispatchEntry.Alike.sameWords {e e' : DispatchEntry} (h : e.Alike Eq e') :
    e.SameWords e' := by
  obtain ⟨name, fragment⟩ := e
  obtain ⟨name', fragment'⟩ := e'
  obtain ⟨rfl, hfragment⟩ := h
  cases hfragment with
  | branch hf =>
      obtain rfl := hf.eq
      exact ⟨rfl, .branch _, fun _ _ => rfl⟩
  | skip hreason => exact ⟨rfl, .skip hreason, fun _ hbranch => absurd hbranch (by simp [isBranch])⟩

/-! ## Sessions -/

/-- Sources with the same lexemes have signatures and diagnostics that differ in their places and in
the layout of what they quote only, and their tables hold the same branches, and skips on the same
grounds. -/
theorem Session.layout_insignificant {sources sources' : List (Text × SourceText)}
    (h : List.Forall₂ (fun x y => x.1 = y.1 ∧ x.2.path = y.2.path ∧
      x.2.text.lexemes = y.2.text.lexemes) sources sources') :
    List.Forall₂ (fun d d' => d.display = d'.display ∧
        List.Forall₂ Signature.SameWords d.scan.signatures d'.scan.signatures ∧
        List.Forall₂ Diagnostic.SameWords d.scan.diagnostics d'.scan.diagnostics)
      (ofSources sources).scans (ofSources sources').scans ∧
    List.Forall₂ (fun f f' => f.path = f'.path ∧
        List.Forall₂ DispatchEntry.SameWords f.entries f'.entries)
      (ofSources sources).table.sections (ofSources sources').table.sections := by
  have hfindings : ∀ s s' : SourceText, s.text.lexemes = s'.text.lexemes →
      List.Forall₂ (Finding.AlikeIn .layout s s') s.findings s'.findings := by
    intro s s' hs
    apply Likeness.findings
    exact ⟨0, 0, s.text, s'.text, rfl, rfl, hs⟩
  constructor
  · apply scans_alike
    apply h.imp
    rintro ⟨display, s⟩ ⟨display', s'⟩ ⟨hdisplay, hpath, hs⟩
    refine ⟨hdisplay, ?_, ?_⟩
    · exact (Likeness.signatures (hfindings s s' hs)).imp fun _ _ hsig => hsig.sameWords
    · exact (Likeness.diagnostics (hfindings s s' hs)).imp
        fun _ _ hg => hg.sameWords (fun _ _ => id) hpath
  · have hsections : List.Forall₂ (FileSection.Alike Eq) (ofSources sources).table.sections
        (ofSources sources').table.sections := by
      apply sections_alike fun _ _ heq => congrArg Text.foldCase heq
      apply h.imp
      rintro ⟨display, s⟩ ⟨display', s'⟩ ⟨hdisplay, -, hs⟩
      refine ⟨hdisplay, ?_⟩
      exact (Likeness.signatures (hfindings s s' hs)).imp fun _ _ hsig => hsig.sameCall
    apply hsections.imp
    intro f f' hf
    exact ⟨hf.path, hf.entries.imp fun _ _ he => he.sameWords⟩

def denseSource : SourceText where
  path := ⟨"a.axi".toList⟩
  text := "/*f*/define_function char[4]f(integer)//x\n\x7b\x7d".toList

def spreadSource : SourceText where
  path := ⟨"a.axi".toList⟩
  text := " /*f*/\tdefine_function char[ 4 ]\n f ( integer )\n//x\r\n\x7b \x7d\n".toList

/-- The same definition, close together and spread over several lines. -/
theorem Session.layout_insignificant_spread :
    List.Forall₂ (fun x y => x.1 = y.1 ∧ x.2.path = y.2.path ∧
        x.2.text.lexemes = y.2.text.lexemes) [("a.axi".toList, denseSource)]
        [("a.axi".toList, spreadSource)] ∧
      List.Forall₂ (fun d d' => d.display = d'.display ∧
          List.Forall₂ Signature.SameWords d.scan.signatures d'.scan.signatures ∧
          List.Forall₂ Diagnostic.SameWords d.scan.diagnostics d'.scan.diagnostics)
        (ofSources [("a.axi".toList, denseSource)]).scans
        (ofSources [("a.axi".toList, spreadSource)]).scans ∧
      List.Forall₂ (fun f f' => f.path = f'.path ∧
          List.Forall₂ DispatchEntry.SameWords f.entries f'.entries)
        (ofSources [("a.axi".toList, denseSource)]).table.sections
        (ofSources [("a.axi".toList, spreadSource)]).table.sections := by
  have h : List.Forall₂ (fun x y => x.1 = y.1 ∧ x.2.path = y.2.path ∧
      x.2.text.lexemes = y.2.text.lexemes) [("a.axi".toList, denseSource)]
      [("a.axi".toList, spreadSource)] := .cons ⟨rfl, rfl, by decide +kernel⟩ .nil
  exact ⟨h, layout_insignificant h⟩

end RpcDispatch
