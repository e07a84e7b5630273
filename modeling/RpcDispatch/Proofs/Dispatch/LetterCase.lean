import RpcDispatch.Proofs.Dispatch.AlikeTables
import RpcDispatch.Proofs.Extraction.Likeness
import RpcDispatch.Proofs.Lexing.LetterCase

/-!
# Letter case does not matter

Sources that differ only in the case of their letters hold definitions at the same places, and what
is dispatched is the same up to letter case.
-/

namespace RpcDispatch

/-! ## Words -/

def Text.SameFold (a b : Text) : Prop := foldCase a = foldCase b

instance (a b : Text) : Decidable (Text.SameFold a b) :=
  inferInstanceAs (Decidable (Text.foldCase a = Text.foldCase b))

theorem Piece.lt_of_isWordPart {c : Char} (h : isWordPart c = true) : c.toNat < 0x80 := by
  by_cases hd : c.isDigit = true
  · have hrange := range_of_isDigit hd
    omega
  · have hw : isWordStart c = true := by
      simpa [isWordPart, isWordStart, Char.isAlphanum, hd] using h
    have hrange := range_of_isWordStart hw
    omega

/-- The characters of a word are ASCII, where lower case and folding agree. -/
theorem Text.SameFold.lower_eq {a b : Text} (h : SameFold a b)
    (ha : ∀ c ∈ a, Piece.isWordPart c = true) : lower a = lower b := by
  have hpart : ∀ c : Char, Piece.isWordPart c.toLower = Piece.isWordPart c :=
    apply_toLower (by decide)
  have hb : ∀ c ∈ b, Piece.isWordPart c = true := by
    intro c hc
    have hmem : c.toLower ∈ foldCase a := by
      rw [h]
      exact List.mem_map_of_mem hc
    obtain ⟨d, hd, hcd⟩ := List.mem_map.mp hmem
    rw [← hpart, ← hcd, hpart]
    exact ha d hd
  rw [lower_eq_foldCase fun c hc => Piece.lt_of_isWordPart (ha c hc),
    lower_eq_foldCase fun c hc => Piece.lt_of_isWordPart (hb c hc)]
  exact h

/-! ## Extraction -/

/-- Tokens with the same letters at the same places. -/
def Likeness.letterCase : Likeness where
  lists ts us := ts.map Token.foldCase = us.map Token.foldCase
  tokens t u := t.foldCase = u.foldCase
  words := Text.SameFold
  slices := Text.SameFold
  length h := by simpa using congrArg List.length h
  cons h := List.cons.inj h
  kind h := (Token.of_foldCase_eq h).1
  word h := (Token.of_foldCase_eq h).2.1
  slice := by
    intro xs ys t u ts us h hlength
    rw [List.map_append, List.map_append] at h
    obtain ⟨hinner, hbehind⟩ := List.append_inj h (by simpa using hlength)
    have hclose : t.foldCase = u.foldCase := (List.cons.inj hbehind).1
    rw [Text.SameFold, ← Token.between_foldCase, ← Token.between_foldCase, hinner, hclose]

section

variable {s s' : SourceText}

theorem locate_eq (h : Text.SameFold s.text s'.text) {t u : Token} (htu : t.foldCase = u.foldCase) :
    s.locate t = s'.locate u := by
  obtain ⟨-, -, hstart⟩ := Token.of_foldCase_eq htu
  rw [SourceText.locate, SourceText.locate, hstart, ← Location.locate_foldCase, h,
    Location.locate_foldCase]

theorem Signature.AlikeIn.alike {sig sig' : Signature}
    (h : sig.AlikeIn .letterCase s s' sig')
    (hword : ∀ c ∈ sig.name, Piece.isWordPart c = true) : sig.Alike Text.SameFold sig' := by
  cases h with
  | @mk doc doc' keyword keyword' d d' _ _ hd =>
      have hname : Text.SameFold d.head.name.text d'.head.name.text :=
        (Token.of_foldCase_eq hd.head.name).2.1
      refine ⟨hname, hname.lower_eq hword, hd.head.returnType, ?_, ?_⟩
      · exact optionRel_isSome hd.head.returnWidth
      · apply Parameter.parseList_alike
        have hraw : Text.SameFold (Text.trim d.params.text) (Text.trim d'.params.text) := by
          rw [Text.SameFold, ← Text.trim_foldCase, ← Text.trim_foldCase]
          exact congrArg Text.trim hd.params.text
        have htokens := congrArg Token.ofText hraw
        rw [Token.ofText_foldCase, Token.ofText_foldCase] at htokens
        apply (forall₂_map_eq_iff.mpr htokens).imp
        intro t u htu
        obtain ⟨hkind, htext, -⟩ := Token.of_foldCase_eq htu
        exact ⟨hkind, htext⟩

/-- Folding keeps every character where it is, so all places agree. -/
theorem Signature.AlikeIn.place (h : Text.SameFold s.text s'.text) {sig sig' : Signature}
    (hsig : sig.AlikeIn .letterCase s s' sig') :
    sig.start = sig'.start ∧ sig.stop = sig'.stop ∧ sig.location = sig'.location := by
  cases hsig with
  | @mk doc doc' keyword keyword' d d' hdoc hkeyword hd =>
      refine ⟨?_, ?_, locate_eq h hkeyword⟩
      · cases hdoc with
        | none => exact (Token.of_foldCase_eq hkeyword).2.2
        | some hcomment => exact (Token.of_foldCase_eq hcomment).2.2
      · have hstop := congrArg Token.stop hd.body.close
        rwa [Token.stop_foldCase, Token.stop_foldCase] at hstop

theorem Diagnostic.AlikeIn.place (h : Text.SameFold s.text s'.text) {g g' : Diagnostic}
    (hg : g.AlikeIn .letterCase s s' g') :
    g.severity = g'.severity ∧ g.location = g'.location := by
  cases hg with
  | @mk f f' hf =>
      refine ⟨?_, locate_eq h hf.place⟩
      change f.fault.severity = f'.fault.severity
      rw [DefinitionFault.severity, DefinitionFault.severity, hf.fault.isFatal]

end

/-! ## Sessions -/

structure DisplayedScan.SamePlaces (d d' : DisplayedScan) : Prop where
  display : d.display = d'.display
  signatures : List.Forall₂ (fun s s' => s.start = s'.start ∧ s.stop = s'.stop ∧
    s.location = s'.location) d.scan.signatures d'.scan.signatures
  diagnostics : List.Forall₂ (fun g g' => g.severity = g'.severity ∧ g.location = g'.location)
    d.scan.diagnostics d'.scan.diagnostics

/-- Sources that differ in letter case only have signatures and diagnostics at the same places, and
their tables hold corresponding branches and skips. -/
theorem Session.letterCase_insignificant {sources sources' : List (Text × SourceText)}
    (h : List.Forall₂ (fun x y => x.1 = y.1 ∧ Text.SameFold x.2.text y.2.text) sources sources') :
    List.Forall₂ DisplayedScan.SamePlaces (ofSources sources).scans (ofSources sources').scans ∧
      List.Forall₂ (FileSection.Alike Text.SameFold) (ofSources sources).table.sections
        (ofSources sources').table.sections := by
  have hfindings : ∀ s s' : SourceText, Text.SameFold s.text s'.text →
      List.Forall₂ (Finding.AlikeIn .letterCase s s') s.findings s'.findings := by
    intro s s' hs
    apply Likeness.findings
    have htokens := congrArg Token.ofText hs
    rwa [Token.ofText_foldCase, Token.ofText_foldCase] at htokens
  constructor
  · apply scans_alike
    apply h.imp
    rintro ⟨display, s⟩ ⟨display', s'⟩ ⟨hdisplay, hs⟩
    refine ⟨hdisplay, ?_, ?_⟩
    · exact (Likeness.signatures (hfindings s s' hs)).imp fun _ _ hsig => hsig.place hs
    · exact (Likeness.diagnostics (hfindings s s' hs)).imp fun _ _ hg => hg.place hs
  · apply sections_alike fun _ _ hfold => hfold
    apply h.imp
    rintro ⟨display, s⟩ ⟨display', s'⟩ ⟨hdisplay, hs⟩
    refine ⟨hdisplay, ?_⟩
    have hwords : ∀ sig ∈ s.extract.signatures, ∀ c ∈ sig.name, Piece.isWordPart c = true :=
      fun sig hsig => (s.isWord_of_mem_signatures hsig).1
    have hboth := (List.forall₂_and_left _ _).mpr
      ⟨hwords, Likeness.signatures (hfindings s s' hs)⟩
    exact hboth.imp fun _ _ hsig => hsig.2.alike hsig.1

def capitalSources : List (Text × SourceText) :=
  [("a.axi".toList, ⟨⟨"a.axi".toList⟩, "DEFINE_FUNCTION Integer Add(INTEGER a) \x7b\x7d".toList⟩),
    ("b.axi".toList, ⟨⟨"b.axi".toList⟩,
      "Define_Function ADD() \x7b\x7d DEFINE_FUNCTION Widget Make(".toList⟩)]

def smallSources : List (Text × SourceText) :=
  [("a.axi".toList, ⟨⟨"A.AXI".toList⟩, "define_function integer add(integer A) \x7b\x7d".toList⟩),
    ("b.axi".toList, ⟨⟨"B.AXI".toList⟩,
      "define_function add() \x7b\x7d define_function widget make(".toList⟩)]

/-- A duplicate and an open parameter list, in capitals and in small letters. -/
theorem Session.letterCase_insignificant_capitals :
    List.Forall₂ (fun x y => x.1 = y.1 ∧ Text.SameFold x.2.text y.2.text) capitalSources
        smallSources ∧
      List.Forall₂ DisplayedScan.SamePlaces (ofSources capitalSources).scans
        (ofSources smallSources).scans ∧
      List.Forall₂ (FileSection.Alike Text.SameFold) (ofSources capitalSources).table.sections
        (ofSources smallSources).table.sections := by
  have h : List.Forall₂ (fun x y => x.1 = y.1 ∧ Text.SameFold x.2.text y.2.text) capitalSources
      smallSources := .cons ⟨rfl, by decide⟩ (.cons ⟨rfl, by decide⟩ .nil)
  exact ⟨h, letterCase_insignificant h⟩

end RpcDispatch
