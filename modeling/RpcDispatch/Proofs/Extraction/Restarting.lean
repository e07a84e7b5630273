import RpcDispatch.Proofs.Extraction.Moving

/-!
# A definition and what follows it, by themselves

A signature is read from its own span: cut out of its text, the span yields the same signature and
nothing else. And behind the span reading starts afresh: what is found there is what is found in the
rest of the text by itself, moved to where the rest begins.
-/

namespace RpcDispatch

open Token

/-! ## Where a signature was read -/

/-- A signature was read at a keyword behind the tokens `before`. -/
structure SourceText.ReadAt (s : SourceText) (sig : Signature) (before : List Token)
    (doc : Option Token) (keyword : Token) (behind : List Token) (d : Definition) : Prop where
  kind : keyword.kind = .defineFunction
  read : Definition.read keyword behind = .ok d
  signature : sig = s.signature doc keyword d
  /-- A doc comment is the token directly before the keyword. -/
  doc : ∀ t ∈ doc, t.isComment = true ∧ ∃ xs, before = xs ++ [t]

theorem Finding.signature?_eq_some {f : Finding} {sig : Signature} :
    f.signature? = some sig ↔ f = .signature sig := by
  cases f <;> simp [signature?]

namespace SourceText

variable {s : SourceText} {sig : Signature} {front behind : List Token} {doc : Option Token}
  {keyword : Token} {d : Definition}

theorem ReadAt.stop_eq (h : s.ReadAt sig front doc keyword behind d) :
    d.body.close.stop = sig.stop := by
  rw [h.signature]
  rfl

/-- The closing brace and the tokens behind it are those of the text. -/
theorem ReadAt.exists_close (h : s.ReadAt sig front doc keyword behind d)
    (htokens : ofText s.text = front ++ keyword :: behind) :
    ∃ xs, ofText s.text = xs ++ d.body.close :: d.rest := by
  obtain ⟨xs, rfl, -⟩ := Definition.exists_close h.read
  refine ⟨front ++ keyword :: xs, ?_⟩
  rw [htokens, List.append_assoc, List.cons_append]

/-- A signature that is found at any point was read at a keyword, and the scan went on behind it. -/
theorem exists_readAt {n : Nat} {doc : Option Token} (passed : List Token) {ts : List Token}
    {early late : List Finding}
    (hdoc : ∀ t ∈ doc, t.isComment = true ∧ ∃ xs, passed = xs ++ [t])
    (h : s.findingsFrom n doc ts = early ++ .signature sig :: late) :
    ∃ before doc keyword behind d, passed ++ ts = before ++ keyword :: behind ∧
      s.ReadAt sig before doc keyword behind d ∧ late = s.findingsFrom 0 none d.rest := by
  induction ts generalizing n doc passed early with
  | nil => cases n <;> cases early <;> cases h
  | cons t ts ih =>
      have hlater {n : Nat} {doc : Option Token} {early : List Finding}
          (hdoc : ∀ x ∈ doc, x.isComment = true ∧ x = t)
          (h : s.findingsFrom n doc ts = early ++ .signature sig :: late) :
          ∃ before doc keyword behind d, passed ++ t :: ts = before ++ keyword :: behind ∧
            s.ReadAt sig before doc keyword behind d ∧ late = s.findingsFrom 0 none d.rest := by
        rw [List.append_cons]
        refine ih (passed ++ [t]) ?_ h
        intro x hx
        obtain ⟨hcomment, rfl⟩ := hdoc x hx
        exact ⟨hcomment, passed, rfl⟩
      cases n with
      | succ n => exact hlater (by simp) h
      | zero =>
          by_cases hk : t.kind = .defineFunction
          · rw [findingsFrom, if_pos hk] at h
            rcases hread : Definition.read t ts with f | d
            · rw [hread] at h
              cases early with
              | nil => cases (List.cons.inj h).1
              | cons e early =>
                  have htail := (List.cons.inj h).2
                  split at htail
                  next => cases early <;> cases htail
                  next => exact hlater (by simp) htail
            · rw [hread] at h
              cases early with
              | nil =>
                  obtain ⟨hsig, hlate⟩ := List.cons.inj h
                  rw [s.findingsFrom_rest hread] at hlate
                  exact ⟨passed, doc, t, ts, d, rfl,
                    ⟨hk, hread, (Finding.signature.inj hsig).symm, hdoc⟩, hlate.symm⟩
              | cons e early => exact hlater (by simp) (List.cons.inj h).2
          · rw [findingsFrom, if_neg hk] at h
            refine hlater ?_ h
            intro x hx
            split at hx
            next hcomment =>
              obtain rfl := Option.some.inj hx
              exact ⟨hcomment, rfl⟩
            next => cases hx

/-- A signature comes from a keyword, and what was found later from behind its closing brace. -/
theorem exists_readAt_of_signatures {before after : List Signature}
    (h : s.extract.signatures = before ++ sig :: after) :
    ∃ early late front doc keyword behind d, s.findings = early ++ .signature sig :: late ∧
      early.filterMap Finding.signature? = before ∧ late.filterMap Finding.signature? = after ∧
      ofText s.text = front ++ keyword :: behind ∧ s.ReadAt sig front doc keyword behind d ∧
      late = s.findingsFrom 0 none d.rest := by
  obtain ⟨early, later, hsplit, hbefore, hlater⟩ := List.filterMap_eq_append_iff.mp h
  obtain ⟨diagnostics, f, late, rfl, hnone, hsig, hafter⟩ := List.filterMap_eq_cons_iff.mp hlater
  obtain rfl := Finding.signature?_eq_some.mp hsig
  have hfindings : s.findings = (early ++ diagnostics) ++ .signature sig :: late := by
    rw [hsplit, List.append_assoc]
  obtain ⟨front, doc, keyword, behind, d, htokens, hread, hlate⟩ :=
    exists_readAt [] (by simp) hfindings
  refine ⟨early ++ diagnostics, late, front, doc, keyword, behind, d, hfindings, ?_, hafter,
    htokens, hread, hlate⟩
  rw [List.filterMap_append, List.filterMap_eq_nil_iff.mpr hnone, List.append_nil, hbefore]

/-! ## Behind a definition -/

/-- What is found behind a definition is what is found in the rest of the text by itself, at places
moved to the end of the definition. -/
theorem findings_behind {before after : List Signature}
    (h : s.extract.signatures = before ++ sig :: after) :
    ∃ (rest : Text) (early : List Finding),
      s.text.slice? sig.stop (Text.byteSize s.text) = some rest ∧
      s.findings = early ++ .signature sig :: (SourceText.mk s.path rest).findings.map
        (Finding.movedBy sig.stop (Location.locate s.text sig.stop)) ∧
      early.filterMap Finding.signature? = before ∧
      after = (extract ⟨s.path, rest⟩).signatures.map
        (Signature.movedBy sig.stop (Location.locate s.text sig.stop)) ∧
      s.extract.diagnostics = early.filterMap Finding.diagnostic? ++
        (extract ⟨s.path, rest⟩).diagnostics.map
          (Diagnostic.movedBy (Location.locate s.text sig.stop)) ∧
      StandsBehind ⟨s.path, rest⟩ s sig.stop (Location.locate s.text sig.stop) := by
  obtain ⟨early, late, front, doc, keyword, behind, d, hfindings, hearly, hlate, htokens, hread,
    rfl⟩ := exists_readAt_of_signatures h
  obtain ⟨xs, hclose⟩ := hread.exists_close htokens
  obtain ⟨rest, hslice, hrest⟩ := exists_behind hclose
  rw [hread.stop_eq] at hslice hrest
  have hbehind := standsBehind_of_slice? hslice
  have hmoved := hbehind.findings
  rw [hrest] at hmoved
  rw [hmoved] at hfindings hlate
  refine ⟨rest, early, hslice, hfindings, hearly, ?_, ?_, hbehind⟩
  · rw [← hlate, filterMap_signature?_movedBy]
    rfl
  · have hdiagnostics := congrArg (List.filterMap Finding.diagnostic?) hfindings
    rw [List.filterMap_append, List.filterMap_cons_none rfl, filterMap_diagnostic?_movedBy]
      at hdiagnostics
    exact hdiagnostics

/-- Two definitions behind doc comments: a keyword without a name stands in front of them, a stray
quote between them, and another keyword behind them. -/
def straySource : SourceText where
  path := ⟨"a.axi".toList⟩
  text := ("define_function 5\n(* é *) define_function f()\x7b ( \x7d\n" ++
    "' /* h */\ndefine_function g() \x7b\x7d define_function").toList

def strayFirst : Signature where
  docComment := some "(* é *)".toList
  returnType := none
  returnWidth := none
  name := "f".toList
  rawParams := []
  body := " ( ".toList
  sourceFile := ⟨"a.axi".toList⟩
  start := 18
  stop := 51
  location := ⟨2, 9⟩

def straySecond : Signature where
  docComment := some "/* h */".toList
  returnType := none
  returnWidth := none
  name := "g".toList
  rawParams := []
  body := []
  sourceFile := ⟨"a.axi".toList⟩
  start := 54
  stop := 84
  location := ⟨4, 1⟩

theorem findings_behind_stray :
    straySource.extract.signatures = [] ++ strayFirst :: [straySecond] ∧
      ∃ (rest : Text) (early : List Finding),
        straySource.text.slice? 51 (Text.byteSize straySource.text) = some rest ∧
        straySource.findings = early ++ .signature strayFirst ::
          (SourceText.mk straySource.path rest).findings.map
            (Finding.movedBy 51 (Location.locate straySource.text 51)) ∧
        early.filterMap Finding.signature? = [] ∧
        [straySecond] = (extract ⟨straySource.path, rest⟩).signatures.map
          (Signature.movedBy 51 (Location.locate straySource.text 51)) ∧
        straySource.extract.diagnostics = early.filterMap Finding.diagnostic? ++
          (extract ⟨straySource.path, rest⟩).diagnostics.map
            (Diagnostic.movedBy (Location.locate straySource.text 51)) ∧
        StandsBehind ⟨straySource.path, rest⟩ straySource 51
          (Location.locate straySource.text 51) := by
  have h : straySource.extract.signatures = [] ++ strayFirst :: [straySecond] := by decide
  exact ⟨h, findings_behind h⟩

/-! ## A definition by itself -/

/-- From its first token to its closing brace a definition is read again. The layout in front of the
first token does not matter. -/
theorem ReadAt.exists_span (h : s.ReadAt sig front doc keyword behind d) :
    ∃ xs first inner, front ++ keyword :: behind =
        xs ++ first :: (inner ++ d.body.close :: d.body.rest) ∧ first.start = sig.start ∧
      s.findingsFrom 0 none ({ first with gap := [] } :: (inner ++ [d.body.close])) =
        [.signature sig] := by
  obtain ⟨ys, brace, inBraces, rfl, hbody, hfront⟩ := Definition.exists_front h.read
  obtain ⟨rfl, hclose, hdepth⟩ := (Group.read?_eq_some (by decide)).mp hbody
  have hcut : Group.read? .leftBrace .rightBrace 0 (d.body.inner ++ [d.body.close]) =
      some { d.body with rest := [] } :=
    (Group.read?_eq_some (by decide)).mpr ⟨rfl, hclose, hdepth⟩
  obtain ⟨d', hread, hsame, hbody'⟩ := hfront _ _ hcut
  have hsignature (doc : Option Token) (keyword : Token) :
      s.signature doc keyword d' = s.signature doc keyword d :=
    (hsame.signature_eq (by rw [hbody']; rfl) (by rw [hbody']) doc keyword).symm
  have hrest : d'.rest = [] := by rw [Definition.rest, hbody']
  have hdefinition (doc : Option Token) (keyword : Token) (hk : keyword.kind = .defineFunction) :
      s.findingsFrom 0 doc (keyword :: (ys ++ brace :: d.body.inner ++ [d.body.close])) =
        [.signature (s.signature doc keyword d)] := by
    rw [List.append_assoc, List.cons_append,
      s.findingsFrom_definition hk (Definition.read_of_ok hread keyword), hsignature, hrest]
    rfl
  cases doc with
  | none =>
      refine ⟨front, keyword, ys ++ brace :: d.body.inner, by simp, ?_, ?_⟩
      · rw [h.signature]
        rfl
      · rw [h.signature]
        exact hdefinition none { keyword with gap := [] } h.kind
  | some t =>
      obtain ⟨hcomment, xs, rfl⟩ := h.doc t rfl
      refine ⟨xs, t, keyword :: (ys ++ brace :: d.body.inner), by simp, ?_, ?_⟩
      · rw [h.signature]
        rfl
      · have hkind : t.kind ≠ .defineFunction := by
          intro hk
          rw [Token.isComment, hk] at hcomment
          cases hcomment
        have hleading : Token.isComment { t with gap := [] } = true := hcomment
        rw [findingsFrom, if_neg hkind, if_pos hleading, List.cons_append, hdefinition _ _ h.kind,
          h.signature]
        rfl

/-- Cut out of its text, the span of a signature yields the signature and nothing else. -/
theorem extract_span (h : sig ∈ s.extract.signatures) :
    ∃ (slice : Text) (location : Location), s.text.slice? sig.start sig.stop = some slice ∧
      extract ⟨s.path, slice⟩ = ⟨s.path,
        [{ sig with start := 0, stop := sig.stop - sig.start, location := location }], []⟩ ∧
      sig.location = (Location.locate s.text sig.start).behind location := by
  obtain ⟨before, after, hsplit⟩ := List.append_of_mem h
  obtain ⟨early, late, front, doc, keyword, behind, d, -, -, -, htokens, hread, -⟩ :=
    exists_readAt_of_signatures hsplit
  obtain ⟨xs, first, inner, hspan, hstart, hfindings⟩ := hread.exists_span
  obtain ⟨slice, hslice, -, hinner⟩ := exists_slice (htokens.trans hspan)
  rw [hstart, hread.stop_eq] at hslice
  have hmoved := (standsBehind_of_slice? hslice).findings
  rw [← hstart, hinner, hfindings, hstart] at hmoved
  obtain ⟨f, hf, hsig⟩ := List.map_eq_singleton_iff.mp hmoved.symm
  cases f with
  | diagnostic e => cases hsig
  | signature one =>
      have hmovedBy := Finding.signature.inj hsig
      have hone := Signature.eq_of_movedBy hmovedBy
      rw [Nat.sub_self] at hone
      refine ⟨slice, one.location, hslice, ?_, (congrArg Signature.location hmovedBy).symm⟩
      rw [extract, hf, ← hone]
      rfl

theorem extract_span_stray :
    strayFirst ∈ straySource.extract.signatures ∧
      ∃ (slice : Text) (location : Location), straySource.text.slice? 18 51 = some slice ∧
        extract ⟨straySource.path, slice⟩ = ⟨straySource.path,
          [{ strayFirst with start := 0, stop := 51 - 18, location := location }], []⟩ ∧
        strayFirst.location = (Location.locate straySource.text 18).behind location := by
  have h : strayFirst ∈ straySource.extract.signatures := by decide
  exact ⟨h, extract_span h⟩

end SourceText

end RpcDispatch
