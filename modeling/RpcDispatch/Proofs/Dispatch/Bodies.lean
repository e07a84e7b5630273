import RpcDispatch.Dispatch.Session
import RpcDispatch.Proofs.Extraction.Fronts
import RpcDispatch.Proofs.Lexing.Joining
import RpcDispatch.Proofs.Lexing.Tokenization

/-!
# Bodies are opaque

What stands between the braces of a definition can be exchanged for any other text that closes what
it opens. The tokens in front of it stay as they are, those behind it only move, and the dispatcher
that is written does not change.
-/

namespace RpcDispatch

open Token

/-! ## Texts that can be continued -/

/-- Whatever follows the text, its tokens stay as they are. -/
def Text.IsStable (t : Text) : Prop := ∀ u, ofText t <+: ofText (t ++ u)

/-- Between braces the text is a body of its own, and the brace behind it closes it whatever
follows. -/
structure Text.IsBody (t : Text) : Prop where
  closed : ∃ inner close, ofText (t ++ ['}']) = inner ++ [close] ∧ close.kind = .rightBrace ∧
    close.start = byteSize t ∧
    depthAfter? .leftBrace .rightBrace 0 (inner.map Token.kind) = some 0
  stable : (t ++ ['}']).IsStable

/-- Behind a stable text the lexer starts afresh. -/
theorem Text.IsStable.ofText_append {t : Text} {xs : List Token} {x : Token} (h : t.IsStable)
    (ht : t = between xs x ++ x.text) (htokens : ofText t = xs ++ [x]) (u : Text) :
    ofText (t ++ u) = xs ++ x :: ofTextFrom x.stop [] u := by
  obtain ⟨zs, hzs⟩ := h u
  rw [htokens, List.append_assoc, List.singleton_append] at hzs
  obtain ⟨after, htext, -, -, hafter⟩ := ofTextFrom_through hzs.symm
  rw [← ht] at htext
  obtain rfl := List.append_cancel_left htext
  rw [← hzs, hafter]

/-- A brace is complete as it stands: no text behind it can make it longer. -/
theorem Text.isStable_of_brace {t : Text} {c : Char} (hclosed : t.isSelfContained = true)
    (hlast : (Piece.ofText t).getLast? = some ⟨.lexeme (Piece.singleKind c), [c]⟩)
    (hc : c = '{' ∨ c = '}') : t.IsStable := by
  intro u
  have happart : t.staysApart u = true := by
    rw [staysApart, hlast]
    rcases hc with rfl | rfl <;> cases u <;> rfl
  exact ⟨_, (ofTextFrom_append hclosed happart 0 []).symm⟩

namespace Token

variable {xs ys : List Token} {x y : Token}

/-- A token that starts right behind a text has that text in front of it. -/
theorem between_eq_of_start {offset : Nat} {t u : Text}
    (h : ofTextFrom offset [] (t ++ u) = xs ++ x :: ys)
    (hstart : x.start = offset + Text.byteSize t) : between xs x = t := by
  obtain ⟨before, after, hs⟩ := exists_splits h
  rw [hs.start, Nat.add_left_cancel_iff] at hstart
  rw [hs.between_eq]
  exact (Text.append_inj_of_byteSize hs.text hstart.symm).1.symm

theorem unplaced_eq_iff :
    x.unplaced = y.unplaced ↔ x.kind = y.kind ∧ x.gap = y.gap ∧ x.text = y.text := by
  simp [unplaced]

theorem map_kind_of_unplaced (h : xs.map unplaced = ys.map unplaced) :
    xs.map kind = ys.map kind := by
  have hkinds := congrArg (List.map kind) h
  rwa [List.map_map, List.map_map] at hkinds

theorem between_of_unplaced (h : xs.map unplaced = ys.map unplaced)
    (hx : x.unplaced = y.unplaced) : between xs x = between ys y := by
  have hgaps := congrArg (List.flatMap withGap) h
  obtain ⟨-, hgap, -⟩ := unplaced_eq_iff.mp hx
  rw [List.flatMap_map, List.flatMap_map] at hgaps
  rw [between, between, hgap]
  exact congrArg (· ++ y.gap) hgaps

end Token

/-- A body is read wherever it stands, and nothing of what follows it. -/
theorem Text.IsBody.exists_group {t : Text} (h : t.IsBody) (offset : Nat) (rest : Text) :
    ∃ body, Group.read? .leftBrace .rightBrace 0 (ofTextFrom offset [] (t ++ '}' :: rest)) =
        some body ∧ body.text = t ∧ body.rest = ofTextFrom body.close.stop [] rest := by
  obtain ⟨⟨inner, close, htokens, hkind, hstart, hdepth⟩, hstable⟩ := h
  rw [ofText_eq] at htokens
  have hbetween : between inner close = t :=
    between_eq_of_start htokens (by rw [hstart, Nat.zero_add])
  have htext : close.text = ['}'] := text_eq_of_rightBrace htokens hkind
  have hwhole := hstable.ofText_append (by rw [hbetween, htext]) htokens rest
  have hmoved := map_unplaced_ofTextFrom offset 0 [] (t ++ '}' :: rest)
  rw [← ofText_eq, List.append_cons, hwhole, List.map_append, List.map_cons] at hmoved
  obtain ⟨inner', zs, hsplit, hinner, hzs⟩ := List.map_eq_append_iff.mp hmoved
  obtain ⟨close', rest', rfl, hclose, -⟩ := List.map_eq_cons_iff.mp hzs
  have hbetween' : between inner' close' = t :=
    (between_of_unplaced hinner hclose).trans hbetween
  obtain ⟨hkind', -, htext'⟩ := unplaced_eq_iff.mp hclose
  obtain ⟨after, hthrough, -, -, hafter⟩ := ofTextFrom_through hsplit
  rw [hbetween', htext', htext] at hthrough
  obtain rfl := List.append_cancel_left hthrough
  refine ⟨⟨inner', close', rest'⟩, ?_, hbetween', hafter⟩
  rw [Group.read?_eq_some (by decide), List.append_cons]
  refine ⟨hsplit, hkind'.trans hkind, ?_⟩
  rw [map_kind_of_unplaced hinner]
  exact hdepth

/-! ## Tokens that moved -/

def Likeness.moved : Likeness where
  lists ts us := ts.map unplaced = us.map unplaced
  tokens t u := t.unplaced = u.unplaced
  words := Eq
  slices := Eq
  length h := by simpa using congrArg List.length h
  cons h := List.cons.inj h
  kind h := (unplaced_eq_iff.mp h).1
  word h := (unplaced_eq_iff.mp h).2.2
  slice := by
    rintro xs ys t u ts us h hlength
    rw [List.map_append, List.map_append] at h
    obtain ⟨hxs, hrest⟩ := List.append_inj h (by rw [List.length_map, List.length_map, hlength])
    exact between_of_unplaced hxs (List.cons.inj hrest).1

/-! ## What is dispatched -/

theorem Signature.SameFront.validate_eq {s s' : Signature} (h : s.SameFront s') (r : Registry) :
    s.validate r = s'.validate r := by
  obtain ⟨-, htype, hwidth, hname, hraw, -⟩ := h
  simp only [validate, resolve, resolveReturn, htype, hwidth, hname, hraw]

theorem DispatchTable.entriesOf_eq {ss ss' : List Signature}
    (h : List.Forall₂ Signature.SameFront ss ss') (r : Registry) :
    entriesOf ss r = entriesOf ss' r := by
  induction h generalizing r with
  | nil => rfl
  | @cons s s' ss ss' hs _ ih =>
      have hentry (outcome : Except SkipReason ResolvedSignature) :
          DispatchEntry.ofOutcome s outcome = DispatchEntry.ofOutcome s' outcome := by
        cases outcome <;> simp [DispatchEntry.ofOutcome, hs.name, hs.rawParams]
      simp only [entriesOf, hs.validate_eq, ih, hentry]

theorem DispatchTable.sectionsOf_eq {scan scan' : FileScan}
    (h : List.Forall₂ Signature.SameFront scan.signatures scan'.signatures) (display : Text)
    (before after : List DisplayedScan) (r : Registry) :
    sectionsOf (before ++ ⟨display, scan⟩ :: after) r =
      sectionsOf (before ++ ⟨display, scan'⟩ :: after) r := by
  induction before generalizing r with
  | nil => simp only [List.nil_append, sectionsOf, entriesOf_eq h]
  | cons d before ih => simp only [List.cons_append, sectionsOf, ih]

theorem Session.render_eq {scan scan' : FileScan}
    (h : List.Forall₂ Signature.SameFront scan.signatures scan'.signatures) (display : Text)
    (before after : List DisplayedScan) (settings : DispatchSettings) (audit : Audit) :
    Session.render ⟨before ++ ⟨display, scan⟩ :: after⟩ settings audit =
      Session.render ⟨before ++ ⟨display, scan'⟩ :: after⟩ settings audit := by
  have htable : Session.table ⟨before ++ ⟨display, scan⟩ :: after⟩ =
      Session.table ⟨before ++ ⟨display, scan'⟩ :: after⟩ :=
    congrArg DispatchTable.mk (DispatchTable.sectionsOf_eq h display before after .empty)
  rw [render, render, htable]

/-! ## Exchanging a body -/

namespace SourceText

def withBody (path : Path) (front body rest : Text) : SourceText :=
  ⟨path, front ++ (body ++ '}' :: rest)⟩

variable {path : Path} {front body rest : Text} {before : List Signature} {sig : Signature}
  {after : List Finding}

/-- The brace that opens the body is the last token of the text in front of it, and the findings
behind it are those of the text behind the closing brace. -/
theorem exists_opening
    (hfindings : (withBody path front body rest).findings =
      before.map .signature ++ .signature sig :: after)
    (hbody : sig.body = body) (hstop : sig.stop = Text.byteSize (front ++ body) + 1)
    (s' : SourceText) (hpath : path = s'.path) :
    ∃ xs brace offset, front = between xs brace ++ brace.text ∧ ofText front = xs ++ [brace] ∧
      after = (withBody path front body rest).findingsFrom 0 none (ofTextFrom offset [] rest) ∧
      s'.TakesBody none xs brace before sig := by
  obtain ⟨xs, brace, behind, group, ⟨htokens, hgroup, htext, hclose, hafter⟩, htakes⟩ :=
    exists_opensAt hpath hfindings
  rw [ofText_eq] at htokens
  obtain ⟨u, hsource, hopen, hfront, rfl⟩ := ofTextFrom_through htokens
  obtain ⟨hinner, hkind, -⟩ := (Group.read?_eq_some (by decide)).mp hgroup
  obtain ⟨v, rfl, hend, -, hrest⟩ := ofTextFrom_through hinner
  have hbetween : between group.inner group.close = body := htext.symm.trans hbody
  rw [hbetween, text_eq_of_rightBrace hinner hkind] at hsource hend
  -- the place of the closing brace tells how long the text in front of the body is
  have hsize : Text.byteSize front = Text.byteSize (between xs brace ++ brace.text) := by
    have hplace : group.close.stop = Text.byteSize (front ++ body) + 1 := hclose.symm.trans hstop
    have hone : Text.byteSize ['}'] = 1 := rfl
    rw [Text.byteSize_append] at hplace hend
    omega
  obtain ⟨hfrontText, hbehind⟩ := Text.append_inj_of_byteSize hsource hsize
  rw [← List.append_cons] at hbehind
  obtain ⟨-, rfl⟩ := List.cons.inj (List.append_cancel_left hbehind)
  rw [← hfrontText] at hfront
  refine ⟨xs, brace, group.close.stop, hfrontText, hfront, ?_, htakes⟩
  rw [hafter, hrest]

theorem extract_of_findings {s : SourceText}
    (h : s.findings = before.map .signature ++ .signature sig :: after) :
    s.extract.signatures = before ++ sig :: after.filterMap Finding.signature? ∧
      s.extract.diagnostics = after.filterMap Finding.diagnostic? := by
  have hsignatures : (before.map Finding.signature).filterMap Finding.signature? = before := by
    rw [List.filterMap_map]
    exact List.filterMap_some
  have hdiagnostics : (before.map Finding.signature).filterMap Finding.diagnostic? = [] := by
    rw [List.filterMap_map]
    exact List.filterMap_eq_nil_iff.mpr fun _ _ => rfl
  constructor
  · rw [extract, h, List.filterMap_append, hsignatures]
    rfl
  · change s.findings.filterMap Finding.diagnostic? = _
    rw [h, List.filterMap_append, hdiagnostics]
    rfl

/-- Sources that hold the same, but for the body of the signature with this number and for places,
and whose dispatchers are the same. -/
structure SameButBody (s s' : SourceText) (number : Nat) (body : Text) : Prop where
  signatures : List.Forall₂ Signature.SameFront s.extract.signatures s'.extract.signatures
  bodies : s'.extract.signatures.map (·.body) =
    (s.extract.signatures.map (·.body)).set number body
  diagnostics : List.Forall₂ Diagnostic.SameWords s.extract.diagnostics s'.extract.diagnostics
  rendered : ∀ (display : Text) (scans scans' : List DisplayedScan) (settings : DispatchSettings)
    (audit : Audit), Session.render ⟨scans ++ ⟨display, s.extract⟩ :: scans'⟩ settings audit =
      Session.render ⟨scans ++ ⟨display, s'.extract⟩ :: scans'⟩ settings audit

/-- A body can be replaced by any text that closes what it opens, if no diagnostic comes before its
signature. The signature ends with the brace behind `front ++ body`, so `front` ends with the one
that opens the body. -/
theorem bodies_opaque {body' : Text}
    (hfindings : (withBody path front body rest).findings =
      before.map .signature ++ .signature sig :: after)
    (hbody : sig.body = body) (hstop : sig.stop = Text.byteSize (front ++ body) + 1)
    (hfront : front.IsStable) (hbody' : body'.IsBody) :
    SameButBody (withBody path front body rest) (withBody path front body' rest) before.length
      body' := by
  obtain ⟨xs, brace, offset, htext, htokens, hafter, htakes⟩ :=
    exists_opening hfindings hbody hstop (withBody path front body' rest) rfl
  obtain ⟨group, hgroup, hgroupText, hgroupRest⟩ := hbody'.exists_group brace.stop rest
  obtain ⟨before', sig', hfindings', hbefore, hbodies, hsig, hsigBody⟩ := htakes _ _ hgroup
  rw [← hfront.ofText_append htext htokens] at hfindings'
  -- behind the closing brace the same is found in both sources
  have hmoved : List.Forall₂ (Finding.AlikeIn .moved (withBody path front body rest)
      (withBody path front body' rest)) after
      ((withBody path front body' rest).findingsFrom 0 none group.rest) := by
    rw [hafter, hgroupRest]
    exact Likeness.findingsFrom 0 .none (map_unplaced_ofTextFrom _ _ _ _)
  have hpath : (withBody path front body rest).path = (withBody path front body' rest).path := rfl
  have hlater := (Likeness.signatures hmoved).imp fun _ _ h =>
    h.sameFront (fun _ _ => id) (fun _ _ => id) hpath
  obtain ⟨hsignatures, hdiagnostics⟩ := extract_of_findings hfindings
  obtain ⟨hsignatures', hdiagnostics'⟩ := extract_of_findings hfindings'
  have hfronts : List.Forall₂ Signature.SameFront
      (withBody path front body rest).extract.signatures
      (withBody path front body' rest).extract.signatures := by
    rw [hsignatures, hsignatures']
    exact List.rel_append hbefore (.cons hsig (hlater.imp fun _ _ h => h.1))
  refine ⟨hfronts, ?_, ?_, Session.render_eq hfronts⟩
  · have hlaterBodies := forall₂_map_eq_iff.mp (hlater.imp fun _ _ h => h.2)
    have hnumber : (before.map (·.body)).length ≤ before.length := (List.length_map _).le
    rw [hsignatures, hsignatures', List.map_append, List.map_append, hbodies,
      List.set_append_right _ _ hnumber, List.length_map, Nat.sub_self, List.map_cons,
      List.map_cons, List.set_cons_zero, hsigBody, hgroupText, hlaterBodies]
  · rw [hdiagnostics, hdiagnostics']
    exact (Likeness.diagnostics hmoved).imp fun _ _ h => h.sameWords (fun _ _ => id) hpath

def openedSecond : Text :=
  "define_function a() \x7b\x7d /* b */ define_function integer b(integer i) \x7b".toList

def firstSignature : Signature where
  docComment := none
  returnType := none
  returnWidth := none
  name := "a".toList
  rawParams := []
  body := []
  sourceFile := ⟨"a.axi".toList⟩
  start := 0
  stop := 22
  location := ⟨1, 1⟩

def secondSignature : Signature where
  docComment := some "/* b */".toList
  returnType := some "integer".toList
  returnWidth := none
  name := "b".toList
  rawParams := "integer i".toList
  body := "return i;".toList
  sourceFile := ⟨"a.axi".toList⟩
  start := 23
  stop := 79
  location := ⟨1, 32⟩

def unfinishedThird : Diagnostic where
  severity := .error
  file := ⟨"a.axi".toList⟩
  location := ⟨2, 18⟩
  message := "unterminated parameter list".toList

def threeDefinitions (body : Text) : SourceText :=
  withBody ⟨"a.axi".toList⟩ openedSecond body "\ndefine_function c(".toList

/-- A keyword, a parenthesis that is not closed, and braces in a string and in a comment. -/
def nestedBody : Text := "\x7b define_function d( \x7d '\x7d' /* \x7d */ ".toList

theorem isStable_openedSecond : openedSecond.IsStable :=
  Text.isStable_of_brace (c := '{') (by decide) (by decide) (.inl rfl)

theorem isBody_nestedBody : nestedBody.IsBody where
  closed := by
    refine ⟨(ofText (nestedBody ++ ['}'])).dropLast, ⟨.rightBrace, [' '], ['}'], 35⟩, ?_⟩
    decide +kernel
  stable := Text.isStable_of_brace (c := '}') (by decide) (by decide) (.inr rfl)

/-- The new body holds the keyword, an open parenthesis and braces in quotes. -/
theorem bodies_opaque_nested :
    (threeDefinitions "return i;".toList).findings =
        [firstSignature].map .signature ++ .signature secondSignature ::
          [.diagnostic unfinishedThird] ∧
      secondSignature.stop = Text.byteSize (openedSecond ++ "return i;".toList) + 1 ∧
      openedSecond.IsStable ∧ nestedBody.IsBody ∧
      SameButBody (threeDefinitions "return i;".toList) (threeDefinitions nestedBody) 1
        nestedBody := by
  have hfindings : (threeDefinitions "return i;".toList).findings =
      [firstSignature].map .signature ++ .signature secondSignature ::
        [.diagnostic unfinishedThird] := by decide +kernel
  have hstop : secondSignature.stop = Text.byteSize (openedSecond ++ "return i;".toList) + 1 := by
    decide
  exact ⟨hfindings, hstop, isStable_openedSecond, isBody_nestedBody,
    bodies_opaque hfindings rfl hstop isStable_openedSecond isBody_nestedBody⟩

end SourceText

end RpcDispatch
