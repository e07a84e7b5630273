import RpcDispatch.Proofs.Extraction.Lookups
import RpcDispatch.Proofs.Extraction.Parameters

/-!
# Reading parameter lists by lookups

The reader of parameter lists as a machine that knows a token by its kind and the bytes of its ends,
and cuts texts out of the list. No cut and no index fails, and what is read is the same.
-/

namespace RpcDispatch

structure Span where
  kind : TokenKind
  start : Nat
  stop : Nat

def Token.span (t : Token) : Span := ⟨t.kind, t.start, t.stop⟩

@[simp] theorem Token.kind_span (t : Token) : t.span.kind = t.kind := rfl

namespace Parameter

/-! ## The machine -/

def from? {α : Type} (xs : List α) (i : Nat) : Option (List α) := do
  guard (i ≤ xs.length)
  pure (xs.drop i)

def upTo? {α : Type} (xs : List α) (i : Nat) : Option (List α) := do
  guard (i ≤ xs.length)
  pure (xs.take i)

theorem from?_of_le {α : Type} {xs : List α} {i : Nat} (h : i ≤ xs.length) :
    from? xs i = some (xs.drop i) := by
  have hguard : guard (i ≤ xs.length) = some () := if_pos h
  rw [from?, hguard]
  rfl

theorem upTo?_of_le {α : Type} {xs : List α} {i : Nat} (h : i ≤ xs.length) :
    upTo? xs i = some (xs.take i) := by
  have hguard : guard (i ≤ xs.length) = some () := if_pos h
  rw [upTo?, hguard]
  rfl

variable (raw : Text)

def textAt? (x : Span) : Option Text := raw.slice? x.start x.stop

def widthAt? : List Span → Checked ParameterFault (Option ArrayWidth)
  | [] => pure none
  | first :: more => match more.getLast? with
      | some last =>
          if first.kind = .leftBracket ∧ last.kind = .rightBracket then do
            let text ← raw.slice? first.stop last.start
            pure (some (ArrayWidth.ofText text))
          else throw .tokensAfterName
      | none => throw .tokensAfterName

def parameterAt? (entry : List Span) (words : Nat) (width : Option ArrayWidth) :
    Option Parameter := do
  let beforeType ← Nat.psub words 2
  let modifiers ← upTo? entry beforeType
  let qualifiers ← modifiers.mapM (textAt? raw)
  let typeSpan ← entry[beforeType]?
  let type ← textAt? raw typeSpan
  let beforeName ← Nat.psub words 1
  let nameSpan ← entry[beforeName]?
  let name ← textAt? raw nameSpan
  pure ⟨qualifiers, type, name, width⟩

def entryAt? (entry : List Span) : Checked ParameterFault Parameter := do
  let words := (entry.takeWhile (·.kind = .ident)).length
  if words < 2 then throw .noTypeAndName
  else do
    let behind ← from? entry words
    let width ← widthAt? raw behind
    parameterAt? raw entry words width

def entriesAt? (position : Nat) : List (List Span) → Checked ParameterFailure (List Parameter)
  | [] => pure []
  | e :: es => do
      let p ← (entryAt? raw e).adapt fun f => ⟨position, f⟩
      let ps ← entriesAt? (position + 1) es
      pure (p :: ps)

def parseByLookups? : Option (Except ParameterFailure (List Parameter)) :=
  match ((Token.ofText raw).map Token.span).filter (!·.kind.isComment) with
  | [] => some (.ok [])
  | x :: xs => (entriesAt? raw 1 ((x :: xs).splitOnP (·.kind = .comma))).run

end Parameter

/-! ## Cuts that do not fail -/

/-- When comments become layout the other tokens stay where they are, and the text in front of them
stays too. -/
theorem Token.exists_of_absorbComments {carry : Text} {ts ys zs : List Token} {x : Token}
    (h : absorbComments carry ts = ys ++ x :: zs) :
    ∃ xs y us, ts = xs ++ y :: us ∧ zs = absorbComments [] us ∧ y.span = x.span ∧
      y.text = x.text ∧ carry ++ between xs y = between ys x := by
  induction ts generalizing carry ys with
  | nil => cases ys <;> cases h
  | cons t ts ih =>
      rw [absorbComments] at h
      split at h
      next =>
        obtain ⟨xs, y, us, rfl, hrest, hspan, htext, hbetween⟩ := ih h
        refine ⟨t :: xs, y, us, rfl, hrest, hspan, htext, ?_⟩
        rw [← hbetween, between, between, List.flatMap_cons]
        simp only [List.append_assoc]
      next =>
        cases ys with
        | nil =>
            obtain ⟨rfl, rfl⟩ := List.cons.inj h
            exact ⟨[], t, ts, rfl, rfl, rfl, rfl, rfl⟩
        | cons y' ys =>
            obtain ⟨rfl, hlater⟩ := List.cons.inj h
            obtain ⟨xs, y, us, rfl, hrest, hspan, htext, hbetween⟩ := ih hlater
            refine ⟨t :: xs, y, us, rfl, hrest, hspan, htext, ?_⟩
            rw [between] at hbetween
            simp only [between, List.flatMap_cons, withGap, List.append_assoc] at hbetween ⊢
            rw [← hbetween, List.nil_append]

theorem Token.map_span_absorbComments (carry : Text) (ts : List Token) :
    (absorbComments carry ts).map span = (ts.map span).filter (!·.kind.isComment) := by
  induction ts generalizing carry with
  | nil => rfl
  | cons t ts ih =>
      have hkind : t.span.kind.isComment = t.isComment := rfl
      rw [absorbComments, List.map_cons, List.filter_cons, hkind]
      by_cases hcomment : t.isComment = true
      · rw [if_pos hcomment, if_neg (by simpa using hcomment)]
        exact ih _
      · rw [if_neg hcomment, if_pos (by simpa using hcomment), List.map_cons, ih]
        rfl

namespace Parameter

/-- The tokens of a list, and what stands between two of them, can be cut out of the text. -/
structure CutFrom (raw : Text) (ts : List Token) : Prop where
  text : ∀ x ∈ ts, raw.slice? x.start x.stop = some x.text
  between : ∀ {before inner after first last}, ts = before ++ first :: (inner ++ last :: after) →
    raw.slice? first.stop last.start = some (Token.between inner last)

variable {raw : Text} {ts us e : List Token}

theorem CutFrom.of_infix (h : CutFrom raw ts) (hus : us <:+: ts) : CutFrom raw us where
  text x hx := h.text x (hus.subset hx)
  between heq := by
    obtain ⟨front, back, rfl⟩ := hus
    rename_i before inner after first last
    subst heq
    have hwhole : front ++ (before ++ first :: (inner ++ last :: after)) ++ back =
        (front ++ before) ++ first :: (inner ++ last :: (after ++ back)) := by simp
    exact h.between hwhole

theorem cutFrom_absorbComments (raw : Text) :
    CutFrom raw (Token.absorbComments [] (Token.ofText raw)) where
  text x hx := by
    obtain ⟨ys, zs, hsplit⟩ := List.append_of_mem hx
    obtain ⟨xs, y, us, htokens, -, hspan, htext, -⟩ := Token.exists_of_absorbComments hsplit
    obtain ⟨-, hstart, hstop⟩ := Span.mk.inj hspan
    rw [← hstart, ← hstop, ← htext]
    exact Token.slice?_of_mem (by simp [htokens])
  between hsplit := by
    obtain ⟨xs, x, us, htokens, hrest, hfirst, -, -⟩ := Token.exists_of_absorbComments hsplit
    obtain ⟨ys, y, vs, rfl, -, hlast, -, hbetween⟩ := Token.exists_of_absorbComments hrest.symm
    rw [← (Span.mk.inj hfirst).2.2, ← (Span.mk.inj hlast).2.1, ← hbetween]
    exact Token.slice?_between htokens

theorem map_splitEntries (ts : List Token) :
    (splitEntries ts).map (List.map Token.span) =
      (ts.map Token.span).splitOnP (·.kind = .comma) := by
  induction ts with
  | nil => rfl
  | cons t ts ih =>
      rw [splitEntries, List.map_cons, List.splitOnP_cons_eq_if_modifyHead, ← ih]
      by_cases hk : t.kind = .comma
      · rw [if_pos hk, if_pos (by simp [hk])]
        rfl
      · rw [if_neg hk, if_neg (by simp [hk])]
        cases hsplit : splitEntries ts with
        | nil => exact absurd hsplit (splitEntries_ne_nil ts)
        | cons e es => rfl

theorem widthAt?_agrees (h : CutFrom raw ts) :
    Agrees Eq Eq (widthAt? raw (ts.map Token.span)) (readWidth ts) := by
  cases ts with
  | nil => exact .ok rfl
  | cons first more =>
      rw [List.map_cons, widthAt?, readWidth]
      rcases List.eq_nil_or_concat more with rfl | ⟨inner, last, rfl⟩
      · exact .error rfl
      · rw [List.concat_eq_append, List.map_append, List.map_singleton, List.getLast?_concat,
          List.getLast?_concat]
        dsimp only
        by_cases hbrackets : first.kind = .leftBracket ∧ last.kind = .rightBracket
        · have hspans : first.span.kind = .leftBracket ∧ last.span.kind = .rightBracket := hbrackets
          have hslice := @CutFrom.between _ _ h [] inner [] first last (by simp)
          rw [if_pos hspans, if_pos hbrackets, List.dropLast_concat]
          exact Agrees.lookup hslice (.ok rfl)
        · have hspans : ¬(first.span.kind = .leftBracket ∧ last.span.kind = .rightBracket) :=
            hbrackets
          rw [if_neg hspans, if_neg hbrackets]
          exact .error rfl

theorem mapM_textAt? (h : CutFrom raw ts) :
    (ts.map Token.span).mapM (textAt? raw) = some (ts.map (·.text)) := by
  induction ts with
  | nil => rfl
  | cons t ts ih =>
      have htext : textAt? raw t.span = some t.text := h.text t List.mem_cons_self
      have hrest := ih (h.of_infix (List.suffix_cons t ts).isInfix)
      simp [htext, hrest]

theorem parameterAt?_eq {qualifiers rest : List Token} {type name : Token}
    (h : CutFrom raw (qualifiers ++ type :: name :: rest)) (width : Option ArrayWidth) :
    parameterAt? raw ((qualifiers ++ type :: name :: rest).map Token.span) (qualifiers.length + 2)
      width = some ⟨qualifiers.map (·.text), type.text, name.text, width⟩ := by
  have hmodifiers := mapM_textAt? (h.of_infix (List.prefix_append qualifiers _).isInfix)
  have htype : textAt? raw type.span = some type.text := h.text type (by simp)
  have hname : textAt? raw name.span = some name.text := h.text name (by simp)
  simp [parameterAt?, upTo?_of_le, hmodifiers, htype, hname]

theorem entryAt?_agrees (h : CutFrom raw e) :
    Agrees Eq Eq (entryAt? raw (e.map Token.span)) (readEntry e) := by
  have hwords : ((e.map Token.span).takeWhile (·.kind = .ident)).length =
      (e.takeWhile isName).length := by
    rw [List.takeWhile_map, List.length_map]
    rfl
  rw [entryAt?, hwords]
  rcases Nat.lt_or_ge (e.takeWhile isName).length 2 with hfew | hmany
  · rw [if_pos hfew, readEntry]
    split
    next name type qualifiers hnames =>
      have hlength := congrArg List.length hnames
      simp at hlength
      omega
    next => exact .error rfl
  · obtain ⟨qualifiers, type, name, hnames⟩ := exists_names hmany
    have hlength : (e.takeWhile isName).length = qualifiers.length + 2 := by simp [hnames]
    have hentry : e = qualifiers ++ type :: name :: e.dropWhile isName := by
      have hparts := List.takeWhile_append_dropWhile (p := isName) (l := e)
      rw [hnames] at hparts
      simpa using hparts.symm
    have hbehind : from? (e.map Token.span) (qualifiers.length + 2) =
        some ((e.dropWhile isName).map Token.span) := by
      have hle : qualifiers.length + 2 ≤ e.length := by
        rw [← hlength]
        exact (List.takeWhile_sublist isName).length_le
      have hdrop : e.drop (qualifiers.length + 2) = e.dropWhile isName := by
        rw [← hlength]
        have hbehind := @List.drop_left _ (e.takeWhile isName) (e.dropWhile isName)
        rwa [List.takeWhile_append_dropWhile] at hbehind
      rw [from?_of_le (by simpa using hle), ← List.map_drop, hdrop]
    rw [if_neg (by omega), readEntry_of_names hnames, hlength]
    apply Agrees.lookup hbehind
    refine Agrees.bind (widthAt?_agrees (h.of_infix (List.dropWhile_suffix isName).isInfix)) ?_
    rintro width _ rfl
    rw [hentry] at h ⊢
    exact Agrees.lift (parameterAt?_eq h width) rfl

theorem entriesAt?_agrees {es : List (List Token)} (h : ∀ e ∈ es, CutFrom raw e) (position : Nat) :
    Agrees Eq Eq (entriesAt? raw position (es.map (List.map Token.span)))
      (readEntries position es) := by
  induction es generalizing position with
  | nil => exact .ok rfl
  | cons e es ih =>
      rw [List.forall_mem_cons] at h
      have hbind : readEntries position (e :: es) = (do
          let p ← (readEntry e).mapError (ParameterFailure.mk position)
          let ps ← readEntries (position + 1) es
          pure (p :: ps)) := by
        rw [readEntries]
        cases readEntry e with
        | error f => rfl
        | ok p => cases readEntries (position + 1) es <;> rfl
      rw [hbind, List.map_cons, entriesAt?]
      refine Agrees.bind ((entryAt?_agrees h.1).adapt (fun _ _ => congrArg _)) ?_
      rintro p _ rfl
      refine Agrees.bind (ih h.2 (position + 1)) ?_
      rintro ps _ rfl
      exact .ok rfl

/-- No slice of the parameter text can fail. -/
theorem parseByLookups?_eq (raw : Text) : parseByLookups? raw = some (parseList raw) := by
  have hcut := cutFrom_absorbComments raw
  have hspans := Token.map_span_absorbComments [] (Token.ofText raw)
  rw [parseByLookups?, parseList, ← hspans]
  cases hts : Token.absorbComments [] (Token.ofText raw) with
  | nil => rfl
  | cons t ts =>
      rw [hts] at hcut
      have hentries : ∀ e ∈ splitEntries (t :: ts), CutFrom raw e := fun e he =>
        hcut.of_infix ((splitEntries_within _).2 e he)
      have hagrees := entriesAt?_agrees hentries 1
      rw [map_splitEntries] at hagrees
      exact hagrees.run_eq

end Parameter

end RpcDispatch
