import Mathlib.Data.Nat.PSub
import RpcDispatch.Proofs.Extraction.Locations
import RpcDispatch.Proofs.Extraction.Reading

/-!
# Reading by lookups

The reader of definitions as a machine that holds the tokens of a text by number and the text itself
by bytes: it looks tokens up, cuts slices out, and counts the depth of a group down. Each of these
can fail: there may be no such token, a slice may end before it begins or inside a character, and
nothing comes before zero. None of them does, and what is read is the same.
-/

namespace RpcDispatch

open Token

/-! ## Computations with lookups -/

/-- A computation that ends in a value or in a fault, unless a lookup fails. -/
abbrev Checked (ε α : Type) : Type := ExceptT ε Option α

section

variable {ε ε' α α' β β' : Type} {E : ε → ε' → Prop} {A : α → α' → Prop} {B : β → β' → Prop}

/-- No lookup fails, and the computation ends as another one does. -/
def Agrees (E : ε → ε' → Prop) (A : α → α' → Prop) (x : Checked ε α) (y : Except ε' α') : Prop :=
  ∃ outcome, x.run = some outcome ∧ Corresponds E A outcome y

namespace Agrees

variable {x : Checked ε α} {y : Except ε' α'} {f : α → Checked ε β} {g : α' → Except ε' β'}

theorem ok {a : α} {a' : α'} (h : A a a') : Agrees E A (pure a) (.ok a') := ⟨_, rfl, .ok h⟩

theorem error {e : ε} {e' : ε'} (h : E e e') : Agrees E A (throw e) (.error e') :=
  ⟨_, rfl, .error h⟩

theorem bind (h : Agrees E A x y) (hf : ∀ a a', A a a' → Agrees E B (f a) (g a')) :
    Agrees E B (x >>= f) (y >>= g) := by
  obtain ⟨outcome, hx, houtcome⟩ := h
  cases houtcome with
  | @error e e' he =>
      refine ⟨.error e, ?_, .error he⟩
      rw [ExceptT.run_bind, hx]
      rfl
  | @ok a a' ha =>
      obtain ⟨result, hresult, hcorresponds⟩ := hf a a' ha
      refine ⟨result, ?_, hcorresponds⟩
      rw [ExceptT.run_bind, hx]
      exact hresult

theorem adapt {δ δ' : Type} {D : δ → δ' → Prop} {f : ε → δ} {g : ε' → δ'} (h : Agrees E A x y)
    (hfg : ∀ e e', E e e' → D (f e) (g e')) : Agrees D A (ExceptT.adapt f x) (y.mapError g) := by
  obtain ⟨outcome, hx, hcorresponds⟩ := h
  refine ⟨outcome.mapError f, ?_, hcorresponds.mapError hfg⟩
  rw [ExceptT.run_adapt, hx]
  rfl

/-- Where faults and values are the same the outcome is the same. -/
theorem run_eq {x : Checked ε α} {y : Except ε α} (h : Agrees Eq Eq x y) : x.run = some y := by
  obtain ⟨outcome, hx, hcorresponds⟩ := h
  rw [hx]
  cases hcorresponds with
  | error he => rw [he]
  | ok ha => rw [ha]

/-- A lookup that does not fail. -/
theorem lookup {o : Option α} {a : α} {y : Except ε' β'} (ho : o = some a)
    (h : Agrees E B (f a) y) : Agrees E B (do f (← o)) y := by
  obtain ⟨outcome, hf, hcorresponds⟩ := h
  refine ⟨outcome, ?_, hcorresponds⟩
  subst ho
  exact hf

theorem lift {o : Option α} {a : α} {a' : α'} (ho : o = some a) (h : A a a') :
    Agrees E A (liftM o : Checked ε α) (.ok a') := by
  subst ho
  exact ok h

end Agrees

end

/-! ## The machine -/

structure PlacedFailure where
  fault : DefinitionFault
  place : Nat

structure PlacedHead where
  returnType : Option Nat
  returnWidth : Option ArrayWidth
  name : Nat

structure PlacedDefinition where
  head : PlacedHead
  openParen : Nat
  closeParen : Nat
  openBrace : Nat
  closeBrace : Nat

/-- A place that was searched for, or the fault that there is none. -/
def orFault (found : Option (Option Nat)) (fault : Option DefinitionFault) (place : Nat) :
    Checked PlacedFailure Nat := do
  match ← found with
  | some j => pure j
  | none => throw ⟨← fault, place⟩

namespace SourceText

variable (s : SourceText)

def token? (i : Nat) : Option Token := (ofText s.text)[i]?

def textAt? (i : Nat) : Option Text := do
  let t ← s.token? i
  s.text.slice? t.start t.stop

def textBetween? (i j : Nat) : Option Text := do
  let first ← s.token? i
  let last ← s.token? j
  s.text.slice? first.stop last.start

def placesFrom (i : Nat) : List Nat := List.range' i ((ofText s.text).length - i)

def find? (p : Token → Bool) (i : Nat) : Option (Option Nat) :=
  (s.placesFrom i).findM? fun j => (s.token? j).map p

def nextPlace? (i : Nat) : Option (Option Nat) := s.find? (!·.isComment) i

def placeOfKind? (kind : TokenKind) (i : Nat) : Option (Option Nat) := do
  match ← s.nextPlace? i with
  | none => pure none
  | some j => do
      let t ← s.token? j
      pure (if t.kind = kind then some j else none)

/-- Counts the open groups on the way, and stops where none is left. -/
def closeAmong? (opener closer : TokenKind) : (depth : Nat) → List Nat → Option (Option Nat)
  | _, [] => some none
  | depth, i :: is => do
      let t ← s.token? i
      if t.kind = opener then closeAmong? opener closer (depth + 1) is
      else if t.kind = closer then do
        let left ← Nat.ppred depth
        if left = 0 then pure (some i) else closeAmong? opener closer left is
      else closeAmong? opener closer depth is

def close? (opener closer : TokenKind) (i : Nat) : Option (Option Nat) :=
  s.closeAmong? opener closer 0 (s.placesFrom i)

def widthAt? (i : Nat) : Checked PlacedFailure (ArrayWidth × Nat) := do
  let close ← orFault (s.close? .leftBracket .rightBracket i) (some .unclosedWidth) i
  let text ← s.textBetween? i close
  pure (ArrayWidth.ofText text, close)

def headAt? (keyword : Nat) : Checked PlacedFailure PlacedHead := do
  let first ← orFault (s.placeOfKind? .ident (keyword + 1)) (some .noName) keyword
  let second ← orFault (s.nextPlace? (first + 1)) ((s.textAt? first).map .noParameterList) first
  let t ← s.token? second
  match t.kind with
  | .leftParen => pure ⟨none, none, first⟩
  | .ident => pure ⟨some first, none, second⟩
  | .leftBracket => do
      let (width, close) ← s.widthAt? second
      let name ← orFault (s.placeOfKind? .ident (close + 1)) (some .noNameAfterType) close
      pure ⟨some first, some width, name⟩
  | _ => do
      let text ← s.textAt? first
      throw ⟨.noParameterList text, first⟩

def definitionAt? (keyword : Nat) : Checked PlacedFailure PlacedDefinition := do
  let head ← s.headAt? keyword
  let openParen ← orFault (s.placeOfKind? .leftParen (head.name + 1))
    ((s.textAt? head.name).map .noOpenParen) head.name
  let closeParen ← orFault (s.close? .leftParen .rightParen openParen)
    (some .unclosedParameters) openParen
  let openBrace ← orFault (s.placeOfKind? .leftBrace (closeParen + 1)) (some .noBody) closeParen
  let closeBrace ← orFault (s.close? .leftBrace .rightBrace openBrace) (some .unclosedBody)
    openBrace
  pure ⟨head, openParen, closeParen, openBrace, closeBrace⟩

def docAt? (i : Nat) : Option (Option Nat) :=
  match Nat.ppred i with
  | none => some none
  | some before => (s.token? before).map fun t => if t.isComment then some before else none

def firstAt? (doc : Option Nat) (keyword : Nat) : Option Token :=
  match doc with
  | none => s.token? keyword
  | some _ => do
      let before ← Nat.ppred keyword
      s.token? before

def signatureAt? (keyword : Nat) (d : PlacedDefinition) : Option Signature := do
  let doc ← s.docAt? keyword
  let docComment ← doc.mapM s.textAt?
  let first ← s.firstAt? doc keyword
  let last ← s.token? d.closeBrace
  let params ← s.textBetween? d.openParen d.closeParen
  let body ← s.textBetween? d.openBrace d.closeBrace
  let returnType ← d.head.returnType.mapM s.textAt?
  let name ← s.textAt? d.head.name
  let keywordToken ← s.token? keyword
  let location ← Location.lookUp? s.text keywordToken.start
  pure {
    docComment, returnType, name, body, location
    returnWidth := d.head.returnWidth
    rawParams := Text.trim params
    sourceFile := s.path
    start := first.start
    stop := last.stop }

/-- A failure shows at its token, or at the end of the text if there is no such token. -/
def diagnosticAt? (f : PlacedFailure) : Option Diagnostic := do
  let location ← Location.lookUp? s.text
    ((s.token? f.place).elim (Text.byteSize s.text) (·.start))
  pure ⟨f.fault.severity, s.path, location, f.fault.message⟩

/-- The findings from a place on, one in a round. -/
def scan? : (rounds : Nat) → (place : Nat) → Option (List Finding)
  | 0, _ => none
  | rounds + 1, place => do
      match ← s.find? (·.kind = .defineFunction) place with
      | none => pure []
      | some keyword =>
          match ← (s.definitionAt? keyword).run with
          | .ok d => do
              let sig ← s.signatureAt? keyword d
              let later ← scan? rounds (d.closeBrace + 1)
              pure (.signature sig :: later)
          | .error f => do
              let d ← s.diagnosticAt? f
              if f.fault.isFatal then pure [.diagnostic d]
              else do
                let later ← scan? rounds (keyword + 1)
                pure (.diagnostic d :: later)

/-- All definitions and diagnostics of a text. Every round but the last passes a token, so one round
more than there are tokens is enough. -/
def extractByLookups? : Option FileScan := do
  let found ← s.scan? ((ofText s.text).length + 1) 0
  pure ⟨s.path, found.filterMap Finding.signature?, found.filterMap Finding.diagnostic?⟩

/-! ## Lookups that do not fail -/

def Stands (i : Nat) (p : Token × List Token) : Prop := (ofText s.text).drop i = p.1 :: p.2

variable {s} {i j : Nat} {p q : Token × List Token} {t : Token} {ts : List Token}

theorem Stands.drop_succ (h : s.Stands i p) : (ofText s.text).drop (i + 1) = p.2 := by
  rw [← List.drop_drop, h]
  rfl

theorem Stands.eq_append (h : s.Stands i p) :
    ofText s.text = (ofText s.text).take i ++ p.1 :: p.2 := by
  rw [← h, List.take_append_drop]

theorem Stands.token? (h : s.Stands i p) : s.token? i = some p.1 := by
  have hhead := congrArg List.head? h
  rwa [List.head?_drop] at hhead

theorem Stands.mem (h : s.Stands i p) : p.1 ∈ ofText s.text := List.mem_of_getElem? h.token?

theorem Stands.textAt? (h : s.Stands i p) : s.textAt? i = some p.1.text := by
  rw [SourceText.textAt?, h.token?]
  exact slice?_of_mem h.mem

theorem Stands.textBetween? {x y : Token} {inner rest : List Token}
    (hx : s.Stands i (x, inner ++ y :: rest)) (hy : s.Stands j (y, rest)) :
    s.textBetween? i j = some (between inner y) := by
  rw [SourceText.textBetween?, hx.token?, hy.token?]
  exact slice?_between hx.eq_append

theorem Stands.length (h : s.Stands i p) : i + (p.2.length + 1) = (ofText s.text).length := by
  have hlength := congrArg List.length h
  rw [List.length_drop, List.length_cons] at hlength
  omega

theorem placesFrom_nil (h : (ofText s.text).drop i = []) : s.placesFrom i = [] := by
  have hle := List.drop_eq_nil_iff.mp h
  rw [placesFrom, Nat.sub_eq_zero_of_le hle]
  rfl

theorem Stands.placesFrom (h : s.Stands i p) : s.placesFrom i = i :: s.placesFrom (i + 1) := by
  have hlength := h.length
  have hcount : (ofText s.text).length - i = ((ofText s.text).length - (i + 1)) + 1 := by omega
  rw [SourceText.placesFrom, SourceText.placesFrom, hcount, List.range'_succ]

theorem find?_nil (f : Token → Bool) (h : (ofText s.text).drop i = []) :
    s.find? f i = some none := by
  rw [find?, placesFrom_nil h]
  rfl

theorem Stands.find? (f : Token → Bool) (h : s.Stands i p) :
    s.find? f i = if f p.1 then some (some i) else s.find? f (i + 1) := by
  rw [SourceText.find?, SourceText.find?, h.placesFrom, List.findM?, h.token?]
  cases hf : f p.1 <;> simp [hf]

/-- Counting places comes to the token that the list gives, and no place is out of range. -/
theorem nextPlace?_rel (i : Nat) : ∃ found, s.nextPlace? i = some found ∧
    Option.Rel s.Stands found (nextSignificant? ((ofText s.text).drop i)) := by
  generalize hts : (ofText s.text).drop i = ts
  induction ts generalizing i with
  | nil => exact ⟨none, find?_nil _ hts, .none⟩
  | cons t ts ih =>
      have hstands : s.Stands i (t, ts) := hts
      rw [nextPlace?, hstands.find?, nextSignificant?]
      by_cases hcomment : t.isComment = true
      · rw [if_neg (by simpa using hcomment), if_pos hcomment]
        exact ih (i + 1) hstands.drop_succ
      · rw [if_pos (by simpa using hcomment), if_neg hcomment]
        exact ⟨some i, rfl, .some hstands⟩

theorem placeOfKind?_rel (kind : TokenKind) (i : Nat) :
    ∃ found, s.placeOfKind? kind i = some found ∧
      Option.Rel (fun j q => s.Stands j q ∧ q.1.kind = kind) found
        (nextOfKind? kind ((ofText s.text).drop i)) := by
  obtain ⟨found, hfound, hrel⟩ := nextPlace?_rel (s := s) i
  rw [placeOfKind?, hfound, nextOfKind?]
  generalize nextSignificant? ((ofText s.text).drop i) = next at hrel
  cases hrel with
  | none => exact ⟨none, rfl, .none⟩
  | @some j q hq =>
      by_cases hk : q.1.kind = kind
      · refine ⟨some j, ?_, ?_⟩
        · simp [hq.token?, hk]
        · rw [Option.filter_some_pos (by simpa using hk)]
          exact .some ⟨hq, hk⟩
      · refine ⟨none, ?_, ?_⟩
        · simp [hq.token?, hk]
        · rw [Option.filter_some_neg (by simpa using hk)]
          exact .none

/-- The tokens at two places enclose a group. -/
def HasGroup (s : SourceText) (i j : Nat) (g : Group) : Prop :=
  (∃ t, s.Stands i (t, g.inner ++ g.close :: g.rest)) ∧ s.Stands j (g.close, g.rest)

theorem HasGroup.textBetween? {g : Group} (h : s.HasGroup i j g) :
    s.textBetween? i j = some g.text := by
  obtain ⟨⟨t, hopen⟩, hclose⟩ := h
  exact hopen.textBetween? hclose

/-- One bracket more is open than in the group, as the opening one is counted here. -/
theorem closeAmong?_rel {opener closer : TokenKind} (hne : opener ≠ closer) (depth i : Nat) :
    ∃ found, s.closeAmong? opener closer (depth + 1) (s.placesFrom i) = some found ∧
      Option.Rel (fun j (g : Group) => s.Stands j (g.close, g.rest)) found
        (Group.read? opener closer depth ((ofText s.text).drop i)) := by
  generalize hts : (ofText s.text).drop i = ts
  induction ts generalizing i depth with
  | nil =>
      rw [placesFrom_nil hts, Group.read?]
      exact ⟨none, rfl, .none⟩
  | cons t ts ih =>
      have hstands : s.Stands i (t, ts) := hts
      have hlater (d : Nat) : ∃ found,
          s.closeAmong? opener closer (d + 1) (s.placesFrom (i + 1)) = some found ∧
            Option.Rel (fun j (g : Group) => s.Stands j (g.close, g.rest)) found
              ((Group.read? opener closer d ts).map (Group.cons t)) := by
        obtain ⟨found, hfound, hrel⟩ := ih d (i + 1) hstands.drop_succ
        refine ⟨found, hfound, ?_⟩
        generalize Group.read? opener closer d ts = group at hrel
        cases hrel with
        | none => exact .none
        | some hclose => exact .some hclose
      rw [hstands.placesFrom, closeAmong?, hstands.token?]
      by_cases ho : t.kind = opener
      · rw [Group.read?_opener ho]
        simpa [ho] using hlater (depth + 1)
      by_cases hc : t.kind = closer
      · cases depth with
        | zero =>
            rw [Group.read?_closer_zero hc hne]
            refine ⟨some i, ?_, .some hstands⟩
            simp [hc, hne.symm]
        | succ d =>
            rw [Group.read?_closer_succ hc hne]
            simpa [hc, hne.symm] using hlater d
      · rw [Group.read?_other ho hc]
        simpa [ho, hc] using hlater depth

theorem close?_rel {opener closer : TokenKind} (hne : opener ≠ closer) (h : s.Stands i p)
    (hk : p.1.kind = opener) : ∃ found, s.close? opener closer i = some found ∧
      Option.Rel (s.HasGroup i) found (Group.read? opener closer 0 p.2) := by
  obtain ⟨found, hfound, hrel⟩ := closeAmong?_rel (s := s) hne 0 (i + 1)
  rw [h.drop_succ] at hrel
  refine ⟨found, ?_, ?_⟩
  · rw [close?, h.placesFrom, closeAmong?, h.token?]
    simpa [hk] using hfound
  · cases hread : Group.read? opener closer 0 p.2 with
    | none =>
        rw [hread] at hrel
        cases hrel
        exact .none
    | some g =>
        rw [hread] at hrel
        cases hrel with
        | some hclose =>
            obtain ⟨hinner, -, -⟩ := (Group.read?_eq_some hne).mp hread
            refine .some ⟨⟨p.1, ?_⟩, hclose⟩
            rw [← hinner]
            exact h

end SourceText

/-! ## The machine reads the same -/

def PlacedFailure.Matches (s : SourceText) (f : PlacedFailure) (f' : DefinitionFailure) : Prop :=
  f.fault = f'.fault ∧ ∃ rest, s.Stands f.place (f'.place, rest)

structure PlacedHead.Matches (s : SourceText) (h : PlacedHead) (h' : DefinitionHead) : Prop where
  returnType : h.returnType.mapM s.textAt? = some h'.returnType
  returnWidth : h.returnWidth = h'.returnWidth
  name : s.Stands h.name (h'.name, h'.rest)

structure PlacedDefinition.Matches (s : SourceText) (d : PlacedDefinition) (d' : Definition) :
    Prop where
  head : d.head.Matches s d'.head
  params : s.HasGroup d.openParen d.closeParen d'.params
  body : s.HasGroup d.openBrace d.closeBrace d'.body

namespace SourceText

variable {s : SourceText} {i j : Nat} {p : Token × List Token}

theorem orFault_agrees {β : Type} {R : Nat → β → Prop} {search : Option (Option Nat)}
    {found : Option β} {fault : Option DefinitionFault} {f : DefinitionFailure} {rest : List Token}
    (hsearch : ∃ place, search = some place ∧ Option.Rel R place found)
    (hfault : fault = some f.fault) (hplace : s.Stands i (f.place, rest)) :
    Agrees (PlacedFailure.Matches s) R (orFault search fault i) (found.elim (throw f) pure) := by
  obtain ⟨place, rfl, hrel⟩ := hsearch
  rw [orFault]
  apply Agrees.lookup rfl
  cases hrel with
  | none => exact Agrees.lookup hfault (.error ⟨rfl, rest, hplace⟩)
  | some h => exact .ok h

theorem widthAt?_agrees (h : s.Stands i p) (hk : p.1.kind = .leftBracket) :
    Agrees (PlacedFailure.Matches s)
      (fun (found : ArrayWidth × Nat) (g : Group) =>
        found.1 = ArrayWidth.ofText g.text ∧ s.Stands found.2 (g.close, g.rest))
      (s.widthAt? i)
      ((Group.read? .leftBracket .rightBracket 0 p.2).elim (throw ⟨.unclosedWidth, p.1⟩) pure) := by
  rw [widthAt?, ← bind_pure (Option.elim _ _ _)]
  refine Agrees.bind (orFault_agrees (close?_rel (by decide) h hk) rfl h) ?_
  intro close g hgroup
  exact Agrees.lookup hgroup.textBetween? (.ok ⟨rfl, hgroup.2⟩)

theorem headAt?_agrees {keyword : Token} {ts : List Token} (h : s.Stands i (keyword, ts)) :
    Agrees (PlacedFailure.Matches s) (PlacedHead.Matches s) (s.headAt? i)
      (DefinitionHead.read keyword ts) := by
  rw [headAt?, DefinitionHead.read]
  refine Agrees.bind (orFault_agrees (h.drop_succ ▸ placeOfKind?_rel .ident (i + 1)) rfl h) ?_
  rintro first ⟨firstToken, afterFirst⟩ ⟨hfirst, -⟩
  have htext := hfirst.textAt?
  have hfault : (s.textAt? first).map DefinitionFault.noParameterList =
      some (.noParameterList firstToken.text) := by rw [htext]; rfl
  obtain ⟨place, hplace, hrel⟩ := nextPlace?_rel (s := s) (first + 1)
  rw [hfirst.drop_succ] at hrel
  dsimp only at hrel ⊢
  generalize nextSignificant? afterFirst = next at hrel
  cases hrel with
  | none =>
      rw [hplace, hfault]
      exact .error ⟨rfl, _, hfirst⟩
  | @some second q hsecond =>
      obtain ⟨secondToken, afterSecond⟩ := q
      rw [hplace]
      apply Agrees.lookup hsecond.token?
      dsimp only
      cases hk : secondToken.kind with
      | leftParen => exact .ok ⟨rfl, rfl, hfirst⟩
      | ident => exact .ok ⟨by simp [htext], rfl, hsecond⟩
      | leftBracket =>
          refine Agrees.bind (widthAt?_agrees hsecond hk) ?_
          rintro ⟨width, close⟩ g ⟨hwidth, hclose⟩
          refine Agrees.bind (orFault_agrees
            (hclose.drop_succ ▸ placeOfKind?_rel .ident (close + 1)) rfl hclose) ?_
          rintro name ⟨nameToken, rest⟩ ⟨hname, -⟩
          exact .ok ⟨by simp [htext], congrArg some hwidth, hname⟩
      | _ => exact Agrees.lookup htext (.error ⟨rfl, _, hfirst⟩)

/-- No lookup fails in reading a definition, whatever comes of it. -/
theorem definitionAt?_agrees {keyword : Token} {ts : List Token} (h : s.Stands i (keyword, ts)) :
    Agrees (PlacedFailure.Matches s) (PlacedDefinition.Matches s) (s.definitionAt? i)
      (Definition.read keyword ts) := by
  rw [definitionAt?, Definition.read]
  refine Agrees.bind (headAt?_agrees h) ?_
  intro head head' hhead
  refine Agrees.bind (orFault_agrees
    (hhead.name.drop_succ ▸ placeOfKind?_rel .leftParen (head.name + 1))
    (by rw [hhead.name.textAt?]; rfl) hhead.name) ?_
  rintro openParen ⟨parenToken, inParens⟩ ⟨hparen, hparenKind⟩
  refine Agrees.bind (orFault_agrees (close?_rel (by decide) hparen hparenKind) rfl hparen) ?_
  intro closeParen params hparams
  refine Agrees.bind (orFault_agrees
    (hparams.2.drop_succ ▸ placeOfKind?_rel .leftBrace (closeParen + 1)) rfl hparams.2) ?_
  rintro openBrace ⟨braceToken, inBraces⟩ ⟨hbrace, hbraceKind⟩
  refine Agrees.bind (orFault_agrees (close?_rel (by decide) hbrace hbraceKind) rfl hbrace) ?_
  intro closeBrace body hbody
  exact .ok ⟨hhead, hparams, hbody⟩

theorem docAfter_take_succ (h : s.Stands i p) :
    docAfter none ((ofText s.text).take (i + 1)) = if p.1.isComment then some p.1 else none := by
  have hlast : ((ofText s.text).take (i + 1)).getLast? = some p.1 := by
    rw [List.take_add_one, ← SourceText.token?, h.token?]
    exact List.getLast?_concat
  rw [docAfter, hlast]

theorem docAt?_rel (h : s.Stands i p) : ∃ doc, s.docAt? i = some doc ∧
    Option.Rel (fun j t => j + 1 = i ∧ s.Stands j (t, p.1 :: p.2)) doc
      (docAfter none ((ofText s.text).take i)) := by
  cases i with
  | zero => exact ⟨none, rfl, .none⟩
  | succ j =>
      obtain ⟨t, ht⟩ : ∃ t, s.Stands j (t, p.1 :: p.2) := by
        have hlt : j < (ofText s.text).length := by
          have hlength := h.length
          omega
        exact ⟨_, (List.drop_eq_getElem_cons hlt).trans (congrArg _ h)⟩
      rw [docAfter_take_succ ht, docAt?, Nat.ppred_succ]
      dsimp only
      rw [ht.token?, Option.map_some]
      refine ⟨_, rfl, ?_⟩
      dsimp only
      split
      next => exact .some ⟨rfl, ht⟩
      next => exact .none

theorem signatureAt?_eq {keyword : Token} {ts : List Token} {d : PlacedDefinition} {d' : Definition}
    (h : s.Stands i (keyword, ts)) (hd : d.Matches s d') :
    s.signatureAt? i d =
      some (s.signature (docAfter none ((ofText s.text).take i)) keyword d') := by
  obtain ⟨⟨htype, hwidth, hname⟩, hparams, hbody⟩ := hd
  obtain ⟨doc, hdoc, hrel⟩ := docAt?_rel h
  generalize docAfter none ((ofText s.text).take i) = doc' at hrel
  have hcomment : doc.mapM s.textAt? = some (doc'.map (·.text)) := by
    cases hrel with
    | none => rfl
    | some hj => simp [hj.2.textAt?]
  have hfirst : s.firstAt? doc i = some (doc'.getD keyword) := by
    cases hrel with
    | none => exact h.token?
    | some hj =>
        obtain ⟨rfl, hj⟩ := hj
        exact hj.token?
  simp [signatureAt?, signature, hdoc, hcomment, hfirst, hbody.2.token?, hparams.textBetween?,
    hbody.textBetween?, htype, hname.textAt?, h.token?, Location.lookUp?_eq_some, locate, hwidth]

theorem diagnosticAt?_eq {f : PlacedFailure} {f' : DefinitionFailure} (h : f.Matches s f') :
    s.diagnosticAt? f = some (s.diagnostic f') := by
  obtain ⟨hfault, rest, hplace⟩ := h
  simp [diagnosticAt?, diagnostic, hplace.token?, Location.lookUp?_eq_some, locate, hfault]

/-- Where no keyword follows nothing is found, and else the same as from the next keyword on. -/
theorem findKeyword?_eq (i : Nat) :
    (s.find? (·.kind = .defineFunction) i = some none ∧
      s.findingsFrom 0 (docAfter none ((ofText s.text).take i)) ((ofText s.text).drop i) = []) ∨
    ∃ k keyword ts, s.find? (·.kind = .defineFunction) i = some (some k) ∧ i ≤ k ∧
      s.Stands k (keyword, ts) ∧ keyword.kind = .defineFunction ∧
      s.findingsFrom 0 (docAfter none ((ofText s.text).take i)) ((ofText s.text).drop i) =
        s.findingsFrom 0 (docAfter none ((ofText s.text).take k)) (keyword :: ts) := by
  generalize hts : (ofText s.text).drop i = ts
  induction ts generalizing i with
  | nil => exact .inl ⟨find?_nil _ hts, rfl⟩
  | cons t ts ih =>
      have hstands : s.Stands i (t, ts) := hts
      rw [hstands.find?]
      by_cases hk : t.kind = .defineFunction
      · rw [if_pos (by simpa using hk)]
        exact .inr ⟨i, t, ts, rfl, Nat.le_refl i, hstands, hk, rfl⟩
      · rw [if_neg (by simpa using hk), findingsFrom, if_neg hk]
        specialize ih (i + 1) hstands.drop_succ
        rw [docAfter_take_succ hstands] at ih
        refine ih.imp_right ?_
        rintro ⟨k, keyword, us, hfind, hle, hrest⟩
        exact ⟨k, keyword, us, hfind, by omega, hrest⟩

/-- Every round of the loop moves on, so there are rounds enough for all places. -/
theorem scan?_eq {rounds place : Nat} (hplace : place ≤ (ofText s.text).length)
    (hrounds : (ofText s.text).length < place + rounds) :
    s.scan? rounds place = some (s.findingsFrom 0 (docAfter none ((ofText s.text).take place))
      ((ofText s.text).drop place)) := by
  induction rounds generalizing place with
  | zero => omega
  | succ rounds ih =>
      rcases findKeyword?_eq (s := s) place with ⟨hfind, hnone⟩ |
        ⟨k, keyword, ts, hfind, hle, hstands, hk, hrest⟩
      · rw [scan?, hfind, hnone]
        rfl
      · have hcount : k + (ts.length + 1) = (ofText s.text).length := hstands.length
        rw [scan?, hfind, hrest]
        obtain ⟨outcome, houtcome, hcorresponds⟩ := definitionAt?_agrees hstands
        generalize hread : Definition.read keyword ts = result at hcorresponds
        cases hcorresponds with
        | @ok d d' hd =>
            have hclose := hd.body.2
            obtain ⟨-, -, hkind⟩ := Definition.exists_close hread
            have hcomment := Token.isComment_eq hkind
            have hlength : d.closeBrace + (d'.rest.length + 1) = (ofText s.text).length :=
              hclose.length
            have hsuffix := (Definition.read_suffix hread).length_le
            have hlater := @ih (d.closeBrace + 1) (by omega) (by omega)
            rw [docAfter_take_succ hclose, hcomment, hclose.drop_succ] at hlater
            rw [s.findingsFrom_definition hk hread]
            simp only [Option.bind_eq_bind, Option.bind_some, houtcome, signatureAt?_eq hstands hd,
              hlater]
            rfl
        | @error f f' hf =>
            have hlater := @ih (k + 1) (by omega) (by omega)
            rw [docAfter_take_succ hstands, Token.isComment_eq hk, hstands.drop_succ] at hlater
            rw [findingsFrom, if_pos hk, hread]
            simp only [Option.bind_eq_bind, Option.bind_some, houtcome, diagnosticAt?_eq hf, hf.1]
            split
            next => rfl
            next =>
              rw [hlater]
              rfl

/-- No index, slice or decrement of the extraction can fail. -/
theorem extractByLookups?_eq (s : SourceText) : s.extractByLookups? = some s.extract := by
  have hscan := scan?_eq (s := s) (Nat.zero_le _) (Nat.lt_add_left 0 (Nat.lt_succ_self _))
  rw [extractByLookups?, hscan]
  rfl

end SourceText

end RpcDispatch
