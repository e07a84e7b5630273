import RpcDispatch.Proofs.Extraction.Closing
import RpcDispatch.Proofs.Extraction.Parameters

/-!
# Which parameter lists are read

An entry is read if it is a run of at least two names, and behind them nothing or any tokens from
an opening to a closing bracket. The first entry that is not read is reported. So an entry with one
width in brackets is read, but one with several brackets behind its name can be read too.
-/

namespace RpcDispatch

/-- From an opening bracket to a closing one, whatever stands between them. -/
def IsBracketRun (ts : List Token) : Prop :=
  ∃ first inner last, ts = first :: (inner ++ [last]) ∧ first.kind = .leftBracket ∧
    last.kind = .rightBracket

/-- A bracket up to the first token that closes it, as the width of a return type is read. -/
def IsBracketGroup (ts : List Token) : Prop :=
  ∃ b : Bracketed .leftBracket .rightBracket, ts = b.tokens

section

variable {t : Token} {ts : List Token}

theorem isBracketGroup_cons_iff : IsBracketGroup (t :: ts) ↔
    t.kind = .leftBracket ∧ IsClosing .leftBracket .rightBracket ts := by
  constructor
  · rintro ⟨b, hb⟩
    obtain ⟨rfl, rfl⟩ := List.cons.inj hb
    exact ⟨b.opens, b.closes⟩
  · rintro ⟨hk, hclosing⟩
    obtain ⟨inner, close, rfl⟩ := hclosing.exists_concat
    exact ⟨⟨t, inner, close, hk, hclosing⟩, rfl⟩

instance : DecidablePred IsBracketGroup
  | [] => .isFalse fun ⟨_, h⟩ => nomatch h
  | _ :: _ => decidable_of_iff _ isBracketGroup_cons_iff.symm

/-- The converse fails for two widths one behind the other, as in `[1][2]`. -/
theorem IsBracketGroup.isBracketRun (h : IsBracketGroup ts) : IsBracketRun ts := by
  obtain ⟨b, rfl⟩ := h
  have hclosing := (isClosing_concat_iff (by decide)).mp b.closes
  exact ⟨b.opening, b.inner, b.closing, rfl, b.opens, hclosing.1⟩

end

namespace Parameter

/-- The tokens between the commas of a list, comments dropped. A list without tokens has none. -/
def entries (raw : Text) : List (List Token) :=
  match Token.absorbComments [] (Token.ofText raw) with
  | [] => []
  | t :: ts => splitEntries (t :: ts)

/-- At least two names, and behind them nothing or a width. -/
structure HasShape (IsWidth : List Token → Prop) (e : List Token) : Prop where
  names : 2 ≤ (e.takeWhile isName).length
  width : e.dropWhile isName = [] ∨ IsWidth (e.dropWhile isName)

instance (IsWidth : List Token → Prop) [DecidablePred IsWidth] (e : List Token) :
    Decidable (HasShape IsWidth e) :=
  decidable_of_iff (_ ∧ _) ⟨fun h => ⟨h.1, h.2⟩, fun h => ⟨h.names, h.width⟩⟩

abbrev IsDocumented : List Token → Prop := HasShape IsBracketGroup

abbrev IsReadable : List Token → Prop := HasShape IsBracketRun

/-- The answer for entries of which every one has to be accepted, the first of them at `position`:
parameters, or the position of the first entry that is not accepted. -/
def Answers (Accepts : List Token → Prop) (position : Nat) (es : List (List Token)) :
    Except ParameterFailure (List Parameter) → Prop
  | .ok _ => ∀ e ∈ es, Accepts e
  | .error f => ∃ before e after, es = before ++ e :: after ∧ (∀ b ∈ before, Accepts b) ∧
      ¬Accepts e ∧ f.position = position + before.length

/-! ## One entry -/

section

variable {e ts : List Token} {width : Option ArrayWidth} {p : Parameter}

theorem IsDocumented.isReadable (h : IsDocumented e) : IsReadable e :=
  ⟨h.names, h.width.imp_right IsBracketGroup.isBracketRun⟩

/-- Only the first and the last token of a width are looked at. -/
theorem exists_readWidth_iff :
    (∃ width, readWidth ts = .ok width) ↔ ts = [] ∨ IsBracketRun ts := by
  cases ts with
  | nil => simp [readWidth]
  | cons first more =>
      rw [readWidth]
      rcases List.eq_nil_or_concat more with rfl | ⟨inner, last, rfl⟩
      · simp [IsBracketRun]
      · rw [List.concat_eq_append, List.getLast?_concat]
        dsimp only
        split
        next h =>
          refine iff_of_true ⟨_, rfl⟩ (.inr ⟨first, inner, last, rfl, h.1, h.2⟩)
        next h =>
          refine iff_of_false (fun ⟨_, hw⟩ => nomatch hw) ?_
          rintro (hnil | ⟨first', inner', last', heq, hfirst, hlast⟩)
          · cases hnil
          · obtain ⟨rfl, htail⟩ := List.cons.inj heq
            obtain ⟨-, hlasts⟩ := List.append_inj' htail rfl
            obtain rfl := List.singleton_inj.mp hlasts
            exact h ⟨hfirst, hlast⟩

theorem exists_readEntry_iff : (∃ p, readEntry e = .ok p) ↔ IsReadable e := by
  constructor
  · rintro ⟨p, hp⟩
    obtain ⟨qualifiers, type, name, hnames, width, hwidth, -⟩ := readEntry_eq_ok.mp hp
    exact ⟨by simp [hnames], exists_readWidth_iff.mp ⟨width, hwidth⟩⟩
  · rintro ⟨hnames, hwidth⟩
    obtain ⟨width, hwidth⟩ := exists_readWidth_iff.mpr hwidth
    obtain ⟨qualifiers, type, name, hall⟩ := exists_names hnames
    exact ⟨_, readEntry_eq_ok.mpr ⟨qualifiers, type, name, hall, width, hwidth, rfl⟩⟩

end

/-! ## All entries -/

/-- Entries are read in order, up to the first that cannot be. -/
theorem answers_readEntries (position : Nat) (es : List (List Token)) :
    Answers IsReadable position es (readEntries position es) := by
  induction es generalizing position with
  | nil => exact fun e he => nomatch he
  | cons e es ih =>
      rw [readEntries]
      split
      next f hf =>
        refine ⟨[], e, es, rfl, by simp, ?_, rfl⟩
        rw [← exists_readEntry_iff]
        rintro ⟨p, hp⟩
        rw [hf] at hp
        cases hp
      next p hp =>
        have he : IsReadable e := exists_readEntry_iff.mp ⟨p, hp⟩
        specialize ih (position + 1)
        cases hrest : readEntries (position + 1) es with
        | ok ps =>
            rw [hrest] at ih
            exact List.forall_mem_cons.mpr ⟨he, ih⟩
        | error f =>
            rw [hrest] at ih
            obtain ⟨before, x, after, rfl, hbefore, hx, hposition⟩ := ih
            refine ⟨e :: before, x, after, rfl, List.forall_mem_cons.mpr ⟨he, hbefore⟩, hx, ?_⟩
            rw [hposition, List.length_cons]
            omega

theorem parseList_eq (raw : Text) : parseList raw = readEntries 1 (entries raw) := by
  rw [parseList, entries]
  cases Token.absorbComments [] (Token.ofText raw) <;> rfl

/-- An answer that is right for one notion of an entry is right for a narrower one if no entry that
is accepted tells them apart. -/
theorem Answers.narrow_iff {P Q : List Token → Prop} (hQP : ∀ e, Q e → P e) {position : Nat}
    {es : List (List Token)} {answer : Except ParameterFailure (List Parameter)}
    (h : Answers P position es answer) : Answers Q position es answer ↔
      ∀ before, before <+: es → (∀ e ∈ before, P e) → ∀ e ∈ before, Q e := by
  cases answer with
  | ok ps =>
      constructor
      · intro hQ before hbefore _ e he
        exact hQ e (hbefore.subset he)
      · intro hall
        exact hall es (List.prefix_refl es) h
  | error f =>
      obtain ⟨before, e, after, rfl, hbefore, he, hposition⟩ := h
      constructor
      · rintro ⟨before', e', after', heq, hbefore', -, hposition'⟩ front hfront hreadable
        have hlength : before.length = before'.length := by omega
        obtain ⟨rfl, -⟩ := List.append_inj heq hlength
        -- the front ends before the entry that is not accepted
        rcases List.prefix_or_prefix_of_prefix hfront (List.prefix_append before _) with hle | hle
        · exact fun x hx => hbefore' x (hle.subset hx)
        · obtain ⟨more, rfl⟩ := hle
          rw [List.prefix_append_right_inj] at hfront
          cases more with
          | nil => exact fun x hx => hbefore' x (by simpa using hx)
          | cons x more =>
              obtain rfl : x = e := (List.cons_prefix_cons.mp hfront).1
              exact absurd (hreadable x (by simp)) he
      · intro hall
        exact ⟨before, e, after, rfl, hall before (List.prefix_append before _) hbefore,
          fun hQ => he (hQP e hQ), hposition⟩

/-- A list is read if its entries are names and anything from an opening to a closing bracket. The
answer is right for entries with a single bracket group exactly if, in front of the first entry that
is not read, there are no others. -/
theorem parseList_answers (raw : Text) :
    Answers IsReadable 1 (entries raw) (parseList raw) ∧
    (Answers IsDocumented 1 (entries raw) (parseList raw) ↔
      ∀ before, before <+: entries raw → (∀ e ∈ before, IsReadable e) →
        ∀ e ∈ before, IsDocumented e) := by
  have hanswers : Answers IsReadable 1 (entries raw) (parseList raw) := by
    rw [parseList_eq]
    exact answers_readEntries 1 (entries raw)
  exact ⟨hanswers, hanswers.narrow_iff fun e => IsDocumented.isReadable⟩

def twoWidths : Text := "integer a[1][2]".toList

/-- Two bracket groups behind one name are read as one width. -/
theorem twoWidths_read :
    parseList twoWidths = .ok [⟨[], "integer".toList, "a".toList, some (.sized "1][2".toList)⟩] ∧
      ¬Answers IsDocumented 1 (entries twoWidths) (parseList twoWidths) := by
  have hread : parseList twoWidths =
      .ok [⟨[], "integer".toList, "a".toList, some (.sized "1][2".toList)⟩] := by decide
  have hundocumented : ∃ e ∈ entries twoWidths, ¬IsDocumented e := by decide
  refine ⟨hread, ?_⟩
  rw [hread]
  obtain ⟨e, he, hne⟩ := hundocumented
  exact fun h => hne (h e he)

end Parameter

end RpcDispatch
