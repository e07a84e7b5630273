import RpcDispatch.Proofs.Lexing.Tokens
import RpcDispatch.Proofs.Outcomes
import RpcDispatch.Source.Parameter

/-!
# Reading parameter lists

Every parameter was read from one entry of the list, and its names are tokens of the text.
-/

namespace RpcDispatch

/-- Comments become layout: kind and text of the other tokens stay. -/
theorem Token.of_mem_absorbComments {carry : Text} {ts : List Token} {x : Token}
    (hx : x ∈ absorbComments carry ts) : ∃ y ∈ ts, y.kind = x.kind ∧ y.text = x.text := by
  induction ts generalizing carry with
  | nil => cases hx
  | cons t ts ih =>
      rw [absorbComments] at hx
      split at hx
      next =>
        obtain ⟨y, hy, hsame⟩ := ih hx
        exact ⟨y, List.mem_cons_of_mem t hy, hsame⟩
      next =>
        rcases List.mem_cons.mp hx with rfl | hx
        · exact ⟨t, List.mem_cons_self, rfl, rfl⟩
        · obtain ⟨y, hy, hsame⟩ := ih hx
          exact ⟨y, List.mem_cons_of_mem t hy, hsame⟩

namespace Parameter

theorem splitEntries_ne_nil (ts : List Token) : splitEntries ts ≠ [] := by
  cases ts with
  | nil => simp [splitEntries]
  | cons t ts =>
      rw [splitEntries]
      split
      next => simp
      next => split <;> simp

/-- The first entry begins a list, and every entry stands in it. -/
theorem splitEntries_within (ts : List Token) :
    (∀ e ∈ (splitEntries ts).head?, e <+: ts) ∧ ∀ e ∈ splitEntries ts, e <:+: ts := by
  induction ts with
  | nil => simp [splitEntries]
  | cons t ts ih =>
      obtain ⟨hfirst, hall⟩ := ih
      have hlater : ∀ e ∈ splitEntries ts, e <:+: t :: ts := fun e he =>
        (hall e he).trans (List.suffix_cons t ts).isInfix
      rw [splitEntries]
      split
      next => exact ⟨by simp, List.forall_mem_cons.mpr ⟨List.nil_infix, hlater⟩⟩
      next =>
        cases hsplit : splitEntries ts with
        | nil => exact absurd hsplit (splitEntries_ne_nil ts)
        | cons e es =>
            rw [hsplit] at hfirst hlater
            have hhead : t :: e <+: t :: ts :=
              List.prefix_cons_inj t |>.mpr (hfirst e rfl)
            refine ⟨?_, List.forall_mem_cons.mpr ⟨hhead.isInfix, ?_⟩⟩
            · rintro _ ⟨⟩
              exact hhead
            · exact fun x hx => hlater x (List.mem_cons_of_mem e hx)

theorem of_mem_splitEntries {ts e : List Token} (he : e ∈ splitEntries ts) : e ⊆ ts :=
  ((splitEntries_within ts).2 e he).subset

theorem exists_names {names : List Token} (h : 2 ≤ names.length) :
    ∃ qualifiers type name, names = qualifiers ++ [type, name] := by
  rcases List.eq_nil_or_concat names with rfl | ⟨init, name, rfl⟩
  · simp at h
  rcases List.eq_nil_or_concat init with rfl | ⟨qualifiers, type, rfl⟩
  · simp at h
  exact ⟨qualifiers, type, name, by simp⟩

/-- The last two names are the type and the name, and all before them are qualifiers. -/
theorem readEntry_of_names {entry qualifiers : List Token} {type name : Token}
    (h : entry.takeWhile isName = qualifiers ++ [type, name]) :
    readEntry entry = (do
      let width ← readWidth (entry.dropWhile isName)
      pure ⟨qualifiers.map (·.text), type.text, name.text, width⟩) := by
  rw [readEntry, h, List.reverse_append]
  simp only [List.reverse_cons, List.reverse_nil, List.nil_append, List.cons_append,
    List.reverse_reverse]

/-- An entry is a run of names, the last two of them type and name, and a width. -/
theorem readEntry_eq_ok {entry : List Token} {p : Parameter} :
    readEntry entry = .ok p ↔ ∃ qualifiers type name,
      entry.takeWhile isName = qualifiers ++ [type, name] ∧
      ∃ width, readWidth (entry.dropWhile isName) = .ok width ∧
        p = ⟨qualifiers.map (·.text), type.text, name.text, width⟩ := by
  constructor
  · intro h
    rw [readEntry] at h
    split at h
    next name type qualifiers hrev =>
      obtain ⟨width, hw, hp⟩ := bind_eq_ok.mp h
      refine ⟨qualifiers.reverse, type, name, ?_, width, hw, (Except.ok.inj hp).symm⟩
      rw [List.reverse_eq_iff] at hrev
      simpa using hrev
    next => cases h
  · rintro ⟨qualifiers, type, name, hnames, width, hw, rfl⟩
    rw [readEntry_of_names hnames, hw]
    rfl

theorem of_mem_readEntries {position : Nat} {es : List (List Token)} {ps : List Parameter}
    (h : readEntries position es = .ok ps) {p : Parameter} (hp : p ∈ ps) :
    ∃ e ∈ es, readEntry e = .ok p := by
  induction es generalizing position ps with
  | nil =>
      obtain rfl := Except.ok.inj h
      cases hp
  | cons e es ih =>
      rw [readEntries] at h
      split at h
      next => cases h
      next q hq =>
        cases hrest : readEntries (position + 1) es with
        | error f =>
            rw [hrest] at h
            cases h
        | ok qs =>
            rw [hrest] at h
            obtain rfl := Except.ok.inj h
            rcases List.mem_cons.mp hp with rfl | hp
            · exact ⟨e, List.mem_cons_self, hq⟩
            · obtain ⟨e', he', hread⟩ := ih hrest hp
              exact ⟨e', List.mem_cons_of_mem e he', hread⟩

theorem of_mem_parseList {raw : Text} {ps : List Parameter} (h : parseList raw = .ok ps)
    {p : Parameter} (hp : p ∈ ps) :
    ∃ e ∈ splitEntries (Token.absorbComments [] (Token.ofText raw)), readEntry e = .ok p := by
  rw [parseList] at h
  split at h
  next =>
    obtain rfl := Except.ok.inj h
    cases hp
  next => exact of_mem_readEntries h hp

theorem isWord_of_mem_parseList {raw : Text} {ps : List Parameter} (h : parseList raw = .ok ps)
    {p : Parameter} (hp : p ∈ ps) :
    (∀ c ∈ p.type, Piece.isWordPart c = true) ∧ ∀ c ∈ p.name, Piece.isWordPart c = true := by
  obtain ⟨e, he, hread⟩ := of_mem_parseList h hp
  obtain ⟨qualifiers, type, name, hnames, width, -, rfl⟩ := readEntry_eq_ok.mp hread
  have hword : ∀ t ∈ e.takeWhile isName, ∀ c ∈ t.text, Piece.isWordPart c = true := by
    intro t ht
    have hname : isName t = true := List.mem_takeWhile_imp ht
    have hk : t.kind = .ident := of_decide_eq_true hname
    have hmem := of_mem_splitEntries he (List.takeWhile_subset isName ht)
    obtain ⟨y, hy, hkind, htext⟩ := Token.of_mem_absorbComments hmem
    rw [← htext]
    exact Token.isWord_of_mem_ofTextFrom hy (hkind.trans hk)
  rw [hnames] at hword
  exact ⟨hword type (by simp), hword name (by simp)⟩

end Parameter

end RpcDispatch
