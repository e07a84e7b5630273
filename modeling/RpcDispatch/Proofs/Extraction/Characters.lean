import RpcDispatch.Proofs.Extraction.Likeness
import RpcDispatch.Proofs.Extraction.Parameters
import RpcDispatch.Proofs.Lexing.Characters

/-!
# Characters of a source

Reading cuts and trims, it makes up no characters. So a property that all characters of a source
have is a property of all characters in its signatures and in their parameters.
-/

namespace RpcDispatch

variable {P : Char → Prop}

/-! ## Tokens -/

namespace Token

def Within (P : Char → Prop) (x : Token) : Prop := x.withGap.Within P

variable {x : Token}

theorem Within.text (h : x.Within P) : x.text.Within P := (Text.within_append.mp h).2

theorem Within.gap (h : x.Within P) : x.gap.Within P := (Text.within_append.mp h).1

theorem within_between {inner : List Token} (h : ∀ y ∈ inner, y.Within P) (hx : x.Within P) :
    (between inner x).Within P :=
  Text.within_append.mpr ⟨Text.within_flatMap h, hx.gap⟩

theorem within_of_mem_ofText {t : Text} (h : t.Within P) (hx : x ∈ ofText t) : x.Within P := by
  refine h.subset fun c hc => ?_
  have hall := between_ofTextFrom 0 [] t
  rw [List.nil_append] at hall
  rw [← hall]
  exact List.mem_append_left _ (List.mem_flatMap.mpr ⟨x, hx, hc⟩)

theorem within_of_mem_absorbComments {carry : Text} (hcarry : carry.Within P) {ts : List Token}
    (h : ∀ y ∈ ts, y.Within P) (hx : x ∈ absorbComments carry ts) : x.Within P := by
  induction ts generalizing carry with
  | nil => cases hx
  | cons t ts ih =>
      obtain ⟨ht, hts⟩ := List.forall_mem_cons.mp h
      rw [absorbComments] at hx
      split at hx
      next => exact ih (Text.within_append.mpr ⟨hcarry, ht⟩) hts hx
      next =>
        rcases List.mem_cons.mp hx with rfl | hx
        · exact Text.within_append.mpr ⟨Text.within_append.mpr ⟨hcarry, ht.gap⟩, ht.text⟩
        · exact ih Text.within_nil hts hx

end Token

/-- A list whose tokens have the property, and the same list. -/
def Likeness.within (P : Char → Prop) : Likeness where
  lists ts us := ts = us ∧ ∀ t ∈ ts, t.Within P
  tokens t u := t = u ∧ t.Within P
  words a b := a = b ∧ a.Within P
  slices a b := a = b ∧ a.Within P
  length h := by rw [h.1]
  cons := by
    rintro t u ts us ⟨heq, h⟩
    obtain ⟨rfl, rfl⟩ := List.cons.inj heq
    obtain ⟨ht, hts⟩ := List.forall_mem_cons.mp h
    exact ⟨⟨rfl, ht⟩, rfl, hts⟩
  kind h := by rw [h.1]
  word h := ⟨by rw [h.1], h.2.text⟩
  slice := by
    rintro xs ys t u ts us ⟨heq, h⟩ hlength
    obtain ⟨rfl, hrest⟩ := List.append_inj heq hlength
    obtain ⟨rfl, rfl⟩ := List.cons.inj hrest
    obtain ⟨hxs, hrest⟩ := List.forall_mem_append.mp h
    exact ⟨rfl, Token.within_between hxs (hrest t List.mem_cons_self)⟩

/-! ## Signatures -/

def ArrayWidth.Within (P : Char → Prop) : ArrayWidth → Prop
  | unsized => True
  | sized w => w.Within P

theorem ArrayWidth.within_ofText {t : Text} (h : t.Within P) : (ofText t).Within P := by
  rw [ofText]
  split
  next => trivial
  next heq => exact h.trim

structure Signature.Within (P : Char → Prop) (s : Signature) : Prop where
  docComment : ∀ doc ∈ s.docComment, doc.Within P
  returnType : ∀ type ∈ s.returnType, type.Within P
  returnWidth : ∀ width ∈ s.returnWidth, width.Within P
  name : s.name.Within P
  rawParams : s.rawParams.Within P

theorem optionRel_left {α β : Type} {R : α → β → Prop} {a : Option α} {b : Option β}
    (h : Option.Rel R a b) {x : α} (hx : x ∈ a) : ∃ y, R x y := by
  cases h with
  | none => cases hx
  | some hR => exact ⟨_, Option.some.inj hx ▸ hR⟩

theorem Signature.AlikeIn.within {s s' : SourceText} {sig sig' : Signature}
    (h : sig.AlikeIn (.within P) s s' sig') : sig.Within P := by
  cases h with
  | mk hdoc hkeyword hd =>
      refine ⟨?_, ?_, ?_, hd.head.name.2.text, hd.params.text.2.trim⟩
      · rintro _ ht
        obtain ⟨doc, hmem, rfl⟩ := Option.map_eq_some_iff.mp ht
        obtain ⟨y, -, hwithin⟩ := optionRel_left hdoc hmem
        exact hwithin.text
      · intro type ht
        obtain ⟨y, -, hwithin⟩ := optionRel_left hd.head.returnType ht
        exact hwithin
      · intro width ht
        obtain ⟨y, text, text', ⟨-, hwithin⟩, rfl, -⟩ := optionRel_left hd.head.returnWidth ht
        exact ArrayWidth.within_ofText hwithin

theorem SourceText.within_of_mem_signatures {s : SourceText} (h : s.text.Within P)
    {sig : Signature} (hsig : sig ∈ s.extract.signatures) : sig.Within P := by
  have hlists : (Likeness.within P).lists (Token.ofText s.text) (Token.ofText s.text) :=
    ⟨rfl, fun _ hx => Token.within_of_mem_ofText h hx⟩
  have hfindings : List.Forall₂ (Finding.AlikeIn (Likeness.within P) s s) s.findings s.findings :=
    Likeness.findings hlists
  exact (List.forall₂_same.mp (Likeness.signatures hfindings) sig hsig).within

/-! ## Parameters -/

theorem Parameter.within_of_readWidth {ts : List Token} (h : ∀ x ∈ ts, x.Within P)
    {width : ArrayWidth} (hread : readWidth ts = .ok (some width)) : width.Within P := by
  cases ts with
  | nil => cases hread
  | cons first more =>
      rw [readWidth] at hread
      split at hread
      next last hlast =>
        split at hread
        next =>
          obtain rfl := Option.some.inj (Except.ok.inj hread)
          have hmore := (List.forall_mem_cons.mp h).2
          exact ArrayWidth.within_ofText (Token.within_between
            (fun x hx => hmore x (List.dropLast_subset more hx))
            (hmore last (List.mem_of_getLast? hlast)))
        next => cases hread
      next => cases hread

/-- A width is cut out of the parameter text, with the comments in it. -/
theorem Parameter.within_of_mem_parseList {raw : Text} (h : raw.Within P) {ps : List Parameter}
    (hparse : parseList raw = .ok ps) {p : Parameter} (hp : p ∈ ps) :
    ∀ width ∈ p.width, width.Within P := by
  intro width hwidth
  obtain ⟨e, he, hread⟩ := of_mem_parseList hparse hp
  obtain ⟨_, _, _, _, w, hw, rfl⟩ := readEntry_eq_ok.mp hread
  obtain rfl : w = some width := hwidth
  refine within_of_readWidth (fun x hx => ?_) hw
  have hmem := of_mem_splitEntries he ((List.dropWhile_sublist isName).subset hx)
  exact Token.within_of_mem_absorbComments Text.within_nil
    (fun _ hy => Token.within_of_mem_ofText h hy) hmem

end RpcDispatch
