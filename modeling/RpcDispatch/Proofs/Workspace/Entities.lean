import Mathlib.Data.List.Infix
import Mathlib.Data.List.TakeWhile
import RpcDispatch.Text.Blank
import RpcDispatch.Workspace.Entity

/-!
# Decoding undoes encoding

A text is decoded one kind of entity after the other. Each round takes a text in which some kinds
are encoded to the text in which one kind fewer is, so that the last round leaves the text itself.
Encoding touches no white space, and so a file name may be laid out freely.
-/

namespace RpcDispatch

namespace Text

variable {old new : Text}

/-! ## Replacing -/

theorem replaceFrom_eq_drop (old new : Text) (n : Nat) (t : Text) :
    replaceFrom old new n t = replaceAll old new (t.drop n) := by
  induction t generalizing n with
  | nil => cases n <;> simp [replaceAll, replaceFrom]
  | cons c t ih =>
      cases n with
      | zero => rfl
      | succ n => exact ih n

theorem replaceAll_append_self (hold : old ≠ []) (new t : Text) :
    replaceAll old new (old ++ t) = new ++ replaceAll old new t := by
  obtain ⟨a, s, rfl⟩ := List.exists_cons_of_ne_nil hold
  have hprefix : (a :: s).isPrefixOf (a :: (s ++ t)) = true :=
    List.isPrefixOf_iff_prefix.mpr (List.prefix_append (a :: s) t)
  rw [List.cons_append, replaceAll, replaceFrom, if_pos hprefix, replaceFrom_eq_drop,
    List.length_cons, Nat.add_sub_cancel, List.drop_left]

theorem replaceAll_cons {c : Char} {t : Text} (h : ¬ old <+: c :: t) :
    replaceAll old new (c :: t) = c :: replaceAll old new t := by
  rw [replaceAll, replaceFrom, if_neg (mt List.isPrefixOf_iff_prefix.mp h)]
  rfl

theorem replaceAll_cons_of_head?_ne {c : Char} {t : Text} (hold : old ≠ [])
    (h : old.head? ≠ some c) : replaceAll old new (c :: t) = c :: replaceAll old new t := by
  apply replaceAll_cons
  obtain ⟨a, s, rfl⟩ := List.exists_cons_of_ne_nil hold
  rw [List.cons_prefix_cons]
  rintro ⟨rfl, -⟩
  exact h rfl

theorem replaceAll_append_of_notMem {m : Char} {ms s : Text} (hm : m ∉ s) (t : Text) :
    replaceAll (m :: ms) new (s ++ t) = s ++ replaceAll (m :: ms) new t := by
  induction s with
  | nil => rfl
  | cons c s ih =>
      have hmc : (m :: ms).head? ≠ some c := by
        rintro h
        exact hm (Option.some.inj h ▸ List.mem_cons_self)
      rw [List.cons_append, replaceAll_cons_of_head?_ne (List.cons_ne_nil _ _) hmc,
        ih (List.not_mem_of_not_mem_cons hm), List.cons_append]

/-! ## White space around a text -/

theorem dropWhile_append_of_forall {w : Text} (hw : ∀ c ∈ w, isSpace c = true) (t : Text) :
    (w ++ t).dropWhile isSpace = t.dropWhile isSpace := by
  rw [List.dropWhile_append, List.dropWhile_eq_nil_iff.mpr hw, List.isEmpty_nil, if_pos rfl]

theorem trimEnd_append_of_forall {w : Text} (hw : ∀ c ∈ w, isSpace c = true) (t : Text) :
    trimEnd (t ++ w) = trimEnd t := by
  rw [trimEnd, List.reverse_append,
    dropWhile_append_of_forall fun c hc => hw c (List.mem_reverse.mp hc), trimEnd]

theorem trim_padded {w w' : Text} (hw : ∀ c ∈ w, isSpace c = true)
    (hw' : ∀ c ∈ w', isSpace c = true) (t : Text) : trim (w ++ t ++ w') = trim t := by
  rw [trim, trim, trimStart, List.append_assoc, dropWhile_append_of_forall hw, trimStart,
    List.dropWhile_append]
  by_cases ht : t.dropWhile isSpace = []
  · rw [ht, List.isEmpty_nil, if_pos rfl, List.dropWhile_eq_nil_iff.mpr hw']
  · rw [if_neg (by simpa using ht), trimEnd_append_of_forall hw']

/-- White space in front is dropped alike before and after a rewriting that keeps white space and
makes no other character start with it. -/
theorem dropWhile_flatMap {f : Char → Text} (hspace : ∀ c, isSpace c = true → f c = [c])
    (hother : ∀ c, isSpace c = false → ∃ d ∈ (f c).head?, isSpace d = false) (t : Text) :
    (t.flatMap f).dropWhile isSpace = (t.dropWhile isSpace).flatMap f := by
  induction t with
  | nil => rfl
  | cons c t ih =>
      cases hc : isSpace c with
      | true =>
          rw [List.flatMap_cons, hspace c hc, List.singleton_append,
            List.dropWhile_cons_of_pos hc, ih, List.dropWhile_cons_of_pos hc]
      | false =>
          obtain ⟨d, hd, hsp⟩ := hother c hc
          rw [List.dropWhile_cons_of_neg (by simp [hc]), List.flatMap_cons,
            ← List.cons_head?_tail hd, List.cons_append,
            List.dropWhile_cons_of_neg (by simp [hsp])]

end Text

namespace Entity

/-! ## Encoding with some of the entities -/

def encodeWith (es : List Entity) (t : Text) : Text :=
  t.flatMap fun c => match es.find? (·.char = c) with
    | some e => e.text
    | none => [c]

theorem encode_eq_encodeWith (t : Text) : encode t = encodeWith all t := rfl

theorem encodeWith_nil (t : Text) : encodeWith [] t = t := by simp [encodeWith]

theorem encodeWith_cons_of_find? {es : List Entity} {c : Char} {e : Entity}
    (h : es.find? (·.char = c) = some e) (t : Text) :
    encodeWith es (c :: t) = e.text ++ encodeWith es t := by
  rw [encodeWith, List.flatMap_cons, h, encodeWith]

theorem encodeWith_cons_of_not_find? {es : List Entity} {c : Char}
    (h : es.find? (·.char = c) = none) (t : Text) :
    encodeWith es (c :: t) = c :: encodeWith es t := by
  rw [encodeWith, List.flatMap_cons, h, List.singleton_append, encodeWith]

theorem char_of_find? {es : List Entity} {c : Char} {e : Entity}
    (h : es.find? (·.char = c) = some e) : e.char = c := by
  simpa using List.find?_some h

/-- An entity is an ampersand and a name without one. -/
theorem text_eq_cons {e : Entity} (he : e ∈ all) :
    ∃ name, e.text = '&' :: name ∧ '&' ∉ name := by
  have h : ∀ e ∈ all, e.text.head? = some '&' ∧ '&' ∉ e.text.tail := by decide
  obtain ⟨hhead, htail⟩ := h e he
  exact ⟨e.text.tail, (List.cons_head?_tail hhead).symm, htail⟩

theorem eq_of_isPrefix_text {e f : Entity} (he : e ∈ all) (hf : f ∈ all) (h : e.text <+: f.text) :
    e = f := by
  have hall : ∀ e ∈ all, ∀ f ∈ all, e.text <+: f.text → e = f := by decide
  exact hall e he f hf h

theorem char_injective {e f : Entity} (he : e ∈ all) (hf : f ∈ all) (h : e.char = f.char) :
    e = f := by
  have hall : ∀ e ∈ all, ∀ f ∈ all, e.char = f.char → e = f := by decide
  exact hall e he f hf h

/-- The ampersand is decoded last. -/
theorem ampersand_mem {es : List Entity} (h : es <:+ all) (hne : es ≠ []) :
    ⟨"&amp;", '&'⟩ ∈ es := by
  have hall : ∀ es ∈ all.tails, es ≠ [] → ⟨"&amp;", '&'⟩ ∈ es := by decide
  exact hall es ((List.mem_tails es all).mpr h) hne

theorem notMem_of_suffix {e : Entity} {es : List Entity} (h : e :: es <:+ all) : e ∉ es := by
  have hnodup : all.Nodup := by decide
  exact (List.nodup_cons.mp (h.sublist.nodup hnodup)).1

theorem expand_append_text {e : Entity} (he : e ∈ all) (t : Text) :
    expand (e.text ++ t) e = e.char :: expand t e := by
  obtain ⟨name, hname, -⟩ := text_eq_cons he
  exact Text.replaceAll_append_self (by simp [hname]) [e.char] t

/-- Another entity stays as it is. -/
theorem expand_append_text_of_ne {e f : Entity} (he : e ∈ all) (hf : f ∈ all) (hne : e ≠ f)
    (t : Text) : expand (f.text ++ t) e = f.text ++ expand t e := by
  have hstart : ¬ e.text <+: f.text ++ t := by
    intro h
    rcases List.prefix_or_prefix_of_prefix h (List.prefix_append f.text t) with h | h
    · exact hne (eq_of_isPrefix_text he hf h)
    · exact hne (eq_of_isPrefix_text hf he h).symm
  obtain ⟨name, hname, -⟩ := text_eq_cons he
  obtain ⟨other, hother, hnot⟩ := text_eq_cons hf
  rw [hother, List.cons_append] at hstart
  rw [expand, hother, List.cons_append, Text.replaceAll_cons hstart, hname,
    Text.replaceAll_append_of_notMem hnot, List.cons_append, expand, hname]

theorem expand_cons_of_ne {e : Entity} (he : e ∈ all) {c : Char} (hc : c ≠ '&') (t : Text) :
    expand (c :: t) e = c :: expand t e := by
  obtain ⟨name, hname, -⟩ := text_eq_cons he
  rw [expand, hname,
    Text.replaceAll_cons_of_head?_ne (List.cons_ne_nil _ _) (by simpa using hc.symm), expand, hname]

/-- One round of decoding. -/
theorem expand_encodeWith {e : Entity} {es : List Entity} (h : e :: es <:+ all) (t : Text) :
    expand (encodeWith (e :: es) t) e = encodeWith es t := by
  have he : e ∈ all := h.subset List.mem_cons_self
  induction t with
  | nil => rfl
  | cons c t ih =>
      cases hfind : (e :: es).find? (·.char = c) with
      | none =>
          have hc : c ≠ '&' := by
            rintro rfl
            simpa using List.find?_eq_none.mp hfind _ (ampersand_mem h (List.cons_ne_nil e es))
          have hrest : es.find? (·.char = c) = none :=
            List.find?_eq_none.mpr fun f hf =>
              List.find?_eq_none.mp hfind f (List.mem_cons_of_mem e hf)
          rw [encodeWith_cons_of_not_find? hfind, expand_cons_of_ne he hc, ih,
            encodeWith_cons_of_not_find? hrest]
      | some f =>
          have hchar := char_of_find? hfind
          have hf : f ∈ all := h.subset (List.mem_of_find?_eq_some hfind)
          rw [encodeWith_cons_of_find? hfind]
          by_cases hef : e = f
          · have hrest : es.find? (·.char = c) = none := by
              refine List.find?_eq_none.mpr fun g hg hgc => notMem_of_suffix h ?_
              have hge : g.char = e.char := by simpa [hef, hchar] using hgc
              have hg' : g ∈ all := h.subset (List.mem_cons_of_mem e hg)
              rwa [← char_injective hg' he hge]
            rw [← hef, expand_append_text he, ih, encodeWith_cons_of_not_find? hrest, hef, hchar]
          · have hrest : es.find? (·.char = c) = some f := by
              rw [List.find?_cons_of_neg] at hfind
              · exact hfind
              · simpa [← hchar] using fun hce => hef (char_injective he hf hce)
            rw [expand_append_text_of_ne he hf hef, ih, encodeWith_cons_of_find? hrest]

theorem foldl_expand_encodeWith {es : List Entity} (h : es <:+ all) (t : Text) :
    es.foldl expand (encodeWith es t) = t := by
  induction es with
  | nil => exact encodeWith_nil t
  | cons e es ih =>
      rw [List.foldl_cons, expand_encodeWith h]
      exact ih ((List.suffix_cons e es).trans h)

theorem decode_encode (t : Text) : decode (encode t) = t := by
  rw [encode_eq_encodeWith, decode]
  exact foldl_expand_encodeWith (List.suffix_refl all) t

/-! ## Layout around an encoded text -/

theorem encodeChar_of_isSpace {c : Char} (h : Text.isSpace c = true) : encodeChar c = [c] := by
  have hall : ∀ e ∈ all, Text.isSpace e.char = false := by decide
  have hfind : all.find? (·.char = c) = none := by
    refine List.find?_eq_none.mpr fun e he hec => ?_
    have hchar : e.char = c := by simpa using hec
    rw [← hchar, hall e he] at h
    cases h
  rw [encodeChar, hfind]

/-- What stands for a character that is not white space has none at either end. -/
theorem encodeChar_ends {c : Char} (h : Text.isSpace c = false) :
    (∃ d ∈ (encodeChar c).head?, Text.isSpace d = false) ∧
      ∃ d ∈ (encodeChar c).reverse.head?, Text.isSpace d = false := by
  cases hfind : all.find? (·.char = c) with
  | none =>
      rw [encodeChar, hfind]
      exact ⟨⟨c, rfl, h⟩, ⟨c, rfl, h⟩⟩
  | some e =>
      have hall : ∀ e ∈ all, e.text.head? = some '&' ∧ e.text.reverse.head? = some ';' := by decide
      obtain ⟨hhead, hlast⟩ := hall e (List.mem_of_find?_eq_some hfind)
      rw [encodeChar, hfind]
      exact ⟨⟨'&', hhead, rfl⟩, ⟨';', hlast, rfl⟩⟩

/-- No white space is encoded, so trimming may come first or last. -/
theorem trim_encode (t : Text) : Text.trim (encode t) = encode (Text.trim t) := by
  have hstart : Text.trimStart (encode t) = encode (Text.trimStart t) :=
    Text.dropWhile_flatMap (fun c => encodeChar_of_isSpace) (fun c h => (encodeChar_ends h).1) t
  have hend (u : Text) : Text.trimEnd (encode u) = encode (Text.trimEnd u) := by
    have hspace : ∀ c, Text.isSpace c = true → (List.reverse ∘ encodeChar) c = [c] := by
      intro c hc
      rw [Function.comp_apply, encodeChar_of_isSpace hc, List.reverse_singleton]
    rw [Text.trimEnd, encode, List.reverse_flatMap,
      Text.dropWhile_flatMap hspace fun c h => (encodeChar_ends h).2, List.reverse_flatMap]
    simp only [Function.comp_def, List.reverse_reverse, Text.trimEnd, encode]
  rw [Text.trim, hstart, hend, Text.trim]

theorem lt_notMem_encode (t : Text) : '<' ∉ encode t := by
  intro h
  obtain ⟨c, -, hc⟩ := List.mem_flatMap.mp h
  unfold encodeChar at hc
  cases hfind : all.find? (·.char = c) with
  | none =>
      rw [hfind] at hc
      obtain rfl := List.mem_singleton.mp hc
      revert hfind
      decide
  | some e =>
      rw [hfind] at hc
      have hall : ∀ e ∈ all, '<' ∉ e.text := by decide
      exact hall e (List.mem_of_find?_eq_some hfind) hc

/-- What is read of an encoded text between white space. -/
theorem decode_trim_padded {w w' : Text} (hw : ∀ c ∈ w, Text.isSpace c = true)
    (hw' : ∀ c ∈ w', Text.isSpace c = true) (t : Text) :
    decode (Text.trim (w ++ encode t ++ w')) = Text.trim t := by
  rw [Text.trim_padded hw hw', trim_encode, decode_encode]

end Entity

end RpcDispatch
