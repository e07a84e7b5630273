import RpcDispatch.Proofs.Workspace.Entities

/-!
# Decoding in one pass

Decoding goes over a text five times, each time over what the round before has written. An entity is
an ampersand and a name, and a round only ever writes a character that no name holds; the one round
that writes ampersands is the last. So every entity that a round finds stands in the text itself,
and the five rounds do what one pass from left to right does.
-/

namespace RpcDispatch.Entity

/-! ## One pass -/

/-- Puts its character in place of each of these entities, from left to right. The first argument
counts the characters that the last entity has already used. -/
def replaceEachFrom (es : List Entity) : Nat → Text → Text
  | _, [] => []
  | n + 1, _ :: t => replaceEachFrom es n t
  | 0, c :: t => match es.find? (·.text.isPrefixOf (c :: t)) with
      | some e => e.char :: replaceEachFrom es (e.text.length - 1) t
      | none => c :: replaceEachFrom es 0 t

def replaceEach (es : List Entity) (t : Text) : Text := replaceEachFrom es 0 t

/-- Decoding that reads every character of the text once and nothing that it has written. -/
def decodeOnce (t : Text) : Text := replaceEach all t

variable {e : Entity} {es : List Entity} {t : Text}

theorem replaceEachFrom_eq_drop (es : List Entity) (n : Nat) (t : Text) :
    replaceEachFrom es n t = replaceEach es (t.drop n) := by
  induction t generalizing n with
  | nil => cases n <;> simp [replaceEach, replaceEachFrom]
  | cons c t ih =>
      cases n with
      | zero => rfl
      | succ n => exact ih n

theorem replaceEach_nil (t : Text) : replaceEach [] t = t := by
  induction t with
  | nil => rfl
  | cons c t ih => exact congrArg (c :: ·) ih

theorem replaceEach_cons {c : Char} (h : ∀ e ∈ es, ¬ e.text <+: c :: t) :
    replaceEach es (c :: t) = c :: replaceEach es t := by
  have hfind : es.find? (·.text.isPrefixOf (c :: t)) = none :=
    List.find?_eq_none.mpr fun e he => mt List.isPrefixOf_iff_prefix.mp (h e he)
  rw [replaceEach, replaceEachFrom, hfind]
  rfl

/-- At most one entity stands at a place. -/
theorem eq_of_isPrefix {f : Entity} (he : e ∈ all) (hf : f ∈ all) (het : e.text <+: t)
    (hft : f.text <+: t) : e = f := by
  rcases List.prefix_or_prefix_of_prefix het hft with h | h
  · exact eq_of_isPrefix_text he hf h
  · exact (eq_of_isPrefix_text hf he h).symm

/-- No entity begins with the text of another, so the one that is there is replaced. -/
theorem replaceEach_append_text (hes : es ⊆ all) (he : e ∈ es) (t : Text) :
    replaceEach es (e.text ++ t) = e.char :: replaceEach es t := by
  obtain ⟨name, hname, -⟩ := text_eq_cons (hes he)
  have hstart : e.text <+: '&' :: (name ++ t) := by
    rw [hname]
    exact List.prefix_append ('&' :: name) t
  have hfind : es.find? (·.text.isPrefixOf ('&' :: (name ++ t))) = some e := by
    have hsome : (es.find? (·.text.isPrefixOf ('&' :: (name ++ t)))).isSome :=
      List.find?_isSome.mpr ⟨e, he, List.isPrefixOf_iff_prefix.mpr hstart⟩
    obtain ⟨f, hf⟩ := Option.isSome_iff_exists.mp hsome
    have hfstart : f.text <+: '&' :: (name ++ t) := by simpa using List.find?_some hf
    rw [hf, eq_of_isPrefix (hes (List.mem_of_find?_eq_some hf)) (hes he) hfstart hstart]
  rw [hname, List.cons_append, replaceEach, replaceEachFrom, hfind]
  dsimp only
  rw [replaceEachFrom_eq_drop, hname, List.length_cons, Nat.add_sub_cancel, List.drop_left]

/-! ## One round less -/

/-- What a round writes is no part of a word that does not hold the character it puts in. -/
theorem isPrefix_of_isPrefix_expand {w : Text} (hw : e.char ∉ w) (h : w <+: expand t e) :
    w <+: t := by
  induction w generalizing t with
  | nil => exact List.nil_prefix
  | cons a w ih =>
      cases t with
      | nil => exact h
      | cons c t =>
          obtain ⟨ha, hrest⟩ := not_or.mp (mt List.mem_cons.mpr hw)
          rw [expand, Text.replaceAll, Text.replaceFrom] at h
          split at h
          next =>
            rw [List.singleton_append, List.cons_prefix_cons] at h
            exact absurd h.1.symm ha
          next =>
            rw [List.cons_prefix_cons] at h
            exact List.cons_prefix_cons.mpr ⟨h.1, ih hrest h.2⟩

/-- The name of an entity holds none of the characters that entities stand for. -/
theorem char_notMem_name {f : Entity} (he : e ∈ all) (hf : f ∈ all) : e.char ∉ f.text.tail := by
  have hall : ∀ e ∈ all, ∀ f ∈ all, e.char ∉ f.text.tail := by decide
  exact hall e he f hf

/-- Only the last round writes ampersands. -/
theorem char_ne_ampersand (h : e :: es <:+ all) (hes : es ≠ []) : e.char ≠ '&' := by
  have he : e ∈ all := h.subset List.mem_cons_self
  have hsuffix : es <:+ all := (List.suffix_cons e es).trans h
  have hlast := ampersand_mem hsuffix hes
  intro hchar
  have heq := char_injective he (hsuffix.subset hlast) hchar
  exact notMem_of_suffix h (heq ▸ hlast)

/-- Only the last round writes an `&`, and no entity is left then. -/
theorem replaceEach_char_cons (h : e :: es <:+ all) (t : Text) :
    replaceEach es (e.char :: t) = e.char :: replaceEach es t := by
  apply replaceEach_cons
  intro f hf hstart
  obtain ⟨name, hname, -⟩ := text_eq_cons (h.subset (List.mem_cons_of_mem e hf))
  rw [hname, List.cons_prefix_cons] at hstart
  exact char_ne_ampersand h (List.ne_nil_of_mem hf) hstart.1.symm

/-- No round writes an entity of a later one. -/
theorem not_isPrefix_expand {f : Entity} {c : Char} (he : e ∈ all) (hf : f ∈ all)
    (h : ¬ f.text <+: c :: t) : ¬ f.text <+: c :: expand t e := by
  obtain ⟨name, hname, -⟩ := text_eq_cons hf
  have hnot := char_notMem_name he hf
  rw [hname] at h hnot ⊢
  rw [List.cons_prefix_cons] at h ⊢
  rintro ⟨hc, hrest⟩
  exact h ⟨hc, isPrefix_of_isPrefix_expand hnot hrest⟩

/-- A round in front of a pass can be left to the pass. The induction is on the length of the text:
an entity is passed as a whole. -/
theorem replaceEach_expand (h : e :: es <:+ all) (t : Text) :
    replaceEach es (expand t e) = replaceEach (e :: es) t := by
  have hall : e :: es ⊆ all := h.subset
  have he : e ∈ all := hall List.mem_cons_self
  have hes : es ⊆ all := fun f hf => hall (List.mem_cons_of_mem e hf)
  induction hlength : t.length using Nat.strong_induction_on generalizing t with
  | _ n ih =>
    subst hlength
    have hshorter {f : Entity} (hf : f ∈ all) (t' : Text) : t'.length < (f.text ++ t').length := by
      obtain ⟨name, hname, -⟩ := text_eq_cons hf
      rw [hname, List.length_append, List.length_cons]
      omega
    by_cases hstart : ∃ f ∈ e :: es, f.text <+: t
    · obtain ⟨f, hf, t', rfl⟩ := hstart
      have hrest := ih _ (hshorter (hall hf) t') t' rfl
      rw [replaceEach_append_text hall hf]
      by_cases hef : e = f
      · subst hef
        rw [expand_append_text he, replaceEach_char_cons h, hrest]
      · have hf' : f ∈ es := (List.mem_cons.mp hf).resolve_left (Ne.symm hef)
        rw [expand_append_text_of_ne he (hall hf) hef, replaceEach_append_text hes hf', hrest]
    · have hnone : ∀ f ∈ e :: es, ¬ f.text <+: t := fun f hf hft => hstart ⟨f, hf, hft⟩
      cases t with
      | nil => rfl
      | cons c t =>
          have hrest := ih t.length (Nat.lt_succ_self _) t rfl
          have hstays : expand (c :: t) e = c :: expand t e :=
            Text.replaceAll_cons (hnone e List.mem_cons_self)
          have hlater : ∀ f ∈ es, ¬ f.text <+: c :: expand t e := fun f hf =>
            not_isPrefix_expand he (hes hf) (hnone f (List.mem_cons_of_mem e hf))
          rw [hstays, replaceEach_cons hlater, replaceEach_cons hnone, hrest]

theorem foldl_expand_eq_replaceEach (h : es <:+ all) (t : Text) :
    es.foldl expand t = replaceEach es t := by
  induction es generalizing t with
  | nil => exact (replaceEach_nil t).symm
  | cons e es ih =>
      rw [List.foldl_cons, ih ((List.suffix_cons e es).trans h), replaceEach_expand h]

/-- The five rounds of decoding are one pass over the text, which never reads what it has written.
So a text is got back from its encoding, also one that holds entities itself. -/
theorem decode_onePass : (∀ t, decode t = decodeOnce t) ∧ ∀ s, decode (encode s) = s :=
  ⟨fun t => foldl_expand_eq_replaceEach (List.suffix_refl all) t, decode_encode⟩

example : decodeOnce "&amp;lt;&lt;&amp;&lt" = "&lt;<&&lt".toList := by decide

end RpcDispatch.Entity
