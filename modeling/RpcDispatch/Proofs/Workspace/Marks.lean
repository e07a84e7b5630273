import Mathlib.Data.List.Infix
import RpcDispatch.Proofs.Unicode.WordCharacters
import RpcDispatch.Workspace.Document

/-!
# Searching for marks

A mark is a text whose first character occurs nowhere else in it, as all tags are that begin with
`<`. Such a mark is found where it is written: no occurrence of it reaches from the text before over
the start of another mark.
-/

namespace RpcDispatch

namespace Text

variable {m : Char} {r s t u : Text}

/-! ## Occurrences -/

theorem prefix_of_prefix_append_cons (hm : m ∉ r) (hs : s ≠ []) (h : m :: r <+: s ++ m :: u) :
    m :: r <+: s := by
  rcases List.prefix_or_prefix_of_prefix h (List.prefix_append s (m :: u)) with h | ⟨v, hv⟩
  · exact h
  · obtain ⟨c, s, rfl⟩ := List.exists_cons_of_ne_nil hs
    obtain ⟨rfl, hr⟩ : c = m ∧ s ++ v = r := by simpa using hv
    cases v with
    | nil => exact ⟨[], by simpa using hr.symm⟩
    | cons d v =>
        -- the mark goes on with the character that starts the next one
        exfalso
        rw [← hr, List.cons_append, List.cons_prefix_cons, List.prefix_append_right_inj,
          List.cons_prefix_cons] at h
        rw [← hr, h.2.1] at hm
        exact hm (List.mem_append_right s List.mem_cons_self)

/-- A mark does not run across a character that it only begins with. -/
theorem infix_append_cons_iff (hm : m ∉ r) :
    m :: r <:+: s ++ m :: u ↔ m :: r <:+: s ∨ m :: r <:+: m :: u := by
  constructor
  · intro h
    induction s with
    | nil => exact .inr h
    | cons c s ih =>
        rw [List.cons_append, List.infix_cons_iff] at h
        rcases h with h | h
        · rw [← List.cons_append] at h
          exact .inl (prefix_of_prefix_append_cons hm (List.cons_ne_nil c s) h).isInfix
        · exact (ih h).imp_left fun h => h.trans (List.suffix_cons c s).isInfix
  · rintro (h | h)
    · exact h.trans (List.prefix_append s (m :: u)).isInfix
    · exact h.trans (List.suffix_append s (m :: u)).isInfix

theorem infix_append_iff_of_notMem (hs : m ∉ s) : m :: r <:+: s ++ u ↔ m :: r <:+: u := by
  induction s with
  | nil => rfl
  | cons c s ih =>
      have hmc : m ≠ c := fun h => hs (h ▸ List.mem_cons_self)
      rw [List.cons_append, List.infix_cons_iff, List.cons_prefix_cons,
        ih (List.not_mem_of_not_mem_cons hs)]
      simp [hmc]

/-- Another mark hides no part of it. -/
theorem infix_of_infix_mark_append {o : Text} (ho : m ∉ o) (h₁ : ¬ o <+: r)
    (h₂ : ¬ r <+: o) (h : m :: r <:+: m :: (o ++ u)) : m :: r <:+: u := by
  rw [List.infix_cons_iff, List.cons_prefix_cons, infix_append_iff_of_notMem ho] at h
  refine h.resolve_left fun h => ?_
  exact (List.prefix_or_prefix_of_prefix h.2 (List.prefix_append o u)).elim h₂ h₁

theorem eq_of_append_cons_eq {x b v : Text} {z : Char} (hx : z ∉ x) (hb : z ∉ b)
    (h : x ++ z :: v = b ++ z :: u) : x = b := by
  have hlead {y : Text} (hy : z ∉ y) (w : Text) : (y ++ z :: w).takeWhile (· != z) = y := by
    rw [List.takeWhile_append_of_pos, List.takeWhile_cons_of_neg (by simp), List.append_nil]
    intro c hc
    exact bne_iff_ne.mpr fun hcz => hy (hcz ▸ hc)
  rw [← hlead hx v, h, hlead hb]

/-- A mark that ends in a character the text before does not have ends with it. -/
theorem infix_append_cons_of_last {x b : Text} {z : Char} (hx : z ∉ x) (hb : z ∉ b)
    (h : x ++ [z] <:+: b ++ z :: u) : x <:+ b ∨ x ++ [z] <:+: u := by
  induction b with
  | nil =>
      rw [List.nil_append, List.infix_cons_iff] at h
      refine h.imp_left fun h => ?_
      cases x with
      | nil => exact List.suffix_refl []
      | cons c x =>
          rw [List.cons_append, List.cons_prefix_cons] at h
          exact absurd (h.1 ▸ List.mem_cons_self) hx
  | cons c b ih =>
      rw [List.cons_append, List.infix_cons_iff] at h
      rcases h with ⟨v, hv⟩ | h
      · left
        rw [← List.cons_append, List.append_assoc, List.singleton_append] at hv
        exact eq_of_append_cons_eq hx hb hv ▸ List.suffix_refl _
      · exact (ih (List.not_mem_of_not_mem_cons hb) h).imp_left
          fun h => h.trans (List.suffix_cons c b)

/-! ## Cutting -/

theorem dropStart?_append (start rest : Text) : dropStart? start (start ++ rest) = some rest :=
  dropStart?_eq_some.mpr rfl

theorem dropStart?_eq_none {start : Text} (h : ¬ start <+: t) : dropStart? start t = none := by
  refine Option.eq_none_iff_forall_ne_some.mpr fun rest hrest => h ?_
  exact ⟨rest, (dropStart?_eq_some.mp hrest).symm⟩

theorem cutAt?_append (hm : m ∉ r) (hs : ¬ m :: r <:+: s) (u : Text) :
    cutAt? (m :: r) (s ++ (m :: r ++ u)) = some (s, u) := by
  induction s with
  | nil => rw [List.nil_append, List.cons_append, cutAt?, ← List.cons_append, dropStart?_append]
  | cons c s ih =>
      rw [List.infix_cons_iff, not_or] at hs
      have hstart : ¬ m :: r <+: c :: s ++ m :: (r ++ u) := fun h =>
        hs.1 (prefix_of_prefix_append_cons hm (List.cons_ne_nil c s) h)
      have hnone : dropStart? (m :: r) (c :: (s ++ (m :: r ++ u))) = none :=
        dropStart?_eq_none hstart
      rw [List.cons_append, cutAt?, hnone]
      simp only [ih hs.2, Option.map_some]

theorem cutAt?_eq_none (ht : ¬ m :: r <:+: t) : cutAt? (m :: r) t = none := by
  induction t with
  | nil => rfl
  | cons c t ih =>
      rw [List.infix_cons_iff, not_or] at ht
      rw [cutAt?, dropStart?_eq_none ht.1]
      simp [ih ht.2]

end Text

namespace Workspace

variable {name s t u : Text}

/-! ## Tags -/

structure Attributes where
  text : Text
  isApart : ∀ c ∈ text.head?, Text.isSpace c = true
  isOpen : '>' ∉ text

theorem endsName_cons {c : Char} (hc : Unicode.isWordChar c = false) (u : Text) :
    endsName (c :: u) = true := by
  rw [endsName, List.head?_cons, Option.any_some, hc, Bool.not_false]

theorem Attributes.endsName (a : Attributes) (u : Text) :
    endsName (a.text ++ '>' :: u) = true := by
  cases h : a.text with
  | nil => exact endsName_cons Unicode.isWordChar_closingMark u
  | cons c w =>
      have hc : Text.isSpace c = true := a.isApart c (by rw [h]; rfl)
      exact endsName_cons (Unicode.isWordChar_of_isSpace hc) (w ++ '>' :: u)

def openingTag (name : Text) (a : Attributes) : Text := '<' :: (name ++ (a.text ++ ">"))

def closingTag (name : Text) : Text := "</" ++ name ++ ">"

theorem openingTag_append (name : Text) (a : Attributes) (u : Text) :
    openingTag name a ++ u = '<' :: (name ++ (a.text ++ '>' :: u)) := by
  simp [openingTag]

theorem afterTag?_openingTag (a : Attributes) (u : Text) :
    afterTag? name (openingTag name a ++ u) = some u := by
  have hclose : Text.cutAt? ">" (a.text ++ '>' :: u) = some (a.text, u) := by
    refine Text.cutAt?_append (r := []) List.not_mem_nil (fun h => a.isOpen ?_) u
    exact h.subset List.mem_cons_self
  rw [openingTag_append, afterTag?, ← List.cons_append, Text.dropStart?_append]
  simp only [a.endsName, hclose, if_true, Option.map_some]

theorem afterTag?_append (hname : '<' ∉ name) (hs : ¬ '<' :: name <:+: s) (u : Text) :
    afterTag? name (s ++ '<' :: u) = afterTag? name ('<' :: u) := by
  induction s with
  | nil => rfl
  | cons c s ih =>
      rw [List.infix_cons_iff, not_or] at hs
      have hstart : ¬ '<' :: name <+: c :: s ++ '<' :: u := fun h =>
        hs.1 (Text.prefix_of_prefix_append_cons hname (List.cons_ne_nil c s) h)
      rw [List.cons_append, afterTag?, ← List.cons_append, Text.dropStart?_eq_none hstart]
      exact ih hs.2

/-- What stands behind the first opening tag up to its closing tag. -/
theorem element?_openingTag (hname : '<' ∉ name) (hs : ¬ '<' :: name <:+: s) (a : Attributes)
    (u : Text) : element? name (s ++ (openingTag name a ++ u)) =
      (Text.cutAt? (closingTag name) u).map (·.1) := by
  have hafter : afterTag? name (s ++ (openingTag name a ++ u)) = some u :=
    (afterTag?_append hname hs _).trans (afterTag?_openingTag a u)
  rw [element?, hafter, ← closingTag, Option.bind_eq_bind, Option.bind_some]
  cases Text.cutAt? (closingTag name) u <;> rfl

theorem closingTag_eq_cons (name : Text) : closingTag name = '<' :: ("/" ++ name ++ ">") := rfl

theorem lt_notMem_closing (hname : '<' ∉ name) : '<' ∉ "/".toList ++ name ++ ">" := by
  simp [hname]

/-- An element is cut out between its first opening tag and the next closing tag. -/
theorem element?_eq_some (hname : '<' ∉ name) (hs : ¬ '<' :: name <:+: s) (a : Attributes)
    (ht : ¬ closingTag name <:+: t) (u : Text) :
    element? name (s ++ (openingTag name a ++ (t ++ (closingTag name ++ u)))) = some t := by
  rw [element?_openingTag hname hs, closingTag_eq_cons,
    Text.cutAt?_append (lt_notMem_closing hname) ht]
  rfl

/-- The first opening tag must end. -/
theorem element?_eq_none (hname : '<' ∉ name) (hs : ¬ '<' :: name <:+: s)
    (ht : endsName t = true) (hopen : '>' ∉ t) :
    element? name (s ++ '<' :: (name ++ t)) = none := by
  have hclose : Text.cutAt? ">" t = none := Text.cutAt?_eq_none (r := []) fun h =>
    hopen (h.subset List.mem_cons_self)
  have hafter : afterTag? name (s ++ '<' :: (name ++ t)) = none := by
    rw [afterTag?_append hname hs, afterTag?, ← List.cons_append, Text.dropStart?_append]
    simp only [ht, if_true, hclose, Option.map_none]
  rw [element?, hafter]
  rfl

/-! ## Pairs of marks -/

variable {opening closing : Text}

theorem between_eq_drop (opening closing : Text) (n : Nat) (t : Text) :
    between opening closing n t = between opening closing 0 (t.drop n) := by
  induction t generalizing n with
  | nil => cases n <;> simp [between]
  | cons c t ih =>
      cases n with
      | zero => rfl
      | succ n => exact ih n

theorem between_eq_nil (ht : ¬ opening <:+: t) : between opening closing 0 t = [] := by
  induction t with
  | nil => rfl
  | cons c t ih =>
      rw [List.infix_cons_iff, not_or] at ht
      rw [between, Text.dropStart?_eq_none ht.1]
      exact ih ht.2

theorem between_append {m : Char} {r : Text} (hm : m ∉ r) (hs : ¬ m :: r <:+: s) (u : Text) :
    between (m :: r) closing 0 (s ++ m :: u) = between (m :: r) closing 0 (m :: u) := by
  induction s with
  | nil => rfl
  | cons c s ih =>
      rw [List.infix_cons_iff, not_or] at hs
      have hstart : ¬ m :: r <+: c :: s ++ m :: u := fun h =>
        hs.1 (Text.prefix_of_prefix_append_cons hm (List.cons_ne_nil c s) h)
      rw [List.cons_append, between, ← List.cons_append, Text.dropStart?_eq_none hstart]
      exact ih hs.2

theorem between_pair {m : Char} {r inside rest : Text}
    (hcut : Text.cutAt? closing (inside ++ (closing ++ rest)) = some (inside, rest)) :
    between (m :: r) closing 0 (m :: r ++ (inside ++ (closing ++ rest))) =
      inside :: between (m :: r) closing 0 rest := by
  rw [List.cons_append, between, ← List.cons_append, Text.dropStart?_append]
  simp only [hcut]
  rw [between_eq_drop]
  have hdrop : (r ++ (inside ++ (closing ++ rest))).drop
      ((r ++ (inside ++ (closing ++ rest))).length - rest.length) = rest := by
    rw [← List.append_assoc, ← List.append_assoc, List.length_append, Nat.add_sub_cancel,
      List.drop_left]
  rw [hdrop]

end Workspace

end RpcDispatch
