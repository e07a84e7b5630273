import Mathlib.Data.List.Infix
import RpcDispatch.Proofs.Extraction.Relexing

/-!
# The shortest run that closes a bracket

A bracket group ends where, for the first time, its kind of bracket is closed once more than it is
opened. Reading a group finds this place, whether comments are dropped before or not.
-/

namespace RpcDispatch

def Token.significant (ts : List Token) : List Token := ts.filter (!·.isComment)

theorem Token.significant_comment {t : Token} (h : t.isComment = true) (ts : List Token) :
    significant (t :: ts) = significant ts :=
  List.filter_cons_of_neg (by simp [h])

theorem Token.significant_cons {t : Token} (h : t.isComment = false) (ts : List Token) :
    significant (t :: ts) = t :: significant ts :=
  List.filter_cons_of_pos (by simp [h])

section

variable (opener closer : TokenKind)

/-- The tokens close one bracket more than they open. -/
def Closes (ts : List Token) : Prop :=
  (ts.map Token.kind).count closer = (ts.map Token.kind).count opener + 1

/-- The shortest tokens that close a bracket in front of them. -/
structure IsClosing (ts : List Token) : Prop where
  closes : Closes opener closer ts
  shortest : ∀ xs, xs <+: ts → Closes opener closer xs → xs = ts

instance (ts : List Token) : Decidable (Closes opener closer ts) :=
  inferInstanceAs (Decidable (_ = _))

instance (ts : List Token) : Decidable (IsClosing opener closer ts) :=
  decidable_of_iff
    (Closes opener closer ts ∧ ∀ xs ∈ ts.inits, Closes opener closer xs → xs = ts) <| by
    simp only [List.mem_inits]
    exact ⟨fun h => ⟨h.1, h.2⟩, fun h => ⟨h.closes, h.shortest⟩⟩

structure Bracketed where
  opening : Token
  inner : List Token
  closing : Token
  opens : opening.kind = opener
  closes : IsClosing opener closer (inner ++ [closing])

end

variable {opener closer : TokenKind}

def Bracketed.tokens (b : Bracketed opener closer) : List Token :=
  b.opening :: (b.inner ++ [b.closing])

/-! ## Counting -/

/-- No front of the kinds closes more than it opens, if `depth` brackets lie open before. -/
theorem depthAfter?_eq_some_zero_iff (hne : opener ≠ closer) {depth : Nat} {ks : List TokenKind} :
    depthAfter? opener closer depth ks = some 0 ↔ ks.count closer = ks.count opener + depth ∧
      ∀ xs, xs <+: ks → xs.count closer ≤ xs.count opener + depth := by
  induction ks generalizing depth with
  | nil =>
      simp only [depthAfter?, Option.some.injEq, List.count_nil, Nat.zero_add, List.prefix_nil]
      constructor
      · rintro rfl
        simp
      · rintro ⟨h, -⟩
        exact h.symm
  | cons k ks ih =>
      have hfronts {p : List TokenKind → Prop} :
          (∀ xs, xs <+: k :: ks → p xs) ↔ p [] ∧ ∀ xs, xs <+: ks → p (k :: xs) := by
        simp only [List.prefix_cons_iff]
        constructor
        · intro h
          exact ⟨h [] (.inl rfl), fun xs hxs => h _ (.inr ⟨xs, rfl, hxs⟩)⟩
        · rintro ⟨hnil, hcons⟩ _ (rfl | ⟨xs, rfl, hxs⟩)
          · exact hnil
          · exact hcons xs hxs
      rw [hfronts]
      by_cases ho : k = opener
      · subst ho
        rw [depthAfter?_opener rfl, ih]
        simp only [List.count_cons_self, List.count_cons_of_ne hne, List.count_nil]
        grind
      by_cases hc : k = closer
      · subst hc
        cases depth with
        | zero =>
            rw [depthAfter?_closer_zero rfl hne]
            simp only [List.count_cons_self, List.count_cons_of_ne hne.symm]
            constructor
            · intro h
              cases h
            · rintro ⟨-, -, h⟩
              have := h [] List.nil_prefix
              simp at this
        | succ d =>
            rw [depthAfter?_closer_succ rfl hne, ih]
            simp only [List.count_cons_self, List.count_cons_of_ne hne.symm, List.count_nil]
            grind
      · rw [depthAfter?_other ho hc, ih]
        simp only [List.count_cons_of_ne ho, List.count_cons_of_ne hc, List.count_nil]
        grind

/-! ## The first place -/

section

variable {xs ts inner : List Token} {close : Token}

/-- Among the fronts that close there is a shortest one. -/
theorem exists_isClosing (h : Closes opener closer ts) :
    ∃ xs, xs <+: ts ∧ IsClosing opener closer xs := by
  induction hn : ts.length using Nat.strong_induction_on generalizing ts with
  | _ n ih =>
      by_cases hshort : ∃ xs, xs <+: ts ∧ Closes opener closer xs ∧ xs ≠ ts
      · obtain ⟨xs, hxs, hcloses, hne⟩ := hshort
        have hlength : xs.length < ts.length :=
          lt_of_le_of_ne hxs.length_le fun heq => hne (hxs.eq_of_length heq)
        obtain ⟨zs, hzs, hclosing⟩ := ih xs.length (by omega) hcloses rfl
        exact ⟨zs, hzs.trans hxs, hclosing⟩
      · refine ⟨ts, List.prefix_refl ts, h, ?_⟩
        intro xs hxs hcloses
        by_contra hne
        exact hshort ⟨xs, hxs, hcloses, hne⟩

theorem IsClosing.exists_concat (h : IsClosing opener closer ts) :
    ∃ inner close, ts = inner ++ [close] := by
  have hne : ts ≠ [] := by
    rintro rfl
    have hnil := h.closes
    simp [Closes] at hnil
  exact ⟨_, _, (List.dropLast_concat_getLast hne).symm⟩

/-- Until a bracket is closed, no more brackets are closed than opened. -/
theorem count_le_of_not_closes (hne : opener ≠ closer)
    (h : ∀ zs, zs <+: xs → ¬Closes opener closer zs) :
    (xs.map Token.kind).count closer ≤ (xs.map Token.kind).count opener := by
  induction xs using List.reverseRecOn with
  | nil => simp
  | append_singleton xs x ih =>
      have hle := ih fun zs hzs => h zs (hzs.trans (List.prefix_append xs [x]))
      have hlast := h _ (List.prefix_refl _)
      rw [Closes] at hlast
      rw [List.map_append, List.count_append, List.count_append] at hlast ⊢
      by_cases hx : x.kind = closer
      · have ho : x.kind ≠ opener := fun heq => hne (heq.symm.trans hx)
        simp only [List.map_singleton, List.count_singleton, hx] at hlast ⊢
        simp only [beq_self_eq_true, if_true, beq_iff_eq, hne.symm, if_false] at hlast ⊢
        omega
      · have hzero : ([x].map Token.kind).count closer = 0 := by simp [hx]
        omega

/-- What a reader that counts depths takes as the inside of a group. -/
theorem isClosing_concat_iff (hne : opener ≠ closer) :
    IsClosing opener closer (inner ++ [close]) ↔ close.kind = closer ∧
      depthAfter? opener closer 0 (inner.map Token.kind) = some 0 := by
  rw [depthAfter?_eq_some_zero_iff hne]
  have hfronts : (∀ ks, ks <+: inner.map Token.kind → ks.count closer ≤ ks.count opener + 0) ↔
      ∀ zs, zs <+: inner →
        (zs.map Token.kind).count closer ≤ (zs.map Token.kind).count opener := by
    constructor
    · intro h zs hzs
      exact h _ (hzs.map Token.kind)
    · rintro h ks hks
      obtain ⟨zs, hzs, rfl⟩ := List.prefix_map_iff.mp hks
      exact h zs hzs
  rw [hfronts]
  constructor
  · rintro ⟨hcloses, hshortest⟩
    have hopen : ∀ zs, zs <+: inner → ¬Closes opener closer zs := by
      intro zs hzs hz
      have heq := hshortest zs (hzs.trans (List.prefix_append inner [close])) hz
      have hlength := hzs.length_le
      rw [heq, List.length_append, List.length_singleton] at hlength
      omega
    have hle : ∀ zs, zs <+: inner →
        (zs.map Token.kind).count closer ≤ (zs.map Token.kind).count opener :=
      fun zs hzs => count_le_of_not_closes hne fun us hus => hopen us (hus.trans hzs)
    have hinner := hle inner (List.prefix_refl inner)
    rw [Closes, List.map_append, List.count_append, List.count_append, List.map_singleton,
      List.count_singleton, List.count_singleton] at hcloses
    have hkind : close.kind = closer := by
      by_contra hk
      simp only [beq_iff_eq, hk, if_false] at hcloses
      omega
    refine ⟨hkind, ?_, hle⟩
    simp only [hkind, beq_self_eq_true, if_true, beq_iff_eq, hne.symm, if_false] at hcloses
    omega
  · rintro ⟨hkind, hcount, hle⟩
    refine ⟨?_, ?_⟩
    · rw [Closes, List.map_append, List.count_append, List.count_append, List.map_singleton,
        List.count_singleton, List.count_singleton]
      simp only [hkind, beq_self_eq_true, if_true, beq_iff_eq, hne.symm, if_false]
      omega
    · intro zs hzs hz
      rcases List.prefix_concat_iff.mp hzs with rfl | hzs
      · rfl
      · have hzle := hle zs hzs
        rw [Closes] at hz
        omega

end

/-! ## Reading a group -/

namespace Group

def significant (g : Group) : Group where
  inner := Token.significant g.inner
  close := g.close
  rest := Token.significant g.rest

variable {ts : List Token}

/-- Comments may be dropped before a group is read. -/
theorem read?_significant (hne : opener ≠ closer) (ho : opener.isComment = false)
    (hc : closer.isComment = false) (depth : Nat) (ts : List Token) :
    read? opener closer depth (Token.significant ts) =
      (read? opener closer depth ts).map significant := by
  induction ts generalizing depth with
  | nil => cases depth <;> rfl
  | cons t ts ih =>
      by_cases ht : t.isComment = true
      · have hto : t.kind ≠ opener := by
          rintro rfl
          exact absurd (ho.symm.trans ht) (by decide)
        have htc : t.kind ≠ closer := by
          rintro rfl
          exact absurd (hc.symm.trans ht) (by decide)
        rw [Token.significant_comment ht, read?_other hto htc, ih, Option.map_map]
        refine congrArg (Option.map · _) (funext fun g => ?_)
        simp [significant, cons, Token.significant_comment ht]
      · have ht' : t.isComment = false := by simpa using ht
        have hmap (o : Option Group) : (o.map significant).map (cons t) =
            (o.map (cons t)).map significant := by
          rw [Option.map_map, Option.map_map]
          refine congrArg (Option.map · o) (funext fun g => ?_)
          simp [significant, cons, Token.significant_cons ht']
        rw [Token.significant_cons ht']
        by_cases hopen : t.kind = opener
        · rw [read?_opener hopen, read?_opener hopen, ih, hmap]
        by_cases hclose : t.kind = closer
        · cases depth with
          | zero => rw [read?_closer_zero hclose hne, read?_closer_zero hclose hne]; rfl
          | succ d => rw [read?_closer_succ hclose hne, read?_closer_succ hclose hne, ih, hmap]
        · rw [read?_other hopen hclose, read?_other hopen hclose, ih, hmap]

/-- A group is read exactly where a front of the tokens closes its bracket. -/
theorem read?_eq_some_iff (hne : opener ≠ closer) {g : Group} :
    read? opener closer 0 ts = some g ↔
      IsClosing opener closer (g.inner ++ [g.close]) ∧ ts = g.inner ++ g.close :: g.rest := by
  rw [read?_eq_some hne, isClosing_concat_iff hne]
  tauto

/-- A group is not read exactly if no token closes it. -/
theorem read?_eq_none_iff (hne : opener ≠ closer) :
    read? opener closer 0 ts = none ↔ ∀ xs, xs <+: ts → ¬Closes opener closer xs := by
  rw [Option.eq_none_iff_forall_ne_some]
  constructor
  · intro h xs hxs hcloses
    obtain ⟨ys, hys, hclosing⟩ := exists_isClosing hcloses
    obtain ⟨inner, close, rfl⟩ := hclosing.exists_concat
    obtain ⟨rest, hrest⟩ := hys.trans hxs
    refine h ⟨inner, close, rest⟩ ((read?_eq_some_iff hne).mpr ⟨hclosing, ?_⟩)
    rw [← hrest, List.append_assoc, List.singleton_append]
  · rintro h g hg
    obtain ⟨hclosing, rfl⟩ := (read?_eq_some_iff hne).mp hg
    exact h _ ⟨g.rest, by simp⟩ hclosing.closes

end Group

end RpcDispatch
