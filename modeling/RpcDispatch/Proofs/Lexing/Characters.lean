import RpcDispatch.Proofs.Lexing.Trimming

/-!
# Characters of a text

A property of all characters of some texts goes over to what is cut from them or put together.
-/

namespace RpcDispatch.Text

variable {P : Char → Prop} {s t : Text}

def Within (P : Char → Prop) (t : Text) : Prop := ∀ c ∈ t, P c

@[simp] theorem within_nil : Within P [] := by simp [Within]

@[simp] theorem within_cons {c : Char} : Within P (c :: t) ↔ P c ∧ t.Within P := by
  simp [Within]

@[simp] theorem within_append : Within P (s ++ t) ↔ s.Within P ∧ t.Within P := by
  simp [Within, or_imp, forall_and]

theorem Within.subset (h : t.Within P) (hs : s ⊆ t) : s.Within P := fun c hc => h c (hs hc)

theorem within_flatMap {α : Type} {xs : List α} {f : α → Text} (h : ∀ x ∈ xs, (f x).Within P) :
    Within P (xs.flatMap f) := by
  intro c hc
  obtain ⟨x, hx, hc⟩ := List.mem_flatMap.mp hc
  exact h x hx c hc

theorem within_intercalate {sep : Text} (hsep : sep.Within P) {ts : List Text}
    (h : ∀ t ∈ ts, t.Within P) : (intercalate sep ts).Within P := by
  induction ts with
  | nil => exact within_nil
  | cons t ts ih =>
      have ht := h t List.mem_cons_self
      have hrest := ih fun u hu => h u (List.mem_cons_of_mem t hu)
      by_cases hts : ts = []
      · rw [hts]
        exact ht
      · rw [intercalate_cons sep t hts, within_append, within_append]
        exact ⟨⟨ht, hsep⟩, hrest⟩

theorem Within.trim (h : t.Within P) : (trim t).Within P := by
  obtain ⟨lead, trail, hsplit, -⟩ := trim_spec t
  rw [hsplit, within_append, within_append] at h
  exact h.2.1

theorem subset_of_mem_words {t w : Text} (hw : w ∈ words t) : w ⊆ t := by
  induction t generalizing w with
  | nil => cases hw
  | cons c t ih =>
      have htail {v : Text} (hv : v ∈ words t) : v ⊆ c :: t :=
        List.Subset.trans (ih hv) (List.subset_cons_self c t)
      have hone : [c] ⊆ c :: t := List.cons_subset_cons c (List.nil_subset t)
      rw [words.eq_def] at hw
      dsimp only at hw
      split at hw
      next => exact htail hw
      next =>
        split at hw
        next => exact List.mem_singleton.mp hw ▸ hone
        next d u =>
          split at hw
          next => exact (List.mem_cons.mp hw).elim (fun h => h ▸ hone) htail
          next =>
            split at hw
            next => exact List.mem_singleton.mp hw ▸ hone
            next v vs hwords =>
              rcases List.mem_cons.mp hw with rfl | hw
              · exact List.cons_subset_cons c (ih (by simp [hwords]))
              · exact htail (by simp [hwords, hw])

theorem Within.collapse (h : t.Within P) (hblank : P ' ') : (collapse t).Within P :=
  within_intercalate (by simpa using hblank) fun _ hw => h.subset (subset_of_mem_words hw)

end RpcDispatch.Text
