import RpcDispatch.Text.Basic

/-!
# Sorted texts

The order by code points is a total order, so a sorted list depends only on its members and on how
often each occurs.
-/

namespace RpcDispatch.Text

theorem le_total (s t : Text) : (le s t || le t s) = true := by
  induction s generalizing t with
  | nil => rfl
  | cons a s ih =>
      cases t with
      | nil => rfl
      | cons b t =>
          have hst := ih t
          rcases Nat.lt_trichotomy a.toNat b.toNat with h | h | h
          · have hab : a < b := h
            simp [le, hab]
          · obtain rfl : a = b := Char.toNat_inj.mp h
            simpa [le] using hst
          · have hba : b < a := h
            simp [le, hba]

theorem le_trans {s t u : Text} (hst : le s t = true) (htu : le t u = true) : le s u = true := by
  induction s generalizing t u with
  | nil => rfl
  | cons a s ih =>
      cases t with
      | nil => cases hst
      | cons b t =>
          cases u with
          | nil => cases htu
          | cons c u =>
              simp only [le, Bool.or_eq_true, Bool.and_eq_true, decide_eq_true_eq, beq_iff_eq]
                at hst htu ⊢
              rcases hst with hab | ⟨rfl, hst⟩
              · rcases htu with hbc | ⟨rfl, -⟩
                · exact .inl (Char.lt_trans hab hbc)
                · exact .inl hab
              · rcases htu with hbc | ⟨rfl, htu⟩
                · exact .inl hbc
                · exact .inr ⟨rfl, ih hst htu⟩

theorem le_antisymm {s t : Text} (hst : le s t = true) (hts : le t s = true) : s = t := by
  induction s generalizing t with
  | nil =>
      cases t with
      | nil => rfl
      | cons b t => cases hts
  | cons a s ih =>
      cases t with
      | nil => cases hst
      | cons b t =>
          simp only [le, Bool.or_eq_true, Bool.and_eq_true, decide_eq_true_eq, beq_iff_eq]
            at hst hts
          rcases hst with hab | ⟨rfl, hst⟩
          · rcases hts with hba | ⟨rfl, -⟩
            · exact absurd (Char.lt_trans hab hba) (Char.lt_irrefl a)
            · exact absurd hab (Char.lt_irrefl b)
          · rcases hts with haa | ⟨-, hts⟩
            · exact absurd haa (Char.lt_irrefl a)
            · rw [ih hst hts]

theorem sort_perm (ts : List Text) : (sort ts).Perm ts := List.mergeSort_perm ts le

theorem pairwise_sort (ts : List Text) : (sort ts).Pairwise fun s t => le s t = true := by
  rw [sort]
  apply List.pairwise_mergeSort
  · intro s t u
    exact le_trans
  · exact le_total

theorem eq_of_perm_of_pairwise {ss ts : List Text} (h : ss.Perm ts)
    (hs : ss.Pairwise fun s t => le s t = true) (ht : ts.Pairwise fun s t => le s t = true) :
    ss = ts :=
  h.eq_of_pairwise (fun _ _ _ _ => le_antisymm) hs ht

theorem sort_congr {ss ts : List Text} (h : ss.Perm ts) : sort ss = sort ts :=
  eq_of_perm_of_pairwise ((sort_perm ss).trans (h.trans (sort_perm ts).symm)) (pairwise_sort ss)
    (pairwise_sort ts)

/-- It does not matter whether a list is sorted before or after it is filtered. -/
theorem filter_sort (p : Text → Bool) (ts : List Text) :
    (sort ts).filter p = sort (ts.filter p) :=
  eq_of_perm_of_pairwise (((sort_perm ts).filter p).trans (sort_perm _).symm)
    ((pairwise_sort ts).filter p) (pairwise_sort _)

end RpcDispatch.Text
