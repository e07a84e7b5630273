import RpcDispatch.Text.Blank
import RpcDispatch.Unicode.Lookup

/-!
# Word characters and white space

No character of white space is a word character, so it ends the name of a tag, and so does the mark
that closes a tag. The runs of the word characters are gone through line by line, as the tables
write them.
-/

namespace RpcDispatch.Unicode

/-! ## Runs beside white space -/

/-- White space and the mark that closes a tag, as ranges of code points. -/
def nameEnds : List (Nat × Nat) :=
  [(0x09, 0x0D), (0x20, 0x20), (0x3E, 0x3E), (0x85, 0x85), (0xA0, 0xA0), (0x1680, 0x1680),
    (0x2000, 0x200A), (0x2028, 0x2029), (0x202F, 0x202F), (0x205F, 0x205F), (0x3000, 0x3000)]

def avoids (r : CodeRun) : Bool := nameEnds.all fun (a, b) => b < r.first || r.last < a

/-- The runs take in nothing that ends a name. -/
def Avoid (runs : List CodeRun) : Prop := ∀ r ∈ runs, avoids r = true

theorem Avoid.append {rs ss : List CodeRun} (hr : Avoid rs) (hs : Avoid ss) : Avoid (rs ++ ss) :=
  List.forall_mem_append.mpr ⟨hr, hs⟩

theorem Avoid.contains {rs : List CodeRun} (h : Avoid rs) {c : Char} {a b : Nat}
    (hmem : (a, b) ∈ nameEnds) (ha : a ≤ c.toNat) (hb : c.toNat ≤ b) :
    rs.any (·.contains c) = false := by
  rw [List.any_eq_false]
  intro r hr hc
  have hgap := List.all_eq_true.mp (h r hr) _ hmem
  simp only [Bool.or_eq_true, decide_eq_true_eq] at hgap
  simp only [CodeRun.contains, Bool.and_eq_true, decide_eq_true_eq] at hc
  omega

/-! ## Reading the tables -/

section

variable {names line name : List Char} {lines : List String}
  {table : List (String × List String)}

theorem avoid_ofTable_nil : Avoid (CodeRun.ofTable []) := by
  rintro r ⟨⟩

theorem avoid_ofTable_cons (h : ((Text.splitOn ' ' line).map CodeRun.ofWord).all avoids = true)
    (hlines : Avoid (CodeRun.ofTable lines)) :
    Avoid (CodeRun.ofTable (String.ofList line :: lines)) := by
  rw [CodeRun.ofTable, List.flatMap_cons, String.toList_ofList]
  exact Avoid.append (List.all_eq_true.mp h) hlines

theorem avoid_find?_of_not_contains (h : (Text.splitOn ' ' names).contains name = false)
    (hrest : Avoid ((find? table name).getD [])) :
    Avoid ((find? ((String.ofList names, lines) :: table) name).getD []) := by
  rwa [find?, List.find?_cons, String.toList_ofList, h, ← find?]

theorem avoid_find?_of_contains (h : (Text.splitOn ' ' names).contains name = true)
    (hlines : Avoid (CodeRun.ofTable lines)) :
    Avoid ((find? ((String.ofList names, lines) :: table) name).getD []) := by
  rwa [find?, List.find?_cons, String.toList_ofList, h]

end

theorem avoid_categories_cons {n : String} {ns : List String}
    (h : Avoid ((find? categoryTable n.toList).getD [])) (hns : Avoid (categories ns)) :
    Avoid (categories (n :: ns)) :=
  Avoid.append h hns

/-! ## Word characters -/

theorem avoid_alphabetic : Avoid alphabetic := by
  refine avoid_find?_of_not_contains (by decide) ?_
  refine avoid_find?_of_contains (by decide) ?_
  repeat refine avoid_ofTable_cons (by decide +kernel) ?_
  exact avoid_ofTable_nil

theorem avoid_joinControl : Avoid ((find? propertyTable "joincontrol".toList).getD []) := by
  repeat refine avoid_find?_of_not_contains (by decide +kernel) ?_
  refine avoid_find?_of_contains (by decide +kernel) ?_
  refine avoid_ofTable_cons (by decide +kernel) ?_
  exact avoid_ofTable_nil

theorem avoid_marksAndDigits : Avoid (categories (marks ++ ["Nd", "Pc"])) := by
  have hnil : Avoid (categories []) := by rintro r ⟨⟩
  refine avoid_categories_cons ?_ (avoid_categories_cons ?_ (avoid_categories_cons ?_
    (avoid_categories_cons ?_ (avoid_categories_cons ?_ hnil))))
  all_goals
    repeat refine avoid_find?_of_not_contains (by decide +kernel) ?_
    refine avoid_find?_of_contains (by decide +kernel) ?_
    repeat refine avoid_ofTable_cons (by decide +kernel) ?_
    exact avoid_ofTable_nil

/-- No run of word characters holds a character that ends a name. -/
theorem avoid_wordRuns : Avoid wordRuns :=
  (avoid_alphabetic.append avoid_marksAndDigits).append avoid_joinControl

theorem isWordChar_of_isSpace {c : Char} (h : Text.isSpace c = true) : isWordChar c = false := by
  have hrange : ∃ e ∈ nameEnds, e.1 ≤ c.toNat ∧ c.toNat ≤ e.2 := by
    simp only [Text.isSpace, Bool.or_eq_true, Bool.and_eq_true, decide_eq_true_eq, beq_iff_eq] at h
    simp only [nameEnds, List.mem_cons, List.not_mem_nil, or_false, exists_eq_or_imp,
      exists_eq_left]
    omega
  obtain ⟨⟨a, b⟩, hmem, ha, hb⟩ := hrange
  exact avoid_wordRuns.contains hmem ha hb

theorem isWordChar_closingMark : isWordChar '>' = false :=
  avoid_wordRuns.contains (a := 0x3E) (b := 0x3E) (by decide) (by decide) (by decide)

end RpcDispatch.Unicode
