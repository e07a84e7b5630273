import Mathlib.Data.Finset.Card
import Mathlib.Data.Prod.Lex
import Mathlib.Order.Interval.Finset.Nat
import RpcDispatch.Proofs.Extraction.Locations

/-!
# The location of every offset

An offset that lies between two characters has the line ends in front of it counted as its line, and
the characters behind the last of them as its column. Inside a character the column is the first
one; beyond the end an offset is where the text ends. Between characters the location tells offsets
apart and grows with them.
-/

namespace RpcDispatch

/-! ## Characters in front of an offset -/

namespace Text

/-- The offset lies between two characters, or at one of the ends. -/
def IsBoundary (t : Text) (n : Nat) : Prop := ∃ u v, t = u ++ v ∧ byteSize u = n

theorem isBoundary_iff_splitAt? {t : Text} {n : Nat} :
    IsBoundary t n ↔ (splitAt? t n).isSome := by
  simp only [IsBoundary, Option.isSome_iff_exists, Prod.exists, splitAt?_eq_some]

instance (t : Text) (n : Nat) : Decidable (IsBoundary t n) :=
  decidable_of_iff _ isBoundary_iff_splitAt?.symm

def stopAt (t : Text) (i : Nat) : Nat := byteSize (t.take (i + 1))

/-- The positions of the characters that end at or in front of an offset. -/
def positionsBefore (t : Text) (n : Nat) : Finset Nat :=
  {i ∈ Finset.range t.length | t.stopAt i ≤ n}

/-- The positions of the line ends among them. -/
def lineEndsBefore (t : Text) (n : Nat) : Finset Nat :=
  {i ∈ t.positionsBefore n | t[i]? = some '\n'}

/-- The positions behind the last of these line ends, or all positions if there is none. -/
def lineBefore (t : Text) (n : Nat) : Finset Nat :=
  {i ∈ t.positionsBefore n | ∀ j ∈ t.lineEndsBefore n, j < i}

end Text

namespace Location

open Text

variable {t u v w line : Text} {starts : List Nat} {n : Nat}

theorem CutBefore.positionsBefore_eq (h : CutBefore t n u v) :
    t.positionsBefore n = Finset.range u.length := by
  have hlength : t.length = u.length + v.length := by rw [h.text, List.length_append]
  ext i
  rw [positionsBefore, Finset.mem_filter, Finset.mem_range, Finset.mem_range, stopAt]
  constructor
  · -- a character of the text behind ends behind the first one of it
    rintro ⟨hi, hstop⟩
    by_contra hbehind
    obtain ⟨k, rfl⟩ := Nat.exists_eq_add_of_le (Nat.le_of_not_lt hbehind)
    cases v with
    | nil =>
        rw [hlength, List.length_nil] at hi
        omega
    | cons c v =>
        have hlt := h.lt c rfl
        rw [h.text, Nat.add_assoc, List.take_length_add_append, List.take_succ_cons,
          byteSize_append, byteSize_cons] at hstop
        omega
  · intro hi
    have hfront : byteSize (u.take (i + 1)) ≤ byteSize u := by
      conv_rhs => rw [← List.take_append_drop (i + 1) u, byteSize_append]
      exact Nat.le_add_right _ _
    rw [hlength, h.text, List.take_append_of_le_length (Nat.succ_le_of_lt hi)]
    exact ⟨Nat.lt_add_right _ hi, hfront.trans h.le⟩

/-- The cut falls short of the offset inside a character and beyond the end. -/
theorem CutBefore.isBoundary_iff (h : CutBefore t n u v) :
    IsBoundary t n ↔ byteSize u = n := by
  refine ⟨?_, fun hn => ⟨u, v, h.text, hn⟩⟩
  rintro ⟨u', v', htext, rfl⟩
  have hle := h.le
  rcases List.append_eq_append_iff.mp (htext.symm.trans h.text) with ⟨x, rfl, -⟩ | ⟨x, rfl, rfl⟩
  · rw [byteSize_append] at hle ⊢
    omega
  · cases x with
    | nil => rw [List.append_nil]
    | cons c x =>
        have hlt := h.lt c rfl
        rw [byteSize_append, byteSize_cons] at hlt
        omega

def lineEnds (u : Text) : Finset Nat := {i ∈ Finset.range u.length | u[i]? = some '\n'}

theorem CutBefore.lineEndsBefore_eq (h : CutBefore t n u v) : t.lineEndsBefore n = lineEnds u := by
  rw [lineEndsBefore, h.positionsBefore_eq, lineEnds]
  refine Finset.filter_congr fun i hi => ?_
  rw [h.text, List.getElem?_append_left (Finset.mem_range.mp hi)]

/-! ## Lines and columns -/

theorem lineEnds_append_singleton (u : Text) (c : Char) :
    lineEnds (u ++ [c]) = if c = '\n' then insert u.length (lineEnds u) else lineEnds u := by
  have hfront : ({i ∈ Finset.range u.length | (u ++ [c])[i]? = some '\n'} : Finset Nat) =
      lineEnds u := by
    refine Finset.filter_congr fun i hi => ?_
    rw [List.getElem?_append_left (Finset.mem_range.mp hi)]
  have hlast : (u ++ [c])[u.length]? = some c := by simp
  rw [lineEnds, List.length_append, List.length_singleton, Finset.range_add_one,
    Finset.filter_insert, hlast, hfront]
  simp only [Option.some.injEq]

theorem foldl_next_line (u : Text) :
    (u.foldl next ⟨1, 1⟩).line = 1 + (lineEnds u).card := by
  induction u using List.reverseRecOn with
  | nil => rfl
  | append_singleton u c ih =>
      rw [List.foldl_append, List.foldl_cons, List.foldl_nil, lineEnds_append_singleton, next]
      by_cases hc : c = '\n'
      · have hnew : u.length ∉ lineEnds u := by simp [lineEnds]
        rw [if_pos hc, if_pos hc, Finset.card_insert_of_notMem hnew, ih]
        rfl
      · rw [if_neg hc, if_neg hc, ih]

/-- A walk that stands at the first column has just left a line end, if it has begun. -/
theorem eq_nil_or_of_column (h : (u.foldl next ⟨1, 1⟩).column = 1) :
    u = [] ∨ ∃ w, u = w ++ ['\n'] := by
  rcases List.eq_nil_or_concat u with rfl | ⟨w, c, rfl⟩
  · exact .inl rfl
  · right
    rw [List.concat_eq_append, List.foldl_append, List.foldl_cons, List.foldl_nil, next] at h
    split at h
    next hc => exact ⟨w, by rw [hc, List.concat_eq_append]⟩
    next =>
      have hpos := (one_le_foldl_next w).2
      simp only at h
      omega

theorem LastLine.lineBefore_eq (h : LastLine u w line starts) (hcut : CutBefore t n u v) :
    t.lineBefore n = Finset.Ico w.length u.length := by
  have hlength : u.length = w.length + line.length := by rw [h.text, List.length_append]
  ext i
  rw [lineBefore, hcut.positionsBefore_eq, hcut.lineEndsBefore_eq, Finset.mem_filter,
    Finset.mem_range, Finset.mem_Ico, and_comm]
  refine and_congr_left fun hi => ⟨fun hbehind => ?_, fun hle j hj => ?_⟩
  · rcases eq_nil_or_of_column (congrArg column h.walk) with rfl | ⟨w', rfl⟩
    · exact Nat.zero_le i
    · rw [List.length_append]
      refine hbehind w'.length (Finset.mem_filter.mpr ⟨?_, ?_⟩)
      · rw [Finset.mem_range, hlength, List.length_append, List.length_singleton]
        omega
      · rw [h.text, List.append_assoc, List.getElem?_append_right (Nat.le_refl _)]
        simp
  · -- the last line holds no line end
    by_contra hbehind
    obtain ⟨-, hend⟩ := Finset.mem_filter.mp hj
    rw [h.text, List.getElem?_append_right (by omega)] at hend
    exact h.noEnd (List.mem_of_getElem? hend)

/-- The column of an offset is counted in the last line in front of it, if that can be cut there. -/
theorem LastLine.column_eq (h : LastLine u w line starts) (hcut : CutBefore t n u v) :
    (t.slice? (byteSize w) n).elim 1 (·.length + 1) =
      if IsBoundary t n then 1 + line.length else 1 := by
  split
  next hn =>
    have hslice : t.slice? (byteSize w) n = some line := by
      refine slice?_eq_some.mpr ⟨w, v, ?_, rfl, ?_⟩
      · rw [hcut.text, h.text, List.append_assoc]
      · rw [← h.text, hcut.isBoundary_iff.mp hn]
    rw [hslice, Nat.add_comm]
    rfl
  next hn =>
    have hslice : t.slice? (byteSize w) n = none := by
      refine Option.eq_none_iff_forall_ne_some.mpr fun s hs => hn ?_
      obtain ⟨before, after, htext, -, hsize⟩ := slice?_eq_some.mp hs
      exact ⟨before ++ s, after, by rw [htext, List.append_assoc], hsize⟩
    rw [hslice]
    rfl

/-- Line ends in front of the offset and characters of its line, both counted from one. -/
theorem locate_eq_count (t : Text) (n : Nat) :
    locate t n =
      { line := 1 + (t.lineEndsBefore (min n t.byteSize)).card
        column :=
          if IsBoundary t (min n t.byteSize) then 1 + (t.lineBefore (min n t.byteSize)).card
          else 1 } := by
  obtain ⟨u, v, hcut⟩ := exists_cutBefore t n
  obtain ⟨w, line, starts, h⟩ := exists_lastLine u
  have hline : starts.length + 1 = 1 + (t.lineEndsBefore (min n t.byteSize)).card := by
    rw [hcut.min.lineEndsBefore_eq, ← foldl_next_line, h.foldl_next]
  have hcolumn : line.length = (t.lineBefore (min n t.byteSize)).card := by
    rw [h.lineBefore_eq hcut.min, Nat.card_Ico, h.text, List.length_append,
      Nat.add_sub_cancel_left]
  rw [h.locate_eq hcut, h.column_eq hcut.min, hline, hcolumn]

/-! ## The order of locations -/

/-- The place of a location in the order by lines, and by columns within a line. -/
def rank (l : Location) : Nat ×ₗ Nat := toLex (l.line, l.column)

theorem rank_lt_rank_next (here : Location) (c : Char) : here.rank < (here.next c).rank := by
  rw [rank, rank, Prod.Lex.toLex_lt_toLex, next]
  split
  next => exact .inl (Nat.lt_add_one _)
  next => exact .inr ⟨rfl, Nat.lt_add_one _⟩

theorem rank_le_rank_foldl_next (here : Location) (u : Text) :
    here.rank ≤ (u.foldl next here).rank := by
  induction u generalizing here with
  | nil => exact le_refl _
  | cons c u ih => exact (rank_lt_rank_next here c).le.trans (ih _)

/-- From one boundary to a later one, the line goes up, or the column does on the same line. -/
theorem strictMonoOn_rank_locate (t : Text) :
    StrictMonoOn (fun n => (locate t n).rank) {n | IsBoundary t n} := by
  rintro _ ⟨u, v, rfl, rfl⟩ _ ⟨u', v', htext, rfl⟩ hlt
  -- the later front of the text extends the earlier one
  rcases List.append_eq_append_iff.mp htext with ⟨x, rfl, rfl⟩ | ⟨x, rfl, -⟩
  · cases x with
    | nil => simp at hlt
    | cons c x =>
        dsimp only
        rw [locate_append, ← List.append_assoc, locate_append, List.foldl_append]
        exact (rank_lt_rank_next _ c).trans_le (rank_le_rank_foldl_next _ x)
  · rw [byteSize_append] at hlt
    omega

/-- Every offset has a location, and no lookup on the way to it fails: its line is one plus the
number of line ends that end at or before the offset, and its column one plus the number of
characters since the last of them, or one if it lies inside a character. Offsets beyond the end have
the location of the end. Between characters the location grows with the offset, so no two such
offsets share one. -/
theorem locate_offsets (t : Text) :
    (∀ n, lookUp? t n = some (locate t n) ∧
      (locate t n).line = 1 + (t.lineEndsBefore (min n t.byteSize)).card ∧
      (locate t n).column =
        if IsBoundary t (min n t.byteSize) then 1 + (t.lineBefore (min n t.byteSize)).card
        else 1) ∧
    (∀ n, t.byteSize ≤ n → locate t n = locate t t.byteSize) ∧
    StrictMonoOn (fun n => toLex ((locate t n).line, (locate t n).column)) {n | IsBoundary t n} ∧
    Set.InjOn (locate t) {n | IsBoundary t n} := by
  refine ⟨fun n => ⟨lookUp?_eq_some t n, ?_⟩, fun n hn => ?_, strictMonoOn_rank_locate t, ?_⟩
  · rw [locate_eq_count]
    exact ⟨rfl, rfl⟩
  · rw [locate_eq_count, locate_eq_count, min_eq_right hn, Nat.min_self]
  · exact Set.InjOn.of_comp (g := rank) (strictMonoOn_rank_locate t).injOn

/-- An empty line, and an offset inside a character behind it. -/
example :
    (locate ("a\n\né".toList) 2, locate ("a\n\né".toList) 4) = (⟨2, 1⟩, ⟨3, 1⟩) := by decide

end Location

end RpcDispatch
