import Mathlib.Data.List.Induction
import Mathlib.Data.Nat.PSub
import RpcDispatch.Proofs.Lexing.Slices
import RpcDispatch.Source.Location

/-!
# Locations

The location of a place between two characters is where a walk along the text in front of it ends.
Looking the line up among the beginnings of all lines finds the same location, since the walk starts
anew behind every line end. In a text that stands behind another one the walk begins where that one
ends.
-/

namespace RpcDispatch.Location

open Text

/-! ## The walk -/

def next (here : Location) (c : Char) : Location :=
  if c = '\n' then ⟨here.line + 1, 1⟩ else ⟨here.line, here.column + 1⟩

/-- The location `l` of a text that begins at `here`. -/
def behind (here l : Location) : Location :=
  if l.line = 1 then ⟨here.line, here.column + l.column - 1⟩
  else ⟨here.line + l.line - 1, l.column⟩

variable {here : Location} {t u v w : Text}

/-- Lines and columns count from one. -/
theorem one_le_foldl_next (u : Text) :
    1 ≤ (u.foldl next ⟨1, 1⟩).line ∧ 1 ≤ (u.foldl next ⟨1, 1⟩).column := by
  induction u using List.reverseRecOn with
  | nil => exact ⟨Nat.le_refl 1, Nat.le_refl 1⟩
  | append_singleton u c ih =>
      rw [List.foldl_append, List.foldl_cons, List.foldl_nil, next]
      split
      · exact ⟨Nat.le_add_left 1 _, Nat.le_refl 1⟩
      · exact ⟨ih.1, Nat.le_add_left 1 _⟩

theorem behind_line (here l : Location) : (here.behind l).line = here.line + l.line - 1 := by
  unfold behind
  split
  next h => rw [h, Nat.add_sub_cancel]
  next => rfl

/-- A walk that starts further on ends further on by as much. -/
theorem foldl_next_eq_behind (here : Location) (u : Text) :
    u.foldl next here = here.behind (u.foldl next ⟨1, 1⟩) := by
  induction u using List.reverseRecOn with
  | nil => rfl
  | append_singleton u c ih =>
      obtain ⟨hline, hcolumn⟩ := one_le_foldl_next u
      rw [List.foldl_append, List.foldl_cons, List.foldl_nil, List.foldl_append, List.foldl_cons,
        List.foldl_nil, ih]
      generalize u.foldl next ⟨1, 1⟩ = l at hline hcolumn
      unfold next
      split
      next =>
        have hsecond : l.line + 1 ≠ 1 := by omega
        have hbelow : here.line + l.line - 1 + 1 = here.line + (l.line + 1) - 1 := by omega
        rw [behind_line, behind, if_neg hsecond, hbelow]
      next =>
        have hright : here.column + l.column - 1 + 1 = here.column + (l.column + 1) - 1 := by omega
        unfold behind
        dsimp only
        split
        next => rw [hright]
        next => rfl

/-! ## The beginnings of the lines -/

theorem laterStarts_append (offset : Nat) (u v : Text) :
    laterStarts offset (u ++ v) = laterStarts offset u ++ laterStarts (offset + byteSize u) v := by
  induction u generalizing offset with
  | nil => rfl
  | cons c u ih =>
      rw [List.cons_append, laterStarts, laterStarts, byteSize_cons, ih, ih, Nat.add_assoc,
        Nat.add_assoc]
      split
      next hc =>
        subst hc
        rfl
      next => rfl

theorem mem_laterStarts {offset n : Nat} (h : n ∈ laterStarts offset t) :
    offset < n ∧ n ≤ offset + byteSize t := by
  induction t generalizing offset with
  | nil => cases h
  | cons c t ih =>
      have hpos := c.utf8Size_pos
      rw [laterStarts] at h
      rw [byteSize_cons]
      split at h
      next hc =>
        have hsize : c.utf8Size = 1 := by rw [hc]; rfl
        rcases List.mem_cons.mp h with rfl | h
        · omega
        · have hrest := ih h
          omega
      next =>
        have hrest := ih h
        omega

theorem laterStarts_of_notMem {offset : Nat} (h : '\n' ∉ t) : laterStarts offset t = [] := by
  induction t generalizing offset with
  | nil => rfl
  | cons c t ih =>
      obtain ⟨hc, ht⟩ := not_or.mp (mt List.mem_cons.mpr h)
      rw [laterStarts, if_neg (Ne.symm hc)]
      exact ih ht

theorem foldl_next_of_notMem (h : '\n' ∉ w) (here : Location) :
    w.foldl next here = ⟨here.line, here.column + w.length⟩ := by
  induction w generalizing here with
  | nil => rfl
  | cons c w ih =>
      obtain ⟨hc, hw⟩ := not_or.mp (mt List.mem_cons.mpr h)
      rw [List.foldl_cons, next, if_neg (Ne.symm hc), ih hw, List.length_cons]
      simp only [Nat.add_assoc, Nat.add_comm 1]

/-- The search comes to the last line start that is not behind the offset. -/
theorem search_append {ns ms : List Nat} {m n : Nat} (hns : ∀ k ∈ ns, k < m) (hle : m ≤ n)
    (hms : ∀ k ∈ ms, n < k) :
    search (ns ++ m :: ms) n = if m = n then .ok ns.length else .error (ns.length + 1) := by
  have hbefore : ns.countP (· < n) = ns.length :=
    List.countP_eq_length.mpr fun k hk => decide_eq_true (Nat.lt_of_lt_of_le (hns k hk) hle)
  have hbehind : ms.countP (· < n) = 0 :=
    List.countP_eq_zero.mpr fun k hk hlt => Nat.lt_asymm (hms k hk) (of_decide_eq_true hlt)
  rw [search, List.countP_append, List.countP_cons, hbefore, hbehind]
  by_cases h : m = n
  · simp [h]
  · have hlt : m < n := Nat.lt_of_le_of_ne hle h
    have hnext : ms[0]? ≠ some n := fun heq =>
      Nat.lt_irrefl n (hms n (List.mem_of_getElem? heq))
    simp [h, hlt, List.getElem?_append_right, hnext]

/-- A text, cut in front of its last line, and where the lines in front of that one begin. -/
structure LastLine (u lines line : Text) (starts : List Nat) : Prop where
  text : u = lines ++ line
  noEnd : '\n' ∉ line
  begins : lineStarts lines = starts ++ [byteSize lines]
  before : ∀ n ∈ starts, n < byteSize lines
  walk : lines.foldl next ⟨1, 1⟩ = ⟨starts.length + 1, 1⟩

variable {line : Text} {starts : List Nat}

theorem LastLine.foldl_next (h : LastLine u w line starts) :
    u.foldl next ⟨1, 1⟩ = ⟨starts.length + 1, line.length + 1⟩ := by
  rw [h.text, List.foldl_append, h.walk, foldl_next_of_notMem h.noEnd, Nat.add_comm 1]

theorem LastLine.byteSize_le (h : LastLine u w line starts) : byteSize w ≤ byteSize u := by
  rw [h.text, byteSize_append]
  exact Nat.le_add_right _ _

theorem LastLine.lineStarts_append (h : LastLine u w line starts) (v : Text) :
    lineStarts (u ++ v) = starts ++ byteSize w :: laterStarts (byteSize u) v := by
  have hfront : lineStarts u = starts ++ [byteSize w] := by
    rw [h.text, lineStarts, laterStarts_append, laterStarts_of_notMem h.noEnd, List.append_nil]
    exact h.begins
  rw [lineStarts, laterStarts_append, Nat.zero_add, ← List.cons_append, ← lineStarts, hfront,
    List.append_assoc]
  rfl

theorem exists_lastLine (u : Text) : ∃ lines line starts, LastLine u lines line starts := by
  induction u using List.reverseRecOn with
  | nil => exact ⟨[], [], [], rfl, List.not_mem_nil, rfl, by simp, rfl⟩
  | append_singleton u c ih =>
      obtain ⟨lines, line, starts, h⟩ := ih
      by_cases hc : c = '\n'
      · subst hc
        have hsize : byteSize (u ++ ['\n']) = byteSize u + 1 := by
          rw [byteSize_append]
          rfl
        have hle := h.byteSize_le
        refine ⟨u ++ ['\n'], [], starts ++ [byteSize lines], (List.append_nil _).symm,
          List.not_mem_nil, ?_, ?_, ?_⟩
        · rw [h.lineStarts_append, hsize, List.append_assoc]
          rfl
        · intro n hn
          rcases List.mem_append.mp hn with hn | hn
          · have hlt := h.before n hn
            omega
          · obtain rfl := List.mem_singleton.mp hn
            omega
        · rw [List.foldl_append, List.foldl_cons, List.foldl_nil, h.foldl_next, next, if_pos rfl,
            List.length_append]
          rfl
      · refine ⟨lines, line ++ [c], starts, ?_, ?_, h.begins, h.before, h.walk⟩
        · rw [h.text, List.append_assoc]
        · exact List.not_mem_append h.noEnd (by simpa using Ne.symm hc)

/-! ## Where an offset lies -/

/-- A text, cut behind the last of its characters that ends at or in front of an offset. -/
structure CutBefore (t : Text) (n : Nat) (u v : Text) : Prop where
  text : t = u ++ v
  le : byteSize u ≤ n
  lt : ∀ c ∈ v.head?, n < byteSize u + c.utf8Size

variable {n : Nat}

theorem cutBefore_append (u v : Text) : CutBefore (u ++ v) (byteSize u) u v :=
  ⟨rfl, Nat.le_refl _, fun c _ => Nat.lt_add_of_pos_right c.utf8Size_pos⟩

/-- An offset inside a character cuts the text in front of that character. -/
theorem exists_cutBefore (t : Text) (n : Nat) : ∃ u v, CutBefore t n u v := by
  induction t generalizing n with
  | nil => exact ⟨[], [], rfl, Nat.zero_le n, fun c hc => by cases hc⟩
  | cons c t ih =>
      by_cases hc : c.utf8Size ≤ n
      · obtain ⟨u, v, h⟩ := ih (n - c.utf8Size)
        refine ⟨c :: u, v, congrArg (c :: ·) h.text, ?_, fun d hd => ?_⟩
        · have hle := h.le
          rw [byteSize_cons]
          omega
        · have hlt := h.lt d hd
          rw [byteSize_cons]
          omega
      · refine ⟨[], c :: t, rfl, Nat.zero_le n, fun d hd => ?_⟩
        obtain rfl := Option.some.inj hd
        rw [byteSize_nil, Nat.zero_add]
        exact Nat.lt_of_not_le hc

/-- Beyond the end an offset lies where the text ends. -/
theorem CutBefore.min (h : CutBefore t n u v) : CutBefore t (min n (byteSize t)) u v where
  text := h.text
  le := by
    refine Nat.le_min.mpr ⟨h.le, ?_⟩
    rw [h.text, byteSize_append]
    exact Nat.le_add_right _ _
  lt c hc := Nat.lt_of_le_of_lt (Nat.min_le_left n _) (h.lt c hc)

/-- The lines of the text behind begin behind the offset. -/
theorem CutBefore.lt_of_mem_laterStarts (h : CutBefore t n u v) {k : Nat}
    (hk : k ∈ laterStarts (byteSize u) v) : n < k := by
  cases v with
  | nil => cases hk
  | cons c v =>
      have hlt := h.lt c rfl
      rw [laterStarts] at hk
      split at hk
      next hc =>
        have hsize : c.utf8Size = 1 := by rw [hc]; rfl
        rcases List.mem_cons.mp hk with rfl | hk
        · omega
        · have hrest := mem_laterStarts hk
          omega
      next =>
        have hrest := mem_laterStarts hk
        omega

/-! ## Looking up the line -/

/-- The line of an offset is the last line of the text in front of it. -/
theorem LastLine.search_eq (h : LastLine u w line starts) (hcut : CutBefore t n u v) :
    search (lineStarts t) n =
      if byteSize w = n then .ok starts.length else .error (starts.length + 1) := by
  rw [hcut.text, h.lineStarts_append]
  exact search_append h.before (h.byteSize_le.trans hcut.le) fun k hk =>
    hcut.lt_of_mem_laterStarts hk

theorem LastLine.getElem?_lineStarts (h : LastLine u w line starts) (ht : t = u ++ v) :
    (lineStarts t)[starts.length]? = some (byteSize w) := by
  rw [ht, h.lineStarts_append]
  exact List.getElem?_append_right (Nat.le_refl _) |>.trans (by simp)

/-- Inside a character there is no slice up to the offset, and the column is 1. -/
theorem LastLine.locate_eq (h : LastLine u w line starts) (hcut : CutBefore t n u v) :
    locate t n = ⟨starts.length + 1,
      (t.slice? (byteSize w) (min n (byteSize t))).elim 1 (·.length + 1)⟩ := by
  have hline : (LineIndex.ofText t).line n = starts.length := by
    rw [LineIndex.line, LineIndex.ofText, h.search_eq hcut]
    split_ifs <;> rfl
  have hstart : (LineIndex.ofText t).lineStarts.getD starts.length 0 = byteSize w := by
    rw [LineIndex.ofText, List.getD_eq_getElem?_getD, h.getElem?_lineStarts hcut.text]
    rfl
  rw [locate, LineIndex.locate, hline, hstart]

/-- The location between two characters is the end of the walk along the text in front of it. -/
theorem locate_append (u v : Text) : locate (u ++ v) (byteSize u) = u.foldl next ⟨1, 1⟩ := by
  obtain ⟨w, line, starts, h⟩ := exists_lastLine u
  have hmin : min (byteSize u) (byteSize (u ++ v)) = byteSize u := by
    rw [byteSize_append]
    exact Nat.min_eq_left (Nat.le_add_right _ _)
  have hslice : slice? (u ++ v) (byteSize w) (byteSize u) = some line :=
    slice?_eq_some.mpr ⟨w, v, by rw [h.text, List.append_assoc], rfl, by rw [h.text]⟩
  rw [h.locate_eq (cutBefore_append u v), hmin, hslice, h.foldl_next]
  rfl

/-- The location of a place in a text, where the text stands behind another one. What follows the
place does not matter. -/
theorem locate_behind (front u v v' : Text) :
    locate (front ++ (u ++ v)) (byteSize front + byteSize u) =
      (locate (front ++ (u ++ v)) (byteSize front)).behind (locate (u ++ v') (byteSize u)) := by
  rw [locate_append front, locate_append u, ← foldl_next_eq_behind, ← List.foldl_append,
    ← byteSize_append, ← List.append_assoc, locate_append]

/-- The location of a byte offset from the beginnings of the lines. There is none if the offset is
in front of the first line or the line has no beginning. -/
def lookUp? (t : Text) (offset : Nat) : Option Location := do
  let line ← match search (lineStarts t) offset with
    | .ok position => some position
    | .error position => Nat.ppred position
  let start ← (lineStarts t)[line]?
  let column := (t.slice? start (min offset (byteSize t))).elim 1 (·.length + 1)
  pure ⟨line + 1, column⟩

/-- Every offset has a location: none of the lookups fails. -/
theorem lookUp?_eq_some (t : Text) (n : Nat) : lookUp? t n = some (locate t n) := by
  obtain ⟨u, v, hcut⟩ := exists_cutBefore t n
  obtain ⟨w, line, starts, h⟩ := exists_lastLine u
  have hstart := h.getElem?_lineStarts hcut.text
  rw [lookUp?, h.search_eq hcut, h.locate_eq hcut]
  by_cases hbegin : byteSize w = n
  · rw [if_pos hbegin]
    simp [hstart]
  · rw [if_neg hbegin]
    simp [hstart]

end RpcDispatch.Location
