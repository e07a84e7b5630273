import RpcDispatch.Proofs.Project.Folding

/-!
# Where a path leads

A path that is walked from a directory leads some levels up, or to the root, and then down some
names. Folding keeps the names, but the levels only up to one: a `..` takes back the `..` in front
of it. So a folded path leads to the same place from every directory exactly if it is absolute or at
most one `..` climbs out of where the walk starts.
-/

namespace RpcDispatch

/-- What is left of a walk, whatever directory it starts from: where it goes first, and then the
names that it goes down. -/
structure Course where
  absolute : Bool
  /-- The `..` that take back no name. -/
  ups : Nat
  names : Route

namespace Course

def start : Course := ⟨false, 0, []⟩

def step (k : Course) : Component → Course
  | .root => ⟨true, 0, []⟩
  | .current => k
  | .parent => if k.names = [] then { k with ups := k.ups + 1 }
      else { k with names := k.names.dropLast }
  | .name t => { k with names := k.names ++ [t] }

def reach (k : Course) (d : Route) : Route :=
  (if k.absolute then [] else d.take (d.length - k.ups)) ++ k.names

theorem reach_step (k : Course) (d : Route) (c : Component) :
    (k.step c).reach d = c.walk (k.reach d) := by
  cases c with
  | root => rfl
  | current => rfl
  | name t => exact (List.append_assoc _ k.names [t]).symm
  | parent =>
      rw [step, Component.walk]
      split
      next hnames =>
        rw [reach, reach, hnames, List.append_nil, List.append_nil]
        cases k.absolute with
        | true => rfl
        | false => exact (Path.Folded.dropLast_take_length_sub d k.ups).symm
      next hnames => rw [reach, reach, List.dropLast_append_of_ne_nil hnames]

theorem reach_foldl (k : Course) (d : Route) (cs : List Component) :
    (cs.foldl step k).reach d = cs.foldl Component.walk (k.reach d) := by
  induction cs generalizing k with
  | nil => rfl
  | cons c cs ih => rw [List.foldl_cons, List.foldl_cons, ih, reach_step]

theorem absolute_foldl (k : Course) (cs : List Component) :
    (cs.foldl step k).absolute = (k.absolute || cs.contains .root) := by
  induction cs generalizing k with
  | nil => simp
  | cons c cs ih =>
      rw [List.foldl_cons, ih]
      cases c with
      | parent =>
          rw [step]
          split <;> simp
      | root => simp [step]
      | current => simp [step]
      | name t => simp [step]

end Course

namespace Path

def walk (d : Route) (p : Path) : Route := p.components.foldl Component.walk d

def course (p : Path) : Course := p.components.foldl Course.step Course.start

/-- The levels that a relative path climbs out of the directory in which it is walked. -/
def ascents (p : Path) : Nat := p.course.ups

theorem walk_eq (d : Route) (p : Path) : p.walk d = p.course.reach d := by
  have hstart : Course.start.reach d = d := by simp [Course.start, Course.reach]
  rw [course, Course.reach_foldl, hstart]
  rfl

theorem contains_root (p : Path) : p.components.contains .root = p.isAbsolute := by
  have hparts : .root ∉ (Text.splitOn '/' p.text).filterMap part? := by
    intro h
    obtain ⟨t, -, ht⟩ := List.mem_filterMap.mp h
    rcases of_part?_eq_some ht with hparent | ⟨hname, -⟩
    · cases hparent
    · cases hname
  rw [Bool.eq_iff_iff, List.contains_iff_mem, components, List.mem_append, or_iff_left hparts,
    lead]
  split
  next h => simp [h]
  next h => split <;> simp [h]

theorem absolute_course (p : Path) : p.course.absolute = p.isAbsolute := by
  rw [course, Course.absolute_foldl, contains_root]
  exact Bool.false_or _

/-! ## Folding -/

namespace Folded

variable {x y : Folded} {k : Course}

def course (x : Folded) : Course := ⟨x.absolute, x.ups, x.names⟩

theorem walk_path (x : Folded) (d : Route) : x.path.walk d = x.course.reach d := by
  rw [Path.walk, components_path, List.foldl_append, List.foldl_append, walk_parents, walk_names,
    Course.reach, course]
  cases x.absolute with
  | true => exact congrArg (· ++ x.names) List.take_nil
  | false => rfl

/-- A step of folding follows a step of the walk, but of two `..` in front it keeps none. -/
theorem Steps.course_eq {c : Component} (h : x.Steps c y)
    (hx : x.course = { k with ups := k.ups % 2 }) :
    y.course = { k.step c with ups := (k.step c).ups % 2 } := by
  obtain ⟨absolute, ups, names⟩ := k
  obtain ⟨habsolute, hups, hnames⟩ := Course.mk.inj hx
  rw [course, h.absolute, h.ups, h.names, habsolute, hnames]
  cases c with
  | root => simp [upsAfter, Course.step, Component.walk]
  | current => simp [upsAfter, Course.step, Component.walk, hups]
  | name t => simp [upsAfter, Course.step, Component.walk, hups]
  | parent =>
      by_cases hne : names = []
      · have hodd : (if ups % 2 = 0 then 1 else ups % 2 - 1) = (ups + 1) % 2 := by
          split <;> omega
        simp only [upsAfter, hnames, hne, hups, hodd, Course.step]
        simp [Component.walk]
      · simp [upsAfter, Course.step, Component.walk, hnames, hne, hups]

end Folded

/-- Folding keeps where a path goes first and the names, and of the levels whether they are odd. -/
theorem exists_fold_eq (p : Path) : ∃ x : Folded,
    p.fold = x.path ∧ x.course = { p.course with ups := p.ascents % 2 } := by
  have hfold : ∀ (cs : List Component) (x : Folded) (k : Course),
      (∀ t, .name t ∈ cs → t.IsName) → x.course = { k with ups := k.ups % 2 } →
      ∃ y : Folded, cs.foldl foldStep x.path = y.path ∧
        y.course = { cs.foldl Course.step k with ups := (cs.foldl Course.step k).ups % 2 } := by
    intro cs
    induction cs with
    | nil => exact fun x k _ hx => ⟨x, rfl, hx⟩
    | cons c cs ih =>
        intro x k hcs hx
        obtain ⟨y, hy, hstep⟩ := x.foldStep_path (c := c) fun t ht => hcs t (by simp [ht])
        obtain ⟨z, hz, hcourse⟩ := ih y (k.step c)
          (fun t ht => hcs t (List.mem_cons_of_mem c ht)) (hstep.course_eq hx)
        exact ⟨z, by rw [List.foldl_cons, hy, hz], hcourse⟩
  exact hfold p.components ⟨false, 0, [], by simp⟩ Course.start
    (fun t ht => isName_of_mem_components ht) rfl

/-- Folding a path keeps whether it is absolute and the place that it names. -/
theorem fold_eq (p : Path) : ∃ x : Folded,
    p.fold = x.path ∧ x.absolute = p.isAbsolute ∧ x.names = p.place := by
  obtain ⟨x, hx, hcourse⟩ := p.exists_fold_eq
  obtain ⟨habsolute, -, hnames⟩ := Course.mk.inj hcourse
  refine ⟨x, hx, habsolute.trans p.absolute_course, hnames.trans ?_⟩
  have hplace : p.place = p.course.reach [] := p.place_eq_walk.trans (p.walk_eq [])
  rw [hplace, Course.reach]
  simp

/-- From the root folding is right for all paths, since no `..` leads above it. -/
theorem place_fold (p : Path) : p.fold.place = p.place := by
  obtain ⟨x, hx, -, hnames⟩ := p.fold_eq
  rw [hx, x.place_path, hnames]

/-- A folded path leads from `d` to where the path leads if it is absolute, if at most one `..`
climbs out of `d`, or if `d` is so near the root that the climb ends there anyway. Otherwise it does
not: of two `..` that climb, the second takes the first one back. -/
theorem walk_fold_iff (p : Path) (d : Route) :
    p.fold.walk d = p.walk d ↔
      p.isAbsolute = true ∨ p.ascents ≤ 1 ∨ d.length ≤ p.ascents % 2 := by
  obtain ⟨x, hx, hcourse⟩ := p.exists_fold_eq
  rw [hx, x.walk_path, hcourse, walk_eq, Course.reach, Course.reach, List.append_left_inj,
    absolute_course]
  cases p.isAbsolute with
  | true => simp
  | false =>
      rw [if_neg Bool.false_ne_true, if_neg Bool.false_ne_true]
      have hlength : d.take (d.length - p.ascents % 2) = d.take (d.length - p.ascents) ↔
          d.length - p.ascents % 2 = d.length - p.ascents := by
        constructor
        · intro h
          simpa using congrArg List.length h
        · exact congrArg (d.take ·)
      refine hlength.trans ?_
      simp only [Bool.false_eq_true, false_or]
      omega

/-- Two `..` are folded into nothing. -/
theorem walk_fold_ne :
    fold ⟨"../..".toList⟩ = ⟨[]⟩ ∧
      walk ["a".toList, "b".toList] (fold ⟨"../..".toList⟩) = ["a".toList, "b".toList] ∧
      walk ["a".toList, "b".toList] ⟨"../..".toList⟩ = [] := by
  decide

end Path

end RpcDispatch
