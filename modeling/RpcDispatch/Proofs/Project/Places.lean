import RpcDispatch.Project.FileTree
import RpcDispatch.Proofs.Outcomes

/-!
# The place a path names

Where a path leads does not depend on the tree: every part goes down to a name, stays or goes up.
The tree only decides whether the path can be followed, for which everything passed on the way
has to be a directory.
-/

namespace RpcDispatch

/-! ## Splitting at separators -/

namespace Text

theorem splitOn_of_not_mem {sep : Char} {t : Text} (h : sep ∉ t) : splitOn sep t = [t] := by
  induction t with
  | nil => rfl
  | cons c t ih =>
      rw [List.mem_cons, not_or] at h
      rw [splitOn, if_neg (Ne.symm h.1), ih h.2]

theorem splitOn_append (sep : Char) (s t : Text) :
    splitOn sep (s ++ sep :: t) = splitOn sep s ++ splitOn sep t := by
  induction s with
  | nil => simp [splitOn]
  | cons c s ih =>
      by_cases hc : c = sep
      · rw [List.cons_append, splitOn, if_pos hc, ih, splitOn, if_pos hc]
        rfl
      · rw [List.cons_append, splitOn, if_neg hc, ih, splitOn, if_neg hc]
        cases hs : splitOn sep s with
        | nil => exact absurd hs (splitOn_ne_nil sep s)
        | cons p ps => rfl

theorem not_mem_of_mem_splitOn {sep : Char} {t p : Text} (hp : p ∈ splitOn sep t) : sep ∉ p := by
  induction t generalizing p with
  | nil =>
      rw [splitOn, List.mem_singleton] at hp
      simp [hp]
  | cons c t ih =>
      rw [splitOn] at hp
      split at hp
      next =>
        rcases List.mem_cons.mp hp with rfl | hp
        · exact List.not_mem_nil
        · exact ih hp
      next hc =>
        split at hp
        next hs => exact absurd hs (splitOn_ne_nil sep t)
        next q qs hs =>
          rcases List.mem_cons.mp hp with rfl | hp
          · rw [List.mem_cons, not_or]
            exact ⟨Ne.symm hc, ih (by simp [hs])⟩
          · exact ih (by simp [hs, hp])

/-- A name in a directory: not empty, without separators, and none of the two that lead
elsewhere. -/
def IsName (t : Text) : Prop := t ≠ [] ∧ t ≠ "." ∧ t ≠ ".." ∧ '/' ∉ t

instance (t : Text) : Decidable t.IsName :=
  inferInstanceAs (Decidable (_ ∧ _ ∧ _ ∧ _))

end Text

/-! ## Places -/

namespace Route

def extend (here : Route) (part : Text) : Route :=
  if part = [] ∨ part = "." then here
  else if part = ".." then here.dropLast
  else here ++ [part]

def along (here : Route) (parts : List Text) : Route := parts.foldl extend here

theorem extend_name (here : Route) {name : Text} (h : name.IsName) :
    extend here name = here ++ [name] := by
  obtain ⟨hne, hdot, hdots, -⟩ := h
  rw [extend, if_neg (by simp only [hne, hdot, or_self, not_false_eq_true]), if_neg hdots]

theorem along_append (here : Route) (ps qs : List Text) :
    along here (ps ++ qs) = along (along here ps) qs :=
  List.foldl_append

theorem along_cons (here : Route) (p : Text) (ps : List Text) :
    along here (p :: ps) = along (extend here p) ps := rfl

@[simp] theorem along_nil (here : Route) : along here [] = here := rfl

/-- Names on a place come from where the path starts or are parts of it. -/
theorem isName_of_mem_along {here : Route} {parts : List Text}
    (hhere : ∀ n ∈ here, n.IsName) (hparts : ∀ p ∈ parts, '/' ∉ p) :
    ∀ n ∈ along here parts, n.IsName := by
  induction parts generalizing here with
  | nil => exact hhere
  | cons p ps ih =>
      refine ih ?_ fun q hq => hparts q (List.mem_cons_of_mem p hq)
      intro n hn
      rw [extend] at hn
      split at hn
      next => exact hhere n hn
      next hp =>
        split at hn
        next => exact hhere n (List.dropLast_subset here hn)
        next hdots =>
          rcases List.mem_append.mp hn with hn | hn
          · exact hhere n hn
          · rw [not_or] at hp
            rw [List.mem_singleton.mp hn]
            exact ⟨hp.1, hp.2, hdots, hparts p List.mem_cons_self⟩

theorem name_eq {here there : Route} {m n : Text} (h : here ++ [m] = there ++ [n]) : m = n :=
  List.singleton_inj.mp (List.append_inj_right' h rfl)

end Route

namespace Path

def split (p : Path) : List Text := Text.splitOn '/' p.text

/-- The names from the root to where a path leads, if it is followed from the root. -/
def place (p : Path) : Route := Route.along [] p.split

theorem isName_of_mem_place (p : Path) : ∀ n ∈ p.place, n.IsName :=
  Route.isName_of_mem_along (by simp) fun _ hq => Text.not_mem_of_mem_splitOn hq

/-- The path is neither empty nor too long, and no character ends it early. -/
def IsUsable (p : Path) : Prop :=
  '\x00' ∉ p.text ∧ p.text ≠ [] ∧ Text.byteSize p.text < 4096

end Path

/-! ## Following a path -/

namespace FileTree

theorem enter_eq_ok {t : FileTree} {r : Route} :
    t.enter r = .ok () ↔ t.node? r = some .directory := by
  rw [enter]
  split <;> simp_all

/-- A name that is too long is the only part that cannot be gone. -/
theorem step_eq_ok {here r : Route} {part : Text} :
    step here part = .ok r ↔ Text.byteSize part ≤ 255 ∧ r = Route.extend here part := by
  rw [step, Route.extend]
  split
  next h =>
    have hsize : Text.byteSize part ≤ 255 := by
      rcases h with rfl | rfl <;> decide
    simp [hsize, eq_comm]
  next =>
    split
    next h =>
      have hsize : Text.byteSize part ≤ 255 := by
        rw [h]
        decide
      simp [hsize, eq_comm]
    next =>
      split
      next h => simp [Nat.not_le.mpr h]
      next h => simp [Nat.not_lt.mp h, eq_comm]

/-- Everything passed on the way along some parts is a directory, and no part is too long. -/
def Passes (t : FileTree) : Route → List Text → Prop
  | _, [] => True
  | here, part :: parts =>
      t.node? here = some .directory ∧ Text.byteSize part ≤ 255 ∧
        t.Passes (Route.extend here part) parts

theorem passes_append {t : FileTree} {here : Route} {ps qs : List Text} :
    t.Passes here (ps ++ qs) ↔ t.Passes here ps ∧ t.Passes (Route.along here ps) qs := by
  induction ps generalizing here with
  | nil => simp [Passes]
  | cons p ps ih => simp [Passes, ih, Route.along_cons, and_assoc]

theorem Passes.mono {t t' : FileTree}
    (ht : ∀ r, t.node? r = some .directory → t'.node? r = some .directory) {here : Route}
    {parts : List Text} (h : t.Passes here parts) : t'.Passes here parts := by
  induction parts generalizing here with
  | nil => trivial
  | cons p ps ih => exact ⟨ht here h.1, h.2.1, ih h.2.2⟩

theorem follow_eq_ok {t : FileTree} {here r : Route} {parts : List Text} :
    t.follow here parts = .ok r ↔ t.Passes here parts ∧ r = Route.along here parts := by
  induction parts generalizing here with
  | nil => simp [follow, Passes, eq_comm]
  | cons p ps ih =>
      rw [follow, bind_eq_ok]
      simp only [bind_eq_ok, step_eq_ok, ih, Passes, Route.along_cons]
      constructor
      · rintro ⟨⟨⟩, hdir, _, ⟨hsize, rfl⟩, hpasses, rfl⟩
        exact ⟨⟨enter_eq_ok.mp hdir, hsize, hpasses⟩, rfl⟩
      · rintro ⟨⟨hdir, hsize, hpasses⟩, rfl⟩
        exact ⟨(), enter_eq_ok.mpr hdir, _, ⟨hsize, rfl⟩, hpasses, rfl⟩

def Reaches (t : FileTree) (p : Path) : Prop := p.IsUsable ∧ t.Passes [] p.split

theorem parts_eq_ok {p : Path} {ps : List Text} :
    parts p = .ok ps ↔ p.IsUsable ∧ ps = p.split := by
  rw [parts, Path.IsUsable, Path.split]
  split
  next h => simp [h]
  next h =>
    split
    next he => simp [he]
    next he =>
      split
      next hl => simp [Nat.not_lt.mpr hl]
      next hl => simp [h, he, Nat.not_le.mp hl, eq_comm]

/-- A path leads to its place if every directory on the way is there. -/
theorem route_eq_ok {t : FileTree} {p : Path} {r : Route} :
    t.route p = .ok r ↔ t.Reaches p ∧ r = p.place := by
  rw [route, bind_eq_ok]
  simp only [parts_eq_ok, follow_eq_ok, Reaches, Path.place]
  constructor
  · rintro ⟨ps, ⟨husable, rfl⟩, hpasses, rfl⟩
    exact ⟨⟨husable, hpasses⟩, rfl⟩
  · rintro ⟨⟨husable, hpasses⟩, rfl⟩
    exact ⟨_, ⟨husable, rfl⟩, hpasses, rfl⟩

theorem lookup_eq_ok {t : FileTree} {p : Path} {n : Node} :
    t.lookup p = .ok n ↔ t.Reaches p ∧ t.node? p.place = some n := by
  rw [lookup, bind_eq_ok]
  constructor
  · rintro ⟨r, hr, hn⟩
    obtain ⟨hreach, rfl⟩ := route_eq_ok.mp hr
    refine ⟨hreach, ?_⟩
    split at hn
    next m hm => rw [hm, Except.ok.inj hn]
    next => cases hn
  · rintro ⟨hreach, hn⟩
    refine ⟨p.place, route_eq_ok.mpr ⟨hreach, rfl⟩, ?_⟩
    rw [hn]
    rfl

theorem read_eq_ok {t : FileTree} {p : Path} {bytes : List UInt8} :
    t.read p = .ok bytes ↔ t.Reaches p ∧ t.node? p.place = some (.file bytes) := by
  rw [read, bind_eq_ok]
  constructor
  · rintro ⟨n, hn, hb⟩
    cases n with
    | directory => cases hb
    | file bs =>
        obtain rfl := Except.ok.inj hb
        exact lookup_eq_ok.mp hn
  · intro h
    exact ⟨_, lookup_eq_ok.mpr h, rfl⟩

theorem isPresent_iff {t : FileTree} {p : Path} :
    t.isPresent p = true ↔ t.Reaches p ∧ ∃ n, t.node? p.place = some n := by
  rw [isPresent]
  constructor
  · intro h
    cases hl : t.lookup p with
    | error e =>
        rw [hl] at h
        cases h
    | ok n => exact ⟨(lookup_eq_ok.mp hl).1, n, (lookup_eq_ok.mp hl).2⟩
  · rintro ⟨hreach, n, hn⟩
    rw [lookup_eq_ok.mpr ⟨hreach, hn⟩]
    rfl

theorem isDirectory_iff {t : FileTree} {p : Path} :
    t.isDirectory p = true ↔ t.Reaches p ∧ t.node? p.place = some .directory := by
  rw [isDirectory, beq_iff_eq, ← lookup_eq_ok]
  cases t.lookup p <;> simp [Except.toOption]

theorem isFile_iff {t : FileTree} {p : Path} :
    t.isFile p = true ↔ t.Reaches p ∧ ∃ bytes, t.node? p.place = some (.file bytes) := by
  rw [isFile]
  constructor
  · intro h
    split at h
    next bytes hl => exact ⟨(lookup_eq_ok.mp hl).1, bytes, (lookup_eq_ok.mp hl).2⟩
    next => cases h
  · rintro ⟨hreach, bytes, hb⟩
    rw [lookup_eq_ok.mpr ⟨hreach, hb⟩]

end FileTree

end RpcDispatch
