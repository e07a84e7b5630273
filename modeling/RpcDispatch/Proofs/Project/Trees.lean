import Mathlib.Data.List.Nodup
import RpcDispatch.Project.Storage
import RpcDispatch.Proofs.Project.PathTexts

/-!
# Trees, and files put into them

In a tree every place has one node and every node lies in a directory. Putting a file somewhere
changes what is seen there and in the directory around it, and nothing else.
-/

namespace RpcDispatch.FileTree

/-- Every place has one node, which lies in a directory, and it is named by names. -/
structure IsTree (t : FileTree) : Prop where
  nodup : (t.nodes.map (·.1)).Nodup
  parents : ∀ e ∈ t.nodes, t.node? e.1.dropLast = some .directory
  names : ∀ e ∈ t.nodes, ∀ n ∈ e.1, n.IsName

instance (t : FileTree) : Decidable t.IsTree :=
  decidable_of_iff ((t.nodes.map (·.1)).Nodup ∧
      (∀ e ∈ t.nodes, t.node? e.1.dropLast = some .directory) ∧
      ∀ e ∈ t.nodes, ∀ n ∈ e.1, n.IsName)
    ⟨fun h => ⟨h.1, h.2.1, h.2.2⟩, fun h => ⟨h.nodup, h.parents, h.names⟩⟩

theorem mem_of_node? {t : FileTree} {r : Route} {n : Node} (hr : r ≠ [])
    (h : t.node? r = some n) : (r, n) ∈ t.nodes := by
  rw [node?, if_neg hr, Option.map_eq_some_iff] at h
  obtain ⟨e, he, rfl⟩ := h
  have hroute : e.1 = r := by simpa using List.find?_some he
  rw [← hroute]
  exact List.mem_of_find?_eq_some he

theorem node?_eq_none_iff {t : FileTree} {r : Route} (hr : r ≠ []) :
    t.node? r = none ↔ r ∉ t.nodes.map (·.1) := by
  rw [node?, if_neg hr, Option.map_eq_none_iff, List.find?_eq_none, List.mem_map]
  constructor
  · rintro h ⟨e, he, rfl⟩
    exact h e he (decide_eq_true rfl)
  · intro h e he hroute
    exact h ⟨e, he, of_decide_eq_true hroute⟩

theorem IsTree.node?_of_mem {t : FileTree} (ht : t.IsTree) {r : Route} {n : Node} (hr : r ≠ [])
    (h : (r, n) ∈ t.nodes) : t.node? r = some n := by
  have hmem : r ∈ t.nodes.map (·.1) := List.mem_map_of_mem h
  cases hnode : t.node? r with
  | none => exact absurd hmem ((node?_eq_none_iff hr).mp hnode)
  | some m =>
      have hm := mem_of_node? hr hnode
      have heq : (r, m) = (r, n) := List.inj_on_of_nodup_map ht.nodup hm h rfl
      rw [(Prod.mk.inj heq).2]

theorem IsTree.parent {t : FileTree} (ht : t.IsTree) {r : Route} {n : Node}
    (h : t.node? r = some n) : t.node? r.dropLast = some .directory := by
  by_cases hr : r = []
  · rw [hr]
    rfl
  · exact ht.parents _ (mem_of_node? hr h)

/-! ## Setting one node -/

theorem nodup_set {t : FileTree} (h : (t.nodes.map (·.1)).Nodup) (r : Route) (n : Node) :
    ((t.set r n).nodes.map (·.1)).Nodup := by
  rw [set, List.map_cons, List.nodup_cons]
  constructor
  · simp
  · exact (List.filter_sublist.map _).nodup h

/-- A node may be set in a directory that is there, as long as no file takes the place of a
directory. -/
theorem IsTree.set {t : FileTree} (ht : t.IsTree) {r : Route} {n : Node} (hr : r ≠ [])
    (hnames : ∀ m ∈ r, m.IsName) (hparent : t.node? r.dropLast = some .directory)
    (hkeep : n = .directory ∨ t.node? r ≠ some .directory) : (t.set r n).IsTree := by
  have hdrop : r.dropLast ≠ r := by
    intro h
    have hlen := congrArg List.length h
    rw [List.length_dropLast] at hlen
    have hpos := List.length_pos_iff.mpr hr
    omega
  refine ⟨nodup_set ht.nodup r n, ?_, ?_⟩
  · intro e he
    rcases List.mem_cons.mp he with rfl | he
    · rwa [node?_set_of_ne t n hdrop]
    · have hmem := ht.parents e (List.mem_filter.mp he).1
      by_cases heq : e.1.dropLast = r
      · rw [heq] at hmem ⊢
        rcases hkeep with rfl | hno
        · exact node?_set_self t _ hr
        · exact absurd hmem hno
      · rwa [node?_set_of_ne t n heq]
  · intro e he
    rcases List.mem_cons.mp he with rfl | he
    · exact hnames
    · exact ht.names e (List.mem_filter.mp he).1

/-! ## Putting a file -/

def putFile (t : FileTree) (r : Route) (bytes : List UInt8) : FileTree :=
  (if t.node? r.dropLast = none then t.set r.dropLast .directory else t).set r (.file bytes)

/-- A file can be put at `r`: no directory stands there, and the directory around it is there or
can be made. -/
structure Takes (t : FileTree) (r : Route) : Prop where
  ne_nil : r ≠ []
  names : ∀ n ∈ r, n.IsName
  no_directory : t.node? r ≠ some .directory
  around : t.node? r.dropLast = some .directory ∨
    t.node? r.dropLast = none ∧ t.node? r.dropLast.dropLast = some .directory

variable {t : FileTree} {r : Route} (bytes : List UInt8)

theorem node?_putFile_self (hr : r ≠ []) : (t.putFile r bytes).node? r = some (.file bytes) :=
  node?_set_self _ _ hr

theorem node?_putFile_of_ne {s : Route} (hs : s ≠ r) (hd : s ≠ r.dropLast) :
    (t.putFile r bytes).node? s = t.node? s := by
  rw [putFile, node?_set_of_ne _ _ hs]
  split
  · rw [node?_set_of_ne _ _ hd]
  · rfl

theorem putFile_of_some {n : Node} (h : t.node? r.dropLast = some n) :
    t.putFile r bytes = t.set r (.file bytes) := by
  rw [putFile, h, if_neg (by simp)]

theorem Takes.dropLast_ne (h : t.Takes r) : r.dropLast ≠ r := by
  intro heq
  have hlen := congrArg List.length heq
  rw [List.length_dropLast] at hlen
  have hpos := List.length_pos_iff.mpr h.ne_nil
  omega

theorem Takes.node?_putFile_dropLast (h : t.Takes r) :
    (t.putFile r bytes).node? r.dropLast = some .directory := by
  rw [putFile, node?_set_of_ne _ _ h.dropLast_ne]
  split
  next hnone =>
    have hne : r.dropLast ≠ [] := by
      intro hnil
      rw [hnil] at hnone
      cases hnone
    exact node?_set_self t _ hne
  next hsome =>
    rcases h.around with hdir | ⟨hnone, -⟩
    · exact hdir
    · exact absurd hnone hsome

theorem Takes.directory_putFile (h : t.Takes r) {s : Route} (hs : t.node? s = some .directory) :
    (t.putFile r bytes).node? s = some .directory := by
  have hne : s ≠ r := by
    rintro rfl
    exact h.no_directory hs
  by_cases hd : s = r.dropLast
  · rw [hd]
    exact h.node?_putFile_dropLast bytes
  · rwa [node?_putFile_of_ne bytes hne hd]

theorem Takes.file_putFile (h : t.Takes r) {s : Route} {bs : List UInt8} (hs : s ≠ r) :
    (t.putFile r bytes).node? s = some (.file bs) ↔ t.node? s = some (.file bs) := by
  by_cases hd : s = r.dropLast
  · rw [hd, h.node?_putFile_dropLast bytes]
    rcases h.around with hdir | ⟨hnone, -⟩
    · rw [hdir]
    · rw [hnone]
      simp
  · rw [node?_putFile_of_ne bytes hs hd]

theorem IsTree.putFile (ht : t.IsTree) (h : t.Takes r) : (t.putFile r bytes).IsTree := by
  rw [FileTree.putFile]
  split
  next hnone =>
    have hne : r.dropLast ≠ [] := by
      intro hnil
      rw [hnil] at hnone
      cases hnone
    have hparent : t.node? r.dropLast.dropLast = some .directory := by
      rcases h.around with hdir | ⟨-, hdir⟩
      · rw [hdir] at hnone
        cases hnone
      · exact hdir
    have hset := ht.set hne (fun m hm => h.names m (List.dropLast_subset r hm)) hparent
      (.inl rfl)
    refine hset.set h.ne_nil h.names (node?_set_self t _ hne) (.inr ?_)
    rw [node?_set_of_ne _ _ h.dropLast_ne.symm]
    exact h.no_directory
  next hsome =>
    refine ht.set h.ne_nil h.names ?_ (.inr h.no_directory)
    rcases h.around with hdir | ⟨hnone, -⟩
    · exact hdir
    · exact absurd hnone hsome

/-- What takes a file once takes it again. -/
theorem Takes.takes_putFile (h : t.Takes r) : (t.putFile r bytes).Takes r where
  ne_nil := h.ne_nil
  names := h.names
  no_directory := by
    rw [node?_putFile_self bytes h.ne_nil]
    simp
  around := .inl (h.node?_putFile_dropLast bytes)

/-! ## What paths see -/

/-- A file that is set where no directory stands is in nobody's way. -/
theorem Reaches.set_file {p : Path} (hp : t.Reaches p) (hr : t.node? r ≠ some .directory) :
    (t.set r (.file bytes)).Reaches p := by
  refine ⟨hp.1, hp.2.mono fun s hs => ?_⟩
  have hne : s ≠ r := by
    rintro rfl
    exact hr hs
  rwa [node?_set_of_ne t _ hne]

theorem Takes.reaches_putFile (h : t.Takes r) {p : Path} (hp : t.Reaches p) :
    (t.putFile r bytes).Reaches p :=
  ⟨hp.1, hp.2.mono fun _ hs => h.directory_putFile bytes hs⟩

theorem Takes.isDirectory_putFile (h : t.Takes r) {p : Path} (hp : t.isDirectory p = true) :
    (t.putFile r bytes).isDirectory p = true := by
  obtain ⟨hreach, hdir⟩ := isDirectory_iff.mp hp
  exact isDirectory_iff.mpr ⟨h.reaches_putFile bytes hreach, h.directory_putFile bytes hdir⟩

theorem Takes.read_putFile (h : t.Takes r) {p : Path} {bs : List UInt8} (hp : t.read p = .ok bs)
    (hne : p.place ≠ r) : (t.putFile r bytes).read p = .ok bs := by
  obtain ⟨hreach, hnode⟩ := read_eq_ok.mp hp
  exact read_eq_ok.mpr ⟨h.reaches_putFile bytes hreach, (h.file_putFile bytes hne).mpr hnode⟩

/-- In a directory that could be reached before, the same files are found under other names. -/
theorem Takes.isFile_putFile (h : t.Takes r) (ht : t.IsTree) {d q : Path} (hq : q.text.IsName)
    (hd : d.text = [] ∨ t.Reaches d) (hne : d.place ++ [q.text] ≠ r) :
    (t.putFile r bytes).isFile (d.join q) = t.isFile (d.join q) := by
  have hd' : d.text = [] ∨ (t.putFile r bytes).Reaches d := hd.imp id (h.reaches_putFile bytes)
  rw [Bool.eq_iff_iff, isFile_iff, isFile_iff, reaches_join_name hq, reaches_join_name hq,
    Path.place_join_name d hq]
  constructor
  · rintro ⟨⟨husable, -, -, hsize⟩, bs, hbs⟩
    have hnode := (h.file_putFile bytes hne).mp hbs
    have hdir := ht.parent hnode
    rw [List.dropLast_concat] at hdir
    exact ⟨⟨husable, hd, hdir, hsize⟩, bs, hnode⟩
  · rintro ⟨⟨husable, -, hdir, hsize⟩, bs, hnode⟩
    exact ⟨⟨husable, hd', h.directory_putFile bytes hdir, hsize⟩, bs,
      (h.file_putFile bytes hne).mpr hnode⟩

end RpcDispatch.FileTree
