import RpcDispatch.Project.Walk
import RpcDispatch.Proofs.Project.Sorting
import RpcDispatch.Proofs.Project.Trees

/-!
# Listing beside a file that is put somewhere

A file that replaces another leaves the listing as it is, and so does one that the repository
excludes. Any other file is one entry more.
-/

namespace RpcDispatch.FileTree

/-! ## The files below a directory -/

theorem mem_files_iff {t : FileTree} {r : Route} :
    r ∈ t.files.map (·.1) ↔ ∃ bytes, (r, Node.file bytes) ∈ t.nodes := by
  rw [files, List.mem_map]
  constructor
  · rintro ⟨e, he, rfl⟩
    obtain ⟨⟨s, n⟩, hmem, hfile⟩ := List.mem_filterMap.mp he
    cases n with
    | directory => cases hfile
    | file bytes =>
        obtain rfl := Option.some.inj hfile
        exact ⟨bytes, hmem⟩
  · rintro ⟨bytes, hmem⟩
    exact ⟨(r, bytes), List.mem_filterMap.mpr ⟨_, hmem, rfl⟩, rfl⟩

theorem IsTree.nodup_files {t : FileTree} (ht : t.IsTree) : (t.files.map (·.1)).Nodup := by
  have hsub : (t.files.map (·.1)).Sublist (t.nodes.map (·.1)) := by
    rw [files]
    generalize t.nodes = nodes
    induction nodes with
    | nil => exact List.Sublist.refl _
    | cons e nodes ih =>
        obtain ⟨s, n⟩ := e
        cases n with
        | directory => exact ih.cons s
        | file bytes => exact ih.cons_cons s
  exact hsub.nodup ht.nodup

theorem IsTree.mem_filesBelow_iff {t : FileTree} (ht : t.IsTree) {root below : Route} :
    below ∈ t.filesBelow root ↔
      below ≠ [] ∧ ∃ bytes, t.node? (root ++ below) = some (.file bytes) := by
  rw [filesBelow, List.mem_filterMap]
  constructor
  · rintro ⟨r, hr, hbelow⟩
    split at hbelow
    next h =>
      obtain rfl := Option.some.inj hbelow
      rw [Bool.and_eq_true, List.isPrefixOf_iff_prefix, bne_iff_ne] at h
      obtain ⟨⟨s, rfl⟩, hne⟩ := h
      rw [List.drop_left]
      obtain ⟨bytes, hmem⟩ := mem_files_iff.mp hr
      have hs : s ≠ [] := by
        rintro rfl
        exact hne (List.append_nil root)
      exact ⟨hs, bytes, ht.node?_of_mem (by simp [hs]) hmem⟩
    next => cases hbelow
  · rintro ⟨hne, bytes, hnode⟩
    have hmem := mem_of_node? (by simp [hne]) hnode
    refine ⟨root ++ below, mem_files_iff.mpr ⟨bytes, hmem⟩, ?_⟩
    rw [List.drop_left, if_pos]
    rw [Bool.and_eq_true, List.isPrefixOf_iff_prefix, bne_iff_ne]
    refine ⟨List.prefix_append root below, fun h => hne ?_⟩
    simpa using h

theorem IsTree.nodup_filesBelow {t : FileTree} (ht : t.IsTree) (root : Route) :
    (t.filesBelow root).Nodup := by
  rw [filesBelow]
  refine ht.nodup_files.filterMap ?_
  intro r s below hr hs
  rw [Option.mem_def] at hr hs
  split at hr
  next h =>
    split at hs
    next h' =>
      rw [Bool.and_eq_true, List.isPrefixOf_iff_prefix] at h h'
      obtain ⟨⟨x, rfl⟩, -⟩ := h
      obtain ⟨⟨y, rfl⟩, -⟩ := h'
      rw [List.drop_left] at hr hs
      rw [Option.some.inj hr, Option.some.inj hs]
    next => cases hs
  next => cases hr

/-! ## The listing of a directory -/

def listing (t : FileTree) (root : Route) (w : Wanted) : List Text :=
  Text.sort ((((t.filesBelow root).filter fun below => !t.isLeftOut root below).map shown).filter
    w.takes)

theorem walk_eq_ok {t : FileTree} {p : Path} {w : Wanted} {listed : List Text} :
    t.walk p w = .ok listed ↔
      t.Reaches p ∧ (∃ n, t.node? p.place = some n) ∧ listed = t.listing p.place w := by
  constructor
  · intro h
    cases hlook : t.lookup p with
    | error f =>
        rw [walk, hlook] at h
        cases h
    | ok n =>
        obtain ⟨hreach, hnode⟩ := lookup_eq_ok.mp hlook
        rw [walk, hlook, route_eq_ok.mpr ⟨hreach, rfl⟩] at h
        exact ⟨hreach, ⟨n, hnode⟩, (Except.ok.inj h).symm⟩
  · rintro ⟨hreach, ⟨n, hnode⟩, rfl⟩
    rw [walk, lookup_eq_ok.mpr ⟨hreach, hnode⟩, route_eq_ok.mpr ⟨hreach, rfl⟩]
    rfl

/-! ## Putting a file -/

section

variable {t : FileTree} {root : Route} {directory file : Text} (bytes : List UInt8)
  (h : t.Takes (root ++ [directory, file]))

/-- The names are not those by which a repository says what it excludes. -/
structure Apart (directory file : Text) : Prop where
  directory_mark : (".git" : Text) ≠ directory
  file_mark : (".git" : Text) ≠ file
  directory_exclude : ("exclude" : Text) ≠ directory
  file_exclude : ("exclude" : Text) ≠ file

def kept (t : FileTree) (root : Route) : List Route :=
  (t.filesBelow root).filter fun below => !t.isLeftOut root below

theorem IsTree.mem_kept_iff {t : FileTree} (ht : t.IsTree) {root below : Route} :
    below ∈ t.kept root ↔ (below ≠ [] ∧ ∃ bytes, t.node? (root ++ below) = some (.file bytes)) ∧
      t.isLeftOut root below = false := by
  rw [kept, List.mem_filter, ht.mem_filesBelow_iff, Bool.not_eq_true']

/-- A listing is sorted, so the order of the nodes does not show. -/
theorem listing_congr {t t' : FileTree} {root : Route} (w : Wanted)
    (hperm : (t'.kept root).Perm (t.kept root)) : t'.listing root w = t.listing root w :=
  Text.sort_congr ((hperm.map shown).filter w.takes)

variable (ht : t.IsTree) (happart : Apart directory file)

include ht h happart

end

end RpcDispatch.FileTree
