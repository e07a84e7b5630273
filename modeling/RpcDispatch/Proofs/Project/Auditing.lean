import RpcDispatch.Proofs.Project.Listing
import RpcDispatch.Proofs.Project.Showing

/-!
# The audit of a project

The audit shows the files that were selected, and beside them the other sources below the root. The
first come from entries of any form, the second from the tree. As both are shown in one form, each
source stands on one side only.
-/

namespace RpcDispatch

open FileTree

/-- A file shown so has one of the source extensions, and no pattern of the audit matches it. -/
def ScanSettings.Lists (s : ScanSettings) (path : Text) : Prop :=
  (∃ e ∈ s.extensions, Path.hasExtension e ⟨path⟩ = true) ∧
    ∀ g ∈ s.auditIgnore, Glob.isMatch g path = false

theorem ScanSettings.takes_iff {s : ScanSettings} {path : Text} :
    Wanted.takes ⟨s.extensions, s.auditIgnore⟩ path = true ↔ s.Lists path := by
  simp [Wanted.takes, Lists]

/-! ## Listings -/

namespace FileTree

variable {t : FileTree} {root : Route} {w : Wanted}

theorem mem_listing_iff {d : Text} :
    d ∈ t.listing root w ↔ (∃ f ∈ t.kept root, shown f = d) ∧ w.takes d = true := by
  rw [listing, (Text.sort_perm _).mem_iff, List.mem_filter, List.mem_map, kept]

def IsSlashed (t : FileTree) : Prop := ∀ e ∈ t.nodes, ∀ n ∈ e.1, '\\' ∉ n

variable (ht : t.IsTree)

include ht

theorem IsTree.node_of_mem_kept {f : Route} (hf : f ∈ t.kept root) :
    f ≠ [] ∧ ∃ n, (root ++ f, n) ∈ t.nodes := by
  obtain ⟨⟨hne, bytes, hnode⟩, -⟩ := ht.mem_kept_iff.mp hf
  exact ⟨hne, _, mem_of_node? (by simp [hne]) hnode⟩

theorem IsTree.isName_of_mem_kept {f : Route} (hf : f ∈ t.kept root) : ∀ n ∈ f, n.IsName := by
  obtain ⟨-, node, hnode⟩ := ht.node_of_mem_kept hf
  exact fun n hn => ht.names _ hnode n (List.mem_append_right root hn)

variable (hslash : t.IsSlashed)

include hslash

theorem IsTree.notMem_of_mem_kept {f : Route} (hf : f ∈ t.kept root) : ∀ n ∈ f, '\\' ∉ n := by
  obtain ⟨-, node, hnode⟩ := ht.node_of_mem_kept hf
  exact fun n hn => hslash _ hnode n (List.mem_append_right root hn)

/-- Different files are shown differently, so each is listed once. -/
theorem IsTree.nodup_listing : (t.listing root w).Nodup := by
  have hinj : ∀ f ∈ t.kept root, ∀ g ∈ t.kept root, shown f = shown g → f = g := by
    intro f hf g hg h
    rw [← split_shown (ht.node_of_mem_kept hf).1 (ht.isName_of_mem_kept hf)
      (ht.notMem_of_mem_kept hslash hf), h, split_shown (ht.node_of_mem_kept hg).1
      (ht.isName_of_mem_kept hg) (ht.notMem_of_mem_kept hslash hg)]
  have hkept : (t.kept root).Nodup := (ht.nodup_filesBelow root).filter _
  have hshown : ((t.kept root).map shown).Nodup := hkept.map_on hinj
  rw [listing, (Text.sort_perm _).nodup_iff]
  exact hshown.filter _

end FileTree

/-! ## The audit -/

/-- The audit shows each source of a project on one side: what was selected, in its order, and all
other sources that are listed below the root. -/
structure Audit.Partitions (a : Audit) (s : ScanSettings) (t : FileTree) (root : Path)
    (files : List SourceFile) : Prop where
  included : a.included = files.map (·.display)
  increasing : a.excluded.Pairwise fun d e => Text.le d e = true ∧ d ≠ e
  below : ∀ d ∈ a.excluded, ∃ f ∈ t.kept root.place, shown f = d
  mem_excluded_iff : ∀ f ∈ t.kept root.place, shown f ∈ a.excluded ↔
    s.Lists (shown f) ∧ ∀ x ∈ files, x.path.components ≠ (root.join ⟨shown f⟩).components
  disjoint : ∀ d ∈ a.included, d ∉ a.excluded
  covers : ∀ f ∈ t.kept root.place, s.Lists (shown f) →
    shown f ∈ a.included ∨ shown f ∈ a.excluded

namespace ScanSettings

variable {s : ScanSettings} {t : FileTree} {root base : Path} {entries : List Text}
  {files : List SourceFile}

theorem of_mem_select (h : s.select root base entries = .ok files) {x : SourceFile}
    (hx : x ∈ files) : ∃ entry ∈ entries, x = SourceFile.ofEntry root base entry := by
  rw [select] at h
  split at h
  next => cases h
  next =>
    obtain rfl := Except.ok.inj h
    obtain ⟨entry, hentry, rfl⟩ := List.mem_map.mp (List.mem_filter.mp hx).1
    exact ⟨entry, hentry, rfl⟩

/-- A root that is there can be listed, so the audit does not fail. -/
theorem audit_eq_ok (hpresent : t.isPresent root = true) :
    s.audit t root files = .ok ⟨root, files, files.map (·.display),
      (t.listing root.place ⟨s.extensions, s.auditIgnore⟩).filter
        fun d => !(files.map (·.display)).contains d⟩ := by
  obtain ⟨hreach, hnode⟩ := isPresent_iff.mp hpresent
  rw [audit, walk_eq_ok.mpr ⟨hreach, hnode, rfl⟩]
  rfl

section

variable (ht : t.IsTree) (hslash : t.IsSlashed) (hroot : root.isAbsolute = true)
  (hup : .parent ∉ root.components) (hbase : base.isAbsolute = true)
  (hbaseSlash : '\\' ∉ base.text) (hselect : s.select root base entries = .ok files)

include ht hslash hroot hup hbase hbaseSlash hselect

/-- A file is shown among the sources exactly if one has its path, component by component. -/
theorem shown_mem_displays_iff {f : Route} (hf : f ∈ t.kept root.place) :
    shown f ∈ files.map (·.display) ↔
      ∃ x ∈ files, x.path.components = (root.join ⟨shown f⟩).components := by
  have hiff : ∀ x ∈ files,
      x.display = shown f ↔ x.path.components = (root.join ⟨shown f⟩).components := by
    intro x hx
    obtain ⟨entry, -, rfl⟩ := of_mem_select hselect hx
    exact SourceFile.display_eq_shown_iff hroot hup hbase hbaseSlash entry
      (ht.node_of_mem_kept hf).1 (ht.isName_of_mem_kept hf) (ht.notMem_of_mem_kept hslash hf)
  rw [List.mem_map]
  exact exists_congr fun x => and_congr_right (hiff x)

/-- Let a project lie below an absolute root without `..`, and let entries be selected from an
absolute base. Then every file below the root that the walk comes to is shown on one side of the
audit: among the others exactly if it is to be listed and no selected file has its path. -/
theorem audit_partitions (hpresent : t.isPresent root = true) :
    ∃ a : Audit, s.audit t root files = .ok ⟨root, files, a⟩ ∧ a.Partitions s t root files := by
  have hmem {d : Text} : d ∈ (t.listing root.place ⟨s.extensions, s.auditIgnore⟩).filter
        (fun d => !(files.map (·.display)).contains d) ↔
      ((∃ f ∈ t.kept root.place, shown f = d) ∧ s.Lists d) ∧ d ∉ files.map (·.display) := by
    rw [List.mem_filter, mem_listing_iff, takes_iff, Bool.not_eq_true', ← Bool.not_eq_true,
      List.contains_iff_mem]
  refine ⟨_, audit_eq_ok hpresent, ?_⟩
  constructor
  case included => rfl
  case increasing =>
    have hsorted : (t.listing root.place ⟨s.extensions, s.auditIgnore⟩).Pairwise
        fun d e => Text.le d e = true ∧ d ≠ e :=
      (Text.pairwise_sort _).and (ht.nodup_listing hslash)
    exact hsorted.filter _
  case below => exact fun d hd => (hmem.mp hd).1.1
  case mem_excluded_iff =>
    intro f hf
    rw [hmem, shown_mem_displays_iff ht hslash hroot hup hbase hbaseSlash hselect hf]
    simp only [not_exists, not_and]
    exact ⟨fun h => ⟨h.1.2, h.2⟩, fun h => ⟨⟨⟨f, hf, rfl⟩, h.1⟩, h.2⟩⟩
  case disjoint => exact fun d hd hex => (hmem.mp hex).2 hd
  case covers =>
    intro f hf hlists
    by_cases hd : shown f ∈ files.map (·.display)
    · exact .inl hd
    · exact .inr (hmem.mpr ⟨⟨⟨f, hf, rfl⟩, hlists⟩, hd⟩)

end

def twoSources : FileTree where
  nodes := [(["p"], .directory), (["p", "a.axs"], .file []), (["p", "b.AXI"], .file [])]

/-- One source is selected by an entry with backslashes, the other is left for the audit. -/
theorem audit_partitions_twoSources :
    let selected : List SourceFile := [⟨⟨"/p/a.axs"⟩, "a.axs"⟩]
    select {} ⟨"/p/"⟩ ⟨"/q/r"⟩ ["..\\..\\p\\.\\a.axs"] = .ok selected ∧
      ∃ a : Audit, audit {} twoSources ⟨"/p/"⟩ selected = .ok ⟨⟨"/p/"⟩, selected, a⟩ ∧
        a.Partitions {} twoSources ⟨"/p/"⟩ selected := by
  intro selected
  have hselect : select {} ⟨"/p/"⟩ ⟨"/q/r"⟩ ["..\\..\\p\\.\\a.axs"] = .ok selected := by
    decide +kernel
  exact ⟨hselect, audit_partitions (by decide) (by unfold IsSlashed; decide) (by decide) (by decide)
    (by decide) (by decide) hselect (by decide)⟩

end ScanSettings

end RpcDispatch
