import RpcDispatch.Command.Sources
import RpcDispatch.Proofs.Project.Excluding
import RpcDispatch.Proofs.Project.Finding
import RpcDispatch.Proofs.Project.Listing

/-!
# Locating a project again

The project that a command works on, its settings and its sources are the same beside a file that
has been put somewhere, if that is neither the workspace nor the settings file.
-/

namespace RpcDispatch

namespace SourceArguments

variable {a : SourceArguments} {t : FileTree} {cwd : Path} {l : Located}

theorem locateWorkspace_eq_ok : a.locateWorkspace t cwd = .ok l ↔
    ∃ path w, a.workspacePath t cwd = .ok path ∧ t.loadWorkspace path = .ok w ∧
      l = ⟨(a.givenRoot cwd).getD w.directory, w.directory, w.entries⟩ := by
  rw [locateWorkspace, bind_eq_ok]
  constructor
  · rintro ⟨path, hpath, h⟩
    obtain ⟨w, hw, hl⟩ := bind_eq_ok.mp h
    exact ⟨path, w, mapError_eq_ok.mp hpath, mapError_eq_ok.mp hw, (Except.ok.inj hl).symm⟩
  · rintro ⟨path, w, hpath, hw, rfl⟩
    exact ⟨path, mapError_eq_ok.mpr hpath, bind_eq_ok.mpr ⟨w, mapError_eq_ok.mpr hw, rfl⟩⟩

/-- The search for a workspace starts at a place that can be reached. -/
theorem reaches_start (hcwd : t.Reaches cwd) (hroot : t.Reaches l.root)
    (hl : a.locateWorkspace t cwd = .ok l) : t.Reaches ((a.givenRoot cwd).getD cwd) := by
  obtain ⟨path, w, -, -, rfl⟩ := locateWorkspace_eq_ok.mp hl
  cases hgiven : a.givenRoot cwd with
  | none => exact hcwd
  | some root =>
      rw [hgiven] at hroot
      exact hroot

/-- The arguments do not name a place as their workspace. -/
def Spares (a : SourceArguments) (cwd : Path) (place : Route) : Prop :=
  a.files = [] → ∀ w ∈ a.workspace, (cwd.join w).place ≠ place

/-- The file may not have the name of a workspace, since the search would find it, nor be the one
that the arguments name. -/
theorem locateWorkspace_putFile {r : Route} {file : Text} (bytes : List UInt8) (ht : t.IsTree)
    (h : t.Takes (r ++ [file]))
    (hext : Path.hasExtension FileTree.workspaceExtension ⟨file⟩ = false) (hcwd : t.Reaches cwd)
    (hroot : t.Reaches l.root) (hspare : ∀ w ∈ a.workspace, (cwd.join w).place ≠ r ++ [file])
    (hl : a.locateWorkspace t cwd = .ok l) :
    a.locateWorkspace (t.putFile (r ++ [file]) bytes) cwd = .ok l := by
  have hstart := reaches_start hcwd hroot hl
  obtain ⟨path, w, hpath, hw, rfl⟩ := locateWorkspace_eq_ok.mp hl
  rw [locateWorkspace_eq_ok]
  rw [workspacePath] at hpath
  cases hgiven : a.workspace with
  | some q =>
      rw [hgiven] at hpath
      obtain rfl := Except.ok.inj hpath
      refine ⟨cwd.join q, w, ?_, ?_, rfl⟩
      · rw [workspacePath, hgiven]
      · exact h.loadWorkspace_putFile bytes (hspare q hgiven) hw
  | none =>
      rw [hgiven] at hpath
      refine ⟨path, w, ?_, ?_, rfl⟩
      · rw [workspacePath, hgiven]
        exact (h.findWorkspace_putFile bytes ht hstart hext).trans hpath
      · have hne : path.place ≠ r ++ [file] := by
          obtain ⟨d, n, hn, rfl, hworkspace⟩ := ht.of_findWorkspace hpath
          rw [Path.place_join_name (q := ⟨n⟩) d hn]
          intro heq
          have hname : n = file := Route.name_eq heq
          rw [hname, hext] at hworkspace
          cases hworkspace
        exact h.loadWorkspace_putFile bytes hne hw

/-- Where the sources are named one by one no workspace is looked for, and `Spares` asks for
nothing. -/
theorem locate_putFile {r : Route} {file : Text} (bytes : List UInt8) (ht : t.IsTree)
    (h : t.Takes (r ++ [file]))
    (hext : Path.hasExtension FileTree.workspaceExtension ⟨file⟩ = false) (hcwd : t.Reaches cwd)
    (hroot : t.Reaches l.root) (hspare : a.Spares cwd (r ++ [file]))
    (hl : a.locate t cwd = .ok l) : a.locate (t.putFile (r ++ [file]) bytes) cwd = .ok l := by
  rw [locate] at hl ⊢
  split at hl
  next hfiles =>
    rw [if_pos hfiles]
    exact locateWorkspace_putFile bytes ht h hext hcwd hroot (hspare hfiles) hl
  next hfiles =>
    rw [if_neg hfiles]
    exact hl

end SourceArguments

/-! ## Sources by the default settings -/

namespace Located

def files (l : Located) : List SourceFile :=
  ({} : ScanSettings).selectBy Regex.generatedPath l.root l.base l.entries

def audit (l : Located) (t : FileTree) : Audit :=
  let included := l.files.map (·.display)
  ⟨included, (t.listing l.root.place {}).filter fun p => !included.contains p⟩

theorem select_files (l : Located) :
    ({} : ScanSettings).select l.root l.base l.entries = .ok l.files :=
  ScanSettings.select_eq_ok.mpr rfl

/-- By the default settings every source can be selected, so only a missing root is a failure. -/
theorem resolve_eq_ok {l : Located} {t : FileTree} {r : Resolved}
    (hsettings : t.loadSettings l.root = .ok {}) : l.resolve t = .ok r ↔
      t.Reaches l.root ∧ (∃ n, t.node? l.root.place = some n) ∧
        r = ⟨{}, ⟨l.root, l.files, l.audit t⟩⟩ := by
  rw [resolve, hsettings, ok_bind, ScanSettings.sources, l.select_files, ok_bind,
    ScanSettings.audit, bind_eq_ok]
  constructor
  · rintro ⟨sources, hsources, h⟩
    obtain ⟨listed, hwalk, hlisted⟩ := bind_eq_ok.mp hsources
    obtain ⟨hreach, hnode, rfl⟩ := FileTree.walk_eq_ok.mp hwalk
    obtain rfl := Except.ok.inj hlisted
    exact ⟨hreach, hnode, (Except.ok.inj h).symm⟩
  · rintro ⟨hreach, hnode, rfl⟩
    have hwalk : t.walk l.root {} = .ok (t.listing l.root.place {}) :=
      FileTree.walk_eq_ok.mpr ⟨hreach, hnode, rfl⟩
    exact ⟨_, bind_eq_ok.mpr ⟨_, hwalk, rfl⟩, rfl⟩

end Located

end RpcDispatch
