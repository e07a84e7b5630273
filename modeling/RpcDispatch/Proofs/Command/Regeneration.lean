import RpcDispatch.Proofs.Command.Locating
import RpcDispatch.Proofs.Command.Making
import RpcDispatch.Proofs.Project.Storing
import RpcDispatch.Proofs.Workspace.Drafts

/-!
# Generating again

A run that has succeeded leaves a tree in which the same run succeeds. What it reads is the same;
only the listing for the audit may have grown by the dispatcher itself, once.
-/

namespace RpcDispatch

/-! ## How long a dispatcher is -/

namespace Located

/-! ## Where the dispatcher is written -/

def output (l : Located) : Path := l.root.join ({} : OutputSettings).path

def outputPlace (l : Located) : Route := l.root.place ++ [generatedDirectory, generatedFile]

def contents (l : Located) (t : FileTree) (s : Session) : Text :=
  (s.render {} (l.audit t)).contents

theorem output_eq (l : Located) :
    l.output = l.root.join ⟨generatedDirectory ++ '/' :: generatedFile⟩ := by
  rw [output, outputPath_eq]

theorem outputPlace_eq (l : Located) :
    l.outputPlace = (l.root.place ++ [generatedDirectory]) ++ [generatedFile] := by
  rw [outputPlace, List.append_assoc]
  rfl

/-- By default the dispatcher is made when the sources can be read and its text can be stored. -/
theorem makes_iff {l : Located} {a : SourceArguments} {t t' : FileTree} {cwd : Path}
    (hl : a.locate t cwd = .ok l) (hsettings : t.loadSettings l.root = .ok {}) :
    Product.dispatcher.Makes t cwd a none t' ↔ t.isPresent l.root = true ∧
      ∃ s, Session.readAll t {} l.files = ⟨s, none⟩ ∧
        t.writeText l.output (l.contents t s) = (.ok (), t') := by
  have hresolve (r : Resolved) : a.resolve t cwd = .ok r ↔
      t.isPresent l.root = true ∧ r = ⟨{}, ⟨l.root, l.files, l.audit t⟩⟩ := by
    rw [SourceArguments.resolve, hl, ok_bind, mapError_eq_ok, resolve_eq_ok hsettings,
      FileTree.isPresent_iff, and_assoc]
  rw [Product.Makes]
  constructor
  · rintro ⟨r, s, hr, hread, hwrite⟩
    obtain ⟨hpresent, rfl⟩ := (hresolve r).mp hr
    exact ⟨hpresent, s, hread, hwrite⟩
  · rintro ⟨hpresent, s, hread, hwrite⟩
    exact ⟨_, s, (hresolve _).mpr ⟨hpresent, rfl⟩, hread, hwrite⟩

end Located

/-! ## What the next run needs -/

/-- A run with these arguments finds the project, reads its sources and can put the dispatcher
where it belongs. -/
structure Ready (cwd : Path) (a : SourceArguments) (l : Located) (s : Session)
    (t : FileTree) : Prop where
  tree : t.IsTree
  directory : t.isDirectory cwd = true
  located : a.locate t cwd = .ok l
  settings : t.loadSettings l.root = .ok {}
  root : t.isDirectory l.root = true
  scanned : Session.readAll t {} l.files = ⟨s, none⟩
  takes : t.Takes l.outputPlace

namespace Ready

variable {cwd : Path} {a : SourceArguments} {l : Located} {s : Session} {t : FileTree}

/-- The dispatcher, whatever is in it, does not get in the way of the next run. -/
theorem putFile (h : Ready cwd a l s t) (hspare : a.Spares cwd l.outputPlace)
    (bytes : List UInt8) : Ready cwd a l s (t.putFile l.outputPlace bytes) := by
  have hcwd := (FileTree.isDirectory_iff.mp h.directory).1
  have hroot := (FileTree.isDirectory_iff.mp h.root).1
  have htakes := h.takes
  rw [l.outputPlace_eq] at htakes hspare
  have hext : Path.hasExtension FileTree.workspaceExtension ⟨generatedFile⟩ = false := by decide
  have hname : generatedFile ≠ Settings.fileName := by decide
  refine ⟨h.tree.putFile bytes h.takes, h.takes.isDirectory_putFile bytes h.directory, ?_, ?_,
    h.takes.isDirectory_putFile bytes h.root, ?_, h.takes.takes_putFile bytes⟩
  · rw [l.outputPlace_eq]
    exact SourceArguments.locate_putFile bytes h.tree htakes hext hcwd hroot hspare h.located
  · rw [l.outputPlace_eq]
    exact htakes.loadSettings_putFile bytes h.tree hroot hname h.settings
  · apply Session.readAll_putFile bytes h.takes _ h.scanned
    intro f hf
    exact ScanSettings.place_ne_of_mem_select l.select_files hf

/-- All that can fail then is the way to the dispatcher. -/
theorem makes (h : Ready cwd a l s t) (hreach : t.Reaches l.output) :
    Product.dispatcher.Makes t cwd a none
      (t.putFile l.outputPlace (Latin.encode (l.contents t s))) := by
  obtain ⟨hroot, hdir⟩ := FileTree.isDirectory_iff.mp h.root
  rw [Located.makes_iff h.located h.settings]
  refine ⟨FileTree.isPresent_iff.mpr ⟨hroot, _, hdir⟩, s, h.scanned, ?_⟩
  rw [l.output_eq] at hreach ⊢
  exact FileTree.writeText_of_reaches _ hroot.1.2.1 isName_generatedDirectory
    isName_generatedFile hreach h.takes.no_directory

/-! ## What the next run writes -/

end Ready

/-! ## Run after run -/

namespace Command

def outcome (c : Command) (t : FileTree) (cwd : Path) : Report × FileTree :=
  ((run t cwd c).run .empty).1

def Succeeds (c : Command) (t : FileTree) (cwd : Path) : Prop :=
  (c.outcome t cwd).1.failure = none

instance (c : Command) (t : FileTree) (cwd : Path) : Decidable (c.Succeeds t cwd) :=
  inferInstanceAs (Decidable (_ = none))

def treeAfter (c : Command) (t : FileTree) (cwd : Path) : Nat → FileTree
  | 0 => t
  | n + 1 => (c.outcome (c.treeAfter t cwd n) cwd).2

variable {cwd : Path} {a : SourceArguments} {l : Located} {s : Session} {t : FileTree}

theorem generate_of_makes {t' : FileTree} (h : Product.dispatcher.Makes t cwd a none t') :
    (generate a none).Succeeds t cwd ∧ ((generate a none).outcome t cwd).2 = t' :=
  h.run .empty

theorem makes_of_generate (h : (generate a none).Succeeds t cwd) :
    Product.dispatcher.Makes t cwd a none ((generate a none).outcome t cwd).2 :=
  Product.makes_of_run .empty h

/-- Run again and again, a command succeeds and writes to `output`. The second run leaves the file
as it is exactly if `same` holds, and all later runs do. -/
structure Settles (c : Command) (t : FileTree) (cwd output : Path) (same : Prop) : Prop where
  succeeds : ∀ n, c.Succeeds (c.treeAfter t cwd n) cwd
  isFile : ∀ n, (c.treeAfter t cwd (n + 1)).isFile output = true
  second : (c.treeAfter t cwd 2).read output = (c.treeAfter t cwd 1).read output ↔ same
  later : ∀ n, (c.treeAfter t cwd (n + 2)).read output = (c.treeAfter t cwd 2).read output

def oneSource : FileTree :=
  ⟨[(["w"], .directory),
    (["w", "main.axs"], .file (Latin.encode "define_function f() \x7b\x7d"))]⟩

def oneSourceArguments : SourceArguments where
  files := [⟨"main.axs"⟩]

def oneSourceLocated : Located := ⟨⟨"/w"⟩, ⟨"/w"⟩, ["main.axs".toList]⟩

/-- If the workspace argument names the output, a second run reads the dispatcher as a workspace. -/
theorem parse_contents_of_succeeds {q : Path} (hready : Ready cwd a l s t)
    (hreach : t.Reaches l.output) (hfiles : a.files = []) (hworkspace : a.workspace = some q)
    (hplace : (cwd.join q).place = l.outputPlace)
    (hsecond : (generate a none).Succeeds ((generate a none).treeAfter t cwd 1) cwd) :
    ∃ w, Workspace.parse (cwd.join q) (Latin.decode (Latin.encode (l.contents t s))) = .ok w := by
  rw [treeAfter, treeAfter, (generate_of_makes (hready.makes hreach)).2] at hsecond
  obtain ⟨resolved, s', hresolve, -⟩ := makes_of_generate hsecond
  obtain ⟨l', hl, -⟩ := bind_eq_ok.mp hresolve
  rw [SourceArguments.locate, if_pos hfiles] at hl
  obtain ⟨path, w, hpath, hw, -⟩ := SourceArguments.locateWorkspace_eq_ok.mp hl
  rw [SourceArguments.workspacePath, hworkspace] at hpath
  obtain rfl := Except.ok.inj hpath
  refine ⟨w, ?_⟩
  rw [FileTree.loadWorkspace] at hw
  split at hw
  next bytes hread =>
    obtain ⟨-, hfile⟩ := FileTree.read_eq_ok.mp hread
    rw [hplace, FileTree.node?_putFile_self _ hready.takes.ne_nil] at hfile
    obtain rfl := Node.file.inj (Option.some.inj hfile)
    exact hw
  next => cases hw
  next => cases hw

/-- A workspace whose system lists no file. -/
def emptyWorkspace : Workspace.Draft :=
  { Workspace.Draft.closing with system := Workspace.Draft.closing.project }

/-- The workspace lies where the dispatcher is written by default. -/
def overwritten : FileTree :=
  ⟨[(["w"], .directory), (["w", "include"], .directory),
    (["w", "include", "rpc-functions.axi"], .file (Latin.encode emptyWorkspace.text))]⟩

def overwritingArguments : SourceArguments where
  workspace := some ⟨"include/rpc-functions.axi"⟩
  root := some ⟨"."⟩

def overwritingLocated : Located := ⟨⟨"/w/."⟩, ⟨"/w/include"⟩, []⟩

theorem locate_overwriting :
    overwritingArguments.locate overwritten ⟨"/w"⟩ = .ok overwritingLocated := by
  have hload : overwritten.loadWorkspace ⟨"/w/include/rpc-functions.axi"⟩ =
      .ok ⟨⟨"/w/include/rpc-functions.axi"⟩, []⟩ := by
    have hread : overwritten.read ⟨"/w/include/rpc-functions.axi"⟩ =
        .ok (Latin.encode emptyWorkspace.text) := by decide
    have htext : Latin.decode (Latin.encode emptyWorkspace.text) = emptyWorkspace.text := by decide
    rw [FileTree.loadWorkspace, hread]
    dsimp only
    rw [htext]
    exact emptyWorkspace.parse_text_of_not_suffix _ (by decide)
  have hfiles : overwritingArguments.files = [] := rfl
  rw [SourceArguments.locate, if_pos hfiles, SourceArguments.locateWorkspace_eq_ok]
  exact ⟨_, _, rfl, hload, by decide⟩

/-- The first run finds all it needs, though the workspace is the file that it writes. -/
theorem ready_overwriting :
    Ready ⟨"/w"⟩ overwritingArguments overwritingLocated {} overwritten where
  tree := by decide
  directory := by decide
  located := locate_overwriting
  settings := by decide
  root := by decide
  scanned := rfl
  takes := ⟨by decide, by decide, by decide, .inl (by decide)⟩

/-- A workspace argument that names the output: the first run succeeds and puts the dispatcher
there, the second finds no project in it. -/
theorem overwriting_not_settles :
    overwritten.IsTree ∧ overwritten.isDirectory ⟨"/w"⟩ = true ∧
      overwritingArguments.locate overwritten ⟨"/w"⟩ = .ok overwritingLocated ∧
      overwritten.loadSettings overwritingLocated.root = .ok {} ∧
      ¬overwritingArguments.Spares ⟨"/w"⟩ overwritingLocated.output.place ∧
      (generate overwritingArguments none).Succeeds overwritten ⟨"/w"⟩ ∧
      ∀ same, ¬(generate overwritingArguments none).Settles overwritten ⟨"/w"⟩
        overwritingLocated.output same := by
  have hready := ready_overwriting
  have hpresent : overwritten.isPresent overwritingLocated.output = true := by decide
  have hreach := (FileTree.isPresent_iff.mp hpresent).1
  refine ⟨hready.tree, hready.directory, hready.located, hready.settings, fun hspare => ?_,
    (generate_of_makes (hready.makes hreach)).1, fun same hsettles => ?_⟩
  · exact absurd (by decide) (hspare rfl _ rfl)
  · obtain ⟨w, hw⟩ := parse_contents_of_succeeds hready hreach rfl rfl (by decide)
      (hsettles.succeeds 1)
    have herror : (Workspace.parse ⟨"/w/include/rpc-functions.axi"⟩
        (Latin.decode (Latin.encode (overwritingLocated.contents overwritten {})))).isOk =
          false := by decide +kernel
    have hok := congrArg Except.isOk hw
    exact Bool.noConfusion (hok.symm.trans herror)

end Command

end RpcDispatch
