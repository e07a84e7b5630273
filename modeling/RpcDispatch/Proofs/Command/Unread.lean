import RpcDispatch.Proofs.Command.Regeneration
import RpcDispatch.Proofs.Project.SamePaths

/-!
# What is not read does not matter

A command reads the workspace, the settings in effect and the sources it selects, and of everything
else only whether it is there. So two trees with the same paths in which these files have the same
bytes are treated alike: the reports are the same, and the same text is stored at the same path.
-/

namespace RpcDispatch

open FileTree

/-! ## Agreeing trees -/

/-- Trees that a command with these arguments cannot tell apart. -/
structure SourceArguments.Agree (a : SourceArguments) (cwd : Path) (t t' : FileTree) : Prop where
  tree : t.IsTree
  tree' : t'.IsTree
  paths : SamePaths t t'
  listings : ∀ root w, t'.walk root w = t.walk root w
  reads : ∀ p ∈ a.reads t cwd, t'.read p = t.read p

namespace SourceArguments

variable {a : SourceArguments} {cwd : Path} {t t' : FileTree} {l : Located}

/-! ## The files that are read -/

/-- What is read is the workspace, the settings in effect, or a source that they select. -/
theorem mem_reads_iff {p : Path} : p ∈ a.reads t cwd ↔
    (a.files = [] ∧ a.workspacePath t cwd = .ok p) ∨ ∃ l, a.locate t cwd = .ok l ∧
      (t.findSettings l.root = some p ∨ ∃ s files, t.loadSettings l.root = .ok s ∧
        s.scan.select l.root l.base l.entries = .ok files ∧ ∃ f ∈ files, f.path = p) := by
  have hworkspace : p ∈ (if a.files = [] then (a.workspacePath t cwd).toOption.toList else []) ↔
      a.files = [] ∧ a.workspacePath t cwd = .ok p := by
    split
    next hfiles =>
      cases a.workspacePath t cwd <;> simp [hfiles, Except.toOption, eq_comm]
    next hfiles => simp [hfiles]
  rw [reads, List.mem_append, hworkspace]
  apply or_congr Iff.rfl
  cases a.locate t cwd with
  | error f => simp
  | ok l =>
      rcases hs : t.loadSettings l.root with e | s
      · simp [hs]
      · rcases hfiles : s.scan.select l.root l.base l.entries with e | files
        · simp [hs, hfiles]
        · simp [hs, hfiles]

/-! ## What is found -/

namespace Agree

theorem workspacePath (h : a.Agree cwd t t') :
    a.workspacePath t' cwd = a.workspacePath t cwd := by
  rw [SourceArguments.workspacePath, SourceArguments.workspacePath]
  cases a.workspace with
  | some w => rfl
  | none => exact h.paths.findWorkspace h.tree h.tree' _

/-- The workspace that is found is among the files that are read. -/
theorem locate (h : a.Agree cwd t t') : a.locate t' cwd = a.locate t cwd := by
  rw [SourceArguments.locate, SourceArguments.locate]
  by_cases hfiles : a.files = []
  · rw [if_pos hfiles, if_pos hfiles, locateWorkspace, locateWorkspace, h.workspacePath]
    cases hpath : a.workspacePath t cwd with
    | error e => rfl
    | ok path =>
        have hread := h.reads path (mem_reads_iff.mpr (.inl ⟨hfiles, hpath⟩))
        have hload : t'.loadWorkspace path = t.loadWorkspace path := by
          rw [loadWorkspace, loadWorkspace, hread]
        change ((t'.loadWorkspace path).mapError _ >>= _) = (t.loadWorkspace path).mapError _ >>= _
        rw [hload]
  · rw [if_neg hfiles, if_neg hfiles]

theorem loadSettings (h : a.Agree cwd t t') (hl : a.locate t cwd = .ok l) :
    t'.loadSettings l.root = t.loadSettings l.root := by
  rw [FileTree.loadSettings, FileTree.loadSettings, h.paths.findSettings]
  cases hpath : t.findSettings l.root with
  | none => rfl
  | some path =>
      have hread := h.reads path (mem_reads_iff.mpr (.inr ⟨l, hl, .inl hpath⟩))
      simp only
      rw [readSettings, readSettings, hread]

/-- Beyond these files, resolving takes only a listing of the tree. -/
theorem resolve (h : a.Agree cwd t t') : a.resolve t' cwd = a.resolve t cwd := by
  rw [SourceArguments.resolve, SourceArguments.resolve, h.locate]
  cases hl : a.locate t cwd with
  | error f => rw [error_bind, error_bind]
  | ok l =>
      have hresolve : l.resolve t' = l.resolve t := by
        rw [Located.resolve, Located.resolve, h.loadSettings hl]
        simp only [ScanSettings.sources, ScanSettings.audit, h.listings]
      rw [ok_bind, ok_bind, hresolve]

end Agree

/-- The sources of a project are those that its settings select. -/
theorem exists_of_resolve {r : Resolved} (h : a.resolve t cwd = .ok r) :
    ∃ l, a.locate t cwd = .ok l ∧ t.loadSettings l.root = .ok r.settings ∧
      r.settings.scan.select l.root l.base l.entries = .ok r.sources.files := by
  obtain ⟨l, hl, hr⟩ := bind_eq_ok.mp h
  obtain ⟨s, hs, hr⟩ := bind_eq_ok.mp (mapError_eq_ok.mp hr)
  obtain ⟨sources, hsources, hr⟩ := bind_eq_ok.mp hr
  obtain ⟨files, hfiles, haudit⟩ := bind_eq_ok.mp hsources
  obtain ⟨listed, -, haudit⟩ := bind_eq_ok.mp haudit
  obtain rfl := Except.ok.inj haudit
  obtain rfl := Except.ok.inj hr
  exact ⟨l, hl, hs, hfiles⟩

theorem Agree.readAll (h : a.Agree cwd t t') {r : Resolved} (hr : a.resolve t cwd = .ok r) :
    Session.readAll t' {} r.sources.files = Session.readAll t {} r.sources.files := by
  obtain ⟨l, hl, hs, hselect⟩ := exists_of_resolve hr
  have hreads : ∀ f ∈ r.sources.files, t'.read f.path = t.read f.path := by
    intro f hf
    apply h.reads f.path
    exact mem_reads_iff.mpr (.inr ⟨l, hl, .inr ⟨_, _, hs, hselect, f, hf, rfl⟩⟩)
  generalize r.sources.files = fs at hreads
  generalize ({} : Session) = s
  induction fs generalizing s with
  | nil => rfl
  | cons f fs ih =>
      have hscan : Session.scanFile t' s f = Session.scanFile t s f := by
        rw [Session.scanFile, Session.scanFile, readText, readText,
          hreads f List.mem_cons_self]
      rw [Session.readAll, Session.readAll, hscan]
      cases Session.scanFile t s f with
      | error e => rfl
      | ok s' => exact ih (fun g hg => hreads g (List.mem_cons_of_mem f hg)) s'

end SourceArguments

/-! ## Two runs -/

namespace Command

/-- Two runs leave their trees alone, or store the same text at the same path. -/
inductive SameEffect (t t' : FileTree) : FileTree → FileTree → Prop
  | none : SameEffect t t' t t'
  | stored {result : Except Error Unit} {u u' : FileTree} (path : Path) (text : Text) :
      t.writeText path text = (result, u) → t'.writeText path text = (result, u') →
      SameEffect t t' u u'

/-- The report of one run is that of the other, and so is what it does. -/
structure Alike (t t' : FileTree) (x x' : Report × FileTree) : Prop where
  report : x'.1 = x.1
  effect : SameEffect t t' x.2 x'.2

variable {a : SourceArguments} {cwd : Path} {t t' : FileTree}

/-- The same product is stored in both trees, or in neither. -/
theorem alike_write (h : SamePaths t t') {output : Option Path} {r : Resolved} {s : Session}
    (d d' : Context) : Alike t t' ((Product.dispatcher.write t cwd output r s).run d).1
      ((Product.dispatcher.write t' cwd output r s).run d').1 := by
  have hsame := h.writeText (Product.dispatcher.target r cwd output)
    (Product.dispatcher.render r s)
  cases hw : t.writeText (Product.dispatcher.target r cwd output)
      (Product.dispatcher.render r s) with
  | mk result u =>
      cases hw' : t'.writeText (Product.dispatcher.target r cwd output)
          (Product.dispatcher.render r s) with
      | mk result' u' =>
          rw [hw, hw'] at hsame
          obtain rfl : result' = result := hsame.1
          cases result' with
          | error e =>
              rw [Product.write_of_error d hw, Product.write_of_error d' hw']
              exact ⟨rfl, .stored _ _ hw hw'⟩
          | ok =>
              rw [Product.write_of_ok d hw, Product.write_of_ok d' hw']
              exact ⟨rfl, .stored _ _ hw hw'⟩

/-- Both runs stop at the same point with the same report, or they store the same text. -/
theorem alike_of_agree (h : a.Agree cwd t t') (output : Option Path) :
    Alike t t' ((generate a output).outcome t cwd) ((generate a output).outcome t' cwd) := by
  have hrun (u : FileTree) : (generate a output).outcome u cwd =
      ((Product.dispatcher.make u cwd a output).run .empty).1 := rfl
  rw [hrun, hrun]
  have hresolve := h.resolve
  -- nothing is written unless the sources are resolved and all of them have been read
  cases hr : a.resolve t cwd with
  | error f =>
      rw [hr] at hresolve
      rw [Product.make_of_unresolved .empty hr, Product.make_of_unresolved .empty hresolve]
      exact ⟨rfl, .none⟩
  | ok r =>
      rw [hr] at hresolve
      have hread := h.readAll hr
      cases hs : Session.readAll t {} r.sources.files with
      | mk s failure =>
          rw [hs] at hread
          cases failure with
          | some e =>
              rw [Product.make_of_unread .empty hr hs,
                Product.make_of_unread .empty hresolve hread]
              exact ⟨rfl, .none⟩
          | none =>
              obtain ⟨d, hwrite⟩ : ∃ d, ((Product.dispatcher.make t cwd a output).run .empty).1 =
                  ((Product.dispatcher.write t cwd output r s).run d).1 :=
                Product.make_of_read .empty hr hs
              obtain ⟨d', hwrite'⟩ : ∃ d, ((Product.dispatcher.make t' cwd a output).run .empty).1 =
                  ((Product.dispatcher.write t' cwd output r s).run d).1 :=
                Product.make_of_read .empty hresolve hread
              rw [hwrite, hwrite']
              exact alike_write h.paths d d'

/-- The listings agree too, as the file is not one that says what to exclude. -/
theorem agree_set_file (ht : t.IsTree) {r : Route} {old : List UInt8}
    (hold : t.node? r = some (.file old)) (hunread : ∀ p ∈ a.reads t cwd, p.place ≠ r)
    (hrules : ¬excludeFile <:+ r) (new : List UInt8) : a.Agree cwd t (t.set r (.file new)) where
  tree := ht
  tree' := ht.set_file hold new
  paths := samePaths_set_file hold new
  listings := (samePaths_set_file hold new).walk ht (ht.set_file hold new)
    (sameRules_set hrules t (.file new))
  reads := by
    intro p hp
    apply (samePaths_set_file hold new).read
    exact node?_set_of_ne t (.file new) (hunread p hp)

/-- Other bytes in the file at a place make no difference to a command. -/
def Ignores (c : Command) (t : FileTree) (cwd : Path) (r : Route) : Prop :=
  ∀ old new, t.node? r = some (.file old) →
    Alike t (t.set r (.file new)) (c.outcome t cwd) (c.outcome (t.set r (.file new)) cwd)

/-- A place is not that of the workspace nor of the settings in effect, and it says nothing about
what a repository excludes. -/
structure Neutral (a : SourceArguments) (t : FileTree) (cwd : Path) (r : Route) : Prop where
  workspace : a.files = [] → ∀ p, a.workspacePath t cwd = .ok p → p.place ≠ r
  settings : ∀ l, a.locate t cwd = .ok l → ∀ p, t.findSettings l.root = some p → p.place ≠ r
  rules : ¬excludeFile <:+ r

/-- A command depends on what it reads and on nothing else: two trees that agree on that are alike
to it, and so is a tree in which a file that is not read gets other bytes. A source whose path the
exclude expression matches is such a file, and so is the dispatcher by the default settings. -/
structure ReadsOnly (a : SourceArguments) (output : Option Path) (t : FileTree) (cwd : Path) :
    Prop where
  agree : ∀ t', a.Agree cwd t t' →
    Alike t t' ((generate a output).outcome t cwd) ((generate a output).outcome t' cwd)
  unread : ∀ r, (∀ p ∈ a.reads t cwd, p.place ≠ r) → ¬excludeFile <:+ r →
    (generate a output).Ignores t cwd r
  excluded : ∀ l s exclude r, a.locate t cwd = .ok l → t.loadSettings l.root = .ok s →
    Regex.parse? s.scan.exclude = some exclude →
    (∀ e ∈ l.entries, (SourceFile.ofEntry l.root l.base e).path.place = r →
      exclude.isMatch (SourceFile.ofEntry l.root l.base e).display = true) →
    Neutral a t cwd r → (generate a output).Ignores t cwd r
  dispatcher : ∀ l, a.locate t cwd = .ok l → t.loadSettings l.root = .ok {} →
    a.Spares cwd l.outputPlace → (generate a output).Ignores t cwd l.outputPlace

theorem ignores_of_unread (ht : t.IsTree) {r : Route} (hunread : ∀ p ∈ a.reads t cwd, p.place ≠ r)
    (hrules : ¬excludeFile <:+ r) (output : Option Path) :
    (generate a output).Ignores t cwd r := by
  intro old new hold
  exact alike_of_agree (agree_set_file ht hold hunread hrules new) output

/-- A neutral place is read only if a source there is selected. -/
theorem Neutral.place_ne {r : Route} (h : Neutral a t cwd r) {l : Located} {s : Settings}
    (hl : a.locate t cwd = .ok l) (hs : t.loadSettings l.root = .ok s)
    (hsources : ∀ files, s.scan.select l.root l.base l.entries = .ok files →
      ∀ f ∈ files, f.path.place ≠ r) : ∀ p ∈ a.reads t cwd, p.place ≠ r := by
  intro p hp
  rcases SourceArguments.mem_reads_iff.mp hp with ⟨hfiles, hpath⟩ | ⟨l', hl', hcase⟩
  · exact h.workspace hfiles p hpath
  · obtain rfl : l = l' := Except.ok.inj (hl.symm.trans hl')
    rcases hcase with hsettings | ⟨s', files, hs', hselect, f, hf, rfl⟩
    · exact h.settings l hl p hsettings
    · obtain rfl : s = s' := Except.ok.inj (hs.symm.trans hs')
      exact hsources files hselect f hf

theorem place_ne_of_excluded {s : ScanSettings} {exclude : Regex} {root base : Path}
    {entries : List Text} {files : List SourceFile} {r : Route}
    (hexclude : Regex.parse? s.exclude = some exclude)
    (hmatch : ∀ e ∈ entries, (SourceFile.ofEntry root base e).path.place = r →
      exclude.isMatch (SourceFile.ofEntry root base e).display = true)
    (h : s.select root base entries = .ok files) : ∀ f ∈ files, f.path.place ≠ r := by
  intro f hf hplace
  rw [ScanSettings.select, hexclude] at h
  rw [← Except.ok.inj h] at hf
  obtain ⟨⟨entry, hentry, rfl⟩, hnot⟩ := ScanSettings.of_mem_selectBy hf
  rw [hmatch entry hentry hplace] at hnot
  cases hnot

/-- The dispatcher has a name of its own. -/
theorem neutral_outputPlace (ht : t.IsTree) {l : Located} (hspare : a.Spares cwd l.outputPlace) :
    Neutral a t cwd l.outputPlace where
  workspace := by
    intro hfiles p hp
    rw [SourceArguments.workspacePath] at hp
    cases hgiven : a.workspace with
    | some w =>
        rw [hgiven] at hp
        obtain rfl := Except.ok.inj hp
        exact hspare hfiles w hgiven
    | none =>
        rw [hgiven] at hp
        obtain ⟨d, n, hn, rfl, hext⟩ := ht.of_findWorkspace hp
        rw [Path.place_join_name (q := ⟨n⟩) d hn, l.outputPlace_eq]
        intro heq
        obtain rfl : n = generatedFile := Route.name_eq heq
        exact absurd hext (by decide)
  settings := by
    intro l' _ p hp
    obtain ⟨d, -, rfl⟩ := List.mem_map.mp (List.mem_of_find?_eq_some hp)
    have hname : Text.IsName Settings.fileName := by decide
    rw [Path.place_join_name (q := ⟨Settings.fileName⟩) d hname, l.outputPlace_eq]
    intro heq
    exact absurd (Route.name_eq heq) (by decide)
  rules := by
    rintro ⟨front, hfront⟩
    have hsplit : (front ++ [".git".toList, "info".toList]) ++ ["exclude".toList] =
        (l.root.place ++ [generatedDirectory]) ++ [generatedFile] := by
      rw [← l.outputPlace_eq, ← hfront, List.append_assoc]
      rfl
    exact absurd (Route.name_eq hsplit) (by decide)

/-- A run on any tree reads the workspace, the settings and the sources that they select. -/
theorem generate_readsOnly (a : SourceArguments) (output : Option Path) (cwd : Path)
    (ht : t.IsTree) : ReadsOnly a output t cwd where
  agree t' h := alike_of_agree h output
  unread r hunread hrules := ignores_of_unread ht hunread hrules output
  excluded l s exclude r hl hs hexclude hmatch hneutral := by
    have hsources : ∀ files, s.scan.select l.root l.base l.entries = .ok files →
        ∀ f ∈ files, f.path.place ≠ r := fun _ => place_ne_of_excluded hexclude hmatch
    exact ignores_of_unread ht (hneutral.place_ne hl hs hsources) hneutral.rules output
  dispatcher l hl hs hspare := by
    have hneutral := neutral_outputPlace ht hspare
    have hsources : ∀ files, ({} : ScanSettings).select l.root l.base l.entries = .ok files →
        ∀ f ∈ files, f.path.place ≠ l.outputPlace := fun files hfiles f hf =>
      ScanSettings.place_ne_of_mem_select hfiles hf
    exact ignores_of_unread ht (hneutral.place_ne hl hs hsources) hneutral.rules output

def staleSource : FileTree :=
  ⟨(["w", "include"], .directory) ::
    (["w", "include", "rpc-functions.axi"], .file (Latin.encode "// old")) :: oneSource.nodes⟩

/-- A dispatcher of an earlier run is overwritten without being read. -/
theorem generate_readsOnly_stale :
    staleSource.IsTree ∧
      oneSourceArguments.Agree ⟨"/w"⟩ staleSource
        (staleSource.set oneSourceLocated.outputPlace (.file [])) ∧
      ReadsOnly oneSourceArguments none staleSource ⟨"/w"⟩ ∧
      Alike staleSource (staleSource.set oneSourceLocated.outputPlace (.file []))
        ((generate oneSourceArguments none).outcome staleSource ⟨"/w"⟩)
        ((generate oneSourceArguments none).outcome
          (staleSource.set oneSourceLocated.outputPlace (.file [])) ⟨"/w"⟩) := by
  have htree : staleSource.IsTree := by decide
  have hfile : staleSource.node? oneSourceLocated.outputPlace =
      some (.file (Latin.encode "// old")) := by decide
  have hreads := generate_readsOnly oneSourceArguments none ⟨"/w"⟩ htree
  have hneutral : Neutral oneSourceArguments staleSource ⟨"/w"⟩ oneSourceLocated.outputPlace :=
    neutral_outputPlace htree nofun
  have hunread : ∀ p ∈ oneSourceArguments.reads staleSource ⟨"/w"⟩,
      p.place ≠ oneSourceLocated.outputPlace := by decide +kernel
  exact ⟨htree, agree_set_file htree hfile hunread hneutral.rules [], hreads,
    hreads.dispatcher oneSourceLocated rfl rfl nofun _ [] hfile⟩

end Command

end RpcDispatch
