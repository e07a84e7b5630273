import RpcDispatch.Proofs.Project.Finding
import RpcDispatch.Proofs.Project.Listing

/-!
# Trees with the same paths

Two trees may differ only in the bytes of their files. Everything but reading a file finds the same
in both, and what is made in both leaves them with the same paths again.
-/

namespace RpcDispatch

def Node.erased : Node → Node
  | .directory => .directory
  | .file _ => .file []

theorem Node.erased_eq_directory {n : Node} : n.erased = .directory ↔ n = .directory := by
  cases n <;> simp [erased]

namespace FileTree

/-- The same places have nodes, directories in the one tree where they are in the other. -/
def SamePaths (t t' : FileTree) : Prop :=
  ∀ r, (t'.node? r).map Node.erased = (t.node? r).map Node.erased

theorem SamePaths.set {t t' : FileTree} (h : SamePaths t t') {n n' : Node}
    (hn : n'.erased = n.erased) (r : Route) : SamePaths (t.set r n) (t'.set r n') := by
  intro s
  by_cases hs : s = r
  · subst hs
    by_cases hnil : s = []
    · rw [hnil, node?_nil, node?_nil]
    · rw [node?_set_self t n hnil, node?_set_self t' n' hnil, Option.map_some, Option.map_some, hn]
  · rw [node?_set_of_ne t n hs, node?_set_of_ne t' n' hs]
    exact h s

/-- Other bytes in a file leave the paths as they are. -/
theorem samePaths_set_file {t : FileTree} {r : Route} {old : List UInt8}
    (h : t.node? r = some (.file old)) (new : List UInt8) :
    SamePaths t (t.set r (.file new)) := by
  intro s
  by_cases hs : s = r
  · have hnil : r ≠ [] := by
      rintro rfl
      cases h
    rw [hs, node?_set_self t _ hnil, h]
    rfl
  · rw [node?_set_of_ne t _ hs]

namespace SamePaths

variable {t t' : FileTree} (h : SamePaths t t')

include h

theorem node?_isSome (r : Route) : (t'.node? r).isSome = (t.node? r).isSome := by
  have hsome := congrArg Option.isSome (h r)
  rwa [Option.isSome_map, Option.isSome_map] at hsome

theorem directory_iff {r : Route} :
    t'.node? r = some .directory ↔ t.node? r = some .directory := by
  have hr := h r
  constructor
  · intro hdir
    rw [hdir, Option.map_some] at hr
    obtain ⟨n, hn, hkind⟩ := Option.map_eq_some_iff.mp hr.symm
    rw [hn, Node.erased_eq_directory.mp hkind]
  · intro hdir
    rw [hdir, Option.map_some] at hr
    obtain ⟨n, hn, hkind⟩ := Option.map_eq_some_iff.mp hr
    rw [hn, Node.erased_eq_directory.mp hkind]

theorem file_iff {r : Route} :
    (∃ bytes, t'.node? r = some (.file bytes)) ↔ ∃ bytes, t.node? r = some (.file bytes) := by
  have hsome := h.node?_isSome r
  have hdir := h.directory_iff (r := r)
  cases hnode : t.node? r with
  | none => simp_all
  | some n =>
      obtain ⟨n', hnode'⟩ := Option.isSome_iff_exists.mp (hsome.trans (by rw [hnode]; rfl))
      rw [hnode, hnode'] at hdir
      rw [hnode']
      cases n <;> cases n' <;> simp_all

/-! ## Following a path -/

theorem enter (r : Route) : t'.enter r = t.enter r := by
  have hdir := h.directory_iff (r := r)
  have hfile := h.file_iff (r := r)
  rw [FileTree.enter, FileTree.enter]
  rcases hnode : t.node? r with _ | _ | bytes
  · rcases hnode' : t'.node? r with _ | _ | bytes'
    · rfl
    · simp_all
    · simp_all
  · rw [hdir.mpr hnode]
  · obtain ⟨bytes', hnode'⟩ := hfile.mpr ⟨bytes, hnode⟩
    rw [hnode']

theorem follow (here : Route) (parts : List Text) :
    t'.follow here parts = t.follow here parts := by
  induction parts generalizing here with
  | nil => rfl
  | cons part parts ih =>
      rw [FileTree.follow, FileTree.follow, h.enter here]
      simp only [ih]

theorem route (p : Path) : t'.route p = t.route p := by
  rw [FileTree.route, FileTree.route]
  simp only [h.follow]

theorem around (x : Target) : t'.around x = t.around x := by
  rw [FileTree.around, FileTree.around]
  simp only [h.follow, h.enter]

theorem lookup (p : Path) : (t'.lookup p).map Node.erased = (t.lookup p).map Node.erased := by
  rw [FileTree.lookup, FileTree.lookup, h.route p]
  rcases t.route p with f | r
  · rfl
  · have hr := h r
    rw [ok_bind, ok_bind]
    rcases hnode : t.node? r with _ | n
    · rw [hnode, Option.map_none, Option.map_eq_none_iff] at hr
      rw [hr]
    · rw [hnode, Option.map_some] at hr
      obtain ⟨n', hn', hsame⟩ := Option.map_eq_some_iff.mp hr
      rw [hn']
      exact congrArg Except.ok hsame

theorem reaches_iff {p : Path} : t'.Reaches p ↔ t.Reaches p := by
  have hroute := h.route p
  constructor
  · intro hp
    rw [route_eq_ok.mpr ⟨hp, rfl⟩] at hroute
    exact (route_eq_ok.mp hroute.symm).1
  · intro hp
    rw [route_eq_ok.mpr ⟨hp, rfl⟩] at hroute
    exact (route_eq_ok.mp hroute).1

/-- A path that leads to the same node reads the same. -/
theorem read {p : Path} (hnode : t'.node? p.place = t.node? p.place) : t'.read p = t.read p := by
  have hlookup : t'.lookup p = t.lookup p := by
    rw [FileTree.lookup, FileTree.lookup, h.route p]
    cases hroute : t.route p with
    | error f => rfl
    | ok r =>
        obtain ⟨-, rfl⟩ := route_eq_ok.mp hroute
        rw [ok_bind, ok_bind, hnode]
  rw [FileTree.read, FileTree.read, hlookup]

theorem isPresent (p : Path) : t'.isPresent p = t.isPresent p := by
  rw [Bool.eq_iff_iff, isPresent_iff, isPresent_iff, h.reaches_iff, ← Option.isSome_iff_exists,
    ← Option.isSome_iff_exists, h.node?_isSome]

theorem isDirectory (p : Path) : t'.isDirectory p = t.isDirectory p := by
  rw [Bool.eq_iff_iff, isDirectory_iff, isDirectory_iff, h.reaches_iff, h.directory_iff]

theorem isFile (p : Path) : t'.isFile p = t.isFile p := by
  rw [Bool.eq_iff_iff, isFile_iff, isFile_iff, h.reaches_iff, h.file_iff]

end SamePaths

/-! ## Making something in both -/

inductive SameOutcome : Except FileFault FileTree → Except FileFault FileTree → Prop
  | error (f : FileFault) : SameOutcome (.error f) (.error f)
  | ok {t t' : FileTree} : SamePaths t t' → SameOutcome (.ok t) (.ok t')

theorem SameOutcome.bind {α : Type} (x : Except FileFault α) {f f' : α → Except FileFault FileTree}
    (hf : ∀ a, x = .ok a → SameOutcome (f a) (f' a)) : SameOutcome (x >>= f) (x >>= f') := by
  cases x with
  | error e => exact .error e
  | ok a => exact hf a rfl

namespace SamePaths

variable {t t' : FileTree}

/-- Both trees take the bytes, or refuse them with the same fault. -/
theorem write (h : SamePaths t t') (p : Path) (bytes : List UInt8) :
    SameOutcome (t.write p bytes) (t'.write p bytes) := by
  rw [FileTree.write, FileTree.write]
  apply SameOutcome.bind
  intro parts _
  cases Target.ofParts? parts with
  | none => exact .error .isDirectory
  | some x =>
      simp only
      rw [h.around x]
      apply SameOutcome.bind
      intro here _
      by_cases hclosed : x.closed = true
      · rw [if_pos hclosed, if_pos hclosed]
        exact .error .isDirectory
      · rw [if_neg hclosed, if_neg hclosed]
        apply SameOutcome.bind
        intro r _
        have hdir := h.directory_iff (r := r)
        split
        next hnode =>
          rw [hdir.mpr hnode]
          exact .error .isDirectory
        next hnode =>
          split
          next hnode' => exact absurd (hdir.mp hnode') hnode
          next => exact .ok (h.set rfl r)

theorem makeDirectory (h : SamePaths t t') (p : Path) :
    SameOutcome (t.makeDirectory p) (t'.makeDirectory p) := by
  rw [FileTree.makeDirectory, FileTree.makeDirectory]
  apply SameOutcome.bind
  intro parts _
  cases Target.ofParts? parts with
  | none => exact .error .alreadyExists
  | some x =>
      simp only
      rw [h.around x]
      apply SameOutcome.bind
      intro here _
      apply SameOutcome.bind
      intro r _
      rw [h.node?_isSome r]
      by_cases hsome : (t.node? r).isSome = true
      · rw [if_pos hsome, if_pos hsome]
        exact .error .alreadyExists
      · rw [if_neg hsome, if_neg hsome]
        exact .ok (h.set rfl r)

end SamePaths

def SameEnd {α : Type} (x x' : α × FileTree) : Prop := x'.1 = x.1 ∧ SamePaths x.2 x'.2

namespace SamePaths

variable {t t' : FileTree}

theorem makeAll (h : SamePaths t t') (ps : List Path) :
    SameEnd (t.makeAll ps) (t'.makeAll ps) := by
  induction ps generalizing t t' with
  | nil => exact ⟨rfl, h⟩
  | cons p ps ih =>
      -- a directory that is there already is no fault, in both trees or in none
      have hexists (f : FileFault) {u u' : FileTree} (hu : SamePaths u u') :
          SameEnd
            ((if f = .alreadyExists ∧ u.isDirectory p then Except.ok () else .error f), u)
            ((if f = .alreadyExists ∧ u'.isDirectory p then Except.ok () else .error f), u') := by
        rw [hu.isDirectory p]
        exact ⟨rfl, hu⟩
      rw [FileTree.makeAll, FileTree.makeAll]
      -- the two trees take the same branch at each of the up to two attempts to make `p`
      have hfirst := h.makeDirectory p
      generalize t.makeDirectory p = x at hfirst
      generalize t'.makeDirectory p = x' at hfirst
      cases hfirst with
      | ok hu => exact ⟨rfl, hu⟩
      | error f =>
          by_cases hf : f = .missing
          · subst hf
            have hrest := ih h
            generalize t.makeAll ps = y at hrest
            generalize t'.makeAll ps = y' at hrest
            obtain ⟨result, u⟩ := y
            obtain ⟨result', u'⟩ := y'
            obtain ⟨hresult, hu⟩ := hrest
            obtain rfl : result' = result := hresult
            cases result' with
            | error e => exact ⟨rfl, hu⟩
            | ok =>
                have hagain := hu.makeDirectory p
                simp only
                generalize FileTree.makeDirectory u p = z at hagain
                generalize FileTree.makeDirectory u' p = z' at hagain
                cases hagain with
                | ok hv => exact ⟨rfl, hv⟩
                | error e => exact hexists e hu
          · cases f <;> first | exact absurd rfl hf | exact hexists _ h

theorem makeDirectories (h : SamePaths t t') (p : Path) :
    SameEnd (t.makeDirectories p) (t'.makeDirectories p) :=
  h.makeAll _

theorem ensureParent (h : SamePaths t t') (p : Path) :
    SameEnd (t.ensureParent p) (t'.ensureParent p) := by
  rw [FileTree.ensureParent, FileTree.ensureParent]
  cases p.parent? with
  | none => exact ⟨rfl, h⟩
  | some d =>
      simp only
      rw [h.isPresent d]
      by_cases hd : d.text = [] ∨ t.isPresent d = true
      · rw [if_pos hd, if_pos hd]
        exact ⟨rfl, h⟩
      · rw [if_neg hd, if_neg hd]
        obtain ⟨hresult, hu⟩ := h.makeDirectories d
        rw [← Prod.eta (t.makeDirectories d), ← Prod.eta (t'.makeDirectories d), hresult]
        cases (t.makeDirectories d).1 with
        | error f => exact ⟨rfl, hu⟩
        | ok => exact ⟨rfl, hu⟩

/-- Whether a text can be stored, and what has to be made for it, does not depend on any bytes. -/
theorem writeText (h : SamePaths t t') (p : Path) (text : Text) :
    SameEnd (t.writeText p text) (t'.writeText p text) := by
  rw [FileTree.writeText, FileTree.writeText]
  obtain ⟨hresult, hu⟩ := h.ensureParent p
  rw [← Prod.eta (t.ensureParent p), ← Prod.eta (t'.ensureParent p), hresult]
  cases (t.ensureParent p).1 with
  | error e => exact ⟨rfl, hu⟩
  | ok =>
      simp only
      have hwrite := hu.write p (Latin.encode text)
      generalize FileTree.write (t.ensureParent p).2 p (Latin.encode text) = x at hwrite
      generalize FileTree.write (t'.ensureParent p).2 p (Latin.encode text) = x' at hwrite
      cases hwrite with
      | ok hv => exact ⟨rfl, hv⟩
      | error f => exact ⟨rfl, hu⟩

end SamePaths

/-! ## Finding and listing -/

theorem mem_nodes_iff {t : FileTree} {r : Route} (hr : r ≠ []) :
    r ∈ t.nodes.map (·.1) ↔ (t.node? r).isSome = true := by
  have hnone := node?_eq_none_iff (t := t) hr
  rw [← Option.not_isSome_iff_eq_none] at hnone
  exact not_iff_not.mp hnone.symm

def SameRules (t t' : FileTree) : Prop :=
  ∀ r, t'.node? (r ++ excludeFile) = t.node? (r ++ excludeFile)

/-- Only files of one name say what to exclude. -/
theorem sameRules_set {r : Route} (hr : ¬excludeFile <:+ r) (t : FileTree) (n : Node) :
    SameRules t (t.set r n) := by
  intro s
  apply node?_set_of_ne
  rintro rfl
  exact hr (List.suffix_append s excludeFile)

theorem IsTree.set_file {t : FileTree} (ht : t.IsTree) {r : Route} {old : List UInt8}
    (h : t.node? r = some (.file old)) (new : List UInt8) : (t.set r (.file new)).IsTree := by
  have hr : r ≠ [] := by
    rintro rfl
    cases h
  have hnames : ∀ n ∈ r, n.IsName := ht.names _ (mem_of_node? hr h)
  refine ht.set hr hnames (ht.parent h) (.inr ?_)
  rw [h]
  simp

namespace SamePaths

variable {t t' : FileTree} (h : SamePaths t t') (ht : t.IsTree) (ht' : t'.IsTree)

include h ht ht'

/-- The nodes need not be in the same order. -/
theorem names_perm (r : Route) : (t'.names r).Perm (t.names r) := by
  refine (List.perm_ext_iff_of_nodup (ht'.nodup_names r) (ht.nodup_names r)).mpr fun n => ?_
  have hne : r ++ [n] ≠ [] := by simp
  rw [mem_names_iff, mem_names_iff, mem_nodes_iff hne, mem_nodes_iff hne, h.node?_isSome]

theorem workspacesIn (d : Path) : t'.workspacesIn d = t.workspacesIn d := by
  have hnames : Text.sort (((t'.route d).toOption.map t'.names).getD []) =
      Text.sort (((t.route d).toOption.map t.names).getD []) := by
    rw [h.route d]
    cases (t.route d).toOption with
    | none => rfl
    | some r => exact Text.sort_congr (h.names_perm ht ht' r)
  have hunfold (u : FileTree) : u.workspacesIn d =
      ((Text.sort (((u.route d).toOption.map u.names).getD [])).map fun name =>
        d.join ⟨name⟩).filter fun p => u.isFile p && p.hasExtension workspaceExtension := rfl
  rw [hunfold, hunfold, hnames]
  simp only [h.isFile]

theorem findWorkspace (start : Path) : t'.findWorkspace start = t.findWorkspace start := by
  rw [FileTree.findWorkspace, FileTree.findWorkspace]
  simp only [h.workspacesIn ht ht']

omit ht ht' in
theorem findSettings (start : Path) : t'.findSettings start = t.findSettings start := by
  rw [FileTree.findSettings, FileTree.findSettings]
  congr 1
  funext p
  exact h.isFile p

omit ht ht' in
theorem isLeftOut (hrules : SameRules t t') (root below : Route) :
    t'.isLeftOut root below = t.isLeftOut root below := by
  have hrepository (r : Route) : t'.repositoryRules r = t.repositoryRules r := by
    rw [repositoryRules, repositoryRules, hrules]
  simp only [FileTree.isLeftOut, isExcluded, repositoryDepth?, h.node?_isSome, hrepository]

theorem filesBelow_perm (root : Route) : (t'.filesBelow root).Perm (t.filesBelow root) := by
  refine (List.perm_ext_iff_of_nodup (ht'.nodup_filesBelow root) (ht.nodup_filesBelow root)).mpr
    fun below => ?_
  rw [ht'.mem_filesBelow_iff, ht.mem_filesBelow_iff, h.file_iff]

/-- A listing depends on the paths, and on what the repositories exclude. -/
theorem walk (hrules : SameRules t t') (root : Path) (w : Wanted) :
    t'.walk root w = t.walk root w := by
  cases hlook : t.lookup root with
  | error f =>
      have hlook' : t'.lookup root = .error f := by
        have hsame := h.lookup root
        rw [hlook] at hsame
        cases hl : t'.lookup root with
        | error f' =>
            rw [hl] at hsame
            exact congrArg _ (Except.error.inj hsame)
        | ok n =>
            rw [hl] at hsame
            cases hsame
      rw [FileTree.walk, FileTree.walk, hlook, hlook']
  | ok n =>
      obtain ⟨hreach, hnode⟩ := lookup_eq_ok.mp hlook
      have hperm : (t'.kept root.place).Perm (t.kept root.place) := by
        rw [kept, kept]
        simp only [h.isLeftOut hrules]
        exact (h.filesBelow_perm ht ht' root.place).filter _
      have hsome : ∃ n, t'.node? root.place = some n := by
        rw [← Option.isSome_iff_exists, h.node?_isSome, hnode]
        rfl
      rw [walk_eq_ok.mpr ⟨hreach, ⟨n, hnode⟩, rfl⟩,
        walk_eq_ok.mpr ⟨h.reaches_iff.mpr hreach, hsome, rfl⟩]
      exact congrArg Except.ok (listing_congr w hperm)

end SamePaths

end FileTree

end RpcDispatch
