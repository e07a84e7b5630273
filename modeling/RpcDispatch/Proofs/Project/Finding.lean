import RpcDispatch.Project.Search
import RpcDispatch.Proofs.Project.Sorting
import RpcDispatch.Proofs.Project.Trees

/-!
# Finding what a file does not hide

The searches look for names of their own in directories that can be reached. A file that is put
somewhere under another name makes no difference to what they find.
-/

namespace RpcDispatch

/-! ## Names joined to a directory -/

namespace Path

theorem split_join_name (d : Path) {q : Path} (hq : q.text.IsName) :
    ∃ front, (d.join q).split = front ++ [q.text] := by
  have hsplit := split_of_isName hq
  by_cases hd : d.text = []
  · exact ⟨[], by rw [join_of_text_eq_nil hd, hsplit, List.nil_append]⟩
  · exact ⟨d.front, by rw [split_join hd (isAbsolute_of_isName hq), hsplit]⟩

theorem fileName?_join_name (d : Path) {q : Path} (hq : q.text.IsName) :
    (d.join q).fileName? = some q.text := by
  obtain ⟨front, hsplit⟩ := split_join_name d hq
  have hpart := part?_of_isName hq
  have hlast : (d.join q).components.getLast? = some (.name q.text) := by
    rw [split] at hsplit
    rw [components, hsplit, List.filterMap_append, List.filterMap_cons_some hpart,
      List.filterMap_nil, ← List.append_assoc, List.getLast?_concat]
  rw [fileName?, hlast]

theorem hasExtension_join_name (wanted : Text) (d : Path) {q : Path} (hq : q.text.IsName) :
    (d.join q).hasExtension wanted = q.hasExtension wanted := by
  have hjoin := fileName?_join_name d hq
  have hself := fileName?_join_name ⟨[]⟩ hq
  rw [join_of_text_eq_nil rfl] at hself
  rw [hasExtension, hasExtension, extension?, extension?, hjoin, hself]

end Path

namespace FileTree

/-! ## Names in a directory -/

def names (t : FileTree) (r : Route) : List Text := (t.children r).map (·.1)

theorem names_eq (t : FileTree) (r : Route) : t.names r =
    (t.nodes.map (·.1)).filterMap fun s => if s.dropLast = r then s.getLast? else none := by
  rw [names, children, List.map_filterMap, List.filterMap_map]
  congr 1
  funext e
  obtain ⟨s, n⟩ := e
  cases hlast : s.getLast? with
  | none => simp [hlast]
  | some name =>
      by_cases hs : s.dropLast = r
      · simp [hlast, hs]
      · simp [hlast, hs]

theorem mem_names_iff {t : FileTree} {r : Route} {n : Text} :
    n ∈ t.names r ↔ r ++ [n] ∈ t.nodes.map (·.1) := by
  rw [names_eq, List.mem_filterMap]
  constructor
  · rintro ⟨s, hs, hn⟩
    split at hn
    next hdrop =>
      obtain ⟨init, rfl⟩ := List.getLast?_eq_some_iff.mp hn
      rw [List.dropLast_concat] at hdrop
      rw [← hdrop]
      exact hs
    next => cases hn
  · intro h
    exact ⟨_, h, by rw [List.dropLast_concat, if_pos rfl, List.getLast?_concat]⟩

theorem mem_names_of_isFile {t : FileTree} {d : Path} {n : Text} (hn : n.IsName)
    (h : t.isFile (d.join ⟨n⟩) = true) : n ∈ t.names d.place := by
  obtain ⟨-, bytes, hnode⟩ := isFile_iff.mp h
  rw [Path.place_join_name d hn] at hnode
  have hmem := mem_of_node? (by simp) hnode
  exact mem_names_iff.mpr (List.mem_map_of_mem hmem)

section

variable {t : FileTree} (ht : t.IsTree)

include ht

theorem IsTree.nodup_names (r : Route) : (t.names r).Nodup := by
  rw [names_eq]
  refine ht.nodup.filterMap ?_
  intro s s' n hs hs'
  rw [Option.mem_def] at hs hs'
  split at hs
  next hdrop =>
    split at hs'
    next hdrop' =>
      obtain ⟨init, rfl⟩ := List.getLast?_eq_some_iff.mp hs
      obtain ⟨init', rfl⟩ := List.getLast?_eq_some_iff.mp hs'
      rw [List.dropLast_concat] at hdrop hdrop'
      rw [hdrop, hdrop']
    next => cases hs'
  next => cases hs

theorem IsTree.isName_of_mem_names {r : Route} {n : Text} (h : n ∈ t.names r) : n.IsName := by
  obtain ⟨e, he, hroute⟩ := List.mem_map.mp (mem_names_iff.mp h)
  exact ht.names e he n (by rw [hroute]; simp)

end

/-! ## Workspaces in a directory -/

def workspaceNames (t : FileTree) (d : Path) : List Text :=
  (t.names d.place).filter fun n =>
    t.isFile (d.join ⟨n⟩) && (d.join ⟨n⟩).hasExtension workspaceExtension

theorem workspacesIn_of_not_reaches {t : FileTree} {d : Path} (hd : ¬t.Reaches d) :
    t.workspacesIn d = [] := by
  have hroute : (t.route d).toOption = none := by
    cases h : t.route d with
    | error e => rfl
    | ok r => exact absurd (route_eq_ok.mp h).1 hd
  have hsort : Text.sort [] = [] := List.mergeSort_nil
  rw [workspacesIn, hroute, Option.map_none, Option.getD_none, hsort, List.map_nil, List.filter_nil]

theorem workspacesIn_of_text_eq_nil (t : FileTree) {d : Path} (hd : d.text = []) :
    t.workspacesIn d = [] :=
  workspacesIn_of_not_reaches fun hreach => hreach.1.2.1 hd

theorem workspacesIn_of_reaches {t : FileTree} {d : Path} (hd : t.Reaches d) :
    t.workspacesIn d = (Text.sort (t.workspaceNames d)).map fun n => d.join ⟨n⟩ := by
  rw [workspacesIn, route_eq_ok.mpr ⟨hd, rfl⟩, List.filter_map, Text.filter_sort]
  rfl

theorem IsTree.mem_workspaceNames_iff {t : FileTree} (ht : t.IsTree) {d : Path} {n : Text} :
    n ∈ t.workspaceNames d ↔ n.IsName ∧ t.isFile (d.join ⟨n⟩) = true ∧
      Path.hasExtension workspaceExtension ⟨n⟩ = true := by
  rw [workspaceNames, List.mem_filter, Bool.and_eq_true]
  constructor
  · rintro ⟨hmem, hfile, hext⟩
    have hn := ht.isName_of_mem_names hmem
    rw [Path.hasExtension_join_name _ d hn] at hext
    exact ⟨hn, hfile, hext⟩
  · rintro ⟨hn, hfile, hext⟩
    rw [Path.hasExtension_join_name _ d hn]
    exact ⟨mem_names_of_isFile hn hfile, hfile, hext⟩

theorem IsTree.of_findWorkspace {t : FileTree} (ht : t.IsTree) {start p : Path}
    (h : t.findWorkspace start = .ok p) :
    ∃ d : Path, ∃ n : Text, n.IsName ∧ p = d.join ⟨n⟩ ∧
      Path.hasExtension workspaceExtension ⟨n⟩ = true := by
  rw [findWorkspace] at h
  split at h
  next q hq =>
    obtain rfl := Except.ok.inj h
    obtain ⟨d, -, hhead⟩ := List.exists_of_findSome?_eq_some hq
    have hmem := List.mem_of_head? hhead
    have hreach : t.Reaches d := by
      by_contra hnot
      rw [workspacesIn_of_not_reaches hnot] at hmem
      cases hmem
    rw [workspacesIn_of_reaches hreach] at hmem
    obtain ⟨n, hn, rfl⟩ := List.mem_map.mp hmem
    obtain ⟨hname, -, hext⟩ :=
      ht.mem_workspaceNames_iff.mp ((Text.sort_perm _).mem_iff.mp hn)
    exact ⟨d, n, hname, rfl, hext⟩
  next => cases h

/-! ## Searches beside a file that is put somewhere -/

section

variable {t : FileTree} {r : Route} {file : Text} (bytes : List UInt8) (ht : t.IsTree)
  (h : t.Takes (r ++ [file]))

include ht h

/-- A directory that was made for the file holds nothing else, and the file is no workspace. -/
theorem Takes.workspacesIn_putFile {d : Path} (hd : d.text = [] ∨ t.Reaches d)
    (hext : Path.hasExtension workspaceExtension ⟨file⟩ = false) :
    (t.putFile (r ++ [file]) bytes).workspacesIn d = t.workspacesIn d := by
  by_cases hempty : d.text = []
  · rw [workspacesIn_of_text_eq_nil _ hempty, workspacesIn_of_text_eq_nil _ hempty]
  · have hreach := hd.resolve_left hempty
    have ht' := ht.putFile bytes h
    rw [workspacesIn_of_reaches hreach, workspacesIn_of_reaches (h.reaches_putFile bytes hreach)]
    congr 1
    apply Text.sort_congr
    refine (List.perm_ext_iff_of_nodup ((ht'.nodup_names _).filter _)
      ((ht.nodup_names _).filter _)).mpr fun n => ?_
    change n ∈ workspaceNames _ d ↔ n ∈ workspaceNames _ d
    rw [ht'.mem_workspaceNames_iff, ht.mem_workspaceNames_iff]
    refine and_congr_right fun hn => and_congr_left fun hworkspace => ?_
    have hne : d.place ++ [n] ≠ r ++ [file] := by
      intro heq
      rw [Route.name_eq heq, hext] at hworkspace
      cases hworkspace
    rw [h.isFile_putFile bytes ht hn hd hne]

theorem Takes.findWorkspace_putFile {start : Path} (hstart : t.Reaches start)
    (hext : Path.hasExtension workspaceExtension ⟨file⟩ = false) :
    (t.putFile (r ++ [file]) bytes).findWorkspace start = t.findWorkspace start := by
  have hsame : ∀ ds : List Path, (∀ d ∈ ds, d.text = [] ∨ t.Reaches d) →
      (ds.findSome? fun d => ((t.putFile (r ++ [file]) bytes).workspacesIn d).head?) =
        ds.findSome? fun d => (t.workspacesIn d).head? := by
    intro ds hds
    induction ds with
    | nil => rfl
    | cons d ds ih =>
        rw [List.findSome?_cons, List.findSome?_cons,
          h.workspacesIn_putFile bytes ht (hds d List.mem_cons_self) hext,
          ih fun e he => hds e (List.mem_cons_of_mem d he)]
  rw [findWorkspace, findWorkspace, hsame (searched start) fun d hd => hstart.ancestors hd]

theorem Takes.findSettings_putFile {start : Path} (hstart : t.Reaches start)
    (hfile : file ≠ Settings.fileName) :
    (t.putFile (r ++ [file]) bytes).findSettings start = t.findSettings start := by
  have hname : Text.IsName Settings.fileName := by decide
  have hsame : ∀ ds : List Path, (∀ d ∈ ds, d.text = [] ∨ t.Reaches d) →
      (ds.map (·.join ⟨Settings.fileName⟩)).find? (t.putFile (r ++ [file]) bytes).isFile =
        (ds.map (·.join ⟨Settings.fileName⟩)).find? t.isFile := by
    intro ds hds
    induction ds with
    | nil => rfl
    | cons d ds ih =>
        have hne : d.place ++ [Settings.fileName] ≠ r ++ [file] := fun heq =>
          hfile (Route.name_eq heq).symm
        rw [List.map_cons, List.find?_cons, List.find?_cons,
          h.isFile_putFile (q := ⟨Settings.fileName⟩) bytes ht hname (hds d List.mem_cons_self) hne,
          ih fun e he => hds e (List.mem_cons_of_mem d he)]
  rw [findSettings, findSettings]
  exact hsame _ fun d hd => hstart.ancestors hd

theorem Takes.loadSettings_putFile {start : Path} {s : Settings} (hstart : t.Reaches start)
    (hfile : file ≠ Settings.fileName) (hload : t.loadSettings start = .ok s) :
    (t.putFile (r ++ [file]) bytes).loadSettings start = .ok s := by
  have hname : Text.IsName Settings.fileName := by decide
  rw [loadSettings] at hload ⊢
  rw [h.findSettings_putFile bytes ht hstart hfile]
  cases hfind : t.findSettings start with
  | none =>
      rw [hfind] at hload
      exact hload
  | some p =>
      rw [hfind] at hload
      obtain ⟨d, -, rfl⟩ := List.mem_map.mp (List.mem_of_find?_eq_some hfind)
      dsimp only at hload ⊢
      rw [readSettings] at hload ⊢
      cases hread : t.read (d.join ⟨Settings.fileName⟩) with
      | error f =>
          rw [hread] at hload
          cases hload
      | ok bs =>
          have hne : (d.join ⟨Settings.fileName⟩).place ≠ r ++ [file] := by
            rw [Path.place_join_name (q := ⟨Settings.fileName⟩) d hname]
            exact fun heq => hfile (Route.name_eq heq).symm
          rw [h.read_putFile bytes hread hne]
          rw [hread] at hload
          exact hload

end

theorem Takes.loadWorkspace_putFile {t : FileTree} {r : Route} (bytes : List UInt8)
    (h : t.Takes r) {p : Path} {w : Workspace} (hne : p.place ≠ r)
    (hload : t.loadWorkspace p = .ok w) : (t.putFile r bytes).loadWorkspace p = .ok w := by
  rw [loadWorkspace] at hload ⊢
  cases hread : t.read p with
  | error f =>
      rw [hread] at hload
      cases f <;> cases hload
  | ok bs =>
      rw [h.read_putFile bytes hread hne]
      rw [hread] at hload
      exact hload

end FileTree

end RpcDispatch
