import RpcDispatch.Project.Storage
import RpcDispatch.Proofs.Project.Trees

/-!
# Storing a text

A text is stored in a directory below one that exists. If that succeeds, the file has been put
there, with the directory around it where that was missing; once it has succeeded, it does so again.
-/

namespace RpcDispatch.FileTree

/-! ## The directory around a target -/

theorem ofParts?_concat (front : List Text) {name : Text} (h : name ≠ []) :
    Target.ofParts? (front ++ [name]) = some ⟨front, name, false⟩ := by
  rw [Target.ofParts?, List.reverse_append, List.reverse_singleton, List.singleton_append,
    List.dropWhile_cons_of_neg (by simpa using h), List.getLast?_concat]
  simp [h]

theorem around_eq_ok {t : FileTree} {x : Target} {r : Route} :
    t.around x = .ok r ↔ t.Passes [] x.front ∧ r = Route.along [] x.front ∧
      t.node? r = some .directory := by
  rw [around, bind_eq_ok]
  simp only [bind_eq_ok, follow_eq_ok]
  constructor
  · rintro ⟨_, ⟨hpasses, rfl⟩, ⟨⟩, hdir, ⟨⟩⟩
    exact ⟨hpasses, rfl, enter_eq_ok.mp hdir⟩
  · rintro ⟨hpasses, rfl, hdir⟩
    exact ⟨_, ⟨hpasses, rfl⟩, (), enter_eq_ok.mpr hdir, rfl⟩

/-- To reach a last name means to go around it first. -/
theorem reaches_concat_iff {t : FileTree} {p : Path} {front : List Text} {name : Text}
    (hsplit : p.split = front ++ [name]) :
    t.Reaches p ↔ p.IsUsable ∧ t.Passes [] front ∧
      t.node? (Route.along [] front) = some .directory ∧ Text.byteSize name ≤ 255 := by
  rw [Reaches, hsplit, passes_append]
  simp [Passes]

theorem place_concat {p : Path} {front : List Text} {name : Text}
    (hsplit : p.split = front ++ [name]) :
    p.place = Route.extend (Route.along [] front) name := by
  rw [Path.place, hsplit, Route.along_append]
  rfl

/-! ## One file, one directory -/

section

variable {t t' : FileTree} {p : Path} {front : List Text} {name : Text}

/-- A path that can be followed takes a file, unless a directory is there. -/
theorem write_eq_ok {bytes : List UInt8} (hsplit : p.split = front ++ [name])
    (hname : name ≠ []) :
    t.write p bytes = .ok t' ↔ t.Reaches p ∧ t.node? p.place ≠ some .directory ∧
      t' = t.set p.place (.file bytes) := by
  rw [write, bind_eq_ok, reaches_concat_iff hsplit, place_concat hsplit]
  simp only [parts_eq_ok]
  constructor
  · rintro ⟨_, ⟨husable, rfl⟩, h⟩
    rw [hsplit, ofParts?_concat front hname] at h
    obtain ⟨here, hhere, h⟩ := bind_eq_ok.mp h
    obtain ⟨hpasses, rfl, hdir⟩ := around_eq_ok.mp hhere
    obtain ⟨r, hr, h⟩ := bind_eq_ok.mp h
    obtain ⟨hsize, rfl⟩ := step_eq_ok.mp hr
    refine ⟨⟨husable, hpasses, hdir, hsize⟩, ?_⟩
    split at h
    next => cases h
    next hnode => exact ⟨hnode, (Except.ok.inj h).symm⟩
  · rintro ⟨⟨husable, hpasses, hdir, hsize⟩, hnode, rfl⟩
    refine ⟨_, ⟨husable, rfl⟩, ?_⟩
    rw [hsplit, ofParts?_concat front hname]
    refine bind_eq_ok.mpr ⟨_, around_eq_ok.mpr ⟨hpasses, rfl, hdir⟩, ?_⟩
    refine bind_eq_ok.mpr ⟨_, step_eq_ok.mpr ⟨hsize, rfl⟩, ?_⟩
    split
    next h => exact absurd h hnode
    next => rfl

end

theorem ensureParent_of_reaches {t : FileTree} {p : Path} (h : t.Reaches p) :
    t.ensureParent p = (.ok (), t) := by
  rw [ensureParent]
  split
  next => rfl
  next d hd =>
    rw [if_pos]
    rcases h.parent hd with hempty | ⟨hreach, hdir⟩
    · exact .inl hempty
    · exact .inr (isPresent_iff.mpr ⟨hreach, _, hdir⟩)

section

variable {t t' : FileTree} {p : Path} {directory name : Text}

theorem reaches_join_below (hne : p.text ≠ []) (hd : directory.IsName) (hn : name.IsName) :
    t.Reaches (p.join ⟨directory ++ '/' :: name⟩) ↔
      (p.join ⟨directory ++ '/' :: name⟩).IsUsable ∧ t.Reaches p ∧
        t.node? p.place = some .directory ∧ Text.byteSize directory ≤ 255 ∧
        t.node? (p.place ++ [directory]) = some .directory ∧ Text.byteSize name ≤ 255 := by
  have hsplit : Path.split ⟨directory ++ '/' :: name⟩ = [directory, name] := by
    rw [Path.split, Text.splitOn_append, Text.splitOn_of_not_mem hd.2.2.2,
      Text.splitOn_of_not_mem hn.2.2.2]
    rfl
  rw [reaches_join_iff hne (Path.isAbsolute_below name hd), hsplit]
  simp only [Passes, Route.extend_name _ hd, and_true]

theorem writeText_of_reaches (text : Text) (hne : p.text ≠ []) (hd : directory.IsName)
    (hn : name.IsName) (hreach : t.Reaches (p.join ⟨directory ++ '/' :: name⟩))
    (hnode : t.node? (p.place ++ [directory, name]) ≠ some .directory) :
    t.writeText (p.join ⟨directory ++ '/' :: name⟩) text =
      (.ok (), t.putFile (p.place ++ [directory, name]) (Latin.encode text)) := by
  have hplace := Path.place_join_below hne hd hn
  obtain ⟨-, -, -, -, haround, -⟩ := (reaches_join_below hne hd hn).mp hreach
  have hdrop : (p.place ++ [directory, name]).dropLast = p.place ++ [directory] := by simp
  rw [← hdrop] at haround
  have hwrite : t.write (p.join ⟨directory ++ '/' :: name⟩) (Latin.encode text) =
      .ok (t.set (p.place ++ [directory, name]) (.file (Latin.encode text))) := by
    rw [write_eq_ok (Path.split_join_below hne hd hn) hn.1, hplace]
    exact ⟨hreach, hnode, rfl⟩
  rw [writeText, ensureParent_of_reaches hreach]
  dsimp only
  rw [hwrite, putFile_of_some _ haround]

end

end RpcDispatch.FileTree
