import RpcDispatch.Proofs.Project.Storing

/-!
# What storing a text leaves alone

On the way to a file that is stored, directories are made where nothing was. Files change only at
the place of the path, and only once the bytes have been written there.
-/

namespace RpcDispatch.FileTree

/-! ## Directories made on the way -/

/-- Some places where nothing was have become directories, and all else is as it was. -/
def Widens (t t' : FileTree) : Prop :=
  ∀ r, t'.node? r = t.node? r ∨ t.node? r = none ∧ t'.node? r = some .directory

namespace Widens

variable {t t' t'' : FileTree}

theorem refl (t : FileTree) : Widens t t := fun _ => .inl rfl

theorem trans (h : Widens t t') (h' : Widens t' t'') : Widens t t'' := by
  intro r
  rcases h r with hsame | ⟨hnone, hdir⟩
  · rw [← hsame]
    exact h' r
  · right
    refine ⟨hnone, ?_⟩
    rcases h' r with hsame' | ⟨hnone', -⟩
    · rw [hsame', hdir]
    · rw [hdir] at hnone'
      cases hnone'

theorem file_iff (h : Widens t t') (r : Route) (bytes : List UInt8) :
    t'.node? r = some (.file bytes) ↔ t.node? r = some (.file bytes) := by
  rcases h r with hsame | ⟨hnone, hdir⟩
  · rw [hsame]
  · rw [hnone, hdir]
    simp

theorem set_directory {r : Route} (hr : t.node? r = none) : Widens t (t.set r .directory) := by
  have hne : r ≠ [] := by
    rintro rfl
    cases hr
  intro s
  by_cases hs : s = r
  · right
    rw [hs]
    exact ⟨hr, node?_set_self t _ hne⟩
  · left
    exact node?_set_of_ne t _ hs

end Widens

theorem widens_of_makeDirectory {t t' : FileTree} {p : Path} (h : t.makeDirectory p = .ok t') :
    Widens t t' := by
  rw [makeDirectory, bind_eq_ok] at h
  obtain ⟨ps, -, h⟩ := h
  split at h
  next => cases h
  next x hx =>
    obtain ⟨here, -, h⟩ := bind_eq_ok.mp h
    obtain ⟨r, -, h⟩ := bind_eq_ok.mp h
    cases hnode : t.node? r with
    | some n =>
        rw [hnode] at h
        cases h
    | none =>
        rw [hnode] at h
        obtain rfl := Except.ok.inj h
        exact .set_directory hnode

theorem widens_makeAll (t : FileTree) (ps : List Path) : Widens t (t.makeAll ps).2 := by
  induction ps with
  | nil => exact .refl t
  | cons p ps ih =>
      rw [makeAll]
      split
      next t₁ hmake => exact widens_of_makeDirectory hmake
      next =>
        split
        next e t₁ hrest =>
          rw [hrest] at ih
          exact ih
        next t₁ hrest =>
          rw [hrest] at ih
          split
          next t₂ hmake => exact ih.trans (widens_of_makeDirectory hmake)
          next => exact ih
      next => exact .refl t

theorem widens_ensureParent (t : FileTree) (p : Path) : Widens t (t.ensureParent p).2 := by
  rw [ensureParent]
  split
  next => exact .refl t
  next d _ =>
    split
    next => exact .refl t
    next =>
      have hmade : Widens t (t.makeDirectories d).2 := widens_makeAll t _
      split
      next t₁ hmake =>
        rw [hmake] at hmade
        exact hmade
      next f t₁ hmake =>
        rw [hmake] at hmade
        exact hmade

/-! ## The file itself -/

/-- Unless a separator follows it, the last name is the last part. -/
theorem eq_concat_of_ofParts? {parts : List Text} {x : Target}
    (h : Target.ofParts? parts = some x) (hopen : x.closed = false) :
    parts = x.front ++ [x.name] ∧ x.name ≠ [] := by
  rcases List.eq_nil_or_concat' parts with rfl | ⟨front, name, rfl⟩
  · cases h
  · by_cases hname : name = []
    · rw [Target.ofParts?, List.getLast?_concat] at h
      split at h
      next => cases h
      next =>
        obtain rfl := Option.some.inj h
        simp [hname] at hopen
    · rw [ofParts?_concat front hname] at h
      obtain rfl := Option.some.inj h
      exact ⟨rfl, hname⟩

/-- A file is put at the place of its path, where no directory stood. -/
theorem write_spec {t t' : FileTree} {p : Path} {bytes : List UInt8}
    (h : t.write p bytes = .ok t') :
    t.Reaches p ∧ t.node? p.place ≠ some .directory ∧ t' = t.set p.place (.file bytes) := by
  have hwrite := h
  rw [write, bind_eq_ok] at h
  obtain ⟨ps, hps, h⟩ := h
  obtain ⟨-, rfl⟩ := parts_eq_ok.mp hps
  split at h
  next => cases h
  next x hx =>
    obtain ⟨here, -, h⟩ := bind_eq_ok.mp h
    cases hclosed : x.closed with
    | true =>
        rw [hclosed] at h
        cases h
    | false =>
        obtain ⟨hsplit, hname⟩ := eq_concat_of_ofParts? hx hclosed
        exact (write_eq_ok hsplit hname).mp hwrite

/-- A text that has been stored at a path is read there, and no other file is different. -/
structure Stores (t : FileTree) (p : Path) (text : Text) (t' : FileTree) : Prop where
  read : t'.read p = .ok (Latin.encode text)
  others : ∀ r, r ≠ p.place → ∀ bytes,
    t'.node? r = some (.file bytes) ↔ t.node? r = some (.file bytes)

/-- A write that succeeds has at most made directories besides. -/
theorem stores_of_writeText {t t' : FileTree} {p : Path} {text : Text}
    (h : t.writeText p text = (.ok (), t')) : t.Stores p text t' := by
  rw [writeText] at h
  split at h
  next => cases (Prod.mk.inj h).1
  next t₁ hensure =>
    have hwide := widens_ensureParent t p
    rw [hensure] at hwide
    split at h
    next t₂ hwrite =>
      obtain rfl := (Prod.mk.inj h).2
      obtain ⟨hreach, hnode, rfl⟩ := write_spec hwrite
      have hne : p.place ≠ [] := by
        intro hnil
        rw [hnil] at hnode
        exact hnode rfl
      constructor
      · rw [read_eq_ok]
        exact ⟨hreach.set_file _ hnode, node?_set_self t₁ _ hne⟩
      · intro r hr bytes
        rw [node?_set_of_ne t₁ _ hr]
        exact hwide.file_iff r bytes
    next => cases (Prod.mk.inj h).1

theorem widens_of_writeText {t t' : FileTree} {p : Path} {text : Text} {e : Error}
    (h : t.writeText p text = (.error e, t')) : Widens t t' := by
  have hwide := widens_ensureParent t p
  rw [writeText] at h
  split at h
  next e₁ t₁ hensure =>
    rw [hensure] at hwide
    rw [← (Prod.mk.inj h).2]
    exact hwide
  next t₁ hensure =>
    rw [hensure] at hwide
    split at h
    next => cases (Prod.mk.inj h).1
    next =>
      rw [← (Prod.mk.inj h).2]
      exact hwide

end RpcDispatch.FileTree
