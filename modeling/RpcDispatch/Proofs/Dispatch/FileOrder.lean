import Mathlib.Data.Finset.Card
import Mathlib.Data.List.OfFn
import Mathlib.Data.Fintype.Perm
import RpcDispatch.Proofs.Dispatch.FirstDefinition

/-!
# The order of the files

The files of a table can be read in any order. Whatever it is, each name is taken once and every
other signature of it is a duplicate, so the order decides which signature of a name is taken and
not how many are or under which names. Files that share no name do not meet in the registry at all:
each has the section that it would have alone.
-/

namespace RpcDispatch

/-! ## Names and duplicates -/

def Signature.key (s : Signature) : Text := Text.lower s.name

namespace DispatchEntry

def key (e : DispatchEntry) : Text := Text.lower e.name

/-- The entry was refused for its name. -/
def isDuplicate (e : DispatchEntry) : Bool :=
  match e.fragment with
  | .skip _ .duplicateName => true
  | _ => false

/-- The names that signatures were taken under, dispatched or not. -/
def takenNames (es : List DispatchEntry) : List Text :=
  (es.filter (!·.isDuplicate)).map key

theorem takenNames_cons (e : DispatchEntry) (es : List DispatchEntry) :
    takenNames (e :: es) = if e.isDuplicate then takenNames es else e.key :: takenNames es := by
  rw [takenNames, List.filter_cons]
  cases e.isDuplicate <;> rfl

/-- Every entry is a duplicate or takes its name. -/
theorem countP_isDuplicate_add_length_takenNames (es : List DispatchEntry) :
    es.countP (·.isDuplicate) + (takenNames es).length = es.length := by
  have hrest : (fun e : DispatchEntry => !e.isDuplicate) =
      fun e => decide ¬ e.isDuplicate = true := by
    funext e
    cases e.isDuplicate <;> rfl
  rw [takenNames, List.length_map, ← List.countP_eq_length_filter, hrest]
  exact (List.length_eq_countP_add_countP _).symm

end DispatchEntry

namespace Signature

/-- The registry decides only whether a name is free. -/
theorem validate_fst (s : Signature) (r : Registry) :
    (s.validate r).1 = if s.key ∈ r.names then .error .duplicateName else s.resolve := by
  rw [validate, Registry.claim, Registry.claims, key]
  by_cases h : Text.lower s.name ∈ r.names
  · rw [if_pos (List.contains_iff_mem.mpr h), if_pos h]
  · rw [if_neg (mt List.contains_iff_mem.mp h), if_neg h]

theorem mem_names_validate {s : Signature} {r : Registry} {name : Text} :
    name ∈ (s.validate r).2.names ↔ name = s.key ∨ name ∈ r.names := by
  rw [validate_snd, Registry.claim, Registry.claims, key]
  split
  next h =>
    refine ⟨.inr, ?_⟩
    rintro (rfl | hmem)
    · exact List.contains_iff_mem.mp h
    · exact hmem
  next => rw [Registry.insert, List.mem_cons]

theorem key_ofOutcome (s : Signature) (outcome : Except SkipReason ResolvedSignature) :
    (DispatchEntry.ofOutcome s outcome).key = s.key := by
  cases outcome <;> rfl

theorem isDuplicate_ofOutcome (s : Signature) (r : Registry) :
    (DispatchEntry.ofOutcome s (s.validate r).1).isDuplicate = decide (s.key ∈ r.names) := by
  rw [validate_fst]
  by_cases h : s.key ∈ r.names
  · rw [if_pos h, decide_eq_true h]
    rfl
  · rw [if_neg h, decide_eq_false h]
    cases hresolve : s.resolve with
    | ok f => rfl
    | error reason =>
        have hne := (resolve_eq_error.mp hresolve).ne_duplicateName
        cases reason with
        | duplicateName => exact absurd rfl hne
        | _ => rfl

end Signature

namespace DispatchTable

/-! ## Each name is taken once -/

variable {ss : List Signature} {r r' : Registry} {name : Text}

theorem mem_names_entriesOf :
    name ∈ (entriesOf ss r).2.names ↔ name ∈ ss.map Signature.key ∨ name ∈ r.names := by
  induction ss generalizing r with
  | nil => simp [entriesOf]
  | cons s ss ih =>
      rw [entriesOf_cons, ih, Signature.mem_names_validate, List.map_cons, List.mem_cons]
      exact or_left_comm.trans or_assoc.symm

/-- A signature is taken if its name is free. -/
theorem takenNames_entriesOf_cons (s : Signature) (ss : List Signature) (r : Registry) :
    DispatchEntry.takenNames (entriesOf (s :: ss) r).1 =
      if s.key ∈ r.names then DispatchEntry.takenNames (entriesOf ss (s.validate r).2).1
      else s.key :: DispatchEntry.takenNames (entriesOf ss (s.validate r).2).1 := by
  rw [entriesOf_cons, DispatchEntry.takenNames_cons, Signature.isDuplicate_ofOutcome,
    Signature.key_ofOutcome]
  simp only [decide_eq_true_eq]

theorem mem_takenNames_entriesOf : name ∈ DispatchEntry.takenNames (entriesOf ss r).1 ↔
    name ∈ ss.map Signature.key ∧ name ∉ r.names := by
  induction ss generalizing r with
  | nil => simp [entriesOf, DispatchEntry.takenNames]
  | cons s ss ih =>
      rw [takenNames_entriesOf_cons, List.map_cons, List.mem_cons]
      split
      next hs =>
        rw [ih, Signature.mem_names_validate]
        constructor
        · rintro ⟨hmem, hnot⟩
          exact ⟨.inr hmem, fun hr => hnot (.inr hr)⟩
        · rintro ⟨hmem, hnot⟩
          have hne : name ≠ s.key := fun heq => hnot (heq ▸ hs)
          exact ⟨hmem.resolve_left hne, not_or.mpr ⟨hne, hnot⟩⟩
      next hs =>
        rw [List.mem_cons, ih, Signature.mem_names_validate]
        constructor
        · rintro (rfl | ⟨hmem, hnot⟩)
          · exact ⟨.inl rfl, hs⟩
          · exact ⟨.inr hmem, fun hr => hnot (.inr hr)⟩
        · rintro ⟨hmem, hnot⟩
          by_cases hname : name = s.key
          · exact .inl hname
          · exact .inr ⟨hmem.resolve_left hname, not_or.mpr ⟨hname, hnot⟩⟩

/-- A name is taken once, since every later use is a duplicate. -/
theorem nodup_takenNames_entriesOf (ss : List Signature) (r : Registry) :
    (DispatchEntry.takenNames (entriesOf ss r).1).Nodup := by
  induction ss generalizing r with
  | nil => exact List.nodup_nil
  | cons s ss ih =>
      rw [takenNames_entriesOf_cons]
      split
      next => exact ih _
      next =>
        refine List.nodup_cons.mpr ⟨fun hmem => ?_, ih _⟩
        rw [mem_takenNames_entriesOf, Signature.mem_names_validate] at hmem
        exact hmem.2 (.inl rfl)

/-! ## Files without a common name -/

/-- Of the registry, only whether it holds the names of the signatures matters. -/
theorem entriesOf_congr (h : ∀ s ∈ ss, s.key ∈ r.names ↔ s.key ∈ r'.names) :
    (entriesOf ss r).1 = (entriesOf ss r').1 := by
  induction ss generalizing r r' with
  | nil => rfl
  | cons s ss ih =>
      have hs := h s List.mem_cons_self
      have hrest : ∀ t ∈ ss, t.key ∈ (s.validate r).2.names ↔ t.key ∈ (s.validate r').2.names := by
        intro t ht
        rw [Signature.mem_names_validate, Signature.mem_names_validate,
          h t (List.mem_cons_of_mem s ht)]
      rw [entriesOf_cons, entriesOf_cons, ih hrest, Signature.validate_fst, Signature.validate_fst]
      simp only [hs]

/-- The files have no name in common. -/
def Apart (d d' : DisplayedScan) : Prop :=
  ∀ s ∈ d.scan.signatures, ∀ s' ∈ d'.scan.signatures, s.key ≠ s'.key

instance (d d' : DisplayedScan) : Decidable (Apart d d') :=
  inferInstanceAs (Decidable (∀ s ∈ d.scan.signatures, ∀ s' ∈ d'.scan.signatures, s.key ≠ s'.key))

theorem Apart.symm {d d' : DisplayedScan} (h : Apart d d') : Apart d' d :=
  fun s' hs' s hs heq => h s hs s' hs' heq.symm

/-- The section of a file that no other one comes before. -/
def sectionAlone (d : DisplayedScan) : FileSection :=
  ⟨d.display, (entriesOf d.scan.signatures .empty).1⟩

/-- Files without a common name do not meet in the registry, so each has the section that it has
alone. -/
theorem sectionsOf_of_pairwise_apart {ds : List DisplayedScan} (hds : ds.Pairwise Apart)
    (h : ∀ d ∈ ds, ∀ s ∈ d.scan.signatures, s.key ∉ r.names) :
    sectionsOf ds r = ds.map sectionAlone := by
  induction ds generalizing r with
  | nil => rfl
  | cons d ds ih =>
      obtain ⟨hd, hds⟩ := List.pairwise_cons.mp hds
      have hentries : (entriesOf d.scan.signatures r).1 =
          (entriesOf d.scan.signatures .empty).1 := by
        apply entriesOf_congr
        intro s hs
        exact iff_of_false (h d List.mem_cons_self s hs) List.not_mem_nil
      have hlater : ∀ d' ∈ ds, ∀ s ∈ d'.scan.signatures,
          s.key ∉ (entriesOf d.scan.signatures r).2.names := by
        intro d' hd' s hs hmem
        rcases mem_names_entriesOf.mp hmem with hmem | hmem
        · obtain ⟨s', hs', heq⟩ := List.mem_map.mp hmem
          exact hd d' hd' s' hs' s hs heq
        · exact h d' (List.mem_cons_of_mem d hd') s hs hmem
      rw [sectionsOf_cons, ih hds hlater, hentries, List.map_cons, sectionAlone]

theorem sections_build_of_pairwise_apart {ds : List DisplayedScan} (hds : ds.Pairwise Apart) :
    (build ds).sections = ds.map sectionAlone :=
  sectionsOf_of_pairwise_apart hds fun _ _ _ _ => List.not_mem_nil

/-! ## Tables -/

def signaturesOf (ds : List DisplayedScan) : List Signature := ds.flatMap (·.scan.signatures)

def definedNames (ds : List DisplayedScan) : Finset Text :=
  ((signaturesOf ds).map Signature.key).toFinset

def duplicateCount (t : DispatchTable) : Nat := t.entries.countP (·.isDuplicate)

def takenNames (t : DispatchTable) : Finset Text := (DispatchEntry.takenNames t.entries).toFinset

theorem entries_build (ds : List DisplayedScan) :
    (build ds).entries = (entriesOf (signaturesOf ds) .empty).1 :=
  entries_sectionsOf ds .empty

theorem takenNames_build (ds : List DisplayedScan) : (build ds).takenNames = definedNames ds := by
  ext name
  rw [takenNames, definedNames, List.mem_toFinset, List.mem_toFinset, entries_build,
    mem_takenNames_entriesOf]
  exact and_iff_left List.not_mem_nil

/-- There are as many duplicates as there are signatures beyond one for each name. -/
theorem duplicateCount_build (ds : List DisplayedScan) :
    (build ds).duplicateCount + (definedNames ds).card = (signaturesOf ds).length := by
  have htaken : (definedNames ds).card = (DispatchEntry.takenNames (build ds).entries).length := by
    rw [← takenNames_build, takenNames, List.toFinset_card_of_nodup]
    rw [entries_build]
    exact nodup_takenNames_entriesOf _ _
  rw [htaken, duplicateCount, DispatchEntry.countP_isDuplicate_add_length_takenNames,
    entries_build, length_entriesOf]

def reordered (ds : List DisplayedScan) (σ : Equiv.Perm (Fin ds.length)) : List DisplayedScan :=
  List.ofFn fun i => ds[σ i]

variable (ds : List DisplayedScan) (σ : Equiv.Perm (Fin ds.length))

theorem reordered_perm : (reordered ds σ).Perm ds := by
  have h := Equiv.Perm.ofFn_comp_perm σ fun i => ds[i]
  have hself : (List.ofFn fun i : Fin ds.length => ds[i]) = ds := List.ofFn_getElem
  rwa [hself] at h

theorem getElem?_reordered (i : Fin ds.length) :
    (reordered ds σ)[(i : Nat)]? = ds[(σ i : Nat)]? := by
  rw [reordered, List.getElem?_ofFn, dif_pos i.isLt]
  exact (List.getElem?_eq_getElem (σ i).isLt).symm

/-- Another order of the files changes neither how many signatures are duplicates, which is how many
there are beyond one for each name, nor the names that are taken. If no two of the files have a name
in common, their sections only change places. -/
theorem build_reordered :
    (build (reordered ds σ)).duplicateCount = (build ds).duplicateCount ∧
      (build ds).duplicateCount = (signaturesOf ds).length - (definedNames ds).card ∧
      (build (reordered ds σ)).takenNames = (build ds).takenNames ∧
      (build ds).takenNames = definedNames ds ∧
      (ds.Pairwise Apart →
        (build (reordered ds σ)).sections.length = ds.length ∧
          (build ds).sections.length = ds.length ∧
          ∀ i : Fin ds.length,
            (build (reordered ds σ)).sections[(i : Nat)]? = (build ds).sections[(σ i : Nat)]?) := by
  have hperm := reordered_perm ds σ
  have hsignatures : (signaturesOf (reordered ds σ)).Perm (signaturesOf ds) :=
    hperm.flatMap_right _
  have hnames : definedNames (reordered ds σ) = definedNames ds :=
    List.toFinset_eq_of_perm _ _ (hsignatures.map _)
  have hcount := duplicateCount_build ds
  refine ⟨?_, by omega, ?_, takenNames_build ds, ?_⟩
  · have hcount' := duplicateCount_build (reordered ds σ)
    rw [hnames, hsignatures.length_eq] at hcount'
    omega
  · rw [takenNames_build, takenNames_build, hnames]
  · intro hapart
    have hapart' : (reordered ds σ).Pairwise Apart :=
      (hperm.pairwise_iff fun h => Apart.symm h).mpr hapart
    rw [sections_build_of_pairwise_apart hapart, sections_build_of_pairwise_apart hapart']
    refine ⟨?_, List.length_map _, fun i => ?_⟩
    · rw [List.length_map, hperm.length_eq]
    · rw [List.getElem?_map, List.getElem?_map, getElem?_reordered]

def twoFiles : List DisplayedScan :=
  [file "first.axi" ["Turn"], file "second.axi" ["Stop", "STOP"]]
where
  file (path : Text) (names : List Text) : DisplayedScan :=
    ⟨path, ⟨path⟩, names.map (definition ⟨path⟩), []⟩
  definition (sourceFile : Path) (name : Text) : Signature :=
    { docComment := none, returnType := none, returnWidth := none, name, rawParams := [], body := []
      sourceFile, start := 0, stop := 0, location := ⟨1, 1⟩ }

theorem build_reordered_twoFiles :
    twoFiles.Pairwise Apart ∧
      (build (reordered twoFiles Fin.revPerm)).duplicateCount = 1 ∧
      (build (reordered twoFiles Fin.revPerm)).sections[0]? = (build twoFiles).sections[1]? := by
  have hapart : twoFiles.Pairwise Apart := by decide
  obtain ⟨hcount, -, -, -, hsections⟩ := build_reordered twoFiles Fin.revPerm
  refine ⟨hapart, hcount.trans (by decide), ?_⟩
  exact (hsections hapart).2.2 ⟨0, by decide⟩

end DispatchTable

end RpcDispatch
