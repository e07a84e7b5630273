import RpcDispatch.Project.Selection
import RpcDispatch.Proofs.Lexing.Characters
import RpcDispatch.Proofs.Project.Walking

/-!
# Paths as they are shown

An entry is folded and then shown below the folded root. Two absolute paths below a root are shown
alike if and only if they have the same components, in whatever way each of them was written.
-/

namespace RpcDispatch

namespace Path

variable {p q : Path}

/-! ## Absolute paths -/

theorem lead_of_isAbsolute (h : p.isAbsolute = true) : p.lead = [.root] := by
  rw [lead, if_pos h]

theorem text_of_isAbsolute (h : p.isAbsolute = true) : ∃ t, p.text = '/' :: t := by
  rw [isAbsolute, beq_iff_eq] at h
  exact List.head?_eq_some_iff.mp h

theorem isAbsolute_join (h : p.isAbsolute = true) (q : Path) : (p.join q).isAbsolute = true := by
  obtain ⟨t, ht⟩ := text_of_isAbsolute h
  rw [join]
  split
  next hq => exact hq
  next =>
    split
    next hnone => simp [ht] at hnone
    next => split <;> simp [isAbsolute, ht]

theorem foldStep_root : foldStep ⟨[]⟩ .root = ofParts true [] := rfl

/-! ## Paths without `..` -/

theorem components_of_isAbsolute (h : p.isAbsolute = true) (hup : .parent ∉ p.components) :
    p.components = .root :: p.place.map .name := by
  have hnames : ∀ cs : List Component, (∀ c ∈ cs, ∃ n, c = .name n) →
      ∃ ns : List Text, cs = ns.map .name := by
    intro cs
    induction cs with
    | nil => exact fun _ => ⟨[], rfl⟩
    | cons c cs ih =>
        intro hcs
        obtain ⟨⟨n, rfl⟩, hrest⟩ := List.forall_mem_cons.mp hcs
        obtain ⟨ns, rfl⟩ := ih hrest
        exact ⟨n :: ns, rfl⟩
  have hcomponents : p.components = .root :: p.split.filterMap part? := by
    rw [components, lead_of_isAbsolute h, List.singleton_append, split]
  obtain ⟨ns, hns⟩ : ∃ ns : List Text, p.split.filterMap part? = ns.map .name := by
    refine hnames _ fun c hc => ?_
    obtain ⟨t, -, hpart⟩ := List.mem_filterMap.mp hc
    rcases of_part?_eq_some hpart with rfl | ⟨hname, -⟩
    · exact absurd (hcomponents ▸ List.mem_cons_of_mem _ hc) hup
    · exact ⟨t, hname⟩
  rw [place_eq_walk, hcomponents, hns, List.foldl_cons, Component.walk, Folded.walk_names,
    List.nil_append]

theorem foldl_names {parts names : List Text} (hparts : ∀ c ∈ parts, IsPart c)
    (hnames : ∀ c ∈ names, IsPart c) :
    (names.map .name).foldl foldStep (ofParts true parts) = ofParts true (parts ++ names) := by
  induction names generalizing parts with
  | nil => rw [List.map_nil, List.foldl_nil, List.append_nil]
  | cons n names ih =>
      obtain ⟨hn, hnames⟩ := List.forall_mem_cons.mp hnames
      have hstep : foldStep (ofParts true parts) (.name n) = ofParts true (parts ++ [n]) :=
        join_ofParts hparts true hn
      have hparts' : ∀ c ∈ parts ++ [n], IsPart c := by
        simpa [or_imp, forall_and] using ⟨hparts, hn⟩
      rw [List.map_cons, List.foldl_cons, hstep, ih hparts' hnames, List.append_assoc,
        List.singleton_append]

theorem isPart_of_mem_place (p : Path) : ∀ c ∈ p.place, IsPart c :=
  fun _ hc => isPart_of_isName (p.isName_of_mem_place _ hc)

/-- Without a `..`, folding an absolute path loses nothing. -/
theorem fold_eq_place (h : p.isAbsolute = true) (hup : .parent ∉ p.components) :
    p.fold = ofParts true p.place := by
  rw [fold, components_of_isAbsolute h hup, List.foldl_cons, foldStep_root,
    foldl_names (by simp) p.isPart_of_mem_place, List.nil_append]

/-! ## Components -/

theorem components_join (h : p.isAbsolute = true) (hq : q.isAbsolute = false) :
    (p.join q).components = p.components ++ q.split.filterMap part? := by
  obtain ⟨t, ht⟩ := text_of_isAbsolute h
  have hsplit : (p.join q).split = p.front ++ q.split := split_join (by simp [ht]) hq
  have hfront : p.front.filterMap part? = p.split.filterMap part? := by
    rcases p.split_eq_front with hp | hp
    · rw [hp]
    · rw [hp, List.filterMap_append]
      simp [part?]
  rw [components, lead_of_isAbsolute (isAbsolute_join h q), ← split, hsplit,
    List.filterMap_append, hfront, components, lead_of_isAbsolute h, ← split, List.append_assoc]

/-- A part is the text of its component. -/
theorem map_text_filterMap {parts : List Text} (h : ∀ c ∈ parts, IsPart c) :
    (parts.filterMap part?).map Component.text = parts := by
  induction parts with
  | nil => rfl
  | cons c parts ih =>
      obtain ⟨hc, hparts⟩ := List.forall_mem_cons.mp h
      obtain ⟨d, hd, htext⟩ : ∃ d, part? c = some d ∧ d.text = c := by
        rw [part?, if_neg hc.1, if_neg hc.2.1]
        split
        next hup => exact ⟨_, rfl, hup.symm⟩
        next => exact ⟨_, rfl, rfl⟩
      rw [List.filterMap_cons_some hd, List.map_cons, htext, ih hparts]

theorem prefix_filterMap_iff {names parts : List Text} (hnames : ∀ c ∈ names, IsPart c)
    (hparts : ∀ c ∈ parts, IsPart c) :
    names.filterMap part? <+: parts.filterMap part? ↔ names <+: parts := by
  constructor
  · intro h
    have hmap := h.map Component.text
    rwa [map_text_filterMap hnames, map_text_filterMap hparts] at hmap
  · exact fun h => h.filterMap part?

/-! ## What remains below a root -/

/-- A base is taken off at a separator only, never inside a name. -/
theorem stripBase?_ofParts {names parts : List Text} (hnames : ∀ c ∈ names, IsPart c)
    (hparts : ∀ c ∈ parts, IsPart c) :
    (ofParts true parts).stripBase? (ofParts true names) =
      if names <+: parts then some ⟨Text.intercalate ['/'] (parts.drop names.length)⟩ else none := by
  have hlength : (names.filterMap part?).length = names.length := by
    rw [← List.length_map Component.text, map_text_filterMap hnames]
  have hdrop : ∀ c ∈ parts.drop names.length, IsPart c := fun c hc =>
    hparts c (List.mem_of_mem_drop hc)
  rw [stripBase?, components_ofParts hnames, components_ofParts hparts, if_pos rfl,
    lead_ofParts hparts, if_pos rfl, body_ofParts hparts]
  rw [if_neg (by simp)]
  simp only [List.isPrefixOf_iff_prefix, List.singleton_append, List.cons_prefix_cons, true_and,
    prefix_filterMap_iff hnames hparts, List.length_cons, List.length_nil, hlength,
    Nat.add_sub_cancel]
  rw [trimFront_skipParts hparts, trimEnd_intercalate hdrop]

/-! ## Backslashes -/

theorem subset_of_mem_splitOn {sep : Char} {t c : Text} (h : c ∈ Text.splitOn sep t) : c ⊆ t := by
  induction t generalizing c with
  | nil => rw [List.mem_singleton.mp h]; exact List.nil_subset []
  | cons d t ih =>
      have htail {e : Text} (he : e ∈ Text.splitOn sep t) : e ⊆ d :: t :=
        List.Subset.trans (ih he) (List.subset_cons_self d t)
      rw [Text.splitOn] at h
      split at h
      next => exact (List.mem_cons.mp h).elim (fun h => h ▸ List.nil_subset _) htail
      next =>
        split at h
        next hs => exact absurd hs (Text.splitOn_ne_nil sep t)
        next e es hs =>
          rcases List.mem_cons.mp h with rfl | h
          · exact List.cons_subset_cons d (ih (by simp [hs]))
          · exact htail (by simp [hs, h])

theorem mem_of_mem_along {here : Route} {parts : List Text} {n : Text}
    (h : n ∈ Route.along here parts) : n ∈ here ∨ n ∈ parts := by
  induction parts generalizing here with
  | nil => exact .inl h
  | cons c parts ih =>
      rcases ih h with h | h
      · rw [Route.extend] at h
        split at h
        next => exact .inl h
        next =>
          split at h
          next => exact .inl (List.dropLast_subset here h)
          next =>
            refine (List.mem_append.mp h).imp_right fun h => ?_
            exact List.mem_singleton.mp h ▸ List.mem_cons_self
      · exact .inr (List.mem_cons_of_mem c h)

/-- No part holds a separator, so a text has one list of parts. -/
theorem intercalate_injective {ps qs : List Text} (hps : ∀ c ∈ ps, IsPart c)
    (hqs : ∀ c ∈ qs, IsPart c) (h : Text.intercalate ['/'] ps = Text.intercalate ['/'] qs) :
    ps = qs := by
  have hnil {ts : List Text} (hts : ∀ c ∈ ts, IsPart c) (h : Text.intercalate ['/'] ts = []) :
      ts = [] := by
    by_contra hne
    obtain ⟨c, r, hc, htext⟩ := intercalate_head hts hne
    rw [htext] at h
    exact hc.1 (List.append_eq_nil_iff.mp h).1
  by_cases hp : ps = []
  · rw [hp] at h ⊢
    exact (hnil hqs h.symm).symm
  · by_cases hq : qs = []
    · rw [hq] at h ⊢
      exact hnil hps h
    · rw [← Text.splitOn_intercalate hp fun c hc => (hps c hc).2.2, h,
        Text.splitOn_intercalate hq fun c hc => (hqs c hc).2.2]

theorem replaceChar_of_notMem {old new : Char} {t : Text} (h : old ∉ t) :
    Text.replaceChar old new t = t := by
  refine (List.map_congr_left fun c hc => ?_).trans (List.map_id t)
  have hne : c ≠ old := fun heq => h (heq ▸ hc)
  rw [if_neg hne, id_eq]

theorem notMem_replaceChar {old new : Char} (hne : new ≠ old) (t : Text) :
    old ∉ Text.replaceChar old new t := by
  intro h
  obtain ⟨c, -, hc⟩ := List.mem_map.mp h
  split at hc
  next => exact hne hc
  next hcold => exact hcold hc

theorem notMem_join {c : Char} (hslash : c ≠ '/') (hp : c ∉ p.text) (hq : c ∉ q.text) :
    c ∉ (p.join q).text := by
  rw [join]
  split
  next => exact hq
  next =>
    split
    next => exact hq
    next => split <;> simp [hp, hq, hslash]

theorem notMem_parts {c : Char} (hdot : c ≠ '.') (hp : c ∉ p.text) {x : Folded}
    (hx : x.names = p.place) : ∀ d ∈ x.parts, c ∉ d := by
  intro d hd hc
  rcases List.mem_append.mp hd with hd | hd
  · rw [List.eq_of_mem_replicate hd] at hc
    exact hdot (by simpa [Folded.up] using hc)
  · rw [hx] at hd
    exact hp (subset_of_mem_splitOn ((mem_of_mem_along hd).resolve_left List.not_mem_nil) hc)

end Path

/-! ## Entries and files -/

namespace FileTree

variable {below : Route}

theorem notMem_intercalate {ts : List Text} (h : ∀ t ∈ ts, '\\' ∉ t) :
    '\\' ∉ Text.intercalate ['/'] ts := by
  have hsep : Text.Within (· ≠ '\\') ['/'] := List.forall_mem_singleton.mpr (by decide)
  have htext : Text.Within (· ≠ '\\') (Text.intercalate ['/'] ts) :=
    Text.within_intercalate hsep fun t ht c hc heq => h t ht (heq ▸ hc)
  exact fun h => htext _ h rfl

theorem shown_eq (hback : ∀ n ∈ below, '\\' ∉ n) : shown below = Text.intercalate ['/'] below :=
  Path.replaceChar_of_notMem (notMem_intercalate hback)

theorem split_shown (hne : below ≠ []) (hnames : ∀ n ∈ below, n.IsName)
    (hback : ∀ n ∈ below, '\\' ∉ n) : Path.split ⟨shown below⟩ = below := by
  rw [Path.split, shown_eq hback]
  exact Text.splitOn_intercalate hne fun n hn => (hnames n hn).2.2.2

theorem isAbsolute_shown (hne : below ≠ []) (hnames : ∀ n ∈ below, n.IsName)
    (hback : ∀ n ∈ below, '\\' ∉ n) : Path.isAbsolute ⟨shown below⟩ = false := by
  obtain ⟨c, r, hc, htext⟩ :=
    Path.intercalate_head (fun n hn => Path.isPart_of_isName (hnames n hn)) hne
  obtain ⟨d, c, rfl⟩ := List.exists_cons_of_ne_nil hc.1
  rw [shown_eq hback, htext, Path.isAbsolute, beq_eq_false_iff_ne]
  intro hhead
  have hslash : d = '/' := Option.some.inj hhead
  exact hc.2.2 (hslash ▸ List.mem_cons_self)

end FileTree

namespace SourceFile

open FileTree

variable {root base : Path} (hroot : root.isAbsolute = true) (hup : .parent ∉ root.components)
  (hbase : base.isAbsolute = true) (hbaseSlash : '\\' ∉ base.text) (entry : Text) {below : Route}
  (hne : below ≠ []) (hnames : ∀ n ∈ below, n.IsName) (hback : ∀ n ∈ below, '\\' ∉ n)

include hbase hbaseSlash in
theorem exists_parts : ∃ parts, (∀ c ∈ parts, Path.IsPart c) ∧ (∀ c ∈ parts, '\\' ∉ c) ∧
    (ofEntry root base entry).path = Path.ofParts true parts := by
  have habsolute := Path.isAbsolute_join hbase ⟨Text.replaceChar '\\' '/' entry⟩
  have hslash := Path.notMem_join (by decide) hbaseSlash
    (Path.notMem_replaceChar (by decide : '/' ≠ '\\') entry)
  obtain ⟨x, hx, hsame, hnames⟩ := (base.join ⟨Text.replaceChar '\\' '/' entry⟩).fold_eq
  refine ⟨x.parts, x.isPart, Path.notMem_parts (by decide) hslash hnames, ?_⟩
  rw [ofEntry, hx, Path.Folded.path, hsame, habsolute]

include hroot hup hne hnames hback in
theorem components_join_shown : (root.join ⟨shown below⟩).components =
    [.root] ++ (root.place ++ below).filterMap Path.part? := by
  rw [Path.components_join hroot (isAbsolute_shown hne hnames hback), split_shown hne hnames hback,
    Path.components_of_isAbsolute hroot hup, List.filterMap_append,
    Path.Folded.filterMap_names root.isName_of_mem_place]
  rfl

include hroot hup hbase hbaseSlash hne hnames hback in
/-- An entry is shown as a file below the root is if and only if it names that file. -/
theorem display_eq_shown_iff : (ofEntry root base entry).display = shown below ↔
    (ofEntry root base entry).path.components = (root.join ⟨shown below⟩).components := by
  obtain ⟨parts, hparts, hslash, hpath⟩ := @exists_parts root base hbase hbaseSlash entry
  have hbelow : ∀ c ∈ below, Path.IsPart c := fun c hc => Path.isPart_of_isName (hnames c hc)
  have hall : ∀ c ∈ root.place ++ below, Path.IsPart c :=
    List.forall_mem_append.mpr ⟨root.isPart_of_mem_place, hbelow⟩
  have hcomponents : (ofEntry root base entry).path.components =
      (root.join ⟨shown below⟩).components ↔ parts = root.place ++ below := by
    rw [components_join_shown hroot hup hne hnames hback, hpath, Path.components_ofParts hparts,
      if_pos rfl, List.append_cancel_left_eq]
    refine ⟨fun h => ?_, fun h => h ▸ rfl⟩
    rw [← Path.map_text_filterMap hparts, h, Path.map_text_filterMap hall]
  have hdisplay : (ofEntry root base entry).display =
      (((Path.ofParts true parts).stripBase? (Path.ofParts true root.place)).getD
        (Path.ofParts true parts)).slashed := by
    rw [← hpath, ← Path.fold_eq_place hroot hup]
    rfl
  rw [hcomponents, hdisplay, Path.stripBase?_ofParts root.isPart_of_mem_place hparts]
  by_cases hprefix : root.place <+: parts
  · obtain ⟨rest, rfl⟩ := hprefix
    rw [if_pos (List.prefix_append _ _), List.drop_left, Option.getD_some, Path.slashed,
      Path.replaceChar_of_notMem (notMem_intercalate fun c hc => hslash c (by simp [hc])),
      shown_eq hback, List.append_cancel_left_eq]
    refine ⟨Path.intercalate_injective (fun c hc => hparts c (by simp [hc])) hbelow, ?_⟩
    exact fun h => h ▸ rfl
  · rw [if_neg hprefix, Option.getD_none]
    refine iff_of_false (fun h => ?_) fun h => hprefix (h ▸ List.prefix_append _ _)
    have hrelative := isAbsolute_shown hne hnames hback
    rw [← h] at hrelative
    cases hrelative

end SourceFile

end RpcDispatch
