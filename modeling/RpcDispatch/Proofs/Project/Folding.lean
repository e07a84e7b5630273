import RpcDispatch.Proofs.Project.PathTexts

/-!
# Folded paths

Folding a path leaves parts with one separator between them: some `..` that could not be taken
back, and then names. In this form joining, taking the parent and stripping a base act on the list
of parts, and so does every step of folding.
-/

namespace RpcDispatch

/-! ## Parts with separators between them -/

namespace Text

theorem intercalate_concat (sep : Text) {ts : List Text} (h : ts ≠ []) (t : Text) :
    intercalate sep (ts ++ [t]) = intercalate sep ts ++ sep ++ t := by
  induction ts with
  | nil => exact absurd rfl h
  | cons a ts ih =>
      by_cases hts : ts = []
      · rw [hts]
        rfl
      · have hne : ts ++ [t] ≠ [] := by simp
        rw [List.cons_append, intercalate_cons sep a hne, ih hts, intercalate_cons sep a hts]
        simp only [List.append_assoc]

theorem splitOn_intercalate {sep : Char} {ts : List Text} (hne : ts ≠ [])
    (h : ∀ t ∈ ts, sep ∉ t) : splitOn sep (intercalate [sep] ts) = ts := by
  induction ts with
  | nil => exact absurd rfl hne
  | cons t ts ih =>
      have ht : sep ∉ t := h t List.mem_cons_self
      by_cases hts : ts = []
      · rw [hts]
        exact splitOn_of_not_mem ht
      · have hrest := ih hts fun u hu => h u (List.mem_cons_of_mem t hu)
        rw [intercalate_cons _ t hts, List.append_assoc, List.singleton_append, splitOn_append,
          splitOn_of_not_mem ht, hrest, List.singleton_append]

end Text

/-! ## Components and places -/

namespace Component

def walk (here : Route) : Component → Route
  | root => []
  | current => here
  | parent => here.dropLast
  | name t => here ++ [t]

end Component

namespace Path

theorem along_eq_walk (here : Route) (parts : List Text) :
    Route.along here parts = (parts.filterMap part?).foldl Component.walk here := by
  induction parts generalizing here with
  | nil => rfl
  | cons p ps ih =>
      rw [Route.along_cons, ih, List.filterMap_cons, part?, Route.extend]
      by_cases hempty : p = []
      · simp [hempty]
      · by_cases hdot : p = "."
        · simp [hdot]
        · by_cases hdots : p = ".."
          · rw [hdots]
            rfl
          · simp only [hempty, hdot, hdots, or_self, if_false, List.foldl_cons]
            rfl

theorem place_eq_walk (p : Path) : p.place = p.components.foldl Component.walk [] := by
  rw [place, split, along_eq_walk, components, List.foldl_append]
  rcases p.lead_cases with ⟨h, -⟩ | ⟨h, -⟩ | h
  all_goals
    rw [h]
    rfl

theorem of_part?_eq_some {t : Text} {c : Component} (h : part? t = some c) :
    c = .parent ∨ (c = .name t ∧ t ≠ [] ∧ t ≠ "." ∧ t ≠ "..") := by
  rw [part?] at h
  split at h
  next => cases h
  next hempty =>
    split at h
    next => cases h
    next hdot =>
      split at h
      next => exact .inl (Option.some.inj h).symm
      next hdots => exact .inr ⟨(Option.some.inj h).symm, hempty, hdot, hdots⟩

theorem isName_of_mem_components {p : Path} {t : Text} (h : .name t ∈ p.components) :
    t.IsName := by
  rw [components, List.mem_append] at h
  rcases h with h | h
  · rcases p.lead_cases with ⟨hlead, -⟩ | ⟨hlead, -⟩ | hlead
    all_goals
      rw [hlead] at h
      simp at h
  · obtain ⟨part, hpart, hname⟩ := List.mem_filterMap.mp h
    rcases of_part?_eq_some hname with hparent | ⟨hname, hempty, hdot, hdots⟩
    · cases hparent
    · obtain rfl := Component.name.inj hname
      exact ⟨hempty, hdot, hdots, Text.not_mem_of_mem_splitOn hpart⟩

/-! ## Parts behind a root -/

def rootText (absolute : Bool) : Text := if absolute then ['/'] else []

def ofParts (absolute : Bool) (parts : List Text) : Path :=
  ⟨rootText absolute ++ Text.intercalate ['/'] parts⟩

theorem lead_of_part {c : Text} (hc : IsPart c) (r : Text) : lead ⟨c ++ r⟩ = [] := by
  obtain ⟨z, y, hx, htake, -⟩ := body_append_part [] hc r
  obtain ⟨rfl, rfl⟩ := List.append_eq_nil_iff.mp hx.symm
  rw [List.nil_append, List.take_eq_nil_iff] at htake
  rcases htake with hlength | hnil
  · exact List.eq_nil_of_length_eq_zero hlength
  · exact absurd (List.append_eq_nil_iff.mp hnil).1 hc.1

section

variable {parts : List Text} (hparts : ∀ c ∈ parts, IsPart c) (absolute : Bool)

include hparts

theorem intercalate_head (hne : parts ≠ []) :
    ∃ c r, IsPart c ∧ Text.intercalate ['/'] parts = c ++ r := by
  obtain ⟨c, ps, rfl⟩ := List.exists_cons_of_ne_nil hne
  have hc : IsPart c := hparts c List.mem_cons_self
  by_cases hps : ps = []
  · exact ⟨c, [], hc, by rw [hps, List.append_nil]; rfl⟩
  · exact ⟨c, _, hc, by rw [Text.intercalate_cons _ c hps, List.append_assoc]⟩

theorem intercalate_last (hne : parts ≠ []) :
    ∃ c r, IsPart c ∧ Text.intercalate ['/'] parts = r ++ c := by
  obtain ⟨ps, c, rfl⟩ : ∃ ps c, parts = ps ++ [c] :=
    ⟨_, _, (List.dropLast_concat_getLast hne).symm⟩
  have hc : IsPart c := hparts c (by simp)
  by_cases hps : ps = []
  · exact ⟨c, [], hc, by rw [hps]; rfl⟩
  · exact ⟨c, _, hc, Text.intercalate_concat _ hps c⟩

theorem lead_ofParts : (ofParts absolute parts).lead = if absolute then [.root] else [] := by
  cases absolute with
  | true => rfl
  | false =>
      by_cases hne : parts = []
      · rw [hne]
        rfl
      · obtain ⟨c, r, hc, htext⟩ := intercalate_head hparts hne
        rw [ofParts, htext]
        exact lead_of_part hc r

theorem take_ofParts : (ofParts absolute parts).text.take (ofParts absolute parts).leadLength =
    rootText absolute := by
  rw [leadLength, lead_ofParts hparts]
  cases absolute <;> rfl

theorem body_ofParts : (ofParts absolute parts).body = Text.intercalate ['/'] parts := by
  rw [body, leadLength, lead_ofParts hparts]
  cases absolute <;> rfl

theorem trimBody_intercalate :
    trimBody (Text.intercalate ['/'] parts).reverse = (Text.intercalate ['/'] parts).reverse := by
  by_cases hne : parts = []
  · rw [hne]
    rfl
  · obtain ⟨c, r, hc, htext⟩ := intercalate_last hparts hne
    rw [htext, List.reverse_append]
    exact trimBody_part hc _

theorem components_ofParts : (ofParts absolute parts).components =
    (if absolute then [.root] else []) ++ parts.filterMap part? := by
  rw [components, lead_ofParts hparts]
  congr 1
  have hslash : ∀ c ∈ parts, '/' ∉ c := fun c hc => (hparts c hc).2.2
  by_cases hne : parts = []
  · rw [hne]
    cases absolute <;> rfl
  · have hsplit := Text.splitOn_intercalate hne hslash
    cases absolute with
    | true =>
        have htext : (ofParts true parts).text = [] ++ '/' :: Text.intercalate ['/'] parts := rfl
        rw [htext, Text.splitOn_append, hsplit]
        rfl
    | false => exact congrArg (List.filterMap part?) hsplit

theorem join_ofParts {c : Text} (hc : IsPart c) :
    (ofParts absolute parts).join ⟨c⟩ = ofParts absolute (parts ++ [c]) := by
  have habsolute : isAbsolute ⟨c⟩ = false := by
    obtain ⟨x, xs, rfl⟩ := List.exists_cons_of_ne_nil hc.1
    rw [isAbsolute, beq_eq_false_iff_ne]
    rintro hx
    obtain rfl := Option.some.inj hx
    exact hc.2.2 List.mem_cons_self
  rw [join, if_neg (by simp [habsolute])]
  by_cases hne : parts = []
  · rw [hne]
    cases absolute <;> rfl
  · obtain ⟨d, r, hd, htext⟩ := intercalate_last hparts hne
    obtain ⟨ds, x, rfl⟩ : ∃ ds x, d = ds ++ [x] :=
      ⟨_, _, (List.dropLast_concat_getLast hd.1).symm⟩
    have hx : x ≠ '/' := by
      rintro rfl
      exact hd.2.2 (by simp)
    have hlast : (ofParts absolute parts).text.getLast? = some x := by
      rw [ofParts, htext, ← List.append_assoc, ← List.append_assoc, List.getLast?_concat]
    rw [hlast]
    dsimp only
    rw [if_neg hx, ofParts, ofParts, Text.intercalate_concat _ hne]
    simp

theorem parent?_ofParts {c : Text} (hc : IsPart c) :
    (ofParts absolute (parts ++ [c])).parent? = some (ofParts absolute parts) := by
  have hall : ∀ d ∈ parts ++ [c], IsPart d := by
    intro d hd
    rcases List.mem_append.mp hd with hd | hd
    · exact hparts d hd
    · exact List.mem_singleton.mp hd ▸ hc
  obtain ⟨r, hreverse, hr⟩ : ∃ r, (Text.intercalate ['/'] (parts ++ [c])).reverse =
      c.reverse ++ r ∧ trimBody (r.dropWhile fun x => decide (x ≠ '/')) =
        (Text.intercalate ['/'] parts).reverse := by
    by_cases hne : parts = []
    · rw [hne]
      exact ⟨[], by rw [List.append_nil]; rfl, rfl⟩
    · refine ⟨'/' :: (Text.intercalate ['/'] parts).reverse, ?_, ?_⟩
      · rw [Text.intercalate_concat _ hne]
        simp
      · rw [List.dropWhile_cons_of_neg (by simp), trimBody_slash, trimBody_intercalate hparts]
  rw [parent?, body_ofParts hall, take_ofParts hall, hreverse, trimBody_part hc]
  split
  next h => exact absurd (List.reverse_eq_nil_iff.mp (List.append_eq_nil_iff.mp h).1) hc.1
  next =>
    rw [dropWhile_part hc, hr, List.reverse_reverse]
    rfl

end

/-! ## Folding -/

/-- A folded path: behind the root or not, some `..`, and names. -/
structure Folded where
  absolute : Bool
  ups : Nat
  names : List Text
  isName : ∀ n ∈ names, n.IsName

namespace Folded

def up : Text := ".."

def parts (x : Folded) : List Text := List.replicate x.ups up ++ x.names

def path (x : Folded) : Path := ofParts x.absolute x.parts

theorem isPart_up : IsPart up := by
  rw [IsPart]
  decide

theorem isPart (x : Folded) : ∀ c ∈ x.parts, IsPart c := by
  intro c hc
  rcases List.mem_append.mp hc with hc | hc
  · rw [List.eq_of_mem_replicate hc]
    exact isPart_up
  · exact isPart_of_isName (x.isName c hc)

theorem filterMap_names {ns : List Text} (h : ∀ n ∈ ns, n.IsName) :
    ns.filterMap part? = ns.map .name := by
  induction ns with
  | nil => rfl
  | cons n ns ih =>
      rw [List.filterMap_cons_some (part?_of_isName (h n List.mem_cons_self)), List.map_cons,
        ih fun m hm => h m (List.mem_cons_of_mem n hm)]

theorem components_path (x : Folded) : x.path.components =
    (if x.absolute then [.root] else []) ++
      (List.replicate x.ups Component.parent ++ x.names.map .name) := by
  have hups : (List.replicate x.ups up).filterMap part? =
      List.replicate x.ups Component.parent :=
    List.filterMap_replicate_of_some rfl
  rw [path, components_ofParts x.isPart, parts, List.filterMap_append, hups,
    filterMap_names x.isName]

theorem dropLast_take_length_sub (here : Route) (n : Nat) :
    (here.take (here.length - n)).dropLast = here.take (here.length - (n + 1)) := by
  rw [List.dropLast_eq_take, List.take_take, List.length_take]
  congr 1
  omega

theorem walk_parents (here : Route) (n : Nat) :
    (List.replicate n Component.parent).foldl Component.walk here =
      here.take (here.length - n) := by
  induction n with
  | zero => simp
  | succ n ih =>
      rw [List.replicate_succ', List.foldl_append, ih]
      exact dropLast_take_length_sub here n

theorem walk_names (here : Route) (ns : List Text) :
    (ns.map Component.name).foldl Component.walk here = here ++ ns := by
  induction ns generalizing here with
  | nil => simp
  | cons n ns ih => simp [Component.walk, ih]

/-- In front, a `..` leads nowhere from the root. -/
theorem place_path (x : Folded) : x.path.place = x.names := by
  have hroot : (if x.absolute then [Component.root] else []).foldl Component.walk [] = [] := by
    cases x.absolute <;> rfl
  rw [place_eq_walk, components_path, List.foldl_append, List.foldl_append, hroot, walk_parents,
    walk_names, List.take_nil, List.nil_append]

/-- Where no name is left, going up takes back one of the `..`; where none of them is left either,
it adds one. -/
theorem foldStep_parent_nil (absolute : Bool) (ups : Nat) :
    foldStep (ofParts absolute (List.replicate ups up)) .parent =
      ofParts absolute (List.replicate (if ups = 0 then 1 else ups - 1) up) := by
  cases ups with
  | zero =>
      have hparent : (ofParts absolute []).parent? = none := by
        cases absolute <;> decide
      rw [List.replicate_zero, foldStep, hparent]
      exact join_ofParts (by simp) absolute isPart_up
  | succ n =>
      have hups : ∀ c ∈ List.replicate n up, IsPart c := by
        intro c hc
        rw [List.eq_of_mem_replicate hc]
        exact isPart_up
      rw [List.replicate_succ', foldStep, parent?_ofParts hups absolute isPart_up]
      rfl

/-- Whatever stands last is taken away, a `..` that was kept included. -/
theorem foldStep_parent_concat (absolute : Bool) {parts : List Text} {n : Text}
    (hparts : ∀ c ∈ parts, IsPart c) (hn : IsPart n) :
    foldStep (ofParts absolute (parts ++ [n])) .parent = ofParts absolute parts := by
  rw [foldStep, parent?_ofParts hparts absolute hn]
  rfl

/-- The `..` in front after one component more. -/
def upsAfter (x : Folded) : Component → Nat
  | .root => 0
  | .parent => if x.names = [] then (if x.ups = 0 then 1 else x.ups - 1) else x.ups
  | .current => x.ups
  | .name _ => x.ups

structure Steps (x : Folded) (c : Component) (y : Folded) : Prop where
  absolute : y.absolute = (x.absolute || c == .root)
  ups : y.ups = x.upsAfter c
  names : y.names = c.walk x.names

/-- One component more leads to a folded path again. -/
theorem foldStep_path (x : Folded) {c : Component} (hc : ∀ t, c = .name t → t.IsName) :
    ∃ y : Folded, foldStep x.path c = y.path ∧ x.Steps c y := by
  obtain ⟨absolute, ups, names, hnames⟩ := x
  have hx := isPart ⟨absolute, ups, names, hnames⟩
  cases c with
  | root =>
      have hstep (p : Path) : foldStep p .root = p.join ⟨Component.root.text⟩ := rfl
      have habsolute : isAbsolute ⟨Component.root.text⟩ = true := by decide
      refine ⟨⟨true, 0, [], by simp⟩, ?_, by simp, rfl, rfl⟩
      rw [hstep, join, if_pos habsolute]
      decide
  | current => exact ⟨_, rfl, by simp, rfl, rfl⟩
  | name t =>
      have ht := hc t rfl
      refine ⟨⟨absolute, ups, names ++ [t], ?_⟩, ?_, by simp, rfl, rfl⟩
      · intro n hn
        rcases List.mem_append.mp hn with hn | hn
        · exact hnames n hn
        · exact List.mem_singleton.mp hn ▸ ht
      · have hjoin := join_ofParts hx absolute (isPart_of_isName ht)
        rw [parts, List.append_assoc] at hjoin
        exact hjoin
  | parent =>
      by_cases hne : names = []
      · subst hne
        refine ⟨⟨absolute, if ups = 0 then 1 else ups - 1, [], by simp⟩, ?_, by simp, rfl, rfl⟩
        rw [path, path, parts, parts, List.append_nil, List.append_nil]
        exact foldStep_parent_nil absolute ups
      · obtain ⟨init, n, rfl⟩ : ∃ init n, names = init ++ [n] :=
          ⟨_, _, (List.dropLast_concat_getLast hne).symm⟩
        have hinit : ∀ m ∈ init, m.IsName := fun m hm => hnames m (by simp [hm])
        have hn : IsPart n := isPart_of_isName (hnames n (by simp))
        refine ⟨⟨absolute, ups, init, hinit⟩, ?_, by simp, by simp [upsAfter], ?_⟩
        · have hparts := isPart ⟨absolute, ups, init, hinit⟩
          have hstep := foldStep_parent_concat absolute hparts hn
          rw [parts, List.append_assoc] at hstep
          exact hstep
        · rw [Component.walk, List.dropLast_concat]

end Folded

/-! ## What remains below a base -/

theorem trimFront_eq (t : Text) : trimFront t = trimBody t := by
  fun_induction trimFront t with
  | case1 t ih => rw [ih, trimBody]
  | case2 t ih => rw [ih, trimBody]
  | case3 => rfl
  | case4 t hslash hdot hsingle => rw [trimBody] <;> assumption

theorem trimFront_part {c : Text} (hc : IsPart c) (r : Text) : trimFront (c ++ r) = c ++ r := by
  have hreverse : IsPart c.reverse := by
    refine ⟨by simpa using hc.1, ?_, by simpa using hc.2.2⟩
    intro h
    exact hc.2.1 (List.reverse_eq_iff.mp h)
  have htrim := trimBody_part hreverse r
  rw [List.reverse_reverse] at htrim
  rw [trimFront_eq, htrim]

theorem skipParts_slash (n : Nat) (t : Text) :
    trimFront (skipParts n ('/' :: t)) = trimFront (skipParts n t) := by
  cases n with
  | zero => rw [skipParts, skipParts, trimFront]
  | succ n => rw [skipParts, skipParts, trimFront]

theorem trimFront_skipParts {parts : List Text} (hparts : ∀ c ∈ parts, IsPart c) (n : Nat) :
    trimFront (skipParts n (Text.intercalate ['/'] parts)) =
      Text.intercalate ['/'] (parts.drop n) := by
  induction n generalizing parts with
  | zero =>
      by_cases hne : parts = []
      · rw [hne]
        rfl
      · obtain ⟨c, r, hc, htext⟩ := intercalate_head hparts hne
        rw [skipParts, List.drop_zero, htext]
        exact trimFront_part hc r
  | succ n ih =>
      cases parts with
      | nil =>
          have hnone : ∀ c ∈ ([] : List Text), IsPart c := by simp
          have hnil := ih hnone
          rw [List.drop_nil] at hnil ⊢
          exact hnil
      | cons c ps =>
          have hc : IsPart c := hparts c List.mem_cons_self
          have hps : ∀ d ∈ ps, IsPart d := fun d hd => hparts d (List.mem_cons_of_mem c hd)
          have hnoslash : ∀ x ∈ c, decide (x ≠ '/') = true := by
            intro x hx
            refine decide_eq_true ?_
            rintro rfl
            exact hc.2.2 hx
          rw [List.drop_succ_cons, ← ih hps, skipParts]
          by_cases hne : ps = []
          · have hone : Text.intercalate ['/'] [c] = c ++ [] := (List.append_nil c).symm
            rw [hne, hone, trimFront_part hc, List.dropWhile_append_of_pos hnoslash]
            rfl
          · rw [Text.intercalate_cons _ c hne, List.append_assoc, trimFront_part hc,
              List.dropWhile_append_of_pos hnoslash, List.singleton_append,
              List.dropWhile_cons_of_neg (by simp), skipParts_slash]

theorem trimEnd_intercalate {parts : List Text} (hparts : ∀ c ∈ parts, IsPart c) :
    stripBase?.trimEnd (Text.intercalate ['/'] parts) = Text.intercalate ['/'] parts := by
  rw [stripBase?.trimEnd, trimBody_intercalate hparts, List.reverse_reverse]

namespace Folded

/-- Below a base at another place remains the whole path or some of its last parts. -/
theorem stripBase?_path {x : Folded} {base r : Path} (h : x.path.stripBase? base = some r)
    (hbase : base.place ≠ x.names) :
    r = x.path ∨ ∃ k < x.parts.length, r.text = Text.intercalate ['/'] (x.parts.drop k) := by
  have hbody : x.path.body = Text.intercalate ['/'] x.parts := body_ofParts x.isPart x.absolute
  have hlead : x.path.lead = if x.absolute then [.root] else [] :=
    lead_ofParts x.isPart x.absolute
  have htake : x.path.text.take x.path.leadLength = rootText x.absolute :=
    take_ofParts x.isPart x.absolute
  rw [stripBase?] at h
  split at h
  next =>
    left
    rw [hbody, trimEnd_intercalate x.isPart, htake] at h
    exact (Option.some.inj h).symm
  next hfront =>
    split at h
    next hpre =>
      right
      obtain rfl := Option.some.inj h
      refine ⟨base.components.length - x.path.lead.length, ?_, ?_⟩
      · rw [List.isPrefixOf_iff_prefix] at hpre
        have hlength : x.path.components.length = x.path.lead.length + x.parts.length := by
          rw [components_path, hlead, parts]
          simp
        have hshort : x.path.lead.length ≤ 1 := by
          rw [hlead]
          split <;> simp
        have hpos := List.length_pos_iff.mpr hfront
        have hne : base.components ≠ x.path.components := by
          intro heq
          rw [place_eq_walk, heq, ← place_eq_walk, place_path] at hbase
          exact hbase rfl
        have hlt : base.components.length < x.path.components.length := by
          refine Nat.lt_of_le_of_ne hpre.length_le fun heq => hne ?_
          exact hpre.eq_of_length heq
        omega
      · have hdrop : ∀ n, ∀ c ∈ x.parts.drop n, IsPart c := fun n c hc =>
          x.isPart c (List.mem_of_mem_drop hc)
        dsimp only
        rw [hbody, trimFront_skipParts x.isPart, trimEnd_intercalate (hdrop _)]
    next => cases h

theorem intercalate_concat_start (ts : List Text) (name : Text) :
    ∃ start, (start = [] ∨ start.getLast? = some '/') ∧
      Text.intercalate ['/'] (ts ++ [name]) = start ++ name := by
  by_cases hne : ts = []
  · exact ⟨[], .inl rfl, by rw [hne]; rfl⟩
  · exact ⟨_, .inr (List.getLast?_concat), Text.intercalate_concat _ hne name⟩

/-- A path shown below a base ends in its last name, unless it is the base itself. -/
theorem shown_eq {x : Folded} {init : List Text} {name : Text} (hx : x.names = init ++ [name])
    {base : Path} (hbase : base.place ≠ x.names) :
    ∃ start, (start = [] ∨ start.getLast? = some '/') ∧
      ((x.path.stripBase? base).getD x.path).text = start ++ name := by
  have hparts : x.parts = (List.replicate x.ups up ++ init) ++ [name] := by
    rw [parts, hx, List.append_assoc]
  have hpath : ∃ start, (start = [] ∨ start.getLast? = some '/') ∧ x.path.text = start ++ name := by
    obtain ⟨start, hstart, htext⟩ := intercalate_concat_start (List.replicate x.ups up ++ init) name
    refine ⟨rootText x.absolute ++ start, ?_, ?_⟩
    · rcases hstart with rfl | hlast
      · cases x.absolute
        · exact .inl rfl
        · exact .inr rfl
      · right
        rw [List.getLast?_append, hlast]
        rfl
    · rw [path, ofParts, hparts, htext, List.append_assoc]
  cases hstrip : x.path.stripBase? base with
  | none => exact hpath
  | some r =>
      rcases stripBase?_path hstrip hbase with rfl | ⟨k, hk, hr⟩
      · exact hpath
      · obtain ⟨start, hstart, htext⟩ := intercalate_concat_start
          ((List.replicate x.ups up ++ init).drop k) name
        refine ⟨start, hstart, ?_⟩
        rw [hparts, List.length_append, List.length_singleton] at hk
        rw [Option.getD_some, hr, hparts, List.drop_append_of_le_length (by omega), htext]

end Folded

end Path

end RpcDispatch
