import RpcDispatch.Proofs.Project.Places

/-!
# Joining paths and taking their parents

Both are operations on the text of a path. What they do to the place that it names, and to whether
it can be followed, is said here once.
-/

namespace RpcDispatch

namespace Path

/-! ## Joining -/

/-- The parts in front of what is joined to a path: a separator at the end opens no part. -/
def front (p : Path) : List Text :=
  if p.text.getLast? = some '/' then p.split.dropLast else p.split

theorem split_join {p q : Path} (hp : p.text ≠ []) (hq : q.isAbsolute = false) :
    (p.join q).split = p.front ++ q.split := by
  rw [join, if_neg (by simp [hq]), front, split, split, split]
  obtain ⟨c, hc⟩ : ∃ c, p.text.getLast? = some c :=
    ⟨_, List.getLast?_eq_some_getLast hp⟩
  rw [hc]
  dsimp only
  by_cases hslash : c = '/'
  · obtain ⟨x, hx⟩ := List.getLast?_eq_some_iff.mp hc
    have hsplit : Text.splitOn '/' p.text = Text.splitOn '/' x ++ [[]] := by
      rw [hx, hslash, Text.splitOn_append]
      rfl
    rw [if_pos hslash, if_pos (congrArg some hslash), hsplit, List.dropLast_concat, hx, hslash,
      List.append_assoc, List.singleton_append, Text.splitOn_append]
  · rw [if_neg hslash, if_neg (by simpa using hslash), Text.splitOn_append]

theorem split_eq_front (p : Path) : p.split = p.front ∨ p.split = p.front ++ [[]] := by
  rw [front]
  split
  next h =>
    obtain ⟨x, hx⟩ := List.getLast?_eq_some_iff.mp h
    right
    rw [split, hx, Text.splitOn_append]
    simp [Text.splitOn]
  next => exact .inl rfl

theorem along_front (p : Path) : Route.along [] p.front = p.place := by
  rw [place]
  rcases p.split_eq_front with h | h
  · rw [h]
  · rw [h, Route.along_append]
    rfl

theorem place_join {p q : Path} (hp : p.text ≠ []) (hq : q.isAbsolute = false) :
    (p.join q).place = Route.along p.place q.split := by
  rw [place, split_join hp hq, Route.along_append, along_front]

def stem (p : Path) : Text := if p.text.getLast? = some '/' then p.text.dropLast else p.text

/-- One separator is put between the two, however the first one ends. -/
theorem text_join {p q : Path} (hp : p.text ≠ []) (hq : q.isAbsolute = false) :
    (p.join q).text = p.stem ++ '/' :: q.text := by
  rw [join, if_neg (by simp [hq]), stem]
  obtain ⟨c, hc⟩ : ∃ c, p.text.getLast? = some c :=
    ⟨_, List.getLast?_eq_some_getLast hp⟩
  rw [hc]
  dsimp only
  by_cases hslash : c = '/'
  · obtain ⟨x, hx⟩ := List.getLast?_eq_some_iff.mp hc
    rw [if_pos hslash, if_pos (congrArg some hslash), hx, hslash, List.dropLast_concat]
    simp
  · rw [if_neg hslash, if_neg (by simpa using hslash)]

theorem text_eq_stem (p : Path) : p.text = p.stem ∨ p.text = p.stem ++ ['/'] := by
  rw [stem]
  split
  next h =>
    obtain ⟨x, hx⟩ := List.getLast?_eq_some_iff.mp h
    right
    rw [hx, List.dropLast_concat]
  next => exact .inl rfl

theorem IsUsable.of_join {p q : Path} (hp : p.text ≠ []) (hq : q.isAbsolute = false)
    (h : (p.join q).IsUsable) : p.IsUsable := by
  obtain ⟨hnul, -, hsize⟩ := h
  have hslash : Char.utf8Size '/' = 1 := by decide
  rw [text_join hp hq] at hnul hsize
  rw [Text.byteSize_append, Text.byteSize_cons, hslash] at hsize
  rw [List.mem_append, not_or] at hnul
  refine ⟨?_, hp, ?_⟩
  · rcases p.text_eq_stem with h | h
    · rw [h]
      exact hnul.1
    · rw [h, List.mem_append, not_or]
      exact ⟨hnul.1, by decide⟩
  · rcases p.text_eq_stem with h | h
    · rw [h]
      omega
    · rw [h, Text.byteSize_append, Text.byteSize_cons, hslash, Text.byteSize_nil]
      omega

end Path

namespace FileTree

/-- A separator at the end asks for the directory and for nothing more. -/
theorem passes_split_iff {t : FileTree} {p : Path} (hdir : t.node? p.place = some .directory) :
    t.Passes [] p.split ↔ t.Passes [] p.front := by
  rcases p.split_eq_front with h | h
  · rw [h]
  · rw [h, passes_append, Path.along_front]
    simp [Passes, hdir]

/-- A path below a directory can be followed if it is usable and its further parts can. -/
theorem reaches_join_iff {t : FileTree} {p q : Path} (hp : p.text ≠ [])
    (hq : q.isAbsolute = false) : t.Reaches (p.join q) ↔
      (p.join q).IsUsable ∧ t.Reaches p ∧ t.Passes p.place q.split := by
  have hsplit := Path.split_join hp hq
  have hne : q.split ≠ [] := Text.splitOn_ne_nil '/' q.text
  obtain ⟨part, parts, hparts⟩ := List.exists_cons_of_ne_nil hne
  rw [Reaches, Reaches, hsplit, passes_append, Path.along_front]
  constructor
  · rintro ⟨husable, hfront, hq'⟩
    have hdir : t.node? p.place = some .directory := by
      rw [hparts] at hq'
      exact hq'.1
    exact ⟨husable, ⟨husable.of_join hp hq, (passes_split_iff hdir).mpr hfront⟩, hq'⟩
  · rintro ⟨husable, ⟨-, hpasses⟩, hq'⟩
    have hdir : t.node? p.place = some .directory := by
      rw [hparts] at hq'
      exact hq'.1
    exact ⟨husable, (passes_split_iff hdir).mp hpasses, hq'⟩

end FileTree

namespace Path

/-! ## Joining a name -/

theorem isAbsolute_of_isName {q : Path} (hq : q.text.IsName) : q.isAbsolute = false := by
  rw [isAbsolute, beq_eq_false_iff_ne]
  intro h
  obtain ⟨t, ht⟩ := List.head?_eq_some_iff.mp h
  exact hq.2.2.2 (by simp [ht])

theorem split_of_isName {q : Path} (hq : q.text.IsName) : q.split = [q.text] :=
  Text.splitOn_of_not_mem hq.2.2.2

theorem part?_of_isName {c : Text} (hc : c.IsName) : part? c = some (.name c) := by
  obtain ⟨hne, hdot, hdots, -⟩ := hc
  rw [part?, if_neg hne, if_neg hdot, if_neg hdots]

theorem join_of_text_eq_nil {p : Path} (hp : p.text = []) (q : Path) : p.join q = q := by
  rw [join, hp]
  split <;> rfl

theorem place_of_text_eq_nil {p : Path} (hp : p.text = []) : p.place = [] := by
  rw [place, split, hp]
  rfl

theorem place_join_name (d : Path) {q : Path} (hq : q.text.IsName) :
    (d.join q).place = d.place ++ [q.text] := by
  have hsplit := split_of_isName hq
  by_cases hd : d.text = []
  · rw [join_of_text_eq_nil hd, place_of_text_eq_nil hd, place, hsplit, Route.along_cons,
      Route.extend_name [] hq, Route.along_nil]
  · rw [place_join hd (isAbsolute_of_isName hq), hsplit, Route.along_cons,
      Route.extend_name _ hq, Route.along_nil]

theorem isAbsolute_below {directory : Text} (name : Text) (hd : directory.IsName) :
    isAbsolute ⟨directory ++ '/' :: name⟩ = false := by
  obtain ⟨c, cs, rfl⟩ := List.exists_cons_of_ne_nil hd.1
  exact isAbsolute_of_isName (q := ⟨c :: cs⟩) hd

theorem split_join_below {p : Path} (hp : p.text ≠ []) {directory name : Text}
    (hd : directory.IsName) (hn : name.IsName) :
    (p.join ⟨directory ++ '/' :: name⟩).split = (p.front ++ [directory]) ++ [name] := by
  rw [split_join hp (isAbsolute_below name hd), split, Text.splitOn_append,
    Text.splitOn_of_not_mem hd.2.2.2, Text.splitOn_of_not_mem hn.2.2.2, List.append_assoc]

theorem place_join_below {p : Path} (hp : p.text ≠ []) {directory name : Text}
    (hd : directory.IsName) (hn : name.IsName) :
    (p.join ⟨directory ++ '/' :: name⟩).place = p.place ++ [directory, name] := by
  rw [place, split_join_below hp hd hn, Route.along_append, Route.along_append, along_front]
  simp only [Route.along_cons, Route.along_nil, Route.extend_name _ hd, Route.extend_name _ hn]
  rw [List.append_assoc, List.singleton_append]

end Path

theorem FileTree.reaches_join_name {t : FileTree} {d q : Path} (hq : q.text.IsName) :
    t.Reaches (d.join q) ↔ (d.join q).IsUsable ∧ (d.text = [] ∨ t.Reaches d) ∧
      t.node? d.place = some .directory ∧ Text.byteSize q.text ≤ 255 := by
  have hsplit := Path.split_of_isName hq
  by_cases hd : d.text = []
  · rw [Path.join_of_text_eq_nil hd, Path.place_of_text_eq_nil hd, Reaches, hsplit]
    simp [Passes, hd]
  · rw [reaches_join_iff hd (Path.isAbsolute_of_isName hq), hsplit]
    simp [Passes, hd]

namespace Path

/-! ## Parents -/

/-- What is cut off the end of a body goes back to a separator, or is all of it. -/
theorem trimBody_spec (r : Text) :
    ∃ u, r = u ++ trimBody r ∧ (trimBody r = [] ∨ u = [] ∨ u.getLast? = some '/') := by
  fun_induction trimBody r with
  | case1 s ih =>
      obtain ⟨u, hu, hlast⟩ := ih
      refine ⟨'/' :: u, by rw [List.cons_append, ← hu], ?_⟩
      rcases hlast with h | rfl | h
      · exact .inl h
      · exact .inr (.inr rfl)
      · exact .inr (.inr (by rw [List.getLast?_cons, h]; rfl))
  | case2 s ih =>
      obtain ⟨u, hu, hlast⟩ := ih
      refine ⟨'.' :: '/' :: u, by rw [List.cons_append, List.cons_append, ← hu], ?_⟩
      rcases hlast with h | rfl | h
      · exact .inl h
      · exact .inr (.inr rfl)
      · exact .inr (.inr (by rw [List.getLast?_cons, List.getLast?_cons, h]; rfl))
  | case3 => exact ⟨['.'], rfl, .inl rfl⟩
  | case4 s => exact ⟨[], rfl, .inr (.inl rfl)⟩

theorem trimBody_slash (r : Text) : trimBody ('/' :: r) = trimBody r := by
  rw [trimBody]

/-- The characters of the lead: a separator, a dot that a separator follows or that is all, or
none. -/
theorem lead_cases (p : Path) :
    (p.lead = [.root] ∧ ∃ t, p.text = '/' :: t) ∨
      (p.lead = [.current] ∧ (p.text = ['.'] ∨ ∃ t, p.text = '.' :: '/' :: t)) ∨
      p.lead = [] := by
  rw [lead]
  split
  next h =>
    rw [isAbsolute, beq_iff_eq] at h
    obtain ⟨t, ht⟩ := List.head?_eq_some_iff.mp h
    exact .inl ⟨rfl, t, ht⟩
  next =>
    split
    next h =>
      rw [startsAtCurrent, Bool.or_eq_true, beq_iff_eq, List.isPrefixOf_iff_prefix] at h
      refine .inr (.inl ⟨rfl, h.imp id ?_⟩)
      rintro ⟨t, ht⟩
      exact ⟨t, ht.symm⟩
    next => exact .inr (.inr rfl)

/-- What is left of a body without its last component is nothing, or a separator follows it. -/
theorem trimBody_dropWhile (b : Text) :
    trimBody ((trimBody b.reverse).dropWhile fun c => decide (c ≠ '/')) = [] ∨
      ∃ more, b = (trimBody ((trimBody b.reverse).dropWhile fun c => decide (c ≠ '/'))).reverse ++
        '/' :: more := by
  obtain ⟨u, hu, -⟩ := trimBody_spec b.reverse
  rw [← List.takeWhile_append_dropWhile (p := fun c => decide (c ≠ '/'))
    (l := trimBody b.reverse)] at hu
  have hhead := List.head?_dropWhile_not (fun c => decide (c ≠ '/')) (trimBody b.reverse)
  generalize (trimBody b.reverse).dropWhile (fun c => decide (c ≠ '/')) = x at hu hhead ⊢
  cases x with
  | nil => exact .inl rfl
  | cons c r =>
      obtain rfl : c = '/' := by simpa using hhead
      obtain ⟨v, hv, hlast⟩ := trimBody_spec r
      rw [trimBody_slash]
      generalize trimBody r = y at hv hlast ⊢
      rw [hv] at hu
      have hbody := congrArg List.reverse hu
      rw [List.reverse_reverse] at hbody
      rcases hlast with h | rfl | h
      · exact .inl h
      · exact .inr ⟨_, by simpa using hbody⟩
      · obtain ⟨w, rfl⟩ := List.getLast?_eq_some_iff.mp h
        exact .inr ⟨_, by simpa using hbody⟩

/-- The parent ends where a separator stands, unless nothing or only the root is left. -/
theorem text_of_parent? {p d : Path} (h : p.parent? = some d) :
    d.text = [] ∨ d.text = ['/'] ∨ ∃ more, p.text = d.text ++ '/' :: more := by
  have htext : p.text = p.text.take p.leadLength ++ p.body :=
    (List.take_append_drop _ _).symm
  rw [parent?] at h
  split at h
  next =>
    split at h
    next =>
      left
      rw [← Option.some.inj h]
    next => cases h
  next hne =>
    obtain rfl := Option.some.inj h
    rcases trimBody_dropWhile p.body with hnil | ⟨more, hmore⟩
    · rw [hnil, List.reverse_nil, List.append_nil]
      rcases p.lead_cases with ⟨hlead, t, ht⟩ | ⟨hlead, ht | ⟨t, ht⟩⟩ | hlead
      · refine .inr (.inl ?_)
        rw [leadLength, hlead, ht]
        rfl
      · refine absurd ?_ hne
        rw [body, leadLength, hlead, ht]
        rfl
      · refine .inr (.inr ⟨t, ?_⟩)
        rw [leadLength, hlead, ht]
        rfl
      · refine .inl ?_
        rw [leadLength, hlead]
        rfl
    · refine .inr (.inr ⟨more, ?_⟩)
      rw [List.append_assoc, ← hmore]
      exact htext

def IsPart (c : Text) : Prop := c ≠ [] ∧ c ≠ "." ∧ '/' ∉ c

theorem isPart_of_isName {c : Text} (h : c.IsName) : IsPart c := ⟨h.1, h.2.1, h.2.2.2⟩

theorem trimBody_part {c : Text} (hc : IsPart c) (r : Text) :
    trimBody (c.reverse ++ r) = c.reverse ++ r := by
  obtain ⟨hne, hdot, hslash⟩ := hc
  obtain ⟨d, ds, hd⟩ := List.exists_cons_of_ne_nil (List.reverse_ne_nil_iff.mpr hne)
  have hmem : ∀ x ∈ d :: ds, x ≠ '/' := by
    intro x hx hx'
    rw [← hd, List.mem_reverse, hx'] at hx
    exact hslash hx
  have hsingle : d :: ds ≠ ['.'] := by
    intro h
    rw [h] at hd
    exact hdot (List.reverse_eq_iff.mp hd)
  rw [hd, List.cons_append, trimBody.eq_def]
  split
  next s heq =>
    exact absurd (List.cons.inj heq).1 (hmem d List.mem_cons_self)
  next s heq =>
    obtain ⟨rfl, htail⟩ := List.cons.inj heq
    cases ds with
    | nil => exact absurd rfl hsingle
    | cons e es => exact absurd (List.cons.inj htail).1 (hmem e (by simp))
  next heq =>
    obtain ⟨rfl, htail⟩ := List.cons.inj heq
    obtain ⟨rfl, -⟩ := List.append_eq_nil_iff.mp htail
    exact absurd rfl hsingle
  next => rfl

theorem dropWhile_part {c : Text} (hc : IsPart c) (r : Text) :
    (c.reverse ++ r).dropWhile (fun x => decide (x ≠ '/')) =
      r.dropWhile fun x => decide (x ≠ '/') := by
  rw [List.dropWhile_append_of_pos]
  intro x hx
  rw [List.mem_reverse] at hx
  refine decide_eq_true ?_
  rintro rfl
  exact hc.2.2 hx

/-- A separator at the front, or a dot in front of one, is no part. -/
theorem head_append_part {x c r t : Text} {d : Char} (hc : IsPart c) (h : x ++ c ++ r = d :: t)
    (hd : d = '/' ∨ d = '.' ∧ t.head? = some '/') : ∃ y, x = d :: y := by
  cases x with
  | cons e y =>
      obtain ⟨rfl, -⟩ := List.cons.inj h
      exact ⟨y, rfl⟩
  | nil =>
      exfalso
      obtain ⟨e, es, rfl⟩ := List.exists_cons_of_ne_nil hc.1
      obtain ⟨rfl, htail⟩ := List.cons.inj h
      rcases hd with rfl | ⟨rfl, hslash⟩
      · exact hc.2.2 List.mem_cons_self
      · cases es with
        | nil => exact hc.2.1 rfl
        | cons f fs =>
            rw [← htail] at hslash
            obtain rfl := Option.some.inj hslash
            exact hc.2.2 (by simp)

/-- The lead of a path lies in front of any part of it. -/
theorem body_append_part (x : Text) {c : Text} (hc : IsPart c) (r : Text) :
    ∃ z y, x = z ++ y ∧ (x ++ c ++ r).take (leadLength ⟨x ++ c ++ r⟩) = z ∧
      (Path.mk (x ++ c ++ r)).body = y ++ c ++ r := by
  have hne : x ++ c ++ r ≠ ['.'] := by
    intro h
    obtain ⟨d, ds, hd⟩ := List.exists_cons_of_ne_nil hc.1
    have hlen := congrArg List.length h
    simp only [List.length_append, hd, List.length_cons, List.length_nil] at hlen
    obtain rfl : x = [] := List.eq_nil_of_length_eq_zero (by omega)
    obtain rfl : r = [] := List.eq_nil_of_length_eq_zero (by omega)
    rw [List.nil_append, List.append_nil] at h
    exact hc.2.1 h
  rcases lead_cases ⟨x ++ c ++ r⟩ with ⟨hlead, t, ht⟩ | ⟨hlead, ht⟩ | hlead
  · obtain ⟨y, rfl⟩ := head_append_part hc ht (.inl rfl)
    refine ⟨['/'], y, rfl, ?_, ?_⟩
    · rw [leadLength, hlead]
      rfl
    · rw [body, leadLength, hlead]
      rfl
  · obtain ⟨t, ht⟩ := ht.resolve_left hne
    obtain ⟨y, rfl⟩ := head_append_part hc ht (.inr ⟨rfl, rfl⟩)
    refine ⟨['.'], y, rfl, ?_, ?_⟩
    · rw [leadLength, hlead]
      rfl
    · rw [body, leadLength, hlead]
      rfl
  · refine ⟨[], x, rfl, ?_, ?_⟩
    · rw [leadLength, hlead]
      rfl
    · rw [body, leadLength, hlead]
      rfl

end Path

namespace FileTree

/-- The parent of a path that can be followed is a directory, unless it is the empty path. -/
theorem Reaches.parent {t : FileTree} {p d : Path} (h : t.Reaches p) (hd : p.parent? = some d) :
    d.text = [] ∨ t.Reaches d ∧ t.node? d.place = some .directory := by
  obtain ⟨⟨hnul, -, hsize⟩, hpasses⟩ := h
  rcases Path.text_of_parent? hd with hempty | hroot | ⟨more, hmore⟩
  · exact .inl hempty
  · right
    have hsplit : d.split = [[], []] := by
      rw [Path.split, hroot]
      rfl
    have hplace : d.place = [] := by
      rw [Path.place, hsplit]
      rfl
    rw [hplace, Reaches, Path.IsUsable, hsplit, hroot]
    refine ⟨⟨by decide, ?_⟩, rfl⟩
    simp [Passes, Route.extend]
  · by_cases hempty : d.text = []
    · exact .inl hempty
    · right
      have hsplit : p.split = d.split ++ Text.splitOn '/' more := by
        rw [Path.split, hmore, Text.splitOn_append]
        rfl
      rw [hsplit, passes_append] at hpasses
      obtain ⟨part, parts, hparts⟩ :=
        List.exists_cons_of_ne_nil (Text.splitOn_ne_nil '/' more)
      have hdir : t.node? d.place = some .directory := by
        rw [hparts] at hpasses
        exact hpasses.2.1
      rw [hmore, List.mem_append, not_or] at hnul
      rw [hmore, Text.byteSize_append] at hsize
      exact ⟨⟨⟨hnul.1, hempty, by omega⟩, hpasses.1⟩, hdir⟩

theorem parent?_of_text_eq_nil {p : Path} (h : p.text = []) : p.parent? = none := by
  obtain ⟨text⟩ := p
  obtain rfl : text = [] := h
  rfl

/-- The ancestors of a path that can be followed can be followed, up to the empty path. -/
theorem Reaches.ancestors {t : FileTree} {p : Path} (h : t.Reaches p) {n : Nat} {d : Path}
    (hd : d ∈ p.ancestors n) : d.text = [] ∨ t.Reaches d := by
  induction n generalizing p with
  | zero => cases hd
  | succ n ih =>
      rw [Path.ancestors] at hd
      rcases List.mem_cons.mp hd with rfl | hd
      · exact .inr h
      · split at hd
        next q hq =>
          rcases h.parent hq with hempty | ⟨hreach, -⟩
          · left
            cases n with
            | zero => cases hd
            | succ n =>
                rw [Path.ancestors, parent?_of_text_eq_nil hempty, List.mem_singleton] at hd
                rw [hd, hempty]
          · exact ih hreach hd
        next => cases hd

end FileTree

end RpcDispatch
