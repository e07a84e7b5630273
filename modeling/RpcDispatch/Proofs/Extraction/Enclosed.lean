import RpcDispatch.Proofs.Extraction.Failures

/-!
# Definitions that are looked for inside brackets

Where a definition could not be read, another is looked for at each keyword in its brackets. That
one cannot be read either or ends before the brackets do, unless brackets of its own reach over
their end. In what follows the brackets on the outside are those of a failure, with nothing between
their end and the token where it shows but a name or a parameter list.
-/

namespace RpcDispatch

open Token

/-! ## Depths -/

section

variable {opener closer : TokenKind} {d e : Nat}

theorem exists_depth_behind (hne : opener ≠ closer) {xs ys : List TokenKind} {k : TokenKind}
    (h : depthAfter? opener closer d (xs ++ k :: ys) = some 0) :
    ∃ e, depthAfter? opener closer e ys = some 0 ∧ (k = opener → 0 < e) := by
  rw [depthAfter?_append hne, Option.bind_eq_some_iff] at h
  obtain ⟨m, -, hm⟩ := h
  by_cases ho : k = opener
  · rw [depthAfter?_opener ho] at hm
    exact ⟨m + 1, hm, fun _ => Nat.succ_pos m⟩
  by_cases hc : k = closer
  · cases m with
    | zero => simp [depthAfter?_closer_zero hc hne] at hm
    | succ m =>
        rw [depthAfter?_closer_succ hc hne] at hm
        exact ⟨m, hm, fun heq => absurd heq ho⟩
  · rw [depthAfter?_other ho hc] at hm
    exact ⟨m, hm, fun heq => absurd heq ho⟩

/-- Where more brackets are closed than are open inside a group, the group ends. -/
theorem Group.exists_read?_of_depth (hne : opener ≠ closer) {xs : List Token}
    (h : depthAfter? opener closer (e + 1 + d) (xs.map kind) = some 0) :
    ∃ g, read? opener closer d xs = some g ∧
      depthAfter? opener closer e (g.rest.map kind) = some 0 := by
  induction xs generalizing d with
  | nil => simp [depthAfter?] at h
  | cons x xs ih =>
      rw [List.map_cons] at h
      by_cases ho : x.kind = opener
      · rw [depthAfter?_opener ho, Nat.add_assoc] at h
        obtain ⟨g, hg, hrest⟩ := ih h
        exact ⟨cons x g, by rw [read?_opener ho, hg]; rfl, hrest⟩
      by_cases hc : x.kind = closer
      · cases d with
        | zero =>
            rw [Nat.add_zero, depthAfter?_closer_succ hc hne] at h
            exact ⟨_, read?_closer_zero hc hne xs, h⟩
        | succ d =>
            rw [← Nat.add_assoc, depthAfter?_closer_succ hc hne] at h
            obtain ⟨g, hg, hrest⟩ := ih h
            exact ⟨cons x g, by rw [read?_closer_succ hc hne, hg]; rfl, hrest⟩
      · rw [depthAfter?_other ho hc] at h
        obtain ⟨g, hg, hrest⟩ := ih h
        exact ⟨cons x g, by rw [read?_other ho hc, hg]; rfl, hrest⟩

end

/-! ## The tokens that are left -/

/-- Of the tokens `inner` between brackets, a last part is left in front of the closing one. -/
def Inside (b : HeadBrackets) (inner behind : List Token) (depth : Nat) (ts : List Token) : Prop :=
  ∃ left, left <:+ inner ∧ ts = left ++ behind ∧
    depthAfter? b.opener b.closer depth (left.map kind) = some 0

/-- Brackets of the other kind reach over the closing one. -/
def ReachesOver (b : HeadBrackets) (close : Token) (rest ts : List Token) : Prop :=
  ∃ c g front back, c ≠ b ∧ Passes ts c g ∧ g.inner = front ++ close :: back ∧
    rest = back ++ g.close :: g.rest

namespace Inside

variable {b c : HeadBrackets} {inner rest ts ts' : List Token} {close t : Token} {d : Nat}
  {kind : TokenKind} {g : Group} {keyword : Token}

/-- The next token is in the same brackets, unless it is the one that closes them. -/
theorem nextSignificant (h : Inside b inner (close :: rest) d ts) (hclose : close.kind = b.closer)
    (hnext : nextSignificant? ts = some (t, ts')) :
    t = close ∨ t ∈ inner ∧
      ∃ e, Inside b inner (close :: rest) e ts' ∧ (t.kind = b.opener → 0 < e) := by
  obtain ⟨left, hleft, rfl, hdepth⟩ := h
  obtain ⟨cs, hcomments, -, hts⟩ := nextSignificant?_eq_some.mp hnext
  rcases List.append_eq_append_iff.mp hts with ⟨us, rfl, hus⟩ | ⟨us, rfl, hus⟩
  · cases us with
    | nil => exact .inl (List.cons.inj hus).1.symm
    | cons u us =>
        -- the closing bracket is no comment
        obtain ⟨rfl, -⟩ := List.cons.inj hus
        have hcomment := hcomments close (by simp)
        rw [isComment_eq hclose] at hcomment
        cases b <;> cases hcomment
  · cases us with
    | nil => exact .inl (List.cons.inj hus).1
    | cons u us =>
        obtain ⟨rfl, rfl⟩ := List.cons.inj hus
        right
        rw [List.map_append, List.map_cons] at hdepth
        obtain ⟨e, he, hpos⟩ := exists_depth_behind (b.opener_ne_closer b) hdepth
        have hsuffix : us <:+ cs ++ t :: us := ⟨cs ++ [t], by simp⟩
        exact ⟨hleft.subset (by simp), e, ⟨us, hsuffix.trans hleft, rfl, he⟩, hpos⟩

theorem nextOfKind (h : Inside b inner (close :: rest) d ts) (hclose : close.kind = b.closer)
    (hnext : nextOfKind? kind ts = some (t, ts')) (hkind : kind ≠ b.closer) :
    t ∈ inner ∧ ∃ e, Inside b inner (close :: rest) e ts' ∧ (kind = b.opener → 0 < e) := by
  obtain ⟨hsignificant, hk⟩ := nextOfKind?_eq_some.mp hnext
  subst hk
  rcases h.nextSignificant hclose hsignificant with rfl | hinside
  · exact absurd hclose hkind
  · exact hinside

/-- Brackets of the same kind end inside. Others may reach over the closing bracket. -/
theorem group (h : Inside b inner (close :: rest) d ts) (hclose : close.kind = b.closer)
    (hd : c = b → 0 < d) (hg : Group.read? c.opener c.closer 0 ts = some g) :
    (g.close ∈ inner ∧ ∃ e, Inside b inner (close :: rest) e g.rest) ∨
      c ≠ b ∧ ∃ front back, g.inner = front ++ close :: back ∧
        rest = back ++ g.close :: g.rest := by
  obtain ⟨left, hleft, rfl, hdepth⟩ := h
  have hne := c.opener_ne_closer c
  by_cases hcb : c = b
  · subst hcb
    obtain ⟨e, rfl⟩ := Nat.exists_eq_add_of_lt (hd rfl)
    rw [Nat.zero_add] at hdepth
    obtain ⟨g', hg', he⟩ := Group.exists_read?_of_depth (d := 0) hne hdepth
    obtain ⟨rfl, hclose', hdepth'⟩ := (Group.read?_eq_some hne).mp hg'
    have hwhole : Group.read? c.opener c.closer 0
        ((g'.inner ++ g'.close :: g'.rest) ++ close :: rest) =
          some { g' with rest := g'.rest ++ close :: rest } :=
      (Group.read?_eq_some hne).mpr ⟨by simp, hclose', hdepth'⟩
    obtain rfl := Option.some.inj (hg.symm.trans hwhole)
    have hsuffix : g'.rest <:+ g'.inner ++ g'.close :: g'.rest := ⟨g'.inner ++ [g'.close], by simp⟩
    exact .inl ⟨hleft.subset (by simp), e, g'.rest, hsuffix.trans hleft, rfl, he⟩
  · obtain ⟨hts, hclose', -⟩ := (Group.read?_eq_some hne).mp hg
    have hdiffer : g.close ≠ close := by
      rintro rfl
      exact hcb (HeadBrackets.closer_injective (hclose'.symm.trans hclose))
    rcases List.append_eq_append_iff.mp hts with ⟨us, hus, hrest⟩ | ⟨us, rfl, hrest⟩
    · cases us with
      | nil => exact absurd (List.cons.inj hrest).1.symm hdiffer
      | cons u us =>
          obtain ⟨rfl, htail⟩ := List.cons.inj hrest
          exact .inr ⟨hcb, left, us, hus, htail⟩
    · cases us with
      | nil => exact absurd (List.cons.inj hrest).1 hdiffer
      | cons u us =>
          obtain ⟨rfl, htail⟩ := List.cons.inj hrest
          rw [List.map_append, List.map_cons] at hdepth
          obtain ⟨e, he, -⟩ := exists_depth_behind (b.opener_ne_closer b) hdepth
          have hsuffix : us <:+ g.inner ++ g.close :: us := ⟨g.inner ++ [g.close], by simp⟩
          exact .inl ⟨hleft.subset (by simp), e, us, hsuffix.trans hleft, htail, he⟩

theorem width {first bracket : Token} {afterFirst inside : List Token}
    (h : Inside b inner (close :: rest) d ts) (hclose : close.kind = b.closer)
    (hfirst : nextOfKind? .ident ts = some (first, afterFirst))
    (hbracket : nextOfKind? .leftBracket afterFirst = some (bracket, inside))
    (hg : Group.read? .leftBracket .rightBracket 0 inside = some g) :
    (g.close ∈ inner ∧ ∃ e, Inside b inner (close :: rest) e g.rest) ∨
      ReachesOver b close rest ts := by
  obtain ⟨-, e, hafter, -⟩ := h.nextOfKind hclose hfirst (by cases b <;> decide)
  obtain ⟨-, e, hinside, hpos⟩ := hafter.nextOfKind hclose hbracket (by cases b <;> decide)
  rcases hinside.group (c := .width) hclose (by rintro rfl; exact hpos rfl) hg with hin | hover
  · exact .inl hin
  · obtain ⟨hne, front, back, hinner, hrest⟩ := hover
    exact .inr ⟨.width, g, front, back, hne, .width hfirst hbracket hg, hinner, hrest⟩

/-- A head that starts inside brackets has its name there, or it reads past what closes them. -/
theorem head {head : DefinitionHead} (h : Inside b inner (close :: rest) d ts)
    (hclose : close.kind = b.closer) (hread : DefinitionHead.read keyword ts = .ok head) :
    (head.name ∈ inner ∧ ∃ e, Inside b inner (close :: rest) e head.rest) ∨
      ReachesOver b close rest ts := by
  obtain ⟨first, afterFirst, second, afterSecond, hfirst, hsecond, hform⟩ :=
    DefinitionHead.read_eq_ok.mp hread
  obtain ⟨hmem, e, hafter, -⟩ := h.nextOfKind hclose hfirst (by cases b <;> decide)
  rcases hform with ⟨-, rfl⟩ | ⟨hk, rfl⟩ | ⟨hk, width, name, afterName, hwidth, hname, rfl⟩
  · exact .inl ⟨hmem, e, hafter⟩
  · obtain ⟨hmem, e, hrest, -⟩ := hafter.nextOfKind hclose
      (nextOfKind?_eq_some.mpr ⟨hsecond, hk⟩) (by cases b <;> decide)
    exact .inl ⟨hmem, e, hrest⟩
  · rcases h.width hclose hfirst (nextOfKind?_eq_some.mpr ⟨hsecond, hk⟩) hwidth with
      ⟨-, e, hbehind⟩ | hover
    · obtain ⟨hmem, e, hrest, -⟩ := hbehind.nextOfKind hclose hname (by cases b <;> decide)
      exact .inl ⟨hmem, e, hrest⟩
    · exact .inr hover

theorem passes (h : Inside b inner (close :: rest) d ts) (hclose : close.kind = b.closer)
    (hp : Passes ts c g) :
    (g.close ∈ inner ∧ ∃ e, Inside b inner (close :: rest) e g.rest) ∨
      ReachesOver b close rest ts := by
  cases hp with
  | width hfirst hbracket hg => exact h.width hclose hfirst hbracket hg
  | params hhead hparen hg =>
      rcases h.head hclose hhead with ⟨-, e, hafter⟩ | hover
      · obtain ⟨-, e, hinside, hpos⟩ := hafter.nextOfKind hclose hparen (by cases b <;> decide)
        rcases hinside.group (c := .params) hclose (by rintro rfl; exact hpos rfl) hg with
          hin | ⟨hne, front, back, hinner, hrest⟩
        · exact .inl hin
        · exact .inr ⟨.params, g, front, back, hne, .params hhead hparen hg, hinner, hrest⟩
      · exact .inr hover

/-- A definition that is looked for inside brackets fails there, or reaches over their end. -/
theorem fails {f : DefinitionFailure} (h : Inside b inner (close :: rest) d ts)
    (hclose : close.kind = b.closer) (hf : Fails keyword ts f) :
    f.place = keyword ∨ f.place ∈ inner ∨ ReachesOver b close rest ts := by
  cases hf with
  | noName => exact .inl rfl
  | noParameterList hfirst =>
      exact .inr (.inl (h.nextOfKind hclose hfirst (by cases b <;> decide)).1)
  | unclosedWidth hfirst hbracket =>
      obtain ⟨-, e, hafter, -⟩ := h.nextOfKind hclose hfirst (by cases b <;> decide)
      exact .inr (.inl (hafter.nextOfKind hclose hbracket (by cases b <;> decide)).1)
  | noNameAfterType hg => exact .inr ((h.passes hclose hg).imp_left And.left)
  | noOpenParen hhead => exact .inr ((h.head hclose hhead).imp_left And.left)
  | unclosedParameters hhead hparen =>
      rcases h.head hclose hhead with ⟨-, e, hafter⟩ | hover
      · exact .inr (.inl (hafter.nextOfKind hclose hparen (by cases b <;> decide)).1)
      · exact .inr (.inr hover)
  | noBody hg => exact .inr ((h.passes hclose hg).imp_left And.left)
  | unclosedBody hg hbrace =>
      rcases h.passes hclose hg with ⟨-, e, hbehind⟩ | hover
      · exact .inr (.inl (hbehind.nextOfKind hclose hbrace (by cases b <;> decide)).1)
      · exact .inr (.inr hover)

end Inside

/-- Brackets that reach over the end of others reach over the token where a failure behind those
shows. -/
theorem ReachesOver.standsWithin {b : HeadBrackets} {close place : Token}
    {rest ts front behind : List Token} (h : ReachesOver b close rest ts) (hb : b = .width)
    (hrest : rest = front ++ place :: behind) (hfront : ClosesParens (front ++ [place])) :
    StandsWithin ts place := by
  obtain ⟨c, g, left, back, hne, hg, hinner, hback⟩ := h
  subst hb
  cases c with
  | width => exact absurd rfl hne
  | params =>
      refine ⟨.params, g, hg, ?_⟩
      cases hg with
      | params _ _ hread =>
          obtain ⟨-, hclose, hdepth⟩ := (Group.read?_eq_some (by decide)).mp hread
          rw [hinner, List.append_cons, List.map_append, depthAfter?_append (by decide),
            Option.bind_eq_some_iff] at hdepth
          obtain ⟨d, -, hd⟩ := hdepth
          -- the same reader, from the end of the other brackets on
          have hlater : Group.read? .leftParen .rightParen d rest =
              some ⟨back, g.close, g.rest⟩ :=
            (Group.read?_eq_some (by decide)).mpr ⟨hback, hclose, hd⟩
          have hkept := depthAfter?_add (by decide) hfront d
          rw [Nat.zero_add] at hkept
          rw [hrest, List.append_cons, Group.read?_append (by decide) hkept] at hlater
          obtain ⟨g', -, hg'⟩ := Option.map_eq_some_iff.mp hlater
          have hprefix : front ++ [place] ++ g'.inner = back := congrArg Group.inner hg'
          rw [hinner, ← hprefix]
          simp

end RpcDispatch
