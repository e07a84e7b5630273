import RpcDispatch.Pattern.Regex.Basic

/-!
# What an expression matches

An expression relates the place where it starts to the places where it can end. Running it finds
these places, all of them and no others, although it keeps one place for each length of what
follows and stops repeating when nothing new turns up.
-/

namespace RpcDispatch

/-! ## Places of one text -/

namespace Place

def IsIn (t : Text) (p : Place) : Prop := ∃ pre, t = pre ++ p.after ∧ p.before = pre.getLast?

/-- Two places of a text differ in how much follows them. -/
theorem IsIn.eq_of_length {t : Text} {p q : Place} (hp : p.IsIn t) (hq : q.IsIn t)
    (h : p.after.length = q.after.length) : p = q := by
  obtain ⟨pre, ht, hpre⟩ := hp
  obtain ⟨pre', ht', hpre'⟩ := hq
  obtain ⟨rfl, hafter⟩ := List.append_inj' (ht.symm.trans ht') h
  obtain ⟨before, after⟩ := p
  obtain ⟨before', after'⟩ := q
  obtain rfl : after = after' := hafter
  rw [Place.mk.injEq]
  exact ⟨hpre.trans hpre'.symm, rfl⟩

theorem next?_eq_some {p q : Place} {c : Char} :
    p.next? = some (c, q) ↔ p.after = c :: q.after ∧ q.before = some c := by
  obtain ⟨before, after⟩ := p
  obtain ⟨before', after'⟩ := q
  cases after with
  | nil => simp [next?]
  | cons d s =>
      simp only [next?, Option.some.injEq, Prod.mk.injEq, Place.mk.injEq, List.cons.injEq]
      constructor
      · rintro ⟨rfl, rfl, rfl⟩
        exact ⟨⟨rfl, rfl⟩, rfl⟩
      · rintro ⟨⟨rfl, rfl⟩, rfl⟩
        exact ⟨rfl, rfl, rfl⟩

theorem IsIn.next {t : Text} {p q : Place} {c : Char} (hp : p.IsIn t)
    (h : p.next? = some (c, q)) : q.IsIn t := by
  obtain ⟨pre, ht, -⟩ := hp
  obtain ⟨hafter, hbefore⟩ := next?_eq_some.mp h
  refine ⟨pre ++ [c], ?_, ?_⟩
  · rw [ht, hafter, List.append_assoc, List.singleton_append]
  · rw [hbefore, List.getLast?_concat]

theorem mem_allFrom (pre : Text) {t : Text} {p : Place} :
    p ∈ allFrom pre.getLast? t ↔ ∃ more, t = more ++ p.after ∧
      p.before = (pre ++ more).getLast? := by
  induction t generalizing pre with
  | nil =>
      rw [allFrom, List.mem_singleton]
      constructor
      · rintro rfl
        exact ⟨[], rfl, by rw [List.append_nil]⟩
      · rintro ⟨more, ht, hbefore⟩
        obtain ⟨rfl, hafter⟩ := List.append_eq_nil_iff.mp ht.symm
        rw [List.append_nil] at hbefore
        obtain ⟨before, after⟩ := p
        rw [Place.mk.injEq]
        exact ⟨hbefore, hafter⟩
  | cons c t ih =>
      have hlast : some c = (pre ++ [c]).getLast? := List.getLast?_concat.symm
      rw [allFrom, List.mem_cons, hlast, ih]
      constructor
      · rintro (rfl | ⟨more, ht, hbefore⟩)
        · exact ⟨[], rfl, by rw [List.append_nil]⟩
        · exact ⟨c :: more, by rw [ht, List.cons_append], by rw [hbefore, List.append_assoc]; rfl⟩
      · rintro ⟨more, ht, hbefore⟩
        cases more with
        | nil =>
            left
            obtain ⟨before, after⟩ := p
            rw [List.append_nil] at hbefore
            rw [Place.mk.injEq]
            exact ⟨hbefore, ht.symm⟩
        | cons d more =>
            obtain ⟨rfl, rfl⟩ := List.cons.inj ht
            exact .inr ⟨more, rfl, by rw [hbefore, List.append_assoc]; rfl⟩

theorem mem_allFrom_none {t : Text} {p : Place} : p ∈ allFrom none t ↔ p.IsIn t :=
  mem_allFrom []

end Place

/-! ## Repeated steps -/

def Steps {α : Type} (R : α → α → Prop) : Nat → α → α → Prop
  | 0, p, q => p = q
  | n + 1, p, q => ∃ m, R p m ∧ Steps R n m q

namespace Regex

/-- `R` stays in the text and does not go back. -/
def Advances (t : Text) (R : Place → Place → Prop) : Prop :=
  ∀ p q, p.IsIn t → R p q → q.IsIn t ∧ q.after.length ≤ p.after.length

/-- `f` finds where `R` leads from places of the text. -/
def Finds (t : Text) (f : List Place → List Place) (R : Place → Place → Prop) : Prop :=
  ∀ ps, (∀ p ∈ ps, p.IsIn t) → ∀ q, q ∈ f ps ↔ ∃ p ∈ ps, R p q

variable {t : Text} {f : List Place → List Place} {R : Place → Place → Prop}

theorem Advances.steps (hR : Advances t R) (n : Nat) : Advances t (Steps R n) := by
  induction n with
  | zero =>
      rintro p q hp rfl
      exact ⟨hp, Nat.le_refl _⟩
  | succ n ih =>
      rintro p q hp ⟨m, hpm, hmq⟩
      obtain ⟨hm, hle⟩ := hR p m hp hpm
      obtain ⟨hq, hle'⟩ := ih m q hm hmq
      exact ⟨hq, Nat.le_trans hle' hle⟩

/-- A step that goes on nowhere can be left out, so that as many steps as characters are enough. -/
theorem Advances.short (hR : Advances t R) {n : Nat} {p q : Place} (hp : p.IsIn t)
    (h : Steps R n p q) : ∃ k ≤ p.after.length, Steps R k p q := by
  induction n generalizing p with
  | zero => exact ⟨0, Nat.zero_le _, h⟩
  | succ n ih =>
      obtain ⟨m, hpm, hmq⟩ := h
      obtain ⟨hm, hle⟩ := hR p m hp hpm
      obtain ⟨k, hk, hsteps⟩ := ih hm hmq
      by_cases hlt : m.after.length < p.after.length
      · exact ⟨k + 1, by omega, m, hpm, hsteps⟩
      · have heq : m = p := hm.eq_of_length hp (by omega)
        exact ⟨k, by omega, heq ▸ hsteps⟩

theorem Finds.isIn (hf : Finds t f R) (hR : Advances t R) {ps : List Place}
    (hps : ∀ p ∈ ps, p.IsIn t) : ∀ q ∈ f ps, q.IsIn t := by
  intro q hq
  obtain ⟨p, hp, hpq⟩ := (hf ps hps q).mp hq
  exact (hR p q (hps p hp) hpq).1

/-! ## Sets of places -/

/-- Places in one text differ in how much is left of it, so it is enough to compare lengths. -/
theorem any_length_iff {ps : List Place} {q : Place} (hps : ∀ p ∈ ps, p.IsIn t)
    (hq : q.IsIn t) : (ps.any fun p => p.after.length == q.after.length) = true ↔ q ∈ ps := by
  rw [List.any_eq_true]
  constructor
  · rintro ⟨p, hp, hlength⟩
    rw [beq_iff_eq] at hlength
    exact (hps p hp).eq_of_length hq hlength ▸ hp
  · intro h
    exact ⟨q, h, by rw [beq_self_eq_true]⟩

theorem mem_merge {ps qs : List Place} (hps : ∀ p ∈ ps, p.IsIn t) (hqs : ∀ q ∈ qs, q.IsIn t)
    {q : Place} : q ∈ merge ps qs ↔ q ∈ ps ∨ q ∈ qs := by
  induction qs generalizing ps with
  | nil => simp [merge]
  | cons r qs ih =>
      have hr : r.IsIn t := hqs r List.mem_cons_self
      have hqs' : ∀ q ∈ qs, q.IsIn t := fun q hq => hqs q (List.mem_cons_of_mem r hq)
      have hstep : merge ps (r :: qs) =
          merge (if ps.any fun p => p.after.length == r.after.length then ps else ps ++ [r]) qs :=
        rfl
      rw [hstep, List.mem_cons]
      split
      next h =>
        have hmem := (any_length_iff hps hr).mp h
        rw [ih hps hqs']
        constructor
        · exact Or.imp_right .inr
        · rintro (hq | rfl | hq)
          · exact .inl hq
          · exact .inl hmem
          · exact .inr hq
      next =>
        have hps' : ∀ p ∈ ps ++ [r], p.IsIn t := by
          intro p hp
          rcases List.mem_append.mp hp with hp | hp
          · exact hps p hp
          · exact List.mem_singleton.mp hp ▸ hr
        rw [ih hps' hqs', List.mem_append, List.mem_singleton, or_assoc]

theorem Finds.iterate (hf : Finds t f R) (hR : Advances t R) (n : Nat) :
    Finds t (iterate f n) (Steps R n) := by
  induction n with
  | zero =>
      intro ps hps q
      simp [Regex.iterate, Steps]
  | succ n ih =>
      intro ps hps q
      rw [Regex.iterate]
      split
      next h =>
        rw [List.isEmpty_iff] at h
        simp [h]
      next =>
        rw [ih (f ps) (hf.isIn hR hps)]
        constructor
        · rintro ⟨m, hm, hmq⟩
          obtain ⟨p, hp, hpm⟩ := (hf ps hps m).mp hm
          exact ⟨p, hp, m, hpm, hmq⟩
        · rintro ⟨p, hp, m, hpm, hmq⟩
          exact ⟨m, (hf ps hps m).mpr ⟨p, hp, hpm⟩, hmq⟩

/-! ## Repetition -/

theorem mem_new {seen fresh : List Place} (hf : Finds t f R) (hR : Advances t R)
    (hseen : ∀ p ∈ seen, p.IsIn t) (hfresh : ∀ p ∈ fresh, p.IsIn t) {q : Place} :
    q ∈ (f fresh).filter (fun p => !seen.any (·.after.length == p.after.length)) ↔
      (∃ p ∈ fresh, R p q) ∧ q ∉ seen := by
  rw [List.mem_filter, hf fresh hfresh]
  constructor
  · rintro ⟨⟨p, hp, hpq⟩, hnew⟩
    refine ⟨⟨p, hp, hpq⟩, fun hmem => ?_⟩
    rw [(any_length_iff hseen (hseen q hmem)).mpr hmem] at hnew
    cases hnew
  · rintro ⟨⟨p, hp, hpq⟩, hnot⟩
    have hq : q.IsIn t := (hR p q (hfresh p hp) hpq).1
    refine ⟨⟨p, hp, hpq⟩, ?_⟩
    rw [Bool.not_eq_true', ← Bool.not_eq_true, any_length_iff hseen hq]
    exact hnot

theorem of_mem_closure (hf : Finds t f R) (hR : Advances t R) {n : Nat}
    {seen fresh : List Place} (hseen : ∀ p ∈ seen, p.IsIn t) (hsub : ∀ p ∈ fresh, p ∈ seen)
    {q : Place} (h : q ∈ closure f n seen fresh) :
    q ∈ seen ∨ ∃ p ∈ fresh, ∃ k ≤ n, Steps R k p q := by
  have hfresh : ∀ p ∈ fresh, p.IsIn t := fun p hp => hseen p (hsub p hp)
  induction n generalizing seen fresh with
  | zero => exact .inl h
  | succ n ih =>
      rw [closure] at h
      split at h
      next => exact .inl h
      next =>
        have hnew := fun x => mem_new (q := x) hf hR hseen hfresh
        generalize (f fresh).filter (fun p => !seen.any (·.after.length == p.after.length)) = new
          at h hnew
        have hnew' : ∀ x ∈ new, x.IsIn t := by
          intro x hx
          obtain ⟨⟨p, hp, hpx⟩, -⟩ := (hnew x).mp hx
          exact (hR p x (hfresh p hp) hpx).1
        have hall : ∀ x ∈ seen ++ new, x.IsIn t := fun x hx =>
          (List.mem_append.mp hx).elim (hseen x) (hnew' x)
        rcases ih hall (fun x hx => List.mem_append_right seen hx) h hnew' with
          hq | ⟨m, hm, k, hk, hmq⟩
        · rcases List.mem_append.mp hq with hq | hq
          · exact .inl hq
          · obtain ⟨⟨p, hp, hpq⟩, -⟩ := (hnew q).mp hq
            exact .inr ⟨p, hp, 1, by omega, q, hpq, rfl⟩
        · obtain ⟨⟨p, hp, hpm⟩, -⟩ := (hnew m).mp hm
          exact .inr ⟨p, hp, k + 1, by omega, m, hpm, hmq⟩

theorem mem_of_steps {ps : List Place} (hclosed : ∀ x ∈ ps, ∀ y, R x y → y ∈ ps) {k : Nat}
    {p q : Place} (hp : p ∈ ps) (h : Steps R k p q) : q ∈ ps := by
  induction k generalizing p with
  | zero =>
      obtain rfl : p = q := h
      exact hp
  | succ k ih =>
      obtain ⟨m, hpm, hmq⟩ := h
      exact ih (hclosed p hp m hpm) hmq

/-- What has been seen and is not fresh leads only to what has been seen: this holds from round to
round, and so every path is followed as long as there are rounds. -/
theorem mem_closure_of_steps (hf : Finds t f R) (hR : Advances t R) {n : Nat}
    {seen fresh : List Place} (hseen : ∀ p ∈ seen, p.IsIn t) (hsub : ∀ p ∈ fresh, p ∈ seen)
    (hdone : ∀ p ∈ seen, p ∉ fresh → ∀ q, R p q → q ∈ seen) {k : Nat} (hk : k ≤ n)
    {p q : Place} (hp : p ∈ seen) (h : Steps R k p q) : q ∈ closure f n seen fresh := by
  have hfresh : ∀ p ∈ fresh, p.IsIn t := fun p hp => hseen p (hsub p hp)
  induction n generalizing seen fresh k p with
  | zero =>
      obtain rfl : k = 0 := Nat.le_zero.mp hk
      obtain rfl : p = q := h
      exact hp
  | succ n ih =>
      rw [closure]
      have hnew := fun x => mem_new (q := x) hf hR hseen hfresh
      generalize (f fresh).filter (fun p => !seen.any (·.after.length == p.after.length)) = new
        at hnew ⊢
      have hnext : ∀ x ∈ seen, ∀ y, R x y → y ∈ seen ∨ y ∈ new := by
        intro x hx y hxy
        by_cases hy : y ∈ seen
        · exact .inl hy
        · by_cases hxf : x ∈ fresh
          · exact .inr ((hnew y).mpr ⟨⟨x, hxf, hxy⟩, hy⟩)
          · exact .inl (hdone x hx hxf y hxy)
      split
      next hempty =>
        rw [List.isEmpty_iff] at hempty
        have hclosed : ∀ x ∈ seen, ∀ y, R x y → y ∈ seen := by
          intro x hx y hxy
          refine (hnext x hx y hxy).resolve_right ?_
          rw [hempty]
          exact List.not_mem_nil
        exact mem_of_steps hclosed hp h
      next =>
        have hall : ∀ x ∈ seen ++ new, x.IsIn t := by
          intro x hx
          rcases List.mem_append.mp hx with hx | hx
          · exact hseen x hx
          · obtain ⟨⟨y, hy, hyx⟩, -⟩ := (hnew x).mp hx
            exact (hR y x (hfresh y hy) hyx).1
        have hsub' : ∀ x ∈ new, x ∈ seen ++ new := fun x hx => List.mem_append_right seen hx
        have hdone' : ∀ x ∈ seen ++ new, x ∉ new → ∀ y, R x y → y ∈ seen ++ new := by
          intro x hx hxn y hxy
          have hx' := (List.mem_append.mp hx).resolve_right hxn
          exact List.mem_append.mpr (hnext x hx' y hxy)
        have hnew' : ∀ x ∈ new, x.IsIn t := fun x hx => hall x (hsub' x hx)
        cases k with
        | zero =>
            obtain rfl : p = q := h
            exact ih hall hsub' hdone' (Nat.zero_le n) (List.mem_append_left new hp) rfl hnew'
        | succ k =>
            obtain ⟨m, hpm, hmq⟩ := h
            have hm : m ∈ seen ++ new := List.mem_append.mpr (hnext p hp m hpm)
            exact ih hall hsub' hdone' (Nat.le_of_succ_le_succ hk) hm hmq hnew'

/-- Each place is followed only once, when it is new, and nothing is lost by that. -/
theorem mem_closure_iff (hf : Finds t f R) (hR : Advances t R) (n : Nat) {ps : List Place}
    (hps : ∀ p ∈ ps, p.IsIn t) {q : Place} :
    q ∈ closure f n ps ps ↔ ∃ p ∈ ps, ∃ k ≤ n, Steps R k p q := by
  constructor
  · intro h
    rcases of_mem_closure hf hR hps (fun p hp => hp) h with hq | hq
    · exact ⟨q, hq, 0, Nat.zero_le n, rfl⟩
    · exact hq
  · rintro ⟨p, hp, k, hk, hpq⟩
    exact mem_closure_of_steps hf hR hps (fun p hp => hp) (fun p hp hnot => absurd hp hnot) hk hp
      hpq

theorem le_foldl_max (ns : List Nat) (m : Nat) :
    m ≤ ns.foldl max m ∧ ∀ n ∈ ns, n ≤ ns.foldl max m := by
  induction ns generalizing m with
  | nil => simp
  | cons a ns ih =>
      obtain ⟨hle, hmem⟩ := ih (max m a)
      rw [List.foldl_cons]
      refine ⟨by omega, fun n hn => ?_⟩
      rcases List.mem_cons.mp hn with rfl | hn
      · omega
      · exact hmem n hn

theorem length_le_longest {ps : List Place} {p : Place} (hp : p ∈ ps) :
    p.after.length ≤ longest ps :=
  (le_foldl_max _ 0).2 _ (List.mem_map_of_mem hp)

/-! ## Running an expression -/

/-- The expression can start at one place and end at the other. -/
def Ends : Regex → Place → Place → Prop
  | empty, p, q => p = q
  | chars c, p, q => ∃ x, p.next? = some (x, q) ∧ c.contains x = true
  | look l, p, q => l.holds p = true ∧ p = q
  | seq a b, p, q => ∃ m, Ends a p m ∧ Ends b m q
  | alt a b, p, q => Ends a p q ∨ Ends b p q
  | times a min max, p, q => ∃ k, (∀ m ∈ max, k ≤ m - min) ∧ Steps (Ends a) (min + k) p q

theorem advances_ends (r : Regex) : Advances t r.Ends := by
  induction r with
  | empty =>
      rintro p q hp rfl
      exact ⟨hp, Nat.le_refl _⟩
  | chars c =>
      rintro p q hp ⟨x, hnext, -⟩
      refine ⟨hp.next hnext, ?_⟩
      rw [(Place.next?_eq_some.mp hnext).1, List.length_cons]
      omega
  | look l =>
      rintro p q hp ⟨-, rfl⟩
      exact ⟨hp, Nat.le_refl _⟩
  | seq a b iha ihb =>
      rintro p q hp ⟨m, hpm, hmq⟩
      obtain ⟨hm, hle⟩ := iha p m hp hpm
      obtain ⟨hq, hle'⟩ := ihb m q hm hmq
      exact ⟨hq, Nat.le_trans hle' hle⟩
  | alt a b iha ihb =>
      rintro p q hp (h | h)
      · exact iha p q hp h
      · exact ihb p q hp h
  | times a min max ih =>
      rintro p q hp ⟨k, -, h⟩
      exact ih.steps (min + k) p q hp h

theorem steps_add {α : Type} {R : α → α → Prop} {m n : Nat} {p q : α} :
    Steps R (m + n) p q ↔ ∃ x, Steps R m p x ∧ Steps R n x q := by
  induction m generalizing p with
  | zero =>
      rw [Nat.zero_add]
      constructor
      · intro h
        exact ⟨p, rfl, h⟩
      · rintro ⟨x, rfl, h⟩
        exact h
  | succ m ih =>
      rw [Nat.succ_add]
      simp only [Steps, ih]
      constructor
      · rintro ⟨y, hy, x, hyx, hxq⟩
        exact ⟨x, ⟨y, hy, hyx⟩, hxq⟩
      · rintro ⟨x, ⟨y, hy, hyx⟩, hxq⟩
        exact ⟨y, hy, x, hyx, hxq⟩

/-- A chain of matches need not be longer than the text that is left, so the rounds suffice. -/
theorem finds_times {a : Regex} (ha : Finds t a.run a.Ends) (min : Nat) (max : Option Nat) :
    Finds t (times a min max).run (times a min max).Ends := by
  intro ps hps q
  have hstart := ha.iterate (advances_ends a) min ps hps
  have hin := (ha.iterate (advances_ends a) min).isIn ((advances_ends a).steps min) hps
  have hsplit : (times a min max).Ends = fun p q => ∃ k, (∀ m ∈ max, k ≤ m - min) ∧
      ∃ x, Steps a.Ends min p x ∧ Steps a.Ends k x q := by
    funext p q
    simp only [Ends, steps_add]
  rw [hsplit]
  cases max with
  | none =>
      change q ∈ closure a.run (longest (iterate a.run min ps) + 1) _ _ ↔ _
      rw [mem_closure_iff ha (advances_ends a) _ hin]
      constructor
      · rintro ⟨x, hx, k, -, hxq⟩
        obtain ⟨p, hp, hpx⟩ := (hstart x).mp hx
        exact ⟨p, hp, k, by simp, x, hpx, hxq⟩
      · rintro ⟨p, hp, k, -, x, hpx, hxq⟩
        have hx := (hstart x).mpr ⟨p, hp, hpx⟩
        obtain ⟨k', hk', hshort⟩ := (advances_ends a).short (hin x hx) hxq
        have hlongest := length_le_longest hx
        exact ⟨x, hx, k', by omega, hshort⟩
  | some m =>
      change q ∈ closure a.run (m - min) _ _ ↔ _
      rw [mem_closure_iff ha (advances_ends a) _ hin]
      constructor
      · rintro ⟨x, hx, k, hk, hxq⟩
        obtain ⟨p, hp, hpx⟩ := (hstart x).mp hx
        exact ⟨p, hp, k, by simpa using hk, x, hpx, hxq⟩
      · rintro ⟨p, hp, k, hk, x, hpx, hxq⟩
        exact ⟨x, (hstart x).mpr ⟨p, hp, hpx⟩, k, hk m rfl, hxq⟩

/-- The matcher finds the ends of all matches and nothing else. -/
theorem finds_ends (r : Regex) : Finds t r.run r.Ends := by
  induction r with
  | empty =>
      intro ps hps q
      simp [run, Ends]
  | chars c =>
      intro ps hps q
      rw [run, List.mem_filterMap]
      refine exists_congr fun p => and_congr_right fun _ => ?_
      rw [Option.bind_eq_some_iff, Ends]
      constructor
      · rintro ⟨⟨x, m⟩, hnext, hm⟩
        dsimp only at hm
        split at hm
        next hx =>
          obtain rfl := Option.some.inj hm
          exact ⟨x, hnext, hx⟩
        next => cases hm
      · rintro ⟨x, hnext, hx⟩
        exact ⟨(x, q), hnext, if_pos hx⟩
  | look l =>
      intro ps hps q
      rw [run, List.mem_filter]
      constructor
      · rintro ⟨hq, hl⟩
        exact ⟨q, hq, hl, rfl⟩
      · rintro ⟨p, hp, hl, rfl⟩
        exact ⟨hp, hl⟩
  | seq a b iha ihb =>
      intro ps hps q
      rw [run, ihb _ (iha.isIn (advances_ends a) hps)]
      constructor
      · rintro ⟨m, hm, hmq⟩
        obtain ⟨p, hp, hpm⟩ := (iha ps hps m).mp hm
        exact ⟨p, hp, m, hpm, hmq⟩
      · rintro ⟨p, hp, m, hpm, hmq⟩
        exact ⟨m, (iha ps hps m).mpr ⟨p, hp, hpm⟩, hmq⟩
  | alt a b iha ihb =>
      intro ps hps q
      rw [run, mem_merge (iha.isIn (advances_ends a) hps) (ihb.isIn (advances_ends b) hps),
        iha ps hps, ihb ps hps, ← exists_or]
      exact exists_congr fun p => and_or_left.symm
  | times a min max ih => exact finds_times ih min max

/-- A text matches if the expression can end somewhere from some place in it. -/
theorem isMatch_iff {r : Regex} :
    r.isMatch t = true ↔ ∃ p q, p.IsIn t ∧ r.Ends p q := by
  have hfinds := finds_ends r (Place.allFrom none t) fun p => Place.mem_allFrom_none.mp
  rw [isMatch, Bool.not_eq_true', ← Bool.not_eq_true, List.isEmpty_iff,
    List.eq_nil_iff_forall_not_mem, Classical.not_forall]
  constructor
  · rintro ⟨q, hq⟩
    obtain ⟨p, hp, hpq⟩ := (hfinds q).mp (Classical.not_not.mp hq)
    exact ⟨p, q, Place.mem_allFrom_none.mp hp, hpq⟩
  · rintro ⟨p, q, hp, hpq⟩
    exact ⟨q, fun hnot => hnot ((hfinds q).mpr ⟨p, Place.mem_allFrom_none.mpr hp, hpq⟩)⟩

end Regex

end RpcDispatch
