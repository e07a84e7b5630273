import Mathlib.Computability.Language
import RpcDispatch.Proofs.Pattern.Matching

/-!
# The words of an expression

An expression without conditions on places takes up the words of a language, wherever it starts. In
front of an expression that ends with the text it adds its words in front of the last ones.
-/

namespace RpcDispatch.Regex

open Language

/-! ## What leads from place to place -/

/-- `R` takes up the words of the language, whatever is in front of them. -/
def Takes (R : Place → Place → Prop) (l : Language Char) : Prop :=
  ∀ before s t, (∃ last, R ⟨before, s⟩ ⟨last, t⟩) ↔ ∃ w ∈ l, s = w ++ t

variable {R R' : Place → Place → Prop} {l l' : Language Char}

theorem takes_eq : Takes (· = ·) 1 := by
  intro before s t
  constructor
  · rintro ⟨last, hplaces⟩
    exact ⟨[], nil_mem_one, congrArg Place.after hplaces⟩
  · rintro ⟨w, hw, rfl⟩
    rw [(mem_one w).mp hw]
    exact ⟨before, rfl⟩

theorem Takes.comp (h : Takes R l) (h' : Takes R' l') :
    Takes (fun p q => ∃ m, R p m ∧ R' m q) (l * l') := by
  intro before s t
  constructor
  · rintro ⟨last, ⟨before', s'⟩, hfirst, hsecond⟩
    obtain ⟨u, hu, rfl⟩ := (h before s s').mp ⟨before', hfirst⟩
    obtain ⟨v, hv, rfl⟩ := (h' before' s' t).mp ⟨last, hsecond⟩
    exact ⟨u ++ v, append_mem_mul hu hv, (List.append_assoc u v t).symm⟩
  · rintro ⟨w, hw, rfl⟩
    obtain ⟨u, hu, v, hv, rfl⟩ := mem_mul.mp hw
    obtain ⟨before', hfirst⟩ := (h before _ (v ++ t)).mpr ⟨u, hu, List.append_assoc u v t⟩
    obtain ⟨last, hsecond⟩ := (h' before' (v ++ t) t).mpr ⟨v, hv, rfl⟩
    exact ⟨last, _, hfirst, hsecond⟩

theorem Takes.or (h : Takes R l) (h' : Takes R' l') :
    Takes (fun p q => R p q ∨ R' p q) (l + l') := by
  intro before s t
  have hwords : (∃ w ∈ l + l', s = w ++ t) ↔ (∃ w ∈ l, s = w ++ t) ∨ ∃ w ∈ l', s = w ++ t := by
    simp only [mem_add, or_and_right, exists_or]
  rw [hwords, ← h before s t, ← h' before s t, exists_or]

theorem Takes.steps (h : Takes R l) (n : Nat) : Takes (Steps R n) (l ^ n) := by
  induction n with
  | zero => exact takes_eq
  | succ n ih =>
      rw [pow_succ']
      exact h.comp ih

/-! ## Expressions -/

/-- The expression has no conditions on places. -/
def IsPlain : Regex → Prop
  | empty => True
  | chars _ => True
  | look _ => False
  | seq a b => a.IsPlain ∧ b.IsPlain
  | alt a b => a.IsPlain ∧ b.IsPlain
  | times a _ _ => a.IsPlain

def language : Regex → Language Char
  | empty => 1
  | chars c => {w | ∃ x, c.contains x = true ∧ w = [x]}
  | look _ => 0
  | seq a b => a.language * b.language
  | alt a b => a.language + b.language
  | times a min max => {w | ∃ k, (∀ m ∈ max, k ≤ m - min) ∧ w ∈ a.language ^ (min + k)}

/-- A plain expression looks at the characters that it takes and at none around them. -/
theorem takes_language {r : Regex} (h : r.IsPlain) : Takes r.Ends r.language := by
  induction r with
  | empty => exact takes_eq
  | chars c =>
      intro before s t
      constructor
      · rintro ⟨last, x, hnext, hx⟩
        exact ⟨[x], ⟨x, hx, rfl⟩, (Place.next?_eq_some.mp hnext).1⟩
      · rintro ⟨w, ⟨x, hx, rfl⟩, rfl⟩
        exact ⟨some x, x, rfl, hx⟩
  | look l => exact h.elim
  | seq a b iha ihb => exact (iha h.1).comp (ihb h.2)
  | alt a b iha ihb => exact (iha h.1).or (ihb h.2)
  | times a min max ih =>
      intro before s t
      have hsteps := fun k => (ih h).steps (min + k) before s t
      constructor
      · rintro ⟨last, k, hk, hlast⟩
        obtain ⟨w, hw, rfl⟩ := (hsteps k).mp ⟨last, hlast⟩
        exact ⟨w, ⟨k, hk, hw⟩, rfl⟩
      · rintro ⟨w, ⟨k, hk, hw⟩, rfl⟩
        obtain ⟨last, hlast⟩ := (hsteps k).mpr ⟨w, hw, rfl⟩
        exact ⟨last, k, hk, hlast⟩

theorem language_optional (a : Regex) : (times a 0 (some 1)).language = 1 + a.language := by
  ext w
  rw [mem_add]
  constructor
  · rintro ⟨k, hk, hw⟩
    have hle : k ≤ 1 := hk 1 rfl
    rw [Nat.zero_add] at hw
    rcases Nat.le_one_iff_eq_zero_or_eq_one.mp hle with rfl | rfl
    · exact .inl hw
    · exact .inr (by rwa [pow_one] at hw)
  · rintro (hw | hw)
    · exact ⟨0, fun _ _ => Nat.zero_le _, hw⟩
    · refine ⟨1, fun m hm => ?_, by rwa [Nat.zero_add, pow_one]⟩
      obtain rfl := Option.some.inj hm
      exact Nat.le_refl 1

theorem language_manyChars (c : CharClass) :
    (times (chars c) 0 none).language = {w | ∀ x ∈ w, c.contains x = true} := by
  have hpow (k : Nat) (w : Text) : w ∈ (chars c).language ^ k ↔
      w.length = k ∧ ∀ x ∈ w, c.contains x = true := by
    induction k generalizing w with
    | zero =>
        rw [pow_zero, mem_one, List.length_eq_zero_iff]
        constructor
        · rintro rfl
          exact ⟨rfl, List.forall_mem_nil _⟩
        · exact And.left
    | succ k ih =>
        rw [pow_succ', mem_mul]
        constructor
        · rintro ⟨_, ⟨x, hx, rfl⟩, v, hv, rfl⟩
          obtain ⟨hlength, hall⟩ := (ih v).mp hv
          exact ⟨congrArg (· + 1) hlength, List.forall_mem_cons.mpr ⟨hx, hall⟩⟩
        · rintro ⟨hlength, hall⟩
          cases w with
          | nil => cases hlength
          | cons x v =>
              obtain ⟨hx, hall⟩ := List.forall_mem_cons.mp hall
              exact ⟨[x], ⟨x, hx, rfl⟩, v, (ih v).mpr ⟨Nat.succ.inj hlength, hall⟩, rfl⟩
  ext w
  constructor
  · rintro ⟨k, -, hw⟩
    rw [Nat.zero_add] at hw
    exact ((hpow k w).mp hw).2
  · intro hall
    refine ⟨w.length, fun m hm => (by cases hm), ?_⟩
    rw [Nat.zero_add]
    exact (hpow _ w).mpr ⟨rfl, hall⟩

/-! ## Expressions at the end of a text -/

/-- From a place on the expression can end if and only if the rest of the text is a word of the
language, whatever is in front of it. -/
def Finishes (r : Regex) (l : Language Char) : Prop :=
  ∀ before t, (∃ q, r.Ends ⟨before, t⟩ q) ↔ t ∈ l

theorem finishes_textEnd : (look .textEnd).Finishes 1 := by
  intro before t
  rw [mem_one]
  constructor
  · rintro ⟨q, hend, -⟩
    rwa [Look.holds, Option.isNone_iff_eq_none, List.head?_eq_none_iff] at hend
  · rintro rfl
    exact ⟨_, rfl, rfl⟩

theorem Finishes.seq {a b : Regex} (hb : b.Finishes l) (ha : a.IsPlain) :
    (seq a b).Finishes (a.language * l) := by
  intro before t
  rw [mem_mul]
  constructor
  · rintro ⟨q, ⟨before', v⟩, hfirst, hrest⟩
    obtain ⟨u, hu, rfl⟩ := (takes_language ha before t v).mp ⟨before', hfirst⟩
    exact ⟨u, hu, v, (hb before' v).mp ⟨q, hrest⟩, rfl⟩
  · rintro ⟨u, hu, v, hv, rfl⟩
    obtain ⟨before', hfirst⟩ := (takes_language ha before (u ++ v) v).mpr ⟨u, hu, rfl⟩
    obtain ⟨q, hrest⟩ := (hb before' v).mpr hv
    exact ⟨q, _, hfirst, hrest⟩

end RpcDispatch.Regex
