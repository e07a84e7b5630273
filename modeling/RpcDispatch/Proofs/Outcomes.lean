import RpcDispatch.Text.Basic

/-!
# Computations that may fail

When a sequence of steps succeeds, each of them does. Two sequences whose steps end alike end alike.
-/

namespace RpcDispatch

variable {ε α β : Type}

theorem bind_eq_ok {x : Except ε α} {f : α → Except ε β} {b : β} :
    x >>= f = .ok b ↔ ∃ a, x = .ok a ∧ f a = .ok b := by
  cases x with
  | error e => simp [bind, Except.bind]
  | ok a => simp [bind, Except.bind]

/-- The first step that fails decides. -/
theorem bind_eq_error {x : Except ε α} {f : α → Except ε β} {e : ε} :
    x >>= f = .error e ↔ x = .error e ∨ ∃ a, x = .ok a ∧ f a = .error e := by
  cases x with
  | error d => simp [bind, Except.bind]
  | ok a => simp [bind, Except.bind]

theorem ok_bind (a : α) (f : α → Except ε β) : (.ok a >>= f : Except ε β) = f a := rfl

theorem error_bind (e : ε) (f : α → Except ε β) : (.error e >>= f : Except ε β) = .error e := rfl

theorem elim_throw_eq_ok {o : Option α} {e : ε} {a : α} :
    (o.elim (throw e) pure : Except ε α) = .ok a ↔ o = some a := by
  cases o with
  | none => simp [throw, throwThe, MonadExceptOf.throw]
  | some b => simp [pure, Except.pure]

theorem elim_throw_eq_error {o : Option α} {d e : ε} :
    (o.elim (throw d) pure : Except ε α) = .error e ↔ o = none ∧ d = e := by
  cases o with
  | none => simp [throw, throwThe, MonadExceptOf.throw]
  | some b => simp [pure, Except.pure]

theorem mapError_ok {ε' : Type} (f : ε → ε') (a : α) :
    (.ok a : Except ε α).mapError f = .ok a := rfl

theorem mapError_eq_ok {ε' : Type} {x : Except ε α} {f : ε → ε'} {a : α} :
    x.mapError f = .ok a ↔ x = .ok a := by
  constructor
  · intro h
    cases x with
    | error e => cases h
    | ok b =>
        cases h
        rfl
  · rintro rfl
    rfl

/-! ## Two options -/

section

variable {R S : α → β → Prop} {a : Option α} {b : Option β}

theorem optionRel_imp (h : Option.Rel R a b) (hRS : ∀ x y, R x y → S x y) :
    Option.Rel S a b := by
  cases h with
  | none => exact .none
  | some h => exact .some (hRS _ _ h)

theorem optionRel_map {γ δ : Type} {f : α → γ} {g : β → δ} {T : γ → δ → Prop}
    (h : Option.Rel R a b) (hfg : ∀ x y, R x y → T (f x) (g y)) :
    Option.Rel T (a.map f) (b.map g) := by
  cases h with
  | none => exact .none
  | some h => exact .some (hfg _ _ h)

theorem optionRel_isSome (h : Option.Rel R a b) : a.isSome = b.isSome := by
  cases h <;> rfl

theorem optionRel_map_eq {γ : Type} {f : α → γ} {g : β → γ} (h : Option.Rel R a b)
    (hfg : ∀ x y, R x y → f x = g y) : a.map f = b.map g := by
  cases h with
  | none => rfl
  | some h => exact congrArg some (hfg _ _ h)

theorem optionRel_eq {a b : Option α} (h : Option.Rel Eq a b) : a = b := by
  cases h with
  | none => rfl
  | some h => exact congrArg some h

end

/-! ## Two computations -/

variable {ε' α' β' : Type}

/-- Both fail or both succeed, with faults or values that stand in a relation. -/
inductive Corresponds (E : ε → ε' → Prop) (A : α → α' → Prop) :
    Except ε α → Except ε' α' → Prop
  | error {e : ε} {e' : ε'} : E e e' → Corresponds E A (.error e) (.error e')
  | ok {a : α} {a' : α'} : A a a' → Corresponds E A (.ok a) (.ok a')

namespace Corresponds

variable {E : ε → ε' → Prop} {A : α → α' → Prop} {B : β → β' → Prop}
  {x : Except ε α} {x' : Except ε' α'}

/-- Both computations fail alike at the first step, or they go on from values that are alike. -/
theorem bind {f : α → Except ε β} {f' : α' → Except ε' β'} (h : Corresponds E A x x')
    (hf : ∀ a a', A a a' → Corresponds E B (f a) (f' a')) :
    Corresponds E B (x >>= f) (x' >>= f') := by
  cases h with
  | error he => exact .error he
  | ok ha => exact hf _ _ ha

theorem elim_throw {o : Option α} {o' : Option α'} {e : ε} {e' : ε'} (h : Option.Rel A o o')
    (he : E e e') : Corresponds E A (o.elim (throw e) pure) (o'.elim (throw e') pure) := by
  cases h with
  | none => exact .error he
  | some ha => exact .ok ha

theorem mapError {δ δ' : Type} {D : δ → δ' → Prop} {f : ε → δ} {f' : ε' → δ'}
    (h : Corresponds E A x x') (hf : ∀ e e', E e e' → D (f e) (f' e')) :
    Corresponds D A (x.mapError f) (x'.mapError f') := by
  cases h with
  | error he => exact .error (hf _ _ he)
  | ok ha => exact .ok ha

end Corresponds

end RpcDispatch
