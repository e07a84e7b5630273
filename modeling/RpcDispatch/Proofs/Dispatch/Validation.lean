import RpcDispatch.Dispatch.Validate
import RpcDispatch.Proofs.Outcomes

/-!
# When a signature is accepted, and for what it is refused

Types are supported exactly if they are scalar integers. The grounds of refusal are tried in a
fixed order: the name, the return type, the parameter list, the first parameter of another type.
-/

namespace RpcDispatch

/-! ## Supported types -/

/-- The keyword of the only supported type, in any letter case, without a width. -/
def ArrayWidth.IsInteger (type : Text) (width : Option ArrayWidth) : Prop :=
  Text.foldCase type = "integer".toList ∧ width = none

def Parameter.IsInteger (p : Parameter) : Prop := ArrayWidth.IsInteger p.type p.width

def Signature.ReturnsInteger (s : Signature) : Prop :=
  ∀ type ∈ s.returnType, ArrayWidth.IsInteger type s.returnWidth

namespace TypeSupport

theorem lookup?_eq (type : Text) :
    lookup? type = if Text.foldCase type = "integer".toList then some integer else none := by
  have hk : Text.foldCase integer.keyword = "integer".toList := by decide
  rw [lookup?, table, List.find?_singleton, Text.sameLetters, hk]
  by_cases h : Text.foldCase type = "integer".toList
  · rw [if_pos h, h, beq_self_eq_true, if_pos rfl]
  · rw [if_neg h, beq_eq_false_iff_ne.mpr (Ne.symm h), if_neg Bool.false_ne_true]

theorem ofScalar?_eq_some {type : Text} {width : Option ArrayWidth} {support : TypeSupport} :
    ofScalar? type width = some support ↔
      ArrayWidth.IsInteger type width ∧ support = integer := by
  rw [ArrayWidth.IsInteger]
  cases width with
  | none =>
      rw [ofScalar?, lookup?_eq, Option.ite_none_right_eq_some, Option.some_inj,
        eq_comm (a := integer)]
      simp only [and_true]
  | some w => simp only [ofScalar?, reduceCtorEq, and_false, false_and]

theorem ofScalar?_of_isInteger {type : Text} {width : Option ArrayWidth}
    (h : ArrayWidth.IsInteger type width) : ofScalar? type width = some integer :=
  ofScalar?_eq_some.mpr ⟨h, rfl⟩

theorem ofScalar?_of_not_isInteger {type : Text} {width : Option ArrayWidth}
    (h : ¬ ArrayWidth.IsInteger type width) : ofScalar? type width = none := by
  rw [Option.eq_none_iff_forall_ne_some]
  intro support hs
  exact h (ofScalar?_eq_some.mp hs).1

end TypeSupport

/-! ## Parameters -/

namespace ResolvedParameter

def ofInteger (p : Parameter) : ResolvedParameter := ⟨p, .integer⟩

theorem resolve_of_isInteger {p : Parameter} (h : p.IsInteger) :
    resolve p = .ok (ofInteger p) := by
  rw [resolve, TypeSupport.ofScalar?_of_isInteger h]
  rfl

theorem resolve_of_not_isInteger {p : Parameter} (h : ¬ p.IsInteger) :
    resolve p = .error (.unsupportedParameterType (ArrayWidth.typeText p.type p.width) p.name) := by
  rw [resolve, TypeSupport.ofScalar?_of_not_isInteger h]

theorem resolveAll_of_isInteger {ps : List Parameter} (h : ∀ p ∈ ps, p.IsInteger) :
    resolveAll ps = .ok (ps.map ofInteger) := by
  induction ps with
  | nil => rfl
  | cons p ps ih =>
      rw [resolveAll, resolve_of_isInteger (h p List.mem_cons_self),
        ih fun q hq => h q (List.mem_cons_of_mem p hq)]
      rfl

/-- The first parameter of another type decides. -/
theorem resolveAll_append {ps : List Parameter} (h : ∀ p ∈ ps, p.IsInteger) {p : Parameter}
    (hp : ¬ p.IsInteger) (qs : List Parameter) :
    resolveAll (ps ++ p :: qs) =
      .error (.unsupportedParameterType (ArrayWidth.typeText p.type p.width) p.name) := by
  induction ps with
  | nil =>
      rw [List.nil_append, resolveAll, resolve_of_not_isInteger hp]
      rfl
  | cons q ps ih =>
      rw [List.cons_append, resolveAll, resolve_of_isInteger (h q List.mem_cons_self),
        ih fun r hr => h r (List.mem_cons_of_mem q hr)]
      rfl

/-- Parameters are taken in order, so the first one without support is the one to report. -/
theorem isInteger_or_first (ps : List Parameter) :
    (∀ p ∈ ps, p.IsInteger) ∨
      ∃ before p after, ps = before ++ p :: after ∧ (∀ q ∈ before, q.IsInteger) ∧
        ¬ p.IsInteger := by
  induction ps with
  | nil => exact .inl (by simp)
  | cons p ps ih =>
      by_cases hp : p.IsInteger
      · rcases ih with hall | ⟨before, q, after, rfl, hbefore, hq⟩
        · exact .inl (List.forall_mem_cons.mpr ⟨hp, hall⟩)
        · exact .inr ⟨p :: before, q, after, rfl, List.forall_mem_cons.mpr ⟨hp, hbefore⟩, hq⟩
      · exact .inr ⟨[], p, ps, rfl, by simp, hp⟩

end ResolvedParameter

/-! ## Signatures -/

namespace Signature

/-- The signature is accepted, whatever its name, and these are its parameters. -/
def Accepts (s : Signature) (ps : List Parameter) : Prop :=
  s.ReturnsInteger ∧ Parameter.parseList s.rawParams = .ok ps ∧ ∀ p ∈ ps, p.IsInteger

/-- The first ground, after the name, on which a signature is refused. -/
inductive RefusedFor (s : Signature) : SkipReason → Prop
  | returnType {type : Text} : s.returnType = some type →
      ¬ ArrayWidth.IsInteger type s.returnWidth →
      RefusedFor s (.unsupportedReturnType (ArrayWidth.typeText type s.returnWidth))
  | malformed {f : ParameterFailure} : s.ReturnsInteger →
      Parameter.parseList s.rawParams = .error f →
      RefusedFor s (.malformedParameters f.position f.fault.message)
  | parameterType {before after : List Parameter} {p : Parameter} : s.ReturnsInteger →
      Parameter.parseList s.rawParams = .ok (before ++ p :: after) →
      (∀ q ∈ before, q.IsInteger) → ¬ p.IsInteger →
      RefusedFor s (.unsupportedParameterType (ArrayWidth.typeText p.type p.width) p.name)

def accepted (s : Signature) (ps : List Parameter) : ResolvedSignature where
  name := s.name
  returns := s.returnType.map fun _ => .integer
  parameters := ps.map .ofInteger

theorem resolveReturn_of_returnsInteger {s : Signature} (h : s.ReturnsInteger) :
    s.resolveReturn = .ok (s.returnType.map fun _ => .integer) := by
  rw [resolveReturn]
  cases ht : s.returnType with
  | none => rfl
  | some type =>
      dsimp only
      rw [TypeSupport.ofScalar?_of_isInteger (h type ht)]
      rfl

theorem resolveReturn_of_not_isInteger {s : Signature} {type : Text}
    (ht : s.returnType = some type) (h : ¬ ArrayWidth.IsInteger type s.returnWidth) :
    s.resolveReturn =
      .error (.unsupportedReturnType (ArrayWidth.typeText type s.returnWidth)) := by
  rw [resolveReturn, ht]
  dsimp only
  rw [TypeSupport.ofScalar?_of_not_isInteger h]

theorem resolve_of_accepts {s : Signature} {ps : List Parameter} (h : s.Accepts ps) :
    s.resolve = .ok (s.accepted ps) := by
  obtain ⟨hreturn, hparse, hall⟩ := h
  rw [resolve, resolveReturn_of_returnsInteger hreturn, hparse]
  simp only [mapError_ok, ok_bind, ResolvedParameter.resolveAll_of_isInteger hall]
  rfl

theorem resolve_of_refusedFor {s : Signature} {r : SkipReason} (h : s.RefusedFor r) :
    s.resolve = .error r := by
  cases h with
  | returnType ht hn =>
      rw [resolve, resolveReturn_of_not_isInteger ht hn]
      rfl
  | malformed hreturn hparse =>
      rw [resolve, resolveReturn_of_returnsInteger hreturn, hparse]
      rfl
  | parameterType hreturn hparse hbefore hp =>
      rw [resolve, resolveReturn_of_returnsInteger hreturn, hparse]
      simp only [mapError_ok, ok_bind, ResolvedParameter.resolveAll_append hbefore hp]
      rfl

/-- The grounds are tried in order: return type, parameter list, parameter types. -/
theorem accepts_or_refusedFor (s : Signature) :
    (∃ ps, s.Accepts ps) ∨ ∃ r, s.RefusedFor r := by
  by_cases hreturn : s.ReturnsInteger
  · cases hparse : Parameter.parseList s.rawParams with
    | error f => exact .inr ⟨_, .malformed hreturn hparse⟩
    | ok ps =>
        rcases ResolvedParameter.isInteger_or_first ps with hall | ⟨before, p, after, rfl, hb, hp⟩
        · exact .inl ⟨ps, hreturn, hparse, hall⟩
        · exact .inr ⟨_, .parameterType hreturn hparse hb hp⟩
  · obtain ⟨type, hn⟩ := Classical.not_forall.mp hreturn
    obtain ⟨ht, hn⟩ := Classical.not_imp.mp hn
    exact .inr ⟨_, .returnType ht hn⟩

theorem resolve_eq_ok {s : Signature} {f : ResolvedSignature} :
    s.resolve = .ok f ↔ ∃ ps, s.Accepts ps ∧ f = s.accepted ps := by
  constructor
  · intro h
    rcases s.accepts_or_refusedFor with ⟨ps, hps⟩ | ⟨r, hr⟩
    · rw [resolve_of_accepts hps] at h
      exact ⟨ps, hps, (Except.ok.inj h).symm⟩
    · rw [resolve_of_refusedFor hr] at h
      cases h
  · rintro ⟨ps, hps, rfl⟩
    exact resolve_of_accepts hps

/-- A signature is refused on one ground, the first that holds. -/
theorem resolve_eq_error {s : Signature} {r : SkipReason} :
    s.resolve = .error r ↔ s.RefusedFor r := by
  constructor
  · intro h
    rcases s.accepts_or_refusedFor with ⟨ps, hps⟩ | ⟨r', hr⟩
    · rw [resolve_of_accepts hps] at h
      cases h
    · rw [resolve_of_refusedFor hr] at h
      exact Except.error.inj h ▸ hr
  · exact resolve_of_refusedFor

/-- Only what is accepted is valid. -/
theorem of_validate_eq_ok {s : Signature} {r : Registry} {f : ResolvedSignature}
    (h : (s.validate r).1 = .ok f) : ∃ ps, s.Accepts ps ∧ f = s.accepted ps := by
  rw [validate] at h
  split at h
  next => exact resolve_eq_ok.mp h
  next => cases h

/-- A refusal is for the name, or on a ground that does not depend on the registry. -/
theorem of_validate_eq_error {s : Signature} {r : Registry} {reason : SkipReason}
    (h : (s.validate r).1 = .error reason) : reason = .duplicateName ∨ s.RefusedFor reason := by
  rw [validate] at h
  split at h
  next => exact .inr (resolve_eq_error.mp h)
  next => exact .inl (Except.error.inj h).symm

end Signature

end RpcDispatch
