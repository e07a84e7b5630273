import RpcDispatch.Dispatch.Session
import RpcDispatch.Proofs.Dispatch.Validation
import RpcDispatch.Proofs.Extraction.AlikeParameters
import RpcDispatch.Source.Extract

/-!
# Alike tables

Signatures that agree in the key of their name, in the letters of their types and in which of them
are arrays are accepted together, or refused on the same ground. The registry is the same behind
them, so files with such signatures have corresponding entries.
-/

namespace RpcDispatch

/-- Refusals of one kind; of a parameter list, for the same fault at the same place. -/
inductive SkipReason.SameGround : SkipReason → SkipReason → Prop
  | duplicateName : SameGround duplicateName duplicateName
  | unsupportedReturnType (type type' : Text) :
      SameGround (unsupportedReturnType type) (unsupportedReturnType type')
  | unsupportedParameterType (type name type' name' : Text) :
      SameGround (unsupportedParameterType type name) (unsupportedParameterType type' name')
  | malformedParameters (position : Nat) (problem : Text) :
      SameGround (malformedParameters position problem) (malformedParameters position problem)

section

variable (T : Text → Text → Prop)

structure Signature.Alike (s s' : Signature) : Prop where
  name : T s.name s'.name
  key : Text.lower s.name = Text.lower s'.name
  returnType : Option.Rel T s.returnType s'.returnType
  returnWidth : s.returnWidth.isSome = s'.returnWidth.isSome
  parameters : Corresponds Eq (List.Forall₂ (Parameter.Alike T))
    (Parameter.parseList s.rawParams) (Parameter.parseList s'.rawParams)

structure ResolvedParameter.Alike (p q : ResolvedParameter) : Prop where
  parameter : p.parameter.Alike T q.parameter
  scalar : p.parameter.width = none
  support : p.support = q.support

/-- Branches with one key, that call their functions in the same way. -/
structure ResolvedSignature.Alike (f f' : ResolvedSignature) : Prop where
  name : T f.name f'.name
  key : Text.lower f.name = Text.lower f'.name
  returns : f.returns = f'.returns
  parameters : List.Forall₂ (ResolvedParameter.Alike T) f.parameters f'.parameters

inductive Fragment.Alike : Fragment → Fragment → Prop
  | branch {f f' : ResolvedSignature} : f.Alike T f' → Alike (.branch f) (.branch f')
  | skip {rawParams rawParams' : Text} {reason reason' : SkipReason} :
      reason.SameGround reason' → Alike (.skip rawParams reason) (.skip rawParams' reason')

structure DispatchEntry.Alike (e e' : DispatchEntry) : Prop where
  name : T e.name e'.name
  fragment : e.fragment.Alike T e'.fragment

structure FileSection.Alike (f f' : FileSection) : Prop where
  path : f.path = f'.path
  entries : List.Forall₂ (DispatchEntry.Alike T) f.entries f'.entries

end

/-! ## Support -/

theorem TypeSupport.ofScalar?_alike {type type' : Text} {width width' : Option ArrayWidth}
    (htype : Text.foldCase type = Text.foldCase type') (hwidth : width.isSome = width'.isSome) :
    ofScalar? type width = ofScalar? type' width' := by
  cases width with
  | none =>
      cases width' with
      | none => rw [ofScalar?, ofScalar?, lookup?_eq, lookup?_eq, htype]
      | some w' => cases hwidth
  | some w =>
      cases width' with
      | none => cases hwidth
      | some w' => rfl

section

variable {T : Text → Text → Prop} (hT : ∀ a b, T a b → Text.foldCase a = Text.foldCase b)

include hT

/-! ## Signatures -/

/-- Parameters that are alike are both supported, or refused on the same ground. -/
theorem ResolvedParameter.resolve_alike {p q : Parameter} (h : p.Alike T q) :
    Corresponds SkipReason.SameGround (ResolvedParameter.Alike T) (resolve p) (resolve q) := by
  rw [resolve, resolve, TypeSupport.ofScalar?_alike (hT _ _ h.type) h.width]
  cases hsupport : TypeSupport.ofScalar? q.type q.width with
  | none => exact .error (.unsupportedParameterType _ _ _ _)
  | some support =>
      refine .ok ⟨h, ?_, rfl⟩
      have hscalar := (TypeSupport.ofScalar?_eq_some.mp hsupport).1.2
      rw [← Option.not_isSome_iff_eq_none, h.width, hscalar]
      simp

theorem ResolvedParameter.resolveAll_alike {ps qs : List Parameter}
    (h : List.Forall₂ (Parameter.Alike T) ps qs) :
    Corresponds SkipReason.SameGround (List.Forall₂ (ResolvedParameter.Alike T))
      (resolveAll ps) (resolveAll qs) := by
  induction h with
  | nil => exact .ok .nil
  | cons hp _ ih =>
      apply Corresponds.bind (resolve_alike hT hp)
      intro r r' hr
      apply Corresponds.bind ih
      intro rs rs' hrs
      exact .ok (.cons hr hrs)

namespace Signature

variable {s s' : Signature}

theorem resolveReturn_alike (h : s.Alike T s') :
    Corresponds SkipReason.SameGround Eq s.resolveReturn s'.resolveReturn := by
  have htype := h.returnType
  rw [resolveReturn, resolveReturn]
  generalize s.returnType = x at htype
  generalize s'.returnType = y at htype
  cases htype with
  | none => exact .ok rfl
  | @some type type' htype =>
      dsimp only
      rw [TypeSupport.ofScalar?_alike (hT _ _ htype) h.returnWidth]
      split
      next => exact .ok rfl
      next => exact .error (.unsupportedReturnType _ _)

theorem resolve_alike (h : s.Alike T s') :
    Corresponds SkipReason.SameGround (ResolvedSignature.Alike T) s.resolve s'.resolve := by
  apply Corresponds.bind (resolveReturn_alike hT h)
  intro returns returns' hreturns
  apply Corresponds.bind
  · refine h.parameters.mapError ?_
    rintro f _ rfl
    exact .malformedParameters _ _
  intro ps ps' hps
  apply Corresponds.bind (ResolvedParameter.resolveAll_alike hT hps)
  intro rs rs' hrs
  exact .ok ⟨h.name, h.key, hreturns, hrs⟩

/-- In one registry, corresponding names are free together, and it is the same behind them. -/
theorem validate_alike (h : s.Alike T s') (r : Registry) :
    Corresponds SkipReason.SameGround (ResolvedSignature.Alike T) (s.validate r).1
        (s'.validate r).1 ∧ (s.validate r).2 = (s'.validate r).2 := by
  have hclaim : r.claim s.name = r.claim s'.name := by
    rw [Registry.claim, Registry.claim, Registry.claims, Registry.claims, Registry.insert,
      Registry.insert, h.key]
  rw [validate, validate, hclaim]
  split
  next => exact ⟨resolve_alike hT h, rfl⟩
  next => exact ⟨.error .duplicateName, rfl⟩

end Signature

/-! ## Tables -/

namespace DispatchTable

/-- The registries stay equal, since names are kept in lower case. -/
theorem entriesOf_alike {ss ss' : List Signature} (h : List.Forall₂ (Signature.Alike T) ss ss')
    (r : Registry) :
    List.Forall₂ (DispatchEntry.Alike T) (entriesOf ss r).1 (entriesOf ss' r).1 ∧
      (entriesOf ss r).2 = (entriesOf ss' r).2 := by
  induction h generalizing r with
  | nil => exact ⟨.nil, rfl⟩
  | @cons s s' ss ss' hs _ ih =>
      obtain ⟨houtcome, hregistry⟩ := s.validate_alike hT hs r
      have hrest := ih (s.validate r).2
      rw [entriesOf, entriesOf]
      dsimp only
      rw [← hregistry]
      refine ⟨.cons ?_ hrest.1, hrest.2⟩
      generalize (s.validate r).1 = x at houtcome
      generalize (s'.validate r).1 = y at houtcome
      cases houtcome with
      | error hreason => exact ⟨hs.name, .skip hreason⟩
      | ok hbranch => exact ⟨hs.name, .branch hbranch⟩

theorem sectionsOf_alike {ds ds' : List DisplayedScan}
    (h : List.Forall₂ (fun d d' => d.display = d'.display ∧
      List.Forall₂ (Signature.Alike T) d.scan.signatures d'.scan.signatures) ds ds')
    (r : Registry) :
    List.Forall₂ (FileSection.Alike T) (sectionsOf ds r) (sectionsOf ds' r) := by
  induction h generalizing r with
  | nil => exact .nil
  | @cons d d' ds ds' hd _ ih =>
      obtain ⟨hentries, hregistry⟩ := entriesOf_alike hT hd.2 r
      rw [sectionsOf, sectionsOf]
      dsimp only
      rw [hregistry]
      exact .cons ⟨hd.1, hentries⟩ (ih _)

end DispatchTable

end

/-! ## Sessions of sources -/

namespace Session

def ofSources (sources : List (Text × SourceText)) : Session :=
  sources.foldl (fun session x => session.add x.1 x.2.extract) {}

theorem scans_ofSources (sources : List (Text × SourceText)) :
    (ofSources sources).scans = sources.map fun x => ⟨x.1, x.2.extract⟩ := by
  have hadd (session : Session) :
      (sources.foldl (fun session x => session.add x.1 x.2.extract) session).scans =
        session.scans ++ sources.map fun x => ⟨x.1, x.2.extract⟩ := by
    induction sources generalizing session with
    | nil => simp
    | cons x sources ih =>
        rw [List.foldl_cons, ih, add, List.map_cons, List.append_assoc]
        rfl
  exact hadd {}

theorem scans_alike {D : DisplayedScan → DisplayedScan → Prop}
    {sources sources' : List (Text × SourceText)}
    (h : List.Forall₂ (fun x y => D ⟨x.1, x.2.extract⟩ ⟨y.1, y.2.extract⟩) sources sources') :
    List.Forall₂ D (ofSources sources).scans (ofSources sources').scans := by
  rwa [scans_ofSources, scans_ofSources, List.forall₂_map_left_iff, List.forall₂_map_right_iff]

theorem sections_alike {T : Text → Text → Prop}
    (hT : ∀ a b, T a b → Text.foldCase a = Text.foldCase b)
    {sources sources' : List (Text × SourceText)}
    (h : List.Forall₂ (fun x y => x.1 = y.1 ∧
      List.Forall₂ (Signature.Alike T) x.2.extract.signatures y.2.extract.signatures)
      sources sources') :
    List.Forall₂ (FileSection.Alike T) (ofSources sources).table.sections
      (ofSources sources').table.sections := by
  apply DispatchTable.sectionsOf_alike hT
  exact scans_alike h

end Session

end RpcDispatch
