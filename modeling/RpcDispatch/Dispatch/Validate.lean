import RpcDispatch.Dispatch.Registry
import RpcDispatch.Dispatch.TypeTable
import RpcDispatch.Source.Parameter

/-!
# Which signatures can be dispatched

A signature is dispatched if its name is free, its return type is supported, its parameter list
can be read and every parameter is a scalar of a supported type, in this order. The name is
claimed first: a signature rejected for its types still blocks later ones of its name.
-/

namespace RpcDispatch

inductive SkipReason where
  | duplicateName
  | unsupportedReturnType (type : Text)
  | unsupportedParameterType (type name : Text)
  | malformedParameters (position : Nat) (problem : Text)
deriving DecidableEq, Repr

namespace SkipReason

def describe : SkipReason → Text
  | duplicateName => "Already defined."
  | unsupportedReturnType type => "Unsupported return type '" ++ type ++ "'."
  | unsupportedParameterType type name =>
      "Unsupported parameter type '" ++ type ++ "' (" ++ name ++ ")."
  | malformedParameters position problem =>
      "Malformed parameter list: " ++ ParameterFailure.wording position problem ++ "."

def ofParameterFailure (f : ParameterFailure) : SkipReason :=
  malformedParameters f.position f.fault.message

end SkipReason

structure ResolvedParameter where
  parameter : Parameter
  support : TypeSupport
deriving DecidableEq, Repr

structure ResolvedSignature where
  name : Text
  returns : Option TypeSupport
  parameters : List ResolvedParameter
deriving DecidableEq, Repr

/-- Support for a type with or without a width; arrays have none. -/
def TypeSupport.ofScalar? (type : Text) (width : Option ArrayWidth) : Option TypeSupport :=
  match width with
  | none => lookup? type
  | some _ => none

namespace ResolvedParameter

def resolve (p : Parameter) : Except SkipReason ResolvedParameter :=
  match TypeSupport.ofScalar? p.type p.width with
  | some s => .ok ⟨p, s⟩
  | none => .error (.unsupportedParameterType (ArrayWidth.typeText p.type p.width) p.name)

def resolveAll : List Parameter → Except SkipReason (List ResolvedParameter)
  | [] => .ok []
  | p :: ps => do
      let r ← resolve p
      let rs ← resolveAll ps
      pure (r :: rs)

end ResolvedParameter

namespace Signature

def resolveReturn (s : Signature) : Except SkipReason (Option TypeSupport) :=
  match s.returnType with
  | none => .ok none
  | some type => match TypeSupport.ofScalar? type s.returnWidth with
      | some support => .ok (some support)
      | none => .error (.unsupportedReturnType (ArrayWidth.typeText type s.returnWidth))

def resolve (s : Signature) : Except SkipReason ResolvedSignature := do
  let returns ← s.resolveReturn
  let params ← (Parameter.parseList s.rawParams).mapError SkipReason.ofParameterFailure
  let parameters ← ResolvedParameter.resolveAll params
  pure ⟨s.name, returns, parameters⟩

/-- The outcome for a signature, and the registry in which its name is taken. -/
def validate (s : Signature) (r : Registry) : Except SkipReason ResolvedSignature × Registry :=
  match r.claim s.name with
  | (true, r) => (s.resolve, r)
  | (false, r) => (.error .duplicateName, r)

def validateAll : List Signature → Registry → List (Except SkipReason ResolvedSignature)
  | [], _ => []
  | s :: ss, r => (s.validate r).1 :: validateAll ss (s.validate r).2

end Signature

end RpcDispatch
