import RpcDispatch.Text.Lowercase

/-!
# Claimed names

Names are compared in lower case. The first claim of a name wins, every later one is refused.
-/

namespace RpcDispatch

structure Registry where
  /-- Names claimed so far, in lower case, the latest first. -/
  names : List Text := []
deriving DecidableEq, Repr

namespace Registry

def empty : Registry := {}

def claims (r : Registry) (name : Text) : Bool := r.names.contains (Text.lower name)

def insert (r : Registry) (name : Text) : Registry := ⟨Text.lower name :: r.names⟩

/-- Whether the name was free, and the registry in which it is taken. -/
def claim (r : Registry) (name : Text) : Bool × Registry :=
  if r.claims name then (false, r) else (true, r.insert name)

def claimAll (r : Registry) : List Text → List Bool
  | [] => []
  | n :: ns => (r.claim n).1 :: (r.claim n).2.claimAll ns

end Registry

end RpcDispatch
