import GatewayRegistry.Text.Quoted

/-!
# Names outside a closed set
-/

namespace GatewayRegistry

/-- A name that is not one of a closed set of names, such as the protocols. -/
structure UnknownName where
  /-- What the names of the set are names of. -/
  set : String
  name : String
  deriving DecidableEq, Repr

/-- The wording. -/
def UnknownName.message (e : UnknownName) : String :=
  "unknown " ++ e.set ++ ": " ++ Text.quoted e.name

end GatewayRegistry
