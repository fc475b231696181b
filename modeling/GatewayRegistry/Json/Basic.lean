import GatewayRegistry.Binary64.Basic

/-!
# Structured values

`Json` is the value type of configuration files, of the free-form parts of the store and of every
answer that is given as a document. Whole numbers and floating-point numbers are kept apart,
because a whole number is never accepted where a floating-point number is written and neither the
other way round.

The members of an object are a list in strictly increasing order of their keys (`Json.Sorted`).
`Members.insert` keeps that order, and everything that builds objects builds them sorted, so an
object has one representation and two equal objects are equal lists.
-/

namespace GatewayRegistry

/-- A structured value. -/
inductive Json where
  | null
  | bool (value : Bool)
  | int (value : Int)
  | float (value : Binary64)
  | str (value : String)
  | arr (items : List Json)
  | obj (members : List (String × Json))
  deriving Inhabited

/-- The members of an object, in order of their keys. -/
abbrev Members := List (String × Json)

namespace Members

def get? (key : String) : Members → Option Json
  | [] => none
  | (k, v) :: rest => if k = key then some v else get? key rest

/-- Put a value under a key, replacing the one that was there. -/
def insert (key : String) (value : Json) : Members → Members
  | [] => [(key, value)]
  | (k, v) :: rest =>
    if key < k then (key, value) :: (k, v) :: rest
    else if key = k then (key, value) :: rest
    else (k, v) :: insert key value rest

/-- Put in several members, a later one replacing an earlier one of the same key. -/
def insertAll (ms : Members) (more : List (String × Json)) : Members :=
  more.foldl (fun ms (k, v) => insert k v ms) ms

/-- The members given in any order. -/
def ofList (more : List (String × Json)) : Members := insertAll [] more

def keys (ms : Members) : List String := ms.map Prod.fst

end Members

namespace Json

/-- An object with the given members, in any order. -/
def ofMembers (members : List (String × Json)) : Json := .obj (Members.ofList members)

def asText? : Json → Option String
  | .str s => some s
  | _ => none

def asBool? : Json → Option Bool
  | .bool b => some b
  | _ => none

def asObject? : Json → Option Members
  | .obj ms => some ms
  | _ => none

def get? (v : Json) (key : String) : Option Json :=
  v.asObject?.bind (Members.get? key)

mutual

/-- Every object within a value has its members in strictly increasing order of their keys. -/
def Sorted : Json → Prop
  | .arr items => ItemsSorted items
  | .obj members => (Members.keys members).Pairwise (· < ·) ∧ MembersSorted members
  | _ => True

/-- `Sorted` for each item of an array. -/
def ItemsSorted : List Json → Prop
  | [] => True
  | v :: rest => Sorted v ∧ ItemsSorted rest

/-- `Sorted` for each value of an object. -/
def MembersSorted : List (String × Json) → Prop
  | [] => True
  | (_, v) :: rest => Sorted v ∧ MembersSorted rest

end

end Json
end GatewayRegistry
