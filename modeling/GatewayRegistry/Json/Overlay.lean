import GatewayRegistry.Json.Basic

/-!
# Laying one value over another

Two objects are combined key by key: a member that both have as objects is combined in turn, and
any other member of the overlay replaces the member below it. A value that is not an object
replaces, and is replaced, as a whole. So are the values at some given paths, even where both
sides are objects: `overlay atomic` never looks inside a value whose path from the root is in
`atomic`.
-/

namespace GatewayRegistry
namespace Json

/-- Keys from the root of a value down to a place in it. -/
abbrev Path := List String

/-- What remains of the atomic paths one step further down: the paths that begin with the key. -/
def stepInto (key : String) (atomic : List Path) : List Path :=
  atomic.filterMap fun path => match path with
    | [] => none
    | k :: rest => if k = key then some rest else none

mutual

/-- Lay a value over `lower`, leaving the values at the atomic paths whole. -/
def overlay (atomic : List Path) (lower : Json) : Json → Json
  | .obj members =>
    match lower with
    | .obj below => .obj (overlayMembers atomic below members)
    | _ => .obj members
  | upper => upper

/-- Lay members, one after the other, over those of an object. -/
def overlayMembers (atomic : List Path) (below : Members) : List (String × Json) → Members
  | [] => below
  | (key, upper) :: rest =>
    let inner := stepInto key atomic
    let value :=
      if inner.contains [] then upper
      else match below.get? key with
        | none => upper
        | some lower => overlay inner lower upper
    overlayMembers atomic (below.insert key value) rest

end

end Json
end GatewayRegistry
