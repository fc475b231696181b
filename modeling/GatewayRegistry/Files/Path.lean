/-!
# Paths

A path is a text, whose parts are separated by slashes. A `Location` is where a path leads to: the
names from the root on.
-/

namespace GatewayRegistry

/-! ### Texts -/

def joinPath (path part : String) : String :=
  if path = "" ∨ path.endsWith "/" then path ++ part else path ++ "/" ++ part

def pathParts (path : String) : List String := (path.splitOn "/").filter (· != "")

/-- The parts of the directory that a path lies in. -/
def directoryParts (path : String) : List String :=
  ((pathParts path).filter (· != ".")).dropLast

def nameLimit : Nat := 255

/-- The greatest number of bytes in a path. -/
def pathLimit : Nat := 4095

/-! ### Places -/

/-- The names from the root to a place. -/
abbrev Location := List String

namespace Location

/-- The path from the root to a place. -/
def toPath (place : Location) : String :=
  if place.isEmpty then "/" else String.join (place.map ("/" ++ ·))

def size (place : Location) : Nat :=
  place.foldr (fun name rest => name.utf8ByteSize + 1 + rest) 0

/-- The places on the way to a place, the place itself left out. -/
def ancestors (place : Location) : List Location := (List.range place.length).map place.take

/-- The place one part further, whatever there is. -/
def enter (place : Location) (part : String) : Location :=
  if part = "." then place else if part = ".." then place.dropLast else place ++ [part]

end Location
end GatewayRegistry
