import GatewayRegistry.Files.Content
import GatewayRegistry.Files.Path

/-!
# Trees of files

A `FileTree` holds files and directories, and says where paths start that do not start at the root.
A path is followed part by part (`FileTree.walk`): every part but the last must lead to a directory,
and so must the last one if there is a part behind it, be it only a dot.
-/

namespace GatewayRegistry

/-- A tree of files that hold values of some type. A directory is there if it was made, or if there
is a file in it, or if paths start in it. -/
structure FileTree (α : Type) where
  /-- The directory in which paths start. -/
  current : Location := []
  files : List (Location × α) := []
  directories : List Location := []

namespace FileTree

def file? (tree : FileTree α) (place : Location) : Option α :=
  (tree.files.find? (·.1 == place)).map (·.2)

def isDirectory (tree : FileTree α) (place : Location) : Bool :=
  place.isPrefixOf tree.current || tree.directories.contains place ||
    tree.files.any fun (l, _) => l.ancestors.contains place

def write (place : Location) (file : α) (tree : FileTree α) : FileTree α :=
  { tree with files := (place, file) :: tree.files.filter (·.1 != place) }

/-! ### Paths -/

def start (tree : FileTree α) (path : String) : Location :=
  if path.startsWith "/" then [] else tree.current

def step (tree : FileTree α) (place : Location) (part : String) : Except PathFault Location :=
  if (tree.file? place).isSome then .error .blocked
  else if !tree.isDirectory place then .error .absent
  else if nameLimit < part.utf8ByteSize then .error .tooLong
  else .ok (place.enter part)

/-- Follow the parts of a path. There need not be anything at the end. -/
def walk (tree : FileTree α) (start : Location) (parts : List String) : Except PathFault Location :=
  parts.foldlM tree.step start

/-- Follow a path. A slash at the end asks for a directory. -/
def find (tree : FileTree α) (path : String) : Except PathFault Location :=
  if path.contains '\x00' then .error .nulByte
  else if pathLimit < path.utf8ByteSize then .error .tooLong
  else if path.isEmpty then .error .absent
  else tree.walk (tree.start path) (pathParts path ++ if path.endsWith "/" then ["."] else [])

/-- What lies at a path, given the bytes of a file. -/
def content (bytes : α → ByteArray) (tree : FileTree α) (path : String) : FileContent :=
  match tree.find path with
  | .error cause => .nothing cause
  | .ok place =>
    match tree.file? place with
    | some file => .bytes (bytes file)
    | none => if tree.isDirectory place then .directory else .nothing .absent

end FileTree
end GatewayRegistry
