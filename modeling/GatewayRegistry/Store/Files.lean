import GatewayRegistry.Config.Basic
import GatewayRegistry.Files.Tree
import GatewayRegistry.Store.Maintenance

/-!
# Where stores are kept

A store lies in a file of a `FileTree`, or in memory only. Opening a store makes the directories on
the way to its path, and the file itself if it is not there; an empty file is taken for a new store,
and any other file that is not a store is refused.

A store keeps further files beside its own, and so it cannot be opened where there is no room for
them. Its path is not followed part by part: a name that does not lead out of it again need not
exist.
-/

namespace GatewayRegistry

/-! ### Files -/

/-- What a file holds. -/
inductive FileNode where
  | bytes (data : ByteArray)
  | store (tables : Store)

/-- A byte that occurs in no text, at the start of the file of every store. -/
def storeMark : UInt8 := 0xff

/-- What a reader finds in a file. The file of a store is not text. -/
def FileNode.data : FileNode → ByteArray
  | .bytes data => data
  | .store _ => ⟨#[storeMark]⟩

/-! ### Directories -/

namespace FileTree

/-- Make a directory, unless it is there, in a directory that is there. -/
def makeDirectory (start : Location) (parts : List String) (tree : FileTree α) :
    Except DirectoryError (FileTree α) :=
  match tree.walk start parts with
  | .error cause => .error (.unreachable cause)
  | .ok place =>
    if tree.isDirectory place then .ok tree
    else if (tree.file? place).isSome then .error .fileExists
    else .ok { tree with directories := tree.directories ++ [place] }

/-- Make a directory, with the parts of its path in reverse, and those it lies in. They are only
looked at where the directory itself cannot be made without them. -/
def makeDirectories (start : Location) :
    List String → ExceptT DirectoryError (StateM (FileTree α)) Unit
  | [] => return ()
  | part :: before => do
    let parts := (part :: before).reverse
    match (← get).makeDirectory start parts with
    | .ok tree => set tree
    | .error (.unreachable .absent) =>
      makeDirectories start before
      match (← get).makeDirectory start parts with
      | .ok tree => set tree
      | .error cause => throw cause
    | .error cause => throw cause

/-- Make the directory that a path lies in. -/
def makeDirectoryOf (path : String) : ExceptT DirectoryError (StateM (FileTree α)) Unit := do
  let parts := directoryParts path
  if parts.any (·.contains '\x00') then throw (.unreachable .nulByte)
  if pathLimit < Location.size parts then throw (.unreachable .tooLong)
  makeDirectories ((← get).start path) parts.reverse

end FileTree

/-! ### Places -/

/-- Where a store is kept. -/
inductive StorePlace where
  | memory
  | file (place : Location)
  deriving DecidableEq, Repr

/-- The greatest number of bytes in the path from the root to a store, together with the longest
ending of the files beside it. -/
def storePathLimit : Nat := 512

/-- The endings of the names of the files beside a store. -/
def sideEndings : List String := ["-journal", "-wal", "-shm"]

namespace FileTree

/-- Go one part further on the path of a store. What the part leads to may be absent. -/
def storeStep (tree : FileTree α) (place : Location) (part : String) : Option Location :=
  let next := place.enter part
  if part = "." ∨ part = ".." then some next
  else if storePathLimit ≤ next.size then none
  else match tree.walk [] next with
    | .ok _ | .error .absent => some next
    | .error _ => none

/-- The place of the file that the name of a store leads to. -/
def storePlace? (tree : FileTree α) (name : String) : Option Location := do
  let place ← (pathParts name).foldlM tree.storeStep (tree.start name)
  if place.isEmpty ∨ storePathLimit < place.size + 8 then none else some place

/-- Whether the files beside a store can be written. -/
def hasRoomBeside (tree : FileTree α) (place : Location) : Bool :=
  let name := place.getLastD ""
  sideEndings.all fun ending =>
    let side := name ++ ending
    side.utf8ByteSize ≤ nameLimit && !tree.isDirectory (place.dropLast ++ [side])

end FileTree

/-! ### Opening -/

/-- A computation on a tree of files that may fail to open a store. -/
abbrev OpenCall (α : Type) := ExceptT ConnectionError (StateM (FileTree FileNode)) α

namespace OpenCall

/-- Open a file, which holds nothing if it is new. -/
def openFile (access : FileAccess) (place : Location) : OpenCall FileNode := do
  let tree ← get
  if tree.isDirectory place ∨ !tree.isDirectory place.dropLast then
    throw (.rejected .cannotOpen)
  match tree.file? place with
  | some node => return node
  | none =>
    if access ≠ .create then throw (.rejected .cannotOpen)
    set (tree.write place (.bytes .empty))
    return .bytes .empty

/-- Set up a connection. The time to wait for others must fit into 31 bits, in milliseconds. -/
def setUp (limits : DatabaseConfig) : OpenCall Unit :=
  if 2147483647 < 1000 * limits.busyTimeoutSeconds.toNat then throw .crashed else return ()

/-- The store in a file that has been opened. -/
def readStore (place : Location) (node : FileNode) : OpenCall Store := do
  match node with
  | .store tables => return tables
  | .bytes data =>
    if !data.isEmpty then throw (.rejected .notAStore)
    if !(← get).hasRoomBeside place then throw (.rejected .cannotOpen)
    return .empty

/-- Open the store with a name. -/
def openNamed (limits : DatabaseConfig) (name : String) : OpenCall (StorePlace × Store) := do
  if name.contains '\x00' then throw .nulByte
  let uri ← match FileUri.ofName name with
    | .ok uri => pure uri
    | .error cause => throw (.uri cause)
  if uri.name = "" ∨ uri.name = ":memory:" ∨ uri.access = .memory ∨ uri.driver = "memdb" then
    setUp limits
    return (.memory, .empty)
  let some place := (← get).storePlace? uri.name | throw (.rejected .cannotOpen)
  let node ← openFile uri.access place
  setUp limits
  let tables ← readStore place node
  modify (·.write place (.store tables))
  return (.file place, tables)

/-- Open the store that a locator leads to. -/
def openLocated (limits : DatabaseConfig) : Locator → OpenCall (StorePlace × Store)
  | .memory => do
    setUp limits
    return (.memory, .empty)
  | .named name => openNamed limits name
  | .driven driver =>
    let name := (driver.toList.takeWhile (· != '\x00')).map fun c => if c = ' ' then '+' else c
    throw (.uri (.unknownDriver (String.ofList name)))

/-- Open the store at a path. -/
def openPath (limits : DatabaseConfig) (path : String) : OpenCall (StorePlace × Store) := do
  match Locator.parse path with
  | .error cause => throw (.locator cause)
  | .ok locator =>
    if limits.maxConnections = 0 then throw .timedOut
    openLocated limits locator

end OpenCall

namespace FileTree

/-- Open the store at a path. What was made on the way stays, even if opening fails. -/
def openStore (limits : DatabaseConfig) (path : String) :
    ExceptT StoreError (StateM (FileTree FileNode)) (StorePlace × Database) := do
  (makeDirectoryOf path).adapt StoreError.directory
  let (place, tables) ← (OpenCall.openPath limits path).adapt StoreError.connection
  match Database.connect tables with
  | .ok database => return (place, database)
  | .error cause => throw cause

/-- Keep what a database holds now in the file it was opened from. -/
def save (place : StorePlace) (db : Database) (tree : FileTree FileNode) : FileTree FileNode :=
  match place with
  | .memory => tree
  | .file place => tree.write place (.store db.store)

end FileTree

/-- Close the connections of a database and open new ones. If that fails the connections stay
closed. A store in memory is lost. -/
def Database.reopen (place : StorePlace) : Database.Call Unit := fun db =>
  match Database.connect (if place = .memory then .empty else db.store) with
  | .ok db => (.ok (), db)
  | .error e => (.error e, { db with isOpen := false })

end GatewayRegistry
