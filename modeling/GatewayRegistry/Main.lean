import GatewayRegistry.CommandLine.Program
import GatewayRegistry.Store.Snapshot
import Std.Time.DateTime.Timestamp

/-!
# The program in the world

Collects what a run of the program needs from the world, lets `Program.run` decide, and puts what
the run left behind back into the world.
-/

namespace GatewayRegistry
namespace Main

/-! ### The environment -/

/-- The variables of the environment that the program looks at. -/
def environmentKeys : List String := [
  "HOME", "XDG_CONFIG_HOME", "JUMPGATE_DB_PATH", "JUMPGATE_LIVENESS_TTL", "JUMPGATE_REDIS_URL",
  "JUMPGATE_LOGIN_TITLE", "JUMPGATE_MAX_IDLE_TIME"]

/-- The environment as far as the program looks at it. -/
def readEnvironment : IO Config.Environment := do
  let values ← environmentKeys.mapM fun name => return (name, ← IO.getEnv name)
  return fun name => ((values.find? (·.1 == name)).map (·.2)).join

/-- The number of the account that a process belongs to, in the description of the process. -/
def accountOf? (status : String) : Option String :=
  (status.splitOn "\n").findSome? fun line =>
    if line.startsWith "Uid:" then (line.splitOn "\t")[1]? else none

/-- The home directory of the account with a number, in the list of accounts. -/
def homeOf? (accounts number : String) : Option String :=
  (accounts.splitOn "\n").findSome? fun line =>
    let fields := line.splitOn ":"
    if fields[2]? = some number then fields[5]? else none

/-- The home directory of the account that runs the program. -/
def readAccountHome : IO (Option String) := do
  try
    let status ← IO.FS.readFile "/proc/self/status"
    let accounts ← IO.FS.readFile "/etc/passwd"
    return (accountOf? status).bind (homeOf? accounts)
  catch _ => return none

/-! ### Files -/

def readPlace (tree : FileTree FileNode) (place : Location) : IO (FileTree FileNode) := do
  if tree.isDirectory place || (tree.file? place).isSome then return tree
  try
    let data ← IO.FS.readBinFile place.toPath
    return tree.write place (.ofBytes data)
  catch e =>
    match e with
    | .inappropriateType _ 21 _ =>
      return { tree with directories := tree.directories ++ [place] }
    | _ => return tree

/-- The places that a path passes on its way. -/
def placesOn (tree : FileTree FileNode) (path : String) : List Location :=
  ((pathParts path).foldl (fun (places, place) part =>
    let next := place.enter part
    (places ++ [next], next)) ([], tree.start path)).1

def readPath (tree : FileTree FileNode) (path : String) : IO (FileTree FileNode) :=
  (placesOn tree path).foldlM readPlace tree

/-- The name of the file that a path of a store leads to. -/
def storeName? (path : String) : Option String :=
  match Locator.parse path with
  | .ok (.named name) => (FileUri.ofName name).toOption.map (·.name)
  | _ => none

/-- The path of the store of a run. -/
def storePath? (host : Host) (request : Arguments.Request) : Option String :=
  match Program.loadConfig host request with
  | .ok config => (Program.storePath host config request).toOption
  | .error _ => none

/-- Add to the files of a run what lies on the path of its store, and beside the store. -/
def readStore (host : Host) (request : Arguments.Request) : IO Host := do
  let some path := storePath? host request | return host
  let names := (storeName? path).toList.flatMap fun name => name :: sideEndings.map (name ++ ·)
  let files ← (path :: names).foldlM readPath host.files
  return { host with files := files }

/-- Write the directories and files that a run has changed. -/
def writeChanges (before after : FileTree FileNode) : IO Unit := do
  for place in after.directories do
    if !before.isDirectory place then IO.FS.createDirAll place.toPath
  for (place, node) in after.files do
    let data := node.toBytes
    if (before.file? place).map FileNode.toBytes != some data then
      IO.FS.writeBinFile place.toPath data

/-! ### New ids -/

def hexDigits (b : UInt8) : List Char :=
  [Json.hexDigit (b.toNat / 16), Json.hexDigit (b.toNat % 16)]

/-- A random id that marks itself as such. -/
def randomId : IO String := do
  let bytes := (← IO.getRandomBytes 16).toList
  let marked := bytes.zipIdx.map fun (b, i) =>
    if i = 6 then b &&& 0x0f ||| 0x40 else if i = 8 then b &&& 0x3f ||| 0x80 else b
  let digits := marked.flatMap hexDigits
  let part (start size : Nat) := String.ofList ((digits.drop start).take size)
  return "-".intercalate [part 0 8, part 8 4, part 12 4, part 16 4, part 20 12]

def readFresh : IO Fresh := do
  let now ← Std.Time.Timestamp.now
  return ⟨← randomId, ← randomId, Int64.ofInt now.toSecondsSinceUnixEpoch.val⟩

/-! ### A run -/

def run (args : List String) : IO UInt32 := do
  let current := pathParts (← IO.currentDir).toString
  let mut host : Host := {
    environment := ← readEnvironment
    accountHome := ← readAccountHome
    files := { current := current }
    fresh := ← readFresh }
  if let .ok request := Arguments.read host.environment args then
    let files ← (Program.configPaths host.environment request).foldlM readPath host.files
    host ← readStore { host with files := files } request
  let outcome := Program.run host args
  writeChanges host.files outcome.files
  (← IO.getStdout).putStr outcome.output
  (← IO.getStderr).putStr outcome.errors
  return UInt32.ofNat outcome.code

end Main
end GatewayRegistry

def main (args : List String) : IO UInt32 := GatewayRegistry.Main.run args
