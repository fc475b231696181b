import GatewayRegistry.Store.Sftp
import GatewayRegistry.Json.Printer
import GatewayRegistry.Json.Reader

/-!
# Adding file transfer

A backfill gives the protocol `sftp` to every Linux platform whose protocol `ssh` allows it, and
then to every asset on such a platform that has `ssh`, on the same port. Everything is inserted
with conflicts passed over, so it can be run again, or twice at once.

What to insert is computed from the answer to a question to the store (`Backfill.platformPlan`,
`Backfill.assetPlan`), so that each step is a question, a plan and an insertion.
-/

namespace GatewayRegistry

structure BackfillReport where
  /-- The names of the platforms that were given `sftp`. -/
  platforms : List String
  /-- The number of assets that were given `sftp`. -/
  assetsAdded : Nat
  deriving DecidableEq, Repr

namespace Backfill

/-! ### Platforms -/

/-- The directory in which transfers start where the options of `ssh` name none. -/
def defaultHome : String := "/tmp"

/-- The options of a protocol `ssh`, if their text is that of an object that allows `sftp`. -/
def allowedOptions? (ssh : SshPlatform) : Option Members :=
  match Json.parseObject? ssh.setting with
  | none => none
  | some options =>
    if ((options.get? "sftp_enabled").bind Json.asBool?).getD false then some options else none

/-- The directory in which transfers start. -/
def homeOf (options : Members) : String :=
  ((options.get? "sftp_home").bind Json.asText?).getD defaultHome

/-- The protocol `sftp` beside a protocol `ssh` with some options. -/
def sftpBeside (ssh : SshPlatform) (options : Members) : NewPlatformProtocol where
  platformId := ssh.platformId
  name := "sftp"
  port := ssh.port
  isPrimary := false
  isRequired := false
  isDefault := true
  isPublic := true
  setting := (Json.obj [("sftp_home", .str (homeOf options))]).compact

/-- A platform that is to be given `sftp`. -/
structure PlannedPlatform where
  name : String
  protocol : NewPlatformProtocol
  deriving DecidableEq, Repr

/-- Put a platform into a plan, which is ordered by the numbers of the platforms. A platform that
is already there stays as it is. -/
def planPlatform (new : PlannedPlatform) : List PlannedPlatform → List PlannedPlatform
  | [] => [new]
  | p :: rest =>
    if new.protocol.platformId < p.protocol.platformId then new :: p :: rest
    else if new.protocol.platformId = p.protocol.platformId then p :: rest
    else p :: planPlatform new rest

/-- The platforms to be given `sftp`, in the order of their numbers: the candidates that allow it,
and of two candidates for a platform the first. -/
def platformPlan (candidates : List SshPlatform) : List PlannedPlatform :=
  candidates.foldl (fun plan ssh =>
    match allowedOptions? ssh with
    | none => plan
    | some options => planPlatform ⟨ssh.platformName, sftpBeside ssh options⟩ plan) []

/-- Give `sftp` to the platforms that lack it, and say to which. -/
def platforms : Database.Call (List String) := do
  let plan := platformPlan (← Database.sftpCandidates)
  if plan.isEmpty then return []
  let _ ← Database.insertPlatformProtocols (plan.map (·.protocol))
  return plan.map (·.name)

/-! ### Assets -/

def batchSize : Nat := 1000

/-- Cut a list into pieces of `size` elements, of which only the last may be shorter. No piece is
empty, and so a size of zero gives pieces of one element. -/
def chunks (size : Nat) : List α → List (List α)
  | [] => []
  | x :: xs => (x :: xs.take (size - 1)) :: chunks size (xs.drop (size - 1))
termination_by xs => xs.length
decreasing_by simp only [List.length_drop, List.length_cons]; omega

/-- Note the port of an asset, in a plan that is ordered by the ids of the assets. A port noted
before is replaced. -/
def planAsset (assetId : String) (port : Int64) : List (String × Int64) → List (String × Int64)
  | [] => [(assetId, port)]
  | (id, p) :: rest =>
    if assetId < id then (assetId, port) :: (id, p) :: rest
    else if assetId = id then (assetId, port) :: rest
    else (id, p) :: planAsset assetId port rest

/-- The protocols `sftp` for assets with a protocol `ssh`, in the order of the ids of the assets. -/
def assetPlan (ssh : List AssetProtocol) : List NewAssetProtocol :=
  (ssh.foldl (fun plan p => planAsset p.assetId p.port plan) []).map fun (id, port) =>
    ⟨id, "sftp", port⟩

/-- Give `sftp` to some assets, and say how many rows that added. -/
def assetBatch (ids : List String) : Database.Call Nat := do
  Database.insertAssetProtocols (assetPlan (← Database.sshProtocolsOf ids))

/-- Give `sftp` to the assets that miss it, and say how many rows that added. -/
def assets : Database.Call Nat := do
  (chunks batchSize (← Database.assetsMissingSftp)).foldlM
    (fun added ids => return added + (← assetBatch ids)) 0

/-! ### Both -/

/-- Give `sftp` to the platforms that lack it and then to the assets that miss it. -/
def run : Database.Call BackfillReport := do
  let platforms ← platforms
  return ⟨platforms, ← assets⟩

/-- The wording of a failed backfill. -/
def failureMessage (e : StoreError) : String := "Database error: " ++ e.message

end Backfill
end GatewayRegistry
