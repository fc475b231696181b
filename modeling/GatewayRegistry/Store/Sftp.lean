import GatewayRegistry.Store.Platforms

/-!
# Where file transfer is missing

Three questions about the protocols of platforms and assets. The first two say where a protocol
`sftp` could be added; the third says on which port an asset is reached.
-/

namespace GatewayRegistry

/-- A protocol `ssh` of a platform, with the name of the platform. -/
structure SshPlatform where
  platformId : Int
  platformName : String
  port : Int64
  /-- The text of an object with the options of the protocol. -/
  setting : String
  deriving DecidableEq, Repr

/-- Whether protocols may be added to a platform: it runs Linux and is not one of the two that
serve the gateways themselves. -/
def Platform.isLinuxTarget (p : Platform) : Bool :=
  p.type == "linux" && p.name != "Gateway" && p.name != "RemoteAppHost"

/-! ### Questions -/

namespace Store

def platformOf? (s : Store) (p : PlatformProtocol) : Option Platform :=
  s.platforms.rows.find? (·.id == p.platformId)

/-- A protocol as a candidate: an `ssh` on a Linux platform that does not offer `sftp`. -/
def sftpCandidate? (s : Store) (p : PlatformProtocol) : Option SshPlatform :=
  if p.name == "ssh" && !s.platformOffers p.platformId "sftp" then
    match s.platformOf? p with
    | some platform =>
      if platform.isLinuxTarget then some ⟨platform.id, platform.name, p.port, p.setting⟩ else none
    | none => none
  else none

/-- All candidates, in the order of the numbers of their protocols. -/
def sftpCandidates (s : Store) : List SshPlatform :=
  s.platformProtocols.rows.filterMap s.sftpCandidate?

/-- Whether an asset could offer `sftp` and does not: its platform does. -/
def missesSftp (s : Store) (a : Asset) : Bool :=
  s.platformOffers a.platformId "sftp" && !s.assetOffers a.id "sftp"

/-- The ids of the assets that miss `sftp`, in order. -/
def assetsMissingSftp (s : Store) : List String :=
  ((s.assets.filter s.missesSftp).map (·.id)).mergeSort fun a b => decide (a ≤ b)

/-- The protocols `ssh` of some assets, in the order of their numbers. -/
def sshProtocolsOf (s : Store) (ids : List String) : List AssetProtocol :=
  s.assetProtocols.rows.filter fun p => p.name == "ssh" && ids.contains p.assetId

end Store

/-! ### Calls -/

namespace Database

/-- The protocols `ssh` of Linux platforms that do not offer `sftp`. -/
def sftpCandidates : Call (List SshPlatform) := query fun s => .ok s.sftpCandidates

/-- The ids of the assets that miss `sftp`, in order. -/
def assetsMissingSftp : Call (List String) := query fun s => .ok s.assetsMissingSftp

/-- The protocols `ssh` of some assets. For no assets the store is not asked. -/
def sshProtocolsOf (ids : List String) : Call (List AssetProtocol) :=
  if ids.isEmpty then return [] else query fun s => .ok (s.sshProtocolsOf ids)

end Database
end GatewayRegistry
