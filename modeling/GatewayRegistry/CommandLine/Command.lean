import GatewayRegistry.Backfill
import GatewayRegistry.Registry.Payload
import GatewayRegistry.Registry.Protocols
import GatewayRegistry.Registry.Status

/-!
# Commands

A `Command` is one task for the registry, with everything it needs given. `Command.run` carries it
out. It prints its lines one by one as it goes, so when a step fails, the lines before that step
have been printed and the later ones have not (`Progress`). Printing itself is taken to succeed: an
output that refuses a line is not considered.
-/

namespace GatewayRegistry

/-- Which terminals a list shows. -/
inductive ListView where
  | undeleted | active | alive
  deriving DecidableEq, Repr

namespace ListView

def all : List ListView := [.undeleted, .active, .alive]

def toText : ListView → String
  | .undeleted => "undeleted"
  | .active => "active"
  | .alive => "alive"

def help : ListView → String
  | .undeleted => "Every terminal not soft-deleted"
  | .active => "Undeleted terminals whose account is enabled"
  | .alive => "Active terminals with a live heartbeat"

def ofText? (name : String) : Option ListView := all.find? (·.toText == name)

end ListView

/-- A task for the registry. -/
inductive Command where
  | initProtocols
  /-- Register a terminal, with an account of a given username if wanted, and let it serve the
  protocols of its type if wanted. -/
  | register (new : NewTerminal) (username : Option String) (withProtocols : Bool)
  | accept (terminalId : String)
  | delete (terminalId : String)
  | activate (terminalId : String)
  | deactivate (terminalId : String)
  | resetProtocols (terminalId : String)
  | heartbeat (terminalId : String)
  | status (terminalId : String)
  | config (terminalId : String)
  | list (view : ListView)
  | backfillSftp
  deriving DecidableEq, Repr

/-- Why a command fails. -/
inductive CommandError where
  | registry (cause : RegistryError)
  | noAccount (terminalName : String)
  | backfill (cause : StoreError)
  deriving DecidableEq, Repr

def CommandError.message : CommandError → String
  | registry cause => cause.message
  | noAccount name => "Terminal " ++ name ++ " has no service account"
  | backfill cause => Backfill.failureMessage cause

/-- What a command takes from its surroundings: ids that nothing has yet, and the time. -/
structure Fresh where
  terminalId : String
  accountId : String
  now : Int64
  deriving DecidableEq, Repr

namespace Command

/-- How far a command has got: what has become of the deployment, and the lines printed so far. -/
structure Progress where
  deployment : Deployment
  printed : List String := []
  deriving DecidableEq, Repr

/-- A part of a command, which may fail. -/
abbrev Call (α : Type) := ExceptT CommandError (StateM Progress) α

def onRegistry (call : Registry.Call α) : Call α :=
  fun p => match call p.deployment with
    | (.ok a, d) => (.ok a, { p with deployment := d })
    | (.error e, d) => (.error (.registry e), { p with deployment := d })

def onBackfill (call : Database.Call α) : Call α :=
  fun p => match call p.deployment.database with
    | (.ok a, db) => (.ok a, { p with deployment := { p.deployment with database := db } })
    | (.error e, db) =>
      (.error (.backfill e), { p with deployment := { p.deployment with database := db } })

def printLines (texts : List String) : Call Unit :=
  fun p => (.ok (), { p with printed := p.printed ++ texts })

/-! ### Text -/

def lines (texts : List String) : String := String.join (texts.map (· ++ "\n"))

def padded (width : Nat) (text : String) : String :=
  text ++ String.ofList (List.replicate (width - text.length) ' ')

def tableLine (id name type status : String) : String :=
  padded 38 id ++ " " ++ padded 24 name ++ " " ++ padded 12 type ++ " " ++ status

/-- What is printed about a terminal from a copy of it alone. -/
def detailLines (t : Terminal) : List String := [
  "  ID:        " ++ t.id,
  "  Type:      " ++ t.type.toText,
  "  Endpoint:  " ++ t.remoteAddress ++ " (ssh " ++ toString t.sshPort.toNat ++ ", http " ++
    toString t.httpPort.toNat ++ ")"]

def reportLines (report : BackfillReport) : List String :=
  ["Platforms given sftp: " ++ toString report.platforms.length] ++
    report.platforms.map ("  - " ++ ·) ++
    ["Asset sftp protocols added: " ++ toString report.assetsAdded]

/-! ### Tasks -/

/-- Register a terminal and print its id. -/
def runRegister (fresh : Fresh) (new : NewTerminal) (username : Option String)
    (withProtocols : Bool) : Call Unit := do
  let account := username.map fun username => (fresh.accountId, username)
  let t ← onRegistry (Registry.register fresh.terminalId new account fresh.now)
  if withProtocols then
    let _ ← onRegistry (Registry.resetProtocols t)
  printLines [t.id]

/-- Enable or disable the account of a terminal, which must have one. -/
def runSetActive (terminalId : String) (active : Bool) : Call Unit := do
  let t ← onRegistry (Registry.get terminalId)
  if t.accountId.isNone then throw (.noAccount t.name)
  onRegistry (Registry.setActive t active)
  printLines [t.name ++ (if active then " enabled" else " disabled")]

/-- Print what is known about a terminal. Its sessions are counted and its protocols are looked up
when the lines before them have been printed. -/
def runStatus (terminalId : String) : Call Unit := do
  let t ← onRegistry (Registry.get terminalId)
  let line ← onRegistry (Registry.statusLine t)
  printLines (line :: detailLines t)
  let sessions ← onRegistry (Registry.onlineSessions t)
  printLines ["  Sessions:  " ++ toString sessions]
  let protocols ← onRegistry (Registry.protocols t)
  printLines ["  Protocols: " ++ ", ".intercalate (protocols.map Protocol.toText)]

def runListed (t : Terminal) : Call Unit := do
  let label ← onRegistry (Registry.statusLabel t)
  printLines [tableLine t.id t.name t.type.toText label.toText]

def runList (view : ListView) : Call Unit := do
  let terminals ← onRegistry <| match view with
    | .undeleted => Registry.undeleted
    | .active => Registry.active
    | .alive => Registry.alive
  if terminals.isEmpty then printLines ["No terminals"]
  else
    printLines [tableLine "ID" "NAME" "TYPE" "STATUS"]
    terminals.forM runListed

def run (r : Registry) (fresh : Fresh) : Command → Call Unit
  | initProtocols => do
    let protocols ← onRegistry Registry.seedCatalog
    printLines (protocols.map Protocol.toText)
  | register new username withProtocols => runRegister fresh new username withProtocols
  | accept terminalId => do
    let t ← onRegistry (Registry.get terminalId)
    let t ← onRegistry (Registry.lend t Registry.accept)
    printLines ["Accepted " ++ t.name]
  | delete terminalId => do
    let t ← onRegistry (Registry.get terminalId)
    let t ← onRegistry (Registry.lend t Registry.delete)
    printLines ["Deleted " ++ t.name]
  | activate terminalId => runSetActive terminalId true
  | deactivate terminalId => runSetActive terminalId false
  | resetProtocols terminalId => do
    let t ← onRegistry (Registry.get terminalId)
    let protocols ← onRegistry (Registry.resetProtocols t)
    printLines (protocols.map Protocol.toText)
  | heartbeat terminalId => do
    let t ← onRegistry (Registry.get terminalId)
    onRegistry (r.heartbeat t)
    printLines [t.name ++ " alive for " ++ toString r.config.liveness.ttlSeconds.toNat ++ "s"]
  | status terminalId => runStatus terminalId
  | config terminalId => do
    let t ← onRegistry (Registry.get terminalId)
    let payload ← onRegistry (r.payload t)
    printLines [(Json.obj payload).pretty]
  | list view => runList view
  | backfillSftp => do
    let report ← onBackfill Backfill.run
    printLines (reportLines report)

end Command
end GatewayRegistry
