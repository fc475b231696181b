import GatewayRegistry.Account
import GatewayRegistry.Domain
import GatewayRegistry.Platform
import GatewayRegistry.Protocol.Basic
import GatewayRegistry.StorageBackend
import GatewayRegistry.Terminal.Basic

/-!
# The store

A `Store` is a set of tables. A table is a list of rows in the order in which they were inserted;
that order decides between rows that an ordered query finds equal. Where rows are numbered, a
table also remembers the last number it gave out (`Numbered`), and never gives it out again, even
if the row that was to have it was not inserted in the end.

Two tables hold plain texts and numbers where a reader expects a member of a closed set or a port:
`TerminalRow` and `ProtocolRow`. Their rows may be changed by hand, so a reader has to check them.
-/

namespace GatewayRegistry

/-- A terminal as it is stored. -/
structure TerminalRow where
  id : String
  name : String
  type : String
  remoteAddress : String
  sshPort : Int
  httpPort : Int
  commandStorage : String
  replayStorage : String
  accountId : Option String
  isAccepted : Bool
  isDeleted : Bool
  comment : String
  createdAt : Int64
  deriving DecidableEq, Repr

structure ProtocolRow where
  id : Int
  name : String
  port : Int
  builtin : Bool
  deriving DecidableEq, Repr

/-- A terminal serves a protocol. -/
structure ProtocolLink where
  terminalId : String
  protocolId : Int
  deriving DecidableEq, Repr

/-- A terminal reaches a network domain. -/
structure DomainLink where
  terminalId : String
  domainId : String
  deriving DecidableEq, Repr

/-- A table whose rows are numbered from 1 in the order in which numbers were given out. -/
structure Numbered (α : Type) where
  rows : List α := []
  /-- The last number given out. -/
  lastId : Int := 0
  deriving DecidableEq, Repr

namespace Numbered

/-- The number that is given out next. -/
def nextId (t : Numbered α) : Int := t.lastId + 1

/-- Insert the row made for the next number. -/
def insert (t : Numbered α) (row : Int → α) : Numbered α :=
  { rows := t.rows ++ [row t.nextId], lastId := t.nextId }

/-- Give out the next number without inserting a row. -/
def skip (t : Numbered α) : Numbered α := { t with lastId := t.nextId }

end Numbered

/-- All tables. -/
structure Store where
  accounts : List Account := []
  terminals : List TerminalRow := []
  protocols : Numbered ProtocolRow := {}
  terminalProtocols : List ProtocolLink := []
  domains : List Domain := []
  terminalDomains : List DomainLink := []
  sessions : List Session := []
  commandStorages : List StorageBackend := []
  replayStorages : List StorageBackend := []
  platforms : Numbered Platform := {}
  platformProtocols : Numbered PlatformProtocol := {}
  assets : List Asset := []
  assetProtocols : Numbered AssetProtocol := {}
  /-- Whether accounts are locked against deletion. -/
  accountsLocked : Bool := false
  /-- The steps of making the tables whose record has been changed since. -/
  spoiledMigrations : List Nat := []
  deriving DecidableEq, Repr

namespace Store

def empty : Store := {}

def hasAccount (s : Store) (id : String) : Bool := s.accounts.any (·.id == id)

def hasTerminal (s : Store) (id : String) : Bool := s.terminals.any (·.id == id)

def hasProtocol (s : Store) (id : Int) : Bool := s.protocols.rows.any (·.id == id)

def hasDomain (s : Store) (id : String) : Bool := s.domains.any (·.id == id)

def hasPlatform (s : Store) (id : Int) : Bool := s.platforms.rows.any (·.id == id)

def hasAsset (s : Store) (id : String) : Bool := s.assets.any (·.id == id)

def backends (s : Store) : BackendKind → List StorageBackend
  | .command => s.commandStorages
  | .replay => s.replayStorages

def setBackends (s : Store) (kind : BackendKind) (rows : List StorageBackend) : Store :=
  match kind with
  | .command => { s with commandStorages := rows }
  | .replay => { s with replayStorages := rows }

end Store
end GatewayRegistry
