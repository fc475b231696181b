import GatewayRegistry.Files.Content
import GatewayRegistry.Protocol.Name
import GatewayRegistry.StorageBackend
import GatewayRegistry.Store.FileUri
import GatewayRegistry.Store.Locator

/-!
# Why a call on the store fails

The causes are ordered by how far a call got: the files around the store, the connection to it, the
version of its tables, a single statement, and finally a statement that ran but found no row.
`StoreError.message` is the wording of all of them.
-/

namespace GatewayRegistry

/-- A column, or a group of columns, in which no two rows of a table agree. -/
inductive UniqueKey where
  | accountId | accountUsername
  | terminalId | terminalAccount
  | protocolNamePort
  | domainId | domainName
  | sessionId
  | backendId (kind : BackendKind) | backendName (kind : BackendKind)
  | platformName
  | assetId
  deriving DecidableEq, Repr

namespace UniqueKey

/-- The table of the backends of a kind. -/
def backendTable : BackendKind → String
  | .command => "command_storages"
  | .replay => "replay_storages"

def columns : UniqueKey → String
  | accountId => "accounts.id"
  | accountUsername => "accounts.username"
  | terminalId => "terminals.id"
  | terminalAccount => "terminals.account_id"
  | protocolNamePort => "protocols.name, protocols.port"
  | domainId => "domains.id"
  | domainName => "domains.name"
  | sessionId => "sessions.id"
  | backendId kind => backendTable kind ++ ".id"
  | backendName kind => backendTable kind ++ ".name"
  | platformName => "platforms.name"
  | assetId => "assets.id"

/-- Whether the key is the one by which other tables refer to a row. -/
def isPrimary : UniqueKey → Bool
  | accountId | terminalId | domainId | sessionId | backendId _ | assetId => true
  | _ => false

end UniqueKey

/-- Why the store refuses a statement. -/
inductive Rejection where
  /-- Another row has the same value in a unique key. -/
  | duplicate (key : UniqueKey)
  /-- A row would refer to a row that does not exist. -/
  | dangling
  /-- A port of the protocol catalog is not from 1 to 65535. -/
  | portOutOfRange
  /-- Accounts are locked against deletion. -/
  | accountLocked
  | alreadyLocked
  | notLocked
  | notAStore
  | cannotOpen
  deriving DecidableEq, Repr

namespace Rejection

def code : Rejection → Nat
  | duplicate key => if key.isPrimary then 1555 else 2067
  | dangling => 787
  | portOutOfRange => 275
  | accountLocked => 1811
  | alreadyLocked | notLocked => 1
  | notAStore => 26
  | cannotOpen => 14

def reason : Rejection → String
  | duplicate key => "UNIQUE constraint failed: " ++ key.columns
  | dangling => "FOREIGN KEY constraint failed"
  | portOutOfRange => "CHECK constraint failed: port BETWEEN 1 AND 65535"
  | accountLocked => "account is locked"
  | alreadyLocked => "trigger lock_accounts already exists"
  | notLocked => "no such trigger: lock_accounts"
  | notAStore => "file is not a database"
  | cannotOpen => "unable to open database file"

end Rejection

def refusalMessage (code : Nat) (reason : String) : String :=
  "error returned from database: (code: " ++ toString code ++ ") " ++ reason

def Rejection.message (r : Rejection) : String := refusalMessage r.code r.reason

/-- A column whose stored value may lie outside its type. -/
inductive CheckedColumn where
  | terminalType | sshPort | httpPort
  | protocolName | protocolPort
  deriving DecidableEq, Repr

def CheckedColumn.name : CheckedColumn → String
  | terminalType => "terminal_type"
  | sshPort => "ssh_port"
  | httpPort => "http_port"
  | protocolName => "name"
  | protocolPort => "port"

/-- A row that a call looked for and did not find. -/
inductive MissingRow where
  | terminal (id : String)
  | account (id : String)
  | protocol (name : ProtocolName) (port : UInt16)
  | backend (name : String)
  deriving DecidableEq, Repr

def MissingRow.message : MissingRow → String
  | terminal id => "Terminal " ++ id
  | account id => "Account " ++ id
  | protocol name port => "Protocol " ++ name.toText ++ "/" ++ toString port.toNat
  | backend name => "Storage backend " ++ name

/-- Why the directory of a store cannot be made. -/
inductive DirectoryError where
  | fileExists
  | unreachable (cause : PathFault)
  deriving DecidableEq, Repr

def DirectoryError.message : DirectoryError → String
  | fileExists => "File exists (os error 17)"
  | unreachable cause => cause.message

/-- Why a store cannot be connected to. -/
inductive ConnectionError where
  | rejected (cause : Rejection)
  /-- The path is no locator. -/
  | locator (cause : LocatorError)
  /-- The name of the file is a URI that names none. -/
  | uri (cause : FileUriError)
  /-- There is a zero byte in the name of the file. -/
  | nulByte
  /-- No connection became free in time. -/
  | timedOut
  /-- A connection was lost while it was set up. -/
  | crashed
  deriving DecidableEq, Repr

def ConnectionError.message : ConnectionError → String
  | rejected cause => cause.message
  | locator cause => "error with configuration: " ++ cause.message
  | uri cause => refusalMessage cause.code cause.reason
  | nulByte =>
    "error communicating with database: filename passed to SQLite must not contain nul bytes"
  | timedOut => "pool timed out while waiting for an open connection"
  | crashed => "attempted to communicate with a crashed background worker"

/-- Why a statement fails. -/
inductive QueryError where
  | closed
  | rejected (cause : Rejection)
  | unreadable (column : CheckedColumn)
  /-- A row that was just inserted is not there. -/
  | noRow
  deriving DecidableEq, Repr

def QueryError.message : QueryError → String
  | closed => "attempted to acquire a connection on a closed pool"
  | rejected cause => cause.message
  | unreadable column =>
    "error occurred while decoding column " ++ column.name ++
      ": unprintable error: (unprintable type)"
  | noRow => "no rows returned by a query that expected to return at least one row"

/-- Why a call on the store fails. -/
inductive StoreError where
  | directory (cause : DirectoryError)
  | connection (cause : ConnectionError)
  /-- The tables were made by a step that has been changed since. -/
  | migration (version : Nat)
  | query (cause : QueryError)
  | notFound (row : MissingRow)
  deriving DecidableEq, Repr

def StoreError.message : StoreError → String
  | directory cause => "I/O error: " ++ cause.message
  | connection cause => "Connection error: " ++ cause.message
  | migration version =>
    "Migration error: migration " ++ toString version ++
      " was previously applied but has been modified"
  | query cause => "Query error: " ++ cause.message
  | notFound row => "Not found: " ++ row.message

def StoreError.rejected (cause : Rejection) : StoreError := .query (.rejected cause)

end GatewayRegistry
