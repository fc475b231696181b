import GatewayRegistry.Store.Catalog
import GatewayRegistry.Store.Domains

/-!
# Changing the tables by hand

Beside the calls that the registry makes, an administrator may change the tables directly. Such a
change keeps what the tables themselves guarantee, which is that unique columns are unique and
references refer to something, but it may write a value that a reader refuses.

Only `lockAccounts` and `unlockAccounts` are among the operations that the runs of this library are
made of (`Database.Operation`), since they decide whether a deletion succeeds. The other changes are
made by no operation, and no theorem speaks of them: they are here so that a store can be brought
into the states that the readers have to report, such as a type or a port that cannot be read or
tables that were made by unknown steps.
-/

namespace GatewayRegistry

/-- A column of a terminal row that holds a port. -/
inductive PortColumn where
  | ssh | http
  deriving DecidableEq, Repr

namespace Store

/-! ### Accounts -/

def lockAccounts (s : Store) : Except StoreError Store :=
  if s.accountsLocked then .error (.rejected .alreadyLocked) else .ok { s with accountsLocked := true }

def unlockAccounts (s : Store) : Except StoreError Store :=
  if s.accountsLocked then .ok { s with accountsLocked := false } else .error (.rejected .notLocked)

/-- Let the terminal with an id refer to another account, or to none. -/
def linkAccount (id : String) (accountId : Option String) (s : Store) : Except StoreError Store :=
  if !s.hasTerminal id then .ok s
  else if accountId.isSome && s.terminals.any (fun row => row.id != id && row.accountId == accountId) then
    .error (.rejected (.duplicate .terminalAccount))
  else if !accountId.all s.hasAccount then .error (.rejected .dangling)
  else .ok (s.updateTerminal id fun row => { row with accountId := accountId })

/-! ### Terminals -/

/-- The number of terminal rows with an id. -/
def terminalCount (s : Store) (id : String) : Nat := s.terminals.countP (·.id == id)

/-- Set when the terminal with an id was created, and say how many rows that changed. -/
def setCreatedAt (id : String) (time : Int64) (s : Store) : Nat × Store :=
  (s.terminalCount id, s.updateTerminal id fun row => { row with createdAt := time })

def setStoredType (id type : String) (s : Store) : Store :=
  s.updateTerminal id fun row => { row with type := type }

/-- Set a port of the terminal with an id. -/
def setStoredPort (id : String) (column : PortColumn) (port : Int) (s : Store) : Store :=
  s.updateTerminal id fun row => match column with
    | .ssh => { row with sshPort := port }
    | .http => { row with httpPort := port }

/-- Remove the row of a terminal and what links it to protocols and domains, and say how many
terminals that removed. A terminal with sessions stays. -/
def removeTerminal (id : String) (s : Store) : Except StoreError (Nat × Store) :=
  if s.hasTerminal id && s.sessions.any (·.terminalId == id) then .error (.rejected .dangling)
  else .ok (s.terminalCount id, { s with
    terminals := s.terminals.filter (·.id != id)
    terminalProtocols := s.terminalProtocols.filter (·.terminalId != id)
    terminalDomains := s.terminalDomains.filter (·.terminalId != id) })

/-! ### The catalog and domains -/

def insertProtocol (name : String) (port : Int) (builtin : Bool) (s : Store) :
    Except StoreError Store :=
  if port < 1 ∨ 65535 < port then .error (.rejected .portOutOfRange)
  else if (s.protocolRow? name port).isSome then .error (.rejected (.duplicate .protocolNamePort))
  else .ok { s with protocols := s.protocols.insert fun id => ⟨id, name, port, builtin⟩ }

/-- Remove a domain and what links it to terminals, and say how many domains that removed. -/
def removeDomain (id : String) (s : Store) : Nat × Store :=
  (s.domains.countP (·.id == id), { s with
    domains := s.domains.filter (·.id != id)
    terminalDomains := s.terminalDomains.filter (·.domainId != id) })

/-! ### The record of how the tables were made -/

/-- The steps in which the tables are made. -/
def migrations : List Nat := [1, 2]

/-- Change the record of a step, if there is such a step. -/
def spoilMigration (version : Nat) (s : Store) : Store :=
  if version ∈ migrations then { s with spoiledMigrations := version :: s.spoiledMigrations } else s

/-- The first step whose record has been changed. -/
def spoiledMigration? (s : Store) : Option Nat := migrations.find? (· ∈ s.spoiledMigrations)

end Store

namespace Database

/-- Change the tables by hand. -/
def maintain (change : Store → Store) : Call Unit := execute fun s => .ok (change s)

/-- Change the tables by hand, and say how many rows that changed. -/
def maintainCounting (change : Store → Nat × Store) : Call Nat := transact fun s => .ok (change s)

/-- Open connections to a store, which must have been made by the steps that are known. -/
def connect (s : Store) : Except StoreError Database :=
  match s.spoiledMigration? with
  | some version => .error (.migration version)
  | none => .ok { store := s }

end Database
end GatewayRegistry
