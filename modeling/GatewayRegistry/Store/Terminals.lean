import GatewayRegistry.Store.Accounts

/-!
# Terminals in the store

A terminal row refers to at most one account, and no two rows refer to the same one. A row is never
removed by a call: deleting a terminal marks its row, takes the account away from it and removes
the account, all in one transaction.

Lists of terminals come with the ones that are not accepted first, then the older ones first, then
in the order of insertion.
-/

namespace GatewayRegistry

/-! ### Reading rows -/

/-- A stored number that is a port. -/
def readPort (column : CheckedColumn) (n : Int) : Except StoreError UInt16 :=
  if 0 ≤ n ∧ n < 65536 then .ok (UInt16.ofNat n.toNat) else .error (.query (.unreadable column))

namespace TerminalRow

def readType (row : TerminalRow) : Except StoreError TerminalType :=
  match TerminalType.ofText? row.type with
  | some type => .ok type
  | none => .error (.query (.unreadable .terminalType))

def read (row : TerminalRow) : Except StoreError Terminal := do
  let type ← row.readType
  let sshPort ← readPort .sshPort row.sshPort
  let httpPort ← readPort .httpPort row.httpPort
  return {
    id := row.id
    name := row.name
    type := type
    remoteAddress := row.remoteAddress
    sshPort := sshPort
    httpPort := httpPort
    commandStorage := row.commandStorage
    replayStorage := row.replayStorage
    accountId := row.accountId
    isAccepted := row.isAccepted
    isDeleted := row.isDeleted
    comment := row.comment
    createdAt := row.createdAt }

/-- The row of a new terminal. -/
def ofNew (id : String) (new : NewTerminal) (accountId : Option String) (now : Int64) :
    TerminalRow where
  id := id
  name := new.name
  type := new.type.toText
  remoteAddress := new.remoteAddress
  sshPort := new.sshPort.toNat
  httpPort := new.httpPort.toNat
  commandStorage := new.commandStorage
  replayStorage := new.replayStorage
  accountId := accountId
  isAccepted := false
  isDeleted := false
  comment := new.comment
  createdAt := now

/-- Whether a row may stand before another in a list. -/
def before (a b : TerminalRow) : Bool :=
  if a.isAccepted == b.isAccepted then decide (a.createdAt ≤ b.createdAt) else !a.isAccepted

end TerminalRow

/-! ### Statements -/

namespace Store

def terminalRow? (s : Store) (id : String) : Option TerminalRow := s.terminals.find? (·.id == id)

/-- All terminal rows in the order of lists. -/
def orderedTerminals (s : Store) : List TerminalRow := s.terminals.mergeSort TerminalRow.before

/-- Whether the account that a row refers to is enabled. -/
def hasActiveAccount (s : Store) (row : TerminalRow) : Bool :=
  s.accounts.any fun a => row.accountId == some a.id && a.isActive

def insertTerminal (row : TerminalRow) (s : Store) : Except StoreError Store :=
  if row.accountId.isSome && s.terminals.any (·.accountId == row.accountId) then
    .error (.rejected (.duplicate .terminalAccount))
  else if s.hasTerminal row.id then .error (.rejected (.duplicate .terminalId))
  else if !row.accountId.all s.hasAccount then .error (.rejected .dangling)
  else .ok { s with terminals := s.terminals ++ [row] }

def updateTerminal (id : String) (change : TerminalRow → TerminalRow) (s : Store) : Store :=
  { s with terminals := s.terminals.map fun row => if row.id == id then change row else row }

/-- Change the terminal row with an id, which must be there. -/
def changeTerminal (id : String) (change : TerminalRow → TerminalRow) (s : Store) :
    Except StoreError Store :=
  if s.hasTerminal id then .ok (s.updateTerminal id change) else .error (.notFound (.terminal id))

/-- Insert the account of a new terminal, if it brings one, and the terminal. -/
def insertNewTerminal (id : String) (new : NewTerminal) (account : Option (String × String))
    (now : Int64) (s : Store) : Except StoreError Store := do
  let s ← match account with
    | none => .ok s
    | some (accountId, username) => s.insertAccount ⟨accountId, username, true, now⟩
  s.insertTerminal (.ofNew id new (account.map (·.1)) now)

/-- Mark a terminal as deleted, take its account away from it, and delete the account. Gives the
id of the account, if there was one. -/
def softDelete (id : String) (s : Store) : Except StoreError (Option String × Store) :=
  match s.terminalRow? id with
  | none => .error (.notFound (.terminal id))
  | some row => do
    let s := s.updateTerminal id fun row => { row with accountId := none, isDeleted := true }
    match row.accountId with
    | none => return (none, s)
    | some accountId => return (some accountId, ← s.deleteAccount accountId)

end Store

/-! ### Calls -/

namespace Database

def getTerminal (id : String) : Call Terminal :=
  query fun s => match s.terminalRow? id with
    | some row => row.read
    | none => .error (.notFound (.terminal id))

/-- Create a terminal, together with an enabled account of a given id and username if wanted. -/
def createTerminal (id : String) (new : NewTerminal) (account : Option (String × String))
    (now : Int64) : Call Terminal := do
  execute (Store.insertNewTerminal id new account now)
  getTerminal id

def listTerminals : Call (List Terminal) :=
  query fun s => s.orderedTerminals.mapM TerminalRow.read

def listUndeleted : Call (List Terminal) :=
  query fun s => (s.orderedTerminals.filter fun row => !row.isDeleted).mapM TerminalRow.read

/-- The terminals that are not deleted and whose account is enabled. -/
def listActive : Call (List Terminal) :=
  query fun s =>
    (s.orderedTerminals.filter fun row => !row.isDeleted && s.hasActiveAccount row).mapM
      TerminalRow.read

/-- Accept a terminal, or take that back. -/
def setAccepted (id : String) (accepted : Bool) : Call Unit :=
  execute (Store.changeTerminal id fun row => { row with isAccepted := accepted })

/-- Point a terminal at other storage backends. -/
def updateStorage (id command replay : String) : Call Unit :=
  execute (Store.changeTerminal id fun row =>
    { row with commandStorage := command, replayStorage := replay })

/-- Delete a terminal together with its account. Gives the id of the account, if there was one. -/
def softDelete (id : String) : Call (Option String) := transact (Store.softDelete id)

end Database
end GatewayRegistry
