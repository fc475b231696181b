import GatewayRegistry.Store.Database

/-!
# Accounts and sessions in the store

An account has an id and a username of its own. It can be deleted only while accounts are not
locked and no terminal refers to it. A session refers to a terminal, and is either open or
finished.
-/

namespace GatewayRegistry

/-! ### Statements -/

namespace Store

def account? (s : Store) (id : String) : Option Account := s.accounts.find? (·.id == id)

def insertAccount (a : Account) (s : Store) : Except StoreError Store :=
  if s.accounts.any (·.username == a.username) then .error (.rejected (.duplicate .accountUsername))
  else if s.hasAccount a.id then .error (.rejected (.duplicate .accountId))
  else .ok { s with accounts := s.accounts ++ [a] }

/-- Delete the account with an id, if there is one. -/
def deleteAccount (id : String) (s : Store) : Except StoreError Store :=
  if !s.hasAccount id then .ok s
  else if s.accountsLocked then .error (.rejected .accountLocked)
  else if s.terminals.any (·.accountId == some id) then .error (.rejected .dangling)
  else .ok { s with accounts := s.accounts.filter (·.id != id) }

/-- Enable or disable the account with an id. -/
def updateAccountActive (id : String) (active : Bool) (s : Store) : Except StoreError Store :=
  if s.hasAccount id then
    .ok { s with accounts := s.accounts.map fun a =>
      if a.id == id then { a with isActive := active } else a }
  else .error (.notFound (.account id))

def insertSession (x : Session) (s : Store) : Except StoreError Store :=
  if s.sessions.any (·.id == x.id) then .error (.rejected (.duplicate .sessionId))
  else if !s.hasTerminal x.terminalId then .error (.rejected .dangling)
  else .ok { s with sessions := s.sessions ++ [x] }

/-- Mark the session with an id as finished, if there is one. -/
def finishSession (id : String) (s : Store) : Store :=
  { s with sessions := s.sessions.map fun x =>
    if x.id == id then { x with isFinished := true } else x }

/-- The number of sessions of a terminal within a scope that are not finished. -/
def openSessions (s : Store) (terminalId : String) (scope : SessionScope) : Nat :=
  s.sessions.countP fun x => x.terminalId == terminalId && !x.isFinished && scope.includes x

end Store

/-! ### Calls -/

namespace Database

def getAccount (id : String) : Call Account :=
  query fun s => match s.account? id with
    | some a => .ok a
    | none => .error (.notFound (.account id))

/-- Whether there is an account with an id and it is enabled. -/
def isAccountActive (id : String) : Call Bool :=
  query fun s => .ok ((s.account? id).any (·.isActive))

/-- Create an enabled account. -/
def createAccount (id username : String) (now : Int64) : Call Account := do
  execute (Store.insertAccount ⟨id, username, true, now⟩)
  getAccount id

def setAccountActive (id : String) (active : Bool) : Call Unit :=
  execute (Store.updateAccountActive id active)

def createSession (id terminalId organizationId : String) (now : Int64) : Call Session := do
  execute (Store.insertSession ⟨id, terminalId, organizationId, false, now⟩)
  query fun s => match s.sessions.find? (·.id == id) with
    | some x => .ok x
    | none => .error (.query .noRow)

/-- Finish a session; false if there is none with the id. -/
def finishSession (id : String) : Call Bool :=
  transact fun s => .ok (s.sessions.any (·.id == id), s.finishSession id)

/-- The number of sessions on a terminal that are not finished. -/
def countOpenSessions (terminalId : String) (scope : SessionScope) : Call Nat :=
  query fun s => .ok (s.openSessions terminalId scope)

end Database
end GatewayRegistry
