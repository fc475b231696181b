import GatewayRegistry.Registry.Basic
import GatewayRegistry.Store.Domains
import GatewayRegistry.Store.Terminals

/-!
# The life of a terminal

A terminal is registered, accepted, and in the end deleted; in between, its account is enabled or
disabled and it is pointed at other storage backends. The calls work on a copy of a terminal, which
may be out of date. Those that change what is kept in the copy write the same change to the copy
once the store has accepted it, and none of its other fields is brought up to date.
-/

namespace GatewayRegistry
namespace Registry

/-- Register a terminal under an id, together with an enabled account of a given id and username if
wanted. -/
def register (id : String) (new : NewTerminal) (account : Option (String × String)) (now : Int64) :
    Call Terminal :=
  onStore (Database.createTerminal id new account now)

def get (id : String) : Call Terminal := onStore (Database.getTerminal id)

/-- Let a terminal serve connections. -/
def accept : CopyCall Unit :=
  mirrored (fun t => onStore (Database.setAccepted t.id true)) fun t => { t with isAccepted := true }

/-- Delete a terminal together with its account. -/
def delete : CopyCall Unit :=
  mirrored (fun t => storeCall (.ofDeletion t.id) (Database.softDelete t.id)) fun t =>
    { t with accountId := none, isDeleted := true }

/-- Whether the account of a terminal exists and is enabled. An account that was removed since the
copy was made is not. -/
def isActive (t : Terminal) : Call Bool :=
  match t.accountId with
  | none => return false
  | some accountId => onStore (Database.isAccountActive accountId)

/-- Enable or disable the account of a terminal, if it has one. -/
def setActive (t : Terminal) (active : Bool) : Call Unit :=
  match t.accountId with
  | none => return ()
  | some accountId => onStore (Database.setAccountActive accountId active)

/-- Point a terminal at other storage backends. -/
def setStorage (command replay : String) : CopyCall Unit :=
  mirrored (fun t => onStore (Database.updateStorage t.id command replay)) fun t =>
    { t with commandStorage := command, replayStorage := replay }

/-! ### Domains and sessions -/

def setDomains (t : Terminal) (ids : List String) : Call Unit :=
  onStore (Database.replaceDomains t.id ids)

def domains (t : Terminal) : Call (List Domain) := onStore (Database.terminalDomains t.id)

/-- The number of sessions on a terminal that are not finished, of every organization. -/
def onlineSessions (t : Terminal) : Call Nat := onStore (Database.countOpenSessions t.id .root)

end Registry
end GatewayRegistry
