import GatewayRegistry.Liveness.Cache

/-!
# Presence of terminals

A terminal is alive while there is a mark under its id in the cache. Each heartbeat sets the mark
anew, and it expires by itself when heartbeats stop.
-/

namespace GatewayRegistry
namespace Cache

def presenceKey (terminalId : String) : String := "TERMINAL_ALIVE_" ++ terminalId

def presenceMark : String := "1"

/-- Mark a terminal as alive for some time. -/
def setAlive (terminalId : String) (ttl : Nat) (c : Cache) : Except CacheError Cache :=
  c.set (presenceKey terminalId) presenceMark ttl

/-- Whether a terminal is alive, given a way to read the text under a key. -/
def isAliveBy (read : String → Except CacheError (Option String)) (terminalId : String) :
    Except CacheError Bool :=
  return (← read (presenceKey terminalId)).isSome

/-- Those of some terminals that are alive, each once, given a way to read the texts under several
keys. For no terminals nothing is read. -/
def aliveAmongBy (readMany : List String → Except CacheError (List (Option String)))
    (terminalIds : List String) : Except CacheError (List String) := do
  if terminalIds.isEmpty then return []
  let marks ← readMany (terminalIds.map presenceKey)
  return ((terminalIds.zip marks).filterMap fun (id, mark) =>
    if mark.isSome then some id else none).eraseDups

def isAlive (c : Cache) (terminalId : String) : Except CacheError Bool :=
  isAliveBy c.get terminalId

/-- Those of some terminals that are alive, each once. -/
def aliveAmong (c : Cache) (terminalIds : List String) : Except CacheError (List String) :=
  aliveAmongBy c.getMany terminalIds

end Cache
end GatewayRegistry
