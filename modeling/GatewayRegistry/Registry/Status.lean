import GatewayRegistry.Registry.Lifecycle
import GatewayRegistry.Terminal.Status

/-!
# Presence and status

Which label applies to a terminal is decided lazily: the account is looked up only if the terminal
is accepted and not deleted, and the cache is asked only if the account is enabled. So a lookup
that could not change the label cannot fail either.

The three views of all terminals get narrower: those that are not deleted, of these the ones whose
account is enabled, and of these the ones that are alive.
-/

namespace GatewayRegistry
namespace Registry

/-! ### Presence -/

def heartbeat (r : Registry) (t : Terminal) : Call Unit := writeCache (Cache.setAlive t.id r.ttl)

def isAlive (t : Terminal) : Call Bool := readCache (·.isAlive t.id)

/-! ### Status -/

/-- The label that applies to a terminal. -/
def statusLabel (t : Terminal) : Call StatusLabel := do
  let active ← if t.isAccepted && !t.isDeleted then isActive t else pure false
  let alive ← if active then isAlive t else pure false
  return .ofFlags ⟨t.isAccepted, t.isDeleted, active, alive⟩

/-- The name of a terminal and the label that applies to it. -/
def statusLine (t : Terminal) : Call String := do
  return t.name ++ ": " ++ (← statusLabel t).toText

/-! ### Views -/

def undeleted : Call (List Terminal) := onStore Database.listUndeleted

/-- The terminals that are not deleted and whose account is enabled. -/
def active : Call (List Terminal) := onStore Database.listActive

/-- The active terminals that are alive, given a way to tell which ones of some ids are. -/
def aliveBy (aliveAmong : Cache → List String → Except CacheError (List String)) :
    Call (List Terminal) := do
  let terminals ← active
  let ids ← readCache (aliveAmong · (terminals.map (·.id)))
  return terminals.filter fun t => ids.contains t.id

def alive : Call (List Terminal) := aliveBy Cache.aliveAmong

end Registry
end GatewayRegistry
