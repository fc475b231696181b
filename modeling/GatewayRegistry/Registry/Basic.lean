import GatewayRegistry.Config.Basic
import GatewayRegistry.Liveness.Presence
import GatewayRegistry.Registry.Error
import GatewayRegistry.Store.Database
import GatewayRegistry.Terminal.Basic

/-!
# The registry and what it works on

A registry is given by its configuration. It works on a `Deployment`: a database, and a cache in
which terminals are marked as alive. A `Registry.Call` is a computation on a deployment that may
fail; what its steps have changed before the failing one stays changed.

Some calls also write to the copy of a terminal that the caller holds. A `Registry.CopyCall` works
on a deployment and on such a copy, and gives back both, whether it succeeds or fails.
-/

namespace GatewayRegistry

/-- What a registry works on. -/
structure Deployment where
  database : Database := {}
  cache : Cache := {}
  deriving DecidableEq, Repr

structure Registry where
  config : Config

namespace Registry

/-- How long a heartbeat keeps a terminal alive, on the clock of the cache. -/
def ttl (r : Registry) : Nat := Cache.second * r.config.liveness.ttlSeconds.toNat

/-! ### Calls on a deployment -/

/-- A computation on a deployment that may fail. -/
abbrev Call (α : Type) := ExceptT RegistryError (StateM Deployment) α

/-- Call the store, with another wording of its failures. -/
def storeCall (reword : StoreError → RegistryError) (call : Database.Call α) : Call α :=
  fun d => match call d.database with
    | (.ok a, database) => (.ok a, { d with database := database })
    | (.error e, database) => (.error (reword e), { d with database := database })

/-- Call the store. -/
def onStore (call : Database.Call α) : Call α := storeCall .ofStore call

def readCache (ask : Cache → Except CacheError α) : Call α :=
  fun d => match ask d.cache with
    | .ok a => (.ok a, d)
    | .error e => (.error (.cache e), d)

def writeCache (change : Cache → Except CacheError Cache) : Call Unit :=
  fun d => match change d.cache with
    | .ok cache => (.ok (), { d with cache := cache })
    | .error e => (.error (.cache e), d)

/-! ### Calls on a deployment and a copy -/

/-- A deployment, and a copy of a terminal that somebody holds. -/
structure Holding where
  deployment : Deployment
  copy : Terminal
  deriving DecidableEq, Repr

/-- A computation on a deployment and on a copy of a terminal that may fail. What its steps have
made of either before the failing one stays so. -/
abbrev CopyCall (α : Type) := ExceptT RegistryError (StateM Holding) α

def besideCopy (call : Call α) : CopyCall α :=
  fun h => match call h.deployment with
    | (answer, d) => (answer, { h with deployment := d })

def readCopy : CopyCall Terminal := fun h => (.ok h.copy, h)

def writeCopy (change : Terminal → Terminal) : CopyCall Unit :=
  fun h => (.ok (), { h with copy := change h.copy })

/-- Make a call for the terminal that a copy is of, and once it has succeeded write to the copy. -/
def mirrored (call : Terminal → Call α) (change : Terminal → Terminal) : CopyCall Unit := do
  let _ ← besideCopy (call (← readCopy))
  writeCopy change

/-- Lend a copy to a call, and answer with what the call has made of it. -/
def lend (t : Terminal) (call : CopyCall Unit) : Call Terminal :=
  fun d => match call ⟨d, t⟩ with
    | (.ok (), h) => (.ok h.copy, h.deployment)
    | (.error e, h) => (.error e, h.deployment)

end Registry
end GatewayRegistry
