/-!
# A cache whose entries expire

An entry is a text under a key with a deadline, and it can be read while the clock of the cache is
before the deadline. What is written last under a key counts, even if it expires earlier than what
was there before. Expired entries stay in place until they are purged, but no reader sees them.

A cache is either kept in the process that uses it or remote. A remote cache can have an outage,
during which reading and writing fail, and it is asked for one key at a time.

Times and lifetimes are whole numbers of nanoseconds, which is as finely as the clock can show them.
-/

namespace GatewayRegistry

/-- Why a cache refuses to read or write. -/
inductive CacheError where
  | outage (reason : String)
  /-- A deadline would lie beyond the last moment that the clock can show. -/
  | deadlineOverflow
  deriving DecidableEq, Repr

def CacheError.message : CacheError → String
  | .outage reason => "Cache backend error: " ++ reason
  | .deadlineOverflow => "overflow when adding duration to instant"

structure CacheEntry where
  key : String
  value : String
  /-- The time from which on the entry cannot be read any more. -/
  deadline : Nat
  deriving DecidableEq, Repr

/-- Where a cache is kept. -/
inductive CacheSite where
  | inProcess
  | remote (outage : Option String)
  deriving DecidableEq, Repr

/-- A cache and its clock. -/
structure Cache where
  /-- At most one entry for each key. -/
  entries : List CacheEntry := []
  clock : Nat := 0
  site : CacheSite := .inProcess
  deriving DecidableEq, Repr

namespace Cache

/-! ### Time -/

def second : Nat := 1000000000

/-- The time that the clock never reaches: it counts seconds up to two to the power of 63. -/
def clockEnd : Nat := 9223372036854775808 * second

def advance (elapsed : Nat) (c : Cache) : Cache := { c with clock := c.clock + elapsed }

def isFresh (c : Cache) (e : CacheEntry) : Bool := c.clock < e.deadline

/-! ### Entries -/

/-- The entry under a key, expired or not. -/
def entry? (c : Cache) (key : String) : Option CacheEntry := c.entries.find? (·.key == key)

/-- The text under a key that can be read. -/
def fresh? (c : Cache) (key : String) : Option String :=
  ((c.entry? key).filter c.isFresh).map (·.value)

/-- Put an entry in the place of the one under its key. -/
def put (e : CacheEntry) (c : Cache) : Cache :=
  { c with entries := c.entries.filter (·.key != e.key) ++ [e] }

/-- The number of entries, expired ones included. -/
def size (c : Cache) : Nat := c.entries.length

def purge (c : Cache) : Cache := { c with entries := c.entries.filter c.isFresh }

/-- The number of entries that a purge removes. -/
def expiredCount (c : Cache) : Nat := c.size - c.purge.size

/-! ### Reading and writing -/

/-- Fail during an outage. -/
def available (c : Cache) : Except CacheError Unit :=
  match c.site with
  | .remote (some reason) => .error (.outage reason)
  | _ => .ok ()

/-- Write a text that can be read for some time from now on. -/
def set (key value : String) (ttl : Nat) (c : Cache) : Except CacheError Cache := do
  c.available
  if c.clock + ttl < clockEnd then return c.put ⟨key, value, c.clock + ttl⟩
  else throw .deadlineOverflow

def get (c : Cache) (key : String) : Except CacheError (Option String) := do
  c.available
  return c.fresh? key

/-- Read the texts under several keys, in order. -/
def getMany (c : Cache) (keys : List String) : Except CacheError (List (Option String)) :=
  match c.site with
  | .inProcess => .ok (keys.map c.fresh?)
  | .remote _ => keys.mapM c.get

/-- Begin or end an outage of a remote cache. -/
def setOutage (reason : Option String) (c : Cache) : Cache :=
  match c.site with
  | .inProcess => c
  | .remote _ => { c with site := .remote reason }

end Cache
end GatewayRegistry
