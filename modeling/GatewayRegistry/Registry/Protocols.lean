import GatewayRegistry.Registry.Basic
import GatewayRegistry.Store.Catalog

/-!
# Protocols of terminals

The catalog is filled on demand: whoever needs an entry creates it unless it is there. A terminal
serves whatever entries it was given last; the defaults are those of its type.
-/

namespace GatewayRegistry
namespace Registry

/-- The catalog entries that are asked for, each once and in the order in which they are first asked
for. Requests that ask for nothing are passed over. -/
def getOrCreateProtocols (requests : List ProtocolEntry) : Call (List Protocol) :=
  onStore (Database.getOrCreateProtocols requests)

/-- Fill the catalog with every known protocol. -/
def seedCatalog : Call (List Protocol) := getOrCreateProtocols ProtocolEntry.initial

/-- The catalog entries for the protocols that a type of terminal serves. -/
def defaultProtocols (type : TerminalType) : Call (List Protocol) :=
  match ProtocolEntry.defaults? type with
  | none => throw (.unsupportedType type)
  | some requests => getOrCreateProtocols requests

/-- Let a terminal serve the protocols of its type and no others. -/
def resetProtocols (t : Terminal) : Call (List Protocol) := do
  let protocols ← defaultProtocols t.type
  onStore (Database.replaceProtocols t.id (protocols.map (·.id)))
  return protocols

def protocols (t : Terminal) : Call (List Protocol) := onStore (Database.terminalProtocols t.id)

end Registry
end GatewayRegistry
