import GatewayRegistry.Liveness.Cache
import GatewayRegistry.Store.Error
import GatewayRegistry.Terminal.Type

/-!
# Why a call on the registry fails
-/

namespace GatewayRegistry

/-- Why a call on the registry fails. -/
inductive RegistryError where
  /-- The type takes no part in connections, and so there are no protocols for it. -/
  | unsupportedType (type : TerminalType)
  /-- The deletion of a terminal failed and changed nothing. -/
  | deletionAborted (terminalId : String) (cause : StoreError)
  | notFound (row : MissingRow)
  | database (cause : StoreError)
  | cache (cause : CacheError)
  deriving DecidableEq, Repr

namespace RegistryError

def message : RegistryError → String
  | unsupportedType type => "Unsupported terminal type: " ++ type.toText
  | deletionAborted terminalId cause =>
    "Deletion of terminal " ++ terminalId ++ " aborted: " ++ cause.message
  | notFound row => "Not found: " ++ row.message
  | database cause => "Database error: " ++ cause.message
  | cache cause => "Liveness cache error: " ++ cause.message

/-- A failed call on the store as the failure of a call on the registry. -/
def ofStore : StoreError → RegistryError
  | .notFound row => .notFound row
  | cause => .database cause

/-- The failure to delete a terminal. -/
def ofDeletion (terminalId : String) : StoreError → RegistryError
  | .notFound row => .notFound row
  | cause => .deletionAborted terminalId cause

end RegistryError
end GatewayRegistry
