import GatewayRegistry.Registry.Basic
import GatewayRegistry.Store.Backends

/-!
# What a gateway is told

A gateway that connects receives one flat object: the settings that every gateway receives, the
settings of the two storage backends its terminal names, the title, and the settings for security.
A backend that is not there, or whose options cannot be read, is replaced by the configured default,
so that a gateway can always start.
-/

namespace GatewayRegistry

/-- The name of the backend of a kind that a terminal writes to. -/
def Terminal.backendName (t : Terminal) : BackendKind → String
  | .command => t.commandStorage
  | .replay => t.replayStorage

/-- The settings of the backend of a kind where a terminal names no usable one. -/
def StorageDefaults.ofKind (d : StorageDefaults) : BackendKind → Json
  | .command => d.command
  | .replay => d.replay

/-- The key under which a gateway finds the settings of the backend of a kind. -/
def BackendKind.payloadKey : BackendKind → String
  | .command => "TERMINAL_COMMAND_STORAGE"
  | .replay => "TERMINAL_REPLAY_STORAGE"

namespace Registry

/-- The settings of the backend of a kind that a terminal names. -/
def backendSettings (r : Registry) (kind : BackendKind) (t : Terminal) : Call Json := do
  let backend ← onStore (Database.findBackend kind (t.backendName kind))
  return (backend.bind StorageBackend.settings?).getD (r.config.storage.ofKind kind)

/-- The settings of the backend of a kind that a terminal names, under their key. -/
def backendEntry (r : Registry) (kind : BackendKind) (t : Terminal) : Call Members :=
  return [(kind.payloadKey, ← r.backendSettings kind t)]

/-- What the gateway of a terminal is told. -/
def payload (r : Registry) (t : Terminal) : Call Members := do
  let command ← r.backendEntry .command t
  let replay ← r.backendEntry .replay t
  return Members.ofList <| r.config.terminal.entries ++ command ++ replay ++ [
    ("TERMINAL_HEADER_TITLE", .str r.config.loginTitle),
    ("SECURITY_MAX_IDLE_TIME", .int r.config.security.maxIdleTime.toNat),
    ("SECURITY_SESSION_SHARE", .bool r.config.security.sessionShare)]

end Registry
end GatewayRegistry
