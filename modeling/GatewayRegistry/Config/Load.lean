import GatewayRegistry.Config.Basic
import GatewayRegistry.Files.Content
import GatewayRegistry.Json.Overlay
import GatewayRegistry.Json.Reader
import GatewayRegistry.Text.Whole

/-!
# Layers of configuration

A configuration is put together from four layers, each of which comes before the ones under it:
the environment, a file named by the caller, a global file, and the defaults.

* The defaults and the files are laid over one another as structured values (`Config.layered`),
  so that a file gives only the keys it changes. The settings of a storage backend are never
  blended: the value under `storage.command` or `storage.replay` is taken whole.
* The result is decoded, and then the environment replaces single fields (`Config.withOverrides`).
  A variable whose text is not a number of the right size is passed over where a number is needed.
-/

namespace GatewayRegistry

/-! ### Files -/

/-- A file that may hold a layer of configuration. -/
structure ConfigFile where
  path : String
  content : FileContent

/-! ### Errors -/

/-- Why there is no configuration. -/
inductive ConfigError where
  | unreadable (path : String) (cause : ReadError)
  | malformed (path : String)
  | invalid (cause : DecodeError)
  deriving DecidableEq, Repr

def ConfigError.message : ConfigError → String
  | .unreadable path cause =>
    "Configuration error: Failed to read config file " ++ path ++ ": " ++ cause.message
  | .malformed path => "Configuration error: Failed to parse config file " ++ path
  | .invalid cause => "Configuration error: Invalid configuration: " ++ cause.message

def ConfigFile.read (file : ConfigFile) : Except ConfigError Json :=
  match file.content.text with
  | .error cause => .error (.unreadable file.path cause)
  | .ok text => match Json.parse? text with
    | some v => .ok v
    | none => .error (.malformed file.path)

/-! ### Layers -/

namespace Config

/-- The places whose values are taken whole. -/
def atomicPaths : List Json.Path := [["storage", "command"], ["storage", "replay"]]

def lay (lower upper : Json) : Json := Json.overlay atomicPaths lower upper

def layOptional (lower : Json) : Option Json → Json
  | none => lower
  | some upper => lay lower upper

/-- The defaults as the lowest layer. -/
def defaultLayer : Json := Config.encode {}

/-- The defaults, a global layer and an explicit one, decoded. -/
def layered (global explicit : Option Json) : Except DecodeError Config :=
  decode (layOptional (layOptional defaultLayer global) explicit)

/-! ### The environment -/

/-- The environment: the text of each variable that is set. -/
abbrev Environment := String → Option String

/-- Replace a field by the number in a variable, if the variable is set to one. -/
def override (env : Environment) (name : String) (greatest : Nat) (set : Nat → Config → Config)
    (c : Config) : Config :=
  match env name with
  | none => c
  | some text => match Whole.readUnsigned greatest text with
    | .ok n => set n c
    | .error _ => c

/-- Replace a field by the text of a variable, if the variable is set. -/
def overrideText (env : Environment) (name : String) (set : String → Config → Config)
    (c : Config) : Config :=
  match env name with
  | none => c
  | some text => set text c

/-- Let the environment replace single fields. -/
def withOverrides (env : Environment) (c : Config) : Config :=
  c
  |> overrideText env "JUMPGATE_DB_PATH" (fun s c =>
      { c with database := { c.database with path := some s } })
  |> override env "JUMPGATE_LIVENESS_TTL" (UInt64.size - 1) (fun n c =>
      { c with liveness := { c.liveness with ttlSeconds := UInt64.ofNat n } })
  |> overrideText env "JUMPGATE_REDIS_URL" (fun s c =>
      { c with liveness := { c.liveness with redisUrl := some s } })
  |> overrideText env "JUMPGATE_LOGIN_TITLE" (fun s c => { c with loginTitle := s })
  |> override env "JUMPGATE_MAX_IDLE_TIME" (UInt32.size - 1) (fun n c =>
      { c with security := { c.security with maxIdleTime := UInt32.ofNat n } })

/-! ### All layers -/

/-- The layer of the global file, which need not exist. -/
def globalLayer : Option ConfigFile → Except ConfigError (Option Json)
  | none => .ok none
  | some file => if file.content.exists then file.read.map some else .ok none

/-- The layer of the file named by the caller, which must exist. -/
def explicitLayer : Option ConfigFile → Except ConfigError (Option Json)
  | none => .ok none
  | some file => file.read.map some

/-- The configuration of two layers and an environment. -/
def ofLayers (global explicit : Option Json) (env : Environment) : Except ConfigError Config :=
  match layered global explicit with
  | .ok c => .ok (c.withOverrides env)
  | .error cause => .error (.invalid cause)

def load (global explicit : Option ConfigFile) (env : Environment) : Except ConfigError Config := do
  let global ← globalLayer global
  let explicit ← explicitLayer explicit
  ofLayers global explicit env

end Config
end GatewayRegistry
