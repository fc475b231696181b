import GatewayRegistry.Json.Decode

/-!
# The configuration

`Config` holds everything that can be configured. Each part has a default for each of its fields,
and so a document needs to give only what differs: `Config.decode` takes the default of whatever
is missing, and `Config.encode` writes everything out.
-/

namespace GatewayRegistry

/-- Where the store lies and how it is reached. -/
structure DatabaseConfig where
  /-- The path of the store, as a text. A path of a file system need not be one, and then it could
  not be written into a document; such paths are left out. -/
  path : Option String := none
  maxConnections : UInt32 := 5
  busyTimeoutSeconds : UInt64 := 5
  deriving DecidableEq, Repr

structure LivenessConfig where
  /-- How long a heartbeat keeps a terminal alive. -/
  ttlSeconds : UInt64 := 120
  /-- A shared cache; without one, presence is kept in the process. -/
  redisUrl : Option String := none
  deriving DecidableEq, Repr

/-- Settings that every gateway receives. -/
structure TerminalSettings where
  passwordAuth : Bool := true
  publicKeyAuth : Bool := true
  /-- Seconds between heartbeats. -/
  heartbeatInterval : UInt64 := 20
  assetListSortBy : String := "name"
  assetListPageSize : String := "auto"
  /-- Days for which finished sessions are kept. -/
  sessionKeepDuration : UInt32 := 200
  hostKey : String := ""
  telnetRegex : String := ""
  deriving DecidableEq, Repr

structure SecuritySettings where
  /-- Minutes without activity after which a gateway closes a session. -/
  maxIdleTime : UInt32 := 30
  sessionShare : Bool := true
  deriving DecidableEq, Repr

/-- Backend settings for terminals that name no known backend. -/
structure StorageDefaults where
  command : Json := .obj [("TYPE", .str "server")]
  replay : Json := .obj [("TYPE", .str "server")]

/-- The configuration. -/
structure Config where
  database : DatabaseConfig := {}
  liveness : LivenessConfig := {}
  terminal : TerminalSettings := {}
  security : SecuritySettings := {}
  storage : StorageDefaults := {}
  /-- The title that gateways show before sign-in. -/
  loginTitle : String := "Jumpgate Open Source Bastion"

/-! ### Structured values -/

namespace DatabaseConfig

def encode (c : DatabaseConfig) : Json :=
  .obj [
    ("busy_timeout_secs", .int c.busyTimeoutSeconds.toNat),
    ("max_connections", .int c.maxConnections.toNat),
    ("path", c.path.elim .null .str)]

def decode : Decoder DatabaseConfig :=
  let default : DatabaseConfig := {}
  Decode.record "DatabaseConfig" 3 <|
    pure DatabaseConfig.mk
      <*> Decode.withDefault "path" (Decode.nullable Decode.path) default.path
      <*> Decode.withDefault "max_connections" Decode.uint32 default.maxConnections
      <*> Decode.withDefault "busy_timeout_secs" Decode.uint64 default.busyTimeoutSeconds

end DatabaseConfig

namespace LivenessConfig

def encode (c : LivenessConfig) : Json :=
  .obj [("redis_url", c.redisUrl.elim .null .str), ("ttl_secs", .int c.ttlSeconds.toNat)]

def decode : Decoder LivenessConfig :=
  let default : LivenessConfig := {}
  Decode.record "LivenessConfig" 2 <|
    pure LivenessConfig.mk
      <*> Decode.withDefault "ttl_secs" Decode.uint64 default.ttlSeconds
      <*> Decode.withDefault "redis_url" (Decode.nullable Decode.string) default.redisUrl

end LivenessConfig

namespace TerminalSettings

def encode (c : TerminalSettings) : Json :=
  .obj [
    ("asset_list_page_size", .str c.assetListPageSize),
    ("asset_list_sort_by", .str c.assetListSortBy),
    ("heartbeat_interval", .int c.heartbeatInterval.toNat),
    ("host_key", .str c.hostKey),
    ("password_auth", .bool c.passwordAuth),
    ("public_key_auth", .bool c.publicKeyAuth),
    ("session_keep_duration", .int c.sessionKeepDuration.toNat),
    ("telnet_regex", .str c.telnetRegex)]

def decode : Decoder TerminalSettings :=
  let default : TerminalSettings := {}
  Decode.record "TerminalSettings" 8 <|
    pure TerminalSettings.mk
      <*> Decode.withDefault "password_auth" Decode.bool default.passwordAuth
      <*> Decode.withDefault "public_key_auth" Decode.bool default.publicKeyAuth
      <*> Decode.withDefault "heartbeat_interval" Decode.uint64 default.heartbeatInterval
      <*> Decode.withDefault "asset_list_sort_by" Decode.string default.assetListSortBy
      <*> Decode.withDefault "asset_list_page_size" Decode.string default.assetListPageSize
      <*> Decode.withDefault "session_keep_duration" Decode.uint32 default.sessionKeepDuration
      <*> Decode.withDefault "host_key" Decode.string default.hostKey
      <*> Decode.withDefault "telnet_regex" Decode.string default.telnetRegex

/-- The settings under the keys by which gateways know them. -/
def entries (c : TerminalSettings) : List (String × Json) := [
  ("TERMINAL_PASSWORD_AUTH", .bool c.passwordAuth),
  ("TERMINAL_PUBLIC_KEY_AUTH", .bool c.publicKeyAuth),
  ("TERMINAL_HEARTBEAT_INTERVAL", .int c.heartbeatInterval.toNat),
  ("TERMINAL_ASSET_LIST_SORT_BY", .str c.assetListSortBy),
  ("TERMINAL_ASSET_LIST_PAGE_SIZE", .str c.assetListPageSize),
  ("TERMINAL_SESSION_KEEP_DURATION", .int c.sessionKeepDuration.toNat),
  ("TERMINAL_HOST_KEY", .str c.hostKey),
  ("TERMINAL_TELNET_REGEX", .str c.telnetRegex)]

end TerminalSettings

namespace SecuritySettings

def encode (c : SecuritySettings) : Json :=
  .obj [
    ("max_idle_time", .int c.maxIdleTime.toNat),
    ("session_share", .bool c.sessionShare)]

def decode : Decoder SecuritySettings :=
  let default : SecuritySettings := {}
  Decode.record "SecuritySettings" 2 <|
    pure SecuritySettings.mk
      <*> Decode.withDefault "max_idle_time" Decode.uint32 default.maxIdleTime
      <*> Decode.withDefault "session_share" Decode.bool default.sessionShare

end SecuritySettings

namespace StorageDefaults

def encode (c : StorageDefaults) : Json :=
  .obj [("command", c.command), ("replay", c.replay)]

def decode : Decoder StorageDefaults :=
  let default : StorageDefaults := {}
  Decode.record "StorageDefaults" 2 <|
    pure StorageDefaults.mk
      <*> Decode.withDefault "command" Decode.any default.command
      <*> Decode.withDefault "replay" Decode.any default.replay

end StorageDefaults

namespace Config

def encode (c : Config) : Json :=
  .obj [
    ("database", c.database.encode),
    ("liveness", c.liveness.encode),
    ("login_title", .str c.loginTitle),
    ("security", c.security.encode),
    ("storage", c.storage.encode),
    ("terminal", c.terminal.encode)]

def decode : Decoder Config :=
  let default : Config := {}
  Decode.record "Config" 6 <|
    pure Config.mk
      <*> Decode.withDefault "database" DatabaseConfig.decode default.database
      <*> Decode.withDefault "liveness" LivenessConfig.decode default.liveness
      <*> Decode.withDefault "terminal" TerminalSettings.decode default.terminal
      <*> Decode.withDefault "security" SecuritySettings.decode default.security
      <*> Decode.withDefault "storage" StorageDefaults.decode default.storage
      <*> Decode.withDefault "login_title" Decode.string default.loginTitle

end Config
end GatewayRegistry
