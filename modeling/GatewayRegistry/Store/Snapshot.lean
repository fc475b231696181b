import GatewayRegistry.Json.Printer
import GatewayRegistry.Json.Reader
import GatewayRegistry.Store.Files

/-!
# Stores as files

The file of a store is the text of a structured value, which holds all tables, behind a byte that
occurs in no text. So the file of a store is never mistaken for a text, nor a text for a store.
-/

namespace GatewayRegistry

/-! ### Rows -/

namespace TerminalRow

def encode (row : TerminalRow) : Json :=
  Json.ofMembers [
    ("id", .str row.id),
    ("name", .str row.name),
    ("terminal_type", .str row.type),
    ("remote_addr", .str row.remoteAddress),
    ("ssh_port", .int row.sshPort),
    ("http_port", .int row.httpPort),
    ("command_storage", .str row.commandStorage),
    ("replay_storage", .str row.replayStorage),
    ("account_id", row.accountId.elim .null .str),
    ("is_accepted", .bool row.isAccepted),
    ("is_deleted", .bool row.isDeleted),
    ("comment", .str row.comment),
    ("created_at", .int row.createdAt.toInt)]

def decode : Decoder TerminalRow :=
  Decode.record "TerminalRow" 13 <|
    pure TerminalRow.mk
      <*> Decode.required "id" Decode.string
      <*> Decode.required "name" Decode.string
      <*> Decode.required "terminal_type" Decode.string
      <*> Decode.required "remote_addr" Decode.string
      <*> Decode.required "ssh_port" Decode.signed64
      <*> Decode.required "http_port" Decode.signed64
      <*> Decode.required "command_storage" Decode.string
      <*> Decode.required "replay_storage" Decode.string
      <*> Decode.optional "account_id" Decode.string
      <*> Decode.required "is_accepted" Decode.bool
      <*> Decode.required "is_deleted" Decode.bool
      <*> Decode.required "comment" Decode.string
      <*> Decode.required "created_at" Decode.int64

end TerminalRow

namespace ProtocolRow

def encode (row : ProtocolRow) : Json :=
  Json.ofMembers [
    ("id", .int row.id), ("name", .str row.name), ("port", .int row.port),
    ("builtin", .bool row.builtin)]

def decode : Decoder ProtocolRow :=
  Decode.record "ProtocolRow" 4 <|
    pure ProtocolRow.mk
      <*> Decode.required "id" Decode.signed64
      <*> Decode.required "name" Decode.string
      <*> Decode.required "port" Decode.signed64
      <*> Decode.required "builtin" Decode.bool

end ProtocolRow

namespace ProtocolLink

def encode (link : ProtocolLink) : Json :=
  Json.ofMembers [("terminal_id", .str link.terminalId), ("protocol_id", .int link.protocolId)]

def decode : Decoder ProtocolLink :=
  Decode.record "ProtocolLink" 2 <|
    pure ProtocolLink.mk
      <*> Decode.required "terminal_id" Decode.string
      <*> Decode.required "protocol_id" Decode.signed64

end ProtocolLink

namespace DomainLink

def encode (link : DomainLink) : Json :=
  Json.ofMembers [("terminal_id", .str link.terminalId), ("domain_id", .str link.domainId)]

def decode : Decoder DomainLink :=
  Decode.record "DomainLink" 2 <|
    pure DomainLink.mk
      <*> Decode.required "terminal_id" Decode.string
      <*> Decode.required "domain_id" Decode.string

end DomainLink

namespace Asset

def encode (a : Asset) : Json :=
  Json.ofMembers [("id", .str a.id), ("name", .str a.name), ("platform_id", .int a.platformId)]

def decode : Decoder Asset :=
  Decode.record "Asset" 3 <|
    pure Asset.mk
      <*> Decode.required "id" Decode.string
      <*> Decode.required "name" Decode.string
      <*> Decode.required "platform_id" Decode.signed64

end Asset

/-! ### Tables -/

namespace Numbered

def encode (row : α → Json) (t : Numbered α) : Json :=
  Json.ofMembers [("rows", .arr (t.rows.map row)), ("last_id", .int t.lastId)]

def decode (row : Decoder α) : Decoder (Numbered α) :=
  Decode.record "Numbered" 2 <|
    pure Numbered.mk
      <*> Decode.required "rows" (Decode.list row)
      <*> Decode.required "last_id" Decode.signed64

end Numbered

namespace Store

def encode (s : Store) : Json :=
  Json.ofMembers [
    ("accounts", .arr (s.accounts.map Account.encode)),
    ("terminals", .arr (s.terminals.map TerminalRow.encode)),
    ("protocols", s.protocols.encode ProtocolRow.encode),
    ("terminal_protocols", .arr (s.terminalProtocols.map ProtocolLink.encode)),
    ("domains", .arr (s.domains.map Domain.encode)),
    ("terminal_domains", .arr (s.terminalDomains.map DomainLink.encode)),
    ("sessions", .arr (s.sessions.map Session.encode)),
    ("command_storages", .arr (s.commandStorages.map StorageBackend.encode)),
    ("replay_storages", .arr (s.replayStorages.map StorageBackend.encode)),
    ("platforms", s.platforms.encode Platform.encode),
    ("platform_protocols", s.platformProtocols.encode PlatformProtocol.encode),
    ("assets", .arr (s.assets.map Asset.encode)),
    ("asset_protocols", s.assetProtocols.encode AssetProtocol.encode),
    ("accounts_locked", .bool s.accountsLocked),
    ("spoiled_migrations", .arr (s.spoiledMigrations.map fun (n : Nat) => .int n))]

def decode : Decoder Store :=
  Decode.record "Store" 15 <|
    pure Store.mk
      <*> Decode.required "accounts" (Decode.list Account.decode)
      <*> Decode.required "terminals" (Decode.list TerminalRow.decode)
      <*> Decode.required "protocols" (Numbered.decode ProtocolRow.decode)
      <*> Decode.required "terminal_protocols" (Decode.list ProtocolLink.decode)
      <*> Decode.required "domains" (Decode.list Domain.decode)
      <*> Decode.required "terminal_domains" (Decode.list DomainLink.decode)
      <*> Decode.required "sessions" (Decode.list Session.decode)
      <*> Decode.required "command_storages" (Decode.list StorageBackend.decode)
      <*> Decode.required "replay_storages" (Decode.list StorageBackend.decode)
      <*> Decode.required "platforms" (Numbered.decode Platform.decode)
      <*> Decode.required "platform_protocols" (Numbered.decode PlatformProtocol.decode)
      <*> Decode.required "assets" (Decode.list Asset.decode)
      <*> Decode.required "asset_protocols" (Numbered.decode AssetProtocol.decode)
      <*> Decode.required "accounts_locked" Decode.bool
      <*> Decode.required "spoiled_migrations"
        (Decode.list fun v => (Decode.signed64 v).map Int.toNat)

/-! ### Files -/

/-- What the file of a store holds. -/
def toBytes (s : Store) : ByteArray := ⟨#[storeMark]⟩ ++ s.encode.compact.toUTF8

/-- The store whose file holds some bytes. -/
def ofBytes? (data : ByteArray) : Option Store :=
  if data[0]? = some storeMark then do
    let text ← String.fromUTF8? (data.extract 1 data.size)
    let v ← Json.parse? text
    (decode v).toOption
  else none

end Store

/-- What a file holds, given its bytes. -/
def FileNode.ofBytes (data : ByteArray) : FileNode :=
  match Store.ofBytes? data with
  | some tables => .store tables
  | none => .bytes data

/-- The bytes of a file. -/
def FileNode.toBytes : FileNode → ByteArray
  | .bytes data => data
  | .store tables => tables.toBytes

end GatewayRegistry
