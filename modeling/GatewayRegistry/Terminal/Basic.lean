import GatewayRegistry.Terminal.Type

/-!
# Terminals

`Terminal` is the value a caller holds: a copy of what the store knew about a terminal when the
copy was made. `NewTerminal` holds what a terminal brings along when it registers.
-/

namespace GatewayRegistry

/-- A registered gateway node. -/
structure Terminal where
  id : String
  name : String
  type : TerminalType
  remoteAddress : String
  sshPort : UInt16
  httpPort : UInt16
  /-- Name of the backend for command logs. -/
  commandStorage : String
  /-- Name of the backend for session recordings. -/
  replayStorage : String
  /-- The service account the gateway signs in with. -/
  accountId : Option String
  isAccepted : Bool
  isDeleted : Bool
  comment : String
  createdAt : Int64
  deriving DecidableEq, Repr

namespace Terminal

def encode (t : Terminal) : Json :=
  .obj [
    ("account_id", t.accountId.elim .null .str),
    ("command_storage", .str t.commandStorage),
    ("comment", .str t.comment),
    ("created_at", .int t.createdAt.toInt),
    ("http_port", .int t.httpPort.toNat),
    ("id", .str t.id),
    ("is_accepted", .bool t.isAccepted),
    ("is_deleted", .bool t.isDeleted),
    ("name", .str t.name),
    ("remote_addr", .str t.remoteAddress),
    ("replay_storage", .str t.replayStorage),
    ("ssh_port", .int t.sshPort.toNat),
    ("terminal_type", t.type.encode)]

/-- Decode a terminal. -/
def decode : Decoder Terminal :=
  Decode.record "Terminal" 13 <|
    pure Terminal.mk
      <*> Decode.required "id" Decode.string
      <*> Decode.required "name" Decode.string
      <*> Decode.required "terminal_type" TerminalType.decode
      <*> Decode.required "remote_addr" Decode.string
      <*> Decode.required "ssh_port" Decode.uint16
      <*> Decode.required "http_port" Decode.uint16
      <*> Decode.required "command_storage" Decode.string
      <*> Decode.required "replay_storage" Decode.string
      <*> Decode.optional "account_id" Decode.string
      <*> Decode.required "is_accepted" Decode.bool
      <*> Decode.required "is_deleted" Decode.bool
      <*> Decode.required "comment" Decode.string
      <*> Decode.required "created_at" Decode.int64

end Terminal

/-- What a terminal brings along when it registers. -/
structure NewTerminal where
  name : String
  type : TerminalType
  remoteAddress : String
  sshPort : UInt16
  httpPort : UInt16
  commandStorage : String
  replayStorage : String
  comment : String
  deriving DecidableEq, Repr

namespace NewTerminal

/-- A terminal on the usual ports, with the backends called `default`. -/
def withDefaults (name : String) (type : TerminalType) : NewTerminal where
  name := name
  type := type
  remoteAddress := ""
  sshPort := 2222
  httpPort := 5000
  commandStorage := "default"
  replayStorage := "default"
  comment := ""

end NewTerminal
end GatewayRegistry
