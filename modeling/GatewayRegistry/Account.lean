import GatewayRegistry.Json.Decode

/-!
# Service accounts and sessions

A terminal signs in with a service account, which can be enabled and disabled. A session is a
connection that runs over a terminal on behalf of an organization.
-/

namespace GatewayRegistry

structure Account where
  id : String
  username : String
  isActive : Bool
  createdAt : Int64
  deriving DecidableEq, Repr

namespace Account

def encode (a : Account) : Json :=
  .obj [
    ("created_at", .int a.createdAt.toInt),
    ("id", .str a.id),
    ("is_active", .bool a.isActive),
    ("username", .str a.username)]

def decode : Decoder Account :=
  Decode.record "Account" 4 <|
    pure Account.mk
      <*> Decode.required "id" Decode.string
      <*> Decode.required "username" Decode.string
      <*> Decode.required "is_active" Decode.bool
      <*> Decode.required "created_at" Decode.int64

end Account

structure Session where
  id : String
  terminalId : String
  organizationId : String
  isFinished : Bool
  createdAt : Int64
  deriving DecidableEq, Repr

namespace Session

def encode (s : Session) : Json :=
  .obj [
    ("created_at", .int s.createdAt.toInt),
    ("id", .str s.id),
    ("is_finished", .bool s.isFinished),
    ("org_id", .str s.organizationId),
    ("terminal_id", .str s.terminalId)]

def decode : Decoder Session :=
  Decode.record "Session" 5 <|
    pure Session.mk
      <*> Decode.required "id" Decode.string
      <*> Decode.required "terminal_id" Decode.string
      <*> Decode.required "org_id" Decode.string
      <*> Decode.required "is_finished" Decode.bool
      <*> Decode.required "created_at" Decode.int64

end Session

/-- Whose sessions a query counts. -/
inductive SessionScope where
  | organization (id : String)
  /-- The sessions of every organization. -/
  | root
  deriving DecidableEq, Repr

def SessionScope.includes : SessionScope → Session → Bool
  | .organization id, s => s.organizationId == id
  | .root, _ => true

end GatewayRegistry
