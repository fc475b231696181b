import GatewayRegistry.Json.Decode
import GatewayRegistry.Json.Reader

/-!
# Storage backends

Gateways write command logs and session recordings to storage backends, which a terminal names.
What a gateway is told about a backend are its options, a structured document that is kept as
text, together with its type under the key `TYPE`.
-/

namespace GatewayRegistry

/-- What a backend stores. -/
inductive BackendKind where
  | command
  | replay
  deriving DecidableEq, Repr

structure StorageBackend where
  id : String
  name : String
  type : String
  /-- The text of an object with the options of the backend. -/
  options : String
  createdAt : Int64
  deriving DecidableEq, Repr

namespace StorageBackend

def typeKey : String := "TYPE"

/-- What gateways are told about a backend: its options and its type, which comes before a type
among the options. None where the text is not that of an object. -/
def settings? (b : StorageBackend) : Option Json :=
  (Json.parseObject? b.options).map fun members => .obj (members.insert typeKey (.str b.type))

def encode (b : StorageBackend) : Json :=
  .obj [
    ("created_at", .int b.createdAt.toInt),
    ("id", .str b.id),
    ("meta", .str b.options),
    ("name", .str b.name),
    ("storage_type", .str b.type)]

def decode : Decoder StorageBackend :=
  Decode.record "StorageBackend" 5 <|
    pure StorageBackend.mk
      <*> Decode.required "id" Decode.string
      <*> Decode.required "name" Decode.string
      <*> Decode.required "storage_type" Decode.string
      <*> Decode.required "meta" Decode.string
      <*> Decode.required "created_at" Decode.int64

end StorageBackend
end GatewayRegistry
