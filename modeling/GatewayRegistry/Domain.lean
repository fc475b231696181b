import GatewayRegistry.Json.Decode

/-!
# Network domains

A network domain is a part of the network that some terminals can reach.
-/

namespace GatewayRegistry

structure Domain where
  id : String
  name : String
  createdAt : Int64
  deriving DecidableEq, Repr

namespace Domain

def encode (d : Domain) : Json :=
  .obj [("created_at", .int d.createdAt.toInt), ("id", .str d.id), ("name", .str d.name)]

def decode : Decoder Domain :=
  Decode.record "Domain" 3 <|
    pure Domain.mk
      <*> Decode.required "id" Decode.string
      <*> Decode.required "name" Decode.string
      <*> Decode.required "created_at" Decode.int64

end Domain
end GatewayRegistry
