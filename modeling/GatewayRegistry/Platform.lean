import GatewayRegistry.Json.Decode

/-!
# Platforms and assets

An asset is a machine that can be reached through gateways, and its platform says what kind of
machine it is. Both offer protocols: a platform those that its assets can have, an asset those
that it has.
-/

namespace GatewayRegistry

/-- A kind of machine. -/
structure Platform where
  id : Int
  name : String
  type : String
  deriving DecidableEq, Repr

namespace Platform

def encode (p : Platform) : Json :=
  .obj [("id", .int p.id), ("name", .str p.name), ("platform_type", .str p.type)]

def decode : Decoder Platform :=
  Decode.record "Platform" 3 <|
    pure Platform.mk
      <*> Decode.required "id" Decode.signed64
      <*> Decode.required "name" Decode.string
      <*> Decode.required "platform_type" Decode.string

end Platform

/-- A protocol that a platform is to offer. -/
structure NewPlatformProtocol where
  platformId : Int
  name : String
  port : Int64
  isPrimary : Bool
  isRequired : Bool
  isDefault : Bool
  isPublic : Bool
  /-- The text of an object with the options of the protocol. -/
  setting : String
  deriving DecidableEq, Repr

/-- A protocol that a platform offers. -/
structure PlatformProtocol where
  id : Int
  platformId : Int
  name : String
  port : Int64
  isPrimary : Bool
  isRequired : Bool
  isDefault : Bool
  isPublic : Bool
  /-- The text of an object with the options of the protocol. -/
  setting : String
  deriving DecidableEq, Repr

namespace PlatformProtocol

def encode (p : PlatformProtocol) : Json :=
  .obj [
    ("id", .int p.id),
    ("is_default", .bool p.isDefault),
    ("is_primary", .bool p.isPrimary),
    ("name", .str p.name),
    ("platform_id", .int p.platformId),
    ("port", .int p.port.toInt),
    ("public", .bool p.isPublic),
    ("required", .bool p.isRequired),
    ("setting", .str p.setting)]

def decode : Decoder PlatformProtocol :=
  Decode.record "PlatformProtocol" 9 <|
    pure PlatformProtocol.mk
      <*> Decode.required "id" Decode.signed64
      <*> Decode.required "platform_id" Decode.signed64
      <*> Decode.required "name" Decode.string
      <*> Decode.required "port" Decode.int64
      <*> Decode.required "is_primary" Decode.bool
      <*> Decode.required "required" Decode.bool
      <*> Decode.required "is_default" Decode.bool
      <*> Decode.required "public" Decode.bool
      <*> Decode.required "setting" Decode.string

end PlatformProtocol

/-- A machine that can be reached through gateways. -/
structure Asset where
  id : String
  name : String
  platformId : Int
  deriving DecidableEq, Repr

/-- A protocol that an asset is to have. -/
structure NewAssetProtocol where
  assetId : String
  name : String
  port : Int64
  deriving DecidableEq, Repr

/-- A protocol that an asset has. -/
structure AssetProtocol where
  id : Int
  assetId : String
  name : String
  port : Int64
  deriving DecidableEq, Repr

namespace AssetProtocol

def encode (p : AssetProtocol) : Json :=
  .obj [
    ("asset_id", .str p.assetId),
    ("id", .int p.id),
    ("name", .str p.name),
    ("port", .int p.port.toInt)]

def decode : Decoder AssetProtocol :=
  Decode.record "AssetProtocol" 4 <|
    pure AssetProtocol.mk
      <*> Decode.required "id" Decode.signed64
      <*> Decode.required "asset_id" Decode.string
      <*> Decode.required "name" Decode.string
      <*> Decode.required "port" Decode.int64

end AssetProtocol
end GatewayRegistry
