import GatewayRegistry.Terminal.Type

/-!
# Entries of the protocol catalog

`Protocol` is an entry of the catalog that all terminals share: a protocol on a port.
`ProtocolEntry` asks for one; it may come from input that leaves things out, and only an entry
with a known name and a port other than zero asks for anything (`ProtocolEntry.resolve?`).
-/

namespace GatewayRegistry

/-- An entry of the protocol catalog. -/
structure Protocol where
  id : Int
  name : ProtocolName
  port : UInt16
  builtin : Bool
  deriving DecidableEq, Repr

namespace Protocol

/-- The text of an entry: its name, its port, and a mark on the built-in ones. -/
def toText (p : Protocol) : String :=
  p.name.toText ++ "/" ++ toString p.port.toNat ++ (if p.builtin then " [built-in]" else "")

def encode (p : Protocol) : Json :=
  .obj [
    ("builtin", .bool p.builtin),
    ("id", .int p.id),
    ("name", p.name.encode),
    ("port", .int p.port.toNat)]

def decode : Decoder Protocol :=
  Decode.record "Protocol" 4 <|
    pure Protocol.mk
      <*> Decode.required "id" Decode.signed64
      <*> Decode.required "name" ProtocolName.decode
      <*> Decode.required "port" Decode.uint16
      <*> Decode.required "builtin" Decode.bool

end Protocol

/-- A request for an entry of the catalog. -/
structure ProtocolEntry where
  name : Option String
  port : Option UInt16
  builtin : Bool
  deriving DecidableEq, Repr

namespace ProtocolEntry

/-- A protocol on its default port. -/
def ofName (name : ProtocolName) : ProtocolEntry := ⟨some name.toText, some name.defaultPort, true⟩

/-- The protocol and port that are asked for, if both are given and possible. -/
def resolve? (e : ProtocolEntry) : Option (ProtocolName × UInt16) := do
  let name ← e.name
  let port ← e.port
  if name.isEmpty || port == 0 then none
  else return (← ProtocolName.ofText? name, port)

/-- One request for every known protocol. -/
def initial : List ProtocolEntry := ProtocolName.all.map ofName

/-- The requests for the protocols a type of terminal serves. -/
def defaults? (type : TerminalType) : Option (List ProtocolEntry) :=
  type.protocols?.map (·.map ofName)

def encode (e : ProtocolEntry) : Json :=
  .obj [
    ("builtin", .bool e.builtin),
    ("name", e.name.elim .null .str),
    ("port", e.port.elim .null fun p => .int p.toNat)]

def decode : Decoder ProtocolEntry :=
  Decode.record "ProtocolEntry" 3 <|
    pure ProtocolEntry.mk
      <*> Decode.optional "name" Decode.string
      <*> Decode.optional "port" Decode.uint16
      <*> Decode.withDefault "builtin" Decode.bool true

end ProtocolEntry
end GatewayRegistry
