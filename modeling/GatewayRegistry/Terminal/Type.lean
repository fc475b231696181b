import GatewayRegistry.Protocol.Name

/-!
# Types of terminals

A terminal is a gateway process that registers itself. Its type says which software it runs, and
thereby which protocols it serves; the types that take no part in connections serve none.
-/

namespace GatewayRegistry

/-- The type of a terminal. -/
inductive TerminalType where
  | koko | guacamole | omnidb | xrdp | lion | core | celery | magnus | razor | tinker
  | videoWorker | chen | kael
  deriving DecidableEq, Repr

namespace TerminalType

def all : List TerminalType :=
  [.koko, .guacamole, .omnidb, .xrdp, .lion, .core, .celery, .magnus, .razor, .tinker,
    .videoWorker, .chen, .kael]

/-- The type of a terminal that does not name one. -/
def default : TerminalType := .koko

def toText : TerminalType → String
  | .koko => "koko"
  | .guacamole => "guacamole"
  | .omnidb => "omnidb"
  | .xrdp => "xrdp"
  | .lion => "lion"
  | .core => "core"
  | .celery => "celery"
  | .magnus => "magnus"
  | .razor => "razor"
  | .tinker => "tinker"
  | .videoWorker => "video_worker"
  | .chen => "chen"
  | .kael => "kael"

/-- The protocols a type serves, in the order in which they are assigned; none for a type that
takes no part in connections. -/
def protocols? : TerminalType → Option (List ProtocolName)
  | .koko => some [.ssh]
  | .lion | .guacamole => some [.rdp, .vnc]
  | .xrdp | .razor => some [.rdp]
  | .magnus =>
    some [.mysql, .mariadb, .postgresql, .oracle, .sqlserver, .clickhouse, .redis, .mongodb]
  | .omnidb | .chen => some [.mysql, .mariadb, .postgresql, .oracle, .sqlserver]
  | .kael => some [.http]
  | .core | .celery | .tinker | .videoWorker => none

def ofText? (name : String) : Option TerminalType := all.find? (·.toText == name)

/-- The type with a name, or what is wrong with the name. -/
def parse (name : String) : Except UnknownName TerminalType :=
  match ofText? name with
  | some t => .ok t
  | none => .error ⟨"terminal type", name⟩

/-- A type as a structured value: its name. -/
def encode (t : TerminalType) : Json := .str t.toText

def decode : Decoder TerminalType := Decode.variant (all.map fun t => (t.toText, t))

end TerminalType
end GatewayRegistry
