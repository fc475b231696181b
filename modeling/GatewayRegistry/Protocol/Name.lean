import GatewayRegistry.Json.Decode
import GatewayRegistry.Text.UnknownName

/-!
# Connection protocols

The closed set of protocols that a gateway may serve, each with its name and the port on which it
is offered unless somebody says otherwise.
-/

namespace GatewayRegistry

inductive ProtocolName where
  | ssh | sftp | telnet | vnc | rdp | mysql | mariadb | postgresql | oracle | sqlserver
  | redis | mongodb | clickhouse | k8s | http
  deriving DecidableEq, Repr, Ord

namespace ProtocolName

def all : List ProtocolName :=
  [.ssh, .sftp, .telnet, .vnc, .rdp, .mysql, .mariadb, .postgresql, .oracle, .sqlserver,
    .redis, .mongodb, .clickhouse, .k8s, .http]

def toText : ProtocolName → String
  | .ssh => "ssh"
  | .sftp => "sftp"
  | .telnet => "telnet"
  | .vnc => "vnc"
  | .rdp => "rdp"
  | .mysql => "mysql"
  | .mariadb => "mariadb"
  | .postgresql => "postgresql"
  | .oracle => "oracle"
  | .sqlserver => "sqlserver"
  | .redis => "redis"
  | .mongodb => "mongodb"
  | .clickhouse => "clickhouse"
  | .k8s => "k8s"
  | .http => "http"

def defaultPort : ProtocolName → UInt16
  | .ssh | .sftp => 22
  | .telnet => 23
  | .vnc => 5900
  | .rdp => 3389
  | .mysql | .mariadb => 3306
  | .postgresql => 5432
  | .oracle => 1521
  | .sqlserver => 1433
  | .redis => 6379
  | .mongodb => 27017
  | .clickhouse => 9000
  | .k8s => 443
  | .http => 80

def ofText? (name : String) : Option ProtocolName := all.find? (·.toText == name)

/-- The protocol with a name, or what is wrong with the name. -/
def parse (name : String) : Except UnknownName ProtocolName :=
  match ofText? name with
  | some p => .ok p
  | none => .error ⟨"protocol", name⟩

/-- A protocol as a structured value: its name. -/
def encode (p : ProtocolName) : Json := .str p.toText

def decode : Decoder ProtocolName := Decode.variant (all.map fun p => (p.toText, p))

end ProtocolName
end GatewayRegistry
