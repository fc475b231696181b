import GatewayRegistry.CommandLine.Command
import GatewayRegistry.CommandLine.Usage
import GatewayRegistry.Text.Whole

/-!
# Options and commands

Everything that can be written after the name of the program: the options, with the kind of value
that each takes, and the names of the commands, with their options and arguments.
-/

namespace GatewayRegistry

/-! ### Values -/

/-- What kind of value an option takes. -/
inductive ValueKind where
  | flag | text | path | port | terminalType | view
  deriving DecidableEq, Repr

inductive OptionValue where
  | flag
  | text (value : String)
  | port (value : UInt16)
  | terminalType (value : TerminalType)
  | view (value : ListView)
  deriving DecidableEq, Repr

structure OptionSpec where
  name : String
  kind : ValueKind
  /-- What stands for the value where the option is shown. -/
  placeholder : String := ""
  help : String := ""
  /-- The text of the value that counts if the option is not given. -/
  default : Option String := none
  deriving DecidableEq, Repr

namespace OptionSpec

/-- What is shown behind the name of the option. -/
def suffix (o : OptionSpec) : String :=
  match o.kind with
  | .flag => ""
  | _ => " <" ++ o.placeholder ++ ">"

def shown (o : OptionSpec) : String := "--" ++ o.name ++ o.suffix

def readPort (o : OptionSpec) (text : String) : Except UsageError OptionValue :=
  match Whole.readSigned 9223372036854775808 9223372036854775807 text with
  | .error cause => .error (.invalidValue text o.shown (some cause.message))
  | .ok n =>
    if 0 ≤ n ∧ n < 65536 then .ok (.port (UInt16.ofNat n.toNat))
    else .error (.invalidValue text o.shown (some (toString n ++ " is not in 0..=65535")))

/-- The value that a text gives. -/
def read (o : OptionSpec) (text : String) : Except UsageError OptionValue :=
  match o.kind with
  | .flag => .ok .flag
  | .text => .ok (.text text)
  | .path => if text.isEmpty then .error (.missingValue o.shown) else .ok (.text text)
  | .port => o.readPort text
  | .terminalType =>
    match TerminalType.parse text with
    | .ok t => .ok (.terminalType t)
    | .error cause => .error (.invalidValue text o.shown (some cause.message))
  | .view =>
    match ListView.ofText? text with
    | some v => .ok (.view v)
    | none =>
      if text.isEmpty then .error (.missingValue o.shown)
      else .error (.invalidValue text o.shown none)

end OptionSpec

/-! ### Tables -/

def globalOptions : List OptionSpec := [
  { name := "db-path", kind := .path, placeholder := "DB_PATH",
    help := "Path to SQLite database file" },
  { name := "config", kind := .path, placeholder := "CONFIG",
    help := "Configuration file, layered over the global settings" },
  { name := "log-json", kind := .flag,
    help := "Output logs as JSON (for structured log aggregation)" }]

def registerOptions : List OptionSpec := [
  { name := "type", kind := .terminalType, placeholder := "TERMINAL_TYPE", default := some "koko",
    help := "Terminal type (koko, lion, magnus, ...)" },
  { name := "remote-addr", kind := .text, placeholder := "REMOTE_ADDR", default := some "" },
  { name := "ssh-port", kind := .port, placeholder := "SSH_PORT", default := some "2222" },
  { name := "http-port", kind := .port, placeholder := "HTTP_PORT", default := some "5000" },
  { name := "command-storage", kind := .text, placeholder := "COMMAND_STORAGE",
    default := some "default" },
  { name := "replay-storage", kind := .text, placeholder := "REPLAY_STORAGE",
    default := some "default" },
  { name := "comment", kind := .text, placeholder := "COMMENT", default := some "" },
  { name := "account", kind := .text, placeholder := "ACCOUNT",
    help := "Create a linked service account with this username" },
  { name := "default-protocols", kind := .flag,
    help := "Assign the type's default protocols right away" }]

def listOptions : List OptionSpec := [
  { name := "view", kind := .view, placeholder := "VIEW", default := some "undeleted" }]

inductive CommandName where
  | initProtocols | register | accept | delete | activate | deactivate | resetProtocols
  | heartbeat | status | config | list | backfillSftp
  deriving DecidableEq, Repr

namespace CommandName

/-- Every name, in the order in which the commands are shown. -/
def all : List CommandName :=
  [.initProtocols, .register, .accept, .delete, .activate, .deactivate, .resetProtocols,
    .heartbeat, .status, .config, .list, .backfillSftp]

def toText : CommandName → String
  | .initProtocols => "init-protocols"
  | .register => "register"
  | .accept => "accept"
  | .delete => "delete"
  | .activate => "activate"
  | .deactivate => "deactivate"
  | .resetProtocols => "reset-protocols"
  | .heartbeat => "heartbeat"
  | .status => "status"
  | .config => "config"
  | .list => "list"
  | .backfillSftp => "backfill-sftp"

def help : CommandName → String
  | .initProtocols => "Seed the protocol catalog with every builtin protocol"
  | .register => "Register a new terminal"
  | .accept => "Accept a terminal so it may serve connections"
  | .delete => "Soft-delete a terminal and remove its service account"
  | .activate => "Enable the terminal's service account"
  | .deactivate => "Disable the terminal's service account"
  | .resetProtocols => "Replace a terminal's protocols with its type's defaults"
  | .heartbeat => "Record a heartbeat for a terminal"
  | .status => "Show a terminal's status, protocols and open sessions"
  | .config => "Print the runtime configuration a terminal receives"
  | .list => "List terminals"
  | .backfillSftp => "Add sftp protocols to linux platforms and their assets"

/-- What stands for the argument of a command where it is shown, if the command takes one. -/
def argument? : CommandName → Option String
  | .initProtocols | .list | .backfillSftp => none
  | .register => some "NAME"
  | .accept | .delete | .activate | .deactivate | .resetProtocols | .heartbeat | .status
  | .config => some "TERMINAL_ID"

def options : CommandName → List OptionSpec
  | .register => registerOptions
  | .list => listOptions
  | _ => []

def ofText? (text : String) : Option CommandName := all.find? (·.toText == text)

end CommandName

/-- What stands in the place of a command to ask for help. -/
def helpWord : String := "help"

end GatewayRegistry
