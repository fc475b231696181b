import GatewayRegistry.CommandLine.Help
import GatewayRegistry.Store.Files

/-!
# The program

One run of the program reads its arguments, puts the configuration together, opens the store and
carries out a command. `Program.run` does this on a `FileTree`, without any effect on the world, and
says what is to be printed, with which code the program ends, and what the files hold afterwards.
-/

namespace GatewayRegistry

/-- What a run of the program finds in the world. -/
structure Host where
  environment : Config.Environment
  /-- The home directory of the account, which counts if the environment names none. -/
  accountHome : Option String := none
  files : FileTree FileNode
  fresh : Fresh

/-- What a run of the program leaves behind. -/
structure Outcome where
  code : Nat
  output : String := ""
  errors : String := ""
  files : FileTree FileNode

/-- Why a run of the program fails after its arguments have been read. -/
inductive ProgramError where
  | config (cause : ConfigError)
  | noHome
  | store (cause : StoreError)
  | command (cause : CommandError)
  deriving DecidableEq, Repr

namespace ProgramError

def message : ProgramError → String
  | config cause => cause.message
  | noHome => "Cannot determine home directory"
  | store cause => cause.message
  | command cause => cause.message

def code : ProgramError → Nat
  | command (.registry (.cache .deadlineOverflow)) => 101
  | _ => 1

end ProgramError

namespace Program

/-! ### The task -/

/-- The port that an option has as its value. -/
def portOr (found : Arguments.Found) (name : String) (default : UInt16) : UInt16 :=
  match found.value? name with
  | some (.port p) => p
  | _ => default

def newTerminal (found : Arguments.Found) (name : String) : NewTerminal :=
  let type := match found.value? "type" with
    | some (.terminalType t) => t
    | _ => TerminalType.default
  let base := NewTerminal.withDefaults name type
  { base with
    remoteAddress := (found.text? "remote-addr").getD base.remoteAddress
    sshPort := portOr found "ssh-port" base.sshPort
    httpPort := portOr found "http-port" base.httpPort
    commandStorage := (found.text? "command-storage").getD base.commandStorage
    replayStorage := (found.text? "replay-storage").getD base.replayStorage
    comment := (found.text? "comment").getD base.comment }

def viewOf (found : Arguments.Found) : ListView :=
  match found.value? "view" with
  | some (.view v) => v
  | _ => .undeleted

def task (request : Arguments.Request) : Command :=
  let argument := request.inner.arguments.headD ""
  match request.command with
  | .initProtocols => .initProtocols
  | .register =>
    .register (newTerminal request.inner argument) (request.inner.text? "account")
      (request.inner.has "default-protocols")
  | .accept => .accept argument
  | .delete => .delete argument
  | .activate => .activate argument
  | .deactivate => .deactivate argument
  | .resetProtocols => .resetProtocols argument
  | .heartbeat => .heartbeat argument
  | .status => .status argument
  | .config => .config argument
  | .list => .list (viewOf request.inner)
  | .backfillSftp => .backfillSftp

/-! ### Where things lie -/

def home? (host : Host) : Option String :=
  (host.environment "HOME").filter (· != "") <|> host.accountHome

def globalConfigPath? (env : Config.Environment) : Option String :=
  let base? := env "XDG_CONFIG_HOME" <|> (env "HOME").map (joinPath · ".config")
  base?.map fun base => joinPath (joinPath base "jumpgate") "settings.json"

/-- The path of the store where nothing else is said. -/
def defaultStorePath? (host : Host) : Option String :=
  (home? host).map fun home => joinPath (joinPath home ".jumpgate") "terminal.db"

def configPaths (env : Config.Environment) (request : Arguments.Request) : List String :=
  (globalConfigPath? env).toList ++ request.configPath.toList

def loadConfig (host : Host) (request : Arguments.Request) : Except ConfigError Config :=
  let env := host.environment
  let file (path : String) : ConfigFile := ⟨path, host.files.content FileNode.data path⟩
  Config.load ((globalConfigPath? env).map file) (request.configPath.map file) env

/-- The path of the store of a run. -/
def storePath (host : Host) (config : Config) (request : Arguments.Request) :
    Except ProgramError String :=
  match request.storePath <|> config.database.path <|> defaultStorePath? host with
  | some path => .ok path
  | none => .error .noHome

/-! ### A run -/

/-- How it went to do what the arguments ask for: how it ended, the lines printed until then, and
the files afterwards. -/
structure Performance where
  result : Except ProgramError Unit
  printed : List String := []
  files : FileTree FileNode

/-- Carry out a task on the store at a path. -/
def perform (host : Host) (config : Config) (path : String) (task : Command) : Performance :=
  match FileTree.openStore config.database path host.files with
  | (.error cause, files) => { result := .error (.store cause), files := files }
  | (.ok (place, database), files) =>
    let (result, after) := task.run ⟨config⟩ host.fresh { deployment := { database := database } }
    { result := result.mapError .command
      printed := after.printed
      files := files.save place after.deployment.database }

/-- Carry out what the arguments ask for. -/
def answer (host : Host) (request : Arguments.Request) : Performance :=
  match loadConfig host request with
  | .error cause => { result := .error (.config cause), files := host.files }
  | .ok config =>
    match storePath host config request with
    | .error cause => { result := .error cause, files := host.files }
    | .ok path => perform host config path (task request)

/-- What is left behind where the arguments ask for no task. Nothing stands out in it, since it may
go anywhere. -/
def stopped (host : Host) : Stop → Outcome
  | .usage mistake => {
    code := 2
    errors := Text.plain <| Command.lines
      ["error: " ++ mistake.message, "", "For more information, try '--help'."]
    files := host.files }
  | .help topic full => {
    code := 0
    output := Text.plain (Help.text host.environment topic full)
    files := host.files }
  | .version =>
    { code := 0, output := Command.lines [Help.programName ++ " " ++ Help.version],
      files := host.files }
  | .noArguments => {
    code := 2
    errors := Text.plain (Help.text host.environment .program false)
    files := host.files }

def run (host : Host) (args : List String) : Outcome :=
  match Arguments.read host.environment args with
  | .error stop => stopped host stop
  | .ok request =>
    let done := answer host request
    let output := Command.lines done.printed
    match done.result with
    | .ok () => { code := 0, output := output, files := done.files }
    | .error cause =>
      { code := cause.code, output := output
        errors := Command.lines ["Error: " ++ cause.message], files := done.files }

end Program
end GatewayRegistry
