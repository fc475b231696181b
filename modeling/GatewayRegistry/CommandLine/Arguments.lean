import GatewayRegistry.CommandLine.Option
import GatewayRegistry.Config.Load

/-!
# Reading the arguments

Arguments are read from the left on two levels: what stands before the name of a command, and what
stands after it. On each level an option may be given once, as `--name value` or as `--name=value`,
and after `--` nothing is an option.

The value of an option is examined as late as possible, when the next option or argument has been
recognised or the level ends, so that an unknown option is reported before a bad value in front of
it. On a level, what the arguments leave open is taken from the environment before anything is
found to be missing, and the level of the command is complete before the one around it.
-/

namespace GatewayRegistry

inductive HelpTopic where
  | program
  | command (name : CommandName)
  /-- The word that asks for help. -/
  | help
  deriving DecidableEq, Repr

def HelpTopic.ofText? (text : String) : Option HelpTopic :=
  if text = helpWord then some .help else (CommandName.ofText? text).map .command

/-- Why the arguments ask for no task. -/
inductive Stop where
  | usage (mistake : UsageError)
  /-- Help in full or as a summary. -/
  | help (topic : HelpTopic) (full : Bool)
  | version
  /-- There were no arguments at all. -/
  | noArguments
  deriving DecidableEq, Repr

namespace Arguments

/-! ### One level -/

/-- What can stand on a level. -/
structure Level where
  options : List OptionSpec
  /-- How many arguments there can be. -/
  places : Nat
  /-- The names that end the level, after which another one starts. -/
  commands : List String
  /-- What the help on this level is about. -/
  topic : HelpTopic

/-- The level before the name of a command. -/
def outerLevel : Level where
  options := globalOptions
  places := 0
  commands := CommandName.all.map CommandName.toText ++ [helpWord]
  topic := .program

/-- The level after the name of a command. -/
def commandLevel (c : CommandName) : Level where
  options := globalOptions ++ c.options
  places := c.argument?.toList.length
  commands := []
  topic := .command c

/-- What was found on a level so far. -/
structure Found where
  options : List (String × OptionValue) := []
  arguments : List String := []
  /-- The last option, if its value has not been examined: it may still lack one. -/
  pending : Option (OptionSpec × Option String) := none

namespace Found

/-- Add an option with its value. -/
def add (o : OptionSpec) (text : String) (found : Found) : Except Stop Found :=
  if found.options.any (·.1 == o.name) then .error (.usage (.repeatedOption o.shown))
  else match o.read text with
    | .ok v => .ok { found with options := found.options ++ [(o.name, v)] }
    | .error mistake => .error (.usage mistake)

/-- Examine the value of the last option. -/
def settle (found : Found) : Except Stop Found :=
  match found.pending with
  | none => .ok found
  | some (o, none) => .error (.usage (.missingValue o.shown))
  | some (o, some text) => { found with pending := none }.add o text

def value? (found : Found) (name : String) : Option OptionValue :=
  (found.options.find? (·.1 == name)).map (·.2)

/-- The text that an option has as its value. -/
def text? (found : Found) (name : String) : Option String :=
  match found.value? name with
  | some (.text s) => some s
  | _ => none

/-- Whether an option without a value is given. -/
def has (found : Found) (name : String) : Bool := (found.value? name).isSome

end Found

/-- What one argument is, given what was found before it. -/
inductive Token where
  | command (name : String)
  | separator
  | long (name : String) (value : Option String)
  | short (letter : Char)
  /-- The value of the option before it. -/
  | optionValue (text : String)
  | argument (text : String)
  deriving DecidableEq, Repr

/-- Split a text at its first equals sign. -/
def splitEquals (cs : List Char) : String × Option String :=
  let name := String.ofList (cs.takeWhile (· != '='))
  match cs.dropWhile (· != '=') with
  | [] => (name, none)
  | _ :: value => (name, some (String.ofList value))

/-- Recognise an argument. -/
def Token.of (level : Level) (found : Found) (text : String) : Token :=
  let awaiting := match found.pending with
    | some (_, none) => true
    | _ => false
  if !awaiting && level.commands.contains text then .command text
  else match text.toList with
    | ['-', '-'] => .separator
    | '-' :: '-' :: cs => let (name, value) := splitEquals cs; .long name value
    | '-' :: c :: _ => .short c
    | _ => if awaiting then .optionValue text else .argument text

def takeLong (level : Level) (name : String) (attached : Option String) (found : Found) :
    Except Stop Found :=
  let exit (stop : Stop) : Except Stop Found :=
    match attached with
    | some text => .error (.usage (.needlessValue text ("--" ++ name)))
    | none => do let _ ← found.settle; throw stop
  match level.options.find? (·.name == name) with
  | some o =>
    match o.kind, attached with
    | .flag, some text => .error (.usage (.needlessValue text o.shown))
    | .flag, none => do (← found.settle).add o ""
    | _, some text => do (← found.settle).add o text
    | _, none => do return { ← found.settle with pending := some (o, none) }
  | none =>
    if name = "help" then exit (.help level.topic true)
    else if name = "version" ∧ level.topic = .program then exit .version
    else .error (.usage (.unexpectedArgument ("--" ++ name)))

/-- Take in an option in its short form. The only ones are those that ask for help and for the
version. -/
def takeShort (level : Level) (letter : Char) (found : Found) : Except Stop Found :=
  if letter = 'h' then do let _ ← found.settle; throw (.help level.topic false)
  else if letter = 'V' ∧ level.topic = .program then do let _ ← found.settle; throw .version
  else .error (.usage (.unexpectedArgument (String.ofList ['-', letter])))

/-- Take in an argument that belongs to no option. -/
def takeArgument (level : Level) (separated : Bool) (text : String) (found : Found) :
    Except Stop Found :=
  if found.arguments.length < level.places then do
    let found ← found.settle
    return { found with arguments := found.arguments ++ [text] }
  else if level.topic = .program ∧ ¬(separated ∧ level.commands.contains text) then
    .error (.usage (.unknownCommand text))
  else .error (.usage (.unexpectedArgument text))

/-- Read a level up to its end, or up to the name of a command, which is given with what follows. -/
def readLevel (level : Level) (separated : Bool) (found : Found) :
    List String → Except Stop (Found × Option (String × List String))
  | [] => .ok (found, none)
  | text :: rest =>
    if separated then do
      readLevel level true (← takeArgument level true text found) rest
    else match Token.of level found text with
      | .command name => .ok (found, some (name, rest))
      | .separator => readLevel level true found rest
      | .long name value => do readLevel level false (← takeLong level name value found) rest
      | .short letter => do readLevel level false (← takeShort level letter found) rest
      | .optionValue text =>
        let pending := found.pending.map fun (o, _) => (o, some text)
        readLevel level false { found with pending := pending } rest
      | .argument text => do readLevel level false (← takeArgument level false text found) rest

/-- The variable of the environment that stands for an option. -/
def optionKeys : List (String × String) := [("db-path", "JUMPGATE_DB_PATH")]

/-- Take the options that are not given from the environment. -/
def fromEnvironment (env : Config.Environment) (level : Level) (found : Found) :
    Except Stop Found :=
  optionKeys.foldlM (fun found (name, key) =>
    match level.options.find? (·.name == name), env key with
    | some o, some text => if found.has name then .ok found else found.add o text
    | _, _ => .ok found) found

/-- Finish a level: examine what is pending and take the rest from the environment. Gives what the
arguments themselves said beside the whole. -/
def finish (env : Config.Environment) (level : Level) (found : Found) :
    Except Stop (Found × Found) := do
  let given ← found.settle
  return (given, ← fromEnvironment env level given)

/-! ### Both levels -/

/-- What the words after the word for help ask about: nothing in particular, or one topic. -/
def helpAbout : List String → Stop
  | [] => .help .program true
  | name :: rest =>
    match HelpTopic.ofText? name, rest with
    | none, _ => .usage (.unknownCommand name)
    | some topic, [] => .help topic true
    | some _, next :: _ => .usage (.unknownCommand next)

structure Request where
  command : CommandName
  /-- What was found after the name of the command. -/
  inner : Found
  /-- The path of the store and that of a configuration file. -/
  storePath : Option String
  configPath : Option String

/-- Read what stands after the name of a command. Gives what the arguments themselves said beside
the whole. -/
def readCommand (env : Config.Environment) (c : CommandName) (args : List String) :
    Except Stop (Found × Found) := do
  let level := commandLevel c
  let (found, _) ← readLevel level false {} args
  let (given, inner) ← finish env level found
  if inner.arguments.length < level.places then throw (.usage .missingArguments)
  return (given, inner)

def read (env : Config.Environment) (args : List String) : Except Stop Request := do
  let (found, next) ← readLevel outerLevel false {} args
  match next with
  | none =>
    let (_, outer) ← finish env outerLevel found
    if outer.options.isEmpty then throw .noArguments else throw (.usage .missingCommand)
  | some (name, rest) =>
    let some c := CommandName.ofText? name | throw (helpAbout rest)
    let (given, inner) ← readCommand env c rest
    let (outerGiven, outer) ← finish env outerLevel found
    return {
      command := c
      inner := inner
      storePath := given.text? "db-path" <|> outerGiven.text? "db-path" <|> outer.text? "db-path"
      configPath := given.text? "config" <|> outer.text? "config" }

end Arguments
end GatewayRegistry
