import GatewayRegistry.Text.Emphasis

/-!
# Wrong usage

What can be wrong with the arguments of the program.
-/

namespace GatewayRegistry

/-- What is wrong with the arguments. Options and values are given as they are shown. -/
inductive UsageError where
  | unknownCommand (name : String)
  | unexpectedArgument (argument : String)
  /-- A value that an option does not accept, and why where there is more to say. -/
  | invalidValue (value option : String) (cause : Option String)
  | missingValue (option : String)
  | repeatedOption (option : String)
  /-- A value for an option that takes none. -/
  | needlessValue (value option : String)
  | missingArguments
  | missingCommand
  deriving DecidableEq, Repr

/-- The wording of each mistake, in which arguments and options stand out. -/
def UsageError.message (mistake : UsageError) : String :=
  let shown (s : String) := "'" ++ Text.emphasized s ++ "'"
  match mistake with
  | unknownCommand name => "unrecognized subcommand " ++ shown name
  | unexpectedArgument argument => "unexpected argument " ++ shown argument ++ " found"
  | invalidValue value option cause =>
    "invalid value " ++ shown value ++ " for " ++ shown option ++ cause.elim "" (": " ++ ·)
  | missingValue option => "a value is required for " ++ shown option ++ " but none was supplied"
  | repeatedOption option => "the argument " ++ shown option ++ " cannot be used multiple times"
  | needlessValue value option =>
    "unexpected value " ++ shown value ++ " for " ++ shown option ++ " found; no more were expected"
  | missingArguments => "the following required arguments were not provided:"
  | missingCommand =>
    shown "jumpgate-terminal" ++ " requires a subcommand but one was not provided"

end GatewayRegistry
