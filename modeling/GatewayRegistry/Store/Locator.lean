import GatewayRegistry.Text.Query
import GatewayRegistry.Text.Quoted

/-!
# Paths of stores

The path of a store is read as a locator. It may begin with the name of a scheme, any number of
times, and with pairs of slashes, all of which are left out. A question mark ends the name of the
file, and parameters follow it. In the name, bytes may be percent-encoded.

Behind the path, one more parameter is added that lets a store be made where there is none. It
becomes part of the last parameter of the path if there is one, and the only parameter that admits
such a value is the one that names a driver.
-/

namespace GatewayRegistry

/-- Why a path is no locator. -/
inductive LocatorError where
  | invalidName (fault : Text.Utf8Fault)
  | unknownParameter (name : String)
  | unknownValue (value parameter : String)
  deriving DecidableEq, Repr

def LocatorError.message : LocatorError → String
  | .invalidName fault => fault.message
  | .unknownParameter name =>
    "unknown query parameter `" ++ name ++ "` while parsing connection URL"
  | .unknownValue value parameter =>
    "unknown value " ++ Text.quoted value ++ " for `" ++ parameter ++ "`"

/-- What a path says about where a store is. -/
inductive Locator where
  | memory
  /-- In a file with a name. -/
  | named (name : String)
  /-- Wherever a driver puts it. -/
  | driven (driver : String)
  deriving DecidableEq, Repr

namespace Locator

/-- Leave out a word at the start as often as it stands there. -/
def dropRepeated (word : List Char) (cs : List Char) : List Char :=
  if word ≠ [] ∧ word.isPrefixOf cs then dropRepeated word (cs.drop word.length) else cs
termination_by cs.length
decreasing_by
  rename_i h
  have hw : 0 < word.length := List.length_pos_iff.mpr h.1
  have hc : word.length ≤ cs.length := (List.isPrefixOf_iff_prefix.mp h.2).length_le
  simp only [List.length_drop]
  omega

/-- The parameters with a closed set of values. -/
def closedParameters : List (String × List String) := [
  ("mode", ["ro", "rw", "rwc", "memory"]),
  ("cache", ["private", "shared"]),
  ("immutable", ["true", "1", "false", "0"])]

/-- Check a parameter. Gives the driver if it names one. -/
def checkParameter (name value : String) : Except LocatorError (Option String) :=
  match closedParameters.find? (·.1 == name) with
  | some (_, values) =>
    if values.contains value then .ok none else .error (.unknownValue value name)
  | none => if name = "vfs" then .ok (some value) else .error (.unknownParameter name)

/-- The driver that parameters name last. -/
def driver? (parameters : List (String × String)) : Except LocatorError (Option String) :=
  parameters.foldlM (fun last (name, value) => do
    return (← checkParameter name value) <|> last) none

def ofName (name : String) : Except LocatorError Locator :=
  if name = ":memory:" then .ok .memory
  else match Text.decodeUtf8 (Text.percentDecode (Text.bytes name)) with
    | .ok name => .ok (.named name)
    | .error fault => .error (.invalidName fault)

/-- The parameter that is added to every path. -/
def addedParameter : String := "?mode=rwc"

def parse (path : String) : Except LocatorError Locator := do
  let text := dropRepeated "//".toList (dropRepeated "sqlite:".toList path.toList)
  let locator ← ofName (String.ofList (text.takeWhile (· != '?')))
  match text.dropWhile (· != '?') with
  | [] => return locator
  | _ :: rest =>
    let driver ← driver? (Text.formParameters (String.ofList rest ++ addedParameter))
    return driver.elim locator .driven

end Locator
end GatewayRegistry
