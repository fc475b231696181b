import GatewayRegistry.Json.Basic
import GatewayRegistry.Binary64.Printer
import GatewayRegistry.Text.Quoted

/-!
# Why a structured value is not a value of some type

`DecodeError` names the cause: what was found, what was expected, or which field or variant is at
fault. `DecodeError.message` is the wording.
-/

namespace GatewayRegistry

/-- What was found in the place of a value. -/
inductive Found where
  | null
  | bool (value : Bool)
  | int (value : Int)
  | float (value : Binary64)
  | text (value : String)
  | sequence
  | map
  deriving DecidableEq, Repr

/-- What would have been accepted. -/
inductive Expected where
  /-- A whole number from 0 that fits into some number of bits. -/
  | unsigned (bits : Nat)
  /-- A whole number of either sign that fits into some number of bits. -/
  | signed (bits : Nat)
  | boolean
  | text
  | path
  | unit
  | sequence
  /-- A record with some name. -/
  | record (name : String)
  /-- A record with some name, given as an array of its fields. -/
  | recordOf (name : String) (fields : Nat)
  /-- An array that ends after the last field of its record. -/
  | fewerItems
  | textOrMap
  | singleKeyMap
  deriving DecidableEq, Repr

/-- A cause of failure. -/
inductive DecodeError where
  | wrongType (found : Found) (expected : Expected)
  | wrongValue (found : Found) (expected : Expected)
  | wrongLength (length : Nat) (expected : Expected)
  | unknownVariant (name : String) (known : List String)
  | missingField (name : String)
  deriving DecidableEq, Repr

/-- What a value is, as messages describe it. -/
def Json.found : Json → Found
  | .null => .null
  | .bool b => .bool b
  | .int n => .int n
  | .float x => .float x
  | .str s => .text s
  | .arr _ => .sequence
  | .obj _ => .map

def Found.message : Found → String
  | .null => "null"
  | .bool b => "boolean `" ++ (if b then "true" else "false") ++ "`"
  | .int n => "integer `" ++ toString n ++ "`"
  | .float x => "floating point `" ++ x.toText ++ "`"
  | .text s => "string " ++ Text.quoted s
  | .sequence => "sequence"
  | .map => "map"

def Expected.message : Expected → String
  | .unsigned bits => "u" ++ toString bits
  | .signed bits => "i" ++ toString bits
  | .boolean => "a boolean"
  | .text => "a string"
  | .path => "path string"
  | .unit => "unit"
  | .sequence => "a sequence"
  | .record name => "struct " ++ name
  | .recordOf name fields =>
    "struct " ++ name ++ " with " ++ toString fields ++ (if fields = 1 then " element" else " elements")
  | .fewerItems => "fewer elements in array"
  | .textOrMap => "string or map"
  | .singleKeyMap => "map with a single key"

/-- Names as messages list them. -/
def DecodeError.alternatives : List String → String
  | [] => "there are no variants"
  | [a] => "expected `" ++ a ++ "`"
  | [a, b] => "expected `" ++ a ++ "` or `" ++ b ++ "`"
  | names => "expected one of " ++ ", ".intercalate (names.map fun n => "`" ++ n ++ "`")

def DecodeError.message : DecodeError → String
  | .wrongType found expected => "invalid type: " ++ found.message ++ ", expected " ++ expected.message
  | .wrongValue found expected => "invalid value: " ++ found.message ++ ", expected " ++ expected.message
  | .wrongLength length expected =>
    "invalid length " ++ toString length ++ ", expected " ++ expected.message
  | .unknownVariant name known =>
    "unknown variant `" ++ name ++ "`, " ++ DecodeError.alternatives known
  | .missingField name => "missing field `" ++ name ++ "`"

end GatewayRegistry
