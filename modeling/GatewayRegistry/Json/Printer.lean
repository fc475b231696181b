import GatewayRegistry.Json.Basic
import GatewayRegistry.Binary64.Printer

/-!
# The text of a structured value

Two layouts: `Json.compact`, without any blank, and `Json.pretty`, with each item and each member
on a line of its own, two spaces deeper than the bracket around it. In both, a text is written
between quotation marks with the quotation mark, the backslash and the control characters
escaped, and all other characters as they are.
-/

namespace GatewayRegistry
namespace Json

/-- One hexadecimal digit, in lower case. -/
def hexDigit (n : Nat) : Char := if n < 10 then Char.ofNat (48 + n) else Char.ofNat (87 + n)

/-- One character of a text: the control characters that have a short escape use it, and the other
control characters are written by their number in four hexadecimal digits. -/
def escapedChar (c : Char) : List Char :=
  match c with
  | '"' => ['\\', '"']
  | '\\' => ['\\', '\\']
  | '\n' => ['\\', 'n']
  | '\r' => ['\\', 'r']
  | '\t' => ['\\', 't']
  | c =>
    if c.toNat = 8 then ['\\', 'b']
    else if c.toNat = 12 then ['\\', 'f']
    else if c.toNat < 32 then ['\\', 'u', '0', '0', hexDigit (c.toNat / 16), hexDigit (c.toNat % 16)]
    else [c]

/-- A text with its quotation marks. -/
def textChars (s : String) : List Char := '"' :: s.toList.flatMap escapedChar ++ ['"']

/-- The characters of a value that is neither an array nor an object. -/
def scalarChars : Json → List Char
  | .null => "null".toList
  | .bool true => "true".toList
  | .bool false => "false".toList
  | .int n => (toString n).toList
  | .float x => x.toText.toList
  | .str s => textChars s
  | .arr _ => []
  | .obj _ => []

/-! ### Without blanks -/

mutual

/-- The characters of a value, without blanks. -/
def compactChars : Json → List Char
  | .arr items => '[' :: compactItems items ++ [']']
  | .obj members => '\x7b' :: compactMembers members ++ ['\x7d']
  | v => scalarChars v

def compactItems : List Json → List Char
  | [] => []
  | [v] => compactChars v
  | v :: rest => compactChars v ++ ',' :: compactItems rest

def compactMembers : List (String × Json) → List Char
  | [] => []
  | [(k, v)] => textChars k ++ ':' :: compactChars v
  | (k, v) :: rest => textChars k ++ ':' :: compactChars v ++ ',' :: compactMembers rest

end

/-- The text of a value, without blanks. -/
def compact (v : Json) : String := String.ofList v.compactChars

/-! ### One line for each entry -/

/-- The start of a line at some depth. -/
def newLine (depth : Nat) : List Char := '\n' :: List.replicate (2 * depth) ' '

mutual

/-- The characters of a value that stands at some depth. -/
def prettyChars (depth : Nat) : Json → List Char
  | .arr [] => ['[', ']']
  | .arr items => '[' :: prettyItems (depth + 1) items ++ newLine depth ++ [']']
  | .obj [] => ['\x7b', '\x7d']
  | .obj members => '\x7b' :: prettyMembers (depth + 1) members ++ newLine depth ++ ['\x7d']
  | v => scalarChars v

def prettyItems (depth : Nat) : List Json → List Char
  | [] => []
  | [v] => newLine depth ++ prettyChars depth v
  | v :: rest => newLine depth ++ prettyChars depth v ++ ',' :: prettyItems depth rest

def prettyMembers (depth : Nat) : List (String × Json) → List Char
  | [] => []
  | [(k, v)] => newLine depth ++ textChars k ++ ':' :: ' ' :: prettyChars depth v
  | (k, v) :: rest =>
    newLine depth ++ textChars k ++ ':' :: ' ' :: prettyChars depth v ++
      ',' :: prettyMembers depth rest

end

/-- The text of a value with each entry on a line of its own. -/
def pretty (v : Json) : String := String.ofList (v.prettyChars 0)

end Json
end GatewayRegistry
