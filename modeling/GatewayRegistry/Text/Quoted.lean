import GatewayRegistry.Text.Hidden

/-!
# Text shown inside quotation marks

Messages that repeat a value somebody supplied show it in double quotation marks, so that blanks
and control characters can be seen. `quoted` writes a character as itself unless it is a
quotation mark, a backslash or hidden (`isHidden`); four of those have a short form, and any
other is written by its number in hexadecimal.
-/

namespace GatewayRegistry
namespace Text

/-- A number in lower-case hexadecimal, without leading zeros. -/
def hexadecimal (n : Nat) : List Char := Nat.toDigits 16 n

/-- One character of a quoted text. -/
def quotedChar (c : Char) : List Char :=
  match c with
  | '"' => ['\\', '"']
  | '\\' => ['\\', '\\']
  | '\n' => ['\\', 'n']
  | '\r' => ['\\', 'r']
  | '\t' => ['\\', 't']
  | c =>
    if c.toNat = 0 then ['\\', '0']
    else if isHidden c then "\\u\x7b".toList ++ hexadecimal c.toNat ++ ['\x7d']
    else [c]

/-- A text in quotation marks, every character of it visible. -/
def quoted (s : String) : String :=
  String.ofList ('"' :: s.toList.flatMap quotedChar ++ ['"'])

end Text
end GatewayRegistry
