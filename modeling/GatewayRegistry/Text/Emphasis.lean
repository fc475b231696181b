/-!
# Emphasis and control sequences

A terminal takes some characters as orders and not as text. The orders begin with an escape
character; how far one of them goes depends on how it begins, as `ControlState.next` says.

`emphasized` makes text stand out by two such orders. Where text does not go to a terminal, `plain`
takes all orders out of it, those for emphasis as well as any that a value in the text brought
along.
-/

namespace GatewayRegistry
namespace Text

/-- Text that stands out. -/
def emphasized (s : String) : String := "\x1b[1m" ++ s ++ "\x1b[0m"

/-! ### Orders -/

/-- Where in an order a character stands. -/
inductive ControlState where
  /-- Outside of orders. -/
  | ground
  | escape
  | escapeIntermediate
  /-- In an order with parameters: after its start, among them, behind them, or where they are
  not as they should be. -/
  | orderStart
  | orderParameters
  | orderIntermediate
  | orderIgnored
  /-- In an order for a device, which has parameters and then data. -/
  | deviceStart
  | deviceParameters
  | deviceIntermediate
  | deviceIgnored
  | deviceData
  /-- In an order for the system around the terminal. -/
  | systemText
  /-- In a text that the terminal ignores. -/
  | ignoredText
  deriving DecidableEq, Repr

/-- A character outside of ASCII. -/
def isWide (c : Char) : Bool := 0x80 ≤ c.toNat

/-- A control character that moves to another place, as a line break does. -/
def isMove (c : Char) : Bool := c = '\t' || c = '\n' || c = '\x0c' || c = '\r'

/-- A character that is text where it is not part of an order. -/
def isVisible (c : Char) : Bool := isWide c || isMove c || (0x20 ≤ c.toNat && c.toNat ≤ 0x7e)

namespace ControlState

/-- The state after a character from the blank to the tilde. -/
def afterGraphic (s : ControlState) (c : Char) : ControlState :=
  let isIntermediate := c.toNat < 0x30
  let isParameter := c.toNat < 0x3c
  let isPrivate := c.toNat < 0x40
  match s with
  | ground => ground
  | escape =>
    if isIntermediate then escapeIntermediate
    else if c = '[' then orderStart
    else if c = ']' then systemText
    else if c = 'P' then deviceStart
    else if c = 'X' ∨ c = '^' ∨ c = '_' then ignoredText
    else ground
  | escapeIntermediate => if isIntermediate then escapeIntermediate else ground
  | orderStart =>
    if isIntermediate then orderIntermediate else if isPrivate then orderParameters else ground
  | orderParameters =>
    if isIntermediate then orderIntermediate
    else if isParameter then orderParameters
    else if isPrivate then orderIgnored
    else ground
  | orderIntermediate =>
    if isIntermediate then orderIntermediate else if isPrivate then orderIgnored else ground
  | orderIgnored => if isPrivate then orderIgnored else ground
  | deviceStart =>
    if isIntermediate then deviceIntermediate else if isPrivate then deviceParameters else deviceData
  | deviceParameters =>
    if isIntermediate then deviceIntermediate
    else if isParameter then deviceParameters
    else if isPrivate then deviceIgnored
    else deviceData
  | deviceIntermediate =>
    if isIntermediate then deviceIntermediate else if isPrivate then deviceIgnored else deviceData
  | deviceIgnored => deviceIgnored
  | deviceData => deviceData
  | systemText => systemText
  | ignoredText => ignoredText

/-- The state after a character outside of ASCII. In some orders one of its bytes can be the one
that ends the order. -/
def afterWide (s : ControlState) (c : Char) : ControlState :=
  match s with
  | deviceIgnored | deviceData | ignoredText =>
    if (String.utf8EncodeChar c).contains 0x9c then ground else s
  | _ => s

/-- The state after a character. -/
def next (s : ControlState) (c : Char) : ControlState :=
  if c = '\x1b' then escape
  else if c = '\x18' ∨ c = '\x1a' then ground
  else if c = '\x07' ∧ s = systemText then ground
  else if isWide c then s.afterWide c
  else if 0x20 ≤ c.toNat ∧ c.toNat ≤ 0x7e then s.afterGraphic c
  else s

/-- Whether a character is shown in a state. A move is carried out within the shorter orders too. -/
def shows (s : ControlState) (c : Char) : Bool :=
  match s with
  | ground => isVisible c
  | escape | escapeIntermediate
  | orderStart | orderParameters | orderIntermediate | orderIgnored => isMove c
  | _ => false

end ControlState

/-! ### Text without orders -/

/-- What is shown of characters. After a shown character the following ones are shown as long as
they are visible, even if that character was a move within an order, which goes on after them. -/
def shownFrom (isOpen : Bool) (s : ControlState) : List Char → List Char
  | [] => []
  | c :: cs =>
    if isOpen && isVisible c then c :: shownFrom true (if isWide c then .ground else s) cs
    else if s.shows c then c :: shownFrom true (s.next c) cs
    else shownFrom false (s.next c) cs

/-- Text without orders. -/
def plain (s : String) : String := String.ofList (shownFrom false .ground s.toList)

/-! ### Width -/

/-- The number of columns that characters take, each of them one. What follows a control character
is left out up to the letter that ends an order for emphasis. -/
def widthFrom (inOrder : Bool) : List Char → Nat
  | [] => 0
  | c :: cs =>
    if c.toNat < 0x20 ∨ c.toNat = 0x7f then widthFrom true cs
    else if inOrder then widthFrom (c != 'm') cs
    else 1 + widthFrom false cs

/-- The number of columns that text takes. -/
def width (s : String) : Nat := widthFrom false s.toList

end Text
end GatewayRegistry
