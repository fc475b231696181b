/-!
# Whole numbers written in decimal

Settings and arguments carry whole numbers as text: an optional sign and at least one decimal
digit, with nothing around them. `Whole.read` accepts such a text if its value lies within given
bounds, and otherwise says which of four things is wrong with it. The digits are read from the
left, so of two faults the one further to the left is reported.
-/

namespace GatewayRegistry

/-- Why a text is not a whole number within bounds. -/
inductive WholeError where
  | empty
  | notADigit
  | tooLarge
  | tooSmall
  deriving DecidableEq, Repr

def WholeError.message : WholeError → String
  | .empty => "cannot parse integer from empty string"
  | .notADigit => "invalid digit found in string"
  | .tooLarge => "number too large to fit in target type"
  | .tooSmall => "number too small to fit in target type"

namespace Whole

/-- The value of one decimal digit. -/
def digit? (c : Char) : Option Nat :=
  if '0' ≤ c ∧ c ≤ '9' then some (c.toNat - '0'.toNat) else none

/-- Append digits to a value that may grow to `limit` and no further. -/
def extend (limit : Nat) (beyond : WholeError) (n : Nat) : List Char → Except WholeError Nat
  | [] => .ok n
  | c :: rest =>
    match digit? c with
    | none => .error .notADigit
    | some d => if limit < 10 * n + d then .error beyond else extend limit beyond (10 * n + d) rest

/-- The size of a number: at least one digit, and no more than `limit`. -/
def magnitude (limit : Nat) (beyond : WholeError) : List Char → Except WholeError Nat
  | [] => .error .notADigit
  | c :: rest => extend limit beyond 0 (c :: rest)

/-- Read a number from 0 to `greatest`; a plus sign may stand in front. -/
def readUnsigned (greatest : Nat) (s : String) : Except WholeError Nat :=
  match s.toList with
  | [] => .error .empty
  | '+' :: digits => magnitude greatest .tooLarge digits
  | digits => magnitude greatest .tooLarge digits

/-- Read a number from `-least` to `greatest`; either sign may stand in front. -/
def readSigned (least greatest : Nat) (s : String) : Except WholeError Int :=
  match s.toList with
  | [] => .error .empty
  | '-' :: digits => (magnitude least .tooSmall digits).map fun n => -(n : Int)
  | '+' :: digits => (magnitude greatest .tooLarge digits).map Int.ofNat
  | digits => (magnitude greatest .tooLarge digits).map Int.ofNat

end Whole
end GatewayRegistry
