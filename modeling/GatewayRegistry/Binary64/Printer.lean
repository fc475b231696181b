import GatewayRegistry.Binary64.Basic

/-!
# The shortest decimal text of a number

`shortestDigits` finds the fewest decimal digits that identify a number among its neighbours: of
the decimals with that many digits which round to the number, the one nearest to it. `toText`
lays those digits out, positionally where the number is neither very large nor very small, and
otherwise with one digit before the point and an exponent.
-/

namespace GatewayRegistry
namespace Binary64

/-! ### The digits -/

/-- The reals that round to a number, and the number itself, as natural numbers over a common
unit `2 ^ unit`: from `low` to `high`, the ends included iff the significand is even. -/
structure Span where
  low : Nat
  value : Nat
  high : Nat
  unit : Int
  closed : Bool

/-- The span of a positive number. Below a power of two the neighbours are twice as dense. -/
def span (x : Binary64) : Span :=
  let m := x.significand
  let narrow := m == significandBound / 2 && leastExponent < x.exponent
  { low := if narrow then 4 * m - 1 else 4 * m - 2
    value := 4 * m
    high := 4 * m + 2
    unit := x.exponent - 2
    closed := m % 2 == 0 }

/-- `a * 2 ^ unit` and `10 ^ power`, over one denominator. -/
def aligned (a : Nat) (unit power : Int) : Nat × Nat :=
  let (a, b) : Nat × Nat := match unit with
    | .ofNat k => (a * Nat.pow 2 k, 1)
    | .negSucc k => (a, Nat.pow 2 (k + 1))
  match power with
  | .ofNat k => (a, b * Nat.pow 10 k)
  | .negSucc k => (a * Nat.pow 10 (k + 1), b)

/-- The largest `e` with `10 ^ e ≤ num / den`, for a positive ratio. -/
def floorLog10 (num den : Nat) : Int :=
  if den ≤ num then (Nat.toDigits 10 (num / den)).length - 1
  else
    match (List.range 400).find? fun j => den ≤ num * Nat.pow 10 (j + 1) with
    | some j => -((j : Int) + 1)
    | none => 0

/-- Whether `digits * 10 ^ power` lies in the span. -/
def Span.holds (s : Span) (digits : Nat) (power : Int) : Bool :=
  let (low, unit) := aligned s.low s.unit power
  let (high, _) := aligned s.high s.unit power
  if s.closed then low ≤ digits * unit && digits * unit ≤ high
  else low < digits * unit && digits * unit < high

/-- The decimal on the grid of `10 ^ power` that identifies the number, if there is one: of two,
the nearer, and of two equally near the even one. -/
def Span.onGrid? (s : Span) (power : Int) : Option Nat :=
  let (value, unit) := aligned s.value s.unit power
  let below := value / unit
  match s.holds below power, s.holds (below + 1) power with
  | true, true =>
    let r := value % unit
    if 2 * r < unit then some below
    else if unit < 2 * r then some (below + 1)
    else if below % 2 = 0 then some below else some (below + 1)
  | true, false => some below
  | false, true => some (below + 1)
  | false, false => none

/-- Drop the zeros at the end of a digit sequence, counting them. -/
def dropZeros (digits : List Char) : List Char × Nat :=
  let kept := (digits.reverse.dropWhile (· == '0')).reverse
  (kept, digits.length - kept.length)

/-- The digits of a positive number and the power of ten of the last one. -/
def shortestDigits (x : Binary64) : List Char × Int :=
  let s := x.span
  let top := floorLog10 x.ratio.1 x.ratio.2
  let grids := (List.range 18).map fun (n : Nat) => top - (n : Int)
  match grids.findSome? fun power => (s.onGrid? power).map fun d => (d, power) with
  | some (digits, power) =>
    let (kept, zeros) := dropZeros (Nat.toDigits 10 digits)
    (kept, power + zeros)
  | none => (Nat.toDigits 10 x.significand, 0)

/-! ### The layout -/

/-- How the digits of a number are laid out. -/
structure Layout where
  /-- The least power of ten of the first digit that is written positionally. -/
  leastPositional : Int
  /-- The greatest power of ten of the first digit that is written positionally. -/
  greatestPositional : Int

/-- Numbers in documents: positional from `0.00001` to below `10 ^ 16`, and otherwise with a
signed exponent. -/
def documentLayout : Layout := ⟨-5, 15⟩

/-- Digits with a point after the first `k`, padded with zeros so that a digit stands on each
side. -/
def positional (digits : List Char) (k : Int) : List Char :=
  match k with
  | .ofNat k =>
    let whole := digits.take k ++ List.replicate (k - digits.length) '0'
    let part := digits.drop k
    (if whole.isEmpty then ['0'] else whole) ++ '.' :: (if part.isEmpty then ['0'] else part)
  | .negSucc k => '0' :: '.' :: List.replicate (k + 1) '0' ++ digits

/-- Digits with a point after the first of them, if there are more, and an exponent. -/
def withExponent (digits : List Char) (exponent : Int) : List Char :=
  let mantissa := match digits with
    | d :: e :: rest => d :: '.' :: e :: rest
    | ds => ds
  mantissa ++ 'e' :: (if exponent < 0 then '-' else '+') :: Nat.toDigits 10 exponent.natAbs

def toText (x : Binary64) : String :=
  let body :=
    if x.isZero then ['0', '.', '0']
    else
      let (digits, power) := x.shortestDigits
      let first := power + digits.length - 1
      if documentLayout.leastPositional ≤ first && first ≤ documentLayout.greatestPositional
      then positional digits (first + 1)
      else withExponent digits first
  String.ofList (if x.negative then '-' :: body else body)

end Binary64
end GatewayRegistry
