/-!
# Finite binary floating-point numbers of 64 bits

A `Binary64` is a sign, a significand and an exponent, standing for `± significand * 2 ^ exponent`.
The numbers of the format have a significand below `2 ^ 53`, an exponent from -1074 to 971, and the
smallest exponent that leaves their value unchanged as a whole significand.

Arithmetic is exact on the ratio of two natural numbers and rounds once, to the nearest number of
the format, a tie going to the even significand (`Binary64.ofRatio`). Nothing here is an estimate,
so every answer can be computed inside a proof.
-/

namespace GatewayRegistry

/-- A finite number of the format. -/
structure Binary64 where
  negative : Bool
  significand : Nat
  exponent : Int
  deriving DecidableEq, Repr, Inhabited

namespace Binary64

/-- Significands are below this bound, which is `2 ^ 53`. -/
def significandBound : Nat := 9007199254740992

/-- The exponent of the numbers next to zero. -/
def leastExponent : Int := -1074

/-- The exponent of the largest numbers. -/
def greatestExponent : Int := 971

def zero (negative : Bool) : Binary64 := ⟨negative, 0, leastExponent⟩

def isZero (x : Binary64) : Bool := x.significand == 0

def neg (x : Binary64) : Binary64 := { x with negative := !x.negative }

/-! ### Rounding a ratio -/

/-- Round `num / den` to a whole number, a tie to the even one. -/
def roundHalfEven (num den : Nat) : Nat :=
  let q := num / den
  let r := num % den
  if 2 * r < den then q
  else if den < 2 * r then q + 1
  else if q % 2 = 0 then q else q + 1

/-- `num / den / 2 ^ e` as a ratio of natural numbers. -/
def scaled (num den : Nat) (e : Int) : Nat × Nat :=
  match e with
  | .ofNat k => (num, den * Nat.pow 2 k)
  | .negSucc k => (num * Nat.pow 2 (k + 1), den)

/-- The largest `e` with `2 ^ e ≤ num / den`, for a positive ratio. -/
def floorLog2 (num den : Nat) : Int :=
  let e : Int := (num.log2 : Int) - den.log2
  let (n, d) := scaled num den e
  if n < d then e - 1 else e

/-- The number of the format nearest to `num / den`; none where that is beyond the largest. -/
def ofRatio (num den : Nat) : Option Binary64 :=
  if num = 0 then some (zero false)
  else
    let e := max leastExponent (floorLog2 num den - 52)
    let (n, d) := scaled num den e
    let m := roundHalfEven n d
    let (m, e) := if m = significandBound then (significandBound / 2, e + 1) else (m, e)
    if greatestExponent < e then none else some ⟨false, m, e⟩

/-- The size of a number as a ratio of natural numbers. -/
def ratio (x : Binary64) : Nat × Nat :=
  match x.exponent with
  | .ofNat k => (x.significand * Nat.pow 2 k, 1)
  | .negSucc k => (x.significand, Nat.pow 2 (k + 1))

/-- The nearest number to the product of two sizes. -/
def mul (x y : Binary64) : Option Binary64 :=
  ofRatio (x.ratio.1 * y.ratio.1) (x.ratio.2 * y.ratio.2)

/-- The nearest number to the quotient of two sizes. -/
def div (x y : Binary64) : Option Binary64 :=
  ofRatio (x.ratio.1 * y.ratio.2) (x.ratio.2 * y.ratio.1)

/-! ### Reading a decimal

A decimal is read in two steps: its digits as a whole number, rounded once, and then a
multiplication or division by the power of ten, itself rounded, with a second rounding. The
result may therefore lie one step beside the nearest number; it is the result the format of the
stored documents fixes. -/

/-- The greatest power of ten that is used in one step. -/
def greatestPower : Nat := 308

/-- `10 ^ k`, rounded. -/
def powerOfTen (k : Nat) : Option Binary64 := ofRatio (Nat.pow 10 k) 1

/-- Divide by `10 ^ k`, in steps of the greatest power. -/
def shiftDown (x : Binary64) (k : Nat) : Option Binary64 :=
  if k ≤ greatestPower then do div x (← powerOfTen k)
  else if x.isZero then some x
  else do shiftDown (← div x (← powerOfTen greatestPower)) (k - greatestPower)
termination_by k
decreasing_by simp only [greatestPower] at *; omega

/-- The value of `digits * 10 ^ shift`; none where it is beyond the largest number. -/
def ofDecimal (digits : Nat) (shift : Int) : Option Binary64 := do
  let x ← ofRatio digits 1
  match shift with
  | .ofNat k =>
    if k ≤ greatestPower then mul x (← powerOfTen k)
    else if x.isZero then some x else none
  | .negSucc k => shiftDown x (k + 1)

end Binary64
end GatewayRegistry
