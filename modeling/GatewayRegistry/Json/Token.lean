import GatewayRegistry.Json.Basic
import GatewayRegistry.Text.Whole

/-!
# The tokens of a structured document

`Token.ofChars?` cuts the characters of a document into brackets, punctuation and scalar values, or
fails where no token can start or one is left unfinished. Blanks (the space, the tab, the line
feed and the carriage return, no others) may stand between tokens.

* A text runs to its closing quotation mark. Control characters may occur only escaped, and an
  escape by number stands for one code unit of sixteen bits, so a pair of surrogates makes one
  character and a lone surrogate makes none.
* A number has no plus sign in front, no leading zeros, and at least one digit on either side of
  its point. It is a whole number if it has neither point nor exponent and fits into 64 bits, with
  or without a sign; every other number is a floating-point number, and so is `-0`.
-/

namespace GatewayRegistry
namespace Json

/-- A token: punctuation, or a value that is neither an array nor an object. -/
inductive Token where
  | openArray
  | closeArray
  | openObject
  | closeObject
  | comma
  | colon
  | scalar (value : Json)

namespace Token

/-! ### Texts -/

/-- The value of a hexadecimal digit of either case. -/
def hexValue? (c : Char) : Option Nat :=
  if '0' ≤ c ∧ c ≤ '9' then some (c.toNat - 48)
  else if 'a' ≤ c ∧ c ≤ 'f' then some (c.toNat - 87)
  else if 'A' ≤ c ∧ c ≤ 'F' then some (c.toNat - 55)
  else none

def unit? (a b c d : Char) : Option Nat := do
  let a ← hexValue? a
  let b ← hexValue? b
  let c ← hexValue? c
  let d ← hexValue? d
  pure (4096 * a + 256 * b + 16 * c + d)

/-- The first unit of a pair that makes one character. -/
def isHighSurrogate (u : Nat) : Bool := 0xD800 ≤ u && u ≤ 0xDBFF

/-- The second unit of a pair that makes one character. -/
def isLowSurrogate (u : Nat) : Bool := 0xDC00 ≤ u && u ≤ 0xDFFF

/-- The character made by a pair of units. -/
def ofPair (high low : Nat) : Char :=
  Char.ofNat (0x10000 + 0x400 * (high - 0xD800) + (low - 0xDC00))

/-- The character that a backslash and one further character stand for. -/
def shortEscape? : Char → Option Char
  | '"' => some '"'
  | '\\' => some '\\'
  | '/' => some '/'
  | 'b' => some (Char.ofNat 8)
  | 'f' => some (Char.ofNat 12)
  | 'n' => some '\n'
  | 'r' => some '\r'
  | 't' => some '\t'
  | _ => none

/-- The character that an escape stands for, and what follows it; the backslash is already gone. -/
def escape? : List Char → Option (Char × List Char)
  | 'u' :: a :: b :: c :: d :: rest =>
    match unit? a b c d with
    | none => none
    | some u =>
      if isHighSurrogate u then
        match rest with
        | '\\' :: 'u' :: e :: f :: g :: h :: rest =>
          match unit? e f g h with
          | none => none
          | some v => if isLowSurrogate v then some (ofPair u v, rest) else none
        | _ => none
      else if isLowSurrogate u then none
      else some (Char.ofNat u, rest)
  | c :: rest => (shortEscape? c).map fun c => (c, rest)
  | [] => none

/-- An escape takes at least one character. -/
theorem length_lt_of_escape? {cs rest : List Char} {c : Char} (h : escape? cs = some (c, rest)) :
    rest.length < cs.length := by
  unfold escape? at h
  repeat' split at h
  all_goals simp_all [Option.map_eq_some_iff]
  all_goals grind

/-- The characters of a text up to its closing quotation mark, and what follows the mark. -/
def text? (cs : List Char) : Option (List Char × List Char) :=
  match cs with
  | [] => none
  | '"' :: rest => some ([], rest)
  | '\\' :: rest =>
    match _h : escape? rest with
    | none => none
    | some (c, rest) => (text? rest).map fun (text, rest) => (c :: text, rest)
  | c :: rest =>
    if c.toNat < 32 then none else (text? rest).map fun (text, rest) => (c :: text, rest)
termination_by cs.length
decreasing_by
  · have := length_lt_of_escape? _h; simp only [List.length_cons]; omega
  · simp only [List.length_cons]; omega

/-- A text takes at least its closing quotation mark. -/
theorem length_lt_of_text? {cs text rest : List Char} (h : text? cs = some (text, rest)) :
    rest.length < cs.length := by
  fun_induction text? cs generalizing text rest with
  | case1 => simp at h
  | case2 => simp_all
  | case3 => simp at h
  | case4 _ _ _ he ih =>
    obtain ⟨⟨_, _⟩, ht, heq⟩ := Option.map_eq_some_iff.1 h
    have := ih ht
    have := length_lt_of_escape? he
    simp only [Prod.mk.injEq] at heq
    simp only [List.length_cons, ← heq.2]
    omega
  | case5 => simp at h
  | case6 _ _ _ _ _ ih =>
    obtain ⟨⟨_, _⟩, ht, heq⟩ := Option.map_eq_some_iff.1 h
    have := ih ht
    simp only [Prod.mk.injEq] at heq
    simp only [List.length_cons, ← heq.2]
    omega

/-! ### Numbers -/

/-- Characters that can occur in a number. -/
def isNumeric (c : Char) : Bool :=
  c.isDigit || c == '-' || c == '+' || c == '.' || c == 'e' || c == 'E'

/-- The parts of a written number. -/
structure Numeral where
  negative : Bool
  whole : List Char
  /-- The digits after the point; none where there is no point. -/
  fraction : Option (List Char)
  /-- The exponent; none where it is not written. -/
  exponent : Option Int

/-- A sequence of digits, read as one number. -/
def digitsValue (ds : List Char) : Nat := ds.foldl (fun n c => 10 * n + (c.toNat - 48)) 0

/-- The exponent after its letter. -/
def exponent? (cs : List Char) : Option Int :=
  let (negative, digits) := match cs with
    | '+' :: ds => (false, ds)
    | '-' :: ds => (true, ds)
    | ds => (false, ds)
  if digits.isEmpty || !digits.all Char.isDigit then none
  else some (if negative then -digitsValue digits else digitsValue digits)

/-- Whether digits can stand before the point: at least one, the first zero only alone. -/
def isWholePart : List Char → Bool
  | [] => false
  | ['0'] => true
  | '0' :: _ => false
  | _ => true

/-- The parts of a number, if its characters are one. -/
def numeral? (cs : List Char) : Option Numeral :=
  let (negative, body) := match cs with
    | '-' :: rest => (true, rest)
    | cs => (false, cs)
  let whole := body.takeWhile Char.isDigit
  if !isWholePart whole then none
  else
    let afterWhole := body.drop whole.length
    let (fraction, tail) := match afterWhole with
      | '.' :: rest => (some (rest.takeWhile Char.isDigit), rest.dropWhile Char.isDigit)
      | rest => (none, rest)
    if fraction == some [] then none
    else match tail with
      | [] => some ⟨negative, whole, fraction, none⟩
      | c :: rest =>
        if c = 'e' || c = 'E' then
          (exponent? rest).map fun e => ⟨negative, whole, fraction, some e⟩
        else none

/-- The greatest whole number without a sign. -/
def greatestUnsigned : Nat := UInt64.size - 1

/-- Extend a digit sequence's value while it stays within 64 bits; the second part holds the
digits from the first one that does not fit. -/
def absorb (n : Nat) : List Char → Nat × List Char
  | [] => (n, [])
  | c :: rest =>
    let extended := 10 * n + (c.toNat - 48)
    if greatestUnsigned < extended then (n, c :: rest) else absorb extended rest

/-- The value of a number. Digits beyond 64 bits are dropped: before the point each of them
counts as a power of ten, after the point it does not count. -/
def Numeral.value? (x : Numeral) : Option Json :=
  let (n, dropped) := absorb 0 x.whole
  let float (significand : Nat) (shift : Int) : Option Json :=
    (Binary64.ofDecimal significand shift).map fun v => .float (if x.negative then v.neg else v)
  match x.fraction, x.exponent, dropped with
  | none, none, [] =>
    if !x.negative then some (.int n)
    else if n = 0 || 9223372036854775808 < n then float n 0
    else some (.int (-n))
  | fraction, exponent, dropped =>
    let digits := fraction.getD []
    let (significand, unused) := absorb n digits
    let absorbed : Nat := digits.length - unused.length
    float significand ((dropped.length : Int) - absorbed + exponent.getD 0)

def number? (cs : List Char) : Option Json := (numeral? cs).bind Numeral.value?

/-! ### All tokens -/

/-- The characters that may stand between tokens. -/
def isBlank (c : Char) : Bool := c == ' ' || c == '\t' || c == '\n' || c == '\r'

def ofChars? (cs : List Char) : Option (List Token) :=
  match cs with
  | [] => some []
  | '[' :: rest => (ofChars? rest).map (.openArray :: ·)
  | ']' :: rest => (ofChars? rest).map (.closeArray :: ·)
  | '\x7b' :: rest => (ofChars? rest).map (.openObject :: ·)
  | '\x7d' :: rest => (ofChars? rest).map (.closeObject :: ·)
  | ',' :: rest => (ofChars? rest).map (.comma :: ·)
  | ':' :: rest => (ofChars? rest).map (.colon :: ·)
  | 'n' :: 'u' :: 'l' :: 'l' :: rest => (ofChars? rest).map (.scalar .null :: ·)
  | 't' :: 'r' :: 'u' :: 'e' :: rest => (ofChars? rest).map (.scalar (.bool true) :: ·)
  | 'f' :: 'a' :: 'l' :: 's' :: 'e' :: rest =>
    (ofChars? rest).map (.scalar (.bool false) :: ·)
  | '"' :: rest =>
    match _h : text? rest with
    | none => none
    | some (s, rest) => (ofChars? rest).map (.scalar (.str (String.ofList s)) :: ·)
  | c :: rest =>
    if isBlank c then ofChars? rest
    else if isNumeric c then do
      let value ← number? (c :: rest.takeWhile isNumeric)
      let tokens ← ofChars? (rest.dropWhile isNumeric)
      pure (.scalar value :: tokens)
    else none
termination_by cs.length
decreasing_by
  all_goals simp_wf
  all_goals try omega
  · have := length_lt_of_text? _h; omega
  · have := (List.dropWhile_sublist isNumeric (l := rest)).length_le; omega

end Token
end Json
end GatewayRegistry
