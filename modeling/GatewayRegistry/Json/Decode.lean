import GatewayRegistry.Json.DecodeError

/-!
# Decoding structured values

A `Decoder` turns a value into a value of a Lean type or says why it cannot. Numbers, truth values
and texts are accepted only where the value is of exactly that kind and fits the type.

A record is decoded from an object or from an array of its fields in the order of declaration
(`Decode.record`), and is described once, as `Fields`, for both.

* In an object, unknown members are ignored. The members are looked at in the order of their keys,
  so of several members with a bad value the first in that order is reported; only then is a
  missing field, the first in order of declaration.
* In an array, the items are looked at from the left, and one that is left over at the end is
  reported last.

These rules, and the causes that are reported, are what is assumed of the JSON library. That `any`
takes every value as it is leaves out one case: for the library an object whose first key is its
private `RawValue` stands for a part of a document that is still to be read. Here it is an object.
-/

namespace GatewayRegistry

/-- A way to turn structured values into values of a type. -/
abbrev Decoder (α : Type) := Json → Except DecodeError α

namespace Decode

/-! ### Single values -/

def bool : Decoder Bool
  | .bool b => .ok b
  | v => .error (.wrongType v.found .boolean)

def string : Decoder String
  | .str s => .ok s
  | v => .error (.wrongType v.found .text)

/-- A text that names a file. -/
def path : Decoder String
  | .str s => .ok s
  | v => .error (.wrongType v.found .path)

/-- A whole number between two bounds. -/
def whole (least greatest : Int) (expected : Expected) : Decoder Int
  | .int n =>
    if least ≤ n ∧ n ≤ greatest then .ok n else .error (.wrongValue (.int n) expected)
  | v => .error (.wrongType v.found expected)

def uint16 : Decoder UInt16 := fun v => do
  return UInt16.ofNat (← whole 0 65535 (.unsigned 16) v).toNat

def uint32 : Decoder UInt32 := fun v => do
  return UInt32.ofNat (← whole 0 4294967295 (.unsigned 32) v).toNat

def uint64 : Decoder UInt64 := fun v => do
  return UInt64.ofNat (← whole 0 18446744073709551615 (.unsigned 64) v).toNat

/-- A whole number of 64 bits with a sign, as an unbounded number. -/
def signed64 : Decoder Int := whole (-9223372036854775808) 9223372036854775807 (.signed 64)

/-- A whole number of 64 bits with a sign. -/
def int64 : Decoder Int64 := fun v => do return Int64.ofInt (← signed64 v)

def any : Decoder Json := .ok

/-- A value, or null for none. -/
def nullable (decode : Decoder α) : Decoder (Option α)
  | .null => .ok none
  | v => (decode v).map some

def list (decode : Decoder α) : Decoder (List α)
  | .arr items => items.mapM decode
  | v => .error (.wrongType v.found .sequence)

/-! ### Names out of a closed set -/

/-- The member of a closed set that has a name. -/
def lookUp (known : List (String × α)) (name : String) : Except DecodeError α :=
  match known.find? (·.1 == name) with
  | some (_, a) => .ok a
  | none => .error (.unknownVariant name (known.map (·.1)))

/-- A name out of a closed set, given as a text or as the key of an object whose only value is
null. -/
def variant (known : List (String × α)) : Decoder α
  | .str name => lookUp known name
  | .obj [(name, value)] => do
    let a ← lookUp known name
    match value with
    | .null => .ok a
    | v => .error (.wrongType v.found .unit)
  | .obj _ => .error (.wrongValue .map .singleKeyMap)
  | v => .error (.wrongType v.found .textOrMap)

/-! ### Records -/

/-- A description of the fields of a record from which a value of type `α` is made. -/
structure Fields (α : Type) where
  /-- Look at a member under some key, if it is one of the fields. -/
  check : String → Json → Except DecodeError Unit
  /-- Make the value from the members of an object. -/
  ofMembers : Members → Except DecodeError α
  /-- Make the value from the items of an array, leaving those that follow; the first argument is
  the error for a field that is missing. -/
  ofItems : DecodeError → List Json → Except DecodeError (α × List Json)

namespace Fields

def none (a : α) : Fields α := ⟨fun _ _ => .ok (), fun _ => .ok a, fun _ items => .ok (a, items)⟩

/-- The fields of one description followed by those of another. -/
def append (f : Fields (α → β)) (x : Fields α) : Fields β where
  check key value := do f.check key value; x.check key value
  ofMembers ms := do return (← f.ofMembers ms) (← x.ofMembers ms)
  ofItems missing items := do
    let (g, items) ← f.ofItems missing items
    let (a, items) ← x.ofItems missing items
    return (g a, items)

instance : Pure Fields := ⟨none⟩

instance : Seq Fields := ⟨fun f x => append f (x ())⟩

/-- One field; what its absence means may differ between objects and arrays. -/
def single (name : String) (decode : Decoder α) (absentMember : Except DecodeError α)
    (absentItem : DecodeError → Except DecodeError α) : Fields α where
  check key value := if key = name then (decode value).map fun _ => () else .ok ()
  ofMembers ms := match ms.get? name with
    | some v => decode v
    | Option.none => absentMember
  ofItems missing
    | [] => (absentItem missing).map fun a => (a, [])
    | v :: rest => (decode v).map fun a => (a, rest)

end Fields

def required (name : String) (decode : Decoder α) : Fields α :=
  .single name decode (.error (.missingField name)) .error

/-- A field that may be null, and that an object may leave out. -/
def optional (name : String) (decode : Decoder α) : Fields (Option α) :=
  .single name (nullable decode) (.ok none) .error

/-- A field that has a default. -/
def withDefault (name : String) (decode : Decoder α) (default : α) : Fields α :=
  .single name decode (.ok default) fun _ => .ok default

/-- A record with some name and number of fields. -/
def record (name : String) (count : Nat) (fields : Fields α) : Decoder α
  | .obj members => do
    members.forM fun (key, value) => fields.check key value
    fields.ofMembers members
  | .arr items => do
    let (a, rest) ← fields.ofItems (.wrongLength items.length (.recordOf name count)) items
    if rest.isEmpty then .ok a else .error (.wrongLength items.length .fewerItems)
  | v => .error (.wrongType v.found (.record name))

end Decode
end GatewayRegistry
