import GatewayRegistry.Text.Percent
import GatewayRegistry.Text.Utf8

/-!
# Parameters in a text

A list of parameters is written with an ampersand between parameters and an equals sign between the
name of a parameter and its value.
-/

namespace GatewayRegistry
namespace Text

/-- The parts of bytes between the places where a byte stands. -/
def splitAtByte (separator : UInt8) : List UInt8 → List (List UInt8)
  | [] => [[]]
  | b :: bs =>
    if b = separator then [] :: splitAtByte separator bs
    else match splitAtByte separator bs with
      | part :: parts => (b :: part) :: parts
      | [] => [[b]]

/-- What stands before a byte, and what stands behind the first one of it. -/
def cutAtByte (separator : UInt8) (bs : List UInt8) : List UInt8 × List UInt8 :=
  (bs.takeWhile (· != separator), (bs.dropWhile (· != separator)).drop 1)

/-- The names and values of parameters, as they are written. Nothing between two ampersands is no
parameter. -/
def parameters (bs : List UInt8) : List (List UInt8 × List UInt8) :=
  ((splitAtByte 0x26 bs).filter (!·.isEmpty)).map (cutAtByte 0x3d)

/-- A name or a value as it is written in a form, with a plus sign for every blank. -/
def decodeFormText (bs : List UInt8) : String :=
  decodeLossy (percentDecode (bs.map fun b => if b = 0x2b then 0x20 else b))

/-- The parameters written in a form. -/
def formParameters (text : String) : List (String × String) :=
  (parameters (bytes text)).map fun (name, value) => (decodeFormText name, decodeFormText value)

end Text
end GatewayRegistry
