/-!
# Percent-encoding

Some texts give a byte by a percent sign and two hexadecimal digits. `percentDecode` puts the bytes
in place of such groups. A percent sign that no two digits follow stands for itself.
-/

namespace GatewayRegistry
namespace Text

/-- The value of a hexadecimal digit. -/
def hexDigitValue? (b : UInt8) : Option UInt8 :=
  if 0x30 ≤ b ∧ b ≤ 0x39 then some (b - 0x30)
  else if 0x41 ≤ b ∧ b ≤ 0x46 then some (b - 0x37)
  else if 0x61 ≤ b ∧ b ≤ 0x66 then some (b - 0x57)
  else none

/-- The byte that two leading hexadecimal digits give. -/
def hexPair? : List UInt8 → Option UInt8
  | high :: low :: _ => do return 16 * (← hexDigitValue? high) + (← hexDigitValue? low)
  | _ => none

/-- Put bytes in place of the groups that give them. -/
def percentDecode : List UInt8 → List UInt8
  | [] => []
  | b :: rest =>
    if b = 0x25 then match hexPair? rest with
      | some value => value :: percentDecode (rest.drop 2)
      | none => b :: percentDecode rest
    else b :: percentDecode rest
termination_by bs => bs.length
decreasing_by all_goals simp only [List.length_cons, List.length_drop]; omega

end Text
end GatewayRegistry
