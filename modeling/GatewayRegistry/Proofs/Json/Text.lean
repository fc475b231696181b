import GatewayRegistry.Json.Printer
import GatewayRegistry.Json.Reader

/-!
# Texts are read back as they were written

Between its quotation marks a text is written character by character, and whatever stands for a
character is read back as that character (`Token.text?_escapedChar`). So a text is read back as it
was written, whatever characters it has and whatever comes after it (`Token.ofChars?_textChars`),
and so is an object with one member that is a text (`parse?_compact_single`).
-/

namespace GatewayRegistry
namespace Json
namespace Token

variable {c : Char} {cs rest : List Char}

/-! ## Characters

There are three kinds of characters: those with a short escape, other control characters, which are
written as four digits, and all the rest, which stand for themselves. -/

/-- The number of a control character, in four hexadecimal digits. -/
theorem unit?_hexDigit :
    ∀ n < 32, unit? '0' '0' (hexDigit (n / 16)) (hexDigit (n % 16)) = some n := by
  decide

/-- Control characters are no surrogates. -/
theorem escape?_control (h : c.toNat < 32) (cs : List Char) :
    escape? ('u' :: '0' :: '0' :: hexDigit (c.toNat / 16) :: hexDigit (c.toNat % 16) :: cs) =
      some (c, cs) := by
  have hhigh : isHighSurrogate c.toNat = false := by
    simp only [isHighSurrogate, Bool.and_eq_false_iff, decide_eq_false_iff_not]
    omega
  have hlow : isLowSurrogate c.toNat = false := by
    simp only [isLowSurrogate, Bool.and_eq_false_iff, decide_eq_false_iff_not]
    omega
  simp only [escape?, unit?_hexDigit c.toNat h, hhigh, hlow, Char.ofNat_toNat]
  rfl

/-- An escape stands for one character. -/
theorem text?_escape (h : escape? cs = some (c, rest)) :
    text? ('\\' :: cs) = (text? rest).map fun (text, rest) => (c :: text, rest) := by
  rw [text?]
  split
  · next hnone =>
      rw [h] at hnone
      cases hnone
  · next hsome =>
      rw [h] at hsome
      cases hsome
      rfl

/-- A character without an escape stands for itself. -/
theorem text?_plain (hquote : c ≠ '"') (hslash : c ≠ '\\') (hplain : 32 ≤ c.toNat) (cs : List Char) :
    text? (c :: cs) = (text? cs).map fun (text, rest) => (c :: text, rest) := by
  rw [text?]
  · rw [if_neg (by omega)]
  · exact hquote
  · exact hslash

/-- A character of a text, as it is written, is read as that character. -/
theorem text?_escapedChar (c : Char) (cs : List Char) :
    text? (escapedChar c ++ cs) = (text? cs).map fun (text, rest) => (c :: text, rest) := by
  unfold escapedChar
  split
  case h_6 _ hquote hslash _ _ _ =>
    split
    · next hback =>
        have hc : c = Char.ofNat 8 := by rw [← hback, Char.ofNat_toNat]
        rw [hc]
        exact text?_escape rfl
    · split
      · next hfeed =>
          have hc : c = Char.ofNat 12 := by rw [← hfeed, Char.ofNat_toNat]
          rw [hc]
          exact text?_escape rfl
      · split
        · next hcontrol => exact text?_escape (escape?_control hcontrol cs)
        · exact text?_plain hquote hslash (by omega) cs
  all_goals exact text?_escape rfl -- the characters with an escape of their own

/-! ## Texts -/

theorem text?_flatMap (text rest : List Char) :
    text? (text.flatMap escapedChar ++ '"' :: rest) = some (text, rest) := by
  induction text with
  | nil => rw [List.flatMap_nil, List.nil_append, text?]
  | cons c text ih =>
      rw [List.flatMap_cons, List.append_assoc, text?_escapedChar, ih]
      rfl

/-- A text is one token. -/
theorem ofChars?_textChars (s : String) (rest : List Char) :
    ofChars? (textChars s ++ rest) = (ofChars? rest).map (.scalar (.str s) :: ·) := by
  have htext : text? (s.toList.flatMap escapedChar ++ (['"'] ++ rest)) = some (s.toList, rest) :=
    text?_flatMap s.toList rest
  show ofChars? ('"' :: (s.toList.flatMap escapedChar ++ ['"']) ++ rest) = _
  rw [List.cons_append, List.append_assoc, ofChars?]
  split
  · next hnone =>
      rw [htext] at hnone
      cases hnone
  · next hsome =>
      rw [htext] at hsome
      cases hsome
      rw [String.ofList_toList]

end Token

/-- An object with one member that is a text. -/
theorem parse?_compact_single (key text : String) :
    parse? (Json.obj [(key, .str text)]).compact = some (.obj [(key, .str text)]) := by
  have htokens : Token.ofChars? (Json.obj [(key, .str text)]).compactChars =
      some [.openObject, .scalar (.str key), .colon, .scalar (.str text), .closeObject] := by
    show Token.ofChars? ('\x7b' :: ((textChars key ++ ':' :: textChars text) ++ ['\x7d'])) = _
    rw [Token.ofChars?, List.append_assoc, Token.ofChars?_textChars, List.cons_append, Token.ofChars?,
      Token.ofChars?_textChars, Token.ofChars?, Token.ofChars?]
    rfl
  unfold parse? compact
  rw [String.toList_ofList, htokens]
  rfl

end Json
end GatewayRegistry
