import GatewayRegistry.Json.Token

/-!
# Reading a structured document

The tokens of a document are taken one after the other by a machine whose state is the stack of
the arrays and objects that are still open, and what may come next (`Reading.take?`). A document
is one value with nothing after it. Of several members with one key the last one counts. Arrays
and objects may be open inside one another up to `deepestNesting`.

Together with `Json.Token` this is what is assumed of the JSON library that reads documents: what it
accepts, which value it makes of what it accepts, and that it keeps members in the order of their
keys. What it says about a document that it does not accept is left open. One key is special to
the library, the private `RawValue` by which it passes on a part of a document unread; it is not
treated here, and an object with this key is read like any other.
-/

namespace GatewayRegistry
namespace Json

/-- The greatest number of arrays and objects that may be open at one time. -/
def deepestNesting : Nat := 127

/-- An array or object that is still open; in an object, the key whose value is being read. -/
inductive Frame where
  /-- The items so far, the last one first. -/
  | array (items : List Json)
  | object (members : Members) (key : String)

/-- What may come next. -/
inductive Expecting where
  | value
  /-- A value, or the bracket that closes the empty array just opened. -/
  | firstItem
  /-- A key, or the brace that closes the empty object just opened. -/
  | firstKey
  | key (members : Members)
  | colon (members : Members) (key : String)
  /-- A comma or the closing bracket of an array. -/
  | afterItem (items : List Json)
  /-- A comma or the closing brace of an object. -/
  | afterMember (members : Members)
  /-- Nothing: the document is complete. -/
  | nothing (result : Json)

/-- The state of the machine: the open arrays and objects around the present place, the innermost
first, and what may come next. -/
structure Reading where
  around : List Frame
  expecting : Expecting

namespace Reading

/-- Before the first token. -/
def start : Reading := ⟨[], .value⟩

/-- Put a complete value where one was being read. -/
def deliver (value : Json) : List Frame → Reading
  | [] => ⟨[], .nothing value⟩
  | .array items :: around => ⟨around, .afterItem (value :: items)⟩
  | .object members key :: around => ⟨around, .afterMember (members.insert key value)⟩

/-- Begin a value: give a scalar, or open an array or object. -/
def begin? (around : List Frame) : Token → Option Reading
  | .scalar v => some (deliver v around)
  | .openArray => if around.length < deepestNesting then some ⟨around, .firstItem⟩ else none
  | .openObject => if around.length < deepestNesting then some ⟨around, .firstKey⟩ else none
  | _ => none

def take? (r : Reading) (t : Token) : Option Reading :=
  match r.expecting, t with
  | .value, t => begin? r.around t
  | .firstItem, .closeArray => some (deliver (.arr []) r.around)
  | .firstItem, t => begin? (.array [] :: r.around) t
  | .afterItem items, .comma => some ⟨.array items :: r.around, .value⟩
  | .afterItem items, .closeArray => some (deliver (.arr items.reverse) r.around)
  | .firstKey, .closeObject => some (deliver (.obj []) r.around)
  | .firstKey, .scalar (.str key) => some ⟨r.around, .colon [] key⟩
  | .key members, .scalar (.str key) => some ⟨r.around, .colon members key⟩
  | .colon members key, .colon => some ⟨.object members key :: r.around, .value⟩
  | .afterMember members, .comma => some ⟨r.around, .key members⟩
  | .afterMember members, .closeObject => some (deliver (.obj members) r.around)
  | _, _ => none

def result? (r : Reading) : Option Json :=
  match r.expecting with
  | .nothing v => some v
  | _ => none

end Reading

def ofTokens? (ts : List Token) : Option Json :=
  (ts.foldlM Reading.take? Reading.start).bind Reading.result?

def parse? (text : String) : Option Json :=
  (Token.ofChars? text.toList).bind ofTokens?

/-- The object a document writes down; none where it writes down any other value. -/
def parseObject? (text : String) : Option Members :=
  (parse? text).bind Json.asObject?

end Json
end GatewayRegistry
