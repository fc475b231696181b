import GatewayRegistry.Json.Decode

/-!
# The status of a terminal

Exactly one label applies to a terminal. Four facts decide it, and the first rule that applies
gives the label: a terminal that is not accepted, one that is deleted, one whose account is not
enabled, one without a recent heartbeat, and any other.
-/

namespace GatewayRegistry

inductive StatusLabel where
  | notAccepted | deleted | disabled | offline | active
  deriving DecidableEq, Repr

/-- The facts that decide a label. -/
structure StatusFlags where
  accepted : Bool
  deleted : Bool
  /-- A service account is linked and enabled. -/
  active : Bool
  /-- A heartbeat was received recently. -/
  alive : Bool
  deriving DecidableEq, Repr

namespace StatusLabel

/-- The label that facts decide. -/
def ofFlags (flags : StatusFlags) : StatusLabel :=
  if !flags.accepted then .notAccepted
  else if flags.deleted then .deleted
  else if !flags.active then .disabled
  else if !flags.alive then .offline
  else .active

def all : List StatusLabel := [.notAccepted, .deleted, .disabled, .offline, .active]

def toText : StatusLabel → String
  | .notAccepted => "NotAccepted"
  | .deleted => "Deleted"
  | .disabled => "Disabled"
  | .offline => "Offline"
  | .active => "Active"

/-- A label as a structured value: its text. -/
def encode (l : StatusLabel) : Json := .str l.toText

def decode : Decoder StatusLabel := Decode.variant (all.map fun l => (l.toText, l))

end StatusLabel
end GatewayRegistry
