import GatewayRegistry.Text.Query

/-!
# Names of files that are URIs

A name that begins with `file:` is a URI. Its path is the name of the file; after a question mark
it may say in which way to open the file, and what follows a number sign is left out. An encoded
zero byte ends the path, the name or the value that it stands in.
-/

namespace GatewayRegistry

/-- Why a URI does not name a file. -/
inductive FileUriError where
  | foreignAuthority (authority : String)
  | unknownMode (parameter value : String)
  /-- The value asks for more than one before it. -/
  | modeNotAllowed (value : String)
  | unknownDriver (name : String)
  deriving DecidableEq, Repr

namespace FileUriError

def code : FileUriError → Nat
  | modeNotAllowed _ => 3
  | _ => 1

def reason : FileUriError → String
  | foreignAuthority authority => "invalid uri authority: " ++ authority
  | unknownMode parameter value => "no such " ++ parameter ++ " mode: " ++ value
  | modeNotAllowed value => "access mode not allowed: " ++ value
  | unknownDriver name => "no such vfs: " ++ name

end FileUriError

/-- In which way a file is opened. -/
inductive FileAccess where
  | readOnly | readWrite
  /-- To read and write, and to be made if it is not there. -/
  | create
  /-- Not at all: what would be in the file is in memory. -/
  | memory
  deriving DecidableEq, Repr

namespace FileAccess

def all : List FileAccess := [.readOnly, .readWrite, .create, .memory]

def toText : FileAccess → String
  | readOnly => "ro"
  | readWrite => "rw"
  | create => "rwc"
  | memory => "memory"

/-- How much a way permits. -/
def rank : FileAccess → Nat
  | readOnly => 1
  | readWrite => 2
  | create => 3
  | memory => 4

end FileAccess

/-- What a URI says about a file. -/
structure FileUri where
  name : String
  access : FileAccess := .create
  driver : String := "unix"
  deriving DecidableEq, Repr

namespace FileUri

def drivers : List String := ["unix", "unix-none", "unix-dotfile", "unix-excl", "memdb"]

/-- The text that a part of a URI stands for. -/
def decodePart (bs : List UInt8) : String :=
  Text.decodeLossy ((Text.percentDecode bs).takeWhile (· != 0))

/-- Apply a parameter. One that says nothing about opening is passed over. -/
def apply (uri : FileUri) (name value : String) : Except FileUriError FileUri :=
  if name = "vfs" then .ok { uri with driver := value }
  else if name = "cache" then
    if ["shared", "private"].contains value then .ok uri else .error (.unknownMode "cache" value)
  else if name = "mode" then
    match FileAccess.all.find? (·.toText == value) with
    | none => .error (.unknownMode "access" value)
    | some access =>
      if access = .memory ∨ access.rank ≤ uri.access.rank then .ok { uri with access := access }
      else .error (.modeNotAllowed value)
  else .ok uri

/-- The path of a URI, whose authority must be this host. -/
def afterAuthority (bs : List UInt8) : Except FileUriError (List UInt8) :=
  match bs with
  | 0x2f :: 0x2f :: rest =>
    let authority := Text.decodeLossy (rest.takeWhile (· != 0x2f))
    if authority = "" ∨ authority = "localhost" then .ok (rest.dropWhile (· != 0x2f))
    else .error (.foreignAuthority authority)
  | _ => .ok bs

/-- Read what follows `file:` in a URI. -/
def parse (text : String) : Except FileUriError FileUri := do
  let bs ← afterAuthority (Text.bytes text)
  let (path, query) := Text.cutAtByte 0x3f (bs.takeWhile (· != 0x23))
  let given := (Text.parameters query).map fun (name, value) => (decodePart name, decodePart value)
  let uri ← (given.filter (·.1 != "")).foldlM (fun (uri : FileUri) (name, value) =>
    uri.apply name value) { name := decodePart path }
  if drivers.contains uri.driver then return uri else throw (.unknownDriver uri.driver)

/-- What a name says about a file, a URI or not. -/
def ofName (name : String) : Except FileUriError FileUri :=
  if name.startsWith "file:" then parse (name.drop 5).toString else .ok { name := name }

end FileUri
end GatewayRegistry
