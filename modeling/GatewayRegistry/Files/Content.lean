/-!
# What lies at a path

A path may lead to a file or to a directory, or it may lead nowhere.
-/

namespace GatewayRegistry

/-- Why a path leads nowhere. -/
inductive PathFault where
  | absent
  /-- Some part of the path before its end is not a directory. -/
  | blocked
  | tooLong
  | nulByte
  deriving DecidableEq, Repr

def PathFault.message : PathFault → String
  | .absent => "No such file or directory (os error 2)"
  | .blocked => "Not a directory (os error 20)"
  | .tooLong => "File name too long (os error 36)"
  | .nulByte => "file name contained an unexpected NUL byte"

/-- What lies at a path. -/
inductive FileContent where
  | nothing (cause : PathFault)
  | directory
  | bytes (data : ByteArray)

/-- Why a file cannot be read as text. -/
inductive ReadError where
  | unreachable (cause : PathFault)
  | directory
  | notText
  deriving DecidableEq, Repr

def ReadError.message : ReadError → String
  | .unreachable cause => cause.message
  | .directory => "Is a directory (os error 21)"
  | .notText => "stream did not contain valid UTF-8"

def FileContent.text : FileContent → Except ReadError String
  | .nothing cause => .error (.unreachable cause)
  | .directory => .error .directory
  | .bytes data => match String.fromUTF8? data with
    | some s => .ok s
    | none => .error .notText

def FileContent.exists : FileContent → Bool
  | .nothing _ => false
  | .directory | .bytes _ => true

end GatewayRegistry
