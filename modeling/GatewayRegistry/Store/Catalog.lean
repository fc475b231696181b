import GatewayRegistry.Store.Terminals

/-!
# The protocol catalog in the store

The catalog has at most one entry for each name and port. Terminals refer to the entries they
serve, and the entries of a terminal are always replaced as a whole. Lists of entries are ordered
by name and then by port.
-/

namespace GatewayRegistry

namespace ProtocolRow

def readName (row : ProtocolRow) : Except StoreError ProtocolName :=
  match ProtocolName.ofText? row.name with
  | some name => .ok name
  | none => .error (.query (.unreadable .protocolName))

def read (row : ProtocolRow) : Except StoreError Protocol := do
  let name ← row.readName
  let port ← readPort .protocolPort row.port
  return ⟨row.id, name, port, row.builtin⟩

/-- Whether a row is about a name and a port. -/
def isFor (row : ProtocolRow) (name : String) (port : Int) : Bool :=
  row.name == name && row.port == port

/-- Whether a row may stand before another in a list. -/
def before (a b : ProtocolRow) : Bool :=
  if a.name == b.name then decide (a.port ≤ b.port) else decide (a.name < b.name)

end ProtocolRow

/-! ### Statements -/

namespace Store

def protocolRow? (s : Store) (name : String) (port : Int) : Option ProtocolRow :=
  s.protocols.rows.find? (·.isFor name port)

/-- Insert a catalog row unless there is one for the name and the port. The number for the row is
given out in any case. -/
def insertProtocolIfAbsent (name : String) (port : Int) (builtin : Bool) (s : Store) :
    Except StoreError Store :=
  if port < 1 ∨ 65535 < port then .error (.rejected .portOutOfRange)
  else if (s.protocolRow? name port).isSome then .ok { s with protocols := s.protocols.skip }
  else .ok { s with protocols := s.protocols.insert fun id => ⟨id, name, port, builtin⟩ }

/-- Make a terminal serve a catalog entry, unless it does already. -/
def insertProtocolLink (link : ProtocolLink) (s : Store) : Except StoreError Store :=
  if s.terminalProtocols.contains link then .ok s
  else if !s.hasTerminal link.terminalId || !s.hasProtocol link.protocolId then
    .error (.rejected .dangling)
  else .ok { s with terminalProtocols := s.terminalProtocols ++ [link] }

def replaceProtocols (terminalId : String) (ids : List Int) (s : Store) : Except StoreError Store :=
  ids.foldlM (fun s id => s.insertProtocolLink ⟨terminalId, id⟩)
    { s with terminalProtocols := s.terminalProtocols.filter (·.terminalId != terminalId) }

/-- The rows of all entries in the order of lists. -/
def orderedProtocols (s : Store) : List ProtocolRow := s.protocols.rows.mergeSort ProtocolRow.before

/-- The rows of the entries that a terminal serves, in the order of lists. -/
def servedProtocols (s : Store) (terminalId : String) : List ProtocolRow :=
  s.orderedProtocols.filter fun row => s.terminalProtocols.contains ⟨terminalId, row.id⟩

end Store

/-! ### Calls -/

namespace Database

def findProtocol (name : ProtocolName) (port : UInt16) : Call Protocol :=
  query fun s => match s.protocolRow? name.toText port.toNat with
    | some row => row.read
    | none => .error (.notFound (.protocol name port))

/-- Make sure that there is a catalog entry for a protocol on a port; a new one is built-in. -/
def ensureProtocol (name : ProtocolName) (port : UInt16) : Call Unit :=
  execute (Store.insertProtocolIfAbsent name.toText port.toNat true)

/-- The catalog entry for a protocol on a port, which is created if there is none. -/
def getOrCreateProtocol (name : ProtocolName) (port : UInt16) : Call Protocol := do
  ensureProtocol name port
  findProtocol name port

/-- The catalog entries that are asked for, each once and in the order in which they are first asked
for. Requests that ask for nothing are passed over. -/
def getOrCreateProtocols (requests : List ProtocolEntry) : Call (List Protocol) :=
  requests.foldlM (fun found request =>
    match request.resolve? with
    | none => return found
    | some (name, port) => do
      let p ← getOrCreateProtocol name port
      return if found.any (·.id == p.id) then found else found ++ [p]) []

def listProtocols : Call (List Protocol) :=
  query fun s => s.orderedProtocols.mapM ProtocolRow.read

def replaceProtocols (terminalId : String) (ids : List Int) : Call Unit :=
  execute (Store.replaceProtocols terminalId ids)

def terminalProtocols (terminalId : String) : Call (List Protocol) :=
  query fun s => (s.servedProtocols terminalId).mapM ProtocolRow.read

end Database
end GatewayRegistry
