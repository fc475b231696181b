import GatewayRegistry.Store.Database

/-!
# Storage backends in the store

Backends for command logs and backends for session recordings are kept in separate tables. In each
a backend has an id and a name of its own, and is looked up by its name.
-/

namespace GatewayRegistry

namespace Store

def backend? (s : Store) (kind : BackendKind) (name : String) : Option StorageBackend :=
  (s.backends kind).find? (·.name == name)

def insertBackend (kind : BackendKind) (b : StorageBackend) (s : Store) : Except StoreError Store :=
  let rows := s.backends kind
  if rows.any (·.name == b.name) then .error (.rejected (.duplicate (.backendName kind)))
  else if rows.any (·.id == b.id) then .error (.rejected (.duplicate (.backendId kind)))
  else .ok (s.setBackends kind (rows ++ [b]))

end Store

namespace Database

/-- The backend of a kind with a name, if there is one. -/
def findBackend (kind : BackendKind) (name : String) : Call (Option StorageBackend) :=
  query fun s => .ok (s.backend? kind name)

def createBackend (kind : BackendKind) (id name type options : String) (now : Int64) :
    Call StorageBackend := do
  execute (Store.insertBackend kind ⟨id, name, type, options, now⟩)
  match ← findBackend kind name with
  | some b => return b
  | none => throw (.notFound (.backend name))

end Database
end GatewayRegistry
