import GatewayRegistry.Proofs.Store.Table
import GatewayRegistry.Store.Backends
import GatewayRegistry.Store.Catalog

/-!
# What the tables promise

A store is `Consistent` if its keys are unique, its references refer to something, every terminal
and catalog row can be read, and its numbered tables are numbered upwards. The empty store is.
-/

namespace GatewayRegistry

/-! ## Rows that can be read -/

/-- The columns of a terminal row hold members of their types. -/
structure TerminalRow.Readable (row : TerminalRow) : Prop where
  type : ∃ type, TerminalType.ofText? row.type = some type
  sshPort : 0 ≤ row.sshPort ∧ row.sshPort < 65536
  httpPort : 0 ≤ row.httpPort ∧ row.httpPort < 65536

/-- The columns of a catalog row hold members of their types, and the port is not zero. -/
structure ProtocolRow.Readable (row : ProtocolRow) : Prop where
  name : ∃ name, ProtocolName.ofText? row.name = some name
  port : 1 ≤ row.port ∧ row.port ≤ 65535

/-- The name of a type is read back as the type. -/
@[simp] theorem TerminalType.ofText?_toText (type : TerminalType) :
    ofText? type.toText = some type := by
  cases type <;> decide

/-- The name of a protocol is read back as the protocol. -/
@[simp] theorem ProtocolName.ofText?_toText (name : ProtocolName) :
    ofText? name.toText = some name := by
  cases name <;> decide

/-- The texts of the names are all different. -/
theorem ProtocolName.toText_injective : Function.Injective toText := by
  intro a b h
  simpa using congrArg ofText? h

/-- What a new terminal brings along can be read back. -/
theorem TerminalRow.readable_ofNew (id : String) (new : NewTerminal) (accountId : Option String)
    (now : Int64) : (TerminalRow.ofNew id new accountId now).Readable where
  type := ⟨new.type, new.type.ofText?_toText⟩
  sshPort := by
    have hlt : new.sshPort.toNat < 65536 := new.sshPort.toNat_lt
    show (0 : Int) ≤ new.sshPort.toNat ∧ (new.sshPort.toNat : Int) < 65536
    omega
  httpPort := by
    have hlt : new.httpPort.toNat < 65536 := new.httpPort.toNat_lt
    show (0 : Int) ≤ new.httpPort.toNat ∧ (new.httpPort.toNat : Int) < 65536
    omega

/-- A catalog row that is made for a protocol on a port can be read back. -/
theorem ProtocolRow.readable_mk (id : Int) (name : ProtocolName) {port : UInt16}
    (port_pos : 1 ≤ port.toNat) (builtin : Bool) :
    (ProtocolRow.mk id name.toText port.toNat builtin).Readable where
  name := ⟨name, name.ofText?_toText⟩
  port := by
    have hlt : port.toNat < 65536 := port.toNat_lt
    show (1 : Int) ≤ port.toNat ∧ (port.toNat : Int) ≤ 65535
    omega

namespace Store

/-! ## Consistency

What the tables promise, in one structure: the constraints of the schema, and beyond them that every
row of a terminal or of the catalog can be read, since nothing else is ever written there. -/

/-- What the tables promise. -/
structure Consistent (s : Store) : Prop where
  -- keys
  accountIds : UniqueBy Account.id s.accounts
  usernames : UniqueBy Account.username s.accounts
  terminalIds : UniqueBy TerminalRow.id s.terminals
  terminalAccounts : UniqueWhereGiven TerminalRow.accountId s.terminals
  catalogKeys : UniqueBy (fun p : ProtocolRow => (p.name, p.port)) s.protocols.rows
  protocolLinks : UniqueBy (fun l : ProtocolLink => (l.terminalId, l.protocolId)) s.terminalProtocols
  domainIds : UniqueBy Domain.id s.domains
  domainNames : UniqueBy Domain.name s.domains
  domainLinks : UniqueBy (fun l : DomainLink => (l.terminalId, l.domainId)) s.terminalDomains
  sessionIds : UniqueBy Session.id s.sessions
  backendIds : ∀ kind, UniqueBy StorageBackend.id (s.backends kind)
  backendNames : ∀ kind, UniqueBy StorageBackend.name (s.backends kind)
  platformNames : UniqueBy Platform.name s.platforms.rows
  platformOffers : UniqueBy (fun p : PlatformProtocol => (p.platformId, p.name)) s.platformProtocols.rows
  assetIds : UniqueBy Asset.id s.assets
  assetOffers : UniqueBy (fun p : AssetProtocol => (p.assetId, p.name)) s.assetProtocols.rows
  -- references
  linkedAccounts : RefersWhereGiven TerminalRow.accountId s.terminals Account.id s.accounts
  servingTerminals : RefersTo ProtocolLink.terminalId s.terminalProtocols TerminalRow.id s.terminals
  servedProtocols : RefersTo ProtocolLink.protocolId s.terminalProtocols ProtocolRow.id s.protocols.rows
  reachingTerminals : RefersTo DomainLink.terminalId s.terminalDomains TerminalRow.id s.terminals
  reachedDomains : RefersTo DomainLink.domainId s.terminalDomains Domain.id s.domains
  sessionTerminals : RefersTo Session.terminalId s.sessions TerminalRow.id s.terminals
  offeringPlatforms :
    RefersTo PlatformProtocol.platformId s.platformProtocols.rows Platform.id s.platforms.rows
  assetPlatforms : RefersTo Asset.platformId s.assets Platform.id s.platforms.rows
  offeringAssets : RefersTo AssetProtocol.assetId s.assetProtocols.rows Asset.id s.assets
  -- rows that can be read
  terminalsReadable : ∀ row ∈ s.terminals, row.Readable
  catalogReadable : ∀ row ∈ s.protocols.rows, row.Readable
  -- numbers
  catalogNumbers : s.protocols.Ordered ProtocolRow.id
  platformNumbers : s.platforms.Ordered Platform.id
  platformProtocolNumbers : s.platformProtocols.Ordered PlatformProtocol.id
  assetProtocolNumbers : s.assetProtocols.Ordered AssetProtocol.id

/-- A new store holds no rows, and so breaks no promise. -/
theorem consistent_empty : empty.Consistent where
  accountIds := List.nodup_nil
  usernames := List.nodup_nil
  terminalIds := List.nodup_nil
  terminalAccounts := List.nodup_nil
  catalogKeys := List.nodup_nil
  protocolLinks := List.nodup_nil
  domainIds := List.nodup_nil
  domainNames := List.nodup_nil
  domainLinks := List.nodup_nil
  sessionIds := List.nodup_nil
  backendIds := fun kind => by cases kind <;> exact List.nodup_nil
  backendNames := fun kind => by cases kind <;> exact List.nodup_nil
  platformNames := List.nodup_nil
  platformOffers := List.nodup_nil
  assetIds := List.nodup_nil
  assetOffers := List.nodup_nil
  linkedAccounts := fun _ h => absurd h List.not_mem_nil
  servingTerminals := fun _ h => absurd h List.not_mem_nil
  servedProtocols := fun _ h => absurd h List.not_mem_nil
  reachingTerminals := fun _ h => absurd h List.not_mem_nil
  reachedDomains := fun _ h => absurd h List.not_mem_nil
  sessionTerminals := fun _ h => absurd h List.not_mem_nil
  offeringPlatforms := fun _ h => absurd h List.not_mem_nil
  assetPlatforms := fun _ h => absurd h List.not_mem_nil
  offeringAssets := fun _ h => absurd h List.not_mem_nil
  terminalsReadable := fun _ h => absurd h List.not_mem_nil
  catalogReadable := fun _ h => absurd h List.not_mem_nil
  catalogNumbers := .empty _
  platformNumbers := .empty _
  platformProtocolNumbers := .empty _
  assetProtocolNumbers := .empty _

namespace Consistent

variable {s : Store}

/-- A look-up by id finds a terminal row exactly if it is there. -/
theorem terminalRow?_eq_some_iff (h : s.Consistent) {id : String} {row : TerminalRow} :
    s.terminalRow? id = some row ↔ row ∈ s.terminals ∧ row.id = id :=
  h.terminalIds.find?_eq_some_iff

/-- A look-up by id finds an account exactly if it is there. -/
theorem account?_eq_some_iff (h : s.Consistent) {id : String} {a : Account} :
    s.account? id = some a ↔ a ∈ s.accounts ∧ a.id = id :=
  h.accountIds.find?_eq_some_iff

/-- A platform has at most one protocol of a name. -/
theorem countP_platform_le_one (h : s.Consistent) (platformId : Int) (name : String) :
    s.platformProtocols.rows.countP (fun p => p.platformId == platformId && p.name == name) ≤ 1 := by
  apply h.platformOffers.countP_le_one
  intro p q hp hq
  obtain ⟨hid, hname⟩ : p.platformId = platformId ∧ p.name = name := by simpa using hp
  obtain ⟨hid', hname'⟩ : q.platformId = platformId ∧ q.name = name := by simpa using hq
  rw [hid, hname, hid', hname']

/-- An asset has at most one protocol of a name. -/
theorem countP_asset_le_one (h : s.Consistent) (assetId name : String) :
    s.assetProtocols.rows.countP (fun p => p.assetId == assetId && p.name == name) ≤ 1 := by
  apply h.assetOffers.countP_le_one
  intro p q hp hq
  obtain ⟨hid, hname⟩ : p.assetId = assetId ∧ p.name = name := by simpa using hp
  obtain ⟨hid', hname'⟩ : q.assetId = assetId ∧ q.name = name := by simpa using hq
  rw [hid, hname, hid', hname']

end Consistent
end Store
end GatewayRegistry
