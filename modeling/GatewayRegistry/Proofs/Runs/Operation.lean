import GatewayRegistry.Proofs.Liveness.History
import GatewayRegistry.Proofs.Store.Effect
import GatewayRegistry.Registry.Payload
import GatewayRegistry.Registry.Protocols
import GatewayRegistry.Registry.Status
import GatewayRegistry.Store.Files

/-!
# Operations

`Database.Operation` and `Registry.Operation` list what can be asked of a database and of a
deployment, with any arguments; the index is the type of the answer. `Operation.effect` says all
that an operation can do to the store: it writes edits, or it deletes one terminal and succeeds.
`Operation.cache_run` says all that it can do to the cache.
-/

namespace GatewayRegistry

/-! ## Operations on a database

What a run may ask of a database. Every operation but the deletion of a terminal is a sequence of
edits; the deletion is described by itself, since it is the one that removes rows. -/

namespace Database

/-- Something that can be asked of a database. -/
inductive Operation : Type → Type where
  | createAccount (id username : String) (now : Int64) : Operation Account
  | getAccount (id : String) : Operation Account
  | isAccountActive (id : String) : Operation Bool
  | setAccountActive (id : String) (active : Bool) : Operation Unit
  | createSession (id terminalId organizationId : String) (now : Int64) : Operation Session
  | finishSession (id : String) : Operation Bool
  | countOpenSessions (terminalId : String) (scope : SessionScope) : Operation Nat
  | createTerminal (id : String) (new : NewTerminal) (account : Option (String × String))
      (now : Int64) : Operation Terminal
  | getTerminal (id : String) : Operation Terminal
  | listTerminals : Operation (List Terminal)
  | listUndeleted : Operation (List Terminal)
  | listActive : Operation (List Terminal)
  | setAccepted (id : String) (accepted : Bool) : Operation Unit
  | updateStorage (id command replay : String) : Operation Unit
  | softDelete (id : String) : Operation (Option String)
  | getOrCreateProtocol (name : ProtocolName) (port : UInt16) : Operation Protocol
  | getOrCreateProtocols (requests : List ProtocolEntry) : Operation (List Protocol)
  | listProtocols : Operation (List Protocol)
  | replaceProtocols (terminalId : String) (ids : List Int) : Operation Unit
  | terminalProtocols (terminalId : String) : Operation (List Protocol)
  | createDomain (id name : String) (now : Int64) : Operation Domain
  | replaceDomains (terminalId : String) (ids : List String) : Operation Unit
  | terminalDomains (terminalId : String) : Operation (List Domain)
  | createBackend (kind : BackendKind) (id name type options : String) (now : Int64) :
      Operation StorageBackend
  | findBackend (kind : BackendKind) (name : String) : Operation (Option StorageBackend)
  | createPlatform (name type : String) : Operation Platform
  | insertPlatformProtocols (rows : List NewPlatformProtocol) : Operation Nat
  | platformProtocols (platformId : Int) : Operation (List PlatformProtocol)
  | sftpCandidates : Operation (List SshPlatform)
  | createAsset (id name : String) (platformId : Int) : Operation Unit
  | insertAssetProtocols (rows : List NewAssetProtocol) : Operation Nat
  | addAssetProtocol (assetId name : String) (port : Int64) : Operation Bool
  | assetProtocols (assetId : String) : Operation (List AssetProtocol)
  | assetsMissingSftp : Operation (List String)
  | sshProtocolsOf (ids : List String) : Operation (List AssetProtocol)
  | backfillPlatforms : Operation (List String)
  | backfillAssets : Operation Nat
  | backfill : Operation BackfillReport
  | lockAccounts : Operation Unit
  | unlockAccounts : Operation Unit
  | close : Operation Unit
  /-- A store in memory would be lost, which begins another run. -/
  | reopen (place : Location) : Operation Unit

namespace Operation

variable {α : Type}

def run : Operation α → Call α
  | createAccount id username now => Database.createAccount id username now
  | getAccount id => Database.getAccount id
  | isAccountActive id => Database.isAccountActive id
  | setAccountActive id active => Database.setAccountActive id active
  | createSession id terminalId organizationId now =>
    Database.createSession id terminalId organizationId now
  | finishSession id => Database.finishSession id
  | countOpenSessions terminalId scope => Database.countOpenSessions terminalId scope
  | createTerminal id new account now => Database.createTerminal id new account now
  | getTerminal id => Database.getTerminal id
  | listTerminals => Database.listTerminals
  | listUndeleted => Database.listUndeleted
  | listActive => Database.listActive
  | setAccepted id accepted => Database.setAccepted id accepted
  | updateStorage id command replay => Database.updateStorage id command replay
  | softDelete id => Database.softDelete id
  | getOrCreateProtocol name port => Database.getOrCreateProtocol name port
  | getOrCreateProtocols requests => Database.getOrCreateProtocols requests
  | listProtocols => Database.listProtocols
  | replaceProtocols terminalId ids => Database.replaceProtocols terminalId ids
  | terminalProtocols terminalId => Database.terminalProtocols terminalId
  | createDomain id name now => Database.createDomain id name now
  | replaceDomains terminalId ids => Database.replaceDomains terminalId ids
  | terminalDomains terminalId => Database.terminalDomains terminalId
  | createBackend kind id name type options now =>
    Database.createBackend kind id name type options now
  | findBackend kind name => Database.findBackend kind name
  | createPlatform name type => Database.createPlatform name type
  | insertPlatformProtocols rows => Database.insertPlatformProtocols rows
  | platformProtocols platformId => Database.platformProtocols platformId
  | sftpCandidates => Database.sftpCandidates
  | createAsset id name platformId => Database.createAsset id name platformId
  | insertAssetProtocols rows => Database.insertAssetProtocols rows
  | addAssetProtocol assetId name port => Database.addAssetProtocol assetId name port
  | assetProtocols assetId => Database.assetProtocols assetId
  | assetsMissingSftp => Database.assetsMissingSftp
  | sshProtocolsOf ids => Database.sshProtocolsOf ids
  | backfillPlatforms => Backfill.platforms
  | backfillAssets => Backfill.assets
  | backfill => Backfill.run
  | lockAccounts => execute Store.lockAccounts
  | unlockAccounts => execute Store.unlockAccounts
  | close => Database.close
  | reopen place => Database.reopen (.file place)

def deletes? : Operation α → Option String
  | softDelete id => some id
  | _ => none

end Operation

/-- A store in a file is found again as it was. -/
theorem reopen_edits (place : Location) : Edits (reopen (.file place)) := by
  intro db
  rw [reopen]
  simp only [reduceCtorEq, ↓reduceIte, connect]
  cases db.store.spoiledMigration? with
  | some version => exact .refl
  | none => exact .refl

/-- An operation that deletes no terminal writes edits only. -/
theorem Operation.edits {α : Type} (op : Operation α) (h : op.deletes? = none) : Edits op.run := by
  cases op with
  | createAccount id username now => exact createAccount_edits id username now
  | setAccountActive id active => exact setAccountActive_edits id active
  | createSession id terminalId organizationId now =>
      exact createSession_edits id terminalId organizationId now
  | finishSession id => exact finishSession_edits id
  | createTerminal id new account now => exact createTerminal_edits id new account now
  | setAccepted id accepted => exact setAccepted_edits id accepted
  | updateStorage id command replay => exact updateStorage_edits id command replay
  | softDelete id => cases h
  | getOrCreateProtocol name port => exact getOrCreateProtocol_edits name port
  | getOrCreateProtocols requests => exact getOrCreateProtocols_edits requests
  | replaceProtocols terminalId ids => exact replaceProtocols_edits terminalId ids
  | createDomain id name now => exact createDomain_edits id name now
  | replaceDomains terminalId ids => exact replaceDomains_edits terminalId ids
  | createBackend kind id name type options now =>
      exact createBackend_edits kind id name type options now
  | createPlatform name type => exact createPlatform_edits name type
  | insertPlatformProtocols rows => exact insertPlatformProtocols_edits rows
  | createAsset id name platformId => exact createAsset_edits id name platformId
  | insertAssetProtocols rows => exact insertAssetProtocols_edits rows
  | addAssetProtocol assetId name port => exact addAssetProtocol_edits assetId name port
  | sshProtocolsOf ids => exact sshProtocolsOf_edits ids
  | backfillPlatforms => exact Backfill.platforms_edits
  | backfillAssets => exact Backfill.assets_edits
  | backfill => exact Backfill.run_edits
  | lockAccounts => exact lockAccounts_edits
  | unlockAccounts => exact unlockAccounts_edits
  | close => exact close_edits
  | reopen place => exact reopen_edits place
  | _ => exact edits_query _ -- the rest only ask

/-- A request to delete a terminal retires its row, or fails and does nothing. -/
theorem Operation.deletion {α : Type} (op : Operation α) {id : String} (h : op.deletes? = some id)
    (db : Database) :
    (∃ row ∈ db.store.terminals, row.id = id ∧
        ∃ a, op.run db = (.ok a, { db with store := db.store.retire row.id row.accountId })) ∨
      ∃ e, op.run db = (.error e, db) := by
  cases op with
  | softDelete id' =>
      -- the one operation that deletes
      obtain rfl : id' = id := Option.some.inj h
      rcases softDelete_effect id' db with ⟨row, hrow, hrun⟩ | hrun
      · have hid : row.id = id' := by simpa using List.find?_some hrow
        refine Or.inl ⟨row, List.mem_of_find?_eq_some hrow, hid, row.accountId, ?_⟩
        rw [hid]
        exact hrun
      · exact Or.inr hrun
  | _ => cases h

end Database

/-! ## Operations on a deployment

What a run may ask of a deployment: all operations of the registry, those of its database, and those
of its cache, the passing of time and outages among them. -/

namespace Registry

/-- Something that can be asked of a deployment. Time passes and outages happen as operations of
their own. -/
inductive Operation : Type → Type 1 where
  | store {α : Type} (op : Database.Operation α) : Operation α
  | register (id : String) (new : NewTerminal) (account : Option (String × String)) (now : Int64) :
      Operation Terminal
  | get (id : String) : Operation Terminal
  | accept (t : Terminal) : Operation Terminal
  | delete (t : Terminal) : Operation Terminal
  | isActive (t : Terminal) : Operation Bool
  | setActive (t : Terminal) (enabled : Bool) : Operation Unit
  | setStorage (t : Terminal) (command replay : String) : Operation Terminal
  | setDomains (t : Terminal) (ids : List String) : Operation Unit
  | domains (t : Terminal) : Operation (List Domain)
  | onlineSessions (t : Terminal) : Operation Nat
  | getOrCreateProtocols (requests : List ProtocolEntry) : Operation (List Protocol)
  | seedCatalog : Operation (List Protocol)
  | defaultProtocols (type : TerminalType) : Operation (List Protocol)
  | resetProtocols (t : Terminal) : Operation (List Protocol)
  | protocols (t : Terminal) : Operation (List Protocol)
  | heartbeat (r : Registry) (t : Terminal) : Operation Unit
  | isAlive (t : Terminal) : Operation Bool
  | statusLabel (t : Terminal) : Operation StatusLabel
  | statusLine (t : Terminal) : Operation String
  | undeleted : Operation (List Terminal)
  | active : Operation (List Terminal)
  | alive : Operation (List Terminal)
  | backendSettings (r : Registry) (kind : BackendKind) (t : Terminal) : Operation Json
  | backendEntry (r : Registry) (kind : BackendKind) (t : Terminal) : Operation Members
  | payload (r : Registry) (t : Terminal) : Operation Members
  | setAlive (terminalId : String) (ttl : Nat) : Operation Unit
  | aliveAmong (terminalIds : List String) : Operation (List String)
  | setText (key value : String) (ttl : Nat) : Operation Unit
  | getText (key : String) : Operation (Option String)
  | getTexts (keys : List String) : Operation (List (Option String))
  | cacheSize : Operation Nat
  | purge : Operation Nat
  | advance (elapsed : Nat) : Operation Unit
  | setOutage (reason : Option String) : Operation Unit

namespace Operation

variable {α : Type}

def run : Operation α → Call α
  | store op => onStore op.run
  | register id new account now => Registry.register id new account now
  | get id => Registry.get id
  | accept t => lend t Registry.accept
  | delete t => lend t Registry.delete
  | isActive t => Registry.isActive t
  | setActive t enabled => Registry.setActive t enabled
  | setStorage t command replay => lend t (Registry.setStorage command replay)
  | setDomains t ids => Registry.setDomains t ids
  | domains t => Registry.domains t
  | onlineSessions t => Registry.onlineSessions t
  | getOrCreateProtocols requests => Registry.getOrCreateProtocols requests
  | seedCatalog => Registry.seedCatalog
  | defaultProtocols type => Registry.defaultProtocols type
  | resetProtocols t => Registry.resetProtocols t
  | protocols t => Registry.protocols t
  | heartbeat r t => r.heartbeat t
  | isAlive t => Registry.isAlive t
  | statusLabel t => Registry.statusLabel t
  | statusLine t => Registry.statusLine t
  | undeleted => Registry.undeleted
  | active => Registry.active
  | alive => Registry.alive
  | backendSettings r kind t => r.backendSettings kind t
  | backendEntry r kind t => r.backendEntry kind t
  | payload r t => r.payload t
  | setAlive terminalId ttl => writeCache (Cache.setAlive terminalId ttl)
  | aliveAmong terminalIds => readCache (·.aliveAmong terminalIds)
  | setText key value ttl => writeCache (Cache.set key value ttl)
  | getText key => readCache (·.get key)
  | getTexts keys => readCache (·.getMany keys)
  | cacheSize => readCache fun c => .ok c.size
  | purge => do
    let expired ← readCache fun c => .ok c.expiredCount
    writeCache fun c => .ok c.purge
    return expired
  | advance elapsed => writeCache fun c => .ok (c.advance elapsed)
  | setOutage reason => writeCache fun c => .ok (c.setOutage reason)

def deletes? : Operation α → Option String
  | store op => op.deletes?
  | delete t => some t.id
  | _ => none

/-- What happens to the cache. -/
def cacheEvent? : Operation α → Option Cache.Event
  | heartbeat r t => some (.write (Cache.presenceKey t.id) Cache.presenceMark r.ttl)
  | setAlive terminalId ttl => some (.write (Cache.presenceKey terminalId) Cache.presenceMark ttl)
  | setText key value ttl => some (.write key value ttl)
  | purge => some .purge
  | advance elapsed => some (.advance elapsed)
  | setOutage reason => some (.setOutage reason)
  | _ => none

end Operation

/-! ### Calls within a relation

Most operations are composed of a few calls on the database and the cache. If those stay within a
relation, so do all operations that are composed of them, and the composition is followed once for
all relations: for edits of the store, for a cache that stays as it is, and for a deployment that
does. -/

/-- A relation on what is seen of a deployment that questions to the store and the cache stay
within. -/
structure AdmitsReading {ρ : Type} (view : Deployment → ρ) (R : ρ → ρ → Prop) : Prop where
  ask : ∀ {α : Type} (ask : Store → Except StoreError α), Within view R (onStore (Database.query ask))
  readCache : ∀ {α : Type} (ask : Cache → Except CacheError α), Within view R (readCache ask)

/-- A relation that edits of the store stay within, too. -/
structure Admits {ρ : Type} (view : Deployment → ρ) (R : ρ → ρ → Prop) : Prop
    extends AdmitsReading view R where
  onStore : ∀ {α : Type} {call : Database.Call α}, Database.Edits call →
    Within view R (onStore call)

/-- The two lazy questions as steps of one sequence. -/
theorem statusLabel_eq (t : Terminal) :
    statusLabel t =
      (if t.isAccepted && !t.isDeleted then isActive t else pure false) >>= fun active =>
        (if active then isAlive t else pure false) >>= fun alive =>
          pure (.ofFlags ⟨t.isAccepted, t.isDeleted, active, alive⟩) := by
  have hlazy : ∀ {α β : Type} (c : Bool) (x y : Call α) (f : α → Call β),
      (if c then x >>= f else y >>= f) = (if c then x else y) >>= f := by
    intro α β c x y f
    cases c <;> rfl
  unfold statusLabel
  simp only [← hlazy]

namespace AdmitsReading

variable {ρ : Type} {view : Deployment → ρ} {R : ρ → ρ → Prop} [IsPreorder ρ R]
  (h : AdmitsReading view R)

include h

theorem isActive (t : Terminal) : Within view R (isActive t) := by
  unfold Registry.isActive
  cases t.accountId with
  | none => exact Within.pure false
  | some a => exact h.ask _

/-- A label is made from at most two questions. -/
theorem statusLabel (t : Terminal) : Within view R (statusLabel t) := by
  rw [statusLabel_eq]
  refine Within.bind ?_ fun active => ?_
  · split
    · exact h.isActive t
    · exact Within.pure false
  · refine Within.bind ?_ fun alive => Within.pure _
    split
    · exact h.readCache _
    · exact Within.pure false

theorem statusLine (t : Terminal) : Within view R (statusLine t) :=
  Within.bind (h.statusLabel t) fun _ => Within.pure _

theorem aliveBy (aliveAmong : Cache → List String → Except CacheError (List String)) :
    Within view R (aliveBy aliveAmong) := by
  refine Within.bind (h.ask _) fun terminals => ?_
  refine Within.bind (h.readCache _) fun ids => ?_
  exact Within.pure (terminals.filter fun t => ids.contains t.id)

theorem alive : Within view R alive := h.aliveBy _

theorem backendSettings (r : Registry) (kind : BackendKind) (t : Terminal) :
    Within view R (r.backendSettings kind t) :=
  Within.bind (h.ask _) fun _ => Within.pure _

theorem backendEntry (r : Registry) (kind : BackendKind) (t : Terminal) :
    Within view R (r.backendEntry kind t) :=
  Within.bind (h.backendSettings r kind t) fun _ => Within.pure _

/-- A payload is composed of the settings of two backends. -/
theorem payload (r : Registry) (t : Terminal) : Within view R (r.payload t) := by
  refine Within.bind (h.backendEntry r .command t) fun _ => ?_
  exact Within.bind (h.backendEntry r .replay t) fun _ => Within.pure _

end AdmitsReading

namespace Admits

variable {ρ : Type} {view : Deployment → ρ} {R : ρ → ρ → Prop} (h : Admits view R)

include h

theorem getOrCreateProtocols (requests : List ProtocolEntry) :
    Within view R (getOrCreateProtocols requests) :=
  h.onStore (Database.getOrCreateProtocols_edits requests)

variable [IsPreorder ρ R]

/-- The account of the copy is switched, if it has one. -/
theorem setActive (t : Terminal) (enabled : Bool) : Within view R (setActive t enabled) := by
  unfold Registry.setActive
  cases t.accountId with
  | none => exact Within.pure ()
  | some a => exact h.onStore (Database.setAccountActive_edits a enabled)

theorem defaultProtocols (type : TerminalType) : Within view R (defaultProtocols type) := by
  unfold Registry.defaultProtocols
  cases ProtocolEntry.defaults? type with
  | none => exact Within.throw _
  | some requests => exact h.getOrCreateProtocols requests

theorem resetProtocols (t : Terminal) : Within view R (resetProtocols t) := by
  refine Within.bind (h.defaultProtocols t.type) ?_
  intro protocols
  refine Within.bind ?_ fun _ => Within.pure protocols
  exact h.onStore (Database.replaceProtocols_edits t.id _)

/-- An operation that deletes no terminal and does nothing to the cache. -/
theorem run {α : Type} (op : Operation α) (hdeletes : op.deletes? = none)
    (hcache : op.cacheEvent? = none) : Within view R op.run := by
  cases op with
  | store op => exact h.onStore (op.edits hdeletes)
  | register id new account now =>
      exact h.onStore (Database.createTerminal_edits id new account now)
  | accept t => exact within_lend (h.onStore (Database.setAccepted_edits t.id true))
  | delete t => cases hdeletes
  | isActive t => exact h.isActive t
  | setActive t enabled => exact h.setActive t enabled
  | setStorage t command replay =>
      exact within_lend (h.onStore (Database.updateStorage_edits t.id command replay))
  | setDomains t ids => exact h.onStore (Database.replaceDomains_edits t.id ids)
  | getOrCreateProtocols requests => exact h.getOrCreateProtocols requests
  | seedCatalog => exact h.getOrCreateProtocols _
  | defaultProtocols type => exact h.defaultProtocols type
  | resetProtocols t => exact h.resetProtocols t
  | statusLabel t => exact h.statusLabel t
  | statusLine t => exact h.statusLine t
  | alive => exact h.alive
  | backendSettings r kind t => exact h.backendSettings r kind t
  | backendEntry r kind t => exact h.backendEntry r kind t
  | payload r t => exact h.payload r t
  | get | domains | onlineSessions | protocols | undeleted | active => exact h.ask _
  | isAlive | aliveAmong | getText | getTexts | cacheSize => exact h.readCache _
  | heartbeat | setAlive | setText | purge | advance | setOutage => cases hcache

end Admits

variable {α : Type}

/-- A call that writes edits only. -/
def Edits (call : Call α) : Prop := Within storeOf Store.Edits call

/-- All operations but deletions write edits. -/
theorem admits_edits : Admits storeOf Store.Edits where
  ask ask := within_onStore (Database.edits_query ask)
  onStore := within_onStore
  readCache := within_readCache

/-- Questions change nothing. -/
theorem admitsReading_same : AdmitsReading id Eq where
  ask := by
    intro α ask d
    rw [onStore_snd, Database.query_snd]
  readCache := by
    intro α ask d
    rw [readCache_snd]

/-- Neither a call on the store nor a question to the cache changes the cache. -/
theorem admits_same_cache : Admits Deployment.cache Eq where
  ask ask d := congrArg Deployment.cache (admitsReading_same.ask ask d)
  readCache ask d := congrArg Deployment.cache (admitsReading_same.readCache ask d)
  onStore := by
    intro α call _ d
    rw [onStore_snd]

/-! ### Deletion -/

theorem delete_ok {d : Deployment} {t : Terminal} {account : Option String} {db : Database}
    (h : Database.softDelete t.id d.database = (.ok account, db)) :
    delete ⟨d, t⟩ =
      (.ok (), ⟨{ d with database := db }, { t with accountId := none, isDeleted := true }⟩) :=
  mirrored_ok (storeCall_ok h)

theorem delete_error {d : Deployment} {t : Terminal} {e : StoreError}
    (h : Database.softDelete t.id d.database = (.error e, d.database)) :
    delete ⟨d, t⟩ = (.error (.ofDeletion t.id e), ⟨d, t⟩) :=
  mirrored_error (storeCall_error h)

/-! ### What an operation does -/

/-- An operation that deletes no terminal writes edits only. -/
theorem Operation.edits (op : Operation α) (h : op.deletes? = none) : Edits op.run := by
  cases op with
  | heartbeat | setAlive | setText | advance | setOutage => exact within_writeCache _
  | purge =>
      refine Within.bind (within_readCache _) fun expired => ?_
      exact Within.bind (within_writeCache _) fun _ => Within.pure expired
  | _ => exact admits_edits.run _ h rfl

/-- All that an operation does to the cache. -/
theorem Operation.cache_run (op : Operation α) (d : Deployment) :
    (op.run d).2.cache = op.cacheEvent?.elim d.cache d.cache.step := by
  cases op with
  | heartbeat | setAlive | setText | advance | setOutage => exact writeCache_snd _ d
  -- a purge counts first, and then writes
  | purge => rfl
  -- the deletion is not a sequence of edits, but it does not touch the cache either
  | delete t =>
      have hdelete : Within Deployment.cache Eq (lend t Registry.delete) := by
        apply within_lend
        intro d
        rw [storeCall_snd]
      exact (hdelete d).symm
  | store op =>
      show (onStore op.run d).2.cache = d.cache
      rw [onStore_snd]
  | _ => exact (admits_same_cache.run _ rfl rfl d).symm

/-- A request to delete a terminal retires its row and leaves everything outside the store alone, or
fails and does nothing. -/
theorem Operation.deletion (op : Operation α) {id : String} (h : op.deletes? = some id)
    (d : Deployment) :
    (∃ row ∈ d.database.store.terminals, row.id = id ∧
        ∃ a, op.run d = (.ok a, { d with database :=
          { d.database with store := d.database.store.retire row.id row.accountId } })) ∨
      ∃ e, op.run d = (.error e, d) := by
  cases op with
  | store op =>
      rcases op.deletion h d.database with ⟨row, hrow, hid, a, hrun⟩ | ⟨e, hrun⟩
      · exact Or.inl ⟨row, hrow, hid, a, storeCall_ok hrun⟩
      · exact Or.inr ⟨_, storeCall_error hrun⟩
  | delete t =>
      obtain rfl : t.id = id := Option.some.inj h
      rcases (Database.Operation.softDelete t.id).deletion rfl d.database with
        ⟨row, hrow, hid, a, hrun⟩ | ⟨e, hrun⟩
      · exact Or.inl ⟨row, hrow, hid, _, lend_ok (delete_ok hrun)⟩
      · exact Or.inr ⟨_, lend_error (delete_error hrun)⟩
  | _ => cases h

/-- All that an operation does to the store: it writes edits, or it deletes one terminal, succeeds,
and leaves everything outside the store alone. -/
theorem Operation.effect (op : Operation α) (d : Deployment) :
    Store.Edits d.database.store (op.run d).2.database.store ∨
      ∃ row ∈ d.database.store.terminals, ∃ a, op.deletes? = some row.id ∧
        op.run d = (.ok a, { d with database :=
          { d.database with store := d.database.store.retire row.id row.accountId } }) := by
  cases h : op.deletes? with
  | none => exact Or.inl (op.edits h d)
  | some id =>
      rcases op.deletion h d with ⟨row, hrow, rfl, a, hrun⟩ | ⟨e, hrun⟩
      · exact Or.inr ⟨row, hrow, a, rfl, hrun⟩
      · rw [hrun]
        exact Or.inl .refl

end Registry
end GatewayRegistry
