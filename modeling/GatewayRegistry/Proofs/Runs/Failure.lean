import GatewayRegistry.Proofs.Runs.Copies
import GatewayRegistry.Proofs.Store.Failure

/-!
# Operations that fail leave no trace

At every point of a run, an operation that fails leaves the deployment as it was
(`Operation.traceless`). One operation needs more than a consistent store: the protocols of a
terminal are reset in many transactions, of which only the last is about the terminal. It does not
fail for a copy that was handed out in the run, because the row of that terminal is there.
-/

namespace GatewayRegistry

/-! ## Operations on a database

Each operation is one of three kinds: a single transaction, a write that is read back, or several
transactions that cannot fail once the database is open. -/

namespace Store

/-- No edit touches the record of how the tables were made. -/
theorem Edit.spoiledMigrations {s s' : Store} (e : Edit s s') :
    s'.spoiledMigrations = s.spoiledMigrations := by
  cases e with
  | addBackend kind => cases kind <;> rfl
  | _ => rfl

end Store

namespace Database

variable {α : Type} {db : Database}

/-- A store whose migrations are in order is opened again. -/
theorem reopen_ensures (h : db.store.spoiledMigrations = []) (place : Location) :
    Ensures (reopen (.file place)) db fun _ db' => db'.store = db.store := by
  have hnone : db.store.spoiledMigration? = none := by
    unfold Store.spoiledMigration?
    rw [h]
    rfl
  refine ⟨(), { store := db.store }, ?_, rfl⟩
  simp [reopen, connect, hnone]

/-- Every operation on a database leaves no trace if it fails. -/
theorem Operation.traceless (op : Operation α) (hs : db.store.Consistent)
    (hmade : db.store.spoiledMigrations = []) : Traceless op.run db := by
  cases op with
  | createAccount id username now => exact createAccount_traceless id username now
  | createSession id terminalId organizationId now =>
      exact createSession_traceless id terminalId organizationId now
  | createTerminal id new account now => exact createTerminal_traceless hs id new account now
  | getOrCreateProtocol name port => exact getOrCreateProtocol_traceless hs name port
  | getOrCreateProtocols requests => exact getOrCreateProtocols_traceless hs requests
  | createDomain id name now => exact createDomain_traceless id name now
  | createBackend kind id name type options now =>
      exact createBackend_traceless kind id name type options now
  | createPlatform name type => exact createPlatform_traceless name type
  | addAssetProtocol assetId name port =>
      refine Traceless.bind_ensures (R := fun _ _ => True) (transact_traceless _ db) ?_
      exact fun _ _ _ => .pure trivial
  | sshProtocolsOf ids =>
      show Traceless (Database.sshProtocolsOf ids) db
      unfold Database.sshProtocolsOf
      split
      · exact .of_same rfl
      · exact transact_traceless _ db
  | backfillPlatforms => exact Backfill.platforms_traceless
  | backfillAssets => exact Backfill.assets_traceless hs
  | backfill => exact Backfill.run_traceless hs
  | close => exact .of_ensures (Q := fun _ _ => True) ⟨_, _, rfl, trivial⟩
  | reopen place => exact .of_ensures (reopen_ensures hmade place)
  | _ => exact transact_traceless _ db -- the rest are one transaction

end Database

/-! ## Operations on a deployment

Here the failures of the registry are added: types that have no default protocols, and a reset in
two steps. The second step of a reset fails only if the terminal is not there, so the theorem asks
for a copy that the run has handed out. -/

namespace Registry

variable {α : Type} {d : Deployment}

theorem register_traceless (hs : d.database.store.Consistent) (id : String) (new : NewTerminal)
    (account : Option (String × String)) (now : Int64) : Traceless (register id new account now) d :=
  storeCall_traceless (Database.createTerminal_traceless hs id new account now) _

theorem getOrCreateProtocols_ensures (h : d.database.Ready) (requests : List ProtocolEntry) :
    Ensures (getOrCreateProtocols requests) d fun found d' =>
      d.database.Grown d'.database ∧ d'.database.Lists found :=
  storeCall_ensures (Database.getOrCreateProtocols_ensures h requests) _

theorem getOrCreateProtocols_traceless (hs : d.database.store.Consistent)
    (requests : List ProtocolEntry) : Traceless (getOrCreateProtocols requests) d :=
  storeCall_traceless (Database.getOrCreateProtocols_traceless hs requests) _

/-- A type without default protocols is refused before anything is written. -/
theorem defaultProtocols_traceless (hs : d.database.store.Consistent) (type : TerminalType) :
    Traceless (defaultProtocols type) d := by
  unfold defaultProtocols
  cases ProtocolEntry.defaults? type with
  | none => exact .of_same rfl
  | some requests => exact getOrCreateProtocols_traceless hs requests

/-- On an open database the entries are there once they were asked for, and so is the terminal:
nothing refuses any more. -/
theorem resetProtocols_ensures (h : d.database.Ready) {t : Terminal} {requests : List ProtocolEntry}
    (htype : ProtocolEntry.defaults? t.type = some requests)
    (hrow : ∃ row ∈ d.database.store.terminals, row.id = t.id) :
    Ensures (resetProtocols t) d fun _ _ => True := by
  unfold resetProtocols defaultProtocols
  rw [htype]
  refine (getOrCreateProtocols_ensures h requests).bind ?_
  rintro found d' ⟨hgrown, hlists⟩
  have hreplace : ∃ s, d'.database.store.replaceProtocols t.id (found.map (·.id)) = .ok s := by
    apply Database.replaceProtocols_ok
    · rw [hgrown.terminals]
      exact hrow
    · intro id hid
      obtain ⟨p, hp, rfl⟩ := List.mem_map.mp hid
      exact hlists p hp
  -- the row is still there, and the entries have just been made sure of
  obtain ⟨s, hwrite⟩ := hreplace
  have hrun : onStore (Database.replaceProtocols t.id (found.map (·.id))) d' = (.ok (), _) :=
    storeCall_ok (Database.execute_ok hgrown.ready.isOpen hwrite)
  exact ⟨found, _, call_bind_ok hrun, trivial⟩

/-- A type without protocols is refused before anything is written. -/
theorem resetProtocols_unserved {t : Terminal} (htype : ProtocolEntry.defaults? t.type = none)
    (d : Deployment) : resetProtocols t d = (.error (.unsupportedType t.type), d) := by
  unfold resetProtocols defaultProtocols
  rw [htype]
  rfl

/-- A closed database refuses the first transaction, and an open one refuses nothing. -/
theorem resetProtocols_traceless (hs : d.database.store.Consistent) {t : Terminal}
    (hrow : ∃ row ∈ d.database.store.terminals, row.id = t.id) : Traceless (resetProtocols t) d := by
  cases htype : ProtocolEntry.defaults? t.type with
  | none =>
      apply Traceless.of_same
      rw [resetProtocols_unserved htype]
  | some requests =>
      cases hopen : d.database.isOpen with
      | false =>
          unfold resetProtocols defaultProtocols
          rw [htype]
          refine Traceless.ask_bind ?_ fun found _ => ?_
          -- on a closed database the reset ends with its first part
          · have hsteady := (Database.steady_getOrCreateProtocols requests d.database).2 hopen
            show (onStore (Database.getOrCreateProtocols requests) d).2 = d
            rw [onStore, storeCall_snd]
            exact congrArg (fun db => { d with database := db }) hsteady
          · refine Traceless.bind_ensures (R := fun _ _ => True) ?_ fun _ _ _ => .pure trivial
            apply storeCall_traceless
            exact Database.transact_traceless _ _
      | true => exact .of_ensures (resetProtocols_ensures ⟨hopen, hs⟩ htype hrow)

/-- The copy whose protocols are to be reset. -/
def Operation.resets? : Operation α → Option Terminal
  | resetProtocols t => some t
  | _ => none

/-- Every operation on a deployment leaves no trace if it fails, a reset if its terminal is
there. -/
theorem Operation.traceless (op : Operation α) (hs : d.database.store.Consistent)
    (hmade : d.database.store.spoiledMigrations = [])
    (hreset : ∀ t, op.resets? = some t → ∃ row ∈ d.database.store.terminals, row.id = t.id) :
    Traceless op.run d := by
  cases op with
  | store op => exact storeCall_traceless (op.traceless hs hmade) _
  | register id new account now => exact register_traceless hs id new account now
  | accept | delete | setStorage =>
      apply lend_traceless
      apply storeCall_traceless
      exact Database.transact_traceless _ _
  | setActive t enabled =>
      show Traceless (Registry.setActive t enabled) d
      unfold Registry.setActive
      cases t.accountId with
      | none => exact .of_same rfl
      | some a =>
          apply storeCall_traceless
          exact Database.transact_traceless _ _
  | getOrCreateProtocols requests => exact getOrCreateProtocols_traceless hs requests
  | seedCatalog => exact getOrCreateProtocols_traceless hs _
  | defaultProtocols type => exact defaultProtocols_traceless hs type
  | resetProtocols t => exact resetProtocols_traceless hs (hreset t rfl)
  | heartbeat | setAlive | setText | advance | setOutage => exact writeCache_traceless _ d
  | purge =>
      refine Traceless.ask_bind (readCache_snd _ d) fun expired _ => ?_
      exact (writeCache_traceless _ d).bind_ensures (R := fun _ _ => True) fun _ _ _ => .pure trivial
  | get | setDomains | domains | onlineSessions | protocols | undeleted | active =>
      apply storeCall_traceless
      exact Database.transact_traceless _ _
  -- questions change nothing
  | isActive t => exact .of_same (admitsReading_same.isActive t d).symm
  | statusLabel t => exact .of_same (admitsReading_same.statusLabel t d).symm
  | statusLine t => exact .of_same (admitsReading_same.statusLine t d).symm
  | alive => exact .of_same (admitsReading_same.alive d).symm
  | backendSettings r kind t => exact .of_same (admitsReading_same.backendSettings r kind t d).symm
  | backendEntry r kind t => exact .of_same (admitsReading_same.backendEntry r kind t d).symm
  | payload r t => exact .of_same (admitsReading_same.payload r t d).symm
  | isAlive | aliveAmong | getText | getTexts | cacheSize => exact .of_same (readCache_snd _ d)

end Registry

namespace Deployment

/-- A deployment that can be reached has all its migrations. -/
theorem Reachable.made {d : Deployment} (h : d.Reachable) :
    d.database.store.spoiledMigrations = [] := by
  refine h.store_induction (P := fun s => s.spoiledMigrations = []) rfl ?_ ?_
  · intro s s' e hs
    rw [e.spoiledMigrations, hs]
  · intro s row _ hs
    exact hs

/-- Operations that reset no protocols leave no trace, whatever copies they are given. -/
theorem Reachable.traceless {d : Deployment} (h : d.Reachable) {α : Type}
    (op : Registry.Operation α)
    (hreset : op.resets? = none) : Traceless op.run d := by
  refine op.traceless h.consistent h.made fun t ht => ?_
  rw [hreset] at ht
  cases ht

/-- Whatever is asked at some point of a run, if it fails then everything is as it was: all tables,
all numbers that were given out, the lock, the connections and the cache. Only the copy whose
protocols are to be reset has to be one that was handed out in the run. -/
theorem failure_leaves_no_trace (start : Deployment) (fresh : start.Fresh)
    (requests : List Registry.Request) {α : Type} (op : Registry.Operation α)
    (handed : ∀ t, op.resets? = some t → start.Handed requests t) (e : RegistryError)
    (h : (op.run (start.after requests)).1 = .error e) :
    (op.run (start.after requests)).2 = start.after requests := by
  have hreachable := fresh.reachable requests
  refine op.traceless hreachable.consistent hreachable.made ?_ e h
  intro t hreset
  exact (handed t hreset).stored fresh

/-- A registration that creates its account before its id turns out to be taken, and a reset on
closed connections. -/
theorem failure_leaves_no_trace_of_refusals :
    (Registry.register "t" (.withDefaults "lion" .lion) (some ("b", "v")) 6
        (({} : Deployment).after [registration])).2 = ({} : Deployment).after [registration] ∧
      (Registry.resetProtocols newcomer
          (({} : Deployment).after [registration, ⟨_, .store .close⟩])).2 =
        ({} : Deployment).after [registration, ⟨_, .store .close⟩] := by
  constructor
  · refine failure_leaves_no_trace {} ⟨rfl, rfl⟩ [registration]
      (.register "t" (.withDefaults "lion" .lion) (some ("b", "v")) 6) ?_
      (.database (.rejected (.duplicate .terminalId))) rfl
    intro t hreset
    cases hreset
  · refine failure_leaves_no_trace {} ⟨rfl, rfl⟩ [registration, ⟨_, .store .close⟩]
      (.resetProtocols newcomer) ?_ (.database (.query .closed)) rfl
    intro t hreset
    obtain rfl := Option.some.inj hreset
    exact .later ⟨_, .store .close⟩ newcomer_handed

end Deployment
end GatewayRegistry
