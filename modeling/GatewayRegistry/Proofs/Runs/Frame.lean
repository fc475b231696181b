import GatewayRegistry.Proofs.Runs.Reachable
import GatewayRegistry.Proofs.Store.Frame

/-!
# What operations leave alone

Each operation is given the parts of the store that it may write (`Operation.written`), and so a
part that no operation of a run may write has the same content after the run as before
(`Deployment.content_after`).
-/

namespace GatewayRegistry

open Store (Part SameOutside)

/-! ## Operations on a database -/

namespace Database

variable {α : Type}

/-- The parts that an operation may write. -/
def Operation.written : Operation α → List Part
  | createAccount .. => [.accounts]
  | setAccountActive .. => [.accounts]
  | createSession .. => [.sessions]
  | finishSession .. => [.sessions]
  | createTerminal .. => [.accounts, .terminals]
  | setAccepted .. => [.terminals]
  | updateStorage .. => [.terminals]
  | softDelete .. => [.accounts, .terminals]
  | getOrCreateProtocol .. => [.protocols]
  | getOrCreateProtocols .. => [.protocols]
  | replaceProtocols .. => [.terminalProtocols]
  | createDomain .. => [.domains]
  | replaceDomains .. => [.terminalDomains]
  | createBackend kind .. => [.backends kind]
  | createPlatform .. => [.platforms]
  | insertPlatformProtocols .. => [.platformProtocols]
  | createAsset .. => [.assets]
  | insertAssetProtocols .. => [.assetProtocols]
  | addAssetProtocol .. => [.assetProtocols]
  | backfillPlatforms => [.platformProtocols]
  | backfillAssets => [.assetProtocols]
  | backfill => [.platformProtocols, .assetProtocols]
  | lockAccounts => [.lock]
  | unlockAccounts => [.lock]
  | _ => []

theorem Operation.writes (op : Operation α) : Writes op.written op.run := by
  cases op with
  | createAccount id username now => exact createAccount_writes id username now
  | setAccountActive id active => exact setAccountActive_writes id active
  | createSession id terminalId organizationId now =>
      exact createSession_writes id terminalId organizationId now
  | finishSession id => exact finishSession_writes id
  | createTerminal id new account now => exact createTerminal_writes id new account now
  | setAccepted id accepted => exact setAccepted_writes id accepted
  | updateStorage id command replay => exact updateStorage_writes id command replay
  | softDelete id => exact softDelete_writes id
  | getOrCreateProtocol name port => exact getOrCreateProtocol_writes name port
  | getOrCreateProtocols requests => exact getOrCreateProtocols_writes requests
  | replaceProtocols terminalId ids => exact replaceProtocols_writes terminalId ids
  | createDomain id name now => exact createDomain_writes id name now
  | replaceDomains terminalId ids => exact replaceDomains_writes terminalId ids
  | createBackend kind id name type options now =>
      exact createBackend_writes kind id name type options now
  | createPlatform name type => exact createPlatform_writes name type
  | insertPlatformProtocols rows => exact insertPlatformProtocols_writes rows
  | createAsset id name platformId => exact createAsset_writes id name platformId
  | insertAssetProtocols rows => exact insertAssetProtocols_writes rows
  | addAssetProtocol assetId name port => exact addAssetProtocol_writes assetId name port
  | sshProtocolsOf ids => exact sshProtocolsOf_writes ids
  | backfillPlatforms => exact Backfill.platforms_writes
  | backfillAssets => exact Backfill.assets_writes
  | backfill => exact Backfill.run_writes
  | lockAccounts => exact lockAccounts_writes
  | unlockAccounts => exact unlockAccounts_writes
  | close => exact close_writes
  | reopen place => exact reopen_writes place
  | _ => exact writes_query _ -- the rest only ask

end Database

/-! ## Operations on a deployment -/

namespace Registry

variable {α : Type} {parts : List Part}

/-- A call that writes to no other than the given parts. -/
def Writes (parts : List Part) (call : Call α) : Prop := Within storeOf (SameOutside parts) call

theorem Writes.mono {call : Call α} {more : List Part} (h : Writes parts call)
    (hsub : parts ⊆ more) :
    Writes more call :=
  fun d => (h d).mono hsub

theorem admitsReading_writes (parts : List Part) : AdmitsReading storeOf (SameOutside parts) where
  ask ask := within_onStore (Database.writes_query ask)
  readCache := within_readCache

/-- The parts that an operation may write. -/
def Operation.written : Operation α → List Part
  | store op => op.written
  | register .. => [.accounts, .terminals]
  | accept .. => [.terminals]
  | delete .. => [.accounts, .terminals]
  | setActive .. => [.accounts]
  | setStorage .. => [.terminals]
  | setDomains .. => [.terminalDomains]
  | getOrCreateProtocols .. => [.protocols]
  | seedCatalog => [.protocols]
  | defaultProtocols .. => [.protocols]
  | resetProtocols .. => [.protocols, .terminalProtocols]
  | _ => []

theorem setActive_writes (t : Terminal) (enabled : Bool) :
    Writes [.accounts] (setActive t enabled) := by
  unfold setActive
  cases t.accountId with
  | none => exact Within.pure ()
  | some a => exact within_onStore (Database.setAccountActive_writes a enabled)

theorem getOrCreateProtocols_writes (requests : List ProtocolEntry) :
    Writes [.protocols] (getOrCreateProtocols requests) :=
  within_onStore (Database.getOrCreateProtocols_writes requests)

theorem defaultProtocols_writes (type : TerminalType) :
    Writes [.protocols] (defaultProtocols type) := by
  unfold defaultProtocols
  cases ProtocolEntry.defaults? type with
  | none => exact Within.throw _
  | some requests => exact getOrCreateProtocols_writes requests

theorem resetProtocols_writes (t : Terminal) :
    Writes [.protocols, .terminalProtocols] (resetProtocols t) := by
  refine Within.bind ((defaultProtocols_writes t.type).mono (by simp)) ?_
  intro protocols
  refine Within.bind ?_ fun _ => Within.pure protocols
  exact within_onStore ((Database.replaceProtocols_writes t.id _).mono (by simp))

theorem Operation.writes (op : Operation α) : Writes op.written op.run := by
  have hread := admitsReading_writes []
  cases op with
  | store op => exact within_onStore op.writes
  | register id new account now => exact within_onStore (Database.createTerminal_writes id new account now)
  | accept t => exact within_lend (within_onStore (Database.setAccepted_writes t.id true))
  | delete t => exact within_lend (within_storeCall (Database.softDelete_writes t.id))
  | setActive t enabled => exact setActive_writes t enabled
  | setStorage t command replay =>
      exact within_lend (within_onStore (Database.updateStorage_writes t.id command replay))
  | setDomains t ids => exact within_onStore (Database.replaceDomains_writes t.id ids)
  | getOrCreateProtocols requests => exact getOrCreateProtocols_writes requests
  | seedCatalog => exact getOrCreateProtocols_writes _
  | defaultProtocols type => exact defaultProtocols_writes type
  | resetProtocols t => exact resetProtocols_writes t
  | isActive t => exact hread.isActive t
  | statusLabel t => exact hread.statusLabel t
  | statusLine t => exact hread.statusLine t
  | alive => exact hread.alive
  | backendSettings r kind t => exact hread.backendSettings r kind t
  | backendEntry r kind t => exact hread.backendEntry r kind t
  | payload r t => exact hread.payload r t
  | get | domains | onlineSessions | protocols | undeleted | active => exact hread.ask _
  | isAlive | aliveAmong | getText | getTexts | cacheSize => exact hread.readCache _
  | heartbeat | setAlive | setText | advance | setOutage => exact within_writeCache _
  | purge =>
      refine Within.bind (within_readCache _) fun expired => ?_
      exact Within.bind (within_writeCache _) fun _ => Within.pure expired

end Registry

/-! ## Runs -/

/-- A part that no operation of a run writes is as before. -/
theorem Deployment.content_after (d : Deployment) {requests : List Registry.Request} {p : Part}
    (h : ∀ request ∈ requests, p ∉ request.2.written) :
    (d.after requests).database.store.content p = d.database.store.content p := by
  induction requests generalizing d with
  | nil => rfl
  | cons request requests ih =>
      obtain ⟨hfirst, hrest⟩ := List.forall_mem_cons.mp h
      rw [after_cons]
      exact (ih _ hrest).trans (request.2.writes d p hfirst)

end GatewayRegistry
