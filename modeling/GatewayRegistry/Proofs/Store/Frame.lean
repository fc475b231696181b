import GatewayRegistry.Backfill
import GatewayRegistry.Proofs.Call
import GatewayRegistry.Proofs.Store.Statement
import GatewayRegistry.Store.Files

/-!
# What calls leave alone

A store consists of parts (`Store.Part`), each of which can be written without the others
(`Store.write`). For each call there is a list of the parts that it may write, and the content of
every other part is the same after it as before (`Store.SameOutside`), whether the call succeeds or
fails.
-/

namespace GatewayRegistry

/-! ## Parts of a store

The kinds of content are of different types, so a part comes with the type of what it holds. A part
can be read and written; writing one leaves the others as they are (`content_write_of_ne`), and that
is all that the lemmas below use. -/

namespace Store

/-- The tables, and what is noted beside them. -/
inductive Part where
  | accounts
  | terminals
  | protocols
  | terminalProtocols
  | domains
  | terminalDomains
  | sessions
  | backends (kind : BackendKind)
  | platforms
  | platformProtocols
  | assets
  | assetProtocols
  | lock
  | migrations
  deriving DecidableEq, Repr

def Part.Content : Part → Type
  | accounts => List Account
  | terminals => List TerminalRow
  | protocols => Numbered ProtocolRow
  | terminalProtocols => List ProtocolLink
  | domains => List Domain
  | terminalDomains => List DomainLink
  | sessions => List Session
  | backends _ => List StorageBackend
  | platforms => Numbered Platform
  | platformProtocols => Numbered PlatformProtocol
  | assets => List Asset
  | assetProtocols => Numbered AssetProtocol
  | lock => Bool
  | migrations => List Nat

def content (s : Store) : (p : Part) → p.Content
  | .accounts => s.accounts
  | .terminals => s.terminals
  | .protocols => s.protocols
  | .terminalProtocols => s.terminalProtocols
  | .domains => s.domains
  | .terminalDomains => s.terminalDomains
  | .sessions => s.sessions
  | .backends kind => s.backends kind
  | .platforms => s.platforms
  | .platformProtocols => s.platformProtocols
  | .assets => s.assets
  | .assetProtocols => s.assetProtocols
  | .lock => s.accountsLocked
  | .migrations => s.spoiledMigrations

def write (s : Store) : (p : Part) → p.Content → Store
  | .accounts, rows => { s with accounts := rows }
  | .terminals, rows => { s with terminals := rows }
  | .protocols, rows => { s with protocols := rows }
  | .terminalProtocols, rows => { s with terminalProtocols := rows }
  | .domains, rows => { s with domains := rows }
  | .terminalDomains, rows => { s with terminalDomains := rows }
  | .sessions, rows => { s with sessions := rows }
  | .backends kind, rows => s.setBackends kind rows
  | .platforms, rows => { s with platforms := rows }
  | .platformProtocols, rows => { s with platformProtocols := rows }
  | .assets, rows => { s with assets := rows }
  | .assetProtocols, rows => { s with assetProtocols := rows }
  | .lock, locked => { s with accountsLocked := locked }
  | .migrations, versions => { s with spoiledMigrations := versions }

/-- The parts are independent. -/
theorem content_write_of_ne {p q : Part} (h : q ≠ p) (s : Store) (x : p.Content) :
    (s.write p x).content q = s.content q := by
  cases p with
  -- the two tables of backends are one constructor, so they are told apart by their kinds
  | backends kind =>
      cases q with
      | backends other =>
          cases kind <;> cases other <;> first | rfl | exact absurd rfl h
      | _ => cases kind <;> rfl
  | _ => cases q <;> first | rfl | exact absurd rfl h

/-- Only the given parts may have changed. -/
def SameOutside (parts : List Part) (s s' : Store) : Prop :=
  ∀ p, p ∉ parts → s'.content p = s.content p

namespace SameOutside

variable {parts : List Part} {s s' s'' : Store}

theorem refl (s : Store) : SameOutside parts s s := fun _ _ => rfl

theorem trans (h : SameOutside parts s s') (h' : SameOutside parts s' s'') :
    SameOutside parts s s'' :=
  fun p hp => (h' p hp).trans (h p hp)

instance : IsPreorder Store (SameOutside parts) where
  refl := refl
  trans _ _ _ := trans

theorem mono {more : List Part} (h : SameOutside parts s s') (hsub : parts ⊆ more) :
    SameOutside more s s' :=
  fun p hp => h p fun hmem => hp (hsub hmem)

/-- Writing a part changes no other. -/
protected theorem write (p : Part) (hp : p ∈ parts) (x : p.Content) :
    SameOutside parts s (s.write p x) := by
  intro q hq
  refine content_write_of_ne ?_ s x
  rintro rfl
  exact hq hp

end SameOutside

/-! ## Statements -/

variable {s s' : Store}

theorem insertAccount_frame {a : Account} (h : s.insertAccount a = .ok s') :
    SameOutside [.accounts] s s' := by
  obtain ⟨_, _, rfl⟩ := insertAccount_eq_ok_iff.mp h
  exact .write .accounts List.mem_cons_self _

theorem insertTerminal_frame {row : TerminalRow} (h : s.insertTerminal row = .ok s') :
    SameOutside [.terminals] s s' := by
  obtain ⟨_, _, _, rfl⟩ := insertTerminal_eq_ok_iff.mp h
  exact .write .terminals List.mem_cons_self _

theorem insertNewTerminal_frame {id : String} {new : NewTerminal}
    {account : Option (String × String)}
    {now : Int64} (h : s.insertNewTerminal id new account now = .ok s') :
    SameOutside [.accounts, .terminals] s s' := by
  cases account with
  | none =>
      obtain ⟨s₁, h₁, h₂⟩ := bind_eq_ok_iff.mp h
      cases h₁
      exact (insertTerminal_frame h₂).mono (by simp)
  | some a =>
      obtain ⟨s₁, h₁, h₂⟩ := bind_eq_ok_iff.mp h
      exact ((insertAccount_frame h₁).mono (by simp)).trans ((insertTerminal_frame h₂).mono (by simp))

theorem changeTerminal_frame {id : String} {change : TerminalRow → TerminalRow}
    (h : s.changeTerminal id change = .ok s') : SameOutside [.terminals] s s' := by
  obtain ⟨_, rfl⟩ := changeTerminal_eq_ok_iff.mp h
  exact .write .terminals List.mem_cons_self _

theorem softDelete_frame {id : String} {account : Option String}
    (h : s.softDelete id = .ok (account, s')) : SameOutside [.accounts, .terminals] s s' := by
  obtain ⟨row, _, rfl, rfl⟩ := eq_retire_of_softDelete h
  have hmark : SameOutside [.accounts, .terminals] s (s.markDeleted id) :=
    .write .terminals (by simp) _
  exact hmark.trans (.write .accounts List.mem_cons_self _)

theorem insertProtocolIfAbsent_frame {name : String} {port : Int} {builtin : Bool}
    (h : s.insertProtocolIfAbsent name port builtin = .ok s') : SameOutside [.protocols] s s' := by
  obtain ⟨_, rfl⟩ := insertProtocolIfAbsent_eq_ok_iff.mp h
  split
  · exact .write .protocols List.mem_cons_self _
  · exact .write .protocols List.mem_cons_self _

theorem replaceProtocols_frame {terminalId : String} {ids : List Int}
    (h : s.replaceProtocols terminalId ids = .ok s') : SameOutside [.terminalProtocols] s s' := by
  have hloop := foldlM_induction id (SameOutside [.terminalProtocols]) ?_ h
  · exact (SameOutside.write .terminalProtocols List.mem_cons_self _).trans hloop
  · intro s₁ id s₂ h₁
    rcases insertProtocolLink_eq_ok_iff.mp h₁ with ⟨_, rfl⟩ | ⟨_, _, _, rfl⟩
    · exact .refl _
    · exact .write .terminalProtocols List.mem_cons_self _

theorem replaceDomains_frame {terminalId : String} {ids : List String}
    (h : s.replaceDomains terminalId ids = .ok s') : SameOutside [.terminalDomains] s s' := by
  have hloop := foldlM_induction id (SameOutside [.terminalDomains]) ?_ h
  · exact (SameOutside.write .terminalDomains List.mem_cons_self _).trans hloop
  · intro s₁ id s₂ h₁
    rcases insertDomainLink_eq_ok_iff.mp h₁ with ⟨_, rfl⟩ | ⟨_, _, _, rfl⟩
    · exact .refl _
    · exact .write .terminalDomains List.mem_cons_self _

theorem insertMany_frame {α : Type} {insert : α → Store → Except StoreError (Nat × Store)}
    {parts : List Part} (hinsert : ∀ x s n s', insert x s = .ok (n, s') → SameOutside parts s s')
    {rows : List α} {n : Nat} (h : s.insertMany insert rows = .ok (n, s')) : SameOutside parts s s' := by
  refine foldlM_induction Prod.snd (SameOutside parts) ?_ h
  rintro ⟨added, s₁⟩ row ⟨total, s₂⟩ hround
  obtain ⟨⟨m, s₃⟩, hrow, hsum⟩ := bind_eq_ok_iff.mp hround
  cases hsum
  exact hinsert row s₁ m s₂ hrow

theorem insertPlatformProtocol_frame {new : NewPlatformProtocol} {n : Nat}
    (h : s.insertPlatformProtocol new = .ok (n, s')) : SameOutside [.platformProtocols] s s' := by
  rcases insertPlatformProtocol_eq_ok_iff.mp h with ⟨_, _, rfl⟩ | ⟨_, _, _, rfl⟩
  · exact .write .platformProtocols List.mem_cons_self _
  · exact .write .platformProtocols List.mem_cons_self _

theorem insertAssetProtocol_frame {new : NewAssetProtocol} {n : Nat}
    (h : s.insertAssetProtocol new = .ok (n, s')) : SameOutside [.assetProtocols] s s' := by
  rcases insertAssetProtocol_eq_ok_iff.mp h with ⟨_, _, rfl⟩ | ⟨_, _, _, rfl⟩
  · exact .write .assetProtocols List.mem_cons_self _
  · exact .write .assetProtocols List.mem_cons_self _

end Store

/-! ## Calls -/

namespace Database

open Store (SameOutside Part)

/-- A call that writes to no other than the given parts. -/
def Writes {α : Type} (parts : List Part) (call : Call α) : Prop :=
  Within Database.store (SameOutside parts) call

variable {α : Type} {parts : List Part}

theorem writes_query (ask : Store → Except StoreError α) :
    Writes parts (query ask) := within_query ask

/-- A call that writes to few parts writes to no other than many. -/
theorem Writes.mono {call : Call α} {more : List Part} (h : Writes parts call)
    (hsub : parts ⊆ more) :
    Writes more call :=
  fun db => (h db).mono hsub

theorem createAccount_writes (id username : String) (now : Int64) :
    Writes [.accounts] (createAccount id username now) := by
  refine Within.bind ?_ fun _ => writes_query _
  exact within_execute fun _ _ => Store.insertAccount_frame

theorem setAccountActive_writes (id : String) (active : Bool) :
    Writes [.accounts] (setAccountActive id active) := by
  apply within_execute
  intro s s' h
  obtain ⟨_, rfl⟩ := Store.updateAccountActive_eq_ok_iff.mp h
  exact .write .accounts List.mem_cons_self _

theorem createSession_writes (id terminalId organizationId : String) (now : Int64) :
    Writes [.sessions] (createSession id terminalId organizationId now) := by
  refine Within.bind ?_ fun _ => writes_query _
  apply within_execute
  intro s s' h
  obtain ⟨_, _, rfl⟩ := Store.insertSession_eq_ok_iff.mp h
  exact .write .sessions List.mem_cons_self _

theorem finishSession_writes (id : String) : Writes [.sessions] (finishSession id) := by
  apply within_transact
  intro s a s' h
  cases h
  exact .write .sessions List.mem_cons_self _

theorem createTerminal_writes (id : String) (new : NewTerminal) (account : Option (String × String))
    (now : Int64) : Writes [.accounts, .terminals] (createTerminal id new account now) := by
  refine Within.bind ?_ fun _ => writes_query _
  exact within_execute fun _ _ => Store.insertNewTerminal_frame

theorem setAccepted_writes (id : String) (accepted : Bool) :
    Writes [.terminals] (setAccepted id accepted) :=
  within_execute fun _ _ => Store.changeTerminal_frame

theorem updateStorage_writes (id command replay : String) :
    Writes [.terminals] (updateStorage id command replay) :=
  within_execute fun _ _ => Store.changeTerminal_frame

theorem softDelete_writes (id : String) : Writes [.accounts, .terminals] (softDelete id) :=
  within_transact fun _ _ _ => Store.softDelete_frame

theorem getOrCreateProtocol_writes (name : ProtocolName) (port : UInt16) :
    Writes [.protocols] (getOrCreateProtocol name port) := by
  refine Within.bind ?_ fun _ => writes_query _
  exact within_execute fun _ _ => Store.insertProtocolIfAbsent_frame

theorem getOrCreateProtocols_writes (requests : List ProtocolEntry) :
    Writes [.protocols] (getOrCreateProtocols requests) := by
  apply Within.foldlM
  intro found request
  cases request.resolve? with
  | none => exact Within.pure found -- nothing is asked for
  | some wanted => exact Within.bind (getOrCreateProtocol_writes _ _) fun _ => Within.pure _

theorem replaceProtocols_writes (terminalId : String) (ids : List Int) :
    Writes [.terminalProtocols] (replaceProtocols terminalId ids) :=
  within_execute fun _ _ => Store.replaceProtocols_frame

theorem createDomain_writes (id name : String) (now : Int64) :
    Writes [.domains] (createDomain id name now) := by
  refine Within.bind ?_ fun _ => writes_query _
  apply within_execute
  intro s s' h
  obtain ⟨_, _, rfl⟩ := Store.insertDomain_eq_ok_iff.mp h
  exact .write .domains List.mem_cons_self _

theorem replaceDomains_writes (terminalId : String) (ids : List String) :
    Writes [.terminalDomains] (replaceDomains terminalId ids) :=
  within_execute fun _ _ => Store.replaceDomains_frame

theorem createBackend_writes (kind : BackendKind) (id name type options : String) (now : Int64) :
    Writes [.backends kind] (createBackend kind id name type options now) := by
  refine Within.bind ?_ fun _ => Within.bind (writes_query _) ?_
  · apply within_execute
    intro s s' h
    obtain ⟨_, _, rfl⟩ := Store.insertBackend_eq_ok_iff.mp h
    exact .write (.backends kind) List.mem_cons_self _
  · intro found
    cases found with
    | none => exact Within.throw _
    | some b => exact Within.pure b

theorem createPlatform_writes (name type : String) :
    Writes [.platforms] (createPlatform name type) := by
  refine Within.bind ?_ fun _ => writes_query _
  apply within_transact
  intro s n s' h
  obtain ⟨_, _, rfl⟩ := Store.insertPlatform_eq_ok_iff.mp h
  exact .write .platforms List.mem_cons_self _

theorem insertPlatformProtocols_writes (rows : List NewPlatformProtocol) :
    Writes [.platformProtocols] (insertPlatformProtocols rows) :=
  within_transact fun _ _ _ => Store.insertMany_frame fun _ _ _ _ => Store.insertPlatformProtocol_frame

theorem createAsset_writes (id name : String) (platformId : Int) :
    Writes [.assets] (createAsset id name platformId) := by
  apply within_execute
  intro s s' h
  obtain ⟨_, _, rfl⟩ := Store.insertAsset_eq_ok_iff.mp h
  exact .write .assets List.mem_cons_self _

theorem insertAssetProtocols_writes (rows : List NewAssetProtocol) :
    Writes [.assetProtocols] (insertAssetProtocols rows) :=
  within_transact fun _ _ _ => Store.insertMany_frame fun _ _ _ _ => Store.insertAssetProtocol_frame

theorem addAssetProtocol_writes (assetId name : String) (port : Int64) :
    Writes [.assetProtocols] (addAssetProtocol assetId name port) :=
  Within.bind (insertAssetProtocols_writes _) fun _ => Within.pure _

theorem sshProtocolsOf_writes (ids : List String) : Writes parts (sshProtocolsOf ids) := by
  unfold sshProtocolsOf
  split
  · exact Within.pure []
  · exact writes_query _

theorem lockAccounts_writes : Writes [.lock] (execute Store.lockAccounts) := by
  apply within_execute
  intro s s' h
  obtain ⟨_, rfl⟩ := Store.lockAccounts_eq_ok_iff.mp h
  exact .write .lock List.mem_cons_self _

theorem unlockAccounts_writes : Writes [.lock] (execute Store.unlockAccounts) := by
  apply within_execute
  intro s s' h
  obtain ⟨_, rfl⟩ := Store.unlockAccounts_eq_ok_iff.mp h
  exact .write .lock List.mem_cons_self _

theorem close_writes : Writes parts close := fun _ => .refl _

/-- A store in a file is found again as it was. -/
theorem reopen_writes (place : Location) : Writes parts (reopen (.file place)) := by
  intro db
  simp only [reopen, reduceCtorEq, ↓reduceIte, connect]
  cases db.store.spoiledMigration? with
  | some version => exact .refl _
  | none => exact .refl _

end Database

/-! ## The backfill

The platforms' part writes nothing of the assets and the assets' part nothing of the platforms, and
neither touches what belongs to terminals. -/

namespace Backfill

theorem platforms_writes : Database.Writes [.platformProtocols] platforms := by
  refine Within.bind (Database.writes_query _) ?_
  intro candidates
  dsimp only
  split
  · exact Within.pure []
  · exact Within.bind (Database.insertPlatformProtocols_writes _) fun _ => Within.pure _

theorem assets_writes : Database.Writes [.assetProtocols] assets := by
  refine Within.bind (Database.writes_query _) ?_
  intro missing
  apply Within.foldlM
  intro added ids
  refine Within.bind (Within.bind (Database.sshProtocolsOf_writes ids) ?_) fun _ => Within.pure _
  exact fun ssh => Database.insertAssetProtocols_writes (assetPlan ssh)

theorem run_writes : Database.Writes [.platformProtocols, .assetProtocols] run := by
  refine Within.bind (platforms_writes.mono (by simp)) fun _ => ?_
  exact Within.bind (assets_writes.mono (by simp)) fun _ => Within.pure _

end Backfill
end GatewayRegistry
