import GatewayRegistry.Backfill
import GatewayRegistry.Proofs.Call
import GatewayRegistry.Proofs.Store.Edit

/-!
# What each call writes

Every call on the database but the deletion of a terminal writes a sequence of edits
(`Database.Edits`), and the deletion retires one terminal or writes nothing
(`Database.softDelete_effect`).
-/

namespace GatewayRegistry

/-! ## Statements

What a statement may write is read off its lemma in `GatewayRegistry.Proofs.Store.Statement`: each
condition that it was let through with becomes a premise of the edit. -/

namespace Store

/-- A sequence of edits. -/
abbrev Edits : Store → Store → Prop := Relation.ReflTransGen Edit

variable {s s' : Store}

/-- What every edit keeps, a sequence of edits keeps. -/
theorem Edits.consistent (h : Edits s s') (hs : s.Consistent) : s'.Consistent := by
  induction h with
  | refl => exact hs
  | tail _ hedit ih => exact hedit.consistent ih

/-- No edit takes a number back. -/
theorem Edits.toExtends (h : Edits s s') : s.Extends s' := by
  induction h with
  | refl => exact .refl s
  | tail _ hedit ih => exact ih.trans hedit.toExtends

theorem insertAccount_edits {a : Account} (h : s.insertAccount a = .ok s') : Edits s s' := by
  obtain ⟨username, id, rfl⟩ := insertAccount_eq_ok_iff.mp h
  exact .single (.addAccount username id)

/-- The row of a new terminal is not deleted and can be read. -/
theorem insertTerminal_edits {id : String} {new : NewTerminal} {accountId : Option String}
    {now : Int64} (h : s.insertTerminal (.ofNew id new accountId now) = .ok s') : Edits s s' := by
  obtain ⟨link, fresh, account, rfl⟩ := insertTerminal_eq_ok_iff.mp h
  exact .single (.addTerminal (TerminalRow.readable_ofNew id new accountId now) rfl link fresh account)

/-- The account of a new terminal comes before its row. -/
theorem insertNewTerminal_edits {id : String} {new : NewTerminal}
    {account : Option (String × String)}
    {now : Int64} (h : s.insertNewTerminal id new account now = .ok s') : Edits s s' := by
  cases account with
  | none =>
      obtain ⟨s₁, h₁, h₂⟩ := bind_eq_ok_iff.mp h
      cases h₁
      exact insertTerminal_edits h₂
  | some a =>
      obtain ⟨s₁, h₁, h₂⟩ := bind_eq_ok_iff.mp h
      exact (insertAccount_edits h₁).trans (insertTerminal_edits h₂)

/-- The parts of a row that may change are those that no key and no view depends on. -/
theorem changeTerminal_edits {id : String} {change : TerminalRow → TerminalRow}
    (change_eq : ∀ row, ∃ accepted command replay, change row =
      { row with isAccepted := accepted, commandStorage := command, replayStorage := replay })
    (h : s.changeTerminal id change = .ok s') : Edits s s' := by
  obtain ⟨_, rfl⟩ := changeTerminal_eq_ok_iff.mp h
  exact .single (.changeTerminal id change_eq)

theorem insertProtocolIfAbsent_edits {name : ProtocolName} {port : UInt16}
    (h : s.insertProtocolIfAbsent name.toText port.toNat true = .ok s') : Edits s s' := by
  obtain ⟨⟨hport, _⟩, rfl⟩ := insertProtocolIfAbsent_eq_ok_iff.mp h
  split
  · exact .single .skipProtocol
  · next habsent =>
      exact .single (.addProtocol (by omega) (Option.not_isSome_iff_eq_none.mp habsent))

/-- All protocols are taken from the terminal, and then it is given one after the other. -/
theorem replaceProtocols_edits {terminalId : String} {ids : List Int}
    (h : s.replaceProtocols terminalId ids = .ok s') : Edits s s' := by
  have hloop := foldlM_induction id Edits ?_ h
  · exact .head (.unserve terminalId) hloop
  · intro s₁ id s₂ h₁
    rcases insertProtocolLink_eq_ok_iff.mp h₁ with ⟨_, rfl⟩ | ⟨fresh, terminal, protocol, rfl⟩
    · exact .refl
    · exact .single (.serve fresh terminal protocol)

theorem replaceDomains_edits {terminalId : String} {ids : List String}
    (h : s.replaceDomains terminalId ids = .ok s') : Edits s s' := by
  have hloop := foldlM_induction id Edits ?_ h
  · exact .head (.unreach terminalId) hloop
  · intro s₁ id s₂ h₁
    rcases insertDomainLink_eq_ok_iff.mp h₁ with ⟨_, rfl⟩ | ⟨fresh, terminal, domain, rfl⟩
    · exact .refl
    · exact .single (.reach fresh terminal domain)

theorem insertPlatformProtocol_edits {new : NewPlatformProtocol} {n : Nat}
    (h : s.insertPlatformProtocol new = .ok (n, s')) : Edits s s' := by
  rcases insertPlatformProtocol_eq_ok_iff.mp h with ⟨_, _, rfl⟩ | ⟨absent, platform, _, rfl⟩
  · exact .single .skipPlatformProtocol
  · exact .single (.addPlatformProtocol absent platform)

theorem insertAssetProtocol_edits {new : NewAssetProtocol} {n : Nat}
    (h : s.insertAssetProtocol new = .ok (n, s')) : Edits s s' := by
  rcases insertAssetProtocol_eq_ok_iff.mp h with ⟨_, _, rfl⟩ | ⟨absent, asset, _, rfl⟩
  · exact .single .skipAssetProtocol
  · exact .single (.addAssetProtocol absent asset)

/-- Many rows are so many edits, if each row is. -/
theorem insertMany_edits {α : Type} {insert : α → Store → Except StoreError (Nat × Store)}
    (hinsert : ∀ x s n s', insert x s = .ok (n, s') → Edits s s') {rows : List α} {n : Nat}
    (h : s.insertMany insert rows = .ok (n, s')) : Edits s s' := by
  refine foldlM_induction Prod.snd Edits ?_ h
  rintro ⟨added, s₁⟩ row ⟨total, s₂⟩ hround
  obtain ⟨⟨m, s₃⟩, hrow, hsum⟩ := bind_eq_ok_iff.mp hround
  cases hsum
  exact hinsert row s₁ m s₂ hrow

theorem insertPlatform_edits {name type : String} {n : Int}
    (h : s.insertPlatform name type = .ok (n, s')) : Edits s s' := by
  obtain ⟨fresh, _, rfl⟩ := insertPlatform_eq_ok_iff.mp h
  exact .single (.addPlatform type fresh)

end Store

/-! ## Calls

Reading is no edit, and a call that writes runs statements in transactions, so what it does is the
sequence of what they do. Whether the call succeeds does not matter: a transaction that fails has
written nothing, and those before it stand. -/

namespace Database

/-- A call that writes edits only. -/
def Edits {α : Type} (call : Call α) : Prop := Within Database.store Store.Edits call

variable {α : Type}

/-- To ask is to write nothing. -/
theorem edits_query (ask : Store → Except StoreError α) : Edits (query ask) := within_query ask

theorem getAccount_edits (id : String) : Edits (getAccount id) := edits_query _

theorem createAccount_edits (id username : String) (now : Int64) :
    Edits (createAccount id username now) := by
  refine Within.bind ?_ fun _ => getAccount_edits id
  exact within_execute fun _ _ => Store.insertAccount_edits

theorem setAccountActive_edits (id : String) (active : Bool) :
    Edits (setAccountActive id active) := by
  apply within_execute
  -- only an existing account is switched
  intro s s' h
  obtain ⟨_, rfl⟩ := Store.updateAccountActive_eq_ok_iff.mp h
  exact .single (.setAccountActive id active)

theorem createSession_edits (id terminalId organizationId : String) (now : Int64) :
    Edits (createSession id terminalId organizationId now) := by
  refine Within.bind ?_ fun _ => edits_query _
  apply within_execute
  intro s s' h
  obtain ⟨fresh, terminal, rfl⟩ := Store.insertSession_eq_ok_iff.mp h
  exact .single (.addSession fresh terminal)

theorem finishSession_edits (id : String) : Edits (finishSession id) := by
  apply within_transact
  intro s a s' h
  cases h
  exact .single (.finishSession id)

theorem getTerminal_edits (id : String) : Edits (getTerminal id) := edits_query _

theorem createTerminal_edits (id : String) (new : NewTerminal) (account : Option (String × String))
    (now : Int64) : Edits (createTerminal id new account now) := by
  refine Within.bind ?_ fun _ => getTerminal_edits id
  exact within_execute fun _ _ => Store.insertNewTerminal_edits

theorem setAccepted_edits (id : String) (accepted : Bool) : Edits (setAccepted id accepted) := by
  apply within_execute
  intro s s' h
  exact Store.changeTerminal_edits (fun row => ⟨accepted, row.commandStorage, row.replayStorage, rfl⟩) h

theorem updateStorage_edits (id command replay : String) :
    Edits (updateStorage id command replay) := by
  apply within_execute
  intro s s' h
  exact Store.changeTerminal_edits (fun row => ⟨row.isAccepted, command, replay, rfl⟩) h

theorem getOrCreateProtocol_edits (name : ProtocolName) (port : UInt16) :
    Edits (getOrCreateProtocol name port) := by
  refine Within.bind ?_ fun _ => edits_query _
  exact within_execute fun _ _ => Store.insertProtocolIfAbsent_edits

theorem getOrCreateProtocols_edits (requests : List ProtocolEntry) :
    Edits (getOrCreateProtocols requests) := by
  apply Within.foldlM
  intro found request
  cases request.resolve? with
  | none => exact Within.pure found -- nothing is asked for
  | some wanted => exact Within.bind (getOrCreateProtocol_edits _ _) fun _ => Within.pure _

theorem replaceProtocols_edits (terminalId : String) (ids : List Int) :
    Edits (replaceProtocols terminalId ids) :=
  within_execute fun _ _ => Store.replaceProtocols_edits

theorem createDomain_edits (id name : String) (now : Int64) : Edits (createDomain id name now) := by
  refine Within.bind ?_ fun _ => edits_query _
  apply within_execute
  intro s s' h
  obtain ⟨name, id, rfl⟩ := Store.insertDomain_eq_ok_iff.mp h
  exact .single (.addDomain name id)

theorem replaceDomains_edits (terminalId : String) (ids : List String) :
    Edits (replaceDomains terminalId ids) :=
  within_execute fun _ _ => Store.replaceDomains_edits

theorem createBackend_edits (kind : BackendKind) (id name type options : String) (now : Int64) :
    Edits (createBackend kind id name type options now) := by
  refine Within.bind ?_ fun _ => Within.bind (edits_query _) ?_
  · apply within_execute
    intro s s' h
    obtain ⟨name, id, rfl⟩ := Store.insertBackend_eq_ok_iff.mp h
    exact .single (.addBackend kind name id)
  · intro found
    cases found with
    | none => exact Within.throw _
    | some b => exact Within.pure b

theorem createPlatform_edits (name type : String) : Edits (createPlatform name type) := by
  refine Within.bind ?_ fun _ => edits_query _
  exact within_transact fun _ _ _ => Store.insertPlatform_edits

theorem insertPlatformProtocols_edits (rows : List NewPlatformProtocol) :
    Edits (insertPlatformProtocols rows) :=
  within_transact fun _ _ _ => Store.insertMany_edits fun _ _ _ _ => Store.insertPlatformProtocol_edits

theorem createAsset_edits (id name : String) (platformId : Int) :
    Edits (createAsset id name platformId) := by
  apply within_execute
  intro s s' h
  obtain ⟨fresh, platform, rfl⟩ := Store.insertAsset_eq_ok_iff.mp h
  exact .single (.addAsset fresh platform)

theorem insertAssetProtocols_edits (rows : List NewAssetProtocol) :
    Edits (insertAssetProtocols rows) :=
  within_transact fun _ _ _ => Store.insertMany_edits fun _ _ _ _ => Store.insertAssetProtocol_edits

theorem addAssetProtocol_edits (assetId name : String) (port : Int64) :
    Edits (addAssetProtocol assetId name port) :=
  Within.bind (insertAssetProtocols_edits _) fun _ => Within.pure _

theorem sshProtocolsOf_edits (ids : List String) : Edits (sshProtocolsOf ids) := by
  rw [sshProtocolsOf]
  split
  · exact Within.pure []
  · exact edits_query _

theorem lockAccounts_edits : Edits (execute Store.lockAccounts) := by
  apply within_execute
  intro s s' h
  obtain ⟨_, rfl⟩ := Store.lockAccounts_eq_ok_iff.mp h
  exact .single (.setLock true)

theorem unlockAccounts_edits : Edits (execute Store.unlockAccounts) := by
  apply within_execute
  intro s s' h
  obtain ⟨_, rfl⟩ := Store.unlockAccounts_eq_ok_iff.mp h
  exact .single (.setLock false)

theorem close_edits : Edits close := fun _ => .refl

/-! ### Deletion -/

/-- The deletion of a terminal retires its row, or fails and writes nothing. -/
theorem softDelete_effect (id : String) (db : Database) :
    (∃ row, db.store.terminalRow? id = some row ∧
        softDelete id db = (.ok row.accountId, { db with store := db.store.retire id row.accountId })) ∨
      ∃ e, softDelete id db = (.error e, db) := by
  rcases transact_cases (Store.softDelete id) db with ⟨account, s, _, htx, h⟩ | ⟨e, h⟩
  · obtain ⟨row, hrow, rfl, rfl⟩ := Store.eq_retire_of_softDelete htx
    exact Or.inl ⟨row, hrow, h⟩
  · exact Or.inr ⟨e, h⟩

end Database

/-! ## The backfill -/

namespace Backfill

open Database (Edits)

theorem platforms_edits : Edits platforms := by
  refine Within.bind (Database.edits_query _) ?_
  intro candidates
  dsimp only
  split
  · exact Within.pure []
  · exact Within.bind (Database.insertPlatformProtocols_edits _) fun _ => Within.pure _

theorem assets_edits : Edits assets := by
  refine Within.bind (Database.edits_query _) ?_
  intro missing
  apply Within.foldlM
  intro added ids
  refine Within.bind (Within.bind (Database.sshProtocolsOf_edits ids) ?_) fun _ => Within.pure _
  exact fun ssh => Database.insertAssetProtocols_edits (assetPlan ssh)

theorem run_edits : Edits run :=
  Within.bind platforms_edits fun _ => Within.bind assets_edits fun _ => Within.pure _

end Backfill
end GatewayRegistry
