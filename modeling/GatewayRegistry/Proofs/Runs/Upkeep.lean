import GatewayRegistry.Proofs.Runs.Reachable

/-!
# The upkeep of terminals

`Registry.Upkeep` lists what is asked of the registry about one terminal, through a copy of it, and
may write. Apart from the reset of protocols, each is one transaction or one write to the cache, and
its effect is given here as a function on deployments: for a transaction, a change of the store that
a closed database does not undergo (`Deployment.change`), and for a heartbeat a change of the cache.
-/

namespace GatewayRegistry

/-! ## Changes of the store

What a call leaves behind is written as a change of the store, `attempt tx`, which does nothing
where the statement fails. Changes of this form can be compared without a look at success or
failure. -/

/-- The store after a statement, which leaves it as it is if it fails. -/
def Store.attempt (tx : Store → Except StoreError Store) (s : Store) : Store :=
  match tx s with
  | .ok s' => s'
  | .error _ => s

theorem Store.attempt_ok {tx : Store → Except StoreError Store} {s s' : Store} (h : tx s = .ok s') :
    attempt tx s = s' := by
  rw [attempt, h]

theorem Store.attempt_error {tx : Store → Except StoreError Store} {s : Store} {e : StoreError}
    (h : tx s = .error e) : attempt tx s = s := by
  rw [attempt, h]

/-- Change the store, unless the connections are closed. -/
def Database.change (f : Store → Store) (db : Database) : Database :=
  if db.isOpen then { db with store := f db.store } else db

/-- Change the store, unless the connections are closed. -/
def Deployment.change (f : Store → Store) (d : Deployment) : Deployment :=
  { d with database := d.database.change f }

def Deployment.changeCache (f : Cache → Cache) (d : Deployment) : Deployment :=
  { d with cache := f d.cache }

namespace Database

/-- A transaction leaves behind what it writes, if the database is open. -/
theorem transact_snd {α : Type} (tx : Store.Transaction α) (db : Database) :
    (transact tx db).2 = db.change (Store.attempt fun s => (tx s).map Prod.snd) := by
  unfold transact change
  split
  · cases h : tx db.store with
    | ok r =>
        have hwrite : (tx db.store).map Prod.snd = .ok r.2 := by rw [h]; rfl
        rw [Store.attempt_ok hwrite]
    | error e =>
        have hfail : (tx db.store).map Prod.snd = .error e := by rw [h]; rfl
        rw [Store.attempt_error hfail]
  · rfl

theorem execute_snd (tx : Store → Except StoreError Store) (db : Database) :
    (execute tx db).2 = db.change (Store.attempt tx) := by
  unfold execute
  rw [transact_snd]
  have hmap : (fun s => ((tx s).map fun s => ((), s)).map Prod.snd) = tx := by
    funext s
    cases tx s <;> rfl
  rw [hmap]

theorem change_id (db : Database) : db.change (fun s => s) = db := by
  unfold change
  split <;> rfl

/-- Changes of the store neither open nor close connections. -/
theorem change_isOpen (f : Store → Store) (db : Database) : (db.change f).isOpen = db.isOpen := by
  unfold change
  split <;> rfl

end Database

namespace Store

variable {s : Store}

/-- A terminal that is not there is changed like one that the change does not affect. -/
theorem attempt_changeTerminal (id : String) (change : TerminalRow → TerminalRow) :
    attempt (changeTerminal id change) = updateTerminal id change := by
  funext s
  unfold attempt changeTerminal
  cases hid : s.hasTerminal id with
  | true => rfl
  | false =>
      -- where no row has the id, both do nothing
      have hkeep : s.terminals.map (fun row => if row.id == id then change row else row) =
          s.terminals := by
        refine (List.map_congr_left ?_).trans (List.map_id _)
        intro row hrow
        have hne : row.id ≠ id := by
          intro he
          rw [hasTerminal_iff.mpr ⟨row, hrow, he⟩] at hid
          cases hid
        simp [hne]
      show s = updateTerminal id change s
      rw [updateTerminal, hkeep]

/-- The rows that are found after one of them was changed. -/
theorem terminalRow?_updateTerminal {change : TerminalRow → TerminalRow}
    (keepId : ∀ row, (change row).id = row.id) (id other : String) (s : Store) :
    (s.updateTerminal id change).terminalRow? other =
      (s.terminalRow? other).map fun row => if row.id == id then change row else row := by
  unfold terminalRow? updateTerminal
  rw [List.find?_map]
  -- the row is found by its id, which stays
  have hkey : ((·.id == other) ∘ fun row => if row.id == id then change row else row) =
      fun row : TerminalRow => row.id == other := by
    funext row
    dsimp only [Function.comp]
    split
    · rw [keepId]
    · rfl
  rw [hkey]

/-- The accounts after one of them was enabled or disabled, if one was named. -/
def withAccountActive (account : Option String) (active : Bool) (s : Store) : Store :=
  { s with accounts := s.accounts.map fun a =>
    if some a.id == account then { a with isActive := active } else a }

/-- A switch of an account that is not there does nothing. -/
theorem withAccountActive_of_absent {account : Option String} {active : Bool}
    (h : ∀ a ∈ s.accounts, account ≠ some a.id) : s.withAccountActive account active = s := by
  have hkeep : s.accounts.map (fun a =>
      if some a.id == account then { a with isActive := active } else a) = s.accounts := by
    refine (List.map_congr_left ?_).trans (List.map_id _)
    intro a ha
    exact if_neg fun hsame => h a ha (beq_iff_eq.mp hsame).symm
  unfold withAccountActive
  rw [hkeep]

theorem attempt_updateAccountActive (id : String) (active : Bool) :
    attempt (updateAccountActive id active) = withAccountActive (some id) active := by
  funext s
  unfold attempt updateAccountActive
  cases hid : s.hasAccount id with
  | true => rfl
  | false =>
      show s = s.withAccountActive (some id) active
      rw [withAccountActive_of_absent]
      intro a ha hsame
      rw [hasAccount_iff.mpr ⟨a, ha, (Option.some.inj hsame).symm⟩] at hid
      cases hid

/-- The store after the attempt to delete a terminal. -/
def afterDeletion (id : String) : Store → Store :=
  attempt fun s => (s.softDelete id).map Prod.snd

end Store

/-! ## Upkeep -/

namespace Registry

/-- What is asked of the registry about one terminal, through a copy of it, and may write. -/
inductive Upkeep where
  | resetProtocols
  | setDomains (ids : List String)
  | delete
  | setStorage (command replay : String)
  | accept
  | setActive (enabled : Bool)
  | heartbeat (r : Registry)

def Upkeep.request (t : Terminal) : Upkeep → Request
  | resetProtocols => ⟨_, .resetProtocols t⟩
  | setDomains ids => ⟨_, .setDomains t ids⟩
  | delete => ⟨_, .delete t⟩
  | setStorage command replay => ⟨_, .setStorage t command replay⟩
  | accept => ⟨_, .accept t⟩
  | setActive enabled => ⟨_, .setActive t enabled⟩
  | heartbeat r => ⟨_, .heartbeat r t⟩

def Upkeep.kind : Upkeep → Nat
  | resetProtocols => 0
  | setDomains _ => 1
  | delete => 2
  | setStorage .. => 3
  | accept => 4
  | setActive _ => 5
  | heartbeat _ => 6

variable {α β : Type} (t : Terminal) (d : Deployment)

/-- What is done to the answer of a call does not change the deployment. -/
theorem bind_pure_snd (call : Call α) (f : α → β) :
    ((call >>= fun a => pure (f a)) d).2 = (call d).2 := by
  rw [call_bind]
  rcases call d with ⟨_ | _, d'⟩ <;> rfl

/-- A statement of the store, called by the registry, changes the store or leaves it as it is. -/
theorem onStore_execute_snd (tx : Store → Except StoreError Store) :
    (onStore (Database.execute tx) d).2 = d.change (Store.attempt tx) := by
  rw [onStore_snd, Database.execute_snd]
  rfl

/-- Of a change to a row and to the copy of the caller, the deployment gets the change to the row. -/
theorem changeTerminal_snd (changeRow : TerminalRow → TerminalRow)
    (changeCopy : Terminal → Terminal) :
    (lend t (mirrored (fun t => onStore (Database.execute (Store.changeTerminal t.id changeRow)))
      changeCopy) d).2 = d.change (Store.updateTerminal t.id changeRow) := by
  rw [lend_mirrored, bind_pure_snd, onStore_execute_snd, Store.attempt_changeTerminal]

theorem setDomains_snd (ids : List String) :
    (setDomains t ids d).2 = d.change (Store.attempt (Store.replaceDomains t.id ids)) :=
  onStore_execute_snd d (Store.replaceDomains t.id ids)

theorem delete_snd : (lend t delete d).2 = d.change (Store.afterDeletion t.id) := by
  rw [delete, lend_mirrored, bind_pure_snd, storeCall_snd, Database.softDelete,
    Database.transact_snd]
  rfl

theorem setStorage_snd (command replay : String) :
    (lend t (setStorage command replay) d).2 = d.change (Store.updateTerminal t.id fun row =>
      { row with commandStorage := command, replayStorage := replay }) :=
  changeTerminal_snd t d _ _

theorem accept_snd :
    (lend t accept d).2 =
      d.change (Store.updateTerminal t.id fun row => { row with isAccepted := true }) :=
  changeTerminal_snd t d _ _

/-- A switch goes by the account of the copy. -/
theorem setActive_snd (enabled : Bool) :
    (setActive t enabled d).2 = d.change (Store.withAccountActive t.accountId enabled) := by
  unfold setActive
  cases t.accountId with
  | none =>
      -- without an account nothing is called at all
      have hnone : Store.withAccountActive none enabled = fun s => s := by
        funext s
        apply Store.withAccountActive_of_absent
        intro a _ hsame
        cases hsame
      rw [hnone]
      exact congrArg (fun db => { d with database := db }) d.database.change_id.symm
  | some a =>
      show (onStore (Database.setAccountActive a enabled) d).2 = _
      rw [Database.setAccountActive, onStore_execute_snd, Store.attempt_updateAccountActive]

theorem heartbeat_snd (r : Registry) :
    (r.heartbeat t d).2 = d.changeCache fun c =>
      c.step (.write (Cache.presenceKey t.id) Cache.presenceMark r.ttl) := by
  simp only [heartbeat, writeCache, Cache.setAlive, Deployment.changeCache, Cache.step]
  cases d.cache.set (Cache.presenceKey t.id) Cache.presenceMark r.ttl <;> rfl

end Registry
end GatewayRegistry
