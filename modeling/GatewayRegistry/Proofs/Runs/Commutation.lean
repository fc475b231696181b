import GatewayRegistry.Proofs.Runs.Copies
import GatewayRegistry.Proofs.Runs.Upkeep

/-!
# Requests of different kinds change places

A statement reads some columns and writes some, and a change of the store that stays beside them can
be made before or after it: `BesideCatalog`, `BesideReach` and `BesideDeletion` say when, for the
statements on the catalog, on domains and for a deletion. Each kind of upkeep makes a change that is
beside all that the other kinds do, because only single columns of a row are written and never a
whole row that was read earlier.
-/

namespace GatewayRegistry

/-! ## Statements and changes beside them

A change beside a statement is one that the statement neither reads nor writes: it may come before
or after. For each group of statements there is a structure that says what such a change must leave
alone, and for each change that upkeep makes it is shown which structures it satisfies. -/

namespace Store

variable {f : Store → Store}

/-- If a statement does not notice a change, neither does the attempt at it. -/
theorem attempt_map {tx : Store → Except StoreError Store} (h : ∀ s, tx (f s) = (tx s).map f)
    (s : Store) : attempt tx (f s) = f (attempt tx s) := by
  unfold attempt
  rw [h s]
  cases tx s <;> rfl

/-- Whatever every success keeps, the attempt keeps. -/
theorem attempt_keeps {tx : Store → Except StoreError Store} {ρ : Type} (view : Store → ρ)
    (h : ∀ s s', tx s = .ok s' → view s' = view s) (s : Store) : view (attempt tx s) = view s := by
  cases htx : tx s with
  | ok s' =>
      rw [attempt_ok htx]
      exact h s s' htx
  | error e => rw [attempt_error htx]

/-- Rows keep their ids when they are changed. -/
theorem hasTerminal_updateTerminal {change : TerminalRow → TerminalRow}
    (keepId : ∀ row, (change row).id = row.id) (id other : String) (s : Store) :
    (s.updateTerminal id change).hasTerminal other = s.hasTerminal other := by
  unfold hasTerminal updateTerminal
  rw [List.any_map]
  congr 1
  funext row
  show ((if row.id == id then change row else row).id == other) = _
  split
  · rw [keepId]
  · rfl

/-- Changes to rows commute if they commute on a single row; on different rows they always do. -/
theorem updateTerminal_comm {change change' : TerminalRow → TerminalRow}
    (keepId : ∀ row, (change row).id = row.id) (keepId' : ∀ row, (change' row).id = row.id)
    (comm : ∀ row, change (change' row) = change' (change row)) (id id' : String) (s : Store) :
    (s.updateTerminal id' change').updateTerminal id change =
      (s.updateTerminal id change).updateTerminal id' change' := by
  unfold updateTerminal
  dsimp only
  rw [List.map_map, List.map_map]
  congr 1
  apply List.map_congr_left
  intro row _
  dsimp only [Function.comp]
  -- the row may be the one, the other, both or neither
  by_cases hid : row.id = id
  · subst hid
    by_cases hid' : row.id = id'
    · subst hid'
      simp [keepId, keepId', comm]
    · simp [hid', keepId]
  · by_cases hid' : row.id = id'
    · subst hid'
      simp [hid, keepId']
    · simp [hid, hid']

/-! ### The catalog -/

/-- A change of the store that neither has to do with the catalog and its links nor adds or removes
terminals. -/
structure BesideCatalog (f : Store → Store) : Prop where
  protocols : ∀ s protocols, f { s with protocols := protocols } = { f s with protocols := protocols }
  links : ∀ s links, f { s with terminalProtocols := links } = { f s with terminalProtocols := links }
  hasTerminal : ∀ s id, (f s).hasTerminal id = s.hasTerminal id

namespace BesideCatalog

variable (h : BesideCatalog f)

include h

theorem protocols_eq (s : Store) : (f s).protocols = s.protocols := by
  have hsame := congrArg Store.protocols (h.protocols s s.protocols)
  exact hsame

/-- The links are the same in all stores that differ beside the catalog. -/
theorem links_eq (s : Store) : (f s).terminalProtocols = s.terminalProtocols := by
  have hsame := congrArg Store.terminalProtocols (h.links s s.terminalProtocols)
  exact hsame

theorem hasProtocol_eq (id : Int) (s : Store) : (f s).hasProtocol id = s.hasProtocol id := by
  unfold hasProtocol
  rw [h.protocols_eq]

/-- An entry is inserted by what the catalog holds and into the catalog. -/
theorem insertProtocolIfAbsent (name : String) (port : Int) (builtin : Bool) (s : Store) :
    (f s).insertProtocolIfAbsent name port builtin =
      (s.insertProtocolIfAbsent name port builtin).map f := by
  unfold Store.insertProtocolIfAbsent protocolRow?
  rw [h.protocols_eq]
  split
  · rfl
  · split
    · exact congrArg Except.ok (h.protocols s _).symm
    · exact congrArg Except.ok (h.protocols s _).symm

theorem insertProtocolLink (link : ProtocolLink) (s : Store) :
    (f s).insertProtocolLink link = (s.insertProtocolLink link).map f := by
  unfold Store.insertProtocolLink
  rw [h.hasProtocol_eq, h.links_eq, h.hasTerminal]
  split
  · rfl
  · split
    · rfl
    · exact congrArg Except.ok (h.links s _).symm

/-- Links are replaced one after the other, so it is enough to look at one. -/
theorem replaceProtocols (terminalId : String) (ids : List Int) (s : Store) :
    (f s).replaceProtocols terminalId ids = (s.replaceProtocols terminalId ids).map f := by
  unfold Store.replaceProtocols
  rw [h.links_eq, ← h.links]
  exact foldlM_map f (fun s id => h.insertProtocolLink ⟨terminalId, id⟩ s) ids _

end BesideCatalog

/-! ### Domains -/

/-- A change of the store that neither has to do with domains and their links nor adds or removes
terminals. -/
structure BesideReach (f : Store → Store) : Prop where
  links : ∀ s links, f { s with terminalDomains := links } = { f s with terminalDomains := links }
  domains : ∀ s, (f s).domains = s.domains
  hasTerminal : ∀ s id, (f s).hasTerminal id = s.hasTerminal id

namespace BesideReach

variable (h : BesideReach f)

include h

theorem links_eq (s : Store) : (f s).terminalDomains = s.terminalDomains := by
  have hsame := congrArg Store.terminalDomains (h.links s s.terminalDomains)
  exact hsame

theorem hasDomain_eq (id : String) (s : Store) : (f s).hasDomain id = s.hasDomain id := by
  unfold hasDomain
  rw [h.domains]

theorem insertDomainLink (link : DomainLink) (s : Store) :
    (f s).insertDomainLink link = (s.insertDomainLink link).map f := by
  unfold Store.insertDomainLink
  rw [h.hasDomain_eq, h.links_eq, h.hasTerminal]
  split
  · rfl
  · split
    · rfl
    · exact congrArg Except.ok (h.links s _).symm

theorem replaceDomains (terminalId : String) (ids : List String) (s : Store) :
    (f s).replaceDomains terminalId ids = (s.replaceDomains terminalId ids).map f := by
  unfold Store.replaceDomains
  rw [h.links_eq, ← h.links]
  exact foldlM_map f (fun s id => h.insertDomainLink ⟨terminalId, id⟩ s) ids _

end BesideReach

/-! ### Deletions

A deletion reads the account of a row, the lock, the accounts and the links to them, and writes rows
and accounts. It also fails in the middle, with the row marked already; so the changes beside it are
described by what they do to each of its steps. -/

/-- The store without an account. -/
def withoutAccount (account : String) (s : Store) : Store :=
  { s with accounts := s.accounts.filter (·.id != account) }

/-- A change of the store that a deletion does not notice: it may write to accounts and terminal
rows, but not to the columns that a deletion reads or writes. -/
structure BesideDeletion (f : Store → Store) : Prop where
  linkOf : ∀ s id, ((f s).terminalRow? id).map (·.accountId) = (s.terminalRow? id).map (·.accountId)
  linked : ∀ s account, ((f s).terminals.any (·.accountId == some account)) =
    s.terminals.any (·.accountId == some account)
  mark : ∀ s id, f (s.markDeleted id) = (f s).markDeleted id
  locked : ∀ s, (f s).accountsLocked = s.accountsLocked
  hasAccount : ∀ s account, (f s).hasAccount account = s.hasAccount account
  remove : ∀ s account, f (s.withoutAccount account) = (f s).withoutAccount account

namespace BesideDeletion

variable (h : BesideDeletion f)

include h

/-- An account is deleted in the same way before and after the change. -/
theorem deleteAccount (account : String) (s : Store) :
    (f s).deleteAccount account = (s.deleteAccount account).map f := by
  -- the statement, opened once for both stores
  have hopened : ∀ s : Store, s.deleteAccount account =
      if !s.hasAccount account then .ok s
      else if s.accountsLocked then .error (.rejected .accountLocked)
      else if s.terminals.any (·.accountId == some account) then .error (.rejected .dangling)
      else .ok (s.withoutAccount account) := fun _ => rfl
  rw [hopened, hopened, h.hasAccount, h.locked, h.linked]
  split
  · rfl
  · split
    · rfl
    · split
      · rfl
      · exact congrArg Except.ok (h.remove s account).symm

theorem softDelete (id : String) (s : Store) :
    (f s).softDelete id = (s.softDelete id).map (Prod.map (fun account => account) f) := by
  have hlink := h.linkOf s id
  unfold Store.softDelete
  cases hrow : s.terminalRow? id with
  | none =>
      rw [hrow, Option.map_none, Option.map_eq_none_iff] at hlink
      rw [hlink]
      rfl
  | some row =>
      rw [hrow, Option.map_some, Option.map_eq_some_iff] at hlink
      obtain ⟨row', hrow', haccount⟩ := hlink
      -- the account is deleted from the store with the mark, which is made before or after the
      -- change
      have hmark := h.mark s id
      unfold markDeleted at hmark
      rw [hrow']
      dsimp only
      rw [haccount, ← hmark]
      cases row.accountId with
      | none => rfl
      | some account =>
          dsimp only
          rw [h.deleteAccount]
          cases (s.updateTerminal id _).deleteAccount account <;> rfl

theorem afterDeletion (id : String) (s : Store) :
    (f s).afterDeletion id = f (s.afterDeletion id) := by
  refine attempt_map (fun s => ?_) s
  rw [h.softDelete id s]
  cases s.softDelete id <;> rfl

end BesideDeletion

theorem hasTerminal_afterDeletion (id other : String) (s : Store) :
    (s.afterDeletion id).hasTerminal other = s.hasTerminal other := by
  refine attempt_keeps (fun s => s.hasTerminal other) ?_ s
  intro s s' h
  cases hdelete : s.softDelete id with
  | error e =>
      rw [hdelete] at h
      cases h
  | ok r =>
      rw [hdelete] at h
      obtain rfl := Except.ok.inj h
      obtain ⟨row, _, _, hretire⟩ := eq_retire_of_softDelete hdelete
      rw [← hretire]
      refine hasTerminal_updateTerminal ?_ id other s
      intro row
      rfl

theorem terminals_replaceDomains (terminalId : String) (ids : List String) (s : Store) :
    (attempt (Store.replaceDomains terminalId ids) s).terminals = s.terminals := by
  refine attempt_keeps Store.terminals ?_ s
  intro s s' h
  refine (foldlM_induction Store.terminals Eq ?_ h).symm
  intro s id s' h
  rcases insertDomainLink_eq_ok_iff.mp h with ⟨_, rfl⟩ | ⟨_, _, _, rfl⟩
  · rfl
  · rfl

/-! ### The changes that upkeep makes -/

section

variable (id : String) (account : Option String) (active : Bool) {change : TerminalRow → TerminalRow}
  (keepId : ∀ row, (change row).id = row.id)

theorem besideCatalog_withAccountActive : BesideCatalog (withAccountActive account active) :=
  ⟨fun _ _ => rfl, fun _ _ => rfl, fun _ _ => rfl⟩

theorem besideReach_withAccountActive : BesideReach (withAccountActive account active) :=
  ⟨fun _ _ => rfl, fun _ => rfl, fun _ _ => rfl⟩

/-- The account may be removed before or after it is enabled or disabled. -/
theorem besideDeletion_withAccountActive : BesideDeletion (withAccountActive account active) where
  linkOf _ _ := rfl
  linked _ _ := rfl
  mark _ _ := rfl
  locked _ := rfl
  -- the flag is part of no look-up
  hasAccount := by
    intro s account
    unfold hasAccount withAccountActive
    rw [List.any_map]
    congr 1
    funext a
    dsimp only [Function.comp]
    split <;> rfl
  remove := by
    intro s account
    unfold withAccountActive withoutAccount
    dsimp only
    rw [List.filter_map]
    congr 3
    funext a
    dsimp only [Function.comp]
    split <;> rfl

include keepId

theorem besideCatalog_updateTerminal : BesideCatalog (updateTerminal id change) :=
  ⟨fun _ _ => rfl, fun _ _ => rfl, fun s other => hasTerminal_updateTerminal keepId id other s⟩

theorem besideReach_updateTerminal : BesideReach (updateTerminal id change) :=
  ⟨fun _ _ => rfl, fun _ => rfl, fun s other => hasTerminal_updateTerminal keepId id other s⟩

/-- A change of a row that neither reads nor writes its account and its mark. -/
theorem besideDeletion_updateTerminal (keepAccount : ∀ row, (change row).accountId = row.accountId)
    (comm : ∀ row, change { row with accountId := none, isDeleted := true } =
      { change row with accountId := none, isDeleted := true }) :
    BesideDeletion (updateTerminal id change) where
  linkOf := by
    intro s other
    -- the row that is found may have been changed, but not in its account
    rw [terminalRow?_updateTerminal keepId, Option.map_map]
    congr 1
    funext row
    dsimp only [Function.comp]
    split
    · rw [keepAccount]
    · rfl
  linked := by
    intro s account
    unfold updateTerminal
    rw [List.any_map]
    congr 1
    funext row
    dsimp only [Function.comp]
    split
    · rw [keepAccount]
    · rfl
  mark := by
    intro s other
    refine updateTerminal_comm keepId ?_ comm id other s
    intro row
    rfl
  locked _ := rfl
  hasAccount _ _ := rfl
  remove _ _ := rfl

end

theorem besideCatalog_afterDeletion (id : String) : BesideCatalog (afterDeletion id) where
  protocols s protocols := by
    have hbeside : BesideDeletion fun s => { s with protocols := protocols } :=
      ⟨fun _ _ => rfl, fun _ _ => rfl, fun _ _ => rfl, fun _ => rfl, fun _ _ => rfl, fun _ _ => rfl⟩
    exact hbeside.afterDeletion id s
  links s links := by
    have hbeside : BesideDeletion fun s => { s with terminalProtocols := links } :=
      ⟨fun _ _ => rfl, fun _ _ => rfl, fun _ _ => rfl, fun _ => rfl, fun _ _ => rfl, fun _ _ => rfl⟩
    exact hbeside.afterDeletion id s
  hasTerminal s other := hasTerminal_afterDeletion id other s

/-- A deletion leaves links to domains, and the domains, as they are. -/
theorem besideReach_afterDeletion (id : String) : BesideReach (afterDeletion id) where
  links s links := by
    -- conversely, a deletion does not look at links to domains
    have hbeside : BesideDeletion fun s => { s with terminalDomains := links } :=
      ⟨fun _ _ => rfl, fun _ _ => rfl, fun _ _ => rfl, fun _ => rfl, fun _ _ => rfl, fun _ _ => rfl⟩
    exact hbeside.afterDeletion id s
  domains s := by
    refine attempt_keeps Store.domains ?_ s
    intro s s' h
    cases hdelete : s.softDelete id with
    | error e =>
        rw [hdelete] at h
        cases h
    | ok r =>
        rw [hdelete] at h
        obtain rfl := Except.ok.inj h
        obtain ⟨row, _, _, hretire⟩ := eq_retire_of_softDelete hdelete
        rw [← hretire]
        rfl
  hasTerminal s other := hasTerminal_afterDeletion id other s

theorem besideCatalog_replaceDomains (terminalId : String) (ids : List String) :
    BesideCatalog (attempt (replaceDomains terminalId ids)) where
  protocols s protocols := by
    have hbeside : BesideReach fun s => { s with protocols := protocols } :=
      ⟨fun _ _ => rfl, fun _ => rfl, fun _ _ => rfl⟩
    exact attempt_map (hbeside.replaceDomains terminalId ids) s
  links s links := by
    have hbeside : BesideReach fun s => { s with terminalProtocols := links } :=
      ⟨fun _ _ => rfl, fun _ => rfl, fun _ _ => rfl⟩
    exact attempt_map (hbeside.replaceDomains terminalId ids) s
  hasTerminal s other := by
    unfold hasTerminal
    rw [terminals_replaceDomains]

end Store

/-! ## Calls and changes beside them

A change to the store is carried over to databases and deployments. A closed database is not
changed, just as no statement is run on it, so the cases open and closed agree. -/

namespace Database

variable {α : Type} {f : Store → Store}

/-- A transaction does not notice a change that its statements do not notice. -/
theorem indifferent_transact {tx : Store.Transaction α}
    (h : ∀ s, tx (f s) = (tx s).map (Prod.map (fun a => a) f)) :
    Indifferent (change f) (transact tx) := by
  intro db
  cases hopen : db.isOpen with
  | false =>
      -- on a closed database neither the change nor the transaction happens
      have hsame : db.change f = db := by simp [change, hopen]
      rw [hsame, transact_closed hopen, hsame]
  | true =>
      have hchanged : ∀ s : Store, change f { db with store := s } = { db with store := f s } := by
        intro s
        simp [change, hopen]
      have hstart : (db.change f).store = f db.store := by simp [change, hopen]
      have hstill : (db.change f).isOpen = true := by simp [change, hopen]
      cases htx : tx db.store with
      | error e =>
          have hfail : tx (db.change f).store = .error e := by rw [hstart, h, htx]; rfl
          rw [transact_error hstill hfail, transact_error hopen htx]
      | ok r =>
          have hwrite : tx (db.change f).store = .ok (r.1, f r.2) := by rw [hstart, h, htx]; rfl
          rw [transact_ok hstill hwrite, transact_ok hopen htx, hchanged]
          simp [change, hopen]

theorem indifferent_execute {tx : Store → Except StoreError Store}
    (h : ∀ s, tx (f s) = (tx s).map f) : Indifferent (change f) (execute tx) := by
  apply indifferent_transact
  intro s
  rw [h s]
  cases tx s <;> rfl

theorem indifferent_query {ask : Store → Except StoreError α} (h : ∀ s, ask (f s) = ask s) :
    Indifferent (change f) (query ask) := by
  apply indifferent_transact
  intro s
  rw [h s]
  cases ask s <;> rfl

/-- Entries are got by statements that look at the catalog only. -/
theorem indifferent_getOrCreateProtocols (h : Store.BesideCatalog f)
    (requests : List ProtocolEntry) :
    Indifferent (change f) (getOrCreateProtocols requests) := by
  apply Indifferent.foldlM
  intro found request
  cases request.resolve? with
  | none => exact Indifferent.pure found
  | some wanted =>
      refine Indifferent.bind (Indifferent.bind ?_ fun _ => ?_) fun _ => Indifferent.pure _
      · exact indifferent_execute (h.insertProtocolIfAbsent _ _ true)
      · apply indifferent_query
        intro s
        unfold Store.protocolRow?
        rw [h.protocols_eq]

end Database

namespace Registry

variable {α : Type} {f : Store → Store} (t : Terminal)

/-- What a call on the database does not notice, the deployment does not notice. -/
theorem indifferent_storeCall {call : Database.Call α} (h : Indifferent (Database.change f) call)
    (reword : StoreError → RegistryError) :
    Indifferent (Deployment.change f) (storeCall reword call) := by
  intro d
  unfold storeCall Deployment.change
  dsimp only
  rw [h d.database]
  rcases call d.database with ⟨_ | _, db⟩ <;> rfl

/-- A call on the store does not notice what happens to the cache. -/
theorem indifferent_storeCall_cache (g : Cache → Cache) (reword : StoreError → RegistryError)
    (call : Database.Call α) :
    Indifferent (Deployment.changeCache g) (storeCall reword call) := by
  intro d
  unfold storeCall Deployment.changeCache
  dsimp only
  rcases call d.database with ⟨_ | _, db⟩ <;> rfl

/-- What is written to the copy has nothing to do with the deployment. -/
theorem indifferent_lend {call : Terminal → Call α} {g : Deployment → Deployment} {t : Terminal}
    (h : Indifferent g (call t)) (change : Terminal → Terminal) :
    Indifferent g (lend t (mirrored call change)) := by
  rw [lend_mirrored]
  exact Indifferent.bind h fun _ => Indifferent.pure _

/-- The two parts of a reset: entries are got, and links replaced. -/
theorem indifferent_resetProtocols {change : Deployment → Deployment}
    (hget : ∀ requests, Indifferent change (getOrCreateProtocols requests))
    (hreplace : ∀ ids, Indifferent change (onStore (Database.replaceProtocols t.id ids))) :
    Indifferent change (resetProtocols t) := by
  unfold resetProtocols defaultProtocols
  refine Indifferent.bind ?_ fun protocols => ?_
  · cases ProtocolEntry.defaults? t.type with
    | none => exact Indifferent.throw _
    | some requests => exact hget requests
  · exact Indifferent.bind (hreplace _) fun _ => Indifferent.pure protocols

/-! ## Two kinds of upkeep

There are seven kinds, and for each two of them one is shown not to notice what the other does. The
kinds are numbered so that the one with the smaller number is the one that calls more statements,
and the other is reduced to the change that it makes. -/

/-- A reset concerns the catalog and the links to it. -/
theorem resetProtocols_beside (h : Store.BesideCatalog f) :
    Indifferent (Deployment.change f) (resetProtocols t) := by
  apply indifferent_resetProtocols
  · intro requests
    exact indifferent_storeCall (Database.indifferent_getOrCreateProtocols h requests) _
  · intro ids
    exact indifferent_storeCall (Database.indifferent_execute (h.replaceProtocols t.id ids)) _

/-- Setting domains concerns the links to them. -/
theorem setDomains_beside (h : Store.BesideReach f) (ids : List String) :
    Indifferent (Deployment.change f) (setDomains t ids) :=
  indifferent_storeCall (Database.indifferent_execute (h.replaceDomains t.id ids)) _

theorem delete_beside (h : Store.BesideDeletion f) :
    Indifferent (Deployment.change f) (lend t delete) :=
  indifferent_lend (indifferent_storeCall (Database.indifferent_transact (h.softDelete t.id)) _) _

/-- A change of a terminal row does not notice a change that it can be swapped with. -/
theorem changeTerminal_beside {id : String} {change : TerminalRow → TerminalRow}
    (hthere : ∀ s, (f s).hasTerminal id = s.hasTerminal id)
    (hcomm : ∀ s, (f s).updateTerminal id change = f (s.updateTerminal id change)) :
    Indifferent (Deployment.change f) (onStore (Database.execute (Store.changeTerminal id change))) := by
  refine indifferent_storeCall (Database.indifferent_execute fun s => ?_) _
  unfold Store.changeTerminal
  rw [hthere, hcomm]
  split <;> rfl

theorem accept_beside_setActive (account : Option String) (enabled : Bool) :
    Indifferent (Deployment.change (Store.withAccountActive account enabled)) (lend t accept) := by
  refine indifferent_lend ?_ _
  exact changeTerminal_beside (fun _ => rfl) fun _ => rfl

theorem setStorage_beside_setActive (command replay : String) (account : Option String)
    (enabled : Bool) :
    Indifferent (Deployment.change (Store.withAccountActive account enabled))
      (lend t (setStorage command replay)) := by
  refine indifferent_lend ?_ _
  exact changeTerminal_beside (fun _ => rfl) fun _ => rfl

/-- The two write different columns, perhaps of one row. -/
theorem setStorage_beside_accept (command replay id : String) :
    Indifferent (Deployment.change (Store.updateTerminal id fun row => { row with isAccepted := true }))
      (lend t (setStorage command replay)) := by
  refine indifferent_lend (changeTerminal_beside ?_ ?_) _
  · intro s
    refine Store.hasTerminal_updateTerminal ?_ id t.id s
    intro row
    rfl
  · intro s
    refine Store.updateTerminal_comm ?_ ?_ ?_ t.id id s
    all_goals
      intro row
      rfl

/-- A switch of an account has nothing to do with the cache. -/
theorem setActive_beside_cache (g : Cache → Cache) (enabled : Bool) :
    Indifferent (Deployment.changeCache g) (setActive t enabled) := by
  unfold setActive
  cases t.accountId with
  | none => exact Indifferent.pure ()
  | some a => exact indifferent_storeCall_cache g _ _

/-- Neither a reset nor a deletion notices a change of a terminal row that leaves its id, its
account and its mark alone. -/
theorem Upkeep.beside_updateTerminal {u : Upkeep} (h : u.kind < 3) (t : Terminal) (id : String)
    {change : TerminalRow → TerminalRow} (keepId : ∀ row, (change row).id = row.id)
    (keepAccount : ∀ row, (change row).accountId = row.accountId)
    (comm : ∀ row, change { row with accountId := none, isDeleted := true } =
      { change row with accountId := none, isDeleted := true }) :
    Indifferent (Deployment.change (Store.updateTerminal id change)) (u.request t).2.run := by
  cases u with
  | resetProtocols => exact resetProtocols_beside t (Store.besideCatalog_updateTerminal id keepId)
  | setDomains ids => exact setDomains_beside t (Store.besideReach_updateTerminal id keepId) ids
  | delete => exact delete_beside t (Store.besideDeletion_updateTerminal id keepId keepAccount comm)
  | _ => simp [kind] at h

/-- Nothing that comes before a switch in the order of kinds looks at the flag of an account. -/
theorem Upkeep.beside_setActive {u : Upkeep} (h : u.kind < 5) (t : Terminal)
    (account : Option String)
    (enabled : Bool) :
    Indifferent (Deployment.change (Store.withAccountActive account enabled)) (u.request t).2.run := by
  cases u with
  | resetProtocols => exact resetProtocols_beside t (Store.besideCatalog_withAccountActive _ _)
  | setDomains ids => exact setDomains_beside t (Store.besideReach_withAccountActive _ _) ids
  | delete => exact delete_beside t (Store.besideDeletion_withAccountActive _ _)
  | setStorage command replay => exact setStorage_beside_setActive t command replay _ _
  | accept => exact accept_beside_setActive t _ _
  | _ => simp [kind] at h

/-- All upkeep but heartbeats is done in the database. -/
theorem Upkeep.beside_cache {u : Upkeep} (h : u.kind < 6) (t : Terminal) (g : Cache → Cache) :
    Indifferent (Deployment.changeCache g) (u.request t).2.run := by
  cases u with
  | resetProtocols =>
      apply indifferent_resetProtocols
      · intro requests
        exact indifferent_storeCall_cache g _ _
      · intro ids
        exact indifferent_storeCall_cache g _ _
  | setDomains ids => exact indifferent_storeCall_cache g _ _
  | setActive enabled => exact setActive_beside_cache t g enabled
  | delete | setStorage | accept => exact indifferent_lend (indifferent_storeCall_cache g _ _) _
  | heartbeat => simp [kind] at h

/-- Upkeep is indifferent to upkeep of the kinds that come later in the list. -/
theorem Upkeep.indifferent {u u' : Upkeep} (h : u.kind < u'.kind) (t t' : Terminal) :
    Indifferent (fun d => ((u'.request t').2.run d).2) (u.request t).2.run := by
  cases u' with
  | resetProtocols => cases h
  | setDomains ids =>
      have hdone : (fun d => ((request t' (.setDomains ids)).2.run d).2) = _ :=
        funext fun d => setDomains_snd t' d ids
      rw [hdone]
      cases u with
      | resetProtocols =>
          exact resetProtocols_beside t (Store.besideCatalog_replaceDomains t'.id ids)
      | _ => simp [kind] at h
  | delete =>
      have hdone : (fun d => ((request t' .delete).2.run d).2) = _ := funext (delete_snd t')
      rw [hdone]
      cases u with
      | resetProtocols => exact resetProtocols_beside t (Store.besideCatalog_afterDeletion t'.id)
      | setDomains ids => exact setDomains_beside t (Store.besideReach_afterDeletion t'.id) ids
      | _ => simp [kind] at h
  | setStorage command replay =>
      have hdone : (fun d => ((request t' (.setStorage command replay)).2.run d).2) = _ :=
        funext fun d => setStorage_snd t' d command replay
      rw [hdone]
      exact beside_updateTerminal h t t'.id (fun _ => rfl) (fun _ => rfl) fun _ => rfl
  | accept =>
      have hdone : (fun d => ((request t' .accept).2.run d).2) = _ := funext (accept_snd t')
      rw [hdone]
      cases u with
      | setStorage command replay => exact setStorage_beside_accept t command replay t'.id
      | resetProtocols | setDomains | delete =>
          exact beside_updateTerminal (by simp [kind]) t t'.id (fun _ => rfl) (fun _ => rfl) fun _ => rfl
      | _ => simp [kind] at h
  | setActive enabled =>
      have hdone : (fun d => ((request t' (.setActive enabled)).2.run d).2) = _ :=
        funext fun d => setActive_snd t' d enabled
      rw [hdone]
      exact beside_setActive h t _ enabled
  | heartbeat r =>
      have hdone : (fun d => ((request t' (.heartbeat r)).2.run d).2) = _ :=
        funext fun d => heartbeat_snd t' d r
      rw [hdone]
      exact beside_cache h t _

end Registry

namespace Deployment

/-- Two requests of different kinds, about one terminal or two and through whatever copies, leave
the same behind in either order: all tables, all numbers that were given out and the cache. So all
that is asked later on is answered alike, also if one of the two fails in one of the orders only. -/
theorem upkeep_commutes (d : Deployment) (t t' : Terminal) (u u' : Registry.Upkeep)
    (hkind : u.kind ≠ u'.kind) :
    d.after [u.request t, u'.request t'] = d.after [u'.request t', u.request t] := by
  rcases Nat.lt_or_gt_of_ne hkind with h | h
  · exact ((Registry.Upkeep.indifferent h t t').swap d).symm
  · exact (Registry.Upkeep.indifferent h t' t).swap d

/-- The account of a terminal is enabled through a copy before or after the terminal is deleted,
which fails once the account is gone. -/
theorem upkeep_commutes_of_deletion :
    let d := oneTerminal
    (Registry.setActive newcomer false (d.after [Registry.Upkeep.delete.request newcomer])).1 =
        .error (.notFound (.account "a")) ∧
      (Registry.setActive newcomer false d).1 = .ok () ∧
      d.after [(Registry.Upkeep.setActive false).request newcomer,
          Registry.Upkeep.delete.request newcomer] =
        d.after [Registry.Upkeep.delete.request newcomer,
          (Registry.Upkeep.setActive false).request newcomer] :=
  ⟨rfl, rfl, upkeep_commutes oneTerminal newcomer newcomer (.setActive false) .delete (by decide)⟩

end Deployment
end GatewayRegistry
