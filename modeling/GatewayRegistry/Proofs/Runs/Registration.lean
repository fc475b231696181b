import GatewayRegistry.Proofs.Runs.Copies
import GatewayRegistry.Proofs.Store.Failure

/-!
# Registrations

A registration needs nothing but that its ids and its username are free (`Store.Free`). It adds one
terminal row and, if it brings an account, one account row (`Store.registered`), and what it gives
back is all that the newcomer brought along (`NewTerminal.registered`). A username that is taken
stays so until the terminal whose account has it is deleted (`Reachable.username_run`).
-/

namespace GatewayRegistry

/-! ## Newcomers

The row of a new terminal, the account that comes with it, and what has to be free for both. An
account that is new has no terminal yet, so in a consistent store the uniqueness of links is no
further condition. -/

/-- The terminal that a newcomer becomes. -/
def NewTerminal.registered (new : NewTerminal) (id : String) (accountId : Option String)
    (now : Int64) : Terminal where
  id := id
  name := new.name
  type := new.type
  remoteAddress := new.remoteAddress
  sshPort := new.sshPort
  httpPort := new.httpPort
  commandStorage := new.commandStorage
  replayStorage := new.replayStorage
  accountId := accountId
  isAccepted := false
  isDeleted := false
  comment := new.comment
  createdAt := now

/-- Nothing that a newcomer brings along is lost in its row. -/
@[simp] theorem TerminalRow.described_ofNew (id : String) (new : NewTerminal)
    (accountId : Option String) (now : Int64) :
    (ofNew id new accountId now).described = new.registered id accountId now := by
  simp [described, ofNew, NewTerminal.registered]

namespace Store

variable {s s' : Store} {id : String} {account : Option (String × String)}

/-- The id of a newcomer is free, and so are the id and the username of its account. -/
structure Free (s : Store) (id : String) (account : Option (String × String)) : Prop where
  terminal : ∀ row ∈ s.terminals, row.id ≠ id
  accountId : ∀ a username, account = some (a, username) → ∀ x ∈ s.accounts, x.id ≠ a
  username : ∀ a username, account = some (a, username) → ∀ x ∈ s.accounts, x.username ≠ username

/-- Without an account only the id has to be free. -/
theorem free_none_iff : s.Free id none ↔ ∀ row ∈ s.terminals, row.id ≠ id := by
  constructor
  · intro h
    exact h.terminal
  · intro h
    exact ⟨h, by simp, by simp⟩

theorem free_some_iff {a username : String} :
    s.Free id (some (a, username)) ↔
      (∀ row ∈ s.terminals, row.id ≠ id) ∧ (∀ x ∈ s.accounts, x.id ≠ a) ∧
        ∀ x ∈ s.accounts, x.username ≠ username := by
  constructor
  · intro h
    exact ⟨h.terminal, h.accountId a username rfl, h.username a username rfl⟩
  · rintro ⟨hid, haccountId, husername⟩
    refine ⟨hid, ?_, ?_⟩
    · rintro _ _ ⟨⟩
      exact haccountId
    · rintro _ _ ⟨⟩
      exact husername

/-- The store with one terminal more, and with one enabled account more if the terminal brings
one. -/
def registered (s : Store) (id : String) (new : NewTerminal) (account : Option (String × String))
    (now : Int64) : Store :=
  { s with
    terminals := s.terminals ++ [.ofNew id new (account.map (·.1)) now]
    accounts := s.accounts ++ account.toList.map fun a => ⟨a.1, a.2, true, now⟩ }

theorem mem_registered {new : NewTerminal} {now : Int64} :
    TerminalRow.ofNew id new (account.map (·.1)) now ∈ (s.registered id new account now).terminals :=
  List.mem_append_right _ List.mem_cons_self

/-- No row can refer to an account that is not there yet, so what is free is never refused. -/
theorem insertNewTerminal_eq_ok_iff (hs : s.Consistent) (new : NewTerminal) (now : Int64) :
    s.insertNewTerminal id new account now = .ok s' ↔
      s.Free id account ∧ s.registered id new account now = s' := by
  cases account with
  | none =>
      show s.insertTerminal (.ofNew id new none now) = .ok s' ↔ _
      rw [insertTerminal_eq_ok_iff, free_none_iff]
      constructor
      · rintro ⟨-, hid, -, rfl⟩
        exact ⟨hid, by simp [registered]⟩
      · rintro ⟨hid, rfl⟩
        refine ⟨fun a ha => ?_, hid, fun a ha => ?_, by simp [registered]⟩
        · cases ha
        · cases ha
  | some account =>
      obtain ⟨a, username⟩ := account
      show (s.insertAccount ⟨a, username, true, now⟩ >>=
        insertTerminal (.ofNew id new (some a) now)) = .ok s' ↔ _
      rw [bind_eq_ok_iff, free_some_iff]
      constructor
      · rintro ⟨s₁, haccount, hterminal⟩
        obtain ⟨husername, haccountId, rfl⟩ := insertAccount_eq_ok_iff.mp haccount
        obtain ⟨-, hid, -, rfl⟩ := insertTerminal_eq_ok_iff.mp hterminal
        exact ⟨⟨hid, haccountId, husername⟩, rfl⟩
      · rintro ⟨⟨hid, haccountId, husername⟩, rfl⟩
        refine ⟨_, insertAccount_eq_ok_iff.mpr ⟨husername, haccountId, rfl⟩,
          insertTerminal_eq_ok_iff.mpr ⟨?_, hid, ?_, rfl⟩⟩
        -- a link to the new account would have been a link to nothing before
        · rintro _ ⟨⟩ other hother hlink
          obtain ⟨x, hx, hxa⟩ := hs.linkedAccounts other hother a hlink
          exact haccountId x hx hxa
        · rintro _ ⟨⟩
          exact ⟨⟨a, username, true, now⟩, by simp, rfl⟩

/-! ## Usernames -/

/-- No edit takes a username away. -/
theorem Edit.username (e : Edit s s') {x : Account} (hx : x ∈ s.accounts) :
    ∃ y ∈ s'.accounts, y.username = x.username := by
  cases e with
  | addAccount => exact ⟨x, List.mem_append_left _ hx, rfl⟩
  | setAccountActive id active =>
      refine ⟨_, List.mem_map_of_mem hx, ?_⟩
      split <;> rfl
  | addBackend kind => cases kind <;> exact ⟨x, hx, rfl⟩
  | _ => exact ⟨x, hx, rfl⟩

/-- A name that is taken stays taken through any edits. -/
theorem Edits.username (h : Edits s s') {x : Account} (hx : x ∈ s.accounts) :
    ∃ y ∈ s'.accounts, y.username = x.username := by
  induction h with
  | refl => exact ⟨x, hx, rfl⟩
  | tail _ hedit ih =>
      obtain ⟨y, hy, hxy⟩ := ih
      obtain ⟨z, hz, hyz⟩ := hedit.username hy
      exact ⟨z, hz, hyz.trans hxy⟩

/-- A deletion takes one username away at most: the one of the account of the terminal. -/
theorem Consistent.username_retire (hs : s.Consistent) {x : Account} (hx : x ∈ s.accounts)
    (accountId : Option String) :
    (∀ y ∈ (s.retire id accountId).accounts, y.username ≠ x.username) ↔ accountId = some x.id := by
  constructor
  · intro hfree
    by_contra hother
    refine hfree x (List.mem_filter.mpr ⟨hx, ?_⟩) rfl
    simpa using hother
  · rintro rfl y hy hsame
    obtain ⟨hmem, hkept⟩ := List.mem_filter.mp hy
    obtain rfl := hs.usernames.eq_of_mem hmem hx hsame
    simp at hkept

end Store

/-! ## Registration -/

namespace Database

variable {db : Database} {id : String} {account : Option (String × String)}

theorem getTerminal_ok (h : db.Ready) {row : TerminalRow} (hrow : row ∈ db.store.terminals) :
    getTerminal row.id db = (.ok row.described, db) := by
  have hfound : db.store.terminalRow? row.id = some row :=
    h.consistent.terminalRow?_eq_some_iff.mpr ⟨hrow, rfl⟩
  apply query_ok h.isOpen
  rw [hfound]
  exact (h.consistent.terminalsReadable row hrow).read_eq

/-- A terminal that no link names serves nothing and reaches nothing. -/
theorem unlinked_ok (hopen : db.isOpen = true)
    (hserved : ∀ link ∈ db.store.terminalProtocols, link.terminalId ≠ id)
    (hreached : ∀ link ∈ db.store.terminalDomains, link.terminalId ≠ id) :
    terminalProtocols id db = (.ok [], db) ∧ terminalDomains id db = (.ok [], db) := by
  -- a list is picked by links, and there are none
  have hnone : db.store.servedProtocols id = [] := by
    apply List.filter_eq_nil_iff.mpr
    intro row _ hlink
    exact hserved _ (List.contains_iff_mem.mp hlink) rfl
  have hnowhere : db.store.reachedDomains id = [] := by
    apply List.filter_eq_nil_iff.mpr
    intro domain _ hlink
    exact hreached _ (List.contains_iff_mem.mp hlink) rfl
  constructor
  · apply query_ok hopen
    rw [hnone]
    rfl
  · exact query_ok hopen (congrArg Except.ok hnowhere)

section Registered

variable (h : db.Ready) (hfree : db.store.Free id account) (new : NewTerminal) (now : Int64)

include h hfree

theorem ready_registered : Ready { db with store := db.store.registered id new account now } := by
  have hwrite := (Store.insertNewTerminal_eq_ok_iff h.consistent new now).mpr ⟨hfree, rfl⟩
  exact ⟨h.isOpen, (Store.insertNewTerminal_edits hwrite).consistent h.consistent⟩

/-- What was registered is found as it was told. -/
theorem getTerminal_registered :
    getTerminal id { db with store := db.store.registered id new account now } =
      (.ok (new.registered id (account.map (·.1)) now),
        { db with store := db.store.registered id new account now }) := by
  rw [← TerminalRow.described_ofNew]
  exact getTerminal_ok (ready_registered h hfree new now) Store.mem_registered

/-- The id was free, so no link names it. -/
theorem unlinked_registered :
    terminalProtocols id { db with store := db.store.registered id new account now } =
        (.ok [], { db with store := db.store.registered id new account now }) ∧
      terminalDomains id { db with store := db.store.registered id new account now } =
        (.ok [], { db with store := db.store.registered id new account now }) := by
  refine unlinked_ok h.isOpen ?_ ?_
  · intro link hlink hid
    obtain ⟨row, hrow, hsame⟩ := h.consistent.servingTerminals link hlink
    exact hfree.terminal row hrow (hsame.trans hid)
  · intro link hlink hid
    obtain ⟨row, hrow, hsame⟩ := h.consistent.reachingTerminals link hlink
    exact hfree.terminal row hrow (hsame.trans hid)

theorem createTerminal_ok :
    createTerminal id new account now db =
      (.ok (new.registered id (account.map (·.1)) now),
        { db with store := db.store.registered id new account now }) := by
  have hwrite := (Store.insertNewTerminal_eq_ok_iff h.consistent new now).mpr ⟨hfree, rfl⟩
  exact (call_bind_ok (execute_ok h.isOpen hwrite)).trans (getTerminal_registered h hfree new now)

end Registered

/-- What is known once a terminal was created. -/
theorem createTerminal_eq_ok (hs : db.store.Consistent) {new : NewTerminal} {now : Int64}
    {t : Terminal} {db' : Database} (h : createTerminal id new account now db = (.ok t, db')) :
    db.isOpen = true ∧ db.store.Free id account ∧ t = new.registered id (account.map (·.1)) now ∧
      db' = { db with store := db.store.registered id new account now } := by
  obtain ⟨_, db₁, hwrite, _⟩ := call_bind_eq_ok h
  obtain ⟨s, hopen, hnew, _⟩ := execute_eq_ok hwrite
  have hfree := ((Store.insertNewTerminal_eq_ok_iff hs new now).mp hnew).1
  rw [createTerminal_ok ⟨hopen, hs⟩ hfree new now] at h
  obtain ⟨hok, hafter⟩ := Prod.mk.inj h
  exact ⟨hopen, hfree, (Except.ok.inj hok).symm, hafter.symm⟩

/-- What is free decides. -/
theorem createTerminal_isOk_iff (h : db.Ready) (new : NewTerminal) (now : Int64) :
    (∃ t, (createTerminal id new account now db).1 = .ok t) ↔ db.store.Free id account := by
  constructor
  · rintro ⟨t, hok⟩
    exact (createTerminal_eq_ok h.consistent (Prod.ext hok rfl)).2.1
  · intro hfree
    rw [createTerminal_ok h hfree new now]
    exact ⟨_, rfl⟩

end Database

namespace Registry

variable {d d' : Deployment} {id : String} {account : Option (String × String)}

theorem storeCall_isOk_iff {α : Type} {reword : StoreError → RegistryError}
    {call : Database.Call α} :
    (∃ a, (storeCall reword call d).1 = .ok a) ↔ ∃ a, (call d.database).1 = .ok a := by
  rcases hcall : call d.database with ⟨e | a, db⟩
  · rw [storeCall_error hcall]
    simp
  · rw [storeCall_ok hcall]
    simp

theorem register_isOk_iff (h : d.database.Ready) (new : NewTerminal) (now : Int64) :
    (∃ t, (register id new account now d).1 = .ok t) ↔ d.database.store.Free id account :=
  storeCall_isOk_iff.trans (Database.createTerminal_isOk_iff h new now)

theorem register_eq_ok (hs : d.database.store.Consistent) {new : NewTerminal} {now : Int64}
    {t : Terminal} (h : register id new account now d = (.ok t, d')) :
    d.database.isOpen = true ∧ d.database.store.Free id account ∧
      t = new.registered id (account.map (·.1)) now ∧
      d' = { d with database :=
        { d.database with store := d.database.store.registered id new account now } } := by
  obtain ⟨hcreate, hcache⟩ := storeCall_eq_ok h
  obtain ⟨hopen, hfree, ht, hdatabase⟩ := Database.createTerminal_eq_ok hs hcreate
  refine ⟨hopen, hfree, ht, ?_⟩
  rw [← hdatabase, ← hcache]

end Registry

/-! ## Runs -/

namespace Deployment

variable {d : Deployment} {x : Account}

/-- A username that is taken is free after an operation exactly if the operation deletes the
terminal whose account has it. -/
theorem Reachable.username_run {α : Type} (h : d.Reachable) (op : Registry.Operation α)
    (hx : x ∈ d.database.store.accounts) :
    (∀ y ∈ (op.run d).2.database.store.accounts, y.username ≠ x.username) ↔
      ∃ row ∈ d.database.store.terminals, row.accountId = some x.id ∧
        op.deletes? = some row.id ∧ ∃ answer, (op.run d).1 = .ok answer := by
  have hs := h.consistent
  cases hdeletes : op.deletes? with
  | none =>
      obtain ⟨y, hy, hsame⟩ := Store.Edits.username (op.edits hdeletes d) hx
      constructor
      · intro hfree
        exact absurd hsame (hfree y hy)
      · rintro ⟨_, _, _, hnone, _⟩
        cases hnone
  | some id =>
      rcases op.deletion hdeletes d with ⟨gone, hgone, rfl, a, hrun⟩ | ⟨e, hrun⟩
      · rw [hrun, hs.username_retire hx]
        constructor
        · intro hlink
          exact ⟨gone, hgone, hlink, rfl, a, rfl⟩
        · rintro ⟨row, hrow, hlink, hsame, _⟩
          -- the row that is deleted is the one with this account
          obtain rfl := hs.eq_of_id hrow hgone (Option.some.inj hsame)
          exact hlink
      · rw [hrun]
        constructor
        · intro hfree
          exact absurd rfl (hfree x hx)
        · rintro ⟨_, _, _, _, _, hok⟩
          cases hok

/-- A username that is taken at one point of a run and free at a later one was set free in
between. -/
theorem Reachable.username_after (h : d.Reachable) (hx : x ∈ d.database.store.accounts)
    (requests : List Registry.Request)
    (hfree : ∀ y ∈ (d.after requests).database.store.accounts, y.username ≠ x.username) :
    ∃ before request rest, requests = before ++ request :: rest ∧
      ∃ y ∈ (d.after before).database.store.accounts, y.username = x.username ∧
        ∃ row ∈ (d.after before).database.store.terminals, row.accountId = some y.id ∧
          request.2.deletes? = some row.id ∧
          ∃ answer, (request.2.run (d.after before)).1 = .ok answer := by
  induction requests generalizing d x with
  | nil => exact absurd rfl (hfree x hx)
  | cons request requests ih =>
      -- the name may become free now or later, and later with another account that has it by then
      by_cases hnow : ∀ y ∈ (request.2.run d).2.database.store.accounts, y.username ≠ x.username
      · exact ⟨[], request, requests, rfl, x, hx, rfl, (h.username_run request.2 hx).mp hnow⟩
      · push Not at hnow
        obtain ⟨y, hy, hsame⟩ := hnow
        rw [← hsame] at hfree ⊢
        obtain ⟨before, later, rest, rfl, hfreed⟩ := ih (h.run request.2) hy hfree
        exact ⟨request :: before, later, rest, rfl, hfreed⟩

/-- A registration succeeds exactly if what it asks for is free. Then it adds the rows that it
should and no others, and gives back what it was told; else it changes nothing. With fresh ids, it
is the username alone that may be taken, and nothing sets a username free but the deletion of the
terminal whose account has it. -/
theorem registration_exact (d : Deployment) (h : d.Reachable) (hopen : d.database.isOpen = true)
    (id : String) (new : NewTerminal) (account : Option (String × String)) (now : Int64) :
    ((∃ t, (Database.createTerminal id new account now d.database).1 = .ok t) ↔
      (∀ row ∈ d.database.store.terminals, row.id ≠ id) ∧
        ∀ a username, account = some (a, username) →
          (∀ x ∈ d.database.store.accounts, x.id ≠ a) ∧
            ∀ x ∈ d.database.store.accounts, x.username ≠ username) ∧
    (∀ t db, Database.createTerminal id new account now d.database = (.ok t, db) →
      t = { id := id, name := new.name, type := new.type, remoteAddress := new.remoteAddress,
            sshPort := new.sshPort, httpPort := new.httpPort, commandStorage := new.commandStorage,
            replayStorage := new.replayStorage, accountId := account.map (·.1), isAccepted := false,
            isDeleted := false, comment := new.comment, createdAt := now } ∧
        db = { d.database with store := { d.database.store with
          terminals := d.database.store.terminals ++ [.ofNew id new (account.map (·.1)) now]
          accounts := d.database.store.accounts ++
            account.toList.map fun a => ⟨a.1, a.2, true, now⟩ } } ∧
        Database.getTerminal id db = (.ok t, db) ∧
        Database.terminalProtocols id db = (.ok [], db) ∧
        Database.terminalDomains id db = (.ok [], db)) ∧
    (∀ e, (Database.createTerminal id new account now d.database).1 = .error e →
      (Database.createTerminal id new account now d.database).2 = d.database) ∧
    ((∀ row ∈ d.database.store.terminals, row.id ≠ id) →
      (∃ t, (Registry.register id new none now d).1 = .ok t) ∧
        ∀ a username, (∀ x ∈ d.database.store.accounts, x.id ≠ a) →
          ((∃ t, (Registry.register id new (some (a, username)) now d).1 = .ok t) ↔
            ∀ x ∈ d.database.store.accounts, x.username ≠ username)) ∧
    (∀ x ∈ d.database.store.accounts,
      (∀ {α : Type} (op : Registry.Operation α),
        (∀ y ∈ (op.run d).2.database.store.accounts, y.username ≠ x.username) ↔
          ∃ row ∈ d.database.store.terminals, row.accountId = some x.id ∧
            op.deletes? = some row.id ∧ ∃ answer, (op.run d).1 = .ok answer) ∧
        ∀ requests,
          (∀ y ∈ (d.after requests).database.store.accounts, y.username ≠ x.username) →
          ∃ before request rest, requests = before ++ request :: rest ∧
            ∃ y ∈ (d.after before).database.store.accounts, y.username = x.username ∧
              ∃ row ∈ (d.after before).database.store.terminals, row.accountId = some y.id ∧
                request.2.deletes? = some row.id ∧
                ∃ answer, (request.2.run (d.after before)).1 = .ok answer) := by
  have hready : d.database.Ready := ⟨hopen, h.consistent⟩
  refine ⟨?_, ?_, ?_, ?_, ?_⟩
  · rw [Database.createTerminal_isOk_iff hready]
    constructor
    · intro hfree
      exact ⟨hfree.terminal, fun a username ha =>
        ⟨hfree.accountId a username ha, hfree.username a username ha⟩⟩
    · rintro ⟨hid, haccount⟩
      exact ⟨hid, fun a username ha => (haccount a username ha).1,
        fun a username ha => (haccount a username ha).2⟩
  · intro t db hrun
    obtain ⟨_, hfree, rfl, rfl⟩ := Database.createTerminal_eq_ok h.consistent hrun
    exact ⟨rfl, rfl, Database.getTerminal_registered hready hfree new now,
      Database.unlinked_registered hready hfree new now⟩
  · intro e
    exact Database.createTerminal_traceless h.consistent id new account now e
  · intro hid
    constructor
    · rw [Registry.register_isOk_iff hready, Store.free_none_iff]
      exact hid
    · intro a username haccountId
      rw [Registry.register_isOk_iff hready, Store.free_some_iff]
      constructor
      · rintro ⟨-, -, husername⟩
        exact husername
      · intro husername
        exact ⟨hid, haccountId, husername⟩
  · intro x hx
    exact ⟨fun op => h.username_run op hx, fun requests => h.username_after hx requests⟩

/-- The username is taken, and the deletion of the terminal sets it free. -/
theorem registration_exact_of_taken_username :
    (¬∃ t, (Registry.register "s" (.withDefaults "lion" .lion) (some ("b", "u")) 6 oneTerminal).1 = .ok t) ∧
      ∀ y ∈ (Registry.Operation.run (.store (.softDelete "t")) oneTerminal).2.database.store.accounts,
        y.username ≠ "u" := by
  have hu : (⟨"a", "u", true, 5⟩ : Account) ∈ oneTerminal.database.store.accounts := List.mem_cons_self
  obtain ⟨-, -, -, hregister, hfreed⟩ := registration_exact oneTerminal oneTerminal_reachable rfl "s"
    (.withDefaults "lion" .lion) (some ("b", "u")) 6
  constructor
  · intro hok
    exact ((hregister (by decide)).2 "b" "u" (by decide)).mp hok _ hu rfl
  · have hrow : TerminalRow.ofNew "t" (.withDefaults "koko" .koko) (some "a") 5 ∈
        oneTerminal.database.store.terminals := List.mem_cons_self
    exact ((hfreed _ hu).1 (.store (.softDelete "t"))).mpr ⟨_, hrow, rfl, rfl, some "a", rfl⟩

end Deployment
end GatewayRegistry
