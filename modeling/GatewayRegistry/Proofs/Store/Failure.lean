import GatewayRegistry.Proofs.Backfill.Plan
import GatewayRegistry.Proofs.Store.Effect
import GatewayRegistry.Proofs.Store.Listing

/-!
# Calls that fail leave no trace

A call that is one transaction changes nothing when it fails. Most calls that write and then read
back what they wrote are of the same kind, because reading back does not fail: the row is there, and
in a consistent store it can be read. Calls of many transactions are of another kind. On an open
database they succeed, whatever they were asked (`getOrCreateProtocols_ensures`,
`Backfill.assets_ensures`), and a closed one they leave as it is.
-/

namespace GatewayRegistry

/-! ## Reading back -/

/-- What was put at the end of a list is found, unless something before it is. -/
theorem exists_find?_append {α : Type} {p : α → Bool} {a : α} (ha : p a = true) (rows : List α) :
    ∃ b, (rows ++ [a]).find? p = some b := by
  rw [← Option.isSome_iff_exists, List.find?_isSome]
  exact ⟨a, by simp, ha⟩

/-- The entry that a row describes. A row that cannot be read describes nothing in particular. -/
def ProtocolRow.described (row : ProtocolRow) : Protocol where
  id := row.id
  name := (ProtocolName.ofText? row.name).getD .ssh
  port := UInt16.ofNat row.port.toNat
  builtin := row.builtin

/-- A readable row is read as the entry it describes. -/
theorem ProtocolRow.Readable.read_eq {row : ProtocolRow} (h : row.Readable) :
    row.read = .ok row.described := by
  obtain ⟨⟨name, hname⟩, hport⟩ := h
  have hbounds : 0 ≤ row.port ∧ row.port < 65536 := by omega
  unfold read readName readPort described
  rw [hname, if_pos hbounds]
  rfl

/-- The last thing that is inserted with a new terminal is its row. -/
theorem Store.insertTerminal_of_new {s s' : Store} {id : String} {new : NewTerminal}
    {account : Option (String × String)} {now : Int64}
    (h : s.insertNewTerminal id new account now = .ok s') :
    ∃ s₁ : Store, s₁.insertTerminal (.ofNew id new (account.map (·.1)) now) = .ok s' := by
  cases account with
  | none => exact ⟨s, h⟩
  | some a =>
      obtain ⟨s₁, _, hinsert⟩ := bind_eq_ok_iff.mp h
      exact ⟨s₁, hinsert⟩

namespace Database

variable {db : Database} {α : Type}

/-- A database that answers. -/
structure Ready (db : Database) : Prop where
  isOpen : db.isOpen = true
  consistent : db.store.Consistent

/-- A write whose result can be read back. -/
theorem read_back_traceless {tx : Store → Except StoreError Store}
    {ask : Store → Except StoreError α}
    (h : ∀ s, tx db.store = .ok s → ∃ a, ask s = .ok a) :
    Traceless (execute tx >>= fun _ => query ask) db := by
  refine Traceless.bind_ensures (R := fun _ _ => True) (transact_traceless _ db) ?_
  intro u db' hrun
  obtain ⟨s, hopen, htx, rfl⟩ := execute_eq_ok hrun
  obtain ⟨a, ha⟩ := h s htx
  exact ⟨a, _, query_ok hopen ha, trivial⟩

/-- The account that was inserted is found again. -/
theorem createAccount_traceless (id username : String) (now : Int64) :
    Traceless (createAccount id username now) db := by
  apply read_back_traceless
  intro s htx
  obtain ⟨_, _, rfl⟩ := Store.insertAccount_eq_ok_iff.mp htx
  obtain ⟨a, ha⟩ := exists_find?_append (p := (·.id == id)) (a := ⟨id, username, true, now⟩)
    (beq_self_eq_true id) db.store.accounts
  exact ⟨a, by simp [Store.account?, ha]⟩

theorem createSession_traceless (id terminalId organizationId : String) (now : Int64) :
    Traceless (createSession id terminalId organizationId now) db := by
  apply read_back_traceless
  intro s htx
  obtain ⟨_, _, rfl⟩ := Store.insertSession_eq_ok_iff.mp htx
  obtain ⟨x, hx⟩ := exists_find?_append (p := (·.id == id))
    (a := ⟨id, terminalId, organizationId, false, now⟩) (beq_self_eq_true id) db.store.sessions
  exact ⟨x, by simp [hx]⟩

/-- The row of a new terminal is found, and whichever row is found can be read. -/
theorem createTerminal_traceless (hs : db.store.Consistent) (id : String) (new : NewTerminal)
    (account : Option (String × String)) (now : Int64) :
    Traceless (createTerminal id new account now) db := by
  apply read_back_traceless
  intro s htx
  have hconsistent := (Store.insertNewTerminal_edits htx).consistent hs
  obtain ⟨s₁, hinsert⟩ := Store.insertTerminal_of_new htx
  obtain ⟨_, _, _, rfl⟩ := Store.insertTerminal_eq_ok_iff.mp hinsert
  obtain ⟨row, hrow⟩ := exists_find?_append (p := (·.id == id))
    (a := .ofNew id new (account.map (·.1)) now) (beq_self_eq_true id) s₁.terminals
  have hread := (hconsistent.terminalsReadable row (List.mem_of_find?_eq_some hrow)).read_eq
  exact ⟨row.described, by simp [Store.terminalRow?, hrow, hread]⟩

theorem createDomain_traceless (id name : String) (now : Int64) :
    Traceless (createDomain id name now) db := by
  apply read_back_traceless
  intro s htx
  obtain ⟨_, _, rfl⟩ := Store.insertDomain_eq_ok_iff.mp htx
  obtain ⟨x, hx⟩ := exists_find?_append (p := (·.id == id)) (a := ⟨id, name, now⟩)
    (beq_self_eq_true id) db.store.domains
  exact ⟨x, by simp [hx]⟩

theorem createBackend_traceless (kind : BackendKind) (id name type options : String) (now : Int64) :
    Traceless (createBackend kind id name type options now) db := by
  refine Traceless.bind_ensures (R := fun _ _ => True) (transact_traceless _ db) ?_
  intro u db' hrun
  obtain ⟨s, hopen, htx, rfl⟩ := execute_eq_ok hrun
  obtain ⟨_, _, rfl⟩ := Store.insertBackend_eq_ok_iff.mp htx
  obtain ⟨b, hb⟩ := exists_find?_append (p := (·.name == name)) (a := ⟨id, name, type, options, now⟩)
    (beq_self_eq_true name) (db.store.backends kind)
  -- the search is the same in both tables
  generalize hs : db.store.setBackends kind _ = s
  have hfound : s.backend? kind name = some b := by
    rw [← hs]
    cases kind <;> exact hb
  have hread : findBackend kind name { db with store := s } = (.ok (some b), _) :=
    query_ok hopen (congrArg Except.ok hfound)
  exact ⟨b, _, call_bind_ok hread, trivial⟩

theorem createPlatform_traceless (name type : String) :
    Traceless (createPlatform name type) db := by
  refine Traceless.bind_ensures (R := fun _ _ => True) (transact_traceless _ db) ?_
  intro id db' hrun
  obtain ⟨s, hopen, htx, rfl⟩ := transact_eq_ok hrun
  obtain ⟨_, rfl, rfl⟩ := Store.insertPlatform_eq_ok_iff.mp htx
  obtain ⟨p, hp⟩ := exists_find?_append (p := (·.id == db.store.platforms.nextId))
    (a := ⟨db.store.platforms.nextId, name, type⟩) (beq_self_eq_true _) db.store.platforms.rows
  refine ⟨p, _, query_ok hopen ?_, trivial⟩
  simp [Numbered.insert, hp]

/-! ## The catalog

An entry is inserted if it is absent, and then looked up: two transactions, of which only the first
can fail, on a port that no entry may have. A list of entries is got one by one, and what was
inserted for the first ones stays if a later one fails; that it cannot fail is shown by following
two facts through the list, that the catalog has only grown and that all entries found so far are in
it. -/

/-- Nothing has changed but that the catalog has grown. -/
structure Grown (db db' : Database) : Prop where
  ready : db'.Ready
  catalog : db.store.protocols.Extends db'.store.protocols
  terminals : db'.store.terminals = db.store.terminals

theorem Grown.trans {db' db'' : Database} (h : db.Grown db') (h' : db'.Grown db'') :
    db.Grown db'' where
  ready := h'.ready
  catalog := h.catalog.trans h'.catalog
  terminals := h'.terminals.trans h.terminals

/-- Catalog entries that are there. -/
def Lists (db : Database) (found : List Protocol) : Prop :=
  ∀ p ∈ found, ∃ row ∈ db.store.protocols.rows, row.id = p.id

theorem Lists.grown {db' : Database} {found : List Protocol} (h : db.Lists found)
    (hgrown : db.Grown db') : db'.Lists found := by
  intro p hp
  obtain ⟨row, hrow, hid⟩ := h p hp
  exact ⟨row, hgrown.catalog.rows.subset hrow, hid⟩

/-- Whether the row of an entry was there or is new, it is there afterwards, and it is only the
catalog that has changed. -/
theorem ensured (h : db.Ready) {name : ProtocolName} {port : UInt16} {s : Store}
    (hwrite : db.store.insertProtocolIfAbsent name.toText port.toNat true = .ok s) :
    ∃ p, findProtocol name port { db with store := s } = (.ok p, { db with store := s }) ∧
      db.Grown { db with store := s } ∧ Lists { db with store := s } [p] := by
  have hconsistent := (Store.insertProtocolIfAbsent_edits hwrite).consistent h.consistent
  obtain ⟨_, hs⟩ := Store.insertProtocolIfAbsent_eq_ok_iff.mp hwrite
  -- the two branches of the write, told by what they have in common
  have hafter : s.terminals = db.store.terminals ∧ db.store.protocols.Extends s.protocols ∧
      ∃ row, s.protocolRow? name.toText port.toNat = some row := by
    split at hs
    · next hthere =>
        subst hs
        exact ⟨rfl, .skip _, Option.isSome_iff_exists.mp hthere⟩
    · subst hs
      dsimp only
      refine ⟨rfl, .insert _ _, exists_find?_append ?_ _⟩
      simp [ProtocolRow.isFor]
  obtain ⟨hterminals, hcatalog, row, hrow⟩ := hafter
  have hmem : row ∈ s.protocols.rows := List.mem_of_find?_eq_some hrow
  have hread := (hconsistent.catalogReadable row hmem).read_eq
  refine ⟨row.described, query_ok h.isOpen ?_, ⟨⟨h.isOpen, hconsistent⟩, hcatalog, hterminals⟩, ?_⟩
  · simp [hrow, hread]
  · intro q hq
    rw [List.mem_singleton.mp hq]
    exact ⟨row, hmem, rfl⟩

/-- If no entry can be had, the port was wrong and nothing has been written. -/
theorem getOrCreateProtocol_traceless (hs : db.store.Consistent) (name : ProtocolName)
    (port : UInt16) : Traceless (getOrCreateProtocol name port) db := by
  refine Traceless.bind_ensures (R := fun _ _ => True) (transact_traceless _ db) ?_
  intro u db' hrun
  obtain ⟨s, hopen, hwrite, rfl⟩ := execute_eq_ok hrun
  obtain ⟨p, hfound, _⟩ := ensured ⟨hopen, hs⟩ hwrite
  exact ⟨p, _, hfound, trivial⟩

/-- An entry for a port other than zero can always be had. -/
theorem getOrCreateProtocol_ensures (h : db.Ready) {name : ProtocolName} {port : UInt16}
    (hport : port ≠ 0) :
    Ensures (getOrCreateProtocol name port) db fun p db' => db.Grown db' ∧ db'.Lists [p] := by
  have hpos : port.toNat ≠ 0 := fun hzero => hport (UInt16.toNat_inj.mp hzero)
  have hlt : port.toNat < 65536 := port.toNat_lt
  obtain ⟨s, hwrite⟩ : ∃ s, db.store.insertProtocolIfAbsent name.toText port.toNat true = .ok s :=
    ⟨_, Store.insertProtocolIfAbsent_eq_ok_iff.mpr ⟨by omega, rfl⟩⟩
  obtain ⟨p, hfound, hgrown, hlists⟩ := ensured h hwrite
  exact ⟨p, _, (call_bind_ok (execute_ok h.isOpen hwrite)).trans hfound, hgrown, hlists⟩

/-- An entry that is not left out has a port that a row may have. -/
theorem resolve?_port_ne_zero {request : ProtocolEntry} {name : ProtocolName} {port : UInt16}
    (h : request.resolve? = some (name, port)) : port ≠ 0 := by
  obtain ⟨text, _, h⟩ := Option.bind_eq_some_iff.mp h
  obtain ⟨port', _, h⟩ := Option.bind_eq_some_iff.mp h
  split at h
  · cases h
  · next hgood =>
      obtain ⟨_, _, h⟩ := Option.bind_eq_some_iff.mp h
      cases h
      intro hzero
      simp [hzero] at hgood

/-- All entries that are asked for can be had, one after the other. -/
theorem getOrCreateProtocols_ensures (h : db.Ready) (requests : List ProtocolEntry) :
    Ensures (getOrCreateProtocols requests) db fun found db' => db.Grown db' ∧ db'.Lists found := by
  have hstart : db.Grown db ∧ db.Lists [] :=
    ⟨⟨h, .refl _, rfl⟩, fun p hp => absurd hp List.not_mem_nil⟩
  refine Ensures.foldlM (I := fun found db' => db.Grown db' ∧ db'.Lists found) ?_ hstart
  rintro request - found db₁ ⟨hgrown, hfound⟩
  cases hwanted : request.resolve? with
  | none => exact .pure ⟨hgrown, hfound⟩
  | some wanted =>
      obtain ⟨name, port⟩ := wanted
      refine (getOrCreateProtocol_ensures hgrown.ready (resolve?_port_ne_zero hwanted)).bind ?_
      rintro p db₂ ⟨hmore, hp⟩
      refine .pure ⟨hgrown.trans hmore, ?_⟩
      have hbefore := hfound.grown hmore
      split
      · exact hbefore
      · intro q hq
        rcases List.mem_append.mp hq with hq | hq
        · exact hbefore q hq
        · exact hp q hq

/-- A terminal that is there can be given any protocols that are. -/
theorem replaceProtocols_ok {terminalId : String} {ids : List Int}
    (hterminal : ∃ row ∈ db.store.terminals, row.id = terminalId)
    (hids : ∀ id ∈ ids, ∃ p ∈ db.store.protocols.rows, p.id = id) :
    ∃ s, db.store.replaceProtocols terminalId ids = .ok s := by
  -- links are all that the loop writes
  have hround : ∀ id ∈ ids, ∀ s : Store,
      s.terminals = db.store.terminals ∧ s.protocols = db.store.protocols →
      ∃ s', s.insertProtocolLink ⟨terminalId, id⟩ = .ok s' ∧
        s'.terminals = db.store.terminals ∧ s'.protocols = db.store.protocols := by
    rintro id hid s ⟨hterminals, hprotocols⟩
    by_cases hlink : (⟨terminalId, id⟩ : ProtocolLink) ∈ s.terminalProtocols
    · exact ⟨s, Store.insertProtocolLink_eq_ok_iff.mpr (.inl ⟨hlink, rfl⟩), hterminals, hprotocols⟩
    · refine ⟨_, Store.insertProtocolLink_eq_ok_iff.mpr (.inr ⟨hlink, ?_, ?_, rfl⟩), hterminals,
        hprotocols⟩
      · rw [hterminals]
        exact hterminal
      · rw [hprotocols]
        exact hids id hid
  obtain ⟨s, hs, _⟩ := foldlM_ok _ hround (s := { db.store with
    terminalProtocols := db.store.terminalProtocols.filter (·.terminalId != terminalId) }) ⟨rfl, rfl⟩
  exact ⟨s, hs⟩

/-! ## Closed databases

On a closed database the first transaction fails, whichever it is, and a call of many transactions
ends there. That nothing has happened until then needs no inspection of the call: no transaction
changes a closed database. -/

/-- Connections stay open or closed, and a closed database stays as it is. -/
def Steady (db db' : Database) : Prop := db'.isOpen = db.isOpen ∧ (db.isOpen = false → db' = db)

instance : IsPreorder Database Steady where
  refl _ := ⟨rfl, fun _ => rfl⟩
  trans db db' db'' h h' := by
    refine ⟨h'.1.trans h.1, fun hclosed => ?_⟩
    have hsame := h.2 hclosed
    rw [h'.2 (by rw [hsame, hclosed]), hsame]

/-- A transaction neither opens nor closes connections, and runs on open ones only. -/
theorem steady_transact (tx : Store.Transaction α) : Within id Steady (transact tx) := by
  intro db
  rcases transact_cases tx db with ⟨a, s, hopen, _, h⟩ | ⟨e, h⟩
  · rw [h]
    refine ⟨rfl, fun hclosed => ?_⟩
    rw [id, hopen] at hclosed
    cases hclosed
  · rw [h]
    exact refl_of Steady _

theorem steady_getOrCreateProtocols (requests : List ProtocolEntry) :
    Within id Steady (getOrCreateProtocols requests) := by
  apply Within.foldlM
  intro found request
  cases request.resolve? with
  | none => exact Within.pure found
  | some wanted =>
      refine Within.bind ?_ fun _ => Within.pure _
      exact Within.bind (steady_transact _) fun _ => steady_transact _

theorem steady_sshProtocolsOf (ids : List String) : Within id Steady (sshProtocolsOf ids) := by
  unfold sshProtocolsOf
  split
  · exact Within.pure []
  · exact steady_transact _

/-- A call that succeeds on every open database and leaves every closed one as it is. -/
theorem traceless_of_steady {call : Call α} {Q : α → Database → Prop} (hs : db.store.Consistent)
    (hopen : db.Ready → Ensures call db Q) (hclosed : Within id Steady call) : Traceless call db := by
  cases h : db.isOpen with
  | true => exact .of_ensures (hopen ⟨h, hs⟩)
  | false => exact .of_same ((hclosed db).2 h)

/-- The list of entries is got as a whole, or the database is closed and nothing happens. -/
theorem getOrCreateProtocols_traceless (hs : db.store.Consistent) (requests : List ProtocolEntry) :
    Traceless (getOrCreateProtocols requests) db :=
  traceless_of_steady hs (getOrCreateProtocols_ensures · requests) (steady_getOrCreateProtocols requests)

end Database

/-! ## The backfill

A backfill inserts for platforms in one transaction and for assets in one per batch. What the later
transactions need is that the rows of the assets are still there; it is kept as an invariant, so
that after the platforms nothing can go wrong. -/

/-- Rows can be inserted if each of them can be, wherever those before it leave the store. The
invariant is about the rows that are left, the number of rows added so far and the store. -/
theorem Store.insertMany_ok {α : Type} (I : List α → Nat → Store → Prop)
    {insert : α → Store → Except StoreError (Nat × Store)}
    (hinsert : ∀ x rest n s, I (x :: rest) n s → ∃ k s', insert x s = .ok (k, s') ∧ I rest (n + k) s')
    {rows : List α} {s : Store} (h : I rows 0 s) :
    ∃ n s', s.insertMany insert rows = .ok (n, s') ∧ I [] n s' := by
  unfold insertMany
  generalize 0 = n at h ⊢
  induction rows generalizing n s with
  | nil => exact ⟨n, s, rfl, h⟩
  | cons x rest ih =>
      obtain ⟨k, s₁, hs₁, h₁⟩ := hinsert x rest n s h
      obtain ⟨m, s₂, hs₂, h₂⟩ := ih (n + k) h₁
      refine ⟨m, s₂, ?_, h₂⟩
      rw [List.foldlM_cons, bind_eq_ok_iff]
      exact ⟨(n + k, s₁), bind_eq_ok_iff.mpr ⟨(k, s₁), hs₁, rfl⟩, hs₂⟩

/-- If each row can be put behind the ones before it, then all of them are inserted. -/
theorem Store.insertMany_all {α : Type} {insert : α → Store → Except StoreError (Nat × Store)}
    (put : List α → Store) {rows : List α}
    (hinsert : ∀ past x rest, past ++ x :: rest = rows →
      insert x (put past) = .ok (1, put (past ++ [x]))) :
    (put []).insertMany insert rows = .ok (rows.length, put rows) := by
  have hround : ∀ (x : α) (rest : List α) (n : Nat) (s : Store),
      (∃ past, past ++ x :: rest = rows ∧ n = past.length ∧ s = put past) →
        ∃ k s', insert x s = .ok (k, s') ∧
          ∃ past, past ++ rest = rows ∧ n + k = past.length ∧ s' = put past := by
    -- the rows that are through are `past`, and the store is what they make of it
    rintro x rest _ _ ⟨past, hpast, rfl, rfl⟩
    refine ⟨1, _, hinsert past x rest hpast, past ++ [x], ?_, ?_, rfl⟩
    · rw [List.append_assoc, List.singleton_append, hpast]
    · rw [List.length_append, List.length_singleton]
  obtain ⟨n, s', hok, past, hpast, rfl, rfl⟩ := insertMany_ok (fun rest n s =>
    ∃ past, past ++ rest = rows ∧ n = past.length ∧ s = put past) hround ⟨[], rfl, rfl, rfl⟩
  rw [List.append_nil] at hpast
  rw [hpast] at hok
  exact hok

namespace Backfill

variable {db : Database}

/-- Protocols of assets that are there can be inserted. -/
theorem insertAssetProtocols_ensures (h : db.Ready) {rows : List NewAssetProtocol}
    (hrows : ∀ new ∈ rows, ∃ a ∈ db.store.assets, a.id = new.assetId) :
    Ensures (Database.insertAssetProtocols rows) db fun _ db' => db'.Ready := by
  have hinsert : ∀ (new : NewAssetProtocol) (rest : List NewAssetProtocol) (_ : Nat) (s : Store),
      s.assets = db.store.assets ∧ (∀ x ∈ new :: rest, ∃ a ∈ db.store.assets, a.id = x.assetId) →
        ∃ n s', s.insertAssetProtocol new = .ok (n, s') ∧
          s'.assets = db.store.assets ∧ ∀ x ∈ rest, ∃ a ∈ db.store.assets, a.id = x.assetId := by
    rintro new rest _ s ⟨hassets, hnew⟩
    have hrest := fun x hx => hnew x (List.mem_cons_of_mem new hx)
    cases hoffers : s.assetOffers new.assetId new.name with
    | true =>
        exact ⟨_, _, Store.insertAssetProtocol_eq_ok_iff.mpr (.inl ⟨hoffers, rfl, rfl⟩), hassets, hrest⟩
    | false =>
        have hasset : ∃ a ∈ s.assets, a.id = new.assetId := by
          rw [hassets]
          exact hnew new List.mem_cons_self
        exact ⟨_, _, Store.insertAssetProtocol_eq_ok_iff.mpr (.inr ⟨hoffers, hasset, rfl, rfl⟩),
          hassets, hrest⟩
  obtain ⟨n, s, hs, _⟩ := Store.insertMany_ok (fun rest _ s => s.assets = db.store.assets ∧
    ∀ x : NewAssetProtocol, x ∈ rest → ∃ a ∈ db.store.assets, a.id = x.assetId) hinsert ⟨rfl, hrows⟩
  have hconsistent := (Store.insertMany_edits (fun _ _ _ _ => Store.insertAssetProtocol_edits)
    hs).consistent h.consistent
  exact ⟨n, _, Database.transact_ok h.isOpen hs, h.isOpen, hconsistent⟩

/-- The protocols that are asked for are rows of the table. -/
theorem sshProtocolsOf_ensures (h : db.Ready) (ids : List String) :
    Ensures (Database.sshProtocolsOf ids) db fun ssh db' =>
      db' = db ∧ ∀ p ∈ ssh, p ∈ db.store.assetProtocols.rows := by
  unfold Database.sshProtocolsOf
  split
  · exact .pure ⟨rfl, fun p hp => absurd hp List.not_mem_nil⟩
  · exact ⟨_, db, Database.query_ok h.isOpen rfl, rfl, fun p hp => List.mem_of_mem_filter hp⟩

/-- The plan for a batch is about assets that offer `ssh`, which are there. -/
theorem assetBatch_ensures (h : db.Ready) (ids : List String) :
    Ensures (assetBatch ids) db fun _ db' => db'.Ready := by
  refine (sshProtocolsOf_ensures h ids).bind ?_
  rintro ssh db' ⟨rfl, hssh⟩
  apply insertAssetProtocols_ensures h
  intro new hnew
  obtain ⟨p, hp, rfl⟩ := mem_assetPlan hnew
  exact h.consistent.offeringAssets p (hssh p hp)

/-- The assets can always be given what they miss, batch by batch. -/
theorem assets_ensures (h : db.Ready) : Ensures assets db fun _ db' => db'.Ready := by
  have hask : Ensures Database.assetsMissingSftp db fun _ db' => db' = db :=
    ⟨_, db, Database.query_ok h.isOpen rfl, rfl⟩
  refine hask.bind ?_
  rintro missing db' rfl
  refine Ensures.foldlM (I := fun _ => Database.Ready) ?_ h
  intro ids _ added db' h'
  exact (assetBatch_ensures h' ids).bind fun _ _ h'' => .pure h''

theorem steady_assets : Within id Database.Steady assets := by
  refine Within.bind (Database.steady_transact _) fun missing => ?_
  apply Within.foldlM
  intro added ids
  refine Within.bind (Within.bind (Database.steady_sshProtocolsOf ids) fun _ => ?_) fun _ => Within.pure _
  exact Database.steady_transact _

/-- The assets are given all they miss, or nothing on a closed database. -/
theorem assets_traceless (hs : db.store.Consistent) : Traceless assets db :=
  Database.traceless_of_steady hs assets_ensures steady_assets

/-- The platforms are given what they lack in one transaction. -/
theorem platforms_traceless : Traceless platforms db := by
  refine Traceless.ask_bind (Database.query_snd _ db) fun candidates _ => ?_
  dsimp only
  split
  · exact .of_same rfl
  · refine Traceless.bind_ensures (R := fun _ _ => True) (Database.transact_traceless _ db) ?_
    exact fun _ db' _ => .pure trivial

theorem steady_platforms : Within id Database.Steady platforms := by
  refine Within.bind (Database.steady_transact _) fun candidates => ?_
  dsimp only
  split
  · exact Within.pure []
  · exact Within.bind (Database.steady_transact _) fun _ => Within.pure _

theorem steady_run : Within id Database.Steady run := by
  refine Within.bind steady_platforms fun names => ?_
  exact Within.bind steady_assets fun _ => Within.pure _

/-- If the platforms could be given what they lack, then so can the assets. -/
theorem run_traceless (hs : db.store.Consistent) : Traceless run db := by
  cases hopen : db.isOpen with
  | false => exact .of_same ((steady_run db).2 hopen)
  | true =>
      refine platforms_traceless.bind_ensures (R := fun _ _ => True) ?_
      intro names db' hrun
      have hedits := platforms_edits db
      have hconnections := (steady_platforms db).1
      rw [hrun] at hedits hconnections
      have hready : db'.Ready := ⟨hconnections.trans hopen, Store.Edits.consistent hedits hs⟩
      exact (assets_ensures hready).bind fun _ _ _ => .pure trivial

end Backfill
end GatewayRegistry
