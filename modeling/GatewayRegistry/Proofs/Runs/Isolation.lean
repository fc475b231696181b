import GatewayRegistry.Proofs.Runs.StaleCopies
import GatewayRegistry.Proofs.Runs.Upkeep
import GatewayRegistry.Proofs.Store.Catalog

/-!
# Upkeep of one terminal leaves the others alone

Terminals share tables: the accounts, the catalog, the links and the cache. `Standing` is all that
can be seen of one terminal, and upkeep of another terminal does not change it
(`Deployment.upkeep_isolated`). The links are told apart by the ids of the terminals and the marks
by their keys. The catalog only grows, and nobody serves an entry before it is there. An account is
changed through a copy that may be old, so it takes the history of the run to see that it is not the
account of another terminal (`Deployment.Handed.account_ne`).
-/

namespace GatewayRegistry

/-! ## What is seen of a terminal

All that a caller can find out about one terminal, put together: what is stored, what is linked, and
what will be answered later if nothing happens but that time passes. -/

structure Standing where
  row : Option TerminalRow
  account : Option Account
  protocols : Except RegistryError (List Protocol)
  domains : Except RegistryError (List Domain)
  openSessions : SessionScope → Except RegistryError Nat
  /-- Whether it is alive after some more milliseconds. -/
  isAlive : Nat → Except RegistryError Bool
  /-- The label of its freshly read value after some more milliseconds. -/
  label : Nat → Except RegistryError StatusLabel

/-- What can be seen of the terminal with an id. -/
def Deployment.standing (d : Deployment) (id : String) : Standing where
  row := d.database.store.terminalRow? id
  account := do
    let row ← d.database.store.terminalRow? id
    d.database.store.account? (← row.accountId)
  protocols := (Registry.onStore (Database.terminalProtocols id) d).1
  domains := (Registry.onStore (Database.terminalDomains id) d).1
  openSessions scope := (Registry.onStore (Database.countOpenSessions id scope) d).1
  isAlive elapsed := (Registry.readCache (·.isAlive id) (d.after [⟨_, .advance elapsed⟩])).1
  label elapsed := ((Registry.get id >>= Registry.statusLabel) (d.after [⟨_, .advance elapsed⟩])).1

namespace Store

/-! ## Stores that differ elsewhere

`Spares id` relates stores in which nothing has changed that concerns the terminal `id`. It is finer
than equality of tables: rows of others may come, change and go. Each statement of upkeep is shown
to spare every terminal but its own. -/

/-- What there is about the terminal with an id has stayed the same, and the catalog has only
grown. -/
structure Spares (id : String) (s s' : Store) : Prop where
  row : s'.terminalRow? id = s.terminalRow? id
  account : ∀ row, s.terminalRow? id = some row → ∀ a, row.accountId = some a →
    s'.account? a = s.account? a
  catalog : s.protocols.Extends s'.protocols
  serves : ∀ n, (⟨id, n⟩ : ProtocolLink) ∈ s'.terminalProtocols ↔ ⟨id, n⟩ ∈ s.terminalProtocols
  domains : s'.domains = s.domains
  reaches : ∀ n, (⟨id, n⟩ : DomainLink) ∈ s'.terminalDomains ↔ ⟨id, n⟩ ∈ s.terminalDomains
  sessions : s'.sessions = s.sessions

variable {id other : String} {s s' : Store}

theorem Spares.refl (id : String) (s : Store) : s.Spares id s where
  row := rfl
  account _ _ _ _ := rfl
  catalog := .refl _
  serves _ := Iff.rfl
  domains := rfl
  reaches _ := Iff.rfl
  sessions := rfl

instance (id : String) : IsPreorder Store (Spares id) where
  refl := Spares.refl id
  trans _ _ _ h h' :=
    { row := h'.row.trans h.row
      account := by
        intro row hrow a ha
        rw [h'.account row (h.row.trans hrow) a ha, h.account row hrow a ha]
      catalog := h.catalog.trans h'.catalog
      serves := fun n => (h'.serves n).trans (h.serves n)
      domains := h'.domains.trans h.domains
      reaches := fun n => (h'.reaches n).trans (h.reaches n)
      sessions := h'.sessions.trans h.sessions }

/-- The row of another terminal is not changed. -/
theorem terminalRow?_updateTerminal_of_ne {change : TerminalRow → TerminalRow}
    (keepId : ∀ row, (change row).id = row.id) (hne : id ≠ other) (s : Store) :
    (s.updateTerminal other change).terminalRow? id = s.terminalRow? id := by
  rw [terminalRow?_updateTerminal keepId]
  cases hrow : s.terminalRow? id with
  | none => rfl
  | some row =>
      have hid : row.id = id := by simpa using List.find?_some hrow
      have hother : (row.id == other) = false := by simp [hid, hne]
      rw [Option.map_some, hother]
      rfl

theorem spares_updateTerminal {change : TerminalRow → TerminalRow}
    (keepId : ∀ row, (change row).id = row.id) (hne : id ≠ other) (s : Store) :
    s.Spares id (s.updateTerminal other change) :=
  { Spares.refl id s with row := terminalRow?_updateTerminal_of_ne keepId hne s }

/-- A switch spares whoever has another account. -/
theorem spares_withAccountActive {account : Option String}
    (h : ∀ row, s.terminalRow? id = some row → ∀ a, row.accountId = some a → account ≠ some a)
    (active : Bool) : s.Spares id (s.withAccountActive account active) := by
  refine { Spares.refl id s with account := ?_ }
  intro row hrow a ha
  have hne := h row hrow a ha
  show (s.accounts.map _).find? (·.id == a) = s.accounts.find? (·.id == a)
  -- the flag does not decide which account is found
  have hkey : ((·.id == a) ∘ fun x : Account =>
      if some x.id == account then { x with isActive := active } else x) = (·.id == a) := by
    funext x
    dsimp only [Function.comp]
    split <;> rfl
  rw [List.find?_map, hkey]
  cases hx : s.accounts.find? (·.id == a) with
  | none => rfl
  | some x =>
      have hid : x.id = a := by simpa using List.find?_some hx
      have hother : (some x.id == account) = false := by
        rw [hid, beq_eq_false_iff_ne]
        exact hne.symm
      rw [Option.map_some, hother]
      rfl

theorem spares_retire {account : Option String} (hne : id ≠ other)
    (h : ∀ row, s.terminalRow? id = some row → ∀ a, row.accountId = some a → account ≠ some a) :
    s.Spares id (s.retire other account) := by
  refine { Spares.refl id s with row := ?_, account := ?_ }
  · refine terminalRow?_updateTerminal_of_ne ?_ hne s
    intro row
    rfl
  · intro row hrow a ha
    show (s.accounts.filter _).find? (·.id == a) = s.accounts.find? (·.id == a)
    rw [List.find?_filter]
    congr 1
    funext x
    by_cases hx : x.id = a
    · simp [hx, h row hrow a ha]
    · simp [hx]

theorem spares_insertProtocolIfAbsent {name : String} {port : Int} {builtin : Bool}
    (h : s.insertProtocolIfAbsent name port builtin = .ok s') : s.Spares id s' := by
  obtain ⟨_, rfl⟩ := insertProtocolIfAbsent_eq_ok_iff.mp h
  split
  · exact { Spares.refl id s with catalog := .skip _ }
  · refine { Spares.refl id s with catalog := ?_ }
    dsimp only
    exact .insert _ _

/-- Links to protocols are replaced for one terminal. -/
theorem spares_replaceProtocols {ids : List Int} (hne : id ≠ other)
    (h : s.replaceProtocols other ids = .ok s') : s.Spares id s' := by
  -- first the old links of the other terminal go, then its new ones come
  have hremoved : s.Spares id
      { s with terminalProtocols := s.terminalProtocols.filter (·.terminalId != other) } := by
    refine { Spares.refl id s with serves := ?_ }
    intro n
    simp [hne]
  refine trans_of (Spares id) hremoved (foldlM_induction (fun s => s) (Spares id) ?_ h)
  intro s n s' hround
  rcases insertProtocolLink_eq_ok_iff.mp hround with ⟨_, rfl⟩ | ⟨_, _, _, rfl⟩
  · exact .refl id s
  · refine { Spares.refl id s with serves := ?_ }
    intro m
    simp [hne]

theorem spares_replaceDomains {ids : List String} (hne : id ≠ other)
    (h : s.replaceDomains other ids = .ok s') : s.Spares id s' := by
  have hremoved : s.Spares id
      { s with terminalDomains := s.terminalDomains.filter (·.terminalId != other) } := by
    refine { Spares.refl id s with reaches := ?_ }
    intro n
    simp [hne]
  refine trans_of (Spares id) hremoved (foldlM_induction (fun s => s) (Spares id) ?_ h)
  intro s n s' hround
  rcases insertDomainLink_eq_ok_iff.mp hround with ⟨_, rfl⟩ | ⟨_, _, _, rfl⟩
  · exact .refl id s
  · refine { Spares.refl id s with reaches := ?_ }
    intro m
    simp [hne]

/-- A statement that fails spares everything. -/
theorem spares_attempt {tx : Store → Except StoreError Store}
    (h : ∀ s', tx s = .ok s' → s.Spares id s') : s.Spares id (attempt tx s) := by
  cases htx : tx s with
  | ok s' =>
      rw [attempt_ok htx]
      exact h s' htx
  | error e =>
      rw [attempt_error htx]
      exact .refl id s

/-- The deletion of another terminal takes away the account of that one. -/
theorem spares_afterDeletion (hs : s.Consistent) (hne : id ≠ other) :
    s.Spares id (s.afterDeletion other) := by
  apply spares_attempt
  intro s' h
  cases hdelete : s.softDelete other with
  | error e =>
      rw [hdelete] at h
      cases h
  | ok r =>
      rw [hdelete] at h
      obtain rfl := Except.ok.inj h
      obtain ⟨gone, hgone, hlink, hretire⟩ := eq_retire_of_softDelete hdelete
      rw [← hretire, ← hlink]
      apply spares_retire hne
      intro row hrow a ha hsame
      obtain ⟨hmem, hid⟩ := hs.terminalRow?_eq_some_iff.mp hrow
      obtain ⟨hmem', hid'⟩ := hs.terminalRow?_eq_some_iff.mp hgone
      -- two terminals cannot have the account that goes
      have heq := hs.terminalAccounts.eq_of_mem hmem hmem' ha hsame
      exact hne (by rw [← hid, ← hid', heq])

/-! ### What is answered then -/

namespace Spares

/-- New catalog entries are served by nobody, so the list of what is served stays as it was. -/
theorem servedProtocols_eq (h : s.Spares id s') (hs : s.Consistent) (hs' : s'.Consistent) :
    s'.servedProtocols id = s.servedProtocols id := by
  obtain ⟨new, hnew⟩ := h.catalog.rows
  have hserves : ∀ row : ProtocolRow, s'.terminalProtocols.contains ⟨id, row.id⟩ =
      s.terminalProtocols.contains ⟨id, row.id⟩ := by
    intro row
    rw [Bool.eq_iff_iff, List.contains_iff_mem, List.contains_iff_mem]
    exact h.serves row.id
  have hnone : new.filter (fun row => s.terminalProtocols.contains ⟨id, row.id⟩) = [] := by
    rw [List.filter_eq_nil_iff]
    intro row hrow hserved
    -- the entry that is linked was there before, so its number is not that of a new row
    obtain ⟨old, hold, hid⟩ := hs.servedProtocols _ (List.contains_iff_mem.mp hserved)
    have hunique : UniqueBy ProtocolRow.id (s.protocols.rows ++ new) := by
      rw [hnew]
      exact hs'.catalogNumbers.unique
    unfold UniqueBy at hunique
    rw [List.map_append, List.nodup_append] at hunique
    exact hunique.2.2 _ (List.mem_map_of_mem hold) _ (List.mem_map_of_mem hrow) hid
  unfold servedProtocols orderedProtocols
  have hsorted : ∀ rows : List ProtocolRow,
      (rows.mergeSort ProtocolRow.before).Pairwise fun a b => a.before b = true :=
    fun rows => List.pairwise_mergeSort ProtocolRow.before_trans ProtocolRow.before_total rows
  have hrows : ∀ {rows : List ProtocolRow} {p : ProtocolRow → Bool} {row : ProtocolRow},
      row ∈ (rows.mergeSort ProtocolRow.before).filter p → row ∈ rows := by
    intro rows p row hrow
    exact (List.mergeSort_perm _ _).mem_iff.mp (List.mem_of_mem_filter hrow)
  refine List.Perm.eq_of_pairwise ?_ ((hsorted _).filter _) ((hsorted _).filter _) ?_
  · intro a b ha hb hab hba
    have hb' : b ∈ s'.protocols.rows := h.catalog.rows.subset (hrows hb)
    exact hs'.catalogKeys.eq_of_mem (hrows ha) hb' (ProtocolRow.key_eq_of_before hab hba)
  · calc ((s'.protocols.rows.mergeSort ProtocolRow.before).filter _).Perm
          (s'.protocols.rows.filter fun row => s.terminalProtocols.contains ⟨id, row.id⟩) := by
          simp only [hserves]
          exact (List.mergeSort_perm _ _).filter _
      _ = s.protocols.rows.filter fun row => s.terminalProtocols.contains ⟨id, row.id⟩ := by
          rw [← hnew, List.filter_append, hnone, List.append_nil]
      List.Perm _ _ := ((List.mergeSort_perm _ _).filter _).symm

/-- A terminal that is spared reaches the same domains. -/
theorem reachedDomains_eq (h : s.Spares id s') : s'.reachedDomains id = s.reachedDomains id := by
  unfold reachedDomains
  rw [h.domains]
  apply List.filter_congr
  intro x _
  rw [Bool.eq_iff_iff, List.contains_iff_mem, List.contains_iff_mem]
  exact h.reaches x.id

end Spares
end Store

/-! ## Caches that differ elsewhere

Marks are kept under keys, and no two terminals share one. A mark for another terminal can still be
refused, but refused or not it is written under another key. -/

namespace Cache

/-- The mark of the terminal with an id has stayed the same. -/
structure Spares (id : String) (c c' : Cache) : Prop where
  site : c'.site = c.site
  clock : c'.clock = c.clock
  mark : c'.entry? (presenceKey id) = c.entry? (presenceKey id)

variable {id other : String} {c c' : Cache}

theorem Spares.refl (id : String) (c : Cache) : c.Spares id c := ⟨rfl, rfl, rfl⟩

/-- The mark of another terminal stands under another key. -/
theorem spares_setAlive (hne : id ≠ other) (value : String) (ttl : Nat) (c : Cache) :
    c.Spares id (c.step (.write (presenceKey other) value ttl)) := by
  unfold step set
  cases c.available with
  | error e => exact .refl id c
  | ok u =>
      by_cases hfits : c.clock + ttl < clockEnd
      · have hkey : presenceKey other ≠ presenceKey id :=
          fun hsame => hne (presenceKey_injective hsame).symm
        -- the entry that is put is under the key of the other terminal
        have hput : entry? (c.put ⟨presenceKey other, value, c.clock + ttl⟩) (presenceKey id) = _ :=
          find?_put _
        simp only [hfits, if_true]
        exact ⟨rfl, rfl, hput.trans (if_neg hkey)⟩
      · simp only [hfits, if_false]
        exact .refl id c

theorem Spares.advance (h : c.Spares id c') (elapsed : Nat) :
    (c.advance elapsed).Spares id (c'.advance elapsed) :=
  ⟨h.site, congrArg (· + elapsed) h.clock, h.mark⟩

/-- Whether a spared terminal is alive is not affected. -/
theorem Spares.isAlive_eq (h : c.Spares id c') : c'.isAlive id = c.isAlive id := by
  unfold isAlive isAliveBy get available fresh? isFresh
  rw [h.mark, h.clock, h.site]

end Cache

/-! ## Deployments that differ elsewhere

The two parts of a deployment, each of which spares the terminal. What is answered about it is then
the same, now and at every later time. -/

/-- What there is about the terminal with an id has stayed the same. -/
structure Database.Spares (id : String) (db db' : Database) : Prop where
  isOpen : db'.isOpen = db.isOpen
  store : db.store.Spares id db'.store

/-- What there is about the terminal with an id has stayed the same. -/
structure Deployment.Spares (id : String) (d d' : Deployment) : Prop where
  database : d.database.Spares id d'.database
  cache : d.cache.Spares id d'.cache

namespace Database

variable {α : Type} {id : String}

instance (id : String) : IsPreorder Database (Spares id) where
  refl db := ⟨rfl, .refl id db.store⟩
  trans _ _ _ h h' := ⟨h'.isOpen.trans h.isOpen, trans_of (Store.Spares id) h.store h'.store⟩

theorem spares_change {f : Store → Store} {db : Database} (h : db.store.Spares id (f db.store)) :
    db.Spares id (db.change f) := by
  unfold change
  split
  · exact ⟨rfl, h⟩
  · exact refl_of (Spares id) db

/-- A statement that spares the terminal does so as a call. -/
theorem spares_execute {tx : Store → Except StoreError Store}
    (h : ∀ s s', tx s = .ok s' → s.Spares id s') : Within (fun db => db) (Spares id) (execute tx) := by
  intro db
  rw [execute_snd]
  exact spares_change (Store.spares_attempt (h db.store))

theorem spares_getOrCreateProtocols (id : String) (requests : List ProtocolEntry) :
    Within (fun db => db) (Spares id) (getOrCreateProtocols requests) := by
  apply Within.foldlM
  intro found request
  cases request.resolve? with
  | none => exact Within.pure found
  | some wanted =>
      refine Within.bind (Within.bind ?_ fun _ => ?_) fun _ => Within.pure _
      · exact spares_execute fun _ _ => Store.spares_insertProtocolIfAbsent
      · intro db
        rw [findProtocol, query_snd]
        exact refl_of (Spares id) db

end Database

namespace Deployment

variable {id : String} {d d' : Deployment}

instance (id : String) : IsPreorder Deployment (Spares id) where
  refl d := ⟨refl_of (Database.Spares id) d.database, .refl id d.cache⟩
  trans _ _ _ h h' :=
    { database := trans_of (Database.Spares id) h.database h'.database
      cache := ⟨h'.cache.site.trans h.cache.site, h'.cache.clock.trans h.cache.clock,
        h'.cache.mark.trans h.cache.mark⟩ }

theorem spares_change {f : Store → Store} (h : d.database.store.Spares id (f d.database.store)) :
    d.Spares id (d.change f) :=
  ⟨Database.spares_change h, .refl id d.cache⟩

theorem spares_onStore {α : Type} {call : Database.Call α}
    (h : Within (fun db => db) (Database.Spares id) call) :
    Within (fun d => d) (Spares id) (Registry.onStore call) := by
  intro d
  rw [Registry.onStore_snd]
  exact ⟨h d.database, .refl id d.cache⟩

/-- A reset spares everyone but the terminal whose protocols are reset. -/
theorem spares_resetProtocols (t : Terminal) (hne : id ≠ t.id) :
    Within (fun d => d) (Spares id) (Registry.resetProtocols t) := by
  unfold Registry.resetProtocols Registry.defaultProtocols
  refine Within.bind ?_ fun protocols => Within.bind ?_ fun _ => Within.pure _
  · cases ProtocolEntry.defaults? t.type with
    | none => exact Within.throw _
    | some requests => exact spares_onStore (Database.spares_getOrCreateProtocols id requests)
  · exact spares_onStore (Database.spares_execute fun _ _ => Store.spares_replaceProtocols hne)

/-! ### What is answered then -/

theorem ask_fst {α : Type} (ask : Store → Except StoreError α) (d : Deployment) :
    (Registry.onStore (Database.query ask) d).1 =
      if d.database.isOpen then (ask d.database.store).mapError .ofStore
      else .error (.ofStore (.query .closed)) := by
  cases hopen : d.database.isOpen with
  | false => exact congrArg Prod.fst (Registry.storeCall_error (Database.transact_closed hopen))
  | true =>
      cases hask : ask d.database.store with
      | ok a => exact congrArg Prod.fst (Registry.ask_ok hopen hask)
      | error e =>
          refine congrArg Prod.fst (Registry.storeCall_error (Database.transact_error hopen ?_))
          rw [hask]
          rfl

/-- A question is answered alike if the connections are both open or both closed. -/
theorem ask_answer {α : Type} {ask : Store → Except StoreError α}
    (hopen : d'.database.isOpen = d.database.isOpen)
    (hask : ask d'.database.store = ask d.database.store) :
    (Registry.onStore (Database.query ask) d').1 = (Registry.onStore (Database.query ask) d).1 := by
  rw [ask_fst, ask_fst, hopen, hask]

theorem ask_same {α : Type} (ask : Store → Except StoreError α) (d : Deployment) :
    (Registry.onStore (Database.query ask) d).2 = d :=
  (Registry.admitsReading_same.ask ask d).symm

/-- A label is decided by two answers. -/
theorem statusLabel_answer {t : Terminal}
    (hactive : (Registry.isActive t d').1 = (Registry.isActive t d).1)
    (halive : (Registry.isAlive t d').1 = (Registry.isAlive t d).1) :
    (Registry.statusLabel t d').1 = (Registry.statusLabel t d).1 := by
  rw [Registry.statusLabel_eq_ofAnswers, Registry.statusLabel_eq_ofAnswers, hactive, halive]

namespace Spares

variable (h : d.Spares id d')

include h

theorem advance (elapsed : Nat) :
    (d.after [⟨_, .advance elapsed⟩]).Spares id (d'.after [⟨_, .advance elapsed⟩]) :=
  ⟨h.database, h.cache.advance elapsed⟩

theorem isAlive :
    (Registry.readCache (·.isAlive id) d').1 = (Registry.readCache (·.isAlive id) d).1 := by
  rw [Registry.readCache_eq, Registry.readCache_eq, h.cache.isAlive_eq]

/-- The value that is read is the same, so it names the same account, and the label is decided by
the same answers. -/
theorem label (hs : d.database.store.Consistent) :
    ((Registry.get id >>= Registry.statusLabel) d').1 =
      ((Registry.get id >>= Registry.statusLabel) d).1 := by
  have hopen := h.database.isOpen
  have hrow := h.database.store.row
  refine call_bind_answer (ask_answer hopen (by rw [hrow])) (ask_same _ d') (ask_same _ d) ?_
  intro t hget
  obtain ⟨hask, -⟩ := Database.query_eq_ok (Registry.storeCall_eq_ok hget).1
  rw [hrow] at hask
  cases hfound : d.database.store.terminalRow? id with
  | none =>
      rw [hfound] at hask
      cases hask
  | some row =>
      -- the copy is what the row describes, so its account is the one that is spared
      obtain ⟨hmem, rfl⟩ := hs.terminalRow?_eq_some_iff.mp hfound
      rw [hfound] at hask
      dsimp only at hask
      rw [(hs.terminalsReadable row hmem).read_eq] at hask
      obtain rfl := Except.ok.inj hask
      apply statusLabel_answer
      · unfold Registry.isActive
        cases ha : row.described.accountId with
        | none => rfl
        | some a =>
            apply ask_answer hopen
            rw [h.database.store.account row hfound a ha]
      · exact h.isAlive

/-- Nothing that can be seen of a spared terminal has changed. -/
theorem standing_eq (hs : d.database.store.Consistent) (hs' : d'.database.store.Consistent) :
    d'.standing id = d.standing id := by
  have hopen := h.database.isOpen
  have hstore := h.database.store
  unfold standing
  rw [Standing.mk.injEq]
  refine ⟨hstore.row, ?_, ?_, ?_, ?_, ?_, ?_⟩
  · rw [hstore.row]
    cases hrow : d.database.store.terminalRow? id with
    | none => rfl
    | some row =>
        cases ha : row.accountId with
        | none => simp [ha]
        | some a =>
            have hsame := hstore.account row hrow a ha
            simp [ha, hsame]
  · apply ask_answer hopen
    rw [hstore.servedProtocols_eq hs hs']
  · apply ask_answer hopen
    rw [hstore.reachedDomains_eq]
  · funext scope
    apply ask_answer hopen
    unfold Store.openSessions
    rw [hstore.sessions]
  · funext elapsed
    exact (h.advance elapsed).isAlive
  · funext elapsed
    exact (h.advance elapsed).label hs

end Spares

/-! ## Upkeep of another terminal

Only a switch of an account reaches beyond the row of its terminal: it goes by the account in the
caller's copy, which may be outdated. That the account belongs to no other terminal now is where it
matters that accounts do not get an id that was in use before. -/

variable {start : Deployment} {requests : List Registry.Request} {t : Terminal}

/-- The account that a copy names is not that of another terminal: it is still the account of its
own row, or it is gone. -/
theorem Handed.account_ne (h : start.Handed requests t) (fresh : start.Fresh)
    (hreuse : start.AccountsNeverReused requests) (hne : id ≠ t.id) {row : TerminalRow}
    (hrow : (start.after requests).database.store.terminalRow? id = some row) {a : String}
    (ha : row.accountId = some a) : t.accountId ≠ some a := by
  intro hnamed
  have hs := (fresh.reachable requests).consistent
  obtain ⟨hmem, hid⟩ := hs.terminalRow?_eq_some_iff.mp hrow
  obtain ⟨own, hown, hownid, hlinked | hgone⟩ := h.account_linked_or_gone fresh hreuse hnamed
  · have heq := hs.terminalAccounts.eq_of_mem hown hmem hlinked ha
    exact hne (by rw [← hid, ← heq, hownid])
  · obtain ⟨x, hx, hxa⟩ := hs.linkedAccounts row hmem a ha
    exact hgone.2 (List.mem_map.mpr ⟨x, hx, hxa⟩)

/-- Upkeep through any copy spares every other terminal. -/
theorem Handed.upkeep_spares (h : start.Handed requests t) (fresh : start.Fresh)
    (hreuse : start.AccountsNeverReused requests) (hne : id ≠ t.id) (u : Registry.Upkeep) :
    (start.after requests).Spares id ((u.request t).2.run (start.after requests)).2 := by
  have hs := (fresh.reachable requests).consistent
  generalize hd : start.after requests = d at hs
  cases u with
  | resetProtocols => exact spares_resetProtocols t hne d
  | setDomains ids =>
      show d.Spares id (Registry.setDomains t ids d).2
      rw [Registry.setDomains_snd]
      exact spares_change (Store.spares_attempt fun _ => Store.spares_replaceDomains hne)
  | delete =>
      show d.Spares id (Registry.lend t Registry.delete d).2
      rw [Registry.delete_snd]
      exact spares_change (Store.spares_afterDeletion hs hne)
  | setStorage command replay =>
      show d.Spares id (Registry.lend t (Registry.setStorage command replay) d).2
      rw [Registry.setStorage_snd]
      refine spares_change (Store.spares_updateTerminal ?_ hne _)
      intro row
      rfl
  | accept =>
      show d.Spares id (Registry.lend t Registry.accept d).2
      rw [Registry.accept_snd]
      refine spares_change (Store.spares_updateTerminal ?_ hne _)
      intro row
      rfl
  | setActive enabled =>
      show d.Spares id (Registry.setActive t enabled d).2
      rw [Registry.setActive_snd]
      refine spares_change (Store.spares_withAccountActive ?_ enabled)
      intro row hrow a ha
      rw [← hd] at hrow
      -- the copy may be old, but its account has not passed to another terminal
      exact h.account_ne fresh hreuse hne hrow ha
  | heartbeat r =>
      show d.Spares id (r.heartbeat t d).2
      rw [Registry.heartbeat_snd]
      exact ⟨refl_of (Database.Spares id) d.database, Cache.spares_setAlive hne _ _ _⟩

/-- As long as no account is given an id that another one had, nothing that is asked for through a
copy of one terminal, however old the copy is and however the request turns out, changes what can be
seen of another terminal, now or later. -/
theorem upkeep_isolated (start : Deployment) (fresh : start.Fresh)
    (requests : List Registry.Request) (hreuse : start.AccountsNeverReused requests) (t : Terminal)
    (handed : start.Handed requests t) (u : Registry.Upkeep) (id : String) (hne : id ≠ t.id) :
    (start.after (requests ++ [u.request t])).standing id = (start.after requests).standing id := by
  have hs := (fresh.reachable requests).consistent
  have hs' := (fresh.reachable (requests ++ [u.request t])).consistent
  rw [after_snoc] at hs' ⊢
  exact (handed.upkeep_spares fresh hreuse hne u).standing_eq hs hs'

/-- The registration of a terminal that is disabled through a copy made before a second terminal
with an account of its own was registered. -/
theorem upkeep_isolated_of_older_copy :
    let second : Registry.Request :=
      ⟨_, .register "k" (.withDefaults "lion" .lion) (some ("b", "v")) 6⟩
    let d := ({} : Deployment).after [registration, second]
    let d' := ({} : Deployment).after
      [registration, second, (Registry.Upkeep.setActive false).request newcomer]
    (d.standing "t").account ≠ (d'.standing "t").account ∧
      (d.standing "k").account = some ⟨"b", "v", true, 6⟩ ∧ d'.standing "k" = d.standing "k" := by
  intro second d d'
  have hreuse : ({} : Deployment).AccountsNeverReused (([] ++ [registration]) ++ [second]) := by
    refine .snoc (.snoc (.nil _) ?_) ?_
    · rintro id ⟨past, hpast, hid⟩ _
      rw [List.prefix_nil.mp hpast] at hid
      exact hid
    · rintro id ⟨past, hpast, hid⟩ _
      rcases List.prefix_concat_iff.mp hpast with rfl | hnone
      · exact hid
      · rw [List.prefix_nil.mp hnone] at hid
        exact absurd hid List.not_mem_nil
  exact ⟨by decide, rfl, upkeep_isolated {} ⟨rfl, rfl⟩ [registration, second] hreuse newcomer
    (.later second newcomer_handed) (.setActive false) "k" (by decide)⟩

end Deployment
end GatewayRegistry
