import GatewayRegistry.Proofs.Runs.Lookups

/-!
# Views and labels

While the connections are open and the cache is available, the views of a reachable deployment are
made of the same rows in the same order, each of fewer of them (`Store.viewed`), and the label of
a terminal says in which of the views it is.
-/

namespace GatewayRegistry

/-! ## Labels -/

namespace StatusLabel

/-- The label says how far a terminal gets: kept, then enabled, then online. -/
theorem ofFlags_eq_iff (accepted deleted active alive : Bool) :
    (ofFlags ⟨accepted, deleted, active, alive⟩ = .notAccepted ↔ accepted = false) ∧
    (ofFlags ⟨accepted, deleted, active, alive⟩ = .deleted ↔
      accepted = true ∧ ¬(!deleted) = true) ∧
    (ofFlags ⟨accepted, deleted, active, alive⟩ = .disabled ↔
      accepted = true ∧ (!deleted) = true ∧ ¬(!deleted && active) = true) ∧
    (ofFlags ⟨accepted, deleted, active, alive⟩ = .offline ↔
      accepted = true ∧ (!deleted && active) = true ∧ ¬(!deleted && active && alive) = true) ∧
    (ofFlags ⟨accepted, deleted, active, alive⟩ = .active ↔
      accepted = true ∧ (!deleted && active && alive) = true) := by
  cases accepted <;> cases deleted <;> cases active <;> cases alive <;> simp [ofFlags]

end StatusLabel

namespace Registry

variable {d : Deployment} {α : Type}

/-! ## Answers -/

/-- Activity is answered from the account. -/
theorem isActive_ok (hopen : d.database.isOpen = true) (t : Terminal) :
    isActive t d = (.ok (d.database.store.accountActive t), d) := by
  unfold isActive Store.accountActive
  cases t.accountId with
  | none => rfl
  | some a => exact ask_ok hopen rfl

theorem isAlive_ok (hcache : d.cache.available = .ok ()) (t : Terminal) :
    isAlive t d = (.ok (d.cache.marked t.id), d) :=
  readCache_ok (Cache.isAlive_of_available hcache t.id)

theorem answer_eq_true_iff {call : Call Bool} {answer : Bool} (h : call d = (.ok answer, d)) :
    call d = (.ok true, d) ↔ answer = true := by
  rw [h]
  constructor
  · intro h
    exact Except.ok.inj (Prod.mk.inj h).1
  · intro h
    rw [h]

theorem isActive_eq_true_iff (hopen : d.database.isOpen = true) (t : Terminal) :
    isActive t d = (.ok true, d) ↔ d.database.store.accountActive t = true :=
  answer_eq_true_iff (isActive_ok hopen t)

theorem isAlive_eq_true_iff (hcache : d.cache.available = .ok ()) (t : Terminal) :
    isAlive t d = (.ok true, d) ↔ d.cache.marked t.id = true :=
  answer_eq_true_iff (isAlive_ok hcache t)

/-- The label is the one of all four flags. -/
theorem statusLabel_ok (hopen : d.database.isOpen = true) (hcache : d.cache.available = .ok ())
    (t : Terminal) :
    statusLabel t d =
      (.ok (.ofFlags ⟨t.isAccepted, t.isDeleted, d.database.store.accountActive t,
        d.cache.marked t.id⟩), d) := by
  rw [statusLabel_eq_ofAnswers, isActive_ok hopen, isAlive_ok hcache, StatusLabel.ofAnswers_ok]

/-! ## Views -/

section

variable (hs : d.database.store.Consistent) (hopen : d.database.isOpen = true)

include hs hopen

theorem listTerminals_ok :
    onStore Database.listTerminals d = (.ok (d.database.store.viewed fun _ => true), d) := by
  apply ask_ok hopen
  have hread := hs.mapM_read_filter fun _ => true
  rw [List.filter_true] at hread
  exact hread

theorem undeleted_ok :
    undeleted d = (.ok (d.database.store.viewed fun row => !row.isDeleted), d) :=
  ask_ok hopen (hs.mapM_read_filter _)

theorem active_ok :
    active d = (.ok (d.database.store.viewed fun row =>
      !row.isDeleted && d.database.store.hasActiveAccount row), d) :=
  ask_ok hopen (hs.mapM_read_filter _)

/-- The view of those that are alive is picked from those that are active. -/
theorem alive_ok (hcache : d.cache.available = .ok ()) :
    alive d = (.ok (d.database.store.viewed fun row =>
      !row.isDeleted && d.database.store.hasActiveAccount row && d.cache.marked row.id), d) := by
  have hactive := congrArg Prod.fst (active_ok hs hopen)
  have hview := d.database.store.filter_viewed
    (fun row => !row.isDeleted && d.database.store.hasActiveAccount row) fun t => d.cache.marked t.id
  obtain ⟨ts, hts⟩ := (narrows_alive d).isOk_iff.mpr ⟨_, hactive, .inr fun t _ =>
    ⟨_, congrArg Prod.fst (isAlive_ok hcache t)⟩⟩
  have hfilter := (narrows_alive d).eq_filter hactive hts
  simp only [isAlive_ok hcache, saysYes] at hfilter
  rw [hfilter, hview] at hts
  exact Prod.ext hts (admitsReading_same.alive d).symm

theorem get_ok {row : TerminalRow} (hrow : row ∈ d.database.store.terminals) :
    get row.id d = (.ok row.described, d) := by
  apply ask_ok hopen
  rw [hs.terminalRow?_eq_some_iff.mpr ⟨hrow, rfl⟩]
  exact (hs.terminalsReadable row hrow).read_eq

end

/-! ## Views and labels -/

/-- Each view is a part of the one before it, without repetitions and in the same order, and the
freshly read value of a terminal is in the views that its account and its mark let it be in; its
label says in which. -/
theorem views_agree (d : Deployment) (h : d.Reachable) (hopen : d.database.isOpen = true)
    (hcache : d.cache.available = .ok ()) :
    ∃ all kept enabled online : List Terminal,
      onStore Database.listTerminals d = (.ok all, d) ∧ undeleted d = (.ok kept, d) ∧
      active d = (.ok enabled, d) ∧ alive d = (.ok online, d) ∧
      online.Sublist enabled ∧ enabled.Sublist kept ∧ kept.Sublist all ∧
      (all.map (·.id)).Nodup ∧ all.Pairwise d.database.store.ListedBefore ∧
      (∀ t ∈ all, ∃ row ∈ d.database.store.terminals, row.id = t.id) ∧
      ∀ row ∈ d.database.store.terminals, ∃ t label,
        get row.id d = (.ok t, d) ∧ statusLabel t d = (.ok label, d) ∧ t ∈ all ∧
        (t ∈ kept ↔ row.isDeleted = false) ∧
        (t ∈ enabled ↔ t ∈ kept ∧ isActive t d = (.ok true, d)) ∧
        (t ∈ online ↔ t ∈ enabled ∧ isAlive t d = (.ok true, d)) ∧
        (label = .notAccepted ↔ row.isAccepted = false) ∧
        (label = .deleted ↔ row.isAccepted = true ∧ t ∉ kept) ∧
        (label = .disabled ↔ row.isAccepted = true ∧ t ∈ kept ∧ t ∉ enabled) ∧
        (label = .offline ↔ row.isAccepted = true ∧ t ∈ enabled ∧ t ∉ online) ∧
        (label = .active ↔ row.isAccepted = true ∧ t ∈ online) := by
  have hs := h.consistent
  refine ⟨_, _, _, _, listTerminals_ok hs hopen, undeleted_ok hs hopen, active_ok hs hopen,
    alive_ok hs hopen hcache, Store.viewed_sublist ?_, Store.viewed_sublist ?_,
    Store.viewed_sublist ?_, hs.nodup_ids_viewed _, hs.viewed_pairwise _, ?_, ?_⟩
  · intro row hrow
    exact (Bool.and_eq_true_iff.mp hrow).1
  · intro row hrow
    exact (Bool.and_eq_true_iff.mp hrow).1
  · intro row _
    rfl
  · intro t ht
    obtain ⟨row, hrow, _, rfl⟩ := Store.mem_viewed_iff.mp ht
    exact ⟨row, hrow, rfl⟩
  · intro row hrow
    refine ⟨row.described, _, get_ok hs hopen hrow, statusLabel_ok hopen hcache _, ?_⟩
    -- membership in a view becomes a condition on the row, and so does the label
    simp only [hs.described_mem_viewed_iff hrow, hs.hasActiveAccount_eq, isActive_eq_true_iff hopen,
      isAlive_eq_true_iff hcache]
    refine ⟨trivial, ?_, Bool.and_eq_true_iff, Bool.and_eq_true_iff, StatusLabel.ofFlags_eq_iff ..⟩
    rw [Bool.not_eq_true']

/-- A terminal that was accepted and sent a heartbeat is in every view. -/
theorem views_agree_of_heartbeat :
    let d := Deployment.oneTerminal.after
      [⟨_, .store (.setAccepted "t" true)⟩, ⟨_, .setAlive "t" 1000⟩]
    ∃ t online, get "t" d = (.ok t, d) ∧ alive d = (.ok online, d) ∧ t ∈ online := by
  intro d
  have hd : d.Reachable := Deployment.oneTerminal_reachable.leadsTo ⟨_, rfl⟩
  obtain ⟨_, _, _, online, _, _, _, halive, _, _, _, _, _, _, hrows⟩ := views_agree d hd rfl rfl
  obtain ⟨t, label, hget, hlabel, _, _, _, _, _, _, _, _, hactive⟩ :=
    hrows { TerminalRow.ofNew "t" (.withDefaults "koko" .koko) (some "a") 5 with isAccepted := true }
      List.mem_cons_self
  refine ⟨t, online, hget, halive, (hactive.mp ?_).2⟩
  cases hget
  cases hlabel
  rfl

end Registry
end GatewayRegistry
