import GatewayRegistry.Proofs.Runs.Reachable

/-!
# Deletions

In a consistent store, nothing but a lock on accounts holds back the deletion of a terminal that is
there: the account of its row exists, and no other terminal refers to it. A deletion that fails
changes nothing, though the row is marked before the account is removed.
-/

namespace GatewayRegistry

namespace Store

variable {s : Store} {id : String} {row : TerminalRow}

/-- The account that a row links exists. -/
theorem Consistent.any_hasAccount (h : s.Consistent) (hrow : row ∈ s.terminals) :
    row.accountId.any s.hasAccount = row.accountId.isSome := by
  cases ha : row.accountId with
  | none => rfl
  | some a => exact hasAccount_iff.mpr (h.linkedAccounts row hrow a ha)

/-- No other terminal links the account that a row links. -/
theorem Consistent.not_linked_elsewhere (h : s.Consistent) (hrow : row ∈ s.terminals)
    (hlinked : row.accountId.isSome = true) :
    (s.terminals.any fun other => other.id != row.id && other.accountId == row.accountId) = false := by
  obtain ⟨a, ha⟩ := Option.isSome_iff_exists.mp hlinked
  rw [List.any_eq_false]
  intro other hother hboth
  obtain ⟨hid, hsame⟩ := Bool.and_eq_true_iff.mp hboth
  rw [ha, beq_iff_eq] at hsame
  have heq : other = row := h.terminalAccounts.eq_of_mem hother hrow hsame ha
  rw [heq] at hid
  exact (bne_iff_ne.mp hid) rfl

/-- Only the lock decides whether a terminal that is there can be deleted. -/
theorem Consistent.softDelete_eq (h : s.Consistent) (hrow : s.terminalRow? id = some row) :
    s.softDelete id =
      if row.accountId.isSome && s.accountsLocked then .error (.rejected .accountLocked)
      else .ok (row.accountId, s.retire id row.accountId) := by
  obtain ⟨hmem, hid⟩ := h.terminalRow?_eq_some_iff.mp hrow
  rw [Store.softDelete_eq hrow, h.any_hasAccount hmem, ← hid]
  cases hlinked : row.accountId.isSome with
  | false => rfl
  | true =>
      rw [h.not_linked_elsewhere hmem hlinked]
      rfl

/-- No row is found if none has the id. -/
theorem terminalRow?_eq_none_iff :
    s.terminalRow? id = none ↔ ∀ row ∈ s.terminals, row.id ≠ id := by
  unfold terminalRow?
  simp [List.find?_eq_none]

end Store

namespace Registry

variable {d : Deployment} {t : Terminal} {row : TerminalRow}

/-! ## The four cases

The database is closed; the terminal is not there; its account is locked; or nothing stands in the
way. In a consistent store no other row holds the account, so there is no fifth case. -/

/-- Nothing can be asked of a closed database, and the failure is reported as an aborted
deletion. -/
theorem delete_closed (hclosed : d.database.isOpen = false) :
    delete ⟨d, t⟩ = (.error (.deletionAborted t.id (.query .closed)), ⟨d, t⟩) :=
  delete_error (Database.transact_closed hclosed)

theorem delete_absent (hopen : d.database.isOpen = true)
    (h : d.database.store.terminalRow? t.id = none) :
    delete ⟨d, t⟩ = (.error (.notFound (.terminal t.id)), ⟨d, t⟩) :=
  delete_error (Database.transact_error hopen (Store.softDelete_of_absent h))

theorem delete_locked (hs : d.database.store.Consistent) (hopen : d.database.isOpen = true)
    (hrow : d.database.store.terminalRow? t.id = some row)
    (hlocked : (row.accountId.isSome && d.database.store.accountsLocked) = true) :
    delete ⟨d, t⟩ = (.error (.deletionAborted t.id (.rejected .accountLocked)), ⟨d, t⟩) := by
  have htx := hs.softDelete_eq hrow
  rw [if_pos hlocked] at htx
  exact delete_error (Database.transact_error hopen htx)

/-- The row loses its account and is marked, the account goes, and the copy follows. -/
theorem delete_present (hs : d.database.store.Consistent) (hopen : d.database.isOpen = true)
    (hrow : d.database.store.terminalRow? t.id = some row)
    (hfree : (row.accountId.isSome && d.database.store.accountsLocked) = false) :
    delete ⟨d, t⟩ = (.ok (),
      ⟨{ d with database :=
          { d.database with store := d.database.store.retire t.id row.accountId } },
        { t with accountId := none, isDeleted := true }⟩) := by
  have htx := hs.softDelete_eq hrow
  rw [if_neg (by simp [hfree])] at htx
  exact delete_ok (Database.transact_ok hopen htx)

/-- Every deletion is in one of the four cases. -/
theorem delete_cases (hs : d.database.store.Consistent) (t : Terminal) :
    (d.database.isOpen = false ∧
      delete ⟨d, t⟩ = (.error (.deletionAborted t.id (.query .closed)), ⟨d, t⟩)) ∨
    (d.database.isOpen = true ∧ (∀ row ∈ d.database.store.terminals, row.id ≠ t.id) ∧
      delete ⟨d, t⟩ = (.error (.notFound (.terminal t.id)), ⟨d, t⟩)) ∨
    ∃ row ∈ d.database.store.terminals, row.id = t.id ∧ d.database.isOpen = true ∧
      ((row.accountId.isSome = true ∧ d.database.store.accountsLocked = true ∧
        delete ⟨d, t⟩ = (.error (.deletionAborted t.id (.rejected .accountLocked)), ⟨d, t⟩)) ∨
      (¬(row.accountId.isSome = true ∧ d.database.store.accountsLocked = true) ∧
        delete ⟨d, t⟩ = (.ok (),
          ⟨{ d with database :=
              { d.database with store := d.database.store.retire t.id row.accountId } },
            { t with accountId := none, isDeleted := true }⟩))) := by
  cases hopen : d.database.isOpen with
  | false => exact Or.inl ⟨rfl, delete_closed hopen⟩
  | true =>
      refine Or.inr ?_
      cases hrow : d.database.store.terminalRow? t.id with
      | none =>
          have habsent := Store.terminalRow?_eq_none_iff.mp hrow
          exact Or.inl ⟨rfl, habsent, delete_absent hopen hrow⟩
      | some row =>
          obtain ⟨hmem, hid⟩ := hs.terminalRow?_eq_some_iff.mp hrow
          refine Or.inr ⟨row, hmem, hid, rfl, ?_⟩
          -- the lock holds back only a terminal that has an account
          cases hlocked : row.accountId.isSome && d.database.store.accountsLocked with
          | true =>
              obtain ⟨hlinked, hlock⟩ := Bool.and_eq_true_iff.mp hlocked
              exact Or.inl ⟨hlinked, hlock, delete_locked hs hopen hrow hlocked⟩
          | false =>
              refine Or.inr ⟨?_, delete_present hs hopen hrow hlocked⟩
              rw [← Bool.and_eq_true_iff, hlocked]
              exact Bool.false_ne_true

/-! ## All of it -/

/-- When a deletion succeeds. -/
theorem delete_eq_ok_iff (hs : d.database.store.Consistent) :
    (delete ⟨d, t⟩).1 = .ok () ↔
      d.database.isOpen = true ∧ ∃ row ∈ d.database.store.terminals, row.id = t.id ∧
        ¬(row.accountId.isSome = true ∧ d.database.store.accountsLocked = true) := by
  rcases delete_cases hs t with ⟨hclosed, hrun⟩ | ⟨hopen, habsent, hrun⟩ |
    ⟨row, hmem, hid, hopen, ⟨hlinked, hlock, hrun⟩ | ⟨hfree, hrun⟩⟩
  · rw [hrun, hclosed]
    simp
  · rw [hrun]
    constructor
    · intro hok
      cases hok
    · rintro ⟨_, row, hmem, hid, _⟩
      exact absurd hid (habsent row hmem)
  · rw [hrun]
    constructor
    · intro hok
      cases hok
    -- there is one row with this id, and it is the one that is held back
    · rintro ⟨_, other, hother, hsame, hnot⟩
      rw [hs.terminalIds.eq_of_mem hother hmem (hsame.trans hid.symm)] at hnot
      exact absurd ⟨hlinked, hlock⟩ hnot
  · rw [hrun]
    exact ⟨fun _ => ⟨hopen, row, hmem, hid, hfree⟩, fun _ => rfl⟩

/-- What a deletion that succeeds leaves behind. -/
theorem delete_effect (hs : d.database.store.Consistent) (h : (delete ⟨d, t⟩).1 = .ok ()) :
    (delete ⟨d, t⟩).2.copy = { t with accountId := none, isDeleted := true } ∧
      ∃ row ∈ d.database.store.terminals, row.id = t.id ∧
        (delete ⟨d, t⟩).2.deployment = { d with database :=
          { d.database with store := d.database.store.retire t.id row.accountId } } := by
  rcases delete_cases hs t with ⟨_, hrun⟩ | ⟨_, _, hrun⟩ |
    ⟨row, hmem, hid, _, ⟨_, _, hrun⟩ | ⟨_, hrun⟩⟩
  · rw [hrun] at h
    cases h
  · rw [hrun] at h
    cases h
  · rw [hrun] at h
    cases h
  · rw [hrun]
    exact ⟨rfl, row, hmem, hid, rfl⟩

/-- Why a deletion fails, and that it then has no effect on the deployment or on the copy. -/
theorem delete_failure (hs : d.database.store.Consistent) {e : RegistryError}
    (h : (delete ⟨d, t⟩).1 = .error e) :
    (delete ⟨d, t⟩).2 = ⟨d, t⟩ ∧
      (e = .notFound (.terminal t.id) ↔
        d.database.isOpen = true ∧ ∀ row ∈ d.database.store.terminals, row.id ≠ t.id) ∧
      (e ≠ .notFound (.terminal t.id) → e = .deletionAborted t.id
        (if d.database.isOpen then .rejected .accountLocked else .query .closed)) := by
  rcases delete_cases hs t with ⟨hclosed, hrun⟩ | ⟨hopen, habsent, hrun⟩ |
    ⟨row, hmem, hid, hopen, ⟨_, _, hrun⟩ | ⟨_, hrun⟩⟩
  · rw [hrun] at h ⊢
    cases h
    rw [hclosed]
    exact ⟨rfl, by simp, fun _ => rfl⟩
  · rw [hrun] at h ⊢
    cases h
    exact ⟨rfl, ⟨fun _ => ⟨hopen, habsent⟩, fun _ => rfl⟩, fun hne => absurd rfl hne⟩
  · rw [hrun] at h ⊢
    cases h
    rw [hopen]
    refine ⟨rfl, ?_, fun _ => rfl⟩
    constructor
    · intro hcontra
      cases hcontra
    · rintro ⟨_, habsent⟩
      exact absurd hid (habsent row hmem)
  · rw [hrun] at h
    cases h

/-- When a deletion succeeds, all that it changes then, and why it fails otherwise. The copy of the
terminal may be out of date: the row decides. If the deletion fails, neither the deployment nor the
copy is changed. -/
theorem delete_correct (d : Deployment) (h : d.Reachable) (t : Terminal) :
    ((delete ⟨d, t⟩).1 = .ok () ↔
      d.database.isOpen = true ∧ ∃ row ∈ d.database.store.terminals, row.id = t.id ∧
        ¬(row.accountId.isSome = true ∧ d.database.store.accountsLocked = true)) ∧
    ((delete ⟨d, t⟩).1 = .ok () →
      (delete ⟨d, t⟩).2.copy = { t with accountId := none, isDeleted := true } ∧
        ∃ row ∈ d.database.store.terminals, row.id = t.id ∧
          (delete ⟨d, t⟩).2.deployment = { d with database := { d.database with
            store := { d.database.store with
              terminals := d.database.store.terminals.map fun other =>
                if other.id == t.id then { other with accountId := none, isDeleted := true } else other
              accounts := d.database.store.accounts.filter fun a => row.accountId != some a.id } } }) ∧
    (∀ e, (delete ⟨d, t⟩).1 = .error e →
      (delete ⟨d, t⟩).2.copy = t ∧ (delete ⟨d, t⟩).2.deployment = d ∧
        (e = .notFound (.terminal t.id) ↔
          d.database.isOpen = true ∧ ∀ row ∈ d.database.store.terminals, row.id ≠ t.id) ∧
        (e ≠ .notFound (.terminal t.id) → e = .deletionAborted t.id
          (if d.database.isOpen then .rejected .accountLocked else .query .closed))) ∧
    (d.database.isOpen = true → d.database.store.accountsLocked = false →
      ∀ row ∈ d.database.store.terminals, row.id = t.id → (delete ⟨d, t⟩).1 = .ok ()) := by
  have hs := h.consistent
  refine ⟨delete_eq_ok_iff hs, ?_, ?_, ?_⟩
  · intro hok
    exact delete_effect hs hok
  · intro e herror
    obtain ⟨hsame, hwhy⟩ := delete_failure hs herror
    rw [hsame]
    exact ⟨rfl, rfl, hwhy⟩
  · intro hopen hunlocked row hrow hid
    refine (delete_eq_ok_iff hs).mpr ⟨hopen, row, hrow, hid, ?_⟩
    -- without a lock there is nothing that could hold the row back
    rw [hunlocked]
    rintro ⟨_, hlocked⟩
    cases hlocked

/-- A copy that names no account. -/
theorem delete_correct_of_stale_copy :
    (delete ⟨.oneTerminal,
        { id := "t", name := "koko", type := .koko, remoteAddress := "", sshPort := 2222,
          httpPort := 5000, commandStorage := "default", replayStorage := "default",
          accountId := none, isAccepted := false, isDeleted := false, comment := "",
          createdAt := 5 }⟩).1 = .ok () :=
  (delete_correct .oneTerminal Deployment.oneTerminal_reachable _).2.2.2 rfl rfl
    (.ofNew "t" (.withDefaults "koko" .koko) (some "a") 5) List.mem_cons_self rfl

end Registry
end GatewayRegistry
