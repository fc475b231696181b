import GatewayRegistry.Proofs.Runs.Reachable

/-!
# The life of a terminal row

Edits change nothing of a terminal row but its acceptance and its backends
(`TerminalRow.Adjusted`). A deletion marks the row and takes the account away from it, and removes
the account, to which no other terminal refers. So over a run a row `Continues`, and it loses its
account only when it is deleted.
-/

namespace GatewayRegistry

/-! ## Rows

What may become of a row is described twice: by edits it is adjusted in columns that no key is in
(`Adjusted`), and over a whole run it may also be deleted (`Continues`), which cannot be undone. -/

namespace TerminalRow

/-- A row was accepted, or not any more, or pointed at other backends. -/
def Adjusted (row row' : TerminalRow) : Prop :=
  ∃ accepted command replay, row' =
    { row with isAccepted := accepted, commandStorage := command, replayStorage := replay }

/-- A row is the later state of a row. -/
structure Continues (row row' : TerminalRow) : Prop where
  id : row'.id = row.id
  name : row'.name = row.name
  type : row'.type = row.type
  remoteAddress : row'.remoteAddress = row.remoteAddress
  sshPort : row'.sshPort = row.sshPort
  httpPort : row'.httpPort = row.httpPort
  comment : row'.comment = row.comment
  createdAt : row'.createdAt = row.createdAt
  /-- A deletion is never taken back. -/
  isDeleted : row.isDeleted = true → row'.isDeleted = true
  /-- A row never gets another account, and none if it had none. -/
  accountId : row'.accountId = row.accountId ∨ row'.accountId = none

variable {row row' row'' : TerminalRow}

theorem Adjusted.refl (row : TerminalRow) : row.Adjusted row :=
  ⟨row.isAccepted, row.commandStorage, row.replayStorage, rfl⟩

theorem Adjusted.trans (h : row.Adjusted row') (h' : row'.Adjusted row'') : row.Adjusted row'' := by
  obtain ⟨_, _, _, rfl⟩ := h
  obtain ⟨accepted, command, replay, rfl⟩ := h'
  exact ⟨accepted, command, replay, rfl⟩

theorem Adjusted.id (h : row.Adjusted row') : row'.id = row.id := by
  obtain ⟨_, _, _, rfl⟩ := h
  rfl

theorem Adjusted.accountId (h : row.Adjusted row') : row'.accountId = row.accountId := by
  obtain ⟨_, _, _, rfl⟩ := h
  rfl

theorem Adjusted.isDeleted (h : row.Adjusted row') : row'.isDeleted = row.isDeleted := by
  obtain ⟨_, _, _, rfl⟩ := h
  rfl

/-- To be adjusted is one way to continue. -/
theorem Adjusted.continues (h : row.Adjusted row') : row.Continues row' := by
  obtain ⟨_, _, _, rfl⟩ := h
  exact ⟨rfl, rfl, rfl, rfl, rfl, rfl, rfl, rfl, fun hdeleted => hdeleted, Or.inl rfl⟩

theorem Continues.refl (row : TerminalRow) : row.Continues row := (Adjusted.refl row).continues

/-- What continues after a while continues later on: a deleted row stays deleted, and an account
that is lost stays lost. -/
theorem Continues.trans (h : row.Continues row') (h' : row'.Continues row'') :
    row.Continues row'' where
  id := h'.id.trans h.id
  name := h'.name.trans h.name
  type := h'.type.trans h.type
  remoteAddress := h'.remoteAddress.trans h.remoteAddress
  sshPort := h'.sshPort.trans h.sshPort
  httpPort := h'.httpPort.trans h.httpPort
  comment := h'.comment.trans h.comment
  createdAt := h'.createdAt.trans h.createdAt
  isDeleted := fun hdeleted => h'.isDeleted (h.isDeleted hdeleted)
  accountId := by
    rcases h'.accountId with hsame | hnone
    · rw [hsame]
      exact h.accountId
    · exact Or.inr hnone

/-- The deletion of a terminal, on one row. -/
theorem continues_markDeleted (row : TerminalRow) :
    row.Continues { row with accountId := none, isDeleted := true } :=
  ⟨rfl, rfl, rfl, rfl, rfl, rfl, rfl, rfl, fun _ => rfl, Or.inr rfl⟩

end TerminalRow

/-! ## Edits and deletions

An edit takes no row away, so each row is found again, adjusted at most (`Edit.terminal`); and each
row that is there afterwards was there before or is new (`Edit.terminal_origin`). -/

namespace Store

variable {s s' : Store} {row row' : TerminalRow}

/-- No edit removes a terminal row. -/
theorem Edit.terminal (e : Edit s s') (hrow : row ∈ s.terminals) :
    ∃ row' ∈ s'.terminals, row.Adjusted row' := by
  cases e with
  | addTerminal => exact ⟨row, List.mem_append_left _ hrow, .refl row⟩
  | @changeTerminal id change change_eq =>
      refine ⟨_, List.mem_map_of_mem hrow, ?_⟩
      split
      · exact change_eq row
      · exact .refl row
  | addBackend kind => cases kind <;> exact ⟨row, hrow, .refl row⟩
  | _ => exact ⟨row, hrow, .refl row⟩

theorem Edits.terminal (h : Edits s s') (hrow : row ∈ s.terminals) :
    ∃ row' ∈ s'.terminals, row.Adjusted row' := by
  induction h with
  | refl => exact ⟨row, hrow, .refl row⟩
  | tail _ hedit ih =>
      obtain ⟨row₁, hrow₁, h₁⟩ := ih
      obtain ⟨row₂, hrow₂, h₂⟩ := hedit.terminal hrow₁
      exact ⟨row₂, hrow₂, h₁.trans h₂⟩

/-- A terminal row after an edit was there before, or it is new and not deleted. -/
theorem Edit.terminal_origin (e : Edit s s') (hrow' : row' ∈ s'.terminals) :
    (∃ row ∈ s.terminals, row.Adjusted row') ∨ row'.isDeleted = false := by
  cases e with
  -- a new row is not deleted
  | addTerminal _ undeleted =>
      rcases List.mem_append.mp hrow' with hrow' | hrow'
      · exact Or.inl ⟨row', hrow', .refl row'⟩
      · rw [List.mem_singleton.mp hrow']
        exact Or.inr undeleted
  | changeTerminal id change_eq =>
      obtain ⟨row, hrow, rfl⟩ := List.mem_map.mp hrow'
      refine Or.inl ⟨row, hrow, ?_⟩
      split
      · exact change_eq row
      · exact .refl row
  | addBackend kind => cases kind <;> exact Or.inl ⟨row', hrow', .refl row'⟩
  | _ => exact Or.inl ⟨row', hrow', .refl row'⟩

/-- A deletion marks the terminal with the id and leaves the others as they are. -/
theorem mem_terminals_retire {id : String} {accountId : Option String} :
    row' ∈ (s.retire id accountId).terminals ↔
      (∃ row ∈ s.terminals, row.id = id ∧ row' = { row with accountId := none, isDeleted := true }) ∨
        row' ∈ s.terminals ∧ row'.id ≠ id := by
  constructor
  · intro h
    obtain ⟨row, hrow, rfl⟩ := List.mem_map.mp h
    by_cases hid : row.id = id
    · refine Or.inl ⟨row, hrow, hid, ?_⟩
      rw [if_pos (beq_iff_eq.mpr hid)]
    · refine Or.inr ?_
      rw [if_neg (by simpa using hid)]
      exact ⟨hrow, hid⟩
  · rintro (⟨row, hrow, hid, rfl⟩ | ⟨hrow, hid⟩)
    · refine List.mem_map.mpr ⟨row, hrow, ?_⟩
      rw [if_pos (beq_iff_eq.mpr hid)]
    · refine List.mem_map.mpr ⟨row', hrow, ?_⟩
      rw [if_neg (by simpa using hid)]

/-- After a deletion every row is found again, the deleted one without its account. -/
theorem continues_retire {id : String} {accountId : Option String} (hrow : row ∈ s.terminals) :
    ∃ row' ∈ (s.retire id accountId).terminals, row.Continues row' := by
  by_cases hid : row.id = id
  · exact ⟨_, mem_terminals_retire.mpr (Or.inl ⟨row, hrow, hid, rfl⟩), row.continues_markDeleted⟩
  · exact ⟨row, mem_terminals_retire.mpr (Or.inr ⟨hrow, hid⟩), .refl row⟩

/-- Deleted terminals have no account. -/
def DeletedUnlinked (s : Store) : Prop :=
  ∀ row ∈ s.terminals, row.isDeleted = true → row.accountId = none

/-- No edit links an account to a deleted terminal. -/
theorem Edit.deletedUnlinked (e : Edit s s') (h : s.DeletedUnlinked) : s'.DeletedUnlinked := by
  intro row' hrow' hdeleted
  rcases e.terminal_origin hrow' with ⟨row, hrow, hadjusted⟩ | hnot
  · rw [hadjusted.isDeleted] at hdeleted
    rw [hadjusted.accountId]
    exact h row hrow hdeleted
  · rw [hnot] at hdeleted
    cases hdeleted

theorem DeletedUnlinked.retire (h : s.DeletedUnlinked) (id : String) (accountId : Option String) :
    (s.retire id accountId).DeletedUnlinked := by
  intro row' hrow' hdeleted
  rcases mem_terminals_retire.mp hrow' with ⟨row, _, _, rfl⟩ | ⟨hrow, _⟩
  · rfl
  · exact h row' hrow hdeleted

/-- In a consistent store, the rows with an id are one row. -/
theorem Consistent.eq_of_id (h : s.Consistent) (hrow : row ∈ s.terminals)
    (hrow' : row' ∈ s.terminals)
    (hid : row'.id = row.id) : row' = row :=
  h.terminalIds.eq_of_mem hrow' hrow hid

end Store

/-! ## Runs -/

namespace Deployment

variable {d d' : Deployment} {row row' : TerminalRow}

/-- In every state that is reached, deleted terminals have no account. -/
theorem Reachable.deletedUnlinked (h : d.Reachable) : d.database.store.DeletedUnlinked := by
  refine h.store_induction ?_ Store.Edit.deletedUnlinked ?_
  · intro row hrow
    exact absurd hrow List.not_mem_nil
  · intro s row _ hs
    exact hs.retire row.id row.accountId

/-- Whatever happens, a row continues. -/
theorem LeadsTo.continues (h : d.LeadsTo d') (hrow : row ∈ d.database.store.terminals) :
    ∃ row' ∈ d'.database.store.terminals, row.Continues row' := by
  refine h.store_induction (P := fun s => ∃ row' ∈ s.terminals, row.Continues row') ?_ ?_
    ⟨row, hrow, .refl row⟩
  · rintro s s' e ⟨row₁, hrow₁, h₁⟩
    obtain ⟨row₂, hrow₂, h₂⟩ := e.terminal hrow₁
    exact ⟨row₂, hrow₂, h₁.trans h₂.continues⟩
  · rintro s gone _ ⟨row₁, hrow₁, h₁⟩
    obtain ⟨row₂, hrow₂, h₂⟩ := Store.continues_retire hrow₁
    exact ⟨row₂, hrow₂, h₁.trans h₂⟩

/-- A terminal keeps its account during an operation unless it is deleted, and then the account is
removed. -/
theorem Reachable.accountId_run {α : Type} (h : d.Reachable) (op : Registry.Operation α)
    (hrow : row ∈ d.database.store.terminals)
    (hrow' : row' ∈ (op.run d).2.database.store.terminals) (hid : row'.id = row.id) :
    row'.accountId = row.accountId ∨
      row'.accountId = none ∧ op.deletes? = some row.id ∧ (∃ a, (op.run d).1 = .ok a) ∧
        ∀ x ∈ (op.run d).2.database.store.accounts, row.accountId ≠ some x.id := by
  rcases op.effect d with hedits | ⟨gone, hgone, a, hdeletes, hrun⟩
  · obtain ⟨row₁, hrow₁, h₁⟩ := hedits.terminal hrow
    -- the row with this id after the edits is the one that was adjusted
    have hsame : row' = row₁ :=
      (h.run op).consistent.eq_of_id hrow₁ hrow' (hid.trans h₁.id.symm)
    rw [hsame, h₁.accountId]
    exact Or.inl rfl
  · rw [hrun] at hrow' ⊢
    rcases Store.mem_terminals_retire.mp hrow' with ⟨row₁, hrow₁, hid₁, rfl⟩ | ⟨hrow₁, _⟩
    · have hgone : gone = row := by
        refine h.consistent.eq_of_id hrow hgone ?_
        exact hid₁.symm.trans hid
      subst hgone
      refine Or.inr ⟨rfl, hdeletes, ⟨a, rfl⟩, ?_⟩
      intro x hx
      simpa using (List.mem_filter.mp hx).2
    · rw [h.consistent.eq_of_id hrow hrow₁ hid]
      exact Or.inl rfl

/-- At every point of a run, deleted terminals have no account, and an account of a terminal is
there and of no other terminal. In the rest of the run no terminal disappears, and its row stays
the same but for its acceptance, its backends and its deletion. A terminal loses its account only
in an operation that deletes it and succeeds, and the account is removed by that. -/
theorem terminal_lifecycle (d : Deployment) (h : d.Reachable) :
    (∀ row ∈ d.database.store.terminals, row.isDeleted = true → row.accountId = none) ∧
    (∀ row ∈ d.database.store.terminals, ∀ a, row.accountId = some a →
      (∃ x ∈ d.database.store.accounts, x.id = a) ∧
        ∀ other ∈ d.database.store.terminals, other.accountId = some a → other = row) ∧
    (∀ d', d.LeadsTo d' → ∀ row ∈ d.database.store.terminals,
      ∃ row' ∈ d'.database.store.terminals, row.Continues row') ∧
    (∀ {α : Type} (op : Registry.Operation α), ∀ row ∈ d.database.store.terminals,
      ∀ row' ∈ (op.run d).2.database.store.terminals, row'.id = row.id →
        row'.accountId ≠ row.accountId →
        row'.accountId = none ∧ op.deletes? = some row.id ∧ (∃ answer, (op.run d).1 = .ok answer) ∧
          ∃ a, row.accountId = some a ∧ (∃ x ∈ d.database.store.accounts, x.id = a) ∧
            ∀ x ∈ (op.run d).2.database.store.accounts, x.id ≠ a) := by
  have hs := h.consistent
  refine ⟨h.deletedUnlinked, ?_, ?_, ?_⟩
  · intro row hrow a ha
    refine ⟨hs.linkedAccounts row hrow a ha, ?_⟩
    intro other hother hsame
    -- an account is linked once
    exact hs.terminalAccounts.eq_of_mem hother hrow hsame ha
  · intro d' hd row hrow
    exact hd.continues hrow
  · intro α op row hrow row' hrow' hid hchanged
    rcases h.accountId_run op hrow hrow' hid with hsame | ⟨hnone, hdeletes, hok, hgone⟩
    · exact absurd hsame hchanged
    · refine ⟨hnone, hdeletes, hok, ?_⟩
      cases ha : row.accountId with
      | none => exact absurd (hnone.trans ha.symm) hchanged
      | some a =>
          refine ⟨a, rfl, hs.linkedAccounts row hrow a ha, ?_⟩
          intro x hx hxa
          exact hgone x hx (by rw [ha, hxa])

/-- A terminal that loses its account. -/
theorem terminal_lifecycle_of_deletion :
    (∃ answer, (Registry.Operation.run (.store (.softDelete "t")) oneTerminal).1 = .ok answer) ∧
      "a" ∉ (Registry.Operation.run (.store (.softDelete "t")) oneTerminal).2.database.store.accounts.map
        (·.id) := by
  have h := (terminal_lifecycle oneTerminal oneTerminal_reachable).2.2.2
    (.store (.softDelete "t"))
    (.ofNew "t" (.withDefaults "koko" .koko) (some "a") 5) List.mem_cons_self
    { TerminalRow.ofNew "t" (.withDefaults "koko" .koko) none 5 with isDeleted := true }
    List.mem_cons_self rfl (by decide)
  obtain ⟨_, _, hok, a, ha, _, hgone⟩ := h
  cases ha
  refine ⟨hok, ?_⟩
  intro hmem
  obtain ⟨x, hx, hid⟩ := List.mem_map.mp hmem
  exact hgone x hx hid

end Deployment
end GatewayRegistry
