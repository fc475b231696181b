import GatewayRegistry.Proofs.Runs.Copies
import GatewayRegistry.Proofs.Runs.Deletion
import GatewayRegistry.Proofs.Runs.Frame
import GatewayRegistry.Proofs.Runs.Upkeep

/-!
# Copies that are kept up with their rows

To accept a terminal, to delete it and to set its storage changes two things that are kept apart:
the row in the store, and the copy that the caller holds. Reading a row commutes with each of these
changes (`Registry.Change.read_onRow`), and a change that fails is made to neither. So a copy that
is what its row says stays so, however often it is changed and whatever fails in between, as long as
nobody else writes to the terminals (`Registry.Holding.Faithful.after`).
-/

namespace GatewayRegistry

open Store (Part)

/-! ## Copies and rows -/

namespace Store

/-- A copy of a terminal is what the row with its id says. -/
def Mirrors (s : Store) (t : Terminal) : Prop :=
  ∃ row, s.terminalRow? t.id = some row ∧ row.read = .ok t

theorem Mirrors.of_terminals {s s' : Store} {t : Terminal} (h : s.Mirrors t)
    (hsame : s'.terminals = s.terminals) : s'.Mirrors t := by
  obtain ⟨row, hrow, hread⟩ := h
  refine ⟨row, ?_, hread⟩
  simpa [terminalRow?, hsame] using hrow

end Store

/-- A row is read as a terminal of its own id. -/
theorem TerminalRow.id_eq_of_read {row : TerminalRow} {t : Terminal} (h : row.read = .ok t) :
    row.id = t.id := by
  unfold read at h
  obtain ⟨_, _, h⟩ := bind_eq_ok_iff.mp h
  obtain ⟨_, _, h⟩ := bind_eq_ok_iff.mp h
  obtain ⟨_, _, h⟩ := bind_eq_ok_iff.mp h
  cases h
  rfl

namespace Registry

/-! ## Changes

Three operations change a terminal through the copy of the caller. For each there is what it does to
a row and what it does to a copy, and the two agree in the columns concerned; from this it is shown
once for all three that a copy which mirrored its row still does. -/

/-- A call that changes the row of a terminal and then the copy of it: the row is there, and both
are changed, or neither is. -/
theorem changeTerminal_effect (changeRow : TerminalRow → TerminalRow)
    (changeCopy : Terminal → Terminal) (t : Terminal) (d : Deployment) :
    (∃ row, d.database.store.terminalRow? t.id = some row ∧
        mirrored (fun t => onStore (Database.execute (Store.changeTerminal t.id changeRow))) changeCopy
            ⟨d, t⟩ =
          (.ok (), ⟨{ d with database :=
            { d.database with store := d.database.store.updateTerminal t.id changeRow } },
            changeCopy t⟩)) ∨
      ∃ e, mirrored (fun t => onStore (Database.execute (Store.changeTerminal t.id changeRow)))
        changeCopy ⟨d, t⟩ = (.error e, ⟨d, t⟩) := by
  rcases Database.execute_cases (Store.changeTerminal t.id changeRow) d.database with
    ⟨s, _, htx, hrun⟩ | ⟨e, hrun⟩
  · obtain ⟨⟨row, hrow, hid⟩, rfl⟩ := Store.changeTerminal_eq_ok_iff.mp htx
    cases hfound : d.database.store.terminalRow? t.id with
    | some row => exact .inl ⟨row, rfl, mirrored_ok (storeCall_ok hrun)⟩
    -- the statement has found a row with this id
    | none => exact absurd hid (Store.terminalRow?_eq_none_iff.mp hfound row hrow)
  · exact .inr ⟨_, mirrored_error (storeCall_error hrun)⟩

/-- What is done to a terminal through a copy that gets the same change. -/
inductive Change where
  | accept
  | delete
  | setStorage (command replay : String)

namespace Change

def run : Change → CopyCall Unit
  | accept => Registry.accept
  | delete => Registry.delete
  | setStorage command replay => Registry.setStorage command replay

/-- What it makes of a copy. -/
def onCopy (t : Terminal) : Change → Terminal
  | accept => { t with isAccepted := true }
  | delete => { t with accountId := none, isDeleted := true }
  | setStorage command replay => { t with commandStorage := command, replayStorage := replay }

/-- What it makes of a row. -/
def onRow (row : TerminalRow) : Change → TerminalRow
  | accept => { row with isAccepted := true }
  | delete => { row with accountId := none, isDeleted := true }
  | setStorage command replay => { row with commandStorage := command, replayStorage := replay }

/-- A copy and a row have the same in the fields that it writes. -/
def Agree (t : Terminal) (row : TerminalRow) : Change → Prop
  | accept => t.isAccepted = row.isAccepted
  | delete => t.accountId = row.accountId ∧ t.isDeleted = row.isDeleted
  | setStorage .. => t.commandStorage = row.commandStorage ∧ t.replayStorage = row.replayStorage

variable {d : Deployment} {t : Terminal}

theorem onRow_id (c : Change) (row : TerminalRow) : (c.onRow row).id = row.id := by
  cases c <;> rfl

theorem onCopy_id (c : Change) (t : Terminal) : (c.onCopy t).id = t.id := by
  cases c <;> rfl

theorem agree (c : Change) (t : Terminal) (row : TerminalRow) :
    c.Agree (c.onCopy t) (c.onRow row) := by
  cases c <;> simp [Agree, onCopy, onRow]

/-- A changed row is read as the changed copy. -/
theorem read_onRow (c : Change) (row : TerminalRow) :
    (c.onRow row).read = row.read.map fun t => c.onCopy t := by
  -- none of the three writes a column that could become unreadable
  have htype : (c.onRow row).readType = row.readType := by cases c <;> rfl
  have hssh : (c.onRow row).sshPort = row.sshPort := by cases c <;> rfl
  have hhttp : (c.onRow row).httpPort = row.httpPort := by cases c <;> rfl
  unfold TerminalRow.read
  rw [htype, hssh, hhttp]
  cases row.readType with
  | error e => rfl
  | ok type =>
      cases readPort .sshPort row.sshPort with
      | error e => rfl
      | ok sshPort =>
          cases readPort .httpPort row.httpPort with
          | error e => rfl
          | ok httpPort => cases c <;> rfl

/-- All that a change does: if it succeeds, it is made to the copy and to the row of the terminal,
and otherwise to neither. -/
theorem effect (c : Change) (t : Terminal) (d : Deployment) :
    (∃ row s, d.database.store.terminalRow? t.id = some row ∧
        c.run ⟨d, t⟩ =
          (.ok (), ⟨{ d with database := { d.database with store := s } }, c.onCopy t⟩) ∧
        s.terminals = (d.database.store.updateTerminal t.id fun row => c.onRow row).terminals) ∨
      ∃ e, c.run ⟨d, t⟩ = (.error e, ⟨d, t⟩) := by
  cases c with
  | accept =>
      rcases changeTerminal_effect _ _ t d with ⟨row, hrow, hrun⟩ | hrefused
      · exact .inl ⟨row, _, hrow, hrun, rfl⟩
      · exact .inr hrefused
  | delete =>
      rcases Database.softDelete_effect t.id d.database with ⟨row, hrow, hrun⟩ | ⟨e, hrun⟩
      · exact .inl ⟨row, _, hrow, delete_ok hrun, rfl⟩
      · exact .inr ⟨_, delete_error hrun⟩
  | setStorage command replay =>
      rcases changeTerminal_effect _ _ t d with ⟨row, hrow, hrun⟩ | hrefused
      · exact .inl ⟨row, _, hrow, hrun, rfl⟩
      · exact .inr hrefused

/-- The copy that the caller holds afterwards, whether or not the change succeeds. -/
def held (t : Terminal) (d : Deployment) (c : Change) : Terminal := (c.run ⟨d, t⟩).2.copy

/-- What a change that succeeds does to a copy, which may be out of date, and to the rows: it is
made to the copy and to the row with its id, which then have the same in the fields that it
writes. -/
structure Made (c : Change) (t t' : Terminal) (s s' : Store) : Prop where
  copy : t' = c.onCopy t
  rows : s'.terminals = s.terminals.map fun row => if row.id == t.id then c.onRow row else row
  row : ∃ row, s.terminalRow? t.id = some row ∧ s'.terminalRow? t.id = some (c.onRow row) ∧
    c.Agree t' (c.onRow row)

theorem terminalRow?_of_rows {c : Change} {s s' : Store} {row : TerminalRow}
    (hrow : s.terminalRow? t.id = some row)
    (hrows : s'.terminals = (s.updateTerminal t.id fun row => c.onRow row).terminals) :
    s'.terminalRow? t.id = some (c.onRow row) := by
  have hid : row.id = t.id := by simpa using List.find?_some hrow
  have hfound := Store.terminalRow?_updateTerminal c.onRow_id t.id t.id s
  rw [hrow, Option.map_some, if_pos (beq_iff_eq.mpr hid)] at hfound
  rw [← hfound, Store.terminalRow?, hrows]
  rfl

/-- A change that succeeds is made to the copy and to the row. -/
theorem made (c : Change) (h : (c.run ⟨d, t⟩).1 = .ok ()) :
    c.Made t (c.held t d) d.database.store (c.run ⟨d, t⟩).2.deployment.database.store := by
  rcases c.effect t d with ⟨row, s, hrow, hrun, hrows⟩ | ⟨e, hrun⟩
  · rw [held, hrun]
    exact ⟨rfl, hrows, row, hrow, terminalRow?_of_rows hrow hrows, c.agree t row⟩
  · rw [hrun] at h
    cases h

/-- A change that fails is made to neither. -/
theorem refused (c : Change) {e : RegistryError} (h : (c.run ⟨d, t⟩).1 = .error e) :
    (c.run ⟨d, t⟩).2 = ⟨d, t⟩ := by
  rcases c.effect t d with ⟨row, s, _, hrun, _⟩ | ⟨e', hrun⟩
  · rw [hrun] at h
    cases h
  · rw [hrun]

/-- A copy that is what its row says stays so, whether or not the change succeeds. -/
theorem mirrors (c : Change) (h : d.database.store.Mirrors t) :
    (c.run ⟨d, t⟩).2.deployment.database.store.Mirrors (c.held t d) := by
  obtain ⟨row, hrow, hread⟩ := h
  rcases c.effect t d with ⟨row', s, hrow', hrun, hrows⟩ | ⟨e, hrun⟩
  · obtain rfl : row = row' := Option.some.inj (hrow.symm.trans hrow')
    rw [held, hrun]
    refine ⟨c.onRow row, ?_, ?_⟩
    · rw [c.onCopy_id]
      exact terminalRow?_of_rows hrow hrows
    · rw [read_onRow, hread]
      rfl
  · rw [held, hrun]
    exact ⟨row, hrow, hread⟩

end Change

/-- A copy that was just read. -/
theorem mirrors_of_get {d : Deployment} {id : String} {t : Terminal} (h : (get id d).1 = .ok t) :
    d.database.store.Mirrors t := by
  have hrun : get id d = (.ok t, (get id d).2) := Prod.ext h rfl
  obtain ⟨hask, _⟩ := Database.query_eq_ok (storeCall_eq_ok hrun).1
  cases hrow : d.database.store.terminalRow? id with
  | none =>
      rw [hrow] at hask
      cases hask
  | some row =>
      simp only [hrow] at hask
      have hid : row.id = id := by simpa using List.find?_some hrow
      refine ⟨row, ?_, hask⟩
      rw [← TerminalRow.id_eq_of_read hask, hid, hrow]

/-- The copy is what would be read now. -/
theorem get_of_mirrors {d : Deployment} {t : Terminal} (hopen : d.database.isOpen = true)
    (h : d.database.store.Mirrors t) : get t.id d = (.ok t, d) := by
  obtain ⟨row, hrow, hread⟩ := h
  apply ask_ok hopen
  rw [hrow]
  exact hread

/-! ## Runs

Between the changes of one caller others may do whatever leaves the terminals alone; the copy is
faithful after each turn. -/

/-- What happens while somebody holds a copy of a terminal and nobody else writes to the
terminals. -/
inductive Turn where
  | change (c : Change)
  | other (request : Request) (spares : Part.terminals ∉ request.2.written)

namespace Holding

variable {h : Holding}

/-- The copy is what its row says. -/
def Faithful (h : Holding) : Prop := h.deployment.database.store.Mirrors h.copy

def take (h : Holding) : Turn → Holding
  | .change c => (c.run h).2
  | .other request _ => ⟨(request.2.run h.deployment).2, h.copy⟩

def after (h : Holding) (turns : List Turn) : Holding := turns.foldl take h

theorem Faithful.take (hold : h.Faithful) (turn : Turn) : (h.take turn).Faithful := by
  cases turn with
  | change c => exact c.mirrors hold
  | other request spares => exact hold.of_terminals (request.2.writes h.deployment .terminals spares)

theorem Faithful.after (hold : h.Faithful) (turns : List Turn) : (h.after turns).Faithful := by
  induction turns generalizing h with
  | nil => exact hold
  | cons turn turns ih => exact ih (hold.take turn)

end Holding

/-- A copy and its row undergo the same changes. A copy that is what the row says stays so whether
or not a change succeeds; a change of any copy, however old, that succeeds is made to the copy and
the row in the same fields, and one that fails is made to neither; and so a copy that is read once
and then used for any number of changes is what its row says after each of them. -/
theorem copy_follows_row :
    (∀ (d : Deployment) (t : Terminal) (c : Change), d.database.store.Mirrors t →
      (c.run ⟨d, t⟩).2.deployment.database.store.Mirrors (c.held t d)) ∧
    (∀ (d : Deployment) (t : Terminal) (c : Change), (c.run ⟨d, t⟩).1 = .ok () →
      c.Made t (c.held t d) d.database.store (c.run ⟨d, t⟩).2.deployment.database.store) ∧
    (∀ (d : Deployment) (t : Terminal) (c : Change) (e : RegistryError),
      (c.run ⟨d, t⟩).1 = .error e → c.held t d = t ∧ (c.run ⟨d, t⟩).2.deployment = d) ∧
    ∀ (d : Deployment) (id : String) (t : Terminal), (get id d).1 = .ok t → ∀ turns : List Turn,
      let h := (⟨d, t⟩ : Holding).after turns
      h.Faithful ∧ (h.deployment.database.isOpen = true →
        get h.copy.id h.deployment = (.ok h.copy, h.deployment)) := by
  refine ⟨?_, ?_, ?_, ?_⟩
  · intro d t c hmirrors
    exact c.mirrors hmirrors
  · intro d t c hok
    exact c.made hok
  · intro d t c e hfails
    rw [Change.held, c.refused hfails]
    exact ⟨rfl, rfl⟩
  · intro d id t hget turns h
    have hfaithful : h.Faithful := Holding.Faithful.after (mirrors_of_get hget) turns
    exact ⟨hfaithful, fun hopen => get_of_mirrors hopen hfaithful⟩

/-- A deletion that is refused stands between two changes, and the connections are closed before
another one. A copy that is older than a deletion is accepted. -/
theorem copy_follows_row_of_refusals :
    let h := (⟨.oneTerminal, Deployment.newcomer⟩ : Holding).after [.change .accept,
      .other ⟨_, .store .lockAccounts⟩ (by decide), .change .delete, .change (.setStorage "a" "b"),
      .other ⟨_, .store .close⟩ (by decide), .change .delete]
    let d := Deployment.oneTerminal.after [⟨_, .store (.softDelete "t")⟩]
    (h.copy = { Deployment.newcomer with
      isAccepted := true, commandStorage := "a", replayStorage := "b" } ∧ h.Faithful) ∧
    Change.accept.Made Deployment.newcomer { Deployment.newcomer with isAccepted := true }
      d.database.store (accept ⟨d, Deployment.newcomer⟩).2.deployment.database.store := by
  intro h d
  refine ⟨⟨rfl, (copy_follows_row.2.2.2 .oneTerminal "t" Deployment.newcomer rfl _).1⟩, ?_⟩
  exact copy_follows_row.2.1 d Deployment.newcomer .accept rfl

end Registry
end GatewayRegistry
