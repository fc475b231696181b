import GatewayRegistry.Proofs.Store.Consistency

/-!
# Lists of terminals

Lists are sorted, and the sort is stable: of two rows that may stand in either order, the one that
was inserted first comes first (`mergeSort_stable`). In a consistent store every row can be read, so
a list of terminals is what its rows describe.
-/

namespace GatewayRegistry

/-! ## Stable sorting -/

section

variable {α : Type} {l : List α} {a b : α}

/-- Of two different elements one comes first. -/
theorem pair_sublist_or_swap (ha : a ∈ l) (hb : b ∈ l) (hne : a ≠ b) :
    [a, b].Sublist l ∨ [b, a].Sublist l := by
  induction l with
  | nil => exact absurd ha List.not_mem_nil
  | cons x xs ih =>
      -- the head is one of the two, or both are in the rest
      rcases List.mem_cons.mp ha with hax | haxs
      · rcases List.mem_cons.mp hb with hbx | hbxs
        · exact absurd (hax.trans hbx.symm) hne
        · rw [hax]
          exact Or.inl ((List.singleton_sublist.mpr hbxs).cons_cons x)
      · rcases List.mem_cons.mp hb with hbx | hbxs
        · rw [hbx]
          exact Or.inr ((List.singleton_sublist.mpr haxs).cons_cons x)
        · exact (ih haxs hbxs).imp (List.Sublist.cons x) (List.Sublist.cons x)

/-- If no element comes twice, two elements stand in one order only. -/
theorem not_swap_sublist (hnodup : l.Nodup) (h : [a, b].Sublist l) : ¬[b, a].Sublist l := by
  intro hswap
  induction l with
  | nil => cases h
  | cons x xs ih =>
      obtain ⟨hx, hxs⟩ := List.nodup_cons.mp hnodup
      cases h with
      | cons _ h =>
          cases hswap with
          | cons _ hswap => exact ih hxs h hswap
          | cons_cons _ hswap => exact hx (h.subset (List.mem_cons_of_mem _ List.mem_cons_self))
      -- the first pair begins at the head, so the swapped one would have to end there
      | cons_cons _ h =>
          cases hswap with
          | cons _ hswap => exact hx (hswap.subset (List.mem_cons_of_mem _ List.mem_cons_self))
          | cons_cons _ hswap => exact hx (hswap.subset List.mem_cons_self)

/-- A sorted list is in order, and where the order leaves it open, as the list was before. -/
theorem mergeSort_stable {le : α → α → Bool} (htrans : ∀ a b c, le a b → le b c → le a c)
    (htotal : ∀ a b, le a b || le b a) (hnodup : l.Nodup) :
    (l.mergeSort le).Pairwise fun a b => le a b ∧ (le b a → [a, b].Sublist l) := by
  have hperm := List.mergeSort_perm l le
  have hsorted : (l.mergeSort le).Nodup := hperm.nodup_iff.mpr hnodup
  rw [List.pairwise_iff_forall_sublist]
  intro a b hab
  refine ⟨List.pairwise_iff_forall_sublist.mp (List.pairwise_mergeSort htrans htotal l) hab, ?_⟩
  intro hba
  have hne : a ≠ b := List.pairwise_iff_forall_sublist.mp hsorted hab
  have ha : a ∈ l := hperm.mem_iff.mp (hab.subset List.mem_cons_self)
  have hb : b ∈ l := hperm.mem_iff.mp (hab.subset (List.mem_cons_of_mem _ List.mem_cons_self))
  rcases pair_sublist_or_swap ha hb hne with h | h
  · exact h
  · -- the swapped pair would stay in its order
    exact absurd (List.pair_sublist_mergeSort htrans htotal hba h) (not_swap_sublist hsorted hab)

/-- Where the order leaves nothing open, no element stands before itself. -/
theorem mergeSort_strict {le : α → α → Bool} (htrans : ∀ a b c, le a b → le b c → le a c)
    (htotal : ∀ a b, le a b || le b a) (hanti : ∀ a ∈ l, ∀ b ∈ l, le a b → le b a → a = b)
    (hnodup : l.Nodup) : (l.mergeSort le).Pairwise fun a b => le a b ∧ ¬le b a := by
  have hperm := List.mergeSort_perm l le
  have hsorted : (l.mergeSort le).Nodup := hperm.nodup_iff.mpr hnodup
  refine ((List.pairwise_mergeSort htrans htotal l).and hsorted).imp_of_mem ?_
  rintro a b ha hb ⟨hab, hne⟩
  exact ⟨hab, fun hba => hne (hanti a (hperm.mem_iff.mp ha) b (hperm.mem_iff.mp hb) hab hba)⟩

/-- What is sorted by texts of which no two are the same is in ascending order. -/
theorem mergeSort_ascending {key : α → String} (hunique : UniqueBy key l) :
    (l.mergeSort fun a b => decide (key a ≤ key b)).Pairwise fun a b => key a < key b := by
  refine (mergeSort_strict ?_ ?_ ?_ (List.Nodup.of_map _ hunique)).imp ?_
  · simp only [decide_eq_true_eq]
    exact fun a b c => String.le_trans
  · simp only [Bool.or_eq_true, decide_eq_true_eq]
    exact fun a b => String.le_total (key a) (key b)
  · simp only [decide_eq_true_eq]
    intro a ha b hb hab hba
    exact hunique.eq_of_mem ha hb (String.le_antisymm hab hba)
  · simp only [decide_eq_true_eq]
    rintro a b ⟨_, hba⟩
    exact String.not_le.mp hba

end

/-! ## The order of terminals

Terminals that wait for acceptance come first, and within both groups the older ones. Rows of the
same second are not ordered by this; the sort leaves them as they were inserted. -/

namespace TerminalRow

/-- What waits for acceptance comes first, then what was created earlier. -/
theorem before_iff {a b : TerminalRow} :
    a.before b = true ↔
      (a.isAccepted = false ∧ b.isAccepted = true) ∨
        a.isAccepted = b.isAccepted ∧ a.createdAt ≤ b.createdAt := by
  unfold before
  cases a.isAccepted <;> cases b.isAccepted <;> simp

theorem before_trans (a b c : TerminalRow) (hab : a.before b) (hbc : b.before c) : a.before c := by
  rw [before_iff] at *
  rcases hab with ⟨ha, hb⟩ | ⟨hsame, hle⟩
  · rcases hbc with ⟨hb', _⟩ | ⟨hsame, _⟩
    · rw [hb] at hb'
      cases hb'
    · exact Or.inl ⟨ha, hsame ▸ hb⟩
  · rcases hbc with ⟨hb, hc⟩ | ⟨hsame', hle'⟩
    · exact Or.inl ⟨hsame ▸ hb, hc⟩
    · exact Or.inr ⟨hsame.trans hsame', Int64.le_trans hle hle'⟩

theorem before_total (a b : TerminalRow) : a.before b || b.before a := by
  rw [Bool.or_eq_true, before_iff, before_iff]
  have hle := Int64.le_total a.createdAt b.createdAt
  cases ha : a.isAccepted <;> cases hb : b.isAccepted <;> simp [hle]

/-! ## Reading rows -/

/-- The terminal that a row describes. A row that cannot be read describes nothing in
particular. -/
def described (row : TerminalRow) : Terminal where
  id := row.id
  name := row.name
  type := (TerminalType.ofText? row.type).getD .default
  remoteAddress := row.remoteAddress
  sshPort := UInt16.ofNat row.sshPort.toNat
  httpPort := UInt16.ofNat row.httpPort.toNat
  commandStorage := row.commandStorage
  replayStorage := row.replayStorage
  accountId := row.accountId
  isAccepted := row.isAccepted
  isDeleted := row.isDeleted
  comment := row.comment
  createdAt := row.createdAt

/-- A readable row is read as the terminal it describes. -/
theorem Readable.read_eq {row : TerminalRow} (h : row.Readable) : row.read = .ok row.described := by
  obtain ⟨⟨type, htype⟩, hssh, hhttp⟩ := h
  unfold read readType readPort described
  rw [htype, if_pos hssh, if_pos hhttp]
  rfl

/-- Rows that can be read one by one can be read as a list. -/
theorem mapM_read {rows : List TerminalRow} (h : ∀ row ∈ rows, row.Readable) :
    rows.mapM read = .ok (rows.map described) := by
  induction rows with
  | nil => rfl
  | cons row rows ih =>
      have hrows := ih fun r hr => h r (List.mem_cons_of_mem row hr)
      rw [List.mapM_cons, (h row List.mem_cons_self).read_eq, hrows]
      rfl

end TerminalRow

namespace Store

variable {s : Store} {p q : TerminalRow → Bool} {row : TerminalRow}

/-! ## Listed rows

A view is given by the rows it shows (`viewed`). All views sort and read the same rows, so what is
said of one kind of rows can be compared with what is said of another. -/

/-- The place of a terminal in a list: the ones that are not accepted first, then the older ones
first, then in the order of insertion. -/
def ListedBefore (s : Store) (a b : Terminal) : Prop :=
  (a.isAccepted = false ∧ b.isAccepted = true) ∨
    a.isAccepted = b.isAccepted ∧ (a.createdAt < b.createdAt ∨
      a.createdAt = b.createdAt ∧ [a.id, b.id].Sublist (s.terminals.map (·.id)))

/-- The terminals that some of the rows describe, in the order of lists. -/
def viewed (s : Store) (p : TerminalRow → Bool) : List Terminal :=
  (s.orderedTerminals.filter p).map TerminalRow.described

/-- Whether a copy of a terminal names an account that is there and enabled. -/
def accountActive (s : Store) (t : Terminal) : Bool :=
  t.accountId.any fun a => (s.account? a).any (·.isActive)

theorem mem_orderedTerminals : row ∈ s.orderedTerminals ↔ row ∈ s.terminals :=
  (List.mergeSort_perm s.terminals TerminalRow.before).mem_iff

/-- What is shown is what the chosen rows describe. -/
theorem mem_viewed_iff {t : Terminal} :
    t ∈ s.viewed p ↔ ∃ row ∈ s.terminals, p row = true ∧ row.described = t := by
  constructor
  · intro ht
    obtain ⟨row, hrow, hdescribed⟩ := List.mem_map.mp ht
    obtain ⟨hlisted, hp⟩ := List.mem_filter.mp hrow
    exact ⟨row, mem_orderedTerminals.mp hlisted, hp, hdescribed⟩
  · rintro ⟨row, hrow, hp, rfl⟩
    exact List.mem_map_of_mem (List.mem_filter.mpr ⟨mem_orderedTerminals.mpr hrow, hp⟩)

theorem viewed_sublist (hpq : ∀ row, p row = true → q row = true) :
    (s.viewed p).Sublist (s.viewed q) :=
  (List.monotone_filter_right s.orderedTerminals hpq).map _

/-- A view of a view. -/
theorem filter_viewed (s : Store) (p : TerminalRow → Bool) (q : Terminal → Bool) :
    (s.viewed p).filter q = s.viewed fun row => p row && q row.described := by
  unfold viewed
  rw [List.filter_map, List.filter_filter]
  congr 1
  apply List.filter_congr
  intro row _
  exact Bool.and_comm _ _

namespace Consistent

variable (h : s.Consistent)

include h

/-- No terminal is shown twice. -/
theorem nodup_ids_viewed (p : TerminalRow → Bool) : ((s.viewed p).map (·.id)).Nodup := by
  have hids : UniqueBy TerminalRow.id s.orderedTerminals :=
    ((List.mergeSort_perm s.terminals TerminalRow.before).map TerminalRow.id).nodup_iff.mpr
      h.terminalIds
  have hview := hids.filter p
  unfold viewed
  rw [List.map_map]
  exact hview

/-- The order of a view, ties included. -/
theorem viewed_pairwise (p : TerminalRow → Bool) : (s.viewed p).Pairwise s.ListedBefore := by
  have hnodup : s.terminals.Nodup := List.Nodup.of_map _ h.terminalIds
  have hstable := mergeSort_stable TerminalRow.before_trans TerminalRow.before_total hnodup
  unfold viewed
  rw [List.pairwise_map]
  refine List.Pairwise.imp ?_ (hstable.filter p)
  rintro a b ⟨hab, hopen⟩
  rcases TerminalRow.before_iff.mp hab with hnew | ⟨hsame, hle⟩
  · exact Or.inl hnew
  · refine Or.inr ⟨hsame, ?_⟩
    rcases Int64.lt_or_eq_of_le hle with hlt | heq
    · exact Or.inl hlt
    · refine Or.inr ⟨heq, ?_⟩
      -- rows of the same second may stand in either order, so they stand as inserted
      have hba : b.before a = true :=
        TerminalRow.before_iff.mpr (Or.inr ⟨hsame.symm, heq ▸ Int64.le_refl _⟩)
      exact (hopen hba).map (·.id)

theorem mapM_read_filter (p : TerminalRow → Bool) :
    (s.orderedTerminals.filter p).mapM TerminalRow.read = .ok (s.viewed p) := by
  apply TerminalRow.mapM_read
  intro row hrow
  exact h.terminalsReadable row (mem_orderedTerminals.mp (List.mem_filter.mp hrow).1)

/-- What a row describes is in a view exactly if the row is. -/
theorem described_mem_viewed_iff (hrow : row ∈ s.terminals) :
    row.described ∈ s.viewed p ↔ p row = true := by
  rw [mem_viewed_iff]
  constructor
  · rintro ⟨other, hother, hp, hsame⟩
    have heq : other = row := h.terminalIds.eq_of_mem hother hrow (congrArg Terminal.id hsame)
    rw [← heq]
    exact hp
  · intro hp
    exact ⟨row, hrow, hp, rfl⟩

/-- The account of a row is enabled exactly if looking it up finds an enabled account. -/
theorem hasActiveAccount_eq (row : TerminalRow) :
    s.hasActiveAccount row = s.accountActive row.described := by
  rw [Bool.eq_iff_iff]
  unfold hasActiveAccount accountActive
  rw [List.any_eq_true, Option.any_eq_true]
  constructor
  · rintro ⟨x, hx, hboth⟩
    obtain ⟨hlink, hactive⟩ := Bool.and_eq_true_iff.mp hboth
    refine ⟨x.id, beq_iff_eq.mp hlink, ?_⟩
    rw [h.account?_eq_some_iff.mpr ⟨hx, rfl⟩]
    exact hactive
  · rintro ⟨a, hlink, hactive⟩
    obtain ⟨x, hx, hxactive⟩ := (Option.any_eq_true _ _).mp hactive
    -- the account that is found by its id is the one that the row links
    obtain ⟨hmem, hid⟩ := h.account?_eq_some_iff.mp hx
    have hlinked : row.accountId = some x.id := hid.symm ▸ hlink
    refine ⟨x, hmem, ?_⟩
    rw [hlinked, hxactive, beq_self_eq_true]
    rfl

end Consistent
end Store
end GatewayRegistry
