import GatewayRegistry.Store.Basic
import Mathlib.Algebra.GroupWithZero.Nat
import Mathlib.Data.List.Induction
import Mathlib.Data.List.Nodup

/-!
# Tables with keys and references

What a table promises about its columns — a key is unique (`UniqueBy`, `UniqueWhereGiven`), a
reference names a row (`RefersTo`, `RefersWhereGiven`), numbers only grow (`Numbered.Ordered`,
`Numbered.Extends`) —
and how each way of writing to a table keeps it: appending a row, changing rows in columns that the
promise is not about, removing rows.
-/

namespace GatewayRegistry

variable {α β κ : Type}

/-! ## Unique keys

The keys of the rows, in the order of the rows, hold none twice; a row that leaves out its key takes
no part. Two rows with one key are then the same row (`eq_of_mem`), and none is there twice, so that
rows can be counted by their keys (`countP_le_one`). -/

/-- No two rows of a table agree in a key. -/
def UniqueBy (key : α → κ) (rows : List α) : Prop := (rows.map key).Nodup

/-- No two rows of a table agree in a key that a row may leave out. -/
def UniqueWhereGiven (key : α → Option κ) (rows : List α) : Prop := (rows.filterMap key).Nodup

namespace UniqueBy

variable {key : α → κ} {rows : List α}

theorem append {a : α} (h : UniqueBy key rows) (fresh : ∀ x ∈ rows, key x ≠ key a) :
    UniqueBy key (rows ++ [a]) := by
  show ((rows ++ [a]).map key).Nodup
  rw [List.map_append, List.nodup_append]
  refine ⟨h, by simp, ?_⟩
  intro k hk k' hk'
  obtain ⟨x, hx, rfl⟩ := List.mem_map.mp hk
  rw [List.map_singleton, List.mem_singleton] at hk'
  rw [hk']
  exact fresh x hx

/-- A row that its key determines. -/
theorem append_of_not_mem {a : α} (h : UniqueBy key rows) (determined : ∀ x, key x = key a → x = a)
    (fresh : a ∉ rows) : UniqueBy key (rows ++ [a]) := by
  refine h.append ?_
  intro x hx hkey
  exact fresh (determined x hkey ▸ hx)

/-- The rows may be changed in anything but the key. -/
theorem map {f : α → α} (h : UniqueBy key rows) (keep : ∀ x, key (f x) = key x) :
    UniqueBy key (rows.map f) := by
  have hkeys : (rows.map f).map key = rows.map key := by
    rw [List.map_map]
    exact List.map_congr_left fun x _ => keep x
  show ((rows.map f).map key).Nodup
  rw [hkeys]
  exact h

/-- Removing rows cannot bring a key about twice. -/
theorem filter (h : UniqueBy key rows) (p : α → Bool) : UniqueBy key (rows.filter p) :=
  List.Nodup.sublist (List.Sublist.map key List.filter_sublist) h

/-- A key names one row. -/
theorem eq_of_mem {a b : α} (h : UniqueBy key rows) (ha : a ∈ rows) (hb : b ∈ rows)
    (hab : key a = key b) : a = b :=
  List.inj_on_of_nodup_map h ha hb hab

/-- There is one row with the key of a row that is there. -/
theorem filter_eq_singleton [DecidableEq κ] {a : α} (h : UniqueBy key rows) (ha : a ∈ rows) :
    rows.filter (fun x => key x == key a) = [a] := by
  induction rows with
  | nil => cases ha
  | cons x xs ih =>
      obtain ⟨hfirst, hrest⟩ := List.nodup_cons.mp h
      rw [List.filter_cons]
      by_cases hkey : key x = key a
      · have hnone : xs.filter (fun y => key y == key a) = [] := by
          rw [List.filter_eq_nil_iff]
          intro y hy hya
          have hsame : key y = key x := (beq_iff_eq.mp hya).trans hkey.symm
          exact hfirst (hsame ▸ List.mem_map_of_mem hy)
        rw [if_pos (beq_iff_eq.mpr hkey), hnone, h.eq_of_mem List.mem_cons_self ha hkey]
      · have hmem : a ∈ xs := by
          rcases List.mem_cons.mp ha with rfl | hmem
          · exact absurd rfl hkey
          · exact hmem
        rw [if_neg (by simpa using hkey)]
        exact ih hrest hmem

/-- At most one row is of a kind whose rows agree in the key. -/
theorem countP_le_one {p : α → Bool} (h : UniqueBy key rows)
    (agree : ∀ a b, p a = true → p b = true → key a = key b) : rows.countP p ≤ 1 := by
  have hunique := h.filter p
  have hkind : ∀ a ∈ rows.filter p, p a = true := fun a ha => (List.mem_filter.mp ha).2
  rw [List.countP_eq_length_filter]
  match hrows : rows.filter p with
  | [] => exact Nat.zero_le 1
  | [a] => exact Nat.le_refl 1
  | a :: b :: rest =>
      rw [hrows] at hunique hkind
      have hab := agree a b (hkind a List.mem_cons_self)
        (hkind b (List.mem_cons_of_mem a List.mem_cons_self))
      have hnot := (List.nodup_cons.mp hunique).1
      rw [hab] at hnot
      exact absurd List.mem_cons_self hnot

/-- A look-up by a unique key finds a row exactly if it is there. -/
theorem find?_eq_some_iff [DecidableEq κ] {a : α} {k : κ} (h : UniqueBy key rows) :
    rows.find? (fun x => key x == k) = some a ↔ a ∈ rows ∧ key a = k := by
  constructor
  · intro hf
    exact ⟨List.mem_of_find?_eq_some hf, by simpa using List.find?_some hf⟩
  · rintro ⟨ha, rfl⟩
    cases hf : rows.find? (fun x => key x == key a) with
    | none =>
        have hne := List.find?_eq_none.mp hf a ha
        simp at hne
    | some b =>
        have hb : key b = key a := by simpa using List.find?_some hf
        rw [h.eq_of_mem (List.mem_of_find?_eq_some hf) ha hb]

end UniqueBy

namespace UniqueWhereGiven

variable {key : α → Option κ} {rows : List α}

theorem append {a : α} (h : UniqueWhereGiven key rows)
    (fresh : ∀ k, key a = some k → ∀ x ∈ rows, key x ≠ some k) :
    UniqueWhereGiven key (rows ++ [a]) := by
  show ((rows ++ [a]).filterMap key).Nodup
  rw [List.filterMap_append, List.nodup_append]
  cases ha : key a with
  | none =>
      have hn : (rows.filterMap key).Nodup := h
      simpa [ha] using hn
  | some k =>
      refine ⟨h, by simp [ha], ?_⟩
      intro k₁ hk₁ k₂ hk₂
      obtain ⟨x, hx, hxk⟩ := List.mem_filterMap.mp hk₁
      have hk : k₂ = k := by simpa [ha] using hk₂
      rw [hk]
      rintro rfl
      exact fresh k₁ ha x hx hxk

/-- Rows may also give up their key. -/
theorem map {f : α → α} (h : UniqueWhereGiven key rows)
    (keep : ∀ x, key (f x) = key x ∨ key (f x) = none) : UniqueWhereGiven key (rows.map f) := by
  have hsub : ((rows.map f).filterMap key).Sublist (rows.filterMap key) := by
    clear h
    induction rows with
    | nil => exact List.Sublist.refl _
    | cons x xs ih =>
        rw [List.map_cons, List.filterMap_cons, List.filterMap_cons]
        rcases keep x with hx | hx
        · rw [hx]
          cases key x with
          | none => exact ih
          | some k => exact ih.cons_cons k
        · rw [hx]
          cases key x with
          | none => exact ih
          | some k => exact ih.cons k
  exact List.Nodup.sublist hsub h

theorem eq_of_mem {a b : α} {k : κ} (h : UniqueWhereGiven key rows) (ha : a ∈ rows) (hb : b ∈ rows)
    (hak : key a = some k) (hbk : key b = some k) : a = b := by
  induction rows with
  | nil => cases ha
  | cons x xs ih =>
      have hxs : UniqueWhereGiven key xs :=
        List.Nodup.sublist (List.Sublist.filterMap key (List.sublist_cons_self x xs)) h
      -- a row with the key `k` cannot be followed by another one
      have hhead : ∀ y ∈ xs, key x = some k → key y ≠ some k := by
        intro y hy hx hyk
        have hn : (k :: xs.filterMap key).Nodup := by
          have hnodup : ((x :: xs).filterMap key).Nodup := h
          rwa [List.filterMap_cons_some hx] at hnodup
        exact (List.nodup_cons.mp hn).1 (List.mem_filterMap.mpr ⟨y, hy, hyk⟩)
      rcases List.mem_cons.mp ha with rfl | ha'
      · rcases List.mem_cons.mp hb with rfl | hb'
        · rfl
        · exact absurd hbk (hhead b hb' hak)
      · rcases List.mem_cons.mp hb with rfl | hb'
        · exact absurd hak (hhead a ha' hbk)
        · exact ih hxs ha' hb'

end UniqueWhereGiven

/-! ## Each element once -/

section

variable [BEq α] [LawfulBEq α]

/-- The last element counts unless it was there before. -/
theorem eraseDups_concat (xs : List α) (x : α) :
    (xs ++ [x]).eraseDups = if xs.contains x then xs.eraseDups else xs.eraseDups ++ [x] := by
  rw [List.eraseDups_append]
  by_cases hx : x ∈ xs <;> simp [List.removeAll, List.eraseDups_cons, hx]

/-- Every element that is left is left once. -/
theorem nodup_eraseDups (xs : List α) : xs.eraseDups.Nodup := by
  induction xs using List.reverseRecOn with
  | nil => exact List.nodup_nil
  -- by induction from the end: the last element is kept if it has not come before
  | append_singleton xs x ih =>
      rw [eraseDups_concat]
      split
      · exact ih
      · next hnew =>
          rw [List.contains_iff_mem, ← List.mem_eraseDups] at hnew
          rw [← List.concat_eq_append]
          exact ih.concat hnew

/-- Where no element comes twice, none is left out. -/
theorem eraseDups_of_nodup {xs : List α} (h : xs.Nodup) : xs.eraseDups = xs := by
  induction xs using List.reverseRecOn with
  | nil => rfl
  | append_singleton xs x ih =>
      obtain ⟨hxs, -, hnew⟩ := List.nodup_append.mp h
      rw [eraseDups_concat, ih hxs, if_neg]
      intro hmem
      exact hnew x (List.contains_iff_mem.mp hmem) x (List.mem_singleton_self x) rfl

end

/-! ## Rows in groups -/

section

variable [BEq κ] [LawfulBEq κ]

/-- Rows of some groups are counted group by group. -/
theorem sum_countP_groups (group : α → κ) (p : α → Bool) (rows : List α) {groups : List κ}
    (h : groups.Nodup) :
    (groups.map fun g => rows.countP fun x => p x && group x == g).sum =
      rows.countP fun x => p x && groups.contains (group x) := by
  induction groups with
  | nil => simp
  | cons g rest ih =>
      obtain ⟨hg, hrest⟩ := List.nodup_cons.mp h
      rw [List.map_cons, List.sum_cons, ih hrest,
        List.countP_eq_countP_filter_add rows (fun x => p x && (g :: rest).contains (group x))
          (fun x => group x == g), List.countP_filter, List.countP_filter]
      -- no row of the first group is in one of the others
      have hapart : ∀ x, group x = g → group x ∉ rest := fun x hx => hx ▸ hg
      congr 1
      · apply List.countP_congr
        intro x _
        simp only [List.contains_cons]
        grind
      · apply List.countP_congr
        intro x _
        simp only [List.contains_cons]
        grind

/-- Rows are counted group by group over the groups that occur. -/
theorem sum_countP_eraseDups (group : α → κ) (p : α → Bool) (rows : List α) :
    ((rows.map group).eraseDups.map fun g => rows.countP fun x => p x && group x == g).sum =
      rows.countP p := by
  rw [sum_countP_groups group p rows (nodup_eraseDups _)]
  apply List.countP_congr
  intro x hx
  have hgroup : group x ∈ rows.map group := List.mem_map_of_mem hx
  simp [hgroup]

end

/-! ## References

A reference survives what is written to its own table as long as the column is not touched, and what
is written to the other table as long as no key disappears. So there are two lemmas for each way of
writing; rows are never removed from a table that others refer to, except together with those
others. -/

/-- The reference in each row of a table is the key of a row of another table. -/
def RefersTo (ref : α → κ) (rows : List α) (key : β → κ) (targets : List β) : Prop :=
  ∀ x ∈ rows, ∃ y ∈ targets, key y = ref x

/-- The reference in each row of a table that has one is the key of a row of another table. -/
def RefersWhereGiven (ref : α → Option κ) (rows : List α) (key : β → κ) (targets : List β) : Prop :=
  ∀ x ∈ rows, ∀ k, ref x = some k → ∃ y ∈ targets, key y = k

namespace RefersTo

variable {ref : α → κ} {rows : List α} {key : β → κ} {targets : List β}

/-- A row may be added if what it refers to is there. -/
theorem append {a : α} (h : RefersTo ref rows key targets) (ha : ∃ y ∈ targets, key y = ref a) :
    RefersTo ref (rows ++ [a]) key targets := by
  intro x hx
  rcases List.mem_append.mp hx with hx | hx
  · exact h x hx
  · rw [List.mem_singleton.mp hx]
    exact ha

theorem filter (h : RefersTo ref rows key targets) (p : α → Bool) :
    RefersTo ref (rows.filter p) key targets :=
  fun x hx => h x (List.mem_of_mem_filter hx)

theorem map {f : α → α} (h : RefersTo ref rows key targets) (keep : ∀ x, ref (f x) = ref x) :
    RefersTo ref (rows.map f) key targets := by
  intro x hx
  obtain ⟨x₀, hx₀, rfl⟩ := List.mem_map.mp hx
  rw [keep x₀]
  exact h x₀ hx₀

/-- Rows may be added to the table that is referred to. -/
theorem append_target (h : RefersTo ref rows key targets) (b : β) :
    RefersTo ref rows key (targets ++ [b]) := by
  intro x hx
  obtain ⟨y, hy, hxy⟩ := h x hx
  exact ⟨y, List.mem_append_left _ hy, hxy⟩

/-- Rows that are referred to may be changed in anything but the key. -/
theorem map_target {f : β → β} (h : RefersTo ref rows key targets) (keep : ∀ y, key (f y) = key y) :
    RefersTo ref rows key (targets.map f) := by
  intro x hx
  obtain ⟨y, hy, hxy⟩ := h x hx
  exact ⟨f y, List.mem_map_of_mem hy, (keep y).trans hxy⟩

end RefersTo

namespace RefersWhereGiven

variable {ref : α → Option κ} {rows : List α} {key : β → κ} {targets : List β}

theorem append {a : α} (h : RefersWhereGiven ref rows key targets)
    (ha : ∀ k, ref a = some k → ∃ y ∈ targets, key y = k) :
    RefersWhereGiven ref (rows ++ [a]) key targets := by
  intro x hx
  rcases List.mem_append.mp hx with hx | hx
  · exact h x hx
  · rw [List.mem_singleton.mp hx]
    exact ha

theorem map {f : α → α} (h : RefersWhereGiven ref rows key targets)
    (keep : ∀ x, ref (f x) = ref x) : RefersWhereGiven ref (rows.map f) key targets := by
  intro x hx
  obtain ⟨x₀, hx₀, rfl⟩ := List.mem_map.mp hx
  rw [keep x₀]
  exact h x₀ hx₀

theorem append_target (h : RefersWhereGiven ref rows key targets) (b : β) :
    RefersWhereGiven ref rows key (targets ++ [b]) := by
  intro x hx k hk
  obtain ⟨y, hy, hyk⟩ := h x hx k hk
  exact ⟨y, List.mem_append_left _ hy, hyk⟩

theorem map_target {f : β → β} (h : RefersWhereGiven ref rows key targets)
    (keep : ∀ y, key (f y) = key y) : RefersWhereGiven ref rows key (targets.map f) := by
  intro x hx k hk
  obtain ⟨y, hy, hyk⟩ := h x hx k hk
  exact ⟨f y, List.mem_map_of_mem hy, (keep y).trans hyk⟩

end RefersWhereGiven

/-! ## Numbered tables

A number is given out at each attempt to insert a row, and stays given out when no row comes of it
(`skip`). Two things follow: rows stand in the order of their numbers (`Ordered`), and along any
history of insertions the old rows come first (`Extends`). -/

namespace Numbered

/-- The rows are the old ones and the new one, which has the next number. -/
theorem mem_insert {t : Numbered α} {row : Int → α} {a : α} :
    a ∈ (t.insert row).rows ↔ a ∈ t.rows ∨ a = row t.nextId := by
  simp [insert]

/-- The table after rows were inserted one after the other. -/
def insertAll (t : Numbered α) (rows : List (Int → α)) : Numbered α := rows.foldl insert t

theorem insertAll_append (t : Numbered α) (rows more : List (Int → α)) :
    t.insertAll (rows ++ more) = (t.insertAll rows).insertAll more :=
  List.foldl_append

/-- The rows stand behind the old ones, under the numbers that follow the last one. -/
theorem insertAll_eq (t : Numbered α) (rows : List (Int → α)) :
    t.insertAll rows =
      { rows := t.rows ++ rows.mapIdx fun i row => row (t.nextId + i)
        lastId := t.lastId + rows.length } := by
  induction rows using List.reverseRecOn with
  | nil => simp [insertAll]
  | append_singleton rows row ih =>
      have hnext : t.lastId + rows.length + 1 = t.nextId + rows.length := by
        rw [nextId]
        omega
      have hlast : t.lastId + (rows.length + 1) = t.nextId + rows.length := by
        rw [← Int.add_assoc, hnext]
      rw [insertAll_append, ih]
      simp [insertAll, insert, nextId, List.mapIdx_concat, hnext, hlast]

/-- The rows of a table are numbered upwards from 1 in the order of insertion, and no number is
beyond the last one given out. -/
structure Ordered (id : α → Int) (t : Numbered α) : Prop where
  ascending : (t.rows.map id).Pairwise (· < ·)
  positive : ∀ x ∈ t.rows, 1 ≤ id x
  bounded : ∀ x ∈ t.rows, id x ≤ t.lastId
  started : 0 ≤ t.lastId

namespace Ordered

variable {id : α → Int} {t : Numbered α}

theorem empty (id : α → Int) : Ordered id {} where
  ascending := List.Pairwise.nil
  positive := fun _ hx => absurd hx List.not_mem_nil
  bounded := fun _ hx => absurd hx List.not_mem_nil
  started := Int.le_refl 0

/-- The next number is beyond all others, so a row that carries it may be added. -/
theorem insert {row : Int → α} (h : Ordered id t) (hrow : ∀ n, id (row n) = n) :
    Ordered id (t.insert row) where
  ascending := by
    show ((t.rows ++ [row t.nextId]).map id).Pairwise (· < ·)
    rw [List.map_append, List.pairwise_append]
    refine ⟨h.ascending, by simp, ?_⟩
    intro n hn m hm
    obtain ⟨x, hx, rfl⟩ := List.mem_map.mp hn
    rw [List.map_singleton, List.mem_singleton, hrow] at hm
    have hle := h.bounded x hx
    rw [hm, nextId]
    omega
  positive := by
    intro x hx
    rcases List.mem_append.mp hx with hx | hx
    · exact h.positive x hx
    · have hstart := h.started
      rw [List.mem_singleton.mp hx, hrow, nextId]
      omega
  bounded := by
    intro x hx
    show id x ≤ t.nextId
    rcases List.mem_append.mp hx with hx | hx
    · have hle := h.bounded x hx
      rw [nextId]
      omega
    · have heq : id x = t.nextId := by rw [List.mem_singleton.mp hx, hrow]
      exact Int.le_of_eq heq
  started := by
    show 0 ≤ t.nextId
    have hstart := h.started
    rw [nextId]
    omega

theorem skip (h : Ordered id t) : Ordered id t.skip where
  ascending := h.ascending
  positive := h.positive
  bounded := by
    intro x hx
    show id x ≤ t.nextId
    have hle := h.bounded x hx
    rw [nextId]
    omega
  started := by
    show 0 ≤ t.nextId
    have hstart := h.started
    rw [nextId]
    omega

/-- No number is given to two rows. -/
theorem unique (h : Ordered id t) : UniqueBy id t.rows :=
  h.ascending.imp (fun hlt => Int.ne_of_lt hlt)

end Ordered

/-- Rows were added behind the others, and no number was taken back. -/
structure Extends (t t' : Numbered α) : Prop where
  rows : t.rows <+: t'.rows
  lastId : t.lastId ≤ t'.lastId

namespace Extends

theorem refl (t : Numbered α) : t.Extends t := ⟨List.prefix_rfl, Int.le_refl _⟩

theorem trans {t t' t'' : Numbered α} (h : t.Extends t') (h' : t'.Extends t'') : t.Extends t'' :=
  ⟨h.rows.trans h'.rows, Int.le_trans h.lastId h'.lastId⟩

theorem insert (t : Numbered α) (row : Int → α) : t.Extends (t.insert row) where
  rows := List.prefix_append t.rows [row t.nextId]
  lastId := by
    show t.lastId ≤ t.nextId
    rw [nextId]
    omega

theorem skip (t : Numbered α) : t.Extends t.skip where
  rows := List.prefix_rfl
  lastId := by
    show t.lastId ≤ t.nextId
    rw [nextId]
    omega

end Extends
end Numbered
end GatewayRegistry
