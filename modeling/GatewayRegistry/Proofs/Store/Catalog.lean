import GatewayRegistry.Proofs.Store.Failure

/-!
# The catalog of protocols

There is at most one row for a protocol on a port, so a request determines an entry
(`Store.entryFor`). Rows are never changed or removed. A call that asks for entries inserts the rows
that are lacking, each where it is first asked for, and gives out a number for every request all the
same (`Store.withEntries_eq`). So it does not matter into how many calls the requests are split.
-/

namespace GatewayRegistry

/-! ## The order of rows

Rows are listed by name and then by port. This is an order in the strict sense only because no two
rows share both (`key_eq_of_before`), which is what makes the lists of a consistent store definite.
-/

namespace ProtocolRow

variable {a b c : ProtocolRow}

/-- First by name, then by port. -/
theorem before_iff : a.before b = true ↔ a.name < b.name ∨ a.name = b.name ∧ a.port ≤ b.port := by
  unfold before
  by_cases hname : a.name = b.name
  · rw [if_pos (beq_iff_eq.mpr hname), decide_eq_true_eq, hname]
    refine ⟨fun hport => .inr ⟨rfl, hport⟩, fun h => ?_⟩
    exact (h.resolve_left (String.lt_irrefl b.name)).2
  · simp [hname]

theorem before_trans (a b c : ProtocolRow) (hab : a.before b) (hbc : b.before c) : a.before c := by
  rw [before_iff] at *
  rcases hab with hlt | ⟨hname, hport⟩
  · rcases hbc with hlt' | ⟨hname', _⟩
    · exact .inl (String.lt_trans hlt hlt')
    · exact .inl (hname' ▸ hlt)
  · rcases hbc with hlt' | ⟨hname', hport'⟩
    · exact .inl (hname ▸ hlt')
    · exact .inr ⟨hname.trans hname', Int.le_trans hport hport'⟩

theorem before_total (a b : ProtocolRow) : a.before b || b.before a := by
  rw [Bool.or_eq_true, before_iff, before_iff]
  -- texts are compared first, and only equal ones need the ports
  by_cases hlt : a.name < b.name
  · exact .inl (.inl hlt)
  · by_cases hgt : b.name < a.name
    · exact .inr (.inl hgt)
    · have hname := String.le_antisymm (String.not_lt.mp hgt) (String.not_lt.mp hlt)
      rcases Int.le_total a.port b.port with hport | hport
      · exact .inl (.inr ⟨hname, hport⟩)
      · exact .inr (.inr ⟨hname.symm, hport⟩)

/-- Rows that may stand in either order have the same key. -/
theorem key_eq_of_before (hab : a.before b) (hba : b.before a) :
    (a.name, a.port) = (b.name, b.port) := by
  rw [before_iff] at *
  rcases hab with hlt | ⟨hname, hport⟩
  · rcases hba with hgt | ⟨hname, _⟩
    · exact absurd hgt (String.lt_asymm hlt)
    · rw [hname] at hlt
      exact absurd hlt (String.lt_irrefl _)
  · rcases hba with hgt | ⟨_, hport'⟩
    · rw [hname] at hgt
      exact absurd hgt (String.lt_irrefl _)
    · rw [hname, Int.le_antisymm hport hport']

end ProtocolRow

def Protocol.row (p : Protocol) : ProtocolRow := ⟨p.id, p.name.toText, p.port.toNat, p.builtin⟩

/-! ## Reading rows -/

/-- The place of an entry in a list. -/
def Protocol.Before (p q : Protocol) : Prop :=
  p.name.toText < q.name.toText ∨ p.name = q.name ∧ p.port < q.port

/-- No two entries stand before each other, so a list in this order is determined by its members. -/
theorem Protocol.Before.asymm {p q : Protocol} (h : p.Before q) : ¬q.Before p := by
  rintro (hgt | ⟨hname, hgt⟩)
  · rcases h with hlt | ⟨hname, -⟩
    · exact String.lt_asymm hlt hgt
    · rw [hname] at hgt
      exact String.lt_irrefl _ hgt
  · rcases h with hlt | ⟨-, hlt⟩
    · rw [hname] at hlt
      exact String.lt_irrefl _ hlt
    · exact UInt16.lt_asymm hlt hgt

namespace ProtocolRow

variable {row : ProtocolRow}

/-- Nothing of a readable row is lost in the entry it describes. -/
theorem Readable.row_described (h : row.Readable) : row.described.row = row := by
  obtain ⟨⟨name, hname⟩, hport⟩ := h
  have htext : name.toText = row.name := by simpa using List.find?_some hname
  have hlt : row.port.toNat < 65536 := by omega
  have hback : (UInt16.ofNat row.port.toNat).toNat = row.port.toNat := UInt16.toNat_ofNat_of_lt' hlt
  unfold described Protocol.row
  rw [hname]
  dsimp only [Option.getD_some]
  rw [htext, hback, Int.toNat_of_nonneg (by omega)]

/-- Rows that can be read one by one can be read as a list. -/
theorem mapM_read {rows : List ProtocolRow} (h : ∀ row ∈ rows, row.Readable) :
    rows.mapM read = .ok (rows.map described) := by
  induction rows with
  | nil => rfl
  | cons row rows ih =>
      have hrows := ih fun r hr => h r (List.mem_cons_of_mem row hr)
      rw [List.mapM_cons, (h row List.mem_cons_self).read_eq, hrows]
      rfl

end ProtocolRow

@[simp] theorem Protocol.described_row (p : Protocol) : p.row.described = p := by
  unfold Protocol.row ProtocolRow.described
  simp

namespace Store

/-! ## Lists of entries -/

section

variable {s : Store}

def catalog (s : Store) : List Protocol := s.orderedProtocols.map ProtocolRow.described

theorem mem_orderedProtocols {row : ProtocolRow} :
    row ∈ s.orderedProtocols ↔ row ∈ s.protocols.rows :=
  (List.mergeSort_perm s.protocols.rows ProtocolRow.before).mem_iff

namespace Consistent

variable (h : s.Consistent)

include h

/-- All rows that are listed can be read. -/
theorem readable_of_mem {row : ProtocolRow} (hrow : row ∈ s.orderedProtocols) : row.Readable :=
  h.catalogReadable row (mem_orderedProtocols.mp hrow)

/-- No two entries are for a protocol on the same port, so there is no choice in their order. -/
theorem catalog_pairwise : s.catalog.Pairwise Protocol.Before := by
  have hkeys : s.protocols.rows.Nodup := List.Nodup.of_map _ h.catalogKeys
  -- two rows of which each may stand before the other have one key, so they are the same row
  have hstrict := mergeSort_strict ProtocolRow.before_trans ProtocolRow.before_total
    (fun a ha b hb hab hba => h.catalogKeys.eq_of_mem ha hb (ProtocolRow.key_eq_of_before hab hba))
    hkeys
  unfold catalog
  rw [List.pairwise_map]
  refine List.Pairwise.imp_of_mem ?_ hstrict
  rintro a b ha hb ⟨hab, hba⟩
  rw [ProtocolRow.before_iff] at hab hba
  rw [← (h.readable_of_mem ha).row_described, ← (h.readable_of_mem hb).row_described] at hab hba
  rcases hab with hlt | ⟨hname, hport⟩
  · exact .inl hlt
  · refine .inr ⟨ProtocolName.toText_injective hname, UInt16.lt_iff_toNat_lt.mpr ?_⟩
    by_contra hge
    exact hba (.inr ⟨hname.symm, Int.ofNat_le.mpr (Nat.le_of_not_lt hge)⟩)

/-- The list holds what has a row, and each entry has its own row. -/
theorem mem_catalog {p : Protocol} : p ∈ s.catalog ↔ p.row ∈ s.protocols.rows := by
  constructor
  -- the name that was found is the name that was given
  · intro hp
    obtain ⟨row, hrow, rfl⟩ := List.mem_map.mp hp
    rw [(h.readable_of_mem hrow).row_described]
    exact mem_orderedProtocols.mp hrow
  · intro hp
    exact List.mem_map.mpr ⟨p.row, mem_orderedProtocols.mpr hp, p.described_row⟩

/-- Reading and sorting leave the ids as they were. -/
theorem catalog_ids : UniqueBy Protocol.id s.catalog := by
  unfold UniqueBy catalog
  rw [List.map_map]
  exact ((List.mergeSort_perm s.protocols.rows ProtocolRow.before).map ProtocolRow.id).nodup_iff.mpr
    h.catalogNumbers.unique

/-- What a terminal serves is what it is linked to, in the order of the catalog. -/
theorem mapM_read_servedProtocols (terminalId : String) :
    (s.servedProtocols terminalId).mapM ProtocolRow.read =
      .ok (s.catalog.filter fun p => s.terminalProtocols.contains ⟨terminalId, p.id⟩) := by
  unfold Store.servedProtocols catalog
  rw [ProtocolRow.mapM_read, List.filter_map]
  · rfl
  · intro row hrow
    exact h.readable_of_mem (List.mem_filter.mp hrow).1

end Consistent
end

/-! ## Entries of the catalog

For each protocol on a port there is one entry to speak of (`entryFor`): the one in the catalog, or
the one that would be inserted next. Speaking of it before it exists is what lets two clients
compare what they will get. -/

/-- The catalog row for a protocol on a port. -/
def rowFor? (s : Store) (w : ProtocolName × UInt16) : Option ProtocolRow :=
  s.protocolRow? w.1.toText w.2.toNat

/-- The entry for a protocol on a port: the one that is there, or else the one that would be created
now. -/
def entryFor (s : Store) (w : ProtocolName × UInt16) : Protocol :=
  match s.rowFor? w with
  | some row => ⟨row.id, w.1, w.2, row.builtin⟩
  | none => ⟨s.protocols.nextId, w.1, w.2, true⟩

variable {s s' : Store} {w v : ProtocolName × UInt16} {row : ProtocolRow}

@[simp] theorem entryFor_name (s : Store) (w : ProtocolName × UInt16) :
    (s.entryFor w).name = w.1 := by
  unfold entryFor
  split <;> rfl

@[simp] theorem entryFor_port (s : Store) (w : ProtocolName × UInt16) :
    (s.entryFor w).port = w.2 := by
  unfold entryFor
  split <;> rfl

theorem entryFor_some (h : s.rowFor? w = some row) :
    s.entryFor w = ⟨row.id, w.1, w.2, row.builtin⟩ := by
  rw [entryFor, h]

/-- The row that is found is the row of its entry. -/
theorem rowFor?_some (h : s.rowFor? w = some row) :
    row ∈ s.protocols.rows ∧ (s.entryFor w).row = row := by
  have hfind : s.protocols.rows.find? (·.isFor w.1.toText w.2.toNat) = some row := h
  have hkey := List.find?_some hfind
  obtain ⟨hname, hport⟩ : row.name = w.1.toText ∧ row.port = w.2.toNat := by
    simpa [ProtocolRow.isFor] using hkey
  rw [entryFor_some h]
  refine ⟨List.mem_of_find?_eq_some hfind, ?_⟩
  show ProtocolRow.mk row.id w.1.toText w.2.toNat row.builtin = row
  rw [← hname, ← hport]

/-- A row that is found can be read. -/
theorem read_rowFor? (h : s.rowFor? w = some row) : row.read = .ok (s.entryFor w) := by
  rw [← (rowFor?_some h).2]
  have hlt : w.2.toNat < 65536 := w.2.toNat_lt
  have hport : 0 ≤ (w.2.toNat : Int) ∧ (w.2.toNat : Int) < 65536 := by omega
  rw [entryFor_some h]
  show ProtocolRow.read ⟨row.id, w.1.toText, w.2.toNat, row.builtin⟩ = _
  unfold ProtocolRow.read ProtocolRow.readName readPort
  dsimp only
  rw [ProtocolName.ofText?_toText, if_pos hport]
  show Except.ok (Protocol.mk row.id w.1 (UInt16.ofNat (w.2.toNat : Int).toNat) row.builtin) = _
  rw [Int.toNat_natCast, UInt16.ofNat_toNat]

/-- What was found once is found for ever. -/
theorem Extends.rowFor? (h : s.Extends s') (hrow : s.rowFor? w = some row) :
    s'.rowFor? w = some row := by
  obtain ⟨new, hnew⟩ := h.protocols.rows
  unfold Store.rowFor? protocolRow? at *
  rw [← hnew, List.find?_append, hrow]
  rfl

/-- Different requests have different rows. -/
theorem Consistent.entryFor_id_inj (hs : s.Consistent) (hw : (s.rowFor? w).isSome)
    (hv : (s.rowFor? v).isSome) (hid : (s.entryFor w).id = (s.entryFor v).id) : w = v := by
  obtain ⟨row, hrow⟩ := Option.isSome_iff_exists.mp hw
  obtain ⟨row', hrow'⟩ := Option.isSome_iff_exists.mp hv
  obtain ⟨hmem, hentry⟩ := rowFor?_some hrow
  obtain ⟨hmem', hentry'⟩ := rowFor?_some hrow'
  -- the id names the row, and the row its protocol and its port
  have hsame : row.id = row'.id := by rw [← hentry, ← hentry']; exact hid
  have heq := hs.catalogNumbers.unique.eq_of_mem hmem hmem' hsame
  rw [← hentry, ← hentry', entryFor_some hrow, entryFor_some hrow'] at heq
  obtain ⟨_, hname, hport, _⟩ := ProtocolRow.mk.inj heq
  have hname' : w.1 = v.1 := by
    have hread := congrArg ProtocolName.ofText? hname
    simpa using hread
  have hport' : w.2 = v.2 := UInt16.toNat_inj.mp (Int.ofNat.inj hport)
  exact Prod.ext hname' hport'

/-- The key of an entry that is there is that of one row. -/
theorem Consistent.filter_isFor (hs : s.Consistent) (hw : (s.rowFor? w).isSome) :
    s.protocols.rows.filter (·.isFor w.1.toText w.2.toNat) = [(s.entryFor w).row] := by
  obtain ⟨row, hrow⟩ := Option.isSome_iff_exists.mp hw
  obtain ⟨hmem, hentry⟩ := rowFor?_some hrow
  have hone := hs.catalogKeys.filter_eq_singleton hmem
  rw [hentry, ← hone]
  congr 1
  funext p
  have hkey : (row.name, row.port) = (w.1.toText, (w.2.toNat : Int)) := by
    rw [← hentry, entryFor_some hrow]
    rfl
  rw [hkey, Bool.eq_iff_iff]
  simp [ProtocolRow.isFor]

/-- Whatever calls add to the catalog is built-in and has a new number. -/
theorem Edits.new_protocol (h : Edits s s') (hrow : row ∈ s'.protocols.rows) :
    row ∈ s.protocols.rows ∨ row.builtin = true ∧ s.protocols.lastId < row.id := by
  induction h with
  | refl => exact .inl hrow
  -- one edit adds to the catalog; the others leave its rows as they are
  | @tail s₁ s₂ hedits hedit ih =>
      cases hedit with
      | addProtocol port_pos absent =>
          rcases List.mem_append.mp hrow with hrow | hrow
          · exact ih hrow
          · rw [List.mem_singleton.mp hrow]
            -- the number of the new row is beyond all that were given out before the other edits
            have hle := (Edits.toExtends hedits).protocols.lastId
            refine .inr ⟨rfl, ?_⟩
            show s.protocols.lastId < s₁.protocols.lastId + 1
            omega
      | addBackend kind => cases kind <;> exact ih hrow
      | _ => exact ih hrow

/-- An entry that is not there is built-in and gets a new number, whenever it is created. -/
theorem Edits.entryFor_new (h : Edits s s') (hnone : s.rowFor? w = none) :
    ∃ id > s.protocols.lastId, s'.entryFor w = { s.entryFor w with id } := by
  have hentry : s.entryFor w = ⟨s.protocols.nextId, w.1, w.2, true⟩ := by rw [entryFor, hnone]
  rw [hentry]
  cases hrow : s'.rowFor? w with
  | none =>
      have hle := h.toExtends.protocols.lastId
      refine ⟨s'.protocols.nextId, ?_, by rw [entryFor, hrow]⟩
      show s.protocols.lastId < s'.protocols.lastId + 1
      omega
  | some row =>
      have hmem : row ∈ s'.protocols.rows := (rowFor?_some hrow).1
      rcases h.new_protocol hmem with hold | ⟨hbuiltin, hlt⟩
      -- an old row would have been found
      · have hfind : s.protocols.rows.find? (·.isFor w.1.toText w.2.toNat) = none := hnone
        have hfind' : s'.protocols.rows.find? (·.isFor w.1.toText w.2.toNat) = some row := hrow
        exact absurd (List.find?_some hfind') (List.find?_eq_none.mp hfind row hold)
      · exact ⟨row.id, hlt, by rw [entryFor_some hrow, hbuiltin]⟩

/-! ## What a client has found -/

/-- All that was asked for is there, and it was found once each and in order. -/
structure Seeded (s : Store) (wanted : List (ProtocolName × UInt16)) (found : List Protocol) :
    Prop where
  consistent : s.Consistent
  there : ∀ w ∈ wanted, (s.rowFor? w).isSome
  found_eq : found = wanted.eraseDups.map s.entryFor

namespace Seeded

variable {wanted : List (ProtocolName × UInt16)} {found : List Protocol}

theorem nil (hs : s.Consistent) : s.Seeded [] [] :=
  ⟨hs, fun _ hw => absurd hw List.not_mem_nil, rfl⟩

/-- What was found stays right, whatever edits follow. -/
theorem later (h : s.Seeded wanted found) (hedits : Edits s s') : s'.Seeded wanted found := by
  -- rows are never changed or removed, so every request is answered by the row it had
  have hsame : ∀ w ∈ wanted, ∃ row, s.rowFor? w = some row ∧ s'.rowFor? w = some row := by
    intro w hw
    obtain ⟨row, hrow⟩ := Option.isSome_iff_exists.mp (h.there w hw)
    exact ⟨row, hrow, hedits.toExtends.rowFor? hrow⟩
  refine ⟨hedits.consistent h.consistent, ?_, ?_⟩
  · intro w hw
    obtain ⟨row, _, hrow'⟩ := hsame w hw
    rw [hrow']
    rfl
  · rw [h.found_eq]
    apply List.map_congr_left
    intro w hw
    obtain ⟨row, hrow, hrow'⟩ := hsame w (List.mem_eraseDups.mp hw)
    rw [entryFor_some hrow, entryFor_some hrow']

/-- To ask for the same entries later is to find the same. -/
theorem found_unique {again : List Protocol} (h : s.Seeded wanted found) (hedits : Edits s s')
    (h' : s'.Seeded wanted again) : again = found := by
  rw [h'.found_eq, (h.later hedits).found_eq]

/-- An entry is noted unless it was noted before. -/
theorem snoc (h : s.Seeded wanted found) (hw : (s.rowFor? w).isSome) :
    s.Seeded (wanted ++ [w])
      (if found.any (·.id == (s.entryFor w).id) then found else found ++ [s.entryFor w]) := by
  -- an entry is noted by its id, which tells entries apart
  have hnoted : found.any (·.id == (s.entryFor w).id) = true ↔ w ∈ wanted := by
    rw [h.found_eq, List.any_eq_true]
    constructor
    · rintro ⟨p, hp, hid⟩
      obtain ⟨v, hv, rfl⟩ := List.mem_map.mp hp
      have hv := List.mem_eraseDups.mp hv
      rw [h.consistent.entryFor_id_inj hw (h.there v hv) (beq_iff_eq.mp hid).symm]
      exact hv
    · intro hmem
      exact ⟨_, List.mem_map_of_mem (List.mem_eraseDups.mpr hmem), beq_self_eq_true _⟩
  refine ⟨h.consistent, ?_, ?_⟩
  · intro v hv
    rcases List.mem_append.mp hv with hv | hv
    · exact h.there v hv
    · rw [List.mem_singleton.mp hv]
      exact hw
  · rw [List.eraseDups_append, List.map_append]
    by_cases hmem : w ∈ wanted
    · rw [if_pos (hnoted.mpr hmem), h.found_eq]
      simp [List.removeAll, hmem]
    · rw [if_neg (fun hany => hmem (hnoted.mp hany)), h.found_eq]
      simp [List.removeAll, hmem, List.eraseDups_cons]

end Seeded

/-! ## Making sure of entries -/

/-- The store after it was made sure that there is an entry for a protocol on a port. -/
def ensured (s : Store) (w : ProtocolName × UInt16) : Store :=
  if (s.rowFor? w).isSome then { s with protocols := s.protocols.skip }
  else { s with protocols := s.protocols.insert fun id => ⟨id, w.1.toText, w.2.toNat, true⟩ }

/-- The store after it was made sure of some entries, one after the other. -/
def withEntries (s : Store) (wanted : List (ProtocolName × UInt16)) : Store :=
  wanted.foldl ensured s

/-- The one thing that a row may be refused for is port zero. -/
theorem insertProtocolIfAbsent_eq (hport : w.2 ≠ 0) :
    s.insertProtocolIfAbsent w.1.toText w.2.toNat true = .ok (s.ensured w) := by
  have hpos : w.2.toNat ≠ 0 := fun hzero => hport (UInt16.toNat_inj.mp hzero)
  have hlt : w.2.toNat < 65536 := w.2.toNat_lt
  exact insertProtocolIfAbsent_eq_ok_iff.mpr ⟨by omega, rfl⟩

/-- Making sure of an entry is one edit: a new row, or a number that is lost. -/
theorem ensured_edits (hport : w.2 ≠ 0) : Edits s (s.ensured w) :=
  insertProtocolIfAbsent_edits (insertProtocolIfAbsent_eq hport)

theorem rowFor?_ensured (s : Store) (w : ProtocolName × UInt16) :
    ((s.ensured w).rowFor? w).isSome := by
  unfold ensured
  split
  · next hthere => exact hthere
  · obtain ⟨row, hrow⟩ := exists_find?_append (p := (·.isFor w.1.toText w.2.toNat))
      (a := ⟨s.protocols.nextId, w.1.toText, w.2.toNat, true⟩) (by simp [ProtocolRow.isFor])
      s.protocols.rows
    exact Option.isSome_iff_exists.mpr ⟨row, hrow⟩

/-- An entry for a port other than zero is there once it was asked for. -/
theorem ensure_ok (hport : w.2 ≠ 0) :
    ∃ s', s.insertProtocolIfAbsent w.1.toText w.2.toNat true = .ok s' ∧ Edits s s' ∧
      (s'.rowFor? w).isSome :=
  ⟨s.ensured w, insertProtocolIfAbsent_eq hport, ensured_edits hport, rowFor?_ensured s w⟩

/-! ### The rows that are made

To say which rows come of a list of requests, and under which ids, each row is described by the
place of its first request. The ids are not consecutive: a request that finds its row takes a number
too. -/

section

variable {wanted : List (ProtocolName × UInt16)}

/-- The requests for which there is no row, each once. -/
def lacking (s : Store) (wanted : List (ProtocolName × UInt16)) : List (ProtocolName × UInt16) :=
  wanted.eraseDups.filter fun w => (s.rowFor? w).isNone

/-- The row that is made for a request: its number is given out where it is first asked for. -/
def rowMade (s : Store) (wanted : List (ProtocolName × UInt16)) (w : ProtocolName × UInt16) :
    ProtocolRow :=
  ⟨s.protocols.nextId + wanted.idxOf w, w.1.toText, w.2.toNat, true⟩

/-- A row that is made is found by the request it is made for and by no other. -/
@[simp] theorem isFor_rowMade :
    (s.rowMade wanted w).isFor v.1.toText v.2.toNat = true ↔ w = v := by
  have hnames : w.1.toText = v.1.toText ↔ w.1 = v.1 := ProtocolName.toText_injective.eq_iff
  have hports : (w.2.toNat : Int) = v.2.toNat ↔ w.2 = v.2 := by
    rw [Int.natCast_inj, UInt16.toNat_inj]
  simp [rowMade, ProtocolRow.isFor, hnames, hports, Prod.ext_iff]

/-- What is lacking has been asked for and is not there. -/
theorem mem_lacking : w ∈ s.lacking wanted ↔ w ∈ wanted ∧ s.rowFor? w = none := by
  simp [lacking]

/-- One more request: it adds to what is lacking if it is new. -/
theorem lacking_concat (s : Store) (wanted : List (ProtocolName × UInt16))
    (w : ProtocolName × UInt16) :
    s.lacking (wanted ++ [w]) =
      if w ∈ wanted ∨ (s.rowFor? w).isSome then s.lacking wanted else s.lacking wanted ++ [w] := by
  unfold lacking
  rw [eraseDups_concat]
  by_cases hmem : w ∈ wanted
  · simp [hmem]
  · cases hrow : s.rowFor? w <;> simp [hmem, hrow]

/-- A number that was given out is not given out again. -/
theorem map_rowMade_append (s : Store) (wanted more : List (ProtocolName × UInt16)) :
    (s.lacking wanted).map (s.rowMade (wanted ++ more)) = (s.lacking wanted).map (s.rowMade wanted) := by
  apply List.map_congr_left
  intro v hv
  rw [rowMade, List.idxOf_append_of_mem (mem_lacking.mp hv).1, rowMade]

/-- A row is there from the beginning, or it was made. -/
theorem isSome_find?_made (s : Store) (wanted : List (ProtocolName × UInt16))
    (w : ProtocolName × UInt16) :
    ((s.protocols.rows ++ (s.lacking wanted).map (s.rowMade wanted)).find?
      (·.isFor w.1.toText w.2.toNat)).isSome ↔ w ∈ wanted ∨ (s.rowFor? w).isSome := by
  have hmade : (((s.lacking wanted).map (s.rowMade wanted)).find?
      (·.isFor w.1.toText w.2.toNat)).isSome ↔ w ∈ s.lacking wanted := by
    simp only [List.find?_isSome, List.mem_map, exists_exists_and_eq_and, isFor_rowMade,
      exists_eq_right]
  rw [List.find?_append, Option.isSome_or, Bool.or_eq_true, hmade, mem_lacking]
  show (s.rowFor? w).isSome ∨ _ ↔ _
  cases s.rowFor? w <;> simp

theorem withEntries_append (s : Store) (wanted more : List (ProtocolName × UInt16)) :
    s.withEntries (wanted ++ more) = (s.withEntries wanted).withEntries more :=
  List.foldl_append

theorem withEntries_concat (s : Store) (wanted : List (ProtocolName × UInt16))
    (w : ProtocolName × UInt16) : s.withEntries (wanted ++ [w]) = (s.withEntries wanted).ensured w :=
  withEntries_append s wanted [w]

/-- The rows that were there stay, and the ones that are lacking are put behind them. -/
theorem withEntries_eq (s : Store) (wanted : List (ProtocolName × UInt16)) :
    s.withEntries wanted =
      { s with protocols :=
        { rows := s.protocols.rows ++ (s.lacking wanted).map (s.rowMade wanted)
          lastId := s.protocols.lastId + wanted.length } } := by
  -- from the end: the last request sees the rows that were made for all the others
  induction wanted using List.reverseRecOn with
  | nil => simp [withEntries, lacking]
  | append_singleton wanted w ih =>
      have hthere : ((s.withEntries wanted).rowFor? w).isSome ↔ w ∈ wanted ∨ (s.rowFor? w).isSome := by
        rw [ih]
        exact isSome_find?_made s wanted w
      rw [withEntries_concat, ensured, lacking_concat]
      by_cases hmem : w ∈ wanted ∨ (s.rowFor? w).isSome
      · rw [if_pos (hthere.mpr hmem), if_pos hmem, map_rowMade_append, ih]
        simp [Numbered.skip, Numbered.nextId, Int.add_assoc]
      · have hnew : w ∉ wanted := fun hw => hmem (.inl hw)
        have hnext : s.rowMade (wanted ++ [w]) w =
            ⟨s.protocols.lastId + wanted.length + 1, w.1.toText, w.2.toNat, true⟩ := by
          rw [rowMade, List.idxOf_append_of_notMem hnew, List.idxOf_cons_self, ProtocolRow.mk.injEq]
          refine ⟨?_, rfl, rfl, rfl⟩
          show s.protocols.lastId + 1 + ((wanted.length + 0 : Nat) : Int) = _
          omega
        rw [if_neg (mt hthere.mp hmem), if_neg hmem, List.map_append, map_rowMade_append,
          List.map_singleton, hnext, ih]
        simp [Numbered.insert, Numbered.nextId, Int.add_assoc]

/-- What a call that asked for some entries has found, and what it has done to the catalog. -/
structure Provides (s : Store) (wanted : List (ProtocolName × UInt16)) (found : List Protocol)
    (s' : Store) : Prop where
  /-- Each entry is found once, in the order in which they were first asked for. -/
  found_eq : found.map (fun p => (p.name, p.port)) = wanted.eraseDups
  ids : UniqueBy Protocol.id found
  /-- What is found is a row of the catalog. -/
  there : ∀ p ∈ found, p.row ∈ s'.protocols.rows
  /-- The rows that were there are followed by one built-in row for each entry that was lacking. -/
  catalog : ∃ added, s' = { s with protocols :=
      ⟨s.protocols.rows ++ added, s.protocols.lastId + wanted.length⟩ } ∧
    added.map (fun row => (row.name, row.port)) =
      (s.lacking wanted).map (fun w => (w.1.toText, (w.2.toNat : Int))) ∧
    ∀ row ∈ added, row.builtin = true
  /-- A new row has a larger number than all rows before it. -/
  numbers : s'.protocols.rows.Pairwise fun old new => old.id < new.id

/-- What holds of a client that has found all it asked for is what is promised to a caller. -/
theorem Seeded.provides {found : List Protocol} (h : (s.withEntries wanted).Seeded wanted found) :
    s.Provides wanted found (s.withEntries wanted) where
  found_eq := by
    rw [h.found_eq, List.map_map]
    exact (List.map_congr_left fun w _ => by simp).trans (List.map_id _)
  ids := by
    unfold UniqueBy
    rw [h.found_eq, List.map_map]
    refine List.Nodup.map_on ?_ (nodup_eraseDups wanted)
    intro w hw v hv hid
    exact h.consistent.entryFor_id_inj (h.there w (List.mem_eraseDups.mp hw))
      (h.there v (List.mem_eraseDups.mp hv)) hid
  there p hp := by
    rw [h.found_eq] at hp
    obtain ⟨w, hw, rfl⟩ := List.mem_map.mp hp
    obtain ⟨row, hrow⟩ := Option.isSome_iff_exists.mp (h.there w (List.mem_eraseDups.mp hw))
    obtain ⟨hmem, hentry⟩ := rowFor?_some hrow
    rw [hentry]
    exact hmem
  catalog := by
    refine ⟨_, withEntries_eq s wanted, ?_, ?_⟩
    · rw [List.map_map]
      rfl
    · intro row hrow
      obtain ⟨w, _, rfl⟩ := List.mem_map.mp hrow
      rfl
  numbers := List.pairwise_map.mp h.consistent.catalogNumbers.ascending

/-- Nothing is inserted if nothing is lacking. -/
theorem rows_withEntries_of_there (h : ∀ w ∈ wanted, (s.rowFor? w).isSome) :
    (s.withEntries wanted).protocols.rows = s.protocols.rows := by
  have hnone : s.lacking wanted = [] := by
    refine List.eq_nil_iff_forall_not_mem.mpr fun w hw => ?_
    obtain ⟨hmem, hrow⟩ := mem_lacking.mp hw
    simpa [hrow] using h w hmem
  simp [withEntries_eq, hnone]

end

end Store

/-! ## Requests

A request with no name, no port, an unknown name or port zero is skipped; the others are got in
turn, and noted once. The run over the list is followed request by request, from the end. -/

/-- A request asks for something if it names a known protocol and a port other than zero. -/
theorem ProtocolEntry.resolve?_eq_some_iff {request : ProtocolEntry} {w : ProtocolName × UInt16} :
    request.resolve? = some w ↔
      request.name = some w.1.toText ∧ request.port = some w.2 ∧ w.2 ≠ 0 := by
  constructor
  · intro h
    have hport : w.2 ≠ 0 := Database.resolve?_port_ne_zero h
    obtain ⟨text, htext, h⟩ := Option.bind_eq_some_iff.mp h
    obtain ⟨port, hgiven, h⟩ := Option.bind_eq_some_iff.mp h
    split at h
    · cases h
    · obtain ⟨known, hknown, hw⟩ := Option.bind_eq_some_iff.mp h
      obtain rfl := Option.some.inj hw
      have hname : known.toText = text := by simpa using List.find?_some hknown
      exact ⟨hname.symm ▸ htext, hgiven, hport⟩
  · rintro ⟨hname, hgiven, hport⟩
    have hnonempty : w.1.toText.isEmpty = false := by cases w.1 <;> decide
    unfold resolve?
    rw [hname, hgiven]
    show (if (w.1.toText.isEmpty || w.2 == 0) = true then none
      else (ProtocolName.ofText? w.1.toText).bind fun name => some (name, w.2)) = some w
    rw [hnonempty, ProtocolName.ofText?_toText]
    simp [hport]

namespace Database

variable {db : Database} {w : ProtocolName × UInt16}

/-- The row is there when it is looked up, whether it was made now or before. -/
theorem getOrCreateProtocol_eq (hopen : db.isOpen = true) (hport : w.2 ≠ 0) :
    getOrCreateProtocol w.1 w.2 db =
      (.ok ((db.store.ensured w).entryFor w), { db with store := db.store.ensured w }) := by
  obtain ⟨row, hrow⟩ := Option.isSome_iff_exists.mp (db.store.rowFor?_ensured w)
  -- the look-up by text and number is the one by protocol and port
  have hfound : (db.store.ensured w).protocolRow? w.1.toText w.2.toNat = some row := hrow
  have hensure : ensureProtocol w.1 w.2 db = (.ok (), { db with store := db.store.ensured w }) :=
    execute_ok hopen (Store.insertProtocolIfAbsent_eq hport)
  unfold getOrCreateProtocol findProtocol
  rw [call_bind_ok hensure]
  refine query_ok hopen ?_
  show (match (db.store.ensured w).protocolRow? w.1.toText w.2.toNat with
    | some row => row.read
    | none => _) = _
  rw [hfound]
  exact Store.read_rowFor? hrow

section

variable {db₁ : Database} {requests : List ProtocolEntry} {request : ProtocolEntry}
  {found : List Protocol}

/-- A request that asks for nothing comes last. -/
theorem getOrCreateProtocols_skip (hrun : getOrCreateProtocols requests db = (.ok found, db₁))
    (hnone : request.resolve? = none) :
    getOrCreateProtocols (requests ++ [request]) db = (.ok found, db₁) := by
  unfold getOrCreateProtocols at *
  rw [List.foldlM_append, call_bind_ok hrun, List.foldlM_cons, hnone]
  rfl

/-- A request for an entry comes last. -/
theorem getOrCreateProtocols_note (hrun : getOrCreateProtocols requests db = (.ok found, db₁))
    (hopen : db₁.isOpen = true) (hwanted : request.resolve? = some w) :
    let s := db₁.store.ensured w
    getOrCreateProtocols (requests ++ [request]) db =
      (.ok (if found.any (·.id == (s.entryFor w).id) then found else found ++ [s.entryFor w]),
        { db₁ with store := s }) := by
  intro s
  have hport : w.2 ≠ 0 := (ProtocolEntry.resolve?_eq_some_iff.mp hwanted).2.2
  unfold getOrCreateProtocols at *
  rw [List.foldlM_append, call_bind_ok hrun, List.foldlM_cons, hwanted]
  dsimp only
  rw [bind_assoc, call_bind_ok (getOrCreateProtocol_eq hopen hport)]
  rfl

end

/-- All entries that are asked for are made sure of, and they are found once each and in order. -/
theorem getOrCreateProtocols_seeded (h : db.Ready) (requests : List ProtocolEntry) :
    let s := db.store.withEntries (requests.filterMap (·.resolve?))
    ∃ found, getOrCreateProtocols requests db = (.ok found, { db with store := s }) ∧
      s.Seeded (requests.filterMap (·.resolve?)) found := by
  induction requests using List.reverseRecOn with
  | nil => exact ⟨[], rfl, .nil h.consistent⟩
  | append_singleton requests request ih =>
      obtain ⟨found, hrun, hseeded⟩ := ih
      rw [List.filterMap_append]
      cases hwanted : request.resolve? with
      | none =>
          have hnothing : List.filterMap (·.resolve?) [request] = [] := by simp [hwanted]
          rw [hnothing, List.append_nil]
          exact ⟨found, getOrCreateProtocols_skip hrun hwanted, hseeded⟩
      | some w =>
          -- the entry may have been noted already, and then it is not noted again
          have hport : w.2 ≠ 0 := (ProtocolEntry.resolve?_eq_some_iff.mp hwanted).2.2
          have hmore : List.filterMap (·.resolve?) [request] = [w] := by simp [hwanted]
          rw [hmore, Store.withEntries_concat]
          exact ⟨_, getOrCreateProtocols_note hrun h.isOpen hwanted,
            (hseeded.later (Store.ensured_edits hport)).snoc (Store.rowFor?_ensured _ w)⟩

end Database
end GatewayRegistry
