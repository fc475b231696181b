import GatewayRegistry.Proofs.Store.Failure
import GatewayRegistry.Proofs.Store.Frame

/-!
# Protocols of platforms and assets, inserted in bulk

Protocols of either kind are inserted in a loop, which passes over a row whose owner has a protocol
of that name and fails at one whose owner is unknown. What the loop does to the table is
`OfferKind.offerAll`: each row is given a number, and the first one for its key gets a place under
it. From there on it is all about tables, and what holds of the loop holds of the calls
(`OfferKind.Lawful.inserts_first`).
-/

namespace GatewayRegistry

/-! ## Kinds of protocols

The two tables differ in who owns a row, and in nothing that matters for the loop. So a kind of
protocols is given by its functions, and all that follows is proved once for every kind that keeps
the laws (`OfferKind.Lawful`). -/

/-- A kind of protocols that are inserted in bulk: what a row for them is made from, the row, and
the key that it has besides its number. -/
structure OfferKind (ν ρ κ : Type) where
  /-- Where the rows are stored. -/
  part : Store.Part
  table : Store → Numbered ρ
  write : Store → Numbered ρ → Store
  /-- Whether the owner in a key is there. -/
  knows : Store → κ → Bool
  key : ν → κ
  row : ν → Int → ρ
  rowKey : ρ → κ
  id : ρ → Int
  insertOne : ν → Store → Except StoreError (Nat × Store)
  insert : List ν → Database.Call Nat

namespace OfferKind

def platforms : OfferKind NewPlatformProtocol PlatformProtocol (Int × String) where
  part := .platformProtocols
  table := Store.platformProtocols
  write s t := { s with platformProtocols := t }
  knows s key := s.hasPlatform key.1
  key new := (new.platformId, new.name)
  row := NewPlatformProtocol.row
  rowKey p := (p.platformId, p.name)
  id := PlatformProtocol.id
  insertOne := Store.insertPlatformProtocol
  insert := Database.insertPlatformProtocols

def assets : OfferKind NewAssetProtocol AssetProtocol (String × String) where
  part := .assetProtocols
  table := Store.assetProtocols
  write s t := { s with assetProtocols := t }
  knows s key := s.hasAsset key.1
  key new := (new.assetId, new.name)
  row := NewAssetProtocol.row
  rowKey p := (p.assetId, p.name)
  id := AssetProtocol.id
  insertOne := Store.insertAssetProtocol
  insert := Database.insertAssetProtocols

variable {ν ρ κ : Type} [DecidableEq κ] (k : OfferKind ν ρ κ)

/-! ## Offering rows to a table

The loop without its failures: a row is offered to the table, which inserts it or passes it over. A
number is given out either way, so the number that a row gets depends on how many rows come before
it, and not on what became of them. -/

/-- Whether a table has a row with a key. -/
def taken (t : Numbered ρ) (key : κ) : Bool := t.rows.any (k.rowKey · == key)

/-- Give out a number, and insert the row for it unless its key is taken. -/
def offer (t : Numbered ρ) (new : ν) : Numbered ρ :=
  if k.taken t (k.key new) then t.skip else t.insert (k.row new)

def offerAll (t : Numbered ρ) (news : List ν) : Numbered ρ := news.foldl k.offer t

/-- The row at a place is the first one with its key, and the table has none. -/
def FirstAt (t : Numbered ρ) (news : List ν) (i : Nat) (new : ν) : Prop :=
  news[i]? = some new ∧ k.taken t (k.key new) = false ∧ ∀ earlier ∈ news.take i, k.key earlier ≠ k.key new

/-- What is known of a kind of protocols. -/
structure Lawful : Prop where
  -- the table
  table_write : ∀ s t, k.table (k.write s t) = t
  write_write : ∀ s t t', k.write (k.write s t) t' = k.write s t'
  write_table : ∀ s, k.write s (k.table s) = s
  outside : ∀ s t, Store.SameOutside [k.part] s (k.write s t)
  -- its rows
  rowKey_row : ∀ new n, k.rowKey (k.row new n) = k.key new
  numbers : ∀ s, s.Consistent → (k.table s).Ordered k.id
  -- what they refer to
  knows_write : ∀ s t key, k.knows (k.write s t) key = k.knows s key
  owners : ∀ s, s.Consistent → ∀ x ∈ (k.table s).rows, k.knows s (k.rowKey x) = true
  -- the calls
  insertOne : ∀ new s, k.insertOne new s =
    if k.taken (k.table s) (k.key new) then .ok (0, k.write s (k.table s).skip)
    else if k.knows s (k.key new) then .ok (1, k.write s ((k.table s).insert (k.row new)))
    else .error (.rejected .dangling)
  insert : ∀ news, k.insert news = Database.transact (Store.insertMany k.insertOne news)
  edits : ∀ news, Database.Edits (k.insert news)

/-- The key of a platform protocol is taken if the platform offers a protocol of that name. -/
theorem taken_platforms (s : Store) (platformId : Int) (name : String) :
    platforms.taken s.platformProtocols (platformId, name) = s.platformOffers platformId name := by
  rw [Bool.eq_iff_iff, Store.platformOffers_iff]
  simp [taken, platforms]

theorem taken_assets (s : Store) (assetId name : String) :
    assets.taken s.assetProtocols (assetId, name) = s.assetOffers assetId name := by
  rw [Bool.eq_iff_iff, Store.assetOffers_iff]
  simp [taken, assets]

/-- Protocols of platforms keep the laws. -/
theorem platforms_lawful : platforms.Lawful where
  table_write s t := rfl
  write_write s t t' := rfl
  write_table s := rfl
  outside s t := .write .platformProtocols List.mem_cons_self _
  rowKey_row new n := rfl
  numbers s hs := hs.platformProtocolNumbers
  knows_write s t key := rfl
  owners s hs x hx := Store.hasPlatform_iff.mpr (hs.offeringPlatforms x hx)
  insertOne new s := by
    show s.insertPlatformProtocol new =
      if platforms.taken s.platformProtocols (new.platformId, new.name) then _
      else if s.hasPlatform new.platformId then _ else _
    rw [taken_platforms, Store.insertPlatformProtocol]
    cases s.hasPlatform new.platformId <;> rfl
  insert news := rfl
  edits := Database.insertPlatformProtocols_edits

theorem assets_lawful : assets.Lawful where
  table_write s t := rfl
  write_write s t t' := rfl
  write_table s := rfl
  outside s t := .write .assetProtocols List.mem_cons_self _
  rowKey_row new n := rfl
  numbers s hs := hs.assetProtocolNumbers
  knows_write s t key := rfl
  owners s hs x hx := Store.hasAsset_iff.mpr (hs.offeringAssets x hx)
  insertOne new s := by
    show s.insertAssetProtocol new =
      if assets.taken s.assetProtocols (new.assetId, new.name) then _
      else if s.hasAsset new.assetId then _ else _
    rw [taken_assets, Store.insertAssetProtocol]
    cases s.hasAsset new.assetId <;> rfl
  insert news := rfl
  edits := Database.insertAssetProtocols_edits

/-! ## What becomes of the table -/

variable {k} {t : Numbered ρ} {news more : List ν}

theorem offerAll_cons (t : Numbered ρ) (new : ν) (news : List ν) :
    k.offerAll t (new :: news) = k.offerAll (k.offer t new) news := rfl

/-- To offer two batches is to offer one after the other. -/
theorem offerAll_append (t : Numbered ρ) (news more : List ν) :
    k.offerAll t (news ++ more) = k.offerAll (k.offerAll t news) more :=
  List.foldl_append

theorem taken_iff {key : κ} : k.taken t key = true ↔ ∃ x ∈ t.rows, k.rowKey x = key := any_key_iff

theorem lastId_offer (t : Numbered ρ) (new : ν) : (k.offer t new).lastId = t.lastId + 1 := by
  unfold offer
  split <;> rfl

/-- As many numbers are given out as there are rows. -/
theorem lastId_offerAll (t : Numbered ρ) (news : List ν) :
    (k.offerAll t news).lastId = t.lastId + news.length := by
  induction news generalizing t with
  | nil => simp [offerAll]
  | cons new news ih =>
      rw [offerAll_cons, ih, lastId_offer, List.length_cons]
      omega

namespace Lawful

variable (hk : k.Lawful)

include hk

/-- A row that is inserted takes its own key and no other. -/
theorem taken_insert (t : Numbered ρ) (new : ν) (key : κ) :
    k.taken (t.insert (k.row new)) key = (k.taken t key || k.key new == key) := by
  simp [taken, Numbered.insert, hk.rowKey_row]

theorem taken_insertAll (t : Numbered ρ) (news : List ν) (key : κ) :
    k.taken (t.insertAll (news.map k.row)) key = (k.taken t key || news.any (k.key · == key)) := by
  induction news generalizing t with
  | nil => simp [Numbered.insertAll]
  | cons new news ih =>
      rw [List.map_cons, List.any_cons, ← Bool.or_assoc, ← hk.taken_insert]
      exact ih _

/-- The keys that are taken afterwards are those that were taken and those that are offered. -/
theorem taken_offer (t : Numbered ρ) (new : ν) (key : κ) :
    k.taken (k.offer t new) key = (k.taken t key || k.key new == key) := by
  have hskip : k.taken t.skip key = k.taken t key := rfl
  unfold offer
  split
  case isTrue hthere =>
    rw [hskip]
    by_cases hkey : k.key new = key
    · subst hkey
      rw [hthere, Bool.true_or]
    · simp [hkey]
  case isFalse => exact hk.taken_insert t new key

/-- After any number of rows, too, the taken keys are the old ones and the offered ones. -/
theorem taken_offerAll (t : Numbered ρ) (news : List ν) (key : κ) :
    k.taken (k.offerAll t news) key = (k.taken t key || news.any (k.key · == key)) := by
  induction news generalizing t with
  | nil => simp [offerAll]
  | cons new news ih => rw [offerAll_cons, ih, hk.taken_offer, List.any_cons, Bool.or_assoc]

/-- Rows whose keys are taken leave no trace but their numbers. -/
theorem rows_offerAll_of_taken (h : ∀ new ∈ news, k.taken t (k.key new) = true) :
    (k.offerAll t news).rows = t.rows := by
  induction news generalizing t with
  | nil => rfl
  | cons new news ih =>
      obtain ⟨hnew, hnews⟩ := List.forall_mem_cons.mp h
      have hskip : k.offer t new = t.skip := if_pos hnew
      rw [offerAll_cons, ih, hskip]
      · rfl
      · intro x hx
        rw [hk.taken_offer, hnews x hx, Bool.true_or]

/-- The last row is the first of its key if that key is not taken by then. -/
theorem firstAt_concat {new x : ν} {i : Nat} :
    k.FirstAt t (news ++ [new]) i x ↔
      k.FirstAt t news i x ∨
        i = news.length ∧ x = new ∧ k.taken (k.offerAll t news) (k.key new) = false := by
  have hfresh : k.taken (k.offerAll t news) (k.key new) = false ↔
      k.taken t (k.key new) = false ∧ ∀ earlier ∈ news, k.key earlier ≠ k.key new := by
    rw [hk.taken_offerAll]
    simp
  rw [hfresh]
  unfold FirstAt
  -- a place before the last row, that of the last row, and one beyond it
  rcases Nat.lt_trichotomy i news.length with hlt | rfl | hgt
  · rw [List.getElem?_append_left hlt, List.take_append_of_le_length (Nat.le_of_lt hlt)]
    simp [Nat.ne_of_lt hlt]
  · simp only [List.getElem?_concat_length, Option.some.injEq, List.take_left',
      List.getElem?_length, reduceCtorEq, false_and, false_or, true_and]
    constructor
    · rintro ⟨rfl, hnew⟩
      exact ⟨rfl, hnew⟩
    · rintro ⟨rfl, hnew⟩
      exact ⟨rfl, hnew⟩
  · have hbeyond : news[i]? = none := List.getElem?_eq_none (Nat.le_of_lt hgt)
    have hbeyond' : (news ++ [new])[i]? = none := by
      apply List.getElem?_eq_none
      rw [List.length_append, List.length_singleton]
      omega
    simp [hbeyond, hbeyond', Nat.ne_of_gt hgt]

/-- The rows that are gained stand behind the others, and they are the first ones for their keys
under the numbers of their places. -/
theorem rows_offerAll (t : Numbered ρ) (news : List ν) :
    ∃ added, (k.offerAll t news).rows = t.rows ++ added ∧
      ∀ row, row ∈ added ↔ ∃ i new, k.FirstAt t news i new ∧ row = k.row new (t.lastId + 1 + i) := by
  induction news using List.reverseRecOn with
  | nil => exact ⟨[], by simp [offerAll], by simp [FirstAt]⟩
  -- the induction is from the end: what comes before decides whether the last row is gained, and
  -- the last row changes nothing in what was gained before it
  | append_singleton news new ih =>
      obtain ⟨added, hrows, hadded⟩ := ih
      rw [offerAll_append]
      show ∃ added, (k.offer (k.offerAll t news) new).rows = t.rows ++ added ∧ _
      simp only [hk.firstAt_concat]
      cases htaken : k.taken (k.offerAll t news) (k.key new) with
      | true =>
          have hskip : k.offer (k.offerAll t news) new = (k.offerAll t news).skip := if_pos htaken
          rw [hskip]
          exact ⟨added, hrows, by simpa using hadded⟩
      | false =>
          have hinsert : k.offer (k.offerAll t news) new = (k.offerAll t news).insert (k.row new) :=
            if_neg (Bool.eq_false_iff.mp htaken)
          have hnumber : (k.offerAll t news).nextId = t.lastId + 1 + news.length := by
            rw [Numbered.nextId, lastId_offerAll]
            omega
          rw [hinsert]
          refine ⟨added ++ [k.row new (t.lastId + 1 + news.length)], ?_, fun row => ?_⟩
          · rw [← List.append_assoc, ← hrows, ← hnumber]
            rfl
          · rw [List.mem_append, List.mem_singleton, hadded]
            constructor
            · rintro (⟨i, x, hfirst, rfl⟩ | rfl)
              · exact ⟨i, x, .inl hfirst, rfl⟩
              · exact ⟨news.length, new, .inr ⟨rfl, rfl, rfl⟩, rfl⟩
            · rintro ⟨i, x, hfirst | ⟨rfl, rfl, -⟩, rfl⟩
              · exact .inl ⟨i, x, hfirst, rfl⟩
              · exact .inr rfl

theorem length_offerAll_le (t : Numbered ρ) (news : List ν) :
    t.rows.length ≤ (k.offerAll t news).rows.length := by
  obtain ⟨added, hrows, -⟩ := hk.rows_offerAll t news
  rw [hrows, List.length_append]
  omega

/-! ## The loop

The loop counts the rows it has inserted and fails at a row whose owner is unknown. Only the table
of its kind changes on the way, so the store is always the first one with another table written into
it; this is what the induction is on. -/

/-- The loop goes on to the end if all owners are there, and fails otherwise. A row that is passed
over has an owner, for there is a row with the same key. -/
theorem foldlM_insertOne (s : Store) (t : Numbered ρ)
    (howners : ∀ x ∈ t.rows, k.knows s (k.rowKey x) = true) (news : List ν) (n : Nat) :
    news.foldlM (fun (added, s) new => do
        let (m, s) ← k.insertOne new s
        return (added + m, s)) (n, k.write s t) =
      if news.all fun new => k.knows s (k.key new) then
        .ok (n + ((k.offerAll t news).rows.length - t.rows.length), k.write s (k.offerAll t news))
      else .error (.rejected .dangling) := by
  induction news generalizing t n with
  | nil => simp [offerAll, pure, Except.pure]
  | cons new news ih =>
      have hround := hk.insertOne new (k.write s t)
      rw [hk.table_write, hk.write_write, hk.write_write, hk.knows_write] at hround
      rw [List.foldlM_cons, List.all_cons, offerAll_cons, offer]
      dsimp only
      rw [hround]
      cases htaken : k.taken t (k.key new) with
      | true =>
          obtain ⟨x, hx, hkey⟩ := taken_iff.mp htaken
          have hknown : k.knows s (k.key new) = true := hkey ▸ howners x hx
          -- the table has a row with this key, and rows in the table have owners
          rw [hknown, Bool.true_and]
          exact ih t.skip howners n
      | false =>
          cases hknown : k.knows s (k.key new) with
          | false => rfl
          | true =>
              -- the row that was inserted has an owner as well
              have hmore : ∀ x ∈ (t.insert (k.row new)).rows, k.knows s (k.rowKey x) = true := by
                intro x hx
                rcases Numbered.mem_insert.mp hx with hx | rfl
                · exact howners x hx
                · rw [hk.rowKey_row, hknown]
              refine (ih (t.insert (k.row new)) hmore (n + 1)).trans ?_
              -- the rest of the loop counts from a table that is one row longer
              have hgrow := hk.length_offerAll_le (t.insert (k.row new)) news
              have hone : (t.insert (k.row new)).rows.length = t.rows.length + 1 := by
                simp [Numbered.insert]
              have hcount : n + 1 + ((k.offerAll (t.insert (k.row new)) news).rows.length -
                  (t.insert (k.row new)).rows.length) =
                n + ((k.offerAll (t.insert (k.row new)) news).rows.length - t.rows.length) := by
                omega
              rw [hcount]
              rfl

/-- Rows that conflict neither with the old ones nor with one another are all inserted. -/
theorem insertMany_free (s : Store) (t : Numbered ρ)
    (hknown : ∀ new ∈ news, k.knows s (k.key new) = true)
    (hfree : ∀ new ∈ news, k.taken t (k.key new) = false)
    (hdistinct : news.Pairwise fun x y => k.key x ≠ k.key y) :
    (k.write s t).insertMany k.insertOne news =
      .ok (news.length, k.write s (t.insertAll (news.map k.row))) := by
  refine Store.insertMany_all (fun past => k.write s (t.insertAll (past.map k.row))) ?_
  rintro past new rest rfl
  have hnew : new ∈ past ++ new :: rest := List.mem_append_right past List.mem_cons_self
  have hnone : k.taken (t.insertAll (past.map k.row)) (k.key new) = false := by
    rw [hk.taken_insertAll, hfree new hnew, Bool.false_or, List.any_eq_false]
    intro earlier hearlier
    simpa using (List.pairwise_append.mp hdistinct).2.2 earlier hearlier new List.mem_cons_self
  rw [hk.insertOne, hk.table_write, hk.knows_write, hk.write_write, hk.write_write, hnone,
    hknown new hnew, List.map_append, Numbered.insertAll_append]
  rfl

/-- An insertion offers all rows to the table, or fails and does nothing. -/
theorem insert_eq {db : Database} (h : db.Ready) (news : List ν) :
    k.insert news db =
      if news.all fun new => k.knows db.store (k.key new) then
        (.ok ((k.offerAll (k.table db.store) news).rows.length - (k.table db.store).rows.length),
          { db with store := k.write db.store (k.offerAll (k.table db.store) news) })
      else (.error (.rejected .dangling), db) := by
  have hloop := hk.foldlM_insertOne db.store (k.table db.store) (hk.owners _ h.consistent) news 0
  rw [hk.write_table, Nat.zero_add] at hloop
  rw [hk.insert]
  cases hall : news.all fun new => k.knows db.store (k.key new) with
  | true =>
      rw [hall] at hloop
      exact Database.transact_ok h.isOpen hloop
  | false =>
      rw [hall] at hloop
      exact Database.transact_error h.isOpen hloop

/-- When an insertion succeeds, and what it answers and leaves behind. -/
theorem insert_eq_ok_iff {db db' : Database} (h : db.Ready) {n : Nat} :
    k.insert news db = (.ok n, db') ↔
      (∀ new ∈ news, k.knows db.store (k.key new) = true) ∧
        n = (k.offerAll (k.table db.store) news).rows.length - (k.table db.store).rows.length ∧
        db' = { db with store := k.write db.store (k.offerAll (k.table db.store) news) } := by
  rw [hk.insert_eq h, ← List.all_eq_true]
  cases news.all fun new => k.knows db.store (k.key new) with
  | true =>
      constructor
      · intro hrun
        cases hrun
        exact ⟨rfl, rfl, rfl⟩
      · rintro ⟨-, rfl, rfl⟩
        rfl
  | false =>
      constructor
      · intro hrun
        cases hrun
      · rintro ⟨hfalse, -⟩
        cases hfalse

/-- After an insertion the database is as fit for further calls as before. -/
theorem ready {db db' : Database} (h : db.Ready) {n : Nat}
    (hrun : k.insert news db = (.ok n, db')) :
    db'.Ready := by
  have hedits := hk.edits news db
  rw [hrun] at hedits
  refine ⟨?_, hedits.consistent h.consistent⟩
  rw [((hk.insert_eq_ok_iff h).mp hrun).2.2]
  exact h.isOpen

omit hk

end Lawful

/-! ## What an insertion does

The answer to a caller who inserts rows: which rows are there afterwards and under which numbers,
why nothing was inserted, and that batches can be joined and repeated. -/

/-- What it has done to insert rows. -/
structure Inserted (k : OfferKind ν ρ κ) (news : List ν) (n : Nat) (db db' : Database) : Prop where
  isOpen : db'.isOpen = db.isOpen
  /-- Nothing but the table has changed. -/
  outside : Store.SameOutside [k.part] db.store db'.store
  /-- A number was given out for every row, be it gained or passed over. -/
  lastId : (k.table db'.store).lastId = (k.table db.store).lastId + news.length
  /-- The numbers go upwards, from the rows that were there to those that were gained. -/
  ascending : ((k.table db'.store).rows.map k.id).Pairwise (· < ·)
  /-- Behind the rows that were there stand the first ones for their keys, and they were counted. -/
  gained : ∃ added, (k.table db'.store).rows = (k.table db.store).rows ++ added ∧ added.length = n ∧
    ∀ row, row ∈ added ↔ ∃ i new, k.FirstAt (k.table db.store) news i new ∧
      row = k.row new ((k.table db.store).lastId + 1 + i)

/-- What it means that rows are inserted in bulk, passing over those whose keys are taken. -/
structure InsertsFirst (k : OfferKind ν ρ κ) (db : Database) (news : List ν) : Prop where
  fails_iff : (∃ e db', k.insert news db = (.error e, db')) ↔
    ∃ new ∈ news, k.knows db.store (k.key new) = false
  refused : ∀ e db', k.insert news db = (.error e, db') → e = .rejected .dangling ∧ db' = db
  inserted : ∀ n db', k.insert news db = (.ok n, db') → k.Inserted news n db db'
  /-- It makes no difference whether rows are inserted in one batch or in two. -/
  append : ∀ more n db'', k.insert (news ++ more) db = (.ok n, db'') ↔
    ∃ n₁ db' n₂, k.insert news db = (.ok n₁, db') ∧ k.insert more db' = (.ok n₂, db'') ∧ n = n₁ + n₂
  /-- The second time there is nothing left to gain. -/
  again : ∀ n db', k.insert news db = (.ok n, db') → ∃ db'', k.insert news db' = (.ok 0, db'') ∧
    (k.table db''.store).rows = (k.table db'.store).rows

namespace Lawful

variable {db db' : Database} {n : Nat} (hk : k.Lawful)

include hk

/-- An insertion that succeeds has inserted the first row for each key that was free. -/
theorem inserted (h : db.Ready) (hrun : k.insert news db = (.ok n, db')) :
    k.Inserted news n db db' := by
  have h' := hk.ready h hrun
  obtain ⟨-, rfl, rfl⟩ := (hk.insert_eq_ok_iff h).mp hrun
  refine ⟨rfl, hk.outside _ _, ?_, (hk.numbers _ h'.consistent).ascending, ?_⟩
  · rw [hk.table_write, lastId_offerAll]
  · obtain ⟨added, hrows, hadded⟩ := hk.rows_offerAll (k.table db.store) news
    refine ⟨added, ?_, ?_, hadded⟩
    · rw [hk.table_write, hrows]
    · rw [hrows, List.length_append, Nat.add_sub_cancel_left]

/-- One batch or two: the rows, the numbers and the count come out the same. -/
theorem append_iff (h : db.Ready) {db'' : Database} :
    k.insert (news ++ more) db = (.ok n, db'') ↔ ∃ n₁ db' n₂,
      k.insert news db = (.ok n₁, db') ∧ k.insert more db' = (.ok n₂, db'') ∧ n = n₁ + n₂ := by
  -- after the first batch the second one finds what it would have found in the middle
  have hsecond : ∀ {n₁ db'}, k.insert news db = (.ok n₁, db') → ∀ n₂,
      (k.insert more db' = (.ok n₂, db'') ↔
        (∀ new ∈ more, k.knows db.store (k.key new) = true) ∧
          n₂ = (k.offerAll (k.table db.store) (news ++ more)).rows.length -
            (k.offerAll (k.table db.store) news).rows.length ∧
          db'' = { db with store := k.write db.store (k.offerAll (k.table db.store) (news ++ more)) }) := by
    intro n₁ db' hrun n₂
    have h' := hk.ready h hrun
    rw [hk.insert_eq_ok_iff h']
    obtain ⟨-, -, rfl⟩ := (hk.insert_eq_ok_iff h).mp hrun
    simp only [hk.table_write, hk.write_write, hk.knows_write, offerAll_append]
  have hgrow : (k.table db.store).rows.length ≤ (k.offerAll (k.table db.store) news).rows.length ∧
      (k.offerAll (k.table db.store) news).rows.length ≤
        (k.offerAll (k.table db.store) (news ++ more)).rows.length := by
    rw [offerAll_append]
    exact ⟨hk.length_offerAll_le _ _, hk.length_offerAll_le _ _⟩
  rw [hk.insert_eq_ok_iff h]
  constructor
  · rintro ⟨hall, rfl, rfl⟩
    obtain ⟨hnews, hmore⟩ := List.forall_mem_append.mp hall
    have hrun := (hk.insert_eq_ok_iff h).mpr ⟨hnews, rfl, rfl⟩
    refine ⟨_, _, _, hrun, (hsecond hrun _).mpr ⟨hmore, rfl, rfl⟩, ?_⟩
    omega
  · rintro ⟨n₁, db', n₂, hrun, hrest, rfl⟩
    obtain ⟨hmore, rfl, rfl⟩ := (hsecond hrun n₂).mp hrest
    obtain ⟨hnews, rfl, -⟩ := (hk.insert_eq_ok_iff h).mp hrun
    refine ⟨List.forall_mem_append.mpr ⟨hnews, hmore⟩, ?_, rfl⟩
    omega

/-- **Rows are inserted in bulk**, first come first served. -/
theorem inserts_first (h : db.Ready) (news : List ν) : k.InsertsFirst db news where
  fails_iff := by
    have hunknown : (news.all fun new => k.knows db.store (k.key new)) = false ↔
        ∃ new ∈ news, k.knows db.store (k.key new) = false := by
      simp
    rw [← hunknown, hk.insert_eq h]
    cases news.all fun new => k.knows db.store (k.key new) with
    | true =>
        constructor
        · rintro ⟨_, _, hrun⟩
          cases hrun
        · intro hfalse
          cases hfalse
    | false => exact ⟨fun _ => rfl, fun _ => ⟨_, _, rfl⟩⟩
  refused e db' hrun := by
    rw [hk.insert_eq h] at hrun
    split at hrun
    · cases hrun
    · cases hrun
      exact ⟨rfl, rfl⟩
  inserted n db' hrun := hk.inserted h hrun
  append more n db'' := hk.append_iff h
  again n db' hrun := by
    have h' := hk.ready h hrun
    obtain ⟨hall, -, rfl⟩ := (hk.insert_eq_ok_iff h).mp hrun
    -- every key that is offered again was taken the first time
    have hsame : (k.offerAll (k.offerAll (k.table db.store) news) news).rows =
        (k.offerAll (k.table db.store) news).rows := by
      refine hk.rows_offerAll_of_taken fun new hnew => ?_
      have hoffered : news.any (k.key · == k.key new) = true :=
        List.any_eq_true.mpr ⟨new, hnew, beq_self_eq_true _⟩
      rw [hk.taken_offerAll, hoffered, Bool.or_true]
    refine ⟨_, (hk.insert_eq_ok_iff h').mpr ⟨?_, ?_, rfl⟩, ?_⟩
    · intro new hnew
      rw [hk.knows_write]
      exact hall new hnew
    · rw [hk.table_write, hsame, Nat.sub_self]
    · rw [hk.table_write, hk.table_write, hsame]

end Lawful
end OfferKind
end GatewayRegistry
