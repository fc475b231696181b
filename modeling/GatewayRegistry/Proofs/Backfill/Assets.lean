import GatewayRegistry.Proofs.Backfill.Due
import GatewayRegistry.Proofs.Backfill.Rerun
import GatewayRegistry.Proofs.Store.Offers

/-!
# What a backfill gives to assets

An asset misses `sftp` if its platform has it and the asset itself has `ssh` but no `sftp`
(`Store.Misses`). The ids of the assets are handled batch by batch, and each batch asks for the
protocols `ssh` of its assets again. What a batch inserts changes neither these nor what is inserted
for the other assets, so it does not matter where the ids are cut: the rows and their numbers are
those of one transaction for all of them (`Backfill.foldlM_assetBatch`, `Backfill.assetsAtOnce_ok`).
-/

namespace GatewayRegistry

namespace Store

variable {s : Store} {assetId : String}

/-! ## What assets miss

For each asset that misses something, one row is due, and it follows from the one `ssh` of the
asset. The ids are sorted and so is every plan, so a plan can be written as a list (`sftpsFor`)
instead of being described by its members. -/

/-- An asset that is to be given `sftp`, and its `ssh`. -/
structure Misses (s : Store) (a : Asset) (ssh : AssetProtocol) : Prop where
  stored : a ∈ s.assets
  platform : ∃ p ∈ s.platformProtocols.rows, p.platformId = a.platformId ∧ p.name = "sftp"
  sshStored : ssh ∈ s.assetProtocols.rows
  sshAsset : ssh.assetId = a.id
  sshName : ssh.name = "ssh"
  lacking : ∀ p ∈ s.assetProtocols.rows, p.assetId = a.id → p.name ≠ "sftp"

/-- The protocol `sftp` beside the protocol `ssh` of an asset, if it has one. -/
def sftpFor? (s : Store) (assetId : String) : Option NewAssetProtocol :=
  (s.assetProtocols.rows.find? fun p => decide ((p.assetId, p.name) = (assetId, "ssh"))).map fun p =>
    ⟨assetId, "sftp", p.port⟩

def sftpsFor (s : Store) (ids : List String) : List NewAssetProtocol := ids.filterMap s.sftpFor?

/-- The ids are listed in order, each of them once. -/
theorem assetsMissingSftp_ascending (hs : s.Consistent) :
    s.assetsMissingSftp.Pairwise fun a b => a < b := by
  have hids : UniqueBy id ((s.assets.filter s.missesSftp).map (·.id)) := by
    unfold UniqueBy
    rw [List.map_id]
    exact hs.assetIds.filter s.missesSftp
  exact mergeSort_ascending hids

/-- The row for an asset has the port of its own `ssh`. -/
theorem sftpFor?_eq_some_iff (hs : s.Consistent) {new : NewAssetProtocol} :
    s.sftpFor? assetId = some new ↔
      ∃ p ∈ s.assetProtocols.rows, p.name = "ssh" ∧ p.assetId = assetId ∧
        new = ⟨p.assetId, "sftp", p.port⟩ := by
  unfold sftpFor?
  rw [Option.map_eq_some_iff]
  constructor
  · rintro ⟨p, hp, rfl⟩
    obtain ⟨hmem, hkey⟩ := hs.assetOffers.find?_eq_some_iff.mp hp
    obtain ⟨rfl, hname⟩ := Prod.mk.inj hkey
    exact ⟨p, hmem, hname, rfl, rfl⟩
  · rintro ⟨p, hmem, hname, rfl, rfl⟩
    exact ⟨p, hs.assetOffers.find?_eq_some_iff.mpr ⟨hmem, by rw [hname]⟩, rfl⟩

theorem mem_sftpsFor (hs : s.Consistent) {ids : List String} {new : NewAssetProtocol} :
    new ∈ s.sftpsFor ids ↔
      ∃ p ∈ s.assetProtocols.rows, p.name = "ssh" ∧ p.assetId ∈ ids ∧
        new = ⟨p.assetId, "sftp", p.port⟩ := by
  unfold sftpsFor
  rw [List.mem_filterMap]
  simp only [sftpFor?_eq_some_iff hs]
  constructor
  · rintro ⟨id, hid, p, hp, hname, rfl, rfl⟩
    exact ⟨p, hp, hname, hid, rfl⟩
  · rintro ⟨p, hp, hname, hid, rfl⟩
    exact ⟨p.assetId, hid, p, hp, hname, rfl, rfl⟩

/-- What is inserted for the assets that are asked for is what they miss. -/
theorem mem_sftpsFor_missing (hs : s.Consistent) {new : NewAssetProtocol} :
    new ∈ s.sftpsFor s.assetsMissingSftp ↔
      ∃ a ssh, s.Misses a ssh ∧ new = ⟨a.id, "sftp", ssh.port⟩ := by
  rw [mem_sftpsFor hs]
  constructor
  · rintro ⟨p, hp, hname, hid, rfl⟩
    obtain ⟨a, ha, hplatform, hlacks, hasset⟩ := mem_assetsMissingSftp.mp hid
    -- to lack `sftp` is said by the look-up here and row by row there
    rw [← Bool.not_eq_true, assetOffers_iff] at hlacks
    exact ⟨a, p, ⟨ha, platformOffers_iff.mp hplatform, hp, hasset.symm, hname,
      fun q hq hqa hsftp => hlacks ⟨q, hq, hqa, hsftp⟩⟩, by rw [hasset]⟩
  · rintro ⟨a, ssh, hmisses, rfl⟩
    refine ⟨ssh, hmisses.sshStored, hmisses.sshName, ?_, by rw [hmisses.sshAsset]⟩
    have hlacks : s.assetOffers a.id "sftp" = false := by
      rw [← Bool.not_eq_true, assetOffers_iff]
      rintro ⟨q, hq, hqa, hsftp⟩
      exact hmisses.lacking q hq hqa hsftp
    exact mem_assetsMissingSftp.mpr
      ⟨a, hmisses.stored, platformOffers_iff.mpr hmisses.platform, hlacks, hmisses.sshAsset.symm⟩

theorem sftpsFor_ascending (hs : s.Consistent) {ids : List String}
    (h : ids.Pairwise fun a b => a < b) :
    (s.sftpsFor ids).Pairwise fun x y => x.assetId < y.assetId := by
  refine List.Pairwise.filterMap _ ?_ h
  intro a b hab x hx y hy
  obtain ⟨p, _, _, rfl, rfl⟩ := (sftpFor?_eq_some_iff hs).mp hx
  obtain ⟨q, _, _, rfl, rfl⟩ := (sftpFor?_eq_some_iff hs).mp hy
  exact hab

/-- The plan for some assets follows their order. -/
theorem assetPlan_eq (hs : s.Consistent) {ids : List String} (h : ids.Pairwise fun a b => a < b) :
    Backfill.assetPlan (s.sshProtocolsOf ids) = s.sftpsFor ids := by
  have hplan := Backfill.assetPlan_ascending (s.sshProtocolsOf ids)
  have hnews := sftpsFor_ascending hs h
  have hunique : ∀ p ∈ s.sshProtocolsOf ids, ∀ q ∈ s.sshProtocolsOf ids,
      p.assetId = q.assetId → p = q := by
    intro p hp q hq hid
    obtain ⟨hp, hname, -⟩ := mem_sshProtocolsOf.mp hp
    obtain ⟨hq, hname', -⟩ := mem_sshProtocolsOf.mp hq
    exact hs.assetOffers.eq_of_mem hp hq (by rw [hid, hname, hname'])
  have hsame : ∀ new, new ∈ Backfill.assetPlan (s.sshProtocolsOf ids) ↔ new ∈ s.sftpsFor ids := by
    intro new
    simp only [Backfill.mem_assetPlan_iff hunique, mem_sshProtocolsOf, mem_sftpsFor hs, and_assoc]
  -- a list in strictly ascending order is determined by what it holds
  refine List.Perm.eq_of_pairwise ?_ hplan hnews ((List.perm_ext_iff_of_nodup ?_ ?_).mpr hsame)
  · intro x y _ _ hxy hyx
    exact absurd hyx (String.lt_asymm hxy)
  · exact hplan.imp fun hlt heq => String.ne_of_lt hlt (congrArg _ heq)
  · exact hnews.imp fun hlt heq => String.ne_of_lt hlt (congrArg _ heq)

/-! ## Rows without conflicts -/

/-- The rows that new protocols become under the numbers from `n` on. -/
def assetRowsFrom (n : Int) (news : List NewAssetProtocol) : List AssetProtocol :=
  news.mapIdx fun i new => new.row (n + i)

/-- The store with new protocols of assets behind the others. -/
def withAssetProtocols (s : Store) (news : List NewAssetProtocol) : Store :=
  { s with assetProtocols := s.assetProtocols.insertAll (news.map NewAssetProtocol.row) }

variable {news done : List NewAssetProtocol} {x : NewAssetProtocol}

@[simp] theorem length_assetRowsFrom (n : Int) (news : List NewAssetProtocol) :
    (assetRowsFrom n news).length = news.length := List.length_mapIdx

@[simp] theorem map_entry_assetRowsFrom (n : Int) (news : List NewAssetProtocol) :
    (assetRowsFrom n news).map (·.entry) = news := by
  apply List.ext_getElem
  · simp [assetRowsFrom]
  · intro i _ _
    simp [assetRowsFrom, AssetProtocol.entry, NewAssetProtocol.row]

theorem map_id_assetRowsFrom (n : Int) (news : List NewAssetProtocol) :
    (assetRowsFrom n news).map (·.id) = (List.range news.length).map fun i : Nat => n + i := by
  apply List.ext_getElem
  · simp [assetRowsFrom]
  · intro i _ _
    simp [assetRowsFrom, NewAssetProtocol.row]

theorem entry_mem_of_mem_assetRowsFrom {n : Int} {row : AssetProtocol}
    (h : row ∈ assetRowsFrom n news) :
    row.entry ∈ news := by
  rw [← map_entry_assetRowsFrom n news]
  exact List.mem_map_of_mem h

theorem withAssetProtocols_eq (s : Store) (news : List NewAssetProtocol) :
    s.withAssetProtocols news =
      { s with assetProtocols :=
        { rows := s.assetProtocols.rows ++ assetRowsFrom s.assetProtocols.nextId news
          lastId := s.assetProtocols.lastId + news.length } } := by
  have hrows : ((news.map NewAssetProtocol.row).mapIdx fun i row => row (s.assetProtocols.nextId + i)) =
      assetRowsFrom s.assetProtocols.nextId news := by
    apply List.ext_getElem <;> simp [assetRowsFrom]
  rw [withAssetProtocols, Numbered.insertAll_eq, hrows, List.length_map]

/-- Rows that conflict neither with the old ones nor with one another are all inserted. -/
theorem insertMany_assetProtocols (hasset : ∀ x ∈ news, ∃ a ∈ s.assets, a.id = x.assetId)
    (hlacking : ∀ x ∈ news, s.assetOffers x.assetId x.name = false)
    (hdistinct : (done ++ news).Pairwise fun x y => x.assetId ≠ y.assetId) :
    (s.withAssetProtocols done).insertMany insertAssetProtocol news =
      .ok (news.length, s.withAssetProtocols (done ++ news)) := by
  obtain ⟨-, hnews, hother⟩ := List.pairwise_append.mp hdistinct
  unfold withAssetProtocols
  rw [List.map_append, Numbered.insertAll_append]
  refine OfferKind.assets_lawful.insertMany_free s
    (s.assetProtocols.insertAll (done.map NewAssetProtocol.row)) ?_ ?_ ?_
  · exact fun x hx => hasAsset_iff.mpr (hasset x hx)
  · intro x hx
    refine (OfferKind.assets_lawful.taken_insertAll s.assetProtocols done (x.assetId, x.name)).trans ?_
    rw [OfferKind.taken_assets, hlacking x hx, Bool.false_or, List.any_eq_false]
    intro y hy hkey
    -- two rows with one key would be for one asset
    obtain ⟨hid, -⟩ : y.assetId = x.assetId ∧ y.name = x.name := by
      simpa [OfferKind.assets] using hkey
    exact hother y hy x hx hid
  · exact hnews.imp fun hne hkey => hne (congrArg Prod.fst hkey)

/-! ## Some of the assets -/

def supplied (s : Store) (ids : List String) : Store := s.withAssetProtocols (s.sftpsFor ids)

/-- The protocols `ssh` are the same after some assets were given `sftp`. -/
theorem sshProtocolsOf_supplied (hs : s.Consistent) (given ids : List String) :
    (s.supplied given).sshProtocolsOf ids = s.sshProtocolsOf ids := by
  unfold supplied sshProtocolsOf
  rw [withAssetProtocols_eq, List.filter_append]
  have hnone : (assetRowsFrom s.assetProtocols.nextId (s.sftpsFor given)).filter
      (fun p => p.name == "ssh" && ids.contains p.assetId) = [] := by
    rw [List.filter_eq_nil_iff]
    intro row hrow
    obtain ⟨p, _, _, _, hentry⟩ := (mem_sftpsFor hs).mp (entry_mem_of_mem_assetRowsFrom hrow)
    have hname : row.name = "sftp" := congrArg NewAssetProtocol.name hentry
    simp [hname]
  rw [hnone, List.append_nil]

/-- To give `sftp` to more of the assets that miss it is to insert all that is planned for them. -/
theorem insertMany_supplied (hs : s.Consistent) (given : List String) {ids : List String}
    (hascending : (given ++ ids).Pairwise fun a b => a < b) (hmissing : ids ⊆ s.assetsMissingSftp) :
    (s.supplied given).insertMany insertAssetProtocol
        (Backfill.assetPlan ((s.supplied given).sshProtocolsOf ids)) =
      .ok ((s.sftpsFor ids).length, s.supplied (given ++ ids)) := by
  have hids := (List.pairwise_append.mp hascending).2.1
  -- what is due for two batches is due for one and for the other
  have hmore : s.sftpsFor (given ++ ids) = s.sftpsFor given ++ s.sftpsFor ids := List.filterMap_append
  have hdistinct := sftpsFor_ascending hs hascending
  rw [hmore] at hdistinct
  rw [sshProtocolsOf_supplied hs, assetPlan_eq hs hids]
  unfold supplied
  rw [hmore]
  refine insertMany_assetProtocols ?_ ?_ (hdistinct.imp String.ne_of_lt)
  · intro x hx
    obtain ⟨p, hp, _, _, rfl⟩ := (mem_sftpsFor hs).mp hx
    exact hs.offeringAssets p hp
  · intro x hx
    obtain ⟨p, _, _, hid, rfl⟩ := (mem_sftpsFor hs).mp hx
    obtain ⟨a, _, _, hlacks, hasset⟩ := mem_assetsMissingSftp.mp (hmissing hid)
    rw [← hasset]
    exact hlacks

end Store

/-! ## Batches -/

namespace Backfill

variable {db : Database}

/-- Give `sftp` to the assets that miss it, in one transaction for all of them. -/
def assetsAtOnce : Database.Call Nat :=
  Database.transact fun s =>
    s.insertMany Store.insertAssetProtocol (assetPlan (s.sshProtocolsOf s.assetsMissingSftp))

theorem assetBatch_ok (h : db.Ready) {given ids : List String}
    (hascending : (given ++ ids).Pairwise fun a b => a < b)
    (hmissing : ids ⊆ db.store.assetsMissingSftp) :
    assetBatch ids { db with store := db.store.supplied given } =
      (.ok (db.store.sftpsFor ids).length, { db with store := db.store.supplied (given ++ ids) }) := by
  have hinsert := Store.insertMany_supplied h.consistent given hascending hmissing
  -- the question is spared where there is nothing to ask about
  have hask : Database.sshProtocolsOf ids { db with store := db.store.supplied given } =
      (.ok ((db.store.supplied given).sshProtocolsOf ids), { db with store := db.store.supplied given }) := by
    unfold Database.sshProtocolsOf
    split
    · next hempty =>
        have hnone : (db.store.supplied given).sshProtocolsOf [] = [] := by simp [Store.sshProtocolsOf]
        rw [List.isEmpty_iff.mp hempty, hnone]
        rfl
    · exact Database.query_ok h.isOpen rfl
  unfold assetBatch
  rw [call_bind_ok hask]
  exact Database.transact_ok h.isOpen hinsert

/-- However the ids are cut into batches, what comes out is what is there without cuts. -/
theorem foldlM_assetBatch (h : db.Ready) (batches : List (List String)) (given : List String)
    (hascending : (given ++ batches.flatten).Pairwise fun a b => a < b)
    (hmissing : batches.flatten ⊆ db.store.assetsMissingSftp) (added : Nat) :
    (batches.foldlM (fun added ids => return added + (← assetBatch ids)) added : Database.Call Nat)
        { db with store := db.store.supplied given } =
      (.ok (added + (db.store.sftpsFor batches.flatten).length),
        { db with store := db.store.supplied (given ++ batches.flatten) }) := by
  -- the store before each batch is the first one, supplied with what the ids before it are given
  induction batches generalizing given added with
  | nil =>
      rw [List.flatten_nil, List.append_nil]
      rfl
  | cons ids rest ih =>
      rw [List.flatten_cons] at hascending hmissing ⊢
      rw [← List.append_assoc] at hascending ⊢
      have hfirst := (List.pairwise_append.mp hascending).1
      obtain ⟨hids, hrest⟩ := List.append_subset.mp hmissing
      have hbatch := assetBatch_ok h hfirst hids
      have hmore : db.store.sftpsFor (ids ++ rest.flatten) =
          db.store.sftpsFor ids ++ db.store.sftpsFor rest.flatten := List.filterMap_append
      have hround : (do return added + (← assetBatch ids) : Database.Call Nat)
          { db with store := db.store.supplied given } =
            (.ok (added + (db.store.sftpsFor ids).length),
              { db with store := db.store.supplied (given ++ ids) }) :=
        call_bind_ok hbatch
      rw [List.foldlM_cons, call_bind_ok hround, ih _ hascending hrest, hmore, List.length_append,
        Nat.add_assoc]

theorem assets_ok (h : db.Ready) :
    assets db = (.ok (db.store.sftpsFor db.store.assetsMissingSftp).length,
      { db with store := db.store.supplied db.store.assetsMissingSftp }) := by
  have hask : Database.assetsMissingSftp db = (.ok db.store.assetsMissingSftp, db) :=
    Database.query_ok h.isOpen rfl
  have hflatten := flatten_chunks batchSize db.store.assetsMissingSftp
  have hascending := Store.assetsMissingSftp_ascending h.consistent
  rw [← hflatten] at hascending
  have hrun := foldlM_assetBatch h (chunks batchSize db.store.assetsMissingSftp) [] hascending
  rw [hflatten] at hrun
  unfold assets
  rw [call_bind_ok hask, ← Nat.zero_add (db.store.sftpsFor _).length]
  exact hrun (List.Subset.refl _) 0

/-- All assets in one transaction. -/
theorem assetsAtOnce_ok (h : db.Ready) :
    assetsAtOnce db = (.ok (db.store.sftpsFor db.store.assetsMissingSftp).length,
      { db with store := db.store.supplied db.store.assetsMissingSftp }) := by
  have hascending := Store.assetsMissingSftp_ascending h.consistent
  have hinsert := Store.insertMany_supplied h.consistent [] hascending (List.Subset.refl _)
  exact Database.transact_ok h.isOpen hinsert

/-- On open connections the assets that miss `sftp`, and no others, are given one row each, on the
port of their own `ssh` and in the order of their ids; nothing else changes, and the number of rows
is the answer. One transaction for all of them would do the same. -/
theorem assets_exact (d : Deployment) (h : d.Reachable) (hopen : d.database.isOpen = true) :
    let s := d.database.store
    ∃ added : List AssetProtocol,
      assets d.database = (.ok added.length, { d.database with store := { s with assetProtocols := {
        rows := s.assetProtocols.rows ++ added
        lastId := s.assetProtocols.lastId + added.length } } }) ∧
      assetsAtOnce d.database = assets d.database ∧
      (∀ new, new ∈ added.map (·.entry) ↔ ∃ a ssh, s.Misses a ssh ∧ new = ⟨a.id, "sftp", ssh.port⟩) ∧
      added.Pairwise (fun row next => row.assetId < next.assetId) ∧
      added.map (·.id) = (List.range added.length).map fun i : Nat => s.assetProtocols.lastId + 1 + i := by
  intro s
  have hs : s.Consistent := h.consistent
  have hready : d.database.Ready := ⟨hopen, hs⟩
  refine ⟨Store.assetRowsFrom s.assetProtocols.nextId (s.sftpsFor s.assetsMissingSftp), ?_, ?_, ?_, ?_, ?_⟩
  · rw [assets_ok hready, Store.supplied, Store.withAssetProtocols_eq, Store.length_assetRowsFrom]
  -- both lead to the same store
  · rw [assets_ok hready, assetsAtOnce_ok hready]
  · intro new
    rw [Store.map_entry_assetRowsFrom, Store.mem_sftpsFor_missing hs]
  · have hascending := Store.sftpsFor_ascending hs (Store.assetsMissingSftp_ascending hs)
    rw [← Store.map_entry_assetRowsFrom s.assetProtocols.nextId (s.sftpsFor _), List.pairwise_map]
      at hascending
    exact hascending
  · rw [Store.length_assetRowsFrom, Store.map_id_assetRowsFrom]
    rfl

/-- Two assets with `ssh` on a platform that has `sftp`, stored against the order of their ids; one
beside them without `ssh`; and one on a platform without `sftp`. -/
def mixedFleet : Deployment :=
  ({} : Deployment).after [
    ⟨_, .store (.createPlatform "Linux" "linux")⟩,
    ⟨_, .store (.createPlatform "Windows" "windows")⟩,
    ⟨_, .store (.insertPlatformProtocols [⟨1, "sftp", 22, false, false, true, true, ""⟩])⟩,
    ⟨_, .store (.createAsset "b" "Backup" 1)⟩,
    ⟨_, .store (.createAsset "a" "Archive" 1)⟩,
    ⟨_, .store (.createAsset "bare" "Bare server" 1)⟩,
    ⟨_, .store (.createAsset "far" "Far server" 2)⟩,
    ⟨_, .store (.insertAssetProtocols [⟨"b", "ssh", 2222⟩, ⟨"a", "ssh", 22⟩, ⟨"far", "ssh", 22⟩])⟩]

theorem assets_exact_of_mixedFleet :
    ∃ added : List AssetProtocol, (assets mixedFleet.database).1 = .ok added.length ∧
      ⟨"a", "sftp", 22⟩ ∈ added.map AssetProtocol.entry ∧
      ⟨"b", "sftp", 2222⟩ ∈ added.map AssetProtocol.entry ∧
      ∀ row ∈ added, row.assetId ≠ "bare" ∧ row.assetId ≠ "far" := by
  obtain ⟨added, hrun, -, hadded, -⟩ := assets_exact mixedFleet (.after _) (by decide +kernel)
  refine ⟨added, by rw [hrun], ?_, ?_, fun row hrow => ?_⟩
  · refine (hadded _).mpr ⟨⟨"a", "Archive", 1⟩, ⟨2, "a", "ssh", 22⟩, ?_, rfl⟩
    constructor <;> decide +kernel
  · refine (hadded _).mpr ⟨⟨"b", "Backup", 1⟩, ⟨1, "b", "ssh", 2222⟩, ?_, rfl⟩
    constructor <;> decide +kernel
  · obtain ⟨a, ssh, hmisses, hentry⟩ := (hadded _).mp (List.mem_map_of_mem hrow)
    have hasset : row.assetId = a.id := congrArg NewAssetProtocol.assetId hentry
    rw [hasset]
    constructor
    · intro hbare
      have hnone : ∀ p ∈ mixedFleet.database.store.assetProtocols.rows, p.assetId ≠ "bare" := by
        decide +kernel
      exact hnone ssh hmisses.sshStored (hmisses.sshAsset.trans hbare)
    · intro hfar
      have hplatform : ∀ b ∈ mixedFleet.database.store.assets, b.id = "far" → b.platformId = 2 := by
        decide +kernel
      have hnone : ∀ p ∈ mixedFleet.database.store.platformProtocols.rows, p.platformId ≠ 2 := by
        decide +kernel
      obtain ⟨p, hp, hid, -⟩ := hmisses.platform
      exact hnone p hp (hid.trans (hplatform a hmisses.stored hfar))

end Backfill
end GatewayRegistry
