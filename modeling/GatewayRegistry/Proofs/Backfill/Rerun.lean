import GatewayRegistry.Proofs.Concurrent.Backfill

/-!
# Running a backfill again

A backfill leaves a store in which nothing is due (`Store.Settled`), though not one in which there
is nothing to look at: platforms whose options do not allow `sftp` are candidates each time, and
assets without `ssh` are listed each time. No row is planned for them, and so nothing is inserted
and no number is given out (`Backfill.run_of_settled`).
-/

namespace GatewayRegistry

/-! ## Empty plans -/

namespace Store.Settled

variable {s : Store}

theorem platformPlan_eq_nil (h : s.Settled) : Backfill.platformPlan s.sftpCandidates = [] :=
  List.eq_nil_iff_forall_not_mem.mpr fun _ hq => h.platform _ (due_of_mem_platformPlan hq)

theorem assetPlan_eq_nil (h : s.Settled) {ids : List String} (hids : ids ⊆ s.assetsMissingSftp) :
    Backfill.assetPlan (s.sshProtocolsOf ids) = [] := by
  refine List.eq_nil_iff_forall_not_mem.mpr fun x hx => ?_
  obtain ⟨p, hp, rfl⟩ := Backfill.mem_assetPlan hx
  obtain ⟨hp, hname, hid⟩ := mem_sshProtocolsOf.mp hp
  obtain ⟨a, ha, hserved, hlacks, hasset⟩ := mem_assetsMissingSftp.mp (hids hid)
  exact h.asset _ ⟨a, ha, .inl hserved, hlacks, p, hp, hname, hasset.symm, rfl⟩

end Store.Settled

namespace Backfill

variable {db : Database}

/-! ## Nothing to do -/

theorem platforms_of_settled (hopen : db.isOpen = true) (h : db.store.Settled) :
    platforms db = (.ok [], db) := by
  have hask : Database.sftpCandidates db = (.ok db.store.sftpCandidates, db) :=
    Database.query_ok hopen rfl
  unfold platforms
  rw [call_bind_ok hask, h.platformPlan_eq_nil]
  rfl

theorem assetBatch_of_settled (hopen : db.isOpen = true) (h : db.store.Settled) {ids : List String}
    (hids : ids ⊆ db.store.assetsMissingSftp) : assetBatch ids db = (.ok 0, db) := by
  have hssh : ∃ ssh, Database.sshProtocolsOf ids db = (.ok ssh, db) ∧ assetPlan ssh = [] := by
    unfold Database.sshProtocolsOf
    split
    · exact ⟨[], rfl, rfl⟩
    · exact ⟨_, Database.query_ok hopen rfl, h.assetPlan_eq_nil hids⟩
  obtain ⟨ssh, hask, hnone⟩ := hssh
  unfold assetBatch
  rw [call_bind_ok hask, hnone]
  exact Database.transact_ok hopen rfl

/-- All batches are gone through, and none changes anything. -/
theorem assets_of_settled (hopen : db.isOpen = true) (h : db.store.Settled) :
    assets db = (.ok 0, db) := by
  have hask : Database.assetsMissingSftp db = (.ok db.store.assetsMissingSftp, db) :=
    Database.query_ok hopen rfl
  -- after each batch the count is still zero and the database the same
  have hround : ∀ ids ∈ chunks batchSize db.store.assetsMissingSftp, ∀ added db', added = 0 ∧ db' = db →
      Ensures (do return added + (← assetBatch ids)) db' fun added db' => added = 0 ∧ db' = db := by
    rintro ids hids added db' ⟨hadded, hdb⟩
    have hmissing : ids ⊆ db.store.assetsMissingSftp := by
      rw [← flatten_chunks batchSize db.store.assetsMissingSftp]
      exact fun id hid => List.mem_flatten.mpr ⟨ids, hids, hid⟩
    rw [hadded, hdb]
    exact ⟨0, db, call_bind_ok (assetBatch_of_settled hopen h hmissing), rfl, rfl⟩
  obtain ⟨added, db', hrun, hadded, hdb⟩ := Ensures.foldlM hround ⟨rfl, rfl⟩
  rw [hadded, hdb] at hrun
  unfold assets
  rw [call_bind_ok hask]
  exact hrun

/-- Where nothing is due, a backfill reports nothing and does not even give out a number. -/
theorem run_of_settled (hopen : db.isOpen = true) (h : db.store.Settled) :
    run db = (.ok ⟨[], 0⟩, db) := by
  unfold run
  rw [call_bind_ok (platforms_of_settled hopen h), call_bind_ok (assets_of_settled hopen h)]
  rfl

/-- A backfill does not fail, whatever is stored, and to run it again right away reports nothing and
leaves the store as it is, numbers included. -/
theorem run_again (hopen : db.isOpen = true) :
    ∃ report after, run db = (.ok report, after) ∧ after.isOpen = true ∧
      run after = (.ok ⟨[], 0⟩, after) := by
  obtain ⟨report, s, _, hrun, _, _, _, hsettled⟩ := (Job.backfill_safe db.store).run hopen
  rw [Job.run_backfill] at hrun
  exact ⟨report, { db with store := s }, hrun, hopen, run_of_settled hopen hsettled⟩

/-- A platform that is to be given `sftp`, with an asset that has no `ssh`; a platform whose options
cannot be read; and one that serves the gateways themselves. -/
def unevenFleet : Deployment :=
  ({} : Deployment).after [
    ⟨_, .store (.createPlatform "Linux" "linux")⟩,
    ⟨_, .store (.createPlatform "Broken" "linux")⟩,
    ⟨_, .store (.createPlatform "Gateway" "linux")⟩,
    ⟨_, .store (.insertPlatformProtocols [
      ⟨1, "ssh", 22, true, true, false, true, "\x7b\"sftp_enabled\": true\x7d"⟩,
      ⟨2, "ssh", 22, true, true, false, true, "not a document"⟩,
      ⟨3, "ssh", 22, true, true, false, true, "\x7b\"sftp_enabled\": true\x7d"⟩])⟩,
    ⟨_, .store (.createAsset "bare" "Bare server" 1)⟩]

/-- The second run sees a candidate and an asset without `sftp`, and passes over both. -/
theorem run_again_of_leftovers :
    let db := unevenFleet.database
    let after := (run db).2
    db.isOpen = true ∧ (run db).1 = .ok ⟨["Linux"], 0⟩ ∧
      after.store.sftpCandidates.map (·.platformName) = ["Broken"] ∧
      after.store.assetsMissingSftp = ["bare"] ∧ run after = (.ok ⟨[], 0⟩, after) := by
  intro db after
  have hopen : db.isOpen = true := by decide +kernel
  obtain ⟨report, after', hrun, _, hagain⟩ := run_again hopen
  have hafter : after = after' := congrArg Prod.snd hrun
  rw [← hafter] at hagain
  exact ⟨hopen, by decide +kernel, by decide +kernel, by decide +kernel, hagain⟩

end Backfill
end GatewayRegistry
