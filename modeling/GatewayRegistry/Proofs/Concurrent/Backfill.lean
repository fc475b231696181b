import GatewayRegistry.Proofs.Backfill.Due
import GatewayRegistry.Proofs.Concurrent.Job
import GatewayRegistry.Proofs.Runs.Reachable

/-!
# Backfills at once

Between a question of a backfill and the insertion that follows from the answer, other backfills may
have inserted what it planned. Its rows are then passed over, and as nothing becomes due by
insertions, all that was due has been inserted when it comes to its end, by itself or by others. So
several backfills leave what one of them would have left, and the numbers of rows that they claim to
have added add up.
-/

namespace GatewayRegistry

namespace Job

/-! ## The calls, transaction by transaction

The parts of a backfill, spelled out as jobs. That they are the calls is shown part by part, so that
what is proved of jobs is a statement about the calls. -/

/-- `Backfill.platforms`. -/
def backfillPlatforms : Job (List String) := do
  let plan := Backfill.platformPlan (← ask fun s => .ok s.sftpCandidates)
  if plan.isEmpty then return []
  let _ ← single (Store.insertMany Store.insertPlatformProtocol (plan.map (·.protocol)))
  return plan.map (·.name)

/-- `Database.sshProtocolsOf`. -/
def sshProtocolsOf (ids : List String) : Job (List AssetProtocol) :=
  if ids.isEmpty then return [] else ask fun s => .ok (s.sshProtocolsOf ids)

/-- `Backfill.assetBatch`. -/
def backfillBatch (ids : List String) : Job Nat := do
  single (Store.insertMany Store.insertAssetProtocol (Backfill.assetPlan (← sshProtocolsOf ids)))

/-- `Backfill.assets`. -/
def backfillAssets : Job Nat := do
  (Backfill.chunks Backfill.batchSize (← ask fun s => .ok s.assetsMissingSftp)).foldlM
    (fun added ids => return added + (← backfillBatch ids)) 0

/-- `Backfill.run`. -/
def backfill : Job BackfillReport := do
  let platforms ← backfillPlatforms
  return ⟨platforms, ← backfillAssets⟩

/-- The part for platforms is the call. -/
theorem run_backfillPlatforms : backfillPlatforms.run = Backfill.platforms := by
  unfold backfillPlatforms
  rw [run_bind, run_ask]
  simp only [apply_ite run, run_bind, run_single, run_pure]
  rfl

theorem run_backfillBatch (ids : List String) :
    (backfillBatch ids).run = Backfill.assetBatch ids := by
  unfold backfillBatch sshProtocolsOf
  simp only [run_bind, run_single, apply_ite run, run_ask, run_pure]
  rfl

theorem run_backfillAssets : backfillAssets.run = Backfill.assets := by
  unfold backfillAssets
  simp only [run_bind, run_ask, run_foldlM, run_pure, run_backfillBatch]
  rfl

/-- Undisturbed, a backfill does what the call does. -/
theorem run_backfill : backfill.run = Backfill.run := by
  unfold backfill
  simp only [run_bind, run_pure, run_backfillPlatforms, run_backfillAssets]
  rfl

end Job

/-! ## What is left to do

What a backfill knows at each point is true for as long as others only fill the store: its plan
covers what is due, and the batches that are left cover what is due to assets. When no batch is
left, nothing is due. -/

namespace Store

variable {s s' : Store}

/-- A plan for the platforms: its rows can be inserted, and then nothing is due to a platform any
more. -/
structure PlatformsPlanned (plan : List Backfill.PlannedPlatform) (s : Store) : Prop where
  fits : ∀ q ∈ plan, s.PlatformFits q.protocol
  covers : ∀ x, s.PlatformDue x → ∃ q ∈ plan, q.protocol.platformId = x.platformId

/-- A plan for a batch: its rows can be inserted, and then nothing is due to the assets any more. -/
structure BatchPlanned (ids : List String) (plan : List NewAssetProtocol) (s : Store) : Prop where
  fits : ∀ x ∈ plan, s.AssetFits x
  covers : ∀ x, s.AssetDue x → x.assetId ∈ ids → ∃ y ∈ plan, y.assetId = x.assetId

/-- The platforms have what they lacked, and the assets to which something is due are in the batches
that are left. -/
structure BatchesLeft (batches : List (List String)) (s : Store) : Prop where
  platforms : ∀ x, ¬s.PlatformDue x
  served : ∀ ids ∈ batches, ∀ id ∈ ids,
    ∃ a ∈ s.assets, a.id = id ∧ s.platformOffers a.platformId "sftp" = true
  covers : ∀ x, s.AssetDue x → ∃ ids ∈ batches, x.assetId ∈ ids

/-- The plan covers what is due when it is made. -/
theorem platformsPlanned (s : Store) :
    s.PlatformsPlanned (Backfill.platformPlan s.sftpCandidates) where
  fits := fun _ hq =>
    have hdue := due_of_mem_platformPlan hq
    ⟨hdue.cases.1, .inl hdue⟩
  covers := fun _ hdue => hdue.planned

namespace PlatformsPlanned

variable {plan : List Backfill.PlannedPlatform}

theorem later (h : s.PlatformsPlanned plan) (hs : s.Fills s') : s'.PlatformsPlanned plan where
  fits := fun q hq => hs.platformFits (h.fits q hq)
  covers := fun x hdue => h.covers x (hs.platformDue hdue)

/-- Once the plan was inserted, the platforms have what they lacked. -/
theorem settled (h : s.PlatformsPlanned plan)
    (hthere : ∀ q ∈ plan, s.platformOffers q.protocol.platformId "sftp" = true) :
    ∀ x, ¬s.PlatformDue x := by
  intro x hdue
  obtain ⟨q, hq, hid⟩ := h.covers x hdue
  have hoffers := hthere q hq
  rw [hid, hdue.cases.2.1] at hoffers
  cases hoffers

end PlatformsPlanned

theorem BatchPlanned.later {ids : List String} {plan : List NewAssetProtocol}
    (h : s.BatchPlanned ids plan) (hs : s.Fills s') : s'.BatchPlanned ids plan where
  fits := fun x hx => hs.assetFits (h.fits x hx)
  covers := fun x hdue hx => h.covers x (hs.assetDue hdue) hx

namespace BatchesLeft

variable {ids : List String} {batches : List (List String)}

theorem later (h : s.BatchesLeft batches) (hs : s.Fills s') : s'.BatchesLeft batches where
  platforms := fun x hdue => h.platforms x (hs.platformDue hdue)
  served := by
    intro ids hids id hid
    obtain ⟨a, ha, hasset, hserved⟩ := h.served ids hids id hid
    exact ⟨a, hs.assets ▸ ha, hasset, hs.platformOffers hserved⟩
  covers := fun x hdue => h.covers x (hs.assetDue hdue)

/-- At the start the batches cover all assets to which something is due. -/
theorem start (hplatforms : ∀ x, ¬s.PlatformDue x) :
    s.BatchesLeft (Backfill.chunks Backfill.batchSize s.assetsMissingSftp) where
  platforms := hplatforms
  served := by
    intro ids hids id hid
    have hmissing := List.mem_flatten.mpr ⟨ids, hids, hid⟩
    rw [Backfill.flatten_chunks] at hmissing
    obtain ⟨a, ha, hserved, _, hasset⟩ := mem_assetsMissingSftp.mp hmissing
    exact ⟨a, ha, hasset, hserved⟩
  covers := by
    intro x hdue
    have hmissing := hdue.missing hplatforms
    rw [← Backfill.flatten_chunks Backfill.batchSize s.assetsMissingSftp] at hmissing
    exact List.mem_flatten.mp hmissing

/-- When no batch is left, nothing is due. -/
theorem settled (h : s.BatchesLeft []) : s.Settled where
  platform := h.platforms
  asset := fun x hdue =>
    let ⟨_, hids, _⟩ := h.covers x hdue
    List.not_mem_nil hids

/-- The plan for the next batch covers it. -/
theorem planned (h : s.BatchesLeft (ids :: batches)) :
    s.BatchPlanned ids (Backfill.assetPlan (s.sshProtocolsOf ids)) where
  fits := fun _ hx => fits_of_mem_assetPlan (h.served ids List.mem_cons_self) hx
  covers := fun _ hdue hx => hdue.planned hx

/-- Once its plan was inserted, a batch is done. -/
theorem tail {plan : List NewAssetProtocol} (h : s.BatchesLeft (ids :: batches))
    (hplan : s.BatchPlanned ids plan)
    (hthere : ∀ x ∈ plan, s.assetOffers x.assetId "sftp" = true) : s.BatchesLeft batches where
  platforms := h.platforms
  served := fun ids' hids' => h.served ids' (List.mem_cons_of_mem ids hids')
  covers := by
    intro x hdue
    obtain ⟨ids', hids', hx⟩ := h.covers x hdue
    -- the batch that is through has supplied its assets
    rcases List.mem_cons.mp hids' with rfl | hids'
    · obtain ⟨y, hy, hid⟩ := hplan.covers x hdue hx
      have hoffers := hthere y hy
      rw [hid, hdue.cases.2.1] at hoffers
      cases hoffers
    · exact ⟨ids', hids', hx⟩

end BatchesLeft
end Store

namespace Job

variable {s : Store} {share : Nat}

/-! ## Backfills at work -/

/-- A job beside backfills, whose share is the number of assets to which it gave `sftp`. -/
abbrev SafeFill {α : Type} (p : Job α) (Q : α → Nat → Store → Prop) (turns share : Nat)
    (s : Store) :
    Prop :=
  p.Safe Store.Fills Store.sftpAssets Q turns share s

/-- The plan for platforms is inserted, whatever others have inserted of it. -/
theorem insertPlatforms_safe {plan : List Backfill.PlannedPlatform} (h : s.PlatformsPlanned plan) :
    (single (Store.insertMany Store.insertPlatformProtocol (plan.map (·.protocol)))).SafeFill
      (fun _ added s' => added = share ∧ s.Fills s' ∧ ∀ x, ¬s'.PlatformDue x) 1 share s := by
  refine Safe.single fun s₁ hs₁ => ?_
  have hfits : ∀ x ∈ plan.map (·.protocol), s₁.PlatformFits x := by
    intro x hx
    obtain ⟨q, hq, rfl⟩ := List.mem_map.mp hx
    exact (h.later hs₁).fits q hq
  obtain ⟨n, s₂, hok, ⟨hfills, hcount⟩, hthere⟩ := Store.insertPlatformProtocols_fills hfits
  have hs₂ := hs₁.trans hfills
  have hsettled := (h.later hs₂).settled fun q hq => hthere _ (List.mem_map_of_mem hq)
  -- the rows that count are those of assets
  exact ⟨n, s₂, hok, hfills, 0, hcount, fun s₃ hs₃ =>
    ⟨rfl, hs₂.trans hs₃, fun x hdue => hsettled x (hs₃.platformDue hdue)⟩⟩

/-- After the part for platforms nothing is due to any of them. -/
theorem backfillPlatforms_safe :
    backfillPlatforms.SafeFill (fun _ added s' => added = share ∧ s.Fills s' ∧ ∀ x, ¬s'.PlatformDue x)
      (1 + 1) share s := by
  have hask : (ask fun s => .ok s.sftpCandidates).SafeFill (fun candidates added s' =>
      added = share ∧ s.Fills s' ∧ s'.PlatformsPlanned (Backfill.platformPlan candidates)) 1 share s :=
    Safe.ask fun s₁ hs₁ => ⟨_, rfl, fun s₂ hs₂ =>
      ⟨rfl, hs₁.trans hs₂, s₁.platformsPlanned.later hs₂⟩⟩
  refine Safe.bind hask ?_
  rintro candidates added s₁ ⟨rfl, hs₁, hplanned⟩
  generalize Backfill.platformPlan candidates = plan at hplanned ⊢
  dsimp only
  split
  · next hempty =>
      -- an empty plan covers all that is due to platforms: nothing is
      refine Safe.pure fun s₂ hs₂ => ⟨rfl, hs₁.trans hs₂, (hplanned.later hs₂).settled fun q hq => ?_⟩
      rw [List.isEmpty_iff.mp hempty] at hq
      cases hq
  · refine Safe.map (insertPlatforms_safe hplanned) ?_
    rintro n added s₂ s₃ ⟨rfl, hs₂, hsettled⟩ hs₃
    exact ⟨rfl, (hs₁.trans hs₂).trans hs₃, fun x hdue => hsettled x (hs₃.platformDue hdue)⟩

/-- The answer for a batch is what its plan is made from. -/
theorem sshProtocolsOf_safe {ids : List String} {batches : List (List String)}
    (h : s.BatchesLeft (ids :: batches)) :
    (sshProtocolsOf ids).SafeFill (fun ssh added s' => added = share ∧ s'.BatchesLeft (ids :: batches) ∧
      s'.BatchPlanned ids (Backfill.assetPlan ssh)) 1 share s := by
  unfold sshProtocolsOf
  split
  -- no question is asked about no assets
  · next hempty =>
      refine Safe.pure fun s₁ hs₁ => ⟨rfl, h.later hs₁, ?_⟩
      obtain rfl := List.isEmpty_iff.mp hempty
      have hnone : s₁.sshProtocolsOf [] = [] := by simp [Store.sshProtocolsOf]
      rw [← hnone]
      exact (h.later hs₁).planned
  · refine Safe.ask fun s₁ hs₁ => ⟨_, rfl, fun s₂ hs₂ => ?_⟩
    have h₁ := h.later hs₁
    exact ⟨rfl, h₁.later hs₂, h₁.planned.later hs₂⟩

/-- One batch adds what it says and leaves the others to do. -/
theorem backfillBatch_safe {ids : List String} {batches : List (List String)}
    (h : s.BatchesLeft (ids :: batches)) :
    (backfillBatch ids).SafeFill (fun n added s' => added = share + n ∧ s'.BatchesLeft batches) (1 + 1)
      share s := by
  refine Safe.bind (sshProtocolsOf_safe h) ?_
  rintro ssh added s ⟨rfl, hleft, hplanned⟩
  refine Safe.single fun s₁ hs₁ => ?_
  -- others may have inserted some of the plan since the question, and the rest of it still fits
  obtain ⟨n, s₂, hok, ⟨hfills, hcount⟩, hthere⟩ :=
    Store.insertAssetProtocols_fills (hplanned.later hs₁).fits
  refine ⟨n, s₂, hok, hfills, n, hcount, fun s₃ hs₃ => ⟨rfl, ?_⟩⟩
  have hs₂ := hs₁.trans hfills
  exact ((hleft.later hs₂).tail (hplanned.later hs₂) hthere).later hs₃

/-- After all batches nothing is due, and the rows that were added have been counted. -/
theorem backfillAssets_safe (h : ∀ x, ¬s.PlatformDue x) :
    backfillAssets.SafeFill (fun n added s' => added = n ∧ s'.Settled) (1 + 2 * s.assets.length) 0 s := by
  have hask : (ask fun s => .ok s.assetsMissingSftp).SafeFill (fun missing added s' => added = 0 ∧
      missing.length ≤ s.assets.length ∧
      s'.BatchesLeft (Backfill.chunks Backfill.batchSize missing)) 1 0 s := by
    refine Safe.ask fun s₁ hs₁ => ⟨_, rfl, fun s₂ hs₂ => ⟨rfl, ?_, ?_⟩⟩
    · rw [← hs₁.assets]
      exact s₁.length_assetsMissingSftp_le
    · exact (Store.BatchesLeft.start fun x hdue => h x (hs₁.platformDue hdue)).later hs₂
  refine Safe.bind hask ?_
  rintro missing added s₁ ⟨rfl, hlength, hleft⟩
  -- the invariant is about the batches that are left: what was done stays done
  have hloop : ((Backfill.chunks Backfill.batchSize missing).foldlM
      (fun added ids => do return added + (← backfillBatch ids)) 0).SafeFill
      (fun n added s' => added = n ∧ s'.BatchesLeft [])
      ((1 + 1) * (Backfill.chunks Backfill.batchSize missing).length) 0 s₁ := by
    refine Safe.foldlM (I := fun batches n added s => added = n ∧ s.BatchesLeft batches) ?_ ?_ ⟨rfl, hleft⟩
    · rintro ids batches n added s ⟨rfl, hleft⟩
      refine Safe.map (backfillBatch_safe hleft) ?_
      rintro k total s₂ s₃ ⟨rfl, hleft⟩ hs₃
      exact ⟨rfl, hleft.later hs₃⟩
    · rintro n added s s' ⟨rfl, hleft⟩ hs'
      exact ⟨rfl, hleft.later hs'⟩
  apply hloop.mono
  · have hle := Backfill.length_chunks_le Backfill.batchSize missing
    omega
  · rintro n added s ⟨rfl, hleft⟩
    exact ⟨rfl, hleft.settled⟩

/-- A backfill does not fail, and when it has ended nothing is due. -/
theorem backfill_safe (s : Store) :
    backfill.SafeFill (fun report added s' => report.assetsAdded = added ∧ s'.Settled)
      (3 + 2 * s.assets.length) 0 s := by
  have hturns : 3 + 2 * s.assets.length = 1 + 1 + (1 + 2 * s.assets.length) := by omega
  rw [hturns]
  refine Safe.bind backfillPlatforms_safe ?_
  rintro names added s₁ ⟨rfl, hs₁, hsettled⟩
  -- no backfill adds an asset, and so the bound on the turns is still the same
  rw [← hs₁.assets]
  refine Safe.map (backfillAssets_safe hsettled) ?_
  rintro n added s₂ s₃ ⟨rfl, hsettled⟩ hs₃
  exact ⟨rfl, hs₃.settled hsettled⟩

end Job

namespace Concurrent

variable {db : Database}

/-- Backfills in any number whose turns come in any order. -/
theorem backfills_safe (hopen : db.isOpen = true) (n : Nat) (schedule : List Nat) :
    ∃ shares, (follow ⟨db, List.replicate n Job.backfill⟩ schedule).Safe Store.Fills Store.sftpAssets
      (fun _ report added s => report.assetsAdded = added ∧ s.Settled) db.store
      (fun i => 3 + 2 * db.store.assets.length - schedule.count i) shares := by
  refine Safe.follow (Safe.initial hopen fun i p hp => ?_) schedule
  rw [List.eq_of_mem_replicate (List.mem_of_getElem? hp)]
  exact Job.backfill_safe db.store

/-- On a closed database no backfill does anything. -/
theorem backfills_closed (hclosed : db.isOpen = false) (n : Nat) (schedule : List Nat) :
    (follow ⟨db, List.replicate n Job.backfill⟩ schedule).database = db ∧
      ∀ p ∈ (follow ⟨db, List.replicate n Job.backfill⟩ schedule).jobs, ∀ report, p ≠ .done report := by
  refine follow_closed hclosed (fun p hp report => ?_) schedule
  rw [List.eq_of_mem_replicate hp]
  intro hdone
  cases hdone

/-- Whatever the schedule, the store is filled. -/
theorem backfills_fill (db : Database) (n : Nat) (schedule : List Nat) :
    db.store.Fills (follow ⟨db, List.replicate n Job.backfill⟩ schedule).database.store := by
  cases hopen : db.isOpen with
  | false =>
      rw [(backfills_closed hopen n schedule).1]
      exact .refl db.store
  | true =>
      obtain ⟨shares, hsafe⟩ := backfills_safe hopen n schedule
      exact hsafe.reached

/-- When a backfill has come to its end, nothing is due any more. -/
theorem backfills_settled (hopen : db.isOpen = true) {n : Nat} (hn : 0 < n) {schedule : List Nat}
    (hfinished : ∀ p ∈ (follow ⟨db, List.replicate n Job.backfill⟩ schedule).jobs, p.Finished) :
    (follow ⟨db, List.replicate n Job.backfill⟩ schedule).database.store.Settled := by
  obtain ⟨shares, hsafe⟩ := backfills_safe hopen n schedule
  have hlt : 0 < (follow ⟨db, List.replicate n Job.backfill⟩ schedule).jobs.length := by
    rw [length_follow, List.length_replicate]
    exact hn
  have hfirst := List.getElem?_eq_getElem hlt
  obtain ⟨share, hshare, _⟩ := hsafe.job_safe hfirst
  obtain ⟨_, _, hreport⟩ := hsafe.answered hfirst hshare (hfinished _ (List.getElem_mem hlt))
  exact hreport.2

end Concurrent

/-- Alone, a backfill inserts all that is due. -/
theorem Backfill.run_fills {db : Database} (hopen : db.isOpen = true) :
    db.store.Fills (Backfill.run db).2.store ∧ (Backfill.run db).2.store.Settled := by
  obtain ⟨report, s, added, hrun, hfills, _, _, hsettled⟩ := (Job.backfill_safe db.store).run hopen
  rw [← Job.run_backfill, hrun]
  exact ⟨hfills, hsettled⟩

namespace Concurrent

variable {db : Database} {n : Nat} {schedule : List Nat}

/-- What is left when all backfills have come to their end, and what their reports add up to. -/
theorem backfills_end (hs : db.store.Consistent)
    (hfinished : ∀ p ∈ (follow ⟨db, List.replicate n Job.backfill⟩ schedule).jobs, p.Finished) :
    let backfills := follow ⟨db, List.replicate n Job.backfill⟩ schedule
    (0 < n → backfills.database.store.SameEntries (Backfill.run db).2.store) ∧
      backfills.database.store.sftpAssets =
        db.store.sftpAssets + ((backfills.jobs.filterMap Job.answer?).map (·.assetsAdded)).sum := by
  intro backfills
  cases hopen : db.isOpen with
  | false =>
      -- nobody got anywhere
      obtain ⟨hsame, hnone⟩ := backfills_closed hopen n schedule
      have hafter : backfills.database.store = db.store := congrArg Database.store hsame
      have halone : (Backfill.run db).2 = db := (Backfill.steady_run db).2 hopen
      have hanswers : backfills.jobs.filterMap Job.answer? = [] := by
        rw [List.filterMap_eq_nil_iff]
        intro p hp
        cases p with
        | done report => exact absurd rfl (hnone _ hp report)
        | failed | transact => rfl
      rw [halone, hafter, hanswers]
      exact ⟨fun _ => .refl db.store, rfl⟩
  | true =>
      obtain ⟨shares, hsafe⟩ := backfills_safe hopen n schedule
      obtain ⟨hfills, hsettled⟩ := Backfill.run_fills hopen
      refine ⟨fun hn => ?_, hsafe.sum_answers hfinished fun _ _ _ _ hreport => hreport.1⟩
      exact (backfills_fill db n schedule).sameEntries hfills hs (backfills_settled hopen hn hfinished)
        hsettled

end Concurrent

namespace Deployment

/-- Any number of backfills run at once, and their transactions come in any order. None of them
fails on an open database, what was there stays as it was, and nothing is given `sftp` twice. When
all have come to an end, the protocols of platforms and assets are those that one backfill alone
would have left, and the numbers of assets in the reports add up to the number of assets that got
`sftp`. -/
theorem backfills_converge {d : Deployment} (h : d.Reachable) (n : Nat) (schedule : List Nat) :
    let before := d.database.store
    let backfills := (Concurrent.mk d.database (List.replicate n Job.backfill)).follow schedule
    let after := backfills.database.store
    Job.backfill.run = Backfill.run ∧
      (d.database.isOpen = true → ∀ e, Job.failed e ∉ backfills.jobs) ∧
      (d.database.isOpen = true → (∀ i < n, 3 + 2 * before.assets.length ≤ schedule.count i) →
        ∀ p ∈ backfills.jobs, p.Finished) ∧
      before.platformProtocols.rows <+: after.platformProtocols.rows ∧
      before.assetProtocols.rows <+: after.assetProtocols.rows ∧
      (∀ id, after.platformProtocols.rows.countP (fun p => p.platformId == id && p.name == "sftp") ≤ 1) ∧
      (∀ id, after.assetProtocols.rows.countP (fun p => p.assetId == id && p.name == "sftp") ≤ 1) ∧
      ((∀ p ∈ backfills.jobs, p.Finished) →
        (0 < n → after.SameEntries (Backfill.run d.database).2.store) ∧
        after.sftpAssets = before.sftpAssets +
          ((backfills.jobs.filterMap Job.answer?).map (·.assetsAdded)).sum) := by
  intro before backfills after
  have hfills : before.Fills after := Concurrent.backfills_fill d.database n schedule
  have hconsistent : after.Consistent := hfills.edits.consistent h.consistent
  refine ⟨Job.run_backfill, ?_, ?_, hfills.edits.toExtends.platformProtocols.rows,
    hfills.edits.toExtends.assetProtocols.rows, fun id => hconsistent.countP_platform_le_one id "sftp",
    fun id => hconsistent.countP_asset_le_one id "sftp", Concurrent.backfills_end h.consistent⟩
  · intro hopen
    obtain ⟨shares, hsafe⟩ := Concurrent.backfills_safe hopen n schedule
    exact hsafe.not_failed
  · intro hopen henough p hp
    obtain ⟨shares, hsafe⟩ := Concurrent.backfills_safe hopen n schedule
    obtain ⟨i, hi⟩ := List.getElem?_of_mem hp
    have hlt : i < n := by
      have hlength := (List.getElem?_eq_some_iff.mp hi).1
      rw [Concurrent.length_follow, List.length_replicate] at hlength
      exact hlength
    -- a job that has had its turns has none left to take
    obtain ⟨report, rfl⟩ := hsafe.done_of_turns hi (Nat.sub_eq_zero_of_le (henough i hlt))
    trivial

/-- There are a platform whose `ssh` allows `sftp` and an asset on it. -/
def oneAsset : Deployment :=
  ({} : Deployment).after [
    ⟨_, .store (.createPlatform "Linux" "linux")⟩,
    ⟨_, .store (.insertPlatformProtocols
      [⟨1, "ssh", 22, true, true, false, true, "\x7b\"sftp_enabled\": true\x7d"⟩])⟩,
    ⟨_, .store (.createAsset "web" "Web server" 1)⟩,
    ⟨_, .store (.addAssetProtocol "web" "ssh" 2222)⟩]

/-- Two backfills take turns, so that each transaction of one falls between two of the other. -/
theorem backfills_converge_of_two :
    let d := oneAsset
    let backfills := (Concurrent.mk d.database (List.replicate 2 Job.backfill)).follow
      [0, 1, 0, 1, 0, 1, 0, 1, 0, 1]
    let after := backfills.database.store
    backfills.jobs.filterMap Job.answer? = [⟨["Linux"], 1⟩, ⟨["Linux"], 0⟩] ∧
      after.SameEntries (Backfill.run d.database).2.store ∧
      after.sftpAssets = d.database.store.sftpAssets + 1 := by
  intro d backfills after
  have hreports : backfills.jobs.filterMap Job.answer? = [⟨["Linux"], 1⟩, ⟨["Linux"], 0⟩] := by
    decide +kernel
  have h := backfills_converge (d := d) (.after _) 2 [0, 1, 0, 1, 0, 1, 0, 1, 0, 1]
  extract_lets at h
  obtain ⟨_, _, hturns, _, _, _, _, hend⟩ := h
  have hfinished : ∀ p ∈ backfills.jobs, p.Finished := hturns (by decide +kernel) (by decide +kernel)
  obtain ⟨hsame, hsum⟩ := hend hfinished
  rw [hreports] at hsum
  exact ⟨hreports, hsame (by decide), hsum⟩

end Deployment
end GatewayRegistry
