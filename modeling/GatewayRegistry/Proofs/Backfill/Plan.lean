import GatewayRegistry.Backfill

/-!
# Plans of a backfill

A plan holds nothing but what follows from a row of the answer that it is made from
(`mem_platformPlan`, `mem_assetPlan`), and something for the platform or the asset of each such row
(`platformPlan_covers`, `assetPlan_covers`). The batches of a list hold what the list holds.
-/

namespace GatewayRegistry
namespace Backfill

/-! ## Platforms

A plan is kept in the order of the platforms, with one entry for each: a candidate is put where it
belongs, unless its platform is there already. -/

/-- What a candidate adds to the plan. -/
def planned? (ssh : SshPlatform) : Option PlannedPlatform :=
  (allowedOptions? ssh).map fun options => ⟨ssh.platformName, sftpBeside ssh options⟩

/-- Candidates that do not allow `sftp` take no part. -/
theorem platformPlan_eq (candidates : List SshPlatform) :
    platformPlan candidates =
      (candidates.filterMap planned?).foldl (fun plan new => planPlatform new plan) [] := by
  rw [List.foldl_filterMap]
  unfold platformPlan
  congr 1
  funext plan ssh
  unfold planned?
  cases allowedOptions? ssh <;> rfl

section

variable {new q : PlannedPlatform} {plan news : List PlannedPlatform}

theorem mem_planPlatform (h : q ∈ planPlatform new plan) : q = new ∨ q ∈ plan := by
  induction plan with
  | nil => exact .inl (List.mem_singleton.mp h)
  | cons p rest ih =>
      unfold planPlatform at h
      split at h
      · exact List.mem_cons.mp h
      · split at h
        · exact .inr h
        · rcases List.mem_cons.mp h with rfl | h
          · exact .inr List.mem_cons_self
          · exact (ih h).imp_right (List.mem_cons_of_mem p)

/-- What is planned stays planned. -/
theorem mem_planPlatform_of_mem (h : q ∈ plan) : q ∈ planPlatform new plan := by
  induction plan with
  | nil => cases h
  | cons p rest ih =>
      unfold planPlatform
      split
      · exact List.mem_cons_of_mem new h
      · split
        · exact h
        · rcases List.mem_cons.mp h with rfl | h
          · exact List.mem_cons_self
          · exact List.mem_cons_of_mem p (ih h)

/-- The platform has its place in the plan, maybe with something else. -/
theorem planPlatform_covers (new : PlannedPlatform) (plan : List PlannedPlatform) :
    ∃ q ∈ planPlatform new plan, q.protocol.platformId = new.protocol.platformId := by
  induction plan with
  | nil => exact ⟨new, List.mem_singleton_self new, rfl⟩
  | cons p rest ih =>
      unfold planPlatform
      split
      · exact ⟨new, List.mem_cons_self, rfl⟩
      · split
        · next hsame => exact ⟨p, List.mem_cons_self, hsame.symm⟩
        · obtain ⟨q, hq, hid⟩ := ih
          exact ⟨q, List.mem_cons_of_mem p hq, hid⟩

/-- A plan stays in the order of the numbers of the platforms, with each platform once. -/
theorem planPlatform_ascending (new : PlannedPlatform)
    (h : plan.Pairwise fun p q => p.protocol.platformId < q.protocol.platformId) :
    (planPlatform new plan).Pairwise fun p q => p.protocol.platformId < q.protocol.platformId := by
  induction plan with
  | nil => exact List.pairwise_singleton _ new
  | cons p rest ih =>
      obtain ⟨hfirst, hrest⟩ := List.pairwise_cons.mp h
      unfold planPlatform
      split
      -- the new entry comes first, or it has its place in the rest
      · next hbefore =>
          refine List.pairwise_cons.mpr ⟨fun q hq => ?_, h⟩
          rcases List.mem_cons.mp hq with rfl | hq
          · exact hbefore
          · exact Int.lt_trans hbefore (hfirst q hq)
      · next hbefore =>
          split
          · exact h
          · next hother =>
              refine List.pairwise_cons.mpr ⟨fun q hq => ?_, ih hrest⟩
              rcases mem_planPlatform hq with rfl | hq
              · omega
              · exact hfirst q hq

theorem mem_foldl_planPlatform (h : q ∈ news.foldl (fun plan new => planPlatform new plan) plan) :
    q ∈ news ∨ q ∈ plan := by
  induction news generalizing plan with
  | nil => exact .inr h
  | cons new news ih =>
      rcases ih h with h | h
      · exact .inl (List.mem_cons_of_mem new h)
      · rcases mem_planPlatform h with rfl | h
        · exact .inl List.mem_cons_self
        · exact .inr h

theorem foldl_planPlatform_covers
    (h : (∃ p ∈ plan, p.protocol.platformId = new.protocol.platformId) ∨ new ∈ news) :
    ∃ q ∈ news.foldl (fun plan new => planPlatform new plan) plan,
      q.protocol.platformId = new.protocol.platformId := by
  induction news generalizing plan with
  | nil => exact h.resolve_right List.not_mem_nil
  | cons first news ih =>
      apply ih
      rcases h with ⟨p, hp, hid⟩ | h
      · exact .inl ⟨p, mem_planPlatform_of_mem hp, hid⟩
      · rcases List.mem_cons.mp h with rfl | h
        · exact .inl (planPlatform_covers new plan)
        · exact .inr h

end

theorem mem_platformPlan {candidates : List SshPlatform} {q : PlannedPlatform}
    (h : q ∈ platformPlan candidates) : ∃ ssh ∈ candidates, planned? ssh = some q := by
  rw [platformPlan_eq] at h
  rcases mem_foldl_planPlatform h with h | h
  · exact List.mem_filterMap.mp h
  · exact absurd h List.not_mem_nil

theorem platformPlan_ascending (candidates : List SshPlatform) :
    (platformPlan candidates).Pairwise fun p q => p.protocol.platformId < q.protocol.platformId := by
  rw [platformPlan_eq]
  refine List.foldlRecOn _ _ List.Pairwise.nil fun plan h new _ => ?_
  exact planPlatform_ascending new h

/-- For each candidate that allows it, something is planned for its platform. -/
theorem platformPlan_covers {candidates : List SshPlatform} {ssh : SshPlatform}
    {new : PlannedPlatform}
    (hssh : ssh ∈ candidates) (hnew : planned? ssh = some new) :
    ∃ q ∈ platformPlan candidates, q.protocol.platformId = new.protocol.platformId := by
  rw [platformPlan_eq]
  exact foldl_planPlatform_covers (.inr (List.mem_filterMap.mpr ⟨ssh, hssh, hnew⟩))

/-! ## Assets

The same for assets, but that a later row replaces an earlier one for the same asset. Which of them
stays makes no difference where each asset has one `ssh` (`mem_assetPlan_iff`). -/

section

variable {assetId : String} {port : Int64} {plan : List (String × Int64)} {x : String × Int64}
  {ssh : List AssetProtocol}

theorem mem_planAsset (h : x ∈ planAsset assetId port plan) : x = (assetId, port) ∨ x ∈ plan := by
  induction plan with
  | nil => exact .inl (List.mem_singleton.mp h)
  | cons y rest ih =>
      unfold planAsset at h
      split at h
      · exact List.mem_cons.mp h
      · split at h
        · exact (List.mem_cons.mp h).imp_right (List.mem_cons_of_mem y)
        · rcases List.mem_cons.mp h with rfl | h
          · exact .inr List.mem_cons_self
          · exact (ih h).imp_right (List.mem_cons_of_mem y)

/-- An asset that is planned stays planned, maybe on another port. -/
theorem planAsset_keeps (h : x ∈ plan) : ∃ y ∈ planAsset assetId port plan, y.1 = x.1 := by
  induction plan with
  | nil => cases h
  | cons z rest ih =>
      unfold planAsset
      split
      · exact ⟨x, List.mem_cons_of_mem _ h, rfl⟩
      · split
        -- the entry for this asset is replaced, so its key is kept
        · next hsame =>
            rcases List.mem_cons.mp h with rfl | h
            · exact ⟨_, List.mem_cons_self, hsame⟩
            · exact ⟨x, List.mem_cons_of_mem _ h, rfl⟩
        · rcases List.mem_cons.mp h with rfl | h
          · exact ⟨x, List.mem_cons_self, rfl⟩
          · obtain ⟨y, hy, hid⟩ := ih h
            exact ⟨y, List.mem_cons_of_mem z hy, hid⟩

/-- The last row for an asset is the one that is planned. -/
theorem mem_planAsset_self (assetId : String) (port : Int64) (plan : List (String × Int64)) :
    (assetId, port) ∈ planAsset assetId port plan := by
  induction plan with
  | nil => exact List.mem_singleton_self _
  | cons y rest ih =>
      unfold planAsset
      split
      · exact List.mem_cons_self
      · split
        · exact List.mem_cons_self
        · exact List.mem_cons_of_mem y ih

/-- A plan stays in the order of the ids of the assets, with each asset once. -/
theorem planAsset_ascending (assetId : String) (port : Int64)
    (h : plan.Pairwise fun x y => x.1 < y.1) :
    (planAsset assetId port plan).Pairwise fun x y => x.1 < y.1 := by
  induction plan with
  | nil => exact List.pairwise_singleton _ _
  | cons z rest ih =>
      obtain ⟨hfirst, hrest⟩ := List.pairwise_cons.mp h
      unfold planAsset
      split
      · next hbefore =>
          refine List.pairwise_cons.mpr ⟨fun y hy => ?_, h⟩
          rcases List.mem_cons.mp hy with rfl | hy
          · exact hbefore
          · exact String.lt_trans hbefore (hfirst y hy)
      · next hbefore =>
          split
          · next hsame =>
              rw [hsame]
              exact List.pairwise_cons.mpr ⟨hfirst, hrest⟩
          · next hother =>
              refine List.pairwise_cons.mpr ⟨fun y hy => ?_, ih hrest⟩
              rcases mem_planAsset hy with rfl | hy
              · refine String.not_le.mp fun hle => hother ?_
                exact String.le_antisymm hle (String.not_lt.mp hbefore)
              · exact hfirst y hy

theorem mem_foldl_planAsset
    (h : x ∈ ssh.foldl (fun plan p => planAsset p.assetId p.port plan) plan) :
    (∃ p ∈ ssh, x = (p.assetId, p.port)) ∨ x ∈ plan := by
  induction ssh generalizing plan with
  | nil => exact .inr h
  | cons p ssh ih =>
      rcases ih h with ⟨q, hq, hx⟩ | h
      · exact .inl ⟨q, List.mem_cons_of_mem p hq, hx⟩
      · exact (mem_planAsset h).imp_left fun hx => ⟨p, List.mem_cons_self, hx⟩

theorem foldl_planAsset_covers (h : (∃ x ∈ plan, x.1 = assetId) ∨ ∃ p ∈ ssh, p.assetId = assetId) :
    ∃ x ∈ ssh.foldl (fun plan p => planAsset p.assetId p.port plan) plan, x.1 = assetId := by
  induction ssh generalizing plan with
  | nil => exact h.resolve_right fun ⟨_, hp, _⟩ => List.not_mem_nil hp
  | cons p ssh ih =>
      apply ih
      rcases h with ⟨x, hx, rfl⟩ | ⟨q, hq, hid⟩
      · exact .inl (planAsset_keeps hx)
      · rcases List.mem_cons.mp hq with rfl | hq
        · exact .inl ⟨_, mem_planAsset_self q.assetId q.port plan, hid⟩
        · exact .inr ⟨q, hq, hid⟩

end

theorem mem_assetPlan {ssh : List AssetProtocol} {new : NewAssetProtocol}
    (h : new ∈ assetPlan ssh) :
    ∃ p ∈ ssh, new = ⟨p.assetId, "sftp", p.port⟩ := by
  obtain ⟨x, hx, rfl⟩ := List.mem_map.mp h
  rcases mem_foldl_planAsset hx with ⟨p, hp, rfl⟩ | hx
  · exact ⟨p, hp, rfl⟩
  · exact absurd hx List.not_mem_nil

/-- For each row something is planned for its asset. -/
theorem assetPlan_covers {ssh : List AssetProtocol} {p : AssetProtocol} (hp : p ∈ ssh) :
    ∃ new ∈ assetPlan ssh, new.assetId = p.assetId := by
  have hcovered : ∃ x ∈ ssh.foldl (fun plan p => planAsset p.assetId p.port plan) [], x.1 = p.assetId :=
    foldl_planAsset_covers (.inr ⟨p, hp, rfl⟩)
  obtain ⟨x, hx, hid⟩ := hcovered
  exact ⟨_, List.mem_map_of_mem hx, hid⟩

theorem assetPlan_ascending (ssh : List AssetProtocol) :
    (assetPlan ssh).Pairwise fun x y => x.assetId < y.assetId := by
  unfold assetPlan
  rw [List.pairwise_map]
  refine List.foldlRecOn _ _ List.Pairwise.nil fun plan h p _ => ?_
  exact planAsset_ascending p.assetId p.port h

/-- Where an asset has one protocol `ssh`, the plan holds what follows from it. -/
theorem mem_assetPlan_iff {ssh : List AssetProtocol}
    (hunique : ∀ p ∈ ssh, ∀ q ∈ ssh, p.assetId = q.assetId → p = q) {new : NewAssetProtocol} :
    new ∈ assetPlan ssh ↔ ∃ p ∈ ssh, new = ⟨p.assetId, "sftp", p.port⟩ := by
  constructor
  · exact mem_assetPlan
  · rintro ⟨p, hp, rfl⟩
    obtain ⟨new, hnew, hid⟩ := assetPlan_covers hp
    obtain ⟨q, hq, rfl⟩ := mem_assetPlan hnew
    rw [hunique p hp q hq hid.symm]
    exact hnew

/-! ## Batches -/

section

variable {α : Type}

/-- Nothing is lost between the pieces. -/
theorem flatten_chunks (size : Nat) (xs : List α) : (chunks size xs).flatten = xs := by
  induction xs using chunks.induct size with
  | case1 => rw [chunks]; rfl
  | case2 x xs ih => rw [chunks, List.flatten_cons, ih, List.cons_append, List.take_append_drop]

/-- No batch is empty. -/
theorem length_chunks_le (size : Nat) (xs : List α) : (chunks size xs).length ≤ xs.length := by
  induction xs using chunks.induct size with
  | case1 => rw [chunks]; exact Nat.le_refl _
  | case2 x xs ih =>
      rw [List.length_drop] at ih
      rw [chunks, List.length_cons, List.length_cons]
      omega

end

end Backfill
end GatewayRegistry
