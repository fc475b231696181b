import GatewayRegistry.Proofs.Backfill.Plan
import GatewayRegistry.Proofs.Store.Failure

/-!
# What is due

A store determines the protocols `sftp` that a backfill has to insert (`PlatformDue`, `AssetDue`),
at most one for a platform and at most one for an asset. One store `Fills` another if it was made
from it by insertions of what was due. Nothing becomes due by that, and what was due stays due until
it is inserted, in the form that it had at the beginning. So a store in which nothing is due any
more is determined by the store from which it was made, but for the numbers of its rows
(`Fills.platform_entries`, `Fills.asset_entries`).
-/

namespace GatewayRegistry

/-- A protocol of a platform without its number. -/
def PlatformProtocol.entry (p : PlatformProtocol) : NewPlatformProtocol where
  platformId := p.platformId
  name := p.name
  port := p.port
  isPrimary := p.isPrimary
  isRequired := p.isRequired
  isDefault := p.isDefault
  isPublic := p.isPublic
  setting := p.setting

/-- A protocol of an asset without its number. -/
def AssetProtocol.entry (p : AssetProtocol) : NewAssetProtocol := ⟨p.assetId, p.name, p.port⟩

namespace Store

variable {s s' s'' : Store}

/-! ## Candidates -/

/-- Which protocols are candidates, and what is read of them. -/
theorem sftpCandidate?_eq_some_iff {p : PlatformProtocol} {ssh : SshPlatform} :
    s.sftpCandidate? p = some ssh ↔ p.name = "ssh" ∧ s.platformOffers p.platformId "sftp" = false ∧
      ∃ platform, s.platformOf? p = some platform ∧ platform.isLinuxTarget = true ∧
        ⟨p.platformId, platform.name, p.port, p.setting⟩ = ssh := by
  unfold sftpCandidate?
  -- each condition is looked at in turn, and the first that fails decides
  by_cases hname : p.name = "ssh"
  · cases hoffers : s.platformOffers p.platformId "sftp" with
    | true => simp
    | false =>
        cases hplatform : s.platformOf? p with
        | none => simp
        | some platform =>
            have hid : platform.id = p.platformId := by simpa using List.find?_some hplatform
            simp [hname, hid]
  · simp [hname]

/-! ## What is due

A protocol is due if the backfill would plan it now. For a platform this takes a candidate with
options that allow it, for an asset a platform that serves `sftp`, now or when it has been given
what is due. -/

/-- A protocol `sftp` that a platform lacks. -/
def PlatformDue (s : Store) (x : NewPlatformProtocol) : Prop :=
  ∃ p ∈ s.platformProtocols.rows, ∃ ssh, s.sftpCandidate? p = some ssh ∧
    ∃ new, Backfill.planned? ssh = some new ∧ new.protocol = x

/-- Whether assets on a platform are to have `sftp`, as soon as the platform has what it lacks. -/
def PlatformServes (s : Store) (platformId : Int) : Prop :=
  s.platformOffers platformId "sftp" = true ∨ ∃ x, s.PlatformDue x ∧ x.platformId = platformId

/-- A protocol `sftp` that an asset lacks. -/
def AssetDue (s : Store) (x : NewAssetProtocol) : Prop :=
  ∃ a ∈ s.assets, s.PlatformServes a.platformId ∧ s.assetOffers a.id "sftp" = false ∧
    ∃ p ∈ s.assetProtocols.rows, p.name = "ssh" ∧ p.assetId = a.id ∧ ⟨a.id, "sftp", p.port⟩ = x

/-- Neither a platform nor an asset lacks anything. -/
structure Settled (s : Store) : Prop where
  platform : ∀ x, ¬s.PlatformDue x
  asset : ∀ x, ¬s.AssetDue x

/-- What is due to a platform is `sftp`, and the platform is there without it. -/
theorem PlatformDue.cases {x : NewPlatformProtocol} (h : s.PlatformDue x) :
    x.name = "sftp" ∧ s.platformOffers x.platformId "sftp" = false ∧
      ∃ platform ∈ s.platforms.rows, platform.id = x.platformId := by
  obtain ⟨p, _, ssh, hssh, new, hnew, rfl⟩ := h
  obtain ⟨_, hoffers, platform, hplatform, _, rfl⟩ := sftpCandidate?_eq_some_iff.mp hssh
  obtain ⟨options, _, rfl⟩ := Option.map_eq_some_iff.mp hnew
  have hid : platform.id = p.platformId := by simpa using List.find?_some hplatform
  exact ⟨rfl, hoffers, platform, List.mem_of_find?_eq_some hplatform, hid⟩

/-- What is due to an asset is `sftp`, and the asset is there without it. -/
theorem AssetDue.cases {x : NewAssetProtocol} (h : s.AssetDue x) :
    x.name = "sftp" ∧ s.assetOffers x.assetId "sftp" = false ∧ ∃ a ∈ s.assets, a.id = x.assetId := by
  obtain ⟨a, ha, _, hoffers, p, _, _, _, rfl⟩ := h
  exact ⟨rfl, hoffers, a, ha, rfl⟩

/-- One protocol at most is due to a platform, since it has one `ssh`. -/
theorem Consistent.platformDue_unique (hs : s.Consistent) {x y : NewPlatformProtocol}
    (hx : s.PlatformDue x) (hy : s.PlatformDue y) (hid : x.platformId = y.platformId) : x = y := by
  obtain ⟨p, hp, ssh, hssh, new, hnew, rfl⟩ := hx
  obtain ⟨q, hq, ssh', hssh', new', hnew', rfl⟩ := hy
  -- both follow from the one `ssh` of the platform
  have hpq : (p.platformId, p.name) = (q.platformId, q.name) := by
    obtain ⟨hname, _, _, _, _, rfl⟩ := sftpCandidate?_eq_some_iff.mp hssh
    obtain ⟨hname', _, _, _, _, rfl⟩ := sftpCandidate?_eq_some_iff.mp hssh'
    obtain ⟨_, _, rfl⟩ := Option.map_eq_some_iff.mp hnew
    obtain ⟨_, _, rfl⟩ := Option.map_eq_some_iff.mp hnew'
    exact Prod.ext hid (hname.trans hname'.symm)
  obtain rfl := hs.platformOffers.eq_of_mem hp hq hpq
  obtain rfl := Option.some.inj (hssh.symm.trans hssh')
  rw [Option.some.inj (hnew.symm.trans hnew')]

theorem Consistent.assetDue_unique (hs : s.Consistent) {x y : NewAssetProtocol}
    (hx : s.AssetDue x) (hy : s.AssetDue y) (hid : x.assetId = y.assetId) : x = y := by
  obtain ⟨a, _, _, _, p, hp, hname, hasset, rfl⟩ := hx
  obtain ⟨b, _, _, _, q, hq, hname', hasset', rfl⟩ := hy
  have hab : a.id = b.id := hid
  have hpq : (p.assetId, p.name) = (q.assetId, q.name) := by
    rw [hname, hname', hasset, hasset', hab]
  obtain rfl := hs.assetOffers.eq_of_mem hp hq hpq
  rw [hab]

/-! ## Filling

Rows are only added, and only such as were due. Since no `ssh` is added and no platform changed,
what is due can be compared in both stores. -/

/-- Only what was due was inserted. -/
structure Fills (s s' : Store) : Prop where
  edits : Edits s s'
  platforms : s'.platforms = s.platforms
  assets : s'.assets = s.assets
  platformProtocols : ∀ p ∈ s'.platformProtocols.rows,
    p ∈ s.platformProtocols.rows ∨ s.PlatformDue p.entry
  assetProtocols : ∀ p ∈ s'.assetProtocols.rows, p ∈ s.assetProtocols.rows ∨ s.AssetDue p.entry

namespace Fills

theorem mem_platformProtocols (h : s.Fills s') {p : PlatformProtocol}
    (hp : p ∈ s.platformProtocols.rows) : p ∈ s'.platformProtocols.rows :=
  h.edits.toExtends.platformProtocols.rows.subset hp

theorem mem_assetProtocols (h : s.Fills s') {p : AssetProtocol} (hp : p ∈ s.assetProtocols.rows) :
    p ∈ s'.assetProtocols.rows :=
  h.edits.toExtends.assetProtocols.rows.subset hp

/-- Protocols `ssh` are not inserted. -/
theorem mem_platformProtocols_iff (h : s.Fills s') {p : PlatformProtocol} (hname : p.name = "ssh") :
    p ∈ s'.platformProtocols.rows ↔ p ∈ s.platformProtocols.rows := by
  refine ⟨fun hp => ?_, h.mem_platformProtocols⟩
  refine (h.platformProtocols p hp).resolve_right fun hdue => ?_
  exact absurd (hname.symm.trans hdue.cases.1) (by decide)

theorem mem_assetProtocols_iff (h : s.Fills s') {p : AssetProtocol} (hname : p.name = "ssh") :
    p ∈ s'.assetProtocols.rows ↔ p ∈ s.assetProtocols.rows := by
  refine ⟨fun hp => ?_, h.mem_assetProtocols⟩
  refine (h.assetProtocols p hp).resolve_right fun hdue => ?_
  exact absurd (hname.symm.trans hdue.cases.1) (by decide)

theorem platformOffers (h : s.Fills s') {platformId : Int} {name : String}
    (hoffers : s.platformOffers platformId name = true) : s'.platformOffers platformId name = true := by
  obtain ⟨p, hp, hkey⟩ := platformOffers_iff.mp hoffers
  exact platformOffers_iff.mpr ⟨p, h.mem_platformProtocols hp, hkey⟩

theorem assetOffers (h : s.Fills s') {assetId name : String}
    (hoffers : s.assetOffers assetId name = true) : s'.assetOffers assetId name = true := by
  obtain ⟨p, hp, hkey⟩ := assetOffers_iff.mp hoffers
  exact assetOffers_iff.mpr ⟨p, h.mem_assetProtocols hp, hkey⟩

theorem platformOf? (h : s.Fills s') (p : PlatformProtocol) :
    s'.platformOf? p = s.platformOf? p := by
  unfold Store.platformOf?
  rw [h.platforms]

/-! ### What is due, earlier and later -/

/-- Nothing becomes due. -/
theorem platformDue (h : s.Fills s') {x : NewPlatformProtocol} (hdue : s'.PlatformDue x) :
    s.PlatformDue x := by
  obtain ⟨p, hp, ssh, hssh, hnew⟩ := hdue
  obtain ⟨hname, hoffers, platform, hplatform, htarget, rfl⟩ := sftpCandidate?_eq_some_iff.mp hssh
  -- a platform that lacks it now lacked it before
  have hlacked : s.platformOffers p.platformId "sftp" = false :=
    Bool.eq_false_iff.mpr fun hold => Bool.eq_false_iff.mp hoffers (h.platformOffers hold)
  rw [h.platformOf?] at hplatform
  exact ⟨p, (h.mem_platformProtocols_iff hname).mp hp, _, sftpCandidate?_eq_some_iff.mpr
    ⟨hname, hlacked, platform, hplatform, htarget, rfl⟩, hnew⟩

/-- What was due still is, unless it has been inserted. -/
theorem platformDue_or (h : s.Fills s') {x : NewPlatformProtocol} (hdue : s.PlatformDue x) :
    s'.PlatformDue x ∨ s'.platformOffers x.platformId "sftp" = true := by
  cases hoffers : s'.platformOffers x.platformId "sftp" with
  | true => exact .inr rfl
  | false =>
      obtain ⟨p, hp, ssh, hssh, new, hnew, rfl⟩ := hdue
      obtain ⟨hname, _, platform, hplatform, htarget, rfl⟩ := sftpCandidate?_eq_some_iff.mp hssh
      obtain ⟨options, hoptions, rfl⟩ := Option.map_eq_some_iff.mp hnew
      rw [← h.platformOf?] at hplatform
      exact .inl ⟨p, h.mem_platformProtocols hp, _, sftpCandidate?_eq_some_iff.mpr
        ⟨hname, hoffers, platform, hplatform, htarget, rfl⟩, _, hnew, rfl⟩

/-- Which assets are served does not depend on who has filled how much. -/
theorem platformServes_iff (h : s.Fills s') {platformId : Int} :
    s'.PlatformServes platformId ↔ s.PlatformServes platformId := by
  constructor
  · rintro (hoffers | ⟨x, hdue, rfl⟩)
    · obtain ⟨p, hp, rfl, hname⟩ := platformOffers_iff.mp hoffers
      rcases h.platformProtocols p hp with hp | hdue
      · exact .inl (platformOffers_iff.mpr ⟨p, hp, rfl, hname⟩)
      · exact .inr ⟨p.entry, hdue, rfl⟩
    · exact .inr ⟨x, h.platformDue hdue, rfl⟩
  · rintro (hoffers | ⟨x, hdue, rfl⟩)
    · exact .inl (h.platformOffers hoffers)
    · rcases h.platformDue_or hdue with hdue | hoffers
      · exact .inr ⟨x, hdue, rfl⟩
      · exact .inl hoffers

/-- What is due to an asset later was due to it before. -/
theorem assetDue (h : s.Fills s') {x : NewAssetProtocol} (hdue : s'.AssetDue x) : s.AssetDue x := by
  obtain ⟨a, ha, hserves, hoffers, p, hp, hname, hasset⟩ := hdue
  have hlacked : s.assetOffers a.id "sftp" = false :=
    Bool.eq_false_iff.mpr fun hold => Bool.eq_false_iff.mp hoffers (h.assetOffers hold)
  rw [h.assets] at ha
  exact ⟨a, ha, h.platformServes_iff.mp hserves, hlacked, p, (h.mem_assetProtocols_iff hname).mp hp,
    hname, hasset⟩

/-- What was due to an asset is due or has been given. -/
theorem assetDue_or (h : s.Fills s') {x : NewAssetProtocol} (hdue : s.AssetDue x) :
    s'.AssetDue x ∨ s'.assetOffers x.assetId "sftp" = true := by
  cases hoffers : s'.assetOffers x.assetId "sftp" with
  | true => exact .inr rfl
  | false =>
      obtain ⟨a, ha, hserves, _, p, hp, hname, hasset, rfl⟩ := hdue
      rw [← h.assets] at ha
      exact .inl ⟨a, ha, h.platformServes_iff.mpr hserves, hoffers, p, h.mem_assetProtocols hp, hname,
        hasset, rfl⟩

theorem settled (h : s.Fills s') (hs : s.Settled) : s'.Settled :=
  ⟨fun x hdue => hs.platform x (h.platformDue hdue), fun x hdue => hs.asset x (h.assetDue hdue)⟩

theorem refl (s : Store) : s.Fills s :=
  ⟨.refl, rfl, rfl, fun _ hp => .inl hp, fun _ hp => .inl hp⟩

/-- To fill a store twice is to fill it: what was due later was due at the beginning. -/
theorem trans (h : s.Fills s') (h' : s'.Fills s'') : s.Fills s'' where
  edits := h.edits.trans h'.edits
  platforms := h'.platforms.trans h.platforms
  assets := h'.assets.trans h.assets
  platformProtocols := by
    intro p hp
    rcases h'.platformProtocols p hp with hp | hdue
    · exact h.platformProtocols p hp
    · exact .inr (h.platformDue hdue)
  assetProtocols := by
    intro p hp
    rcases h'.assetProtocols p hp with hp | hdue
    · exact h.assetProtocols p hp
    · exact .inr (h.assetDue hdue)

instance : IsPreorder Store Fills where
  refl := refl
  trans _ _ _ := trans

/-! ### Where nothing is due any more

All that was due has been inserted, and nothing else, so what the rows say is determined. Their
numbers are not: they tell in which order the rows came. -/

/-- The entries of platforms are the old ones and those that were due. -/
theorem platform_entries (h : s.Fills s') (hs : s.Consistent) (hsettled : s'.Settled)
    (x : NewPlatformProtocol) :
    x ∈ s'.platformProtocols.rows.map (·.entry) ↔
      x ∈ s.platformProtocols.rows.map (·.entry) ∨ s.PlatformDue x := by
  constructor
  · intro hx
    obtain ⟨p, hp, rfl⟩ := List.mem_map.mp hx
    exact (h.platformProtocols p hp).imp_left List.mem_map_of_mem
  · rintro (hx | hdue)
    · obtain ⟨p, hp, rfl⟩ := List.mem_map.mp hx
      exact List.mem_map_of_mem (h.mem_platformProtocols hp)
    · have hoffers := (h.platformDue_or hdue).resolve_left (hsettled.platform x)
      obtain ⟨p, hp, hid, hname⟩ := platformOffers_iff.mp hoffers
      -- the platform did not offer it before, and only one protocol was due for it
      obtain ⟨_, hlacked, _⟩ := hdue.cases
      have hnew : p ∉ s.platformProtocols.rows := fun hold =>
        Bool.eq_false_iff.mp hlacked (platformOffers_iff.mpr ⟨p, hold, hid, hname⟩)
      have hdue' := (h.platformProtocols p hp).resolve_left hnew
      rw [← hs.platformDue_unique hdue' hdue hid]
      exact List.mem_map_of_mem hp

/-- The entries of assets are the old ones and those that were due. -/
theorem asset_entries (h : s.Fills s') (hs : s.Consistent) (hsettled : s'.Settled)
    (x : NewAssetProtocol) :
    x ∈ s'.assetProtocols.rows.map (·.entry) ↔
      x ∈ s.assetProtocols.rows.map (·.entry) ∨ s.AssetDue x := by
  constructor
  · intro hx
    obtain ⟨p, hp, rfl⟩ := List.mem_map.mp hx
    exact (h.assetProtocols p hp).imp_left List.mem_map_of_mem
  · rintro (hx | hdue)
    · obtain ⟨p, hp, rfl⟩ := List.mem_map.mp hx
      exact List.mem_map_of_mem (h.mem_assetProtocols hp)
    · have hoffers := (h.assetDue_or hdue).resolve_left (hsettled.asset x)
      obtain ⟨p, hp, hid, hname⟩ := assetOffers_iff.mp hoffers
      obtain ⟨_, hlacked, _⟩ := hdue.cases
      -- the row that the asset has now is new, so it was due, and one only was
      have hnew : p ∉ s.assetProtocols.rows := fun hold =>
        Bool.eq_false_iff.mp hlacked (assetOffers_iff.mpr ⟨p, hold, hid, hname⟩)
      have hdue' := (h.assetProtocols p hp).resolve_left hnew
      rw [← hs.assetDue_unique hdue' hdue hid]
      exact List.mem_map_of_mem hp

end Fills

/-- The same protocols, under whatever numbers. -/
structure SameEntries (s s' : Store) : Prop where
  platforms : ∀ x, x ∈ s.platformProtocols.rows.map (·.entry) ↔ x ∈ s'.platformProtocols.rows.map (·.entry)
  assets : ∀ x, x ∈ s.assetProtocols.rows.map (·.entry) ↔ x ∈ s'.assetProtocols.rows.map (·.entry)

theorem SameEntries.refl (s : Store) : s.SameEntries s := ⟨fun _ => Iff.rfl, fun _ => Iff.rfl⟩

/-- Everybody who fills a store until nothing is due any more comes to the same end. -/
theorem Fills.sameEntries (h : s.Fills s') (h' : s.Fills s'') (hs : s.Consistent)
    (hsettled : s'.Settled)
    (hsettled' : s''.Settled) : s'.SameEntries s'' where
  platforms := fun x =>
    (h.platform_entries hs hsettled x).trans (h'.platform_entries hs hsettled' x).symm
  assets := fun x => (h.asset_entries hs hsettled x).trans (h'.asset_entries hs hsettled' x).symm

/-! ## What is planned -/

/-- What is planned for a platform is due to it. -/
theorem due_of_mem_platformPlan {q : Backfill.PlannedPlatform}
    (hq : q ∈ Backfill.platformPlan s.sftpCandidates) : s.PlatformDue q.protocol := by
  obtain ⟨ssh, hssh, hnew⟩ := Backfill.mem_platformPlan hq
  obtain ⟨p, hp, hcandidate⟩ := List.mem_filterMap.mp hssh
  exact ⟨p, hp, ssh, hcandidate, q, hnew, rfl⟩

/-- For each platform to which something is due, something is planned. -/
theorem PlatformDue.planned {x : NewPlatformProtocol} (h : s.PlatformDue x) :
    ∃ q ∈ Backfill.platformPlan s.sftpCandidates, q.protocol.platformId = x.platformId := by
  obtain ⟨p, hp, ssh, hssh, new, hnew, rfl⟩ := h
  exact Backfill.platformPlan_covers (List.mem_filterMap.mpr ⟨p, hp, hssh⟩) hnew

theorem mem_assetsMissingSftp {id : String} :
    id ∈ s.assetsMissingSftp ↔ ∃ a ∈ s.assets, s.platformOffers a.platformId "sftp" = true ∧
      s.assetOffers a.id "sftp" = false ∧ a.id = id := by
  simp [assetsMissingSftp, missesSftp, and_assoc]

theorem length_assetsMissingSftp_le (s : Store) : s.assetsMissingSftp.length ≤ s.assets.length := by
  unfold assetsMissingSftp
  rw [List.length_mergeSort, List.length_map]
  exact List.length_filter_le _ _

theorem mem_sshProtocolsOf {ids : List String} {p : AssetProtocol} :
    p ∈ s.sshProtocolsOf ids ↔ p ∈ s.assetProtocols.rows ∧ p.name = "ssh" ∧ p.assetId ∈ ids := by
  simp [sshProtocolsOf]

/-- Where the platforms have what they lack, assets to which something is due are listed. -/
theorem AssetDue.missing (hplatforms : ∀ x, ¬s.PlatformDue x) {x : NewAssetProtocol}
    (h : s.AssetDue x) : x.assetId ∈ s.assetsMissingSftp := by
  obtain ⟨a, ha, hserves, hoffers, p, _, _, _, rfl⟩ := h
  have hserved := hserves.resolve_right fun ⟨y, hdue, _⟩ => hplatforms y hdue
  exact mem_assetsMissingSftp.mpr ⟨a, ha, hserved, hoffers, rfl⟩

theorem AssetDue.planned {ids : List String} {x : NewAssetProtocol} (h : s.AssetDue x)
    (hx : x.assetId ∈ ids) :
    ∃ y ∈ Backfill.assetPlan (s.sshProtocolsOf ids), y.assetId = x.assetId := by
  obtain ⟨a, _, _, _, p, hp, hname, hasset, rfl⟩ := h
  rw [← hasset]
  exact Backfill.assetPlan_covers (mem_sshProtocolsOf.mpr ⟨hp, hname, hasset ▸ hx⟩)

/-! ## Insertions

Between a plan and its insertion the store may have been filled by others. A planned row still fits:
it is due, or its key is taken and it is passed over. So all rows can be inserted one after the
other, and afterwards all keys are taken. -/

def sftpAssets (s : Store) : Nat := s.assetProtocols.rows.countP (·.name == "sftp")

/-- Whether a protocol `sftp` can be inserted for a platform, or is there. -/
def PlatformFits (s : Store) (x : NewPlatformProtocol) : Prop :=
  x.name = "sftp" ∧ (s.PlatformDue x ∨ s.platformOffers x.platformId "sftp" = true)

/-- Whether a protocol `sftp` can be inserted for an asset, or is there. -/
def AssetFits (s : Store) (x : NewAssetProtocol) : Prop :=
  x.name = "sftp" ∧ (s.AssetDue x ∨ s.assetOffers x.assetId "sftp" = true)

/-- What fits goes on to fit while others fill the store. -/
theorem Fills.platformFits (h : s.Fills s') {x : NewPlatformProtocol} (hx : s.PlatformFits x) :
    s'.PlatformFits x := by
  obtain ⟨hname, hdue | hoffers⟩ := hx
  · exact ⟨hname, h.platformDue_or hdue⟩
  · exact ⟨hname, .inr (h.platformOffers hoffers)⟩

theorem Fills.assetFits (h : s.Fills s') {x : NewAssetProtocol} (hx : s.AssetFits x) :
    s'.AssetFits x := by
  obtain ⟨hname, hdue | hoffers⟩ := hx
  · exact ⟨hname, h.assetDue_or hdue⟩
  · exact ⟨hname, .inr (h.assetOffers hoffers)⟩

/-- Whatever is planned for assets on platforms with `sftp` fits. -/
theorem fits_of_mem_assetPlan {ids : List String}
    (hids : ∀ id ∈ ids, ∃ a ∈ s.assets, a.id = id ∧ s.platformOffers a.platformId "sftp" = true)
    {x : NewAssetProtocol} (hx : x ∈ Backfill.assetPlan (s.sshProtocolsOf ids)) : s.AssetFits x := by
  obtain ⟨p, hp, rfl⟩ := Backfill.mem_assetPlan hx
  obtain ⟨hp, hname, hmem⟩ := mem_sshProtocolsOf.mp hp
  refine ⟨rfl, ?_⟩
  cases hoffers : s.assetOffers p.assetId "sftp" with
  | true => exact .inr rfl
  | false =>
      obtain ⟨a, ha, hid, hserved⟩ := hids p.assetId hmem
      rw [← hid] at hoffers ⊢
      exact .inl ⟨a, ha, .inl hserved, hoffers, p, hp, hname, hid.symm, rfl⟩

/-- A row that fits is inserted or passed over, and both fills the store. -/
theorem insertPlatformProtocol_fills {x : NewPlatformProtocol} (hx : s.PlatformFits x) :
    ∃ n s', s.insertPlatformProtocol x = .ok (n, s') ∧ (s.Fills s' ∧ s'.sftpAssets = s.sftpAssets) ∧
      s'.platformOffers x.platformId "sftp" = true := by
  obtain ⟨hname, hx⟩ := hx
  cases hoffers : s.platformOffers x.platformId x.name with
  | true =>
      have hok := insertPlatformProtocol_eq_ok_iff.mpr (.inl ⟨hoffers, rfl, rfl⟩)
      rw [hname] at hoffers
      exact ⟨_, _, hok, ⟨⟨insertPlatformProtocol_edits hok, rfl, rfl, fun _ hp => .inl hp,
        fun _ hp => .inl hp⟩, rfl⟩, hoffers⟩
  | false =>
      -- the key is free, so the row is due
      have hdue : s.PlatformDue x := by
        rw [hname] at hoffers
        exact hx.resolve_right (Bool.eq_false_iff.mp hoffers)
      have hok := insertPlatformProtocol_eq_ok_iff.mpr (.inr ⟨hoffers, hdue.cases.2.2, rfl, rfl⟩)
      refine ⟨_, _, hok, ⟨⟨insertPlatformProtocol_edits hok, rfl, rfl, ?_, fun _ hp => .inl hp⟩, rfl⟩, ?_⟩
      · intro p hp
        rcases Numbered.mem_insert.mp hp with hp | rfl
        · exact .inl hp
        · exact .inr hdue
      · exact platformOffers_iff.mpr ⟨_, Numbered.mem_insert.mpr (.inr rfl), rfl, hname⟩

/-- The same for an asset, where the rows are counted. -/
theorem insertAssetProtocol_fills {x : NewAssetProtocol} (hx : s.AssetFits x) :
    ∃ n s', s.insertAssetProtocol x = .ok (n, s') ∧
      (s.Fills s' ∧ s'.sftpAssets = s.sftpAssets + n) ∧ s'.assetOffers x.assetId "sftp" = true := by
  obtain ⟨hname, hx⟩ := hx
  cases hoffers : s.assetOffers x.assetId x.name with
  | true =>
      have hok := insertAssetProtocol_eq_ok_iff.mpr (.inl ⟨hoffers, rfl, rfl⟩)
      rw [hname] at hoffers
      exact ⟨_, _, hok, ⟨⟨insertAssetProtocol_edits hok, rfl, rfl, fun _ hp => .inl hp,
        fun _ hp => .inl hp⟩, rfl⟩, hoffers⟩
  | false =>
      have hdue : s.AssetDue x := by
        rw [hname] at hoffers
        exact hx.resolve_right (Bool.eq_false_iff.mp hoffers)
      have hok := insertAssetProtocol_eq_ok_iff.mpr (.inr ⟨hoffers, hdue.cases.2.2, rfl, rfl⟩)
      refine ⟨_, _, hok, ⟨⟨insertAssetProtocol_edits hok, rfl, rfl, fun _ hp => .inl hp, ?_⟩, ?_⟩, ?_⟩
      · intro p hp
        rcases Numbered.mem_insert.mp hp with hp | rfl
        · exact .inl hp
        · exact .inr hdue
      · have hsftp : ((x.row s.assetProtocols.nextId).name == "sftp") = true := by
          rw [beq_iff_eq]
          exact hname
        show (s.assetProtocols.rows ++ [x.row s.assetProtocols.nextId]).countP (·.name == "sftp") = _
        rw [List.countP_append, List.countP_singleton, if_pos hsftp]
        rfl
      · exact assetOffers_iff.mpr ⟨_, Numbered.mem_insert.mpr (.inr rfl), rfl, hname⟩

/-- If a row can be inserted and is there afterwards, whatever was inserted meanwhile, then so can
rows one after the other. -/
theorem insertMany_moves {α : Type} {insert : α → Store → Except StoreError (Nat × Store)}
    (moves : Nat → Store → Store → Prop) {fits there : Store → α → Prop}
    (zero : ∀ s, moves 0 s s)
    (add : ∀ n k s s' s'', moves n s s' → moves k s' s'' → moves (n + k) s s'')
    (keepFits : ∀ x n s s', moves n s s' → fits s x → fits s' x)
    (keepThere : ∀ x n s s', moves n s s' → there s x → there s' x)
    (hinsert : ∀ x s, fits s x → ∃ n s', insert x s = .ok (n, s') ∧ moves n s s' ∧ there s' x)
    {rows : List α} (h : ∀ x ∈ rows, fits s x) :
    ∃ n s', s.insertMany insert rows = .ok (n, s') ∧ moves n s s' ∧ ∀ x ∈ rows, there s' x := by
  -- the rows that are left fit, and those that are through are there
  have hround : ∀ x rest n s₁,
      (moves n s s₁ ∧ (∀ y ∈ x :: rest, fits s₁ y) ∧ ∀ y ∈ rows, y ∈ x :: rest ∨ there s₁ y) →
        ∃ k s₂, insert x s₁ = .ok (k, s₂) ∧
          moves (n + k) s s₂ ∧ (∀ y ∈ rest, fits s₂ y) ∧ ∀ y ∈ rows, y ∈ rest ∨ there s₂ y := by
    rintro x rest n s₁ ⟨hmoves, hfits, hthere⟩
    obtain ⟨k, s₂, hok, hmoves', hx⟩ := hinsert x s₁ (hfits x List.mem_cons_self)
    refine ⟨k, s₂, hok, add n k s s₁ s₂ hmoves hmoves', ?_, ?_⟩
    · intro y hy
      exact keepFits y k s₁ s₂ hmoves' (hfits y (List.mem_cons_of_mem x hy))
    · intro y hy
      rcases hthere y hy with hy | hy
      · rcases List.mem_cons.mp hy with rfl | hy
        · exact .inr hx
        · exact .inl hy
      · exact .inr (keepThere y k s₁ s₂ hmoves' hy)
  obtain ⟨n, s', hok, hmoves, _, hthere⟩ := insertMany_ok (fun rest n s' => moves n s s' ∧
    (∀ y ∈ rest, fits s' y) ∧ ∀ y ∈ rows, y ∈ rest ∨ there s' y) hround ⟨zero s, h, fun _ hx => .inl hx⟩
  exact ⟨n, s', hok, hmoves, fun x hx => (hthere x hx).resolve_left List.not_mem_nil⟩

theorem insertPlatformProtocols_fills {rows : List NewPlatformProtocol}
    (h : ∀ x ∈ rows, s.PlatformFits x) :
    ∃ n s', s.insertMany insertPlatformProtocol rows = .ok (n, s') ∧
      (s.Fills s' ∧ s'.sftpAssets = s.sftpAssets) ∧
      ∀ x ∈ rows, s'.platformOffers x.platformId "sftp" = true := by
  apply insertMany_moves (fun _ s s' => s.Fills s' ∧ s'.sftpAssets = s.sftpAssets) ?_ ?_ ?_ ?_ ?_ h
  · exact fun s => ⟨.refl s, rfl⟩
  · exact fun _ _ _ _ _ h h' => ⟨h.1.trans h'.1, h'.2.trans h.2⟩
  · exact fun _ _ _ _ h hx => h.1.platformFits hx
  · exact fun _ _ _ _ h hx => h.1.platformOffers hx
  · exact fun _ _ hx => insertPlatformProtocol_fills hx

theorem insertAssetProtocols_fills {rows : List NewAssetProtocol} (h : ∀ x ∈ rows, s.AssetFits x) :
    ∃ n s', s.insertMany insertAssetProtocol rows = .ok (n, s') ∧
      (s.Fills s' ∧ s'.sftpAssets = s.sftpAssets + n) ∧
      ∀ x ∈ rows, s'.assetOffers x.assetId "sftp" = true := by
  apply insertMany_moves (fun n s s' => s.Fills s' ∧ s'.sftpAssets = s.sftpAssets + n) ?_ ?_ ?_ ?_ ?_ h
  · exact fun s => ⟨.refl s, rfl⟩
  · exact fun n k s _ _ h h' => ⟨h.1.trans h'.1, by rw [h'.2, h.2, Nat.add_assoc]⟩
  · exact fun _ _ _ _ h hx => h.1.assetFits hx
  · exact fun _ _ _ _ h hx => h.1.assetOffers hx
  · exact fun _ _ hx => insertAssetProtocol_fills hx

end Store
end GatewayRegistry
