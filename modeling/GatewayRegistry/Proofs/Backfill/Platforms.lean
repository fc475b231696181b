import GatewayRegistry.Proofs.Backfill.Due
import GatewayRegistry.Proofs.Backfill.Rerun
import GatewayRegistry.Proofs.Json.Reader
import GatewayRegistry.Proofs.Json.Text
import GatewayRegistry.Proofs.Store.Offers

/-!
# What a backfill gives to platforms

A platform is to be given `sftp` if it has a protocol `ssh` that allows it (`Store.Grants`), and
what it is given follows from that protocol (`Backfill.Beside`). None of these rows conflicts with
another one, so all of them are inserted, in the order of the numbers of the platforms.
-/

namespace GatewayRegistry

/-! ## Options of `ssh` -/

namespace Backfill

variable {ssh : SshPlatform} {options : Members}

/-- Options allow `sftp` only by the truth value itself. -/
theorem allowedOptions?_eq_some_iff :
    allowedOptions? ssh = some options ↔
      Json.parse? ssh.setting = some (.obj options) ∧
        options.get? "sftp_enabled" = some (.bool true) := by
  -- only the value `true` allows it; a text or a number does not
  have hallowed : ∀ ms : Members, ((ms.get? "sftp_enabled").bind Json.asBool?).getD false = true ↔
      ms.get? "sftp_enabled" = some (.bool true) := by
    intro ms
    cases ms.get? "sftp_enabled" with
    | none => simp
    | some v => cases v <;> simp [Json.asBool?]
  rw [← Json.parseObject?_eq_some_iff]
  unfold allowedOptions?
  cases Json.parseObject? ssh.setting with
  | none => simp
  | some ms =>
      simp only [Option.ite_none_right_eq_some, Option.some.injEq, hallowed]
      constructor
      · rintro ⟨h, rfl⟩
        exact ⟨rfl, h⟩
      · rintro ⟨rfl, h⟩
        exact ⟨h, rfl⟩

/-- The directory in which transfers start: the one that the options name, or else `/tmp`. -/
inductive StartsIn (options : Members) : String → Prop
  | named {home : String} (text : options.get? "sftp_home" = some (.str home)) : StartsIn options home
  | default (noText : ∀ home, options.get? "sftp_home" ≠ some (.str home)) : StartsIn options "/tmp"

/-- The directory is read from the options, or it is the usual one. -/
theorem startsIn_homeOf (options : Members) : StartsIn options (homeOf options) := by
  unfold homeOf
  cases hhome : options.get? "sftp_home" with
  | none => exact .default fun home h => by simp [hhome] at h
  | some v =>
      cases v with
      | str home => exact .named hhome
      | _ => exact .default fun home h => by simp [hhome] at h

/-- The row of a protocol `sftp` beside a protocol `ssh` with some options. -/
structure Beside (ssh : PlatformProtocol) (options : Members) (row : PlatformProtocol) : Prop where
  platformId : row.platformId = ssh.platformId
  name : row.name = "sftp"
  port : row.port = ssh.port
  isPrimary : row.isPrimary = false
  isRequired : row.isRequired = false
  isDefault : row.isDefault = true
  isPublic : row.isPublic = true
  setting : ∃ home, StartsIn options home ∧
    Json.parse? row.setting = some (.obj [("sftp_home", .str home)])

end Backfill

/-! ## Platforms -/

namespace Store

open Backfill (planned? platformPlan PlannedPlatform Beside)

variable {s : Store}

/-- A platform is to be given `sftp` by the options of its protocol `ssh`. -/
structure Grants (s : Store) (platform : Platform) (ssh : PlatformProtocol) (options : Members) :
    Prop where
  storedPlatform : platform ∈ s.platforms.rows
  linux : platform.type = "linux"
  notGateway : platform.name ≠ "Gateway"
  notRemoteAppHost : platform.name ≠ "RemoteAppHost"
  storedSsh : ssh ∈ s.platformProtocols.rows
  platformId : ssh.platformId = platform.id
  name : ssh.name = "ssh"
  readable : Json.parse? ssh.setting = some (.obj options)
  allowed : options.get? "sftp_enabled" = some (.bool true)
  lacking : ∀ p ∈ s.platformProtocols.rows, p.platformId = platform.id → p.name ≠ "sftp"

/-- Two platforms are left out by their names. -/
theorem isLinuxTarget_iff {platform : Platform} :
    platform.isLinuxTarget = true ↔
      platform.type = "linux" ∧ platform.name ≠ "Gateway" ∧ platform.name ≠ "RemoteAppHost" := by
  simp [Platform.isLinuxTarget, and_assoc]

theorem platformOffers_eq_false_iff {platformId : Int} {name : String} :
    s.platformOffers platformId name = false ↔
      ∀ p ∈ s.platformProtocols.rows, p.platformId = platformId → p.name ≠ name := by
  rw [Bool.eq_false_iff, ne_eq, platformOffers_iff]
  simp

def platformOf (q : PlannedPlatform) : Platform := ⟨q.protocol.platformId, q.name, "linux"⟩

/-- The platforms that are to be given `sftp`, in the order of their numbers. -/
def granted (s : Store) : List Platform := (platformPlan s.sftpCandidates).map platformOf

def grants (s : Store) : List NewPlatformProtocol :=
  (platformPlan s.sftpCandidates).map (·.protocol)

/-- A row of the plan goes back to a protocol `ssh` by which its platform is to be given `sftp`. -/
theorem grants_of_planned {q : PlannedPlatform} (hq : q ∈ platformPlan s.sftpCandidates) :
    ∃ ssh options, s.Grants (platformOf q) ssh options ∧
      ∀ n, Beside ssh options (q.protocol.row n) := by
  obtain ⟨candidate, hcandidate, hplanned⟩ := Backfill.mem_platformPlan hq
  obtain ⟨ssh, hssh, hfrom⟩ := List.mem_filterMap.mp hcandidate
  obtain ⟨hname, hlacking, platform, hplatform, htarget, rfl⟩ := sftpCandidate?_eq_some_iff.mp hfrom
  obtain ⟨options, hoptions, rfl⟩ := Option.map_eq_some_iff.mp hplanned
  obtain ⟨hreadable, hallowed⟩ := Backfill.allowedOptions?_eq_some_iff.mp hoptions
  obtain ⟨hlinux, hgateway, hhost⟩ := isLinuxTarget_iff.mp htarget
  have hid : platform.id = ssh.platformId := by simpa using List.find?_some hplatform
  -- the plan keeps the id and the name of the platform, which with its type is all there is
  have hsame : (⟨ssh.platformId, platform.name, "linux"⟩ : Platform) = platform := by
    rw [← hid, ← hlinux]
  refine ⟨ssh, options, ?_, fun n => ?_⟩
  · show s.Grants ⟨ssh.platformId, platform.name, "linux"⟩ ssh options
    rw [hsame]
    exact ⟨List.mem_of_find?_eq_some hplatform, hlinux, hgateway, hhost, hssh, hid.symm, hname,
      hreadable, hallowed, hid ▸ platformOffers_eq_false_iff.mp hlacking⟩
  · exact ⟨rfl, rfl, rfl, rfl, rfl, rfl, rfl, Backfill.homeOf options,
      Backfill.startsIn_homeOf options, Json.parse?_compact_single _ _⟩

/-- Every platform that is to be given `sftp` is in the plan. -/
theorem mem_granted_iff (hs : s.Consistent) {platform : Platform} :
    platform ∈ s.granted ↔ ∃ ssh options, s.Grants platform ssh options := by
  constructor
  · intro h
    obtain ⟨q, hq, rfl⟩ := List.mem_map.mp h
    obtain ⟨ssh, options, hgrants, _⟩ := grants_of_planned hq
    exact ⟨ssh, options, hgrants⟩
  · rintro ⟨ssh, options, h⟩
    have hplatform : s.platformOf? ssh = some platform :=
      hs.platformNumbers.unique.find?_eq_some_iff.mpr ⟨h.storedPlatform, h.platformId.symm⟩
    have htarget := isLinuxTarget_iff.mpr ⟨h.linux, h.notGateway, h.notRemoteAppHost⟩
    have hlacking := platformOffers_eq_false_iff.mpr (h.platformId ▸ h.lacking)
    have hcandidate := sftpCandidate?_eq_some_iff.mpr
      ⟨h.name, hlacking, platform, hplatform, htarget, rfl⟩
    have hoptions : Backfill.allowedOptions? ⟨ssh.platformId, platform.name, ssh.port, ssh.setting⟩ =
        some options := Backfill.allowedOptions?_eq_some_iff.mpr ⟨h.readable, h.allowed⟩
    have hdue : s.PlatformDue _ :=
      ⟨ssh, h.storedSsh, _, hcandidate, _, Option.map_eq_some_iff.mpr ⟨options, hoptions, rfl⟩, rfl⟩
    obtain ⟨q, hq, hid⟩ := hdue.planned
    obtain ⟨_, _, hgrants, _⟩ := grants_of_planned hq
    -- the number of a platform determines it
    have hsame : platformOf q = platform := by
      apply hs.platformNumbers.unique.eq_of_mem hgrants.storedPlatform h.storedPlatform
      exact hid.trans h.platformId
    rw [← hsame]
    exact List.mem_map_of_mem hq

/-! ## Insertions

No two rows of the plan are for one platform and none is for a platform that has `sftp`, so every
row is inserted and gets the next number. -/

/-- The rows that new protocols become, numbered upwards from a number. -/
def numberedRows (n : Int) : List NewPlatformProtocol → List PlatformProtocol
  | [] => []
  | new :: news => new.row n :: numberedRows (n + 1) news

theorem numberedRows_snoc (n : Int) (news : List NewPlatformProtocol) (new : NewPlatformProtocol) :
    numberedRows n (news ++ [new]) = numberedRows n news ++ [new.row (n + news.length)] := by
  induction news generalizing n with
  | nil => simp [numberedRows]
  | cons first news ih =>
      rw [List.cons_append, numberedRows, ih, numberedRows, List.cons_append, List.length_cons]
      congr 4
      push_cast
      omega

/-- What holds of the platforms of a plan and their rows, whatever the numbers of the rows are. -/
theorem forall₂_numberedRows {R : Platform → PlatformProtocol → Prop} {plan : List PlannedPlatform}
    (h : ∀ q ∈ plan, ∀ n, R (platformOf q) (q.protocol.row n)) (n : Int) :
    List.Forall₂ R (plan.map platformOf) (numberedRows n (plan.map (·.protocol))) := by
  induction plan generalizing n with
  | nil => exact .nil
  | cons q plan ih =>
      exact .cons (h q List.mem_cons_self n) (ih (fun r hr => h r (List.mem_cons_of_mem q hr)) (n + 1))

theorem ids_numberedRows (n : Int) (news : List NewPlatformProtocol) :
    (numberedRows n news).map (·.id) = (List.range news.length).map fun i : Nat => n + i := by
  induction news generalizing n with
  | nil => rfl
  | cons new news ih =>
      rw [numberedRows, List.map_cons, ih, List.length_cons, List.range_succ_eq_map, List.map_cons,
        List.map_map]
      congr 1
      · simp [NewPlatformProtocol.row]
      · apply List.map_congr_left
        intro i _
        show n + 1 + i = n + ((i + 1 : Nat) : Int)
        push_cast
        omega

/-- A table with new protocols behind the others. -/
def extended (t : Numbered PlatformProtocol) (news : List NewPlatformProtocol) :
    Numbered PlatformProtocol where
  rows := t.rows ++ numberedRows t.nextId news
  lastId := t.lastId + news.length

theorem extended_snoc (t : Numbered PlatformProtocol) (news : List NewPlatformProtocol)
    (new : NewPlatformProtocol) : (extended t news).insert new.row = extended t (news ++ [new]) := by
  have hnext : t.lastId + news.length + 1 = t.lastId + 1 + news.length := by omega
  simp only [extended, Numbered.insert, Numbered.nextId, numberedRows_snoc, List.append_assoc,
    List.length_append, List.length_singleton, hnext, Numbered.mk.injEq, true_and]
  push_cast
  omega

/-- The store with new protocols of platforms behind the others. -/
def withPlatformProtocols (s : Store) (news : List NewPlatformProtocol) : Store :=
  { s with platformProtocols := extended s.platformProtocols news }

/-- To extend a table is to insert rows into it. -/
theorem extended_eq_insertAll (t : Numbered PlatformProtocol) (news : List NewPlatformProtocol) :
    extended t news = t.insertAll (news.map NewPlatformProtocol.row) := by
  induction news using List.reverseRecOn with
  | nil => simp [extended, numberedRows, Numbered.insertAll]
  | append_singleton news new ih =>
      rw [← extended_snoc, ih, List.map_append, Numbered.insertAll_append]
      rfl

theorem withPlatformProtocols_nil (s : Store) : s.withPlatformProtocols [] = s := by
  simp [withPlatformProtocols, extended, numberedRows]

/-- Rows that conflict neither with the old ones nor with one another are all inserted. -/
theorem insertMany_platformProtocols {news : List NewPlatformProtocol}
    (hplatform : ∀ x ∈ news, ∃ p ∈ s.platforms.rows, p.id = x.platformId)
    (hlacking : ∀ x ∈ news, s.platformOffers x.platformId x.name = false)
    (hdistinct : news.Pairwise fun x y => x.platformId ≠ y.platformId) :
    s.insertMany insertPlatformProtocol news = .ok (news.length, s.withPlatformProtocols news) := by
  unfold withPlatformProtocols
  rw [extended_eq_insertAll]
  refine OfferKind.platforms_lawful.insertMany_free s s.platformProtocols ?_ ?_ ?_
  · exact fun x hx => hasPlatform_iff.mpr (hplatform x hx)
  · intro x hx
    rw [OfferKind.taken_platforms]
    exact hlacking x hx
  · exact hdistinct.imp fun hne hkey => hne (congrArg Prod.fst hkey)

end Store

/-! ## The backfill of platforms -/

namespace Backfill

variable {db : Database}

/-- The rows of the plan are inserted, and nothing else happens. -/
theorem platforms_ok (h : db.Ready) :
    platforms db =
      (.ok (db.store.granted.map (·.name)),
        { db with store := db.store.withPlatformProtocols db.store.grants }) := by
  have hask : Database.sftpCandidates db = (.ok db.store.sftpCandidates, db) :=
    Database.query_ok h.isOpen rfl
  have hnames : db.store.granted.map (·.name) =
      (platformPlan db.store.sftpCandidates).map (·.name) := by
    rw [Store.granted, List.map_map]
    rfl
  have hdue : ∀ x ∈ db.store.grants, db.store.PlatformDue x := by
    intro x hx
    obtain ⟨q, hq, rfl⟩ := List.mem_map.mp hx
    exact Store.due_of_mem_platformPlan hq
  -- the plan has one row for each platform, so no row takes the key of another
  have hdistinct : db.store.grants.Pairwise fun x y => x.platformId ≠ y.platformId :=
    List.pairwise_map.mpr ((platformPlan_ascending _).imp Int.ne_of_lt)
  have hinsert := Store.insertMany_platformProtocols (fun x hx => (hdue x hx).cases.2.2)
    (fun x hx => (hdue x hx).cases.1 ▸ (hdue x hx).cases.2.1) hdistinct
  have hrun : Database.insertPlatformProtocols db.store.grants db = (.ok db.store.grants.length, _) :=
    Database.transact_ok h.isOpen hinsert
  unfold platforms
  rw [call_bind_ok hask, hnames]
  split
  · next hempty =>
      have hnone : db.store.grants = [] := by
        rw [Store.grants, List.isEmpty_iff.mp hempty, List.map_nil]
      rw [hnone, Store.withPlatformProtocols_nil, List.isEmpty_iff.mp hempty]
      rfl
  · exact call_bind_ok hrun

/-- On open connections the platforms that are to be given `sftp`, and no others, are given one row
each, in the order of their numbers; nothing else changes, and their names are the answer. -/
theorem platforms_exact (d : Deployment) (h : d.Reachable) (hopen : d.database.isOpen = true) :
    let s := d.database.store
    ∃ (given : List Platform) (added : List PlatformProtocol),
      platforms d.database =
        (.ok (given.map (·.name)), { d.database with store := { s with platformProtocols := {
          rows := s.platformProtocols.rows ++ added
          lastId := s.platformProtocols.lastId + added.length } } }) ∧
      (∀ platform, platform ∈ given ↔ ∃ ssh options, s.Grants platform ssh options) ∧
      given.Pairwise (fun a b => a.id < b.id) ∧ (given.map (·.name)).Nodup ∧
      List.Forall₂ (fun platform row => ∃ ssh options,
        s.Grants platform ssh options ∧ Beside ssh options row) given added ∧
      added.map (·.id) =
        (List.range given.length).map fun i : Nat => s.platformProtocols.lastId + 1 + i := by
  intro s
  have hs : s.Consistent := h.consistent
  have hlength : (Store.numberedRows s.platformProtocols.nextId s.grants).length = s.grants.length := by
    rw [← List.length_map (·.id), Store.ids_numberedRows, List.length_map, List.length_range]
  have hsame : s.grants.length = s.granted.length := by
    rw [Store.grants, Store.granted, List.length_map, List.length_map]
  have hascending : s.granted.Pairwise fun a b => a.id < b.id :=
    List.pairwise_map.mpr (platformPlan_ascending _)
  refine ⟨s.granted, Store.numberedRows s.platformProtocols.nextId s.grants, ?_,
    fun platform => Store.mem_granted_iff hs, hascending, ?_, ?_, ?_⟩
  · rw [platforms_ok ⟨hopen, hs⟩, hlength]
    rfl
  -- platforms have different names
  · refine List.Nodup.map_on ?_ (hascending.imp fun hlt hsame => by simp [hsame] at hlt)
    intro a ha b hb hname
    obtain ⟨_, _, hgrants⟩ := (Store.mem_granted_iff hs).mp ha
    obtain ⟨_, _, hgrants'⟩ := (Store.mem_granted_iff hs).mp hb
    exact hs.platformNames.eq_of_mem hgrants.storedPlatform hgrants'.storedPlatform hname
  · apply Store.forall₂_numberedRows
    intro q hq n
    obtain ⟨ssh, options, hgrants, hbeside⟩ := Store.grants_of_planned hq
    exact ⟨ssh, options, hgrants, hbeside n⟩
  · rw [← hsame]
    exact Store.ids_numberedRows _ _

/-- Of three Linux platforms with a protocol `ssh`, one serves the gateways themselves and one has
options that cannot be read. -/
theorem platforms_exact_of_unevenFleet :
    let db := unevenFleet.database
    ∃ row, (platforms db).1 = .ok ["Linux"] ∧
      (platforms db).2.store.platformProtocols.rows = db.store.platformProtocols.rows ++ [row] ∧
      row.id = 4 ∧ row.name = "sftp" ∧ row.isDefault = true := by
  intro db
  obtain ⟨given, added, hrun, -, -, -, hrows, hids⟩ :=
    platforms_exact unevenFleet (.after _) (by decide +kernel)
  have hanswer : (platforms db).1 = .ok ["Linux"] := by decide +kernel
  have hlast : db.store.platformProtocols.lastId = 3 := by decide +kernel
  have hnames := hanswer
  rw [hrun] at hnames
  obtain ⟨platform, rfl, -⟩ := List.map_eq_singleton_iff.mp (Except.ok.inj hnames)
  obtain ⟨row, _, ⟨ssh, options, -, hbeside⟩, hnil, rfl⟩ := List.forall₂_cons_left_iff.mp hrows
  obtain rfl := List.forall₂_nil_left_iff.mp hnil
  refine ⟨row, hanswer, ?_, ?_, hbeside.name, hbeside.isDefault⟩
  · rw [hrun]
  · have hid : [row.id] = [db.store.platformProtocols.lastId + 1 + (0 : Nat)] := hids
    rw [hlast] at hid
    exact List.singleton_injective hid

end Backfill
end GatewayRegistry
