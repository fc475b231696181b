import GatewayRegistry.Proofs.Concurrent.Backfill
import Mathlib.Data.List.Induction

/-!
# What backfills at once report

A backfill reports the platforms that it planned, and the plan is made from the answer to a
question. How many rows the insertion then added is not looked at. All platforms that lack something
get it in one transaction, the first insertion of all (`Concurrent.Gives`), and so a report tells
what was given if the question came before that insertion, and nothing if it came after
(`Concurrent.mem_names_iff_gained`): of several backfills that ask in time one gives, and all claim
to have given.
-/

namespace GatewayRegistry

/-! ## Platforms by their names -/

namespace Store

variable {s s' s'' : Store} {name : String}

/-- Whether `sftp` is due to a platform of some name. -/
def NameDue (s : Store) (name : String) : Prop :=
  ∃ platform ∈ s.platforms.rows, platform.name = name ∧
    ∃ x, s.PlatformDue x ∧ x.platformId = platform.id

/-- Whether a platform of some name was given `sftp` between two moments. -/
def Gained (s s' : Store) (name : String) : Prop :=
  ∃ platform ∈ s.platforms.rows, platform.name = name ∧
    s.platformOffers platform.id "sftp" = false ∧ s'.platformOffers platform.id "sftp" = true

instance (s s' : Store) (name : String) : Decidable (s.Gained s' name) :=
  inferInstanceAs (Decidable (∃ platform ∈ s.platforms.rows, _))

theorem not_gained_self (s : Store) (name : String) : ¬s.Gained s name := by
  rintro ⟨platform, _, _, hlacks, hoffers⟩
  exact Bool.eq_false_iff.mp hlacks hoffers

/-- What is planned is due to the platform of that name. -/
theorem nameDue_of_mem_platformPlan {q : Backfill.PlannedPlatform}
    (hq : q ∈ Backfill.platformPlan s.sftpCandidates) : s.NameDue q.name := by
  have hdue := due_of_mem_platformPlan hq
  obtain ⟨ssh, hssh, hnew⟩ := Backfill.mem_platformPlan hq
  obtain ⟨p, _, hcandidate⟩ := List.mem_filterMap.mp hssh
  obtain ⟨_, _, platform, hplatform, _, rfl⟩ := sftpCandidate?_eq_some_iff.mp hcandidate
  obtain ⟨options, _, rfl⟩ := Option.map_eq_some_iff.mp hnew
  have hid : platform.id = p.platformId := by simpa using List.find?_some hplatform
  exact ⟨platform, List.mem_of_find?_eq_some hplatform, rfl, _, hdue, hid.symm⟩

/-- The names in a plan are those of the platforms to which something is due. -/
theorem Consistent.mem_planned_names (hs : s.Consistent) :
    name ∈ (Backfill.platformPlan s.sftpCandidates).map (·.name) ↔ s.NameDue name := by
  constructor
  · intro hname
    obtain ⟨q, hq, rfl⟩ := List.mem_map.mp hname
    exact nameDue_of_mem_platformPlan hq
  · rintro ⟨platform, hplatform, rfl, x, hdue, hid⟩
    obtain ⟨q, hq, hsame⟩ := hdue.planned
    -- what is planned for the platform carries the name of the one platform of that number
    obtain ⟨ssh, hssh, hnew⟩ := Backfill.mem_platformPlan hq
    obtain ⟨p, _, hcandidate⟩ := List.mem_filterMap.mp hssh
    obtain ⟨_, _, owner, howner, _, rfl⟩ := sftpCandidate?_eq_some_iff.mp hcandidate
    obtain ⟨options, _, rfl⟩ := Option.map_eq_some_iff.mp hnew
    have hnumber : owner.id = p.platformId := by simpa using List.find?_some howner
    obtain rfl := hs.platformNumbers.unique.eq_of_mem (List.mem_of_find?_eq_some howner) hplatform
      (hnumber.trans (hsame.trans hid))
    exact List.mem_map_of_mem hq

namespace Gained

theorem nameDue (h : s.Gained s' name) (hs : s.Fills s') : s.NameDue name := by
  obtain ⟨platform, hplatform, hname, hlacks, hoffers⟩ := h
  obtain ⟨p, hp, hid, hsftp⟩ := platformOffers_iff.mp hoffers
  have hdue := (hs.platformProtocols p hp).resolve_left fun hold =>
    Bool.eq_false_iff.mp hlacks (platformOffers_iff.mpr ⟨p, hold, hid, hsftp⟩)
  exact ⟨platform, hplatform, hname, p.entry, hdue, hid⟩

/-- What was given was given in the first or in the second part. -/
theorem cases (h : s.Gained s'' name) (hs : s.Fills s') :
    s.Gained s' name ∨ s'.Gained s'' name := by
  obtain ⟨platform, hplatform, hname, hlacks, hoffers⟩ := h
  cases hthen : s'.platformOffers platform.id "sftp" with
  | true => exact .inl ⟨platform, hplatform, hname, hlacks, hthen⟩
  | false => exact .inr ⟨platform, hs.platforms ▸ hplatform, hname, hthen, hoffers⟩

theorem later (h : s.Gained s' name) (hs : s'.Fills s'') : s.Gained s'' name := by
  obtain ⟨platform, hplatform, hname, hlacks, hoffers⟩ := h
  exact ⟨platform, hplatform, hname, hlacks, hs.platformOffers hoffers⟩

/-- What is gained later was not there before. -/
theorem earlier (h : s'.Gained s'' name) (hs : s.Fills s') : s.Gained s'' name := by
  obtain ⟨platform, hplatform, hname, hlacks, hoffers⟩ := h
  have hlacked : s.platformOffers platform.id "sftp" = false :=
    Bool.eq_false_iff.mpr fun hold => Bool.eq_false_iff.mp hlacks (hs.platformOffers hold)
  exact ⟨platform, hs.platforms ▸ hplatform, hname, hlacked, hoffers⟩

end Gained

theorem not_nameDue (h : ∀ x, ¬s.PlatformDue x) : ¬s.NameDue name := by
  rintro ⟨_, _, _, x, hdue, _⟩
  exact h x hdue

/-- Once nothing is due any more, all that was due was given. -/
theorem Fills.gained_iff (hs : s.Fills s') (hnone : ∀ x, ¬s'.PlatformDue x) :
    s.Gained s' name ↔ s.NameDue name := by
  refine ⟨fun h => h.nameDue hs, ?_⟩
  rintro ⟨platform, hplatform, hname, x, hdue, hid⟩
  have hoffers := (hs.platformDue_or hdue).resolve_left (hnone x)
  rw [hid] at hoffers
  exact ⟨platform, hplatform, hname, hid ▸ hdue.cases.2.1, hoffers⟩

end Store

namespace Job

/-! ## The first two turns of a backfill

The first turn asks, and fixes what will be reported; the second inserts. After that nothing is due
to any platform, by this backfill or by another one. -/

/-- What is left of `backfillPlatforms` when the candidates are known. -/
def insertPlanned (candidates : List SshPlatform) : Job (List String) := do
  let plan := Backfill.platformPlan candidates
  if plan.isEmpty then return []
  let _ ← single (Store.insertMany Store.insertPlatformProtocol (plan.map (·.protocol)))
  return plan.map (·.name)

/-- What is left of `backfill` when the candidates are known. -/
def backfillOf (candidates : List SshPlatform) : Job BackfillReport := do
  let platforms ← insertPlanned candidates
  return ⟨platforms, ← backfillAssets⟩

theorem advance_backfill {db : Database} (hopen : db.isOpen = true) :
    backfill.advance db = (backfillOf db.store.sftpCandidates, db) :=
  advance_ok (Database.transact_ok hopen rfl)

/-- What is reported is fixed by the plan, and the plan by the first answer. -/
theorem backfillOf_answers (candidates : List SshPlatform) :
    (backfillOf candidates).Answers fun report =>
      report.platforms = (Backfill.platformPlan candidates).map (·.name) := by
  have hplanned : (insertPlanned candidates).Answers fun platforms =>
      platforms = (Backfill.platformPlan candidates).map (·.name) := by
    unfold insertPlanned
    dsimp only
    split
    · next hempty =>
        rw [List.isEmpty_iff.mp hempty]
        rfl
    · exact fun _ => rfl
  exact hplanned.bind fun _ hnames => (Answers.any backfillAssets).bind fun _ _ => hnames

/-- After the insertion nothing is due to a platform any more, whatever was inserted since the
question; and there is no insertion where nothing was due. -/
theorem advance_backfillOf {db : Database} (hopen : db.isOpen = true) {s : Store}
    (hs : s.Fills db.store) : (∀ x, ¬s.PlatformDue x) ∨
      ∀ x, ¬((backfillOf s.sftpCandidates).advance db).2.store.PlatformDue x := by
  have hplanned := s.platformsPlanned
  unfold backfillOf insertPlanned
  dsimp only
  generalize Backfill.platformPlan s.sftpCandidates = plan at hplanned ⊢
  split
  · next hempty =>
      -- an empty plan is not inserted, and nothing was due
      refine .inl (hplanned.settled fun q hq => ?_)
      rw [List.isEmpty_iff.mp hempty] at hq
      cases hq
  · refine .inr ?_
    have hfits : ∀ x ∈ plan.map (·.protocol), db.store.PlatformFits x := by
      intro x hx
      obtain ⟨q, hq, rfl⟩ := List.mem_map.mp hx
      exact (hplanned.later hs).fits q hq
    obtain ⟨n, s', hok, ⟨hfills, _⟩, hthere⟩ := Store.insertPlatformProtocols_fills hfits
    have hsettled := (hplanned.later (hs.trans hfills)).settled fun q hq =>
      hthere _ (List.mem_map_of_mem hq)
    intro x hdue
    have hadvance : ((single (Store.insertMany Store.insertPlatformProtocol (plan.map (·.protocol))) >>=
        fun _ => pure (plan.map (·.name))) >>= fun platforms => backfillAssets >>= fun n =>
          pure (⟨platforms, n⟩ : BackfillReport)).advance db = (_, { db with store := s' }) :=
      advance_ok (Database.transact_ok hopen hok)
    rw [hadvance] at hdue
    exact hsettled x hdue

end Job

namespace Concurrent

/-- The names in the report of a job; before it has come to its end there are none. -/
def names (c : Concurrent BackfillReport) (i : Nat) : List String :=
  match c.jobs[i]? with
  | some (.done report) => report.platforms
  | _ => []

/-- Whether it is in a turn of some job that a platform of some name is given `sftp`. -/
def Gives (c : Concurrent BackfillReport) (schedule : List Nat) (i : Nat) (name : String) : Prop :=
  ∃ earlier later, schedule = earlier ++ i :: later ∧
    (c.follow earlier).database.store.Gained (c.follow (earlier ++ [i])).database.store name

/-- Whether a job has its first turn before any job has its second. -/
def InTime (n : Nat) (schedule : List Nat) (i : Nat) : Prop :=
  i < n ∧ ∃ earlier later, schedule = earlier ++ i :: later ∧ i ∉ earlier ∧ ∀ j < n, earlier.count j ≤ 1

abbrev backfills (db : Database) (n : Nat) : Concurrent BackfillReport :=
  ⟨db, List.replicate n Job.backfill⟩

variable {db : Database} {n i j : Nat} {earlier later schedule : List Nat} {name : String}

theorem follow_snoc (c : Concurrent BackfillReport) (schedule : List Nat) (i : Nat) :
    c.follow (schedule ++ [i]) = (c.follow schedule).step i :=
  c.follow_append schedule [i]

/-! ## The store while backfills are at work -/

theorem backfills_open (hopen : db.isOpen = true) (n : Nat) (schedule : List Nat) :
    ((backfills db n).follow schedule).database.isOpen = true := by
  obtain ⟨shares, hsafe⟩ := backfills_safe hopen n schedule
  exact hsafe.isOpen

/-- What is done later fills what was there earlier. -/
theorem backfills_within (hopen : db.isOpen = true) (n : Nat) (earlier later : List Nat) :
    ((backfills db n).follow earlier).database.store.Fills
      ((backfills db n).follow (earlier ++ later)).database.store := by
  obtain ⟨shares, hsafe⟩ := backfills_safe hopen n earlier
  rw [follow_append]
  exact hsafe.follow_within later

/-- What is due to nobody at some time is due to nobody later. -/
theorem nothing_due_later (hopen : db.isOpen = true)
    (hnone : ∀ x, ¬((backfills db n).follow earlier).database.store.PlatformDue x) (later : List Nat) :
    ∀ x, ¬((backfills db n).follow (earlier ++ later)).database.store.PlatformDue x :=
  fun x hdue => hnone x ((backfills_within hopen n earlier later).platformDue hdue)

/-- Before its first turn a backfill has not begun. -/
theorem getElem?_follow_backfills (hi : i < n) (hwaits : i ∉ schedule) :
    ((backfills db n).follow schedule).jobs[i]? = some Job.backfill := by
  rw [getElem?_follow_of_not_mem _ hwaits]
  exact List.getElem?_replicate_of_lt hi

/-- The first turn of a backfill is its question. -/
theorem first_turn (hopen : db.isOpen = true) (hi : i < n) (hwaits : i ∉ schedule) :
    let c := (backfills db n).follow schedule
    let asked := (backfills db n).follow (schedule ++ [i])
    asked.database = c.database ∧
      asked.jobs[i]? = some (Job.backfillOf c.database.store.sftpCandidates) := by
  intro c asked
  have hjob : c.jobs[i]? = some Job.backfill := getElem?_follow_backfills hi hwaits
  have hlt : i < c.jobs.length := (List.getElem?_eq_some_iff.mp hjob).1
  have hasked : asked = c.step i := follow_snoc _ schedule i
  rw [hasked, step_some hjob, Job.advance_backfill (backfills_open hopen n schedule)]
  exact ⟨rfl, List.getElem?_set_self hlt⟩

/-- As long as no backfill has had a second turn, nothing happens. -/
theorem untouched (hopen : db.isOpen = true) (h : ∀ i < n, schedule.count i ≤ 1) :
    ((backfills db n).follow schedule).database = db := by
  induction schedule using List.reverseRecOn with
  | nil => rfl
  | append_singleton schedule i ih =>
      have hcount : ∀ j < n, schedule.count j + [i].count j ≤ 1 := by
        intro j hj
        rw [← List.count_append]
        exact h j hj
      have hsame := ih fun j hj => Nat.le_of_add_right_le (hcount j hj)
      by_cases hi : i < n
      -- it is the first turn of this backfill, a question
      · have hwaits : i ∉ schedule := by
          have hself := hcount i hi
          rw [List.count_singleton_self] at hself
          exact List.count_eq_zero.mp (by omega)
        exact (first_turn hopen hi hwaits).1.trans hsame
      · have hnobody : ((backfills db n).follow schedule).jobs[i]? = none := by
          rw [List.getElem?_eq_none_iff, length_follow, List.length_replicate]
          exact Nat.le_of_not_lt hi
        rw [follow_snoc, step_none hnobody]
        exact hsame

/-- The turns of a job that has had two: the first, the second, and what came before and after. -/
theorem split_at_second (h : 2 ≤ schedule.count i) :
    ∃ waiting between later, schedule = waiting ++ [i] ++ between ++ [i] ++ later ∧
      i ∉ waiting ∧ i ∉ between := by
  obtain ⟨waiting, rest, rfl, hwaiting⟩ :=
    List.eq_append_cons_of_mem (List.count_pos_iff.mp (Nat.lt_of_lt_of_le Nat.zero_lt_two h))
  have hrest : 0 < rest.count i := by
    rw [List.count_append, List.count_eq_zero.mpr hwaiting, List.count_cons_self] at h
    omega
  obtain ⟨between, later, rfl, hbetween⟩ := List.eq_append_cons_of_mem (List.count_pos_iff.mp hrest)
  exact ⟨waiting, between, later, by simp, hwaiting, hbetween⟩

/-- When some backfill has had its second turn, nothing is due to platforms any more. -/
theorem nothing_due (hopen : db.isOpen = true) (hi : i < n) (h : 2 ≤ schedule.count i) :
    ∀ x, ¬((backfills db n).follow schedule).database.store.PlatformDue x := by
  obtain ⟨waiting, between, later, rfl, hwaiting, hbetween⟩ := split_at_second h
  refine nothing_due_later hopen ?_ later
  obtain ⟨hsame, hasked⟩ := first_turn hopen hi hwaiting
  -- others may have had turns since the question, but the job is still where it was
  have hwithin := backfills_within hopen n (waiting ++ [i]) between
  rw [hsame] at hwithin
  have hjob := getElem?_follow_of_not_mem ((backfills db n).follow (waiting ++ [i])) hbetween
  rw [← follow_append, hasked] at hjob
  rcases Job.advance_backfillOf (backfills_open hopen n _) hwithin with hnone | hnone
  · rw [List.append_assoc, List.append_assoc]
    exact nothing_due_later hopen hnone _
  · rw [follow_snoc, step_some hjob]
    exact hnone

/-! ## Who gives -/

/-- Only in a second turn something is given. -/
theorem count_of_gained (hopen : db.isOpen = true)
    (h : ((backfills db n).follow schedule).database.store.Gained
      ((backfills db n).follow (schedule ++ [i])).database.store name) :
    i < n ∧ schedule.count i = 1 := by
  -- a turn of nobody gains nothing
  have hlt : i < n := by
    refine Nat.lt_of_not_le fun hge => ?_
    have hnobody : ((backfills db n).follow schedule).jobs[i]? = none := by
      rw [List.getElem?_eq_none_iff, length_follow, List.length_replicate]
      exact hge
    rw [follow_snoc, step_none hnobody] at h
    exact Store.not_gained_self _ _ h
  -- a first turn is a question and gains nothing
  have hsome : schedule.count i ≠ 0 := by
    intro hzero
    rw [(first_turn hopen hlt (List.count_eq_zero.mp hzero)).1] at h
    exact Store.not_gained_self _ _ h
  -- after a second turn nothing is left to gain
  have hfew : ¬2 ≤ schedule.count i := fun hmany =>
    Store.not_nameDue (nothing_due hopen hlt hmany) (h.nameDue (backfills_within hopen n schedule [i]))
  exact ⟨hlt, by omega⟩

/-- What is given while backfills are at work is given in the turn of one of them. -/
theorem gained_iff_gives (hopen : db.isOpen = true) :
    db.store.Gained ((backfills db n).follow schedule).database.store name ↔
      ∃ i, (backfills db n).Gives schedule i name := by
  constructor
  · intro h
    induction schedule using List.reverseRecOn with
    | nil => exact absurd h (Store.not_gained_self _ _)
    | append_singleton schedule i ih =>
        rcases h.cases (backfills_within hopen n [] schedule) with h | h
        · obtain ⟨j, earlier, later, rfl, hgained⟩ := ih h
          exact ⟨j, earlier, later ++ [i], by simp, hgained⟩
        · exact ⟨i, schedule, [], rfl, h⟩
  · rintro ⟨i, earlier, later, rfl, hgained⟩
    have hlater := backfills_within hopen n (earlier ++ [i]) later
    rw [List.append_assoc] at hlater
    exact (hgained.earlier (backfills_within hopen n [] earlier)).later hlater

/-- One backfill gives all that is given. -/
theorem gives_unique (hopen : db.isOpen = true) {name' : String}
    (hi : (backfills db n).Gives schedule i name) (hj : (backfills db n).Gives schedule j name') :
    i = j := by
  -- once one has given, nothing is due any more
  have hfirst : ∀ {earlier more i j name name'},
      ((backfills db n).follow earlier).database.store.Gained
        ((backfills db n).follow (earlier ++ [i])).database.store name →
      ¬((backfills db n).follow (earlier ++ i :: more)).database.store.Gained
        ((backfills db n).follow (earlier ++ i :: more ++ [j])).database.store name' := by
    intro earlier more i j name name' hgained hagain
    obtain ⟨hlt, hcount⟩ := count_of_gained hopen hgained
    have htwo : 2 ≤ (earlier ++ i :: more).count i := by
      rw [List.count_append, List.count_cons_self]
      omega
    exact Store.not_nameDue (nothing_due hopen hlt htwo)
      (hagain.nameDue (backfills_within hopen n _ [j]))
  obtain ⟨earlier, later, rfl, hgained⟩ := hi
  obtain ⟨earlier', later', hsplit, hgained'⟩ := hj
  rcases List.append_eq_append_iff.mp hsplit with ⟨more, rfl, hmore⟩ | ⟨more, rfl, hmore⟩
  · cases more with
    | nil => exact (List.cons.inj hmore).1
    | cons k more =>
        obtain ⟨rfl, _⟩ := List.cons.inj hmore
        exact absurd hgained' (hfirst hgained)
  · cases more with
    | nil => exact (List.cons.inj hmore).1.symm
    | cons k more =>
        obtain ⟨rfl, _⟩ := List.cons.inj hmore
        exact absurd hgained (hfirst hgained')

/-! ## Who reports

A backfill that asks before the gift has come in reports all of it, whether it gives or not; one
that asks afterwards reports nothing. -/

/-- A backfill that has come to its end reports what it planned at its question. -/
theorem report_of_finished (hopen : db.isOpen = true) (hi : i < n) (hwaits : i ∉ earlier)
    (hfinished : ∀ p ∈ ((backfills db n).follow (earlier ++ i :: later)).jobs, p.Finished) :
    ∃ report, ((backfills db n).follow (earlier ++ i :: later)).jobs[i]? = some (.done report) ∧
      report.platforms = (Backfill.platformPlan
        ((backfills db n).follow earlier).database.store.sftpCandidates).map (·.name) := by
  have hlt : i < ((backfills db n).follow (earlier ++ i :: later)).jobs.length := by
    rw [length_follow, List.length_replicate]
    exact hi
  have hjob := List.getElem?_eq_getElem hlt
  obtain ⟨shares, hsafe⟩ := backfills_safe hopen n (earlier ++ i :: later)
  obtain ⟨share, hshare, _⟩ := hsafe.job_safe hjob
  obtain ⟨report, hdone, _⟩ := hsafe.answered hjob hshare (hfinished _ (List.getElem_mem hlt))
  rw [hdone] at hjob
  refine ⟨report, hjob, ?_⟩
  -- what it would answer was settled at its question
  have hasked := (first_turn hopen hi hwaits).2
  have hanswers : ∀ p, ((backfills db n).follow (earlier ++ [i])).jobs[i]? = some p →
      p.Answers fun report => report.platforms = (Backfill.platformPlan
        ((backfills db n).follow earlier).database.store.sftpCandidates).map (·.name) := by
    intro p hp
    rw [← Option.some.inj (hasked.symm.trans hp)]
    exact Job.backfillOf_answers _
  have hend : ((backfills db n).follow (earlier ++ [i])).follow later =
      (backfills db n).follow (earlier ++ i :: later) := by
    rw [← follow_append, List.append_assoc]
    rfl
  exact answers_follow hanswers later (.done report) (hend ▸ hjob)

/-- A name is reported if the answer is there and names it. -/
theorem mem_names_iff {c : Concurrent BackfillReport} :
    name ∈ c.names i ↔ ∃ report, c.jobs[i]? = some (.done report) ∧ name ∈ report.platforms := by
  unfold names
  constructor
  -- the gain falls into one of the turns; look for it from the end
  · intro h
    split at h
    · next report hdone => exact ⟨report, hdone, h⟩
    · cases h
  · rintro ⟨report, hdone, h⟩
    rw [hdone]
    exact h

/-- A report names the platforms to which something was due at the question. -/
theorem mem_names_iff_nameDue (hopen : db.isOpen = true) (hs : db.store.Consistent) (hi : i < n)
    (hwaits : i ∉ earlier)
    (hfinished : ∀ p ∈ ((backfills db n).follow (earlier ++ i :: later)).jobs, p.Finished) :
    name ∈ ((backfills db n).follow (earlier ++ i :: later)).names i ↔
      ((backfills db n).follow earlier).database.store.NameDue name := by
  obtain ⟨report, hdone, hreport⟩ := report_of_finished hopen hi hwaits hfinished
  have hconsistent := (backfills_fill db n earlier).edits.consistent hs
  rw [← hconsistent.mem_planned_names, ← hreport, mem_names_iff]
  constructor
  · rintro ⟨report', hdone', hname⟩
    cases Option.some.inj (hdone.symm.trans hdone')
    exact hname
  · exact fun hname => ⟨report, hdone, hname⟩

/-- Who names something has had a turn. -/
theorem mem_schedule_of_mem_names (h : name ∈ ((backfills db n).follow schedule).names i) :
    i < n ∧ i ∈ schedule := by
  obtain ⟨report, hdone, _⟩ := mem_names_iff.mp h
  have hlt : i < n := by
    have hlength := (List.getElem?_eq_some_iff.mp hdone).1
    rw [length_follow, List.length_replicate] at hlength
    exact hlength
  refine ⟨hlt, Decidable.byContradiction fun hwaits => ?_⟩
  rw [getElem?_follow_backfills hlt hwaits] at hdone
  cases Option.some.inj hdone

/-- A report names what was given, to whomever, if the question came in time, and nothing
otherwise. -/
theorem mem_names_iff_gained (hopen : db.isOpen = true) (hs : db.store.Consistent)
    (hfinished : ∀ p ∈ ((backfills db n).follow schedule).jobs, p.Finished) :
    name ∈ ((backfills db n).follow schedule).names i ↔
      db.store.Gained ((backfills db n).follow schedule).database.store name ∧
        InTime n schedule i := by
  constructor
  · intro h
    obtain ⟨hi, hturn⟩ := mem_schedule_of_mem_names h
    obtain ⟨earlier, later, rfl, hwaits⟩ := List.eq_append_cons_of_mem hturn
    have hdue := (mem_names_iff_nameDue hopen hs hi hwaits hfinished).mp h
    -- something was due at the first turn, so nobody had had a second one
    have hearly : ∀ j < n, earlier.count j ≤ 1 := fun j hj =>
      Nat.le_of_not_lt fun hmany => Store.not_nameDue (nothing_due hopen hj hmany) hdue
    rw [untouched hopen hearly] at hdue
    have hsettled := backfills_settled hopen (Nat.zero_lt_of_lt hi) hfinished
    exact ⟨((backfills_fill db n _).gained_iff hsettled.platform).mpr hdue,
      hi, earlier, later, rfl, hwaits, hearly⟩
  · rintro ⟨hgained, hi, earlier, later, rfl, hwaits, hearly⟩
    rw [mem_names_iff_nameDue hopen hs hi hwaits hfinished, untouched hopen hearly]
    exact hgained.nameDue (backfills_fill db n _)

/-- Who gives has asked in time. -/
theorem inTime_of_gives (hopen : db.isOpen = true) (h : (backfills db n).Gives schedule i name) :
    InTime n schedule i := by
  obtain ⟨turns, later, rfl, hgained⟩ := h
  obtain ⟨hi, hcount⟩ := count_of_gained hopen hgained
  have hturn : i ∈ turns := List.count_pos_iff.mp (Nat.lt_of_lt_of_eq Nat.zero_lt_one hcount.symm)
  obtain ⟨earlier, between, rfl, hwaits⟩ := List.eq_append_cons_of_mem hturn
  refine ⟨hi, earlier, between ++ i :: later, by simp, hwaits, fun j hj => ?_⟩
  refine Nat.le_of_not_lt fun hmany => ?_
  have hnone := nothing_due_later hopen (nothing_due hopen hj hmany) (i :: between)
  exact Store.not_nameDue hnone (hgained.nameDue (backfills_within hopen n _ [i]))

/-- In a closed database nothing is given, and nothing reported. -/
theorem backfills_silent (hclosed : db.isOpen = false) (n : Nat) (schedule : List Nat) :
    (∀ name, ¬db.store.Gained ((backfills db n).follow schedule).database.store name) ∧
      (∀ i name, ¬(backfills db n).Gives schedule i name) ∧
      ∀ i name, name ∉ ((backfills db n).follow schedule).names i := by
  have hsame : ∀ schedule, ((backfills db n).follow schedule).database = db := fun schedule =>
    (backfills_closed hclosed n schedule).1
  refine ⟨?_, ?_, ?_⟩
  · intro name h
    rw [hsame] at h
    exact Store.not_gained_self _ _ h
  · rintro i name ⟨earlier, later, _, h⟩
    rw [hsame, hsame] at h
    exact Store.not_gained_self _ _ h
  · intro i name h
    obtain ⟨report, hdone, _⟩ := mem_names_iff.mp h
    exact (backfills_closed hclosed n schedule).2 _ (List.mem_of_getElem? hdone) report rfl

/-- One backfill gives what is given, and it is reported by those that ask in time, that one among
them. -/
theorem given_and_reported (hs : db.store.Consistent)
    (hfinished : ∀ p ∈ ((backfills db n).follow schedule).jobs, p.Finished) :
    let finish := (backfills db n).follow schedule
    let gained := db.store.Gained finish.database.store
    (∀ name, gained name ↔ ∃ i, (backfills db n).Gives schedule i name) ∧
      (∀ i j name name', (backfills db n).Gives schedule i name →
        (backfills db n).Gives schedule j name' → i = j) ∧
      (∀ i name, (backfills db n).Gives schedule i name → name ∈ finish.names i) ∧
      (∀ i name, name ∈ finish.names i ↔ gained name ∧ InTime n schedule i) := by
  intro finish gained
  cases hopen : db.isOpen with
  | false =>
      obtain ⟨hgained, hgives, hnames⟩ := backfills_silent hopen n schedule
      exact ⟨fun name => iff_of_false (hgained name) fun ⟨i, hi⟩ => hgives i name hi,
        fun i j name _ hi => absurd hi (hgives i name), fun i name hi => absurd hi (hgives i name),
        fun i name => iff_of_false (hnames i name) fun hboth => hgained name hboth.1⟩
  | true =>
      have hnames : ∀ i name, name ∈ finish.names i ↔ gained name ∧ InTime n schedule i :=
        fun i name => mem_names_iff_gained hopen hs hfinished
      refine ⟨fun name => gained_iff_gives hopen, fun i j name name' => gives_unique hopen, ?_, hnames⟩
      intro i name hi
      have hgained : gained name := (gained_iff_gives hopen).mpr ⟨i, hi⟩
      exact (hnames i name).mpr ⟨hgained, inTime_of_gives hopen hi⟩

end Concurrent

namespace Deployment

/-- Any number of backfills run at once on a database that nobody else uses, and all come to their
end. What platforms gain is given in one turn of one of them, which reports it. But every other that
asks before that turn reports the same, and so the reports are right exactly if no two ask in time,
or there is nothing to give. -/
theorem backfills_report {d : Deployment} (h : d.Reachable) {n : Nat} {schedule : List Nat}
    (hfinished : ∀ p ∈ ((Concurrent.backfills d.database n).follow schedule).jobs, p.Finished) :
    let start := Concurrent.backfills d.database n
    let finish := start.follow schedule
    let gained := d.database.store.Gained finish.database.store
    Job.backfill.run = Backfill.run ∧
      (∀ name, gained name ↔ ∃ i, start.Gives schedule i name) ∧
      (∀ i j name name', start.Gives schedule i name → start.Gives schedule j name' → i = j) ∧
      (∀ i name, start.Gives schedule i name → name ∈ finish.names i) ∧
      (∀ i name, name ∈ finish.names i ↔ gained name ∧ Concurrent.InTime n schedule i) ∧
      (((∀ name, gained name → ∃! i, name ∈ finish.names i) ∧
          ∀ i name, name ∈ finish.names i → start.Gives schedule i name) ↔
        ∀ name i j, gained name → Concurrent.InTime n schedule i → Concurrent.InTime n schedule j →
          i = j) := by
  intro start finish gained
  obtain ⟨hgained, hunique, hreports, hnames⟩ := Concurrent.given_and_reported h.consistent hfinished
  refine ⟨Job.run_backfill, hgained, hunique, hreports, hnames, ?_⟩
  constructor
  · rintro ⟨hone, _⟩ name i j hgained hi hj
    exact (hone name hgained).unique ((hnames i name).mpr ⟨hgained, hi⟩) ((hnames j name).mpr ⟨hgained, hj⟩)
  · intro halone
    -- whoever reports is the one that gives, as that one has asked in time too
    have hgiver : ∀ i name, name ∈ finish.names i → start.Gives schedule i name := by
      intro i name hi
      obtain ⟨hname, htime⟩ := (hnames i name).mp hi
      obtain ⟨k, hk⟩ := (hgained name).mp hname
      have htime' := ((hnames k name).mp (hreports k name hk)).2
      rw [halone name i k hname htime htime']
      exact hk
    refine ⟨fun name hname => ?_, hgiver⟩
    obtain ⟨k, hk⟩ := (hgained name).mp hname
    exact ⟨k, hreports k name hk, fun i hi => hunique i k name name (hgiver i name hi) hk⟩

/-- One backfill is through with the platforms before the other begins, and it alone reports. -/
theorem backfills_report_of_latecomer :
    let start := Concurrent.backfills oneAsset.database 2
    let finish := start.follow [0, 0, 1, 1, 0, 0, 0, 1, 1]
    finish.jobs.filterMap Job.answer? = [⟨["Linux"], 1⟩, ⟨[], 0⟩] ∧
      (∃! i, "Linux" ∈ finish.names i) ∧ start.Gives [0, 0, 1, 1, 0, 0, 0, 1, 1] 0 "Linux" := by
  intro start finish
  have h := @backfills_report oneAsset (.after _) 2 [0, 0, 1, 1, 0, 0, 0, 1, 1] (by decide +kernel)
  extract_lets gained at h
  obtain ⟨_, _, _, _, hnames, hright⟩ := h
  have hfirst : "Linux" ∈ finish.names 0 := by decide +kernel
  have hsecond : "Linux" ∉ finish.names 1 := by decide +kernel
  have hgained : gained "Linux" := ((hnames 0 "Linux").mp hfirst).1
  -- had the second asked in time, it would have reported the same
  have hlate : ∀ i, Concurrent.InTime 2 [0, 0, 1, 1, 0, 0, 0, 1, 1] i → i = 0 := by
    intro i hi
    have hone : i ≠ 1 := by
      rintro rfl
      exact hsecond ((hnames 1 "Linux").mpr ⟨hgained, hi⟩)
    have htwo : i < 2 := hi.1
    omega
  obtain ⟨hone, hgives⟩ := hright.mpr fun _ i j _ hi hj => (hlate i hi).trans (hlate j hj).symm
  exact ⟨by decide +kernel, hone "Linux" hgained, hgives 0 "Linux" hfirst⟩

/-- Two backfills ask before either of them inserts, and the one that inserts nothing reports the
same as the other. -/
theorem backfills_report_of_two :
    let start := Concurrent.backfills oneAsset.database 2
    let schedule := [0, 1, 0, 1, 0, 1, 0, 1, 0, 1]
    let finish := start.follow schedule
    (∀ p ∈ finish.jobs, p.Finished) ∧
      oneAsset.database.store.Gained finish.database.store "Linux" ∧
      "Linux" ∈ finish.names 0 ∧ start.Gives schedule 0 "Linux" ∧
      "Linux" ∈ finish.names 1 ∧ ¬start.Gives schedule 1 "Linux" := by
  intro start schedule finish
  have hopen : oneAsset.database.isOpen = true := by decide +kernel
  have hgives : start.Gives schedule 0 "Linux" :=
    ⟨[0, 1], [1, 0, 1, 0, 1, 0, 1], rfl, by decide +kernel⟩
  refine ⟨by decide +kernel, by decide +kernel, by decide +kernel, hgives, by decide +kernel, ?_⟩
  intro hsecond
  have hsame : 0 = 1 := Concurrent.gives_unique hopen hgives hsecond
  cases hsame

end Deployment
end GatewayRegistry
