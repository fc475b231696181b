import GatewayRegistry.Proofs.Concurrent.Job
import GatewayRegistry.Proofs.Runs.Reachable
import GatewayRegistry.Proofs.Store.Catalog

/-!
# Clients that fill the catalog at once

A client makes sure that an entry is there and then reads it, and others may write in between. What
it reads is the entry that every other client reads: a row is never changed or removed, and there is
at most one for a protocol on a port. So what a client has found so far can be told from the catalog
at any later time (`Store.Seeded`).
-/

namespace GatewayRegistry

/-! ## Clients -/

namespace Job

/-- `Database.getOrCreateProtocol`, statement by statement. -/
def getOrCreate (name : ProtocolName) (port : UInt16) : Job Protocol := do
  write (Store.insertProtocolIfAbsent name.toText port.toNat true)
  ask fun s => match s.protocolRow? name.toText port.toNat with
    | some row => row.read
    | none => .error (.notFound (.protocol name port))

/-- One request of a client that has found some entries before. -/
def seedOne (found : List Protocol) (request : ProtocolEntry) : Job (List Protocol) :=
  match request.resolve? with
  | none => return found
  | some w => do
    let p ← getOrCreate w.1 w.2
    return if found.any (·.id == p.id) then found else found ++ [p]

/-- `Database.getOrCreateProtocols`, statement by statement. -/
def seed (requests : List ProtocolEntry) : Job (List Protocol) := requests.foldlM seedOne []

/-- Getting one entry is the call. -/
theorem run_getOrCreate (name : ProtocolName) (port : UInt16) :
    (getOrCreate name port).run = Database.getOrCreateProtocol name port := by
  unfold getOrCreate
  rw [run_bind, run_write]
  simp only [run_ask]
  rfl

/-- Undisturbed, a client does what the call does. -/
theorem run_seed (requests : List ProtocolEntry) :
    (seed requests).run = Database.getOrCreateProtocols requests := by
  unfold seed Database.getOrCreateProtocols
  rw [run_foldlM]
  congr 1
  funext found request
  unfold seedOne
  cases request.resolve? with
  | none => rfl
  | some wanted =>
      dsimp only
      rw [run_bind, run_getOrCreate]
      rfl

end Job

/-! ## Clients at work -/

namespace Job

variable {s s' : Store} {share : Nat}

/-- A client, whatever edits the others make: it needs two turns for each request. -/
abbrev SafeSeed {α : Type} (p : Job α) (Q : α → Store → Prop) (turns share : Nat) (s : Store) :
    Prop :=
  p.Safe Store.Edits (fun _ => 0) (fun a _ s => Q a s) turns share s

/-- The entry that is read is the one that every client reads. -/
theorem getOrCreate_safe {w : ProtocolName × UInt16} (hport : w.2 ≠ 0) :
    (getOrCreate w.1 w.2).SafeSeed
      (fun p s' => Store.Edits s s' ∧ (s'.rowFor? w).isSome ∧ p = s'.entryFor w) (1 + 1) share s := by
  have hwrite : (write (Store.insertProtocolIfAbsent w.1.toText w.2.toNat true)).SafeSeed
      (fun _ s' => Store.Edits s s' ∧ ∃ row, s'.rowFor? w = some row) 1 share s := by
    apply Safe.write
    intro s₁ hs₁
    obtain ⟨s₂, htx, hs₂, hthere⟩ := Store.ensure_ok (s := s₁) hport
    obtain ⟨row, hrow⟩ := Option.isSome_iff_exists.mp hthere
    refine ⟨s₂, htx, hs₂, rfl, fun s₃ hs₃ => ?_⟩
    exact ⟨(hs₁.trans hs₂).trans hs₃, row, (Store.Edits.toExtends hs₃).rowFor? hrow⟩
  apply hwrite.bind
  rintro _ share s₁ ⟨hs₁, row, hrow⟩
  apply Safe.ask
  intro s₂ hs₂
  -- the row may have been inserted by somebody else, and it stays where it is
  have hrow₂ := (Store.Edits.toExtends hs₂).rowFor? hrow
  refine ⟨s₂.entryFor w, ?_, fun s₃ hs₃ => ?_⟩
  · have hfound : s₂.protocolRow? w.1.toText w.2.toNat = some row := hrow₂
    rw [hfound]
    exact Store.read_rowFor? hrow₂
  · have hrow₃ := (Store.Edits.toExtends hs₃).rowFor? hrow₂
    refine ⟨(hs₁.trans hs₂).trans hs₃, by rw [hrow₃]; rfl, ?_⟩
    rw [Store.entryFor_some hrow₂, Store.entryFor_some hrow₃]

/-- What a client has found when some requests are still to come. -/
def SeedingLeft (requests rest : List ProtocolEntry) (found : List Protocol) (s : Store) : Prop :=
  ∃ past, past ++ rest = requests ∧ s.Seeded (past.filterMap (·.resolve?)) found

section

variable {request : ProtocolEntry} {requests rest : List ProtocolEntry} {found : List Protocol}

theorem seedingLeft_nil :
    SeedingLeft requests [] found s ↔ s.Seeded (requests.filterMap (·.resolve?)) found := by
  simp [SeedingLeft]

/-- What is found and what is left is not affected by others. -/
theorem SeedingLeft.later (h : SeedingLeft requests rest found s) (hedits : Store.Edits s s') :
    SeedingLeft requests rest found s' := by
  obtain ⟨past, hpast, hseeded⟩ := h
  exact ⟨past, hpast, hseeded.later hedits⟩

/-- A request that asks for nothing. -/
theorem SeedingLeft.skip (h : SeedingLeft requests (request :: rest) found s)
    (hnone : request.resolve? = none) : SeedingLeft requests rest found s := by
  obtain ⟨past, hpast, hseeded⟩ := h
  have hsame : (past ++ [request]).filterMap (·.resolve?) = past.filterMap (·.resolve?) := by
    simp [List.filterMap_append, hnone]
  refine ⟨past ++ [request], by rw [← hpast]; simp, ?_⟩
  rw [hsame]
  exact hseeded

/-- A request for an entry that is there by now. -/
theorem SeedingLeft.note (h : SeedingLeft requests (request :: rest) found s)
    {w : ProtocolName × UInt16} (hwanted : request.resolve? = some w) (hthere : (s.rowFor? w).isSome) :
    SeedingLeft requests rest
      (if found.any (·.id == (s.entryFor w).id) then found else found ++ [s.entryFor w]) s := by
  obtain ⟨past, hpast, hseeded⟩ := h
  have hmore : (past ++ [request]).filterMap (·.resolve?) = past.filterMap (·.resolve?) ++ [w] := by
    simp [List.filterMap_append, hwanted]
  refine ⟨past ++ [request], by rw [← hpast]; simp, ?_⟩
  rw [hmore]
  exact hseeded.snoc hthere

theorem seedOne_safe (h : SeedingLeft requests (request :: rest) found s) :
    (seedOne found request).SafeSeed (SeedingLeft requests rest) (1 + 1) share s := by
  unfold seedOne
  cases hwanted : request.resolve? with
  | none => exact Safe.pure fun s₁ hs₁ => (h.skip hwanted).later hs₁
  | some w =>
      have hport : w.2 ≠ 0 := by
        obtain ⟨name, port⟩ := w
        exact Database.resolve?_port_ne_zero hwanted
      apply Safe.map (getOrCreate_safe hport)
      rintro p share s₁ s₂ ⟨hs₁, hthere, rfl⟩ hs₂
      exact ((h.later hs₁).note hwanted hthere).later hs₂

end

theorem seed_safe (hs : s.Consistent) (requests : List ProtocolEntry) :
    (seed requests).SafeSeed (fun found s => s.Seeded (requests.filterMap (·.resolve?)) found)
      (2 * requests.length) share s := by
  have hloop : (seed requests).SafeSeed (SeedingLeft requests []) (2 * requests.length) share s :=
    Safe.foldlM (I := fun rest found _ s => SeedingLeft requests rest found s)
      (fun request rest found share s hleft => seedOne_safe hleft)
      (fun found share s s' hleft hs' => hleft.later hs') ⟨[], rfl, .nil hs⟩
  exact hloop.mono (Nat.le_refl _) fun found share s hleft => seedingLeft_nil.mp hleft

end Job

namespace Concurrent

variable {db : Database}

/-- Clients whose turns come in any order have each found what they asked for in the catalog that
they have filled together. -/
theorem seeding_safe (hopen : db.isOpen = true) (hs : db.store.Consistent)
    (lists : List (List ProtocolEntry)) (schedule : List Nat) :
    ∃ shares, (follow ⟨db, lists.map Job.seed⟩ schedule).Safe Store.Edits (fun _ => 0)
      (fun i found _ s => ∀ requests, lists[i]? = some requests →
        s.Seeded (requests.filterMap (·.resolve?)) found)
      db.store (fun i => 2 * (lists.getD i []).length - schedule.count i) shares := by
  refine Safe.follow (Safe.initial hopen fun i p hp => ?_) schedule
  rw [List.getElem?_map] at hp
  obtain ⟨requests, hrequests, rfl⟩ := Option.map_eq_some_iff.mp hp
  have hturns : (lists.getD i []).length = requests.length := by
    rw [List.getD_eq_getElem?_getD, hrequests, Option.getD_some]
  rw [hturns]
  refine (Job.seed_safe hs requests).mono (Nat.le_refl _) fun found _ s hseeded requests' hrequests' => ?_
  rw [Option.some.inj (hrequests'.symm.trans hrequests)]
  exact hseeded

end Concurrent

namespace Deployment

/-- Clients fill the catalog at once, and their statements come in any order. None of them fails,
and what was there stays as it was. A client that has had its turns has the entries that it asked
for, once each and in the order in which it first asked; each of them is in the catalog exactly once
and is the same for everybody. Only the numbers of new entries depend on the order of turns. -/
theorem seeding_shares_catalog {d : Deployment} (h : d.Reachable) (hopen : d.database.isOpen = true)
    (lists : List (List ProtocolEntry)) (schedule : List Nat) :
    let before := d.database.store
    let clients := (Concurrent.mk d.database (lists.map Job.seed)).follow schedule
    let after := clients.database.store
    (∀ requests, (Job.seed requests).run = Database.getOrCreateProtocols requests) ∧
      (∀ e, Job.failed e ∉ clients.jobs) ∧
      (∀ i requests, lists[i]? = some requests → 2 * requests.length ≤ schedule.count i →
        ∃ found, clients.jobs[i]? = some (.done found)) ∧
      before.protocols.rows <+: after.protocols.rows ∧
      (∀ w, (before.rowFor? w).isSome → after.entryFor w = before.entryFor w) ∧
      (∀ w, before.rowFor? w = none →
        ∃ id > before.protocols.lastId, after.entryFor w = { before.entryFor w with id }) ∧
      ∀ (i : Nat) (requests : List ProtocolEntry) (found : List Protocol),
        lists[i]? = some requests → clients.jobs[i]? = some (.done found) →
        found = (requests.filterMap (·.resolve?)).eraseDups.map after.entryFor ∧
        ∀ w ∈ requests.filterMap (·.resolve?),
          after.protocols.rows.filter (·.isFor w.1.toText w.2.toNat) = [(after.entryFor w).row] := by
  intro before clients after
  obtain ⟨shares, hsafe⟩ := Concurrent.seeding_safe hopen h.consistent lists schedule
  have hedits : Store.Edits before after := hsafe.reached
  refine ⟨Job.run_seed, hsafe.not_failed, ?_, hedits.toExtends.protocols.rows, ?_, ?_, ?_⟩
  · intro i requests hrequests henough
    have hlt : i < clients.jobs.length := by
      rw [Concurrent.length_follow, List.length_map]
      exact (List.getElem?_eq_some_iff.mp hrequests).1
    have hi := List.getElem?_eq_getElem hlt
    have hturns : 2 * (lists.getD i []).length - schedule.count i = 0 := by
      rw [List.getD_eq_getElem?_getD, hrequests]
      exact Nat.sub_eq_zero_of_le henough
    obtain ⟨found, hfound⟩ := hsafe.done_of_turns hi hturns
    exact ⟨found, hfound ▸ hi⟩
  · intro w hw
    obtain ⟨row, hrow⟩ := Option.isSome_iff_exists.mp hw
    -- an old row is never replaced
    rw [Store.entryFor_some hrow, Store.entryFor_some (hedits.toExtends.rowFor? hrow)]
  · intro w hw
    exact hedits.entryFor_new hw
  · intro i requests found hrequests hi
    obtain ⟨share, hshare, _⟩ := hsafe.job_safe hi
    obtain ⟨_, hsame, hanswer⟩ := hsafe.answered hi hshare trivial
    cases hsame
    have hseeded := hanswer requests hrequests
    exact ⟨hseeded.found_eq, fun w hw => hseeded.consistent.filter_isFor (hseeded.there w hw)⟩

/-- Two clients on a catalog with one of the entries, each of which inserts an entry while the other
one is about to look up its own. -/
theorem seeding_shares_catalog_of_two :
    let d := ({} : Deployment).after [⟨_, .getOrCreateProtocols [.ofName .ssh]⟩]
    let lists := [[.ofName .ssh, .ofName .sftp], [.ofName .sftp, .ofName .ssh]]
    let clients := (Concurrent.mk d.database (lists.map Job.seed)).follow [0, 1, 1, 0, 0, 1, 1, 0]
    let after := clients.database.store
    clients.jobs.filterMap Job.answer? = [[⟨1, .ssh, 22, true⟩, ⟨3, .sftp, 22, true⟩],
        [⟨3, .sftp, 22, true⟩, ⟨1, .ssh, 22, true⟩]] ∧
      ∃ found, clients.jobs[0]? = some (.done found) ∧
        ∀ w ∈ [ProtocolEntry.ofName .ssh, .ofName .sftp].filterMap (·.resolve?),
          after.protocols.rows.filter (·.isFor w.1.toText w.2.toNat) = [(after.entryFor w).row] := by
  intro d lists clients after
  have h := seeding_shares_catalog (d := d) (.after _) (by decide +kernel) lists
    [0, 1, 1, 0, 0, 1, 1, 0]
  extract_lets at h
  obtain ⟨_, _, hturns, _, _, _, hresult⟩ := h
  obtain ⟨found, hfirst⟩ := hturns 0 _ rfl (by decide)
  exact ⟨by decide +kernel, found, hfirst, (hresult 0 _ found rfl hfirst).2⟩

end Deployment
end GatewayRegistry
