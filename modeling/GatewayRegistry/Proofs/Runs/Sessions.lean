import GatewayRegistry.Proofs.Runs.Copies
import GatewayRegistry.Proofs.Runs.Frame
import GatewayRegistry.Proofs.Runs.Upkeep
import GatewayRegistry.Proofs.Store.Failure

/-!
# Sessions

The answers to the requests of a run tell which sessions were opened and which were finished
(`Deployment.sessionEvents`). The table of sessions holds what these events say (`Store.Recounts`),
and so the counts of open sessions do (`Deployment.sessions_accounted`): each is the number of
sessions that were opened within its scope and not finished afterwards, whatever else was asked in
between.
-/

namespace GatewayRegistry

/-! ## Events

A history keeps what has been answered: sessions that were opened and ids that were finished. It
leaves out what failed, so it can be compared with the table. -/

namespace Session

/-- What happens to sessions. -/
inductive Event where
  | opened (x : Session)
  | finished (id : String)
  deriving DecidableEq, Repr

def opened (history : List Event) : List Session :=
  history.filterMap fun
    | .opened x => some x
    | .finished _ => none

/-- The sessions that were opened and not finished afterwards. -/
def unfinished : List Event → List Session
  | [] => []
  | .opened x :: later => if .finished x.id ∈ later then unfinished later else x :: unfinished later
  | .finished _ :: later => unfinished later

variable {history : List Event}

theorem opened_append (history later : List Event) :
    opened (history ++ later) = opened history ++ opened later :=
  List.filterMap_append

theorem unfinished_concat_opened (history : List Event) (x : Session) :
    unfinished (history ++ [.opened x]) = unfinished history ++ [x] := by
  induction history with
  | nil => rfl
  | cons event later ih =>
      cases event with
      | opened y =>
          simp only [List.cons_append, unfinished, ih, List.mem_append, List.mem_singleton,
            reduceCtorEq, or_false]
          split <;> rfl
      | finished id => exact ih

theorem unfinished_concat_finished (history : List Event) (id : String) :
    unfinished (history ++ [.finished id]) = (unfinished history).filter (·.id != id) := by
  induction history with
  | nil => rfl
  | cons event later ih =>
      cases event with
      -- the session is finished already, or now, or still open
      | opened y =>
          simp only [List.cons_append, unfinished, ih, List.mem_append, List.mem_singleton,
            Event.finished.injEq]
          by_cases hlater : Event.finished y.id ∈ later
          · simp [hlater]
          · by_cases hid : y.id = id
            · subst hid
              simp [hlater]
            · simp [hlater, hid]
      | finished _ => exact ih

/-- What an answer tells, which is nothing if it is a failure. -/
def told {ε α : Type} (events : α → List Event) : Except ε α → List Event
  | .ok a => events a
  | .error _ => []

theorem told_of_silent {ε α : Type} {events : α → List Event} (h : ∀ a, events a = [])
    (answer : Except ε α) : told events answer = [] := by
  cases answer with
  | ok a => exact h a
  | error e => rfl

end Session

/-! ## What a table recounts

The table has one row for each session that was opened, in that order, with a mark on those that
were finished. So the sessions without a mark are the ones that the history leaves unfinished. -/

namespace Store

variable {s s' : Store} {history : List Session.Event}

/-- The table of sessions holds what happened to sessions. -/
structure Recounts (s : Store) (history : List Session.Event) : Prop where
  ids : s.sessions.map (·.id) = (Session.opened history).map (·.id)
  unfinished : s.sessions.filter (!·.isFinished) = Session.unfinished history

theorem recounts_empty : empty.Recounts [] := ⟨rfl, rfl⟩

namespace Recounts

theorem congr (h : s.Recounts history) (hsame : s'.sessions = s.sessions) :
    s'.Recounts history := by
  constructor
  · rw [hsame]
    exact h.ids
  · rw [hsame]
    exact h.unfinished

/-- What does not write to the table must tell nothing. -/
theorem silent {ε α : Type} (h : s.Recounts history) (hsame : s'.sessions = s.sessions)
    {events : α → List Session.Event} (hevents : ∀ a, events a = []) (answer : Except ε α) :
    s'.Recounts (history ++ Session.told events answer) := by
  rw [Session.told_of_silent hevents, List.append_nil]
  exact h.congr hsame

/-- An id is known if a session was opened under it. -/
theorem mem_ids_iff (h : s.Recounts history) (id : String) :
    (∃ x ∈ s.sessions, x.id = id) ↔ ∃ x ∈ Session.opened history, x.id = id := by
  rw [← List.mem_map, ← List.mem_map, h.ids]

/-- A new row is recounted as an opened session. -/
theorem append (h : s.Recounts history) {x : Session} (hopen : x.isFinished = false) :
    { s with sessions := s.sessions ++ [x] }.Recounts (history ++ [Session.Event.opened x]) where
  ids := by
    rw [Session.opened_append, List.map_append, List.map_append, h.ids]
    rfl
  unfinished := by
    rw [Session.unfinished_concat_opened, ← h.unfinished, List.filter_append]
    simp [hopen]

/-- A mark is recounted as a finished session. -/
theorem finishSession (h : s.Recounts history) (id : String) :
    (s.finishSession id).Recounts (history ++ [Session.Event.finished id]) where
  ids := by
    rw [Session.opened_append]
    show (s.sessions.map _).map _ = (Session.opened history ++ []).map _
    rw [List.append_nil, List.map_map, ← h.ids]
    apply List.map_congr_left
    intro x _
    dsimp only [Function.comp]
    split <;> rfl
  unfinished := by
    rw [Session.unfinished_concat_finished, ← h.unfinished, List.filter_filter]
    show (s.sessions.map _).filter _ = _
    rw [List.filter_map]
    -- a row that stays unfinished is not the one that is marked
    have hkept : ∀ x ∈ s.sessions.filter fun x => x.id != id && !x.isFinished,
        (if x.id == id then { x with isFinished := true } else x) = x := by
      intro x hx
      have hid : x.id ≠ id := by
        have hpair := (List.mem_filter.mp hx).2
        simp at hpair
        exact hpair.1
      simp [hid]
    have hsame : ((!·.isFinished) ∘ fun x : Session =>
        if x.id == id then { x with isFinished := true } else x) =
          fun x => x.id != id && !x.isFinished := by
      funext x
      by_cases hid : x.id = id
      · simp [hid]
      · simp [hid]
    rw [hsame]
    exact (List.map_congr_left hkept).trans (List.map_id _)

/-- To finish what is not open changes nothing. -/
theorem finishSession_eq (h : s.Recounts history) {id : String}
    (hid : ∀ x ∈ Session.unfinished history, x.id ≠ id) : s.finishSession id = s := by
  have hkeep : s.sessions.map (fun x => if x.id == id then { x with isFinished := true } else x) =
      s.sessions := by
    refine (List.map_congr_left ?_).trans (List.map_id _)
    intro x hx
    by_cases hsame : x.id = id
    · have hfinished : x.isFinished = true := by
        -- a session without the mark would be unfinished, and the id is that of none
        by_contra hopen
        have hmem : x ∈ Session.unfinished history := by
          rw [← h.unfinished]
          exact List.mem_filter.mpr ⟨hx, by simpa using hopen⟩
        exact hid x hmem hsame
      rw [if_pos (beq_iff_eq.mpr hsame)]
      exact congrArg (fun finished => { x with isFinished := finished }) hfinished.symm
    · simp [hsame]
  show { s with sessions := s.sessions.map _ } = s
  rw [hkeep]

/-- What is counted is what the history leaves unfinished. -/
theorem openSessions_eq (h : s.Recounts history) (terminalId : String) (scope : SessionScope) :
    s.openSessions terminalId scope =
      (Session.unfinished history).countP fun x => x.terminalId == terminalId && scope.includes x := by
  rw [← h.unfinished, List.countP_filter]
  apply List.countP_congr
  intro x _
  simp [and_assoc, and_comm]

end Recounts
end Store

/-! ## Calls

Each operation adds to the history what it has answered, if anything. Two of them write to the
table; all others are silent and leave it as it is. -/

namespace Database

variable {α : Type} {db db' : Database} {history : List Session.Event}

/-- A session is opened under a new id, on a terminal that is there. -/
theorem createSession_eq_ok_iff {id terminalId organizationId : String} {now : Int64}
    {x : Session} :
    createSession id terminalId organizationId now db = (.ok x, db') ↔
      db.isOpen = true ∧ (∀ y ∈ db.store.sessions, y.id ≠ id) ∧
        (∃ row ∈ db.store.terminals, row.id = terminalId) ∧
        x = ⟨id, terminalId, organizationId, false, now⟩ ∧
        db' = { db with store := { db.store with sessions := db.store.sessions ++ [x] } } := by
  constructor
  · intro h
    obtain ⟨_, db₁, hwrite, hread⟩ := call_bind_eq_ok h
    obtain ⟨s, hopen, hinsert, rfl⟩ := execute_eq_ok hwrite
    obtain ⟨hfresh, hterminal, rfl⟩ := Store.insertSession_eq_ok_iff.mp hinsert
    obtain ⟨hfound, rfl⟩ := query_eq_ok hread
    -- nothing with this id comes before the new row, so that is what is read back
    have hnone : db.store.sessions.find? (·.id == id) = none := by
      rw [List.find?_eq_none]
      intro y hy
      simpa using hfresh y hy
    simp only [List.find?_append, hnone, Option.none_or, List.find?_singleton, beq_self_eq_true,
      ↓reduceIte, Except.ok.injEq] at hfound
    subst hfound
    exact ⟨hopen, hfresh, hterminal, rfl, rfl⟩
  · rintro ⟨hopen, hfresh, hterminal, rfl, rfl⟩
    have hnone : db.store.sessions.find? (·.id == id) = none := by
      rw [List.find?_eq_none]
      intro y hy
      simpa using hfresh y hy
    refine (call_bind_ok (execute_ok hopen
      (Store.insertSession_eq_ok_iff.mpr ⟨hfresh, hterminal, rfl⟩))).trans (query_ok hopen ?_)
    simp [List.find?_append, hnone]

theorem finishSession_ok (hopen : db.isOpen = true) (id : String) :
    finishSession id db =
      (.ok (db.store.sessions.any (·.id == id)), { db with store := db.store.finishSession id }) :=
  transact_ok hopen rfl

theorem finishSession_closed (hclosed : db.isOpen = false) (id : String) :
    finishSession id db = (.error (.query .closed), db) :=
  transact_closed hclosed

theorem countOpenSessions_eq (terminalId : String) (scope : SessionScope) (db : Database) :
    countOpenSessions terminalId scope db =
      (if db.isOpen then .ok (db.store.openSessions terminalId scope) else .error (.query .closed),
        db) := by
  cases hopen : db.isOpen with
  | true =>
      rw [if_pos rfl]
      exact query_ok hopen rfl
  | false =>
      rw [if_neg Bool.false_ne_true, countOpenSessions, query]
      exact transact_closed hopen

/-- What an operation has done to sessions if it succeeded. -/
def Operation.sessionEvents {α : Type} : Operation α → α → List Session.Event
  | createSession id terminalId organizationId now, _ =>
    [.opened ⟨id, terminalId, organizationId, false, now⟩]
  | finishSession id, true => [.finished id]
  | _, _ => []

theorem createSession_recounts (h : db.store.Recounts history)
    (id terminalId organizationId : String) (now : Int64) :
    let op := Operation.createSession id terminalId organizationId now
    (op.run db).2.store.Recounts (history ++ Session.told op.sessionEvents (op.run db).1) := by
  intro op
  rcases hrun : op.run db with ⟨e | x, db'⟩
  · have hsame := createSession_traceless id terminalId organizationId now e (congrArg Prod.fst hrun)
    obtain rfl : db' = db := (congrArg Prod.snd hrun).symm.trans hsame
    rw [Session.told, List.append_nil]
    exact h
  · obtain ⟨_, _, _, rfl, rfl⟩ := createSession_eq_ok_iff.mp hrun
    exact h.append rfl

/-- A session that is finished is recounted, and an unknown id does nothing. -/
theorem finishSession_recounts (h : db.store.Recounts history) (id : String) :
    let op := Operation.finishSession id
    (op.run db).2.store.Recounts (history ++ Session.told op.sessionEvents (op.run db).1) := by
  intro op
  cases hopen : db.isOpen with
  | false =>
      have hrun : op.run db = (.error (.query .closed), db) := finishSession_closed hopen id
      rw [hrun, Session.told, List.append_nil]
      exact h
  | true =>
      have hrun : op.run db = (.ok (db.store.sessions.any (·.id == id)), _) := finishSession_ok hopen id
      rw [hrun]
      cases hknown : db.store.sessions.any (·.id == id) with
      | true => exact h.finishSession id
      | false =>
          -- an id that the table does not know has no unfinished session
          have hid : ∀ x ∈ Session.unfinished history, x.id ≠ id := by
            intro x hx hsame
            rw [← h.unfinished] at hx
            have hthere := any_key_iff.mpr ⟨x, List.mem_of_mem_filter hx, hsame⟩
            rw [hknown] at hthere
            cases hthere
          rw [h.finishSession_eq hid, Session.told, Operation.sessionEvents, List.append_nil]
          exact h

/-- The table goes on to hold what happens to sessions. -/
theorem Operation.recounts (op : Operation α) (h : db.store.Recounts history) :
    (op.run db).2.store.Recounts (history ++ Session.told op.sessionEvents (op.run db).1) := by
  -- all but two operations leave the sessions alone
  have hother : .sessions ∉ op.written → (∀ a, op.sessionEvents a = []) →
      (op.run db).2.store.Recounts (history ++ Session.told op.sessionEvents (op.run db).1) := by
    intro hwritten hevents
    exact h.silent (op.writes db .sessions hwritten) hevents _
  cases op with
  | createSession id terminalId organizationId now =>
      exact createSession_recounts h id terminalId organizationId now
  | finishSession id => exact finishSession_recounts h id
  | _ => exact hother (by simp [Operation.written]) fun _ => rfl

end Database

namespace Registry

variable {α : Type} {d : Deployment} {history : List Session.Event}

/-- What an operation has done to sessions if it succeeded. -/
def Operation.sessionEvents {α : Type} : Operation α → α → List Session.Event
  | store op, a => op.sessionEvents a
  | _, _ => []

/-- The table goes on to hold what happens to sessions. -/
theorem Operation.recounts (op : Operation α) (h : d.database.store.Recounts history) :
    (op.run d).2.database.store.Recounts
      (history ++ Session.told op.sessionEvents (op.run d).1) := by
  -- the operations of the registry write no session
  have hother : .sessions ∉ op.written → (∀ a, op.sessionEvents a = []) →
      (op.run d).2.database.store.Recounts
        (history ++ Session.told op.sessionEvents (op.run d).1) := by
    intro hwritten hevents
    exact h.silent (op.writes d .sessions hwritten) hevents _
  cases op with
  | store op =>
      have hstore := op.recounts h
      rcases hrun : op.run d.database with ⟨e | a, db⟩
      · rw [hrun] at hstore
        show ((onStore op.run d).2.database.store).Recounts
          (history ++ Session.told _ (onStore op.run d).1)
        rw [onStore, storeCall_error hrun]
        exact hstore
      · rw [hrun] at hstore
        show ((onStore op.run d).2.database.store).Recounts
          (history ++ Session.told _ (onStore op.run d).1)
        rw [onStore, storeCall_ok hrun]
        exact hstore
  | _ => exact hother (by simp [Operation.written]) fun _ => rfl

/-- Whether an operation deletes a terminal, or enables or disables an account. -/
def Operation.withdraws {α : Type} : Operation α → Bool
  | delete _ => true
  | setActive .. => true
  | store (.softDelete _) => true
  | store (.setAccountActive ..) => true
  | _ => false

/-- To withdraw a terminal or its account is to write no session. -/
theorem Operation.withdraws_written (op : Operation α) (h : op.withdraws = true) :
    .sessions ∉ op.written := by
  cases op with
  | delete | setActive => simp [Operation.written]
  | store op =>
      cases op with
      | softDelete | setAccountActive => simp [Operation.written, Database.Operation.written]
      | _ => cases h
  | _ => cases h

theorem Operation.withdraws_isOpen (op : Operation α) (h : op.withdraws = true) (d : Deployment) :
    (op.run d).2.database.isOpen = d.database.isOpen := by
  cases op with
  | delete t =>
      show (Registry.lend t Registry.delete d).2.database.isOpen = _
      rw [delete_snd]
      exact d.database.change_isOpen _
  | setActive t enabled =>
      show (Registry.setActive t enabled d).2.database.isOpen = _
      rw [setActive_snd]
      exact d.database.change_isOpen _
  | store op =>
      show (onStore op.run d).2.database.isOpen = _
      rw [onStore_snd]
      cases op with
      | softDelete id =>
          show (Database.softDelete id d.database).2.isOpen = _
          rw [Database.softDelete, Database.transact_snd]
          exact d.database.change_isOpen _
      | setAccountActive id active =>
          show (Database.setAccountActive id active d.database).2.isOpen = _
          rw [Database.setAccountActive, Database.execute_snd]
          exact d.database.change_isOpen _
      | _ => cases h
  | _ => cases h

end Registry

namespace Deployment

/-- What requests do to sessions, one after the other. -/
def sessionEvents (d : Deployment) : List Registry.Request → List Session.Event
  | [] => []
  | request :: requests =>
    Session.told request.2.sessionEvents (request.2.run d).1 ++
      (request.2.run d).2.sessionEvents requests

/-- After a run, the table recounts what the run has answered. -/
theorem recounts_after (d : Deployment) {history : List Session.Event}
    (h : d.database.store.Recounts history) (requests : List Registry.Request) :
    (d.after requests).database.store.Recounts (history ++ d.sessionEvents requests) := by
  induction requests generalizing d history with
  | nil =>
      rw [sessionEvents, List.append_nil]
      exact h
  | cons request requests ih =>
      rw [after_cons, sessionEvents, ← List.append_assoc]
      exact ih _ (request.2.recounts h)

def organizations (d : Deployment) : List String :=
  (d.database.store.sessions.map (·.organizationId)).eraseDups

/-- What is asked about sessions, and done to them, goes by what happened to them before. -/
structure AccountsFor (d : Deployment) (history : List Session.Event) : Prop where
  /-- The sessions of a scope that were opened and not finished afterwards are counted. -/
  count : ∀ terminalId scope, Database.countOpenSessions terminalId scope d.database =
    (if d.database.isOpen then
      .ok ((Session.unfinished history).countP fun x =>
        x.terminalId == terminalId && scope.includes x)
    else .error (.query .closed), d.database)
  /-- So are the sessions of a terminal, whichever copy of it is at hand. -/
  online : ∀ t : Terminal, Registry.onlineSessions t d =
    (if d.database.isOpen then
      .ok ((Session.unfinished history).countP (·.terminalId == t.id))
    else .error (.database (.query .closed)), d)
  /-- A session is opened unless its id was used before or the terminal was never there. -/
  create : ∀ id terminalId organizationId now,
    (∃ x db, Database.createSession id terminalId organizationId now d.database = (.ok x, db)) ↔
      d.database.isOpen = true ∧ (∀ x ∈ Session.opened history, x.id ≠ id) ∧
        ∃ row ∈ d.database.store.terminals, row.id = terminalId
  /-- Every session that was opened can be finished, and no other. -/
  finish : d.database.isOpen = true → ∀ id, (Database.finishSession id d.database).1 =
    .ok ((Session.opened history).any (·.id == id))
  /-- What is not open is not changed by being finished, be it finished or unknown. -/
  finish_again : ∀ id, (∀ x ∈ Session.unfinished history, x.id ≠ id) →
    (Database.finishSession id d.database).2 = d.database
  /-- Neither a deletion nor an account that is disabled makes a difference. -/
  withdraw : ∀ {α : Type} (op : Registry.Operation α), op.withdraws = true → ∀ t,
    (Registry.onlineSessions t (op.run d).2).1 = (Registry.onlineSessions t d).1
  /-- The counts of the organizations sum up to the whole. -/
  partition : d.database.isOpen = true → ∀ terminalId, ∃ counts,
    d.organizations.mapM (fun o => Database.countOpenSessions terminalId (.organization o)) d.database =
        (.ok counts, d.database) ∧
      Database.countOpenSessions terminalId .root d.database = (.ok counts.sum, d.database)

/-- Counts are answered from the history, as long as the database is open. -/
theorem countOpenSessions_recounted {d : Deployment} {history : List Session.Event}
    (h : d.database.store.Recounts history) (terminalId : String) (scope : SessionScope) :
    Database.countOpenSessions terminalId scope d.database =
      (if d.database.isOpen then
        .ok ((Session.unfinished history).countP fun x =>
          x.terminalId == terminalId && scope.includes x)
      else .error (.query .closed), d.database) := by
  rw [Database.countOpenSessions_eq, h.openSessions_eq]

/-- The sessions of a terminal are counted over all organizations. -/
theorem onlineSessions_recounted {d : Deployment} {history : List Session.Event}
    (h : d.database.store.Recounts history) (t : Terminal) :
    Registry.onlineSessions t d =
      (if d.database.isOpen then
        .ok ((Session.unfinished history).countP (·.terminalId == t.id))
      else .error (.database (.query .closed)), d) := by
  have hcount := countOpenSessions_recounted h t.id .root
  simp only [SessionScope.includes, Bool.and_true] at hcount
  unfold Registry.onlineSessions Registry.onStore
  cases hopen : d.database.isOpen with
  | true =>
      rw [hopen] at hcount
      exact Registry.storeCall_ok hcount
  | false =>
      rw [hopen] at hcount
      exact Registry.storeCall_error hcount

/-- Each session belongs to one organization, so the counts add up. -/
theorem organizations_partition {d : Deployment} (hopen : d.database.isOpen = true)
    (terminalId : String) :
    ∃ counts,
      d.organizations.mapM (fun o => Database.countOpenSessions terminalId (.organization o))
          d.database = (.ok counts, d.database) ∧
        Database.countOpenSessions terminalId .root d.database = (.ok counts.sum, d.database) := by
  have hcount : ∀ scope, Database.countOpenSessions terminalId scope d.database =
      (.ok (d.database.store.openSessions terminalId scope), d.database) := by
    intro scope
    rw [Database.countOpenSessions_eq, hopen]
    rfl
  refine ⟨_, call_mapM_ok _ fun o _ => hcount (.organization o), ?_⟩
  rw [hcount, organizations]
  simp only [Store.openSessions, SessionScope.includes, sum_countP_eraseDups, Bool.and_true]

/-- Whatever is asked in a run, it accounts for the sessions that were opened in it. A session
counts from the moment it was opened until it is finished for the first time; what becomes of its
terminal does not matter. -/
theorem sessions_accounted (start : Deployment) (h : start.Fresh)
    (requests : List Registry.Request) :
    (start.after requests).AccountsFor (start.sessionEvents requests) := by
  have hstart : start.database.store.Recounts [] := by
    rw [h.database]
    exact Store.recounts_empty
  have hs := start.recounts_after hstart requests
  rw [List.nil_append] at hs
  generalize start.after requests = d at hs ⊢
  generalize start.sessionEvents requests = history at hs ⊢
  constructor
  case count => exact countOpenSessions_recounted hs
  case online => exact onlineSessions_recounted hs
  case create =>
    intro id terminalId organizationId now
    have hfresh : (∀ x ∈ Session.opened history, x.id ≠ id) ↔
        ∀ x ∈ d.database.store.sessions, x.id ≠ id := by
      simpa using not_congr (hs.mem_ids_iff id).symm
    simp only [Database.createSession_eq_ok_iff, hfresh]
    constructor
    · rintro ⟨_, _, hopen, hnew, hterminal, _⟩
      exact ⟨hopen, hnew, hterminal⟩
    · rintro ⟨hopen, hnew, hterminal⟩
      exact ⟨_, _, hopen, hnew, hterminal, rfl, rfl⟩
  case finish =>
    intro hopen id
    rw [Database.finishSession_ok hopen, Except.ok.injEq, Bool.eq_iff_iff, any_key_iff, any_key_iff]
    exact hs.mem_ids_iff id
  -- what is finished already has its mark
  case finish_again =>
    intro id hid
    cases hopen : d.database.isOpen with
    | true => rw [Database.finishSession_ok hopen, hs.finishSession_eq hid]
    | false => rw [Database.finishSession_closed hopen]
  case withdraw =>
    intro α op hop t
    have hsame := op.writes d .sessions (op.withdraws_written hop)
    have hafter : (op.run d).2.database.store.Recounts history := hs.congr hsame
    rw [onlineSessions_recounted hafter, onlineSessions_recounted hs, op.withdraws_isOpen hop]
  case partition => exact organizations_partition

/-- Sessions of two organizations on one terminal, of which one is finished twice; an id that is
used again, a terminal and a session that are not there; and then the terminal is deleted. -/
theorem sessions_accounted_of_refusals :
    let requests : List Registry.Request := [registration,
      ⟨_, .store (.createSession "s" "t" "north" 10)⟩,
      ⟨_, .store (.createSession "x" "t" "south" 20)⟩,
      ⟨_, .store (.createSession "s" "t" "south" 30)⟩,
      ⟨_, .store (.createSession "y" "u" "south" 40)⟩,
      ⟨_, .store (.finishSession "x")⟩,
      ⟨_, .store (.finishSession "z")⟩,
      ⟨_, .store (.createSession "y" "t" "south" 50)⟩,
      ⟨_, .store (.finishSession "x")⟩,
      ⟨_, .delete newcomer⟩]
    let d := ({} : Deployment).after requests
    Registry.onlineSessions newcomer d = (.ok 2, d) ∧
      (Database.finishSession "x" d.database).1 = .ok true ∧
      (Database.finishSession "x" d.database).2 = d.database := by
  intro requests d
  have hhistory : ({} : Deployment).sessionEvents requests =
      [.opened ⟨"s", "t", "north", false, 10⟩, .opened ⟨"x", "t", "south", false, 20⟩,
        .finished "x", .opened ⟨"y", "t", "south", false, 50⟩, .finished "x"] := by
    decide +kernel
  have hopen : d.database.isOpen = true := by decide +kernel
  have haccounts := sessions_accounted {} ⟨rfl, rfl⟩ requests
  rw [hhistory] at haccounts
  refine ⟨?_, haccounts.finish hopen "x", haccounts.finish_again "x" (by decide)⟩
  rw [haccounts.online newcomer, if_pos hopen]
  rfl

end Deployment
end GatewayRegistry
