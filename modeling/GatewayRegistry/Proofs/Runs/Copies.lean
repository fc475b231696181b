import GatewayRegistry.Proofs.Runs.Lifecycle
import GatewayRegistry.Proofs.Store.Listing

/-!
# Copies of terminals

Callers hold copies of terminals that they were handed out at some point of a run (`Handed`): an
answer describes a row as it was then, and an operation on a copy that succeeds gives back the copy
with a change. However old a copy is, the row with its id is there (`Handed.stored`).
-/

namespace GatewayRegistry

/-! ## Answers

Some operations answer with terminals. What they answer is read from rows of the store, so each
terminal is what some row describes; or it is the caller's own copy, changed in the account at most.
-/

namespace Database

variable {α : Type} {db db' : Database} {t : Terminal}

/-- The terminals in an answer. -/
def Operation.terminals {α : Type} : Operation α → α → List Terminal
  | createTerminal .., t => [t]
  | getTerminal _, t => [t]
  | listTerminals, ts => ts
  | listUndeleted, ts => ts
  | listActive, ts => ts
  | _, _ => []

/-- A terminal that is looked up is what its row describes. -/
theorem getTerminal_described (hs : db.store.Consistent) {id : String}
    (h : getTerminal id db = (.ok t, db')) : ∃ row ∈ db'.store.terminals, row.described = t := by
  obtain ⟨hask, rfl⟩ := query_eq_ok h
  cases hrow : db'.store.terminalRow? id with
  | none =>
      rw [hrow] at hask
      cases hask
  | some row =>
      have hmem := (hs.terminalRow?_eq_some_iff.mp hrow).1
      have hread := (hs.terminalsReadable row hmem).read_eq
      simp only [hrow, hread] at hask
      exact ⟨row, hmem, Except.ok.inj hask⟩

/-- A new terminal is read back from its row. -/
theorem createTerminal_described (hs : db.store.Consistent) {id : String} {new : NewTerminal}
    {account : Option (String × String)} {now : Int64}
    (h : createTerminal id new account now db = (.ok t, db')) :
    ∃ row ∈ db'.store.terminals, row.described = t := by
  obtain ⟨_, db₁, hwrite, hread⟩ := call_bind_eq_ok h
  obtain ⟨s, _, hnew, rfl⟩ := execute_eq_ok hwrite
  exact getTerminal_described ((Store.insertNewTerminal_edits hnew).consistent hs) hread

/-- The members of a list are what rows describe. -/
theorem listed_described (hs : db.store.Consistent) {p : Store → TerminalRow → Bool}
    {ts : List Terminal}
    (h : query (fun s => (s.orderedTerminals.filter (p s)).mapM TerminalRow.read) db = (.ok ts, db'))
    (ht : t ∈ ts) : ∃ row ∈ db'.store.terminals, row.described = t := by
  obtain ⟨hask, rfl⟩ := query_eq_ok h
  rw [hs.mapM_read_filter] at hask
  obtain rfl := Except.ok.inj hask
  obtain ⟨row, hrow, _, hdescribed⟩ := Store.mem_viewed_iff.mp ht
  exact ⟨row, hrow, hdescribed⟩

/-- A terminal in an answer is what a row describes. -/
theorem Operation.described (op : Operation α) (hs : db.store.Consistent) {a : α}
    (h : op.run db = (.ok a, db')) (ht : t ∈ op.terminals a) :
    ∃ row ∈ db'.store.terminals, row.described = t := by
  cases op with
  | createTerminal id new account now =>
      obtain rfl := List.mem_singleton.mp ht
      exact createTerminal_described hs h
  | getTerminal id =>
      obtain rfl := List.mem_singleton.mp ht
      exact getTerminal_described hs h
  | listTerminals =>
      refine listed_described hs (p := fun _ _ => true) ?_ ht
      simp only [List.filter_true]
      exact h
  | listUndeleted => exact listed_described hs (p := fun _ row => !row.isDeleted) h ht
  | listActive =>
      exact listed_described hs (p := fun s row => !row.isDeleted && s.hasActiveAccount row) h ht
  | _ => exact absurd ht List.not_mem_nil

end Database

namespace Registry

variable {α : Type} {d d' : Deployment} {t : Terminal}

/-- The terminals in an answer. -/
def Operation.terminals {α : Type} : Operation α → α → List Terminal
  | store op, a => op.terminals a
  | register .., t => [t]
  | get _, t => [t]
  | accept _, t => [t]
  | delete _, t => [t]
  | setStorage .., t => [t]
  | undeleted, ts => ts
  | active, ts => ts
  | alive, ts => ts
  | _, _ => []

/-- The copy that an operation gives back with a change. -/
def Operation.source? {α : Type} : Operation α → Option Terminal
  | accept t => some t
  | delete t => some t
  | setStorage t _ _ => some t
  | _ => none

/-- A terminal in an answer is what a row describes, unless it is a changed copy. -/
theorem Operation.described (op : Operation α) (hs : d.database.store.Consistent)
    (hsource : op.source? = none) {a : α} (h : op.run d = (.ok a, d')) (ht : t ∈ op.terminals a) :
    ∃ row ∈ d'.database.store.terminals, row.described = t := by
  cases op with
  | store op => exact op.described hs (storeCall_eq_ok h).1 ht
  | register id new account now =>
      exact (Database.Operation.createTerminal id new account now).described hs (storeCall_eq_ok h).1 ht
  | get id => exact (Database.Operation.getTerminal id).described hs (storeCall_eq_ok h).1 ht
  | undeleted => exact Database.Operation.listUndeleted.described hs (storeCall_eq_ok h).1 ht
  | active => exact Database.Operation.listActive.described hs (storeCall_eq_ok h).1 ht
  | alive =>
      -- the terminals that are alive are picked from those that are active
      obtain ⟨ts, d₁, hactive, hrest⟩ := call_bind_eq_ok h
      obtain ⟨ids, d₂, hids, hfilter⟩ := call_bind_eq_ok hrest
      have hsame := readCache_snd (·.aliveAmong (ts.map (·.id))) d₁
      rw [hids] at hsame
      obtain ⟨ha, rfl⟩ := Prod.mk.inj hfilter
      obtain rfl := Except.ok.inj ha
      obtain rfl : d₂ = d₁ := hsame
      exact Database.Operation.listActive.described hs (storeCall_eq_ok hactive).1
        (List.mem_of_mem_filter ht)
  | accept | delete | setStorage => cases hsource
  | _ => exact absurd ht List.not_mem_nil

/-- A changed copy has the id that it had, and the account that it had or none. -/
theorem Operation.changed (op : Operation α) {t₀ : Terminal} (hsource : op.source? = some t₀)
    {a : α}
    (h : op.run d = (.ok a, d')) (ht : t ∈ op.terminals a) :
    t.id = t₀.id ∧ (t.accountId = t₀.accountId ∨ t.accountId = none) := by
  cases op with
  | accept | delete | setStorage =>
      cases hsource
      simp only [Operation.run, Registry.accept, Registry.delete, Registry.setStorage, lend_mirrored] at h
      obtain ⟨_, _, _, hpure⟩ := call_bind_eq_ok h
      obtain rfl := Except.ok.inj (Prod.mk.inj hpure).1
      obtain rfl := List.mem_singleton.mp ht
      simp
  | _ => cases hsource

end Registry

/-! ## Copies in a run

A copy is handed out by an operation and may be kept for as long as the run goes on. An induction
over how it was come by (`Handed.induction`) replaces an induction over the run. -/

namespace Deployment

/-- A copy of a terminal that was handed out in a run: in an answer, or as what a call has made of
such a copy. A call that fails leaves the copy as it was (`Registry.mirrored_error`), and so needs
no case of its own. -/
inductive Handed (start : Deployment) : List Registry.Request → Terminal → Prop where
  | answer {requests : List Registry.Request} {α : Type} {op : Registry.Operation α} {a : α}
      {t : Terminal} (source : ∀ t₀, op.source? = some t₀ → Handed start requests t₀)
      (answer : (op.run (start.after requests)).1 = .ok a) (mem : t ∈ op.terminals a) :
      Handed start (requests ++ [⟨α, op⟩]) t
  | later {requests : List Registry.Request} {t : Terminal} (request : Registry.Request)
      (handed : Handed start requests t) : Handed start (requests ++ [request]) t

variable {start : Deployment} {requests : List Registry.Request} {t : Terminal}

/-- The last request of a run is carried out where the others have led. -/
theorem after_snoc (start : Deployment) (requests : List Registry.Request)
    (request : Registry.Request) :
    start.after (requests ++ [request]) = (request.2.run (start.after requests)).2 :=
  after_append start requests [request]

/-- Whatever is requested of a fresh deployment, it reaches a state that can be reached. -/
theorem Fresh.reachable (h : start.Fresh) (requests : List Registry.Request) :
    (start.after requests).Reachable :=
  ⟨start, h, requests, rfl⟩

theorem leadsTo_snoc (start : Deployment) (requests : List Registry.Request)
    (request : Registry.Request) :
    (start.after requests).LeadsTo (start.after (requests ++ [request])) := by
  rw [after_snoc]
  exact .run request.2 _

/-- What is known of a copy when it is handed out stays known, if each request keeps it. -/
theorem Handed.induction {P : List Registry.Request → Terminal → Prop} (h : start.Handed requests t)
    (fresh : start.Fresh)
    (described : ∀ requests row, row ∈ (start.after requests).database.store.terminals →
      P requests row.described)
    (changed : ∀ requests t₀ t, P requests t₀ → t.id = t₀.id →
      (t.accountId = t₀.accountId ∨ t.accountId = none) → P requests t)
    (later : ∀ requests request t, P requests t → P (requests ++ [request]) t) : P requests t := by
  induction h with
  -- a terminal in an answer was read from a row, or is the copy that was handed in
  | @answer requests α op a t _ answer mem ih =>
      have hrun : op.run (start.after requests) =
          (.ok a, start.after (requests ++ [⟨α, op⟩])) := by
        rw [after_snoc, ← answer]
        rfl
      cases hsource : op.source? with
      | none =>
          obtain ⟨row, hrow, rfl⟩ :=
            op.described (fresh.reachable requests).consistent hsource hrun mem
          exact described _ row hrow
      | some t₀ =>
          obtain ⟨hid, haccount⟩ := op.changed hsource hrun mem
          exact changed _ t₀ t (later _ _ _ (ih t₀ hsource)) hid haccount
  | later request _ ih => exact later _ request _ ih

/-- The row with the id of a copy is there. -/
theorem Handed.stored (h : start.Handed requests t) (fresh : start.Fresh) :
    ∃ row ∈ (start.after requests).database.store.terminals, row.id = t.id := by
  refine h.induction (P := fun requests t =>
    ∃ row ∈ (start.after requests).database.store.terminals, row.id = t.id) fresh ?_ ?_ ?_
  · intro requests row hrow
    exact ⟨row, hrow, rfl⟩
  · rintro requests t₀ t ⟨row, hrow, hid⟩ hsame _
    exact ⟨row, hrow, hid.trans hsame.symm⟩
  · rintro requests request t ⟨row, hrow, hid⟩
    obtain ⟨row', hrow', hcontinues⟩ := (leadsTo_snoc start requests request).continues hrow
    exact ⟨row', hrow', hcontinues.id.trans hid⟩

/-! ## A run -/

/-- The registration of one terminal with an account. -/
def registration : Registry.Request :=
  ⟨_, .register "t" (.withDefaults "koko" .koko) (some ("a", "u")) 5⟩

/-- The copy that is handed out at that registration. -/
def newcomer : Terminal where
  id := "t"
  name := "koko"
  type := .koko
  remoteAddress := ""
  sshPort := 2222
  httpPort := 5000
  commandStorage := "default"
  replayStorage := "default"
  accountId := some "a"
  isAccepted := false
  isDeleted := false
  comment := ""
  createdAt := 5

theorem newcomer_handed : ({} : Deployment).Handed ([] ++ [registration]) newcomer := by
  refine .answer ?_ rfl List.mem_cons_self
  intro t hsource
  cases hsource

end Deployment
end GatewayRegistry
