import GatewayRegistry.Proofs.Call
import Mathlib.Algebra.GroupWithZero.Nat
import Mathlib.Data.List.Forall2

/-!
# Calls that share a database

A call is a sequence of transactions, and the transactions of others may fall between two of them. A
`Job` spells such a sequence out: `Job.run` makes a call of it, and `Concurrent.follow` runs several
jobs on one database, transaction by transaction, in the order that a schedule gives.

What is proved of a job for every schedule is proved once for the job alone (`Job.Safe`): each of
its transactions succeeds in whatever store the others have left meanwhile, as long as they keep to
a relation, and keeps to that relation in turn. `Concurrent.Safe.follow` puts safe jobs together,
and `Job.Safe.run` says what one of them does when nobody disturbs it.
-/

namespace GatewayRegistry

/-- A sequence of transactions that ends with an answer or a failure; what comes after a transaction
depends on its answer. -/
inductive Job (α : Type) : Type 1 where
  | done (a : α)
  | failed (e : StoreError)
  | transact {β : Type} (tx : Store.Transaction β) (rest : β → Job α)

namespace Job

variable {α β γ : Type}

/-! ## Jobs as calls -/

protected def bind : Job α → (α → Job β) → Job β
  | done a, f => f a
  | failed e, _ => failed e
  | transact tx rest, f => transact tx fun b => (rest b).bind f

instance : Monad Job where
  pure := done
  bind := Job.bind

def single (tx : Store.Transaction α) : Job α := transact tx done

/-- One transaction that gives nothing back. -/
def write (tx : Store → Except StoreError Store) : Job Unit :=
  single fun s => (tx s).map fun s => ((), s)

/-- Ask for something without changing it. -/
def ask (question : Store → Except StoreError α) : Job α :=
  single fun s => (question s).map fun a => (a, s)

/-- The call that a job is when nobody else uses the database. -/
def run : Job α → Database.Call α
  | done a => pure a
  | failed e => throw e
  | transact tx rest => Database.transact tx >>= fun b => (rest b).run

theorem run_pure (a : α) : (pure a : Job α).run = pure a := rfl

theorem run_single (tx : Store.Transaction α) : (single tx).run = Database.transact tx :=
  bind_pure (Database.transact tx)

theorem run_write (tx : Store → Except StoreError Store) : (write tx).run = Database.execute tx :=
  run_single _

theorem run_ask (question : Store → Except StoreError α) :
    (ask question).run = Database.query question :=
  run_single _

/-- Jobs are put together as calls are. -/
theorem run_bind (p : Job α) (f : α → Job β) :
    (p >>= f).run = p.run >>= fun a => (f a).run := by
  induction p with
  | done a =>
      show (f a).run = (pure a : Database.Call α) >>= fun a => (f a).run
      rw [pure_bind]
  | failed e => rfl
  | transact tx rest ih =>
      show (Database.transact tx >>= fun b => (rest b >>= f).run) = _
      simp only [ih]
      exact (bind_assoc _ _ _).symm

theorem run_foldlM (f : β → γ → Job β) (b : β) (xs : List γ) :
    (xs.foldlM f b).run = xs.foldlM (fun b x => (f b x).run) b := by
  induction xs generalizing b with
  | nil => rfl
  | cons x xs ih =>
      rw [List.foldlM_cons, List.foldlM_cons, run_bind]
      simp only [ih]

/-! ## One step -/

/-- Run the next transaction. A job that has come to its end stays there. -/
def advance : Job α → Database → Job α × Database
  | transact tx rest, db =>
    match Database.transact tx db with
    | (.ok b, db') => (rest b, db')
    | (.error e, db') => (failed e, db')
  | p, db => (p, db)

theorem advance_ok {tx : Store.Transaction β} {rest : β → Job α} {db db' : Database} {b : β}
    (h : Database.transact tx db = (.ok b, db')) : (transact tx rest).advance db = (rest b, db') := by
  simp only [advance, h]

theorem advance_error {tx : Store.Transaction β} {rest : β → Job α} {db db' : Database}
    {e : StoreError} (h : Database.transact tx db = (.error e, db')) :
    (transact tx rest).advance db = (failed e, db') := by
  simp only [advance, h]

/-- The answer of a job that has come to a good end. -/
def answer? : Job α → Option α
  | done a => some a
  | _ => none

/-- Whether there is nothing left to run. -/
def Finished : Job α → Prop
  | transact .. => False
  | _ => True

instance : DecidablePred (Finished : Job α → Prop)
  | done _ => .isTrue trivial
  | failed _ => .isTrue trivial
  | transact .. => .isFalse id

/-- On a closed database nothing is written and no answer is come by. -/
theorem advance_closed (p : Job α) {db : Database} (hclosed : db.isOpen = false) :
    (p.advance db).2 = db ∧ ∀ a, (p.advance db).1 = .done a → p = .done a := by
  cases p with
  | done | failed => exact ⟨rfl, fun _ h => h⟩
  | transact tx rest =>
      rw [advance_error (Database.transact_closed hclosed)]
      refine ⟨rfl, fun a h => ?_⟩
      cases h

/-! ## What a job may answer

A statement about the answers of a job in any store, for answers that were decided when the job
began. -/

/-- Whatever its transactions give back, the answer of a job is as described. -/
def Answers (Q : α → Prop) : Job α → Prop
  | done a => Q a
  | failed _ => True
  | transact _ rest => ∀ b, (rest b).Answers Q

namespace Answers

variable {P : α → Prop} {Q : β → Prop}

theorem any (p : Job α) : p.Answers fun _ => True := by
  induction p with
  | done | failed => trivial
  | transact tx rest ih => exact ih

/-- If the first part answers as expected, the rest is what follows from such answers. -/
theorem bind {p : Job α} {f : α → Job β} (h : p.Answers P) (hf : ∀ a, P a → (f a).Answers Q) :
    (p >>= f).Answers Q := by
  induction p with
  | done a => exact hf a h
  | failed e => trivial
  | transact tx rest ih => exact fun b => ih b (h b)

/-- A step does not widen what may be answered. -/
theorem advance {p : Job β} (h : p.Answers Q) (db : Database) : (p.advance db).1.Answers Q := by
  cases p with
  | done | failed => exact h
  | transact tx rest =>
      match htx : Database.transact tx db with
      | (.ok b, db') =>
          rw [advance_ok htx]
          exact h b
      | (.error e, db') =>
          rw [advance_error htx]
          trivial

end Answers

/-! ## Safe jobs

`p.Safe R gain Q turns share s` says what `p` will do from a store `s` on, if others move the store
along `R` between its transactions: none of them fails, each moves the store along `R` as well, the
quantity `gain` grows by what the job adds to its `share`, and at the end the answer, the share and
the store satisfy `Q`. It takes `turns` steps at most. -/

section

variable (R : Store → Store → Prop) (gain : Store → Nat)

/-- Whatever the others do within a relation, each transaction of a job succeeds within the
relation, there are at most so many left, and the answer is as described. The share is by how much
the job itself has increased some number. -/
def Safe (Q : α → Nat → Store → Prop) : Job α → Nat → Nat → Store → Prop
  | done a, _, share, s => ∀ s', R s s' → Q a share s'
  | failed _, _, _, _ => False
  | transact tx rest, turns, share, s =>
    ∃ turns', turns = turns' + 1 ∧ ∀ s₁, R s s₁ → ∃ b s₂, tx s₁ = .ok (b, s₂) ∧ R s₁ s₂ ∧
      ∃ k, gain s₂ = gain s₁ + k ∧ Safe Q (rest b) turns' (share + k) s₂

end

namespace Safe

variable {R : Store → Store → Prop} {gain : Store → Nat} {Q : α → Nat → Store → Prop} {p : Job α}
  {turns share : Nat} {s s' : Store}

/-- A safe job has not failed. -/
theorem not_failed {e : StoreError} (h : p.Safe R gain Q turns share s) : p ≠ failed e := by
  rintro rfl
  exact h

/-- A job that has had all its turns has come to its end. -/
theorem eq_done (h : p.Safe R gain Q 0 share s) : ∃ a, p = done a := by
  cases p with
  | done a => exact ⟨a, rfl⟩
  | failed e => exact h.elim
  | transact tx rest =>
      obtain ⟨m, hm, _⟩ := h
      cases hm

/-- More turns may be left, and less be said about the answer. -/
theorem mono {Q' : α → Nat → Store → Prop} {turns' : Nat} (h : p.Safe R gain Q turns share s)
    (hle : turns ≤ turns') (hQ : ∀ a share s, Q a share s → Q' a share s) :
    p.Safe R gain Q' turns' share s := by
  induction p generalizing turns turns' share s with
  | done a => exact fun s' hs' => hQ a share s' (h s' hs')
  | failed e => exact h
  | transact tx rest ih =>
      obtain ⟨m, rfl, hstep⟩ := h
      obtain ⟨m', rfl⟩ : ∃ m', turns' = m' + 1 := ⟨turns' - 1, by omega⟩
      refine ⟨m', rfl, fun s₁ hs₁ => ?_⟩
      obtain ⟨b, s₂, htx, hs₂, k, hgain, hrest⟩ := hstep s₁ hs₁
      exact ⟨b, s₂, htx, hs₂, k, hgain, ih b hrest (by omega)⟩

theorem pure {a : α} (h : ∀ s', R s s' → Q a share s') :
    (pure a : Job α).Safe R gain Q turns share s :=
  h

/-- One transaction, which has to succeed in every store that others may have left. -/
theorem single {tx : Store.Transaction α}
    (h : ∀ s₁, R s s₁ → ∃ a s₂, tx s₁ = .ok (a, s₂) ∧ R s₁ s₂ ∧
    ∃ k, gain s₂ = gain s₁ + k ∧ ∀ s', R s₂ s' → Q a (share + k) s') :
    (single tx).Safe R gain Q 1 share s :=
  ⟨0, rfl, h⟩

/-- A transaction that does not count. -/
theorem write {tx : Store → Except StoreError Store} {Q : Unit → Nat → Store → Prop}
    (h : ∀ s₁, R s s₁ → ∃ s₂, tx s₁ = .ok s₂ ∧ R s₁ s₂ ∧ gain s₂ = gain s₁ ∧
      ∀ s', R s₂ s' → Q () share s') : (write tx).Safe R gain Q 1 share s := by
  apply single
  intro s₁ hs₁
  obtain ⟨s₂, htx, hs₂, hgain, hQ⟩ := h s₁ hs₁
  exact ⟨(), s₂, by rw [htx]; rfl, hs₂, 0, hgain, hQ⟩

variable [IsPreorder Store R]

/-- What others do meanwhile makes no difference. -/
theorem later (h : p.Safe R gain Q turns share s) (hs : R s s') :
    p.Safe R gain Q turns share s' := by
  cases p with
  | done a => exact fun s₁ hs₁ => h s₁ (trans_of R hs hs₁)
  | failed e => exact h
  | transact tx rest =>
      obtain ⟨turns', hturns, hstep⟩ := h
      exact ⟨turns', hturns, fun s₁ hs₁ => hstep s₁ (trans_of R hs hs₁)⟩

theorem ask {question : Store → Except StoreError α}
    (h : ∀ s₁, R s s₁ → ∃ a, question s₁ = .ok a ∧ ∀ s', R s₁ s' → Q a share s') :
    (ask question).Safe R gain Q 1 share s := by
  apply single
  intro s₁ hs₁
  obtain ⟨a, ha, hQ⟩ := h s₁ hs₁
  exact ⟨a, s₁, by rw [ha]; rfl, refl_of R s₁, 0, rfl, hQ⟩

/-- What the first job says about its answer is what the second one may rely on. -/
theorem bind {f : α → Job β} {Q' : β → Nat → Store → Prop} {turns' : Nat}
    (h : p.Safe R gain Q turns share s)
    (hf : ∀ a share s, Q a share s → (f a).Safe R gain Q' turns' share s) :
    (p >>= f).Safe R gain Q' (turns + turns') share s := by
  induction p generalizing turns share s with
  | done a =>
      -- the second job begins with all the turns of the first one left over
      exact (hf a share s (h s (refl_of R s))).mono (by omega) fun _ _ _ hQ => hQ
  | failed e => exact h
  | transact tx rest ih =>
      obtain ⟨m, rfl, hstep⟩ := h
      refine ⟨m + turns', by omega, fun s₁ hs₁ => ?_⟩
      obtain ⟨b, s₂, htx, hs₂, k, hgain, hrest⟩ := hstep s₁ hs₁
      exact ⟨b, s₂, htx, hs₂, k, hgain, ih b hrest⟩

/-- Another answer takes no turn. -/
theorem map {f : α → β} {Q' : β → Nat → Store → Prop} (h : p.Safe R gain Q turns share s)
    (hf : ∀ a share s s', Q a share s → R s s' → Q' (f a) share s') :
    (p >>= fun a => Pure.pure (f a)).Safe R gain Q' turns share s := by
  show (p >>= fun a => Pure.pure (f a)).Safe R gain Q' (turns + 0) share s
  exact h.bind fun a share s ha => pure fun s' hs' => hf a share s s' ha hs'

/-- A loop, with an invariant on what is still to be done. -/
theorem foldlM {f : β → γ → Job β} {I : List γ → β → Nat → Store → Prop} {each : Nat}
    (hf : ∀ x xs b share s, I (x :: xs) b share s → (f b x).Safe R gain (I xs) each share s)
    (hend : ∀ b share s s', I [] b share s → R s s' → I [] b share s') {xs : List γ} {b : β}
    (h : I xs b share s) : (xs.foldlM f b).Safe R gain (I []) (each * xs.length) share s := by
  induction xs generalizing b share s with
  | nil => exact pure fun s' hs => hend b share s s' h hs
  | cons x xs ih =>
      rw [List.foldlM_cons, List.length_cons, Nat.mul_succ, Nat.add_comm]
      exact (hf x xs b share s h).bind fun b' share' s' h' => ih h'

/-- On its own, a safe job succeeds. -/
theorem run {db : Database} (hopen : db.isOpen = true) (h : p.Safe R gain Q turns share db.store) :
    ∃ a s k, p.run db = (.ok a, { db with store := s }) ∧ R db.store s ∧
      gain s = gain db.store + k ∧ Q a (share + k) s := by
  induction p generalizing turns share db with
  | done a => exact ⟨a, db.store, 0, rfl, refl_of R _, rfl, h _ (refl_of R _)⟩
  | failed e => exact h.elim
  -- undisturbed, a job finds the store as it has left it
  | transact tx rest ih =>
      obtain ⟨m, _, hstep⟩ := h
      obtain ⟨b, s₁, htx, hs₁, k, hgain, hrest⟩ := hstep db.store (refl_of R _)
      have hopen' : ({ db with store := s₁ } : Database).isOpen = true := hopen
      obtain ⟨a, s, k', hrun, hs, hgain', hQ⟩ := ih b hopen' hrest
      refine ⟨a, s, k + k', ?_, trans_of R hs₁ hs, ?_, ?_⟩
      · exact (call_bind_ok (Database.transact_ok hopen htx)).trans hrun
      · rw [hgain', hgain, Nat.add_assoc]
      · rw [← Nat.add_assoc]
        exact hQ

end Safe
end Job

/-! ## Several jobs

The state of a system is the database and what each job still has to do. Its invariant
(`Concurrent.Safe`) keeps a share for each job, and the gain since the start is the sum of the
shares. -/

/-- Jobs that run on one database. -/
structure Concurrent (α : Type) where
  database : Database
  jobs : List (Job α)

namespace Concurrent

variable {α : Type}

def step (c : Concurrent α) (i : Nat) : Concurrent α :=
  match c.jobs[i]? with
  | none => c
  | some p =>
    { database := (p.advance c.database).2, jobs := c.jobs.set i (p.advance c.database).1 }

theorem step_none {c : Concurrent α} {i : Nat} (h : c.jobs[i]? = none) : c.step i = c := by
  unfold step
  rw [h]

theorem step_some {c : Concurrent α} {i : Nat} {p : Job α} (h : c.jobs[i]? = some p) :
    c.step i = { database := (p.advance c.database).2
                 jobs := c.jobs.set i (p.advance c.database).1 } := by
  unfold step
  rw [h]

/-- A turn of a job that has ended. -/
theorem step_done {c : Concurrent α} {i : Nat} {a : α} (h : c.jobs[i]? = some (.done a)) :
    c.step i = c := by
  rw [step_some h]
  obtain ⟨hlt, hdone⟩ := List.getElem?_eq_some_iff.mp h
  have hset : c.jobs.set i (.done a) = c.jobs := by
    rw [← hdone, List.set_getElem_self]
  exact congrArg (Concurrent.mk c.database) hset

/-- Give turns to jobs in some order. -/
def follow (c : Concurrent α) (schedule : List Nat) : Concurrent α := schedule.foldl step c

theorem length_follow (c : Concurrent α) (schedule : List Nat) :
    (c.follow schedule).jobs.length = c.jobs.length := by
  induction schedule generalizing c with
  | nil => rfl
  | cons i schedule ih =>
      refine (ih (c.step i)).trans ?_
      cases hp : c.jobs[i]? with
      | none => rw [step_none hp]
      | some p =>
          rw [step_some hp]
          exact List.length_set

theorem follow_append (c : Concurrent α) (schedule more : List Nat) :
    c.follow (schedule ++ more) = (c.follow schedule).follow more :=
  List.foldl_append

/-- A turn of one job is no turn of another. -/
theorem getElem?_step_ne (c : Concurrent α) {i j : Nat} (hij : i ≠ j) :
    (c.step i).jobs[j]? = c.jobs[j]? := by
  cases hp : c.jobs[i]? with
  | none => rw [step_none hp]
  | some p =>
      rw [step_some hp]
      exact List.getElem?_set_ne hij

/-- A job waits for its turn. -/
theorem getElem?_follow_of_not_mem (c : Concurrent α) {i : Nat} {schedule : List Nat}
    (hi : i ∉ schedule) : (c.follow schedule).jobs[i]? = c.jobs[i]? := by
  induction schedule generalizing c with
  | nil => rfl
  | cons j schedule ih =>
      have hrest := ih (c.step j) (List.not_mem_of_not_mem_cons hi)
      exact hrest.trans (c.getElem?_step_ne (Ne.symm (List.ne_of_not_mem_cons hi)))

theorem answers_step {c : Concurrent α} {i j : Nat} {Q : α → Prop}
    (h : ∀ p, c.jobs[i]? = some p → p.Answers Q) : ∀ p, (c.step j).jobs[i]? = some p → p.Answers Q := by
  intro p hp
  -- the turn is that of the job in question, or of another one
  by_cases hji : j = i
  · subst hji
    cases hq : c.jobs[j]? with
    | none =>
        rw [step_none hq] at hp
        exact h p hp
    | some q =>
        rw [step_some hq, List.getElem?_set_self (List.getElem?_eq_some_iff.mp hq).1] at hp
        rw [← Option.some.inj hp]
        exact (h q hq).advance c.database
  · rw [getElem?_step_ne c hji] at hp
    exact h p hp

/-- What a job may answer is not widened by any turns. -/
theorem answers_follow {c : Concurrent α} {i : Nat} {Q : α → Prop}
    (h : ∀ p, c.jobs[i]? = some p → p.Answers Q) (schedule : List Nat) :
    ∀ p, (c.follow schedule).jobs[i]? = some p → p.Answers Q := by
  induction schedule generalizing c with
  | nil => exact h
  | cons j schedule ih => exact ih (answers_step h)

/-- Nothing happens to a closed database, and no job gets anywhere. -/
theorem follow_closed {c : Concurrent α} (hclosed : c.database.isOpen = false)
    (hnone : ∀ p ∈ c.jobs, ∀ a, p ≠ .done a) (schedule : List Nat) :
    (c.follow schedule).database = c.database ∧
      ∀ p ∈ (c.follow schedule).jobs, ∀ a, p ≠ .done a := by
  induction schedule generalizing c with
  | nil => exact ⟨rfl, hnone⟩
  | cons i schedule ih =>
      have hstep : (c.step i).database = c.database ∧ ∀ p ∈ (c.step i).jobs, ∀ a, p ≠ .done a := by
        cases hp : c.jobs[i]? with
        | none =>
            rw [step_none hp]
            exact ⟨rfl, hnone⟩
        | some p =>
            obtain ⟨hsame, hdone⟩ := p.advance_closed hclosed
            rw [step_some hp]
            refine ⟨hsame, fun q hq a hqa => ?_⟩
            rcases List.mem_or_eq_of_mem_set hq with hq | rfl
            · exact hnone q hq a hqa
            · exact hnone p (List.mem_of_getElem? hp) a (hdone a hqa)
      obtain ⟨hdatabase, hjobs⟩ := ih (hstep.1 ▸ hclosed) hstep.2
      exact ⟨hdatabase.trans hstep.1, hjobs⟩

/-- All jobs are safe, and together they have increased the number by the sum of their shares. -/
structure Safe (R : Store → Store → Prop) (gain : Store → Nat) (Q : Nat → α → Nat → Store → Prop)
    (start : Store) (turns : Nat → Nat) (shares : List Nat) (c : Concurrent α) : Prop where
  isOpen : c.database.isOpen = true
  reached : R start c.database.store
  length_eq : shares.length = c.jobs.length
  job : ∀ i (p : Job α) share, c.jobs[i]? = some p → shares[i]? = some share →
    p.Safe R gain (Q i) (turns i) share c.database.store
  gained : gain c.database.store = gain start + shares.sum

/-- What is added to one share is added to the sum. -/
theorem sum_set {shares : List Nat} {i share : Nat} (h : shares[i]? = some share) (k : Nat) :
    (shares.set i (share + k)).sum = shares.sum + k := by
  induction shares generalizing i with
  | nil => cases h
  | cons x xs ih =>
      cases i with
      -- the share is the first, or one of the rest
      | zero =>
          obtain rfl : x = share := Option.some.inj h
          show x + k + xs.sum = x + xs.sum + k
          omega
      | succ i =>
          have hrest := ih (i := i) h
          show x + (xs.set i (share + k)).sum = x + xs.sum + k
          omega

theorem filterMap_answers {f : α → Nat} {jobs : List (Job α)} {shares : List Nat}
    (h : List.Forall₂ (fun p share => ∃ a, p = Job.done a ∧ f a = share) jobs shares) :
    (jobs.filterMap Job.answer?).map f = shares := by
  induction h with
  | nil => rfl
  | @cons p _ jobs _ hp _ ih =>
      obtain ⟨a, rfl, rfl⟩ := hp
      have hcons : (Job.done a :: jobs).filterMap Job.answer? = a :: jobs.filterMap Job.answer? := rfl
      rw [hcons, List.map_cons, ih]

namespace Safe

variable {R : Store → Store → Prop} {gain : Store → Nat} {Q : Nat → α → Nat → Store → Prop}
  {start : Store} {turns : Nat → Nat} {shares : List Nat} {c : Concurrent α}

theorem job_safe (h : c.Safe R gain Q start turns shares) {i : Nat} {p : Job α}
    (hp : c.jobs[i]? = some p) :
    ∃ share, shares[i]? = some share ∧ p.Safe R gain (Q i) (turns i) share c.database.store := by
  have hlt : i < shares.length := h.length_eq ▸ (List.getElem?_eq_some_iff.mp hp).1
  have hshare := List.getElem?_eq_getElem hlt
  exact ⟨shares[i], hshare, h.job i p _ hp hshare⟩

theorem not_failed (h : c.Safe R gain Q start turns shares) (e : StoreError) :
    Job.failed e ∉ c.jobs := by
  intro he
  obtain ⟨i, hi⟩ := List.getElem?_of_mem he
  obtain ⟨share, _, hjob⟩ := h.job_safe hi
  exact hjob.not_failed rfl

/-- A job that has had all its turns has its answer. -/
theorem done_of_turns (h : c.Safe R gain Q start turns shares) {i : Nat} {p : Job α}
    (hp : c.jobs[i]? = some p) (hturns : turns i = 0) : ∃ a, p = .done a := by
  obtain ⟨share, _, hjob⟩ := h.job_safe hp
  rw [hturns] at hjob
  exact hjob.eq_done

/-- A turn that is lost makes no difference. -/
theorem idle (h : c.Safe R gain Q start turns shares) {i : Nat}
    (hidle : ∀ p, c.jobs[i]? = some p → ∃ a, p = .done a) {turns' : Nat → Nat}
    (hothers : ∀ j, j ≠ i → turns' j = turns j) : c.Safe R gain Q start turns' shares where
  isOpen := h.isOpen
  reached := h.reached
  length_eq := h.length_eq
  job := by
    intro j p share hp hshare
    have hjob := h.job j p share hp hshare
    by_cases hj : j = i
    · obtain ⟨a, rfl⟩ := hidle p (hj ▸ hp)
      exact hjob
    · rw [hothers j hj]
      exact hjob
  gained := h.gained

variable [IsPreorder Store R]

/-- What the answer of a finished job says holds now. -/
theorem answered (h : c.Safe R gain Q start turns shares) {i : Nat} {p : Job α} {share : Nat}
    (hp : c.jobs[i]? = some p) (hshare : shares[i]? = some share) (hend : p.Finished) :
    ∃ a, p = .done a ∧ Q i a share c.database.store := by
  have hjob := h.job i p share hp hshare
  cases p with
  | done a => exact ⟨a, rfl, hjob _ (refl_of R _)⟩
  | failed e => exact absurd rfl hjob.not_failed
  | transact tx rest => exact hend.elim

/-- At the start all shares are zero. -/
theorem initial {db : Database} {jobs : List (Job α)} (hopen : db.isOpen = true)
    (h : ∀ i (p : Job α), jobs[i]? = some p → p.Safe R gain (Q i) (turns i) 0 db.store) :
    Safe R gain Q db.store turns (List.replicate jobs.length 0) ⟨db, jobs⟩ where
  isOpen := hopen
  reached := refl_of R _
  length_eq := List.length_replicate
  job := by
    intro i p share hp hshare
    obtain rfl : 0 = share := by
      rw [List.getElem?_replicate] at hshare
      split at hshare
      · exact Option.some.inj hshare
      · cases hshare
    exact h i p hp
  gained := by simp

/-- The others allow for a transaction of the job at an index. -/
theorem advance (h : c.Safe R gain Q start turns shares) {i share : Nat} {p : Job α} {m k : Nat}
    {s : Store}
    (hi : i < c.jobs.length) (hshare : shares[i]? = some share)
    (hp : p.Safe R gain (Q i) m (share + k) s) (hs : R c.database.store s)
    (hgain : gain s = gain c.database.store + k) {turns' : Nat → Nat} (hturns : turns' i = m)
    (hothers : ∀ j, j ≠ i → turns' j = turns j) :
    Safe R gain Q start turns' (shares.set i (share + k))
      { database := { c.database with store := s }, jobs := c.jobs.set i p } where
  isOpen := h.isOpen
  reached := trans_of R h.reached hs
  length_eq := by simp [h.length_eq]
  job := by
    intro j q share' hq hshare'
    by_cases hj : j = i
    · subst hj
      rw [List.getElem?_set_self hi] at hq
      rw [List.getElem?_set_self (h.length_eq ▸ hi)] at hshare'
      obtain rfl := Option.some.inj hq
      obtain rfl := Option.some.inj hshare'
      rw [hturns]
      exact hp
    · rw [List.getElem?_set_ne (Ne.symm hj)] at hq hshare'
      rw [hothers j hj]
      -- for the other jobs the store has moved, along the relation
      exact (h.job j q share' hq hshare').later hs
  gained := by
    show gain s = _
    rw [hgain, h.gained, sum_set hshare, Nat.add_assoc]

/-- Whoever has the next turn, all jobs stay safe. -/
theorem step (h : c.Safe R gain Q start turns shares) (i : Nat) :
    ∃ shares', (c.step i).Safe R gain Q start (fun j => turns j - [i].count j) shares' := by
  have hothers : ∀ j, j ≠ i → turns j - [i].count j = turns j := by
    intro j hj
    simp [Ne.symm hj]
  cases hp : c.jobs[i]? with
  | none =>
      rw [step_none hp]
      exact ⟨shares, h.idle (fun q hq => by rw [hp] at hq; cases hq) hothers⟩
  | some p =>
      obtain ⟨share, hshare, hsafe⟩ := h.job_safe hp
      cases p with
      | done a =>
          rw [step_done hp]
          exact ⟨shares, h.idle (fun q hq => ⟨a, Option.some.inj (hq.symm.trans hp)⟩) hothers⟩
      | failed e => exact hsafe.elim
      | transact tx rest =>
          obtain ⟨m, hm, hstep⟩ := hsafe
          -- whatever the others did up to now, the transaction succeeds in the store that is there
          obtain ⟨b, s, htx, hs, k, hgain, hrest⟩ := hstep _ (refl_of R _)
          have hlt : i < c.jobs.length := (List.getElem?_eq_some_iff.mp hp).1
          have hturns : turns i - [i].count i = m := by simp [hm]
          rw [step_some hp, Job.advance_ok (Database.transact_ok h.isOpen htx)]
          exact ⟨_, h.advance hlt hshare hrest hs hgain hturns hothers⟩

/-- What a turn does is within the relation, from whatever is there. -/
theorem step_within (h : c.Safe R gain Q start turns shares) (i : Nat) :
    R c.database.store (c.step i).database.store := by
  cases hp : c.jobs[i]? with
  | none =>
      rw [step_none hp]
      exact refl_of R _
  | some p =>
      obtain ⟨share, _, hsafe⟩ := h.job_safe hp
      cases p with
      | done a =>
          rw [step_done hp]
          exact refl_of R _
      | failed e => exact hsafe.elim
      | transact tx rest =>
          obtain ⟨m, _, hstep⟩ := hsafe
          obtain ⟨b, s, htx, hs, _⟩ := hstep _ (refl_of R _)
          rw [step_some hp, Job.advance_ok (Database.transact_ok h.isOpen htx)]
          exact hs

/-- The store moves along the relation, whatever the schedule. -/
theorem follow_within (h : c.Safe R gain Q start turns shares) (schedule : List Nat) :
    R c.database.store (c.follow schedule).database.store := by
  induction schedule generalizing c turns shares with
  | nil => exact refl_of R _
  | cons i schedule ih =>
      obtain ⟨shares', h'⟩ := h.step i
      exact trans_of R (h.step_within i) (ih h')

/-- If answers tell the shares, then those of finished jobs together tell by how much the number was
increased. -/
theorem sum_answers (h : c.Safe R gain Q start turns shares) (hfinished : ∀ p ∈ c.jobs, p.Finished)
    {f : α → Nat} (hf : ∀ i a share s, Q i a share s → f a = share) :
    gain c.database.store = gain start + ((c.jobs.filterMap Job.answer?).map f).sum := by
  have hanswers : List.Forall₂ (fun p share => ∃ a, p = Job.done a ∧ f a = share) c.jobs shares := by
    refine List.forall₂_iff_get.mpr ⟨h.length_eq.symm, fun i hi hi' => ?_⟩
    obtain ⟨a, ha, hQ⟩ := h.answered (List.getElem?_eq_getElem hi) (List.getElem?_eq_getElem hi')
      (hfinished _ (List.getElem_mem hi))
    exact ⟨a, ha, hf i a _ _ hQ⟩
  rw [h.gained, filterMap_answers hanswers]

/-- Safe jobs stay safe in every order of turns. -/
theorem follow (h : c.Safe R gain Q start turns shares) (schedule : List Nat) :
    ∃ shares', (c.follow schedule).Safe R gain Q start (fun i => turns i - schedule.count i) shares' := by
  induction schedule generalizing c turns shares with
  | nil => exact ⟨shares, h⟩
  | cons i schedule ih =>
      obtain ⟨shares₁, h₁⟩ := h.step i
      obtain ⟨shares₂, h₂⟩ := ih h₁
      refine ⟨shares₂, ?_⟩
      -- turns are counted down one by one
      have hturns : (fun j => turns j - [i].count j - schedule.count j) =
          fun j => turns j - (i :: schedule).count j := by
        funext j
        rw [Nat.sub_sub, ← List.count_append]
        rfl
      rw [← hturns]
      exact h₂

end Safe
end Concurrent
end GatewayRegistry
