import GatewayRegistry.Registry.Basic
import Mathlib.Logic.Relation

/-!
# Calls as functions on a state

A call on a database or a deployment is a function from a state to an answer and the next state. The
first lemmas open a sequence of calls. `Within` says that a call moves what is seen of the state
only along a relation; if the relation is a preorder, a sequence of such calls is one again. What is
said of single steps in `Ensures`, `Traceless` and `Indifferent` is carried over to sequences in the
same way.
-/

namespace GatewayRegistry

section

variable {ε σ ρ α β : Type}

/-! ## Sequences of calls

A failure ends a sequence, and the state it leaves is the one that the failing part has reached;
nothing is undone. So each lemma says what the first part does and hands the state on. -/

/-- How a sequence runs, for all cases at once. -/
theorem call_bind (x : ExceptT ε (StateM σ) α) (f : α → ExceptT ε (StateM σ) β) (s : σ) :
    (x >>= f) s =
      match x s with
      | (.ok a, s') => f a s'
      | (.error e, s') => (.error e, s') := by
  simp only [bind, ExceptT.bind, ExceptT.mk, StateT.bind]
  rcases x s with ⟨_ | _, s'⟩ <;> rfl

theorem call_bind_ok {x : ExceptT ε (StateM σ) α} {f : α → ExceptT ε (StateM σ) β} {s s' : σ}
    {a : α}
    (h : x s = (.ok a, s')) : (x >>= f) s = f a s' := by
  rw [call_bind, h]

theorem call_bind_error {x : ExceptT ε (StateM σ) α} {f : α → ExceptT ε (StateM σ) β} {s s' : σ}
    {e : ε} (h : x s = (.error e, s')) : (x >>= f) s = (.error e, s') := by
  rw [call_bind, h]

/-- A sequence of calls succeeds only if both parts do. -/
theorem call_bind_eq_ok {x : ExceptT ε (StateM σ) α} {f : α → ExceptT ε (StateM σ) β} {s s'' : σ}
    {b : β}
    (h : (x >>= f) s = (.ok b, s'')) : ∃ a s', x s = (.ok a, s') ∧ f a s' = (.ok b, s'') := by
  rw [call_bind] at h
  rcases hx : x s with ⟨e | a, s'⟩
  · rw [hx] at h
    cases h
  · rw [hx] at h
    exact ⟨a, s', rfl, h⟩

/-- Two questions in a row are answered alike in two states if each of them is. -/
theorem call_bind_answer {x : ExceptT ε (StateM σ) α} {f : α → ExceptT ε (StateM σ) β} {s s' : σ}
    (hx : (x s).1 = (x s').1) (hs : (x s).2 = s) (hs' : (x s').2 = s')
    (hf : ∀ a, x s = (.ok a, s) → (f a s).1 = (f a s').1) : ((x >>= f) s).1 = ((x >>= f) s').1 := by
  rcases hrun : x s with ⟨e | a, t⟩
  · rw [hrun] at hx hs
    have hrun' : x s' = (.error e, s') := Prod.ext hx.symm hs'
    rw [call_bind_error hrun, call_bind_error hrun']
  · rw [hrun] at hx hs
    obtain rfl : t = s := hs
    have hrun' : x s' = (.ok a, s') := Prod.ext hx.symm hs'
    rw [call_bind_ok hrun, call_bind_ok hrun']
    exact hf a hrun

/-- Questions in a row give the answer that their answers give in a row. -/
theorem call_bind_question {x : ExceptT ε (StateM σ) α} {f : α → ExceptT ε (StateM σ) β} {s : σ}
    {answer : Except ε α} {next : α → Except ε β} (hx : x s = (answer, s))
    (hf : ∀ a, f a s = (next a, s)) : (x >>= f) s = (answer >>= next, s) := by
  cases answer with
  | error e => exact call_bind_error hx
  | ok a => exact (call_bind_ok hx).trans (hf a)

/-- Questions in a row, each of which is answered, give the answers in that order. -/
theorem call_mapM_ok {f : α → ExceptT ε (StateM σ) β} {s : σ} {xs : List α} (answer : α → β)
    (hf : ∀ x ∈ xs, f x s = (.ok (answer x), s)) : xs.mapM f s = (.ok (xs.map answer), s) := by
  induction xs with
  | nil => rfl
  | cons x xs ih =>
      rw [List.mapM_cons, call_bind_ok (hf x List.mem_cons_self)]
      exact call_bind_ok (ih fun y hy => hf y (List.mem_cons_of_mem x hy))

/-! ## Calls within a relation -/

/-- Whatever a call does, what is seen of the state before and after it is related. -/
def Within (view : σ → ρ) (R : ρ → ρ → Prop) (call : ExceptT ε (StateM σ) α) : Prop :=
  ∀ s, R (view s) (view (call s).2)

namespace Within

variable {view : σ → ρ} {R : ρ → ρ → Prop} [IsPreorder ρ R]

theorem pure (a : α) : Within view R (pure a : ExceptT ε (StateM σ) α) :=
  fun _ => refl_of R _

theorem throw (e : ε) : Within view R (throw e : ExceptT ε (StateM σ) α) :=
  fun _ => refl_of R _

/-- A sequence of calls, if the relation is a preorder. -/
theorem bind {x : ExceptT ε (StateM σ) α} {f : α → ExceptT ε (StateM σ) β}
    (hx : Within view R x) (hf : ∀ a, Within view R (f a)) : Within view R (x >>= f) := by
  intro s
  have h := hx s
  rw [call_bind]
  rcases hxs : x s with ⟨e | a, s'⟩
  · rw [hxs] at h
    exact h
  · rw [hxs] at h
    exact trans_of R h (hf a s')

theorem foldlM {f : β → α → ExceptT ε (StateM σ) β} (hf : ∀ b a, Within view R (f b a)) (b : β)
    (xs : List α) : Within view R (xs.foldlM f b) := by
  induction xs generalizing b with
  | nil => exact pure b
  | cons x xs ih =>
      rw [List.foldlM_cons]
      exact bind (hf b x) ih

theorem mapM {f : α → ExceptT ε (StateM σ) β} (hf : ∀ a, Within view R (f a)) (xs : List α) :
    Within view R (xs.mapM f) := by
  induction xs with
  | nil =>
      rw [List.mapM_nil]
      exact pure []
  | cons x xs ih =>
      rw [List.mapM_cons]
      exact bind (hf x) fun y => bind ih fun ys => pure (y :: ys)

theorem forM {f : α → ExceptT ε (StateM σ) PUnit} (hf : ∀ a, Within view R (f a)) (xs : List α) :
    Within view R (xs.forM f) := by
  induction xs with
  | nil => exact pure _
  | cons x xs ih => exact bind (hf x) fun _ => ih

end Within

/-! ## Calls that succeed

`Ensures` is a statement about one state: the call answers there, and the answer and the next state
satisfy the given condition. The condition on the first part of a sequence is what the second may
rely on. -/

/-- A call succeeds, and its answer and the state after it are as described. -/
def Ensures (call : ExceptT ε (StateM σ) α) (s : σ) (Q : α → σ → Prop) : Prop :=
  ∃ a s', call s = (.ok a, s') ∧ Q a s'

namespace Ensures

variable {x : ExceptT ε (StateM σ) α} {f : α → ExceptT ε (StateM σ) β} {s : σ} {Q : α → σ → Prop}
  {R : β → σ → Prop}

theorem pure {a : α} (h : Q a s) : Ensures (pure a : ExceptT ε (StateM σ) α) s Q := ⟨a, s, rfl, h⟩

/-- A sequence succeeds if each part does where the one before it leads. -/
theorem bind (hx : Ensures x s Q) (hf : ∀ a s', Q a s' → Ensures (f a) s' R) :
    Ensures (x >>= f) s R := by
  obtain ⟨a, s', hrun, hQ⟩ := hx
  obtain ⟨b, s'', hrest, hR⟩ := hf a s' hQ
  exact ⟨b, s'', by rw [call_bind_ok hrun, hrest], hR⟩

/-- A loop succeeds if each round keeps what the next one needs. -/
theorem foldlM {I : β → σ → Prop} {f : β → α → ExceptT ε (StateM σ) β} {xs : List α}
    (hf : ∀ a ∈ xs, ∀ b s, I b s → Ensures (f b a) s I) {b : β} (h : I b s) :
    Ensures (xs.foldlM f b) s I := by
  induction xs generalizing b s with
  | nil => exact pure h
  | cons x xs ih =>
      rw [List.foldlM_cons]
      refine bind (hf x List.mem_cons_self b s h) fun b' s' h' => ?_
      exact ih (fun a ha => hf a (List.mem_cons_of_mem x ha)) h'

end Ensures

/-! ## Calls that leave no trace when they fail

A sequence of two writes has this property only if the second cannot fail after the first has
succeeded, or the first writes nothing. These are the two ways to build such a call (`bind_ensures`,
`ask_bind`). -/

/-- If a call fails, the state is as it was before. -/
def Traceless (call : ExceptT ε (StateM σ) α) (s : σ) : Prop :=
  ∀ e, (call s).1 = .error e → (call s).2 = s

namespace Traceless

variable {x : ExceptT ε (StateM σ) α} {f : α → ExceptT ε (StateM σ) β} {s : σ} {Q : α → σ → Prop}
  {R : β → σ → Prop}

/-- A call that changes nothing in any case. -/
theorem of_same (h : (x s).2 = s) : Traceless x s := fun _ _ => h

/-- A call that does not fail. -/
theorem of_ensures (h : Ensures x s Q) : Traceless x s := by
  obtain ⟨a, s', hrun, _⟩ := h
  intro e he
  rw [hrun] at he
  cases he

/-- What comes after the only step that may fail does not fail. -/
theorem bind_ensures (hx : Traceless x s) (hf : ∀ a s', x s = (.ok a, s') → Ensures (f a) s' R) :
    Traceless (x >>= f) s := by
  rcases hrun : x s with ⟨e | a, s'⟩
  · have hsame := hx e (by rw [hrun])
    rw [hrun] at hsame
    apply of_same
    rw [call_bind_error hrun]
    exact hsame
  · obtain ⟨b, s'', hrest, hR⟩ := hf a s' hrun
    exact of_ensures ⟨b, s'', (call_bind_ok hrun).trans hrest, hR⟩

/-- What comes before the only step that writes changes nothing. -/
theorem ask_bind (hx : (x s).2 = s) (hf : ∀ a, x s = (.ok a, s) → Traceless (f a) s) :
    Traceless (x >>= f) s := by
  rcases hrun : x s with ⟨e | a, s'⟩
  · rw [hrun] at hx
    apply of_same
    rw [call_bind_error hrun]
    exact hx
  · rw [hrun] at hx
    obtain rfl : s' = s := hx
    intro e he
    rw [call_bind_ok hrun] at he ⊢
    exact hf a hrun e he

end Traceless

/-! ## Calls that do not notice a change

A change goes unnoticed by a call if it makes no difference whether it happens before the call or
after it, and none to the answer. If the change is what another call does, the two calls commute
(`swap`). -/

/-- A call answers and does the same whether a change of the state comes before it or after it. -/
def Indifferent (change : σ → σ) (call : ExceptT ε (StateM σ) α) : Prop :=
  ∀ s, call (change s) = ((call s).1, change (call s).2)

namespace Indifferent

variable {change : σ → σ}

theorem pure (a : α) : Indifferent change (pure a : ExceptT ε (StateM σ) α) := fun _ => rfl

theorem throw (e : ε) : Indifferent change (throw e : ExceptT ε (StateM σ) α) := fun _ => rfl

theorem bind {x : ExceptT ε (StateM σ) α} {f : α → ExceptT ε (StateM σ) β}
    (hx : Indifferent change x) (hf : ∀ a, Indifferent change (f a)) :
    Indifferent change (x >>= f) := by
  intro s
  rw [call_bind, call_bind, hx s]
  rcases x s with ⟨e | a, s'⟩
  · rfl
  · exact hf a s'

theorem foldlM {f : β → α → ExceptT ε (StateM σ) β} (hf : ∀ b a, Indifferent change (f b a)) (b : β)
    (xs : List α) : Indifferent change (xs.foldlM f b) := by
  induction xs generalizing b with
  | nil => exact pure b
  | cons x xs ih =>
      rw [List.foldlM_cons]
      exact bind (hf b x) ih

/-- If a call is indifferent to all that another one does, the two may change places. -/
theorem swap {x : ExceptT ε (StateM σ) α} {y : ExceptT ε (StateM σ) β}
    (h : Indifferent (fun s => (y s).2) x) (s : σ) : (x (y s).2).2 = (y (x s).2).2 := by
  rw [h s]

end Indifferent

end

/-! ## Transactions -/

namespace Database

variable {α : Type} {db : Database}

theorem transact_ok {tx : Store.Transaction α} {a : α} {s : Store} (hopen : db.isOpen = true)
    (h : tx db.store = .ok (a, s)) : transact tx db = (.ok a, { db with store := s }) := by
  rw [transact, if_pos hopen, h]

theorem transact_error {tx : Store.Transaction α} {e : StoreError} (hopen : db.isOpen = true)
    (h : tx db.store = .error e) : transact tx db = (.error e, db) := by
  rw [transact, if_pos hopen, h]

theorem transact_closed {tx : Store.Transaction α} (hclosed : db.isOpen = false) :
    transact tx db = (.error (.query .closed), db) := by
  rw [transact, if_neg (by simp [hclosed])]

/-- A transaction either succeeds and is kept, or changes nothing. -/
theorem transact_cases (tx : Store.Transaction α) (db : Database) :
    (∃ a s, db.isOpen = true ∧ tx db.store = .ok (a, s) ∧
        transact tx db = (.ok a, { db with store := s })) ∨
      ∃ e, transact tx db = (.error e, db) := by
  by_cases hopen : db.isOpen = true
  · cases h : tx db.store with
    | ok r => exact Or.inl ⟨r.1, r.2, hopen, rfl, transact_ok hopen h⟩
    | error e => exact Or.inr ⟨e, transact_error hopen h⟩
  · exact Or.inr ⟨_, transact_closed (Bool.eq_false_iff.mpr hopen)⟩

/-- A transaction that fails is rolled back. -/
theorem transact_traceless (tx : Store.Transaction α) (db : Database) :
    Traceless (transact tx) db := by
  intro e he
  rcases transact_cases tx db with ⟨a, s, _, _, h⟩ | ⟨e', h⟩
  · rw [h] at he
    cases he
  · rw [h]

/-- A transaction that succeeded was run on an open database. -/
theorem transact_eq_ok {tx : Store.Transaction α} {a : α} {db' : Database}
    (h : transact tx db = (.ok a, db')) :
    ∃ s, db.isOpen = true ∧ tx db.store = .ok (a, s) ∧ db' = { db with store := s } := by
  rcases transact_cases tx db with ⟨b, s, hopen, htx, hrun⟩ | ⟨e, hrun⟩
  · rw [hrun] at h
    obtain ⟨hb, rfl⟩ := Prod.mk.inj h
    obtain rfl := Except.ok.inj hb
    exact ⟨s, hopen, htx, rfl⟩
  · rw [hrun] at h
    cases h

/-- A statement that has been executed has found the database open. -/
theorem execute_eq_ok {tx : Store → Except StoreError Store} {u : Unit} {db' : Database}
    (h : execute tx db = (.ok u, db')) :
    ∃ s, db.isOpen = true ∧ tx db.store = .ok s ∧ db' = { db with store := s } := by
  obtain ⟨s, hopen, htx, rfl⟩ := transact_eq_ok h
  cases hs : tx db.store with
  | ok s' =>
      rw [hs] at htx
      cases htx
      exact ⟨_, hopen, rfl, rfl⟩
  | error e =>
      rw [hs] at htx
      cases htx

theorem execute_ok {tx : Store → Except StoreError Store} {s : Store} (hopen : db.isOpen = true)
    (h : tx db.store = .ok s) : execute tx db = (.ok (), { db with store := s }) :=
  transact_ok hopen (by rw [h]; rfl)

theorem execute_error {tx : Store → Except StoreError Store} {e : StoreError}
    (hopen : db.isOpen = true) (h : tx db.store = .error e) : execute tx db = (.error e, db) :=
  transact_error hopen (by rw [h]; rfl)

/-- A statement either succeeds and is kept, or changes nothing. -/
theorem execute_cases (tx : Store → Except StoreError Store) (db : Database) :
    (∃ s, db.isOpen = true ∧ tx db.store = .ok s ∧ execute tx db = (.ok (), { db with store := s })) ∨
      ∃ e, execute tx db = (.error e, db) := by
  rcases transact_cases (fun s => (tx s).map fun s => ((), s)) db with ⟨_, _, _, _, hrun⟩ | hrefused
  · obtain ⟨s, hopen, htx, _⟩ := execute_eq_ok hrun
    exact Or.inl ⟨s, hopen, htx, execute_ok hopen htx⟩
  · exact Or.inr hrefused

theorem query_ok {ask : Store → Except StoreError α} {a : α} (hopen : db.isOpen = true)
    (h : ask db.store = .ok a) : query ask db = (.ok a, db) :=
  transact_ok hopen (by rw [h]; rfl)

theorem query_eq_ok {ask : Store → Except StoreError α} {a : α} {db' : Database}
    (h : query ask db = (.ok a, db')) : ask db.store = .ok a ∧ db' = db := by
  obtain ⟨s, _, htx, rfl⟩ := transact_eq_ok h
  cases hask : ask db.store with
  | ok b =>
      rw [hask] at htx
      cases htx
      exact ⟨rfl, rfl⟩
  | error e =>
      rw [hask] at htx
      cases htx

/-- Asking changes nothing, whatever the answer. -/
theorem query_snd (ask : Store → Except StoreError α) (db : Database) : (query ask db).2 = db := by
  rcases h : query ask db with ⟨e | a, db'⟩
  · have hsame := transact_traceless (fun s => (ask s).map fun a => (a, s)) db e
    rw [← query, h] at hsame
    exact hsame rfl
  · exact (query_eq_ok h).2

variable {R : Store → Store → Prop} [IsPreorder Store R]

/-- What a transaction may do to the store is all that the call does to it. -/
theorem within_transact {tx : Store.Transaction α}
    (h : ∀ s a s', tx s = .ok (a, s') → R s s') : Within Database.store R (transact tx) := by
  intro db
  rcases transact_cases tx db with ⟨a, s, _, htx, heq⟩ | ⟨e, heq⟩
  · rw [heq]
    exact h db.store a s htx
  · rw [heq]
    exact refl_of R _

theorem within_execute {tx : Store → Except StoreError Store}
    (h : ∀ s s', tx s = .ok s' → R s s') : Within Database.store R (execute tx) := by
  apply within_transact
  intro s a s' htx
  cases hs : tx s with
  | ok _ =>
      rw [hs] at htx
      cases htx
      exact h s _ hs
  | error e =>
      rw [hs] at htx
      cases htx

theorem within_query (ask : Store → Except StoreError α) : Within Database.store R (query ask) := by
  intro db
  rw [query_snd]
  exact refl_of R _

end Database

/-! ## Calls of the registry -/

namespace Registry

variable {α : Type} {R : Store → Store → Prop}

abbrev storeOf (d : Deployment) : Store := d.database.store

theorem storeCall_ok {reword : StoreError → RegistryError} {call : Database.Call α} {d : Deployment}
    {a : α} {db : Database} (h : call d.database = (.ok a, db)) :
    storeCall reword call d = (.ok a, { d with database := db }) := by
  rw [storeCall, h]

theorem storeCall_error {reword : StoreError → RegistryError} {call : Database.Call α}
    {d : Deployment}
    {e : StoreError} {db : Database} (h : call d.database = (.error e, db)) :
    storeCall reword call d = (.error (reword e), { d with database := db }) := by
  rw [storeCall, h]

theorem storeCall_eq_ok {reword : StoreError → RegistryError} {call : Database.Call α}
    {d d' : Deployment} {a : α} (h : storeCall reword call d = (.ok a, d')) :
    call d.database = (.ok a, d'.database) ∧ d'.cache = d.cache := by
  rw [storeCall] at h
  rcases hcall : call d.database with ⟨e | b, db⟩
  · rw [hcall] at h
    cases h
  · rw [hcall] at h
    cases h
    exact ⟨rfl, rfl⟩

theorem ask_ok {d : Deployment} {ask : Store → Except StoreError α} {a : α}
    (hopen : d.database.isOpen = true) (h : ask d.database.store = .ok a) :
    onStore (Database.query ask) d = (.ok a, d) :=
  storeCall_ok (Database.query_ok hopen h)

theorem storeCall_snd (reword : StoreError → RegistryError) (call : Database.Call α)
    (d : Deployment) : (storeCall reword call d).2 = { d with database := (call d.database).2 } := by
  rw [storeCall]
  rcases call d.database with ⟨_ | _, db⟩ <;> rfl

theorem onStore_snd (call : Database.Call α) (d : Deployment) :
    (onStore call d).2 = { d with database := (call d.database).2 } :=
  storeCall_snd .ofStore call d

/-- To reword a failure leaves no trace of it. -/
theorem storeCall_traceless {call : Database.Call α} {d : Deployment}
    (h : Traceless call d.database) (reword : StoreError → RegistryError) :
    Traceless (storeCall reword call) d := by
  intro e he
  rcases hcall : call d.database with ⟨e' | a, db⟩
  · have hsame := h e' (by rw [hcall])
    rw [hcall] at hsame
    rw [storeCall_error hcall]
    exact congrArg (fun db => { d with database := db }) hsame
  · rw [storeCall_ok hcall] at he
    cases he

/-- A call that succeeds has no failure to reword. -/
theorem storeCall_ensures {call : Database.Call α} {d : Deployment} {Q : α → Database → Prop}
    (h : Ensures call d.database Q) (reword : StoreError → RegistryError) :
    Ensures (storeCall reword call) d fun a d' => Q a d'.database := by
  obtain ⟨a, db, hcall, hQ⟩ := h
  exact ⟨a, _, storeCall_ok hcall, hQ⟩

theorem within_storeCall {reword : StoreError → RegistryError} {call : Database.Call α}
    (h : Within Database.store R call) : Within storeOf R (storeCall reword call) := by
  intro d
  rw [storeCall_snd]
  exact h d.database

theorem within_onStore {call : Database.Call α} (h : Within Database.store R call) :
    Within storeOf R (onStore call) :=
  within_storeCall h

variable [IsPreorder Store R]

theorem readCache_ok {d : Deployment} {ask : Cache → Except CacheError α} {a : α}
    (h : ask d.cache = .ok a) : readCache ask d = (.ok a, d) := by
  rw [readCache, h]

theorem readCache_snd (ask : Cache → Except CacheError α) (d : Deployment) :
    (readCache ask d).2 = d := by
  rw [readCache]
  cases ask d.cache <;> rfl

theorem within_readCache (ask : Cache → Except CacheError α) :
    Within storeOf R (readCache ask) := by
  intro d
  rw [readCache_snd]
  exact refl_of R _

/-- A write to the cache that is refused leaves the cache as it is. -/
theorem writeCache_snd (change : Cache → Except CacheError Cache) (d : Deployment) :
    (writeCache change d).2.cache =
      match change d.cache with
      | .ok c => c
      | .error _ => d.cache := by
  rw [writeCache]
  cases change d.cache <;> rfl

theorem writeCache_traceless (change : Cache → Except CacheError Cache) (d : Deployment) :
    Traceless (writeCache change) d := by
  intro e he
  unfold writeCache at he ⊢
  cases hchange : change d.cache with
  | ok c => simp [hchange] at he
  | error e' => rfl

theorem within_writeCache (change : Cache → Except CacheError Cache) :
    Within storeOf R (writeCache change) := by
  intro d
  rw [writeCache]
  cases change d.cache <;> exact refl_of R _

/-! ### Calls that write to a copy

A caller who hands in a copy of a terminal sees it changed exactly if the call on the deployment has
succeeded. Seen from the deployment alone, such a call is the call that it mirrors
(`lend_mirrored`). -/

variable {call : Terminal → Call α} {change : Terminal → Terminal} {t : Terminal} {d d' : Deployment}

theorem mirrored_eq (h : Holding) :
    mirrored call change h = (besideCopy (call h.copy) >>= fun _ => writeCopy change) h :=
  rfl

theorem mirrored_ok {a : α} (h : call t d = (.ok a, d')) :
    mirrored call change ⟨d, t⟩ = (.ok (), ⟨d', change t⟩) := by
  have hcall : besideCopy (call t) ⟨d, t⟩ = (.ok a, ⟨d', t⟩) := by rw [besideCopy, h]
  rw [mirrored_eq, call_bind_ok hcall]
  rfl

/-- The copy is not written before the call has succeeded. -/
theorem mirrored_error {e : RegistryError} (h : call t d = (.error e, d')) :
    mirrored call change ⟨d, t⟩ = (.error e, ⟨d', t⟩) := by
  have hcall : besideCopy (call t) ⟨d, t⟩ = (.error e, ⟨d', t⟩) := by rw [besideCopy, h]
  rw [mirrored_eq, call_bind_error hcall]

theorem lend_ok {call : CopyCall Unit} {h : Holding} (hcall : call ⟨d, t⟩ = (.ok (), h)) :
    lend t call d = (.ok h.copy, h.deployment) := by
  rw [lend, hcall]

theorem lend_error {call : CopyCall Unit} {h : Holding} {e : RegistryError}
    (hcall : call ⟨d, t⟩ = (.error e, h)) : lend t call d = (.error e, h.deployment) := by
  rw [lend, hcall]

/-- For those who look at the copy only if the call succeeds, the copy may as well be the answer. -/
theorem lend_mirrored (call : Terminal → Call α) (change : Terminal → Terminal) (t : Terminal) :
    lend t (mirrored call change) = call t >>= fun _ => pure (change t) := by
  funext d
  rcases hcall : call t d with ⟨e | a, d'⟩
  · rw [lend_error (mirrored_error hcall), call_bind_error hcall]
  · rw [lend_ok (mirrored_ok hcall), call_bind_ok hcall]
    rfl

theorem within_lend {ρ : Type} {view : Deployment → ρ} {R : ρ → ρ → Prop} [IsPreorder ρ R]
    (h : Within view R (call t)) : Within view R (lend t (mirrored call change)) := by
  rw [lend_mirrored]
  exact Within.bind h fun _ => Within.pure _

theorem lend_traceless (h : Traceless (call t) d) :
    Traceless (lend t (mirrored call change)) d := by
  rw [lend_mirrored]
  exact h.bind_ensures (R := fun _ _ => True) fun _ _ _ => .pure trivial

end Registry
end GatewayRegistry
