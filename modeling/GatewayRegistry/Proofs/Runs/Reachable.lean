import GatewayRegistry.Proofs.Runs.Operation

/-!
# Runs

A run is a list of requests, each of which may succeed or fail. Runs begin with an empty store and
a cache without entries. What holds of the empty store and is kept by every edit and by the
deletion of a terminal holds after every run (`Reachable.store_induction`); consistency does.
-/

namespace GatewayRegistry

/-- An operation, whatever its answer is. -/
abbrev Registry.Request : Type 1 := (α : Type) × Registry.Operation α

namespace Deployment

/-- Nothing has been stored yet. -/
structure Fresh (d : Deployment) : Prop where
  database : d.database = {}
  cache : d.cache.entries = []

def after (d : Deployment) (requests : List Registry.Request) : Deployment :=
  requests.foldl (fun d request => (request.2.run d).2) d

/-- Some requests turn one deployment into the other. -/
def LeadsTo (d d' : Deployment) : Prop := ∃ requests, d.after requests = d'

/-- Some requests lead there from the beginning. -/
def Reachable (d : Deployment) : Prop := ∃ start : Deployment, start.Fresh ∧ start.LeadsTo d

variable {d d' : Deployment}

theorem after_cons (d : Deployment) (request : Registry.Request)
    (requests : List Registry.Request) :
    d.after (request :: requests) = (request.2.run d).2.after requests := rfl

theorem after_append (d : Deployment) (first second : List Registry.Request) :
    d.after (first ++ second) = (d.after first).after second :=
  List.foldl_append

namespace LeadsTo

theorem trans {d'' : Deployment} (h : d.LeadsTo d') (h' : d'.LeadsTo d'') : d.LeadsTo d'' := by
  obtain ⟨first, rfl⟩ := h
  obtain ⟨second, rfl⟩ := h'
  exact ⟨first ++ second, after_append d first second⟩

theorem run {α : Type} (op : Registry.Operation α) (d : Deployment) : d.LeadsTo (op.run d).2 :=
  ⟨[⟨α, op⟩], rfl⟩

/-- What each operation keeps is kept by runs. -/
theorem induction {P : Deployment → Prop}
    (step : ∀ {α : Type} (op : Registry.Operation α) (d : Deployment), P d → P (op.run d).2)
    (h : d.LeadsTo d') (hd : P d) : P d' := by
  obtain ⟨requests, rfl⟩ := h
  induction requests generalizing d with
  | nil => exact hd
  | cons request rest ih =>
      rw [after_cons]
      exact ih (step request.2 d hd)

/-- A property of the store that edits and deletions keep is kept by runs. -/
theorem store_induction {P : Store → Prop}
    (edit : ∀ {s s' : Store}, s.Edit s' → P s → P s')
    (retire : ∀ {s : Store} {row : TerminalRow}, row ∈ s.terminals → P s →
      P (s.retire row.id row.accountId))
    (h : d.LeadsTo d') (hd : P d.database.store) : P d'.database.store := by
  refine induction (P := fun d => P d.database.store) ?_ h hd
  intro α op d hd
  rcases op.effect d with hedits | ⟨row, hrow, a, _, hrun⟩
  · -- one operation may write many edits
    generalize (op.run d).2.database.store = s at hedits ⊢
    induction hedits with
    | refl => exact hd
    | tail _ hedit ih => exact edit hedit ih
  · rw [hrun]
    exact retire hrow hd

end LeadsTo

namespace Reachable

/-- What is led to from a reachable state can be reached. -/
theorem leadsTo (h : d.Reachable) (hd : d.LeadsTo d') : d'.Reachable := by
  obtain ⟨start, hfresh, hstart⟩ := h
  exact ⟨start, hfresh, hstart.trans hd⟩

theorem after (requests : List Registry.Request) : (({} : Deployment).after requests).Reachable :=
  ⟨{}, ⟨rfl, rfl⟩, requests, rfl⟩

theorem run {α : Type} (h : d.Reachable) (op : Registry.Operation α) : (op.run d).2.Reachable :=
  h.leadsTo (.run op d)

/-- A property of the empty store that edits and deletions keep holds after every run. -/
theorem store_induction {P : Store → Prop} (empty : P .empty)
    (edit : ∀ {s s' : Store}, s.Edit s' → P s → P s')
    (retire : ∀ {s : Store} {row : TerminalRow}, row ∈ s.terminals → P s →
      P (s.retire row.id row.accountId))
    (h : d.Reachable) : P d.database.store := by
  obtain ⟨start, hfresh, hstart⟩ := h
  refine hstart.store_induction edit retire ?_
  rw [hfresh.database]
  exact empty

/-! ## Consistency -/

/-- Every state that is reached is consistent. -/
theorem consistent (h : d.Reachable) : d.database.store.Consistent :=
  h.store_induction Store.consistent_empty Store.Edit.consistent fun hrow hs => hs.retire hrow

end Reachable

/-- The numbered tables only grow. -/
theorem LeadsTo.toExtends (h : d.LeadsTo d') : d.database.store.Extends d'.database.store := by
  refine h.store_induction (P := d.database.store.Extends) ?_ ?_ (.refl _)
  · intro s s' e hs
    exact hs.trans e.toExtends
  · intro s row _ hs
    exact hs.trans { Store.Extends.refl s with }

/-- Whatever is asked, in whatever order, and however it turns out, the store stays consistent, and
what comes after takes no number back. -/
theorem consistent_after (d : Deployment) (h : d.Fresh) (requests more : List Registry.Request) :
    (d.after requests).database.store.Consistent ∧
      (d.after requests).database.store.Extends (d.after (requests ++ more)).database.store := by
  refine ⟨Reachable.consistent ⟨d, h, requests, rfl⟩, ?_⟩
  rw [after_append]
  exact LeadsTo.toExtends ⟨more, rfl⟩

/-- A deletion that is refused, and catalog entries that are asked for twice. -/
theorem consistent_after_refusals :
    (({} : Deployment).after [
      ⟨_, .register "t" (.withDefaults "koko" .koko) (some ("a", "u")) 5⟩,
      ⟨_, .store .lockAccounts⟩,
      ⟨_, .store (.softDelete "t")⟩,
      ⟨_, .seedCatalog⟩,
      ⟨_, .seedCatalog⟩,
      ⟨_, .store .close⟩]).database.store.Consistent :=
  (consistent_after {} ⟨rfl, rfl⟩ _ []).1

/-! ## A run -/

/-- One terminal with an account was registered. -/
def oneTerminal : Deployment :=
  ({} : Deployment).after [⟨_, .register "t" (.withDefaults "koko" .koko) (some ("a", "u")) 5⟩]

theorem oneTerminal_reachable : oneTerminal.Reachable := .after _

end Deployment
end GatewayRegistry
