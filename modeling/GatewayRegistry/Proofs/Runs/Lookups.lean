import GatewayRegistry.Proofs.Liveness.Presence
import GatewayRegistry.Proofs.Runs.Reachable
import GatewayRegistry.Proofs.Store.Listing

/-!
# Lookups that may fail

Whether a terminal is active is looked up in the store, and whether it is alive in the cache; either
may fail. A label is decided by both answers, of which one that does not matter cannot fail it
(`StatusLabel.ofAnswers`). The view of the terminals that are alive makes one lookup for all active
ones, and fails like a lookup for one of them (`Registry.Narrows`).
-/

namespace GatewayRegistry

/-! ## Labels

A label is made from two flags of the copy and two answers, and an answer is asked for only if the
flags and the answer before it leave the label open. `ofAnswers` takes both answers as given and so
says what the label is without running anything. -/

namespace StatusLabel

variable {ε : Type} {accepted deleted : Bool} {active alive : Except ε Bool}

/-- The label that two answers decide. The second one is looked at only if the first one is yes, and
the first one only if the terminal is accepted and not deleted. -/
def ofAnswers (accepted deleted : Bool) (active alive : Except ε Bool) : Except ε StatusLabel :=
  (if accepted && !deleted then active else .ok false) >>= fun active =>
    (if active then alive else .ok false) >>= fun alive =>
      .ok (.ofFlags ⟨accepted, deleted, active, alive⟩)

/-- A terminal that is deleted or waits for acceptance is labelled without a question. -/
theorem ofAnswers_of_early (h : (accepted && !deleted) = false) (active alive : Except ε Bool) :
    ofAnswers accepted deleted active alive = .ok (.ofFlags ⟨accepted, deleted, false, false⟩) := by
  rw [ofAnswers, h]
  rfl

theorem ofAnswers_of_late (active alive : Except ε Bool) :
    ofAnswers true false active alive = active >>= fun active =>
      (if active then alive else .ok false) >>= fun alive =>
        .ok (.ofFlags ⟨true, false, active, alive⟩) := rfl

/-- A terminal that is not active is offline whatever the cache would answer. -/
theorem ofAnswers_of_inactive (accepted deleted : Bool) (alive : Except ε Bool) :
    ofAnswers accepted deleted (.ok false) alive =
      .ok (.ofFlags ⟨accepted, deleted, false, false⟩) := by
  cases accepted <;> cases deleted <;> rfl

/-- If there are two answers, they decide the label like the facts. -/
theorem ofAnswers_ok (accepted deleted active alive : Bool) :
    ofAnswers accepted deleted (.ok active : Except ε Bool) (.ok alive) =
      .ok (.ofFlags ⟨accepted, deleted, active, alive⟩) := by
  cases accepted <;> cases deleted <;> cases active <;> rfl

/-- Only an answer that matters fails the decision. -/
theorem ofAnswers_eq_error_iff {e : ε} :
    ofAnswers accepted deleted active alive = .error e ↔
      accepted = true ∧ deleted = false ∧
        (active = .error e ∨ active = .ok true ∧ alive = .error e) := by
  cases hearly : accepted && !deleted with
  | false =>
      rw [ofAnswers_of_early hearly]
      simp only [reduceCtorEq, false_iff]
      rintro ⟨rfl, rfl, _⟩
      cases hearly
  | true =>
      obtain ⟨rfl, rfl⟩ : accepted = true ∧ deleted = false := by simpa using hearly
      rw [ofAnswers_of_late]
      rcases active with e' | _ | _
      · simp [bind, Except.bind]
      · simp [bind, Except.bind]
      · cases alive <;> simp [bind, Except.bind]

/-- There is a label unless one of the questions that are asked fails. -/
theorem ofAnswers_isOk_iff :
    (∃ label, ofAnswers accepted deleted active alive = .ok label) ↔
      ¬(accepted = true ∧ deleted = false ∧
        ((∃ e, active = .error e) ∨ active = .ok true ∧ ∃ e, alive = .error e)) := by
  rw [isOk_iff_not_error]
  simp only [ofAnswers_eq_error_iff, exists_and_left, exists_or]

/-- A decision that does not need an answer is the one that any answer would lead to. -/
theorem eq_of_ofAnswers_eq_ok {label : StatusLabel} {enabled online : Bool}
    (h : ofAnswers accepted deleted active alive = .ok label)
    (henabled : ∀ b, active = .ok b → b = enabled) (honline : ∀ b, alive = .ok b → b = online) :
    label = .ofFlags ⟨accepted, deleted, enabled, online⟩ := by
  cases accepted with
  | false =>
      cases h
      rfl
  | true =>
      cases deleted with
      | true =>
          cases h
          rfl
      | false =>
          rw [ofAnswers_of_late, bind_eq_ok_iff] at h
          obtain ⟨active, hactive, h⟩ := h
          -- of the answers only those that were asked for are known
          obtain rfl := henabled active hactive
          cases active with
          | false =>
              cases h
              rfl
          | true =>
              obtain ⟨alive, halive, h⟩ := bind_eq_ok_iff.mp h
              obtain rfl := honline alive halive
              exact (Except.ok.inj h).symm

end StatusLabel

namespace Registry

variable {d : Deployment}

theorem isActive_eq (t : Terminal) (d : Deployment) : isActive t d = ((isActive t d).1, d) :=
  Prod.ext rfl (admitsReading_same.isActive t d).symm

theorem active_eq (d : Deployment) : active d = ((active d).1, d) :=
  Prod.ext rfl (admitsReading_same.ask _ d).symm

theorem readCache_eq {α : Type} (ask : Cache → Except CacheError α) (d : Deployment) :
    readCache ask d = ((ask d.cache).mapError .cache, d) := by
  unfold readCache
  cases ask d.cache <;> rfl

/-- A label is made from the answers, and nothing is changed by it. -/
theorem statusLabel_eq_ofAnswers (t : Terminal) (d : Deployment) :
    statusLabel t d =
      (StatusLabel.ofAnswers t.isAccepted t.isDeleted (isActive t d).1 (isAlive t d).1, d) := by
  rw [statusLabel_eq, StatusLabel.ofAnswers]
  refine call_bind_question ?_ fun active => call_bind_question ?_ fun alive => rfl
  · split
    · exact isActive_eq t d
    · rfl
  · split
    · exact Prod.ext rfl (readCache_snd _ d)
    · rfl

/-- The lazily decided label is the one that all facts decide. It cannot be had exactly if a lookup
that matters fails, and then for the same cause. -/
theorem statusLabel_lazy (d : Deployment) (t : Terminal) :
    (∀ active alive, (isActive t d).1 = .ok active → (isAlive t d).1 = .ok alive →
      (statusLabel t d).1 = .ok (.ofFlags ⟨t.isAccepted, t.isDeleted, active, alive⟩)) ∧
    (∀ e, (statusLabel t d).1 = .error e ↔
      t.isAccepted = true ∧ t.isDeleted = false ∧
        ((isActive t d).1 = .error e ∨ (isActive t d).1 = .ok true ∧ (isAlive t d).1 = .error e)) ∧
    ((∃ label, (statusLabel t d).1 = .ok label) ↔
      ¬(t.isAccepted = true ∧ t.isDeleted = false ∧
        ((∃ e, (isActive t d).1 = .error e) ∨
          (isActive t d).1 = .ok true ∧ ∃ e, (isAlive t d).1 = .error e))) ∧
    (∀ label, (statusLabel t d).1 = .ok label → ∀ active alive,
      (∀ b, (isActive t d).1 = .ok b → b = active) → (∀ b, (isAlive t d).1 = .ok b → b = alive) →
        label = .ofFlags ⟨t.isAccepted, t.isDeleted, active, alive⟩) ∧
    (statusLabel t d).2 = d := by
  rw [statusLabel_eq_ofAnswers]
  refine ⟨?_, ?_, StatusLabel.ofAnswers_isOk_iff, ?_, rfl⟩
  · intro active alive hactive halive
    rw [hactive, halive]
    exact StatusLabel.ofAnswers_ok ..
  · intro e
    exact StatusLabel.ofAnswers_eq_error_iff
  · intro label hlabel active alive hactive halive
    exact StatusLabel.eq_of_ofAnswers_eq_ok hlabel hactive halive

/-- During an outage, the label of a terminal that is not accepted can still be told, and that of an
accepted one cannot. -/
theorem statusLabel_lazy_of_outage :
    let t := (TerminalRow.ofNew "t" (.withDefaults "koko" .koko) (some "a") 5).described
    let d := { Deployment.oneTerminal with cache := { site := .remote (some "down") } }
    (statusLabel t .oneTerminal).1 = .ok (.ofFlags ⟨false, false, true, false⟩) ∧
    (∃ label, (statusLabel t d).1 = .ok label) ∧
    (statusLabel { t with isAccepted := true } d).1 = .error (.cache (.outage "down")) := by
  intro t d
  refine ⟨(statusLabel_lazy .oneTerminal t).1 true false rfl rfl,
    (statusLabel_lazy d t).2.2.1.mpr ?_,
    ((statusLabel_lazy d { t with isAccepted := true }).2.1 _).mpr ⟨rfl, rfl, .inr ⟨rfl, rfl⟩⟩⟩
  rintro ⟨haccepted, _⟩
  cases haccepted

/-! ## The view of the terminals that are alive

The view asks about all active terminals at once. What it needs of the cache is that asking about
many is asking about each (`Batches`), failures included; how the cache looks them up does not
matter. -/

/-- Of two answers that list terminals, the second one lists those of the first that answer a
question with yes, and it can be had exactly if the first one can and each of its terminals
answers. -/
structure Narrows {ε : Type} (ask : Terminal → Except ε Bool)
    (all some : Except RegistryError (List Terminal)) : Prop where
  isOk_iff : (∃ ts, some = .ok ts) ↔
    ∃ ts, all = .ok ts ∧ (ts = [] ∨ ∀ t ∈ ts, ∃ b, ask t = .ok b)
  eq_filter : ∀ {ts kept}, all = .ok ts → some = .ok kept →
    kept = ts.filter fun t => saysYes (ask t)

theorem Narrows.mapError {ε ε' : Type} {ask : Terminal → Except ε Bool}
    {all some : Except RegistryError (List Terminal)} (h : Narrows ask all some) (reword : ε → ε') :
    Narrows (fun t => (ask t).mapError reword) all some := by
  have hask : ∀ t b, (ask t).mapError reword = .ok b ↔ ask t = .ok b := by
    intro t b
    cases ask t <;> simp [Except.mapError]
  refine ⟨?_, ?_⟩
  · simp only [hask]
    exact h.isOk_iff
  · intro ts kept hts hkept
    simp only [saysYes_mapError]
    exact h.eq_filter hts hkept

theorem aliveBy_eq (aliveAmong : Cache → List String → Except CacheError (List String))
    (d : Deployment) :
    aliveBy aliveAmong d = ((active d).1 >>= fun ts =>
      (aliveAmong d.cache (ts.map (·.id))).mapError .cache >>= fun ids =>
        .ok (ts.filter fun t => ids.contains t.id), d) :=
  call_bind_question (active_eq d) fun _ => call_bind_question (readCache_eq _ d) fun _ => rfl

/-- Many lookups at once narrow the active terminals like the lookups of each. -/
theorem narrows_aliveBy {aliveAmong : Cache → List String → Except CacheError (List String)}
    {ask : String → Except CacheError Bool} (h : Cache.Batches ask (aliveAmong d.cache)) :
    Narrows (fun t => ask t.id) (active d).1 (aliveBy aliveAmong d).1 := by
  rw [aliveBy_eq]
  cases (active d).1 with
  | error e =>
      refine ⟨?_, ?_⟩
      · simp [bind, Except.bind]
      · intro ts kept hts
        cases hts
  | ok ts =>
      show Narrows _ (.ok ts) ((aliveAmong d.cache (ts.map (·.id))).mapError .cache >>= fun ids =>
        .ok (ts.filter fun t => ids.contains t.id))
      cases hmany : aliveAmong d.cache (ts.map (·.id)) with
      | ok ids =>
          -- all answers are there, and the view is picked by them
          refine ⟨⟨fun _ => ⟨ts, rfl, .inr ?_⟩, fun _ => ⟨_, rfl⟩⟩, ?_⟩
          · intro t ht
            exact h.answers hmany (List.mem_map_of_mem ht)
          · intro _ kept hts hkept
            cases hts
            cases hkept
            apply List.filter_congr
            intro t ht
            exact h.contains_eq hmany (List.mem_map_of_mem ht)
      | error e =>
          -- the batch has failed, so one of the single questions would
          obtain ⟨_, id, hid, e', hfails⟩ := h.fails_iff.mp ⟨e, hmany⟩
          obtain ⟨t, ht, rfl⟩ := List.mem_map.mp hid
          refine ⟨⟨?_, ?_⟩, ?_⟩
          · rintro ⟨kept, hkept⟩
            cases hkept
          · rintro ⟨_, hts, hnone | hall⟩
            · cases hts
              rw [hnone] at ht
              cases ht
            · cases hts
              obtain ⟨b, hanswer⟩ := hall t ht
              cases hfails.symm.trans hanswer
          · intro _ kept _ hkept
            cases hkept

theorem narrows_alive (d : Deployment) :
    Narrows (fun t => (isAlive t d).1) (active d).1 (alive d).1 := by
  have hview : Narrows (fun t => d.cache.isAlive t.id) (active d).1 (alive d).1 :=
    narrows_aliveBy d.cache.batches
  have hask : (fun t => (isAlive t d).1) =
      fun t => (d.cache.isAlive t.id).mapError RegistryError.cache := by
    funext t
    rw [isAlive, readCache_eq]
  rw [hask]
  exact hview.mapError RegistryError.cache

/-- However a cache is read, and whether or not it can be, to ask for many terminals is to ask for
each of them, and so the view of the terminals that are alive holds those active ones that are alive
one by one. -/
theorem many_lookups_like_each :
    (∀ read : String → Except CacheError (Option String), Cache.Batches (Cache.isAliveBy read)
      (Cache.aliveAmongBy fun keys => keys.mapM read)) ∧
    (∀ c : Cache, Cache.Batches c.isAlive c.aliveAmong) ∧
    ∀ d : Deployment,
      Narrows (fun t => (isAlive t d).1) (active d).1 (alive d).1 ∧ (alive d).2 = d ∧
      ∀ read : String → Except CacheError (Option String),
        Narrows (fun t => Cache.isAliveBy read t.id) (active d).1
          (aliveBy (fun _ => Cache.aliveAmongBy fun keys => keys.mapM read) d).1 := by
  refine ⟨Cache.batches_mapM, Cache.batches, fun d => ⟨narrows_alive d, ?_, ?_⟩⟩
  · exact (admitsReading_same.alive d).symm
  · intro read
    exact narrows_aliveBy (Cache.batches_mapM read)

/-- A cache that cannot read the key of one terminal, and a view of one terminal without a mark. -/
theorem many_lookups_like_each_of_failing_key :
    let read := fun key => if key == Cache.presenceKey "b" then Except.error (.outage "down")
      else .ok (some Cache.presenceMark)
    (∃ e, Cache.aliveAmongBy (fun keys => keys.mapM read) ["a", "b", "a"] = .error e) ∧
    Cache.aliveAmongBy (fun keys => keys.mapM read) ["a", "c", "a"] = .ok ["a", "c"] ∧
    Cache.isAliveBy read "c" = .ok true ∧
    ∃ ts, (alive .oneTerminal).1 = .ok ts := by
  intro read
  have hmany := many_lookups_like_each.1 read
  have hactive : active .oneTerminal = _ :=
    ask_ok rfl (Deployment.oneTerminal_reachable.consistent.mapM_read_filter _)
  have hsome : Cache.aliveAmongBy (fun keys => keys.mapM read) ["a", "c", "a"] = .ok ["a", "c"] := rfl
  refine ⟨hmany.fails_iff.mpr ⟨by simp, "b", by simp, _, rfl⟩, hsome,
    ((hmany.mem_iff hsome "c").mp (by simp)).2,
    (many_lookups_like_each.2.2 .oneTerminal).1.isOk_iff.mpr ⟨_, congrArg Prod.fst hactive, .inr ?_⟩⟩
  intro t _
  exact ⟨_, rfl⟩

end Registry
end GatewayRegistry
