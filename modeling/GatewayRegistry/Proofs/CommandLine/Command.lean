import GatewayRegistry.CommandLine.Command
import GatewayRegistry.Proofs.Runs.Failure
import GatewayRegistry.Proofs.Runs.Registration

/-!
# Commands that fail

A command makes several calls of the registry, each of which leaves no trace when it fails. In most
commands only one call writes, or those that come after it cannot fail. The one exception is a
registration that asks for the protocols of a type that has none: the terminal is there by the time
this is noticed, and stays (`Command.runRegister_unserved`).

What a failed command has printed is another matter. Most commands print when all else is done; the
two that print on the way only ask (`Command.failed_run_silent`).
-/

namespace GatewayRegistry

namespace Command

variable {α β : Type} {p p' : Progress} {fresh : Fresh} {new : NewTerminal}
  {username : Option String}

/-! ## Calls of the registry

A call of the registry does to the deployment what it does by itself, and prints nothing. -/

section

variable {call : Registry.Call α} {d : Deployment}

theorem onRegistry_ok {a : α} (h : call p.deployment = (.ok a, d)) :
    onRegistry call p = (.ok a, { p with deployment := d }) := by
  rw [onRegistry, h]

theorem onRegistry_error {e : RegistryError} (h : call p.deployment = (.error e, d)) :
    onRegistry call p = (.error (.registry e), { p with deployment := d }) := by
  rw [onRegistry, h]

theorem onRegistry_eq_ok {a : α} (h : onRegistry call p = (.ok a, p')) :
    call p.deployment = (.ok a, p'.deployment) ∧ p'.printed = p.printed := by
  rcases hcall : call p.deployment with ⟨e | b, d⟩
  · rw [onRegistry_error hcall] at h
    cases h
  · rw [onRegistry_ok hcall] at h
    cases h
    exact ⟨rfl, rfl⟩

theorem onRegistry_snd (call : Registry.Call α) (p : Progress) :
    (onRegistry call p).2 = { p with deployment := (call p.deployment).2 } := by
  rcases hcall : call p.deployment with ⟨e | a, d⟩
  · rw [onRegistry_error hcall]
  · rw [onRegistry_ok hcall]

/-- A call that leaves no trace of a failure leaves none in a command. -/
theorem onRegistry_traceless (h : Traceless call p.deployment) : Traceless (onRegistry call) p := by
  intro e he
  rcases hcall : call p.deployment with ⟨e' | a, d⟩
  · rw [onRegistry_snd, h e' (by rw [hcall])]
  · rw [onRegistry_ok hcall] at he
    cases he

theorem onRegistry_ensures {Q : α → Deployment → Prop} (h : Ensures call p.deployment Q) :
    Ensures (onRegistry call) p fun a p' => Q a p'.deployment := by
  obtain ⟨a, d, hcall, hQ⟩ := h
  exact ⟨a, _, onRegistry_ok hcall, hQ⟩

theorem onBackfill_traceless {call : Database.Call α} (h : Traceless call p.deployment.database) :
    Traceless (onBackfill call) p := by
  intro e he
  rcases hcall : call p.deployment.database with ⟨e' | a, db⟩
  · have hsame := h e' (by rw [hcall])
    rw [hcall] at hsame
    simp only [onBackfill, hcall]
    exact congrArg (fun db => { p with deployment := { p.deployment with database := db } }) hsame
  · simp only [onBackfill, hcall] at he
    cases he

end

/-- Nothing fails any more once the last call is done and there is only something to print. -/
theorem traceless_then_print {call : Call α} (h : Traceless call p) (texts : α → List String) :
    Traceless (call >>= fun a => printLines (texts a)) p :=
  h.bind_ensures (R := fun _ _ => True) fun _ _ _ => ⟨(), _, rfl, trivial⟩

/-- Most commands begin with a look at the terminal. -/
theorem get_traceless (hs : p.deployment.database.store.Consistent) {id : String}
    {f : Terminal → Call β}
    (hf : ∀ t, (∃ row ∈ p.deployment.database.store.terminals, row.id = t.id) → Traceless (f t) p) :
    Traceless (onRegistry (Registry.get id) >>= f) p := by
  refine Traceless.ask_bind ?_ fun t ht => hf t ?_
  · have hsame : (Registry.get id p.deployment).2 = p.deployment :=
      (Registry.admitsReading_same.ask _ p.deployment).symm
    rw [onRegistry_snd, hsame]
  · obtain ⟨hget, _⟩ := onRegistry_eq_ok ht
    obtain ⟨row, hrow, rfl⟩ := Database.getTerminal_described hs (Registry.storeCall_eq_ok hget).1
    exact ⟨row, hrow, rfl⟩

/-- Most commands that write have one call for the terminal that they looked at. -/
theorem get_write_traceless (hs : p.deployment.database.store.Consistent) {id : String}
    {call : Terminal → Registry.Call α} (texts : Terminal → α → List String)
    (hcall : ∀ t, (∃ row ∈ p.deployment.database.store.terminals, row.id = t.id) →
      Traceless (call t) p.deployment) :
    Traceless
      (onRegistry (Registry.get id) >>= fun t =>
        onRegistry (call t) >>= fun a => printLines (texts t a)) p := by
  refine get_traceless hs fun t hrow => ?_
  exact traceless_then_print (onRegistry_traceless (hcall t hrow)) (texts t)

/-! ## Commands that only ask

These print on the way, so a failure finds some lines printed; but they write nothing else. -/

/-- If the type of a terminal has protocols, they can be assigned once the terminal is there. -/
theorem runRegister_traceless (hs : p.deployment.database.store.Consistent) {withProtocols : Bool}
    (htype : withProtocols = true → ∃ names, new.type.protocols? = some names) :
    Traceless (runRegister fresh new username withProtocols) p := by
  refine Traceless.bind_ensures (R := fun _ _ => True) (onRegistry_traceless ?_) fun t p' hrun => ?_
  · exact Registry.register_traceless hs fresh.terminalId new _ fresh.now
  · obtain ⟨hregister, _⟩ := onRegistry_eq_ok hrun
    obtain ⟨hopen, hfree, rfl, hafter⟩ := Registry.register_eq_ok hs hregister
    cases withProtocols with
    | false => exact ⟨(), _, rfl, trivial⟩
    | true =>
        -- the type has default protocols, and the terminal has just been inserted, so the reset
        -- cannot fail
        obtain ⟨names, hnames⟩ := htype rfl
        have hrequests : ProtocolEntry.defaults? new.type = some (names.map .ofName) :=
          congrArg (Option.map _) hnames
        have hready := Database.ready_registered ⟨hopen, hs⟩ hfree new fresh.now
        refine Ensures.bind (onRegistry_ensures (Q := fun _ _ => True) ?_) fun _ _ _ =>
          ⟨(), _, rfl, trivial⟩
        rw [hafter]
        exact Registry.resetProtocols_ensures hready hrequests ⟨_, Store.mem_registered, rfl⟩

/-- If it has none, this is noticed only when the terminal is there, and the terminal stays. -/
theorem runRegister_unserved (hs : p.deployment.database.store.Consistent)
    (htype : new.type.protocols? = none) {e : CommandError}
    (hfail : (runRegister fresh new username true p).1 = .error e) :
    (runRegister fresh new username true p).2 = p ∨
      e = .registry (.unsupportedType new.type) ∧
        (runRegister fresh new username true p).2 = { p with deployment := { p.deployment with
          database := { p.deployment.database with
            store := p.deployment.database.store.registered fresh.terminalId new
              (username.map fun username => (fresh.accountId, username)) fresh.now } } } := by
  have hfirst := Registry.register_traceless hs fresh.terminalId new
    (username.map fun username => (fresh.accountId, username)) fresh.now
  rcases hrun : Registry.register fresh.terminalId new
    (username.map fun username => (fresh.accountId, username)) fresh.now p.deployment with ⟨e' | t, d⟩
  · refine Or.inl ?_
    have hall : runRegister fresh new username true p =
        (.error (.registry e'), { p with deployment := d }) :=
      call_bind_error (onRegistry_error hrun)
    -- the registration itself has failed
    have hsame := hfirst e' (congrArg Prod.fst hrun)
    rw [hrun] at hsame
    rw [hall]
    exact congrArg (fun d => { p with deployment := d }) hsame
  · refine Or.inr ?_
    obtain ⟨_, _, rfl, rfl⟩ := Registry.register_eq_ok hs hrun
    -- the registration has succeeded, and the reset finds no protocols for the type
    have hnone : ProtocolEntry.defaults? new.type = none := congrArg (Option.map _) htype
    have hall : runRegister fresh new username true p =
        (.error (.registry (.unsupportedType new.type)), _) :=
      (call_bind_ok (onRegistry_ok hrun)).trans
        (call_bind_error (onRegistry_error (Registry.resetProtocols_unserved hnone _)))
    rw [hall] at hfail ⊢
    exact ⟨(Except.error.inj hfail).symm, rfl⟩

/-! ## All commands -/

/-- A switch is one call after the look-up. -/
theorem runSetActive_traceless (h : p.deployment.Reachable) (terminalId : String) (active : Bool) :
    Traceless (runSetActive terminalId active) p := by
  refine get_traceless h.consistent fun t _ => ?_
  dsimp only
  split
  · exact .of_same rfl -- a terminal without an account
  · refine traceless_then_print (onRegistry_traceless ?_) _
    exact h.traceless (.setActive t active) rfl

/-- Whether a command prints something before the last step that may fail. -/
def printsEarly : Command → Bool
  | status _ => true
  | list _ => true
  | _ => false

/-- Every other command leaves no trace when it fails, not even a line that it has printed. -/
theorem run_traceless (h : p.deployment.Reachable) (r : Registry) {command : Command}
    (hlate : command.printsEarly = false)
    (hserved : ∀ new username, command = .register new username true →
      ∃ names, new.type.protocols? = some names) : Traceless (command.run r fresh) p := by
  have hs := h.consistent
  cases command with
  | initProtocols =>
      exact traceless_then_print
        (onRegistry_traceless (Registry.getOrCreateProtocols_traceless hs _)) _
  | register new username withProtocols =>
      apply runRegister_traceless hs
      rintro rfl
      exact hserved new username rfl
  | accept terminalId =>
      exact get_write_traceless hs _ fun t _ => h.traceless (.accept t) rfl
  | delete terminalId =>
      exact get_write_traceless hs _ fun t _ => h.traceless (.delete t) rfl
  | activate terminalId => exact runSetActive_traceless h terminalId true
  | deactivate terminalId => exact runSetActive_traceless h terminalId false
  | resetProtocols terminalId =>
      exact get_write_traceless hs _ fun t hrow => Registry.resetProtocols_traceless hs hrow
  | heartbeat terminalId =>
      exact get_write_traceless hs _ fun t _ => Registry.writeCache_traceless _ p.deployment
  | config terminalId =>
      refine get_write_traceless hs _ fun t _ => .of_same ?_
      exact (Registry.admitsReading_same.payload r t p.deployment).symm
  | backfillSftp => exact traceless_then_print (onBackfill_traceless (Backfill.run_traceless hs)) _
  | status | list => cases hlate

/-- A command that fails has printed nothing, unless it prints on the way. -/
theorem failed_run_silent (h : p.deployment.Reachable) (r : Registry) {command : Command}
    (hlate : command.printsEarly = false) {e : CommandError}
    (hfail : (command.run r fresh p).1 = .error e) :
    (command.run r fresh p).2.printed = p.printed := by
  by_cases hserved : ∀ new username, command = .register new username true →
    ∃ names, new.type.protocols? = some names
  · rw [run_traceless h r hlate hserved e hfail]
  · push Not at hserved
    obtain ⟨new, username, rfl, hunserved⟩ := hserved
    have htype : new.type.protocols? = none := Option.eq_none_iff_forall_ne_some.mpr hunserved
    rcases runRegister_unserved h.consistent htype hfail with hsame | ⟨_, hafter⟩
    · exact congrArg Progress.printed hsame
    · exact (congrArg Progress.printed hafter).trans rfl

end Command
end GatewayRegistry
