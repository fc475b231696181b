import GatewayRegistry.Proofs.Runs.Isolation
import GatewayRegistry.Proofs.Store.Links

/-!
# Protocols and domains of terminals

What a run finds when it fills the catalog (`Deployment.getOrCreateProtocols_exact`), replaces what
a terminal is linked to (`Deployment.links_replaced_wholesale`) or lets a terminal serve the
protocols of its type again (`Deployment.resetProtocols_exact`). A reset is made of the other two,
and what it leaves depends neither on what the terminal served before nor on the order in which the
catalog was filled.
-/

namespace GatewayRegistry

/-! ## Default protocols -/

/-- A request by name is for the usual port. -/
theorem ProtocolEntry.resolve?_ofName (name : ProtocolName) :
    (ofName name).resolve? = some (name, name.defaultPort) := by
  have hport : name.defaultPort ≠ 0 := by cases name <;> decide
  exact resolve?_eq_some_iff.mpr ⟨rfl, rfl, hport⟩

theorem ProtocolEntry.filterMap_resolve?_ofName (names : List ProtocolName) :
    (names.map ofName).filterMap (·.resolve?) = names.map fun name => (name, name.defaultPort) := by
  simp [List.filterMap_map, resolve?_ofName]

/-- No type serves a protocol twice. -/
theorem TerminalType.nodup_protocols {type : TerminalType} {names : List ProtocolName}
    (h : type.protocols? = some names) : names.Nodup := by
  cases type <;> cases h <;> decide

namespace Deployment

def withStore (d : Deployment) (s : Store) : Deployment :=
  { d with database := { d.database with store := s } }

variable {d : Deployment}

/-! ## Catalog entries on demand -/

theorem Reachable.ready (h : d.Reachable) (hopen : d.database.isOpen = true) : d.database.Ready :=
  ⟨hopen, h.consistent⟩

theorem getOrCreateProtocols_seeded (h : d.database.Ready) (requests : List ProtocolEntry) :
    let s := d.database.store.withEntries (requests.filterMap (·.resolve?))
    ∃ found, Registry.getOrCreateProtocols requests d = (.ok found, d.withStore s) ∧
      Store.Edits d.database.store s ∧ s.Seeded (requests.filterMap (·.resolve?)) found := by
  obtain ⟨found, hrun, hseeded⟩ := Database.getOrCreateProtocols_seeded h requests
  have hedits := Database.getOrCreateProtocols_edits requests d.database
  rw [hrun] at hedits
  exact ⟨found, Registry.storeCall_ok hrun, hedits, hseeded⟩

/-- Any requests can be answered from any catalog. A request asks for something if it has a known
name and a port other than zero. To ask again gives the same answer and no new row, and it makes no
difference whether requests are made in one call or in two. -/
theorem getOrCreateProtocols_exact (h : d.Reachable) (hopen : d.database.isOpen = true)
    (requests : List ProtocolEntry) :
    (∀ (request : ProtocolEntry) (w : ProtocolName × UInt16), request.resolve? = some w ↔
      request.name = some w.1.toText ∧ request.port = some w.2 ∧ w.2 ≠ 0) ∧
    ∃ found s', Registry.getOrCreateProtocols requests d = (.ok found, d.withStore s') ∧
      d.database.store.Provides (requests.filterMap (·.resolve?)) found s' ∧
      (∃ s'', Registry.getOrCreateProtocols requests (d.withStore s') = (.ok found, d.withStore s'') ∧
        s''.protocols.rows = s'.protocols.rows) ∧
      ∀ more, (Registry.getOrCreateProtocols (requests ++ more) d).2 =
        (Registry.getOrCreateProtocols more (d.withStore s')).2 := by
  refine ⟨fun request w => ProtocolEntry.resolve?_eq_some_iff, ?_⟩
  have hready := h.ready hopen
  obtain ⟨found, hrun, -, hseeded⟩ := getOrCreateProtocols_seeded hready requests
  have hready' :
      (d.withStore (d.database.store.withEntries (requests.filterMap (·.resolve?)))).database.Ready :=
    ⟨hopen, hseeded.consistent⟩
  -- the rows that the first call made sure of are there for the second
  refine ⟨found, _, hrun, hseeded.provides, ?_, fun more => ?_⟩
  · obtain ⟨again, hrun', hedits, hseeded'⟩ := getOrCreateProtocols_seeded hready' requests
    rw [hseeded.found_unique hedits hseeded'] at hrun'
    exact ⟨_, hrun', Store.rows_withEntries_of_there hseeded.there⟩
  · obtain ⟨_, hall, -⟩ := getOrCreateProtocols_seeded hready (requests ++ more)
    obtain ⟨_, hmore, -⟩ := getOrCreateProtocols_seeded hready' more
    rw [hall, hmore, List.filterMap_append, Store.withEntries_append]
    rfl

/-- Requests of every kind to a catalog in which one of the entries is there. -/
theorem getOrCreateProtocols_exact_of_malformed :
    let d := ({} : Deployment).after [⟨_, .getOrCreateProtocols [.ofName .sftp]⟩]
    let requests : List ProtocolEntry :=
      [⟨none, some 22, true⟩, ⟨some "ssh", some 22, false⟩, ⟨some "gopher", some 70, true⟩,
        ⟨some "ssh", some 0, true⟩, ⟨some "sftp", some 22, true⟩, ⟨some "ssh", some 22, true⟩]
    let found : List Protocol := [⟨2, .ssh, 22, true⟩, ⟨1, .sftp, 22, true⟩]
    ∃ s', Registry.getOrCreateProtocols requests d = (.ok found, d.withStore s') ∧
      d.database.store.Provides (requests.filterMap (·.resolve?)) found s' ∧
      s'.protocols.lastId = 4 := by
  intro d requests found
  -- four requests are skipped or repeat an entry that is there
  obtain ⟨-, answer, s', hrun, hprovides, -⟩ :=
    getOrCreateProtocols_exact (d := d) (.after _) (by decide +kernel) requests
  have hfound : (Registry.getOrCreateProtocols requests d).1 = .ok found := by decide +kernel
  rw [hrun] at hfound
  obtain rfl : answer = found := Except.ok.inj hfound
  refine ⟨s', hrun, hprovides, ?_⟩
  obtain ⟨added, rfl, -⟩ := hprovides.catalog
  show d.database.store.protocols.lastId + (requests.filterMap (·.resolve?)).length = 4
  decide +kernel

/-! ## Links -/

/-- The protocols that any terminal serves and the domains that it reaches are replaced as a whole,
after any run and by any ids. -/
theorem links_replaced_wholesale (h : d.Reachable) (hopen : d.database.isOpen = true) (t : String) :
    (∀ ids, LinkKind.protocols.ReplacesWholesale d.database t ids) ∧
      ∀ ids, LinkKind.domains.ReplacesWholesale d.database t ids := by
  have hready := h.ready hopen
  constructor
  · intro ids
    exact LinkKind.protocols_lawful.replaces_wholesale hready t ids
  · intro ids
    exact LinkKind.domains_lawful.replaces_wholesale hready t ids

/-- Ids that are given twice, ids of which one is unknown, and no ids for a terminal that is not
there. -/
theorem links_replaced_wholesale_of_repetitions :
    let d := ({} : Deployment).after [registration,
      ⟨_, .getOrCreateProtocols [.ofName .ssh, .ofName .rdp]⟩,
      ⟨_, .store (.replaceProtocols "t" [1])⟩,
      ⟨_, .store (.createDomain "x" "east" 6)⟩]
    (∃ db', Database.replaceProtocols "t" [2, 1, 2] d.database = (.ok (), db') ∧
        LinkKind.protocols.Replaced "t" [2, 1, 2] d.database db') ∧
      Database.replaceProtocols "t" [2, 9] d.database = (.error (.rejected .dangling), d.database) ∧
      (∃ db', Database.replaceDomains "nobody" [] d.database = (.ok (), db')) := by
  intro d
  have hopen : d.database.isOpen = true := by decide +kernel
  obtain ⟨hserved, -⟩ := links_replaced_wholesale (d := d) (.after _) hopen "t"
  obtain ⟨-, hreached⟩ := links_replaced_wholesale (d := d) (.after _) hopen "nobody"
  refine ⟨?_, ?_, (hreached []).succeeds_iff.mpr (.inl rfl)⟩
  · obtain ⟨db', hrun⟩ := (hserved [2, 1, 2]).succeeds_iff.mpr (.inr (by decide +kernel))
    exact ⟨db', hrun, (hserved [2, 1, 2]).replaced db' hrun⟩
  · rcases hrun : Database.replaceProtocols "t" [2, 9] d.database with ⟨e | u, db'⟩
    · obtain ⟨rfl, rfl⟩ := (hserved [2, 9]).refused e db' hrun
      rfl
    · rcases (hserved [2, 9]).succeeds_iff.mp ⟨db', hrun⟩ with hnil | ⟨-, hall⟩
      · cases hnil
      · have hmissing : LinkKind.protocols.has d.database.store 9 = false := by decide +kernel
        rw [hall 9 (by decide)] at hmissing
        cases hmissing

/-! ## Resetting to the defaults -/

/-- What it has found and done to let a terminal serve some protocols on their default ports. -/
structure ResetTo (d : Deployment) (t : Terminal) (names : List ProtocolName)
    (found : List Protocol)
    (d' : Deployment) : Prop where
  /-- There is one entry for each protocol, in order. -/
  found_eq : found.map (fun p => (p.name, p.port)) = names.map fun name => (name, name.defaultPort)
  /-- The catalog has provided the entries, and the terminal is linked to them and to nothing
  else. -/
  store : ∃ s, d.database.store.Provides (names.map fun name => (name, name.defaultPort)) found s ∧
    d' = d.withStore (s.withServed t.id (found.map (·.id)))
  /-- The terminal serves the entries, in the order of lists. -/
  listed : ∃ listed, Registry.protocols t d' = (.ok listed, d') ∧ listed.Perm found ∧
    listed.Pairwise Protocol.Before
  others : ∀ other : Terminal, other.id ≠ t.id →
    (Registry.protocols other d').1 = (Registry.protocols other d).1

/-- A type without defaults is reported, and nothing is done. -/
theorem resetProtocols_unsupported {t : Terminal} (hnone : t.type.protocols? = none) :
    Registry.resetProtocols t d = (.error (.unsupportedType t.type), d) := by
  unfold Registry.resetProtocols Registry.defaultProtocols ProtocolEntry.defaults?
  rw [hnone]
  rfl

/-- The list of a terminal that is linked to some entries of the catalog. -/
theorem protocols_withServed {s : Store} {t : Terminal} {found : List Protocol}
    (h : (d.withStore (s.withServed t.id (found.map (·.id)))).database.Ready)
    (hids : UniqueBy Protocol.id found) (hthere : ∀ p ∈ found, p.row ∈ s.protocols.rows) :
    ∃ listed, Registry.protocols t (d.withStore (s.withServed t.id (found.map (·.id)))) =
        (.ok listed, d.withStore (s.withServed t.id (found.map (·.id)))) ∧
      listed.Perm found ∧ listed.Pairwise Protocol.Before := by
  have hlawful := LinkKind.protocols_lawful
  have hlinked : LinkKind.protocols.linked (s.withServed t.id (found.map (·.id))) t.id =
      found.map (·.id) := by
    have hrelinked := hlawful.linked s t.id (found.map (·.id)) t.id
    rw [if_pos rfl] at hrelinked
    exact hrelinked
  refine ⟨_, Registry.storeCall_ok (hlawful.list _ h t.id), ?_,
    (hlawful.ordered _ h.consistent).filter _⟩
  have hcatalog := h.consistent.catalog_ids
  have hnodup := (List.Nodup.of_map _ hcatalog).filter fun p =>
    (LinkKind.protocols.linked (s.withServed t.id (found.map (·.id))) t.id).contains p.id
  -- neither list repeats an entry, so it is enough that they hold the same
  refine (List.perm_ext_iff_of_nodup hnodup (List.Nodup.of_map _ hids)).mpr fun p => ?_
  rw [List.mem_filter, List.contains_iff_mem, hlinked]
  have hmem : ∀ q ∈ found, q ∈ (s.withServed t.id (found.map (·.id))).catalog :=
    fun q hq => h.consistent.mem_catalog.mpr (hthere q hq)
  constructor
  · rintro ⟨hp, hid⟩
    obtain ⟨q, hq, hqp⟩ := List.mem_map.mp hid
    rw [← hcatalog.eq_of_mem (hmem q hq) hp hqp]
    exact hq
  · intro hp
    exact ⟨hmem p hp, List.mem_map_of_mem hp⟩

/-- A terminal that is there can be reset, and that takes nothing but the type of its copy. -/
theorem resetProtocols_ok (h : d.database.Ready) {t : Terminal}
    (hterminal : d.database.store.hasTerminal t.id = true) {names : List ProtocolName}
    (hnames : t.type.protocols? = some names) :
    ∃ found d', Registry.resetProtocols t d = (.ok found, d') ∧ d.ResetTo t names found d' ∧
      d'.database.Ready ∧
      d'.database.store.Seeded (names.map fun name => (name, name.defaultPort)) found := by
  obtain ⟨found, hfound, -, hseeded⟩ := getOrCreateProtocols_seeded h (names.map .ofName)
  rw [ProtocolEntry.filterMap_resolve?_ofName] at hfound hseeded
  have hprovides := hseeded.provides
  have hthere : (d.database.store.withEntries (names.map fun name => (name, name.defaultPort))).hasTerminal
      t.id = true := by
    rw [Store.withEntries_eq]
    exact hterminal
  -- only what the catalog provides matters from here on, not how it was filled
  generalize d.database.store.withEntries (names.map fun name => (name, name.defaultPort)) = s at *
  have hreplace : s.replaceProtocols t.id (found.map (·.id)) =
      .ok (s.withServed t.id (found.map (·.id))) := by
    rw [Store.replaceProtocols_eq, eraseDups_of_nodup hprovides.ids, if_pos]
    rw [List.all_map, List.all_eq_true]
    intro p hp
    have hrow : s.hasProtocol p.id = true := Store.hasProtocol_iff.mpr ⟨p.row, hprovides.there p hp, rfl⟩
    simp [hthere, hrow]
  have hrun : Registry.resetProtocols t d =
      (.ok found, d.withStore (s.withServed t.id (found.map (·.id)))) := by
    have hdefaults : Registry.defaultProtocols t.type d = (.ok found, d.withStore s) := by
      unfold Registry.defaultProtocols ProtocolEntry.defaults?
      rw [hnames]
      exact hfound
    have hlink : Registry.onStore (Database.replaceProtocols t.id (found.map (·.id))) (d.withStore s) =
        (.ok (), d.withStore (s.withServed t.id (found.map (·.id)))) :=
      Registry.storeCall_ok (Database.execute_ok h.isOpen hreplace)
    unfold Registry.resetProtocols
    rw [call_bind_ok hdefaults, call_bind_ok hlink]
    rfl
  have hedits := Store.replaceProtocols_edits hreplace
  have hready : (d.withStore (s.withServed t.id (found.map (·.id)))).database.Ready :=
    ⟨h.isOpen, hedits.consistent hseeded.consistent⟩
  refine ⟨found, _, hrun, ⟨?_, ⟨s, hprovides, rfl⟩, ?_, ?_⟩, hready, hseeded.later hedits⟩
  · rw [hprovides.found_eq, eraseDups_of_nodup]
    exact (TerminalType.nodup_protocols hnames).map fun a b hab => (Prod.mk.inj hab).1
  · exact protocols_withServed hready hprovides.ids hprovides.there
  · intro other hother
    have hspares := spares_resetProtocols t hother d
    rw [hrun] at hspares
    apply ask_answer hspares.database.isOpen
    rw [hspares.database.store.servedProtocols_eq h.consistent hready.consistent]

/-- A reset fails only for want of defaults, and then nothing has changed. Otherwise it leaves
the terminal with the protocols of its type, whatever it served before and whoever filled the
catalog. -/
theorem resetProtocols_exact (start : Deployment) (fresh : start.Fresh)
    (requests : List Registry.Request) (t : Terminal) (handed : start.Handed requests t)
    (isOpen : (start.after requests).database.isOpen = true) :
    let d := start.after requests
    ((Registry.resetProtocols t d).1 = .error (.unsupportedType t.type) ↔ t.type.protocols? = none) ∧
      (t.type.protocols? = none → (Registry.resetProtocols t d).2 = d) ∧
      ∀ names, t.type.protocols? = some names →
        ∃ found d', Registry.resetProtocols t d = (.ok found, d') ∧ d.ResetTo t names found d' ∧
          ∃ d'', Registry.resetProtocols t d' = (.ok found, d'') ∧
            (Registry.protocols t d'').1 = (Registry.protocols t d').1 := by
  intro d
  have h : d.database.Ready := (fresh.reachable requests).ready isOpen
  have hterminal : d.database.store.hasTerminal t.id = true :=
    Store.hasTerminal_iff.mpr (handed.stored fresh)
  refine ⟨⟨fun hfails => ?_, fun hnone => ?_⟩, fun hnone => ?_, fun names hnames => ?_⟩
  · cases hnames : t.type.protocols? with
    | none => rfl
    | some names =>
        obtain ⟨found, d', hrun, -⟩ := resetProtocols_ok h hterminal hnames
        rw [hrun] at hfails
        cases hfails
  · rw [resetProtocols_unsupported hnone]
  · rw [resetProtocols_unsupported hnone]
  · obtain ⟨found, d', hrun, hreset, h', hseeded⟩ := resetProtocols_ok h hterminal hnames
    have hterminal' : d'.database.store.hasTerminal t.id = true := by
      obtain ⟨s, hprovides, rfl⟩ := hreset.store
      obtain ⟨added, rfl, -⟩ := hprovides.catalog
      exact hterminal
    obtain ⟨again, d'', hrun', hreset', -, hseeded'⟩ := resetProtocols_ok h' hterminal' hnames
    have hedits := Registry.admits_edits.resetProtocols t d'
    rw [hrun'] at hedits
    obtain rfl : again = found := hseeded.found_unique hedits hseeded'
    refine ⟨again, d', hrun, hreset, d'', hrun', ?_⟩
    obtain ⟨listed, hlisted, hperm, hordered⟩ := hreset.listed
    obtain ⟨listed', hlisted', hperm', hordered'⟩ := hreset'.listed
    -- entries can stand in one order only
    have hsame : listed' = listed := by
      refine List.Perm.eq_of_pairwise ?_ hordered' hordered (hperm'.trans hperm.symm)
      intro p q _ _ hpq hqp
      exact absurd hqp hpq.asymm
    rw [hlisted, hlisted', hsame]

/-- A terminal that was given other protocols is reset to those of its type, of which one is in the
catalog. -/
theorem resetProtocols_exact_of_newcomer :
    let d := ({} : Deployment).after [registration,
      ⟨_, .getOrCreateProtocols [.ofName .vnc, .ofName .ssh, ⟨some "ssh", some 2222, true⟩]⟩,
      ⟨_, .store (.replaceProtocols "t" [1, 3])⟩]
    ∃ d', Registry.resetProtocols newcomer d = (.ok [⟨2, .ssh, 22, true⟩], d') ∧
      d.database.store.terminalProtocols = [⟨"t", 1⟩, ⟨"t", 3⟩] ∧
      Registry.protocols newcomer d' = (.ok [⟨2, .ssh, 22, true⟩], d') := by
  intro d
  have handed := (newcomer_handed.later ⟨_, .getOrCreateProtocols
    [.ofName .vnc, .ofName .ssh, ⟨some "ssh", some 2222, true⟩]⟩).later
      ⟨_, .store (.replaceProtocols "t" [1, 3])⟩
  obtain ⟨-, -, hreset⟩ := resetProtocols_exact {} ⟨rfl, rfl⟩ _ newcomer handed (by decide +kernel)
  obtain ⟨found, d', hrun, hto, -⟩ := hreset [.ssh] rfl
  have hfound : (Registry.resetProtocols newcomer d).1 = .ok [⟨2, .ssh, 22, true⟩] := by decide +kernel
  have hanswer : (Registry.resetProtocols newcomer d).1 = .ok found := congrArg Prod.fst hrun
  obtain rfl := Except.ok.inj (hanswer.symm.trans hfound)
  obtain ⟨listed, hlisted, hperm, -⟩ := hto.listed
  -- there is one default, so the order is no question
  obtain rfl := List.perm_singleton.mp hperm
  exact ⟨d', hrun, by decide +kernel, hlisted⟩

end Deployment
end GatewayRegistry
