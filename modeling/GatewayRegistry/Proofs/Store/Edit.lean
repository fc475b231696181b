import GatewayRegistry.Proofs.Store.Consistency
import GatewayRegistry.Proofs.Store.Statement

/-!
# What calls write

`Edit` lists every write that a call can make apart from the deletion of a terminal, each under the
conditions that the statement behind it checks. `Store.retire` is the deletion. What holds of the
store after every run is proved once for each edit and once for the deletion: first of all, both
keep the store consistent.
-/

namespace GatewayRegistry
namespace Store

/-! ## Edits -/

/-- One write to the store that deletes nothing but links. -/
inductive Edit : Store → Store → Prop where
  | addAccount {s : Store} {a : Account} (username : ∀ b ∈ s.accounts, b.username ≠ a.username)
      (id : ∀ b ∈ s.accounts, b.id ≠ a.id) : Edit s { s with accounts := s.accounts ++ [a] }
  | setAccountActive {s : Store} (id : String) (active : Bool) :
      Edit s { s with accounts := s.accounts.map fun a =>
        if a.id == id then { a with isActive := active } else a }
  | addSession {s : Store} {x : Session} (id : ∀ y ∈ s.sessions, y.id ≠ x.id)
      (terminal : ∃ row ∈ s.terminals, row.id = x.terminalId) :
      Edit s { s with sessions := s.sessions ++ [x] }
  | finishSession {s : Store} (id : String) : Edit s (s.finishSession id)
  | addTerminal {s : Store} {row : TerminalRow} (readable : row.Readable)
      (undeleted : row.isDeleted = false)
      (link : ∀ a, row.accountId = some a → ∀ other ∈ s.terminals, other.accountId ≠ some a)
      (id : ∀ other ∈ s.terminals, other.id ≠ row.id)
      (account : ∀ a, row.accountId = some a → ∃ x ∈ s.accounts, x.id = a) :
      Edit s { s with terminals := s.terminals ++ [row] }
  /-- A terminal is accepted, or not any more, or pointed at other backends. -/
  | changeTerminal {s : Store} (id : String) {change : TerminalRow → TerminalRow}
      (change_eq : ∀ row, ∃ accepted command replay, change row =
        { row with isAccepted := accepted, commandStorage := command, replayStorage := replay }) :
      Edit s (s.updateTerminal id change)
  | addProtocol {s : Store} {name : ProtocolName} {port : UInt16} (port_pos : 1 ≤ port.toNat)
      (absent : s.protocolRow? name.toText port.toNat = none) :
      Edit s { s with protocols := s.protocols.insert fun id => ⟨id, name.toText, port.toNat, true⟩ }
  | skipProtocol {s : Store} : Edit s { s with protocols := s.protocols.skip }
  | serve {s : Store} {link : ProtocolLink} (fresh : link ∉ s.terminalProtocols)
      (terminal : ∃ row ∈ s.terminals, row.id = link.terminalId)
      (protocol : ∃ p ∈ s.protocols.rows, p.id = link.protocolId) :
      Edit s { s with terminalProtocols := s.terminalProtocols ++ [link] }
  | unserve {s : Store} (terminalId : String) :
      Edit s { s with terminalProtocols := s.terminalProtocols.filter (·.terminalId != terminalId) }
  | addDomain {s : Store} {d : Domain} (name : ∀ e ∈ s.domains, e.name ≠ d.name)
      (id : ∀ e ∈ s.domains, e.id ≠ d.id) : Edit s { s with domains := s.domains ++ [d] }
  | reach {s : Store} {link : DomainLink} (fresh : link ∉ s.terminalDomains)
      (terminal : ∃ row ∈ s.terminals, row.id = link.terminalId)
      (domain : ∃ d ∈ s.domains, d.id = link.domainId) :
      Edit s { s with terminalDomains := s.terminalDomains ++ [link] }
  | unreach {s : Store} (terminalId : String) :
      Edit s { s with terminalDomains := s.terminalDomains.filter (·.terminalId != terminalId) }
  | addBackend {s : Store} (kind : BackendKind) {b : StorageBackend}
      (name : ∀ c ∈ s.backends kind, c.name ≠ b.name) (id : ∀ c ∈ s.backends kind, c.id ≠ b.id) :
      Edit s (s.setBackends kind (s.backends kind ++ [b]))
  | addPlatform {s : Store} {name : String} (type : String) (fresh : ∀ p ∈ s.platforms.rows, p.name ≠ name) :
      Edit s { s with platforms := s.platforms.insert fun id => ⟨id, name, type⟩ }
  | addPlatformProtocol {s : Store} {new : NewPlatformProtocol}
      (absent : s.platformOffers new.platformId new.name = false)
      (platform : ∃ p ∈ s.platforms.rows, p.id = new.platformId) :
      Edit s { s with platformProtocols := s.platformProtocols.insert new.row }
  | skipPlatformProtocol {s : Store} : Edit s { s with platformProtocols := s.platformProtocols.skip }
  | addAsset {s : Store} {a : Asset} (id : ∀ b ∈ s.assets, b.id ≠ a.id)
      (platform : ∃ p ∈ s.platforms.rows, p.id = a.platformId) :
      Edit s { s with assets := s.assets ++ [a] }
  | addAssetProtocol {s : Store} {new : NewAssetProtocol}
      (absent : s.assetOffers new.assetId new.name = false)
      (asset : ∃ a ∈ s.assets, a.id = new.assetId) :
      Edit s { s with assetProtocols := s.assetProtocols.insert new.row }
  | skipAssetProtocol {s : Store} : Edit s { s with assetProtocols := s.assetProtocols.skip }
  | setLock {s : Store} (locked : Bool) : Edit s { s with accountsLocked := locked }

/-! ## Consistency -/

variable {s s' : Store}

/-- A change of a terminal that keeps its id, its account and the columns with closed types. -/
theorem Consistent.updateTerminal (h : s.Consistent) (id : String)
    {change : TerminalRow → TerminalRow} (keepId : ∀ row, (change row).id = row.id)
    (keepAccount : ∀ row, (change row).accountId = row.accountId)
    (keepReadable : ∀ row, row.Readable → (change row).Readable) :
    (s.updateTerminal id change).Consistent := by
  -- rows of other terminals are not changed at all
  have hid : ∀ row : TerminalRow, (if row.id == id then change row else row).id = row.id := by
    intro row
    split
    · exact keepId row
    · rfl
  have haccount : ∀ row : TerminalRow,
      (if row.id == id then change row else row).accountId = row.accountId := by
    intro row
    split
    · exact keepAccount row
    · rfl
  refine { h with
    terminalIds := h.terminalIds.map hid
    terminalAccounts := h.terminalAccounts.map fun row => Or.inl (haccount row)
    linkedAccounts := h.linkedAccounts.map haccount
    servingTerminals := h.servingTerminals.map_target hid
    reachingTerminals := h.reachingTerminals.map_target hid
    sessionTerminals := h.sessionTerminals.map_target hid
    terminalsReadable := ?_ }
  intro row hrow
  obtain ⟨row₀, hrow₀, rfl⟩ := List.mem_map.mp hrow
  split
  · exact keepReadable row₀ (h.terminalsReadable row₀ hrow₀)
  · exact h.terminalsReadable row₀ hrow₀

/-- A backend with a new id and a new name may be added to its table; the other table is not
concerned. -/
theorem Consistent.addBackend (h : s.Consistent) (kind : BackendKind) {b : StorageBackend}
    (name : ∀ c ∈ s.backends kind, c.name ≠ b.name) (id : ∀ c ∈ s.backends kind, c.id ≠ b.id) :
    (s.setBackends kind (s.backends kind ++ [b])).Consistent := by
  cases kind with
  | command =>
      refine { h with backendIds := ?_, backendNames := ?_ }
      · rintro (_ | _)
        · exact (h.backendIds .command).append id
        · exact h.backendIds .replay
      · rintro (_ | _)
        · exact (h.backendNames .command).append name
        · exact h.backendNames .replay
  | replay =>
      refine { h with backendIds := ?_, backendNames := ?_ }
      · rintro (_ | _)
        · exact h.backendIds .command
        · exact (h.backendIds .replay).append id
      · rintro (_ | _)
        · exact h.backendNames .command
        · exact (h.backendNames .replay).append name

/-- The flag of an account is part of no key. -/
theorem Consistent.setAccountActive (h : s.Consistent) (id : String) (active : Bool) :
    Consistent { s with accounts := s.accounts.map fun a =>
      if a.id == id then { a with isActive := active } else a } := by
  have keep : ∀ a : Account, (if a.id == id then { a with isActive := active } else a).id = a.id ∧
      (if a.id == id then { a with isActive := active } else a).username = a.username := by
    intro a
    split <;> exact ⟨rfl, rfl⟩
  exact { h with
    accountIds := h.accountIds.map fun a => (keep a).1
    usernames := h.usernames.map fun a => (keep a).2
    linkedAccounts := h.linkedAccounts.map_target fun a => (keep a).1 }

theorem Consistent.finishSession (h : s.Consistent) (id : String) :
    (s.finishSession id).Consistent := by
  have keep : ∀ x : Session, (if x.id == id then { x with isFinished := true } else x).id = x.id ∧
      (if x.id == id then { x with isFinished := true } else x).terminalId = x.terminalId := by
    intro x
    split <;> exact ⟨rfl, rfl⟩
  exact { h with
    sessionIds := h.sessionIds.map fun x => (keep x).1
    sessionTerminals := h.sessionTerminals.map fun x => (keep x).2 }

/-- What refers to the terminals that are there refers to them still. -/
theorem Consistent.addTerminal (h : s.Consistent) {row : TerminalRow} (readable : row.Readable)
    (link : ∀ a, row.accountId = some a → ∀ other ∈ s.terminals, other.accountId ≠ some a)
    (id : ∀ other ∈ s.terminals, other.id ≠ row.id)
    (account : ∀ a, row.accountId = some a → ∃ x ∈ s.accounts, x.id = a) :
    Consistent { s with terminals := s.terminals ++ [row] } := by
  refine { h with
    terminalIds := h.terminalIds.append id
    terminalAccounts := h.terminalAccounts.append link
    linkedAccounts := h.linkedAccounts.append account
    servingTerminals := h.servingTerminals.append_target _
    reachingTerminals := h.reachingTerminals.append_target _
    sessionTerminals := h.sessionTerminals.append_target _
    terminalsReadable := ?_ }
  intro other hother
  rcases List.mem_append.mp hother with hother | hother
  · exact h.terminalsReadable other hother
  · rw [List.mem_singleton.mp hother]
    exact readable

/-- A new entry has a port that can be read back, and nothing else has its key. -/
theorem Consistent.addProtocol (h : s.Consistent) {name : ProtocolName} {port : UInt16}
    (port_pos : 1 ≤ port.toNat) (absent : s.protocolRow? name.toText port.toNat = none) :
    Consistent { s with
      protocols := s.protocols.insert fun id => ⟨id, name.toText, port.toNat, true⟩ } := by
  refine { h with
    catalogKeys := h.catalogKeys.append ?_
    servedProtocols := h.servedProtocols.append_target _
    catalogReadable := ?_
    catalogNumbers := ?_ }
  · -- a row for the same name and port would have been found
    intro p hp hkey
    have hnot := List.find?_eq_none.mp absent p hp
    obtain ⟨hname, hport⟩ := Prod.mk.inj hkey
    exact hnot (by simp [ProtocolRow.isFor, hname, hport])
  · intro p hp
    rcases List.mem_append.mp hp with hp | hp
    · exact h.catalogReadable p hp
    · rw [List.mem_singleton.mp hp]
      exact ProtocolRow.readable_mk _ name port_pos true
  · dsimp only
    exact h.catalogNumbers.insert fun _ => rfl

/-- A link has no key but itself, so a new one is enough for the keys to be unique. -/
theorem Consistent.serve (h : s.Consistent) {link : ProtocolLink}
    (fresh : link ∉ s.terminalProtocols)
    (terminal : ∃ row ∈ s.terminals, row.id = link.terminalId)
    (protocol : ∃ p ∈ s.protocols.rows, p.id = link.protocolId) :
    Consistent { s with terminalProtocols := s.terminalProtocols ++ [link] } := by
  refine { h with
    protocolLinks := h.protocolLinks.append_of_not_mem ?_ fresh
    servingTerminals := h.servingTerminals.append terminal
    servedProtocols := h.servedProtocols.append protocol }
  rintro ⟨_, _⟩ hkey
  cases hkey
  rfl

theorem Consistent.reach (h : s.Consistent) {link : DomainLink} (fresh : link ∉ s.terminalDomains)
    (terminal : ∃ row ∈ s.terminals, row.id = link.terminalId)
    (domain : ∃ d ∈ s.domains, d.id = link.domainId) :
    Consistent { s with terminalDomains := s.terminalDomains ++ [link] } := by
  refine { h with
    domainLinks := h.domainLinks.append_of_not_mem ?_ fresh
    reachingTerminals := h.reachingTerminals.append terminal
    reachedDomains := h.reachedDomains.append domain }
  rintro ⟨_, _⟩ hkey
  cases hkey
  rfl

/-- The number of a new platform is fresh by itself; its name must be. -/
theorem Consistent.addPlatform (h : s.Consistent) {name : String} (type : String)
    (fresh : ∀ p ∈ s.platforms.rows, p.name ≠ name) :
    Consistent { s with platforms := s.platforms.insert fun id => ⟨id, name, type⟩ } := by
  refine { h with
    platformNames := h.platformNames.append fresh
    offeringPlatforms := h.offeringPlatforms.append_target _
    assetPlatforms := h.assetPlatforms.append_target _
    platformNumbers := ?_ }
  dsimp only
  exact h.platformNumbers.insert fun _ => rfl

/-- A platform may gain a protocol of a name that it lacks. -/
theorem Consistent.addPlatformProtocol (h : s.Consistent) {new : NewPlatformProtocol}
    (absent : s.platformOffers new.platformId new.name = false)
    (platform : ∃ p ∈ s.platforms.rows, p.id = new.platformId) :
    Consistent { s with platformProtocols := s.platformProtocols.insert new.row } := by
  refine { h with
    platformOffers := h.platformOffers.append ?_
    offeringPlatforms := h.offeringPlatforms.append platform
    platformProtocolNumbers := h.platformProtocolNumbers.insert fun _ => rfl }
  intro p hp hkey
  obtain ⟨hplatform, hname⟩ := Prod.mk.inj hkey
  have hoffers := platformOffers_iff.mpr ⟨p, hp, hplatform, hname⟩
  exact Bool.false_ne_true (absent.symm.trans hoffers)

theorem Consistent.addAssetProtocol (h : s.Consistent) {new : NewAssetProtocol}
    (absent : s.assetOffers new.assetId new.name = false)
    (asset : ∃ a ∈ s.assets, a.id = new.assetId) :
    Consistent { s with assetProtocols := s.assetProtocols.insert new.row } := by
  refine { h with
    assetOffers := h.assetOffers.append ?_
    offeringAssets := h.offeringAssets.append asset
    assetProtocolNumbers := h.assetProtocolNumbers.insert fun _ => rfl }
  intro p hp hkey
  obtain ⟨hasset, hname⟩ := Prod.mk.inj hkey
  have hoffers := assetOffers_iff.mpr ⟨p, hp, hasset, hname⟩
  exact Bool.false_ne_true (absent.symm.trans hoffers)

/-- Every edit keeps the store consistent. -/
theorem Edit.consistent (e : Edit s s') (h : s.Consistent) : s'.Consistent := by
  cases e with
  | addAccount username id =>
      exact { h with
        accountIds := h.accountIds.append id
        usernames := h.usernames.append username
        linkedAccounts := h.linkedAccounts.append_target _ }
  | setAccountActive id active => exact h.setAccountActive id active
  | addSession id terminal =>
      exact { h with
        sessionIds := h.sessionIds.append id
        sessionTerminals := h.sessionTerminals.append terminal }
  | finishSession id => exact h.finishSession id
  | addTerminal readable _ link id account => exact h.addTerminal readable link id account
  | changeTerminal id change_eq =>
      refine h.updateTerminal id ?_ ?_ ?_
      · intro row
        obtain ⟨_, _, _, hrow⟩ := change_eq row
        rw [hrow]
      · intro row
        obtain ⟨_, _, _, hrow⟩ := change_eq row
        rw [hrow]
      · intro row hread
        obtain ⟨_, _, _, hrow⟩ := change_eq row
        rw [hrow]
        exact ⟨hread.type, hread.sshPort, hread.httpPort⟩
  | addProtocol port_pos absent => exact h.addProtocol port_pos absent
  -- a number that is lost is no row
  | skipProtocol => exact { h with catalogNumbers := h.catalogNumbers.skip }
  | serve fresh terminal protocol => exact h.serve fresh terminal protocol
  -- links are the last to refer, so they can go without a condition
  | unserve terminalId =>
      exact { h with
        protocolLinks := h.protocolLinks.filter _
        servingTerminals := h.servingTerminals.filter _
        servedProtocols := h.servedProtocols.filter _ }
  | addDomain name id =>
      exact { h with
        domainIds := h.domainIds.append id
        domainNames := h.domainNames.append name
        reachedDomains := h.reachedDomains.append_target _ }
  | reach fresh terminal domain => exact h.reach fresh terminal domain
  | unreach terminalId =>
      exact { h with
        domainLinks := h.domainLinks.filter _
        reachingTerminals := h.reachingTerminals.filter _
        reachedDomains := h.reachedDomains.filter _ }
  | addBackend kind name id => exact h.addBackend kind name id
  | addPlatform type fresh => exact h.addPlatform type fresh
  | addPlatformProtocol absent platform => exact h.addPlatformProtocol absent platform
  | skipPlatformProtocol =>
      exact { h with platformProtocolNumbers := h.platformProtocolNumbers.skip }
  | addAsset id platform =>
      exact { h with
        assetIds := h.assetIds.append id
        assetPlatforms := h.assetPlatforms.append platform
        offeringAssets := h.offeringAssets.append_target _ }
  | addAssetProtocol absent asset => exact h.addAssetProtocol absent asset
  | skipAssetProtocol => exact { h with assetProtocolNumbers := h.assetProtocolNumbers.skip }
  | setLock locked => exact { h with }

/-- The deletion of a terminal keeps the store consistent: no other terminal has its account. -/
theorem Consistent.retire (h : s.Consistent) {row : TerminalRow} (hrow : row ∈ s.terminals) :
    (s.retire row.id row.accountId).Consistent := by
  have hid : ∀ r : TerminalRow, (if r.id == row.id then
      { r with accountId := none, isDeleted := true } else r).id = r.id := by
    intro r
    split <;> rfl
  refine { h with
    accountIds := h.accountIds.filter _
    usernames := h.usernames.filter _
    terminalIds := h.terminalIds.map hid
    terminalAccounts := h.terminalAccounts.map ?_
    linkedAccounts := ?_
    servingTerminals := h.servingTerminals.map_target hid
    reachingTerminals := h.reachingTerminals.map_target hid
    sessionTerminals := h.sessionTerminals.map_target hid
    terminalsReadable := ?_ }
  · intro r
    split
    · exact Or.inr rfl
    · exact Or.inl rfl
  · intro r hr a ha
    obtain ⟨r₀, hr₀, rfl⟩ := List.mem_map.mp hr
    by_cases hr₀id : r₀.id = row.id
    · simp [hr₀id] at ha
    · have ha₀ : r₀.accountId = some a := by simpa [hr₀id] using ha
      obtain ⟨x, hx, hxa⟩ := h.linkedAccounts r₀ hr₀ a ha₀
      refine ⟨x, List.mem_filter.mpr ⟨hx, ?_⟩, hxa⟩
      -- two rows with this account would be one row
      have hne : row.accountId ≠ some x.id := by
        intro hlink
        rw [hxa] at hlink
        exact hr₀id (congrArg TerminalRow.id (h.terminalAccounts.eq_of_mem hr₀ hrow ha₀ hlink))
      simpa using hne
  · intro r hr
    obtain ⟨r₀, hr₀, rfl⟩ := List.mem_map.mp hr
    have hread := h.terminalsReadable r₀ hr₀
    split
    · exact ⟨hread.type, hread.sshPort, hread.httpPort⟩
    · exact hread

/-! ## Numbered tables -/

/-- Nothing in the numbered tables was changed or removed. -/
structure Extends (s s' : Store) : Prop where
  protocols : s.protocols.Extends s'.protocols
  platforms : s.platforms.Extends s'.platforms
  platformProtocols : s.platformProtocols.Extends s'.platformProtocols
  assetProtocols : s.assetProtocols.Extends s'.assetProtocols

theorem Extends.refl (s : Store) : s.Extends s := ⟨.refl _, .refl _, .refl _, .refl _⟩

/-- What only grows in each of two steps only grows in both. -/
theorem Extends.trans {s'' : Store} (h : s.Extends s') (h' : s'.Extends s'') : s.Extends s'' where
  protocols := h.protocols.trans h'.protocols
  platforms := h.platforms.trans h'.platforms
  platformProtocols := h.platformProtocols.trans h'.platformProtocols
  assetProtocols := h.assetProtocols.trans h'.assetProtocols

/-- Each edit concerns at most one of these tables, and adds to it. -/
theorem Edit.toExtends (e : Edit s s') : s.Extends s' := by
  cases e with
  | addProtocol =>
      refine { Extends.refl s with protocols := ?_ }
      dsimp only
      exact .insert s.protocols _
  | skipProtocol => exact { Extends.refl s with protocols := .skip _ }
  | addPlatform =>
      refine { Extends.refl s with platforms := ?_ }
      dsimp only
      exact .insert s.platforms _
  | addPlatformProtocol => exact { Extends.refl s with platformProtocols := .insert _ _ }
  | skipPlatformProtocol => exact { Extends.refl s with platformProtocols := .skip _ }
  | addAssetProtocol => exact { Extends.refl s with assetProtocols := .insert _ _ }
  | skipAssetProtocol => exact { Extends.refl s with assetProtocols := .skip _ }
  | addBackend kind => cases kind <;> exact { Extends.refl s with }
  | _ => exact { Extends.refl s with }

end Store
end GatewayRegistry
