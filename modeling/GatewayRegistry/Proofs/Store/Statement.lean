import GatewayRegistry.Proofs.Except
import GatewayRegistry.Store.Backends
import GatewayRegistry.Store.Maintenance
import GatewayRegistry.Store.Platforms

/-!
# When statements succeed, and what they write

One lemma for each statement that changes the store: it succeeds exactly under the conditions that
the tables put on it, and then the store is the old one with one table changed. What is proved
about calls later on uses these lemmas and never opens a statement.
-/

namespace GatewayRegistry

/-- The database asks whether some row has a key; proofs reason about such a row. -/
theorem any_key_iff {α κ : Type} [DecidableEq κ] {key : α → κ} {rows : List α} {k : κ} :
    rows.any (fun x => key x == k) = true ↔ ∃ x ∈ rows, key x = k := by
  simp

/-! ## Rows of new protocols -/

/-- The row that a new protocol of a platform becomes under a number. -/
def NewPlatformProtocol.row (new : NewPlatformProtocol) (id : Int) : PlatformProtocol where
  id := id
  platformId := new.platformId
  name := new.name
  port := new.port
  isPrimary := new.isPrimary
  isRequired := new.isRequired
  isDefault := new.isDefault
  isPublic := new.isPublic
  setting := new.setting

/-- The row that a new protocol of an asset becomes under a number. -/
def NewAssetProtocol.row (new : NewAssetProtocol) (id : Int) : AssetProtocol :=
  ⟨id, new.assetId, new.name, new.port⟩

namespace Store

variable {s s' : Store}

theorem hasAccount_iff {id : String} : s.hasAccount id = true ↔ ∃ a ∈ s.accounts, a.id = id :=
  any_key_iff

theorem hasTerminal_iff {id : String} :
    s.hasTerminal id = true ↔ ∃ row ∈ s.terminals, row.id = id :=
  any_key_iff

theorem hasProtocol_iff {id : Int} : s.hasProtocol id = true ↔ ∃ p ∈ s.protocols.rows, p.id = id :=
  any_key_iff

theorem hasDomain_iff {id : String} : s.hasDomain id = true ↔ ∃ d ∈ s.domains, d.id = id :=
  any_key_iff

theorem hasPlatform_iff {id : Int} : s.hasPlatform id = true ↔ ∃ p ∈ s.platforms.rows, p.id = id :=
  any_key_iff

theorem hasAsset_iff {id : String} : s.hasAsset id = true ↔ ∃ a ∈ s.assets, a.id = id :=
  any_key_iff

/-! ## Accounts and sessions -/

/-- The primary key and the unique name of an account. -/
theorem insertAccount_eq_ok_iff {a : Account} :
    s.insertAccount a = .ok s' ↔
      (∀ b ∈ s.accounts, b.username ≠ a.username) ∧ (∀ b ∈ s.accounts, b.id ≠ a.id) ∧
        { s with accounts := s.accounts ++ [a] } = s' := by
  simp only [insertAccount, refused_eq_ok_iff, hasAccount_iff, any_key_iff, not_exists, not_and,
    ne_eq, Except.ok.injEq]

/-- The flag can be set on an account that is there, and on no other. -/
theorem updateAccountActive_eq_ok_iff {id : String} {active : Bool} :
    s.updateAccountActive id active = .ok s' ↔
      (∃ a ∈ s.accounts, a.id = id) ∧
        { s with accounts := s.accounts.map fun a =>
          if a.id == id then { a with isActive := active } else a } = s' := by
  rw [updateAccountActive, ← hasAccount_iff]
  cases s.hasAccount id <;> simp

/-- An account that is not there is deleted like one that nothing holds back. -/
theorem deleteAccount_eq (id : String) :
    s.deleteAccount id =
      if s.hasAccount id && s.accountsLocked then .error (.rejected .accountLocked)
      else if s.hasAccount id && s.terminals.any (·.accountId == some id) then
        .error (.rejected .dangling)
      else .ok { s with accounts := s.accounts.filter (·.id != id) } := by
  rw [deleteAccount]
  cases hid : s.hasAccount id with
  | true => simp
  | false =>
      -- without an account of this id there is nothing to filter out
      have hkeep : s.accounts.filter (·.id != id) = s.accounts := by
        rw [List.filter_eq_self]
        intro a ha
        have hne : a.id ≠ id := by
          intro he
          rw [hasAccount_iff.mpr ⟨a, ha, he⟩] at hid
          cases hid
        simpa using hne
      simp [hkeep]

theorem insertSession_eq_ok_iff {x : Session} :
    s.insertSession x = .ok s' ↔
      (∀ y ∈ s.sessions, y.id ≠ x.id) ∧ (∃ row ∈ s.terminals, row.id = x.terminalId) ∧
        { s with sessions := s.sessions ++ [x] } = s' := by
  simp only [insertSession, refused_eq_ok_iff, any_key_iff, Bool.not_eq_true', Bool.not_eq_false,
    hasTerminal_iff, not_exists, not_and, ne_eq, Except.ok.injEq]

/-! ## Terminals

A deletion is the one statement that touches two tables: it marks the row of the terminal, takes the
account away from it (`markDeleted`) and removes the account. The foreign key is checked after the
mark, so the row that is deleted does not hold its own account back; only another terminal with the
same account could. -/

/-- The row is refused if its account is linked already, its id is taken, or its account is not
there, in this order. -/
theorem insertTerminal_eq_ok_iff {row : TerminalRow} :
    s.insertTerminal row = .ok s' ↔
      (∀ a, row.accountId = some a → ∀ other ∈ s.terminals, other.accountId ≠ some a) ∧
        (∀ other ∈ s.terminals, other.id ≠ row.id) ∧
        (∀ a, row.accountId = some a → ∃ x ∈ s.accounts, x.id = a) ∧
        { s with terminals := s.terminals ++ [row] } = s' := by
  simp only [insertTerminal, refused_eq_ok_iff, hasTerminal_iff, not_exists, not_and, ne_eq,
    Except.ok.injEq]
  cases row.accountId with
  | none => simp
  | some a => simp [hasAccount_iff]

/-- A change that leaves the keys alone can be made to any row that is there. -/
theorem changeTerminal_eq_ok_iff {id : String} {change : TerminalRow → TerminalRow} :
    s.changeTerminal id change = .ok s' ↔
      (∃ row ∈ s.terminals, row.id = id) ∧ s.updateTerminal id change = s' := by
  rw [changeTerminal, ← hasTerminal_iff]
  cases s.hasTerminal id <;> simp

/-- The store after a terminal was marked as deleted and its account was taken away from it. -/
def markDeleted (s : Store) (id : String) : Store :=
  s.updateTerminal id fun row => { row with accountId := none, isDeleted := true }

/-- The store after a terminal was deleted together with the account it had. -/
def retire (s : Store) (id : String) (accountId : Option String) : Store :=
  { s.markDeleted id with accounts := s.accounts.filter fun a => accountId != some a.id }

/-- After the mark, an account is linked exactly if a terminal other than the marked one has it. -/
theorem any_link_markDeleted (id accountId : String) :
    (s.markDeleted id).terminals.any (·.accountId == some accountId) =
      s.terminals.any fun other => other.id != id && other.accountId == some accountId := by
  show (s.terminals.map _).any _ = _
  rw [List.any_map]
  congr 1
  funext other
  by_cases hid : other.id = id
  · simp [hid]
  · simp [hid]

/-- The row of a terminal, the account it links and the lock decide what a deletion does. -/
theorem softDelete_eq {id : String} {row : TerminalRow} (hrow : s.terminalRow? id = some row) :
    s.softDelete id =
      if row.accountId.any s.hasAccount && s.accountsLocked then .error (.rejected .accountLocked)
      else if row.accountId.any s.hasAccount &&
          s.terminals.any (fun other => other.id != id && other.accountId == row.accountId) then
        .error (.rejected .dangling)
      else .ok (row.accountId, s.retire id row.accountId) := by
  rw [softDelete, hrow]
  cases hacc : row.accountId with
  | none =>
      have hall : s.accounts.filter (fun a => none != some a.id) = s.accounts := by
        rw [List.filter_eq_self]
        intro a _
        rfl
      simp only [hacc, Option.any_none, Bool.false_and, Bool.false_eq_true, ↓reduceIte, retire, hall]
      rfl
  | some a =>
      -- the two ways to say which accounts stay
      have hgone : s.accounts.filter (fun b => some a != some b.id) =
          s.accounts.filter (·.id != a) := by
        apply List.filter_congr
        intro b _
        rw [bne_comm]
        rfl
      -- the account is deleted from a store in which the terminal is marked already
      have hdel := deleteAccount_eq (s := s.markDeleted id) a
      rw [any_link_markDeleted] at hdel
      have hhas : (s.markDeleted id).hasAccount a = s.hasAccount a := rfl
      have hlock : (s.markDeleted id).accountsLocked = s.accountsLocked := rfl
      rw [hhas, hlock] at hdel
      simp only [hacc, Option.any_some, retire, hgone]
      show (do return (some a, ← (s.markDeleted id).deleteAccount a)) = _
      rw [hdel]
      split
      · rfl
      · split
        · rfl
        · rfl

/-- Where no row has the id, the deletion says so. -/
theorem softDelete_of_absent {id : String} (h : s.terminalRow? id = none) :
    s.softDelete id = .error (.notFound (.terminal id)) := by
  rw [softDelete, h]

/-- A deletion that succeeds has found the row, answers with the account that was in it, and retires
the terminal. -/
theorem eq_retire_of_softDelete {id : String} {account : Option String}
    (h : s.softDelete id = .ok (account, s')) :
    ∃ row, s.terminalRow? id = some row ∧ row.accountId = account ∧ s.retire id account = s' := by
  cases hrow : s.terminalRow? id with
  | none =>
      rw [softDelete_of_absent hrow] at h
      cases h
  | some row =>
      rw [softDelete_eq hrow, refused_eq_ok_iff, refused_eq_ok_iff] at h
      obtain ⟨-, -, hok⟩ := h
      cases hok
      exact ⟨row, rfl, rfl, rfl⟩

/-! ## The catalog and domains -/

/-- The port is the only thing that can be wrong. An entry that is there already is passed over, and
a number is lost on it. -/
theorem insertProtocolIfAbsent_eq_ok_iff {name : String} {port : Int} {builtin : Bool} :
    s.insertProtocolIfAbsent name port builtin = .ok s' ↔
      (1 ≤ port ∧ port ≤ 65535) ∧
        (if (s.protocolRow? name port).isSome then { s with protocols := s.protocols.skip }
          else { s with protocols := s.protocols.insert fun id => ⟨id, name, port, builtin⟩ }) = s' := by
  rw [insertProtocolIfAbsent, refused_eq_ok_iff]
  have hport : ¬(port < 1 ∨ 65535 < port) ↔ 1 ≤ port ∧ port ≤ 65535 := by omega
  rw [hport]
  cases (s.protocolRow? name port).isSome <;> simp

/-- A link that is there is passed over before its foreign keys are looked at. -/
theorem insertProtocolLink_eq_ok_iff {link : ProtocolLink} :
    s.insertProtocolLink link = .ok s' ↔
      link ∈ s.terminalProtocols ∧ s = s' ∨
        link ∉ s.terminalProtocols ∧ (∃ row ∈ s.terminals, row.id = link.terminalId) ∧
          (∃ p ∈ s.protocols.rows, p.id = link.protocolId) ∧
          { s with terminalProtocols := s.terminalProtocols ++ [link] } = s' := by
  rw [insertProtocolLink, ← hasTerminal_iff, ← hasProtocol_iff]
  by_cases hlink : link ∈ s.terminalProtocols
  · simp [hlink]
  · simp [hlink, refused_eq_ok_iff, and_assoc]

/-- The primary key and the unique name of a domain. -/
theorem insertDomain_eq_ok_iff {d : Domain} :
    s.insertDomain d = .ok s' ↔
      (∀ e ∈ s.domains, e.name ≠ d.name) ∧ (∀ e ∈ s.domains, e.id ≠ d.id) ∧
        { s with domains := s.domains ++ [d] } = s' := by
  simp only [insertDomain, refused_eq_ok_iff, hasDomain_iff, any_key_iff, not_exists, not_and,
    ne_eq, Except.ok.injEq]

theorem insertDomainLink_eq_ok_iff {link : DomainLink} :
    s.insertDomainLink link = .ok s' ↔
      link ∈ s.terminalDomains ∧ s = s' ∨
        link ∉ s.terminalDomains ∧ (∃ row ∈ s.terminals, row.id = link.terminalId) ∧
          (∃ d ∈ s.domains, d.id = link.domainId) ∧
          { s with terminalDomains := s.terminalDomains ++ [link] } = s' := by
  rw [insertDomainLink, ← hasTerminal_iff, ← hasDomain_iff]
  by_cases hlink : link ∈ s.terminalDomains
  · simp [hlink]
  · simp [hlink, refused_eq_ok_iff, and_assoc]

/-! ## Backends -/

/-- The unique name and the primary key of a backend, in its own table. -/
theorem insertBackend_eq_ok_iff {kind : BackendKind} {b : StorageBackend} :
    s.insertBackend kind b = .ok s' ↔
      (∀ c ∈ s.backends kind, c.name ≠ b.name) ∧ (∀ c ∈ s.backends kind, c.id ≠ b.id) ∧
        s.setBackends kind (s.backends kind ++ [b]) = s' := by
  simp only [insertBackend, refused_eq_ok_iff, any_key_iff, not_exists, not_and, ne_eq,
    Except.ok.injEq]

/-! ## Platforms and assets

Protocols are inserted row by row, each with `INSERT OR IGNORE`: the answer is whether the row was
inserted. A row whose key is taken is passed over at the price of a number, even if its owner is
unknown; for the others the owner must be there. -/

/-- The name is unique; the id is the next number. -/
theorem insertPlatform_eq_ok_iff {name type : String} {n : Int} :
    s.insertPlatform name type = .ok (n, s') ↔
      (∀ p ∈ s.platforms.rows, p.name ≠ name) ∧ s.platforms.nextId = n ∧
        { s with platforms := s.platforms.insert fun id => ⟨id, name, type⟩ } = s' := by
  simp only [insertPlatform, refused_eq_ok_iff, any_key_iff, not_exists, not_and, ne_eq,
    Except.ok.injEq, Prod.mk.injEq]

/-- An asset needs an id of its own and the platform it is on. -/
theorem insertAsset_eq_ok_iff {a : Asset} :
    s.insertAsset a = .ok s' ↔
      (∀ b ∈ s.assets, b.id ≠ a.id) ∧ (∃ p ∈ s.platforms.rows, p.id = a.platformId) ∧
        { s with assets := s.assets ++ [a] } = s' := by
  simp only [insertAsset, refused_eq_ok_iff, hasAsset_iff, Bool.not_eq_true', Bool.not_eq_false,
    hasPlatform_iff, not_exists, not_and, ne_eq, Except.ok.injEq]

theorem platformOffers_iff {platformId : Int} {name : String} :
    s.platformOffers platformId name = true ↔
      ∃ p ∈ s.platformProtocols.rows, p.platformId = platformId ∧ p.name = name := by
  simp [platformOffers]

theorem assetOffers_iff {assetId name : String} :
    s.assetOffers assetId name = true ↔
      ∃ p ∈ s.assetProtocols.rows, p.assetId = assetId ∧ p.name = name := by
  simp [assetOffers]

theorem insertPlatformProtocol_eq_ok_iff {new : NewPlatformProtocol} {n : Nat} :
    s.insertPlatformProtocol new = .ok (n, s') ↔
      s.platformOffers new.platformId new.name = true ∧ 0 = n ∧
          { s with platformProtocols := s.platformProtocols.skip } = s' ∨
        s.platformOffers new.platformId new.name = false ∧
          (∃ p ∈ s.platforms.rows, p.id = new.platformId) ∧ 1 = n ∧
          { s with platformProtocols := s.platformProtocols.insert new.row } = s' := by
  rw [insertPlatformProtocol, ← hasPlatform_iff]
  cases s.platformOffers new.platformId new.name with
  | true => simp
  | false =>
      simp only [Bool.false_eq_true, ↓reduceIte, refused_eq_ok_iff, Bool.not_eq_true',
        Bool.not_eq_false, Except.ok.injEq, Prod.mk.injEq, false_and, true_and, false_or]
      exact Iff.rfl

theorem insertAssetProtocol_eq_ok_iff {new : NewAssetProtocol} {n : Nat} :
    s.insertAssetProtocol new = .ok (n, s') ↔
      s.assetOffers new.assetId new.name = true ∧ 0 = n ∧
          { s with assetProtocols := s.assetProtocols.skip } = s' ∨
        s.assetOffers new.assetId new.name = false ∧
          (∃ a ∈ s.assets, a.id = new.assetId) ∧ 1 = n ∧
          { s with assetProtocols := s.assetProtocols.insert new.row } = s' := by
  rw [insertAssetProtocol, ← hasAsset_iff]
  cases s.assetOffers new.assetId new.name with
  | true => simp
  | false =>
      simp only [Bool.false_eq_true, ↓reduceIte, refused_eq_ok_iff, Bool.not_eq_true',
        Bool.not_eq_false, Except.ok.injEq, Prod.mk.injEq, false_and, true_and, false_or]
      exact Iff.rfl

/-! ## The lock -/

theorem lockAccounts_eq_ok_iff :
    s.lockAccounts = .ok s' ↔ s.accountsLocked = false ∧ { s with accountsLocked := true } = s' := by
  simp only [lockAccounts, refused_eq_ok_iff, Bool.not_eq_true, Except.ok.injEq]

theorem unlockAccounts_eq_ok_iff :
    s.unlockAccounts = .ok s' ↔ s.accountsLocked = true ∧ { s with accountsLocked := false } = s' := by
  rw [unlockAccounts]
  cases s.accountsLocked <;> simp

end Store
end GatewayRegistry
