import GatewayRegistry.Proofs.Runs.Copies
import GatewayRegistry.Proofs.Runs.Deletion
import GatewayRegistry.Proofs.Runs.Views

/-!
# Copies of deleted terminals

A copy may be older than the deletion of its terminal, and then it still names the account that was
removed with it. As long as no account is given an id that another one had, that account is gone
for good (`Handed.account_linked_or_gone`), and whatever the copy says, it does not bring the
terminal back.
-/

namespace GatewayRegistry

/-! ## Accounts that are gone

An account is gone if it was there at some time and is not there now. Ids of accounts are chosen by
the caller; if none is chosen twice, an account that is gone stays gone. -/

namespace Deployment

def accountIds (d : Deployment) : List String := d.database.store.accounts.map (·.id)

/-- At some point of a run an account had an id. -/
def Had (start : Deployment) (requests : List Registry.Request) (id : String) : Prop :=
  ∃ past, past <+: requests ∧ id ∈ (start.after past).accountIds

/-- No request of a run adds an account under an id that an account had before. -/
def AccountsNeverReused (start : Deployment) (requests : List Registry.Request) : Prop :=
  ∀ earlier request, earlier ++ [request] <+: requests → ∀ id, start.Had earlier id →
    id ∈ (start.after (earlier ++ [request])).accountIds → id ∈ (start.after earlier).accountIds

/-- An account had an id, and none has it any more. -/
def Gone (start : Deployment) (requests : List Registry.Request) (id : String) : Prop :=
  start.Had requests id ∧ id ∉ (start.after requests).accountIds

variable {start : Deployment} {requests : List Registry.Request} {request : Registry.Request}
  {t : Terminal} {id : String}

theorem Had.later (h : start.Had requests id) (request : Registry.Request) :
    start.Had (requests ++ [request]) id := by
  obtain ⟨past, hpast, hid⟩ := h
  exact ⟨past, hpast.trans (List.prefix_append _ _), hid⟩

namespace AccountsNeverReused

theorem nil (start : Deployment) : start.AccountsNeverReused [] := by
  intro earlier request hinitial
  simp at hinitial

/-- One more request, which brings back no account. -/
theorem snoc (h : start.AccountsNeverReused requests)
    (hnew : ∀ id, start.Had requests id → id ∈ (start.after (requests ++ [request])).accountIds →
      id ∈ (start.after requests).accountIds) :
    start.AccountsNeverReused (requests ++ [request]) := by
  intro earlier request' hinitial
  rcases List.prefix_concat_iff.mp hinitial with heq | hinitial
  · obtain ⟨rfl, hlast⟩ := List.append_inj' heq rfl
    obtain rfl : request' = request := by simpa using hlast
    exact hnew
  · exact h earlier request' hinitial

/-- The beginning of a run in which no account comes back is one too. -/
theorem earlier (h : start.AccountsNeverReused (requests ++ [request])) :
    start.AccountsNeverReused requests := by
  intro earlier request hinitial
  exact h earlier request (hinitial.trans (List.prefix_append _ _))

end AccountsNeverReused

/-- An account that is gone stays gone. -/
theorem Gone.later (h : start.Gone requests id)
    (hreuse : start.AccountsNeverReused (requests ++ [request])) :
    start.Gone (requests ++ [request]) id := by
  obtain ⟨hhad, hgone⟩ := h
  refine ⟨hhad.later request, fun hback => hgone ?_⟩
  exact hreuse requests request List.prefix_rfl id hhad hback

/-- A terminal that loses its account in a request leaves it gone. -/
theorem linked_or_gone_later (fresh : start.Fresh) {row row' : TerminalRow}
    (hrow : row ∈ (start.after requests).database.store.terminals)
    (hrow' : row' ∈ (start.after (requests ++ [request])).database.store.terminals)
    (hid : row'.id = row.id) {a : String} (ha : row.accountId = some a) :
    row'.accountId = some a ∨ start.Gone (requests ++ [request]) a := by
  have hreachable := fresh.reachable requests
  have hafter := after_snoc start requests request
  rw [hafter] at hrow'
  rcases hreachable.accountId_run request.2 hrow hrow' hid with hsame | ⟨_, _, _, hremoved⟩
  · exact .inl (hsame.trans ha)
  -- the link is lost by the deletion that removes the account
  · obtain ⟨x, hx, hxa⟩ := hreachable.consistent.linkedAccounts row hrow a ha
    refine .inr ⟨⟨requests, List.prefix_append _ _, ?_⟩, ?_⟩
    · exact List.mem_map.mpr ⟨x, hx, hxa⟩
    · rw [hafter]
      intro hback
      obtain ⟨y, hy, hya⟩ := List.mem_map.mp hback
      exact hremoved y hy (by rw [ha, hya])

/-- The account that a copy names is still that of the row, or it is gone. -/
theorem Handed.account_linked_or_gone (h : start.Handed requests t) (fresh : start.Fresh)
    (hreuse : start.AccountsNeverReused requests) {a : String} (ha : t.accountId = some a) :
    ∃ row ∈ (start.after requests).database.store.terminals, row.id = t.id ∧
      (row.accountId = some a ∨ start.Gone requests a) := by
  -- by induction over how the copy was come by, for all accounts at once
  revert a
  refine h.induction (P := fun requests t => start.AccountsNeverReused requests →
    ∀ {a : String}, t.accountId = some a →
      ∃ row ∈ (start.after requests).database.store.terminals, row.id = t.id ∧
        (row.accountId = some a ∨ start.Gone requests a)) fresh ?_ ?_ ?_ hreuse
  -- a copy of a row has the account of the row
  · intro requests row hrow _ a ha
    exact ⟨row, hrow, rfl, .inl ha⟩
  · intro requests t₀ t ih hid haccount hreuse a ha
    have ha₀ : t₀.accountId = some a := by
      rcases haccount with hsame | hnone
      · exact hsame.symm.trans ha
      · rw [hnone] at ha
        cases ha
    obtain ⟨row, hrow, hrowid, hlinked⟩ := ih hreuse ha₀
    exact ⟨row, hrow, hrowid.trans hid.symm, hlinked⟩
  · intro requests request t ih hreuse a ha
    obtain ⟨row, hrow, hid, hlinked⟩ := ih hreuse.earlier ha
    obtain ⟨row', hrow', hcontinues⟩ := (leadsTo_snoc start requests request).continues hrow
    refine ⟨row', hrow', hcontinues.id.trans hid, ?_⟩
    rcases hlinked with hlinked | hgone
    · exact linked_or_gone_later fresh hrow hrow' hcontinues.id hlinked
    · exact .inr (hgone.later hreuse)

/-- Once a terminal is deleted, the account that a copy names is not there. -/
theorem Handed.account_absent (h : start.Handed requests t) (fresh : start.Fresh)
    (hreuse : start.AccountsNeverReused requests) {row : TerminalRow}
    (hrow : row ∈ (start.after requests).database.store.terminals) (hid : row.id = t.id)
    (hdeleted : row.isDeleted = true) {a : String} (ha : t.accountId = some a) :
    (start.after requests).database.store.account? a = none := by
  have hreachable := fresh.reachable requests
  obtain ⟨row', hrow', hid', hlinked⟩ := h.account_linked_or_gone fresh hreuse ha
  obtain rfl : row' = row := hreachable.consistent.eq_of_id hrow hrow' (hid'.trans hid.symm)
  -- a deleted row links no account, so the account of the copy is gone
  rcases hlinked with hlinked | ⟨_, hgone⟩
  · rw [hreachable.deletedUnlinked row' hrow hdeleted] at hlinked
    cases hlinked
  · unfold Store.account?
    rw [List.find?_eq_none]
    intro x hx hxa
    exact hgone (List.mem_map.mpr ⟨x, hx, by simpa using hxa⟩)

end Deployment

/-! ## Operations on such copies

Nothing that a copy of a deleted terminal is good for finds its account: it is not active, it cannot
be switched, and a second deletion has nothing left to do. -/

namespace Registry

variable {d : Deployment} {t : Terminal}

/-- An account that is not there is not active. -/
theorem isActive_of_absent (hopen : d.database.isOpen = true)
    (habsent : ∀ a, t.accountId = some a → d.database.store.account? a = none) :
    isActive t d = (.ok false, d) := by
  rw [isActive_ok hopen]
  unfold Store.accountActive
  cases ha : t.accountId with
  | none => rfl
  | some a => simp [habsent a ha]

/-- The cache is not asked. -/
theorem statusLabel_of_absent (hopen : d.database.isOpen = true)
    (habsent : ∀ a, t.accountId = some a → d.database.store.account? a = none) :
    statusLabel t d = (.ok (.ofFlags ⟨t.isAccepted, t.isDeleted, false, false⟩), d) := by
  rw [statusLabel_eq_ofAnswers, isActive_of_absent hopen habsent, StatusLabel.ofAnswers_of_inactive]

/-- An account that is not there cannot be switched. -/
theorem setActive_of_absent (hopen : d.database.isOpen = true) {a : String}
    (ha : t.accountId = some a)
    (habsent : d.database.store.account? a = none) (enabled : Bool) :
    setActive t enabled d = (.error (.notFound (.account a)), d) := by
  have hmissing : d.database.store.hasAccount a = false := by
    simpa [Store.account?, Store.hasAccount] using habsent
  have hrefused : d.database.store.updateAccountActive a enabled = .error (.notFound (.account a)) := by
    simp [Store.updateAccountActive, hmissing]
  unfold setActive
  rw [ha]
  exact storeCall_error (Database.execute_error hopen hrefused)

end Registry

/-- The deletion of a terminal that is deleted already. -/
theorem Store.Consistent.retire_deleted {s : Store} (hs : s.Consistent)
    (hunlinked : s.DeletedUnlinked)
    {row : TerminalRow} (hrow : row ∈ s.terminals) (hdeleted : row.isDeleted = true) :
    s.retire row.id row.accountId = s := by
  have hnone := hunlinked row hrow hdeleted
  -- the row has its mark and no account already
  have hterminals : s.terminals.map (fun other =>
      if other.id == row.id then { other with accountId := none, isDeleted := true } else other) =
        s.terminals := by
    refine (List.map_congr_left ?_).trans (List.map_id _)
    intro other hother
    by_cases hid : other.id = row.id
    · obtain rfl := hs.eq_of_id hrow hother hid
      rw [if_pos (beq_self_eq_true _), id, ← hnone, ← hdeleted]
    · simp [hid]
  have haccounts : s.accounts.filter (fun a => row.accountId != some a.id) = s.accounts := by
    rw [List.filter_eq_self]
    intro a _
    rw [hnone]
    rfl
  unfold Store.retire Store.markDeleted Store.updateTerminal
  rw [hterminals, haccounts]

namespace Deployment

/-- As long as no account is given an id that another one had, a copy that was handed out in a run
does not bring back a terminal that was deleted since: it is not active, its label says so whatever
the cache holds, its account can neither be enabled nor disabled, and to delete it once more changes
nothing. -/
theorem stale_copy_harmless (start : Deployment) (fresh : start.Fresh)
    (requests : List Registry.Request) (hreuse : start.AccountsNeverReused requests) (t : Terminal)
    (handed : start.Handed requests t) (hopen : (start.after requests).database.isOpen = true)
    (row : TerminalRow) (hrow : row ∈ (start.after requests).database.store.terminals)
    (hid : row.id = t.id) (hdeleted : row.isDeleted = true) :
    let d := start.after requests
    Registry.isActive t d = (.ok false, d) ∧
    (∃ label, Registry.statusLabel t d = (.ok label, d) ∧
      (label = .notAccepted ∨ label = .deleted ∨ label = .disabled)) ∧
    (∀ enabled, Registry.setActive t enabled d =
      match t.accountId with
      | none => (.ok (), d)
      | some a => (.error (.notFound (.account a)), d)) ∧
    Registry.delete ⟨d, t⟩ = (.ok (), ⟨d, { t with accountId := none, isDeleted := true }⟩) := by
  intro d
  have hreachable := fresh.reachable requests
  have habsent : ∀ a, t.accountId = some a → d.database.store.account? a = none := fun a ha =>
    handed.account_absent fresh hreuse hrow hid hdeleted ha
  refine ⟨Registry.isActive_of_absent hopen habsent,
    ⟨_, Registry.statusLabel_of_absent hopen habsent, ?_⟩, ?_, ?_⟩
  -- a terminal without an active account is not accepted, deleted or disabled
  · cases t.isAccepted <;> cases t.isDeleted <;> simp [StatusLabel.ofFlags]
  · intro enabled
    split
    · next hnone =>
        unfold Registry.setActive
        rw [hnone]
        rfl
    · next a ha => exact Registry.setActive_of_absent hopen ha (habsent a ha) enabled
  · have hs := hreachable.consistent
    have hfound := hs.terminalRow?_eq_some_iff.mpr ⟨hrow, hid⟩
    have hunlinked := hreachable.deletedUnlinked
    have hfree : (row.accountId.isSome && d.database.store.accountsLocked) = false := by
      rw [hunlinked row hrow hdeleted]
      rfl
    rw [Registry.delete_present hs hopen hfound hfree, ← hid,
      hs.retire_deleted hunlinked hrow hdeleted]

/-- A copy of a terminal that was accepted and sent a heartbeat before it was deleted. -/
theorem stale_copy_harmless_of_online :
    let d := ({} : Deployment).after [registration, ⟨_, .accept newcomer⟩, ⟨_, .setAlive "t" 1000⟩,
      ⟨_, .store (.softDelete "t")⟩]
    d.cache.isAlive "t" = .ok true ∧
      Registry.isActive { newcomer with isAccepted := true } d = (.ok false, d) ∧
      Registry.setActive { newcomer with isAccepted := true } true d =
        (.error (.notFound (.account "a")), d) := by
  have haccepted : ({} : Deployment).Handed ([registration] ++ [⟨_, .accept newcomer⟩])
      { newcomer with isAccepted := true } := by
    refine .answer ?_ rfl List.mem_cons_self
    intro t hsource
    obtain rfl := Option.some.inj hsource
    exact newcomer_handed
  have hreuse : ({} : Deployment).AccountsNeverReused
      ((([] ++ [registration] ++ [⟨_, .accept newcomer⟩]) ++ [⟨_, .setAlive "t" 1000⟩]) ++
        [⟨_, .store (.softDelete "t")⟩]) := by
    refine .snoc (.snoc (.snoc (.snoc (.nil _) ?_) ?_) ?_) ?_
    · rintro id ⟨past, hpast, hid⟩ _
      rw [List.prefix_nil.mp hpast] at hid
      exact hid
    -- the account is there before and after the next two requests, and gone after the last one
    · intro id _ hid
      exact hid
    · intro id _ hid
      exact hid
    · intro id _ hid
      exact absurd hid List.not_mem_nil
  have h := stale_copy_harmless {} ⟨rfl, rfl⟩ [registration, ⟨_, .accept newcomer⟩,
    ⟨_, .setAlive "t" 1000⟩, ⟨_, .store (.softDelete "t")⟩] hreuse { newcomer with isAccepted := true }
    (.later ⟨_, .store (.softDelete "t")⟩ (.later ⟨_, .setAlive "t" 1000⟩ haccepted)) rfl
    { TerminalRow.ofNew "t" (.withDefaults "koko" .koko) none 5 with
      isAccepted := true, isDeleted := true } List.mem_cons_self rfl rfl
  exact ⟨rfl, h.1, h.2.2.1 true⟩

end Deployment
end GatewayRegistry
