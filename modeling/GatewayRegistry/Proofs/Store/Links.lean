import GatewayRegistry.Proofs.Store.Catalog
import GatewayRegistry.Proofs.Store.Frame

/-!
# Links of terminals

A terminal is linked to the catalog entries that it serves and to the domains that it reaches. Links
of either kind are replaced by removing all that the terminal has and inserting new ones in a loop,
which passes over a link that is there and fails at one that refers to nothing. What comes out
depends on the ids only as a set: if all of them are there, the terminal is linked to these and to
nothing else, and if not, nothing has changed (`LinkKind.Lawful.replaces_wholesale`).
-/

namespace GatewayRegistry

/-! ## Inserting in a loop -/

/-- A loop that puts what it is given behind the rest unless it is there already, and fails at the
first element that is not allowed. -/
theorem foldlM_put {κ σ ε : Type} [BEq κ] [LawfulBEq κ] {insert : σ → κ → Except ε σ}
    (put : List κ → σ) {allowed : κ → Bool} {e : ε}
    (hinsert : ∀ done x, insert (put done) x =
      if done.contains x then .ok (put done)
      else if allowed x then .ok (put (done ++ [x])) else .error e) (xs : List κ) :
    xs.foldlM insert (put []) = if xs.all allowed then .ok (put xs.eraseDups) else .error e := by
  induction xs using List.reverseRecOn with
  | nil => rfl
  | append_singleton xs x ih =>
      rw [List.foldlM_append, ih, List.all_append, eraseDups_concat]
      cases hall : xs.all allowed with
      -- what comes after a failure makes no difference
      | false => rfl
      | true =>
          show insert (put xs.eraseDups) x >>= pure = _
          rw [bind_pure, hinsert]
          by_cases hmem : x ∈ xs
          -- an element that is passed over was allowed when it was put there
          · have hx : allowed x = true := List.all_eq_true.mp hall x hmem
            simp [hmem, hx]
          · cases hx : allowed x <;> simp [hmem, hx]

/-- The loop that links a terminal anew, for links of any kind: the links that are kept are those of
other terminals, and so none of them is in the way of a new one. -/
theorem foldlM_link {κ α σ ε : Type} [BEq κ] [LawfulBEq κ] [BEq α] [LawfulBEq α]
    {insert : σ → κ → Except ε σ} (withLinks : List α → σ) (make : κ → α)
    (hmake : Function.Injective make) {kept : List α} (hkept : ∀ id, make id ∉ kept)
    {there : Bool} {has : κ → Bool} {e : ε}
    (hinsert : ∀ links id, insert (withLinks links) id =
      if links.contains (make id) then .ok (withLinks links)
      else if !there || !has id then .error e else .ok (withLinks (links ++ [make id])))
    (ids : List κ) :
    ids.foldlM insert (withLinks kept) =
      if ids.all fun id => there && has id then .ok (withLinks (kept ++ ids.eraseDups.map make))
      else .error e := by
  have hstep : ∀ (done : List κ) (id : κ), insert (withLinks (kept ++ done.map make)) id =
      if done.contains id then .ok (withLinks (kept ++ done.map make))
      else if there && has id then .ok (withLinks (kept ++ (done ++ [id]).map make))
      else .error e := by
    intro done id
    have hcontains : (kept ++ done.map make).contains (make id) = done.contains id := by
      rw [Bool.eq_iff_iff]
      simp [hkept, hmake.eq_iff]
    rw [hinsert, hcontains, List.map_append, ← List.append_assoc, ← Bool.not_and]
    cases there && has id <;> rfl
  have hloop := foldlM_put (fun done => withLinks (kept ++ done.map make)) hstep ids
  rwa [List.map_nil, List.append_nil] at hloop

namespace Store

variable {s : Store} {t : String}

/-- A terminal serves the given catalog entries and no others. -/
def withServed (s : Store) (t : String) (ids : List Int) : Store :=
  { s with terminalProtocols :=
      s.terminalProtocols.filter (·.terminalId != t) ++ ids.map fun id => ⟨t, id⟩ }

/-- A terminal reaches the given domains and no others. -/
def withReached (s : Store) (t : String) (ids : List String) : Store :=
  { s with terminalDomains :=
      s.terminalDomains.filter (·.terminalId != t) ++ ids.map fun id => ⟨t, id⟩ }

/-- The loop over the ids, for the protocols of a terminal. -/
theorem replaceProtocols_eq (t : String) (ids : List Int) (s : Store) :
    s.replaceProtocols t ids =
      if ids.all (fun id => s.hasTerminal t && s.hasProtocol id) then .ok (s.withServed t ids.eraseDups)
      else .error (.rejected .dangling) := by
  refine foldlM_link (fun links => { s with terminalProtocols := links }) (ProtocolLink.mk t) ?_ ?_ ?_ ids
  · intro id id' hsame
    exact congrArg ProtocolLink.protocolId hsame
  · simp
  · intro links id
    rfl

theorem replaceDomains_eq (t : String) (ids : List String) (s : Store) :
    s.replaceDomains t ids =
      if ids.all (fun id => s.hasTerminal t && s.hasDomain id) then .ok (s.withReached t ids.eraseDups)
      else .error (.rejected .dangling) := by
  refine foldlM_link (fun links => { s with terminalDomains := links }) (DomainLink.mk t) ?_ ?_ ?_ ids
  · intro id id' hsame
    exact congrArg DomainLink.domainId hsame
  · simp
  · intro links id
    rfl

end Store

/-- A transaction that is all or nothing. -/
theorem Database.execute_if {tx : Store → Except StoreError Store} {db : Database} {allowed : Bool}
    {s : Store} {e : StoreError} (hopen : db.isOpen = true)
    (h : tx db.store = if allowed then .ok s else .error e) :
    execute tx db = if allowed then (.ok (), { db with store := s }) else (.error e, db) := by
  cases allowed with
  | true => exact execute_ok hopen h
  | false => exact execute_error hopen h

/-! ## Kinds of links

Both kinds of links are replaced and listed alike, but over other tables, with ids of other types
and in another order. What a kind consists of is collected in `LinkKind`, and what is proved below
needs no more of it than `Lawful` says. -/

/-- A kind of links that terminals have. -/
structure LinkKind (κ ρ : Type) where
  /-- Where the links are stored. -/
  part : Store.Part
  /-- Whether there is something to link to under an id. -/
  has : Store → κ → Bool
  /-- The ids that a terminal is linked to. -/
  linked : Store → String → List κ
  /-- The store in which a terminal is linked to the given ids and no others. -/
  relink : Store → String → List κ → Store
  /-- All that there is to link to, in the order of lists. -/
  targets : Store → List ρ
  /-- The id of something to link to. -/
  id : ρ → κ
  /-- The place of something to link to in a list. -/
  Before : ρ → ρ → Prop
  replace : String → List κ → Database.Call Unit
  list : String → Database.Call (List ρ)

namespace LinkKind

def protocols : LinkKind Int Protocol where
  part := .terminalProtocols
  has := Store.hasProtocol
  linked s t := (s.terminalProtocols.filter (·.terminalId == t)).map (·.protocolId)
  relink := Store.withServed
  targets := Store.catalog
  id := Protocol.id
  Before := Protocol.Before
  replace := Database.replaceProtocols
  list := Database.terminalProtocols

def domains : LinkKind String Domain where
  part := .terminalDomains
  has := Store.hasDomain
  linked s t := (s.terminalDomains.filter (·.terminalId == t)).map (·.domainId)
  relink := Store.withReached
  targets s := s.domains.mergeSort fun a b => decide (a.name ≤ b.name)
  id := Domain.id
  Before a b := a.name < b.name
  replace := Database.replaceDomains
  list := Database.terminalDomains

variable {κ ρ : Type}

/-- Whether a terminal can be linked to the given ids. -/
def accepts (k : LinkKind κ ρ) (s : Store) (t : String) (ids : List κ) : Bool :=
  ids.all fun id => s.hasTerminal t && k.has s id

variable [DecidableEq κ]

/-- What is known of a kind of links. -/
structure Lawful (k : LinkKind κ ρ) : Prop where
  -- the links
  outside : ∀ s t ids, Store.SameOutside [k.part] s (k.relink s t ids)
  linked : ∀ s t ids other, k.linked (k.relink s t ids) other = if other = t then ids else k.linked s other
  -- what they refer to
  targets : ∀ s t ids, k.targets (k.relink s t ids) = k.targets s
  has : ∀ s id, k.has s id = true ↔ ∃ x ∈ k.targets s, k.id x = id
  ordered : ∀ s, s.Consistent → (k.targets s).Pairwise k.Before
  ids : ∀ s, s.Consistent → UniqueBy k.id (k.targets s)
  -- the calls
  edits : ∀ t ids, Database.Edits (k.replace t ids)
  replace : ∀ (db : Database), db.isOpen = true → ∀ t ids, k.replace t ids db =
    if k.accepts db.store t ids then (.ok (), { db with store := k.relink db.store t ids.eraseDups })
    else (.error (.rejected .dangling), db)
  list : ∀ (db : Database), db.Ready → ∀ t, k.list t db =
    (.ok ((k.targets db.store).filter fun x => (k.linked db.store t).contains (k.id x)), db)

/-! ### The laws -/

section

variable {α : Type} (owner : α → String) (target : α → κ) (make : κ → α) {t : String}

omit [DecidableEq κ] in
/-- The links of the other terminals stay where they are. -/
theorem map_filter_relinked (howner : ∀ id, owner (make id) = t)
    (htarget : ∀ id, target (make id) = id)
    (links : List α) (ids : List κ) (other : String) :
    ((links.filter (owner · != t) ++ ids.map make).filter (owner · == other)).map target =
      if other = t then ids else (links.filter (owner · == other)).map target := by
  rw [List.filter_append, List.filter_filter, List.filter_map]
  by_cases hother : other = t
  · have hnone : ∀ x, (owner x == t && owner x != t) = false := by simp
    simp [hother, hnone, Function.comp_def, howner, htarget]
  · have hold : ∀ x, (owner x == other && owner x != t) = (owner x == other) := by
      intro x
      by_cases hx : owner x = other <;> simp [hx, hother]
    simp [hother, hold, Function.comp_def, howner, Ne.symm hother]

/-- A link is there if the terminal is linked to what it refers to. -/
theorem contains_linked [DecidableEq α] (hmake : ∀ x id, owner x = t ∧ target x = id ↔ x = make id)
    (links : List α) (id : κ) :
    ((links.filter (owner · == t)).map target).contains id = links.contains (make id) := by
  rw [Bool.eq_iff_iff, List.contains_iff_mem, List.contains_iff_mem, List.mem_map]
  constructor
  · rintro ⟨x, hx, hid⟩
    obtain ⟨hmem, howner⟩ := List.mem_filter.mp hx
    rw [← (hmake x id).mp ⟨beq_iff_eq.mp howner, hid⟩]
    exact hmem
  · intro hmem
    obtain ⟨howner, hid⟩ := (hmake (make id) id).mpr rfl
    exact ⟨make id, List.mem_filter.mpr ⟨hmem, beq_iff_eq.mpr howner⟩, hid⟩

end

/-- The protocols that a terminal serves keep the laws. -/
theorem protocols_lawful : protocols.Lawful where
  outside s t ids := .write .terminalProtocols List.mem_cons_self _
  linked s t ids other := map_filter_relinked ProtocolLink.terminalId ProtocolLink.protocolId
    (ProtocolLink.mk t) (fun _ => rfl) (fun _ => rfl) s.terminalProtocols ids other
  targets s t ids := rfl
  has s id := by
    show s.hasProtocol id = true ↔ ∃ p ∈ s.catalog, p.id = id
    rw [Store.hasProtocol_iff]
    unfold Store.catalog
    simp only [List.mem_map, exists_exists_and_eq_and, Store.mem_orderedProtocols]
    exact Iff.rfl
  ordered s hs := hs.catalog_pairwise
  ids s hs := hs.catalog_ids
  edits := Database.replaceProtocols_edits
  replace db hopen t ids := Database.execute_if hopen (Store.replaceProtocols_eq t ids db.store)
  list db h t := by
    show Database.query (fun s => (s.servedProtocols t).mapM ProtocolRow.read) db = _
    refine Database.query_ok h.isOpen ?_
    rw [h.consistent.mapM_read_servedProtocols]
    -- the list picks entries by their links, which is to pick them by their ids
    have hlinked : ∀ p : Protocol, (protocols.linked db.store t).contains p.id =
        db.store.terminalProtocols.contains ⟨t, p.id⟩ := by
      intro p
      refine contains_linked ProtocolLink.terminalId ProtocolLink.protocolId (ProtocolLink.mk t) ?_ _ _
      rintro ⟨terminalId, protocolId⟩ id
      simp
    simp only [← hlinked]
    rfl

theorem domains_lawful : domains.Lawful where
  outside s t ids := .write .terminalDomains List.mem_cons_self _
  linked s t ids other := map_filter_relinked DomainLink.terminalId DomainLink.domainId
    (DomainLink.mk t) (fun _ => rfl) (fun _ => rfl) s.terminalDomains ids other
  targets s t ids := rfl
  has s id := by
    show s.hasDomain id = true ↔ ∃ d ∈ s.domains.mergeSort _, d.id = id
    simp only [Store.hasDomain_iff, List.mem_mergeSort]
  ordered s hs := mergeSort_ascending hs.domainNames
  ids s hs := ((List.mergeSort_perm s.domains _).map Domain.id).nodup_iff.mpr hs.domainIds
  edits := Database.replaceDomains_edits
  replace db hopen t ids := Database.execute_if hopen (Store.replaceDomains_eq t ids db.store)
  list db h t := by
    show Database.query (fun s => .ok (s.reachedDomains t)) db = _
    refine Database.query_ok h.isOpen ?_
    have hlinked : ∀ d : Domain, (domains.linked db.store t).contains d.id =
        db.store.terminalDomains.contains ⟨t, d.id⟩ := by
      intro d
      refine contains_linked DomainLink.terminalId DomainLink.domainId (DomainLink.mk t) ?_ _ _
      rintro ⟨terminalId, domainId⟩ id
      simp
    unfold Store.reachedDomains
    simp only [← hlinked]
    rfl

/-! ## All or nothing -/

/-- What it has done to replace the links of a terminal. -/
structure Replaced (k : LinkKind κ ρ) (t : String) (ids : List κ) (db db' : Database) : Prop where
  isOpen : db'.isOpen = db.isOpen
  /-- Nothing but links has changed. -/
  outside : Store.SameOutside [k.part] db.store db'.store
  /-- The links of other terminals have not changed. -/
  others : ∀ other, other ≠ t →
    k.linked db'.store other = k.linked db.store other ∧ (k.list other db').1 = (k.list other db).1
  nodup : (k.linked db'.store t).Nodup
  mem_linked : ∀ id, id ∈ k.linked db'.store t ↔ id ∈ ids
  /-- What is read back is in order, and it is what the terminal is linked to. -/
  listed : ∃ found, k.list t db' = (.ok found, db') ∧ found.Pairwise k.Before ∧
    (found.map k.id).Perm (k.linked db'.store t)

/-- What it means that links are replaced as a whole. -/
structure ReplacesWholesale (k : LinkKind κ ρ) (db : Database) (t : String) (ids : List κ) :
    Prop where
  succeeds_iff : (∃ db', k.replace t ids db = (.ok (), db')) ↔
    ids = [] ∨ db.store.hasTerminal t = true ∧ ∀ id ∈ ids, k.has db.store id = true
  refused : ∀ e db', k.replace t ids db = (.error e, db') → e = .rejected .dangling ∧ db' = db
  replaced : ∀ db', k.replace t ids db = (.ok (), db') → k.Replaced t ids db db'
  /-- Neither the order of the ids matters nor how often they are given. -/
  as_set : ∀ db', k.replace t ids db = (.ok (), db') → ∀ ids', (∀ id, id ∈ ids' ↔ id ∈ ids) →
    ∃ db'', k.replace t ids' db = (.ok (), db'') ∧
      (k.linked db''.store t).Perm (k.linked db'.store t) ∧ (k.list t db'').1 = (k.list t db').1

omit [DecidableEq κ] in
/-- The terminal is looked at only if there is something to link it to. -/
theorem accepts_iff {k : LinkKind κ ρ} {s : Store} {t : String} {ids : List κ} :
    k.accepts s t ids = true ↔
      ids = [] ∨ s.hasTerminal t = true ∧ ∀ id ∈ ids, k.has s id = true := by
  unfold accepts
  cases ids with
  | nil => simp
  | cons id rest => cases s.hasTerminal t <;> simp

namespace Lawful

variable {k : LinkKind κ ρ} {db db' : Database} {t : String} {ids : List κ}

/-- What a list holds is decided by what the terminal is linked to. -/
theorem list_eq_of_linked (hk : k.Lawful) (h : db.Ready) (h' : db'.Ready)
    (htargets : k.targets db'.store = k.targets db.store)
    (hlinked : ∀ id, id ∈ k.linked db'.store t ↔ id ∈ k.linked db.store t) :
    (k.list t db').1 = (k.list t db).1 := by
  have hsame : ∀ id, (k.linked db'.store t).contains id = (k.linked db.store t).contains id := by
    intro id
    rw [Bool.eq_iff_iff, List.contains_iff_mem, List.contains_iff_mem]
    exact hlinked id
  rw [hk.list db h, hk.list db' h', htargets]
  simp only [hsame]

/-- A list holds what the terminal is linked to. -/
theorem list_of_linked (hk : k.Lawful) (h : db.Ready) (hnodup : (k.linked db.store t).Nodup)
    (hthere : ∀ id ∈ k.linked db.store t, k.has db.store id = true) :
    ∃ found, k.list t db = (.ok found, db) ∧ found.Pairwise k.Before ∧
      (found.map k.id).Perm (k.linked db.store t) := by
  refine ⟨_, hk.list db h t, (hk.ordered _ h.consistent).filter _, ?_⟩
  have hids := (hk.ids _ h.consistent).filter fun x => (k.linked db.store t).contains (k.id x)
  -- both lists are without repetitions, so it is enough that they have the same members
  refine (List.perm_ext_iff_of_nodup hids hnodup).mpr fun id => ?_
  rw [List.mem_map]
  constructor
  · rintro ⟨x, hx, rfl⟩
    exact List.contains_iff_mem.mp (List.mem_filter.mp hx).2
  · intro hid
    obtain ⟨x, hx, rfl⟩ := (hk.has _ id).mp (hthere id hid)
    exact ⟨x, List.mem_filter.mpr ⟨hx, List.contains_iff_mem.mpr hid⟩, rfl⟩

/-- A replacement that is accepted succeeds and writes the links. -/
theorem replace_eq_ok_iff (hk : k.Lawful) (hopen : db.isOpen = true) :
    k.replace t ids db = (.ok (), db') ↔
      k.accepts db.store t ids = true ∧ db' = { db with store := k.relink db.store t ids.eraseDups } := by
  rw [hk.replace db hopen]
  cases k.accepts db.store t ids with
  | true =>
      constructor
      · intro hrun
        cases hrun
        exact ⟨rfl, rfl⟩
      · rintro ⟨-, rfl⟩
        rfl
  | false =>
      constructor
      · intro hrun
        cases hrun
      · rintro ⟨hfalse, -⟩
        cases hfalse

theorem ready (hk : k.Lawful) (h : db.Ready) (hrun : k.replace t ids db = (.ok (), db')) :
    db'.Ready := by
  have hedits := hk.edits t ids db
  rw [hrun] at hedits
  refine ⟨?_, hedits.consistent h.consistent⟩
  rw [((hk.replace_eq_ok_iff h.isOpen).mp hrun).2]
  exact h.isOpen

/-- What a replacement that succeeds leaves behind. -/
theorem replaced (hk : k.Lawful) (h : db.Ready) (hrun : k.replace t ids db = (.ok (), db')) :
    k.Replaced t ids db db' := by
  have h' := hk.ready h hrun
  obtain ⟨haccepts, rfl⟩ := (hk.replace_eq_ok_iff h.isOpen).mp hrun
  have hlinked : k.linked (k.relink db.store t ids.eraseDups) t = ids.eraseDups := by
    rw [hk.linked, if_pos rfl]
  -- links are owned by one terminal, so those of the others stay
  have hothers : ∀ other, other ≠ t →
      k.linked (k.relink db.store t ids.eraseDups) other = k.linked db.store other := by
    intro other hother
    rw [hk.linked, if_neg hother]
  refine ⟨rfl, hk.outside _ _ _, fun other hother => ⟨hothers other hother, ?_⟩, ?_, ?_, ?_⟩
  · refine hk.list_eq_of_linked h h' (hk.targets _ _ _) fun id => ?_
    rw [hothers other hother]
  · rw [hlinked]
    exact nodup_eraseDups ids
  · intro id
    rw [hlinked, List.mem_eraseDups]
  · apply hk.list_of_linked h'
    · show (k.linked (k.relink db.store t ids.eraseDups) t).Nodup
      rw [hlinked]
      exact nodup_eraseDups ids
    · show ∀ id ∈ k.linked (k.relink db.store t ids.eraseDups) t, k.has (k.relink _ _ _) id = true
      intro id hid
      rw [hlinked, List.mem_eraseDups] at hid
      rw [hk.has, hk.targets, ← hk.has]
      -- the ids were looked up before the replacement, and what they refer to has not changed since
      rcases accepts_iff.mp haccepts with rfl | ⟨_, hall⟩
      · exact absurd hid List.not_mem_nil
      · exact hall id hid

/-- **Links are replaced wholesale**: all of them or none, and as a set. -/
theorem replaces_wholesale (hk : k.Lawful) (h : db.Ready) (t : String) (ids : List κ) :
    k.ReplacesWholesale db t ids where
  succeeds_iff := by
    simp only [hk.replace_eq_ok_iff h.isOpen, exists_and_left, exists_eq, and_true, accepts_iff]
  refused e db' hrun := by
    rw [hk.replace db h.isOpen] at hrun
    split at hrun
    · cases hrun
    · cases hrun
      exact ⟨rfl, rfl⟩
  replaced db' hrun := hk.replaced h hrun
  as_set db' hrun ids' hsame := by
    obtain ⟨haccepts, hdb'⟩ := (hk.replace_eq_ok_iff h.isOpen).mp hrun
    have haccepts' : k.accepts db.store t ids' = true :=
      List.all_eq_true.mpr fun id hid => List.all_eq_true.mp haccepts id ((hsame id).mp hid)
    have hrun' := (hk.replace_eq_ok_iff h.isOpen).mpr ⟨haccepts', rfl⟩
    have hmem := (hk.replaced h hrun).mem_linked
    have hmem' := (hk.replaced h hrun').mem_linked
    -- another list of the same ids makes the same links, perhaps in another order
    have hlinked : ∀ id, id ∈ k.linked (k.relink db.store t ids'.eraseDups) t ↔
        id ∈ k.linked db'.store t := by
      intro id
      rw [hmem' id, hmem id, hsame id]
    refine ⟨_, hrun', ?_, ?_⟩
    · exact (List.perm_ext_iff_of_nodup (hk.replaced h hrun').nodup (hk.replaced h hrun).nodup).mpr hlinked
    · refine hk.list_eq_of_linked (hk.ready h hrun) (hk.ready h hrun') ?_ hlinked
      rw [hdb', hk.targets, hk.targets]

end Lawful
end LinkKind
end GatewayRegistry
