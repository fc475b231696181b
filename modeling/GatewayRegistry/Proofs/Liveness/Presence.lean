import GatewayRegistry.Liveness.Presence
import GatewayRegistry.Proofs.Except
import GatewayRegistry.Proofs.Store.Table

/-!
# Asking for one terminal and for many

Every cache answers for several keys at once what it answers for one key after the other
(`getMany_eq_mapM`), and the first key that it cannot read fails the whole question. So the
terminals that are alive among some are those of which each is alive, and they can be told exactly
if each of them can be asked for (`Batches`). While a cache is available, all of them can.
-/

namespace GatewayRegistry
namespace Cache

variable {c : Cache}

/-- Whether a terminal has a mark that can be read. -/
def marked (c : Cache) (terminalId : String) : Bool := (c.fresh? (presenceKey terminalId)).isSome

theorem get_of_available (h : c.available = .ok ()) (key : String) :
    c.get key = .ok (c.fresh? key) := by
  rw [get, h]
  rfl

theorem mapM_get_of_available (h : c.available = .ok ()) (keys : List String) :
    keys.mapM c.get = .ok (keys.map c.fresh?) := by
  induction keys with
  | nil => rfl
  | cons key keys ih =>
      rw [List.mapM_cons, get_of_available h, ih]
      rfl

/-- A cache in the process looks everything up in one go, and a remote one is asked for one key at a
time. -/
theorem getMany_eq_mapM (c : Cache) (keys : List String) : c.getMany keys = keys.mapM c.get := by
  unfold getMany
  split
  · next hsite =>
      have hopen : c.available = .ok () := by
        unfold available
        rw [hsite]
      exact (mapM_get_of_available hopen keys).symm
  · rfl

theorem getMany_of_available (h : c.available = .ok ()) (keys : List String) :
    c.getMany keys = .ok (keys.map c.fresh?) := by
  rw [getMany_eq_mapM, mapM_get_of_available h]

/-- While the cache is available, a terminal is alive if it is marked. -/
theorem isAlive_of_available (h : c.available = .ok ()) (terminalId : String) :
    c.isAlive terminalId = .ok (c.marked terminalId) := by
  rw [isAlive, isAliveBy, get_of_available h]
  rfl

/-! ## Any way to read

How the answers to many questions follow from single ones does not depend on the cache, only on its
answering the many keys one after the other. So the lookups are parameters here. -/

/-- To ask for several terminals at once is to ask for each of them: the answer is the set of those
that are alive, and there is none exactly if there is none for one of them. Nothing is asked for no
terminals. -/
structure Batches (ask : String → Except CacheError Bool)
    (askMany : List String → Except CacheError (List String)) : Prop where
  nodup : ∀ {ids alive}, askMany ids = .ok alive → alive.Nodup
  mem_iff : ∀ {ids alive}, askMany ids = .ok alive →
    ∀ id, id ∈ alive ↔ id ∈ ids ∧ ask id = .ok true
  fails_iff : ∀ {ids}, (∃ e, askMany ids = .error e) ↔ ids ≠ [] ∧ ∃ id ∈ ids, ∃ e, ask id = .error e
  /-- The whole question fails in the way in which one of the questions does. -/
  cause : ∀ {ids e}, askMany ids = .error e → ∃ id ∈ ids, ask id = .error e

namespace Batches

variable {ask : String → Except CacheError Bool}
  {askMany : List String → Except CacheError (List String)} {ids alive : List String} {id : String}
  (h : Batches ask askMany)

include h

/-- If the whole question is answered, so is each part of it. -/
theorem answers (hall : askMany ids = .ok alive) (hid : id ∈ ids) : ∃ b, ask id = .ok b := by
  cases hask : ask id with
  | ok b => exact ⟨b, rfl⟩
  -- the first key that cannot be read fails the whole question
  | error e =>
      obtain ⟨_, hfails⟩ := h.fails_iff.mpr ⟨List.ne_nil_of_mem hid, id, hid, e, hask⟩
      cases hall.symm.trans hfails

/-- A terminal is among those that are alive if the answer for it is yes. -/
theorem contains_eq (hall : askMany ids = .ok alive) (hid : id ∈ ids) :
    alive.contains id = saysYes (ask id) := by
  rw [Bool.eq_iff_iff, List.contains_iff_mem, h.mem_iff hall, saysYes_iff]
  exact and_iff_right hid

end Batches

section

variable {read : String → Except CacheError (Option String)} {ids : List String} {id : String}

theorem isAliveBy_of_ok {mark : Option String} (h : read (presenceKey id) = .ok mark) :
    isAliveBy read id = .ok mark.isSome := by
  rw [isAliveBy, h]
  rfl

/-- Asking for a terminal fails if its key cannot be read. -/
theorem isAliveBy_eq_error_iff {e : CacheError} :
    isAliveBy read id = .error e ↔ read (presenceKey id) = .error e := by
  unfold isAliveBy
  cases read (presenceKey id) <;> simp [bind, Except.bind, pure, Except.pure]

theorem mem_marks_iff {marks : List (Option String)}
    (h : List.Forall₂ (fun id mark => read (presenceKey id) = .ok mark) ids marks) :
    (id ∈ (ids.zip marks).filterMap fun (id, mark) => if mark.isSome then some id else none) ↔
      id ∈ ids ∧ isAliveBy read id = .ok true := by
  induction h with
  | nil => simp
  | @cons first mark ids marks hread _ ih =>
      have hfirst := isAliveBy_of_ok hread
      rw [List.zip_cons_cons, List.filterMap_cons]
      cases mark with
      | none =>
          -- the first terminal is not alive
          simp only [Option.isSome_none, Bool.false_eq_true, if_false, ih, List.mem_cons]
          constructor
          · rintro ⟨hid, halive⟩
            exact ⟨.inr hid, halive⟩
          · rintro ⟨rfl | hid, halive⟩
            · simp [hfirst] at halive
            · exact ⟨hid, halive⟩
      | some text =>
          simp only [Option.isSome_some, if_true, ih, List.mem_cons]
          constructor
          · rintro (rfl | ⟨hid, halive⟩)
            · exact ⟨.inl rfl, hfirst⟩
            · exact ⟨.inr hid, halive⟩
          · rintro ⟨rfl | hid, halive⟩
            · exact .inl rfl
            · exact .inr ⟨hid, halive⟩

theorem answers_of_marks {marks : List (Option String)}
    (h : List.Forall₂ (fun id mark => read (presenceKey id) = .ok mark) ids marks) (hid : id ∈ ids) :
    ∃ alive, isAliveBy read id = .ok alive := by
  induction h with
  | nil => exact absurd hid List.not_mem_nil
  | cons hread _ ih =>
      rcases List.mem_cons.mp hid with rfl | hid
      · exact ⟨_, isAliveBy_of_ok hread⟩
      · exact ih hid

theorem aliveAmongBy_of_ne_nil (hids : ids ≠ [])
    (readMany : List String → Except CacheError (List (Option String))) :
    aliveAmongBy readMany ids = (readMany (ids.map presenceKey)).map fun marks =>
      ((ids.zip marks).filterMap fun (id, mark) => if mark.isSome then some id else none).eraseDups := by
  unfold aliveAmongBy
  rw [if_neg (by simpa using hids)]
  cases readMany (ids.map presenceKey) <;> rfl

/-- Either every key is read, and the marks tell who is alive, or the first key that cannot be read
fails all. -/
theorem aliveAmongBy_mapM_cases (read : String → Except CacheError (Option String))
    (ids : List String) :
    (∃ marks, List.Forall₂ (fun id mark => read (presenceKey id) = .ok mark) ids marks ∧
      aliveAmongBy (fun keys => keys.mapM read) ids = .ok ((ids.zip marks).filterMap
        fun (id, mark) => if mark.isSome then some id else none).eraseDups) ∨
    ∃ id ∈ ids, ∃ e, isAliveBy read id = .error e ∧
      aliveAmongBy (fun keys => keys.mapM read) ids = .error e := by
  by_cases hids : ids = []
  · subst hids
    exact .inl ⟨[], .nil, rfl⟩
  · rw [aliveAmongBy_of_ne_nil hids]
    cases hmarks : (ids.map presenceKey).mapM read with
    | ok marks =>
        have hread := List.forall₂_map_left_iff.mp (mapM_eq_ok_iff.mp hmarks)
        exact .inl ⟨marks, hread, rfl⟩
    | error e =>
        obtain ⟨key, hkey, hread⟩ := mapM_eq_error hmarks
        obtain ⟨id, hid, rfl⟩ := List.mem_map.mp hkey
        exact .inr ⟨id, hid, e, isAliveBy_eq_error_iff.mpr hread, rfl⟩

/-- However a cache reads one key, to ask for many terminals by reading one key after the other is
to ask for each of them. -/
theorem batches_mapM (read : String → Except CacheError (Option String)) :
    Batches (isAliveBy read) (aliveAmongBy fun keys => keys.mapM read) := by
  refine ⟨?_, ?_, ?_, ?_⟩
  · intro ids alive h
    rcases aliveAmongBy_mapM_cases read ids with ⟨marks, _, hall⟩ | ⟨_, _, _, _, hall⟩
    · cases hall.symm.trans h
      exact nodup_eraseDups _
    · cases hall.symm.trans h
  -- a terminal is listed if it was asked for and has a mark
  · intro ids alive h id
    rcases aliveAmongBy_mapM_cases read ids with ⟨marks, hmarks, hall⟩ | ⟨_, _, _, _, hall⟩
    · cases hall.symm.trans h
      rw [List.mem_eraseDups, mem_marks_iff hmarks]
    · cases hall.symm.trans h
  · intro ids
    rcases aliveAmongBy_mapM_cases read ids with ⟨marks, hmarks, hall⟩ | ⟨id, hid, e, hfails, hall⟩
    · rw [hall]
      constructor
      · rintro ⟨e, h⟩
        cases h
      · rintro ⟨_, id, hid, e, hfails⟩
        obtain ⟨alive, hanswer⟩ := answers_of_marks hmarks hid
        rw [hanswer] at hfails
        cases hfails
    · exact ⟨fun _ => ⟨List.ne_nil_of_mem hid, id, hid, e, hfails⟩, fun _ => ⟨e, hall⟩⟩
  · intro ids e h
    rcases aliveAmongBy_mapM_cases read ids with ⟨_, _, hall⟩ | ⟨id, hid, _, hfails, hall⟩
    · cases hall.symm.trans h
    · cases hall.symm.trans h
      exact ⟨id, hid, hfails⟩

end

/-- Every cache is one that reads one key after the other. -/
theorem batches (c : Cache) : Batches c.isAlive c.aliveAmong := by
  have hmany : c.aliveAmong = aliveAmongBy fun keys => keys.mapM c.get :=
    congrArg aliveAmongBy (funext c.getMany_eq_mapM)
  rw [hmany]
  exact batches_mapM c.get

end Cache
end GatewayRegistry
