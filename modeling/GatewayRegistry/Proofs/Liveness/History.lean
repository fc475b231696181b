import GatewayRegistry.Proofs.Liveness.Presence
import GatewayRegistry.Proofs.Store.Table
import Mathlib.Algebra.GroupWithZero.Nat

/-!
# What a cache remembers

A cache overwrites, lets entries expire without removing them, and is purged from time to time.
None of this shows: what can be read under a key is decided by the last write under it that was
accepted (`Recalls`). One event keeps that (`Recalls.step`), and so do all events in a row
(`Recalls.after`).
-/

namespace GatewayRegistry
namespace Cache

variable {c : Cache} {key : String}

/-! ## Entries that can be read

The entry under a key may be there and expired; it can be read while it is fresh. There is one entry
for a key at most (`Keyed`), which overwriting keeps. -/

/-- The entry under a key, unless it has expired. -/
def current? (c : Cache) (key : String) : Option CacheEntry := (c.entry? key).filter c.isFresh

/-- The keys of all entries, expired ones included. -/
def keys (c : Cache) : List String := c.entries.map (·.key)

/-- No two entries are under one key. -/
def Keyed (c : Cache) : Prop := UniqueBy CacheEntry.key c.entries

theorem fresh?_eq (c : Cache) (key : String) : c.fresh? key = (c.current? key).map (·.value) := rfl

/-- Different terminals have different keys. -/
theorem presenceKey_injective : Function.Injective presenceKey :=
  fun _ _ h => (String.append_right_inj "TERMINAL_ALIVE_").mp h

theorem Keyed.current?_eq_some_iff (h : c.Keyed) {e : CacheEntry} :
    c.current? key = some e ↔ (e ∈ c.entries ∧ e.key = key) ∧ c.isFresh e = true := by
  unfold current? entry?
  rw [Option.filter_eq_some_iff, UniqueBy.find?_eq_some_iff h]

/-- An entry replaces the one under its key. -/
theorem Keyed.put (h : c.Keyed) (e : CacheEntry) : (c.put e).Keyed := by
  refine UniqueBy.append (UniqueBy.filter h _) ?_
  intro x hx
  simpa using (List.mem_filter.mp hx).2

theorem Keyed.purge (h : c.Keyed) : c.purge.Keyed := UniqueBy.filter h _

/-- A new entry is found under its key, and the others under theirs. -/
theorem find?_put (e : CacheEntry) :
    (c.put e).entries.find? (·.key == key) =
      if e.key = key then some e else c.entries.find? (·.key == key) := by
  unfold put
  rw [List.find?_append]
  by_cases hkey : e.key = key
  · have hnone : (c.entries.filter (·.key != e.key)).find? (·.key == key) = none := by
      rw [List.find?_eq_none]
      intro x hx
      rw [← hkey]
      simpa using (List.mem_filter.mp hx).2
    rw [hnone, if_pos hkey]
    simp [hkey]
  -- the entries under other keys are found as before
  · have hsame : (c.entries.filter (·.key != e.key)).find? (·.key == key) =
        c.entries.find? (·.key == key) := by
      rw [List.find?_filter]
      congr 1
      funext x
      by_cases hx : x.key = key
      · simp [hx, Ne.symm hkey]
      · simp [hx]
    rw [hsame, if_neg hkey]
    simp [hkey]

/-- What is removed could not be read any more. -/
theorem Keyed.current?_purge (h : c.Keyed) : c.purge.current? key = c.current? key := by
  apply Option.ext
  intro e
  rw [h.purge.current?_eq_some_iff, h.current?_eq_some_iff]
  show (e ∈ c.entries.filter c.isFresh ∧ _) ∧ _ ↔ _
  rw [List.mem_filter]
  tauto

/-- The keys that are left after a purge are those under which something can be read. -/
theorem Keyed.mem_keys_purge (h : c.Keyed) : key ∈ c.purge.keys ↔ ∃ v, c.fresh? key = some v := by
  rw [fresh?_eq]
  constructor
  · intro hkey
    obtain ⟨e, he, rfl⟩ := List.mem_map.mp hkey
    obtain ⟨hmem, hfresh⟩ := List.mem_filter.mp he
    rw [h.current?_eq_some_iff.mpr ⟨⟨hmem, rfl⟩, hfresh⟩]
    exact ⟨e.value, rfl⟩
  · rintro ⟨v, hv⟩
    obtain ⟨e, he, _⟩ := Option.map_eq_some_iff.mp hv
    obtain ⟨⟨hmem, hkey⟩, hfresh⟩ := h.current?_eq_some_iff.mp he
    exact List.mem_map.mpr ⟨e, List.mem_filter.mpr ⟨hmem, hfresh⟩, hkey⟩

/-- The entries that a purge removes are counted. -/
theorem size_purge (c : Cache) : c.purge.size + c.expiredCount = c.size := by
  have hle : c.purge.size ≤ c.size := List.length_filter_le c.isFresh c.entries
  unfold expiredCount
  omega

/-! ## Events

What can happen to a cache: it is written to, time passes, it is purged, its connection is lost or
comes back. A write is accepted if the time at which it expires can be represented. -/

/-- Something that happens to a cache. -/
inductive Event where
  | write (key value : String) (ttl : Nat)
  | advance (elapsed : Nat)
  | purge
  | setOutage (reason : Option String)

/-- The cache after an event. A write that is refused changes nothing. -/
def step (c : Cache) : Event → Cache
  | .write key value ttl => match c.set key value ttl with
    | .ok c' => c'
    | .error _ => c
  | .advance elapsed => c.advance elapsed
  | .purge => c.purge
  | .setOutage reason => c.setOutage reason

def after (c : Cache) (events : List Event) : Cache := events.foldl step c

def Event.elapsed : Event → Nat
  | .advance elapsed => elapsed
  | _ => 0

/-- A write that was accepted. -/
structure Write where
  key : String
  value : String
  time : Nat
  ttl : Nat

def Write.entry (w : Write) : CacheEntry := ⟨w.key, w.value, w.time + w.ttl⟩

/-- What an event writes at some time, unless the deadline lies beyond the last moment. -/
def Event.accepted (now : Nat) : Event → List Write
  | .write key value ttl => if now + ttl < clockEnd then [⟨key, value, now, ttl⟩] else []
  | _ => []

theorem mem_accepted_write {now ttl : Nat} {key value : String} {w : Write} :
    w ∈ (Event.write key value ttl).accepted now ↔
      now + ttl < clockEnd ∧ w = ⟨key, value, now, ttl⟩ := by
  show w ∈ (if now + ttl < clockEnd then [Write.mk key value now ttl] else []) ↔ _
  split
  · next hfits => simp [hfits]
  · next hfits => simp [hfits]

/-- What is written by events of which the first happens at some time. -/
def accepted (now : Nat) : List Event → List Write
  | [] => []
  | e :: events => e.accepted now ++ accepted (now + e.elapsed) events

/-- The last write under a key. -/
def lastUnder (key : String) (writes : List Write) : Option Write :=
  (writes.filter (·.key == key)).getLast?

/-! ## Recalling -/

/-- What can be read is what was written last and has not expired. -/
structure Recalls (c : Cache) (writes : List Write) : Prop where
  inProcess : c.site = .inProcess
  keyed : c.Keyed
  current : ∀ key, c.current? key = ((lastUnder key writes).map Write.entry).filter c.isFresh

theorem available_of_inProcess (h : c.site = .inProcess) : c.available = .ok () := by
  unfold available
  rw [h]

/-- A cache in the process refuses to write only if the deadline lies too late. -/
theorem set_of_inProcess (h : c.site = .inProcess) (key value : String) (ttl : Nat) :
    c.set key value ttl =
      if c.clock + ttl < clockEnd then .ok (c.put ⟨key, value, c.clock + ttl⟩)
      else .error .deadlineOverflow := by
  unfold set
  rw [available_of_inProcess h]
  rfl

/-- A write that is not accepted changes nothing. -/
theorem step_write (h : c.site = .inProcess) (key value : String) (ttl : Nat) :
    c.step (.write key value ttl) =
      if c.clock + ttl < clockEnd then c.put ⟨key, value, c.clock + ttl⟩ else c := by
  by_cases hfits : c.clock + ttl < clockEnd
  · simp [step, set_of_inProcess h, hfits]
  · simp [step, set_of_inProcess h, hfits]

/-- A cache in the process has no outages. -/
theorem step_setOutage (h : c.site = .inProcess) (reason : Option String) :
    c.step (.setOutage reason) = c := by
  unfold step setOutage
  rw [h]

/-- The last write under a key is the new one, if it is under that key. -/
theorem lastUnder_append_singleton (writes : List Write) (w : Write) :
    lastUnder key (writes ++ [w]) = if w.key = key then some w else lastUnder key writes := by
  unfold lastUnder
  rw [List.filter_append]
  by_cases hkey : w.key = key
  · simp [hkey]
  · simp [hkey]

/-- What has expired stays expired. -/
theorem filter_isFresh_advance (c : Cache) (elapsed : Nat) (e : Option CacheEntry) :
    (e.filter c.isFresh).filter (c.advance elapsed).isFresh = e.filter (c.advance elapsed).isFresh := by
  rw [Option.filter_filter]
  congr 1
  funext x
  -- what can be read later can be read now
  show (decide (c.clock < x.deadline) && decide (c.clock + elapsed < x.deadline)) =
    decide (c.clock + elapsed < x.deadline)
  rw [← Bool.decide_and]
  exact decide_eq_decide.mpr ⟨fun h => h.2, fun h => ⟨by omega, h⟩⟩

namespace Recalls

variable {writes : List Write}

theorem empty (hsite : c.site = .inProcess) (hentries : c.entries = []) : c.Recalls [] where
  inProcess := hsite
  keyed := by
    unfold Keyed
    rw [hentries]
    exact List.nodup_nil
  current := by
    intro key
    unfold current? entry?
    rw [hentries]
    rfl

theorem put (h : c.Recalls writes) (key value : String) (ttl : Nat) :
    (c.put ⟨key, value, c.clock + ttl⟩).Recalls (writes ++ [⟨key, value, c.clock, ttl⟩]) where
  inProcess := h.inProcess
  keyed := h.keyed.put _
  current := by
    intro k
    unfold current? entry?
    rw [find?_put, lastUnder_append_singleton]
    dsimp only
    split
    · rfl
    · exact h.current k

/-- Time makes entries unreadable, in the cache and in the list alike. -/
theorem advance (h : c.Recalls writes) (elapsed : Nat) : (c.advance elapsed).Recalls writes where
  inProcess := h.inProcess
  keyed := h.keyed
  current := by
    intro key
    have hnow := congrArg (Option.filter (c.advance elapsed).isFresh) (h.current key)
    unfold current? at hnow
    rw [filter_isFresh_advance, filter_isFresh_advance] at hnow
    exact hnow

/-- A purge removes what could not be read any more. -/
theorem purge (h : c.Recalls writes) : c.purge.Recalls writes where
  inProcess := h.inProcess
  keyed := h.keyed.purge
  current := fun key => h.keyed.current?_purge.trans (h.current key)

/-- An event keeps the cache in step with what was written. -/
theorem step (h : c.Recalls writes) (e : Event) :
    (c.step e).Recalls (writes ++ e.accepted c.clock) := by
  cases e with
  | write key value ttl =>
      rw [step_write h.inProcess, Event.accepted]
      -- a write that would expire after the end of the clock is in neither
      by_cases hfits : c.clock + ttl < clockEnd
      · rw [if_pos hfits, if_pos hfits]
        exact h.put key value ttl
      · rw [if_neg hfits, if_neg hfits, List.append_nil]
        exact h
  | advance elapsed =>
      show (c.advance elapsed).Recalls (writes ++ [])
      rw [List.append_nil]
      exact h.advance elapsed
  | purge =>
      show c.purge.Recalls (writes ++ [])
      rw [List.append_nil]
      exact h.purge
  | setOutage reason =>
      show (c.step (.setOutage reason)).Recalls (writes ++ [])
      rw [step_setOutage h.inProcess, List.append_nil]
      exact h

/-- Time passes in one kind of events only. -/
theorem clock_step (h : c.Recalls writes) (e : Event) : (c.step e).clock = c.clock + e.elapsed := by
  cases e with
  | write key value ttl =>
      rw [step_write h.inProcess]
      split <;> rfl
  | setOutage reason =>
      rw [step_setOutage h.inProcess]
      rfl
  | advance | purge => rfl

/-- Events in a row keep the cache in step with what was written. -/
theorem after (h : c.Recalls writes) (events : List Event) :
    (c.after events).Recalls (writes ++ accepted c.clock events) := by
  induction events generalizing c writes with
  | nil =>
      rw [accepted, List.append_nil]
      exact h
  | cons e events ih =>
      rw [accepted, ← List.append_assoc, ← h.clock_step e]
      exact ih (h.step e)

/-- The clock shows how much time has passed since the start. -/
theorem clock_after (h : c.Recalls writes) (events : List Event) :
    (c.after events).clock = c.clock + (events.map Event.elapsed).sum := by
  induction events generalizing c writes with
  | nil => rfl
  | cons e events ih =>
      rw [List.map_cons, List.sum_cons, ← Nat.add_assoc, ← h.clock_step e]
      exact ih (h.step e)

/-- There is a mark exactly if the last one that was set has not expired. -/
theorem marked_iff (h : c.Recalls writes) (terminalId : String) :
    c.marked terminalId = true ↔
      ∃ w, lastUnder (presenceKey terminalId) writes = some w ∧ c.clock < w.time + w.ttl := by
  unfold marked
  rw [fresh?_eq, h.current, Option.isSome_map]
  cases lastUnder (presenceKey terminalId) writes with
  | none => simp
  | some w => simp [Option.filter, isFresh, Write.entry]

end Recalls

/-! ## What makes no difference

Events that write under other keys, and purges, can be left out without a difference to what is read
under the given keys. -/

/-- Whether an event may have to do with what is read under some keys: neither a purge nor a write
under another key has. -/
def Event.concerns (keys : List String) : Event → Bool
  | .write key _ _ => keys.contains key
  | .purge => false
  | _ => true

theorem elapsed_filter (keys : List String) (events : List Event) :
    ((events.filter (Event.concerns keys)).map Event.elapsed).sum =
      (events.map Event.elapsed).sum := by
  induction events with
  | nil => rfl
  | cons e events ih =>
      rw [List.filter_cons, List.map_cons, List.sum_cons]
      split
      · rw [List.map_cons, List.sum_cons, ih]
      -- time is never left out
      · next hother =>
          have hnone : e.elapsed = 0 := by
            cases e with
            | write | purge => rfl
            | advance | setOutage => exact absurd rfl hother
          rw [ih, hnone, Nat.zero_add]

/-- The writes that are left out are those under other keys. -/
theorem accepted_filter (keys : List String) (now : Nat) (events : List Event) :
    accepted now (events.filter (Event.concerns keys)) =
      (accepted now events).filter fun w => keys.contains w.key := by
  induction events generalizing now with
  | nil => rfl
  | cons e events ih =>
      rw [List.filter_cons, accepted, List.filter_append, ← ih]
      cases e with
      | write key value ttl =>
          by_cases hkey : keys.contains key = true
          · have hall : ∀ w ∈ (Event.write key value ttl).accepted now, keys.contains w.key = true := by
              intro w hw
              rw [(mem_accepted_write.mp hw).2]
              exact hkey
            rw [List.filter_eq_self.mpr hall]
            exact congrArg (accepted now) (if_pos hkey)
          · have hnone : ∀ w ∈ (Event.write key value ttl).accepted now, ¬keys.contains w.key = true := by
              intro w hw
              rw [(mem_accepted_write.mp hw).2]
              exact hkey
            rw [List.filter_eq_nil_iff.mpr hnone]
            exact congrArg (accepted now) (if_neg hkey)
      | advance elapsed => rfl
      | purge => rfl
      | setOutage reason => rfl

theorem lastUnder_filter {keys : List String} (hkey : key ∈ keys) (writes : List Write) :
    lastUnder key (writes.filter fun w => keys.contains w.key) = lastUnder key writes := by
  unfold lastUnder
  rw [List.filter_filter]
  congr 2
  funext w
  by_cases hw : w.key = key
  · simp [hw, hkey]
  · simp [hw]

/-- Only the events that concern a key decide what can be read under it. -/
theorem Recalls.current?_after_filter {keys : List String} (h : c.Recalls []) (hkey : key ∈ keys)
    (events : List Event) :
    (c.after (events.filter (Event.concerns keys))).current? key = (c.after events).current? key := by
  have hclock : (c.after (events.filter (Event.concerns keys))).clock = (c.after events).clock := by
    rw [h.clock_after, h.clock_after, elapsed_filter]
  have hfresh : (c.after (events.filter (Event.concerns keys))).isFresh = (c.after events).isFresh := by
    funext e
    unfold isFresh
    rw [hclock]
  rw [(h.after _).current, (h.after _).current, List.nil_append, List.nil_append, accepted_filter,
    lastUnder_filter hkey, hfresh]

/-! ## The order of writes

Writes are in the order of their times. If all of them last equally long, the last one under a key
is the one that expires last. -/

/-- Writes are accepted in the order of time. -/
theorem accepted_ascending (now : Nat) (events : List Event) :
    (accepted now events).Pairwise (·.time ≤ ·.time) ∧ ∀ w ∈ accepted now events, now ≤ w.time := by
  induction events generalizing now with
  | nil => exact ⟨.nil, fun w hw => absurd hw List.not_mem_nil⟩
  | cons e events ih =>
      obtain ⟨hascending, hlater⟩ := ih (now + e.elapsed)
      have hnow : ∀ w ∈ e.accepted now, w.time = now := by
        intro w hw
        cases e with
        | write key value ttl => rw [(mem_accepted_write.mp hw).2]
        | advance | purge | setOutage => exact absurd hw List.not_mem_nil
      have hone : (e.accepted now).Pairwise (·.time ≤ ·.time) :=
        List.pairwise_of_forall_mem_list fun w hw w' hw' =>
          Nat.le_of_eq ((hnow w hw).trans (hnow w' hw').symm)
      rw [accepted]
      refine ⟨List.pairwise_append.mpr ⟨hone, hascending, ?_⟩, ?_⟩
      · intro w hw w' hw'
        have hle := hlater w' hw'
        rw [hnow w hw]
        omega
      · intro w hw
        rcases List.mem_append.mp hw with hw | hw
        · exact Nat.le_of_eq (hnow w hw).symm
        · have hle := hlater w hw
          omega

/-- If all writes are for the same time, the last one lasts longest. -/
theorem last_lasts_longest {writes : List Write} (hascending : writes.Pairwise (·.time ≤ ·.time))
    {ttl : Nat} (httl : ∀ w ∈ writes, w.ttl = ttl) (now : Nat) :
    (∃ w, lastUnder key writes = some w ∧ now < w.time + w.ttl) ↔
      ∃ w ∈ writes, w.key = key ∧ now < w.time + ttl := by
  constructor
  · rintro ⟨w, hw, hnow⟩
    obtain ⟨hmem, hkey⟩ := List.mem_filter.mp (List.mem_of_getLast? hw)
    rw [httl w hmem] at hnow
    exact ⟨w, hmem, by simpa using hkey, hnow⟩
  · rintro ⟨w, hmem, hkey, hnow⟩
    have hin : w ∈ writes.filter (·.key == key) := List.mem_filter.mpr ⟨hmem, by simpa using hkey⟩
    cases hlast : (writes.filter (·.key == key)).getLast? with
    | none => exact absurd (List.getLast?_eq_none_iff.mp hlast) (List.ne_nil_of_mem hin)
    | some last =>
        refine ⟨last, hlast, ?_⟩
        rw [httl last (List.mem_of_mem_filter (List.mem_of_getLast? hlast))]
        have hpair := hascending.filter (·.key == key)
        obtain ⟨earlier, hlist⟩ := List.getLast?_eq_some_iff.mp hlast
        rw [hlist] at hpair hin
        -- every write under this key is the last one or before it
        have hle : w.time ≤ last.time := by
          rcases List.mem_append.mp hin with hw | hw
          · exact (List.pairwise_append.mp hpair).2.2 w hw last List.mem_cons_self
          · obtain rfl := List.mem_singleton.mp hw
            exact Nat.le_refl _
        omega

end Cache
end GatewayRegistry
