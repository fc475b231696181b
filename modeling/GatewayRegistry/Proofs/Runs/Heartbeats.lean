import GatewayRegistry.Proofs.Runs.Reachable

/-!
# Heartbeats and presence

The cache of a deployment goes through the events that the requests of a run send to it
(`Deployment.cache_after`), and so it recalls what was written in the run. Whether a terminal is
alive is then a matter of the last mark under its id that was accepted: neither marks of other
terminals nor purges have to do with it.
-/

namespace GatewayRegistry
namespace Cache

variable {c c' : Cache}

/-- Caches in which the same can be read under some keys answer the same when asked for them. -/
theorem answers_eq (h : c.available = .ok ()) (h' : c'.available = .ok ()) {keys : List String}
    (hsame : ∀ key ∈ keys, c'.current? key = c.current? key) :
    (∀ key ∈ keys, c'.get key = c.get key) ∧ c'.getMany keys = c.getMany keys ∧
      ∀ id, presenceKey id ∈ keys → c'.isAlive id = c.isAlive id := by
  have hfresh : ∀ key ∈ keys, c'.fresh? key = c.fresh? key := by
    intro key hkey
    simp [fresh?_eq, hsame key hkey]
  refine ⟨?_, ?_, ?_⟩
  · intro key hkey
    simp [get_of_available, h, h', hfresh key hkey]
  · rw [getMany_of_available h, getMany_of_available h', List.map_congr_left hfresh]
  · intro id hid
    simp [isAlive_of_available, h, h', marked, hfresh _ hid]

/-- A purge counts the entries that it removes, and the keys that stay are those that can be
read. -/
theorem purge_spec (h : c.Keyed) (hopen : c.available = .ok ()) :
    c.purge.entries.Sublist c.entries ∧ c.keys.Nodup ∧ c.purge.size + c.expiredCount = c.size ∧
      ∀ key, key ∈ c.purge.keys ↔ ∃ v, c.get key = .ok (some v) := by
  refine ⟨List.filter_sublist, h, c.size_purge, ?_⟩
  intro key
  simp [h.mem_keys_purge, get_of_available hopen]

end Cache

namespace Deployment

variable {start : Deployment} {requests : List Registry.Request}

/-- What the requests send to the cache. -/
def cacheEvents (requests : List Registry.Request) : List Cache.Event :=
  requests.filterMap fun request => request.2.cacheEvent?

/-- What a run does to the cache is what its requests write there, in their order. -/
theorem cache_after (start : Deployment) (requests : List Registry.Request) :
    (start.after requests).cache = start.cache.after (cacheEvents requests) := by
  induction requests generalizing start with
  | nil => rfl
  | cons request rest ih =>
      have hrun := request.2.cache_run start
      rw [after_cons, ih, hrun]
      unfold cacheEvents
      rw [List.filterMap_cons]
      cases request.2.cacheEvent? <;> rfl

/-- After any run, a terminal is alive exactly if the last mark that was accepted for it has not
expired. A mark whose deadline lies too late is refused. Neither purges nor writes under other keys
change an answer, and ids have keys of their own. A purge removes what has expired and counts it. If
all marks last equally long, then any mark that is recent enough keeps a terminal alive. -/
theorem presence_follows_heartbeats (start : Deployment) (hsite : start.cache.site = .inProcess)
    (hentries : start.cache.entries = []) (requests : List Registry.Request) :
    let d := start.after requests
    let writes := Cache.accepted start.cache.clock (cacheEvents requests)
    d.cache.clock = start.cache.clock + ((cacheEvents requests).map Cache.Event.elapsed).sum ∧
    (∀ id, ∃ alive, d.cache.isAlive id = .ok alive ∧
      (alive = true ↔ ∃ w, Cache.lastUnder (Cache.presenceKey id) writes = some w ∧
        d.cache.clock < w.time + w.ttl)) ∧
    (∀ id ttl, Cache.clockEnd ≤ d.cache.clock + ttl →
      (Registry.Operation.setAlive id ttl).run d = (.error (.cache .deadlineOverflow), d)) ∧
    Function.Injective Cache.presenceKey ∧
    (∀ keys others, (cacheEvents others).filter (Cache.Event.concerns keys) =
        (cacheEvents requests).filter (Cache.Event.concerns keys) →
      (∀ key ∈ keys, (start.after others).cache.get key = d.cache.get key) ∧
        (start.after others).cache.getMany keys = d.cache.getMany keys ∧
        ∀ id, Cache.presenceKey id ∈ keys →
          (start.after others).cache.isAlive id = d.cache.isAlive id) ∧
    (∃ removed d', Registry.Operation.purge.run d = (.ok removed, d') ∧
      d'.cache.entries.Sublist d.cache.entries ∧ d.cache.keys.Nodup ∧
      d'.cache.size + removed = d.cache.size ∧
      ∀ key, key ∈ d'.cache.keys ↔ ∃ v, d.cache.get key = .ok (some v)) ∧
    (∀ ttl, (∀ w ∈ writes, w.ttl = ttl) → ∀ id, d.cache.isAlive id = .ok true ↔
      ∃ w ∈ writes, w.key = Cache.presenceKey id ∧ d.cache.clock < w.time + ttl) := by
  intro d writes
  -- at the start nothing has been written, and nothing is recalled
  have hempty : start.cache.Recalls [] := .empty hsite hentries
  have hrecalls : ∀ others, (start.after others).cache.Recalls
      (Cache.accepted start.cache.clock (cacheEvents others)) := by
    intro others
    rw [cache_after]
    exact hempty.after _
  have hopen : ∀ others, (start.after others).cache.available = .ok () := fun others =>
    Cache.available_of_inProcess (hrecalls others).inProcess
  -- the cache is in this process, so no question goes unanswered
  have halive : ∀ id, d.cache.isAlive id = .ok (d.cache.marked id) := fun id =>
    Cache.isAlive_of_available (hopen requests) id
  refine ⟨?_, ?_, ?_, Cache.presenceKey_injective, ?_, ?_, ?_⟩
  · rw [← hempty.clock_after, ← cache_after]
  · intro id
    exact ⟨_, halive id, (hrecalls requests).marked_iff id⟩
  · intro id ttl hlate
    have hrefused : d.cache.setAlive id ttl = .error .deadlineOverflow := by
      unfold Cache.setAlive Cache.set
      rw [hopen requests]
      exact if_neg (Nat.not_lt.mpr hlate)
    show Registry.writeCache _ d = _
    rw [Registry.writeCache, hrefused]
  · intro keys others hsame
    -- both runs have noted the same under these keys
    apply Cache.answers_eq (hopen requests) (hopen others)
    intro key hkey
    rw [cache_after, cache_after, ← hempty.current?_after_filter hkey, hsame,
      hempty.current?_after_filter hkey]
  · exact ⟨_, _, rfl, Cache.purge_spec (hrecalls requests).keyed (hopen requests)⟩
  · intro ttl httl id
    have hascending := (Cache.accepted_ascending start.cache.clock (cacheEvents requests)).1
    rw [halive, Except.ok.injEq, (hrecalls requests).marked_iff]
    exact Cache.last_lasts_longest hascending httl _

/-- A mark that lasts shorter than the one before it counts nevertheless, and at its deadline it is
gone. -/
theorem presence_follows_heartbeats_of_shorter_mark :
    (({} : Deployment).after [
      ⟨_, .setAlive "t" 1000⟩, ⟨_, .advance 400⟩, ⟨_, .setAlive "u" 5⟩, ⟨_, .setAlive "t" 300⟩,
      ⟨_, .purge⟩, ⟨_, .advance 300⟩]).cache.isAlive "t" = .ok false := by
  obtain ⟨alive, hanswer, halive⟩ := (presence_follows_heartbeats {} rfl rfl [
    ⟨_, .setAlive "t" 1000⟩, ⟨_, .advance 400⟩, ⟨_, .setAlive "u" 5⟩, ⟨_, .setAlive "t" 300⟩,
    ⟨_, .purge⟩, ⟨_, .advance 300⟩]).2.1 "t"
  rw [hanswer]
  refine congrArg Except.ok (Bool.eq_false_iff.mpr fun htrue => ?_)
  obtain ⟨w, hlast, hfresh⟩ := halive.mp htrue
  have hw : w = ⟨"TERMINAL_ALIVE_t", "1", 400, 300⟩ := (Option.some.inj hlast).symm
  rw [hw] at hfresh
  exact absurd hfresh (by decide)

end Deployment
end GatewayRegistry
