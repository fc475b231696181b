import GatewayRegistry.Proofs.Config.Layers
import GatewayRegistry.Proofs.Runs.Copies

/-!
# Deadlines of heartbeats

How long a heartbeat keeps a terminal alive is configured, and no layer of the configuration bounds
it by less than the size of its type. The clock of a cache in the process ends before that: a
heartbeat is noted as long as its deadline is before the end of the clock, and refused from then on
(`Registry.heartbeat_eq`).
-/

namespace GatewayRegistry

/-- A number in the environment is the lifetime of a mark, in seconds, however great it is. -/
theorem Config.ttlSeconds_of_load {globalFile explicitFile : Option ConfigFile} {env : Environment}
    {c : Config} (h : load globalFile explicitFile env = .ok c) {n : Nat}
    (hn : numberBelow? env "JUMPGATE_LIVENESS_TTL" UInt64.size = some n) :
    c.liveness.ttlSeconds.toNat = n := by
  obtain ⟨c₀, rfl⟩ := eq_withOverrides_of_load h
  have hget := get_withOverrides .ttlSeconds env c₀
  have hbelow : n < UInt64.size := by simpa using (Option.filter_eq_some_iff.mp hn).2
  rw [Field.override?, hn] at hget
  show (Field.get .ttlSeconds (c₀.withOverrides env)).toNat = n
  rw [hget]
  exact UInt64.toNat_ofNat_of_lt' hbelow

namespace Registry

def mark (r : Registry) (t : Terminal) (c : Cache) : CacheEntry where
  key := Cache.presenceKey t.id
  value := Cache.presenceMark
  deadline := c.clock + r.ttl

/-- A heartbeat is noted if its mark expires before the clock ends, and refused otherwise. -/
theorem heartbeat_eq (r : Registry) (t : Terminal) {d : Deployment}
    (hsite : d.cache.site = .inProcess) :
    r.heartbeat t d =
      if (r.mark t d.cache).deadline < Cache.clockEnd then
        (.ok (), { d with cache := d.cache.put (r.mark t d.cache) })
      else (.error (.cache .deadlineOverflow), d) := by
  have hset := Cache.set_of_inProcess hsite (Cache.presenceKey t.id) Cache.presenceMark r.ttl
  by_cases hdeadline : d.cache.clock + r.ttl < Cache.clockEnd
  · simp [heartbeat, writeCache, Cache.setAlive, mark, hset, hdeadline]
  · simp [heartbeat, writeCache, Cache.setAlive, mark, hset, hdeadline]

/-- All heartbeats up to some moment are noted exactly if the last one can be. -/
theorem heartbeat_until_iff (r : Registry) (horizon : Nat) :
    (∀ (t : Terminal) (d : Deployment), d.cache.site = .inProcess → d.cache.clock ≤ horizon →
      (r.heartbeat t d).1 = .ok ()) ↔ horizon + r.ttl < Cache.clockEnd := by
  constructor
  · intro h
    -- the last moment decides: there is a heartbeat at the horizon itself
    have hlast := h Deployment.newcomer { cache := { clock := horizon } } rfl (Nat.le_refl _)
    rw [heartbeat_eq _ _ rfl] at hlast
    split at hlast
    case isTrue hdeadline => exact hdeadline
    case isFalse => cases hlast
  · intro h t d hsite hclock
    have hdeadline : (r.mark t d.cache).deadline < Cache.clockEnd := by
      show d.cache.clock + r.ttl < Cache.clockEnd
      omega
    rw [heartbeat_eq _ _ hsite, if_pos hdeadline]

/-- With an accepted configuration and a cache in the process, a heartbeat is noted if its deadline
is before the end of the clock, and otherwise it fails and changes nothing. So how long heartbeats
are noted depends on the lifetime of a mark, which is what the layers say it is, and the environment
can make it as great as its type. -/
theorem heartbeat_fits_clock {globalFile explicitFile : Option ConfigFile}
    {env : Config.Environment}
    {c : Config} (h : Config.load globalFile explicitFile env = .ok c) :
    (∀ n, Config.numberBelow? env "JUMPGATE_LIVENESS_TTL" UInt64.size = some n →
      c.liveness.ttlSeconds.toNat = n) ∧
    (∀ global explicit, Config.Hold globalFile explicitFile global explicit →
      ∃ a, Config.Field.ttlSeconds.effective global explicit = .ok a ∧
        c.liveness.ttlSeconds = (Config.Field.ttlSeconds.override? env).getD a) ∧
    (∀ (t : Terminal) (d : Deployment), d.cache.site = .inProcess →
      heartbeat ⟨c⟩ t d =
        if d.cache.clock + Cache.second * c.liveness.ttlSeconds.toNat < Cache.clockEnd then
          (.ok (), { d with cache := d.cache.put (mark ⟨c⟩ t d.cache) })
        else (.error (.cache .deadlineOverflow), d)) ∧
    ∀ horizon, (∀ (t : Terminal) (d : Deployment), d.cache.site = .inProcess →
      d.cache.clock ≤ horizon → (heartbeat ⟨c⟩ t d).1 = .ok ()) ↔
        horizon + Cache.second * c.liveness.ttlSeconds.toNat < Cache.clockEnd := by
  refine ⟨?_, ?_, ?_, ?_⟩
  · intro n hn
    exact Config.ttlSeconds_of_load h hn
  · intro global explicit hold
    exact (hold.load_eq_ok_iff env).mp h .ttlSeconds
  · intro t d hsite
    exact heartbeat_eq ⟨c⟩ t hsite
  · intro horizon
    exact heartbeat_until_iff ⟨c⟩ horizon

/-- An environment that gives only the lifetime of a mark. -/
def lifetime (text : String) : Config.Environment :=
  fun name => if name == "JUMPGATE_LIVENESS_TTL" then some text else none

/-- The longest lifetime with which any heartbeat is noted: the clock has not shown a second yet. -/
theorem heartbeat_fits_clock_of_last_second :
    let c := ({} : Config).withOverrides (lifetime "9223372036854775807")
    let d : Deployment := { cache := { clock := 999999999 } }
    Config.load none none (lifetime "9223372036854775807") = .ok c ∧
    c.liveness.ttlSeconds.toNat = 9223372036854775807 ∧
    heartbeat ⟨c⟩ Deployment.newcomer d =
      (.ok (), { d with cache := d.cache.put (mark ⟨c⟩ Deployment.newcomer d.cache) }) := by
  intro c d
  have hload := Config.load_none (lifetime "9223372036854775807")
  obtain ⟨hlifetime, _, hheartbeat, _⟩ := heartbeat_fits_clock hload
  have hseconds := hlifetime 9223372036854775807 rfl
  have hnoted := hheartbeat Deployment.newcomer d rfl
  rw [hseconds, if_pos (by decide)] at hnoted
  exact ⟨hload, hseconds, hnoted⟩

/-- The greatest lifetime is accepted, and then not even the first heartbeat is noted. -/
theorem heartbeat_overflows :
    ¬∀ (globalFile explicitFile : Option ConfigFile) (env : Config.Environment) (c : Config),
      Config.load globalFile explicitFile env = .ok c → ∀ (t : Terminal) (d : Deployment),
        d.cache.site = .inProcess → (heartbeat ⟨c⟩ t d).1 = .ok () := by
  intro h
  have hload := Config.load_none (lifetime "18446744073709551615")
  have hseconds := Config.ttlSeconds_of_load hload (n := 18446744073709551615) rfl
  have hfits := (heartbeat_until_iff ⟨_⟩ 0).mp fun t d hsite _ => h none none _ _ hload t d hsite
  rw [ttl, hseconds] at hfits
  exact absurd hfits (by decide)

end Registry
end GatewayRegistry
