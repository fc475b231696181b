import GatewayRegistry.Proofs.Config.Field
import GatewayRegistry.Proofs.Json.Reader
import GatewayRegistry.Proofs.Text.Whole

/-!
# Which layer decides

Every field of the configuration is taken from the highest layer that gives it, and from nowhere
else: from the environment for the few fields that it can replace, then from the explicit layer,
then from the global one, and last of all from the built-in values. A value in a lower layer does
no harm, however wrong it is, if a layer of files above it gives the field too. The value that
counts in the files has to be in order even where the environment replaces the field.
-/

namespace GatewayRegistry
namespace Config

variable {α : Type}

/-! ## One layer over another

The upper layer decides for each field that it gives, and leaves the others to the lower one. The
two fields that hold whole objects are never combined with what is below them. -/

namespace Field

/-- No field stands inside a value that is taken as a whole. -/
theorem eq_path_of_atomic {whole : Json.Path} (f : Field α) (h : whole ∈ atomicPaths)
    (hpre : whole <+: f.path) : whole = f.path := by
  simp only [atomicPaths, List.mem_cons, List.not_mem_nil, or_false] at h
  rcases h with rfl | rfl <;> cases f <;> simp_all [path]

/-- A field that is blended key by key accepts no object, and so the blend makes no difference. -/
theorem decode_obj {f : Field α} (h : f.path ∉ atomicPaths) (ms ms' : Members) :
    f.decode (.obj ms) = f.decode (.obj ms') := by
  cases f with
  | command | replay => exact absurd (by simp [path, atomicPaths]) h
  | _ => rfl

/-- For the decoder of a field it makes no difference what was below. -/
theorem decode_layAt (f : Field α) (lower : Option Json) (upper : Json) :
    f.decode (Json.layAt atomicPaths f.path lower upper) = f.decode upper := by
  unfold Json.layAt
  split
  · rfl
  case isFalse h =>
    split
    · rfl
    case h_2 lower =>
      -- only where both sides are objects is anything blended
      rcases Json.overlay_eq_or _ lower upper with heq | ⟨members, merged, hupper, hmerged⟩
      · rw [heq]
      · rw [hmerged, hupper]
        exact decode_obj h merged members

/-- A field is read from the upper layer if it is given there, and otherwise from the lower one. -/
theorem read_lay {lower upper : Json} (f : Field α) (hlower : IsLayer lower)
    (hupper : IsLayer upper) (hsorted : upper.Sorted) :
    f.read (lay lower upper) =
      match upper.at? f.path with
      | some u => f.decode u
      | none => f.read lower := by
  unfold read lay
  rw [Json.at?_overlay (hlower.openTo f) (hupper.openTo f) hsorted (by simp [atomicPaths])
    fun _ h hpre => f.eq_path_of_atomic h hpre]
  cases upper.at? f.path with
  | none => rfl
  | some u => exact f.decode_layAt _ u

end Field

/-! ## The layers of the files

The built-in values, the global file and the explicit one, in this order. A field has its effective
value from the topmost layer that gives it, and the topmost of all always gives every field in the
end, since the lowest one does. -/

/-- A layer whose members are in order, as they are in every layer that a file gives. -/
structure SortedLayer (v : Json) : Prop where
  isLayer : IsLayer v
  sorted : v.Sorted

namespace SortedLayer

theorem default : SortedLayer defaultLayer where
  isLayer := by
    refine ⟨_, rfl, ?_⟩
    simp [sections, Members.get?, DatabaseConfig.encode, LivenessConfig.encode,
      TerminalSettings.encode, SecuritySettings.encode, StorageDefaults.encode]
  sorted := by
    simp only [defaultLayer, encode, DatabaseConfig.encode, LivenessConfig.encode,
      TerminalSettings.encode, SecuritySettings.encode, StorageDefaults.encode, Json.Sorted,
      Json.MembersSorted, Option.elim, Members.keys, List.map]
    decide

theorem layOptional {lower : Json} {layer : Option Json} (hlower : SortedLayer lower)
    (h : ∀ v ∈ layer, SortedLayer v) : SortedLayer (layOptional lower layer) := by
  cases layer with
  | none => exact hlower
  | some upper =>
      obtain ⟨hupper, hsorted⟩ := h upper rfl
      exact {
        isLayer := .of_openTo fun f =>
          (hlower.isLayer.openTo f).overlay atomicPaths (hupper.openTo f) hsorted
        sorted := hlower.sorted.overlay atomicPaths hsorted }

end SortedLayer

namespace Field

/-- What the files say about a field: the explicit layer comes before the global one, also where it
holds null. -/
def given? (f : Field α) (global explicit : Option Json) : Option Json :=
  (explicit.bind (·.at? f.path)).or (global.bind (·.at? f.path))

/-- The value of a field that counts, decoded; the built-in one where the files say nothing. -/
def effective (f : Field α) (global explicit : Option Json) : Except DecodeError α :=
  match f.given? global explicit with
  | some u => f.decode u
  | none => .ok f.default

/-- The lowest layer gives the default of every field. -/
theorem read_defaultLayer (f : Field α) : f.read defaultLayer = .ok f.default := by
  cases f <;> rfl

theorem read_layOptional (f : Field α) {lower : Json} {layer : Option Json}
    (hlower : SortedLayer lower) (h : ∀ v ∈ layer, SortedLayer v) :
    f.read (layOptional lower layer) =
      match layer.bind (·.at? f.path) with
      | some u => f.decode u
      | none => f.read lower := by
  cases layer with
  | none => rfl
  | some upper => exact f.read_lay hlower.isLayer (h upper rfl).isLayer (h upper rfl).sorted

end Field

section

variable {global explicit global' explicit' : Option Json}
  (hglobal : ∀ v ∈ global, SortedLayer v) (hexplicit : ∀ v ∈ explicit, SortedLayer v)
  (hglobal' : ∀ v ∈ global', SortedLayer v) (hexplicit' : ∀ v ∈ explicit', SortedLayer v)

include hglobal hexplicit

/-- Reading a field from all layers at once is reading the value that counts. -/
theorem Field.read_layers (f : Field α) :
    f.read (layOptional (layOptional defaultLayer global) explicit) =
      f.effective global explicit := by
  rw [f.read_layOptional (SortedLayer.default.layOptional hglobal) hexplicit,
    f.read_layOptional .default hglobal, f.read_defaultLayer]
  unfold effective given?
  cases explicit.bind (·.at? f.path) with
  | some u => rfl
  | none => rw [Option.none_or]

/-- There is a configuration if every field has a value that can be decoded. -/
theorem layered_eq_ok_iff {c : Config} :
    layered global explicit = .ok c ↔
      ∀ {α} (f : Field α), f.effective global explicit = .ok (f.get c) := by
  have hall := (SortedLayer.default.layOptional hglobal).layOptional hexplicit
  unfold layered
  rw [decode_eq_ok_iff hall.sorted hall.isLayer]
  simp only [Field.read_layers hglobal hexplicit]

include hglobal' hexplicit'

/-- Files that agree in the effective values agree in the configuration, or in what is wrong with
it. -/
theorem layered_congr
    (h : ∀ {α} (f : Field α), f.effective global explicit = f.effective global' explicit') :
    layered global explicit = layered global' explicit' := by
  have hall := (SortedLayer.default.layOptional hglobal).layOptional hexplicit
  have hall' := (SortedLayer.default.layOptional hglobal').layOptional hexplicit'
  refine decode_congr hall.sorted hall'.sorted hall.isLayer hall'.isLayer fun f => ?_
  rw [f.read_layers hglobal hexplicit, f.read_layers hglobal' hexplicit', h]

end

/-! ## The environment

A few fields can be replaced from the environment. A number that cannot be read or is too great
counts as not given. -/

/-- The number below a bound that a variable holds. -/
def numberBelow? (env : Environment) (name : String) (bound : Nat) : Option Nat :=
  ((env name).bind Whole.written?).filter (· < bound)

/-- What the environment puts in the place of a field. -/
def Field.override? (env : Environment) : Field α → Option α
  | .databasePath => (env "JUMPGATE_DB_PATH").map some
  | .redisUrl => (env "JUMPGATE_REDIS_URL").map some
  | .loginTitle => env "JUMPGATE_LOGIN_TITLE"
  | .ttlSeconds => (numberBelow? env "JUMPGATE_LIVENESS_TTL" UInt64.size).map UInt64.ofNat
  | .maxIdleTime => (numberBelow? env "JUMPGATE_MAX_IDLE_TIME" UInt32.size).map UInt32.ofNat
  | _ => none

section

variable (f : Field α) (env : Environment) (name : String) (c : Config)

theorem get_override {bound : Nat} (hbound : 0 < bound) (set : Nat → Config → Config) :
    f.get (override env name (bound - 1) set c) =
      ((numberBelow? env name bound).map fun n => f.get (set n c)).getD (f.get c) := by
  unfold override numberBelow?
  cases env name with
  | none => rfl
  | some text =>
      -- the bound is given exclusively here and inclusively there
      have hbelow : (fun n => decide (n < bound)) = fun n => decide (n ≤ bound - 1) := by
        funext n
        rw [decide_eq_decide]
        omega
      simp only [Option.bind_some, hbelow, ← Whole.toOption_readUnsigned]
      cases Whole.readUnsigned (bound - 1) text <;> rfl

theorem get_overrideText (set : String → Config → Config) :
    f.get (overrideText env name set c) =
      ((env name).map fun s => f.get (set s c)).getD (f.get c) := by
  unfold overrideText
  cases env name <;> rfl

/-- Replacing one field leaves the others as they are. -/
theorem get_override_of_same (greatest : Nat) {set : Nat → Config → Config}
    (h : ∀ n c, f.get (set n c) = f.get c) :
    f.get (override env name greatest set c) = f.get c := by
  unfold override
  split
  · rfl
  · split
    · exact h _ c
    · rfl

theorem get_overrideText_of_same {set : String → Config → Config}
    (h : ∀ s c, f.get (set s c) = f.get c) : f.get (overrideText env name set c) = f.get c := by
  unfold overrideText
  split
  · rfl
  · exact h _ c

/-- A field is what the environment puts in its place, if it puts anything there. -/
theorem get_withOverrides : f.get (c.withOverrides env) = (f.override? env).getD (f.get c) := by
  -- the last variable stands outermost, and every one but the field's own leaves the field
  unfold withOverrides
  cases f with
  | databasePath =>
      rw [get_override_of_same, get_overrideText_of_same, get_overrideText_of_same,
        get_override_of_same, get_overrideText]
      · rfl
      all_goals exact fun _ _ => rfl
  | ttlSeconds =>
      rw [get_override_of_same, get_overrideText_of_same, get_overrideText_of_same,
        get_override _ _ _ _ (by decide), get_overrideText_of_same]
      · rfl
      all_goals exact fun _ _ => rfl
  | redisUrl =>
      rw [get_override_of_same, get_overrideText_of_same, get_overrideText, get_override_of_same,
        get_overrideText_of_same]
      · rfl
      all_goals exact fun _ _ => rfl
  | loginTitle =>
      rw [get_override_of_same, get_overrideText, get_overrideText_of_same, get_override_of_same,
        get_overrideText_of_same]
      · show (Option.map id (env "JUMPGATE_LOGIN_TITLE")).getD _ = _
        rw [Option.map_id]
        rfl
      all_goals exact fun _ _ => rfl
  | maxIdleTime =>
      rw [get_override _ _ _ _ (by decide), get_overrideText_of_same, get_overrideText_of_same,
        get_override_of_same, get_overrideText_of_same]
      · rfl
      all_goals exact fun _ _ => rfl
  | _ =>
      rw [get_override_of_same, get_overrideText_of_same, get_overrideText_of_same,
        get_override_of_same, get_overrideText_of_same]
      · rfl
      all_goals exact fun _ _ => rfl

end

/-! ## All layers -/

/-- The environment has the last word, whatever the files hold. -/
theorem eq_withOverrides_of_load {globalFile explicitFile : Option ConfigFile} {env : Environment}
    {c : Config} (h : load globalFile explicitFile env = .ok c) : ∃ c₀ : Config, c = c₀.withOverrides env := by
  obtain ⟨global, _, h⟩ := bind_eq_ok_iff.mp h
  obtain ⟨explicit, _, h⟩ := bind_eq_ok_iff.mp h
  unfold ofLayers at h
  cases hfiles : layered global explicit with
  | error e =>
      rw [hfiles] at h
      cases h
  | ok c₀ =>
      rw [hfiles] at h
      cases h
      exact ⟨c₀, rfl⟩

/-- Without files, the environment is laid over the built-in values. -/
theorem load_none (env : Environment) :
    load none none env = .ok (({} : Config).withOverrides env) := by
  have hlayered : layered none none = .ok {} :=
    (layered_eq_ok_iff (by simp) (by simp)).mpr fun _ => rfl
  show ofLayers none none env = _
  unfold ofLayers
  rw [hlayered]

/-- Two files hold a global layer and an explicit one. Either may be missing. -/
structure Hold (globalFile explicitFile : Option ConfigFile) (global explicit : Option Json) :
    Prop where
  globalLayer_eq : globalLayer globalFile = .ok global
  explicitLayer_eq : explicitLayer explicitFile = .ok explicit
  global_isLayer : ∀ v ∈ global, IsLayer v
  explicit_isLayer : ∀ v ∈ explicit, IsLayer v

/-- What a file holds is sorted, because it was read from a text. -/
theorem sorted_of_read {file : ConfigFile} {v : Json} (h : file.read = .ok v) : v.Sorted := by
  unfold ConfigFile.read at h
  split at h
  · cases h
  · split at h
    case h_1 hparse =>
      cases h
      exact Json.sorted_of_parse? hparse
    case h_2 => cases h

theorem sorted_of_map_read {file : ConfigFile} {layer : Option Json}
    (h : file.read.map some = .ok layer) : ∀ v ∈ layer, v.Sorted := by
  cases hread : file.read with
  | error e =>
      rw [hread] at h
      cases h
  | ok v =>
      rw [hread] at h
      cases h
      rintro _ ⟨⟩
      exact sorted_of_read hread

theorem sorted_of_globalLayer {file : Option ConfigFile} {layer : Option Json}
    (h : globalLayer file = .ok layer) : ∀ v ∈ layer, v.Sorted := by
  unfold globalLayer at h
  split at h
  · cases h
    nofun
  · split at h
    · exact sorted_of_map_read h
    · cases h
      nofun

theorem sorted_of_explicitLayer {file : Option ConfigFile} {layer : Option Json}
    (h : explicitLayer file = .ok layer) : ∀ v ∈ layer, v.Sorted := by
  unfold explicitLayer at h
  split at h
  · cases h
    nofun
  · exact sorted_of_map_read h

namespace Hold

variable {globalFile explicitFile : Option ConfigFile} {global explicit : Option Json}

theorem sortedGlobal (h : Hold globalFile explicitFile global explicit) :
    ∀ v ∈ global, SortedLayer v := fun v hv =>
  ⟨h.global_isLayer v hv, sorted_of_globalLayer h.globalLayer_eq v hv⟩

theorem sortedExplicit (h : Hold globalFile explicitFile global explicit) :
    ∀ v ∈ explicit, SortedLayer v := fun v hv =>
  ⟨h.explicit_isLayer v hv, sorted_of_explicitLayer h.explicitLayer_eq v hv⟩

/-- Files that hold layers are loaded as those layers. -/
theorem load_eq (h : Hold globalFile explicitFile global explicit) (env : Environment) :
    load globalFile explicitFile env = ofLayers global explicit env := by
  unfold load
  rw [h.globalLayer_eq, h.explicitLayer_eq]
  rfl

/-- Which configuration is loaded, said of each field. -/
theorem load_eq_ok_iff (h : Hold globalFile explicitFile global explicit) (env : Environment)
    {c : Config} :
    load globalFile explicitFile env = .ok c ↔ ∀ {α} (f : Field α),
      ∃ a, f.effective global explicit = .ok a ∧ f.get c = (f.override? env).getD a := by
  have hlayered {c : Config} := layered_eq_ok_iff (c := c) h.sortedGlobal h.sortedExplicit
  rw [h.load_eq]
  unfold ofLayers
  constructor
  · intro hload α f
    cases hfiles : layered global explicit with
    | error e =>
        rw [hfiles] at hload
        cases hload
    | ok c₀ =>
        rw [hfiles] at hload
        cases hload
        exact ⟨f.get c₀, hlayered.mp hfiles f, get_withOverrides f env c₀⟩
  · intro hfields
    -- the values that count make up the configuration before the environment replaces any
    choose value hvalue hget using @hfields
    have hfiles : layered global explicit = .ok (Field.assemble value) :=
      hlayered.mpr fun f => by rw [Field.get_assemble, hvalue]
    rw [hfiles]
    refine congrArg Except.ok (Field.ext fun f => ?_)
    rw [get_withOverrides, Field.get_assemble, hget]

end Hold

/-- The configuration of two files and an environment, field by field. There is one if and only if
for every field the value that counts can be decoded, that of the explicit file before that of the
global one and the built-in one where neither gives any; its fields are those values, but for the
few that the environment replaces; and nothing else in the files matters, not even for what is
reported as wrong. -/
theorem load_from_highest_layer {globalFile explicitFile : Option ConfigFile}
    {global explicit : Option Json} (h : Hold globalFile explicitFile global explicit)
    (env : Environment) :
    ((∃ c, load globalFile explicitFile env = .ok c) ↔
      ∀ {α} (f : Field α), ∃ a, f.effective global explicit = .ok a) ∧
    (∀ c, load globalFile explicitFile env = .ok c ↔ ∀ {α} (f : Field α),
      ∃ a, f.effective global explicit = .ok a ∧ f.get c = (f.override? env).getD a) ∧
    ∀ {globalFile' explicitFile' : Option ConfigFile} {global' explicit' : Option Json},
      Hold globalFile' explicitFile' global' explicit' →
      (∀ {α} (f : Field α), f.effective global explicit = f.effective global' explicit') →
      load globalFile explicitFile env = load globalFile' explicitFile' env := by
  refine ⟨⟨?_, ?_⟩, fun c => h.load_eq_ok_iff env, ?_⟩
  · rintro ⟨c, hload⟩ α f
    obtain ⟨a, ha, _⟩ := (h.load_eq_ok_iff env).mp hload f
    exact ⟨a, ha⟩
  · intro hfields
    -- one value for each field makes a configuration
    choose value hvalue using @hfields
    refine ⟨Field.assemble fun f => (f.override? env).getD (value f), ?_⟩
    exact (h.load_eq_ok_iff env).mpr fun f => ⟨value f, hvalue f, Field.get_assemble _ f⟩
  · intro globalFile' explicitFile' global' explicit' h' hsame
    rw [h.load_eq, h'.load_eq]
    unfold ofLayers
    rw [layered_congr h.sortedGlobal h.sortedExplicit h'.sortedGlobal h'.sortedExplicit hsame]

/-! ### Two files -/

/-- A global file whose title is not a text, and which sets a backend for commands. -/
def overruledFile : ConfigFile where
  path := "global.json"
  content := .bytes "\x7b\"login_title\":7,\"storage\":\x7b\"command\":\x7b\"A\":1\x7d\x7d\x7d".toUTF8

/-- An explicit file over it, with a key that no field has. -/
def overrulingFile : ConfigFile where
  path := "settings.json"
  content := .bytes "\x7b\"login_title\":\"b\",\"storage\":\x7b\"command\":\x7b\"B\":[]\x7d\x7d,\"x\":null\x7d".toUTF8

def trimmedFile : ConfigFile where
  path := "settings.json"
  content := .bytes "\x7b\"login_title\":\"b\",\"storage\":\x7b\"command\":\x7b\"B\":[]\x7d\x7d\x7d".toUTF8

/-- One number of the right kind, and one that is not. -/
def twoNumbers : Environment
  | "JUMPGATE_LIVENESS_TTL" => some "5"
  | "JUMPGATE_MAX_IDLE_TIME" => some "-3"
  | _ => none

def overruledLayer : Json :=
  .obj [("login_title", .int 7), ("storage", .obj [("command", .obj [("A", .int 1)])])]

def overrulingLayer : Json :=
  .obj [("login_title", .str "b"), ("storage", .obj [("command", .obj [("B", .arr [])])]),
    ("x", .null)]

def trimmedLayer : Json :=
  .obj [("login_title", .str "b"), ("storage", .obj [("command", .obj [("B", .arr [])])])]

theorem hold_overruled :
    Hold (some overruledFile) (some overrulingFile) (some overruledLayer) (some overrulingLayer) where
  globalLayer_eq := by with_unfolding_all rfl
  explicitLayer_eq := by with_unfolding_all rfl
  global_isLayer := by
    rintro _ ⟨⟩
    exact ⟨_, rfl, by simp [sections, Members.get?]⟩
  explicit_isLayer := by
    rintro _ ⟨⟩
    exact ⟨_, rfl, by simp [sections, Members.get?]⟩

theorem hold_trimmed : Hold none (some trimmedFile) none (some trimmedLayer) where
  globalLayer_eq := rfl
  explicitLayer_eq := by with_unfolding_all rfl
  global_isLayer := nofun
  explicit_isLayer := by
    rintro _ ⟨⟩
    exact ⟨_, rfl, by simp [sections, Members.get?]⟩

theorem effective_overruled (f : Field α) :
    f.effective (some overruledLayer) (some overrulingLayer) =
      f.effective none (some trimmedLayer) := by
  cases f <;> rfl

theorem load_from_highest_layer_of_overruled :
    Hold (some overruledFile) (some overrulingFile) (some overruledLayer) (some overrulingLayer) ∧
    Hold none (some trimmedFile) none (some trimmedLayer) ∧
    ∃ c, load (some overruledFile) (some overrulingFile) twoNumbers = .ok c ∧
      c.loginTitle = "b" ∧ c.storage.command = .obj [("B", .arr [])] ∧
      c.liveness.ttlSeconds = 5 ∧ c.security.maxIdleTime = 30 ∧
      load none (some trimmedFile) twoNumbers = .ok c := by
  obtain ⟨hsome, hfields, hsame⟩ := load_from_highest_layer hold_overruled twoNumbers
  obtain ⟨c, hc⟩ := hsome.mpr fun f => by
    cases f <;> exact ⟨_, rfl⟩
  have hget {α : Type} (f : Field α) {a : α}
      (ha : f.effective (some overruledLayer) (some overrulingLayer) = .ok a) :
      f.get c = (f.override? twoNumbers).getD a := by
    obtain ⟨a', ha', hfield⟩ := (hfields c).mp hc f
    rw [ha] at ha'
    cases ha'
    exact hfield
  refine ⟨hold_overruled, hold_trimmed, c, hc, hget .loginTitle rfl, hget .command rfl,
    hget .ttlSeconds rfl, hget .maxIdleTime rfl, ?_⟩
  rw [← hsame hold_trimmed effective_overruled]
  exact hc

end Config
end GatewayRegistry
