import GatewayRegistry.Config.Load
import GatewayRegistry.Proofs.Json.Record

/-!
# The configuration, field by field

`Config.Field` names every field of the configuration together with the type of its value, the
place where it is written and the way it is decoded. A configuration is its fields
(`Field.get_assemble`, `Field.ext`), and decoding one is decoding each field from what is written
at its place: the fields decide whether there is a configuration and which one
(`Config.decode_eq_ok_iff`), and what is wrong if there is none (`Config.decode_congr`).

That holds of values that can be layers. Of values that cannot, two are decoded alike if they are
the same, or are the same but for sections that are objects and give the same for each of their
fields (`Config.Alike`).
-/

namespace GatewayRegistry
namespace Config

/-- A field of the configuration, by the type of its value. -/
inductive Field : Type → Type where
  | databasePath : Field (Option String)
  | maxConnections : Field UInt32
  | busyTimeoutSeconds : Field UInt64
  | ttlSeconds : Field UInt64
  | redisUrl : Field (Option String)
  | passwordAuth : Field Bool
  | publicKeyAuth : Field Bool
  | heartbeatInterval : Field UInt64
  | assetListSortBy : Field String
  | assetListPageSize : Field String
  | sessionKeepDuration : Field UInt32
  | hostKey : Field String
  | telnetRegex : Field String
  | maxIdleTime : Field UInt32
  | sessionShare : Field Bool
  | command : Field Json
  | replay : Field Json
  | loginTitle : Field String

namespace Field

variable {α : Type}

def path : Field α → Json.Path
  | .databasePath => ["database", "path"]
  | .maxConnections => ["database", "max_connections"]
  | .busyTimeoutSeconds => ["database", "busy_timeout_secs"]
  | .ttlSeconds => ["liveness", "ttl_secs"]
  | .redisUrl => ["liveness", "redis_url"]
  | .passwordAuth => ["terminal", "password_auth"]
  | .publicKeyAuth => ["terminal", "public_key_auth"]
  | .heartbeatInterval => ["terminal", "heartbeat_interval"]
  | .assetListSortBy => ["terminal", "asset_list_sort_by"]
  | .assetListPageSize => ["terminal", "asset_list_page_size"]
  | .sessionKeepDuration => ["terminal", "session_keep_duration"]
  | .hostKey => ["terminal", "host_key"]
  | .telnetRegex => ["terminal", "telnet_regex"]
  | .maxIdleTime => ["security", "max_idle_time"]
  | .sessionShare => ["security", "session_share"]
  | .command => ["storage", "command"]
  | .replay => ["storage", "replay"]
  | .loginTitle => ["login_title"]

/-- The values a field accepts. -/
def decode : Field α → Decoder α
  | .databasePath => Decode.nullable Decode.path
  | .redisUrl => Decode.nullable Decode.string
  | .maxConnections | .sessionKeepDuration | .maxIdleTime => Decode.uint32
  | .busyTimeoutSeconds | .ttlSeconds | .heartbeatInterval => Decode.uint64
  | .passwordAuth | .publicKeyAuth | .sessionShare => Decode.bool
  | .assetListSortBy | .assetListPageSize | .hostKey | .telnetRegex | .loginTitle => Decode.string
  | .command | .replay => Decode.any

def get : Field α → Config → α
  | .databasePath, c => c.database.path
  | .maxConnections, c => c.database.maxConnections
  | .busyTimeoutSeconds, c => c.database.busyTimeoutSeconds
  | .ttlSeconds, c => c.liveness.ttlSeconds
  | .redisUrl, c => c.liveness.redisUrl
  | .passwordAuth, c => c.terminal.passwordAuth
  | .publicKeyAuth, c => c.terminal.publicKeyAuth
  | .heartbeatInterval, c => c.terminal.heartbeatInterval
  | .assetListSortBy, c => c.terminal.assetListSortBy
  | .assetListPageSize, c => c.terminal.assetListPageSize
  | .sessionKeepDuration, c => c.terminal.sessionKeepDuration
  | .hostKey, c => c.terminal.hostKey
  | .telnetRegex, c => c.terminal.telnetRegex
  | .maxIdleTime, c => c.security.maxIdleTime
  | .sessionShare, c => c.security.sessionShare
  | .command, c => c.storage.command
  | .replay, c => c.storage.replay
  | .loginTitle, c => c.loginTitle

def default (f : Field α) : α := f.get {}

/-- The configuration that has a given value in each field. -/
def assemble (value : ∀ {α}, Field α → α) : Config where
  database := ⟨value .databasePath, value .maxConnections, value .busyTimeoutSeconds⟩
  liveness := ⟨value .ttlSeconds, value .redisUrl⟩
  terminal :=
    ⟨value .passwordAuth, value .publicKeyAuth, value .heartbeatInterval, value .assetListSortBy,
      value .assetListPageSize, value .sessionKeepDuration, value .hostKey, value .telnetRegex⟩
  security := ⟨value .maxIdleTime, value .sessionShare⟩
  storage := ⟨value .command, value .replay⟩
  loginTitle := value .loginTitle

theorem get_assemble (value : ∀ {α}, Field α → α) (f : Field α) :
    f.get (assemble value) = value f := by
  cases f <;> rfl

theorem assemble_get (c : Config) : assemble (fun f => f.get c) = c := rfl

/-- No other field makes a difference between two configurations. -/
theorem ext {c c' : Config} (h : ∀ {α} (f : Field α), f.get c = f.get c') : c = c' := by
  rw [← assemble_get c, ← assemble_get c']
  congr 1
  funext α f
  exact h f

/-- A statement about every field, section by section. -/
theorem forall_iff {P : ∀ {α}, Field α → Prop} :
    (∀ {α} (f : Field α), P f) ↔
      (P databasePath ∧ P maxConnections ∧ P busyTimeoutSeconds) ∧
      (P ttlSeconds ∧ P redisUrl) ∧
      (P passwordAuth ∧ P publicKeyAuth ∧ P heartbeatInterval ∧ P assetListSortBy ∧
        P assetListPageSize ∧ P sessionKeepDuration ∧ P hostKey ∧ P telnetRegex) ∧
      (P maxIdleTime ∧ P sessionShare) ∧
      (P command ∧ P replay) ∧
      P loginTitle := by
  constructor
  · intro h
    simp only [h, and_self]
  -- a statement about each field is a statement about each type of field
  · rintro h α f
    cases f <;> simp only [h]

/-- What is said about a field by the value at its place; the built-in value where there is none. -/
def readAt (f : Field α) : Option Json → Except DecodeError α
  | some u => f.decode u
  | none => .ok f.default

def key (f : Field α) : String := f.path.getLastD ""

/-- What some members say about the field whose key is among them; the built-in value where they
say nothing. -/
def readIn (f : Field α) (ms : Members) : Except DecodeError α :=
  match ms.get? f.key with
  | some u => f.decode u
  | none => .ok f.default

/-- The section in which a field stands. -/
def sectionName? (f : Field α) : Option String :=
  match f.path with
  | [name, _] => some name
  | _ => none

/-- The members of an object among which a field stands: those of its section, if it has one. -/
def home (f : Field α) (ms : Members) : Members :=
  match f.sectionName? with
  | some name => Decode.within ms name
  | none => ms

/-- What a value says about a field; the built-in value where it says nothing. -/
def read (f : Field α) (v : Json) : Except DecodeError α :=
  match v.at? f.path with
  | some u => f.decode u
  | none => .ok f.default

end Field
end Config

/-! ## Decoding a section

A section is a record of its fields. For each of the five there are three facts: what an empty one
gives, that it is decoded field by field, and that nothing but its fields matters. They differ in
the fields only, but those are of different types, so the facts are stated one by one. -/

theorem DatabaseConfig.decode_nil : DatabaseConfig.decode (.obj []) = .ok {} := rfl

theorem LivenessConfig.decode_nil : LivenessConfig.decode (.obj []) = .ok {} := rfl

theorem TerminalSettings.decode_nil : TerminalSettings.decode (.obj []) = .ok {} := rfl

theorem SecuritySettings.decode_nil : SecuritySettings.decode (.obj []) = .ok {} := rfl

theorem StorageDefaults.decode_nil : StorageDefaults.decode (.obj []) = .ok {} := rfl

section

open Decode Decode.Fields

variable {ms ms' : Members} (h : (Json.obj ms).Sorted) (h' : (Json.obj ms').Sorted)

include h

theorem DatabaseConfig.decode_eq_ok_iff {c : DatabaseConfig} :
    DatabaseConfig.decode (.obj ms) = .ok c ↔
      Config.Field.databasePath.readIn ms = .ok c.path ∧
      Config.Field.maxConnections.readIn ms = .ok c.maxConnections ∧
      Config.Field.busyTimeoutSeconds.readIn ms = .ok c.busyTimeoutSeconds := by
  rw [DatabaseConfig.decode, record_eq_ok_iff (Json.nodup_keys_of_sorted h)]
  simp only [ofMembers_seq_iff, ofMembers_pure_iff]
  constructor
  · rintro ⟨_, h₁, _, h₂, _, h₃, rfl⟩
    exact ⟨h₁, h₂, h₃⟩
  · rintro ⟨h₁, h₂, h₃⟩
    exact ⟨_, h₁, _, h₂, _, h₃, rfl⟩

theorem LivenessConfig.decode_eq_ok_iff {c : LivenessConfig} :
    LivenessConfig.decode (.obj ms) = .ok c ↔
      Config.Field.ttlSeconds.readIn ms = .ok c.ttlSeconds ∧
      Config.Field.redisUrl.readIn ms = .ok c.redisUrl := by
  rw [LivenessConfig.decode, record_eq_ok_iff (Json.nodup_keys_of_sorted h)]
  simp only [ofMembers_seq_iff, ofMembers_pure_iff]
  constructor
  · rintro ⟨_, h₁, _, h₂, rfl⟩
    exact ⟨h₁, h₂⟩
  · rintro ⟨h₁, h₂⟩
    exact ⟨_, h₁, _, h₂, rfl⟩

theorem TerminalSettings.decode_eq_ok_iff {c : TerminalSettings} :
    TerminalSettings.decode (.obj ms) = .ok c ↔
      Config.Field.passwordAuth.readIn ms = .ok c.passwordAuth ∧
      Config.Field.publicKeyAuth.readIn ms = .ok c.publicKeyAuth ∧
      Config.Field.heartbeatInterval.readIn ms = .ok c.heartbeatInterval ∧
      Config.Field.assetListSortBy.readIn ms = .ok c.assetListSortBy ∧
      Config.Field.assetListPageSize.readIn ms = .ok c.assetListPageSize ∧
      Config.Field.sessionKeepDuration.readIn ms = .ok c.sessionKeepDuration ∧
      Config.Field.hostKey.readIn ms = .ok c.hostKey ∧
      Config.Field.telnetRegex.readIn ms = .ok c.telnetRegex := by
  rw [TerminalSettings.decode, record_eq_ok_iff (Json.nodup_keys_of_sorted h)]
  simp only [ofMembers_seq_iff, ofMembers_pure_iff]
  constructor
  · rintro ⟨_, h₁, _, h₂, _, h₃, _, h₄, _, h₅, _, h₆, _, h₇, _, h₈, rfl⟩
    exact ⟨h₁, h₂, h₃, h₄, h₅, h₆, h₇, h₈⟩
  · rintro ⟨h₁, h₂, h₃, h₄, h₅, h₆, h₇, h₈⟩
    exact ⟨_, h₁, _, h₂, _, h₃, _, h₄, _, h₅, _, h₆, _, h₇, _, h₈, rfl⟩

theorem SecuritySettings.decode_eq_ok_iff {c : SecuritySettings} :
    SecuritySettings.decode (.obj ms) = .ok c ↔
      Config.Field.maxIdleTime.readIn ms = .ok c.maxIdleTime ∧
      Config.Field.sessionShare.readIn ms = .ok c.sessionShare := by
  rw [SecuritySettings.decode, record_eq_ok_iff (Json.nodup_keys_of_sorted h)]
  simp only [ofMembers_seq_iff, ofMembers_pure_iff]
  constructor
  · rintro ⟨_, h₁, _, h₂, rfl⟩
    exact ⟨h₁, h₂⟩
  · rintro ⟨h₁, h₂⟩
    exact ⟨_, h₁, _, h₂, rfl⟩

theorem StorageDefaults.decode_eq_ok_iff {c : StorageDefaults} :
    StorageDefaults.decode (.obj ms) = .ok c ↔
      Config.Field.command.readIn ms = .ok c.command ∧
      Config.Field.replay.readIn ms = .ok c.replay := by
  rw [StorageDefaults.decode, record_eq_ok_iff (Json.nodup_keys_of_sorted h)]
  simp only [ofMembers_seq_iff, ofMembers_pure_iff]
  constructor
  · rintro ⟨_, h₁, _, h₂, rfl⟩
    exact ⟨h₁, h₂⟩
  · rintro ⟨h₁, h₂⟩
    exact ⟨_, h₁, _, h₂, rfl⟩

include h'

theorem DatabaseConfig.decode_congr
    (hread : ∀ {α} (f : Config.Field α), f.sectionName? = some "database" →
      f.readIn ms = f.readIn ms') :
    DatabaseConfig.decode (.obj ms) = DatabaseConfig.decode (.obj ms') := by
  rw [DatabaseConfig.decode]
  refine record_congr (Json.sorted_obj_iff.mp h).1 (Json.sorted_obj_iff.mp h').1 ?_
  repeat' apply Agree.seq
  · exact .pure _
  · exact .withDefault (hread .databasePath rfl)
  · exact .withDefault (hread .maxConnections rfl)
  · exact .withDefault (hread .busyTimeoutSeconds rfl)

theorem LivenessConfig.decode_congr
    (hread : ∀ {α} (f : Config.Field α), f.sectionName? = some "liveness" →
      f.readIn ms = f.readIn ms') :
    LivenessConfig.decode (.obj ms) = LivenessConfig.decode (.obj ms') := by
  rw [LivenessConfig.decode]
  refine record_congr (Json.sorted_obj_iff.mp h).1 (Json.sorted_obj_iff.mp h').1 ?_
  repeat' apply Agree.seq
  · exact .pure _
  · exact .withDefault (hread .ttlSeconds rfl)
  · exact .withDefault (hread .redisUrl rfl)

theorem TerminalSettings.decode_congr
    (hread : ∀ {α} (f : Config.Field α), f.sectionName? = some "terminal" →
      f.readIn ms = f.readIn ms') :
    TerminalSettings.decode (.obj ms) = TerminalSettings.decode (.obj ms') := by
  rw [TerminalSettings.decode]
  refine record_congr (Json.sorted_obj_iff.mp h).1 (Json.sorted_obj_iff.mp h').1 ?_
  repeat' apply Agree.seq
  · exact .pure _
  · exact .withDefault (hread .passwordAuth rfl)
  · exact .withDefault (hread .publicKeyAuth rfl)
  · exact .withDefault (hread .heartbeatInterval rfl)
  · exact .withDefault (hread .assetListSortBy rfl)
  · exact .withDefault (hread .assetListPageSize rfl)
  · exact .withDefault (hread .sessionKeepDuration rfl)
  · exact .withDefault (hread .hostKey rfl)
  · exact .withDefault (hread .telnetRegex rfl)

theorem SecuritySettings.decode_congr
    (hread : ∀ {α} (f : Config.Field α), f.sectionName? = some "security" →
      f.readIn ms = f.readIn ms') :
    SecuritySettings.decode (.obj ms) = SecuritySettings.decode (.obj ms') := by
  rw [SecuritySettings.decode]
  refine record_congr (Json.sorted_obj_iff.mp h).1 (Json.sorted_obj_iff.mp h').1 ?_
  repeat' apply Agree.seq
  · exact .pure _
  · exact .withDefault (hread .maxIdleTime rfl)
  · exact .withDefault (hread .sessionShare rfl)

theorem StorageDefaults.decode_congr
    (hread : ∀ {α} (f : Config.Field α), f.sectionName? = some "storage" →
      f.readIn ms = f.readIn ms') :
    StorageDefaults.decode (.obj ms) = StorageDefaults.decode (.obj ms') := by
  rw [StorageDefaults.decode]
  refine record_congr (Json.sorted_obj_iff.mp h).1 (Json.sorted_obj_iff.mp h').1 ?_
  repeat' apply Agree.seq
  · exact .pure _
  · exact .withDefault (hread .command rfl)
  · exact .withDefault (hread .replay rfl)

end

/-! ## Decoding the configuration

A layer is an object whose sections are objects, if they are there. Only for layers does a path lead
through a section to its field (`IsLayer.openTo`). -/

namespace Config

/-- The names of the sections, in which all fields but the title stand. -/
def sections : List String := ["database", "liveness", "terminal", "security", "storage"]

/-- A value that can be a layer is an object, and so are the sections it has. -/
def IsLayer (v : Json) : Prop :=
  ∃ ms, v = .obj ms ∧
    ∀ name ∈ sections, ∀ u, Members.get? name ms = some u → ∃ inner, u = .obj inner

namespace IsLayer

/-- In a layer the way to every field is open. -/
theorem openTo {v : Json} (h : IsLayer v) {α : Type} (f : Field α) : v.OpenTo f.path := by
  obtain ⟨ms, rfl, hsections⟩ := h
  have hsection : ∀ name ∈ sections, ∀ key, (Json.obj ms).OpenTo [name, key] := by
    intro name hname key
    refine ⟨ms, rfl, fun u hu => ?_⟩
    obtain ⟨inner, rfl⟩ := hsections name hname u hu
    exact ⟨inner, rfl, fun _ _ => trivial⟩
  cases f with
  | loginTitle => exact ⟨ms, rfl, fun _ _ => trivial⟩
  | _ => exact hsection _ (by simp [sections]) _

/-- If the way to every field is open, the value is a layer. -/
theorem of_openTo {v : Json} (h : ∀ {α} (f : Field α), v.OpenTo f.path) : IsLayer v := by
  obtain ⟨ms, rfl, _⟩ := h .loginTitle
  -- one field of each section is enough
  have hsection {name key : String} (hopen : (Json.obj ms).OpenTo [name, key]) (u : Json)
      (hu : Members.get? name ms = some u) : ∃ inner, u = .obj inner := by
    obtain ⟨_, hms, hinner⟩ := hopen
    cases hms
    obtain ⟨inner, rfl, _⟩ := hinner u hu
    exact ⟨inner, rfl⟩
  refine ⟨ms, rfl, ?_⟩
  simp only [sections, List.forall_mem_cons, List.not_mem_nil, false_implies, implies_true,
    and_true]
  exact ⟨hsection (h .databasePath), hsection (h .ttlSeconds), hsection (h .passwordAuth),
    hsection (h .maxIdleTime), hsection (h .command)⟩

variable {ms ms' : Members} {name : String}

theorem section_eq_obj (h : IsLayer (.obj ms)) (hname : name ∈ sections) (u : Json)
    (hu : ms.get? name = some u) : ∃ inner, u = .obj inner := by
  obtain ⟨_, hms, hsections⟩ := h
  cases hms
  exact hsections name hname u hu

/-- A field is read from the members among which it stands. -/
theorem read_eq_readIn (h : IsLayer (.obj ms)) {α : Type} (f : Field α) :
    f.read (.obj ms) = f.readIn (f.home ms) := by
  have hat : (Json.obj ms).at? f.path = (f.home ms).get? f.key := by
    cases f with
    | loginTitle => exact Option.bind_fun_some _
    | _ => exact Decode.at?_within (h.section_eq_obj (by simp [sections])) _
  unfold Field.read Field.readIn
  rw [hat]

/-- A section that is left out is one without members. -/
theorem section_eq_decode (h : IsLayer (.obj ms)) (hname : name ∈ sections) {α : Type}
    {decode : Decoder α} {default : α} (hdefault : decode (.obj []) = .ok default) :
    (Decode.withDefault name decode default).ofMembers ms =
      decode (.obj (Decode.within ms name)) :=
  Decode.ofMembers_withDefault_record hdefault (h.section_eq_obj hname)

end IsLayer

/-! ## Values that give the same for every field

Two values may differ in what no field is read from, and they may both be wrong. `Alike` follows the
decoder: the values are the same, or objects that agree section by section and field by field. -/

variable {α : Type} {v v' : Json}

/-- At a place two values give the same for the field that stands there, if one does. -/
def SameField (path : Json.Path) (u u' : Option Json) : Prop :=
  ∀ {α} (f : Field α), f.path = path → f.readAt u = f.readAt u'

/-- Two sections are the same, or are objects that give the same for each of their fields. -/
def SameSection (name : String) (u u' : Option Json) : Prop :=
  Json.SameOr (fun key => SameField [name, key]) (u.getD (.obj [])) (u'.getD (.obj []))

/-- Under a key stand the same sections, if it names one, and the same field. -/
def SameMember (name : String) (u u' : Option Json) : Prop :=
  (name ∈ sections → SameSection name u u') ∧ SameField [name] u u'

/-- Two values are the same, or are objects that have the same under each key. -/
def Alike (v v' : Json) : Prop := Json.SameOr SameMember v v'

/-- Members that give the same for each field do so for the fields of one section. -/
theorem readIn_congr {name : String} {ms ms' : Members}
    (h : ∀ key, SameField [name, key] (ms.get? key) (ms'.get? key)) (f : Field α)
    (hf : f.sectionName? = some name) : f.readIn ms = f.readIn ms' := by
  refine h f.key f ?_
  cases f <;> cases hf <;> rfl

/-! ## Decoding field by field -/

section

open Decode Decode.Fields

/-- A configuration is decoded if each of its fields is. -/
theorem decode_eq_ok_iff {v : Json} (hsorted : v.Sorted) (hlayer : IsLayer v) {c : Config} :
    Config.decode v = .ok c ↔ ∀ {α} (f : Field α), f.read v = .ok (f.get c) := by
  obtain ⟨ms, rfl, _⟩ := id hlayer
  have hinner := Decode.sorted_within hsorted
  rw [Config.decode, record_eq_ok_iff (Json.nodup_keys_of_sorted hsorted)]
  simp only [hlayer.read_eq_readIn, Field.forall_iff, ofMembers_seq_iff, ofMembers_pure_iff]
  -- a section that is missing is decoded like one without members
  rw [hlayer.section_eq_decode (by simp [sections]) DatabaseConfig.decode_nil,
    hlayer.section_eq_decode (by simp [sections]) LivenessConfig.decode_nil,
    hlayer.section_eq_decode (by simp [sections]) TerminalSettings.decode_nil,
    hlayer.section_eq_decode (by simp [sections]) SecuritySettings.decode_nil,
    hlayer.section_eq_decode (by simp [sections]) StorageDefaults.decode_nil]
  simp only [DatabaseConfig.decode_eq_ok_iff (hinner _), LivenessConfig.decode_eq_ok_iff (hinner _),
    TerminalSettings.decode_eq_ok_iff (hinner _), SecuritySettings.decode_eq_ok_iff (hinner _),
    StorageDefaults.decode_eq_ok_iff (hinner _)]
  constructor
  · rintro ⟨_, h₁, _, h₂, _, h₃, _, h₄, _, h₅, _, h₆, rfl⟩
    exact ⟨h₁, h₂, h₃, h₄, h₅, h₆⟩
  · rintro ⟨h₁, h₂, h₃, h₄, h₅, h₆⟩
    exact ⟨c.database, h₁, c.liveness, h₂, c.terminal, h₃, c.security, h₄, c.storage, h₅,
      c.loginTitle, h₆, rfl⟩

/-- Sections that are the same for the fields are the same for the decoder. -/
theorem SameSection.agree {name : String} {decode : Decoder α} {default : α} {ms ms' : Members}
    (h : SameSection name (ms.get? name) (ms'.get? name)) (hnil : decode (.obj []) = .ok default)
    (hcongr : ∀ {inner inner'}, (Json.obj inner).Sorted → (Json.obj inner').Sorted →
      (∀ {α} (f : Field α), f.sectionName? = some name → f.readIn inner = f.readIn inner') →
        decode (.obj inner) = decode (.obj inner')) :
    (withDefault name decode default).Agree ms ms' := by
  -- a section that one side leaves out is compared as an object without members
  refine .withDefault ?_
  rw [ofMembers_withDefault_getD hnil, ofMembers_withDefault_getD hnil]
  unfold SameSection at h
  revert h
  generalize (ms.get? name).getD (.obj []) = v, (ms'.get? name).getD (.obj []) = v'
  intro h
  cases h with
  | same v => rfl
  | objects h h' hmembers => exact hcongr h h' (readIn_congr hmembers)

/-- What is decoded, or what is wrong, is the same. -/
theorem Alike.decode_eq (h : Alike v v') : Config.decode v = Config.decode v' := by
  cases h with
  | same v => rfl
  | @objects ms ms' h h' hmembers =>
      have hsection {name : String} (hname : name ∈ sections) := (hmembers name).1 hname
      rw [Config.decode]
      refine record_congr (Json.sorted_obj_iff.mp h).1 (Json.sorted_obj_iff.mp h').1 ?_
      repeat' apply Agree.seq
      · exact .pure _
      · exact (hsection (by simp [sections])).agree DatabaseConfig.decode_nil
          DatabaseConfig.decode_congr
      · exact (hsection (by simp [sections])).agree LivenessConfig.decode_nil
          LivenessConfig.decode_congr
      · exact (hsection (by simp [sections])).agree TerminalSettings.decode_nil
          TerminalSettings.decode_congr
      · exact (hsection (by simp [sections])).agree SecuritySettings.decode_nil
          SecuritySettings.decode_congr
      · exact (hsection (by simp [sections])).agree StorageDefaults.decode_nil
          StorageDefaults.decode_congr
      · exact .withDefault ((hmembers "login_title").2 .loginTitle rfl)

/-! ### Layers -/

/-- Layers from which each field is read alike are alike. -/
theorem Alike.of_layers (hsorted : v.Sorted) (hsorted' : v'.Sorted) (hlayer : IsLayer v)
    (hlayer' : IsLayer v') (hread : ∀ {α} (f : Field α), f.read v = f.read v') : Alike v v' := by
  obtain ⟨ms, rfl, hsections⟩ := hlayer
  obtain ⟨ms', rfl, hsections'⟩ := hlayer'
  refine .objects hsorted hsorted' fun name => ⟨fun hname => ?_, ?_⟩
  · unfold SameSection
    rw [getD_eq_within (hsections name hname), getD_eq_within (hsections' name hname)]
    refine .objects (sorted_within hsorted name) (sorted_within hsorted' name) ?_
    intro key α f hf
    rw [← at?_within (hsections name hname), ← at?_within (hsections' name hname), ← hf]
    exact hread f
  · intro α f hf
    -- a field outside the sections stands at the top
    have hat (ms : Members) : ms.get? name = (Json.obj ms).at? f.path := by
      rw [hf, Json.at?_obj_cons]
      exact (Option.bind_fun_some _).symm
    rw [hat, hat]
    exact hread f

/-- What is decoded, or what is wrong, is decided by what there is to read for each field. -/
theorem decode_congr (hsorted : v.Sorted) (hsorted' : v'.Sorted) (hlayer : IsLayer v)
    (hlayer' : IsLayer v') (hread : ∀ {α} (f : Field α), f.read v = f.read v') :
    Config.decode v = Config.decode v' :=
  (Alike.of_layers hsorted hsorted' hlayer hlayer' hread).decode_eq

end

end Config
end GatewayRegistry
