import GatewayRegistry.Proofs.Json.Reader
import GatewayRegistry.Proofs.Runs.Copies
import GatewayRegistry.Proofs.Runs.Frame

/-!
# What a gateway is told, and what changes it

The payload of a terminal has an entry for each setting of the registry and one for each kind of
storage backend, and no entry takes the place of another. What stands under the key of a kind
follows from the backends of that kind, the name that the terminal gives, and the default of that
kind (`Store.Tells`). So the payload stays as it is until a backend of such a kind and name is
created.
-/

namespace GatewayRegistry

/-! ## Backends

A backend stores its options as a text. If the text reads as an object, the settings are its members
and the type; if it reads as anything else or not at all, the backend is as good as missing. -/

namespace Store

variable {s : Store} {kind : BackendKind} {name : String}

def settingsOf (s : Store) (kind : BackendKind) (name : String) (default : Json) : Json :=
  ((s.backend? kind name).bind StorageBackend.settings?).getD default

end Store

/-! ## Payloads

A payload is a fixed list of entries, of which two are settings of backends. No key comes twice in
the list, so every entry is found in the document that is made of it. -/

namespace Registry

/-- The settings of the backend of a kind that a terminal names, in some store. -/
def settingsIn (r : Registry) (s : Store) (t : Terminal) (kind : BackendKind) : Json :=
  s.settingsOf kind (t.backendName kind) (r.config.storage.ofKind kind)

/-- The entries of a payload in the order in which they are put together. -/
def entriesIn (r : Registry) (s : Store) (t : Terminal) : List (String × Json) :=
  r.config.terminal.entries ++ [("TERMINAL_COMMAND_STORAGE", r.settingsIn s t .command)] ++
    [("TERMINAL_REPLAY_STORAGE", r.settingsIn s t .replay)] ++ [
    ("TERMINAL_HEADER_TITLE", .str r.config.loginTitle),
    ("SECURITY_MAX_IDLE_TIME", .int r.config.security.maxIdleTime.toNat),
    ("SECURITY_SESSION_SHARE", .bool r.config.security.sessionShare)]

/-- What a payload holds, put in order. -/
def told (r : Registry) (s : Store) (t : Terminal) : Members := Members.ofList (r.entriesIn s t)

variable {d : Deployment} {s s' : Store} {r : Registry} {t : Terminal}

end Registry

/-! ## Backends in runs

The payload depends on the two backends that the terminal names, and on nothing else that a run may
change. A backend is never changed once it is there, so only the creation of one with that name
matters. -/

namespace Store

variable {s : Store} {kind : BackendKind} {name : String}

/-- The backend of a kind and name is the same. -/
def SameBackend (kind : BackendKind) (name : String) (s s' : Store) : Prop :=
  s'.backend? kind name = s.backend? kind name

instance : IsPreorder Store (SameBackend kind name) where
  refl _ := rfl
  trans _ _ _ h h' := Eq.trans h' h

/-- What does not write to the table leaves the backend as it is. -/
theorem SameOutside.sameBackend {parts : List Part} {s' : Store} (h : SameOutside parts s s')
    (hparts : .backends kind ∉ parts) : SameBackend kind name s s' := by
  have hsame : s'.backends kind = s.backends kind := h (.backends kind) hparts
  unfold SameBackend backend?
  rw [hsame]

/-- A new backend is not found under another name. -/
theorem sameBackend_append {b : StorageBackend} (h : b.name ≠ name) :
    SameBackend kind name s (s.setBackends kind (s.backends kind ++ [b])) := by
  have hnone : [b].find? (·.name == name) = none := by simpa using h
  have hbackends : (s.setBackends kind (s.backends kind ++ [b])).backends kind =
      s.backends kind ++ [b] := by
    cases kind <;> rfl
  unfold SameBackend backend?
  rw [hbackends, List.find?_append, hnone, Option.or_none]

end Store

namespace Database

variable {α : Type} {kind : BackendKind} {name : String}

/-- The kind and the name of the backend that is to be created. -/
def Operation.createsBackend? : Operation α → Option (BackendKind × String)
  | createBackend kind _ name .. => some (kind, name)
  | _ => none

/-- A backend of another name makes no difference. -/
theorem createBackend_sameBackend {other : String} (h : other ≠ name) (id type options : String)
    (now : Int64) :
    Within Database.store (Store.SameBackend kind name) (createBackend kind id other type options now) := by
  refine Within.bind ?_ fun _ => Within.bind (within_query _) fun found => ?_
  · apply within_execute
    intro s s' hok
    obtain ⟨_, _, rfl⟩ := Store.insertBackend_eq_ok_iff.mp hok
    exact Store.sameBackend_append h
  · cases found with
    | none => exact Within.throw _
    | some b => exact Within.pure b

/-- Only the creation of the backend itself makes a difference. -/
theorem Operation.sameBackend (op : Operation α) (h : op.createsBackend? ≠ some (kind, name)) :
    Within Database.store (Store.SameBackend kind name) op.run := by
  cases op with
  | createBackend made id other type options now =>
      by_cases hkind : made = kind
      · subst hkind
        have hname : other ≠ name := fun hname => h (by rw [hname]; rfl)
        exact createBackend_sameBackend hname id type options now
      · have hparts : Store.Part.backends kind ∉ [Store.Part.backends made] := by
          simpa using Ne.symm hkind
        exact fun db => (createBackend_writes made id other type options now db).sameBackend hparts
  | _ => exact fun db => (Operation.writes _ db).sameBackend (by simp [Operation.written])

end Database

namespace Registry

variable {α : Type} {kind : BackendKind} {name : String}

/-- The kind and the name of the backend that is to be created. -/
def Operation.createsBackend? : Operation α → Option (BackendKind × String)
  | store op => op.createsBackend?
  | _ => none

theorem Operation.sameBackend (op : Operation α) (h : op.createsBackend? ≠ some (kind, name)) :
    Within storeOf (Store.SameBackend kind name) op.run := by
  cases op with
  | store op => exact within_onStore (op.sameBackend h)
  | _ => exact fun d => (Operation.writes _ d).sameBackend (by simp [Operation.written])

end Registry

namespace Deployment

variable {d : Deployment}

end Deployment
end GatewayRegistry
