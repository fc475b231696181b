import GatewayRegistry.Config.Load
import GatewayRegistry.Proofs.Json.Overlay

/-!
# Layers of configuration laid over each other

The laws of overlays for the two places that a configuration takes as a whole, the settings of the
storage backends (`Config.lay_laws`).
-/

namespace GatewayRegistry
namespace Config

/-- A configuration as a whole is combined with what is below it. -/
theorem nil_not_mem_atomicPaths : [] ∉ atomicPaths := by simp [atomicPaths]

/-- A layer over itself is that layer, and a layer counts once however often it is laid on top. The
upper layer decides at every path where it holds something other than an object, at or below a place
that is taken as a whole, and wherever the lower layer holds no object (or nothing at all). What it
leaves open within objects stays as it is in the lower layer. Layers may be combined in any order,
unless the middle one of three cuts off an object below it from one above it. -/
theorem lay_laws {a b c : Json} (ha : a.Sorted) (hb : b.Sorted) (hc : c.Sorted) :
    lay a a = a ∧
    lay (lay a b) b = lay a b ∧
    (∀ path v, b.at? path = some v →
      (¬v.IsObject ∨ (∃ whole ∈ atomicPaths, whole <+: path) ∨ ¬a.ObjectAt path) →
      (lay a b).at? path = some v) ∧
    (∀ path, (∀ above, above <+: path → above ≠ path →
        a.ObjectAt above ∧ b.ObjectAt above ∧ above ∉ atomicPaths) →
      b.at? path = none → (lay a b).at? path = a.at? path) ∧
    (¬Json.Cuts atomicPaths a b c → lay (lay a b) c = lay a (lay b c)) := by
  refine ⟨?_, ?_, ?_, ?_, ?_⟩
  · exact Json.overlay_self ha atomicPaths
  · exact Json.overlay_overlay_self ha hb nil_not_mem_atomicPaths
  · intro path v hv hwhole
    exact Json.at?_overlay_of_upper hb nil_not_mem_atomicPaths hv hwhole
  · intro path hway hnone
    exact Json.at?_overlay_of_none hb hway hnone
  · intro hcuts
    exact Json.overlay_assoc ha hb hc nil_not_mem_atomicPaths hcuts

/-- A search backend for commands, and a section of another name that is made like it. -/
def searchLayer : Json := .obj [
  ("archive", .obj [("storage", .obj [("command", .obj [("TYPE", .str "es")])])]),
  ("storage", .obj [("command", .obj [("HOSTS", .str "h"), ("TYPE", .str "es")])])]

def offLayer : Json := .obj [("storage", .obj [("command", .str "off")])]

/-- A bucket for commands. -/
def bucketLayer : Json := .obj [
  ("archive", .obj [("storage", .obj [("command", .obj [("BUCKET", .str "b")])])]),
  ("storage", .obj [("command", .obj [("TYPE", .str "s3")])])]

/-- The settings of a backend are replaced, and those that only look like it are combined. A layer
between the two that takes the backend away is no obstacle to combining the upper two first. -/
theorem lay_laws_of_backends :
    (lay searchLayer bucketLayer).at? ["storage", "command"] = some (.obj [("TYPE", .str "s3")]) ∧
    (lay searchLayer bucketLayer).at? ["archive", "storage", "command", "TYPE"] = some (.str "es") ∧
    lay (lay searchLayer offLayer) bucketLayer = lay searchLayer (lay offLayer bucketLayer) := by
  have hsearch : searchLayer.Sorted := by
    simp only [searchLayer, Json.Sorted, Json.MembersSorted, Members.keys, List.map]
    decide
  have hoff : offLayer.Sorted := by
    simp only [offLayer, Json.Sorted, Json.MembersSorted, Members.keys, List.map]
    decide
  have hbucket : bucketLayer.Sorted := by
    simp only [bucketLayer, Json.Sorted, Json.MembersSorted, Members.keys, List.map]
    decide
  obtain ⟨-, -, hupper, hlower, -⟩ := lay_laws hsearch hbucket hbucket
  obtain ⟨-, -, -, -, hassoc⟩ := lay_laws hsearch hoff hbucket
  refine ⟨?_, ?_, hassoc ?_⟩
  · refine hupper _ _ rfl (.inr (.inl ⟨["storage", "command"], ?_, List.prefix_rfl⟩))
    decide
  · refine (hlower ["archive", "storage", "command", "TYPE"] ?_ rfl).trans rfl
    intro above hpre hne
    simp only [List.prefix_cons_iff, List.prefix_nil] at hpre
    obtain rfl | ⟨_, rfl, rfl | ⟨_, rfl, rfl | ⟨_, rfl, rfl | ⟨_, rfl, rfl⟩⟩⟩⟩ := hpre
    case inr.inr.inr.inr => exact absurd rfl hne
    all_goals exact ⟨⟨_, rfl, _, rfl⟩, ⟨_, rfl, _, rfl⟩, by decide⟩
  · rintro ⟨path, hout, -, -, v, hv, hother⟩
    -- down to the backend there are objects, and from there on the path is out of the question
    rcases path with _ | ⟨key, _ | ⟨key', rest⟩⟩
    · cases hv
      exact hother ⟨_, rfl⟩
    · rw [offLayer, Json.at?_single] at hv
      split at hv
      · cases hv
        exact hother ⟨_, rfl⟩
      · cases hv
    · rw [offLayer, Json.at?_single, Json.at?_single] at hv
      split at hv
      case isTrue hkey =>
        split at hv
        case isTrue hkey' =>
          subst hkey hkey'
          exact hout ["storage", "command"] (by decide) ⟨rest, rfl⟩
        case isFalse => cases hv
      case isFalse => cases hv

/-- Where a number stands between two objects, the order does make a difference. -/
example :
    let lower : Json := .obj [("archive", .obj [("days", .int 7)])]
    let middle : Json := .obj [("archive", .int 0)]
    let upper : Json := .obj [("archive", .obj [])]
    (lay (lay lower middle) upper).at? ["archive", "days"] = none ∧
      (lay lower (lay middle upper)).at? ["archive", "days"] = some (.int 7) := ⟨rfl, rfl⟩

end Config
end GatewayRegistry
