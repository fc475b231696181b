import GatewayRegistry.Proofs.Config.Layers

/-!
# The built-in layer

The built-in values are written twice: as the lowest layer, over which the files are laid, and as
what the decoder takes for a field that is left out. The two agree whatever the files hold, whether
it makes sense or not (`Config.decode_without_defaultLayer`).

What the lowest layer leaves behind is best said as a relation between the values with it and
without it. They are the same as soon as a file replaces the whole; until then both are objects, and
each section in turn is the same, or is an object in both and gives the same for each field
(`Config.Alike`). One more layer over both keeps this so, and what is alike is decoded alike, also
where it is wrong.
-/

namespace GatewayRegistry
namespace Config

variable {v v' : Json}

/-! ## Laying a value over both -/

/-- An upper value is what is found at its path, whatever is below. -/
theorem SameField.layAt {path : Json.Path} (u u' : Option Json) (upper : Json) :
    SameField path (some (Json.layAt atomicPaths path u upper))
      (some (Json.layAt atomicPaths path u' upper)) := by
  rintro α f rfl
  exact (f.decode_layAt u upper).trans (f.decode_layAt u' upper).symm

theorem SameSection.layAt {name : String} {u u' : Option Json} {upper : Json}
    (h : SameSection name u u') (hupper : upper.Sorted) :
    SameSection name (some (Json.layAt atomicPaths [name] u upper))
      (some (Json.layAt atomicPaths [name] u' upper)) := by
  have hopen : [name] ∉ atomicPaths := by simp [atomicPaths]
  unfold SameSection
  rw [Json.layAt_eq_overlay hopen u hupper, Json.layAt_eq_overlay hopen u' hupper]
  -- what stood under a key of the section does not matter once the upper value has the key
  refine Json.SameOr.overlay h _ hupper fun {key u u' w} _ _ => ?_
  rw [← Json.layAt_cons, ← Json.layAt_cons]
  exact SameField.layAt u u' w

/-- What is alike stays so under one more layer. -/
theorem Alike.lay {upper : Json} (h : Alike v v') (hupper : upper.Sorted) :
    Alike (lay v upper) (lay v' upper) :=
  Json.SameOr.overlay h atomicPaths hupper fun {_ u u' w} hw hmember =>
    ⟨fun hname => (hmember.1 hname).layAt hw, SameField.layAt u u' w⟩

theorem Alike.layOptional {layer : Option Json} (h : Alike v v') (hlayer : ∀ u ∈ layer, u.Sorted) :
    Alike (layOptional v layer) (layOptional v' layer) := by
  cases layer with
  | none => exact h
  | some upper => exact h.lay (hlayer upper rfl)

/-! ## With the built-in layer and without -/

theorem SortedLayer.empty : SortedLayer (.obj []) where
  isLayer := ⟨[], rfl, by simp [Members.get?]⟩
  sorted := Json.sorted_obj_nil

/-- The built-in layer says nothing that the decoder does not say where nothing is given. -/
theorem alike_defaultLayer : Alike defaultLayer (.obj []) := by
  have hlowest := SortedLayer.default
  have hempty := SortedLayer.empty
  refine .of_layers hlowest.sorted hempty.sorted hlowest.isLayer hempty.isLayer fun f => ?_
  rw [f.read_defaultLayer]
  cases f <;> rfl

/-- What the built-in layer leaves behind is alike to what is there without it, and so is decoded
alike. -/
theorem layered_eq_decode {global explicit : Option Json} (hglobal : ∀ v ∈ global, v.Sorted)
    (hexplicit : ∀ v ∈ explicit, v.Sorted) :
    layered global explicit = decode (layOptional (global.getD (.obj [])) explicit) := by
  have hbase : layOptional (.obj []) global = global.getD (.obj []) := by
    cases global with
    | none => rfl
    | some v => exact Json.overlay_obj_nil atomicPaths (hglobal v rfl)
  -- the same layers are laid over both lowest layers
  rw [← hbase]
  exact ((alike_defaultLayer.layOptional hglobal).layOptional hexplicit).decode_eq

/-- The built-in layer makes no difference. Whatever values the two files hold, what is decoded from
them over the built-in values is what is decoded from the one over the other: the same configuration
or the same error, whether a file that is missing is passed over or counts as an object without
members. That object is decoded to the built-in values. -/
theorem decode_without_defaultLayer (global explicit : Option Json)
    (hglobal : ∀ v ∈ global, v.Sorted) (hexplicit : ∀ v ∈ explicit, v.Sorted) :
    layered global explicit = decode (layOptional (global.getD (.obj [])) explicit) ∧
    decode (lay (lay defaultLayer (global.getD (.obj []))) (explicit.getD (.obj []))) =
      decode (lay (global.getD (.obj [])) (explicit.getD (.obj []))) ∧
    decode (.obj []) = .ok {} := by
  -- a layer that is missing is an empty one
  have hgetD {layer : Option Json} (h : ∀ v ∈ layer, v.Sorted) :
      ∀ v ∈ some (layer.getD (.obj [])), v.Sorted := by
    rintro _ ⟨⟩
    cases layer with
    | none => exact Json.sorted_obj_nil
    | some v => exact h v rfl
  exact ⟨layered_eq_decode hglobal hexplicit, layered_eq_decode (hgetD hglobal) (hgetD hexplicit),
    rfl⟩

/-- A section that is a number, and one that is an array. -/
def brokenLayer : Json := .obj [("liveness", .int 5), ("terminal", .arr [.bool true, .int 1])]

/-- A section over the number, with a value that is not the field's. -/
def mendingLayer : Json := .obj [("liveness", .obj [("ttl_secs", .int (-1))])]

theorem decode_without_defaultLayer_of_broken :
    (∀ v ∈ some brokenLayer, v.Sorted) ∧ (∀ v ∈ some mendingLayer, v.Sorted) ∧
    layered (some brokenLayer) (some mendingLayer) =
      .error (.wrongValue (.int (-1)) (.unsigned 64)) := by
  have hbroken : ∀ v ∈ some brokenLayer, v.Sorted := by
    rintro _ ⟨⟩
    simp only [brokenLayer, Json.Sorted, Json.MembersSorted, Json.ItemsSorted, Members.keys,
      List.map]
    decide
  have hmending : ∀ v ∈ some mendingLayer, v.Sorted := by
    rintro _ ⟨⟩
    simp only [mendingLayer, Json.Sorted, Json.MembersSorted, Members.keys, List.map]
    decide
  refine ⟨hbroken, hmending, ?_⟩
  exact (decode_without_defaultLayer _ _ hbroken hmending).1.trans rfl

end Config
end GatewayRegistry
