import GatewayRegistry.Proofs.Json.Objects

/-!
# The algebra of overlays

To lay a value over itself changes nothing (`Json.overlay_self`). It makes no difference which two
of three values are laid over each other first (`Json.overlay_assoc`), unless the middle one cuts
the other two off from each other: then the lower two together hide an object that the upper two let
through.

Along a path, what the upper value holds decides. If it holds something, that is what the overlay
holds, or the overlay combines two objects there (`Json.at?_overlay_of_upper`). If it holds nothing,
and both sides are objects on the way, the lower value stays (`Json.at?_overlay_of_none`).
-/

namespace GatewayRegistry
namespace Json

variable {atomic : List Path} {path : Path} {lower upper a b c : Json}

/-! ## Objects and other values -/

def IsObject (v : Json) : Prop := ∃ ms, v = .obj ms

theorem isObject_obj (ms : Members) : (obj ms).IsObject := ⟨ms, rfl⟩

/-- What holds of every value without members, and of an object if it holds of each of its members,
holds of every value. -/
theorem member_induction {P : Json → Prop} (leaf : ∀ v, ¬v.IsObject → P v)
    (object : ∀ ms, (∀ key inner, Members.get? key ms = some inner → P inner) → P (.obj ms)) (v : Json) :
    P v := by
  by_cases hv : v.IsObject
  · obtain ⟨ms, rfl⟩ := hv
    refine object ms fun key inner hinner => ?_
    -- members are nested in a list of pairs, which structural recursion does not look into
    have hsmaller : sizeOf inner < sizeOf (obj ms) := by
      have hmem := List.sizeOf_lt_of_mem (Members.mem_of_get? hinner)
      simp only [Prod.mk.sizeOf_spec] at hmem
      simp only [obj.sizeOf_spec]
      omega
    exact member_induction leaf object inner
  · exact leaf v hv
termination_by sizeOf v

/-- Objects in order are determined by what is found under each key. -/
theorem obj_ext {ms ms' : Members} (h : (obj ms).Sorted) (h' : (obj ms').Sorted)
    (heq : ∀ key, ms.get? key = ms'.get? key) : obj ms = obj ms' :=
  congrArg obj (Members.ext_get? (sorted_obj_iff.mp h).1 (sorted_obj_iff.mp h').1 heq)

/-- What is no object replaces what lies below as a whole. -/
theorem overlay_of_not_object (h : ¬upper.IsObject) : overlay atomic lower upper = upper := by
  cases upper with
  | obj members => exact absurd (isObject_obj members) h
  | _ => simp [overlay]

/-- What is no object is replaced as a whole. -/
theorem overlay_over_not_object (h : ¬lower.IsObject) : overlay atomic lower upper = upper := by
  cases lower with
  | obj below => exact absurd (isObject_obj below) h
  | _ => cases upper <;> simp [overlay]

theorem at?_single (key : String) (v : Json) (other : String) (rest : Path) :
    (obj [(key, v)]).at? (other :: rest) = if key = other then v.at? rest else none := by
  rw [at?_obj_cons]
  by_cases hkey : key = other
  · rw [if_pos hkey, hkey, Members.get?_cons_self, Option.bind_some]
  · rw [if_neg hkey, Members.get?_cons_of_ne hkey, Members.get?_nil, Option.bind_none]

def ObjectAt (v : Json) (path : Path) : Prop := ∃ inner, v.at? path = some inner ∧ inner.IsObject

theorem objectAt_nil {v : Json} : v.ObjectAt [] ↔ v.IsObject := by
  simp [ObjectAt, at?]

theorem objectAt_cons {ms : Members} {key : String} {inner : Json} (h : ms.get? key = some inner)
    (path : Path) : (obj ms).ObjectAt (key :: path) ↔ inner.ObjectAt path := by
  unfold ObjectAt
  rw [at?_obj_cons, h]
  exact Iff.rfl

/-! ## A value over itself -/

/-- A value over itself is the value. -/
theorem overlay_self (h : a.Sorted) (atomic : List Path) : overlay atomic a a = a := by
  induction a using member_induction generalizing atomic with
  | leaf v hv => exact overlay_of_not_object hv
  | object ms ih =>
      rw [overlay_obj]
      refine obj_ext (sorted_obj_overlayMembers atomic h (sorted_obj_iff.mp h).2) h fun key => ?_
      rw [get?_overlayMembers _ _ (nodup_keys_of_sorted h)]
      cases hget : Members.get? key ms with
      | none => rfl
      | some inner =>
          by_cases hwhole : [key] ∈ atomic
          · simp [layAt, hwhole]
          · simp [layAt, hwhole, ih key inner hget (h.get? hget)]

/-! ## Three values

If the middle value is no object where the other two are, it hides the lowest one from the top one
if they are combined in the order from below, and not in the other order. This is the only way in
which the order matters. -/

/-- Some value cuts what lies below it off from what lies above: where both of these hold objects,
outside the atomic paths, it holds something else. -/
def Cuts (atomic : List Path) (lower middle upper : Json) : Prop :=
  ∃ path, (∀ whole ∈ atomic, ¬whole <+: path) ∧ lower.ObjectAt path ∧ upper.ObjectAt path ∧
    ∃ v, middle.at? path = some v ∧ ¬v.IsObject

/-- What is cut off under a key is cut off. -/
theorem Cuts.step {key : String} {ma mb mc : Members} (hroot : [] ∉ atomic)
    (ha : ma.get? key = some a) (hb : mb.get? key = some b) (hc : mc.get? key = some c)
    (h : Cuts (stepInto key atomic) a b c) : Cuts atomic (.obj ma) (.obj mb) (.obj mc) := by
  obtain ⟨path, houtside, hlower, hupper, hmiddle⟩ := h
  refine ⟨key :: path, ?_, (objectAt_cons ha path).mpr hlower, (objectAt_cons hc path).mpr hupper, ?_⟩
  · intro whole hmem hpre
    rcases List.prefix_cons_iff.mp hpre with rfl | ⟨rest, rfl, hrest⟩
    · exact hroot hmem
    · exact houtside rest (mem_stepInto.mpr hmem) hrest
  · rwa [at?_obj_cons, hb]

/-- Three objects may be laid over each other in either order if the values may that all of them
have under a key. -/
theorem overlay_assoc_of_members {ma mb mc : Members} (ha : (obj ma).Sorted) (hb : (obj mb).Sorted)
    (hc : (obj mc).Sorted)
    (h : ∀ key a b c, Members.get? key ma = some a → Members.get? key mb = some b →
      Members.get? key mc = some c → [key] ∉ atomic →
      overlay (stepInto key atomic) (overlay (stepInto key atomic) a b) c =
        overlay (stepInto key atomic) a (overlay (stepInto key atomic) b c)) :
    overlay atomic (overlay atomic (.obj ma) (.obj mb)) (.obj mc) =
      overlay atomic (.obj ma) (overlay atomic (.obj mb) (.obj mc)) := by
  have hab := sorted_obj_overlayMembers atomic ha (sorted_obj_iff.mp hb).2
  have hbc := sorted_obj_overlayMembers atomic hb (sorted_obj_iff.mp hc).2
  simp only [overlay_obj]
  refine obj_ext (sorted_obj_overlayMembers atomic hab (sorted_obj_iff.mp hc).2)
    (sorted_obj_overlayMembers atomic ha (sorted_obj_iff.mp hbc).2) fun key => ?_
  simp only [get?_overlayMembers _ _ (nodup_keys_of_sorted hb),
    get?_overlayMembers _ _ (nodup_keys_of_sorted hc),
    get?_overlayMembers _ _ (nodup_keys_of_sorted hbc)]
  cases hgc : Members.get? key mc with
  | none => rfl
  | some c =>
      cases hgb : Members.get? key mb with
      -- under a key that one of them lacks, at most two values are combined
      | none => simp [layAt_none]
      | some b =>
          cases hga : Members.get? key ma with
          | none => simp [layAt_none]
          | some a =>
              by_cases hwhole : [key] ∈ atomic
              · simp [layAt, hwhole]
              · simp only [layAt, hwhole, ↓reduceIte, List.foldl_cons, List.foldl_nil,
                  Option.some.injEq]
                exact h key a b c hga hgb hgc hwhole

/-- Three values may be laid over each other in either order, if the middle one cuts nothing off. -/
theorem overlay_assoc (ha : a.Sorted) (hb : b.Sorted) (hc : c.Sorted) (hroot : [] ∉ atomic)
    (h : ¬Cuts atomic a b c) :
    overlay atomic (overlay atomic a b) c = overlay atomic a (overlay atomic b c) := by
  induction c using member_induction generalizing atomic a b with
  | leaf c hleaf => simp only [overlay_of_not_object hleaf]
  | object mc ih =>
      -- only three objects are combined member by member; in the other cases one of the values
      -- stands alone
      by_cases hoa : a.IsObject
      case neg => rw [overlay_over_not_object hoa, overlay_over_not_object hoa]
      by_cases hob : b.IsObject
      case neg =>
        refine absurd ⟨[], ?_, objectAt_nil.mpr hoa, objectAt_nil.mpr (isObject_obj mc), b, rfl, hob⟩ h
        intro whole hmem hpre
        exact hroot (List.prefix_nil.mp hpre ▸ hmem)
      obtain ⟨ma, rfl⟩ := hoa
      obtain ⟨mb, rfl⟩ := hob
      refine overlay_assoc_of_members ha hb hc fun key a b c hga hgb hgc hwhole => ?_
      apply ih key c hgc (ha.get? hga) (hb.get? hgb) (hc.get? hgc) (mem_stepInto.not.mpr hwhole)
      exact fun hcuts => h (hcuts.step hroot hga hgb hgc)

/-- A value that is laid over another one twice is there the first time. -/
theorem overlay_overlay_self (ha : a.Sorted) (hb : b.Sorted) (hroot : [] ∉ atomic) :
    overlay atomic (overlay atomic a b) b = overlay atomic a b := by
  rw [overlay_assoc ha hb hb hroot, overlay_self hb]
  rintro ⟨path, -, -, ⟨v, hv, hobject⟩, w, hw, hother⟩
  rw [hv] at hw
  cases hw
  exact hother hobject

/-! ## What an overlay holds at a path -/

section

variable {below members : Members} {key : String} (hsorted : (obj members).Sorted)

include hsorted

/-- Where the upper object has the key, the path leads into the combined member. -/
theorem at?_overlay_of_key {u : Json} (hu : Members.get? key members = some u) (rest : Path) :
    (overlay atomic (.obj below) (.obj members)).at? (key :: rest) =
      (layAt atomic [key] (Members.get? key below) u).at? rest := by
  rw [overlay_obj, at?_obj_cons, get?_overlayMembers _ _ (nodup_keys_of_sorted hsorted), hu]
  rfl

/-- Where it has not, the path leads into the lower member. -/
theorem at?_overlay_of_no_key (hnone : Members.get? key members = none) (rest : Path) :
    (overlay atomic (.obj below) (.obj members)).at? (key :: rest) = (obj below).at? (key :: rest) := by
  rw [overlay_obj, at?_obj_cons, get?_overlayMembers _ _ (nodup_keys_of_sorted hsorted), hnone]
  rfl

end

/-- What the upper value holds at a path stands there, unless it is an object over an object and no
atomic path leads there. -/
theorem at?_overlay_of_upper {v : Json} (hsorted : upper.Sorted) (hroot : [] ∉ atomic)
    (h : upper.at? path = some v)
    (hwhole : ¬v.IsObject ∨ (∃ whole ∈ atomic, whole <+: path) ∨ ¬lower.ObjectAt path) :
    (overlay atomic lower upper).at? path = some v := by
  induction path generalizing atomic lower upper with
  | nil =>
      obtain rfl : upper = v := Option.some.inj h
      refine congrArg some ?_
      rcases hwhole with hv | ⟨whole, hmem, hpre⟩ | hbelow
      · exact overlay_of_not_object hv
      · exact absurd (List.prefix_nil.mp hpre ▸ hmem) hroot
      · exact overlay_over_not_object (objectAt_nil.not.mp hbelow)
  | cons key rest ih =>
      by_cases hlower : lower.IsObject
      case neg => rw [overlay_over_not_object hlower, h]
      obtain ⟨below, rfl⟩ := hlower
      by_cases hupper : upper.IsObject
      case neg => rw [overlay_of_not_object hupper, h]
      obtain ⟨members, rfl⟩ := hupper
      rw [at?_obj_cons] at h
      obtain ⟨u, hu, hv⟩ := Option.bind_eq_some_iff.mp h
      rw [at?_overlay_of_key hsorted hu]
      by_cases hatomic : [key] ∈ atomic
      · simpa [layAt, hatomic] using hv
      cases hl : Members.get? key below with
      | none => rwa [layAt_none]
      | some l =>
          rw [layAt_cons, layAt_root (mem_stepInto.not.mpr hatomic)]
          refine ih (hsorted.get? hu) (mem_stepInto.not.mpr hatomic) hv ?_
          -- what was said of the whole path is said of the rest
          refine hwhole.imp_right (Or.imp ?_ ?_)
          · rintro ⟨whole, hmem, hpre⟩
            rcases List.prefix_cons_iff.mp hpre with rfl | ⟨inner, rfl, hinner⟩
            · exact absurd hmem hroot
            · exact ⟨inner, mem_stepInto.mpr hmem, hinner⟩
          · exact (objectAt_cons hl rest).not.mp

/-- What the lower value holds at a path stays, if both values are objects on the way, no atomic
path ends there, and the upper value holds nothing at its end. -/
theorem at?_overlay_of_none (hsorted : upper.Sorted)
    (hway : ∀ above, above <+: path → above ≠ path →
      lower.ObjectAt above ∧ upper.ObjectAt above ∧ above ∉ atomic)
    (h : upper.at? path = none) : (overlay atomic lower upper).at? path = lower.at? path := by
  induction path generalizing atomic lower upper with
  | nil => cases h
  | cons key rest ih =>
      obtain ⟨hlower, hupper, -⟩ := hway [] List.nil_prefix (List.cons_ne_nil key rest).symm
      obtain ⟨below, rfl⟩ := objectAt_nil.mp hlower
      obtain ⟨members, rfl⟩ := objectAt_nil.mp hupper
      rw [at?_obj_cons] at h
      cases hu : Members.get? key members with
      | none => exact at?_overlay_of_no_key hsorted hu rest
      | some u =>
          rw [hu, Option.bind_some] at h
          -- the upper value goes on, so the path does not end here
          have hrest : [key] ≠ key :: rest := by
            intro hend
            obtain rfl := (List.cons.inj hend).2
            cases h
          have hnext : [key] <+: key :: rest := List.cons_prefix_cons.mpr ⟨rfl, List.nil_prefix⟩
          obtain ⟨⟨_, hthere, -⟩, -, hatomic⟩ := hway [key] hnext hrest
          rw [at?_obj_cons] at hthere
          obtain ⟨l, hl, -⟩ := Option.bind_eq_some_iff.mp hthere
          rw [at?_overlay_of_key hsorted hu, at?_obj_cons, hl, Option.bind_some, layAt_cons,
            layAt_root (mem_stepInto.not.mpr hatomic)]
          refine ih (hsorted.get? hu) ?_ h
          intro above hpre hne
          obtain ⟨hlower, hupper, hout⟩ := hway (key :: above) (List.cons_prefix_cons.mpr ⟨rfl, hpre⟩)
            fun hend => hne (List.cons.inj hend).2
          exact ⟨(objectAt_cons hl above).mp hlower, (objectAt_cons hu above).mp hupper,
            mem_stepInto.not.mpr hout⟩

end Json
end GatewayRegistry
