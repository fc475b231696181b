import GatewayRegistry.Json.Overlay
import Mathlib.Data.List.Nodup
import Mathlib.Data.String.Basic

/-!
# Objects seen through their keys

Putting a member into an object, and laying one object over another, say nothing about the order
in which the members stand; what they mean is what is found under each key (`Members.get?_insert`,
`Json.get?_overlayMembers`). The order is kept all the same, and with it `Json.Sorted`.

So what two objects have in common under each key, they still have after another value is laid over
both, if each member does (`Json.SameOr.overlay`).

From the keys this goes on to paths. Where two values are objects all along a path, the overlay
holds the upper value at its end, if there is one, and otherwise the lower one
(`Json.at?_overlay`).
-/

namespace GatewayRegistry

/-! ## Members

An object is a list of members in the order of their keys. The lemmas describe it by what is found
under a key, and end with the fact that this determines it (`Members.ext_get?`). -/

namespace Members

variable {ms : Members} {key other : String} {value : Json}

theorem get?_nil (key : String) : get? key [] = none := rfl

theorem get?_cons_self (key : String) (value : Json) (ms : Members) :
    get? key ((key, value) :: ms) = some value := if_pos rfl

theorem get?_cons_of_ne (h : key ≠ other) (value : Json) (ms : Members) :
    get? other ((key, value) :: ms) = get? other ms := if_neg h

/-- What is found under a key is a member. -/
theorem mem_of_get? (h : ms.get? key = some value) : (key, value) ∈ ms := by
  induction ms with
  | nil => cases h
  | cons m ms ih =>
      obtain ⟨k, v⟩ := m
      by_cases hkey : k = key
      · rw [hkey, get?_cons_self, Option.some.injEq] at h
        rw [hkey, h]
        exact List.mem_cons_self
      · rw [get?_cons_of_ne hkey] at h
        exact List.mem_cons_of_mem _ (ih h)

/-- Nothing is found under a key that no member has. -/
theorem get?_eq_none_of_not_mem (h : key ∉ ms.keys) : ms.get? key = none := by
  cases hget : ms.get? key with
  | none => rfl
  | some value => exact absurd (List.mem_map.mpr ⟨_, mem_of_get? hget, rfl⟩) h

/-- What is put in is found under its key, and all else as before. -/
theorem get?_insert (ms : Members) (key : String) (value : Json) (other : String) :
    (ms.insert key value).get? other = if key = other then some value else ms.get? other := by
  induction ms with
  | nil => rfl
  | cons m ms ih =>
      obtain ⟨k, v⟩ := m
      unfold insert
      split
      · rfl
      · split
        -- a member under the same key is replaced
        case isTrue hkey =>
          subst hkey
          by_cases hother : key = other
          · rw [hother, get?_cons_self, if_pos rfl]
          · rw [get?_cons_of_ne hother, get?_cons_of_ne hother, if_neg hother]
        case isFalse hkey =>
          by_cases hother : k = other
          · rw [hother, get?_cons_self, get?_cons_self, if_neg (hother ▸ hkey)]
          · rw [get?_cons_of_ne hother, get?_cons_of_ne hother, ih]

/-- Inserting a member brings in no other. -/
theorem mem_insert {m : String × Json} (h : m ∈ ms.insert key value) :
    m = (key, value) ∨ m ∈ ms := by
  induction ms with
  | nil => exact .inl (List.mem_singleton.mp h)
  | cons n ms ih =>
      obtain ⟨k, v⟩ := n
      unfold insert at h
      split at h
      · exact List.mem_cons.mp h
      · split at h
        · rcases List.mem_cons.mp h with h | h
          · exact .inl h
          · exact .inr (List.mem_cons_of_mem _ h)
        · rcases List.mem_cons.mp h with h | h
          · exact .inr (h ▸ List.mem_cons_self)
          · exact (ih h).imp_right (List.mem_cons_of_mem _)

/-- The keys stay in order. -/
theorem pairwise_keys_insert (h : ms.keys.Pairwise (· < ·)) :
    (ms.insert key value).keys.Pairwise (· < ·) := by
  induction ms with
  | nil => exact List.pairwise_singleton _ _
  | cons m ms ih =>
      obtain ⟨k, v⟩ := m
      obtain ⟨hk, hms⟩ := List.pairwise_cons.mp h
      unfold insert
      split
      -- the new member comes before all others
      case isTrue hlt =>
        refine List.pairwise_cons.mpr ⟨?_, h⟩
        intro k' hk'
        rcases List.mem_cons.mp hk' with rfl | hk'
        · exact hlt
        · exact hlt.trans (hk k' hk')
      case isFalse hge =>
        split
        case isTrue hkey =>
          subst hkey
          exact h
        case isFalse hkey =>
          refine List.pairwise_cons.mpr ⟨?_, ih hms⟩
          intro k' hk'
          obtain ⟨m, hm, rfl⟩ := List.mem_map.mp hk'
          rcases mem_insert hm with rfl | hm
          · exact lt_of_le_of_ne (not_lt.mp hge) (Ne.symm hkey)
          · exact hk m.1 (List.mem_map_of_mem hm)

/-- Where no key stands twice, a member is what is found under its key. -/
theorem get?_eq_some_iff (h : ms.keys.Nodup) : ms.get? key = some value ↔ (key, value) ∈ ms := by
  refine ⟨mem_of_get?, fun hm => ?_⟩
  induction ms with
  | nil => cases hm
  | cons m ms ih =>
      obtain ⟨k, v⟩ := m
      obtain ⟨hk, hms⟩ := List.nodup_cons.mp h
      rcases List.mem_cons.mp hm with heq | hm
      · cases heq
        exact get?_cons_self key value ms
      · have hkey : k ≠ key := by
          rintro rfl
          exact hk (List.mem_map.mpr ⟨_, hm, rfl⟩)
        rw [get?_cons_of_ne hkey]
        exact ih hms hm

/-- Members in order are determined by what is found under each key. -/
theorem ext_get? {ms' : Members} (h : ms.keys.Pairwise (· < ·)) (h' : ms'.keys.Pairwise (· < ·))
    (heq : ∀ key, ms.get? key = ms'.get? key) : ms = ms' := by
  have hnodup := h.imp ne_of_lt
  have hnodup' := h'.imp ne_of_lt
  have hperm : ms.Perm ms' := by
    rw [List.perm_ext_iff_of_nodup (List.Nodup.of_map _ hnodup) (List.Nodup.of_map _ hnodup')]
    rintro ⟨key, value⟩
    rw [← get?_eq_some_iff hnodup, ← get?_eq_some_iff hnodup', heq]
  refine hperm.eq_of_pairwise ?_ (List.pairwise_map.mp h) (List.pairwise_map.mp h')
  intro m m' _ _ hlt hgt
  exact absurd hlt (lt_asymm hgt)

/-! ### Several members -/

end Members

/-! ## Sorted values

A value is sorted if the keys of each object in it are in order, without repetitions. Being a
recursion over nested lists, this is opened once for arrays and once for objects. -/

namespace Json

theorem itemsSorted_iff {items : List Json} : ItemsSorted items ↔ ∀ v ∈ items, v.Sorted := by
  induction items with
  | nil => simp [ItemsSorted]
  | cons v items ih => simp [ItemsSorted, ih]

theorem membersSorted_iff {ms : Members} : MembersSorted ms ↔ ∀ m ∈ ms, m.2.Sorted := by
  induction ms with
  | nil => simp [MembersSorted]
  | cons m ms ih => simp [MembersSorted, ih]

theorem sorted_arr_iff {items : List Json} : (arr items).Sorted ↔ ∀ v ∈ items, v.Sorted :=
  itemsSorted_iff

theorem sorted_obj_iff {ms : Members} :
    (obj ms).Sorted ↔ ms.keys.Pairwise (· < ·) ∧ ∀ m ∈ ms, m.2.Sorted :=
  and_congr_right fun _ => membersSorted_iff

theorem nodup_keys_of_sorted {ms : Members} (h : (obj ms).Sorted) : ms.keys.Nodup :=
  (sorted_obj_iff.mp h).1.imp ne_of_lt

theorem sorted_obj_nil : (obj []).Sorted := sorted_obj_iff.mpr ⟨.nil, by simp⟩

/-- Inserting a sorted value keeps an object sorted. -/
theorem sorted_obj_insert {ms : Members} {value : Json} (h : (obj ms).Sorted) (key : String)
    (hvalue : value.Sorted) : (obj (ms.insert key value)).Sorted := by
  obtain ⟨hkeys, hms⟩ := sorted_obj_iff.mp h
  refine sorted_obj_iff.mpr ⟨Members.pairwise_keys_insert hkeys, ?_⟩
  intro m hm
  rcases Members.mem_insert hm with rfl | hm
  · exact hvalue
  · exact hms m hm

theorem Sorted.get? {ms : Members} {key : String} {v : Json} (h : (obj ms).Sorted)
    (hv : ms.get? key = some v) : v.Sorted :=
  (sorted_obj_iff.mp h).2 _ (Members.mem_of_get? hv)

/-! ## Overlays

To lay a value over another descends into objects on both sides; everything else is replaced as a
whole, and so is what stands at one of the atomic paths. On the way down the atomic paths are
shortened (`stepInto`), so the recursion always looks for the empty path. -/

variable {atomic : List Path} {path : Path} {lower upper : Json}

/-- Inside a member, the atomic paths are those that lead into it. -/
theorem mem_stepInto {key : String} : path ∈ stepInto key atomic ↔ key :: path ∈ atomic := by
  unfold stepInto
  rw [List.mem_filterMap]
  constructor
  · rintro ⟨whole, hwhole, hrest⟩
    split at hrest
    · cases hrest
    case h_2 k rest =>
      split at hrest
      case isTrue hkey =>
        cases hrest
        exact hkey ▸ hwhole
      case isFalse => cases hrest
  · intro hwhole
    exact ⟨key :: path, hwhole, if_pos rfl⟩

/-- The value that an upper value at a path gives, over what lies below at the same path. -/
def layAt (atomic : List Path) (path : Path) (lower : Option Json) (upper : Json) : Json :=
  if path ∈ atomic then upper
  else match lower with
    | none => upper
    | some lower => overlay (path.foldl (fun atomic key => stepInto key atomic) atomic) lower upper

/-- Where nothing is below, the upper value stands alone. -/
theorem layAt_none (atomic : List Path) (path : Path) (upper : Json) :
    layAt atomic path none upper = upper := by
  unfold layAt
  exact ite_self upper

/-- The whole of two values is combined unless it is atomic. -/
theorem layAt_root (h : [] ∉ atomic) (lower upper : Json) :
    layAt atomic [] (some lower) upper = overlay atomic lower upper := if_neg h

theorem layAt_cons (atomic : List Path) (key : String) (path : Path) (lower : Option Json)
    (upper : Json) :
    layAt atomic (key :: path) lower upper = layAt (stepInto key atomic) path lower upper := by
  unfold layAt
  simp only [mem_stepInto, List.foldl_cons]

/-- Two objects are combined member by member. -/
theorem overlay_obj (atomic : List Path) (below members : Members) :
    overlay atomic (.obj below) (.obj members) = .obj (overlayMembers atomic below members) := by
  rw [overlay]

/-- An overlay is the upper value as it stands, or it is an object and so is the upper value. -/
theorem overlay_eq_or (atomic : List Path) (lower upper : Json) :
    overlay atomic lower upper = upper ∨
      ∃ members merged, upper = .obj members ∧ overlay atomic lower upper = .obj merged := by
  unfold overlay
  split
  · split
    · exact .inr ⟨_, _, rfl, rfl⟩
    · exact .inl rfl
  · exact .inl rfl

theorem overlayMembers_cons (atomic : List Path) (below : Members) (key : String) (upper : Json)
    (rest : Members) :
    overlayMembers atomic below ((key, upper) :: rest) =
      overlayMembers atomic (below.insert key (layAt atomic [key] (below.get? key) upper)) rest := by
  rw [overlayMembers, layAt_cons]
  refine congrArg (fun value => overlayMembers atomic (below.insert key value) rest) ?_
  exact if_congr List.contains_iff_mem rfl rfl

/-- Where the overlay has a key, its member is laid over the one below; all else stays. -/
theorem get?_overlayMembers (atomic : List Path) (below : Members) {members : Members}
    (h : members.keys.Nodup) (key : String) :
    Members.get? key (overlayMembers atomic below members) =
      match members.get? key with
      | none => below.get? key
      | some upper => some (layAt atomic [key] (below.get? key) upper) := by
  induction members generalizing below with
  | nil => rw [overlayMembers, Members.get?_nil]
  | cons m rest ih =>
      obtain ⟨k, upper⟩ := m
      obtain ⟨hk, hrest⟩ := List.nodup_cons.mp h
      rw [overlayMembers_cons, ih _ hrest, Members.get?_insert]
      by_cases hkey : k = key
      -- keys are different, so no later member overlays this one again
      · subst hkey
        rw [Members.get?_eq_none_of_not_mem hk, Members.get?_cons_self, if_pos rfl]
      · rw [Members.get?_cons_of_ne hkey, if_neg hkey]

mutual

/-- An overlay of sorted values is sorted. -/
theorem Sorted.overlay {lower : Json} (atomic : List Path) (hlower : lower.Sorted) :
    ∀ {upper : Json}, upper.Sorted → (Json.overlay atomic lower upper).Sorted
  | .obj members, h => by
    unfold Json.overlay
    split
    · exact sorted_obj_overlayMembers atomic hlower (sorted_obj_iff.mp h).2
    · exact h
  | .null, h | .bool _, h | .int _, h | .float _, h | .str _, h | .arr _, h => by
    unfold Json.overlay
    exact h

/-- Sorted members over a sorted object make a sorted one. -/
theorem sorted_obj_overlayMembers {below : Members} (atomic : List Path)
    (hbelow : (obj below).Sorted) : ∀ {members : Members}, (∀ m ∈ members, m.2.Sorted) →
      (obj (overlayMembers atomic below members)).Sorted
  | [], _ => by
    rw [overlayMembers]
    exact hbelow
  | (key, upper) :: rest, h => by
    have hupper : upper.Sorted := h _ List.mem_cons_self
    rw [overlayMembers_cons]
    refine sorted_obj_overlayMembers atomic (sorted_obj_insert hbelow key ?_)
      fun m hm => h m (List.mem_cons_of_mem _ hm)
    unfold layAt
    split
    · exact hupper
    · split
      · exact hupper
      case h_2 lower hlower => exact (hbelow.get? hlower).overlay _ hupper

end

theorem overlay_obj_nil (atomic : List Path) {upper : Json} (h : upper.Sorted) :
    overlay atomic (.obj []) upper = upper := by
  cases upper with
  | obj members =>
      rw [overlay_obj]
      have hkeys := (sorted_obj_iff.mp h).1
      have hmerged := sorted_obj_overlayMembers atomic sorted_obj_nil (sorted_obj_iff.mp h).2
      -- put in one by one, the members come to stand in order, as they stood before
      refine congrArg obj (Members.ext_get? (sorted_obj_iff.mp hmerged).1 hkeys fun key => ?_)
      rw [get?_overlayMembers _ _ (nodup_keys_of_sorted h), Members.get?_nil]
      cases Members.get? key members with
      | none => rfl
      | some u => exact congrArg some (layAt_none atomic [key] u)
  | _ =>
      unfold overlay
      rfl

/-- What stands where nothing is written is as good as an object without members. -/
theorem layAt_eq_overlay {atomic : List Path} {key : String} (h : [key] ∉ atomic)
    (lower : Option Json) {upper : Json} (hupper : upper.Sorted) :
    layAt atomic [key] lower upper =
      overlay (stepInto key atomic) (lower.getD (.obj [])) upper := by
  rw [layAt_cons]
  have hroot : [] ∉ stepInto key atomic := mem_stepInto.not.mpr h
  cases lower with
  | none => rw [layAt_none, Option.getD_none, overlay_obj_nil _ hupper]
  | some lower => rw [layAt_root hroot, Option.getD_some]

/-! ## The same, or related key by key -/

/-- Two values are the same, or they are objects whose members are related under each key. -/
inductive SameOr (R : String → Option Json → Option Json → Prop) : Json → Json → Prop where
  | same (v : Json) : SameOr R v v
  | objects {ms ms' : Members} (h : (obj ms).Sorted) (h' : (obj ms').Sorted)
      (hmembers : ∀ key, R key (ms.get? key) (ms'.get? key)) : SameOr R (obj ms) (obj ms')

/-- A value over both sides keeps them related if every member over both sides does. -/
theorem SameOr.overlay {R : String → Option Json → Option Json → Prop} {v v' upper : Json}
    (h : SameOr R v v') (atomic : List Path) (hupper : upper.Sorted)
    (hR : ∀ {key u u' w}, w.Sorted → R key u u' →
      R key (some (layAt atomic [key] u w)) (some (layAt atomic [key] u' w))) :
    SameOr R (overlay atomic v upper) (overlay atomic v' upper) := by
  cases h with
  | same v => exact .same _
  | @objects ms ms' h h' hmembers =>
      cases upper with
      | obj members =>
          rw [overlay_obj, overlay_obj]
          have hsorted := (sorted_obj_iff.mp hupper).2
          refine .objects (sorted_obj_overlayMembers atomic h hsorted)
            (sorted_obj_overlayMembers atomic h' hsorted) fun key => ?_
          rw [get?_overlayMembers _ _ (nodup_keys_of_sorted hupper),
            get?_overlayMembers _ _ (nodup_keys_of_sorted hupper)]
          cases hget : Members.get? key members with
          | none => exact hmembers key
          | some w => exact hR (hupper.get? hget) (hmembers key)
      | _ =>
          -- whatever is no object replaces both sides
          unfold Json.overlay
          exact .same _

/-! ## Paths

A path leads from object to object. `OpenTo` says that nothing on the way is anything but an object,
though the way may end early. -/

def at? : Json → Path → Option Json
  | v, [] => some v
  | v, key :: rest => (v.get? key).bind fun inner => at? inner rest

/-- Whatever a value has on the way down a path, before its end, is an object. -/
def OpenTo : Json → Path → Prop
  | _, [] => True
  | v, key :: rest =>
    ∃ ms, v = .obj ms ∧ ∀ inner, Members.get? key ms = some inner → OpenTo inner rest

theorem at?_obj_cons (ms : Members) (key : String) (rest : Path) :
    (obj ms).at? (key :: rest) = (ms.get? key).bind (at? · rest) := rfl

/-- An overlay is open to a path if both sides are. -/
theorem OpenTo.overlay (atomic : List Path) (hlower : lower.OpenTo path)
    (hupper : upper.OpenTo path) (hsorted : upper.Sorted) :
    (Json.overlay atomic lower upper).OpenTo path := by
  induction path generalizing atomic lower upper with
  | nil => trivial
  | cons key rest ih =>
      obtain ⟨below, rfl, hbelow⟩ := hlower
      obtain ⟨members, rfl, hmembers⟩ := hupper
      refine ⟨_, overlay_obj atomic below members, ?_⟩
      intro inner hinner
      rw [get?_overlayMembers atomic below (nodup_keys_of_sorted hsorted)] at hinner
      cases hget : Members.get? key members with
      | none => exact hbelow inner (by simpa only [hget] using hinner)
      -- the way through the overlay leads through the upper member, and below it through the lower
      -- one
      | some u =>
          have hopen := hmembers u hget
          simp only [hget, Option.some.injEq, layAt] at hinner
          subst hinner
          split
          · exact hopen
          · split
            · exact hopen
            case h_2 l hl => exact ih _ (hbelow l hl) hopen (hsorted.get? hget)

/-- At the end of a path that passes no atomic one, an overlay holds the upper value, laid over the
lower one, if there is an upper value, and otherwise the lower one. -/
theorem at?_overlay (hlower : lower.OpenTo path) (hupper : upper.OpenTo path)
    (hsorted : upper.Sorted) (hroot : [] ∉ atomic)
    (hatomic : ∀ whole ∈ atomic, whole <+: path → whole = path) :
    (overlay atomic lower upper).at? path =
      match upper.at? path with
      | none => lower.at? path
      | some u => some (layAt atomic path (lower.at? path) u) := by
  induction path generalizing atomic lower upper with
  | nil =>
      simp only [at?, layAt_root hroot]
  | cons key rest ih =>
      obtain ⟨below, rfl, hbelow⟩ := hlower
      obtain ⟨members, rfl, hmembers⟩ := hupper
      rw [overlay_obj, at?_obj_cons, at?_obj_cons, at?_obj_cons,
        get?_overlayMembers atomic below (nodup_keys_of_sorted hsorted)]
      cases hu : Members.get? key members with
      | none => rfl
      | some u =>
          simp only [Option.bind_some, layAt_cons]
          by_cases hwhole : [key] ∈ atomic
          · -- the path ends here, for it passes no atomic one
            obtain rfl : rest = [] := by
              simpa using (hatomic _ hwhole (List.cons_prefix_cons.mpr ⟨rfl, List.nil_prefix⟩)).symm
            simp [at?, layAt, mem_stepInto, hwhole]
          · have hinner : [] ∉ stepInto key atomic := mem_stepInto.not.mpr hwhole
            cases hl : Members.get? key below with
            | none =>
                rw [layAt_none]
                cases u.at? rest with
                | none => rfl
                | some v =>
                    simp only [Option.bind_none]
                    rw [layAt_none]
            | some l =>
                rw [layAt_root hinner, Option.bind_some]
                refine ih (hbelow l hl) (hmembers u hu) (hsorted.get? hu) hinner ?_
                intro whole hmem hpre
                have hkey := hatomic _ (mem_stepInto.mp hmem) (List.cons_prefix_cons.mpr ⟨rfl, hpre⟩)
                exact (List.cons.inj hkey).2

end Json
end GatewayRegistry
