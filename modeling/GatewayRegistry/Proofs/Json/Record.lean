import GatewayRegistry.Json.Decode
import GatewayRegistry.Proofs.Except
import GatewayRegistry.Proofs.Json.Objects

/-!
# Decoding a record from an object

An object is looked at member by member before the fields are put together. For an object whose
keys are in order that makes two statements: the record is decoded exactly if its fields can be put
together (`Decode.record_eq_ok_iff`), and two objects whose members give the same for every field
give the same record or the same error (`Decode.record_congr`), whatever else they hold.
-/

namespace GatewayRegistry

/-! ## Looking at members

The members of an object are looked at in their order, and the first one that is wrong ends it. With
keys in order this depends only on what is found under each key (`walk_congr`), although the order
of the look decides which error is reported. -/

namespace Members

variable {ε : Type} {check : String → Json → Except ε Unit} {ms ms' : Members} {e : ε}

/-- What a check finds under a key; where there is no member it finds nothing wrong. -/
def look (check : String → Json → Except ε Unit) (ms : Members) (key : String) : Except ε Unit :=
  match ms.get? key with
  | some value => check key value
  | none => .ok ()

/-- Look at all members in order. -/
def walk (check : String → Json → Except ε Unit) (ms : Members) : Except ε Unit :=
  ms.forM fun (key, value) => check key value

theorem walk_cons (key : String) (value : Json) (ms : Members) :
    walk check ((key, value) :: ms) = check key value >>= fun _ => walk check ms := rfl

/-- Where there is no member there is nothing to object to. -/
theorem look_of_not_mem {key : String} (h : key ∉ ms.keys) : look check ms key = .ok () := by
  unfold look
  rw [get?_eq_none_of_not_mem h]

theorem look_cons_self (key : String) (value : Json) (ms : Members) :
    look check ((key, value) :: ms) key = check key value := by
  unfold look
  rw [get?_cons_self]

theorem look_cons_of_ne {key other : String} (h : key ≠ other) (value : Json) (ms : Members) :
    look check ((key, value) :: ms) other = look check ms other := by
  unfold look
  rw [get?_cons_of_ne h]

/-- All members are in order if each of them is. -/
theorem walk_eq_ok_iff (h : ms.keys.Nodup) :
    walk check ms = .ok () ↔ ∀ key, look check ms key = .ok () := by
  induction ms with
  | nil => exact ⟨fun _ _ => rfl, fun _ => rfl⟩
  | cons m ms ih =>
      obtain ⟨k, v⟩ := m
      obtain ⟨hk, hms⟩ := List.nodup_cons.mp h
      rw [walk_cons, bind_eq_ok_iff]
      constructor
      -- a key is that of the first member, or is looked for in the rest
      · rintro ⟨⟨⟩, hfirst, hrest⟩ key
        by_cases hkey : k = key
        · rw [← hkey, look_cons_self, hfirst]
        · rw [look_cons_of_ne hkey]
          exact (ih hms).mp hrest key
      · intro hall
        refine ⟨(), (look_cons_self k v ms).symm.trans (hall k), (ih hms).mpr fun key => ?_⟩
        by_cases hkey : k = key
        · exact look_of_not_mem (hkey ▸ hk)
        · rw [← look_cons_of_ne hkey v]
          exact hall key

/-- Nothing is found under a key before the first. -/
theorem look_of_lt_head {k key : String} {v : Json} (hk : ∀ k' ∈ ms.keys, k < k') (hlt : key < k) :
    look check ((k, v) :: ms) key = .ok () := by
  refine look_of_not_mem fun hmem => ?_
  rcases List.mem_cons.mp hmem with rfl | hmem
  · exact lt_irrefl _ hlt
  · exact lt_asymm hlt (hk key hmem)

/-- Of several faults the one under the first key is reported. -/
theorem walk_eq_error_iff (h : ms.keys.Pairwise (· < ·)) :
    walk check ms = .error e ↔
      ∃ key, look check ms key = .error e ∧ ∀ k < key, look check ms k = .ok () := by
  induction ms with
  | nil =>
      constructor
      · intro h
        cases h
      · rintro ⟨_, h, _⟩
        cases h
  | cons m ms ih =>
      obtain ⟨k, v⟩ := m
      obtain ⟨hk, hms⟩ := List.pairwise_cons.mp h
      rw [walk_cons]
      cases hfirst : check k v with
      | error e' =>
          constructor
          · intro h
            cases h
            exact ⟨k, (look_cons_self k v ms).trans hfirst, fun _ => look_of_lt_head hk⟩
          · rintro ⟨key, herror, hok⟩
            rcases lt_trichotomy key k with hlt | rfl | hlt
            · rw [look_of_lt_head hk hlt] at herror
              cases herror
            · rw [look_cons_self, hfirst] at herror
              exact herror
            · have := hok k hlt
              rw [look_cons_self, hfirst] at this
              cases this
      | ok _ =>
          -- a first member in order changes nothing of what there is to find
          have hsame : look check ((k, v) :: ms) = look check ms := by
            funext key
            by_cases hkey : k = key
            · subst hkey
              rw [look_cons_self, hfirst, look_of_not_mem fun hmem => lt_irrefl _ (hk k hmem)]
            · exact look_cons_of_ne hkey v ms
          rw [hsame]
          exact ih hms

/-- What a walk finds is decided by what there is to find under each key. -/
theorem walk_congr (h : ms.keys.Pairwise (· < ·)) (h' : ms'.keys.Pairwise (· < ·))
    (hlook : look check ms = look check ms') : walk check ms = walk check ms' := by
  cases hwalk : walk check ms' with
  | ok _ => rw [walk_eq_ok_iff (h.imp ne_of_lt), hlook, ← walk_eq_ok_iff (h'.imp ne_of_lt), hwalk]
  | error e => rw [walk_eq_error_iff h, hlook, ← walk_eq_error_iff h', hwalk]

end Members

/-! ## Fields -/

namespace Decode
namespace Fields

variable {α β : Type} {ms ms' : Members}

theorem look_seq (f : Fields (α → β)) (x : Fields α) (ms : Members) (key : String) :
    ms.look (f <*> x).check key = ms.look f.check key >>= fun _ => ms.look x.check key := by
  unfold Members.look
  cases ms.get? key with
  | none => rfl
  | some value => rfl

theorem ofMembers_pure_iff {a : α} {P : α → Prop} :
    (∃ b, (pure a : Fields α).ofMembers ms = .ok b ∧ P b) ↔ P a := by
  constructor
  · rintro ⟨b, hb, hP⟩
    cases hb
    exact hP
  · intro hP
    exact ⟨a, rfl, hP⟩

/-- The fields can be put together if the first ones can, and then the last one. -/
theorem ofMembers_seq_iff {f : Fields (α → β)} {x : Fields α} {P : β → Prop} :
    (∃ b, (f <*> x).ofMembers ms = .ok b ∧ P b) ↔
      ∃ g, f.ofMembers ms = .ok g ∧ ∃ a, x.ofMembers ms = .ok a ∧ P (g a) := by
  -- both parts are read from the same members
  have hseq : (f <*> x).ofMembers ms =
      f.ofMembers ms >>= fun g => x.ofMembers ms >>= fun a => pure (g a) := rfl
  rw [hseq]
  constructor
  · rintro ⟨b, hb, hP⟩
    obtain ⟨g, hg, hb⟩ := bind_eq_ok_iff.mp hb
    obtain ⟨a, ha, hb⟩ := bind_eq_ok_iff.mp hb
    cases hb
    exact ⟨g, hg, a, ha, hP⟩
  · rintro ⟨g, hg, a, ha, hP⟩
    exact ⟨g a, bind_eq_ok_iff.mpr ⟨g, hg, bind_eq_ok_iff.mpr ⟨a, ha, rfl⟩⟩, hP⟩

theorem ofMembers_single (name : String) (decode : Decoder α) (absentMember : Except DecodeError α)
    (absentItem : DecodeError → Except DecodeError α) (ms : Members) :
    (single name decode absentMember absentItem).ofMembers ms =
      match ms.get? name with
      | some v => decode v
      | Option.none => absentMember := rfl

@[simp] theorem ofMembers_required (name : String) (decode : Decoder α) (ms : Members) :
    (required name decode).ofMembers ms =
      match ms.get? name with
      | some v => decode v
      | Option.none => .error (.missingField name) := rfl

@[simp] theorem ofMembers_optional (name : String) (decode : Decoder α) (ms : Members) :
    (Decode.optional name decode).ofMembers ms =
      match ms.get? name with
      | some v => nullable decode v
      | Option.none => .ok Option.none := rfl

@[simp] theorem ofMembers_withDefault (name : String) (decode : Decoder α) (default : α)
    (ms : Members) :
    (withDefault name decode default).ofMembers ms =
      match ms.get? name with
      | some v => decode v
      | Option.none => .ok default := rfl

/-- Where a field is looked at, there is something wrong if and only if it cannot be decoded. -/
theorem look_withDefault (name : String) (decode : Decoder α) (default : α) (ms : Members)
    (key : String) :
    ms.look (withDefault name decode default).check key =
      if key = name then
        ((withDefault name decode default).ofMembers ms).map fun _ => ()
      else .ok () := by
  rw [ofMembers_withDefault]
  unfold Members.look withDefault single
  by_cases hkey : key = name
  · subst hkey
    rw [if_pos rfl]
    cases ms.get? key with
    | none => rfl
    | some v => exact if_pos rfl
  · rw [if_neg hkey]
    cases ms.get? key with
    | none => rfl
    | some v => exact if_neg hkey

/-! ### Descriptions that look at nothing else -/

/-- Nothing is wrong with the members from which the fields have been put together. -/
class Thorough (fields : Fields α) : Prop where
  look_eq_ok : ∀ {ms a}, fields.ofMembers ms = .ok a → ∀ key, ms.look fields.check key = .ok ()

instance (a : α) : Thorough (pure a : Fields α) where
  look_eq_ok {ms _} _ key := by
    unfold Members.look
    cases ms.get? key with
    | none => rfl
    | some v => rfl

instance (f : Fields (α → β)) (x : Fields α) [Thorough f] [Thorough x] : Thorough (f <*> x) where
  look_eq_ok h key := by
    obtain ⟨g, hg, a, ha, _⟩ := ofMembers_seq_iff.mp ⟨_, h, rfl⟩
    rw [look_seq, Thorough.look_eq_ok hg key]
    exact Thorough.look_eq_ok ha key

instance (name : String) (decode : Decoder α) (absentMember : Except DecodeError α)
    (absentItem : DecodeError → Except DecodeError α) :
    Thorough (single name decode absentMember absentItem) where
  look_eq_ok {ms a} h key := by
    unfold Members.look
    by_cases hkey : key = name
    · subst hkey
      cases hget : ms.get? key with
      | none => rfl
      | some v =>
          have hv : decode v = .ok a := by simpa [ofMembers_single, hget] using h
          simp [single, hv, Except.map]
    · cases ms.get? key with
      | none => rfl
      | some v => exact if_neg hkey

instance (name : String) (decode : Decoder α) : Thorough (required name decode) :=
  inferInstanceAs (Thorough (single ..))

instance (name : String) (decode : Decoder α) : Thorough (optional name decode) :=
  inferInstanceAs (Thorough (single ..))

instance (name : String) (decode : Decoder α) (default : α) :
    Thorough (withDefault name decode default) :=
  inferInstanceAs (Thorough (single ..))

/-- Two objects give the same for every field. -/
structure Agree (fields : Fields α) (ms ms' : Members) : Prop where
  look : ms.look fields.check = ms'.look fields.check
  ofMembers : fields.ofMembers ms = fields.ofMembers ms'

theorem Agree.pure (a : α) : (pure a : Fields α).Agree ms ms' where
  look := by
    funext key
    unfold Members.look
    cases ms.get? key <;> cases ms'.get? key <;> rfl
  ofMembers := rfl

/-- Agreement on the parts is agreement on the whole. -/
theorem Agree.seq {f : Fields (α → β)} {x : Fields α} (hf : f.Agree ms ms')
    (hx : x.Agree ms ms') : (f <*> x).Agree ms ms' where
  look := by
    funext key
    rw [look_seq, look_seq, hf.look, hx.look]
  ofMembers := by
    show (f.ofMembers ms >>= fun g => x.ofMembers ms >>= fun a => Pure.pure (g a)) =
      (f.ofMembers ms' >>= fun g => x.ofMembers ms' >>= fun a => Pure.pure (g a))
    rw [hf.ofMembers, hx.ofMembers]

/-- For a single field it is enough that it is read alike. -/
theorem Agree.withDefault {name : String} {decode : Decoder α} {default : α}
    (h : (withDefault name decode default).ofMembers ms =
      (withDefault name decode default).ofMembers ms') :
    (withDefault name decode default).Agree ms ms' where
  look := by
    funext key
    rw [look_withDefault, look_withDefault, h]
  ofMembers := h

end Fields

/-! ## Records -/

variable {α : Type} {name : String} {count : Nat} {fields : Fields α} {ms ms' : Members}

theorem record_obj (name : String) (count : Nat) (fields : Fields α) (ms : Members) :
    record name count fields (.obj ms) =
      ms.walk fields.check >>= fun _ => fields.ofMembers ms := rfl

/-- A record is decoded from an object if its fields can be put together from the members. -/
theorem record_eq_ok_iff [fields.Thorough] (h : ms.keys.Nodup) {a : α} :
    record name count fields (.obj ms) = .ok a ↔ ∃ b, fields.ofMembers ms = .ok b ∧ b = a := by
  rw [record_obj, bind_eq_ok_iff, exists_eq_right]
  constructor
  · rintro ⟨_, _, ha⟩
    exact ha
  · intro ha
    exact ⟨(), (Members.walk_eq_ok_iff h).mpr (Fields.Thorough.look_eq_ok ha), ha⟩

/-- The record, or what is wrong with it, depends on nothing but the members for its fields. -/
theorem record_congr (h : ms.keys.Pairwise (· < ·)) (h' : ms'.keys.Pairwise (· < ·))
    (hagree : fields.Agree ms ms') :
    record name count fields (.obj ms) = record name count fields (.obj ms') := by
  rw [record_obj, record_obj, Members.walk_congr h h' hagree.look, hagree.ofMembers]

/-! ## Records within records -/

/-- The members of an object within an object; none, if there is no such object. -/
def within (ms : Members) (name : String) : Members :=
  match ms.get? name with
  | some (.obj inner) => inner
  | _ => []

theorem sorted_within (h : (Json.obj ms).Sorted) (name : String) :
    (Json.obj (within ms name)).Sorted := by
  unfold within
  split
  case h_1 inner hinner => exact h.get? hinner
  case h_2 => exact Json.sorted_obj_nil

/-- A record that an object leaves out is the one of an object without members. -/
theorem ofMembers_withDefault_getD {decode : Decoder α} {default : α}
    (hdefault : decode (.obj []) = .ok default) (ms : Members) :
    (withDefault name decode default).ofMembers ms = decode ((ms.get? name).getD (.obj [])) := by
  rw [Fields.ofMembers_withDefault]
  cases ms.get? name with
  | none => exact hdefault.symm
  | some v => rfl

theorem getD_eq_within (hopen : ∀ v, ms.get? name = some v → ∃ inner, v = .obj inner) :
    (ms.get? name).getD (.obj []) = .obj (within ms name) := by
  unfold within
  cases hget : ms.get? name with
  | none => rfl
  | some v =>
      obtain ⟨inner, rfl⟩ := hopen v hget
      rfl

/-- A section is decoded from its members, be they there or not. -/
theorem ofMembers_withDefault_record {decode : Decoder α} {default : α}
    (hdefault : decode (.obj []) = .ok default)
    (hopen : ∀ v, ms.get? name = some v → ∃ inner, v = .obj inner) :
    (withDefault name decode default).ofMembers ms = decode (.obj (within ms name)) := by
  rw [ofMembers_withDefault_getD hdefault, getD_eq_within hopen]

theorem at?_within (hopen : ∀ v, ms.get? name = some v → ∃ inner, v = .obj inner) (key : String) :
    (Json.obj ms).at? [name, key] = (within ms name).get? key := by
  rw [Json.at?_obj_cons]
  unfold within
  cases hget : ms.get? name with
  | none => rfl
  | some v =>
      obtain ⟨inner, rfl⟩ := hopen v hget
      exact Option.bind_fun_some _

end Decode
end GatewayRegistry
