import GatewayRegistry.Proofs.Json.Record

/-!
# What is written is read back

Each kind of value that a field can hold is decoded to what it was encoded from: the `@[simp]`
lemmas say so, one for each decoder of single values, one for each way to write null for none and
one for the names out of a closed set. Together with `Decode.record_eq_ok_iff` they evaluate the
decoder of a record on what is written for it.

In the other direction, whatever a record is decoded from, what is said of all values of a field
holds of the field (`Decode.Fields.Yields`). This is needed for whole numbers, which are kept
without a bound but are read within one (`Decode.FitsSigned64`).
-/

namespace GatewayRegistry
namespace Decode

variable {α β : Type}

/-! ## Single values -/

@[simp] theorem bool_bool (b : Bool) : bool (.bool b) = .ok b := rfl

@[simp] theorem string_str (s : String) : string (.str s) = .ok s := rfl

@[simp] theorem path_str (s : String) : path (.str s) = .ok s := rfl

@[simp] theorem any_eq (v : Json) : any v = .ok v := rfl

/-- A number is read if it is whole and within the bounds. -/
theorem whole_eq_ok_iff {least greatest n : Int} {expected : Expected} {v : Json} :
    whole least greatest expected v = .ok n ↔ v = .int n ∧ least ≤ n ∧ n ≤ greatest := by
  cases v with
  | int m =>
      by_cases h : least ≤ m ∧ m ≤ greatest
      · simp only [whole, if_pos h, Except.ok.injEq, Json.int.injEq]
        constructor
        · rintro rfl
          exact ⟨rfl, h⟩
        · rintro ⟨rfl, _⟩
          rfl
      · simp only [whole, if_neg h, Json.int.injEq, reduceCtorEq, false_iff]
        rintro ⟨rfl, hn⟩
        exact h hn
  | _ => simp [whole]

@[simp] theorem uint16_int (n : UInt16) : uint16 (.int n.toNat) = .ok n := by
  have hlt : n.toNat < 65536 := n.toNat_lt
  unfold uint16
  rw [whole_eq_ok_iff.mpr ⟨rfl, by omega, by omega⟩]
  simp [bind, Except.bind, pure, Except.pure]

@[simp] theorem uint32_int (n : UInt32) : uint32 (.int n.toNat) = .ok n := by
  have hlt : n.toNat < 4294967296 := n.toNat_lt
  unfold uint32
  rw [whole_eq_ok_iff.mpr ⟨rfl, by omega, by omega⟩]
  simp [bind, Except.bind, pure, Except.pure]

@[simp] theorem uint64_int (n : UInt64) : uint64 (.int n.toNat) = .ok n := by
  have hlt : n.toNat < 18446744073709551616 := n.toNat_lt
  unfold uint64
  rw [whole_eq_ok_iff.mpr ⟨rfl, by omega, by omega⟩]
  simp [bind, Except.bind, pure, Except.pure]

/-- A number is one of those of 64 bits with a sign. -/
def FitsSigned64 (n : Int) : Prop := -9223372036854775808 ≤ n ∧ n ≤ 9223372036854775807

instance (n : Int) : Decidable (FitsSigned64 n) := inferInstanceAs (Decidable (_ ∧ _))

/-- Numbers of 64 bits, whose type does not keep them within the bounds. -/
theorem signed64_eq_ok_iff {n : Int} {v : Json} :
    signed64 v = .ok n ↔ v = .int n ∧ FitsSigned64 n := whole_eq_ok_iff

@[simp] theorem int64_int (n : Int64) : int64 (.int n.toInt) = .ok n := by
  have hle : -2 ^ 63 ≤ n.toInt := n.le_toInt
  have hlt : n.toInt < 2 ^ 63 := n.toInt_lt
  unfold int64
  rw [signed64_eq_ok_iff.mpr ⟨rfl, by unfold FitsSigned64; omega⟩]
  simp [bind, Except.bind, pure, Except.pure]

/-- A value or none is read back if the value is, and is not written as null. -/
theorem nullable_elim {decode : Decoder α} {encode : α → Json}
    (h : ∀ a, decode (encode a) = .ok a) (hnull : ∀ a, encode a ≠ .null) (o : Option α) :
    nullable decode (o.elim .null encode) = .ok o := by
  cases o with
  | none => rfl
  | some a =>
      -- were it written as null, it would be read as none
      show nullable decode (encode a) = .ok (some a)
      rw [nullable, h a]
      · rfl
      · exact hnull a

@[simp] theorem nullable_string (o : Option String) :
    nullable string (o.elim .null .str) = .ok o :=
  nullable_elim string_str (by simp) o

@[simp] theorem nullable_path (o : Option String) : nullable path (o.elim .null .str) = .ok o :=
  nullable_elim path_str (by simp) o

@[simp] theorem nullable_uint16 (o : Option UInt16) :
    nullable uint16 (o.elim .null fun n => .int n.toNat) = .ok o :=
  nullable_elim uint16_int (by simp) o

/-! ## Names out of a closed set -/

section

variable {all : List α} {text : α → String} {a : α}

theorem lookUp_map (h : all.find? (text · == text a) = some a) :
    lookUp (all.map fun a => (text a, a)) (text a) = .ok a := by
  have hfind : (all.map fun a => (text a, a)).find? (·.1 == text a) = some (text a, a) := by
    rw [List.find?_map]
    show (all.find? (text · == text a)).map (fun a => (text a, a)) = some (text a, a)
    rw [h]
    rfl
  rw [lookUp, hfind]

theorem variant_str (h : all.find? (text · == text a) = some a) :
    variant (all.map fun a => (text a, a)) (.str (text a)) = .ok a := lookUp_map h

end

/-! ## What is true of whatever is read

Fields are described by an applicative expression. A property of each field that is read is
collected along the expression, and at the end it is a property of the record. -/

namespace Fields

variable {name : String} {decode : Decoder α} {fields : Fields α} {P : α → Prop}

/-- From whatever the fields are put together, the members of an object or the items of an array,
something is true of the result. -/
structure Yields (fields : Fields α) (P : α → Prop) : Prop where
  ofMembers : ∀ {ms a}, fields.ofMembers ms = .ok a → P a
  ofItems : ∀ {missing items a rest}, fields.ofItems missing items = .ok (a, rest) → P a

namespace Yields

theorem pure {a : α} (h : P a) : (Pure.pure a : Fields α).Yields P where
  ofMembers hb := by
    cases hb
    exact h
  ofItems hb := by
    cases hb
    exact h

/-- What is true of all that a decoder gives is true of a field that it decodes. -/
theorem required (h : ∀ {v a}, decode v = .ok a → P a) : (required name decode).Yields P where
  ofMembers {ms a} ha := by
    rw [ofMembers_required] at ha
    split at ha
    · exact h ha
    · cases ha
  ofItems {missing items a rest} ha := by
    cases items with
    | nil => cases ha
    | cons v items =>
        change (decode v).map (fun a => (a, items)) = .ok (a, rest) at ha
        cases hv : decode v with
        | error e =>
            rw [hv] at ha
            cases ha
        | ok b =>
            rw [hv] at ha
            cases ha
            exact h hv

theorem signed64 : (Decode.required name Decode.signed64).Yields FitsSigned64 :=
  .required fun h => (signed64_eq_ok_iff.mp h).2

variable {f : Fields (α → β)} {x : Fields α} {Q : β → Prop}

/-- A field with a property, handed to a function that needs it. -/
theorem seq (hf : f.Yields fun g => ∀ a, P a → Q (g a)) (hx : x.Yields P) :
    (f <*> x).Yields Q where
  ofMembers {ms b} hb := by
    obtain ⟨g, hg, a, ha, rfl⟩ := ofMembers_seq_iff.mp ⟨b, hb, rfl⟩
    exact hf.ofMembers hg a (hx.ofMembers ha)
  ofItems {missing items b rest} hb := by
    obtain ⟨⟨g, items⟩, hg, hb⟩ := bind_eq_ok_iff.mp hb
    obtain ⟨⟨a, rest⟩, ha, hb⟩ := bind_eq_ok_iff.mp hb
    cases hb
    exact hf.ofItems hg a (hx.ofItems ha)

/-- The last field may be anything. -/
theorem init (hf : f.Yields fun g => ∀ a, Q (g a)) : (f <*> x).Yields Q :=
  .seq (P := fun _ => True) ⟨fun hg a _ => hf.ofMembers hg a, fun hg a _ => hf.ofItems hg a⟩
    ⟨fun _ => trivial, fun _ => trivial⟩

end Yields

end Fields

section

variable {name : String} {count : Nat} {fields : Fields α} {a : α}

/-- Nothing is left over of an array from which a record is decoded. -/
theorem ofItems_of_record_arr {items : List Json}
    (h : record name count fields (.arr items) = .ok a) :
    fields.ofItems (.wrongLength items.length (.recordOf name count)) items = .ok (a, []) := by
  obtain ⟨⟨b, rest⟩, hb, ha⟩ := bind_eq_ok_iff.mp h
  cases rest with
  | nil =>
      cases ha
      exact hb
  | cons v rest => cases ha

/-- What is true of the fields put together is true of a record from an object or an array. -/
theorem of_record_eq_ok (P : α → Prop) (hfields : fields.Yields P) {v : Json}
    (h : record name count fields v = .ok a) : P a := by
  cases v with
  | obj ms =>
      obtain ⟨_, _, ha⟩ := bind_eq_ok_iff.mp h
      exact hfields.ofMembers ha
  | arr items => exact hfields.ofItems (ofItems_of_record_arr h)
  | _ => cases h

end

end Decode
end GatewayRegistry
