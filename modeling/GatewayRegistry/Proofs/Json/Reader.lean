import GatewayRegistry.Json.Reader
import GatewayRegistry.Proofs.Json.Objects

/-!
# What is read is sorted

The reader puts members into objects one at a time, in the order of the document. What it delivers
is nevertheless `Json.Sorted`: the values in the open arrays and objects are, before and after each
token (`Reading.Sorted.take?`), and so is the value of a complete document (`sorted_of_parse?`).
-/

namespace GatewayRegistry
namespace Json

/-! ## Tokens

A token that carries a value carries a text, a number, a truth value or null; none of them has keys.
-/

/-- A token carries no value with members out of order. -/
def Token.Sorted : Token → Prop
  | .scalar v => v.Sorted
  | _ => True

namespace Token

theorem sorted_of_value? {x : Numeral} {v : Json} (h : x.value? = some v) : v.Sorted := by
  unfold Numeral.value? at h
  simp only at h
  -- a number is either whole or floating-point, and neither has members
  repeat' split at h
  all_goals first
    | (cases h; trivial)
    | (obtain ⟨_, _, rfl⟩ := Option.map_eq_some_iff.mp h; trivial)

theorem sorted_of_number? {cs : List Char} {v : Json} (h : number? cs = some v) : v.Sorted := by
  obtain ⟨x, _, hx⟩ := Option.bind_eq_some_iff.mp h
  exact sorted_of_value? hx

theorem sorted_of_map_cons {t : Token} {rest : Option (List Token)} {ts : List Token}
    (h : rest.map (t :: ·) = some ts) (ht : t.Sorted)
    (hrest : ∀ {ts}, rest = some ts → ∀ t ∈ ts, t.Sorted) : ∀ t ∈ ts, t.Sorted := by
  obtain ⟨ts, hts, rfl⟩ := Option.map_eq_some_iff.mp h
  exact List.forall_mem_cons.mpr ⟨ht, hrest hts⟩

/-- All values in the tokens of a text are sorted. -/
theorem sorted_of_ofChars? {cs : List Char} {ts : List Token} (h : ofChars? cs = some ts) :
    ∀ t ∈ ts, t.Sorted := by
  fun_induction ofChars? cs generalizing ts with
  | case1 =>
      cases h
      simp
  | case2 _ ih | case3 _ ih | case4 _ ih | case5 _ ih | case6 _ ih | case7 _ ih =>
      -- brackets and punctuation
      exact sorted_of_map_cons h trivial ih
  | case8 _ ih | case9 _ ih | case10 _ ih =>
      -- null and the truth values
      exact sorted_of_map_cons h trivial ih
  | case12 _ _ _ _ ih => exact sorted_of_map_cons h trivial ih
  | case13 =>
      rename_i ih
      exact ih h
  | case14 =>
      rename_i ih
      obtain ⟨v, hv, h⟩ := Option.bind_eq_some_iff.mp h
      obtain ⟨ts, hts, h⟩ := Option.bind_eq_some_iff.mp h
      cases h
      exact List.forall_mem_cons.mpr ⟨sorted_of_number? hv, ih hts⟩
  | case11 | case15 => cases h

end Token

/-! ## The machine

What is open at a moment is a stack of arrays and objects, each with what it holds so far. A member
is put into its object by `Members.insert`, which keeps the order. -/

/-- The values in an open array or object are sorted. -/
def Frame.Sorted : Frame → Prop
  | .array items => ∀ v ∈ items, v.Sorted
  | .object members _ => (obj members).Sorted

/-- The values that have been read in the present array or object are sorted. -/
def Expecting.Sorted : Expecting → Prop
  | .value | .firstItem | .firstKey => True
  | .key members | .colon members _ | .afterMember members => (obj members).Sorted
  | .afterItem items => ∀ v ∈ items, v.Sorted
  | .nothing result => result.Sorted

namespace Reading

/-- All values that have been read are sorted. -/
structure Sorted (r : Reading) : Prop where
  around : ∀ frame ∈ r.around, frame.Sorted
  expecting : r.expecting.Sorted

theorem Sorted.start : start.Sorted := ⟨by simp [Reading.start], trivial⟩

/-- A value that is complete goes into what is around it. -/
theorem Sorted.deliver {around : List Frame} {v : Json} (haround : ∀ frame ∈ around, frame.Sorted)
    (hv : v.Sorted) : (deliver v around).Sorted := by
  cases around with
  | nil => exact ⟨haround, hv⟩
  | cons frame around =>
      obtain ⟨hframe, hrest⟩ := List.forall_mem_cons.mp haround
      cases frame with
      | array items => exact ⟨hrest, List.forall_mem_cons.mpr ⟨hv, hframe⟩⟩
      | object members key => exact ⟨hrest, sorted_obj_insert hframe key hv⟩

theorem Sorted.begin? {around : List Frame} {t : Token} {r : Reading}
    (haround : ∀ frame ∈ around, frame.Sorted) (ht : t.Sorted) (h : begin? around t = some r) :
    r.Sorted := by
  cases t with
  | scalar v =>
      cases h
      exact .deliver haround ht
  | openArray | openObject =>
      obtain ⟨_, h⟩ := Option.ite_none_right_eq_some.mp h
      cases h
      exact ⟨haround, trivial⟩
  | closeArray | closeObject | comma | colon => cases h

/-- One token keeps what has been read sorted. -/
theorem Sorted.take? {r r' : Reading} {t : Token} (hr : r.Sorted) (ht : t.Sorted)
    (h : r.take? t = some r') : r'.Sorted := by
  obtain ⟨haround, hexpecting⟩ := hr
  unfold Reading.take? at h
  split at h
  case h_1 => exact .begin? haround ht h
  case h_2 =>
    cases h
    exact .deliver haround (sorted_arr_iff.mpr (by simp))
  -- a value begins: what is around it is as before
  case h_3 => exact .begin? (List.forall_mem_cons.mpr ⟨by simp [Frame.Sorted], haround⟩) ht h
  case h_4 items hr =>
    rw [hr] at hexpecting
    cases h
    exact ⟨List.forall_mem_cons.mpr ⟨hexpecting, haround⟩, trivial⟩
  case h_5 items hr =>
    rw [hr] at hexpecting
    cases h
    exact .deliver haround (sorted_arr_iff.mpr fun v hv => hexpecting v (List.mem_reverse.mp hv))
  case h_6 =>
    cases h
    exact .deliver haround sorted_obj_nil
  case h_7 =>
    cases h
    exact ⟨haround, sorted_obj_nil⟩
  case h_8 members key hr =>
    rw [hr] at hexpecting
    cases h
    exact ⟨haround, hexpecting⟩
  -- the object waits on the stack while the value of a member is read
  case h_9 members key hr =>
    rw [hr] at hexpecting
    cases h
    exact ⟨List.forall_mem_cons.mpr ⟨hexpecting, haround⟩, trivial⟩
  case h_10 members hr =>
    rw [hr] at hexpecting
    cases h
    exact ⟨haround, hexpecting⟩
  case h_11 members hr =>
    rw [hr] at hexpecting
    cases h
    exact .deliver haround hexpecting
  case h_12 => cases h

/-- All tokens, one after the other, keep what has been read sorted. -/
theorem Sorted.foldlM {ts : List Token} {r r' : Reading} (hr : r.Sorted)
    (hts : ∀ t ∈ ts, t.Sorted) (h : ts.foldlM Reading.take? r = some r') : r'.Sorted := by
  induction ts generalizing r with
  | nil =>
      cases h
      exact hr
  | cons t ts ih =>
      obtain ⟨ht, hts⟩ := List.forall_mem_cons.mp hts
      rw [List.foldlM_cons] at h
      obtain ⟨r₁, hr₁, hrest⟩ := Option.bind_eq_some_iff.mp h
      exact ih (hr.take? ht hr₁) hts hrest

end Reading

/-! ## Documents -/

/-- To read an object is to read a document that is one. -/
theorem parseObject?_eq_some_iff {text : String} {ms : Members} :
    parseObject? text = some ms ↔ parse? text = some (.obj ms) := by
  unfold parseObject?
  rw [Option.bind_eq_some_iff]
  constructor
  · rintro ⟨v, hv, hms⟩
    cases v <;> cases hms
    exact hv
  · exact fun h => ⟨_, h, rfl⟩

theorem sorted_of_ofTokens? {ts : List Token} {v : Json} (hts : ∀ t ∈ ts, t.Sorted)
    (h : ofTokens? ts = some v) : v.Sorted := by
  obtain ⟨r, hr, hresult⟩ := Option.bind_eq_some_iff.mp h
  have hexpecting := (Reading.Sorted.start.foldlM hts hr).expecting
  unfold Reading.result? at hresult
  split at hresult
  case h_1 v hv =>
    cases hresult
    rw [hv] at hexpecting
    exact hexpecting
  case h_2 => cases hresult

/-- The value of a document has its members in order, however the document has them. -/
theorem sorted_of_parse? {text : String} {v : Json} (h : parse? text = some v) : v.Sorted := by
  obtain ⟨ts, hts, hv⟩ := Option.bind_eq_some_iff.mp h
  exact sorted_of_ofTokens? (Token.sorted_of_ofChars? hts) hv

end Json
end GatewayRegistry
