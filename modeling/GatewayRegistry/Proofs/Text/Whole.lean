import GatewayRegistry.Text.Whole

/-!
# The numbers that texts write

`Whole.readUnsigned` gives up at the first digit that takes it over its bound. That is the same as
reading the whole text as a number of any size (`Whole.written?`) and then comparing it with the
bound (`Whole.toOption_readUnsigned`).
-/

namespace GatewayRegistry
namespace Whole

/-- A number followed by one more digit. -/
def append (n d : Nat) : Nat := 10 * n + d

/-- The number that decimal digits write, if there are any and nothing else. -/
def decimal? : List Char → Option Nat
  | [] => none
  | cs => (cs.mapM digit?).map (List.foldl append 0)

/-- The number that a text writes, a plus sign in front or not. -/
def written? (s : String) : Option Nat :=
  match s.toList with
  | '+' :: digits => decimal? digits
  | digits => decimal? digits

/-- A number grows with every digit. -/
theorem le_foldl_append (n : Nat) (ds : List Nat) : n ≤ ds.foldl append n := by
  induction ds generalizing n with
  | nil => exact Nat.le_refl n
  | cons d ds ih =>
      have hstep : n ≤ append n d := by
        unfold append
        omega
      exact Nat.le_trans hstep (ih (append n d))

/-- Digits can be read within a bound exactly if the number they write is within it. -/
theorem toOption_extend {limit n : Nat} (beyond : WholeError) (cs : List Char) (h : n ≤ limit) :
    (extend limit beyond n cs).toOption =
      ((cs.mapM digit?).map (List.foldl append n)).filter (· ≤ limit) := by
  induction cs generalizing n with
  | nil =>
      show some n = Option.filter (· ≤ limit) (some n)
      rw [Option.filter_some, if_pos (decide_eq_true h)]
  | cons c cs ih =>
      unfold extend
      rw [List.mapM_cons]
      cases digit? c with
      | none => rfl
      | some d =>
          have hcons : (some d >>= fun d => List.mapM digit? cs >>= fun ds => pure (d :: ds)).map
              (List.foldl append n) = (cs.mapM digit?).map (List.foldl append (append n d)) := by
            cases cs.mapM digit? <;> rfl
          rw [hcons]
          by_cases hlimit : limit < append n d
          · -- every further digit only makes the number greater
            have hnone (ds : List Nat) : ¬ds.foldl append (append n d) ≤ limit := fun hle =>
              absurd (Nat.le_trans (le_foldl_append _ ds) hle) (Nat.not_le.mpr hlimit)
            simp only [if_pos (show limit < 10 * n + d from hlimit)]
            cases cs.mapM digit? with
            | none => rfl
            | some ds =>
                rw [Option.map_some, Option.filter_some, if_neg (by simpa using hnone ds)]
                rfl
          · simp only [if_neg (show ¬limit < 10 * n + d from hlimit)]
            exact ih (Nat.not_lt.mp hlimit)

/-- A text is read within a bound exactly if the number it writes is within it. -/
theorem toOption_readUnsigned (greatest : Nat) (s : String) :
    (readUnsigned greatest s).toOption = (written? s).filter (· ≤ greatest) := by
  -- no digits make no number, in both readings
  have hmagnitude (cs : List Char) :
      (magnitude greatest .tooLarge cs).toOption = (decimal? cs).filter (· ≤ greatest) := by
    cases cs with
    | nil => rfl
    | cons c cs => exact toOption_extend .tooLarge (c :: cs) (Nat.zero_le greatest)
  unfold readUnsigned written?
  split
  case h_1 hempty =>
    rw [hempty]
    rfl
  case h_2 digits hplus =>
    rw [hplus]
    exact hmagnitude digits
  case h_3 hplus =>
    split
    case h_1 digits hplus' => exact absurd hplus' (hplus digits)
    case h_2 => exact hmagnitude s.toList

end Whole
end GatewayRegistry
