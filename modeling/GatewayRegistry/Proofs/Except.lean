import Mathlib.Data.List.Forall2
import Mathlib.Order.Defs.Unbundled

/-!
# Computations that may be refused

When a check, a sequence or a loop ends well, and what a loop keeps if each of its rounds keeps it.
-/

namespace GatewayRegistry

variable {ε α β : Type}

/-- A check that refuses leaves the rest of a statement to the case in which it passes. -/
theorem refused_eq_ok_iff {c : Prop} [Decidable c] {e : ε} {x : Except ε α} {a : α} :
    (if c then .error e else x) = .ok a ↔ ¬c ∧ x = .ok a := by
  by_cases hc : c
  · simp [hc]
  · simp [hc]

/-- A sequence succeeds if both parts do. -/
theorem bind_eq_ok_iff {x : Except ε α} {f : α → Except ε β} {b : β} :
    (x >>= f) = .ok b ↔ ∃ a, x = .ok a ∧ f a = .ok b := by
  cases x with
  | error e => simp [bind, Except.bind]
  | ok a => simp [bind, Except.bind]

theorem isOk_iff_not_error {x : Except ε α} : (∃ a, x = .ok a) ↔ ¬∃ e, x = .error e := by
  cases x <;> simp

def saysYes : Except ε Bool → Bool
  | .ok answer => answer
  | .error _ => false

/-- An error is not a yes. -/
theorem saysYes_iff {answer : Except ε Bool} : saysYes answer = true ↔ answer = .ok true := by
  rcases answer with _ | _ | _ <;> simp [saysYes]

/-- What a failure to answer is called makes no difference. -/
theorem saysYes_mapError {ε' : Type} (reword : ε → ε') (answer : Except ε Bool) :
    saysYes (answer.mapError reword) = saysYes answer := by
  cases answer <;> rfl

/-- A question is put to several things in a row, and each of them answers it. -/
theorem mapM_eq_ok_iff {f : α → Except ε β} {xs : List α} {ys : List β} :
    xs.mapM f = .ok ys ↔ List.Forall₂ (fun x y => f x = .ok y) xs ys := by
  induction xs generalizing ys with
  | nil => cases ys <;> simp [pure, Except.pure]
  | cons x xs ih =>
      rw [List.mapM_cons]
      cases ys with
      | nil => simp [bind_eq_ok_iff, pure, Except.pure]
      | cons y ys => simp [bind_eq_ok_iff, pure, Except.pure, ih]

/-- A question that is put to several things in a row fails as it fails for one of them. -/
theorem mapM_eq_error {f : α → Except ε β} {xs : List α} {e : ε} (h : xs.mapM f = .error e) :
    ∃ x ∈ xs, f x = .error e := by
  induction xs with
  | nil => cases h
  | cons x xs ih =>
      rw [List.mapM_cons] at h
      cases hx : f x with
      | error e' =>
          rw [hx] at h
          cases h
          exact ⟨x, List.mem_cons_self, hx⟩
      | ok y =>
          cases hxs : xs.mapM f with
          | ok ys =>
              rw [hx, hxs] at h
              cases h
          | error e' =>
              rw [hx, hxs] at h
              cases h
              obtain ⟨x', hmem, hx'⟩ := ih hxs
              exact ⟨x', List.mem_cons_of_mem x hmem, hx'⟩

/-- If each round of a loop that succeeds moves what is seen of the state along a preorder, so does
the loop. -/
theorem foldlM_induction {σ ρ : Type} (view : σ → ρ) (R : ρ → ρ → Prop) [IsPreorder ρ R]
    {f : σ → α → Except ε σ} (hf : ∀ s x s', f s x = .ok s' → R (view s) (view s'))
    {xs : List α} {s s' : σ} (h : xs.foldlM f s = .ok s') : R (view s) (view s') := by
  induction xs generalizing s with
  | nil =>
      cases h
      exact refl_of R _
  | cons x xs ih =>
      rw [List.foldlM_cons, bind_eq_ok_iff] at h
      obtain ⟨s₁, h₁, hrest⟩ := h
      exact trans_of R (hf s x s₁ h₁) (ih hrest)

/-- If each round of a loop succeeds and keeps an invariant, so does the loop. -/
theorem foldlM_ok {σ : Type} (I : σ → Prop) {f : σ → α → Except ε σ} {xs : List α}
    (hf : ∀ x ∈ xs, ∀ s, I s → ∃ s', f s x = .ok s' ∧ I s') {s : σ} (h : I s) :
    ∃ s', xs.foldlM f s = .ok s' ∧ I s' := by
  induction xs generalizing s with
  | nil => exact ⟨s, rfl, h⟩
  | cons x xs ih =>
      obtain ⟨s₁, h₁, hI⟩ := hf x List.mem_cons_self s h
      rw [List.foldlM_cons, h₁]
      exact ih (fun y hy => hf y (List.mem_cons_of_mem x hy)) hI

/-- If each round of a loop does not notice a change, neither does the loop. -/
theorem foldlM_map {σ : Type} (change : σ → σ) {f : σ → α → Except ε σ}
    (hf : ∀ s x, f (change s) x = (f s x).map change) (xs : List α) (s : σ) :
    xs.foldlM f (change s) = (xs.foldlM f s).map change := by
  induction xs generalizing s with
  | nil => rfl
  | cons x xs ih =>
      rw [List.foldlM_cons, List.foldlM_cons, hf s x]
      cases f s x with
      | error e => rfl
      | ok s' => exact ih s'

end GatewayRegistry
