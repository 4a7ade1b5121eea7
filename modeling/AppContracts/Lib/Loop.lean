/-
Loops with a measure.

The body of a loop ends it, fails, or goes on with a new state, and a measure of the
state decreases whenever it goes on. So a loop has a result, and what every turn
keeps holds where it ends.
-/
import Mathlib.Data.Nat.Notation

set_option autoImplicit false

namespace AppContracts

/-- The body of a loop, and a measure of its state that every turn decreases. -/
structure Loop (σ ε β : Type) : Type where
  body : σ → Except ε (β ⊕ σ)
  measure : σ → ℕ
  decreases : ∀ {s s'}, body s = .ok (.inr s') → measure s' < measure s

namespace Loop

variable {σ ε β : Type} (L : Loop σ ε β)

/-- What the loop returns or raises. -/
def run (s : σ) : Except ε β :=
  match h : L.body s with
  | .error e => .error e
  | .ok (.inl b) => .ok b
  | .ok (.inr s') =>
    have : L.measure s' < L.measure s := L.decreases h
    run s'
termination_by L.measure s

/-- The same, in at most so many turns. -/
def turns : ℕ → σ → Option (Except ε β)
  | 0, _ => none
  | n + 1, s =>
    match L.body s with
    | .error e => some (.error e)
    | .ok (.inl b) => some (.ok b)
    | .ok (.inr s') => turns n s'

variable {L} {s s' : σ}

theorem run_error {e : ε} (h : L.body s = .error e) : L.run s = .error e := by
  rw [run]
  split <;> simp_all

theorem run_end {b : β} (h : L.body s = .ok (.inl b)) : L.run s = .ok b := by
  rw [run]
  split <;> simp_all

theorem run_next (h : L.body s = .ok (.inr s')) : L.run s = L.run s' := by
  rw [run]
  split <;> simp_all

/-- **The loop ends**, in no more turns than the measure says. -/
theorem turns_run {n : ℕ} (h : L.measure s < n) : L.turns n s = some (L.run s) := by
  induction n generalizing s with
  | zero => exact absurd h (Nat.not_lt_zero _)
  | succ n ih =>
    rw [turns]
    rcases hbody : L.body s with e | b | s'
    · rw [run_error hbody]
    · rw [run_end hbody]
    · have hless := L.decreases hbody
      rw [run_next hbody]
      exact ih (by omega)

/-- What every turn keeps holds where the loop ends. -/
theorem run_invariant {I : σ → Prop} {Q : Except ε β → Prop}
    (hnext : ∀ s s', I s → L.body s = .ok (.inr s') → I s')
    (hend : ∀ s b, I s → L.body s = .ok (.inl b) → Q (.ok b))
    (herror : ∀ s e, I s → L.body s = .error e → Q (.error e)) (h : I s) : Q (L.run s) := by
  fun_induction run L s with
  | case1 s e hbody => exact herror s e h hbody
  | case2 s b hbody => exact hend s b h hbody
  | case3 s s' hbody hless ih => exact ih (hnext s s' h hbody)

end Loop

end AppContracts
