/-
Histories of a component that serves requests one after the other, and keys it
accepts once.

`serve step s requests` pairs every request with its answer. A component is
`SingleUse` if what it has used up only grows and an accepted request uses up a
key that was still free. Then no two requests of a history are accepted on the
same key.
-/
import Mathlib.Data.Set.Basic
import Mathlib.Data.List.Nodup

set_option autoImplicit false

namespace AppContracts

variable {σ ρ α ε κ : Type}

/-- The requests and their answers, in order. -/
def serve (step : σ → ρ → Except ε α × σ) : σ → List ρ → List (ρ × Except ε α)
  | _, [] => []
  | s, r :: rest => (r, (step s r).1) :: serve step (step s r).2 rest

/-- The requests that were accepted. -/
def accepted (history : List (ρ × Except ε α)) : List (ρ × α) :=
  history.filterMap fun entry => entry.2.toOption.map fun a => (entry.1, a)

@[simp] theorem accepted_error (r : ρ) (e : ε) (history : List (ρ × Except ε α)) :
    accepted ((r, .error e) :: history) = accepted history := rfl

@[simp] theorem accepted_ok (r : ρ) (a : α) (history : List (ρ × Except ε α)) :
    accepted ((r, .ok a) :: history) = (r, a) :: accepted history := rfl

/-- A component that accepts each key at most once. -/
structure SingleUse (step : σ → ρ → Except ε α × σ) (key : ρ → κ) (used : σ → Set κ) : Prop where
  grows : ∀ s r, used s ⊆ used (step s r).2
  fresh : ∀ s r a, (step s r).1 = .ok a → key r ∉ used s
  spent : ∀ s r a, (step s r).1 = .ok a → key r ∈ used (step s r).2

namespace SingleUse

variable {step : σ → ρ → Except ε α × σ} {key : ρ → κ} {used : σ → Set κ}

/-- What is used up is not accepted again. -/
theorem not_accepted (h : SingleUse step key used) (requests : List ρ) (s : σ) {k : κ}
    (hk : k ∈ used s) : ∀ entry ∈ accepted (serve step s requests), key entry.1 ≠ k := by
  induction requests generalizing s with
  | nil => simp [serve, accepted]
  | cons r rest ih =>
    have hrest := ih (step s r).2 (h.grows s r hk)
    rw [serve]
    rcases hstep : (step s r).1 with e | a
    · exact hrest
    · intro entry hentry
      rw [accepted_ok] at hentry
      rcases List.mem_cons.mp hentry with rfl | hentry
      · rintro rfl
        exact h.fresh s r a hstep hk
      · exact hrest entry hentry

/-- **At most once.** The accepted requests of a history have distinct keys. -/
theorem accepted_nodup (h : SingleUse step key used) (requests : List ρ) (s : σ) :
    ((accepted (serve step s requests)).map fun entry => key entry.1).Nodup := by
  induction requests generalizing s with
  | nil => simp [serve, accepted]
  | cons r rest ih =>
    have hrest := ih (step s r).2
    rw [serve]
    rcases hstep : (step s r).1 with e | a
    · exact hrest
    · rw [accepted_ok, List.map_cons]
      refine List.nodup_cons.mpr ⟨?_, hrest⟩
      rw [List.mem_map]
      rintro ⟨entry, hentry, heq⟩
      exact h.not_accepted rest _ (h.spent s r a hstep) entry hentry heq

end SingleUse

/-- What every accepted request satisfies, if every step's does. -/
theorem accepted_of_step {step : σ → ρ → Except ε α × σ} {P : ρ → α → Prop}
    (h : ∀ s r a, (step s r).1 = .ok a → P r a) (requests : List ρ) (s : σ) :
    ∀ entry ∈ accepted (serve step s requests), P entry.1 entry.2 := by
  induction requests generalizing s with
  | nil => simp [serve, accepted]
  | cons r rest ih =>
    have hrest := ih (step s r).2
    rw [serve]
    rcases hstep : (step s r).1 with e | a
    · exact hrest
    · intro entry hentry
      rw [accepted_ok] at hentry
      rcases List.mem_cons.mp hentry with rfl | hentry
      · exact h s r a hstep
      · exact hrest entry hentry

end AppContracts
