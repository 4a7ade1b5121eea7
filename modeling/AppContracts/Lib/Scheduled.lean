/-
Computations driven by a schedule.

A loop around system calls takes a turn for every answer of the system, and the
answers come from outside. Here the state holds the answers still to come. A
computation returns, raises, or waits for more answers than there are.
-/
import Mathlib.Data.List.Count

set_option autoImplicit false

namespace AppContracts

/-- How far a computation comes with the answers it is given. -/
inductive Outcome (ε α : Type) : Type
  | waiting
  | raised (e : ε)
  | returned (a : α)

/-- A computation over a state that holds the answers to come. -/
def Scheduled (σ ε α : Type) : Type := σ → Outcome ε α × σ

namespace Scheduled

variable {σ ε α β : Type}

def pure (a : α) : Scheduled σ ε α := fun s => (.returned a, s)

def raise (e : ε) : Scheduled σ ε α := fun s => (.raised e, s)

def bind (x : Scheduled σ ε α) (f : α → Scheduled σ ε β) : Scheduled σ ε β := fun s =>
  match x s with
  | (.returned a, s') => f a s'
  | (.raised e, s') => (.raised e, s')
  | (.waiting, s') => (.waiting, s')

instance : Monad (Scheduled σ ε) where
  pure := pure
  bind := bind

variable {x : Scheduled σ ε α} {f : α → Scheduled σ ε β} {s s' : σ}

@[simp] theorem pure_apply (a : α) (s : σ) : (Pure.pure a : Scheduled σ ε α) s = (.returned a, s) := rfl

@[simp] theorem raise_apply (e : ε) (s : σ) : (raise e : Scheduled σ ε α) s = (.raised e, s) := rfl

/-- After a part that has returned, the rest runs in the state that it left. -/
theorem bind_returned {a : α} (h : x s = (.returned a, s')) : (x >>= f) s = f a s' := by
  have hbind : (x >>= f) s = bind x f s := rfl
  rw [hbind, bind, h]

theorem bind_raised {e : ε} (h : x s = (.raised e, s')) : (x >>= f) s = (.raised e, s') := by
  have hbind : (x >>= f) s = bind x f s := rfl
  rw [hbind, bind, h]

/-- A computation in two parts returns if both do. -/
theorem bind_eq_returned {b : β} {s'' : σ} :
    (x >>= f) s = (.returned b, s'') ↔ ∃ a s', x s = (.returned a, s') ∧ f a s' = (.returned b, s'') := by
  have hbind : (x >>= f) s = bind x f s := rfl
  rw [hbind, bind]
  rcases hx : x s with ⟨_ | e | a, s'⟩
  · simp
  · simp
  · constructor
    · exact fun h => ⟨a, s', rfl, h⟩
    · rintro ⟨_, _, ⟨⟩, h⟩
      exact h

/-- A computation in two parts raises if the first does, or the second after it. -/
theorem bind_eq_raised {e : ε} {s'' : σ} : (x >>= f) s = (.raised e, s'') ↔
    x s = (.raised e, s'') ∨ ∃ a s', x s = (.returned a, s') ∧ f a s' = (.raised e, s'') := by
  have hbind : (x >>= f) s = bind x f s := rfl
  rw [hbind, bind]
  rcases hx : x s with ⟨_ | e | a, s'⟩
  · simp
  · simp
  · constructor
    · exact fun h => .inr ⟨a, s', rfl, h⟩
    · rintro (h | ⟨_, _, ⟨⟩, h⟩)
      · exact nomatch h
      · exact h

end Scheduled

/-! ## Turns -/

/-- What a turn does to a loop that moves bytes. -/
inductive TurnKind : Type
  | fails
  | blocks
  | transfers
  deriving DecidableEq

/-- Turns none of which fails, and at least `n` of which transfer. -/
def Ready {τ : Type} (kind : τ → TurnKind) (n : ℕ) (turns : List τ) : Prop :=
  (∀ t ∈ turns, kind t ≠ .fails) ∧ n ≤ turns.countP fun t => kind t = .transfers

instance {τ : Type} (kind : τ → TurnKind) (n : ℕ) (turns : List τ) : Decidable (Ready kind n turns) :=
  inferInstanceAs (Decidable (_ ∧ _))

namespace Ready

variable {τ : Type} {kind : τ → TurnKind} {m n : ℕ} {turn : τ} {turns : List τ}

theorem mono (h : Ready kind n turns) (hle : m ≤ n) : Ready kind m turns := ⟨h.1, Nat.le_trans hle h.2⟩

theorem not_nil : ¬ Ready kind (n + 1) [] := fun h => nomatch h.2

theorem not_fails (h : Ready kind n (turn :: turns)) : kind turn ≠ .fails := h.1 turn List.mem_cons_self

theorem after_block (h : Ready kind n (turn :: turns)) (hturn : kind turn = .blocks) :
    Ready kind n turns := by
  refine ⟨fun t ht => h.1 t (List.mem_cons_of_mem _ ht), ?_⟩
  have hcount := h.2
  rwa [List.countP_cons_of_neg (by simp [hturn])] at hcount

theorem after_transfer (h : Ready kind (n + 1) (turn :: turns)) : Ready kind n turns := by
  refine ⟨fun t ht => h.1 t (List.mem_cons_of_mem _ ht), ?_⟩
  have hcount := h.2
  rw [List.countP_cons] at hcount
  split at hcount
  · omega
  · omega

end Ready

end AppContracts
