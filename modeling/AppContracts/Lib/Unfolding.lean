/-
Unfolding a graph from a node.

A node has successors, in order; shared nodes and cycles are allowed. A traversal
without a record of what it has seen walks the unfolding: every path from the start.
The nodes still to visit, with their depths, say what is left of it.
-/
import Mathlib.Algebra.BigOperators.Group.List.Basic
import Mathlib.Data.Nat.Notation
import Mathlib.Algebra.GroupWithZero.Nat

set_option autoImplicit false

namespace AppContracts

variable {ν : Type} (succ : ν → List ν)

/-- There is a path of `n` edges. -/
inductive Path : ν → ℕ → ν → Prop
  | here (r : ν) : Path r 0 r
  | step {r c r' : ν} {n : ℕ} : c ∈ succ r → Path c n r' → Path r (n + 1) r'

/-- The weight of the nodes of the unfolding at depths below `n`. -/
def unfolded (w : ν → ℕ) : ℕ → ν → ℕ
  | 0, _ => 0
  | n + 1, r => w r + ((succ r).map (unfolded w n)).sum

/-- The weight still to visit. -/
def owed (w : ν → ℕ) (n : ℕ) (pending : List (ν × ℕ)) : ℕ :=
  (pending.map fun p => unfolded succ w (n - p.2) p.1).sum

/-- A node with `P`, for its depth, is still to visit. -/
def Ahead (P : ℕ → ν → Prop) (pending : List (ν × ℕ)) : Prop :=
  ∃ p ∈ pending, ∃ n r, Path succ p.1 n r ∧ P (p.2 + n) r

/-- What is to visit after a node at the depth. -/
def successors (r : ν) (depth : ℕ) : List (ν × ℕ) := (succ r).map fun c => (c, depth + 1)

variable {succ} {w : ν → ℕ} {P : ℕ → ν → Prop} {r : ν} {depth n : ℕ} {rest : List (ν × ℕ)}

theorem owed_start : owed succ w n [(r, 0)] = unfolded succ w n r := by
  rw [owed, List.map_singleton, List.sum_singleton, Nat.sub_zero]

theorem owed_nil : owed succ w n [] = 0 := rfl

variable (succ w n r depth rest) in
/-- A visit takes the weight of a node off what is owed. -/
theorem owed_visit :
    owed succ w n ((r, depth) :: rest) ≤ w r + owed succ w n (successors succ r depth ++ rest) := by
  rw [owed, owed, List.map_cons, List.sum_cons, List.map_append, List.sum_append, successors,
    List.map_map]
  dsimp only [Function.comp_def]
  cases hlevels : n - depth with
  | zero =>
    rw [unfolded]
    omega
  | succ m =>
    have hbelow : n - (depth + 1) = m := by omega
    have heta : (fun c => unfolded succ w m c) = unfolded succ w m := rfl
    rw [unfolded, hbelow, heta]
    omega

/-- A visit meets a node with `P`, or leaves it ahead. -/
theorem ahead_visit (h : Ahead succ P ((r, depth) :: rest)) :
    P depth r ∨ Ahead succ P (successors succ r depth ++ rest) := by
  obtain ⟨p, hp, n, r', hpath, hr'⟩ := h
  rcases List.mem_cons.mp hp with rfl | hrest
  · cases hpath with
    | here => exact .inl hr'
    | step hc hpath =>
      rename_i c n
      refine .inr ⟨(c, depth + 1), List.mem_append_left _ (List.mem_map_of_mem hc), n, r', hpath, ?_⟩
      have hdepth : depth + (n + 1) = depth + 1 + n := by omega
      rwa [hdepth] at hr'
  · exact .inr ⟨p, List.mem_append_right _ hrest, n, r', hpath, hr'⟩

theorem ahead_start {r' : ν} (hpath : Path succ r n r') (h : P n r') : Ahead succ P [(r, 0)] := by
  refine ⟨(r, 0), List.mem_singleton_self _, n, r', hpath, ?_⟩
  rwa [Nat.zero_add]

theorem not_ahead_nil : ¬ Ahead succ P [] := fun ⟨_, hp, _⟩ => nomatch hp

end AppContracts
