/-
Loops that may raise.

A loop over a list returns when its body returns on every element. So what it
returns is, element by element, what the body returned.
-/
import Mathlib.Data.List.Forall2

set_option autoImplicit false

namespace AppContracts

variable {ε α β : Type} {f : α → Except ε β} {g : α → β} {xs : List α} {ys : List β}

/-- A loop that returns has run its body on every element. -/
theorem mapM_ok : xs.mapM f = .ok ys ↔ List.Forall₂ (fun x y => f x = .ok y) xs ys := by
  induction xs generalizing ys with
  | nil =>
    rw [List.mapM_nil, List.forall₂_nil_left_iff]
    exact ⟨fun h => (Except.ok.inj h).symm, fun h => by rw [h]; rfl⟩
  | cons x xs ih =>
    rw [List.mapM_cons, List.forall₂_cons_left_iff]
    simp only [← ih]
    cases hx : f x with
    | error e => exact iff_of_false nofun fun ⟨_, _, h, _⟩ => nomatch h
    | ok y =>
      cases hxs : xs.mapM f with
      | error e => exact iff_of_false nofun fun ⟨_, _, _, h, _⟩ => nomatch h
      | ok ys' =>
        constructor
        · rintro ⟨⟩
          exact ⟨y, ys', rfl, rfl, rfl⟩
        · rintro ⟨_, _, ⟨⟩, ⟨⟩, rfl⟩
          rfl

/-- A loop whose body always returns the same function of the element. -/
theorem mapM_map (h : ∀ x ∈ xs, f x = .ok (g x)) : xs.mapM f = .ok (xs.map g) := by
  rw [mapM_ok, List.forall₂_map_right_iff, List.forall₂_same]
  exact h

/-- What a loop returns, where a function of each result is one of the element. -/
theorem map_eq_of_mapM {γ : Type} {k : β → γ} {g : α → γ} (h : xs.mapM f = .ok ys)
    (hg : ∀ x y, f x = .ok y → k y = g x) : ys.map k = xs.map g := by
  rw [mapM_ok] at h
  induction h with
  | nil => rfl
  | cons hxy _ ih => rw [List.map_cons, List.map_cons, ih, hg _ _ hxy]

/-- What a loop returns, where each turn that returns gives a function of the element. -/
theorem map_of_mapM (h : xs.mapM f = .ok ys) (hg : ∀ x y, f x = .ok y → y = g x) : ys = xs.map g := by
  rw [← map_eq_of_mapM (k := id) h hg, List.map_id]

/-- Each element of the second list has one of the first. -/
theorem exists_of_forall₂ {R : α → β → Prop} (h : List.Forall₂ R xs ys) {y : β} (hy : y ∈ ys) :
    ∃ x ∈ xs, R x y := by
  induction h with
  | nil => exact nomatch hy
  | cons hxy _ ih =>
    rcases List.mem_cons.mp hy with rfl | hy
    · exact ⟨_, List.mem_cons_self, hxy⟩
    · obtain ⟨x, hx, hxy⟩ := ih hy
      exact ⟨x, List.mem_cons_of_mem _ hx, hxy⟩

/-- What a loop that returns has for each element. -/
theorem mem_mapM (h : xs.mapM f = .ok ys) {x : α} (hx : x ∈ xs) : ∃ y, f x = .ok y ∧ y ∈ ys := by
  obtain ⟨y, hy, hxy⟩ := exists_of_forall₂ (mapM_ok.mp h).flip hx
  exact ⟨y, hxy, hy⟩

/-- A loop that returns has run its body on each element. -/
theorem mem_of_mapM (h : xs.mapM f = .ok ys) {x : α} (hx : x ∈ xs) : ∃ y, f x = .ok y := by
  obtain ⟨y, hy, -⟩ := mem_mapM h hx
  exact ⟨y, hy⟩

/-- A loop whose body returns on every element returns. -/
theorem mapM_exists (h : ∀ x ∈ xs, ∃ y, f x = .ok y) : ∃ ys, xs.mapM f = .ok ys := by
  induction xs with
  | nil => exact ⟨[], rfl⟩
  | cons x xs ih =>
    obtain ⟨y, hy⟩ := h x List.mem_cons_self
    obtain ⟨ys, hys⟩ := ih fun z hz => h z (List.mem_cons_of_mem _ hz)
    exact ⟨y :: ys, mapM_ok.mpr (.cons hy (mapM_ok.mp hys))⟩

end AppContracts
