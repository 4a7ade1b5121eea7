/-
Directory trees whose directories are named by a hash of their children.

A listing gives every file and directory of a tree by its path, with a label and
an identifier. `Consistent` says that the identifier of each directory, and that
of the root, is the hash of its children. Where the hash does not collide on the
directories of two listings, one root has one listing (`Consistent.binding`).

Names, labels, identifiers and the hash are parameters.
-/
import Mathlib.Data.List.Infix
import Mathlib.Data.List.Nodup

set_option autoImplicit false

namespace AppContracts.Merkle

variable {N A ι : Type}

/-- A child of a directory. -/
structure Child (N A ι : Type) : Type where
  name : N
  label : A
  id : ι
  deriving DecidableEq

/-- A listed file or directory: the names from the root down, a label, and an
identifier. -/
structure Item (N A ι : Type) : Type where
  path : List N
  label : A
  id : ι
  deriving DecidableEq

section

variable [DecidableEq N]

/-- The child an item is of the directory `d`. -/
def Item.child? (d : List N) (e : Item N A ι) : Option (Child N A ι) :=
  match e.path.getLast? with
  | some n => if e.path.dropLast = d then some ⟨n, e.label, e.id⟩ else none
  | none => none

/-- The children of a directory in a listing. -/
def children (L : List (Item N A ι)) (d : List N) : List (Child N A ι) := L.filterMap (Item.child? d)

theorem Item.child?_eq_some {d : List N} {e : Item N A ι} {c : Child N A ι} :
    e.child? d = some c ↔ e = ⟨d ++ [c.name], c.label, c.id⟩ := by
  obtain ⟨path, label, id⟩ := e
  obtain ⟨name, label', id'⟩ := c
  rcases List.eq_nil_or_concat path with rfl | ⟨init, last, rfl⟩
  · simp [child?]
  · rw [List.concat_eq_append]
    simp only [child?, List.getLast?_concat, List.dropLast_concat]
    split_ifs with h
    · subst h
      simp
    · simp [h]

/-- The children of a directory are the items one name below it. -/
theorem mem_children {L : List (Item N A ι)} {d : List N} {c : Child N A ι} :
    c ∈ children L d ↔ (⟨d ++ [c.name], c.label, c.id⟩ : Item N A ι) ∈ L := by
  simp only [children, List.mem_filterMap, Item.child?_eq_some, exists_eq_right]

/-- Distinct paths give a directory distinct names. -/
theorem names_nodup {L : List (Item N A ι)} (h : (L.map Item.path).Nodup) (d : List N) :
    ((children L d).map Child.name).Nodup := by
  induction L with
  | nil => simp [children]
  | cons e L ih =>
    rw [List.map_cons, List.nodup_cons] at h
    have ih := ih h.2
    cases hc : e.child? d with
    | none => simpa [children, hc] using ih
    | some c =>
      rw [children, List.filterMap_cons_some hc, List.map_cons, List.nodup_cons]
      refine ⟨fun hmem => h.1 ?_, ih⟩
      obtain ⟨c', hc', hname⟩ := List.mem_map.mp hmem
      have hpath := List.mem_map_of_mem (f := Item.path) (mem_children.mp hc')
      rwa [Item.child?_eq_some.mp hc, ← hname]

/-- The root, or a listed directory. -/
def IsDirectory (is_dir : A → Prop) (L : List (Item N A ι)) (d : List N) : Prop :=
  d = [] ∨ ∃ f ∈ L, f.path = d ∧ is_dir f.label

/-- A listing whose directories are named by the hash `H` of their children. -/
structure Consistent (is_dir : A → Prop) (H : List (Child N A ι) → ι) (L : List (Item N A ι))
    (root : ι) : Prop where
  /-- Nothing is listed twice. -/
  nodup : (L.map Item.path).Nodup
  /-- What lies below a name is below a listed directory. -/
  closed : ∀ e ∈ L, ∀ d, d ≠ [] → d <+: e.path → d ≠ e.path →
    ∃ f ∈ L, f.path = d ∧ is_dir f.label
  root_id : H (children L []) = root
  dir_id : ∀ e ∈ L, is_dir e.label → H (children L e.path) = e.id

namespace Consistent

variable {is_dir : A → Prop} {H : List (Child N A ι) → ι} {L L' : List (Item N A ι)} {root : ι}

/-- The parent of an item is the root or a listed directory. -/
theorem parent (h : Consistent is_dir H L root) {d : List N} {n : N} {a : A} {i : ι}
    (he : (⟨d ++ [n], a, i⟩ : Item N A ι) ∈ L) (hd : d ≠ []) :
    ∃ f ∈ L, f.path = d ∧ is_dir f.label :=
  h.closed _ he d hd (List.prefix_append d [n]) (by simp)

/-- A listing goes into every other one with the same root, directory by
directory from the root down. -/
theorem subset (h : Consistent is_dir H L root) (h' : Consistent is_dir H L' root)
    (hH : ∀ d, IsDirectory is_dir L d → IsDirectory is_dir L' d →
      H (children L d) = H (children L' d) → ∀ c, c ∈ children L d → c ∈ children L' d)
    (hne : ∀ e ∈ L, e.path ≠ []) (e : Item N A ι) (he : e ∈ L) : e ∈ L' := by
  obtain ⟨path, label, id⟩ := e
  induction path using List.reverseRecOn generalizing label id with
  | nil => exact absurd rfl (hne _ he)
  | append_singleton d n ih =>
    have hchild : (⟨n, label, id⟩ : Child N A ι) ∈ children L d := mem_children.mpr he
    by_cases hd : d = []
    · subst hd
      exact mem_children.mp (hH [] (.inl rfl) (.inl rfl) (h.root_id.trans h'.root_id.symm) _ hchild)
    · obtain ⟨f, hf, rfl, hdir⟩ := h.parent he hd
      have hf' := ih f.label f.id hf
      have heq := (h.dir_id f hf hdir).trans (h'.dir_id f hf' hdir).symm
      exact mem_children.mp
        (hH f.path (.inr ⟨f, hf, rfl, hdir⟩) (.inr ⟨f, hf', rfl, hdir⟩) heq _ hchild)

/-- **One root has one listing**, if directories with one hash have the same
children. -/
theorem binding (h : Consistent is_dir H L root) (h' : Consistent is_dir H L' root)
    (hH : ∀ d, IsDirectory is_dir L d → IsDirectory is_dir L' d →
      H (children L d) = H (children L' d) → ∀ c, c ∈ children L d ↔ c ∈ children L' d)
    (hne : ∀ e ∈ L, e.path ≠ []) (hne' : ∀ e ∈ L', e.path ≠ []) (e : Item N A ι) :
    e ∈ L ↔ e ∈ L' :=
  ⟨h.subset h' (fun d hd hd' heq c => (hH d hd hd' heq c).mp) hne e,
    h'.subset h (fun d hd' hd heq c => (hH d hd hd' heq.symm c).mpr) hne' e⟩

end Consistent

end

end AppContracts.Merkle
