/-
Work lists over a graph.

A work list visits what is pending, one node at a time, and remembers what it has seen. A
visit may fail, and puts successors of its node in front; those it leaves out have been
seen. Over finitely many nodes it ends, and what it has seen is what the start reaches.
-/
import AppContracts.Lib.Loop
import Mathlib.Algebra.BigOperators.Group.List.Basic
import Mathlib.Algebra.Order.BigOperators.Group.List
import Mathlib.Algebra.Order.Group.Nat
import Mathlib.Data.List.Dedup
import Mathlib.Logic.Relation
import Mathlib.Algebra.GroupWithZero.Nat

set_option autoImplicit false

namespace AppContracts

/-- A graph and the visits of its nodes. -/
structure WorkList (ν ε : Type) : Type where
  /-- The nodes that can be visited. -/
  nodes : List ν
  succ : ν → List ν
  /-- The visit of a node that has just been marked as seen. -/
  visit : (seen : List ν) → ν → Except ε (List ν)
  width : ν → ℕ
  visited : ∀ {seen v l}, visit seen v = .ok l → v ∈ nodes
  sound : ∀ {seen v l}, visit seen v = .ok l → ∀ x ∈ l, x ∈ succ v
  complete : ∀ {seen v l}, visit seen v = .ok l → ∀ x ∈ succ v, x ∈ l ∨ x ∈ seen
  bounded : ∀ {seen v l}, visit seen v = .ok l → l.length ≤ width v

namespace WorkList

variable {ν ε : Type} (W : WorkList ν ε)

/-- What the start reaches. -/
def Reached (start : List ν) (x : ν) : Prop :=
  ∃ r ∈ start, Relation.ReflTransGen (fun a b => b ∈ W.succ a) r x

variable [DecidableEq ν]

/-- What the nodes that have not been seen may still put in front, themselves included. -/
def unseen (seen : List ν) : ℕ := ((W.nodes.filter (· ∉ seen)).map fun v => W.width v + 1).sum

/-- A turn: nothing is pending, or the first node has been seen, or it is visited. -/
def turn (s : List ν × List ν) : Except ε (List ν ⊕ List ν × List ν) :=
  match s with
  | ([], seen) => .ok (.inl seen)
  | (v :: rest, seen) =>
    if v ∈ seen then .ok (.inr (rest, seen))
    else
      match W.visit (v :: seen) v with
      | .error e => .error e
      | .ok l => .ok (.inr (l ++ rest, v :: seen))

variable {W}

/-- A node that is marked pays for what its visit puts in front. -/
theorem unseen_visit {seen : List ν} {v : ν} (hmem : v ∈ W.nodes) (hnew : v ∉ seen) :
    W.unseen (v :: seen) + (W.width v + 1) ≤ W.unseen seen := by
  have hgen : ∀ nodes : List ν, v ∈ nodes →
      ((nodes.filter (· ∉ v :: seen)).map fun v => W.width v + 1).sum + (W.width v + 1) ≤
        ((nodes.filter (· ∉ seen)).map fun v => W.width v + 1).sum := by
    intro nodes
    have hle : ∀ nodes : List ν, ((nodes.filter (· ∉ v :: seen)).map fun v => W.width v + 1).sum ≤
        ((nodes.filter (· ∉ seen)).map fun v => W.width v + 1).sum := by
      intro nodes
      refine ((List.monotone_filter_right nodes ?_).map _).sum_le_sum fun _ _ => Nat.zero_le _
      intro x hx
      rw [decide_eq_true_eq] at hx ⊢
      exact fun hmem => hx (List.mem_cons_of_mem _ hmem)
    -- on the nodes: `v` counts before the visit and no longer after it
    induction nodes with
    | nil => exact fun h => nomatch h
    | cons x rest ih =>
      intro hmem
      by_cases hx : x = v
      · subst hx
        rw [List.filter_cons_of_neg (by simp), List.filter_cons_of_pos (by simpa using hnew),
          List.map_cons, List.sum_cons]
        have hrest := hle rest
        omega
      · have hrest := ih ((List.mem_cons.mp hmem).resolve_left (Ne.symm hx))
        by_cases hseen : x ∈ seen
        · rw [List.filter_cons_of_neg (by simp [hseen]), List.filter_cons_of_neg (by simp [hseen])]
          exact hrest
        · rw [List.filter_cons_of_pos (by simp [hseen, hx]), List.filter_cons_of_pos (by simp [hseen]),
            List.map_cons, List.map_cons, List.sum_cons, List.sum_cons]
          omega
  exact hgen W.nodes hmem

variable (W)

/-- The loop of a work list. -/
def loop : Loop (List ν × List ν) ε (List ν) where
  body := W.turn
  measure s := s.1.length + W.unseen s.2
  decreases := by
    rintro ⟨pending, seen⟩ ⟨pending', seen'⟩ h
    cases pending with
    | nil => cases h
    | cons v rest =>
      rw [turn] at h
      split at h
      · cases h
        exact Nat.add_lt_add_right (Nat.lt_succ_self _) _
      · rename_i hnew
        split at h
        · cases h
        · rename_i l hvisit
          cases h
          have hpay := unseen_visit (W := W) (W.visited hvisit) hnew
          have hbound := W.bounded hvisit
          show (l ++ rest).length + W.unseen (v :: seen) < (v :: rest).length + W.unseen seen
          rw [List.length_append, List.length_cons]
          omega

/-- What holds between two turns: what was seen and what is pending lie within what the start
reaches, and between them cover the start and the successors of what was seen. -/
structure Holds (start : List ν) (s : List ν × List ν) : Prop where
  nodup : s.2.Nodup
  reached : ∀ x, x ∈ s.1 ∨ x ∈ s.2 → W.Reached start x
  start : ∀ x ∈ start, x ∈ s.1 ∨ x ∈ s.2
  closed : ∀ v ∈ s.2, ∀ x ∈ W.succ v, x ∈ s.1 ∨ x ∈ s.2
  visited : ∀ v ∈ s.2, ∃ seen l, W.visit seen v = .ok l

variable {W} {start : List ν}

omit [DecidableEq ν] in
theorem Holds.begin : W.Holds start (start, []) where
  nodup := List.nodup_nil
  reached x hx := hx.elim (fun hx => ⟨x, hx, .refl⟩) fun hx => nomatch hx
  start _ hx := .inl hx
  closed _ hv := nomatch hv
  visited _ hv := nomatch hv

/-- A step of the invariant. -/
theorem Holds.turn {s s' : List ν × List ν} (h : W.Holds start s) (hturn : W.turn s = .ok (.inr s')) :
    W.Holds start s' := by
  obtain ⟨pending, seen⟩ := s
  cases pending with
  | nil => cases hturn
  | cons v rest =>
    rw [WorkList.turn] at hturn
    split at hturn
    -- a node seen before is dropped, a new one is visited
    · rename_i hseen
      cases hturn
      have hstill : ∀ x, x ∈ v :: rest ∨ x ∈ seen → x ∈ rest ∨ x ∈ seen := by
        rintro x (hx | hx)
        · rcases List.mem_cons.mp hx with rfl | hx
          · exact .inr hseen
          · exact .inl hx
        · exact .inr hx
      exact ⟨h.nodup, fun x hx => h.reached x (hx.imp_left (List.mem_cons_of_mem _)),
        fun x hx => hstill x (h.start x hx), fun u hu x hx => hstill x (h.closed u hu x hx), h.visited⟩
    · rename_i hnew
      split at hturn
      · cases hturn
      · rename_i l hvisit
        cases hturn
        have hv : W.Reached start v := h.reached v (.inl List.mem_cons_self)
        have hstill : ∀ x, x ∈ v :: rest ∨ x ∈ seen → x ∈ l ++ rest ∨ x ∈ v :: seen := by
          rintro x (hx | hx)
          · rcases List.mem_cons.mp hx with rfl | hx
            · exact .inr List.mem_cons_self
            · exact .inl (List.mem_append_right _ hx)
          · exact .inr (List.mem_cons_of_mem _ hx)
        refine ⟨List.nodup_cons.mpr ⟨hnew, h.nodup⟩, ?_, fun x hx => hstill x (h.start x hx), ?_,
          List.forall_mem_cons.mpr ⟨⟨_, _, hvisit⟩, h.visited⟩⟩
        · rintro x (hx | hx)
          · rcases List.mem_append.mp hx with hx | hx
            · obtain ⟨r, hr, hpath⟩ := hv
              exact ⟨r, hr, hpath.tail (W.sound hvisit x hx)⟩
            · exact h.reached x (.inl (List.mem_cons_of_mem _ hx))
          · rcases List.mem_cons.mp hx with rfl | hx
            · exact hv
            · exact h.reached x (.inr hx)
        · intro u hu x hx
          rcases List.mem_cons.mp hu with rfl | hu
          · exact (W.complete hvisit x hx).imp_left (List.mem_append_left _)
          · exact hstill x (h.closed u hu x hx)

/-- **What a work list has seen at its end** is what the start reaches, each node once, and
the visit of each succeeded. -/
theorem run_ok {seen : List ν} (h : W.loop.run (start, []) = .ok seen) :
    seen.Nodup ∧ (∀ x, x ∈ seen ↔ W.Reached start x) ∧ ∀ v ∈ seen, ∃ before l, W.visit before v = .ok l := by
  have hend : ∀ result, result = .ok seen → W.loop.run (start, []) = result →
      seen.Nodup ∧ (∀ x, x ∈ seen ↔ W.Reached start x) ∧ ∀ v ∈ seen, ∃ before l, W.visit before v = .ok l := by
    rintro result rfl hrun
    have hinv := Loop.run_invariant (L := W.loop) (s := (start, []))
      (I := W.Holds start) (Q := fun result => ∀ seen, result = .ok seen → W.Holds start ([], seen))
      (fun s s' hs hnext => hs.turn hnext) ?_ (fun _ _ _ _ _ h => nomatch h) Holds.begin seen hrun
    · refine ⟨hinv.nodup, fun x => ⟨fun hx => hinv.reached x (.inr hx), ?_⟩, hinv.visited⟩
      -- conversely, along the path: a start node was pushed, and each next one was pushed or seen
      rintro ⟨r, hr, hpath⟩
      induction hpath with
      | refl => exact (hinv.start r hr).resolve_left fun hx => nomatch hx
      | tail _ hx ih => exact (hinv.closed _ ih _ hx).resolve_left fun hx => nomatch hx
    · rintro ⟨pending, seen⟩ b hs hbody seen' hb
      obtain rfl := Except.ok.inj hb
      cases pending with
      | nil =>
        cases hbody
        exact hs
      | cons v rest =>
        change W.turn (v :: rest, seen) = _ at hbody
        rw [turn] at hbody
        split at hbody
        · cases hbody
        · split at hbody
          · cases hbody
          · cases hbody
  exact hend _ h rfl

end WorkList

end AppContracts
