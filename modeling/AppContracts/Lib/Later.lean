/-
Workers that are started later: what a run that goes on from a known configuration adds
to what holds of every run.
-/
import AppContracts.Lib.Interleave

set_option autoImplicit false

namespace AppContracts.Interleave

section Later

variable {Call Op : Type} {Res : Op → Type} {E α σ M : Type} {body : Call → Prog Op Res E α}
  {sem : Semantics Op Res σ} {I J : σ → Prop} {G : σ → σ → Prop} {δ : M → (op : Op) → Res op → M}
  {s₀ : σ} {m₀ : M} {Q R : Call → M → α → σ → Prop} {X Y : Call → M → E → σ → Prop}

/-- **The rule for later workers.** From where a stable fact `J` holds, the workers
that are started have the postconditions that `J` gives them. -/
theorem Reachable.safe_later (h0 : I s₀)
    (hbody : ∀ c s, I s → Safe sem I G δ (Q c) (X c) m₀ (body c) s)
    (hlater : ∀ c s, I s → J s → Safe sem I G δ (R c) (Y c) m₀ (body c) s)
    (hstable : ∀ s s', I s' → J s → G s s' → J s') {cfg₁ cfg : Config Call Op Res E α σ}
    (hr : Reachable body sem s₀ cfg₁) (hJ : J cfg₁.shared)
    (hs : Relation.ReflTransGen (Step body sem) cfg₁ cfg) :
    J cfg.shared ∧ cfg₁.pool.length ≤ cfg.pool.length ∧
      ∀ i t p, cfg₁.pool.length ≤ i → cfg.pool[i]? = some t → t.status = .running p →
        Safe sem I G δ (R t.call) (Y t.call) (t.monitor δ m₀) p cfg.shared := by
  -- on the later part of the run: threads of the first part are only interference
  induction hs with
  | refl =>
    refine ⟨hJ, Nat.le_refl _, fun i t p hi ht => ?_⟩
    rw [List.getElem?_eq_none hi] at ht
    exact nomatch ht
  | @tail cfg₂ cfg₃ hrun hstep ih =>
    obtain ⟨hJ₂, hlength, hpool⟩ := ih
    have hr₂ : Reachable body sem s₀ cfg₂ := Relation.ReflTransGen.trans hr hrun
    obtain ⟨hI, -⟩ := hr₂.safe h0 hbody
    have hr₃ : Reachable body sem s₀ cfg₃ := Relation.ReflTransGen.tail hr₂ hstep
    obtain ⟨hI₃, -⟩ := hr₃.safe h0 hbody
    have hJ₃ : J cfg₃.shared := by
      rcases hr₂.guarantee h0 hbody hstep with heq | hG
      · rw [heq]
        exact hJ₂
      · exact hstable _ _ hI₃ hJ₂ hG
    refine ⟨hJ₃, ?_⟩
    cases hstep with
    | spawn c =>
      refine ⟨by rw [List.length_append]; omega, fun i t p hi ht hp => ?_⟩
      rw [List.getElem?_append] at ht
      split_ifs at ht with hlt
      · exact hpool i t p hi ht hp
      · obtain rfl := List.mem_singleton.mp (List.mem_of_getElem? ht)
        cases hp
        exact hlater c _ hI hJ₂
    | exec k u op next r s' hk hu hsem =>
      refine ⟨by rw [List.length_set]; exact hlength, fun i t p hi ht hp => ?_⟩
      by_cases hik : k = i
      · subst hik
        obtain ⟨hlt, -⟩ := List.getElem?_eq_some_iff.mp hk
        rw [List.getElem?_set_self hlt, Option.some.injEq] at ht
        subst ht
        cases hp
        obtain ⟨-, -, hnext⟩ := hpool k u _ hi hk hu cfg₂.shared hI .refl r s' hsem
        simpa only [Thread.monitor, List.foldl_append, List.foldl_cons, List.foldl_nil] using hnext
      · rw [List.getElem?_set_ne hik] at ht
        -- the step of another thread is covered by its guarantee, also one that was there before
        obtain ⟨-, hG', -⟩ := (hr₂.safe h0 hbody).2 u (List.mem_of_getElem? hk) _ hu cfg₂.shared hI
          .refl r s' hsem
        exact (hpool i t p hi ht hp).stable (.single hG')
    | crash k u hk =>
      refine ⟨by rw [List.length_set]; exact hlength, fun i t p hi ht hp => ?_⟩
      by_cases hik : k = i
      · subst hik
        obtain ⟨hlt, -⟩ := List.getElem?_eq_some_iff.mp hk
        rw [List.getElem?_set_self hlt, Option.some.injEq] at ht
        subst ht
        cases hp
      · rw [List.getElem?_set_ne hik] at ht
        exact hpool i t p hi ht hp

/-- A program of operations that keep the invariant. -/
theorem Safe.keeps {P : Op → Prop} {p : Prog Op Res E α} {m : M} {s : σ} (hp : p.All P)
    (hstep : ∀ s op r s', P op → I s → sem s op r s' → I s' ∧ G s s') :
    Safe sem I G δ (fun _ _ _ => True) (fun _ _ _ => True) m p s := by
  induction p generalizing m s with
  | ret a => exact fun _ _ _ => trivial
  | raise e => exact fun _ _ _ => trivial
  | call op next ih =>
    intro s₁ hI _ r s₂ hs
    obtain ⟨hI₂, hG⟩ := hstep s₁ op r s₂ hp.1 hI hs
    exact ⟨hI₂, hG, ih r (hp.2 r)⟩

/-- A worker that will execute nothing more. -/
def Thread.Ended (t : Thread Call Op Res E α σ) : Prop :=
  ∀ op next, t.status ≠ .running (.call op next)

end Later

end AppContracts.Interleave
