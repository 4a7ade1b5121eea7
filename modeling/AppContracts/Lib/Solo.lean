/-
Programs that run alone.

`Solo` says what a program does when no other worker comes between its operations: from a
state it returns with `Q` or raises with `X`, whatever its operations answer. As for
`Safe`, a monitor keeps what the operations have answered so far.
-/
import AppContracts.Lib.Interleave

set_option autoImplicit false

namespace AppContracts.Interleave

variable {Op : Type} {Res : Op → Type} {E α β σ M : Type}

/-- Run alone from `s`, the program returns with `Q` and raises with `X`. -/
def Solo (sem : Semantics Op Res σ) (δ : M → (op : Op) → Res op → M) (Q : M → α → σ → Prop)
    (X : M → E → σ → Prop) : M → Prog Op Res E α → σ → Prop
  | m, .ret a, s => Q m a s
  | m, .raise e, s => X m e s
  | m, .call op next, s => ∀ r s', sem s op r s' → Solo sem δ Q X (δ m op r) (next r) s'

namespace Solo

variable {sem : Semantics Op Res σ} {δ : M → (op : Op) → Res op → M} {Q Q' : M → α → σ → Prop}
  {R : M → β → σ → Prop} {X X' : M → E → σ → Prop} {m : M} {s : σ}

theorem mono {p : Prog Op Res E α} (h : Solo sem δ Q X m p s) (hQ : ∀ m a s, Q m a s → Q' m a s)
    (hX : ∀ m e s, X m e s → X' m e s) : Solo sem δ Q' X' m p s := by
  induction p generalizing m s with
  | ret a => exact hQ _ _ _ h
  | raise e => exact hX _ _ _ h
  | call op next ih => exact fun r s' hs => ih r (h r s' hs)

/-- The sequencing rule. -/
theorem bind {p : Prog Op Res E α} {f : α → Prog Op Res E β}
    (h : Solo sem δ (fun m a s => Solo sem δ R X m (f a) s) X m p s) :
      Solo sem δ R X m (p.bind f) s := by
  induction p generalizing m s with
  | ret a => exact h
  | raise e => exact h
  | call op next ih => exact fun r s' hs => ih r (h r s' hs)

/-- The rule for `try`/`except`. -/
theorem handle {p : Prog Op Res E α} {g : E → Prog Op Res E α}
    (h : Solo sem δ Q (fun m e s => Solo sem δ Q X' m (g e) s) m p s) :
    Solo sem δ Q X' m (p.handle g) s := by
  induction p generalizing m s with
  | ret a => exact h
  | raise e => exact h
  | call op next ih => exact fun r s' hs => ih r (h r s' hs)

/-- A program that is carried to other operations ends as it does. -/
theorem embed {Op' : Type} {Res' : Op' → Type} {f : Op → Op'}
    {g : (op : Op) → Res' (f op) → Except E (Res op)} {sem' : Semantics Op' Res' σ}
    {δ' : M → (op : Op') → Res' op → M}
    (hstep : ∀ m s op r s', sem' s (f op) r s' →
      ∃ a, g op r = .ok a ∧ sem s op a s' ∧ δ' m (f op) r = δ m op a)
    {p : Prog Op Res E α} (h : Solo sem δ Q X m p s) : Solo sem' δ' Q X m (p.embed f g) s := by
  induction p generalizing m s with
  | ret a => exact h
  | raise e => exact h
  | call op next ih =>
    intro r s' hs
    obtain ⟨a, ha, hsem, hδ⟩ := hstep m s op r s' hs
    show Solo sem' δ' Q X (δ' m (f op) r) ((Prog.lift (g op r)).bind fun a => (next a).embed f g) s'
    rw [ha, hδ]
    exact ih a (h a s' hsem)

/-- The rule for a pure step. -/
theorem lift {x : Except E α} (hok : ∀ a, x = .ok a → Q m a s) (herr : ∀ e, x = .error e → X m e s) :
    Solo sem δ Q X m (Prog.lift x) s := by
  cases x with
  | error e => exact herr e rfl
  | ok a => exact hok a rfl

/-- A pure step of a sequence. -/
theorem lift_bind {x : Except E α} {f : α → Prog Op Res E β} (herr : ∀ e, x = .error e → X m e s)
    (hok : ∀ a, x = .ok a → Solo sem δ R X m (f a) s) : Solo sem δ R X m ((Prog.lift x).bind f) s := by
  cases x with
  | error e => exact herr e rfl
  | ok a => exact hok a rfl

/-- An operation of a sequence. -/
theorem perform_bind {op : Op} {f : Res op → Prog Op Res E β}
    (h : ∀ r s', sem s op r s' → Solo sem δ R X (δ m op r) (f r) s') :
    Solo sem δ R X m ((Prog.perform op).bind f) s := h

/-- **What holds of every run alone holds of each**: the program is run to a result. -/
theorem returned {p : Prog Op Res E α} (h : Solo sem δ Q X m p s) {past : List (Record Op Res σ)}
    {a : α} {s' : σ} (hf : Follows p past (.ret a)) (hc : Chain sem s past s') :
    Q (past.foldl (fun m e => δ m e.op e.res) m) a s' := by
  generalize hq : Prog.ret a = q at hf
  induction hf generalizing m s with
  | done p =>
    subst hq
    obtain rfl : s = s' := hc
    exact h
  | step before after hf ih =>
    obtain ⟨rfl, hsem, hrest⟩ := hc
    exact ih (h _ _ hsem) hrest hq

end Solo

/-- A program can be run to its end by answering each of its operations. -/
theorem Follows.answered {sem : Semantics Op Res σ} {h : (op : Op) → σ → Res op × σ}
    (hsem : ∀ s op, sem s op (h op s).1 (h op s).2) (p : Prog Op Res E α) (s : σ) :
    ∃ past : List (Record Op Res σ), Follows p past (p.finished h s) ∧ Chain sem s past (p.exec h s).2 ∧
      ∀ e ∈ past, e.res = (h e.op e.before).1 := by
  induction p generalizing s with
  | ret a => exact ⟨[], .done _, rfl, by simp⟩
  | raise e => exact ⟨[], .done _, rfl, by simp⟩
  | call op next ih =>
    obtain ⟨past, hfollows, hchain, hanswers⟩ := ih (h op s).1 (h op s).2
    exact ⟨⟨op, (h op s).1, s, (h op s).2⟩ :: past, .step _ _ hfollows, ⟨rfl, hsem s op, hchain⟩,
      List.forall_mem_cons.mpr ⟨rfl, hanswers⟩⟩

end AppContracts.Interleave
