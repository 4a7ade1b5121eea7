/-
Concurrent runs of sequential programs over one shared state.

A worker is a `Prog`: a tree whose nodes are atomic operations on the shared
state (one committed database transaction, one external call) and whose
branches are the answers the operation can give. A configuration is the shared
state plus a pool of such workers; one step starts a worker, executes the next
operation of one worker, or crashes one. Every interleaving and every crash
point is therefore a path of `Step`.

Four rules carry an argument from one operation to every run:

* `Reachable.safe`, the rely/guarantee rule. `Safe` is the weakest condition
  under which a program keeps the invariant `I` and moves the state only along
  `G` while the other workers move it along `G` too. A monitor carries what the
  worker's own past determines;
* `Reachable.tokens`, for counting: an operation may be performed only with a
  token, and tokens are earned by other operations;
* `Reachable.undisturbed`, for what a worker knows and what belongs to it: the other
  workers' operations leave both alone;
* `Reachable.append_only`, for a log that operations only append to: it is what
  the workers appended, each entry once.

Nothing here mentions a particular program.
-/
import Mathlib.Logic.Relation
import Mathlib.Algebra.GroupWithZero.Nat
import Mathlib.Algebra.BigOperators.Group.List.Basic

set_option autoImplicit false

namespace AppContracts.Interleave

/-! ## Programs -/

/-- A sequential program over atomic operations `Op`, where `op` answers with
a value of `Res op`. It returns an `α`, raises an `E`, or performs the next
operation. -/
inductive Prog (Op : Type) (Res : Op → Type) (E α : Type) : Type
  | ret (a : α)
  | raise (e : E)
  | call (op : Op) (next : Res op → Prog Op Res E α)

namespace Prog

variable {Op : Type} {Res : Op → Type} {E α β : Type}

/-- Sequencing: an exception skips the rest. -/
def bind (p : Prog Op Res E α) (f : α → Prog Op Res E β) : Prog Op Res E β :=
  match p with
  | ret a => f a
  | raise e => raise e
  | call op next => call op (fun r => (next r).bind f)

/-- `try p except e: h e`. -/
def handle (p : Prog Op Res E α) (h : E → Prog Op Res E α) : Prog Op Res E α :=
  match p with
  | ret a => ret a
  | raise e => h e
  | call op next => call op (fun r => (next r).handle h)

/-- A single operation. -/
def perform (op : Op) : Prog Op Res E (Res op) := call op ret

instance : Monad (Prog Op Res E) where
  pure := ret
  bind := bind

instance : MonadExcept E (Prog Op Res E) where
  throw := raise
  tryCatch := handle

/-- A pure check: the outcome of code that touches no shared state. -/
def lift : Except E α → Prog Op Res E α
  | .ok a => ret a
  | .error e => raise e

/-- A program carried to other operations: `f` is performed in place of an
operation, and `g` is what its answer says, or the exception it raises. -/
def embed {Op' : Type} {Res' : Op' → Type} (f : Op → Op')
    (g : (op : Op) → Res' (f op) → Except E (Res op)) : Prog Op Res E α → Prog Op' Res' E α
  | ret a => ret a
  | raise e => raise e
  | call op next => call (f op) fun r => (lift (g op r)).bind fun r => (next r).embed f g

/-- Every operation the program can perform satisfies `P`, whatever the answers
are. -/
def All (P : Op → Prop) : Prog Op Res E α → Prop
  | ret _ => True
  | raise _ => True
  | call op next => P op ∧ ∀ r, (next r).All P

@[simp] theorem pure_eq (a : α) : (pure a : Prog Op Res E α) = ret a := rfl
@[simp] theorem throw_eq (e : E) : (throw e : Prog Op Res E α) = raise e := rfl
@[simp] theorem bind_eq (p : Prog Op Res E α) (f : α → Prog Op Res E β) :
    (p >>= f) = p.bind f := rfl
@[simp] theorem map_eq (f : α → β) (p : Prog Op Res E α) :
    (f <$> p) = p.bind (fun a => ret (f a)) := rfl
@[simp] theorem tryCatch_eq (p : Prog Op Res E α) (h : E → Prog Op Res E α) :
    tryCatch p h = p.handle h := rfl
@[simp] theorem ret_bind (a : α) (f : α → Prog Op Res E β) : (ret a).bind f = f a := rfl
@[simp] theorem raise_bind (e : E) (f : α → Prog Op Res E β) :
    (raise e : Prog Op Res E α).bind f = raise e := rfl
@[simp] theorem call_bind (op : Op) (next : Res op → Prog Op Res E α)
    (f : α → Prog Op Res E β) :
    (call op next).bind f = call op (fun r => (next r).bind f) := rfl
@[simp] theorem perform_bind (op : Op) (f : Res op → Prog Op Res E β) :
    (perform op).bind f = call op f := rfl
@[simp] theorem ret_handle (a : α) (h : E → Prog Op Res E α) : (ret a).handle h = ret a := rfl
@[simp] theorem raise_handle (e : E) (h : E → Prog Op Res E α) :
    (raise e : Prog Op Res E α).handle h = h e := rfl
@[simp] theorem call_handle (op : Op) (next : Res op → Prog Op Res E α)
    (h : E → Prog Op Res E α) :
    (call op next).handle h = call op (fun r => (next r).handle h) := rfl
@[simp] theorem lift_ok (a : α) : (lift (.ok a) : Prog Op Res E α) = ret a := rfl
@[simp] theorem lift_error (e : E) : (lift (.error e) : Prog Op Res E α) = raise e := rfl

/-- Run a program alone, each operation answered by `h`. -/
def exec {σ : Type} (h : (op : Op) → σ → Res op × σ) : Prog Op Res E α → σ → Except E α × σ
  | ret a, s => (.ok a, s)
  | raise e, s => (.error e, s)
  | call op next, s => (next (h op s).1).exec h (h op s).2

/-- A solo run of a sequence is a solo run of its first part, then of the rest. -/
theorem exec_bind {σ : Type} (h : (op : Op) → σ → Res op × σ) (p : Prog Op Res E α)
    (f : α → Prog Op Res E β) (s : σ) :
    (p.bind f).exec h s = match p.exec h s with
      | (.ok a, s') => (f a).exec h s'
      | (.error e, s') => (.error e, s') := by
  induction p generalizing s with
  | ret a => rfl
  | raise e => rfl
  | call op next ih => simp only [call_bind, exec, ih]

@[simp] theorem exec_lift {σ : Type} (h : (op : Op) → σ → Res op × σ) (x : Except E α) (s : σ) :
    (lift x : Prog Op Res E α).exec h s = (x, s) := by
  cases x <;> rfl

/-- A pure check in front of a solo run. -/
theorem exec_lift_bind {σ : Type} (h : (op : Op) → σ → Res op × σ) (x : Except E α)
    (f : α → Prog Op Res E β) (s : σ) :
    ((lift x).bind f).exec h s = match x with
      | .ok a => (f a).exec h s
      | .error e => (.error e, s) := by
  cases x <;> rfl

/-- A solo run under a handler: the handler runs from the state the exception
was raised in. -/
theorem exec_handle {σ : Type} (h : (op : Op) → σ → Res op × σ) (p : Prog Op Res E α)
    (g : E → Prog Op Res E α) (s : σ) :
    (p.handle g).exec h s = match p.exec h s with
      | (.ok a, s') => (.ok a, s')
      | (.error e, s') => (g e).exec h s' := by
  induction p generalizing s with
  | ret a => rfl
  | raise e => rfl
  | call op next ih => simp only [call_handle, exec, ih]

/-- A solo run of operations that change nothing changes nothing. -/
theorem exec_reads {σ : Type} {P : Op → Prop} (h : (op : Op) → σ → Res op × σ)
    {p : Prog Op Res E α} (hp : p.All P) (hread : ∀ op s, P op → (h op s).2 = s) (s : σ) :
    (p.exec h s).2 = s := by
  induction p with
  | ret a => rfl
  | raise e => rfl
  | call op next ih =>
    rw [exec, hread op s hp.1]
    exact ih _ (hp.2 _)

theorem All.bind {P : Op → Prop} {p : Prog Op Res E α} {f : α → Prog Op Res E β}
    (hp : p.All P) (hf : ∀ a, (f a).All P) : (p.bind f).All P := by
  induction p with
  | ret a => exact hf a
  | raise e => trivial
  | call op next ih => exact ⟨hp.1, fun r => ih r (hp.2 r)⟩

theorem All.handle {P : Op → Prop} {p : Prog Op Res E α} {h : E → Prog Op Res E α}
    (hp : p.All P) (hh : ∀ e, (h e).All P) : (p.handle h).All P := by
  induction p with
  | ret a => trivial
  | raise e => exact hh e
  | call op next ih => exact ⟨hp.1, fun r => ih r (hp.2 r)⟩

theorem All.of_forall {P : Op → Prop} (h : ∀ op, P op) (p : Prog Op Res E α) : p.All P := by
  induction p with
  | ret a => trivial
  | raise e => trivial
  | call op next ih => exact ⟨h op, ih⟩

theorem All.lift {P : Op → Prop} (x : Except E α) : (lift x : Prog Op Res E α).All P := by
  cases x <;> trivial

theorem All.embed {Op' : Type} {Res' : Op' → Type} {f : Op → Op'}
    {g : (op : Op) → Res' (f op) → Except E (Res op)} {P : Op' → Prop} {p : Prog Op Res E α}
    (h : p.All fun op => P (f op)) : (p.embed f g).All P := by
  induction p with
  | ret a => trivial
  | raise e => trivial
  | call op next ih => exact ⟨h.1, fun r => (All.lift _).bind fun r' => ih r' (h.2 r')⟩

end Prog

/-! ## Configurations and steps -/

section Runs

variable {Call Op : Type} {Res : Op → Type} {E α σ : Type}

/-- One executed operation: its answer and the shared state around it. -/
structure Record (Op : Type) (Res : Op → Type) (σ : Type) : Type where
  op : Op
  res : Res op
  before : σ
  after : σ

/-- A worker is alive with a program left to run, or has crashed. -/
inductive Status (Op : Type) (Res : Op → Type) (E α : Type) : Type
  | running (p : Prog Op Res E α)
  | crashed

/-- A worker: the call it serves, the operations it has executed, oldest
first, and what is left. -/
structure Thread (Call Op : Type) (Res : Op → Type) (E α σ : Type) : Type where
  call : Call
  past : List (Record Op Res σ)
  status : Status Op Res E α

/-- The shared state and every worker ever started. -/
structure Config (Call Op : Type) (Res : Op → Type) (E α σ : Type) : Type where
  shared : σ
  pool : List (Thread Call Op Res E α σ)

/-- What one operation can answer and where it takes the shared state. -/
abbrev Semantics (Op : Type) (Res : Op → Type) (σ : Type) : Type :=
  σ → (op : Op) → Res op → σ → Prop

variable (body : Call → Prog Op Res E α) (sem : Semantics Op Res σ)

/-- One step of a run: any call may be started, any worker may execute its next
operation, any worker may crash. -/
inductive Step : Config Call Op Res E α σ → Config Call Op Res E α σ → Prop
  | spawn (cfg : Config Call Op Res E α σ) (c : Call) :
      Step cfg { cfg with pool := cfg.pool ++ [⟨c, [], .running (body c)⟩] }
  | exec (cfg : Config Call Op Res E α σ) (i : ℕ) (t : Thread Call Op Res E α σ) (op : Op)
      (next : Res op → Prog Op Res E α) (r : Res op) (s' : σ) :
      cfg.pool[i]? = some t → t.status = .running (.call op next) →
      sem cfg.shared op r s' →
      Step cfg ⟨s', cfg.pool.set i ⟨t.call, t.past ++ [⟨op, r, cfg.shared, s'⟩], .running (next r)⟩⟩
  | crash (cfg : Config Call Op Res E α σ) (i : ℕ) (t : Thread Call Op Res E α σ) :
      cfg.pool[i]? = some t →
      Step cfg { cfg with pool := cfg.pool.set i { t with status := .crashed } }

/-- Configurations some run reaches from `s₀` with no worker started. -/
def Reachable (s₀ : σ) (cfg : Config Call Op Res E α σ) : Prop :=
  Relation.ReflTransGen (Step body sem) ⟨s₀, []⟩ cfg

variable {body sem}

/-- The rule behind the others: a property of configurations that holds
initially and survives a step holds in every reachable configuration. -/
theorem Reachable.invariant {s₀ : σ} (P : Config Call Op Res E α σ → Prop)
    (h0 : P ⟨s₀, []⟩) (hstep : ∀ c c', P c → Step body sem c c' → P c')
    {cfg : Config Call Op Res E α σ} (h : Reachable body sem s₀ cfg) : P cfg := by
  induction h with
  | refl => exact h0
  | tail _ hs ih => exact hstep _ _ ih hs

/-- A member of a pool with one entry replaced is the new entry or an old one. -/
theorem mem_set_cases {ι : Type} {l : List ι} {i : ℕ} {x y : ι} (h : y ∈ l.set i x) :
    y = x ∨ y ∈ l := (List.mem_or_eq_of_mem_set h).symm

/-! ## The rely/guarantee rule -/

section Safe

variable {M : Type} (sem) (I : σ → Prop) (G : σ → σ → Prop) (δ : M → (op : Op) → Res op → M)

/-- `Safe m p s`: run from `s` among workers that keep `I` and move the state
along `G`, every operation of `p` keeps `I` and moves the state along `G`, and
`p` ends with `Q` on a return and `X` on an exception. Interference is allowed
before every operation and before the end. The monitor `m` is what `δ` makes of
the operations the worker has executed so far. -/
def Safe (Q : M → α → σ → Prop) (X : M → E → σ → Prop) : M → Prog Op Res E α → σ → Prop
  | m, .ret a, s => ∀ s₁, I s₁ → Relation.ReflTransGen G s s₁ → Q m a s₁
  | m, .raise e, s => ∀ s₁, I s₁ → Relation.ReflTransGen G s s₁ → X m e s₁
  | m, .call op next, s => ∀ s₁, I s₁ → Relation.ReflTransGen G s s₁ →
      ∀ r s₂, sem s₁ op r s₂ → I s₂ ∧ G s₁ s₂ ∧ Safe Q X (δ m op r) (next r) s₂

variable {sem I G δ} {Q : M → α → σ → Prop} {X : M → E → σ → Prop} {m : M}

/-- `Safe` survives interference. -/
theorem Safe.stable {p : Prog Op Res E α} {s s' : σ} (h : Safe sem I G δ Q X m p s)
    (hg : Relation.ReflTransGen G s s') : Safe sem I G δ Q X m p s' := by
  cases p with
  | ret a => exact fun s₁ hI h₁ => h s₁ hI (hg.trans h₁)
  | raise e => exact fun s₁ hI h₁ => h s₁ hI (hg.trans h₁)
  | call op next => exact fun s₁ hI h₁ => h s₁ hI (hg.trans h₁)

/-- A program that is safe after any interference is safe now. -/
theorem Safe.of_interference {p : Prog Op Res E α} {s : σ}
    (h : ∀ s₁, I s₁ → Relation.ReflTransGen G s s₁ → Safe sem I G δ Q X m p s₁) :
    Safe sem I G δ Q X m p s := by
  cases p with
  | ret a => exact fun s₁ hI h₁ => h s₁ hI h₁ s₁ hI .refl
  | raise e => exact fun s₁ hI h₁ => h s₁ hI h₁ s₁ hI .refl
  | call op next => exact fun s₁ hI h₁ => h s₁ hI h₁ s₁ hI .refl

/-- Weakening the postconditions. -/
theorem Safe.mono {Q' : M → α → σ → Prop} {X' : M → E → σ → Prop} {p : Prog Op Res E α} {s : σ}
    (h : Safe sem I G δ Q X m p s) (hQ : ∀ m a s, Q m a s → Q' m a s)
    (hX : ∀ m e s, X m e s → X' m e s) : Safe sem I G δ Q' X' m p s := by
  induction p generalizing m s with
  | ret a => exact fun s₁ hI h₁ => hQ _ _ _ (h s₁ hI h₁)
  | raise e => exact fun s₁ hI h₁ => hX _ _ _ (h s₁ hI h₁)
  | call op next ih =>
    intro s₁ hI h₁ r s₂ hs
    obtain ⟨hI₂, hG, hn⟩ := h s₁ hI h₁ r s₂ hs
    exact ⟨hI₂, hG, ih r hn⟩

/-- A safe program ends where the guarantee leads. -/
theorem Safe.along {p : Prog Op Res E α} {s : σ} (h : Safe sem I G δ Q X m p s) :
    Safe sem I G δ (fun m a s' => Q m a s' ∧ Relation.ReflTransGen G s s')
      (fun m e s' => X m e s' ∧ Relation.ReflTransGen G s s') m p s := by
  suffices hgen : ∀ s₀, Relation.ReflTransGen G s₀ s →
      Safe sem I G δ (fun m a s' => Q m a s' ∧ Relation.ReflTransGen G s₀ s')
        (fun m e s' => X m e s' ∧ Relation.ReflTransGen G s₀ s') m p s from hgen s .refl
  intro s₀ hs₀
  induction p generalizing m s with
  | ret a => exact fun s₁ hI h₁ => ⟨h s₁ hI h₁, hs₀.trans h₁⟩
  | raise e => exact fun s₁ hI h₁ => ⟨h s₁ hI h₁, hs₀.trans h₁⟩
  | call op next ih =>
    intro s₁ hI h₁ r s₂ hs
    obtain ⟨hI₂, hG, hn⟩ := h s₁ hI h₁ r s₂ hs
    exact ⟨hI₂, hG, ih r hn ((hs₀.trans h₁).tail hG)⟩

/-- The sequencing rule. -/
theorem Safe.bind {β : Type} {Q' : M → β → σ → Prop} {p : Prog Op Res E α}
    {f : α → Prog Op Res E β} {s : σ}
    (h : Safe sem I G δ (fun m a s => Safe sem I G δ Q' X m (f a) s) X m p s) :
    Safe sem I G δ Q' X m (p.bind f) s := by
  induction p generalizing m s with
  | ret a => exact Safe.of_interference h
  | raise e => exact h
  | call op next ih =>
    intro s₁ hI h₁ r s₂ hs
    obtain ⟨hI₂, hG, hn⟩ := h s₁ hI h₁ r s₂ hs
    exact ⟨hI₂, hG, ih r hn⟩

/-- The rule for `try`/`except`. -/
theorem Safe.handle {X' : M → E → σ → Prop} {p : Prog Op Res E α}
    {g : E → Prog Op Res E α} {s : σ}
    (h : Safe sem I G δ Q (fun m e s => Safe sem I G δ Q X' m (g e) s) m p s) :
    Safe sem I G δ Q X' m (p.handle g) s := by
  induction p generalizing m s with
  | ret a => exact h
  | raise e => exact Safe.of_interference h
  | call op next ih =>
    intro s₁ hI h₁ r s₂ hs
    obtain ⟨hI₂, hG, hn⟩ := h s₁ hI h₁ r s₂ hs
    exact ⟨hI₂, hG, ih r hn⟩

/-- A program of operations that change neither the state nor the monitor. -/
theorem Safe.reads {P : Op → Prop} {p : Prog Op Res E α} (hp : p.All P)
    (hread : ∀ m s op r s', P op → I s → sem s op r s' → s' = s ∧ G s s ∧ δ m op r = m) (s : σ) :
    Safe sem I G δ (fun m' _ _ => m' = m) (fun m' _ _ => m' = m) m p s := by
  induction p generalizing s with
  | ret a => exact fun _ _ _ => rfl
  | raise e => exact fun _ _ _ => rfl
  | call op next ih =>
    intro s₁ hI _ r s₂ hs
    obtain ⟨rfl, hG, hm⟩ := hread m s₁ op r s₂ hp.1 hI hs
    rw [hm]
    exact ⟨hI, hG, ih r (hp.2 r) s₂⟩

/-- A pure check in front of a program: it raises, or the program runs with
what was checked. -/
theorem Safe.lift_bind {β : Type} {Q' : M → β → σ → Prop} {x : Except E α}
    {f : α → Prog Op Res E β} {s : σ}
    (herr : ∀ e, x = .error e → ∀ s₁, I s₁ → Relation.ReflTransGen G s s₁ → X m e s₁)
    (hok : ∀ a, x = .ok a → Safe sem I G δ Q' X m (f a) s) :
    Safe sem I G δ Q' X m ((Prog.lift x).bind f) s := by
  cases x with
  | ok a => exact hok a rfl
  | error e => exact herr e rfl

end Safe

section SafeRuns

variable {M : Type} {I : σ → Prop} {G : σ → σ → Prop} {δ : M → (op : Op) → Res op → M}
  {s₀ : σ} {m₀ : M} {Q : Call → M → α → σ → Prop} {X : Call → M → E → σ → Prop}

/-- What a monitor makes of a worker's past. -/
def Thread.monitor (δ : M → (op : Op) → Res op → M) (m₀ : M) (t : Thread Call Op Res E α σ) : M :=
  t.past.foldl (fun m e => δ m e.op e.res) m₀

/-- What the rely/guarantee rule establishes of a configuration: the invariant,
and that every live worker is still safe from here. -/
def SafeConfig (sem : Semantics Op Res σ) (I : σ → Prop) (G : σ → σ → Prop)
    (δ : M → (op : Op) → Res op → M) (m₀ : M)
    (Q : Call → M → α → σ → Prop) (X : Call → M → E → σ → Prop)
    (cfg : Config Call Op Res E α σ) : Prop :=
  I cfg.shared ∧ ∀ t ∈ cfg.pool, ∀ p, t.status = .running p →
    Safe sem I G δ (Q t.call) (X t.call) (t.monitor δ m₀) p cfg.shared

/-- One step keeps `SafeConfig` and moves the shared state along `G` or not at
all. -/
theorem SafeConfig.step (hbody : ∀ c s, I s → Safe sem I G δ (Q c) (X c) m₀ (body c) s)
    {cfg cfg' : Config Call Op Res E α σ} (h : SafeConfig sem I G δ m₀ Q X cfg)
    (hs : Step body sem cfg cfg') :
    SafeConfig sem I G δ m₀ Q X cfg' ∧
      (cfg'.shared = cfg.shared ∨ G cfg.shared cfg'.shared) := by
  obtain ⟨hI, hpool⟩ := h
  cases hs with
  | spawn c =>
    refine ⟨⟨hI, fun t ht p hp => ?_⟩, .inl rfl⟩
    rcases List.mem_append.mp ht with ht | ht
    · exact hpool t ht p hp
    · obtain rfl := List.mem_singleton.mp ht
      cases hp
      exact hbody c _ hI
  -- one request of one thread: it keeps its own promise, and to the others it is interference
  | exec i t op next r s' hi hst hsem =>
    have hsafe := hpool t (List.mem_of_getElem? hi) _ hst
    obtain ⟨hI', hG, hnext⟩ := hsafe cfg.shared hI .refl r s' hsem
    refine ⟨⟨hI', fun u hu p hp => ?_⟩, .inr hG⟩
    rcases mem_set_cases hu with rfl | hu
    · cases hp
      simpa only [Thread.monitor, List.foldl_append, List.foldl_cons, List.foldl_nil] using hnext
    · exact (hpool u hu p hp).stable (.single hG)
  | crash i t hi =>
    refine ⟨⟨hI, fun u hu p hp => ?_⟩, .inl rfl⟩
    rcases mem_set_cases hu with rfl | hu
    · cases hp
    · exact hpool u hu p hp

/-- **The rely/guarantee rule.** If every call's program is safe from every
state with `I`, then `I` holds in every reachable configuration and every live
worker is safe there. -/
theorem Reachable.safe (h0 : I s₀)
    (hbody : ∀ c s, I s → Safe sem I G δ (Q c) (X c) m₀ (body c) s)
    {cfg : Config Call Op Res E α σ} (h : Reachable body sem s₀ cfg) :
    SafeConfig sem I G δ m₀ Q X cfg :=
  h.invariant _ ⟨h0, by simp⟩ fun _ _ hc hs => (hc.step hbody hs).1

/-- The guarantee holds of every step of every run. -/
theorem Reachable.guarantee (h0 : I s₀)
    (hbody : ∀ c s, I s → Safe sem I G δ (Q c) (X c) m₀ (body c) s)
    {cfg cfg' : Config Call Op Res E α σ} (h : Reachable body sem s₀ cfg)
    (hs : Step body sem cfg cfg') : cfg'.shared = cfg.shared ∨ G cfg.shared cfg'.shared :=
  ((h.safe h0 hbody).step hbody hs).2

/-- The guarantee holds along the rest of a run. -/
theorem Reachable.guarantees (h0 : I s₀)
    (hbody : ∀ c s, I s → Safe sem I G δ (Q c) (X c) m₀ (body c) s)
    {cfg cfg' : Config Call Op Res E α σ} (h : Reachable body sem s₀ cfg)
    (hs : Relation.ReflTransGen (Step body sem) cfg cfg') :
    Relation.ReflTransGen G cfg.shared cfg'.shared := by
  induction hs with
  | refl => exact .refl
  | tail hrun hstep ih =>
    rcases Reachable.guarantee h0 hbody (Relation.ReflTransGen.trans h hrun) hstep with heq | hG
    · rw [heq]
      exact ih
    · exact ih.tail hG

/-- The guarantee leads from every state a worker acted on to the state now. -/
theorem Reachable.since (h0 : I s₀)
    (hbody : ∀ c s, I s → Safe sem I G δ (Q c) (X c) m₀ (body c) s)
    {cfg : Config Call Op Res E α σ} (h : Reachable body sem s₀ cfg) :
    ∀ t ∈ cfg.pool, ∀ e ∈ t.past, Relation.ReflTransGen G e.before cfg.shared := by
  induction h with
  | refl => simp
  | @tail cfg₁ cfg₂ hr hs ih =>
    have hstep : Relation.ReflTransGen G cfg₁.shared cfg₂.shared :=
      Reachable.guarantees h0 hbody hr (.single hs)
    have hold : ∀ t ∈ cfg₁.pool, ∀ e ∈ t.past, Relation.ReflTransGen G e.before cfg₂.shared :=
      fun t ht e he => (ih t ht e he).trans hstep
    cases hs with
    | spawn c =>
      intro t ht e he
      rcases List.mem_append.mp ht with ht | ht
      · exact hold t ht e he
      · obtain rfl := List.mem_singleton.mp ht
        simp at he
    -- the new record starts in the state before the step
    | exec i t op next r s' hi hst hsem =>
      intro u hu e he
      rcases mem_set_cases hu with rfl | hu
      · rcases List.mem_append.mp he with he | he
        · exact hold t (List.mem_of_getElem? hi) e he
        · obtain rfl := List.mem_singleton.mp he
          exact hstep
      · exact hold u hu e he
    | crash i t hi =>
      intro u hu e he
      rcases mem_set_cases hu with rfl | hu
      · exact hold t (List.mem_of_getElem? hi) e he
      · exact hold u hu e he

/-- What a finished worker returned satisfies its postcondition, now. -/
theorem Reachable.returned (h0 : I s₀)
    (hbody : ∀ c s, I s → Safe sem I G δ (Q c) (X c) m₀ (body c) s)
    {cfg : Config Call Op Res E α σ} (h : Reachable body sem s₀ cfg)
    {t : Thread Call Op Res E α σ} (ht : t ∈ cfg.pool) {a : α}
    (hret : t.status = .running (.ret a)) : Q t.call (t.monitor δ m₀) a cfg.shared := by
  obtain ⟨hI, hpool⟩ := h.safe h0 hbody
  exact hpool t ht _ hret cfg.shared hI .refl

/-- What a failed worker raised satisfies its postcondition, now. -/
theorem Reachable.raised (h0 : I s₀)
    (hbody : ∀ c s, I s → Safe sem I G δ (Q c) (X c) m₀ (body c) s)
    {cfg : Config Call Op Res E α σ} (h : Reachable body sem s₀ cfg)
    {t : Thread Call Op Res E α σ} (ht : t ∈ cfg.pool) {e : E}
    (hraise : t.status = .running (.raise e)) : X t.call (t.monitor δ m₀) e cfg.shared := by
  obtain ⟨hI, hpool⟩ := h.safe h0 hbody
  exact hpool t ht _ hraise cfg.shared hI .refl

end SafeRuns

/-! ## Tokens -/

section Tokens

variable (gain cost : (op : Op) → Res op → ℕ)

/-- `Paid n p`: holding `n` tokens, `p` can pay for every operation it performs
out of the tokens it holds and those it earns on the way, whatever the answers
are. -/
def Paid : ℕ → Prog Op Res E α → Prop
  | _, .ret _ => True
  | _, .raise _ => True
  | n, .call op next => ∀ r, cost op r ≤ n + gain op r ∧
      Paid (n + gain op r - cost op r) (next r)

variable {gain cost}

/-- More tokens never hurt. -/
theorem Paid.mono {p : Prog Op Res E α} {n m : ℕ} (h : Paid gain cost n p) (hnm : n ≤ m) :
    Paid gain cost m p := by
  induction p generalizing n m with
  | ret a => trivial
  | raise e => trivial
  | call op next ih =>
    intro r
    obtain ⟨hc, hn⟩ := h r
    exact ⟨by omega, ih r hn (by omega)⟩

/-- Replacing one entry of a list changes its sum by the difference. -/
theorem sum_set_add {l : List ℕ} {i : ℕ} {x y : ℕ} (h : l[i]? = some x) :
    (l.set i y).sum + x = l.sum + y := by
  induction l generalizing i with
  | nil => simp at h
  | cons a l ih =>
    cases i with
    | zero =>
      simp only [List.getElem?_cons_zero, Option.some.injEq] at h
      subst h
      simp only [List.set_cons_zero, List.sum_cons]
      omega
    | succ i =>
      simp only [List.getElem?_cons_succ] at h
      have := ih h
      simp only [List.set_cons_succ, List.sum_cons]
      omega

/-- The books of a configuration balance: there is a wallet for every worker
from which it can pay for the rest of its program, and what was spent plus what
is in the wallets was earned. -/
def Balanced (gain cost : (op : Op) → Res op → ℕ) (spent earned : σ → ℕ)
    (cfg : Config Call Op Res E α σ) : Prop :=
  ∃ wallet : List ℕ, wallet.length = cfg.pool.length ∧
    spent cfg.shared + wallet.sum ≤ earned cfg.shared ∧
    ∀ (i : ℕ) (t : Thread Call Op Res E α σ) (n : ℕ) (p : Prog Op Res E α),
      cfg.pool[i]? = some t → wallet[i]? = some n → t.status = .running p → Paid gain cost n p

/-- **The token rule.** If every call can pay for its operations starting with
nothing, and the shared state records what is spent and earned, then in every
reachable configuration no more has been spent than earned. `I` is an invariant
of the shared state the accounting may use. -/
theorem Reachable.tokens {s₀ : σ} {I : σ → Prop} {spent earned : σ → ℕ}
    (h0 : spent s₀ ≤ earned s₀) (hpaid : ∀ c, Paid gain cost 0 (body c))
    (hI : ∀ cfg : Config Call Op Res E α σ, Reachable body sem s₀ cfg → I cfg.shared)
    (hstep : ∀ s op r s', I s → sem s op r s' →
      spent s' ≤ spent s + cost op r ∧ earned s + gain op r ≤ earned s')
    {cfg : Config Call Op Res E α σ} (h : Reachable body sem s₀ cfg) :
    spent cfg.shared ≤ earned cfg.shared := by
  suffices hb : Balanced gain cost spent earned cfg by
    obtain ⟨w, -, hw, -⟩ := hb
    omega
  -- each thread carries a purse, and what is spent never exceeds what is earned and carried
  induction h with
  | refl => exact ⟨[], rfl, by simpa using h0, by simp⟩
  | tail hr hs ih =>
    have hinv := hI _ hr
    obtain ⟨w, hlen, hsum, hall⟩ := ih
    cases hs with
    | spawn c =>
      refine ⟨w ++ [0], by simp [hlen], by simpa using hsum, ?_⟩
      intro i t n p ht hn hp
      rcases Nat.lt_or_ge i w.length with hlt | hge
      · rw [List.getElem?_append_left hlt] at hn
        rw [List.getElem?_append_left (by omega)] at ht
        exact hall i t n p ht hn hp
      · rw [List.getElem?_append_right (by omega)] at ht hn
        rw [hlen] at hn
        rcases Nat.eq_zero_or_pos (i - _) with hz | hpos
        · rw [hz] at ht hn
          simp only [List.getElem?_cons_zero, Option.some.injEq] at ht hn
          subst ht hn
          cases hp
          exact hpaid c
        · simp only [List.getElem?_singleton, Option.ite_none_right_eq_some] at ht
          omega
    | exec i t op next r s' hi hst hsem =>
      obtain ⟨hspent, hearned⟩ := hstep _ op r s' hinv hsem
      obtain ⟨hlt, -⟩ := List.getElem?_eq_some_iff.mp hi
      obtain ⟨m, hw⟩ : ∃ m, w[i]? = some m := ⟨_, List.getElem?_eq_getElem (by omega)⟩
      obtain ⟨hpay, hnext⟩ := hall i t _ _ hi hw hst r
      refine ⟨w.set i (m + gain op r - cost op r), by simp [hlen], ?_, ?_⟩
      · have := sum_set_add (y := m + gain op r - cost op r) hw
        dsimp only
        omega
      · intro j u n p hu hn hp
        by_cases hij : i = j
        · subst hij
          rw [List.getElem?_set_self hlt, Option.some.injEq] at hu
          rw [List.getElem?_set_self (by omega), Option.some.injEq] at hn
          subst hu hn
          cases hp
          exact hnext
        · rw [List.getElem?_set_ne hij] at hu hn
          exact hall j u n p hu hn hp
    | crash i t hi =>
      refine ⟨w, by simp [hlen], hsum, ?_⟩
      intro j u n p hu hn hp
      by_cases hij : i = j
      · subst hij
        obtain ⟨hlt, -⟩ := List.getElem?_eq_some_iff.mp hi
        simp only [List.getElem?_set_self hlt, Option.some.injEq] at hu
        subst hu
        cases hp
      · rw [List.getElem?_set_ne hij] at hu
        exact hall j u n p hu hn hp

end Tokens

/-! ## Solo runs -/

section Solo

variable {s₀ : σ} {h : (op : Op) → σ → Res op × σ}

/-- What is left of a program run alone to its end. -/
def Prog.finished (h : (op : Op) → σ → Res op × σ) (p : Prog Op Res E α) (s : σ) :
    Prog Op Res E α := Prog.lift (p.exec h s).1

/-- The operations of a program run alone. -/
def Prog.trace (h : (op : Op) → σ → Res op × σ) : Prog Op Res E α → σ → List (Record Op Res σ)
  | .ret _, _ => []
  | .raise _, _ => []
  | .call op next, s => ⟨op, (h op s).1, s, (h op s).2⟩ :: (next (h op s).1).trace h (h op s).2

/-- A live worker can run alone to its end, from wherever it started. -/
theorem Step.finish (hsem : ∀ s op, sem s op (h op s).1 (h op s).2)
    {cfg₀ : Config Call Op Res E α σ} {p : Prog Op Res E α} {c : Call}
    {past : List (Record Op Res σ)} {s : σ} {pool : List (Thread Call Op Res E α σ)}
    (hr : Relation.ReflTransGen (Step body sem) cfg₀ ⟨s, pool ++ [⟨c, past, .running p⟩]⟩) :
    Relation.ReflTransGen (Step body sem) cfg₀
      ⟨(p.exec h s).2, pool ++ [⟨c, past ++ p.trace h s, .running (p.finished h s)⟩]⟩ := by
  induction p generalizing past s with
  | ret a =>
    rw [Prog.trace, List.append_nil]
    exact hr
  | raise e =>
    rw [Prog.trace, List.append_nil]
    exact hr
  | call op next ih =>
    have hstep : Step body sem _ _ := Step.exec
      ⟨s, pool ++ [⟨c, past, .running (.call op next)⟩]⟩ pool.length
      ⟨c, past, .running (.call op next)⟩ op next (h op s).1 (h op s).2 (by simp) rfl (hsem s op)
    have hr' := Relation.ReflTransGen.tail hr hstep
    rw [List.set_append_right _ _ (Nat.le_refl _), Nat.sub_self, List.set_cons_zero] at hr'
    have hend := ih (h op s).1 hr'
    rw [List.append_assoc, List.singleton_append] at hend
    exact hend

/-- A configuration can serve another call, alone. -/
theorem Step.serve (hsem : ∀ s op, sem s op (h op s).1 (h op s).2)
    (cfg : Config Call Op Res E α σ) (c : Call) :
    Relation.ReflTransGen (Step body sem) cfg ⟨((body c).exec h cfg.shared).2,
      cfg.pool ++ [⟨c, (body c).trace h cfg.shared, .running ((body c).finished h cfg.shared)⟩]⟩ :=
  Step.finish hsem (.single (.spawn cfg c))

/-- A reachable configuration can serve another call, alone. -/
theorem Reachable.serve (hsem : ∀ s op, sem s op (h op s).1 (h op s).2)
    {cfg : Config Call Op Res E α σ} (hr : Reachable body sem s₀ cfg) (c : Call) :
    Reachable body sem s₀ ⟨((body c).exec h cfg.shared).2,
      cfg.pool ++ [⟨c, (body c).trace h cfg.shared, .running ((body c).finished h cfg.shared)⟩]⟩ :=
  Relation.ReflTransGen.trans hr (Step.serve hsem cfg c)

variable (body s₀) in
/-- Calls served one after the other. -/
theorem Reachable.sequence (hsem : ∀ s op, sem s op (h op s).1 (h op s).2) (calls : List Call) :
    ∃ cfg : Config Call Op Res E α σ, Reachable body sem s₀ cfg ∧
      cfg.shared = calls.foldl (fun s c => ((body c).exec h s).2) s₀ ∧
      cfg.pool.map Thread.call = calls := by
  suffices hgen : ∀ cfg : Config Call Op Res E α σ, Reachable body sem s₀ cfg →
      ∃ cfg' : Config Call Op Res E α σ, Reachable body sem s₀ cfg' ∧
        cfg'.shared = calls.foldl (fun s c => ((body c).exec h s).2) cfg.shared ∧
        cfg'.pool.map Thread.call = cfg.pool.map Thread.call ++ calls from
    hgen ⟨s₀, []⟩ .refl
  induction calls with
  | nil => exact fun cfg hr => ⟨cfg, hr, rfl, by simp⟩
  | cons c calls ih =>
    intro cfg hr
    obtain ⟨cfg', hr', hs, hp⟩ := ih _ (hr.serve hsem c)
    exact ⟨cfg', hr', hs, by simpa using hp⟩

end Solo

/-! ## Records and append-only logs -/

section Logs

/-- Every operation a worker remembers was a step of the semantics, taken in a
state with the invariant. -/
theorem Reachable.records {s₀ : σ} {I : σ → Prop}
    (hI : ∀ cfg : Config Call Op Res E α σ, Reachable body sem s₀ cfg → I cfg.shared)
    {cfg : Config Call Op Res E α σ} (h : Reachable body sem s₀ cfg) :
    ∀ t ∈ cfg.pool, ∀ e ∈ t.past, I e.before ∧ sem e.before e.op e.res e.after := by
  induction h with
  | refl => simp
  | tail hr hs ih =>
    have hinv := hI _ hr
    cases hs with
    | spawn c =>
      intro t ht e he
      rcases List.mem_append.mp ht with ht | ht
      · exact ih t ht e he
      · obtain rfl := List.mem_singleton.mp ht
        simp at he
    | exec i t op next r s' hi hst hsem =>
      intro u hu e he
      rcases mem_set_cases hu with rfl | hu
      · rcases List.mem_append.mp he with he | he
        · exact ih t (List.mem_of_getElem? hi) e he
        · obtain rfl := List.mem_singleton.mp he
          exact ⟨hinv, hsem⟩
      · exact ih u hu e he
    | crash i t hi =>
      intro u hu e he
      rcases mem_set_cases hu with rfl | hu
      · exact ih t (List.mem_of_getElem? hi) e he
      · exact ih u hu e he

/-- One of two operations was over when the other began, and what happened in
between moved the state along `G`. -/
def Record.Apart (G : σ → σ → Prop) (e f : Record Op Res σ) : Prop :=
  Relation.ReflTransGen G e.after f.before ∨ Relation.ReflTransGen G f.after e.before

theorem Record.Apart.symm {G : σ → σ → Prop} {e f : Record Op Res σ} (h : e.Apart G f) : f.Apart G e :=
  Or.symm h

/-- Replacing a list entry by one that is related to the others as it was. -/
theorem pairwise_set {ι : Type} {R : ι → ι → Prop} {l : List ι} {i : ℕ} {x y : ι} (hl : l.Pairwise R)
    (hi : l[i]? = some x) (hleft : ∀ u ∈ l, R x u → R y u) (hright : ∀ u ∈ l, R u x → R u y) :
    (l.set i y).Pairwise R := by
  induction l generalizing i with
  | nil => simp
  | cons a l ih =>
    obtain ⟨ha, hl⟩ := List.pairwise_cons.mp hl
    cases i with
    | zero =>
      rw [List.getElem?_cons_zero, Option.some.injEq] at hi
      subst hi
      rw [List.set_cons_zero, List.pairwise_cons]
      exact ⟨fun u hu => hleft u (List.mem_cons_of_mem _ hu) (ha u hu), hl⟩
    | succ i =>
      rw [List.getElem?_cons_succ] at hi
      rw [List.set_cons_succ, List.pairwise_cons]
      refine ⟨fun u hu => ?_, ih hl hi (fun u hu => hleft u (List.mem_cons_of_mem _ hu))
        fun u hu => hright u (List.mem_cons_of_mem _ hu)⟩
      rcases List.mem_or_eq_of_mem_set hu with hu | rfl
      · exact ha u hu
      · exact hright a List.mem_cons_self (ha x (List.mem_of_getElem? hi))

/-- **Operations are atomic.** Operations of different workers are apart. -/
theorem Reachable.apart {s₀ : σ} {G : σ → σ → Prop} (hG : ∀ s op r s', sem s op r s' → G s s')
    {cfg : Config Call Op Res E α σ} (h : Reachable body sem s₀ cfg) :
    (∀ t ∈ cfg.pool, ∀ e ∈ t.past, Relation.ReflTransGen G e.after cfg.shared) ∧
      cfg.pool.Pairwise fun t u => ∀ e ∈ t.past, ∀ f ∈ u.past, e.Apart G f := by
  induction h with
  | refl => simp
  | @tail cfg₁ _ hr hs ih =>
    obtain ⟨hpast, hpairs⟩ := ih
    cases hs with
    | spawn c =>
      refine ⟨fun t ht e he => ?_, ?_⟩
      · rcases List.mem_append.mp ht with ht | ht
        · exact hpast t ht e he
        · obtain rfl := List.mem_singleton.mp ht
          simp at he
      · refine List.pairwise_append.mpr ⟨hpairs, List.pairwise_singleton _ _, ?_⟩
        intro t _ u hu
        obtain rfl := List.mem_singleton.mp hu
        simp
    | exec i t op next r s' hi hst hsem =>
      have hstep := hG _ _ _ _ hsem
      have ht := List.mem_of_getElem? hi
      refine ⟨fun u hu e he => ?_, ?_⟩
      · rcases mem_set_cases hu with rfl | hu
        · rcases List.mem_append.mp he with he | he
          · exact (hpast t ht e he).tail hstep
          · obtain rfl := List.mem_singleton.mp he
            exact .refl
        · exact (hpast u hu e he).tail hstep
      · -- The new operation begins in the current state, after every other one.
        have hnew : ∀ u ∈ cfg₁.pool, ∀ f ∈ u.past, f.Apart G ⟨op, r, cfg₁.shared, s'⟩ :=
          fun u hu f hf => .inl (hpast u hu f hf)
        refine pairwise_set hpairs hi ?_ ?_
        · intro u hu hold e he f hf
          rcases List.mem_append.mp he with he | he
          · exact hold e he f hf
          · obtain rfl := List.mem_singleton.mp he
            exact (hnew u hu f hf).symm
        · intro u hu hold e he f hf
          rcases List.mem_append.mp hf with hf | hf
          · exact hold e he f hf
          · obtain rfl := List.mem_singleton.mp hf
            exact hnew u hu e he
    | crash i t hi =>
      refine ⟨fun u hu e he => ?_, ?_⟩
      · rcases mem_set_cases hu with rfl | hu
        · exact hpast t (List.mem_of_getElem? hi) e he
        · exact hpast u hu e he
      · exact pairwise_set hpairs hi (fun _ _ hold => hold) fun _ _ hold => hold

/-- The program `q` is what executing the operations `past` leaves of `p`. -/
inductive Follows : Prog Op Res E α → List (Record Op Res σ) → Prog Op Res E α → Prop
  | done (p : Prog Op Res E α) : Follows p [] p
  | step {op : Op} {next : Res op → Prog Op Res E α} {r : Res op} (before after : σ)
      {past : List (Record Op Res σ)} {q : Prog Op Res E α} (h : Follows (next r) past q) :
      Follows (.call op next) (⟨op, r, before, after⟩ :: past) q

/-- One more executed operation. -/
theorem Follows.snoc {p : Prog Op Res E α} {past : List (Record Op Res σ)} {op : Op}
    {next : Res op → Prog Op Res E α} (h : Follows p past (.call op next)) (r : Res op)
    (before after : σ) : Follows p (past ++ [⟨op, r, before, after⟩]) (next r) := by
  generalize hq : Prog.call op next = q at h
  induction h with
  | done p =>
    subst hq
    exact .step before after (.done _)
  | step b a _ ih => exact .step b a (ih hq)

/-- A worker's past is an execution of its call's program, and a live worker is
left with the rest. -/
theorem Reachable.follows {s₀ : σ} {cfg : Config Call Op Res E α σ}
    (h : Reachable body sem s₀ cfg) : ∀ t ∈ cfg.pool,
      ∃ q, Follows (body t.call) t.past q ∧ ∀ p, t.status = .running p → p = q := by
  induction h with
  | refl => simp
  | tail hr hs ih =>
    cases hs with
    | spawn c =>
      intro t ht
      rcases List.mem_append.mp ht with ht | ht
      · exact ih t ht
      · obtain rfl := List.mem_singleton.mp ht
        exact ⟨_, .done _, fun p hp => (Status.running.inj hp).symm⟩
    | exec i t op next r s' hi hst hsem =>
      intro u hu
      rcases mem_set_cases hu with rfl | hu
      · obtain ⟨q, hq, hlive⟩ := ih t (List.mem_of_getElem? hi)
        rw [← hlive _ hst] at hq
        exact ⟨_, hq.snoc r _ _, fun p hp => (Status.running.inj hp).symm⟩
      · exact ih u hu
    | crash i t hi =>
      intro u hu
      rcases mem_set_cases hu with rfl | hu
      · obtain ⟨q, hq, -⟩ := ih t (List.mem_of_getElem? hi)
        exact ⟨q, hq, fun p hp => nomatch hp⟩
      · exact ih u hu

/-- The operations of a list follow one another from `s` to `s'`. -/
def Chain (sem : Semantics Op Res σ) : σ → List (Record Op Res σ) → σ → Prop
  | s, [], s' => s = s'
  | s, e :: rest, s' => e.before = s ∧ sem s e.op e.res e.after ∧ Chain sem e.after rest s'

/-- An execution in two parts. -/
theorem Follows.split {p q : Prog Op Res E α} {front back : List (Record Op Res σ)}
    (h : Follows p (front ++ back) q) : ∃ mid, Follows p front mid ∧ Follows mid back q := by
  induction front generalizing p with
  | nil => exact ⟨p, .done p, h⟩
  | cons e front ih =>
    cases h with
    | step before after h =>
      obtain ⟨mid, hfront, hback⟩ := ih h
      exact ⟨mid, .step before after hfront, hback⟩

/-- Executions that follow one another. -/
theorem Follows.append {p mid q : Prog Op Res E α} {front back : List (Record Op Res σ)}
    (h : Follows p front mid) (h' : Follows mid back q) : Follows p (front ++ back) q := by
  induction h with
  | done p => exact h'
  | step before after _ ih => exact .step before after (ih h')

/-- An execution of the first part of a sequence. -/
theorem Follows.bind {β : Type} {p mid : Prog Op Res E α} {past : List (Record Op Res σ)}
    (h : Follows p past mid) (f : α → Prog Op Res E β) : Follows (p.bind f) past (mid.bind f) := by
  induction h with
  | done p => exact .done _
  | step before after _ ih => exact .step before after ih

/-- An execution under a handler. -/
theorem Follows.handle {p mid : Prog Op Res E α} {past : List (Record Op Res σ)}
    (h : Follows p past mid) (g : E → Prog Op Res E α) : Follows (p.handle g) past (mid.handle g) := by
  induction h with
  | done p => exact .done _
  | step before after _ ih => exact .step before after ih

/-- An execution of a sequence ends in the first part, or goes on with the second. -/
theorem Follows.bind_cases {β : Type} {p : Prog Op Res E α} {f : α → Prog Op Res E β}
    {past : List (Record Op Res σ)} {q : Prog Op Res E β} (h : Follows (p.bind f) past q) :
    (∃ mid, Follows p past mid) ∨
      ∃ a front back, past = front ++ back ∧ Follows p front (.ret a) ∧ Follows (f a) back q := by
  induction p generalizing past with
  | ret a => exact .inr ⟨a, [], past, rfl, .done _, h⟩
  | raise e =>
    cases h with
    | done => exact .inl ⟨_, .done _⟩
  | call op next ih =>
    cases h with
    | done => exact .inl ⟨_, .done _⟩
    | step before after h =>
      rcases ih _ h with ⟨mid, hmid⟩ | ⟨a, front, back, rfl, hfront, hback⟩
      · exact .inl ⟨mid, .step before after hmid⟩
      · exact .inr ⟨a, _ :: front, back, rfl, .step before after hfront, hback⟩

/-- An execution under a handler ends before an exception, or goes on with the handler. -/
theorem Follows.handle_cases {p : Prog Op Res E α} {g : E → Prog Op Res E α}
    {past : List (Record Op Res σ)} {q : Prog Op Res E α} (h : Follows (p.handle g) past q) :
    (∃ mid, Follows p past mid) ∨
      ∃ e front back, past = front ++ back ∧ Follows p front (.raise e) ∧ Follows (g e) back q := by
  induction p generalizing past with
  | ret a =>
    cases h with
    | done => exact .inl ⟨_, .done _⟩
  | raise e => exact .inr ⟨e, [], past, rfl, .done _, h⟩
  | call op next ih =>
    cases h with
    | done => exact .inl ⟨_, .done _⟩
    | step before after h =>
      rcases ih _ h with ⟨mid, hmid⟩ | ⟨e, front, back, rfl, hfront, hback⟩
      · exact .inl ⟨mid, .step before after hmid⟩
      · exact .inr ⟨e, _ :: front, back, rfl, .step before after hfront, hback⟩

/-- A pure check executes nothing. -/
theorem Follows.lift {x : Except E α} {past : List (Record Op Res σ)} {q : Prog Op Res E α}
    (h : Follows (Prog.lift x) past q) : past = [] := by
  cases x with
  | ok a =>
    cases h with
    | done => rfl
  | error e =>
    cases h with
    | done => rfl

/-- The operations that were executed are those of the program. -/
theorem Follows.all {P : Op → Prop} {p q : Prog Op Res E α} {past : List (Record Op Res σ)}
    (h : Follows p past q) (hp : p.All P) : ∀ e ∈ past, P e.op := by
  induction h with
  | done p => simp
  | step before after _ ih => exact List.forall_mem_cons.mpr ⟨hp.1, ih (hp.2 _)⟩

/-- **Scheduling**: a live worker can execute operations that follow one another
from the current state. -/
theorem Reachable.follow {s₀ s' : σ} {cfg : Config Call Op Res E α σ} (h : Reachable body sem s₀ cfg)
    {i : ℕ} {t : Thread Call Op Res E α σ} {p q : Prog Op Res E α} {past : List (Record Op Res σ)}
    (hi : cfg.pool[i]? = some t) (hlive : t.status = .running p) (hf : Follows p past q)
    (hc : Chain sem cfg.shared past s') :
    Reachable body sem s₀ ⟨s', cfg.pool.set i ⟨t.call, t.past ++ past, .running q⟩⟩ := by
  induction hf generalizing cfg t with
  | done p =>
    obtain rfl : cfg.shared = s' := hc
    have hset : cfg.pool.set i ⟨t.call, t.past ++ [], .running p⟩ = cfg.pool := by
      have hsame : (⟨t.call, t.past ++ [], .running p⟩ : Thread Call Op Res E α σ) = t := by
        rw [List.append_nil, ← hlive]
      rw [hsame]
      obtain ⟨hlt, heq⟩ := List.getElem?_eq_some_iff.mp hi
      rw [← heq, List.set_getElem_self]
    rw [hset]
    exact h
  | @step op next r before after past q hf ih =>
    obtain ⟨rfl, hsem, hrest⟩ := hc
    obtain ⟨hlt, -⟩ := List.getElem?_eq_some_iff.mp hi
    have hstep : Reachable body sem s₀ ⟨after, cfg.pool.set i
        ⟨t.call, t.past ++ [⟨op, r, cfg.shared, after⟩], .running (next r)⟩⟩ :=
      Relation.ReflTransGen.tail h (.exec cfg i t op next r after hi hlive hsem)
    have hnext := ih hstep (List.getElem?_set_self hlt) rfl hrest
    rwa [List.set_set, List.append_assoc, List.singleton_append] at hnext

/-- A worker can be started. -/
theorem Reachable.start {s₀ : σ} {cfg : Config Call Op Res E α σ} (h : Reachable body sem s₀ cfg)
    (c : Call) : Reachable body sem s₀ { cfg with pool := cfg.pool ++ [⟨c, [], .running (body c)⟩] } :=
  Relation.ReflTransGen.tail h (.spawn cfg c)

section Turn

variable {h : (op : Op) → σ → Res op × σ}

/-- At most `n` steps of a program, where `h` answers: the operations, what is left of the
program, and the state. -/
def Prog.turn (h : (op : Op) → σ → Res op × σ) :
    ℕ → Prog Op Res E α → σ → List (Record Op Res σ) × Prog Op Res E α × σ
  | n + 1, .call op next, s =>
    let rest := Prog.turn h n (next (h op s).1) (h op s).2
    (⟨op, (h op s).1, s, (h op s).2⟩ :: rest.1, rest.2)
  | _, p, s => ([], p, s)

theorem Prog.turn_follows (n : ℕ) (p : Prog Op Res E α) (s : σ) :
    Follows p (p.turn h n s).1 (p.turn h n s).2.1 := by
  induction n generalizing p s with
  | zero => cases p <;> exact .done _
  | succ n ih =>
    cases p with
    | call op next => exact .step _ _ (ih _ _)
    | _ => exact .done _

theorem Prog.turn_chain (hsem : ∀ s op, sem s op (h op s).1 (h op s).2) (n : ℕ)
    (p : Prog Op Res E α) (s : σ) : Chain sem s (p.turn h n s).1 (p.turn h n s).2.2 := by
  induction n generalizing p s with
  | zero => cases p <;> rfl
  | succ n ih =>
    cases p with
    | call op next => exact ⟨rfl, hsem s op, ih _ _⟩
    | _ => rfl

/-- **Turns**: a live worker takes at most `n` steps, and the others wait. -/
theorem Reachable.turn (hsem : ∀ s op, sem s op (h op s).1 (h op s).2) {s₀ : σ}
    {cfg : Config Call Op Res E α σ} (hr : Reachable body sem s₀ cfg) {i : ℕ}
    {t : Thread Call Op Res E α σ} {p : Prog Op Res E α} (hi : cfg.pool[i]? = some t)
    (hlive : t.status = .running p) (n : ℕ) :
    Reachable body sem s₀ ⟨(p.turn h n cfg.shared).2.2, cfg.pool.set i
      ⟨t.call, t.past ++ (p.turn h n cfg.shared).1, .running (p.turn h n cfg.shared).2.1⟩⟩ :=
  hr.follow hi hlive (Prog.turn_follows n p cfg.shared) (Prog.turn_chain hsem n p cfg.shared)

/-- Two calls: the first takes `n` steps, then the second `m`, then the first goes on. -/
def race (body : Call → Prog Op Res E α) (h : (op : Op) → σ → Res op × σ) (s₀ : σ) (c c' : Call)
    (n m k : ℕ) : Config Call Op Res E α σ :=
  let first := (body c).turn h n s₀
  let second := (body c').turn h m first.2.2
  let last := first.2.1.turn h k second.2.2
  ⟨last.2.2, [⟨c, first.1 ++ last.1, .running last.2.1⟩, ⟨c', second.1, .running second.2.1⟩]⟩

theorem Reachable.race (hsem : ∀ s op, sem s op (h op s).1 (h op s).2) (s₀ : σ) (c c' : Call)
    (n m k : ℕ) : Reachable body sem s₀ (race body h s₀ c c' n m k) := by
  have hstart : Reachable body sem s₀ ⟨s₀, [⟨c, [], .running (body c)⟩, ⟨c', [], .running (body c')⟩]⟩ :=
    (Reachable.start .refl c).start c'
  have hfirst := hstart.turn hsem (i := 0) rfl rfl n
  have hsecond := hfirst.turn hsem (i := 1) rfl rfl m
  exact hsecond.turn hsem (i := 0) rfl rfl k

end Turn

/-! ### Operations a worker's own past allows -/

section Obeys

variable {M : Type} (δ : M → (op : Op) → Res op → M) (allowed : M → Op → Prop)

/-- `Obeys m p`: with the monitor at `m`, the monitor allows every operation of
`p` when it is performed, whatever the answers are; `p` ends with `Q` on a return
and with `X` on an exception. -/
def Obeys (Q : M → α → Prop) (X : M → E → Prop) : M → Prog Op Res E α → Prop
  | m, .ret a => Q m a
  | m, .raise e => X m e
  | m, .call op next => allowed m op ∧ ∀ r, Obeys Q X (δ m op r) (next r)

variable {δ allowed} {Q : M → α → Prop} {X : M → E → Prop} {m : M}

/-- Weakening the postconditions. -/
theorem Obeys.mono {Q' : M → α → Prop} {X' : M → E → Prop} {p : Prog Op Res E α}
    (h : Obeys δ allowed Q X m p) (hQ : ∀ m a, Q m a → Q' m a) (hX : ∀ m e, X m e → X' m e) :
    Obeys δ allowed Q' X' m p := by
  induction p generalizing m with
  | ret a => exact hQ _ _ h
  | raise e => exact hX _ _ h
  | call op next ih => exact ⟨h.1, fun r => ih r (h.2 r)⟩

/-- The sequencing rule. -/
theorem Obeys.bind {β : Type} {Q' : M → β → Prop} {p : Prog Op Res E α} {f : α → Prog Op Res E β}
    (h : Obeys δ allowed (fun m a => Obeys δ allowed Q' X m (f a)) X m p) :
    Obeys δ allowed Q' X m (p.bind f) := by
  induction p generalizing m with
  | ret a => exact h
  | raise e => exact h
  | call op next ih => exact ⟨h.1, fun r => ih r (h.2 r)⟩

/-- The rule for `try`/`except`. -/
theorem Obeys.handle {X' : M → E → Prop} {p : Prog Op Res E α} {g : E → Prog Op Res E α}
    (h : Obeys δ allowed Q (fun m e => Obeys δ allowed Q X' m (g e)) m p) :
    Obeys δ allowed Q X' m (p.handle g) := by
  induction p generalizing m with
  | ret a => exact h
  | raise e => exact h
  | call op next ih => exact ⟨h.1, fun r => ih r (h.2 r)⟩

/-- The rule for a pure check. -/
theorem Obeys.lift {x : Except E α} (hok : ∀ a, x = .ok a → Q m a) (herr : ∀ e, x = .error e → X m e) :
    Obeys δ allowed Q X m (Prog.lift x) := by
  cases x with
  | ok a => exact hok a rfl
  | error e => exact herr e rfl

/-- Operations that are allowed where `J` holds of the monitor, and that keep it. -/
theorem Obeys.keeps {P : Op → Prop} {J : M → Prop} {p : Prog Op Res E α} (hp : p.All P)
    (hop : ∀ m op, J m → P op → allowed m op ∧ ∀ r, J (δ m op r)) (h : J m) :
    Obeys δ allowed (fun m _ => J m) (fun m _ => J m) m p := by
  induction p generalizing m with
  | ret a => exact h
  | raise e => exact h
  | call op next ih => exact ⟨(hop m op h hp.1).1, fun r => ih r (hp.2 r) ((hop m op h hp.1).2 r)⟩

/-- A program keeps to what is allowed where it is carried. -/
theorem Obeys.embed {Op' : Type} {Res' : Op' → Type} {f : Op → Op'}
    {g : (op : Op) → Res' (f op) → Except E (Res op)} {δ' : M → (op : Op') → Res' op → M}
    {allowed' : M → Op' → Prop} (hδ : ∀ m op r r', g op r = .ok r' → δ' m (f op) r = δ m op r')
    (hallowed : ∀ m op, allowed m op → allowed' m (f op))
    (hraise : ∀ m op r e, g op r = .error e → X (δ' m (f op) r) e) {p : Prog Op Res E α}
    (h : Obeys δ allowed Q X m p) : Obeys δ' allowed' Q X m (p.embed f g) := by
  induction p generalizing m with
  | ret a => exact h
  | raise e => exact h
  | call op next ih =>
    refine ⟨hallowed m op h.1, fun r => Obeys.bind (Obeys.lift (fun r' hr => ?_) (hraise m op r))⟩
    rw [hδ m op r r' hr]
    exact ih r' (h.2 r')

/-- What is allowed at every point of a program is true of its operations. -/
theorem Obeys.all {P : Op → Prop} {p : Prog Op Res E α} (h : Obeys δ allowed Q X m p)
    (hop : ∀ m op, allowed m op → P op) : p.All P := by
  induction p generalizing m with
  | ret a => trivial
  | raise e => trivial
  | call op next ih => exact ⟨hop m op h.1, fun r => ih r (h.2 r)⟩

/-- Every executed operation was allowed by what had been executed before it. -/
theorem Follows.obeys {p q : Prog Op Res E α} {past : List (Record Op Res σ)} (h : Follows p past q)
    (hp : Obeys δ allowed Q X m p) :
    (∀ front e back, past = front ++ e :: back →
      allowed (front.foldl (fun m e => δ m e.op e.res) m) e.op) ∧
    Obeys δ allowed Q X (past.foldl (fun m e => δ m e.op e.res) m) q := by
  induction h generalizing m with
  | done p => exact ⟨fun front e back heq => by simp at heq, hp⟩
  | @step op next r before after past q h ih =>
    obtain ⟨hfront, hq⟩ := ih (hp.2 r)
    refine ⟨fun front e back heq => ?_, hq⟩
    cases front with
    | nil =>
      obtain ⟨rfl, -⟩ := List.cons.inj heq
      exact hp.1
    | cons e' front =>
      obtain ⟨rfl, hrest⟩ := List.cons.inj heq
      exact hfront front e back hrest

/-- **The monitor rule.** In every run, every operation of every worker was
allowed by what the worker had executed before it. -/
theorem Reachable.obeys {s₀ : σ} {allowed : Call → M → Op → Prop} {Q : Call → M → α → Prop}
    {X : Call → M → E → Prop} (hbody : ∀ c, Obeys δ (allowed c) (Q c) (X c) m (body c))
    {cfg : Config Call Op Res E α σ} (h : Reachable body sem s₀ cfg) {t : Thread Call Op Res E α σ}
    (ht : t ∈ cfg.pool) {front back : List (Record Op Res σ)} {e : Record Op Res σ}
    (hpast : t.past = front ++ e :: back) :
    allowed t.call (front.foldl (fun m e => δ m e.op e.res) m) e.op := by
  obtain ⟨q, hq, -⟩ := h.follows t ht
  exact (hq.obeys (hbody t.call)).1 front e back hpast

/-- The next operation of a live worker is allowed. -/
theorem Reachable.obeys_next {s₀ : σ} {allowed : Call → M → Op → Prop} {Q : Call → M → α → Prop}
    {X : Call → M → E → Prop} (hbody : ∀ c, Obeys δ (allowed c) (Q c) (X c) m (body c))
    {cfg : Config Call Op Res E α σ} (h : Reachable body sem s₀ cfg) {t : Thread Call Op Res E α σ}
    (ht : t ∈ cfg.pool) {op : Op} {next : Res op → Prog Op Res E α}
    (hlive : t.status = .running (.call op next)) : allowed t.call (t.monitor δ m) op := by
  obtain ⟨q, hq, hcur⟩ := h.follows t ht
  have hrest := (hq.obeys (hbody t.call)).2
  rw [← hcur _ hlive] at hrest
  exact hrest.1

/-- What a worker that returned has established by its own past. -/
theorem Reachable.obeys_returned {s₀ : σ} {allowed : Call → M → Op → Prop} {Q : Call → M → α → Prop}
    {X : Call → M → E → Prop} (hbody : ∀ c, Obeys δ (allowed c) (Q c) (X c) m (body c))
    {cfg : Config Call Op Res E α σ} (h : Reachable body sem s₀ cfg) {t : Thread Call Op Res E α σ}
    (ht : t ∈ cfg.pool) {a : α} (hret : t.status = .running (.ret a)) : Q t.call (t.monitor δ m) a := by
  obtain ⟨q, hq, hcur⟩ := h.follows t ht
  have hrest := (hq.obeys (hbody t.call)).2
  rw [← hcur _ hret] at hrest
  exact hrest

/-- What a worker that raised has established by its own past. -/
theorem Reachable.obeys_raised {s₀ : σ} {allowed : Call → M → Op → Prop} {Q : Call → M → α → Prop}
    {X : Call → M → E → Prop} (hbody : ∀ c, Obeys δ (allowed c) (Q c) (X c) m (body c))
    {cfg : Config Call Op Res E α σ} (h : Reachable body sem s₀ cfg) {t : Thread Call Op Res E α σ}
    (ht : t ∈ cfg.pool) {e : E} (hraise : t.status = .running (.raise e)) :
    X t.call (t.monitor δ m) e := by
  obtain ⟨q, hq, hcur⟩ := h.follows t ht
  have hrest := (hq.obeys (hbody t.call)).2
  rw [← hcur _ hraise] at hrest
  exact hrest

/-- **The guarantee of allowed operations.** If every allowed operation keeps the
invariant and moves the state along `G`, then the invariant holds in every run,
and `G` leads from whatever a worker's operation left to the state now. -/
theorem Reachable.allowed_since {s₀ : σ} {allowed : Call → M → Op → Prop} {Q : Call → M → α → Prop}
    {X : Call → M → E → Prop} {I : σ → Prop} {G : σ → σ → Prop} (h0 : I s₀)
    (hbody : ∀ c, Obeys δ (allowed c) (Q c) (X c) m (body c))
    (hstep : ∀ c m s op r s', I s → allowed c m op → sem s op r s' → I s' ∧ G s s')
    {cfg : Config Call Op Res E α σ} (h : Reachable body sem s₀ cfg) :
    I cfg.shared ∧ ∀ t ∈ cfg.pool, ∀ e ∈ t.past,
      I e.before ∧ I e.after ∧ Relation.ReflTransGen G e.after cfg.shared := by
  -- on the run; only a request that its own call allows can have changed the state
  induction h with
  | refl => exact ⟨h0, by simp⟩
  | @tail cfg₁ _ hr hs ih =>
    obtain ⟨hI, hpast⟩ := ih
    cases hs with
    | spawn c =>
      refine ⟨hI, fun t ht e he => ?_⟩
      rcases List.mem_append.mp ht with ht | ht
      · exact hpast t ht e he
      · obtain rfl := List.mem_singleton.mp ht
        simp at he
    | exec i t op next r s' hi hst hsem =>
      have ht := List.mem_of_getElem? hi
      obtain ⟨hI', hG⟩ := hstep _ _ _ _ _ _ hI (Reachable.obeys_next hbody hr ht hst) hsem
      refine ⟨hI', fun u hu e he => ?_⟩
      rcases mem_set_cases hu with rfl | hu
      · rcases List.mem_append.mp he with he | he
        · obtain ⟨hb, ha, hgo⟩ := hpast t ht e he
          exact ⟨hb, ha, hgo.tail hG⟩
        · obtain rfl := List.mem_singleton.mp he
          exact ⟨hI, hI', .refl⟩
      · obtain ⟨hb, ha, hgo⟩ := hpast u hu e he
        exact ⟨hb, ha, hgo.tail hG⟩
    | crash i t hi =>
      refine ⟨hI, fun u hu e he => ?_⟩
      rcases mem_set_cases hu with rfl | hu
      · exact hpast t (List.mem_of_getElem? hi) e he
      · exact hpast u hu e he

/-- Two entries of a list whose entries are pairwise related. -/
theorem apart_of_pairwise {ι : Type} {R : ι → ι → Prop} (hsymm : ∀ x y, R x y → R y x) {l : List ι}
    (hl : l.Pairwise R) {i j : ℕ} {x y : ι} (hi : l[i]? = some x) (hj : l[j]? = some y) (hij : i ≠ j) :
    R x y := by
  obtain ⟨hi', rfl⟩ := List.getElem?_eq_some_iff.mp hi
  obtain ⟨hj', rfl⟩ := List.getElem?_eq_some_iff.mp hj
  rcases Nat.lt_or_gt_of_ne hij with hlt | hlt
  · exact List.pairwise_iff_getElem.mp hl i j hi' hj' hlt
  · exact hsymm _ _ (List.pairwise_iff_getElem.mp hl j i hj' hi' hlt)

/-- Replacing an entry by one that is related to the others. -/
theorem pairwise_set_apart {ι : Type} {R : ι → ι → Prop} (hsymm : ∀ x y, R x y → R y x) {l : List ι}
    (hl : l.Pairwise R) {i : ℕ} {y : ι} (hothers : ∀ j u, l[j]? = some u → i ≠ j → R y u) :
    (l.set i y).Pairwise R := by
  refine List.pairwise_iff_getElem.mpr fun a b ha hb hab => ?_
  rw [List.length_set] at ha hb
  rw [List.getElem_set, List.getElem_set]
  by_cases hia : i = a
  · rw [if_pos hia, if_neg (by omega)]
    exact hothers b _ (List.getElem?_eq_getElem hb) (by omega)
  · by_cases hib : i = b
    · rw [if_neg hia, if_pos hib]
      exact hsymm _ _ (hothers a _ (List.getElem?_eq_getElem ha) hia)
    · rw [if_neg hia, if_neg hib]
      exact List.pairwise_iff_getElem.mp hl a b ha hb hab

/-- **The rule of noninterference.** `K c m s` is what a worker that serves `c`
knows of the state `s` when the monitor has made `m` of its past; `R` keeps the
workers' shares apart. If an allowed operation keeps the invariant and leaves its
worker with knowledge, and disturbs neither the knowledge nor the share of any other
worker, then every worker's knowledge is true, now and before each of its
operations. -/
theorem Reachable.undisturbed {s₀ : σ} {allowed : Call → M → Op → Prop} {Q : Call → M → α → Prop}
    {X : Call → M → E → Prop} {I : σ → Prop} {K : Call → M → σ → Prop}
    {R : Call → M → Call → M → Prop} (h0 : I s₀)
    (hbody : ∀ c, Obeys δ (allowed c) (Q c) (X c) m (body c)) (hstart : ∀ c s, I s → K c m s)
    (hsymm : ∀ c m c' m', R c m c' m' → R c' m' c m) (hfresh : ∀ c c' m', R c' m' c m)
    (hstep : ∀ c m s op r s', I s → K c m s → allowed c m op → sem s op r s' →
      I s' ∧ K c (δ m op r) s')
    (hother : ∀ c m s op r s', I s → K c m s → allowed c m op → sem s op r s' →
      ∀ c' m', K c' m' s → R c m c' m' → K c' m' s' ∧ R c (δ m op r) c' m')
    {cfg : Config Call Op Res E α σ} (h : Reachable body sem s₀ cfg) :
    I cfg.shared ∧
      (∀ t ∈ cfg.pool, K t.call (t.monitor δ m) cfg.shared ∧
        ∀ front e back, t.past = front ++ e :: back →
          I e.before ∧ K t.call (front.foldl (fun m e => δ m e.op e.res) m) e.before ∧
            allowed t.call (front.foldl (fun m e => δ m e.op e.res) m) e.op ∧
            sem e.before e.op e.res e.after) ∧
      cfg.pool.Pairwise fun t u => R t.call (t.monitor δ m) u.call (u.monitor δ m) := by
  induction h with
  | refl => exact ⟨h0, by simp, List.Pairwise.nil⟩
  | @tail cfg₁ _ hr hs ih =>
    obtain ⟨hI, hpool, hapart⟩ := ih
    cases hs with
    | spawn c =>
      refine ⟨hI, fun t ht => ?_, List.pairwise_append.mpr ⟨hapart, List.pairwise_singleton _ _, ?_⟩⟩
      · rcases List.mem_append.mp ht with ht | ht
        · exact hpool t ht
        · obtain rfl := List.mem_singleton.mp ht
          exact ⟨hstart _ _ hI, fun front e back heq => by simp at heq⟩
      · intro t _ u hu
        obtain rfl := List.mem_singleton.mp hu
        exact hfresh _ _ _
    | exec i t op next r s' hi hst hsem =>
      have ht := List.mem_of_getElem? hi
      obtain ⟨hK, hpast⟩ := hpool t ht
      have hallowed := Reachable.obeys_next hbody hr ht hst
      obtain ⟨hI', hK'⟩ := hstep _ _ _ _ _ _ hI hK hallowed hsem
      have hmonitor : Thread.monitor δ m (⟨t.call, t.past ++ [⟨op, r, cfg₁.shared, s'⟩],
          .running (next r)⟩ : Thread Call Op Res E α σ) = δ (t.monitor δ m) op r := by
        simp only [Thread.monitor, List.foldl_append, List.foldl_cons, List.foldl_nil]
      have hothers : ∀ j u, cfg₁.pool[j]? = some u → i ≠ j → K u.call (u.monitor δ m) s' ∧
          R t.call (δ (t.monitor δ m) op r) u.call (u.monitor δ m) := fun j u hj hij =>
        hother _ _ _ _ _ _ hI hK hallowed hsem _ _ (hpool u (List.mem_of_getElem? hj)).1
          (apart_of_pairwise (fun t u => hsymm t.call _ u.call _) hapart hi hj hij)
      refine ⟨hI', fun u hu => ?_, pairwise_set_apart (fun t u => hsymm t.call _ u.call _) hapart
        fun j u hj hij => ?_⟩
      · obtain ⟨j, hj⟩ := List.mem_iff_getElem?.mp hu
        rw [List.getElem?_set] at hj
        split_ifs at hj with hij
        · obtain rfl := Option.some.inj hj
          refine ⟨hmonitor ▸ hK', fun front e back heq => ?_⟩
          -- The new record is the last one.
          rcases List.eq_nil_or_concat back with rfl | ⟨back', last, rfl⟩
          · obtain ⟨rfl, hlast⟩ := List.append_inj' heq rfl
            obtain ⟨rfl, -⟩ := List.cons.inj hlast
            exact ⟨hI, hK, hallowed, hsem⟩
          · have hsplit : t.past ++ [⟨op, r, cfg₁.shared, s'⟩] = (front ++ e :: back') ++ [last] := by
              rw [List.append_assoc, List.cons_append, ← @List.concat_eq_append _ back']
              exact heq
            exact hpast front e back' (List.append_inj_left' hsplit rfl)
        · exact ⟨(hothers j u hj hij).1, (hpool u (List.mem_of_getElem? hj)).2⟩
      · rw [hmonitor]
        exact (hothers j u hj hij).2
    | crash i t hi =>
      refine ⟨hI, fun u hu => ?_, pairwise_set hapart hi (fun _ _ hold => hold) fun _ _ hold => hold⟩
      rcases mem_set_cases hu with rfl | hu
      · exact hpool t (List.mem_of_getElem? hi)
      · exact hpool u hu
/-- What a monitor knows, it has seen. -/
theorem exists_of_foldl {β : Type} {f : M → β → M} {Φ : M → Prop} {Ψ : β → Prop}
    (h : ∀ m b, Φ (f m b) → Φ m ∨ Ψ b) {l : List β} {m : M} (hend : Φ (l.foldl f m)) :
    Φ m ∨ ∃ b ∈ l, Ψ b := by
  induction l generalizing m with
  | nil => exact .inl hend
  | cons b l ih =>
    rcases ih hend with hm | ⟨b', hb', hΨ⟩
    · rcases h m b hm with hm | hΨ
      · exact .inl hm
      · exact .inr ⟨b, List.mem_cons_self, hΨ⟩
    · exact .inr ⟨b', List.mem_cons_of_mem _ hb', hΨ⟩

/-- What a monitor never forgets, it knows once it has seen it. -/
theorem foldl_of_mem {β : Type} {f : M → β → M} {Φ : M → Prop} {Ψ : β → Prop}
    (hkeep : ∀ m b, Φ m → Φ (f m b)) (hset : ∀ m b, Ψ b → Φ (f m b)) {l : List β} {b : β}
    (hb : b ∈ l) (hΨ : Ψ b) (m : M) : Φ (l.foldl f m) := by
  have hkept : ∀ (l : List β) (m : M), Φ m → Φ (l.foldl f m) := by
    intro l
    induction l with
    | nil => exact fun _ hm => hm
    | cons b l ih => exact fun m hm => ih _ (hkeep m b hm)
  obtain ⟨front, back, rfl⟩ := List.append_of_mem hb
  rw [List.foldl_append, List.foldl_cons]
  exact hkept back _ (hset _ _ hΨ)

/-- A program whose monitor tells how many tokens it holds can pay. -/
theorem Obeys.paid {gain cost : (op : Op) → Res op → ℕ} {wallet : M → ℕ}
    (hpay : ∀ m op, allowed m op → ∀ r, cost op r ≤ wallet m + gain op r ∧
      wallet (δ m op r) ≤ wallet m + gain op r - cost op r)
    {p : Prog Op Res E α} (h : Obeys δ allowed Q X m p) : Paid gain cost (wallet m) p := by
  induction p generalizing m with
  | ret a => trivial
  | raise e => trivial
  | call op next ih =>
    intro r
    obtain ⟨hcost, hwallet⟩ := hpay m op h.1 r
    exact ⟨hcost, (ih r (h.2 r)).mono hwallet⟩

end Obeys

variable {β : Type} (log : σ → List β)

/-- What one operation appended to the log. -/
def Record.appended (e : Record Op Res σ) : List β :=
  (log e.after).drop (log e.before).length

/-- What a worker's operations appended to the log. -/
def Thread.appended (t : Thread Call Op Res E α σ) : List β :=
  t.past.flatMap (Record.appended log)

variable {log}

/-- A monitor that collects what each operation contributes. -/
theorem Thread.monitor_append {κ : Type} (f : (op : Op) → Res op → List κ)
    (t : Thread Call Op Res E α σ) :
    t.monitor (fun m op r => m ++ f op r) [] = t.past.flatMap fun e => f e.op e.res := by
  have hfold : ∀ (past : List (Record Op Res σ)) (m : List κ),
      past.foldl (fun m e => m ++ f e.op e.res) m = m ++ past.flatMap fun e => f e.op e.res := by
    intro past
    induction past with
    | nil => simp
    | cons e past ih =>
      intro m
      rw [List.foldl_cons, ih, List.flatMap_cons, List.append_assoc]
  rw [Thread.monitor, hfold, List.nil_append]

/-- If every operation appends what it contributes to the monitor, the worker
has appended what its monitor holds. `ε` forgets what the contribution does not
determine, such as a generated key. -/
theorem Thread.appended_monitor (log : σ → List β) {κ γ : Type} {ε : β → γ} {f : (op : Op) → Res op → List κ}
    {g : κ → List γ} {t : Thread Call Op Res E α σ}
    (h : ∀ e ∈ t.past, (e.appended log).map ε = (f e.op e.res).flatMap g) :
    (t.appended log).map ε = (t.monitor (fun m op r => m ++ f op r) []).flatMap g := by
  rw [Thread.monitor_append, Thread.appended]
  generalize t.past = past at h
  induction past with
  | nil => rfl
  | cons e past ih =>
    rw [List.flatMap_cons, List.map_append, h e (by simp),
      ih fun e' he => h e' (List.mem_cons_of_mem _ he), List.flatMap_cons, List.flatMap_append]

/-- If at most one entry of a log satisfies `p`, at most one source contributed
one. -/
theorem unique_source {ι : Type} {p : β → Bool} {f : ι → List β} {l : List ι}
    (h : (l.flatMap f).countP p ≤ 1) {i j : ℕ} {x y : ι} (hi : l[i]? = some x)
    (hj : l[j]? = some y) (hx : 0 < (f x).countP p) (hy : 0 < (f y).countP p) : i = j := by
  have hmem : ∀ {l : List ι} {i : ℕ} {x : ι}, l[i]? = some x → 0 < (f x).countP p →
      0 < (l.flatMap f).countP p := by
    intro l i x hi hx
    rw [List.countP_pos_iff] at hx ⊢
    obtain ⟨b, hb, hp⟩ := hx
    exact ⟨b, List.mem_flatMap.mpr ⟨x, List.mem_of_getElem? hi, hb⟩, hp⟩
  -- on the list: two places would count the element twice
  induction l generalizing i j with
  | nil => simp at hi
  | cons a l ih =>
    rw [List.flatMap_cons, List.countP_append] at h
    cases i with
    | zero =>
      cases j with
      | zero => rfl
      | succ j =>
        rw [List.getElem?_cons_zero, Option.some.injEq] at hi
        subst hi
        have := hmem (by simpa using hj) hy
        omega
    | succ i =>
      cases j with
      | zero =>
        rw [List.getElem?_cons_zero, Option.some.injEq] at hj
        subst hj
        have := hmem (by simpa using hi) hx
        omega
      | succ j =>
        rw [List.getElem?_cons_succ] at hi hj
        exact congrArg Nat.succ (ih (by omega) hi hj)

/-- Replacing a list entry by one that contributes more. -/
theorem flatMap_set_perm {ι : Type} {f : ι → List β} {l : List ι} {i : ℕ} {x y : ι}
    {new : List β} (hi : l[i]? = some x) (hf : f y = f x ++ new) :
    ((l.set i y).flatMap f).Perm (l.flatMap f ++ new) := by
  induction l generalizing i with
  | nil => simp at hi
  | cons a l ih =>
    cases i with
    | zero =>
      rw [List.getElem?_cons_zero, Option.some.injEq] at hi
      subst hi
      rw [List.set_cons_zero, List.flatMap_cons, List.flatMap_cons, hf, List.append_assoc,
        List.append_assoc]
      exact List.perm_append_comm.append_left _
    | succ i =>
      rw [List.getElem?_cons_succ] at hi
      rw [List.set_cons_succ, List.flatMap_cons, List.flatMap_cons, List.append_assoc]
      exact (ih hi).append_left _

/-- **Append-only logs.** If every operation only appends to a log that starts
empty, then the log of a reachable configuration holds exactly what the workers
appended, each entry once. -/
theorem Reachable.append_only (log : σ → List β) {s₀ : σ} {I : σ → Prop} (h0 : log s₀ = [])
    (hI : ∀ cfg : Config Call Op Res E α σ, Reachable body sem s₀ cfg → I cfg.shared)
    (hlog : ∀ s op r s', I s → sem s op r s' → ∃ new, log s' = log s ++ new)
    {cfg : Config Call Op Res E α σ} (h : Reachable body sem s₀ cfg) :
    (log cfg.shared).Perm (cfg.pool.flatMap (Thread.appended log)) := by
  induction h with
  | refl => simp [h0]
  | @tail cfg₁ _ hr hs ih =>
    have hinv := hI _ hr
    cases hs with
    | spawn c => simpa [Thread.appended] using ih
    | exec i t op next r s' hi hst hsem =>
      -- what the log gains, the thread's own record gains
      obtain ⟨new, hnew⟩ := hlog _ op r s' hinv hsem
      have hthread : Thread.appended log (E := E) (α := α) ⟨t.call, t.past ++ [⟨op, r, cfg₁.shared, s'⟩],
          .running (next r)⟩ = Thread.appended log t ++ new := by
        simp [Thread.appended, Record.appended, hnew]
      refine List.Perm.trans ?_ (flatMap_set_perm hi hthread).symm
      rw [hnew]
      exact ih.append_right new
    | crash i t hi =>
      have hthread : Thread.appended log ({ t with status := .crashed } :
          Thread Call Op Res E α σ) = Thread.appended log t ++ [] := by
        simp [Thread.appended]
      refine List.Perm.trans ?_ (flatMap_set_perm hi hthread).symm
      simpa using ih

end Logs

end Runs

end AppContracts.Interleave
