/-
Triples for programs that change a state and may raise.

A program runs from a state to a result and a state; a raised exception keeps the
state reached. `Triple P m Q E` says that from a state with `P` the program `m`
returns with `Q` or raises with `E`. The rules follow the program text.

`Counted` adds a count of the calls of one chosen program, so that a statement
can say whether it ran.
-/
import Mathlib.Data.Nat.Notation

set_option autoImplicit false

namespace AppContracts.Stateful

/-- A program over a state `σ` that may raise an `ε`. -/
abbrev Prog (ε σ α : Type) : Type := ExceptT ε (StateM σ) α

variable {ε σ α β : Type}

/-- Runs a program from a state. -/
def Prog.exec (m : Prog ε σ α) (s : σ) : Except ε α × σ := (ExceptT.run m).run s

/-- From `P`, the program returns with `Q` or raises with `E`. -/
def Triple (P : σ → Prop) (m : Prog ε σ α) (Q : α → σ → Prop) (E : ε → σ → Prop) : Prop :=
  ∀ s, P s → match m.exec s with
    | (.ok a, t) => Q a t
    | (.error e, t) => E e t

@[simp] theorem Prog.exec_pure (a : α) (s : σ) : Prog.exec (pure a : Prog ε σ α) s = (.ok a, s) := rfl

@[simp] theorem Prog.exec_throw (e : ε) (s : σ) :
    Prog.exec (throw e : Prog ε σ α) s = (.error e, s) := rfl

@[simp] theorem Prog.exec_get (s : σ) : Prog.exec (get : Prog ε σ σ) s = (.ok s, s) := rfl

@[simp] theorem Prog.exec_set (s' s : σ) : Prog.exec (set s' : Prog ε σ PUnit) s = (.ok ⟨⟩, s') := rfl

@[simp] theorem Prog.exec_lift (x : Except ε α) (s : σ) :
    Prog.exec (liftM x : Prog ε σ α) s = (x, s) := by cases x <;> rfl

/-- A sequence runs its second part from where the first one returned. -/
theorem Prog.exec_bind (m : Prog ε σ α) (f : α → Prog ε σ β) (s : σ) :
    Prog.exec (m >>= f) s = match m.exec s with
      | (.ok a, t) => (f a).exec t
      | (.error e, t) => (.error e, t) := by
  unfold exec
  rw [ExceptT.run_bind]
  simp only [StateT.run_bind]
  generalize hrun : (ExceptT.run m).run s = r
  obtain ⟨x, t⟩ := r
  cases x <;> rfl

/-- A sequence that returns has run both its parts. -/
theorem Prog.exec_bind_ok {m : Prog ε σ α} {f : α → Prog ε σ β} {s t : σ} {b : β} :
    Prog.exec (m >>= f) s = (.ok b, t) ↔ ∃ a u, m.exec s = (.ok a, u) ∧ (f a).exec u = (.ok b, t) := by
  rw [Prog.exec_bind]
  rcases m.exec s with ⟨e | a, u⟩
  · simp
  · simp only [Prod.mk.injEq, Except.ok.injEq]
    exact ⟨fun h => ⟨a, u, ⟨rfl, rfl⟩, h⟩, fun ⟨_, _, ⟨ha, hu⟩, h⟩ => ha ▸ hu ▸ h⟩

theorem Prog.exec_catch (m : Prog ε σ α) (handler : ε → Prog ε σ α) (s : σ) :
    Prog.exec (tryCatch m handler) s = match m.exec s with
      | (.ok a, t) => (.ok a, t)
      | (.error e, t) => (handler e).exec t := by
  unfold exec
  rw [ExceptT.run_tryCatch]
  simp only [StateT.run_bind]
  generalize hrun : (ExceptT.run m).run s = r
  obtain ⟨x, t⟩ := r
  cases x <;> rfl

/-- The program a state transformer is. -/
def Prog.of (f : σ → Except ε α × σ) : Prog ε σ α := ExceptT.mk f

@[simp] theorem Prog.exec_of (f : σ → Except ε α × σ) (s : σ) : (Prog.of f).exec s = f s := rfl

/-- Programs that run alike are the same. -/
theorem Prog.ext {m n : Prog ε σ α} (h : ∀ s, m.exec s = n.exec s) : m = n := funext h

/-! ## Counting calls -/

/-- A state with the number of calls made so far. -/
structure Counted (σ : Type) : Type where
  state : σ
  calls : ℕ

/-- A program that is not counted. -/
def Prog.silent (m : Prog ε σ α) : Prog ε (Counted σ) α :=
  .of fun s => ((m.exec s.state).1, { s with state := (m.exec s.state).2 })

/-- The counted program. -/
def Prog.counted (m : Prog ε σ α) : Prog ε (Counted σ) α :=
  .of fun s => ((m.exec s.state).1, ⟨(m.exec s.state).2, s.calls + 1⟩)

@[simp] theorem Prog.exec_silent (m : Prog ε σ α) (s : Counted σ) :
    m.silent.exec s = ((m.exec s.state).1, { s with state := (m.exec s.state).2 }) := rfl

@[simp] theorem Prog.exec_counted (m : Prog ε σ α) (s : Counted σ) :
    m.counted.exec s = ((m.exec s.state).1, ⟨(m.exec s.state).2, s.calls + 1⟩) := rfl

namespace Triple

variable {P P' : σ → Prop} {Q Q' : α → σ → Prop} {R : β → σ → Prop} {E E' : ε → σ → Prop}

theorem returns {a : α} (h : ∀ s, P s → Q a s) : Triple P (pure a : Prog ε σ α) Q E := h

theorem raises {e : ε} (h : ∀ s, P s → E e s) : Triple P (throw e : Prog ε σ α) Q E := h

/-- A computation that reads no state. -/
theorem lift {x : Except ε α} (hok : ∀ a, x = .ok a → ∀ s, P s → Q a s)
    (herr : ∀ e, x = .error e → ∀ s, P s → E e s) : Triple P (liftM x : Prog ε σ α) Q E := by
  intro s hs
  cases x with
  | ok a => exact hok a rfl s hs
  | error e => exact herr e rfl s hs

theorem reads {Q : σ → σ → Prop} (h : ∀ s, P s → Q s s) :
    Triple P (get : Prog ε σ σ) Q E := h

theorem writes {f : σ → σ} {Q : Unit → σ → Prop} (h : ∀ s, P s → Q () (f s)) :
    Triple P (modify f : Prog ε σ Unit) Q E := h

theorem bind {m : Prog ε σ α} {f : α → Prog ε σ β} (hm : Triple P m Q E)
    (hf : ∀ a, Triple (Q a) (f a) R E) : Triple P (m >>= f) R E := by
  intro s hs
  have hms := hm s hs
  rw [Prog.exec_bind]
  generalize m.exec s = r at hms
  obtain ⟨x, t⟩ := r
  cases x with
  | ok a => exact hf a t hms
  | error e => exact hms

theorem catches {m : Prog ε σ α} {handler : ε → Prog ε σ α} (hm : Triple P m Q E)
    (hh : ∀ e, Triple (E e) (handler e) Q E') : Triple P (tryCatch m handler) Q E' := by
  intro s hs
  have hms := hm s hs
  rw [Prog.exec_catch]
  generalize m.exec s = r at hms
  obtain ⟨x, t⟩ := r
  cases x with
  | ok a => exact hms
  | error e => exact hh e t hms

theorem mono {m : Prog ε σ α} (h : Triple P m Q E) (hP : ∀ s, P' s → P s)
    (hQ : ∀ a s, Q a s → Q' a s) (hE : ∀ e s, E e s → E' e s) : Triple P' m Q' E' := by
  intro s hs
  have hms := h s (hP s hs)
  generalize m.exec s = r at hms
  obtain ⟨x, t⟩ := r
  cases x with
  | ok a => exact hQ a t hms
  | error e => exact hE e t hms

/-- A fact that does not depend on the state is a premise. -/
theorem given {p : Prop} {m : Prog ε σ α} (h : p → Triple P m Q E) :
    Triple (fun s => p ∧ P s) m Q E := fun s hs => h hs.1 s hs.2

end Triple

end AppContracts.Stateful
