/-
Two processes joined by two byte pipes.

Each process is a program that reads from one pipe, writes to the other, and asks its
surroundings. A step executes the next operation of one process; a read may find less than
it asked for, any operation may fail, and a write that fails may have written a part. What
a process has received, sent and noted is its `Trace`.

`Reachable.left` and `Reachable.right` say that what holds of a process alone, whatever it
is answered, holds of it in every run; `Reachable.streams` joins the two traces: what one
process has received is a first part of what the other has sent.
-/
import AppContracts.Lib.Solo

set_option autoImplicit false

namespace AppContracts.Pipes

open Interleave

/-! ## Operations -/

/-- What a process does: read up to `limit` elements, write, or ask its surroundings. -/
inductive PipeOp (β Env : Type) : Type
  | read (limit : ℕ)
  | write (data : List β)
  | ask (query : Env)

variable {β Env N : Type} {Ans : Env → Type} {E α γ : Type}

/-- The answer to an operation: what was read, or nothing where the read failed; how much
was written, if the write failed; the answer of the surroundings. -/
def Answer (Ans : Env → Type) : PipeOp β Env → Type
  | .read _ => Option (List β)
  | .write _ => Option ℕ
  | .ask query => Ans query

/-- What an operation takes from the incoming pipe. -/
def received : (op : PipeOp β Env) → Answer Ans op → List β
  | .read _, some data => data
  | .read _, none => []
  | .write _, _ => []
  | .ask _, _ => []

/-- What an operation puts into the outgoing pipe. -/
def sent : (op : PipeOp β Env) → Answer Ans op → List β
  | .read _, _ => []
  | .write data, none => data
  | .write data, some written => data.take written
  | .ask _, _ => []

/-- What an operation adds to the notes. -/
def noted (note : (query : Env) → Ans query → List N) : (op : PipeOp β Env) → Answer Ans op → List N
  | .read _, _ => []
  | .write _, _ => []
  | .ask query, answer => note query answer

/-- A read gives at most what it asks for. -/
def Admissible : (op : PipeOp β Env) → Answer Ans op → Prop
  | .read limit, some data => data.length ≤ limit
  | _, _ => True

/-! ## Traces -/

/-- What a process has received, sent and noted so far. -/
@[ext]
structure Trace (β N : Type) : Type where
  received : List β
  sent : List β
  notes : List N

/-- No operation yet. -/
def Trace.start : Trace β N := ⟨[], [], []⟩

/-- The trace after one more operation. -/
def Trace.after (note : (query : Env) → Ans query → List N) (t : Trace β N) (op : PipeOp β Env)
    (r : Answer Ans op) : Trace β N :=
  ⟨t.received ++ Pipes.received op r, t.sent ++ Pipes.sent op r, t.notes ++ noted note op r⟩

section Trace

variable {note : (query : Env) → Ans query → List N} {t : Trace β N}

/-- Data more. -/
def Trace.receive (t : Trace β N) (data : List β) : Trace β N :=
    { t with received := t.received ++ data }
def Trace.send (t : Trace β N) (data : List β) : Trace β N := { t with sent := t.sent ++ data }
def Trace.keep (t : Trace β N) (notes : List N) : Trace β N := { t with notes := t.notes ++ notes }

@[simp] theorem Trace.receive_nil : t.receive [] = t := by simp [Trace.receive]
@[simp] theorem Trace.send_nil : t.send [] = t := by simp [Trace.send]
@[simp] theorem Trace.keep_nil : t.keep [] = t := by simp [Trace.keep]

theorem Trace.receive_receive (data data' : List β) :
    (t.receive data).receive data' = t.receive (data ++ data') := by
  simp [Trace.receive]

theorem Trace.send_send (data data' : List β) : (t.send data).send data' = t.send (data ++ data') := by
  simp [Trace.send]

theorem Trace.after_read {limit : ℕ} {data : List β} :
    @Trace.after β Env N Ans note t (.read limit) (some data) = t.receive data := by
  simp [Trace.after, Trace.receive, Pipes.received, Pipes.sent, noted]

theorem Trace.after_failed {limit : ℕ} : @Trace.after β Env N Ans note t (.read limit) none = t := by
  simp [Trace.after, Pipes.received, Pipes.sent, noted]

theorem Trace.after_write {data : List β} :
    @Trace.after β Env N Ans note t (.write data) none = t.send data := by
  simp [Trace.after, Trace.send, Pipes.received, Pipes.sent, noted]

theorem Trace.after_ask {query : Env} {answer : Ans query} :
    t.after note (.ask query) answer = t.keep (note query answer) := by
  simp [Trace.after, Trace.keep, Pipes.received, Pipes.sent, noted]

end Trace

/-- A process alone: any admissible answer, and the trace it leads to. -/
def alone (note : (query : Env) → Ans query → List N) :
    Semantics (PipeOp β Env) (Answer Ans) (Trace β N) :=
  fun t op r t' => Admissible op r ∧ t' = t.after note op r

/-- From trace `t`, the process returns with `Q`, whatever it is answered. -/
def Returns (note : (query : Env) → Ans query → List N) (Q : α → Trace β N → Prop)
    (p : Prog (PipeOp β Env) (Answer Ans) E α) (t : Trace β N) : Prop :=
  Solo (alone note) (fun _ _ _ => ()) (fun _ a t => Q a t) (fun _ _ _ => True) () p t

namespace Returns

variable {note : (query : Env) → Ans query → List N} {Q Q' : α → Trace β N → Prop}
  {R : γ → Trace β N → Prop} {p : Prog (PipeOp β Env) (Answer Ans) E α} {t : Trace β N}

theorem mono (h : Returns note Q p t) (hQ : ∀ a t, Q a t → Q' a t) : Returns note Q' p t :=
  Solo.mono h (fun _ a t => hQ a t) (fun _ _ _ => id)

/-- The sequencing rule. -/
theorem bind {f : α → Prog (PipeOp β Env) (Answer Ans) E γ}
    (h : Returns note (fun a t => Returns note R (f a) t) p t) : Returns note R (p.bind f) t :=
  Solo.bind h

theorem raise (e : E) : Returns note Q (.raise e : Prog (PipeOp β Env) (Answer Ans) E α) t := trivial

theorem ret {a : α} (h : Q a t) : Returns note Q (.ret a : Prog (PipeOp β Env) (Answer Ans) E α) t := h

theorem of_ret {a : α} (h : Returns note Q (.ret a : Prog (PipeOp β Env) (Answer Ans) E α) t) :
    Q a t := h

/-- Nothing is claimed of a program's result. -/
theorem any (p : Prog (PipeOp β Env) (Answer Ans) E α) (t : Trace β N) :
    Returns note (fun _ _ => True) p t := by
  induction p generalizing t with
  | ret a => trivial
  | raise e => trivial
  | call op next ih => exact fun r t' _ => ih r t'

/-- A program that ends with an exception returns nothing. -/
theorem never (p : Prog (PipeOp β Env) (Answer Ans) E γ) (e : E) (t : Trace β N) :
    Returns note Q (p.bind fun _ => .raise e) t :=
  bind ((any p t).mono fun _ _ _ => raise e)

/-- A handler that returns nothing. -/
theorem handle {g : E → Prog (PipeOp β Env) (Answer Ans) E α} (h : Returns note Q p t)
    (hg : ∀ e t, Returns note Q (g e) t) : Returns note Q (p.handle g) t :=
  Solo.handle (Solo.mono h (fun _ _ _ => id) fun _ e t _ => hg e t)

theorem lift {x : Except E α} (h : ∀ a, x = .ok a → Q a t) : Returns note Q (Prog.lift x) t := by
  cases x with
  | ok a => exact h a rfl
  | error e => exact raise e

theorem read {limit : ℕ} {next : Answer Ans (.read limit) → Prog (PipeOp β Env) (Answer Ans) E α}
    (hfailed : Returns note Q (next none) t)
    (hdata : ∀ data : List β, data.length ≤ limit →
      Returns note Q (next (some data)) (t.receive data)) :
    Returns note Q (.call (.read limit) next) t := by
  rintro r t' ⟨hr, rfl⟩
  cases r with
  | none =>
    rw [Trace.after_failed]
    exact hfailed
  | some data =>
    rw [Trace.after_read]
    exact hdata data hr

/-- A write; where it fails, nothing is returned. -/
theorem write {data : List β}
    {next : Answer Ans (.write data) → Prog (PipeOp β Env) (Answer Ans) E α}
    (hfailed : ∀ (n : ℕ) t, Returns note Q (next (some n)) t)
    (hsent : Returns note Q (next none) (t.send data)) :
    Returns note Q (.call (.write data) next) t := by
  rintro r t' ⟨-, rfl⟩
  cases r with
  | none =>
    rw [Trace.after_write]
    exact hsent
  | some n => exact hfailed n _

theorem ask {query : Env} {next : Answer Ans (.ask query) → Prog (PipeOp β Env) (Answer Ans) E α}
    (h : ∀ answer : Ans query, Returns note Q (next answer) (t.keep (note query answer))) :
    Returns note Q (.call (.ask query) next) t := by
  rintro r t' ⟨-, rfl⟩
  have hafter : t.after note (.ask query) r = t.keep (note query r) := Trace.after_ask
  rw [hafter]
  exact h r

/-- A pure step of a sequence. -/
theorem lift_bind {x : Except E α} {f : α → Prog (PipeOp β Env) (Answer Ans) E γ}
    (h : ∀ a, x = .ok a → Returns note R (f a) t) : Returns note R ((Prog.lift x).bind f) t :=
  Solo.lift_bind (fun _ _ => trivial) h

end Returns

/-! ## The system -/

/-- A process: what is left of its program, and its trace. -/
structure Process (β Env : Type) (Ans : Env → Type) (N E α : Type) : Type where
  program : Prog (PipeOp β Env) (Answer Ans) E α
  trace : Trace β N

/-- Both processes, and what is on the way in each direction. -/
structure Duplex (β Env : Type) (Ans : Env → Type) (N E α γ : Type) : Type where
  left : Process β Env Ans N E α
  right : Process β Env Ans N E γ
  rightward : List β
  leftward : List β

/-- Nothing done yet. -/
def Duplex.start (p : Prog (PipeOp β Env) (Answer Ans) E α) (q : Prog (PipeOp β Env) (Answer Ans) E γ) :
    Duplex β Env Ans N E α γ := ⟨⟨p, .start⟩, ⟨q, .start⟩, [], []⟩

section Steps

variable (note : (query : Env) → Ans query → List N)
  (truth : N → Prog (PipeOp β Env) (Answer Ans) E γ → Prop)

/-- One step of one process. What the left process notes is true of the right one. -/
inductive Step : Duplex β Env Ans N E α γ → Duplex β Env Ans N E α γ → Prop
  | left (t : Trace β N) (right : Process β Env Ans N E γ) (op : PipeOp β Env)
      (next : Answer Ans op → Prog (PipeOp β Env) (Answer Ans) E α) (r : Answer Ans op)
      (rightward leftward : List β) (hr : Admissible op r)
      (htrue : ∀ n ∈ noted note op r, truth n right.program) :
      Step ⟨⟨.call op next, t⟩, right, rightward, received op r ++ leftward⟩
        ⟨⟨next r, t.after note op r⟩, right, rightward ++ sent op r, leftward⟩
  | right (left : Process β Env Ans N E α) (t : Trace β N) (op : PipeOp β Env)
      (next : Answer Ans op → Prog (PipeOp β Env) (Answer Ans) E γ) (r : Answer Ans op)
      (rightward leftward : List β) (hr : Admissible op r) :
      Step ⟨left, ⟨.call op next, t⟩, received op r ++ rightward, leftward⟩
        ⟨left, ⟨next r, t.after note op r⟩, rightward, leftward ++ sent op r⟩

/-- What a run of both processes reaches. -/
def Reachable (p : Prog (PipeOp β Env) (Answer Ans) E α) (q : Prog (PipeOp β Env) (Answer Ans) E γ)
    (s : Duplex β Env Ans N E α γ) : Prop :=
  Relation.ReflTransGen (Step note truth) (.start p q) s

variable {note truth} {p : Prog (PipeOp β Env) (Answer Ans) E α}
  {q : Prog (PipeOp β Env) (Answer Ans) E γ} {s : Duplex β Env Ans N E α γ}

/-- **What holds of the left process alone holds of it in every run.** -/
theorem Reachable.left {Q : α → Trace β N → Prop} (h : Reachable note truth p q s)
    (hp : Returns note Q p .start) : Returns note Q s.left.program s.left.trace := by
  induction h with
  | refl => exact hp
  | tail _ hstep ih =>
    cases hstep with
    | left t right op next r rightward leftward hr _ => exact ih r _ ⟨hr, rfl⟩
    | right left t op next r rightward leftward hr => exact ih

theorem Reachable.right {Q : γ → Trace β N → Prop} (h : Reachable note truth p q s)
    (hq : Returns note Q q .start) : Returns note Q s.right.program s.right.trace := by
  induction h with
  | refl => exact hq
  | tail _ hstep ih =>
    cases hstep with
    | left t right op next r rightward leftward hr _ => exact ih
    | right left t op next r rightward leftward hr => exact ih r _ ⟨hr, rfl⟩

/-- **The traces are joined**: what is sent is received, in its order, or on the way. -/
theorem Reachable.streams (h : Reachable note truth p q s) :
    s.left.trace.sent = s.right.trace.received ++ s.rightward ∧
      s.right.trace.sent = s.left.trace.received ++ s.leftward := by
  induction h with
  | refl => exact ⟨rfl, rfl⟩
  | tail _ hstep ih =>
    cases hstep with
    | left t right op next r rightward leftward hr _ =>
      refine ⟨?_, ?_⟩
      · show t.sent ++ sent op r = right.trace.received ++ (rightward ++ sent op r)
        rw [← List.append_assoc]
        exact congrArg (· ++ sent op r) ih.1
      · show right.trace.sent = t.received ++ received op r ++ leftward
        rw [List.append_assoc]
        exact ih.2
    | right left t op next r rightward leftward hr =>
      refine ⟨?_, ?_⟩
      · show left.trace.sent = t.received ++ received op r ++ rightward
        rw [List.append_assoc]
        exact ih.1
      · show t.sent ++ sent op r = left.trace.received ++ (leftward ++ sent op r)
        rw [← List.append_assoc]
        exact congrArg (· ++ sent op r) ih.2

/-- What the left process has noted stays true of the right one. -/
theorem Reachable.noted_true (h : Reachable note truth p q s)
    (hstable : ∀ n op next r, truth n (.call op next) → truth n (next r)) :
    ∀ n ∈ s.left.trace.notes, truth n s.right.program := by
  induction h with
  | refl =>
    intro n hn
    cases hn
  | tail _ hstep ih =>
    cases hstep with
    | left t right op next r rightward leftward hr htrue =>
      intro n hn
      rcases List.mem_append.mp hn with hn | hn
      · exact ih n hn
      · exact htrue n hn
    | right left t op next r rightward leftward hr =>
      exact fun n hn => hstable n op next r (ih n hn)

end Steps

-- What a program returns is read off with the rules above, never by running it.
attribute [irreducible] Returns

/-! ## Undisturbed runs -/

/-- What a process receives, sends and notes in one turn, after which it waits. -/
@[ext]
structure Turn (β N : Type) : Type where
  received : List β
  sent : List β
  notes : List N

/-- Nothing. -/
def Turn.empty : Turn β N := ⟨[], [], []⟩

/-- One turn after the other, without a wait. -/
def Turn.append (x y : Turn β N) : Turn β N :=
  ⟨x.received ++ y.received, x.sent ++ y.sent, x.notes ++ y.notes⟩

/-- What one operation receives, sends and notes. -/
def Turn.of (note : (query : Env) → Ans query → List N) (op : PipeOp β Env) (r : Answer Ans op) :
    Turn β N :=
  ⟨Pipes.received op r, Pipes.sent op r, noted note op r⟩

theorem Turn.empty_append (x : Turn β N) : Turn.empty.append x = x := rfl

theorem Turn.append_empty (x : Turn β N) : x.append Turn.empty = x := by
  simp [Turn.append, Turn.empty]

theorem Turn.append_assoc (x y z : Turn β N) : (x.append y).append z = x.append (y.append z) := by
  simp [Turn.append]

section Plays

variable (note : (query : Env) → Ans query → List N)

/-- Answered suitably, the program returns `a` after these turns. -/
inductive Plays : Prog (PipeOp β Env) (Answer Ans) E α → List (Turn β N) → α → Prop
  | ret (a : α) : Plays (.ret a) [] a
  | wait {p : Prog (PipeOp β Env) (Answer Ans) E α} {turns : List (Turn β N)} {a : α}
    (h : Plays p turns a) :
      Plays p (.empty :: turns) a
  | call {op : PipeOp β Env} {next : Answer Ans op → Prog (PipeOp β Env) (Answer Ans) E α}
    (r : Answer Ans op)
      {x : Turn β N} {turns : List (Turn β N)} {a : α} (hr : Admissible op r)
        (h : Plays (next r) (x :: turns) a) :
      Plays (.call op next) ((Turn.of note op r).append x :: turns) a

namespace Plays

variable {note} {p : Prog (PipeOp β Env) (Answer Ans) E α}
    {f : α → Prog (PipeOp β Env) (Answer Ans) E γ}
  {x y : Turn β N} {turns turns' : List (Turn β N)} {a : α} {b : γ}

/-- The sequencing rule, with a wait between both parts. -/
theorem bind (h : Plays note p turns a) (hf : Plays note (f a) turns' b) :
    Plays note (p.bind f) (turns ++ turns') b := by
  induction h with
  | ret a => exact hf
  | wait _ ih => exact .wait (ih hf)
  | call r hr _ ih => exact .call r hr (ih hf)

/-- A process that could have waited need not. -/
theorem join {more : List (Turn β N)} (h : Plays note p (turns ++ x :: y :: more) a) :
    Plays note p (turns ++ x.append y :: more) a := by
  generalize hall : turns ++ x :: y :: more = all at h
  induction h generalizing turns x with
  | ret a => simp at hall
  | wait h ih =>
    cases turns with
    | nil =>
      obtain ⟨rfl, rfl⟩ := List.cons.inj hall
      exact h
    | cons z turns =>
      obtain ⟨rfl, htail⟩ := List.cons.inj hall
      exact .wait (ih htail)
  | call r hr h ih =>
    cases turns with
    | nil =>
      obtain ⟨rfl, rfl⟩ := List.cons.inj hall
      rw [List.nil_append, Turn.append_assoc]
      exact .call r hr (@ih _ [] rfl)
    | cons z turns =>
      obtain ⟨rfl, rfl⟩ := List.cons.inj hall
      exact .call r hr (@ih _ (_ :: turns) rfl)

/-- The sequencing rules: the second part starts in the last turn of the first. -/
theorem seq_one (h : Plays note p [x] a) (hf : Plays note (f a) (y :: turns') b) :
    Plays note (p.bind f) (x.append y :: turns') b := by
  have hboth : Plays note (p.bind f) ([] ++ x :: y :: turns') b := h.bind hf
  exact join hboth

theorem seq_two {z : Turn β N} (h : Plays note p [z, x] a) (hf : Plays note (f a) (y :: turns') b) :
    Plays note (p.bind f) (z :: x.append y :: turns') b := by
  have hboth : Plays note (p.bind f) ([z] ++ x :: y :: turns') b := h.bind hf
  exact join hboth

/-- A second part that receives, sends and notes nothing. -/
theorem seq_silent (hne : turns ≠ []) (h : Plays note p turns a) (hf : Plays note (f a) [.empty] b) :
    Plays note (p.bind f) turns b := by
  obtain ⟨init, x, rfl⟩ := List.eq_nil_or_concat' turns |>.resolve_left hne
  have hboth := h.bind hf
  rw [List.append_assoc] at hboth
  have hjoin := join hboth
  rwa [Turn.append_empty] at hjoin

/-- The turns, written in another way. -/
theorem of_eq (h : Plays note p turns a) (hturns : turns = turns') : Plays note p turns' a := hturns ▸ h

/-- An answered program raises nothing, so that its handler is not used. -/
theorem handle {g : E → Prog (PipeOp β Env) (Answer Ans) E α} (h : Plays note p turns a) :
    Plays note (p.handle g) turns a := by
  induction h with
  | ret a => exact .ret a
  | wait _ ih => exact .wait ih
  | call r hr _ ih => exact .call r hr ih

theorem lift {q : Except E α} (h : q = .ok a) :
    Plays note (Prog.lift q : Prog (PipeOp β Env) (Answer Ans) E α) [.empty] a := by
  rw [h]
  exact .wait (.ret a)

/-- A pure step of a sequence. -/
theorem lift_bind {q : Except E α} (h : q = .ok a) (hf : Plays note (f a) turns b) :
    Plays note ((Prog.lift q).bind f) turns b := by
  rw [h]
  exact hf

theorem read {limit : ℕ} {next : Answer Ans (.read limit) → Prog (PipeOp β Env) (Answer Ans) E α}
    {data : List β} (hlimit : data.length ≤ limit)
    (h : Plays note (next (some data)) (x :: turns) a) :
    Plays note (.call (.read limit) next) (⟨data ++ x.received, x.sent, x.notes⟩ :: turns) a :=
  @Plays.call β Env N Ans E α note (.read limit) next (some data) x turns a hlimit h

theorem write {data : List β} {next : Answer Ans (.write data) → Prog (PipeOp β Env) (Answer Ans) E α}
    (h : Plays note (next none) (x :: turns) a) :
    Plays note (.call (.write data) next) (⟨x.received, data ++ x.sent, x.notes⟩ :: turns) a :=
  @Plays.call β Env N Ans E α note (.write data) next none x turns a trivial h

theorem ask {query : Env} {next : Answer Ans (.ask query) → Prog (PipeOp β Env) (Answer Ans) E α}
    (answer : Ans query) (h : Plays note (next answer) (x :: turns) a) :
    Plays note (.call (.ask query) next)
      (⟨x.received, x.sent, note query answer ++ x.notes⟩ :: turns) a :=
  @Plays.call β Env N Ans E α note (.ask query) next answer x turns a trivial h

/-- What has no turns left has returned. -/
theorem of_nil (h : Plays note p [] a) : p = .ret a := by
  cases h
  rfl

end Plays

variable {note} {truth : N → Prog (PipeOp β Env) (Answer Ans) E γ → Prop}
    {p : Prog (PipeOp β Env) (Answer Ans) E α}
  {q : Prog (PipeOp β Env) (Answer Ans) E γ} {s : Duplex β Env Ans N E α γ} {x : Turn β N}
  {turns : List (Turn β N)}

/-- The left process plays a turn. -/
theorem Reachable.play_left {a : α} (h : Reachable note truth p q s)
    (hplays : Plays note s.left.program (x :: turns) a) (hincoming : s.leftward = x.received)
    (htrue : ∀ n ∈ x.notes, truth n s.right.program) :
    ∃ s', Reachable note truth p q s' ∧ Plays note s'.left.program turns a ∧ s'.leftward = [] ∧
      s'.right = s.right ∧ s'.rightward = s.rightward ++ x.sent ∧
      s'.left.trace.notes = s.left.trace.notes ++ x.notes := by
  generalize hprogram : s.left.program = program at hplays
  generalize hall : x :: turns = all at hplays
  induction hplays generalizing s x with
  | ret a => cases hall
  | wait hplays ih =>
    obtain ⟨rfl, rfl⟩ := List.cons.inj hall
    subst hprogram
    exact ⟨s, h, hplays, hincoming, rfl, (List.append_nil _).symm, (List.append_nil _).symm⟩
  -- one exchange of the left side; the right side does not move and its notes stay true
  | @call op next r y turns' a hr hplays ih =>
    obtain ⟨rfl, rfl⟩ := List.cons.inj hall
    obtain ⟨⟨program, t⟩, right, rightward, leftward⟩ := s
    obtain rfl : program = .call op next := hprogram
    obtain rfl : leftward = received op r ++ y.received := hincoming
    have hstep : Reachable note truth p q
        ⟨⟨next r, t.after note op r⟩, right, rightward ++ sent op r, y.received⟩ :=
      h.tail (.left t right op next r rightward _ hr fun n hn => htrue n (List.mem_append_left _ hn))
    obtain ⟨s', hreach, hplays', hrest, hright, hsent, hnotes⟩ :=
      ih hstep rfl (fun n hn => htrue n (List.mem_append_right _ hn)) rfl rfl
    refine ⟨s', hreach, hplays', hrest, hright, ?_, ?_⟩
    · rw [hsent, List.append_assoc]
      rfl
    · rw [hnotes]
      exact List.append_assoc _ _ _

/-- The right process plays a turn. -/
theorem Reachable.play_right {b : γ} (h : Reachable note truth p q s)
    (hplays : Plays note s.right.program (x :: turns) b) (hincoming : s.rightward = x.received) :
    ∃ s', Reachable note truth p q s' ∧ Plays note s'.right.program turns b ∧ s'.rightward = [] ∧
      s'.left = s.left ∧ s'.leftward = s.leftward ++ x.sent := by
  generalize hprogram : s.right.program = program at hplays
  generalize hall : x :: turns = all at hplays
  induction hplays generalizing s x with
  | ret a => cases hall
  | wait hplays ih =>
    obtain ⟨rfl, rfl⟩ := List.cons.inj hall
    subst hprogram
    exact ⟨s, h, hplays, hincoming, rfl, (List.append_nil _).symm⟩
  | @call op next r y turns' b hr hplays ih =>
    obtain ⟨rfl, rfl⟩ := List.cons.inj hall
    obtain ⟨left, ⟨program, t⟩, rightward, leftward⟩ := s
    obtain rfl : program = .call op next := hprogram
    obtain rfl : rightward = received op r ++ y.received := hincoming
    have hstep : Reachable note truth p q
        ⟨left, ⟨next r, t.after note op r⟩, y.received, leftward ++ sent op r⟩ :=
      h.tail (.right left t op next r _ leftward hr)
    obtain ⟨s', hreach, hplays', hrest, hleft, hsent⟩ := ih hstep rfl rfl rfl
    refine ⟨s', hreach, hplays', hrest, hleft, ?_⟩
    rw [hsent, List.append_assoc]
    rfl

end Plays

end AppContracts.Pipes
