/-
Replay output is all or nothing, whatever runs beside a replay.

A run interleaves any number of replays and of other processes that create entries under
given names, one step at a time; each may stop anywhere, which is a crash.

`run_knows` is by induction over the run. A step keeps the knowledge of its own replay
(`step_knows`) and leaves alone that of the others (`step_changes`), for which no two
replays may have one temporary file; the induction carries this too, since a drawn inode
is new. So in every state of every run each replay is right about its own file, and the
promises are read off what it knows when it returns (`Returned`) or raises (`Ended`).
They speak of the steps and answers of the past, not of what a replay has noted: `Traced`
connects the two, by induction over the past.

One answer breaks the promise: the output is linked before the final event is written,
and a cursor that is no integer makes the replay raise after its commit.
-/
import AppContracts.StagedReplaySteps

set_option autoImplicit false

namespace AppContracts.StagedReplay

open Interleave Validator
open ObservationStore (item)

/-! ## Runs -/

/-- What a call does. -/
def serve (render : StagedArtifact → Except Exn Json) (profile_digest : String) (c : Call) :
    Program (Option Json) :=
  match c with
  | .replay a => do
    let evidence ← replay_staged_candidate render profile_digest a
    return some evidence
  | .foreign entry foreign => do
    attempt (Prog.perform (Op.create entry foreign))
    return none

/-- A replay or another process, in a run. -/
abbrev Worker : Type := Thread Call Op Op.Res Exn (Option Json) Disk

/-- The states that replays and other processes can reach, one step at a time; each may stop
anywhere. -/
def Run (render : StagedArtifact → Except Exn Json) (profile_digest : String) (s : Disk)
    (cfg : Config Call Op Op.Res Exn (Option Json) Disk) : Prop :=
  Reachable (serve render profile_digest) Sem s cfg

theorem serve_keeps (render : StagedArtifact → Except Exn Json) (profile_digest : String) (c : Call) :
    Keeps c (fun m evidence => evidence.isSome = true → ∃ candidate n entry, c.output = some entry ∧
        Returned render candidate n entry m) Ended Seen.start (serve render profile_digest c) := by
  cases c with
  | replay a =>
    refine Obeys.bind ((replay_keeps profile_digest a).mono ?_ fun _ _ hm => hm)
    exact fun m evidence hm _ => hm
  | foreign entry foreign =>
    have hended : ∀ answer, Ended (Seen.start.step (.create entry foreign) answer) :=
      fun answer => .inr (.inr ⟨rfl, rfl, rfl⟩)
    refine Obeys.bind (keeps_attempt ⟨rfl, fun answer => ⟨fun u hu => ?_, fun e he => hended answer⟩⟩)
    intro hsome
    cases hsome

/-- What a worker has done. -/
def seen (t : Worker) : Seen := t.monitor Seen.step Seen.start

theorem knows_start (c : Call) (s : Disk) : Knows c Seen.start s where
  misled := rfl
  links := fun _ hentry => by cases hentry
  idle := fun _ => ⟨rfl, rfl⟩
  fresh := fun _ hn => by cases hn
  here := fun _ hn => by cases hn
  sides := fun _ hn => by cases hn
  source := fun _ hentry => by cases hentry
  verified := fun _ _ hn => by cases hn
  read_back := fun _ _ hn => by cases hn

/-- **Every replay's knowledge is true**, whatever the others do, and replays have files of
their own. -/
theorem run_knows {render : StagedArtifact → Except Exn Json} {profile_digest : String} {s : Disk}
    {cfg : Config Call Op Op.Res Exn (Option Json) Disk} (hwf : s.Wf)
    (h : Run render profile_digest s cfg) :
    cfg.shared.Wf ∧
      (∀ t ∈ cfg.pool, Knows t.call (seen t) cfg.shared ∧ ∀ front e back, t.past = front ++ e :: back →
        e.before.Wf ∧ Knows t.call (front.foldl (fun m e => m.step e.op e.res) Seen.start) e.before ∧
          allowed t.call (front.foldl (fun m e => m.step e.op e.res) Seen.start) e.op ∧
          Sem e.before e.op e.res e.after) ∧
      cfg.pool.Pairwise fun t u => ∀ n, (seen t).temporary = some n → (seen u).temporary ≠ some n := by
  -- two threads stand apart as long as their temporary files differ
  refine Reachable.undisturbed (I := Disk.Wf) (K := Knows)
    (R := fun _ m _ m' => ∀ n, m.temporary = some n → m'.temporary ≠ some n) hwf
    (serve_keeps render profile_digest) ?_ ?_ ?_ ?_ ?_ h
  · exact fun c s _ => knows_start c s
  · exact fun c m c' m' hapart n hn hn' => hapart n hn' hn
  · exact fun c c' m' n _ hn => by cases hn
  · intro c m s op r s' hwf hknows hallowed hsem
    have hchanges := step_changes hwf hknows hallowed hsem
    exact ⟨hwf.changes hchanges fun n hn => step_fresh hknows hsem hchanges.next hn,
      step_knows hwf hknows hallowed hsem⟩
  · intro c m s op r s' hwf hknows hallowed hsem c' m' hknows' hapart
    have hchanges := step_changes hwf hknows hallowed hsem
    have hapart' : ∀ n, (m.step op r).temporary = some n → m'.temporary ≠ some n := by
      intro n hn
      -- only `mkstemp` gives a thread a new temporary file, and it is one that nobody has
      by_cases hop : op = .mkstemp
      · subst hop
        cases hsem with
        | mkstemp =>
          obtain rfl := Option.some.inj hn
          exact fun hn' => absurd (hknows'.fresh _ hn') (lt_irrefl _)
        | mkstemp_failed => exact hapart n hn
      · rw [Seen.step_temporary r hop] at hn
        exact hapart n hn
    exact ⟨hknows'.changes hchanges fun n hn hn' => hapart' n hn' hn, hapart'⟩

/-! ## All or nothing -/

/-- A step and its answer. -/
abbrev Event : Type := Σ op : Op, op.Res

/-- The steps and their answers. -/
def events (past : List (Record Op Op.Res Disk)) : List Event := past.map fun e => ⟨e.op, e.res⟩

/-- The inode of a temporary file that was drawn. -/
def drawn? (event : Event) : Option ℕ :=
  match event with
  | ⟨.mkstemp, .ok n⟩ => some n
  | _ => none

/-- The temporary file of a replay. -/
def temporary_of (past : List (Record Op Op.Res Disk)) : Option ℕ := (events past).findSome? drawn?

/-- What a replay that returned has committed: its verification passed, and the file held
these rows when it was verified, before it was linked, and when it was read back, after. -/
structure Commit (render : StagedArtifact → Except Exn Json) (past : List Event) (n : ℕ)
    (entry : String) (rows : Database) : Prop where
  verified : ∃ candidate result preview, ⟨.execute n, .ok result⟩ ∈ past ∧ result.verified = true ∧
    Verified render candidate result preview rows ∧ ReadBack render result preview rows
  linked : ∃ front back, past = front ++ ⟨.link n entry, .ok ()⟩ :: back ∧
    ⟨.select n, .ok rows⟩ ∈ front ∧ ⟨.select n, .ok rows⟩ ∈ back

/-- What replays promise of a directory. -/
structure AllOrNothing (render : StagedArtifact → Except Exn Json)
    (cfg : Config Call Op Op.Res Exn (Option Json) Disk) : Prop where
  /-- A replay that raised has left no name of its file, and no file beside it. -/
  raised : ∀ t ∈ cfg.pool, ∀ e n, t.status = .running (.raise e) → temporary_of t.past = some n →
    (∀ name, cfg.shared.entries name ≠ some (.file n)) ∧
      ∀ suffix, cfg.shared.entries (.side n suffix) = none
  /-- The output of a replay that returned is its file, as it was verified and read back. -/
  returned : ∀ t ∈ cfg.pool, ∀ evidence, t.status = .running (.ret (some evidence)) →
    ∃ n entry, temporary_of t.past = some n ∧ t.call.output = some entry ∧
      (∀ name, cfg.shared.entries name = some (.file n) ↔ name = .given entry) ∧
      (∀ suffix, cfg.shared.entries (.side n suffix) = none) ∧
      Commit render (events t.past) n entry (cfg.shared.contents n)
  /-- Two replays that returned have two outputs. -/
  once : cfg.pool.Pairwise fun t u => ∀ evidence evidence', t.status = .running (.ret (some evidence)) →
    u.status = .running (.ret (some evidence')) → t.call.output ≠ u.call.output
  /-- No step overwrites or removes an entry that is not the replay's own. -/
  kept : ∀ t ∈ cfg.pool, ∀ front e back, t.past = front ++ e :: back → ∀ name entry,
    e.before.entries name = some entry → e.after.entries name = some entry ∨
      ∃ n, temporary_of front = some n ∧ (entry = .file n ∨ ∃ suffix, name = .side n suffix)
  /-- No step writes to a file that is not the replay's own. -/
  contents : ∀ t ∈ cfg.pool, ∀ front e back, t.past = front ++ e :: back → ∀ i, i < e.before.next →
    temporary_of front ≠ some i → e.after.contents i = e.before.contents i
  /-- No step changes the source. -/
  source : ∀ t ∈ cfg.pool, ∀ e ∈ t.past, ∀ name entry, t.call.source = some name →
    e.before.entries (.given name) = some entry → e.after.entries (.given name) = some entry ∧
      ∀ i, entry = .file i → e.after.contents i = e.before.contents i

/-- The observation store did not answer the final event of a replay that succeeded with
something that is no integer. -/
def Terminal (cfg : Config Call Op Op.Res Exn (Option Json) Disk) : Prop :=
  ∀ t ∈ cfg.pool, ⟨.ask (.finish_agent_invocation "ok"), .appended .other⟩ ∉ events t.past

section Past

variable {c : Call} {m : Seen}

theorem temporary_of_append (past : List (Record Op Op.Res Disk)) (e : Record Op Op.Res Disk) :
    temporary_of (past ++ [e]) = (temporary_of past).or (drawn? ⟨e.op, e.res⟩) := by
  rw [temporary_of, events, List.map_append, List.findSome?_append]
  congr 1
  rw [List.map_singleton, List.findSome?_singleton]

theorem drawn?_of_ne {op : Op} {r : op.Res} (h : op ≠ .mkstemp) : drawn? ⟨op, r⟩ = none := by
  unfold drawn?
  split
  · rename_i heq
    exact absurd (Sigma.mk.inj heq).1 h
  · rfl

/-- A replay draws one file. -/
theorem seen_temporary {past : List (Record Op Op.Res Disk)}
    (h : ∀ front e back, past = front ++ e :: back →
      allowed c (front.foldl (fun m e => m.step e.op e.res) Seen.start) e.op) :
    (past.foldl (fun m e => m.step e.op e.res) Seen.start).temporary = temporary_of past := by
  induction past using List.reverseRecOn with
  | nil => rfl
  | append_singleton past e ih =>
    have ih' := ih fun front e' back heq => h front e' (back ++ [e]) (by rw [heq]; simp)
    have hallowed := h past e [] rfl
    rw [temporary_of_append, List.foldl_append, ← ih']
    obtain ⟨op, r, before, after⟩ := e
    by_cases hop : op = .mkstemp
    · subst hop
      have hnone : (past.foldl (fun m e => m.step e.op e.res) Seen.start).temporary = none := hallowed
      rw [hnone, Option.none_or]
      cases r with
      | ok n => rfl
      | error e => exact hnone
    · rw [drawn?_of_ne hop, Option.or_none]
      exact Seen.step_temporary r hop

/-- What a replay has done is in its past. -/
structure Traced (past : List Event) (m : Seen) : Prop where
  executed : ∀ result, m.executed = some result →
    ∃ n, m.temporary = some n ∧ ⟨.execute n, .ok result⟩ ∈ past
  verified : ∀ rows, m.verified = some rows → ∃ n, m.temporary = some n ∧ ⟨.select n, .ok rows⟩ ∈ past
  linked : ∀ entry, m.linked = some entry → ∃ n front back, m.temporary = some n ∧
    past = front ++ ⟨.link n entry, .ok ()⟩ :: back ∧
    (∀ rows, m.verified = some rows → ⟨.select n, .ok rows⟩ ∈ front) ∧
    ∀ rows, m.read_back = some rows → ⟨.select n, .ok rows⟩ ∈ back

/-- A step that changes none of this. -/
theorem Traced.same {past : List Event} {m' : Seen} (h : Traced past m) (event : Event)
    (htemporary : m'.temporary = m.temporary) (hexecuted : m'.executed = m.executed)
    (hverified : m'.verified = m.verified) (hlinked : m'.linked = m.linked)
    (hback : m'.read_back = m.read_back) : Traced (past ++ [event]) m' where
  executed := by
    intro result hresult
    obtain ⟨n, hn, hmem⟩ := h.executed result (hexecuted ▸ hresult)
    exact ⟨n, htemporary.trans hn, List.mem_append_left _ hmem⟩
  verified := by
    intro rows hrows
    obtain ⟨n, hn, hmem⟩ := h.verified rows (hverified ▸ hrows)
    exact ⟨n, htemporary.trans hn, List.mem_append_left _ hmem⟩
  linked := by
    intro entry hentry
    obtain ⟨n, front, back, hn, rfl, hfront, hread⟩ := h.linked entry (hlinked ▸ hentry)
    refine ⟨n, front, back ++ [event], htemporary.trans hn, by simp, ?_, ?_⟩
    · exact fun rows hrows => hfront rows (hverified ▸ hrows)
    · exact fun rows hrows => List.mem_append_left _ (hread rows (hback ▸ hrows))

/-- SQLite may have written. -/
theorem Traced.written {past : List Event} (h : Traced past m) (event : Event) :
    Traced (past ++ [event]) m.written where
  executed := by
    intro result hresult
    obtain ⟨n, hn, hmem⟩ := h.executed result hresult
    exact ⟨n, hn, List.mem_append_left _ hmem⟩
  verified := fun _ hrows => by cases hrows
  linked := by
    intro entry hentry
    obtain ⟨n, front, back, hn, rfl, -⟩ := h.linked entry hentry
    exact ⟨n, front, back ++ [event], hn, by simp, fun _ hrows => (by cases hrows),
      fun _ hrows => (by cases hrows)⟩

theorem Traced.select {past : List Event} (h : Traced past m) (i : ℕ) (rows : Database) :
    Traced (past ++ [⟨.select i, .ok rows⟩]) (m.select i rows) := by
  unfold Seen.select
  have hself : (⟨.select i, .ok rows⟩ : Event) ∈ [(⟨.select i, .ok rows⟩ : Event)] :=
    List.mem_singleton_self _
  -- a reading of the thread's own file before the link verifies it, after the link reads it back
  split_ifs with hi hlinked
  · refine ⟨?_, ?_, ?_⟩
    · intro result hresult
      obtain ⟨n, hn, hmem⟩ := h.executed result hresult
      exact ⟨n, hn, List.mem_append_left _ hmem⟩
    · intro rows' hrows
      obtain ⟨n, hn, hmem⟩ := h.verified rows' hrows
      exact ⟨n, hn, List.mem_append_left _ hmem⟩
    · intro entry hentry
      obtain ⟨n, front, back, hn, rfl, hfront, -⟩ := h.linked entry hentry
      obtain rfl := Option.some.inj (hi.symm.trans hn)
      refine ⟨i, front, back ++ [⟨.select i, .ok rows⟩], hi, by simp, hfront, fun rows' hrows => ?_⟩
      obtain rfl := Option.some.inj hrows
      exact List.mem_append_right _ hself
  · refine ⟨?_, ?_, ?_⟩
    · intro result hresult
      obtain ⟨n, hn, hmem⟩ := h.executed result hresult
      exact ⟨n, hn, List.mem_append_left _ hmem⟩
    · intro rows' hrows
      obtain rfl := Option.some.inj hrows
      exact ⟨i, hi, List.mem_append_right _ hself⟩
    · intro entry hentry
      rw [show m.linked = some entry from hentry] at hlinked
      exact absurd rfl hlinked
  · exact h.same _ rfl rfl rfl rfl rfl

theorem Traced.step {past : List Event} (h : Traced past m) {op : Op} (hallowed : allowed c m op)
    (r : op.Res) :
    Traced (past ++ [⟨op, r⟩]) (m.step op r) := by
  cases op with
  | mkstemp =>
    cases r with
    | error e => exact h.same _ rfl rfl rfl rfl rfl
    | ok n =>
      -- Before the temporary file there is nothing to trace.
      have hnone : ∀ k, m.temporary ≠ some k := fun k hk => by
        rw [show m.temporary = none from hallowed] at hk
        cases hk
      refine ⟨?_, fun _ hrows => (by cases hrows), ?_⟩
      · intro result hresult
        obtain ⟨k, hk, -⟩ := h.executed result hresult
        exact absurd hk (hnone k)
      · intro entry hentry
        obtain ⟨k, front, back, hk, -⟩ := h.linked entry hentry
        exact absurd hk (hnone k)
  | link n entry =>
    cases r with
    | error e => exact h.same _ rfl rfl rfl rfl rfl
    | ok u =>
      obtain ⟨⟨hn, -⟩, -⟩ := hallowed
      refine ⟨?_, ?_, ?_⟩
      · intro result hresult
        obtain ⟨k, hk, hmem⟩ := h.executed result hresult
        exact ⟨k, hk, List.mem_append_left _ hmem⟩
      · intro rows hrows
        obtain ⟨k, hk, hmem⟩ := h.verified rows hrows
        exact ⟨k, hk, List.mem_append_left _ hmem⟩
      · intro other hother
        obtain rfl := Option.some.inj hother
        refine ⟨n, past, [], hn, rfl, fun rows hrows => ?_, fun _ hrows => (by cases hrows)⟩
        obtain ⟨k, hk, hmem⟩ := h.verified rows hrows
        obtain rfl := Option.some.inj (hn.symm.trans hk)
        exact hmem
  | unlink name =>
    cases name with
    | given entry =>
      refine ⟨?_, ?_, fun _ hentry => (by cases hentry)⟩
      · intro result hresult
        obtain ⟨k, hk, hmem⟩ := h.executed result hresult
        exact ⟨k, hk, List.mem_append_left _ hmem⟩
      · intro rows hrows
        obtain ⟨k, hk, hmem⟩ := h.verified rows hrows
        exact ⟨k, hk, List.mem_append_left _ hmem⟩
    | _ => exact h.same _ rfl rfl rfl rfl rfl
  | open_stage n => exact h.written _
  | close_stage n =>
    cases r with
    | ok u => exact h.same _ rfl rfl rfl rfl rfl
    | error e => exact h.written _
  | execute n =>
    cases r with
    | error e => exact h.written _
    | ok result =>
      have hw := h.written ⟨.execute n, .ok result⟩
      refine ⟨fun result' hresult => ?_, fun _ hrows => (by cases hrows), hw.linked⟩
      obtain rfl := Option.some.inj hresult
      exact ⟨n, hallowed, List.mem_append_right _ (List.mem_singleton_self _)⟩
  | select i =>
    cases r with
    | ok rows => exact h.select i rows
    | error e => exact h.same _ rfl rfl rfl rfl rfl
  | resolve strict entry =>
    cases r with
    | error e => exact h.same _ rfl rfl rfl rfl rfl
    | ok target =>
      show Traced _ (if target = entry then m else { m with links := entry :: m.links })
      split_ifs <;> exact h.same _ rfl rfl rfl rfl rfl
  | ask question => cases question <;> exact h.same _ rfl rfl rfl rfl rfl
  | samefile entry n => cases r <;> exact h.same _ rfl rfl rfl rfl rfl
  | open_readonly entry => cases r <;> exact h.same _ rfl rfl rfl rfl rfl
  | _ => exact h.same _ rfl rfl rfl rfl rfl

theorem traced {past : List (Record Op Op.Res Disk)}
    (h : ∀ front e back, past = front ++ e :: back →
      allowed c (front.foldl (fun m e => m.step e.op e.res) Seen.start) e.op) :
    Traced (events past) (past.foldl (fun m e => m.step e.op e.res) Seen.start) := by
  induction past using List.reverseRecOn with
  | nil => exact ⟨fun _ h => (by cases h), fun _ h => (by cases h), fun _ h => (by cases h)⟩
  | append_singleton past e ih =>
    have ih' := ih fun front e' back heq => h front e' (back ++ [e]) (by rw [heq]; simp)
    rw [events, List.map_append, List.foldl_append]
    exact ih'.step (h past e [] rfl) e.res

/-- A replay is late if the store answered its final event with no integer. -/
theorem late_of_seen {past : List (Record Op Op.Res Disk)}
    (h : (past.foldl (fun m e => m.step e.op e.res) Seen.start).late = true) :
    ⟨.ask (.finish_agent_invocation "ok"), .appended .other⟩ ∈ events past := by
  have hstep : ∀ (m : Seen) (e : Record Op Op.Res Disk), (m.step e.op e.res).late = true →
      m.late = true ∨ (⟨e.op, e.res⟩ : Event) =
        ⟨.ask (.finish_agent_invocation "ok"), .appended .other⟩ := by
    rintro m ⟨op, r, before, after⟩ hlate
    by_cases hop : ∃ status, op = .ask (.finish_agent_invocation status)
    · obtain ⟨status, rfl⟩ := hop
      rcases Bool.or_eq_true_iff.mp hlate with hlate | hlate
      · exact .inl hlate
      · obtain ⟨rfl, rfl⟩ : status = "ok" ∧ r = .appended .other := of_decide_eq_true hlate
        exact .inr rfl
    · refine .inl ?_
      rwa [Seen.step_late r fun status heq => hop ⟨status, heq⟩] at hlate
  rcases exists_of_foldl (Φ := fun m : Seen => m.late = true) hstep h with hstart | ⟨e, he, hevent⟩
  · cases hstart
  · rw [← hevent]
    exact List.mem_map_of_mem he

end Past

/-- Nothing is left of a replay that ended clean. -/
theorem Knows.clean {c : Call} {m : Seen} {s : Disk} (h : Knows c m s) (hm : Clean m) {n : ℕ}
    (hn : m.temporary = some n) :
    (∀ name, s.entries name ≠ some (.file n)) ∧ ∀ suffix, s.entries (.side n suffix) = none := by
  refine ⟨fun name hfile => ?_, fun suffix => ?_⟩
  · have hholds := (h.here n hn name).mp hfile
    cases name with
    | drawn k =>
      have hstored : m.stored = true := hholds.2
      rw [hm.stored] at hstored
      cases hstored
    | given entry =>
      have hlinked : m.linked = some entry := hholds
      rw [hm.linked] at hlinked
      cases hlinked
    | side k suffix => exact hholds
  · refine h.sides n hn suffix ?_
    rw [hm.left]
    exact List.not_mem_nil

/-- The file of a replay that returned. -/
theorem Knows.returned {c : Call} {m : Seen} {s : Disk} {render : StagedArtifact → Except Exn Json}
    {candidate : PyStr} {n : ℕ} {entry : String} {past : List Event} (h : Knows c m s)
    (hm : Returned render candidate n entry m) (htraced : Traced past m) :
    (∀ name, s.entries name = some (.file n) ↔ name = .given entry) ∧
      (∀ suffix, s.entries (.side n suffix) = none) ∧ Commit render past n entry (s.contents n) := by
  refine ⟨fun name => ?_, fun suffix => ?_, ?_⟩
  · rw [h.here n hm.temporary name]
    cases name with
    | drawn k =>
      refine ⟨fun hholds => ?_, fun heq => by cases heq⟩
      have hstored : m.stored = true := hholds.2
      rw [hm.stored] at hstored
      cases hstored
    | given other =>
      have hiff : m.linked = some other ↔ Name.given other = .given entry := by
        rw [hm.linked, Option.some.injEq, Name.given.injEq, eq_comm]
      exact hiff
    | side k suffix => exact ⟨fun hholds => absurd hholds id, fun heq => by cases heq⟩
  · refine h.sides n hm.temporary suffix ?_
    rw [hm.left]
    exact List.not_mem_nil
  · obtain ⟨result, preview, ⟨hexecuted, hpassed, verified, hverified, hexact⟩, hback⟩ := hm.committed
    rcases hback with hmisled | ⟨rows, hrows, hread⟩
    · rw [h.misled] at hmisled
      cases hmisled
    -- The rows that were verified and those that were read back are what the file holds now.
    have hnow := h.read_back n rows hm.temporary hrows
    obtain rfl : verified = rows := (h.verified n verified hm.temporary hverified).symm.trans hnow
    obtain ⟨k, hk, hexecute⟩ := htraced.executed result hexecuted
    obtain rfl := Option.some.inj (hk.symm.trans hm.temporary)
    obtain ⟨j, front, back, hj, hpast, hfront, hlater⟩ := htraced.linked entry hm.linked
    obtain rfl := Option.some.inj (hj.symm.trans hk)
    rw [hnow]
    exact ⟨⟨candidate, result, preview, hexecute, hpassed, hexact, hread⟩,
      ⟨front, back, hpast, hfront verified hverified, hlater verified hrows⟩⟩

/-- **Replay output is all or nothing**, in every run in which the observation store does not
answer the final event of a replay that succeeded with something that is no integer.

What is in the directory follows from what each replay knows of it, which `run_knows` keeps
along the run: a replay that raised ended clean, so its file is under no name, and one that
returned holds its file under the output alone, as it was read before the link and after. Two
that returned to one output would both hold the entry there, but their files are not the same.
That a step overwrites nothing is what `step_kept` and `step_source` say of every step of the
past, since each was allowed in the state in which it was taken. -/
theorem replay_all_or_nothing (render : StagedArtifact → Except Exn Json) (profile_digest : String)
    (s : Disk) (hwf : s.Wf) (cfg : Config Call Op Op.Res Exn (Option Json) Disk)
    (h : Run render profile_digest s cfg) (hterminal : Terminal cfg) : AllOrNothing render cfg := by
  obtain ⟨-, hpool, hapart⟩ := run_knows hwf h
  have hallowed : ∀ t ∈ cfg.pool, ∀ front e back, t.past = front ++ e :: back →
      allowed t.call (front.foldl (fun m e => m.step e.op e.res) Seen.start) e.op :=
    fun t ht front e back heq => ((hpool t ht).2 front e back heq).2.2.1
  have htemporary : ∀ t ∈ cfg.pool, (seen t).temporary = temporary_of t.past :=
    fun t ht => seen_temporary (hallowed t ht)
  have hreturned : ∀ t ∈ cfg.pool, ∀ evidence, t.status = .running (.ret (some evidence)) →
      ∃ candidate n entry, t.call.output = some entry ∧ Returned render candidate n entry (seen t) :=
    fun t ht evidence hret => Reachable.obeys_returned (serve_keeps render profile_digest) h ht hret rfl
  have hfront : ∀ t ∈ cfg.pool, ∀ front e back, t.past = front ++ e :: back →
      (front.foldl (fun m e => m.step e.op e.res) Seen.start).temporary = temporary_of front := by
    intro t ht front e back heq
    refine seen_temporary fun front' e' back' heq' => hallowed t ht front' e' (back' ++ e :: back) ?_
    rw [heq, heq', List.append_assoc, List.cons_append]
  refine ⟨?_, ?_, ?_, ?_, ?_, ?_⟩
  · intro t ht e n hraise hn
    have hknows := (hpool t ht).1
    rw [← htemporary t ht] at hn
    -- a call that raises was misled by the system, came too late to clean up, or has cleaned up
    rcases Reachable.obeys_raised (serve_keeps render profile_digest) h ht hraise with hmisled | hlate | hclean
    · exact absurd (hknows.misled.symm.trans hmisled) (by simp)
    · exact absurd (late_of_seen hlate) (hterminal t ht)
    · exact hknows.clean hclean hn
  · intro t ht evidence hret
    obtain ⟨candidate, n, entry, houtput, hm⟩ := hreturned t ht evidence hret
    have hfile := (hpool t ht).1.returned hm (traced (hallowed t ht))
    exact ⟨n, entry, (htemporary t ht).symm.trans hm.temporary, houtput, hfile⟩
  -- two successes at one output would be two temporary files behind one entry
  · refine hapart.imp_of_mem fun {t u} ht hu hapart evidence evidence' hret hret' hsame => ?_
    obtain ⟨candidate, n, entry, houtput, hm⟩ := hreturned t ht evidence hret
    obtain ⟨candidate', n', entry', houtput', hm'⟩ := hreturned u hu evidence' hret'
    have hentry : entry = entry' := Option.some.inj (houtput.symm.trans (hsame.trans houtput'))
    have hfile := ((hpool t ht).1.here n hm.temporary (.given entry)).mpr hm.linked
    have hfile' := ((hpool u hu).1.here n' hm'.temporary (.given entry')).mpr hm'.linked
    rw [← hentry, hfile] at hfile'
    obtain rfl := Entry.file.inj (Option.some.inj hfile')
    exact hapart n hm.temporary hm'.temporary
  · intro t ht front e back heq name entry hentry
    obtain ⟨hwf', hknows, hallowed', hsem⟩ := (hpool t ht).2 front e back heq
    rw [← hfront t ht front e back heq]
    exact (step_kept hwf' hknows hallowed' hsem).1 name entry hentry
  · intro t ht front e back heq i hi hne
    obtain ⟨hwf', hknows, hallowed', hsem⟩ := (hpool t ht).2 front e back heq
    rw [← hfront t ht front e back heq] at hne
    exact (step_kept hwf' hknows hallowed' hsem).2 i hi hne
  · intro t ht e he name entry hsource hentry
    obtain ⟨front, back, heq⟩ := List.append_of_mem he
    obtain ⟨hwf', hknows, hallowed', hsem⟩ := (hpool t ht).2 front e back heq
    exact step_source hwf' hknows hallowed' hsem hsource hentry

/-! ## A final event without a cursor -/

section Sample

def sample_digest : String := "sha256:" ++ String.ofList (List.replicate 64 '0')

/-- The payload of a stage of the pinned target. -/
def sample_payload : Json :=
  Json.record [
    ("seed", Json.record [("repository_id", text remote_repository),
      ("base_commit", text REMOTE_REPOSITORY_COMMIT), ("staged_change_digest", text sample_digest),
      ("snapshot_origin", text "github_rest_api_claim"), ("verdict", text "pass")]),
    ("verifier_result", Json.record [("verifier_id", text _VERIFIER_ID), ("verdict", text "pass")]),
    ("declared_change_paths", .arr [text ALLOWED_CHANGE_PATH]),
    ("verified_contents", .arr [Json.record
      [("path", text ALLOWED_CHANGE_PATH), ("content", text "pass")]])]

def sample_artifact : StagedArtifact := ⟨sample_digest, sample_digest, sample_digest, sample_payload⟩

/-- The fields of a preview that a replay compares with the target. -/
def sample_render (artifact : StagedArtifact) : Except Exn Json := do
  let seed ← item artifact.payload "seed"
  let verifier ← item artifact.payload "verifier_result"
  let repository_id ← item seed "repository_id"
  let base_commit ← item seed "base_commit"
  let paths ← item artifact.payload "declared_change_paths"
  let verifier_id ← item verifier "verifier_id"
  let verdict ← item verifier "verdict"
  return Json.record [("schema", text "stage-preview/v1"),
    ("stage", Json.record [("staged_change_digest", text artifact.staged_change_digest),
      ("artifact_digest", text artifact.artifact_digest),
      ("verified_contents_digest", text artifact.verified_contents_digest)]),
    ("change", Json.record [("repository_id", repository_id), ("base_commit", base_commit),
      ("declared_change_paths", paths)]),
    ("verification", Json.record [("verifier_id", verifier_id), ("verdict", verdict)])]

/-- A directory with the source. -/
def sample_disk : Disk where
  entries := fun name => if name = .given "/srv/source.sqlite3" then some (.file 0) else none
  contents := fun _ => [sample_artifact]
  next := 1

theorem sample_disk_wf : sample_disk.Wf where
  drawn := fun _ _ h => by cases h
  side := fun _ _ _ h => by cases h
  file := by
    intro name i h
    have hif : (if name = .given "/srv/source.sqlite3" then some (Entry.file 0) else none) =
      some (.file i) := h
    split_ifs at hif
    obtain rfl := Entry.file.inj (Option.some.inj hif)
    exact Nat.zero_lt_one

/-- A replay of the source that a store observes. -/
def sample_arguments : Arguments where
  source_database := .of ⟨"/srv/source.sqlite3", "/srv/source.sqlite3", true⟩
  source_digest := .of (.text sample_digest)
  output_database := .of ⟨"/srv/output.sqlite3", "/srv/output.sqlite3", true⟩
  runtime_available := true
  observed := true
  verifier_trust_evidence := none

def sample_snapshot : Snapshot where
  owner := .of (.text REMOTE_REPOSITORY_OWNER)
  repository := .of (.text REMOTE_REPOSITORY_NAME)
  commit_oid := .of (.text REMOTE_REPOSITORY_COMMIT)
  tree_oid := .of (.text REMOTE_REPOSITORY_TREE)
  content_digest := .of (.text REMOTE_REPOSITORY_CONTENT_DIGEST)
  full_snapshot := true
  files := some (⟨.of (.text ALLOWED_CHANGE_PATH),
    .ok ""⟩ :: List.replicate 22 ⟨.of (.text "README.md"), .ok ""⟩)
  verified_commit_object := some (.text REMOTE_REPOSITORY_COMMIT, .text REMOTE_REPOSITORY_TREE)

def sample_result : ExecutionResult where
  verified := true
  snapshot_claim_digest := .of (.text sample_digest)
  staged_change_digest := .of (.text sample_digest)
  verified_contents_digest := .of (.text sample_digest)
  verification_digest := .of (.text sample_digest)
  verifier_id := .of (.text _VERIFIER_ID)

/-- Collaborators that do their work; the store answers the final event with this cursor. -/
def sample_reply (cursor : Arg ℤ) (question : Ask) : question.Res :=
  match question with
  | .parent_is_dir _ => .ok true
  | .parent_is_symlink _ => .ok false
  | .mkdir_parent _ => .ok ()
  | .journaled_worker => .ok "run-1"
  | .read_rate_limit => .ok ⟨.of 200, .of 5000, .of 1⟩
  | .issue_permit eligible => .ok eligible
  | .read_snapshot => .ok sample_snapshot
  | .record_snapshot_pin_decision accepted => .ok accepted
  | .last_event_cursor => .of 7
  | .finish_agent_invocation _ => .appended cursor

/-- No file is beside the temporary one. -/
def Disk.clear (s : Disk) (n : ℕ) : Disk :=
  { s with entries := fun name => match name with
      | .side k suffix => if k = n then none else s.entries (.side k suffix)
      | name => s.entries name }

/-- The inode of a file. -/
def inode? (entry : Option Entry) : Option ℕ :=
  match entry with
  | some (.file i) => some i
  | _ => none

def is_same (first second : Option Entry) : Bool :=
  match inode? first with
  | some i => inode? second = some i
  | none => false

/-- `link`, which never overwrites. -/
def Disk.try_link (s : Disk) (n : ℕ) (entry : String) : Except Exn Unit × Disk :=
  match inode? (s.entries (.drawn n)) with
  | none => (.error ⟨.FileNotFoundError, "No such file or directory"⟩, s)
  | some i =>
    if s.entries (.given entry) = none then (.ok (), s.put (.given entry) (.file i))
    else (.error ⟨.OSError, "File exists"⟩, s)

def Disk.try_unlink (s : Disk) (name : Name) : Except Exn Unit × Disk :=
  match s.entries name with
  | none => (.error ⟨.FileNotFoundError, "No such file or directory"⟩, s)
  | some entry => if entry = .directory then (.error ⟨.OSError, "Is a directory"⟩, s) else
    (.ok (), s.remove name)

def Disk.try_open (s : Disk) (entry : String) : Except Exn ℕ :=
  match inode? (s.entries (.given entry)) with
  | some i => .ok i
  | none => .error (store_error "database is unavailable")

def Disk.try_create (s : Disk) (entry : String) (foreign : Foreign) : Except Exn Unit × Disk :=
  if s.entries (.given entry) = none then (.ok (), s.create entry foreign)
  else (.error ⟨.OSError, "File exists"⟩, s)

/-- A directory without failures. -/
def sample_answer (cursor : Arg ℤ) (op : Op) (s : Disk) : op.Res × Disk :=
  match op with
  | .ask question => (sample_reply cursor question, s)
  | .is_symlink entry => (decide (s.entries (.given entry) = some .symlink), s)
  | .is_file entry => ((inode? (s.entries (.given entry))).isSome, s)
  | .exists_ name => ((s.entries name).isSome, s)
  | .resolve _ entry => (.ok entry, s)
  | .samefile entry n => (.ok (is_same (s.entries (.given entry)) (s.entries (.drawn n))), s)
  | .mkstemp => (.ok s.next, s.draw)
  | .link n entry => s.try_link n entry
  | .unlink name => s.try_unlink name
  | .open_readonly entry => (s.try_open entry, s)
  | .open_stage n => (.ok (), s.clear n)
  | .select i => (.ok (s.contents i), s)
  | .close_readonly => (.ok (), s)
  | .close_stage n => (.ok (), s.clear n)
  | .execute n => (.ok sample_result,
      { s.clear n with contents := Function.update s.contents n [sample_artifact] })
  | .create entry foreign => s.try_create entry foreign

theorem clear_written (s : Disk) (n : ℕ) : s.Written n (s.clear n) where
  next := rfl
  contents := fun _ _ => rfl
  entries := by
    intro name hname
    cases name with
    | side k suffix =>
      have hk : k ≠ n := by
        intro hk
        exact hname suffix (congrArg (Name.side · suffix) hk)
      exact if_neg hk
    | given entry => rfl
    | drawn k => rfl
  sides := fun suffix => .inl (if_pos rfl)

theorem inode_eq {entry : Option Entry} {i : ℕ} : inode? entry = some i ↔ entry = some (.file i) := by
  unfold inode?
  split
  · simp
  · rename_i hfile
    simpa using hfile i

theorem is_same_iff {first second : Option Entry} :
    is_same first second = true ↔ ∃ i, first = some (.file i) ∧ second = some (.file i) := by
  unfold is_same
  cases hfirst : inode? first with
  | none =>
    refine iff_of_false (by simp) ?_
    rintro ⟨i, hi, -⟩
    rw [inode_eq.mpr hi] at hfirst
    cases hfirst
  | some i =>
    rw [decide_eq_true_iff, inode_eq.mp hfirst]
    refine ⟨fun h => ⟨i, rfl, inode_eq.mp h⟩, ?_⟩
    rintro ⟨j, hj, h⟩
    obtain rfl := Entry.file.inj (Option.some.inj hj)
    exact inode_eq.mpr h

theorem try_link_sem (s : Disk) (n : ℕ) (entry : String) :
    Sem s (.link n entry) (s.try_link n entry).1 (s.try_link n entry).2 := by
  unfold Disk.try_link
  cases hsource : inode? (s.entries (.drawn n)) with
  | none => exact .link_failed s n entry _
  | some i =>
    dsimp only
    split_ifs with hfree
    · exact .link s n i entry (inode_eq.mp hsource) hfree
    · exact .link_failed s n entry _

theorem try_unlink_sem (s : Disk) (name : Name) :
    Sem s (.unlink name) (s.try_unlink name).1 (s.try_unlink name).2 := by
  unfold Disk.try_unlink
  cases hentry : s.entries name with
  | none => exact .unlink_missing s name _ (.inl hentry)
  | some entry =>
    dsimp only
    split_ifs with hdirectory
    · exact .unlink_missing s name _ (.inr (hdirectory ▸ hentry))
    · exact .unlink s name entry hentry hdirectory

theorem try_open_sem (s : Disk) (entry : String) :
    Sem s (.open_readonly entry) (s.try_open entry) s := by
  unfold Disk.try_open
  cases hentry : inode? (s.entries (.given entry)) with
  | none => exact .open_failed s entry _
  | some i => exact .open_readonly s entry i (.inl (inode_eq.mp hentry))

theorem try_create_sem (s : Disk) (entry : String) (foreign : Foreign) :
    Sem s (.create entry foreign) (s.try_create entry foreign).1 (s.try_create entry foreign).2 := by
  unfold Disk.try_create
  split_ifs with hfree
  · exact .create s entry foreign hfree
  · exact .create_failed s entry foreign _

/-- The directory answers as a directory may. -/
theorem sample_answer_sem (cursor : Arg ℤ) (s : Disk) (op : Op) :
    Sem s op (sample_answer cursor op s).1 (sample_answer cursor op s).2 := by
  cases op with
  | ask question => exact .ask s question _
  | is_symlink entry => exact .is_symlink s entry
  | is_file entry =>
    refine .is_file s entry _ fun _ => ?_
    show (inode? (s.entries (.given entry))).isSome = true ↔ _
    rw [Option.isSome_iff_exists]
    exact exists_congr fun i => inode_eq
  | exists_ name => exact .exists_ s name _ fun _ => rfl
  | resolve strict entry => exact .resolve s strict entry entry fun _ => rfl
  | samefile entry n => exact .samefile s entry n _ is_same_iff
  | mkstemp => exact .mkstemp s
  | link n entry => exact try_link_sem s n entry
  | unlink name => exact try_unlink_sem s name
  | open_readonly entry => exact try_open_sem s entry
  | open_stage n => exact .open_stage s _ n _ (clear_written s n)
  | select i => exact .select s i
  | close_readonly => exact .close_readonly s _
  | close_stage n => exact .close_stage s _ n (clear_written s n) rfl
  -- the statement writes the one file it is about
  | execute n =>
    have hcleared := clear_written s n
    exact .execute s _ n _ ⟨rfl, fun i hi => Function.update_of_ne hi .., hcleared.entries,
      hcleared.sides⟩
  | create entry foreign => exact try_create_sem s entry foreign

def sample_program : Program (Option Json) := serve sample_render "" (.replay sample_arguments)

/-- One replay, served alone; the store answers its final event with this cursor. -/
def sample_run (cursor : Arg ℤ) : Config Call Op Op.Res Exn (Option Json) Disk where
  shared := (sample_program.exec (sample_answer cursor) sample_disk).2
  pool := [⟨.replay sample_arguments, sample_program.trace (sample_answer cursor) sample_disk,
    .running (sample_program.finished (sample_answer cursor) sample_disk)⟩]

theorem sample_run_reachable (cursor : Arg ℤ) :
    Run sample_render "" sample_disk (sample_run cursor) := by
  have hstart : Run sample_render "" sample_disk ⟨sample_disk, []⟩ := Relation.ReflTransGen.refl
  have hserved := Reachable.serve (sample_answer_sem cursor) hstart (.replay sample_arguments)
  rw [List.nil_append] at hserved
  exact hserved

/-- A final event of success that the store answered with something that is no integer. -/
def unanswered (event : Event) : Bool :=
  match event with
  | ⟨.ask (.finish_agent_invocation status), .appended .other⟩ => status = "ok"
  | _ => false

/-- Whether a worker that ended returned. -/
def returned? (t : Worker) : Option Bool :=
  match t.status with
  | .running (.ret _) => some true
  | .running (.raise _) => some false
  | _ => none

theorem raise_of_returned {t : Worker} (h : returned? t = some false) :
    ∃ e, t.status = .running (.raise e) := by
  unfold returned? at h
  split at h
  · cases h
  · rename_i e hraise
    exact ⟨e, hraise⟩
  · cases h

theorem sample_output_left : (sample_run .other).shared.entries (.given "/srv/output.sqlite3") =
    some (.file 1) ∧
    ∀ t ∈ (sample_run .other).pool, returned? t = some false ∧ temporary_of t.past = some 1 := by
  decide +kernel

/-- Two replays to one output. The first has seen that the name is free when the second
commits, so its link fails. -/
def sample_race : Config Call Op Op.Res Exn (Option Json) Disk :=
  race (serve sample_render "") (sample_answer (.of 8)) sample_disk (.replay sample_arguments)
    (.replay sample_arguments) 26 60 60

theorem sample_race_reachable : Run sample_render "" sample_disk sample_race :=
  Reachable.race (sample_answer_sem (.of 8)) sample_disk _ _ 26 60 60

theorem sample_race_answered : (sample_race.pool.map returned? = [some false, some true] ∧
    sample_race.pool.map (fun t => temporary_of t.past) = [some 1, some 2]) ∧
    sample_race.shared.entries (.given "/srv/output.sqlite3") = some (.file 2) ∧
    ∀ t ∈ sample_race.pool, ∀ event ∈ events t.past, unanswered event = false := by
  decide +kernel

/-- The replay that lost the race raises and leaves nothing; the output is the other's. -/
theorem replay_all_or_nothing_sample : sample_race.pool.map returned? = [some false, some true] ∧
    sample_race.pool.map (fun t => temporary_of t.past) = [some 1, some 2] ∧
    sample_race.shared.entries (.given "/srv/output.sqlite3") = some (.file 2) ∧
    AllOrNothing sample_render sample_race := by
  obtain ⟨⟨hreturned, htemporary⟩, houtput, hanswered⟩ := sample_race_answered
  refine ⟨hreturned, htemporary, houtput, ?_⟩
  refine replay_all_or_nothing sample_render "" sample_disk sample_disk_wf _ sample_race_reachable ?_
  intro t ht hmem
  have hterminal := hanswered t ht _ hmem
  cases hterminal

/-- The observer fails after the commit: the replay raises, and its output stays. -/
theorem output_left_after_error : sample_disk.Wf ∧ Run sample_render "" sample_disk
    (sample_run .other) ∧
    ¬ AllOrNothing sample_render (sample_run .other) := by
  refine ⟨sample_disk_wf, sample_run_reachable .other, fun h => ?_⟩
  obtain ⟨houtput, hended⟩ := sample_output_left
  obtain ⟨t, ht⟩ : ∃ t, t ∈ (sample_run .other).pool := ⟨_, List.mem_singleton_self _⟩
  obtain ⟨hstatus, hn⟩ := hended t ht
  obtain ⟨e, hraise⟩ := raise_of_returned hstatus
  exact (h.raised t ht e 1 hraise hn).1 _ houtput

end Sample

end AppContracts.StagedReplay
