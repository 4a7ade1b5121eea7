/-
What a replay knows of the directory, and why it stays true.

`Seen` is what a replay has done, computed from its own steps and their answers alone.
`Knows` says what this means of the directory: the replay's file is under its drawn
name and under the name that the replay linked, and under no other name; the files
beside it are among those that SQLite may have left; what was read from it is what it
holds. Nothing in it speaks of the other replays.

The work is in two lemmas about one step. `step_changes`: a step that is allowed changes
the entries of the replay's own file, what that file holds, and names that were free.
`step_knows`: it keeps what its own replay knows. What every other replay knows is kept
by the first alone, since no two replays have one file (`Knows.changes`).

The second half follows the program. Every part of `replay_staged_candidate` takes
allowed steps only, and what has been done when it returns or raises is stated once for
each function; the callers go by these statements. A replay that rolls back learns from
looks whether the output is its file (`output_is_owned`). The program alone cannot say
that they are right, so a look that contradicts what the replay has done is recorded
(`Seen.misled`), and `Knows` says that there was none.
-/
import AppContracts.StagedReplay

set_option autoImplicit false

namespace AppContracts.StagedReplay

open Interleave Validator
open ObservationStore (item)

/-! ## What a step may change -/

/-- What every directory of a run satisfies: a drawn name has its own file or none,
the names beside it have side files, and what was not drawn yet is not there. -/
structure Disk.Wf (s : Disk) : Prop where
  drawn : ∀ n entry, s.entries (.drawn n) = some entry → entry = .file n ∧ n < s.next
  side : ∀ n suffix entry, s.entries (.side n suffix) = some entry → entry = .side_file ∧ n < s.next
  file : ∀ name i, s.entries name = some (.file i) → i < s.next

/-- An entry of the replay with this temporary file. -/
def Own (own : Option ℕ) (name : Name) (entry : Entry) : Prop :=
  ∃ n, own = some n ∧ (entry = .file n ∨ ∃ suffix, name = .side n suffix)

/-- An entry that a step may add: one of the replay's own, or one that another process
creates under a given name. -/
inductive New (own : Option ℕ) (s s' : Disk) : Name → Entry → Prop
  | drawn (n : ℕ) (h : own = some n) : New own s s' (.drawn n) (.file n)
  | linked (n : ℕ) (entry : String) (h : own = some n) : New own s s' (.given entry) (.file n)
  | side (n : ℕ) (suffix : Suffix) (h : own = some n) : New own s s' (.side n suffix) .side_file
  | created (entry : String) (i : ℕ) (h : s.next ≤ i) (h' : i < s'.next) :
      New own s s' (.given entry) (.file i)
  | symlink (entry : String) : New own s s' (.given entry) .symlink
  | directory (entry : String) : New own s s' (.given entry) .directory

/-- What a step of the replay with this temporary file may change. -/
structure Changes (own : Option ℕ) (s s' : Disk) : Prop where
  next : s.next ≤ s'.next
  kept : ∀ name entry, s.entries name = some entry → s'.entries name = some entry ∨ Own own name entry
  new : ∀ name entry, s'.entries name = some entry → s.entries name = some entry ∨
    New own s s' name entry
  contents : ∀ i, i < s.next → own ≠ some i → s'.contents i = s.contents i

theorem Changes.refl (own : Option ℕ) (s : Disk) : Changes own s s :=
  ⟨le_rfl, fun _ _ h => .inl h, fun _ _ h => .inl h, fun _ _ _ => rfl⟩

/-- An entry other than one of a name that is free. -/
theorem ne_of_free {s : Disk} {name other : Name} {entry : Entry} (hfree : s.entries name = none)
    (h : s.entries other = some entry) : other ≠ name := by
  rintro rfl
  rw [hfree] at h
  cases h

theorem Changes.put {own : Option ℕ} {s : Disk} {name : Name} {entry : Entry}
    (hfree : s.entries name = none) (hnew : New own s (s.put name entry) name entry) :
    Changes own s (s.put name entry) where
  next := le_rfl
  kept := fun other old hold => .inl (by rwa [Disk.put_other entry (ne_of_free hfree hold)])
  new := by
    intro other added hadded
    by_cases hother : other = name
    · subst hother
      rw [Disk.put_self] at hadded
      obtain rfl := Option.some.inj hadded
      exact .inr hnew
    · rw [Disk.put_other entry hother] at hadded
      exact .inl hadded
  contents := fun _ _ _ => rfl

theorem Changes.store {own : Option ℕ} {s : Disk} {name : Name} {content : Database}
    (hfree : s.entries name = none) (hnew : New own s (s.store name content) name (.file s.next)) :
    Changes own s (s.store name content) where
  next := Nat.le_succ _
  kept := fun other old hold => .inl (by rwa [Disk.store_other content (ne_of_free hfree hold)])
  new := by
    intro other added hadded
    by_cases hother : other = name
    · subst hother
      rw [Disk.store_self] at hadded
      obtain rfl := Option.some.inj hadded
      exact .inr hnew
    · rw [Disk.store_other content hother] at hadded
      exact .inl hadded
  contents := fun i hi _ => Disk.store_contents content hi

theorem Changes.remove {own : Option ℕ} {s : Disk} {name : Name} {entry : Entry}
    (hentry : s.entries name = some entry) (hown : Own own name entry) :
    Changes own s (s.remove name) where
  next := le_rfl
  kept := by
    intro other old hold
    by_cases hother : other = name
    · subst hother
      obtain rfl := Option.some.inj (hentry.symm.trans hold)
      exact .inr hown
    · exact .inl (by rwa [Disk.remove_other hother])
  new := by
    intro other added hadded
    by_cases hother : other = name
    · subst hother
      rw [Disk.remove_self] at hadded
      cases hadded
    · rw [Disk.remove_other hother] at hadded
      exact .inl hadded
  contents := fun _ _ _ => rfl

theorem Disk.Written.changes {n : ℕ} {s s' : Disk} (h : s.Written n s') : Changes (some n) s s' where
  next := h.next.ge
  kept := by
    intro name entry hentry
    by_cases hside : ∃ suffix, name = .side n suffix
    · exact .inr ⟨n, rfl, .inr hside⟩
    · exact .inl (by rwa [h.entries name fun suffix heq => hside ⟨suffix, heq⟩])
  new := by
    intro name entry hentry
    by_cases hside : ∃ suffix, name = .side n suffix
    · obtain ⟨suffix, rfl⟩ := hside
      rcases h.sides suffix with hnone | hsome
      · rw [hnone] at hentry
        cases hentry
      · obtain rfl := Option.some.inj (hsome.symm.trans hentry)
        exact .inr (.side n suffix rfl)
    · exact .inl (by rwa [← h.entries name fun suffix heq => hside ⟨suffix, heq⟩])
  contents := fun i _ hi => h.contents i fun heq => hi (heq ▸ rfl)

/-- A step keeps the directory well formed. -/
theorem Disk.Wf.changes {own : Option ℕ} {s s' : Disk} (h : s.Wf) (hc : Changes own s s')
    (hown : ∀ n, own = some n → n < s'.next) : s'.Wf where
  drawn := by
    intro n entry hentry
    rcases hc.new _ _ hentry with hold | hnew
    · obtain ⟨rfl, hn⟩ := h.drawn n entry hold
      exact ⟨rfl, lt_of_lt_of_le hn hc.next⟩
    · cases hnew with
      | drawn _ hn => exact ⟨rfl, hown n hn⟩
  side := by
    intro n suffix entry hentry
    rcases hc.new _ _ hentry with hold | hnew
    · obtain ⟨rfl, hn⟩ := h.side n suffix entry hold
      exact ⟨rfl, lt_of_lt_of_le hn hc.next⟩
    · cases hnew with
      | side _ _ hn => exact ⟨rfl, hown n hn⟩
  file := by
    intro name i hentry
    rcases hc.new _ _ hentry with hold | hnew
    · exact lt_of_lt_of_le (h.file name i hold) hc.next
    · cases hnew with
      | drawn _ hn => exact hown i hn
      | linked _ _ hn => exact hown i hn
      | created _ _ _ hi => exact hi

/-! ## What a replay has done -/

/-- What a replay knows from its own steps. -/
structure Seen : Type where
  /-- The inode of its temporary file. -/
  temporary : Option ℕ
  /-- The file is under its drawn name. -/
  stored : Bool
  /-- The name that it linked to the file. -/
  linked : Option String
  /-- The files that SQLite may have left beside it. -/
  left : List Suffix
  /-- The result of the verification. -/
  executed : Option ExecutionResult
  /-- What was read from the file before and after the link, since SQLite wrote to it. -/
  verified : Option Database
  read_back : Option Database
  /-- The names that were symbolic links. -/
  links : List String
  /-- The directory showed something else than what the replay has done. -/
  misled : Bool
  /-- The observation store answered the final event of a replay that succeeded with no
  integer. -/
  late : Bool

/-- Before the first step. -/
def Seen.start : Seen := ⟨none, false, none, [], none, none, none, [], false, false⟩

/-- The names under which the replay's file is. -/
def Seen.holds (m : Seen) (name : Name) : Prop :=
  match name with
  | .drawn n => m.temporary = some n ∧ m.stored = true
  | .given entry => m.linked = some entry
  | .side _ _ => False

instance (m : Seen) (name : Name) : Decidable (m.holds name) := by
  cases name <;> unfold Seen.holds <;> infer_instance

/-- A look that contradicts what the replay has done. -/
def Seen.look (m : Seen) (p : Prop) [Decidable p] : Seen := { m with misled := m.misled || decide p }

/-- SQLite may have written. -/
def Seen.written (m : Seen) : Seen :=
  { m with left := [.journal, .wal, .shm], verified := none, read_back := none }

/-- The rows of inode `i` were read. -/
def Seen.select (m : Seen) (i : ℕ) (rows : Database) : Seen :=
  if m.temporary = some i then
    if m.linked.isSome then { m with read_back := some rows } else { m with verified := some rows }
  else m

/-- A step of the replay and its answer. -/
def Seen.step (m : Seen) (op : Op) (answer : op.Res) : Seen :=
  match op, answer with
  | .mkstemp, .ok n =>
    { m with temporary := some n, stored := true, left := [], verified := none, read_back := none }
  | .link _ entry, .ok _ => { m with linked := some entry, read_back := none }
  | .unlink (.drawn _), _ => { m with stored := false }
  | .unlink (.side _ suffix), _ => { m with left := m.left.filter (· ≠ suffix) }
  | .unlink (.given _), _ => { m with linked := none }
  | .open_stage _, _ => m.written
  | .execute _, .ok result => { m.written with executed := some result }
  | .execute _, .error _ => m.written
  | .close_stage _, .error _ => m.written
  | .close_stage _, .ok _ => { m with left := [.journal, .wal, .shm] }
  | .select i, .ok rows => m.select i rows
  | .resolve _ entry, .ok target => if target = entry then m else { m with links := entry :: m.links }
  | .exists_ name, answer => m.look (answer = false ∧ m.holds name)
  | .is_symlink entry, answer => m.look (answer = true ∧ m.linked = some entry)
  | .samefile entry n, .ok answer => m.look
    (m.holds (.drawn n) ∧ (answer = true ↔ m.linked ≠ some entry))
  | .samefile entry n, .error _ => m.look (m.holds (.drawn n) ∧ m.linked = some entry)
  | .open_readonly entry, .ok i => m.look (m.linked = some entry ∧ m.temporary ≠ some i)
  | .ask (.finish_agent_invocation status), answer =>
    { m with late := m.late || decide (status = "ok" ∧ answer = .appended .other) }
  | _, _ => m

/-! ## Calls -/

/-- A replay, or another process that creates an entry. -/
inductive Call : Type
  | replay (a : Arguments)
  | foreign (entry : String) (foreign : Foreign)

/-- The name of an argument. -/
def entry? (value : Arg Location) : Option String :=
  match value with
  | .of path => some path.entry
  | .other => none

/-- The output of a replay. -/
def Call.output (c : Call) : Option String :=
  match c with
  | .replay a => entry? a.output_database
  | .foreign _ _ => none

/-- The source of a replay. -/
def Call.source (c : Call) : Option String :=
  match c with
  | .replay a => entry? a.source_database
  | .foreign _ _ => none

/-- What a replay that knows `m` may do next. A look is always allowed. -/
def allowed (c : Call) (m : Seen) : Op → Prop
  | .mkstemp => m.temporary = none
  | .link n entry => m.holds (.drawn n) ∧ m.linked = none ∧ c.output = some entry ∧
      (c.source = some entry → entry ∈ m.links)
  | .unlink (.drawn n) => m.temporary = some n
  | .unlink (.side n _) => m.temporary = some n
  | .unlink (.given entry) => m.misled = true ∨ m.linked = some entry
  | .open_stage n => m.temporary = some n
  | .close_stage n => m.temporary = some n
  | .execute n => m.temporary = some n
  | .create _ _ => m.temporary = none
  | _ => True

/-- What a replay that has done `m` knows of the directory. -/
structure Knows (c : Call) (m : Seen) (s : Disk) : Prop where
  misled : m.misled = false
  links : ∀ entry ∈ m.links, s.entries (.given entry) = some .symlink
  idle : m.temporary = none → m.stored = false ∧ m.linked = none
  fresh : ∀ n, m.temporary = some n → n < s.next
  here : ∀ n, m.temporary = some n → ∀ name, s.entries name = some (.file n) ↔ m.holds name
  sides : ∀ n, m.temporary = some n → ∀ suffix ∉ m.left, s.entries (.side n suffix) = none
  source : ∀ entry, m.linked = some entry → c.source ≠ some entry
  verified : ∀ n rows, m.temporary = some n → m.verified = some rows → s.contents n = rows
  read_back : ∀ n rows, m.temporary = some n → m.read_back = some rows → s.contents n = rows

/-- The step of one replay leaves alone what another knows. -/
theorem Knows.changes {c : Call} {m : Seen} {own : Option ℕ} {s s' : Disk} (h : Knows c m s)
    (hc : Changes own s s') (hapart : ∀ n, m.temporary = some n → own ≠ some n) : Knows c m s' where
  misled := h.misled
  links := by
    intro entry hentry
    rcases hc.kept _ _ (h.links entry hentry) with hkept | ⟨n, -, hfile | ⟨suffix, hside⟩⟩
    · exact hkept
    · cases hfile
    · cases hside
  idle := h.idle
  fresh := fun n hn => lt_of_lt_of_le (h.fresh n hn) hc.next
  here := by
    intro n hn name
    constructor
    · intro hentry
      rcases hc.new _ _ hentry with hold | hnew
      · exact (h.here n hn name).mp hold
      -- an entry of this thread's file can only be made by the thread itself
      · cases hnew with
        | drawn _ hown => exact absurd hown (hapart n hn)
        | linked _ _ hown => exact absurd hown (hapart n hn)
        | created _ _ hi => exact absurd (h.fresh n hn) (by omega)
    · intro hholds
      rcases hc.kept _ _ ((h.here n hn name).mpr hholds) with hkept | ⟨k, hown, hfile | ⟨suffix, rfl⟩⟩
      · exact hkept
      · obtain rfl := Entry.file.inj hfile
        exact absurd hown (hapart n hn)
      · exact absurd hholds id
  sides := by
    intro n hn suffix hsuffix
    by_contra hsome
    obtain ⟨entry, hentry⟩ := Option.ne_none_iff_exists'.mp hsome
    rcases hc.new _ _ hentry with hold | hnew
    · rw [h.sides n hn suffix hsuffix] at hold
      cases hold
    · cases hnew with
      | side _ _ hown => exact absurd hown (hapart n hn)
  source := h.source
  verified := by
    intro n rows hn hrows
    rw [hc.contents n (h.fresh n hn) (hapart n hn)]
    exact h.verified n rows hn hrows
  read_back := by
    intro n rows hn hrows
    rw [hc.contents n (h.fresh n hn) (hapart n hn)]
    exact h.read_back n rows hn hrows

/-! ## One step -/

section Step

variable {c : Call} {m : Seen} {s s' : Disk}

theorem Seen.step_temporary {op : Op} (r : op.Res) (h : op ≠ .mkstemp) :
    (m.step op r).temporary = m.temporary := by
  unfold Seen.step
  split <;> try rfl
  · exact absurd rfl h
  · unfold Seen.select
    split_ifs <;> rfl
  · split_ifs <;> rfl

theorem Seen.step_late {op : Op} (r : op.Res)
    (h : ∀ status, op ≠ .ask (.finish_agent_invocation status)) :
    (m.step op r).late = m.late := by
  unfold Seen.step
  split <;> try rfl
  · unfold Seen.select
    split_ifs <;> rfl
  · split_ifs <;> rfl
  · rename_i status answer
    exact absurd rfl (h status)

/-- A replay that has linked or stored a file has drawn it. -/
theorem Knows.holds (h : Knows c m s) {name : Name} (hname : m.holds name) :
    ∃ n, m.temporary = some n ∧ s.entries name = some (.file n) := by
  cases htemporary : m.temporary with
  | some n => exact ⟨n, rfl, (h.here n htemporary name).mpr hname⟩
  | none =>
    obtain ⟨hstored, hlinked⟩ := h.idle htemporary
    cases name with
    | given entry =>
      have hsome : m.linked = some entry := hname
      rw [hlinked] at hsome
      cases hsome
    | drawn n =>
      obtain ⟨hsome, -⟩ : m.temporary = some n ∧ m.stored = true := hname
      rw [htemporary] at hsome
      cases hsome
    | side n suffix => exact absurd hname id

/-- **What one step changes**: the entries and the file of its own replay, and names that
were free. -/
theorem step_changes {op : Op} {r : op.Res} (hwf : s.Wf) (h : Knows c m s) (hallowed : allowed c m op)
    (hsem : Sem s op r s') : Changes (m.step op r).temporary s s' := by
  -- what a thread may ask for is about its own temporary file, or reads only
  cases hsem with
  | mkstemp =>
    refine Changes.store ?_ (.drawn s.next rfl)
    by_contra hsome
    obtain ⟨entry, hentry⟩ := Option.ne_none_iff_exists'.mp hsome
    exact absurd (hwf.drawn s.next entry hentry).2 (lt_irrefl _)
  | link _ n i entry hsource hfree =>
    obtain ⟨⟨hn, -⟩, -⟩ := hallowed
    obtain ⟨hfile, -⟩ := hwf.drawn n _ hsource
    obtain rfl := Entry.file.inj hfile
    exact Changes.put hfree (.linked i entry hn)
  | unlink _ name entry hentry hdirectory =>
    refine Changes.remove hentry ?_
    cases name with
    | drawn n =>
      obtain ⟨rfl, -⟩ := hwf.drawn n entry hentry
      exact ⟨n, hallowed, .inl rfl⟩
    | side n suffix => exact ⟨n, hallowed, .inr ⟨suffix, rfl⟩⟩
    | given p =>
      rcases hallowed with hmisled | hlinked
      · rw [h.misled] at hmisled
        cases hmisled
      · obtain ⟨n, hn, hfile⟩ := h.holds (show m.holds (.given p) from hlinked)
        rw [hentry] at hfile
        exact ⟨n, hn, .inl (Option.some.inj hfile)⟩
  | open_stage _ _ n answer hwritten =>
    have hn : m.temporary = some n := hallowed
    exact (show (m.step (.open_stage n) answer).temporary = some n from hn) ▸ hwritten.changes
  | execute _ _ n answer hwritten =>
    have hn : m.temporary = some n := hallowed
    have hstep : (m.step (.execute n) answer).temporary = some n :=
      by rw [Seen.step_temporary _ (by simp), hn]
    exact hstep ▸ hwritten.changes
  | close_stage _ _ n hwritten hsame =>
    have hn : m.temporary = some n := hallowed
    exact (show (m.step (.close_stage n) (.ok ())).temporary = some n from hn) ▸ hwritten.changes
  | close_failed _ _ n e hwritten =>
    have hn : m.temporary = some n := hallowed
    exact (show (m.step (.close_stage n) (.error e)).temporary = some n from hn) ▸ hwritten.changes
  | create _ entry foreign hfree =>
    cases foreign with
    | file content => exact Changes.store hfree (.created entry s.next le_rfl (Nat.lt_succ_self _))
    | symlink => exact Changes.put hfree (.symlink entry)
    | directory => exact Changes.put hfree (.directory entry)
  | _ => exact Changes.refl _ _

/-- What a step leaves alone: the entries and the files that are not its replay's. -/
theorem step_kept {op : Op} {r : op.Res} (hwf : s.Wf) (h : Knows c m s) (hallowed : allowed c m op)
    (hsem : Sem s op r s') :
    (∀ name entry, s.entries name = some entry → s'.entries name = some entry ∨
      Own m.temporary name entry) ∧
      ∀ i, i < s.next → m.temporary ≠ some i → s'.contents i = s.contents i := by
  have hchanges := step_changes hwf h hallowed hsem
  by_cases hop : op = .mkstemp
  · subst hop
    cases hsem with
    | mkstemp =>
      refine ⟨fun name entry hentry => .inl ?_, fun i hi _ => ?_⟩
      · rcases hchanges.kept name entry hentry with hkept | ⟨n, hn, hown⟩
        · exact hkept
        · obtain rfl := Option.some.inj hn
          rcases hown with rfl | ⟨suffix, rfl⟩
          · exact absurd (hwf.file name s.next hentry) (lt_irrefl _)
          · exact absurd (hwf.side s.next suffix entry hentry).2 (lt_irrefl _)
      · exact Disk.store_contents [] hi
    | mkstemp_failed => exact ⟨fun _ _ hentry => .inl hentry, fun _ _ _ => rfl⟩
  · rw [Seen.step_temporary r hop] at hchanges
    exact ⟨hchanges.kept, hchanges.contents⟩

/-- No step changes the source of its replay. -/
theorem step_source {op : Op} {r : op.Res} (hwf : s.Wf) (h : Knows c m s) (hallowed : allowed c m op)
    (hsem : Sem s op r s') {name : String} {entry : Entry} (hsource : c.source = some name)
    (hentry : s.entries (.given name) = some entry) :
    s'.entries (.given name) = some entry ∧ ∀ i, entry = .file i → s'.contents i = s.contents i := by
  obtain ⟨hkept, hcontents⟩ := step_kept hwf h hallowed hsem
  -- The replay's own file is not the source.
  have hother : ∀ n, m.temporary = some n → entry ≠ .file n := by
    rintro n hn rfl
    exact h.source name ((h.here n hn (.given name)).mp hentry) hsource
  constructor
  · rcases hkept _ _ hentry with hkept | ⟨n, hn, hfile | ⟨suffix, hside⟩⟩
    · exact hkept
    · exact absurd hfile (hother n hn)
    · cases hside
  · rintro i rfl
    exact hcontents i (hwf.file _ _ hentry) fun hn => hother i hn rfl

/-- A drawn inode is one that is in use. -/
theorem step_fresh {op : Op} {r : op.Res} (h : Knows c m s) (hsem : Sem s op r s')
    (hnext : s.next ≤ s'.next) {n : ℕ} (hn : (m.step op r).temporary = some n) : n < s'.next := by
  by_cases hop : op = .mkstemp
  · subst hop
    cases hsem with
    | mkstemp =>
      obtain rfl := Option.some.inj hn
      exact Nat.lt_succ_self _
    | mkstemp_failed => exact h.fresh n hn
  · rw [Seen.step_temporary r hop] at hn
    exact lt_of_lt_of_le (h.fresh n hn) hnext

/-- A look that shows what the replay has done. -/
theorem Knows.look (h : Knows c m s) {p : Prop} [Decidable p] (hp : ¬ p) : Knows c (m.look p) s :=
  { h with misled := by rw [Seen.look, h.misled, Bool.false_or, decide_eq_false hp] }

theorem Knows.select (h : Knows c m s) (i : ℕ) : Knows c (m.select i (s.contents i)) s := by
  unfold Seen.select
  split_ifs with hi hlinked
  · refine { h with read_back := fun n rows hn hrows => ?_ }
    obtain rfl := Option.some.inj (hi.symm.trans hn)
    exact Option.some.inj hrows
  · refine { h with verified := fun n rows hn hrows => ?_ }
    obtain rfl := Option.some.inj (hi.symm.trans hn)
    exact Option.some.inj hrows
  · exact h

/-- SQLite has written to the replay's own file. -/
theorem Knows.written {n : ℕ} (h : Knows c m s) (hn : m.temporary = some n) (hw : s.Written n s') :
    Knows c m.written s' where
  misled := h.misled
  links := fun entry hentry => by
    rw [hw.entries _ fun suffix heq => by cases heq]
    exact h.links entry hentry
  idle := h.idle
  fresh := fun k hk => hw.next ▸ h.fresh k hk
  here := by
    intro k hk name
    obtain rfl := Option.some.inj (hn.symm.trans hk)
    -- a side file of SQLite is no entry of the database file
    by_cases hside : ∃ suffix, name = .side n suffix
    · obtain ⟨suffix, rfl⟩ := hside
      constructor
      · intro hfile
        rcases hw.sides suffix with hnone | hsome
        · rw [hnone] at hfile
          cases hfile
        · rw [hsome] at hfile
          cases hfile
      · exact fun hholds => absurd hholds id
    · rw [hw.entries name fun suffix heq => hside ⟨suffix, heq⟩]
      exact h.here n hn name
  sides := by
    intro k _ suffix hsuffix
    refine absurd ?_ hsuffix
    cases suffix <;> simp [Seen.written]
  source := h.source
  verified := fun _ _ _ hrows => by cases hrows
  read_back := fun _ _ _ hrows => by cases hrows

/-- A name of the replay's that is gone. -/
theorem Knows.gone {name : Name} (h : Knows c m s) (hallowed : allowed c m (.unlink name))
    (answer : Except Exn Unit) (hnext : s'.next = s.next) (hcontents : s'.contents = s.contents)
    (hgone : ∀ i, s'.entries name ≠ some (.file i))
    (hside : ∀ n suffix, name = .side n suffix → s'.entries name = none)
    (hother : ∀ other, other ≠ name → s'.entries other = s.entries other) :
    Knows c (m.step (.unlink name) answer) s' := by
  have hlinks : ∀ entry ∈ m.links, s'.entries (.given entry) = some .symlink := by
    intro entry hentry
    have hsymlink := h.links entry hentry
    rw [hother, hsymlink]
    rintro rfl
    -- A link of the replay's own is a file.
    rcases hallowed with hmisled | hlinked
    · rw [h.misled] at hmisled
      cases hmisled
    · obtain ⟨n, -, hfile⟩ := h.holds (show m.holds (.given entry) from hlinked)
      rw [hsymlink] at hfile
      cases hfile
  have hfresh : ∀ n, m.temporary = some n → n < s'.next := fun n hn => hnext ▸ h.fresh n hn
  have hread : ∀ n rows, m.temporary = some n → m.verified = some rows → s'.contents n = rows :=
    fun n rows hn hrows => hcontents ▸ h.verified n rows hn hrows
  have hback : ∀ n rows, m.temporary = some n → m.read_back = some rows → s'.contents n = rows :=
    fun n rows hn hrows => hcontents ▸ h.read_back n rows hn hrows
  cases name with
  | drawn k =>
    have hk : m.temporary = some k := hallowed
    refine ⟨h.misled, hlinks, fun hidle => ⟨rfl, (h.idle hidle).2⟩, hfresh, ?_, ?_, h.source,
      hread, hback⟩
    · intro n hn other
      by_cases heq : other = .drawn k
      · subst heq
        exact ⟨fun hfile => absurd hfile (hgone n), fun hholds => by cases hholds.2⟩
      · rw [hother other heq, h.here n hn other]
        cases other with
        | given entry => exact Iff.rfl
        | side j suffix => exact Iff.rfl
        | drawn j =>
          have hne : m.temporary ≠ some j :=
            fun hj => heq (congrArg Name.drawn (Option.some.inj (hj.symm.trans hk)))
          exact ⟨fun hholds => absurd hholds.1 hne, fun hholds => absurd hholds.1 hne⟩
    · intro n hn suffix hsuffix
      rw [hother _ fun heq => by cases heq]
      exact h.sides n hn suffix hsuffix
  | side k suffix =>
    refine ⟨h.misled, hlinks, h.idle, hfresh, ?_, ?_, h.source, hread, hback⟩
    · intro n hn other
      by_cases heq : other = .side k suffix
      · subst heq
        exact ⟨fun hfile => absurd hfile (hgone n), fun hholds => absurd hholds id⟩
      · rw [hother other heq]
        exact h.here n hn other
    · intro n hn suffix' hsuffix
      by_cases heq : Name.side n suffix' = .side k suffix
      · rw [heq]
        exact hside k suffix rfl
      · rw [hother _ heq]
        refine h.sides n hn suffix' fun hmem => hsuffix (List.mem_filter.mpr ⟨hmem, ?_⟩)
        have hk : m.temporary = some k := hallowed
        obtain rfl := Option.some.inj (hn.symm.trans hk)
        exact decide_eq_true fun hsame => heq (hsame ▸ rfl)
  | given p =>
    have hp : m.linked = some p := hallowed.resolve_left (by rw [h.misled]; simp)
    refine ⟨h.misled, hlinks, fun hidle => ⟨(h.idle hidle).1, rfl⟩, hfresh, ?_, ?_,
      fun _ hentry => (by cases hentry), hread, hback⟩
    · intro n hn other
      by_cases heq : other = .given p
      · subst heq
        exact ⟨fun hfile => absurd hfile (hgone n), fun hholds => by cases hholds⟩
      · rw [hother other heq, h.here n hn other]
        cases other with
        | drawn j => exact Iff.rfl
        | side j suffix => exact Iff.rfl
        | given entry =>
          refine ⟨fun hholds => ?_, fun hholds => by cases hholds⟩
          exact absurd (congrArg Name.given (Option.some.inj (Eq.trans (Eq.symm hholds) hp))) heq
    · intro n hn suffix hsuffix
      rw [hother _ fun heq => by cases heq]
      exact h.sides n hn suffix hsuffix

/-- The replay links its file. -/
theorem Knows.link {n : ℕ} {entry : String} (h : Knows c m s) (hallowed : allowed c m (.link n entry))
    (hfree : s.entries (.given entry) = none) :
    Knows c (m.step (.link n entry) (.ok ())) (s.put (.given entry) (.file n)) := by
  obtain ⟨⟨hn, hstored⟩, hlinked, -, hsource⟩ := hallowed
  refine ⟨h.misled, ?_, fun hidle => ?_, h.fresh, ?_, ?_, ?_, h.verified,
    fun _ _ _ hrows => (by cases hrows)⟩
  · intro other hother
    rw [Disk.put_other _ (ne_of_free hfree (h.links other hother))]
    exact h.links other hother
  · rw [show m.temporary = none from hidle] at hn
    cases hn
  · intro k hk name
    obtain rfl := Option.some.inj (hn.symm.trans hk)
    by_cases heq : name = .given entry
    · subst heq
      rw [Disk.put_self]
      exact ⟨fun _ => rfl, fun _ => rfl⟩
    · rw [Disk.put_other _ heq, h.here n hn name]
      cases name with
      | drawn j => exact Iff.rfl
      | side j suffix => exact Iff.rfl
      | given other =>
        refine ⟨fun hholds => ?_, fun hholds => ?_⟩
        · rw [show m.linked = some other from hholds] at hlinked
          cases hlinked
        · exact absurd (congrArg Name.given (Option.some.inj hholds).symm) heq
  · intro k hk suffix hsuffix
    rw [Disk.put_other _ fun heq => by cases heq]
    exact h.sides k hk suffix hsuffix
  · -- A source of this name is a symbolic link, but the name is free.
    intro other hother hsame
    obtain rfl := Option.some.inj hother
    have hsymlink := h.links entry (hsource hsame)
    rw [hfree] at hsymlink
    cases hsymlink

/-- The replay draws its file. -/
theorem Knows.draw (hwf : s.Wf) (h : Knows c m s) (hallowed : allowed c m .mkstemp) :
    Knows c (m.step .mkstemp (.ok s.next)) s.draw := by
  have htemporary : m.temporary = none := hallowed
  obtain ⟨hstored, hlinked⟩ := h.idle htemporary
  refine ⟨h.misled, ?_, fun hidle => (by cases hidle), ?_, ?_, ?_, ?_, ?_, ?_⟩
  · intro entry hentry
    rw [Disk.draw, Disk.store_other _ fun heq => by cases heq]
    exact h.links entry hentry
  · rintro n ⟨⟩
    exact Nat.lt_succ_self _
  · rintro n ⟨⟩ name
    -- the new file stands under its drawn name and nowhere else
    by_cases heq : name = .drawn s.next
    · subst heq
      rw [Disk.draw, Disk.store_self]
      exact ⟨fun _ => ⟨rfl, rfl⟩, fun _ => rfl⟩
    · rw [Disk.draw, Disk.store_other _ heq]
      refine ⟨fun hfile => absurd (hwf.file name s.next hfile) (lt_irrefl _), fun hholds => ?_⟩
      cases name with
      | drawn j => exact absurd (congrArg Name.drawn (Option.some.inj hholds.1).symm) heq
      | side j suffix => exact absurd hholds id
      | given entry =>
        rw [show m.linked = some entry from hholds] at hlinked
        cases hlinked
  · rintro n ⟨⟩ suffix -
    rw [Disk.draw, Disk.store_other _ fun heq => by cases heq]
    by_contra hsome
    obtain ⟨entry, hentry⟩ := Option.ne_none_iff_exists'.mp hsome
    exact absurd (hwf.side s.next suffix entry hentry).2 (lt_irrefl _)
  · intro entry hentry
    rw [show m.linked = some entry from hentry] at hlinked
    cases hlinked
  · rintro n rows - ⟨⟩
  · rintro n rows - ⟨⟩

/-- **One step keeps what its replay knows.** -/
theorem step_knows {op : Op} {r : op.Res} (hwf : s.Wf) (h : Knows c m s) (hallowed : allowed c m op)
    (hsem : Sem s op r s') : Knows c (m.step op r) s' := by
  cases hsem with
  | ask _ question answer =>
    cases question with
    | finish_agent_invocation status =>
      exact ⟨h.misled, h.links, h.idle, h.fresh, h.here, h.sides, h.source, h.verified, h.read_back⟩
    | _ => exact h
  | is_symlink _ entry =>
    refine h.look ?_
    rintro ⟨hsymlink, hlinked⟩
    obtain ⟨n, -, hfile⟩ := h.holds (show m.holds (.given entry) from hlinked)
    rw [of_decide_eq_true hsymlink] at hfile
    cases hfile
  | exists_ _ name answer hanswer =>
    refine h.look ?_
    rintro ⟨rfl, hholds⟩
    obtain ⟨n, -, hfile⟩ := h.holds hholds
    rw [hfile] at hanswer
    exact absurd (hanswer fun heq => by cases heq) (by simp)
  | resolve _ strict entry target htarget =>
    show Knows c (if target = entry then m else { m with links := entry :: m.links }) s
    split_ifs with heq
    · exact h
    · refine { h with links := fun other hother => ?_ }
      rcases List.mem_cons.mp hother with rfl | hother
      · exact not_not.mp fun hne => heq (htarget hne)
      · exact h.links other hother
  | samefile _ entry n answer hanswer =>
    refine h.look ?_
    rintro ⟨hstored, hiff⟩
    obtain ⟨k, hk, hfile⟩ := h.holds hstored
    obtain rfl : k = n := Option.some.inj (hk.symm.trans hstored.1)
    -- The answer is right: both names are the replay's file.
    have hright : answer = true ↔ m.linked = some entry := by
      rw [hanswer]
      refine ⟨?_, fun hlinked => ⟨k, (h.here k hk (.given entry)).mpr hlinked, hfile⟩⟩
      rintro ⟨i, hentry, hi⟩
      rw [hfile] at hi
      obtain rfl := Entry.file.inj (Option.some.inj hi)
      exact (h.here k hk (.given entry)).mp hentry
    by_cases hlinked : m.linked = some entry
    · exact hiff.mp (hright.mpr hlinked) hlinked
    · exact hlinked (hright.mp (hiff.mpr hlinked))
  | samefile_failed _ entry n e hmissing =>
    refine h.look ?_
    rintro ⟨hstored, hlinked⟩
    obtain ⟨k, hk, hfile⟩ := h.holds hstored
    obtain ⟨j, hj, hentry⟩ := h.holds (show m.holds (.given entry) from hlinked)
    rcases hmissing with hnone | hsymlink | hnone
    · rw [hentry] at hnone
      cases hnone
    · rw [hentry] at hsymlink
      cases hsymlink
    · rw [hfile] at hnone
      cases hnone
  | mkstemp => exact h.draw hwf hallowed
  | link _ n i entry hsource hfree =>
    obtain ⟨hfile, -⟩ := hwf.drawn n _ hsource
    obtain rfl := Entry.file.inj hfile
    exact h.link hallowed hfree
  | unlink _ name entry hentry hdirectory =>
    refine h.gone hallowed (.ok ()) rfl rfl (fun i => by simp) (fun _ _ _ => Disk.remove_self) ?_
    exact fun other hother => Disk.remove_other hother
  | unlink_missing _ name answer hmissing =>
    refine h.gone hallowed answer rfl rfl (fun i hfile => ?_) ?_ fun _ _ => rfl
    · rcases hmissing with hnone | hdirectory
      · rw [hnone] at hfile
        cases hfile
      · rw [hdirectory] at hfile
        cases hfile
    · rintro n suffix rfl
      rcases hmissing with hnone | hdirectory
      · exact hnone
      · exact absurd (hwf.side n suffix _ hdirectory).1 (by simp)
  | open_readonly _ entry i hentry =>
    refine h.look ?_
    rintro ⟨hlinked, hne⟩
    obtain ⟨n, hn, hfile⟩ := h.holds (show m.holds (.given entry) from hlinked)
    rcases hentry with hentry | hentry
    · rw [hfile] at hentry
      obtain rfl := Entry.file.inj (Option.some.inj hentry)
      exact hne hn
    · rw [hfile] at hentry
      cases hentry
  | open_stage _ _ n answer hwritten => exact h.written hallowed hwritten
  | execute _ _ n answer hwritten =>
    have hw := h.written hallowed hwritten
    cases answer with
    | error e => exact hw
    | ok result =>
      exact ⟨hw.misled, hw.links, hw.idle, hw.fresh, hw.here, hw.sides, hw.source, hw.verified,
        hw.read_back⟩
  | close_stage _ _ n hwritten hsame =>
    have hn : m.temporary = some n := hallowed
    have hw := h.written hn hwritten
    refine ⟨hw.misled, hw.links, hw.idle, hw.fresh, hw.here, hw.sides, hw.source, ?_, ?_⟩
    · intro k rows hk hrows
      obtain rfl := Option.some.inj (hn.symm.trans hk)
      rw [hsame]
      exact h.verified n rows hn hrows
    · intro k rows hk hrows
      obtain rfl := Option.some.inj (hn.symm.trans hk)
      rw [hsame]
      exact h.read_back n rows hn hrows
  | close_failed _ _ n e hwritten => exact h.written hallowed hwritten
  | select _ i => exact h.select i
  | create _ entry foreign hfree =>
    have hchanges := step_changes hwf h hallowed (.create s entry foreign hfree)
    have hnone : m.temporary = none := hallowed
    exact h.changes hchanges fun n hn => by rw [hnone] at hn; cases hn
  | _ => exact h

end Step

/-! ## What a replay does -/

section Keeps

variable {α β : Type} {c : Call} {m : Seen}

/-- Every step of a program is allowed; it ends with `Q` on a return and `X` on an
exception. -/
abbrev Keeps (c : Call) (Q : Seen → α → Prop) (X : Seen → Prop) (m : Seen) (p : Program α) : Prop :=
  Obeys Seen.step (allowed c) Q (fun m _ => X m) m p

theorem keeps_lift {x : Except Exn α} {f : α → Program β} {Q : Seen → β → Prop} {X : Seen → Prop}
    (hX : X m) (h : ∀ a, x = .ok a → Keeps c Q X m (f a)) : Keeps c Q X m ((Prog.lift x).bind f) :=
  Obeys.bind (Obeys.lift h fun _ _ => hX)

/-- A step that may raise. -/
theorem keeps_attempt {p : Program (Except Exn α)} {Q : Seen → α → Prop} {X : Seen → Prop}
    (h : Keeps c (fun m answer => (∀ a, answer = .ok a → Q m a) ∧
      (∀ e, answer = .error e → X m)) X m p) :
    Keeps c Q X m (attempt p) :=
  Obeys.bind (h.mono (fun _ _ hm => Obeys.lift hm.1 hm.2) fun _ _ hm => hm)

/-- The steps of the checks: looks, reads of the source and questions. -/
def Quiet : Op → Prop
  | .ask (.finish_agent_invocation _) => False
  | .ask _ => True
  | .is_symlink _ => True
  | .is_file _ => True
  | .exists_ _ => True
  | .resolve _ _ => True
  | .open_readonly _ => True
  | .select _ => True
  | .close_readonly => True
  | _ => False

/-- Before the temporary file: nothing is stored, linked or left, and these names were
symbolic links. -/
structure Before (names : List String) (m : Seen) : Prop where
  temporary : m.temporary = none
  stored : m.stored = false
  linked : m.linked = none
  left : m.left = []
  late : m.late = false
  links : ∀ entry ∈ names, entry ∈ m.links

theorem quiet_step {names : List String} (op : Op) (h : Before names m) (hop : Quiet op) :
    allowed c m op ∧ ∀ r, Before names (m.step op r) := by
  cases op with
  | ask question =>
    cases question with
    | finish_agent_invocation status => exact absurd hop id
    | _ => exact ⟨trivial, fun _ => h⟩
  | is_symlink entry => exact ⟨trivial, fun _ => ⟨h.temporary, h.stored, h.linked, h.left, h.late,
    h.links⟩⟩
  | is_file entry => exact ⟨trivial, fun _ => h⟩
  | exists_ name => exact ⟨trivial, fun _ => ⟨h.temporary, h.stored, h.linked, h.left, h.late, h.links⟩⟩
  | resolve strict entry =>
    refine ⟨trivial, fun r => ?_⟩
    cases r with
    | error e => exact h
    | ok target =>
      show Before names (if target = entry then m else { m with links := entry :: m.links })
      split_ifs
      · exact h
      · exact ⟨h.temporary, h.stored, h.linked, h.left, h.late,
          fun other hother => List.mem_cons_of_mem _ (h.links other hother)⟩
  | open_readonly entry =>
    refine ⟨trivial, fun r => ?_⟩
    cases r with
    | error e => exact h
    | ok i => exact ⟨h.temporary, h.stored, h.linked, h.left, h.late, h.links⟩
  | select i =>
    refine ⟨trivial, fun r => ?_⟩
    cases r with
    | error e => exact h
    | ok rows =>
      show Before names (m.select i rows)
      -- without a temporary file a reading is of somebody else's
      rw [Seen.select, if_neg (by rw [h.temporary]; simp)]
      exact h
  | close_readonly => exact ⟨trivial, fun _ => h⟩
  | _ => exact absurd hop id

/-- A program of such steps. -/
theorem quiet_keeps {names : List String} {p : Program α} (hp : p.All Quiet) (h : Before names m) :
    Keeps c (fun m _ => Before names m) (Before names) m p :=
  Obeys.keeps hp (fun _ op hm hop => quiet_step op hm hop) h

theorem quiet_attempt {p : Program (Except Exn α)} (h : p.All Quiet) : (attempt p).All Quiet :=
  h.bind fun answer => Prog.All.lift answer

theorem check_existing_quiet (path : Location) : (check_existing path).All Quiet := by
  refine Prog.All.bind ⟨trivial, fun _ => trivial⟩ fun symlink => Prog.All.bind
    (Prog.All.lift _) fun _ => ?_
  exact Prog.All.bind ⟨trivial, fun _ => trivial⟩ fun file => Prog.All.lift _

theorem check_new_quiet (path : Location) : (check_new path).All Quiet := by
  refine Prog.All.bind (Prog.All.lift _) fun _ => ?_
  refine Prog.All.bind (quiet_attempt ⟨trivial, fun _ => trivial⟩) fun is_dir => ?_
  refine Prog.All.bind (Prog.All.lift _) fun _ => ?_
  refine Prog.All.bind (quiet_attempt ⟨trivial, fun _ => trivial⟩) fun symlink => ?_
  refine Prog.All.bind (Prog.All.lift _) fun _ => Prog.All.bind ⟨trivial,
    fun _ => trivial⟩ fun taken => ?_
  refine Prog.All.bind (Prog.All.lift _) fun _ => Prog.All.bind ⟨trivial,
    fun _ => trivial⟩ fun dangling => ?_
  exact Prog.All.lift _

theorem load_quiet (inode : ℕ) (digest : Arg PyStr) : (load inode digest).All Quiet := by
  refine Prog.All.bind (Prog.All.lift _) fun _ => ?_
  exact Prog.All.bind (quiet_attempt ⟨trivial, fun _ => trivial⟩) fun _ => Prog.All.lift _

theorem load_readonly_quiet (entry : String) (digest : Arg PyStr) :
    (load_readonly entry digest).All Quiet := by
  refine Prog.All.bind (quiet_attempt ⟨trivial, fun _ => trivial⟩) fun inode => ?_
  refine Prog.All.bind (Prog.All.handle (load_quiet inode digest) fun e => ?_) fun artifact => ?_
  · exact Prog.All.bind (quiet_attempt ⟨trivial, fun _ => trivial⟩) fun _ => trivial
  · exact Prog.All.bind (quiet_attempt ⟨trivial, fun _ => trivial⟩) fun _ => trivial

theorem load_source_quiet (path : Location) (digest : String) :
    (_load_source_candidate path digest).All Quiet := by
  refine Prog.All.handle ?_ fun _ => trivial
  exact Prog.All.bind (load_readonly_quiet _ _) fun artifact =>
    Prog.All.bind (Prog.All.lift _) fun _ => trivial

theorem validate_source_quiet (profile_digest : String) (a : Arguments) (source : Location) :
    (validate_source profile_digest a source).All Quiet :=
  Prog.All.bind (Prog.All.lift _) fun digest => Prog.All.bind (Prog.All.lift _) fun _ =>
    Prog.All.bind (Prog.All.lift _) fun _ => load_source_quiet source digest

theorem check_output_quiet (output : Location) : (check_output output).All Quiet := by
  refine Prog.All.bind (quiet_attempt ⟨trivial, fun _ => trivial⟩) fun _ => ?_
  refine Prog.All.bind ⟨trivial, fun _ => trivial⟩ fun taken => Prog.All.bind
    (Prog.All.lift _) fun _ => ?_
  exact Prog.All.bind ⟨trivial, fun _ => trivial⟩ fun symlink => Prog.All.lift _

theorem observed_worker_quiet (a : Arguments) : (observed_worker a).All Quiet := by
  unfold observed_worker
  split_ifs
  · refine Prog.All.bind (Prog.All.handle
      (quiet_attempt ⟨trivial, fun _ => trivial⟩) fun _ => ?_) fun _ => ?_
    · trivial
    · trivial
  · trivial

theorem permit_quiet (run : Option String) : (permit run).All Quiet := by
  refine Prog.All.bind (Prog.All.handle (quiet_attempt ⟨trivial,
    fun _ => trivial⟩) fun _ => ?_) fun _ => ?_
  · trivial
  refine Prog.All.bind (Prog.All.lift _) fun eligible => ?_
  show Prog.All Quiet (ite _ _ _)
  split_ifs
  · exact quiet_attempt ⟨trivial, fun _ => trivial⟩
  · trivial

theorem pin_decision_quiet (run : Option String) (snapshot : Snapshot) :
    (pin_decision run snapshot).All Quiet := by
  unfold pin_decision
  split_ifs
  · exact Prog.All.handle (quiet_attempt ⟨trivial, fun _ => trivial⟩) fun _ => trivial
  · trivial

theorem fetch_quiet (run : Option String) : (fetch run).All Quiet := by
  refine Prog.All.bind (permit_quiet run) fun eligible => Prog.All.bind (Prog.All.lift _) fun _ => ?_
  refine Prog.All.bind (Prog.All.handle (quiet_attempt ⟨trivial,
    fun _ => trivial⟩) fun _ => ?_) fun snapshot => ?_
  · trivial
  refine Prog.All.bind (pin_decision_quiet run snapshot) fun accepted => ?_
  exact Prog.All.bind (Prog.All.lift _) fun _ => Prog.All.bind (Prog.All.lift _) fun commit =>
    Prog.All.bind (Prog.All.lift _) fun _ => trivial

/-! ### Before the temporary file -/

/-- A replay leaves nothing behind, unless the directory misled it or its final event was
answered with no integer. -/
structure Clean (m : Seen) : Prop where
  stored : m.stored = false
  linked : m.linked = none
  left : m.left = []

/-- How a replay that raises ends. -/
def Ended (m : Seen) : Prop := m.misled = true ∨ m.late = true ∨ Clean m

theorem Before.ended {names : List String} (h : Before names m) : Ended m :=
  .inr (.inr ⟨h.stored, h.linked, h.left⟩)

/-- The names of a replay whose output is its source. -/
def doubled (source output : Location) : List String :=
  if source.entry = output.entry then [output.entry] else []

theorem path_of_ok {value : Arg Location} {path : Location} (h : path_of value = .ok path) :
    value = .of path := by
  cases value with
  | of other => rw [Except.ok.inj h]
  | other => cases h

/-- A path that passed its looks. -/
theorem checked_path_keeps {value : Arg Location} {check : Location → Program Unit} {e : Exn}
    (hcheck : ∀ path, (check path).All Quiet) (h : Before [] m) :
    Keeps c (fun m path => Before [] m ∧ value = .of path) (Before []) m
      ((do
        let path ← Prog.lift (path_of value)
        check path
        return path : Program _).handle fun _ => throw e) := by
  refine Obeys.handle (keeps_lift h fun path hpath => Obeys.bind ?_)
  refine (quiet_keeps (hcheck path) h).mono (fun m _ hm => ?_) fun m e hm => hm
  exact ⟨hm, path_of_ok hpath⟩

theorem Before.mono {names names' : List String} (h : Before names m) (hsub : ∀ n ∈ names', n ∈ names) :
    Before names' m := { h with links := fun n hn => h.links n (hsub n hn) }

/-- A name that does not lead to itself is a symbolic link. -/
theorem Before.resolve {names : List String} (h : Before names m) (strict : Bool)
    (entry target : String) :
    Before (if target = entry then names else entry :: names)
      (m.step (.resolve strict entry) (.ok target)) := by
  show Before _ (if target = entry then m else { m with links := entry :: m.links })
  split_ifs
  · exact h
  · refine ⟨h.temporary, h.stored, h.linked, h.left, h.late, fun other hother => ?_⟩
    rcases List.mem_cons.mp hother with rfl | hother
    · exact List.mem_cons_self
    · exact List.mem_cons_of_mem _ (h.links other hother)

/-- What the comparison of the paths shows: if it tells a name from itself, the name was a
symbolic link. -/
theorem paths_alias_keeps (source output : Location) (h : Before [] m) :
    Keeps c (fun m same => Before [] m ∧ (same = false → Before (doubled source output) m))
      (Before []) m
      (_paths_alias source output) := by
  refine Obeys.handle (Obeys.bind (keeps_attempt ⟨trivial,
    fun first => ⟨fun a ha => ?_, fun e he => ?_⟩⟩))
  · subst ha
    have hfirst := h.resolve true source.entry a
    refine Obeys.bind (keeps_attempt ⟨trivial, fun second => ⟨fun b hb => ?_, fun e he => ?_⟩⟩)
    · subst hb
      have hsecond := hfirst.resolve false output.entry b
      refine ⟨hsecond.mono fun n hn => (by cases hn), fun hsame => hsecond.mono fun n hn => ?_⟩
      have hne : a ≠ b := of_decide_eq_false hsame
      unfold doubled at hn
      split_ifs at hn with hnames
      · obtain rfl := List.mem_singleton.mp hn
        rw [hnames]
        by_cases hb : b = output.entry
        · rw [if_pos hb, if_neg fun ha => hne (ha.trans hb.symm)]
          exact List.mem_cons_self
        · rw [if_neg hb]
          exact List.mem_cons_self
      · cases hn
    · subst he
      exact hfirst.mono fun n hn => by cases hn
  · subst he
    exact h

/-- What a replay has checked before it asks its collaborators. -/
structure Passed (a : Arguments) (v : Validated) (m : Seen) : Prop where
  source : a.source_database = .of v.source
  output : a.output_database = .of v.output
  before : Before (doubled v.source v.output) m

theorem validate_keeps (profile_digest : String) (a : Arguments) (h : Before [] m) :
    Keeps c (fun m v => Passed a v m) (Before []) m (validate profile_digest a) := by
  refine Obeys.bind ((checked_path_keeps check_existing_quiet h).mono ?_ fun _ _ hm => hm)
  rintro m source ⟨hm, hsource⟩
  refine Obeys.bind ((checked_path_keeps check_new_quiet hm).mono ?_ fun _ _ hm => hm)
  rintro m output ⟨hm, houtput⟩
  refine Obeys.bind ((paths_alias_keeps source output hm).mono ?_ fun _ _ hm => hm)
  rintro m same ⟨hm, hsame⟩
  refine keeps_lift hm fun u hdiffer => ?_
  have hbefore := hsame (Bool.eq_false_of_not_eq_true (raise_if_ok.mp hdiffer))
  refine Obeys.bind ((quiet_keeps (validate_source_quiet profile_digest a source) hbefore).mono ?_ ?_)
  · exact fun m loaded hm => ⟨hsource, houtput, hm⟩
  · exact fun m e hm => hm.mono fun n hn => by cases hn

/-! ### The commit -/

/-- The replay's file is under its drawn name only. -/
structure Stored (names : List String) (n : ℕ) (m : Seen) : Prop where
  temporary : m.temporary = some n
  stored : m.stored = true
  linked : m.linked = none
  links : ∀ entry ∈ names, entry ∈ m.links

theorem Stored.execute {names : List String} {n : ℕ} (h : Stored names n m)
    (answer : Except Exn ExecutionResult) :
    Stored names n (m.step (.execute n) answer) := by
  cases answer <;> exact ⟨h.temporary, h.stored, h.linked, h.links⟩

/-- SQLite was given the file. -/
theorem Stored.written {names : List String} {n : ℕ} (h : Stored names n m) :
    Stored names n m.written :=
  ⟨h.temporary, h.stored, h.linked, h.links⟩

theorem Stored.close {names : List String} {n : ℕ} (h : Stored names n m) (answer : Except Exn Unit) :
    Stored names n (m.step (.close_stage n) answer) := by
  cases answer with
  | ok u => exact ⟨h.temporary, h.stored, h.linked, h.links⟩
  | error e => exact h.written

/-- The stage is open while `body` runs, and what `body` has established survives that it is
closed. -/
theorem with_stage_keeps {names : List String} {n : ℕ} {body : Program α} {Q : Seen → α → Prop}
    (hbody : ∀ m, Stored names n m → Keeps c (fun m a => Stored names n m ∧ Q m a)
      (Stored names n) m body)
    (hQ : ∀ m a, Q m a → Q (m.step (.close_stage n) (.ok ())) a) (h : Stored names n m) :
    Keeps c (fun m a => Stored names n m ∧ Q m a) (Stored names n) m (with_stage n body) := by
  refine Obeys.bind (keeps_attempt ⟨h.temporary, fun answer => ⟨fun _ _ => ?_, fun _ _ => h.written⟩⟩)
  refine Obeys.bind (Obeys.handle ((hbody _ h.written).mono (fun m a hm => ?_) fun m e hm => ?_))
  · refine Obeys.bind (keeps_attempt ⟨hm.1.temporary, fun answer => ⟨fun u hu => ?_, fun _ _ => ?_⟩⟩)
    · subst hu
      exact ⟨hm.1.close _, hQ m a hm.2⟩
    · exact hm.1.close _
  · exact Obeys.bind (keeps_attempt ⟨hm.temporary,
      fun answer => ⟨fun _ _ => hm.close _, fun _ _ => hm.close _⟩⟩)

/-- What the temporary file held passed the checks of the exact stage. -/
def Verified (render : StagedArtifact → Except Exn Json) (candidate : PyStr) (result : ExecutionResult)
    (preview : Json) (rows : Database) : Prop :=
  ∃ artifact, load_row rows result.staged_change_digest = .ok artifact ∧ render artifact = .ok preview ∧
    exact_stage preview artifact.payload candidate = .ok ()

/-- What the committed file holds has the same preview. -/
def ReadBack (render : StagedArtifact → Except Exn Json) (result : ExecutionResult) (preview : Json)
    (rows : Database) : Prop :=
  ∃ committed seen, load_row rows result.staged_change_digest = .ok committed ∧
    render committed = .ok seen ∧ py_eq seen preview = true

variable {render : StagedArtifact → Except Exn Json}

/-- The verification passed, and so did the checks of what it left in the file. -/
def Staged (render : StagedArtifact → Except Exn Json) (candidate : PyStr) (result : ExecutionResult)
    (preview : Json) (m : Seen) : Prop :=
  m.executed = some result ∧ result.verified = true ∧
    ∃ rows, m.verified = some rows ∧ Verified render candidate result preview rows

theorem run_stage_keeps {names : List String} {n : ℕ} (candidate : PyStr) (h : Stored names n m) :
    Keeps c (fun m done => Stored names n m ∧ Staged render candidate done.1 done.2 m)
      (Stored names n) m
      (run_stage render n candidate) := by
  refine with_stage_keeps (fun m h => ?_) (fun m a hm => hm) h
  refine Obeys.bind (keeps_attempt ⟨h.temporary, fun answer =>
    ⟨fun result hresult => ?_, fun _ _ => h.execute _⟩⟩)
  have hexecuted : (m.step (.execute n) answer).executed = some result := by rw [hresult]; rfl
  replace h := h.execute answer
  generalize m.step (.execute n) answer = m at h hexecuted ⊢
  refine keeps_lift h fun _ hverified => keeps_lift h fun _ _ => Obeys.bind (keeps_lift h fun _ _ => ?_)
  refine Obeys.bind (keeps_attempt ⟨trivial, fun answer => ⟨fun rows hrows => ?_, fun e he => ?_⟩⟩)
  · subst hrows
    -- nothing is linked yet, so what is read here is what was verified
    have hselect : m.step (.select n) (.ok rows) = { m with verified := some rows } := by
      show m.select n rows = _
      rw [Seen.select, if_pos h.temporary, h.linked]
      rfl
    rw [hselect]
    have h' : Stored names n { m with verified := some rows } :=
      ⟨h.temporary, h.stored, h.linked, h.links⟩
    refine Obeys.lift (fun artifact hartifact => ?_) fun _ _ => h'
    refine keeps_lift h' fun preview hpreview => keeps_lift h' fun _ hexact => ?_
    have hpassed : result.verified = true := by simpa using raise_if_ok.mp hverified
    exact ⟨h', hexecuted, hpassed, rows, rfl, artifact, hartifact, hpreview, hexact⟩
  · subst he
    exact h

/-- The output is the replay's file, which the temporary name holds too. -/
structure Linked (n : ℕ) (entry : String) (m : Seen) : Prop where
  temporary : m.temporary = some n
  stored : m.stored = true
  linked : m.linked = some entry

theorem link_keeps {names : List String} {n : ℕ} {output : Location}
    {V : Option ExecutionResult → Option Database → Prop} (h : Stored names n m)
    (hverified : V m.executed m.verified) (houtput : c.output = some output.entry)
    (hsource : c.source = some output.entry → output.entry ∈ names) :
    Keeps c (fun m _ => Linked n output.entry m ∧ V m.executed m.verified) (Stored names n) m
      (_link_without_overwrite n output) := by
  refine Obeys.bind ⟨trivial, fun taken => ?_⟩
  -- the two tests look at the output and change nothing
  have h₁ : Stored names n (m.step (.exists_ (.given output.entry)) taken) :=
    ⟨h.temporary, h.stored, h.linked, h.links⟩
  have hverified₁ : V (m.step (.exists_ (.given output.entry)) taken).executed
      (m.step (.exists_ (.given output.entry)) taken).verified := hverified
  generalize m.step (.exists_ (.given output.entry)) taken = m at h₁ hverified₁ ⊢
  refine keeps_lift h₁ fun _ _ => Obeys.bind ⟨trivial, fun symlink => ?_⟩
  have h₂ : Stored names n (m.step (.is_symlink output.entry) symlink) :=
    ⟨h₁.temporary, h₁.stored, h₁.linked, h₁.links⟩
  have hverified₂ : V (m.step (.is_symlink output.entry) symlink).executed
      (m.step (.is_symlink output.entry) symlink).verified := hverified₁
  generalize m.step (.is_symlink output.entry) symlink = m at h₂ hverified₂ ⊢
  refine keeps_lift h₂ fun _ _ => Obeys.handle
    (keeps_attempt ⟨?_, fun answer => ⟨fun u hu => ?_, fun e he => ?_⟩⟩)
  · exact ⟨⟨h₂.temporary, h₂.stored⟩, h₂.linked, houtput, fun heq => h₂.links _ (hsource heq)⟩
  · subst hu
    exact ⟨⟨h₂.temporary, h₂.stored, rfl⟩, hverified₂⟩
  · subst he
    exact h₂

/-- What is read through the output is what the replay's file holds. -/
theorem load_readonly_keeps {n : ℕ} {entry : String}
    {V : Option ExecutionResult → Option Database → Prop} (h : Linked n entry m)
    (hverified : V m.executed m.verified) (digest : Arg PyStr) :
    Keeps c (fun m artifact => Linked n entry m ∧ V m.executed m.verified ∧
        (m.misled = true ∨ ∃ rows, m.read_back = some rows ∧ load_row rows digest = .ok artifact))
      (Linked n entry) m (load_readonly entry digest) := by
  refine Obeys.bind (keeps_attempt ⟨trivial, fun answer => ⟨fun i hi => ?_, fun e he => ?_⟩⟩)
  swap
  · subst he
    exact h
  subst hi
  have hopen : m.step (.open_readonly entry) (.ok i) =
      m.look (m.linked = some entry ∧ m.temporary ≠ some i) := rfl
  -- the entry was linked to the own file, so another one behind it means that the system
  -- misled the call
  have hown : (m.step (.open_readonly entry) (.ok i)).misled = true ∨ i = n := by
    by_cases hi : i = n
    · exact .inr hi
    · refine .inl ?_
      rw [hopen, Seen.look, decide_eq_true, Bool.or_true]
      refine ⟨h.linked, fun heq => hi ?_⟩
      exact Option.some.inj (heq.symm.trans h.temporary)
  have h₁ : Linked n entry (m.step (.open_readonly entry) (.ok i)) := ⟨h.temporary, h.stored, h.linked⟩
  have hverified₁ : V (m.step (.open_readonly entry) (.ok i)).executed
      (m.step (.open_readonly entry) (.ok i)).verified := hverified
  generalize m.step (.open_readonly entry) (.ok i) = m at hown h₁ hverified₁ ⊢
  have hload : Keeps c (fun m artifact => Linked n entry m ∧ V m.executed m.verified ∧
      (m.misled = true ∨ ∃ rows, m.read_back = some rows ∧ load_row rows digest = .ok artifact))
      (Linked n entry) m (load i digest) := by
    refine keeps_lift h₁ fun _ _ => ?_
    refine Obeys.bind (keeps_attempt ⟨trivial, fun answer => ⟨fun rows hrows => ?_, fun e he => ?_⟩⟩)
    · subst hrows
      by_cases hi : i = n
      · subst hi
        have hselect : m.step (.select i) (.ok rows) = { m with read_back := some rows } := by
          show m.select i rows = _
          rw [Seen.select, if_pos h₁.temporary, h₁.linked]
          rfl
        rw [hselect]
        exact Obeys.lift (fun artifact hartifact =>
          ⟨⟨h₁.temporary, h₁.stored, h₁.linked⟩, hverified₁, .inr ⟨rows, rfl, hartifact⟩⟩)
          fun _ _ => ⟨h₁.temporary, h₁.stored, h₁.linked⟩
      · have hselect : m.step (.select i) (.ok rows) = m := by
          show m.select i rows = _
          rw [Seen.select, if_neg fun heq => hi (Option.some.inj (heq.symm.trans h₁.temporary))]
        rw [hselect]
        exact Obeys.lift (fun artifact _ => ⟨h₁, hverified₁,
          .inl (hown.resolve_right hi)⟩) fun _ _ => h₁
    · subst he
      exact h₁
  refine Obeys.bind (Obeys.handle (hload.mono (fun m artifact hm => ?_) fun m e hm => ?_))
  · exact Obeys.bind (keeps_attempt ⟨trivial, fun answer => ⟨fun _ _ => hm, fun _ _ => hm.1⟩⟩)
  · exact Obeys.bind (keeps_attempt ⟨trivial, fun answer => ⟨fun _ _ => hm, fun _ _ => hm⟩⟩)

/-- The committed file was verified, and read back through the output. -/
def Committed (render : StagedArtifact → Except Exn Json) (candidate : PyStr) (m : Seen) : Prop :=
  ∃ result preview, Staged render candidate result preview m ∧
    (m.misled = true ∨ ∃ rows, m.read_back = some rows ∧ ReadBack render result preview rows)

/-- The replay's file is under its drawn name, and under the output if under any other. -/
structure Open (n : ℕ) (entry : String) (m : Seen) : Prop where
  temporary : m.temporary = some n
  stored : m.stored = true
  linked : m.linked = none ∨ m.linked = some entry

theorem Stored.open {names : List String} {n : ℕ} (h : Stored names n m) (entry : String) :
    Open n entry m :=
  ⟨h.temporary, h.stored, .inl h.linked⟩

theorem Linked.open {n : ℕ} {entry : String} (h : Linked n entry m) : Open n entry m :=
  ⟨h.temporary, h.stored, .inr h.linked⟩

theorem commit_output_keeps {names : List String} {n : ℕ} {output : Location} {candidate : PyStr}
    {result : ExecutionResult} {preview : Json} (h : Stored names n m)
    (hstaged : Staged render candidate result preview m) (houtput : c.output = some output.entry)
    (hsource : c.source = some output.entry → output.entry ∈ names) :
    Keeps c (fun m _ => Linked n output.entry m ∧ Committed render candidate m) (Open n output.entry) m
      (commit_output render n output result preview) := by
  let V := fun (executed : Option ExecutionResult) (verified : Option Database) =>
    executed = some result ∧ result.verified = true ∧
      ∃ rows, verified = some rows ∧ Verified render candidate result preview rows
  refine Obeys.bind ((link_keeps (V := V) h hstaged houtput hsource).mono ?_ fun _ _ hm => hm.open _)
  rintro m u ⟨hlinked, hV⟩
  refine Obeys.bind ((load_readonly_keeps (V := V) hlinked hV result.staged_change_digest).mono ?_
    fun _ _ hm => hm.open)
  rintro m committed ⟨hlinked, hV, hread⟩
  refine keeps_lift hlinked.open fun seen hseen => keeps_lift hlinked.open fun u hsame => ?_
  refine ⟨hlinked, result, preview, hV, hread.imp_right ?_⟩
  rintro ⟨rows, hrows, hrow⟩
  exact ⟨rows, hrows, committed, seen, hrow, hseen, by simpa using raise_if_ok.mp hsame⟩

/-- The cursor of an observed replay is an integer when the commit ends. -/
theorem checked_cursor_keeps {n : ℕ} {entry : String} {candidate : PyStr} (run : Option String)
    (h : Linked n entry m) (hcommitted : Committed render candidate m) :
    Keeps c (fun m cursor => (Linked n entry m ∧ Committed render candidate m) ∧
      (run.isSome = true → cursor ≠ .other)) (Open n entry) m (checked_cursor run) := by
  cases run with
  | none => exact ⟨⟨h, hcommitted⟩, fun hsome => by cases hsome⟩
  | some run =>
    refine Obeys.bind ⟨trivial, fun cursor => keeps_lift h.open fun reference hreference => ?_⟩
    refine ⟨⟨h, hcommitted⟩, ?_⟩
    rintro - rfl
    cases hreference

theorem staged_commit_keeps {names : List String} {n : ℕ} {a : Arguments} {v : Validated}
    {run : Option String} {commit : PyStr × PyStr} (h : Stored names n m)
    (houtput : c.output = some v.output.entry)
    (hsource : c.source = some v.output.entry → v.output.entry ∈ names) :
    Keeps c (fun m done => (Linked n v.output.entry m ∧ Committed render v.candidate m) ∧
        (run.isSome = true → done.2 ≠ .other)) (Open n v.output.entry) m
      (staged_commit render a v run commit n) := by
  refine Obeys.bind ((run_stage_keeps v.candidate h).mono ?_ fun _ _ hm => hm.open _)
  rintro m staged ⟨h, hstaged⟩
  refine Obeys.bind ((commit_output_keeps h hstaged houtput hsource).mono ?_ fun _ _ hm => hm)
  rintro m committed ⟨hlinked, hcommitted⟩
  refine keeps_lift hlinked.open fun digests _ => ?_
  exact Obeys.bind ((checked_cursor_keeps run hlinked hcommitted).mono
    (fun _ _ hm => hm) fun _ _ hm => hm)

/-! ### The end -/

theorem Open.look {n : ℕ} {entry : String} (h : Open n entry m) (p : Prop) [Decidable p] :
    Open n entry (m.look p) := ⟨h.temporary, h.stored, h.linked⟩

theorem Seen.look_true {p : Prop} [Decidable p] (hp : p) : (m.look p).misled = true := by
  rw [Seen.look, decide_eq_true hp, Bool.or_true]

/-- The replay has not linked its file, unless the directory misled it. -/
def Unlinked (m : Seen) : Prop := m.misled = true ∨ m.linked = none

/-- A look that would be wrong if the replay had linked its file. -/
theorem Open.denied {n : ℕ} {entry : String} (h : Open n entry m) {p : Prop} [Decidable p]
    (hp : m.linked = some entry → p) : Unlinked (m.look p) := by
  rcases h.linked with hnone | hsome
  · exact .inr hnone
  · exact .inl (Seen.look_true (hp hsome))

/-- What the answer says of the output. -/
theorem output_is_owned_keeps {n : ℕ} {output : Location} (h : Open n output.entry m) :
    Keeps c (fun m owned => Open n output.entry m ∧
        (if owned = true then m.misled = true ∨ m.linked = some output.entry else Unlinked m))
      (fun _ => False) m (output_is_owned n output) := by
  refine Obeys.handle (Obeys.bind ⟨trivial, fun taken => ?_⟩)
  cases taken with
  | false => exact ⟨h.look _, h.denied fun hlinked => ⟨rfl, hlinked⟩⟩
  | true =>
    have h₁ : Open n output.entry (m.step (.exists_ (.given output.entry)) true) := h.look _
    generalize m.step (.exists_ (.given output.entry)) true = m at h₁ ⊢
    refine Obeys.bind ⟨trivial, fun symlink => ?_⟩
    cases symlink with
    | true => exact ⟨h₁.look _, h₁.denied fun hlinked => ⟨rfl, hlinked⟩⟩
    | false =>
      have h₂ : Open n output.entry (m.step (.is_symlink output.entry) false) := h₁.look _
      generalize m.step (.is_symlink output.entry) false = m at h₂ ⊢
      refine Obeys.bind ⟨trivial, fun stored => ?_⟩
      cases stored with
      -- the temporary file is still there, so an answer that denies it is a wrong one
      | false => exact ⟨h₂.look _, .inl (Seen.look_true ⟨rfl, h₂.temporary, h₂.stored⟩)⟩
      | true =>
        have h₃ : Open n output.entry (m.step (.exists_ (.drawn n)) true) := h₂.look _
        generalize m.step (.exists_ (.drawn n)) true = m at h₃ ⊢
        refine keeps_attempt ⟨trivial, fun answer => ⟨fun owned howned => ?_, fun e he => ?_⟩⟩
        · subst howned
          refine ⟨h₃.look _, ?_⟩
          cases owned with
          | false => exact h₃.denied fun hlinked => ⟨⟨h₃.temporary, h₃.stored⟩, by simp [hlinked]⟩
          | true =>
            refine or_iff_not_imp_right.mpr fun hlinked => ?_
            exact Seen.look_true ⟨⟨h₃.temporary, h₃.stored⟩, iff_of_true rfl hlinked⟩
        · subst he
          exact ⟨h₃.look _, h₃.denied fun hlinked => ⟨⟨h₃.temporary, h₃.stored⟩, hlinked⟩⟩

/-- The drawn name and those beside it are gone. -/
def Seen.removed (m : Seen) : Seen := { m with stored := false, left := [] }

theorem remove_temporary_keeps {n : ℕ} {X : Seen → Prop} (h : m.temporary = some n) :
    Keeps c (fun m' _ => m' = m.removed) X m (_remove_temporary_database n) := by
  have hleft : ∀ left : List Suffix,
      ((left.filter (· ≠ .journal)).filter (· ≠ .wal)).filter (· ≠ .shm) = [] := by
    intro left
    refine List.eq_nil_iff_forall_not_mem.mpr fun suffix hsuffix => ?_
    simp only [List.mem_filter, decide_eq_true_eq] at hsuffix
    cases suffix <;> simp at hsuffix
  refine Obeys.bind ⟨h, fun _ => Obeys.bind ⟨h, fun _ => Obeys.bind ⟨h, fun _ => ⟨h, fun _ => ?_⟩⟩⟩⟩
  exact congrArg (fun left => ({ m with stored := false, left := left } : Seen)) (hleft m.left)

/-- After a failure nothing of the replay's is left. -/
theorem roll_back_keeps {n : ℕ} {output : Location} (h : Open n output.entry m) :
    Keeps c (fun m _ => m.temporary = some n ∧ (m.misled = true ∨ Clean m)) (fun _ => False) m
      (roll_back n output) := by
  refine Obeys.bind ((output_is_owned_keeps h).mono ?_ fun _ _ hm => hm)
  rintro m owned ⟨hopen, howned⟩
  have hend : ∀ {m : Seen}, m.temporary = some n → Unlinked m →
      Keeps c (fun m _ => m.temporary = some n ∧ (m.misled = true ∨ Clean m)) (fun _ => False) m
        (_remove_temporary_database n) := by
    intro m htemporary hlinked
    refine (remove_temporary_keeps htemporary).mono ?_ fun _ _ hm => hm
    rintro _ u rfl
    exact ⟨htemporary, hlinked.imp_right fun hnone => ⟨rfl, hnone, rfl⟩⟩
  cases owned with
  | true => exact Obeys.bind ⟨howned, fun _ => hend hopen.temporary (.inr rfl)⟩
  | false => exact Obeys.bind (hend hopen.temporary howned)

/-- How a replay that returns ends: its file is the output and has no other name. -/
structure Returned (render : StagedArtifact → Except Exn Json) (candidate : PyStr) (n : ℕ)
    (entry : String) (m : Seen) : Prop where
  temporary : m.temporary = some n
  linked : m.linked = some entry
  stored : m.stored = false
  left : m.left = []
  committed : Committed render candidate m

theorem temporary_commit_keeps {a : Arguments} {v : Validated} {run : Option String}
    {commit : PyStr × PyStr} (h : Passed a v m) :
    Keeps (.replay a) (fun m done => (∃ n, Returned render v.candidate n v.output.entry m) ∧
        (run.isSome = true → done.2 ≠ .other)) Ended m (temporary_commit render a v run commit) := by
  have houtput : (Call.replay a).output = some v.output.entry := congrArg entry? h.output
  have hsource : (Call.replay a).source = some v.output.entry →
      v.output.entry ∈ doubled v.source v.output := by
    intro heq
    have hentry : entry? a.source_database = some v.output.entry := heq
    rw [h.source] at hentry
    rw [doubled, if_pos (Option.some.inj hentry)]
    exact List.mem_singleton_self _
  refine Obeys.bind ((quiet_keeps (check_output_quiet v.output) h.before).mono ?_ fun _ _ hm => hm.ended)
  rintro m u hm
  refine Obeys.bind (keeps_attempt ⟨hm.temporary, fun answer => ⟨fun n hn => ?_, fun e he => ?_⟩⟩)
  swap
  · subst he
    exact hm.ended
  subst hn
  have hstored : Stored (doubled v.source v.output) n (m.step .mkstemp (.ok n)) :=
    ⟨rfl, rfl, hm.linked, hm.links⟩
  refine Obeys.bind (Obeys.handle ((staged_commit_keeps hstored houtput hsource).mono ?_ ?_))
  · rintro m done ⟨⟨hlinked, hcommitted⟩, hcursor⟩
    refine Obeys.bind ((remove_temporary_keeps hlinked.temporary).mono ?_ fun _ _ hm => hm)
    rintro _ u rfl
    exact ⟨⟨n, hlinked.temporary, hlinked.linked, rfl, rfl, hcommitted⟩, hcursor⟩
  -- the roll back removes the output only if it is the own file, and the temporary file always
  · intro m e hopen
    refine Obeys.bind ((roll_back_keeps hopen).mono ?_ fun _ _ hm => absurd hm id)
    rintro m u ⟨htemporary, hclean⟩
    refine Obeys.bind ((remove_temporary_keeps htemporary).mono ?_ fun _ _ hm => hm)
    rintro _ u rfl
    rcases hclean with hmisled | hclean
    · exact .inl hmisled
    · exact .inr (.inr ⟨rfl, hclean.linked, rfl⟩)

/-- An observed replay, from the last check on. -/
theorem observed_replay_keeps {a : Arguments} {v : Validated} {run : Option String} (h : Passed a v m) :
    Keeps (.replay a) (fun m done => (∃ n, Returned render v.candidate n v.output.entry m) ∧
        (run.isSome = true → done.2 ≠ .other)) Ended m (observed_replay render a v run) := by
  refine Obeys.bind ((quiet_keeps (fetch_quiet run) h.before).mono ?_ fun _ _ hm => hm.ended)
  exact fun m commit hm => temporary_commit_keeps ⟨h.source, h.output, hm⟩

/-- The final event of a replay that succeeded: its cursor, or the replay is late. -/
theorem finish_keeps {run : Option String} {last : Arg ℤ} {X : Seen → Prop} (status : String) :
    Keeps c (fun m' cursor => m' = { m with late := m'.late } ∧ (m.late = true → m'.late = true) ∧
        (run.isSome = true → status = "ok" → last ≠ .other → cursor ≠ .other ∨ m'.late = true)) X m
      (_finish_replay_invocation run last status) := by
  cases run with
  | none => exact ⟨rfl, id, fun hsome => by cases hsome⟩
  | some run =>
    refine Obeys.bind ⟨trivial, fun finish => ⟨rfl, fun hlate => ?_, fun _ hstatus hlast => ?_⟩⟩
    · show (m.late || _) = true
      rw [hlate, Bool.true_or]
    · by_cases hother : finish = .appended .other
      · refine .inr ?_
        show (m.late || decide (status = "ok" ∧ finish = .appended .other)) = true
        rw [decide_eq_true ⟨hstatus, hother⟩, Bool.or_true]
      · refine .inl fun hcursor => ?_
        cases finish with
        | appended cursor => exact hother (congrArg Finish.appended hcursor)
        | append_failed => exact hlast hcursor
        | refused => exact hlast hcursor

/-- **What a replay does**: it returns with its file as the output, or it raises and
leaves nothing. -/
theorem replay_keeps (profile_digest : String) (a : Arguments) :
    Keeps (.replay a) (fun m _ => ∃ candidate n entry, (Call.replay a).output = some entry ∧
        Returned render candidate n entry m) Ended Seen.start
      (replay_staged_candidate render profile_digest a) := by
  have hstart : Before [] Seen.start := ⟨rfl, rfl, rfl, rfl, rfl, fun _ hn => by cases hn⟩
  refine Obeys.bind ((validate_keeps profile_digest a hstart).mono ?_ fun _ _ hm => hm.ended)
  intro m v hv
  refine Obeys.bind ((quiet_keeps (observed_worker_quiet a) hv.before).mono ?_ fun _ _ hm => hm.ended)
  intro m run hm
  have hpassed : Passed a v m := ⟨hv.source, hv.output, hm⟩
  refine Obeys.bind (Obeys.handle ((observed_replay_keeps hpassed).mono ?_ ?_))
  · rintro m done ⟨⟨n, hreturned⟩, hcursor⟩
    refine Obeys.bind ((finish_keeps "ok").mono ?_ fun _ _ hm => hm)
    rintro m' cursor ⟨hsame, -, hlate⟩
    have hreturned' : Returned render v.candidate n v.output.entry m' := by
      rw [hsame]
      exact ⟨hreturned.temporary, hreturned.linked, hreturned.stored, hreturned.left,
        hreturned.committed⟩
    have hdone : (Call.replay a).output = some v.output.entry := congrArg entry? hv.output
    -- without an observer there is no invocation to finish
    cases run with
    | none => exact ⟨v.candidate, n, v.output.entry, hdone, hreturned'⟩
    | some run =>
      refine Obeys.bind (Obeys.lift (fun observer _ => ?_) fun e he => .inr (.inl ?_))
      · exact ⟨v.candidate, n, v.output.entry, hdone, hreturned'⟩
      · refine (hlate rfl rfl (hcursor rfl)).resolve_left (not_not.mpr ?_)
        cases cursor with
        | of cursor => cases he
        | other => rfl
  · intro m e hended
    refine Obeys.bind ((finish_keeps "failed").mono ?_ fun _ _ hm => hm)
    rintro m' cursor ⟨hsame, hlate, -⟩
    rcases hended with hmisled | hm | hclean
    · refine .inl ?_
      rw [hsame]
      exact hmisled
    · exact .inr (.inl (hlate hm))
    · refine .inr (.inr ?_)
      rw [hsame]
      exact ⟨hclean.stored, hclean.linked, hclean.left⟩

end Keeps

end AppContracts.StagedReplay
