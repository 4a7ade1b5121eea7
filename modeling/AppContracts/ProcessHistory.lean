/-
The history a process store keeps: row and event log agree, whatever the
connections do.

The two are representations of one thing, a path of the state machine
(`Recorded`). Every event log is such a path, ending in the row's state at the
row's version (`Sound`). A connection that advances a process acts on what it
read, which may be stale; the update only goes through at the version that was
read, and the event of that version still stands in the log (`Read`).

A monitor records what each call committed: exactly its own transaction when it
returns, nothing when it raises. So the logs are what the calls appended, each
entry once.

The work is in `body_safe`. A call acts on a row that it read earlier, and any number of
others may commit in between; what carries it over is that logs are only extended and
that the update is conditional on the version (`sound_update_process`). The induction over
the steps of a run is made once, in `Reachable.safe`, and sees the methods only through
`body_safe`.
-/
import AppContracts.RuntimeStore
import Mathlib.Data.List.Chain

set_option autoImplicit false

namespace AppContracts.RuntimeStore

open Interleave StateMachine

/-! ## Histories -/

/-- The event records the evidence `ev`. -/
def EventRow.records (e : EventRow) (ev : TransitionEvidence) : Prop :=
  Json.loads e.evidence_json = some ev.raw.dict.norm

/-- An event log as a path of the state machine, ending in a state at a
version. -/
inductive Recorded : List EventRow → ProcessState → ℕ → Prop
  | created (e : EventRow) (hseq : e.sequence = 0) (hprev : e.previous_state = none)
      (hstate : e.state = ProcessState.received.value) : Recorded [e] .received 0
  | advanced {log : List EventRow} {s : ProcessState} {v : ℕ} (e : EventRow) (t : ProcessState)
      (ev : TransitionEvidence) (hlog : Recorded log s v) (hseq : e.sequence = v + 1)
      (hprev : e.previous_state = some s.value) (hstate : e.state = t.value)
      (hrec : e.records ev) (hadm : Admits s t ev) : Recorded (log ++ [e]) t (v + 1)

/-- The sequence numbers run from zero to the version. -/
theorem Recorded.sequences {log : List EventRow} {s : ProcessState} {v : ℕ}
    (h : Recorded log s v) : log.map EventRow.sequence = List.range (v + 1) := by
  induction h with
  | created e hseq => simp [hseq, List.range_succ]
  | advanced e t ev _ hseq _ _ _ _ ih =>
    rw [List.map_append, ih, List.range_succ (n := _ + 1), List.map_singleton, hseq]

/-- The last event carries the version and the state. -/
theorem Recorded.last {log : List EventRow} {s : ProcessState} {v : ℕ} (h : Recorded log s v) :
    ∃ e, log.getLast? = some e ∧ e.sequence = v ∧ e.state = s.value := by
  cases h with
  | created e hseq _ hstate => exact ⟨e, rfl, hseq, hstate⟩
  | advanced e t ev _ hseq _ hstate => exact ⟨e, by simp, hseq, hstate⟩

/-- No event has a sequence number above the version. -/
theorem Recorded.sequence_le {log : List EventRow} {s : ProcessState} {v : ℕ}
    (h : Recorded log s v) {e : EventRow} (he : e ∈ log) : e.sequence ≤ v := by
  have hmem : e.sequence ∈ log.map EventRow.sequence := List.mem_map_of_mem he
  rw [h.sequences, List.mem_range] at hmem
  omega

/-- The event at the version carries the state. -/
theorem Recorded.state_at {log : List EventRow} {s : ProcessState} {v : ℕ}
    (h : Recorded log s v) {e : EventRow} (he : e ∈ log) (hv : e.sequence = v) :
    e.state = s.value := by
  cases h with
  | created e' _ _ hstate =>
    rw [List.mem_singleton.mp he]
    exact hstate
  | advanced e' t ev hlog _ _ hstate =>
    rcases List.mem_append.mp he with he | he
    · have := hlog.sequence_le he
      omega
    · rw [List.mem_singleton.mp he]
      exact hstate

/-- Neighbouring events are linked: the later one names the state of the
earlier one, and the transition between them is admitted with the evidence the
later one records. -/
def Linked (a b : EventRow) : Prop :=
  b.previous_state = some a.state ∧ ∃ (s t : ProcessState) (ev : TransitionEvidence),
    a.state = s.value ∧ b.state = t.value ∧ b.records ev ∧
      transition (.of s) (.of t) (.of ev.raw) = .ok t

theorem Recorded.linked {log : List EventRow} {s : ProcessState} {v : ℕ} (h : Recorded log s v) :
    log.IsChain Linked := by
  induction h with
  | created e => exact List.isChain_singleton e
  | advanced e t ev hlog hseq hprev hstate hrec hadm ih =>
    rw [List.isChain_append]
    refine ⟨ih, List.isChain_singleton e, ?_⟩
    obtain ⟨l, hl, -, hls⟩ := hlog.last
    rintro a ha b hb
    obtain rfl : b = e := by simpa [eq_comm] using hb
    obtain rfl : l = a := by simpa [hl] using ha
    exact ⟨by rw [hprev, hls], _, t, ev, hls, hstate, hrec,
      transition_ok.mpr ⟨rfl, ev, rfl, hadm⟩⟩

theorem Recorded.first {log : List EventRow} {s : ProcessState} {v : ℕ} (h : Recorded log s v) :
    ∃ e rest, log = e :: rest ∧ e.previous_state = none ∧
      e.state = ProcessState.received.value := by
  induction h with
  | created e _ hprev hstate => exact ⟨e, [], rfl, hprev, hstate⟩
  | advanced e' _ _ _ _ _ _ _ _ ih =>
    obtain ⟨e, rest, rfl, hprev, hstate⟩ := ih
    exact ⟨e, rest ++ [e'], rfl, hprev, hstate⟩

/-! ## The invariant -/

/-- Row and event log agree for every process. -/
structure Sound (db : Db) : Prop where
  ids : (db.processes.map ProcessRow.process_id).Nodup
  rows : ∀ r ∈ db.processes, ∃ s : ProcessState,
    r.state = s.value ∧ Recorded (db.history r.process_id) s r.version
  owned : ∀ e ∈ db.events, ∃ r ∈ db.processes, r.process_id = e.process_id

theorem sound_empty : Sound Db.empty := ⟨List.nodup_nil, by simp [Db.empty], by simp [Db.empty]⟩

/-- Events are only ever appended. -/
def Appends (db db' : Db) : Prop := db.events <+: db'.events

theorem Appends.of_run {db db' : Db} (h : Relation.ReflTransGen Appends db db') :
    db.events <+: db'.events := by
  induction h with
  | refl => exact List.prefix_rfl
  | tail _ hs ih => exact ih.trans hs

/-- The event of a committed `create` starts a history. -/
theorem sound_insert_process {db : Db} (hI : Sound db) (pid at_time : String)
    {r : TxnResult} {db' : Db} (h : db.insert_process pid at_time = (r, db')) :
    Sound db' ∧ Appends db db' ∧ (r = .committed → ∃ e ∈ db'.events, e.process_id = pid) := by
  unfold Db.insert_process at h
  split_ifs at h with hc
  · obtain ⟨rfl, rfl⟩ := Prod.mk.inj h
    exact ⟨hI, List.prefix_rfl, by simp⟩
  · obtain ⟨rfl, rfl⟩ := Prod.mk.inj h
    simp only [List.any_eq_true, decide_eq_true_eq, not_or, not_exists, not_and] at hc
    -- No row has the ID, so no event has: events are owned by rows.
    have hfresh : ∀ e ∈ db.events, e.process_id ≠ pid := by
      intro e he heq
      obtain ⟨r, hr, hre⟩ := hI.owned e he
      exact hc.1 r hr (hre.trans heq)
    refine ⟨⟨?_, ?_, ?_⟩, List.prefix_append _ _, fun _ =>
      ⟨_, List.mem_append_right _ (List.mem_singleton_self _), rfl⟩⟩
    · rw [List.map_append, List.nodup_append]
      refine ⟨hI.ids, by simp, ?_⟩
      rintro a ha b hb rfl
      obtain ⟨r, hr, rfl⟩ := List.mem_map.mp ha
      exact hc.1 r hr (by simpa [eq_comm] using hb)
    · intro r hr
      rcases List.mem_append.mp hr with hr | hr
      · obtain ⟨s, hs, hrec⟩ := hI.rows r hr
        have hne : ¬ pid = r.process_id := fun h => hc.1 r hr h.symm
        refine ⟨s, hs, ?_⟩
        simpa [Db.history, Db.next_event, hne] using hrec
      · obtain rfl := List.mem_singleton.mp hr
        have hnil : db.events.filter (fun e => e.process_id = pid) = [] := by
          simpa [List.filter_eq_nil_iff] using hfresh
        refine ⟨.received, rfl, ?_⟩
        simp only [Db.history, List.filter_append, hnil, Db.next_event, List.nil_append,
          List.filter_singleton, decide_true]
        exact .created _ rfl rfl rfl
    · intro e he
      rcases List.mem_append.mp he with he | he
      · obtain ⟨r, hr, hre⟩ := hI.owned e he
        exact ⟨r, List.mem_append_left _ hr, hre⟩
      · obtain rfl := List.mem_singleton.mp he
        exact ⟨_, List.mem_append_right _ (List.mem_singleton_self _), rfl⟩

/-- What a connection knows after it read a row: the event of that version,
which stays in the log. -/
def Read (rec : ProcessRecord) (db : Db) : Prop :=
  ∃ e ∈ db.events, e.process_id = rec.process_id ∧ e.sequence = rec.version ∧
    e.state = rec.state.value

theorem Read.mono {rec : ProcessRecord} {db db' : Db} (h : Read rec db)
    (hp : db.events <+: db'.events) : Read rec db' := by
  obtain ⟨e, he, hrest⟩ := h
  exact ⟨e, hp.subset he, hrest⟩

/-- The history of a process after one more event. -/
theorem history_append (db : Db) (e : EventRow) (processes : List ProcessRow) (pid : String) :
    Db.history { db with processes := processes, events := db.events ++ [e] } pid =
      if e.process_id = pid then db.history pid ++ [e] else db.history pid := by
  by_cases h : e.process_id = pid <;> simp [Db.history, List.filter_append, h]

/-- **A committed `advance` extends the history by its transition.** What was
read may be stale, but the update only goes through at the version that was
read, and a version has one state. -/
theorem sound_update_process {db : Db} (hI : Sound db) {rec : ProcessRecord}
    (hread : Read rec db) {t : ProcessState} {ev : TransitionEvidence}
    (hadm : Admits rec.state t ev) {text : String}
    (htext : Json.loads text = some ev.raw.dict.norm) (at_time : String)
    {r : TxnResult} {db' : Db}
    (h : db.update_process rec.process_id rec.version rec.state.value t.value text at_time =
      (r, db')) :
    Sound db' ∧ Appends db db' ∧
      (r = .committed → ∃ e ∈ db'.events, e.process_id = rec.process_id) := by
  unfold Db.update_process at h
  split_ifs at h with hrow hdup
  · obtain ⟨rfl, rfl⟩ := Prod.mk.inj h
    exact ⟨hI, List.prefix_rfl, by simp⟩
  · obtain ⟨rfl, rfl⟩ := Prod.mk.inj h
    simp only [List.any_eq_true, decide_eq_true_eq] at hrow
    obtain ⟨row, hmem, hpid, hver⟩ := hrow
    obtain ⟨s, hs, hrec⟩ := hI.rows row hmem
    -- The row is at the version that was read, so its state is the one read.
    have hstate : s = rec.state := by
      obtain ⟨e, he, hep, hev, hes⟩ := hread
      have hin : e ∈ db.history row.process_id := by
        simp [Db.history, he, hep, hpid]
      exact ProcessState.value_inj ((hrec.state_at hin (by rw [hev, hver])).symm.trans hes)
    subst hstate
    rw [hver] at hrec
    refine ⟨⟨?_, ?_, ?_⟩, List.prefix_append _ _, fun _ =>
      ⟨_, List.mem_append_right _ (List.mem_singleton_self _), rfl⟩⟩
    · have hkeys : ∀ l : List ProcessRow, (l.map fun r =>
          if r.process_id = rec.process_id ∧ r.version = rec.version then
            { r with state := t.value, version := rec.version + 1, updated_at := at_time }
          else r).map ProcessRow.process_id = l.map ProcessRow.process_id := by
        intro l
        rw [List.map_map]
        refine List.map_congr_left fun r _ => ?_
        by_cases hr : r.process_id = rec.process_id ∧ r.version = rec.version <;> simp [hr]
      rw [hkeys]
      exact hI.ids
    · intro r' hr'
      obtain ⟨r, hr, rfl⟩ := List.mem_map.mp hr'
      by_cases hsame : r.process_id = rec.process_id
      · -- IDs are unique, so this is the row that was updated.
        obtain rfl : r = row := List.inj_on_of_nodup_map hI.ids hr hmem (hsame.trans hpid.symm)
        rw [if_pos ⟨hsame, hver⟩]
        refine ⟨t, rfl, ?_⟩
        rw [history_append, if_pos (by simp [Db.next_event, hsame])]
        exact .advanced _ t ev hrec rfl rfl rfl htext hadm
      · obtain ⟨s, hs, hrec⟩ := hI.rows r hr
        rw [if_neg fun h => hsame h.1]
        refine ⟨s, hs, ?_⟩
        rw [history_append, if_neg fun h => hsame h.symm]
        exact hrec
    · intro e he
      have hkeep : ∀ r ∈ db.processes, ∃ r' ∈ db.processes.map (fun r =>
          if r.process_id = rec.process_id ∧ r.version = rec.version then
            { r with state := t.value, version := rec.version + 1, updated_at := at_time }
          else r), r'.process_id = r.process_id := by
        intro r hr
        refine ⟨_, List.mem_map_of_mem hr, ?_⟩
        by_cases hr : r.process_id = rec.process_id ∧ r.version = rec.version <;> simp [hr]
      rcases List.mem_append.mp he with he | he
      · obtain ⟨r, hr, hre⟩ := hI.owned e he
        obtain ⟨r', hr', hre'⟩ := hkeep r hr
        exact ⟨r', hr', hre'.trans hre⟩
      · obtain rfl := List.mem_singleton.mp he
        obtain ⟨r', hr', hre'⟩ := hkeep row hmem
        exact ⟨r', hr', hre'.trans hpid⟩
  · obtain ⟨rfl, rfl⟩ := Prod.mk.inj h
    exact ⟨hI, List.prefix_rfl, by simp⟩

theorem sound_insert_audit {db : Db} (hI : Sound db) (row : AuditRow) {r : TxnResult} {db' : Db}
    (h : db.insert_audit row = (r, db')) : Sound db' ∧ Appends db db' := by
  unfold Db.insert_audit at h
  split_ifs at h
  · obtain ⟨rfl, rfl⟩ := Prod.mk.inj h
    exact ⟨⟨hI.ids, hI.rows, hI.owned⟩, List.prefix_rfl⟩
  · obtain ⟨rfl, rfl⟩ := Prod.mk.inj h
    exact ⟨hI, List.prefix_rfl⟩

/-! ## What a call commits -/

/-- The transaction an operation committed, if it did. -/
def committed : (op : Op) → Res op → List Op
  | .insert_process pid at_time, TxnResult.committed => [.insert_process pid at_time]
  | .update_process pid version previous state text at_time, TxnResult.committed =>
    [.update_process pid version previous state text at_time]
  | .insert_audit row, TxnResult.committed => [.insert_audit row]
  | _, _ => []

/-- The monitor of a worker's commits. -/
def commits (m : List Op) (op : Op) (r : Res op) : List Op := m ++ committed op r

/-- What a call that returns has committed: one transaction, built from its
arguments; reads commit none. -/
def Committed : Call → List Op → Prop
  | .create pid _, ops => ∃ p at_time, pid = .of (.text p) ∧ ops = [.insert_process p at_time]
  | .advance pid target evidence version _, ops =>
    ∃ (p : String) (s t : ProcessState) (ev : TransitionEvidence) (n : ℕ) (text at_time : String),
      pid = .of (.text p) ∧ target = .of t ∧ evidence = .of ev.raw ∧ version = .of (n : ℤ) ∧
      Admits s t ev ∧ Json.loads text = some ev.raw.dict.norm ∧
      ops = [.update_process p n s.value t.value text at_time]
  | .append_audit_event pid _, ops =>
    ∃ (p : String) (row : AuditRow), pid = .of (.text p) ∧ row.process_id = p ∧
      ops = [.insert_audit row]
  | .get _, ops => ops = []

/-! ## The methods are safe -/

section Methods

variable {Q : List Op → Option ProcessRecord → Db → Prop} {m : List Op} {s : Db}

/-- Code of the store, run among connections that keep `Sound` and append
events. -/
abbrev StoreSafe {α : Type} (Q : List Op → α → Db → Prop) (X : List Op → Exn → Db → Prop)
    (m : List Op) (p : Program α) (s : Db) : Prop :=
  Safe sem Sound Appends commits Q X m p s

theorem process_key_ok {process_id : Arg PyStr} {pid : String}
    (h : process_key process_id = .ok pid) : process_id = .of (.text pid) ∧ pid ≠ "" := by
  unfold process_key nonempty_str at h
  cases process_id with
  | other => cases h
  | of v =>
    by_cases hv : v = .text ""
    · rw [hv] at h
      cases h
    · cases v with
      | surrogates codes lone => cases h
      | text t =>
        simp only [hv, if_false] at h
        cases h
        exact ⟨rfl, fun ht => hv (by rw [ht])⟩

/-- `get` commits nothing. It returns what some event of the log recorded, and
it fails only where the process has no event. -/
theorem get_safe (process_id : Arg PyStr) :
    StoreSafe
      (fun m' rec s' => m' = m ∧ process_id = .of (.text rec.process_id) ∧
        rec.process_id ≠ "" ∧ Read rec s')
      (fun m' _ _ => m' = m ∧ ¬ ∃ p e, process_id = .of (.text p) ∧ p ≠ "" ∧
        e ∈ s.events ∧ e.process_id = p)
      m (get process_id) s := by
  unfold get
  rw [Prog.bind_eq]
  refine Safe.lift_bind ?_ ?_
  · rintro e he s₁ - -
    refine ⟨rfl, ?_⟩
    rintro ⟨p, ev, rfl, hp, -, -⟩
    simp only [process_key, nonempty_str, bind_text] at he
    rw [if_neg (by simpa using hp)] at he
    cases he
  · intro pid hpid
    obtain ⟨rfl, hne⟩ := process_key_ok hpid
    intro s₁ hI hrun r s₂ hsem
    obtain ⟨rfl, rfl⟩ := hsem
    refine ⟨hI, List.prefix_rfl, ?_⟩
    have hm : commits m (.select_process pid)
        (s₂.processes.find? fun row => row.process_id = pid) = m := by
      simp [commits, committed]
    rw [hm]
    cases hfind : s₂.processes.find? (fun row => row.process_id = pid) with
    | none =>
      -- The process has no row, so it had no event before either.
      rintro s₃ - -
      refine ⟨rfl, ?_⟩
      rintro ⟨p, e, hp, -, he, rfl⟩
      obtain ⟨row, hrow, hid⟩ := hI.owned e ((Appends.of_run hrun).subset he)
      rw [List.find?_eq_none] at hfind
      refine hfind row hrow ?_
      cases hp
      simpa using hid
    | some row =>
      have hid : row.process_id = pid := by simpa using List.find?_some hfind
      obtain ⟨st, hst, hrec⟩ := hI.rows row (List.mem_of_find?_eq_some hfind)
      have hdec : decode_row (some row) = .ok ⟨row.process_id, st, row.version, row.updated_at⟩ := by
        simp only [decode_row, hst, ProcessState.of_value_value]
      simp only [Prog.ret_bind, hdec, Prog.lift_ok]
      rintro s₃ - hrun₃
      refine ⟨rfl, by rw [hid], by rw [hid]; exact hne, ?_⟩
      refine Read.mono ?_ (Appends.of_run hrun₃)
      obtain ⟨e, hlast, hseq, hes⟩ := hrec.last
      have he := List.mem_of_getLast? hlast
      simp only [Db.history, List.mem_filter, decide_eq_true_eq] at he
      exact ⟨e, he.1, he.2, hseq, hes⟩

/-- After a commit the final read succeeds: the process has an event. -/
theorem get_after_commit {process_id : Arg PyStr} {pid : String}
    (hid : process_id = .of (.text pid)) (hne : pid ≠ "")
    (hev : ∃ e ∈ s.events, e.process_id = pid) {P : List Op → Prop} (hm : P m) :
    StoreSafe (fun m' _ _ => P m') (fun m' _ _ => m' = []) m (get process_id) s := by
  refine (get_safe process_id).mono ?_ ?_
  · rintro m' rec s' ⟨rfl, -⟩
    exact hm
  · rintro m' e s' ⟨-, hno⟩
    obtain ⟨ev, hmem, hp⟩ := hev
    exact absurd ⟨pid, ev, hid, hne, hmem, hp⟩ hno

theorem create_safe (process_id : Arg PyStr) (now : Moment) :
    StoreSafe (fun m' _ _ => Committed (.create process_id now) m') (fun m' _ _ => m' = [])
      [] (create process_id now) s := by
  unfold create
  simp only [Prog.bind_eq]
  refine Safe.lift_bind (fun _ _ _ _ _ => rfl) fun id hid => ?_
  refine Safe.lift_bind (fun _ _ _ _ _ => rfl) fun at_time _ => ?_
  refine Safe.lift_bind (fun _ _ _ _ _ => rfl) fun pid hpid => ?_
  have hkey : process_key process_id = .ok pid := by
    simp only [process_key, hid]
    exact hpid
  obtain ⟨rfl, hne⟩ := process_key_ok hkey
  intro s₁ hI _ r s₂ hsem
  rcases hsem with hwork | ⟨rfl, rfl⟩
  · obtain ⟨hI₂, happ, hev⟩ := sound_insert_process hI pid at_time hwork
    refine ⟨hI₂, happ, ?_⟩
    cases r with
    | committed =>
      exact get_after_commit rfl hne (hev rfl) ⟨pid, at_time, rfl, rfl⟩
    | _ => exact fun _ _ _ => rfl
  · exact ⟨hI, List.prefix_rfl, fun _ _ _ => rfl⟩

theorem check_version_ok {expected_version : Arg ℤ} {current n : ℕ}
    (h : check_version expected_version current = .ok n) :
    n = current ∧ expected_version = .of (current : ℤ) := by
  unfold check_version at h
  cases expected_version with
  | other => cases h
  | of k =>
    simp only at h
    split_ifs at h with h₁ h₂
    obtain rfl := Except.ok.inj h
    rw [not_not] at h₂
    exact ⟨by omega, by rw [h₂]⟩

/-- The evidence text of a checked transition is read back as the evidence. -/
theorem evidence_json_ok {ev : TransitionEvidence} {text : String}
    (h : evidence_json (.of ev.raw) = .ok text) : Json.loads text = some ev.raw.dict.norm := by
  have hwf : ev.raw.dict.wf := by
    refine ⟨by simp, ?_⟩
    rw [Json.wf_fields_iff]
    simp [TransitionEvidence.raw, flag_json, Json.wf]
  have hplain : ev.raw.dict.plain := by
    refine Json.plain_fields_iff.mpr ?_
    simp [TransitionEvidence.raw, flag_json, Json.plain]
  have henc : ev.raw.dict.encodable false = true := by
    simp [Evidence.dict, TransitionEvidence.raw, flag_json, Json.encodable, Json.encodable_fields,
      Json.encodable_str]
  unfold evidence_json at h
  simp only at h
  split at h
  · cases h
  · rename_i t hd
    obtain rfl := Except.ok.inj h
    simp only [Json.dumps, Option.ite_none_right_eq_some, Option.some.injEq] at hd
    rw [← hd.2]
    exact Json.loads_print true hwf hplain henc

theorem advance_safe (process_id : Arg PyStr) (target : Arg ProcessState)
    (evidence : Arg (Evidence (Arg Bool))) (expected_version : Arg ℤ) (now : Moment) :
    StoreSafe
      (fun m' _ _ => Committed (.advance process_id target evidence expected_version now) m')
      (fun m' _ _ => m' = []) []
      (advance process_id target evidence expected_version now) s := by
  unfold advance
  simp only [Prog.bind_eq]
  refine Safe.bind ((get_safe process_id).mono ?_ fun m' _ _ h => h.1)
  rintro m' current s₁ ⟨rfl, hid, hne, hread⟩
  refine Safe.lift_bind (fun _ _ _ _ _ => rfl) fun version hver => ?_
  refine Safe.lift_bind (fun _ _ _ _ _ => rfl) fun next_state htrans => ?_
  refine Safe.lift_bind (fun _ _ _ _ _ => rfl) fun at_time _ => ?_
  refine Safe.lift_bind (fun _ _ _ _ _ => rfl) fun text htext => ?_
  refine Safe.lift_bind (fun _ _ _ _ _ => rfl) fun _ _ => ?_
  obtain ⟨rfl, rfl⟩ := check_version_ok hver
  obtain ⟨rfl, ev, rfl, hadm⟩ := transition_ok.mp htrans
  have hload := evidence_json_ok htext
  -- the update names the version that was read, so it writes only if the row is still that one
  intro s₂ hI hrun r s₃ hsem
  rcases hsem with hwork | ⟨rfl, rfl⟩
  · obtain ⟨hI₃, happ, hev⟩ := sound_update_process hI (hread.mono (Appends.of_run hrun)) hadm
      hload at_time hwork
    refine ⟨hI₃, happ, ?_⟩
    cases r with
    | committed =>
      exact get_after_commit hid hne (hev rfl)
        ⟨current.process_id, current.state, next_state, ev, current.version, text, at_time, hid,
          rfl, rfl, rfl, hadm, hload, rfl⟩
    | _ => exact fun _ _ _ => rfl
  · exact ⟨hI, List.prefix_rfl, fun _ _ _ => rfl⟩

theorem audit_row_process_id {pid : String} {actor_id event_type input_digest result : PyStr}
    {codes : List PyStr} {now : Moment} {row : AuditRow}
    (h : audit_row pid actor_id event_type input_digest result codes now = .ok row) :
    row.process_id = pid := by
  unfold audit_row at h
  cases hts : timestamp now with
  | error e => rw [hts] at h; cases h
  | ok t =>
    rw [hts] at h
    cases actor_id <;> cases event_type <;> cases input_digest <;> cases result <;>
      first
        | cases h; rfl
        | cases h

theorem append_audit_event_safe (process_id : Arg PyStr) (args : AuditArgs) :
    StoreSafe (fun m' _ _ => Committed (.append_audit_event process_id args) m')
      (fun m' _ _ => m' = []) [] (append_audit_event process_id args) s := by
  unfold append_audit_event
  simp only [Prog.bind_eq]
  refine Safe.lift_bind (fun _ _ _ _ _ => rfl) fun codes _ => ?_
  refine Safe.lift_bind (fun _ _ _ _ _ => rfl) fun actor_id _ => ?_
  refine Safe.lift_bind (fun _ _ _ _ _ => rfl) fun event_type _ => ?_
  refine Safe.lift_bind (fun _ _ _ _ _ => rfl) fun input_digest _ => ?_
  refine Safe.lift_bind (fun _ _ _ _ _ => rfl) fun result _ => ?_
  refine Safe.bind ((get_safe process_id).mono ?_ fun m' _ _ h => h.1)
  rintro m' current s₁ ⟨rfl, hid, -, -⟩
  refine Safe.lift_bind (fun _ _ _ _ _ => rfl) fun row hrow => ?_
  intro s₂ hI _ r s₃ hsem
  rcases hsem with hwork | ⟨rfl, rfl⟩
  · obtain ⟨hI₃, happ⟩ := sound_insert_audit hI row hwork
    refine ⟨hI₃, happ, ?_⟩
    cases r with
    | committed =>
      exact fun _ _ _ => ⟨current.process_id, row, hid, audit_row_process_id hrow, rfl⟩
    | _ => exact fun _ _ _ => rfl
  · exact ⟨hI, List.prefix_rfl, fun _ _ _ => rfl⟩

/-- **Every call is safe**: it keeps the invariant, it commits exactly its
transaction when it returns, and nothing when it raises. -/
theorem body_safe (c : Call) (s : Db) :
    StoreSafe (fun m' _ _ => Committed c m') (fun m' _ _ => m' = []) [] (body c) s := by
  cases c with
  | create pid now => exact Safe.bind ((create_safe pid now).mono (fun _ _ _ h _ _ _ => h)
      fun _ _ _ h => h)
  | advance pid target evidence version now =>
    exact Safe.bind ((advance_safe pid target evidence version now).mono
      (fun _ _ _ h _ _ _ => h) fun _ _ _ h => h)
  | append_audit_event pid args =>
    exact Safe.bind ((append_audit_event_safe pid args).mono (fun _ _ _ h _ _ _ => h)
      fun _ _ _ h => h)
  | get pid =>
    exact Safe.bind ((get_safe pid).mono (fun _ _ _ h _ _ _ => h.1) fun _ _ _ h => h.1)

end Methods

theorem run_safe {cfg : Config Call Op Res Exn (Option ProcessRecord) Db} (h : Run cfg) :
    SafeConfig sem Sound Appends commits [] (fun c m _ _ => Committed c m) (fun _ m _ _ => m = [])
      cfg :=
  h.safe sound_empty fun c s _ => body_safe c s

/-! ## What a call leaves in the log -/

/-- The event a committed transaction appends, but for its key. -/
def Op.event : Op → List EventRow
  | .insert_process pid at_time =>
    [⟨0, pid, 0, none, ProcessState.received.value, "{}", at_time⟩]
  | .update_process pid version previous state text at_time =>
    [⟨0, pid, version + 1, some previous, state, text, at_time⟩]
  | _ => []

/-- The audit entry a committed transaction appends, but for its key. -/
def Op.audit : Op → List AuditRow
  | .insert_audit row => [{ row with event_id := 0 }]
  | _ => []

/-- One operation appends what it commits, and an operation that commits
nothing changes nothing. -/
theorem sem_appends {db db' : Db} {op : Op} {r : Res op} (h : sem db op r db') :
    (∃ new, db'.events = db.events ++ new ∧
      new.map (fun e => { e with event_id := 0 }) = (committed op r).flatMap Op.event) ∧
    (∃ new, db'.audit = db.audit ++ new ∧
      new.map (fun e => { e with event_id := 0 }) = (committed op r).flatMap Op.audit) ∧
    (committed op r = [] → db' = db) := by
  -- an answer without a commit changes nothing
  have hsame {op : Op} {r : Res op} (hc : committed op r = []) (hdb : db' = db) :
      (∃ new, db'.events = db.events ++ new ∧
        new.map (fun e => { e with event_id := 0 }) = (committed op r).flatMap Op.event) ∧
      (∃ new, db'.audit = db.audit ++ new ∧
        new.map (fun e => { e with event_id := 0 }) = (committed op r).flatMap Op.audit) ∧
      (committed op r = [] → db' = db) := by
    subst hdb
    exact ⟨⟨[], by simp [hc]⟩, ⟨[], by simp [hc]⟩, fun _ => rfl⟩
  cases op with
  | select_process pid => exact hsame rfl h.2
  | insert_process pid at_time =>
    rcases h with hwork | ⟨rfl, rfl⟩
    · simp only [Db.insert_process] at hwork
      split_ifs at hwork
      · obtain ⟨rfl, rfl⟩ := Prod.mk.inj hwork
        exact hsame rfl rfl
      · obtain ⟨rfl, rfl⟩ := Prod.mk.inj hwork
        exact ⟨⟨_, rfl, rfl⟩, ⟨[], by simp, rfl⟩, by simp [committed]⟩
    · exact hsame rfl rfl
  | update_process pid version previous state text at_time =>
    rcases h with hwork | ⟨rfl, rfl⟩
    · simp only [Db.update_process] at hwork
      split_ifs at hwork
      · obtain ⟨rfl, rfl⟩ := Prod.mk.inj hwork
        exact hsame rfl rfl
      · obtain ⟨rfl, rfl⟩ := Prod.mk.inj hwork
        exact ⟨⟨_, rfl, rfl⟩, ⟨[], by simp, rfl⟩, by simp [committed]⟩
      · obtain ⟨rfl, rfl⟩ := Prod.mk.inj hwork
        exact hsame rfl rfl
    · exact hsame rfl rfl
  | insert_audit row =>
    rcases h with hwork | ⟨rfl, rfl⟩
    · simp only [Db.insert_audit] at hwork
      split_ifs at hwork
      · obtain ⟨rfl, rfl⟩ := Prod.mk.inj hwork
        exact ⟨⟨[], by simp, rfl⟩, ⟨_, rfl, rfl⟩, by simp [committed]⟩
      · obtain ⟨rfl, rfl⟩ := Prod.mk.inj hwork
        exact hsame rfl rfl
    · exact hsame rfl rfl

/-- A worker of the store. -/
abbrev Worker : Type := Thread Call Op Res Exn (Option ProcessRecord) Db

/-- What a worker appended is what it committed. -/
theorem appended_commits {t : Worker} (h : ∀ e ∈ t.past, sem e.before e.op e.res e.after) :
    (t.appended Db.events).map (fun e => { e with event_id := 0 }) =
        (t.monitor commits []).flatMap Op.event ∧
      (t.appended Db.audit).map (fun e => { e with event_id := 0 }) =
        (t.monitor commits []).flatMap Op.audit := by
  constructor
  · refine Thread.appended_monitor Db.events fun e he => ?_
    obtain ⟨new, hnew, hmap⟩ := (sem_appends (h e he)).1
    rw [Record.appended, hnew, List.drop_left, hmap]
  · refine Thread.appended_monitor Db.audit fun e he => ?_
    obtain ⟨new, hnew, hmap⟩ := (sem_appends (h e he)).2.1
    rw [Record.appended, hnew, List.drop_left, hmap]

/-- What a call that returned has added to the events and to the audit log. -/
def Effect : Call → List EventRow → List AuditRow → Prop
  | .create pid _, events, audit => audit = [] ∧ ∃ e, events = [e] ∧
      pid = .of (.text e.process_id) ∧ e.sequence = 0 ∧ e.previous_state = none ∧
      e.state = ProcessState.received.value
  | .advance pid target evidence version _, events, audit => audit = [] ∧
      ∃ (e : EventRow) (n : ℕ) (s t : ProcessState) (ev : TransitionEvidence), events = [e] ∧
      pid = .of (.text e.process_id) ∧ version = .of (n : ℤ) ∧ e.sequence = n + 1 ∧
      e.previous_state = some s.value ∧ target = .of t ∧ e.state = t.value ∧
      evidence = .of ev.raw ∧ e.records ev
  | .append_audit_event pid _, events, audit => events = [] ∧ ∃ a, audit = [a] ∧
      pid = .of (.text a.process_id)
  | .get _, events, audit => events = [] ∧ audit = []

/-- What was committed is what was added. -/
theorem effect_of_committed {c : Call} {ops : List Op} (h : Committed c ops)
    {events : List EventRow} {audit : List AuditRow}
    (hev : events.map (fun e => { e with event_id := 0 }) = ops.flatMap Op.event)
    (hau : audit.map (fun e => { e with event_id := 0 }) = ops.flatMap Op.audit) :
    Effect c events audit := by
  cases c with
  | create pid now =>
    obtain ⟨p, at_time, rfl, rfl⟩ := h
    obtain ⟨e, rfl, he⟩ := List.map_eq_singleton_iff.mp hev
    refine ⟨List.map_eq_nil_iff.mp hau, e, rfl, ?_⟩
    simp only [EventRow.mk.injEq] at he
    obtain ⟨-, hp, hseq, hprev, hst, -, -⟩ := he
    exact ⟨by rw [hp], hseq, hprev, hst⟩
  | advance pid target evidence version now =>
    obtain ⟨p, s, t, ev, n, text, at_time, rfl, rfl, rfl, rfl, -, hload, rfl⟩ := h
    obtain ⟨e, rfl, he⟩ := List.map_eq_singleton_iff.mp hev
    simp only [EventRow.mk.injEq] at he
    obtain ⟨-, hp, hseq, hprev, hst, htext, -⟩ := he
    refine ⟨List.map_eq_nil_iff.mp hau, e, n, s, t, ev, rfl, by rw [hp], rfl, hseq, hprev, rfl,
      hst, rfl, ?_⟩
    rw [EventRow.records, htext]
    exact hload
  | append_audit_event pid args =>
    obtain ⟨p, row, rfl, rfl, rfl⟩ := h
    obtain ⟨a, rfl, ha⟩ := List.map_eq_singleton_iff.mp hau
    refine ⟨List.map_eq_nil_iff.mp hev, a, rfl, ?_⟩
    simp only [AuditRow.mk.injEq] at ha
    rw [ha.2.1]
  | get pid =>
    obtain rfl := h
    exact ⟨List.map_eq_nil_iff.mp hev, List.map_eq_nil_iff.mp hau⟩

/-! ## Process store history -/

/-- Row and event log of one process: the sequence numbers, the links and the
last state. -/
structure ProcessHistory (db : Db) (r : ProcessRow) : Prop where
  sequences : (db.history r.process_id).map EventRow.sequence = List.range (r.version + 1)
  linked : (db.history r.process_id).IsChain Linked
  last : ∃ e, (db.history r.process_id).getLast? = some e ∧ e.state = r.state

theorem Sound.history {db : Db} (hI : Sound db) {r : ProcessRow} (hr : r ∈ db.processes) :
    ProcessHistory db r := by
  obtain ⟨s, hs, hrec⟩ := hI.rows r hr
  obtain ⟨e, hlast, -, hes⟩ := hrec.last
  exact ⟨hrec.sequences, hrec.linked, e, hlast, hes.trans hs.symm⟩

/-- **Process store history.** In every state any number of connections can
reach, the row and the events of every process agree, and every event belongs to
a process. The event and audit logs hold exactly what the calls appended, each
entry once: a call that returned appended its one entry, and a call that raised
never changed the database. -/
theorem process_store_history {cfg : Config Call Op Res Exn (Option ProcessRecord) Db}
    (h : Run cfg) :
    (∀ r ∈ cfg.shared.processes, ProcessHistory cfg.shared r) ∧
    (cfg.shared.processes.map ProcessRow.process_id).Nodup ∧
    (∀ e ∈ cfg.shared.events, ∃ r ∈ cfg.shared.processes, r.process_id = e.process_id) ∧
    cfg.shared.events.Perm (cfg.pool.flatMap (Thread.appended Db.events)) ∧
    cfg.shared.audit.Perm (cfg.pool.flatMap (Thread.appended Db.audit)) ∧
    (∀ t ∈ cfg.pool, ∀ a, t.status = .running (.ret a) →
      Effect t.call (t.appended Db.events) (t.appended Db.audit)) ∧
    (∀ t ∈ cfg.pool, ∀ e, t.status = .running (.raise e) →
      ∀ step ∈ t.past, step.after = step.before) := by
  have hI : ∀ cfg : Config Call Op Res Exn (Option ProcessRecord) Db, Run cfg → Sound cfg.shared :=
    fun cfg h => (run_safe h).1
  have hsem := h.records hI
  refine ⟨fun r hr => (hI cfg h).history hr, (hI cfg h).ids, (hI cfg h).owned, ?_, ?_, ?_, ?_⟩
  · exact h.append_only Db.events rfl hI fun s op r s' _ hs =>
      let ⟨new, hnew, _⟩ := (sem_appends hs).1
      ⟨new, hnew⟩
  · exact h.append_only Db.audit rfl hI fun s op r s' _ hs =>
      let ⟨new, hnew, _⟩ := (sem_appends hs).2.1
      ⟨new, hnew⟩
  -- what a call appended is what its committed statements say, and these follow from its value
  · intro t ht a hret
    have hc := h.returned sound_empty (fun c s _ => body_safe c s) ht hret
    obtain ⟨hev, hau⟩ := appended_commits fun e he => (hsem t ht e he).2
    exact effect_of_committed hc hev hau
  -- a call that raised has committed nothing
  · intro t ht e hraise step hstep
    have hm := h.raised sound_empty (fun c s _ => body_safe c s) ht hraise
    rw [show t.monitor commits [] = _ from Thread.monitor_append committed t,
      List.flatMap_eq_nil_iff] at hm
    exact (sem_appends (hsem t ht step hstep).2).2.2 (hm step hstep)

/-- A process created and moved to its next state. -/
def specified_calls : List Call :=
  [.create (.of (.text "process-1")) (.at "2026-01-01T00:00:00+00:00"),
    .advance (.of (.text "process-1")) (.of .specified)
      (.of (TransitionEvidence.raw ⟨true, false, false, false, false, false, false, false⟩))
      (.of 0) (.at "2026-01-01T00:01:00+00:00")]

/-- The history of such a process has two linked events. -/
theorem process_store_history_specified :
    ∃ cfg : Config Call Op Res Exn (Option ProcessRecord) Db, Run cfg ∧
      cfg.shared.events.map EventRow.sequence = [0, 1] ∧
      ∀ r ∈ cfg.shared.processes, ProcessHistory cfg.shared r := by
  obtain ⟨cfg, hr, hs, -⟩ := Reachable.sequence body Db.empty sem_answer
    specified_calls
  refine ⟨cfg, hr, ?_, (process_store_history hr).1⟩
  rw [hs]
  decide +kernel

end AppContracts.RuntimeStore
