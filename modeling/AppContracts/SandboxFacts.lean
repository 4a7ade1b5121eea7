/-
What a history report shows of a journaled sandbox command.

The terminal event of `_invoke_sandbox_run` has the return code of the command
and its failure code under `safe_parameters`. The report copies them only from
an event that names its tool, and the terminal event of a command, unlike those
of the other operations, names none.
-/
import AppContracts.JournaledOutcomes
import AppContracts.HistoryStability

set_option autoImplicit false

namespace AppContracts.ObserverRuntime

open Stateful GatedDispatch

/-! ## The terminal event of a command -/

section Events

variable {ω : Type} {env : Environment ω} {t u : Counted (Run ω)}

/-- A terminal event has the common fields and those it is given. -/
theorem terminal_event_ok {agent_id event_type event_id : String} {fields : List (String × Json)}
    {event : Json}
    (h : (terminal_event env.ports agent_id event_type fields).exec t = (.ok (event_id, event), u)) :
    ∃ self sequence timestamp,
      event = dict (base_fields self event_type sequence event_id agent_id timestamp ++ fields) := by
  have hself : env.ports.self.exec t = (.ok t.state.self, t) := rfl
  simp only [terminal_event, Prog.exec_bind, hself] at h
  split at h
  · rename_i value v _
    split at h
    · rename_i base w hbase
      obtain ⟨hevent, -⟩ := Prod.mk.inj h
      obtain ⟨rfl, rfl⟩ := Prod.mk.inj (Except.ok.inj hevent)
      obtain ⟨timestamp, rfl⟩ := base_event_ok hbase
      exact ⟨_, _, timestamp, rfl⟩
    · cases (Prod.mk.inj h).1
  · cases (Prod.mk.inj h).1

/-- The keys of what a command's outcome adds. -/
theorem command_terminal_keys {pinned : List String} {purpose : Purpose} {argv : Arg (List String)}
    {outcome : Except Exn CommandResult} {terminal : Terminal}
    (h : command_terminal pinned purpose argv outcome = .ok terminal) :
    (terminal.fields.map Prod.fst).Sublist ["status", "error_code", "safe_parameters"] := by
  have hparameters : ∀ returncode failure_code,
      ((safe_parameters returncode failure_code).map Prod.fst).Sublist ["safe_parameters"] := by
    intro returncode failure_code
    simp only [safe_parameters]
    split_ifs
    · exact List.nil_sublist _
    · exact List.Sublist.refl _
  cases outcome with
  | error e =>
    obtain rfl := Except.ok.inj h
    exact (List.Sublist.refl ["status", "error_code"]).append (List.nil_sublist ["safe_parameters"])
  | ok result =>
    obtain ⟨returncode, -, h⟩ := bind_ok.mp h
    obtain rfl := Except.ok.inj h
    split_ifs
    · exact ((List.Sublist.refl ["status"]).append (List.nil_sublist ["error_code"])).append
        (hparameters _ _)
    · exact (List.Sublist.refl ["status", "error_code"]).append (hparameters _ _)

/-- What is read of a dict that is stored as it is, or sorted. -/
theorem dict_reads {fields : List (String × Json)} (hnodup : (fields.map Prod.fst).Nodup)
    {stored : Json} (hstored : stored = dict fields ∨ stored = (dict fields).norm) :
    (∀ key s, (key, text s) ∈ fields → stored.get? key = some (text s)) ∧
      ∀ key ∉ fields.map Prod.fst, stored.get? key = none := by
  have hkeys : ((fields.map fun f => (PyStr.text f.1, f.2)).map Prod.fst).Nodup := by
    rw [List.map_map]
    have hmapped := hnodup.map (f := PyStr.text) fun _ _ heq => PyStr.text.inj heq
    rwa [List.map_map] at hmapped
  have hread : ∀ key s, (key, text s) ∈ fields → (dict fields).get? key = some (text s) := by
    intro key s hmem
    exact (Json.lookup_iff_mem hkeys _ _).mpr (List.mem_map_of_mem hmem)
  have hmissing : ∀ key ∉ fields.map Prod.fst, ∀ f ∈ fields, (PyStr.text key == PyStr.text f.1) = false := by
    intro key hkey f hf
    refine beq_false_of_ne fun heq => hkey ?_
    rw [PyStr.text.inj heq]
    exact List.mem_map_of_mem hf
  rcases hstored with rfl | rfl
  · refine ⟨hread, fun key hkey => List.lookup_eq_none_iff.mpr fun field hfield => ?_⟩
    obtain ⟨f, hf, rfl⟩ := List.mem_map.mp hfield
    simpa using hmissing key hkey f hf
  -- a stored event has its keys sorted; they are the same keys
  · have hsorted := (Json.norm_fields_keys (fields.map fun f => (PyStr.text f.1, f.2))).nodup_iff.mpr hkeys
    refine ⟨fun key s hmem => ?_, fun key hkey => List.lookup_eq_none_iff.mpr fun field hfield => ?_⟩
    · exact (Json.lookup_iff_mem hsorted _ _).mpr
        (Json.mem_norm_fields.mpr ⟨_, List.mem_map_of_mem hmem, rfl⟩)
    · obtain ⟨g, hg, rfl⟩ := Json.mem_norm_fields.mp hfield
      obtain ⟨f, hf, rfl⟩ := List.mem_map.mp hg
      simpa using hmissing key hkey f hf

theorem lift_exec {α σ : Type} (x : Except Exn α) (s : σ) :
    (lift x : Prog Exn σ α).exec s = (x, s) := by
  cases x <;> rfl

/-- The terminal event of a command has its own ID and names no tool. -/
theorem command_told {pinned : List String} {purpose : Purpose} {argv : Arg (List String)}
    {records : Intention} {outcome : Except Exn CommandResult} {event_id : String} {event : Json}
    (h : ((sandbox_run env.ports pinned purpose argv).told env records outcome).exec t =
      (.ok (event_id, event), u)) :
    ∃ fields, event = dict fields ∧ (fields.map Prod.fst).Nodup ∧
      ("event_id", text event_id) ∈ fields ∧ "decision_or_tool" ∉ fields.map Prod.fst := by
  simp only [Operation.told, Operation.tell, sandbox_run, Prog.exec_bind, lift_exec] at h
  cases hterminal : command_terminal pinned purpose argv outcome with
  | error e =>
    rw [hterminal] at h
    exact nomatch (Prod.mk.inj h).1
  | ok terminal =>
    rw [hterminal] at h
    obtain ⟨self, sequence, timestamp, rfl⟩ := terminal_event_ok h
    -- Whatever the outcome adds, the keys are among these.
    have hkeys : ((base_fields self terminal.event_type sequence event_id "service-sandbox" timestamp ++
        ([("invocation_id", text records.invocation_id),
          ("causal_event_ids", .arr [text records.intent_id])] ++ terminal.fields)).map
            Prod.fst).Sublist (["schema_version", "event_id", "event_type", "process_id", "run_id",
        "branch_id", "task_id", "agent_id", "sequence", "occurred_at", "recorded_at",
        "classification", "redaction_status"] ++ (["invocation_id", "causal_event_ids"] ++
          ["status", "error_code", "safe_parameters"])) := by
      rw [List.map_append, List.map_append]
      exact (List.Sublist.refl _).append ((List.Sublist.refl _).append
        (command_terminal_keys hterminal))
    refine ⟨_, rfl, hkeys.nodup (by decide), by simp [base_fields], fun hmem => ?_⟩
    exact absurd (hkeys.subset hmem) (by decide)

end Events

/-! ## The facts of a report -/

section Facts

open HistoryReport

theorem select_events_subset {s : Selectors} {c : Cutoffs} {all selected : List (ℕ × Event)}
    (h : select_events s c all = .ok selected) : selected ⊆ all := by
  induction all generalizing selected with
  | nil =>
    obtain rfl := Except.ok.inj h
    exact List.Subset.refl _
  | cons row rest ih =>
    obtain ⟨cursor, e⟩ := row
    unfold select_events at h
    obtain ⟨keep, -, h⟩ := bind_ok.mp h
    obtain ⟨kept, hkept, h⟩ := bind_ok.mp h
    obtain rfl := Except.ok.inj h
    split_ifs
    · exact List.cons_subset_cons _ (ih hkept)
    · exact List.subset_cons_of_subset _ (ih hkept)

theorem event_loop_facts {find : String → Option ℕ} {ids : List String} {c : Cutoffs}
    {resolver : Option Resolver} {selected : List (ℕ × Event)} {acc acc' : Artifacts}
    {facts : List Fact} {gaps : List Gap}
    (h : event_loop find ids c resolver selected acc = .ok (facts, gaps, acc')) :
    ∀ fact ∈ facts, ∃ row ∈ selected, event_fact c row.1 row.2 = .ok fact := by
  induction selected generalizing acc facts gaps with
  | nil =>
    obtain ⟨rfl, -⟩ := Prod.mk.inj (Except.ok.inj h)
    exact fun fact hfact => nomatch hfact
  | cons row rest ih =>
    obtain ⟨fact, _, _, _, _, hhead, _, hloop, rfl, _⟩ := event_loop_cons h
    intro fact' hfact'
    rcases List.mem_cons.mp hfact' with rfl | hmem
    · exact ⟨row, List.mem_cons_self, hhead⟩
    · obtain ⟨row', hrow', hfact⟩ := ih hloop fact' hmem
      exact ⟨row', List.mem_cons_of_mem _ hrow', hfact⟩

/-- Every fact is the fact of a row, and no two rows have one ID. -/
theorem report_facts {events checkpoints : List (ℕ × Json)} {s : Selectors}
    {resolver : Option Resolver} {report : Report}
    (h : build_history_report events checkpoints s resolver = .ok report) :
    (events.map fun row => HistoryReport.text row.2 "event_id").Nodup ∧
      ∀ fact ∈ report.facts, ∃ row ∈ events, ∃ c, event_fact c row.1 (Event.of row.2) = .ok fact := by
  unfold build_history_report at h
  obtain ⟨-, h⟩ := guard_ok.mp h
  obtain ⟨hverified, h⟩ := guard_ok.mp h
  obtain ⟨c, -, h⟩ := bind_ok.mp h
  obtain ⟨selected, hselected, h⟩ := bind_ok.mp h
  obtain ⟨selected_checkpoints, -, h⟩ := bind_ok.mp h
  unfold report_view at h
  obtain ⟨⟨facts, gaps, acc⟩, hloop, h⟩ := bind_ok.mp h
  obtain ⟨⟨checkpoint_facts, more_gaps, acc₁⟩, -, h⟩ := bind_ok.mp h
  obtain ⟨-, -, h⟩ := bind_ok.mp h
  obtain rfl := Except.ok.inj h
  refine ⟨?_, fun fact hfact => ?_⟩
  · simp only [verified, Bool.not_eq_false, Bool.and_eq_true, decide_eq_true_eq] at hverified
    exact hverified.1.1.2
  · obtain ⟨row, hrow, hfact⟩ := event_loop_facts hloop fact hfact
    obtain ⟨row', hrow', rfl⟩ := List.mem_map.mp (select_events_subset hselected hrow)
    exact ⟨row', hrow', c, hfact⟩

/-- An event that names no tool gives its ID to its fact, but no code. -/
theorem toolless_fact {c : Cutoffs} {cursor : ℕ} {e : Event} {fact : Fact}
    (h : event_fact c cursor e = .ok fact) (htool : e.decision_or_tool = none) :
    fact.sandbox_return_code = none ∧ fact.sandbox_failure_code = none := by
  unfold event_fact at h
  dsimp only at h
  split at h
  · obtain rfl := Except.ok.inj h
    simp [htool]
  · obtain ⟨after_about, -, h⟩ := bind_ok.mp h
    obtain rfl := Except.ok.inj h
    simp [htool]

theorem fact_id {c : Cutoffs} {cursor : ℕ} {e : Event} {fact : Fact}
    (h : event_fact c cursor e = .ok fact) : fact.event_id = e.event_id := by
  unfold event_fact at h
  dsimp only at h
  split at h
  · obtain rfl := Except.ok.inj h
    rfl
  · obtain ⟨after_about, -, h⟩ := bind_ok.mp h
    obtain rfl := Except.ok.inj h
    rfl

/-- The fact carries the return code of a command, or its failure code. -/
def Carries (fact : Fact) (pinned : List String) (purpose : Purpose) (argv : Arg (List String))
    (result : CommandResult) : Prop :=
  (∃ code, result.returncode = .ok (.of code) ∧ fact.sandbox_return_code = some code) ∨
    ∃ code, safe_target_test_failure_code pinned result purpose argv = some code ∧
      fact.sandbox_failure_code = some code

/-- **No fact carries the codes of a command**, whatever the command gave and
whether its terminal event is read back sorted or as it was. -/
theorem sandbox_codes_never_reported {ω : Type} (env : Environment ω) (pinned : List String)
    (purpose : Purpose) (argv : Arg (List String)) (records : Intention) (result : CommandResult)
    {t u : Counted (Run ω)} {event_id : String} {event : Json}
    (htold : ((sandbox_run env.ports pinned purpose argv).told env records (.ok result)).exec t =
      (.ok (event_id, event), u))
    {events checkpoints : List (ℕ × Json)} {s : Selectors} {resolver : Option Resolver}
    {report : Report} (hreport : build_history_report events checkpoints s resolver = .ok report)
    {cursor : ℕ} {stored : Json} (hstored : stored = event ∨ stored = event.norm)
    (hmem : (cursor, stored) ∈ events) :
    ∀ fact ∈ report.facts, fact.event_id = event_id → ¬ Carries fact pinned purpose argv result := by
  obtain ⟨fields, rfl, hnodup, hid, htool⟩ := command_told htold
  obtain ⟨hids, hrows⟩ := report_facts hreport
  intro fact hfact hfact_id
  obtain ⟨hread, hmissing⟩ := dict_reads hnodup hstored
  have hstored_id : HistoryReport.text stored "event_id" = event_id := by
    rw [HistoryReport.text, hread _ _ hid]
    rfl
  -- The fact is that of the terminal event, whose row alone has its ID.
  obtain ⟨row, hrow, c, hrow_fact⟩ := hrows fact hfact
  have hrow_id : HistoryReport.text row.2 "event_id" = event_id := (fact_id hrow_fact).symm.trans hfact_id
  obtain rfl := List.inj_on_of_nodup_map hids hrow hmem (hrow_id.trans hstored_id.symm)
  have hnone : (Event.of stored).decision_or_tool = none := by
    show text? stored "decision_or_tool" = none
    rw [text?, hmissing _ htool]
  obtain ⟨hcode, hfailure⟩ := toolless_fact hrow_fact hnone
  rintro (⟨code, -, hcarried⟩ | ⟨code, -, hcarried⟩)
  · cases hcode.symm.trans hcarried
  · cases hfailure.symm.trans hcarried

/-- The pinned command, and its run that ends with a readiness failure. -/
def sample_command : List String := ["python", "-m", "unittest"]

def sample_failure : CommandResult :=
  ⟨.ok (.of sample_command), .ok (.of 1), .ok (.of "agent00x:test-failure:readiness-exit\n")⟩

/-- Its terminal event. -/
def sample_terminal : Json :=
  dict (base_fields sample_worker "tool_failed" 1 "event-0123abcd" "service-sandbox"
      "2026-01-01T00:00:00Z" ++
    [("invocation_id", text "invocation-0123abcd"), ("causal_event_ids", .arr [text "event-0123abce"]),
      ("status", text "failed"), ("error_code", text "sandbox-command-nonzero"),
      ("safe_parameters", dict [("sandbox_return_code", .int 1),
        ("sandbox_failure_code", text "readiness-exit")])])

theorem sample_told :
    ∃ u, ((sandbox_run (sample_environment 1).ports sample_command .target_tests
        (.of sample_command)).told (sample_environment 1)
        ⟨"invocation-0123abcd", "event-0123abce", .null, .null⟩ (.ok sample_failure)).exec
          ⟨⟨sample_worker, 0⟩, 0⟩ = (.ok ("event-0123abcd", sample_terminal), u) :=
  ⟨_, rfl⟩

/-- Both codes of the command are in its event, and its fact has neither. -/
theorem sandbox_codes_lost : ∃ u report fact,
    ((sandbox_run (sample_environment 1).ports sample_command .target_tests
        (.of sample_command)).told (sample_environment 1)
        ⟨"invocation-0123abcd", "event-0123abce", .null, .null⟩ (.ok sample_failure)).exec
          ⟨⟨sample_worker, 0⟩, 0⟩ = (.ok ("event-0123abcd", sample_terminal), u) ∧
      build_history_report [(0, sample_terminal)] [] {} none = .ok report ∧ fact ∈ report.facts ∧
      fact.event_id = "event-0123abcd" ∧
      safe_target_test_failure_code sample_command sample_failure .target_tests (.of sample_command) =
        some "readiness-exit" ∧
      ¬ Carries fact sample_command .target_tests (.of sample_command) sample_failure := by
  refine ⟨_, _, _, rfl, rfl, List.mem_cons_self, rfl, by decide, ?_⟩
  rintro (⟨code, -, hcarried⟩ | ⟨code, -, hcarried⟩)
  · exact nomatch hcarried
  · exact nomatch hcarried

theorem sandbox_codes_never_reported_sample : ∃ report fact,
    build_history_report [(0, sample_terminal)] [] {} none = .ok report ∧ fact ∈ report.facts ∧
      ¬ Carries fact sample_command .target_tests (.of sample_command) sample_failure := by
  obtain ⟨u, htold⟩ := sample_told
  refine ⟨_, _, rfl, List.mem_cons_self, ?_⟩
  have hnever := sandbox_codes_never_reported (sample_environment 1) _ _ _ _ _ htold
    (rfl : build_history_report [(0, sample_terminal)] [] {} none = _) (.inl rfl) List.mem_cons_self
  exact hnever _ List.mem_cons_self rfl

end Facts

end AppContracts.ObserverRuntime
