/-
What a report as of a cursor keeps when the journal grows.

A report is built from all rows of a journal. Its events and checkpoints are
selected up to the cursor, so rows that come later are left out; but a cause is
looked up among all events, and a checkpoint is dated by the event it names, not
by when it was recorded. `Unaffected` says when neither shows.

That the condition is exact takes the converse, too: two lookups from which the same report
results have found the same causes (`views_agree`), for the report counts those that are
missing. The inductions are over the selected rows, for any two lookups of which one finds
whatever the other does.
-/
import AppContracts.HistoryReport
import AppContracts.ObservationHistory

set_option autoImplicit false

namespace AppContracts.HistoryReport

open Validator Interleave ObservationStore

/-! ## Rows of a journal -/

/-- The rows of a table in cursor order, their texts read. -/
def journal_rows (table : Table) : List (ℕ × Json) :=
  table.in_order.filterMap fun row => (Json.loads row.json).map fun doc => (row.cursor, doc)

/-- The report of a database. -/
def journal_report (db : Db) (s : Selectors) (resolver : Option Resolver) : Except Exn Report :=
  build_history_report (journal_rows db.events) (journal_rows db.checkpoints) s resolver

/-- Documents with their positions. -/
def rows (docs : List Json) : List (ℕ × Json) := docs.mapIdx fun i doc => (i, doc)

theorem mem_rows {docs : List Json} {i : ℕ} {doc : Json} :
    (i, doc) ∈ rows docs ↔ docs[i]? = some doc := by
  rw [rows, List.mem_iff_getElem?]
  simp only [List.getElem?_mapIdx, Option.map_eq_some_iff, Prod.mk.injEq]
  constructor
  · rintro ⟨j, d, hget, rfl, rfl⟩
    exact hget
  · intro hget
    exact ⟨i, doc, hget, rfl, rfl⟩

/-- The rows from a cursor on. -/
theorem mem_rows_drop {docs : List Json} {n : ℕ} {row : ℕ × Json} :
    row ∈ (rows docs).drop n ↔ n ≤ row.1 ∧ docs[row.1]? = some row.2 := by
  rw [List.mem_iff_getElem?]
  simp only [List.getElem?_drop, rows, List.getElem?_mapIdx, Option.map_eq_some_iff]
  constructor
  · rintro ⟨k, doc, hget, rfl⟩
    exact ⟨Nat.le_add_right n k, hget⟩
  · rintro ⟨hle, hget⟩
    refine ⟨row.1 - n, row.2, ?_, ?_⟩
    · rwa [Nat.add_sub_cancel' hle]
    · rw [Nat.add_sub_cancel' hle]

theorem length_rows (docs : List Json) : (rows docs).length = docs.length := List.length_mapIdx

theorem rows_append (docs more : List Json) :
    rows (docs ++ more) = rows docs ++ more.mapIdx fun i doc => (i + docs.length, doc) :=
  List.mapIdx_append

theorem map_rows {β : Type} (f : Json → β) (docs : List Json) :
    (rows docs).map (fun row => f row.2) = docs.map f := by
  apply List.ext_getElem?
  intro i
  rw [rows, List.getElem?_map, List.getElem?_mapIdx, Option.map_map, List.getElem?_map]
  rfl

theorem counted_rows (docs : List Json) : counted (rows docs) = true := by
  rw [counted, beq_iff_eq, length_rows]
  apply List.ext_getElem?
  intro i
  rw [rows, List.getElem?_map, List.getElem?_mapIdx, Option.map_map]
  by_cases hi : i < docs.length
  · simp [hi]
  · simp [hi]

/-- A table that represents a log is read back as the log. -/
theorem journal_rows_table {k : Kind} (l : Log k) : journal_rows l.table = rows l.docs := by
  have hread : l.table.map (fun row => (Json.loads row.json).map fun doc => (row.cursor, doc)) =
      (rows l.docs).map some := by
    apply List.ext_getElem?
    intro i
    rw [rows, List.getElem?_map, Log.table_getElem?, List.getElem?_map, List.getElem?_mapIdx,
      Option.map_map, Option.map_map]
    refine Option.map_congr fun doc hget => ?_
    have hloads := (l.stored doc (List.mem_of_getElem? hget)).loads
    show (Json.loads (String.ofList (doc.print true))).map _ = _
    rw [hloads]
    rfl
  have hfilter := congrArg (List.filterMap id) hread
  rw [List.filterMap_map, List.filterMap_map, Function.id_comp, Function.id_comp,
    List.filterMap_some] at hfilter
  rw [journal_rows, l.in_order_table, hfilter]

theorem journal_report_db (j : Journal) (s : Selectors) (resolver : Option Resolver) :
    journal_report j.db s resolver =
      build_history_report (rows j.events.docs) (rows j.checkpoints.docs) s resolver := by
  show build_history_report (journal_rows j.events.table) (journal_rows j.checkpoints.table) _ _ = _
  rw [journal_rows_table, journal_rows_table]

/-! ## IDs and cursors -/

/-- The search for an ID finds the event that has it. -/
theorem event_by_id_rows (l : Log event_kind) {event_id : String} {i : ℕ} {doc : Json} :
    event_by_id (rows l.docs) event_id = some (i, doc) ↔
      l.docs[i]? = some doc ∧ event_kind.id doc = event_id := by
  have hids : ((rows l.docs).map fun row => event_kind.id row.2).Nodup := by
    rw [map_rows]
    exact l.ids
  constructor
  · intro h
    have hmem := List.mem_reverse.mp (List.mem_of_find?_eq_some h)
    have hid : text doc "event_id" = event_id := by simpa using List.find?_some h
    exact ⟨mem_rows.mp hmem, hid⟩
  · rintro ⟨hget, hid⟩
    have hmem : (i, doc) ∈ rows l.docs := mem_rows.mpr hget
    cases h : event_by_id (rows l.docs) event_id with
    | none =>
      have hne := List.find?_eq_none.mp h _ (List.mem_reverse.mpr hmem)
      exact absurd (decide_eq_true hid) hne
    | some row =>
      have hrow : row ∈ rows l.docs := List.mem_reverse.mp (List.mem_of_find?_eq_some h)
      have hrow_id : text row.2 "event_id" = event_id := by simpa using List.find?_some h
      rw [List.inj_on_of_nodup_map hids hrow hmem (hrow_id.trans hid.symm)]

theorem cursor_of_id (l : Log event_kind) {event_id : String} {i : ℕ} :
    cursor_by_event_id (rows l.docs) event_id = some i ↔
      ∃ doc, l.docs[i]? = some doc ∧ event_kind.id doc = event_id := by
  rw [cursor_by_event_id, Option.map_eq_some_iff]
  constructor
  · rintro ⟨⟨_, doc⟩, h, rfl⟩
    exact ⟨doc, (event_by_id_rows l).mp h⟩
  · rintro ⟨doc, h⟩
    exact ⟨(i, doc), (event_by_id_rows l).mpr h, rfl⟩

/-! ## A journal is verified -/

/-- Values that compare equal have one text. -/
theorem text_eq_of_items {a b : Json} {field : String} (h : check_trigger_field a b field = .ok ()) :
    text b field = text a field := by
  unfold check_trigger_field at h
  obtain ⟨x, hx, h⟩ := bind_ok.mp h
  obtain ⟨y, hy, h⟩ := bind_ok.mp h
  split_ifs at h with heq
  rw [text, text, item_ok.mp hx, item_ok.mp hy]
  cases x <;> cases y <;> first
    | rfl
    | (simp only [py_eq, beq_iff_eq] at heq; rw [heq])
    | exact absurd heq (by simp [py_eq, Json.number?])

theorem is_valid_of {doc : Json} {schema : Schema} (h : validate doc schema = .ok ()) :
    is_valid doc schema = true := by
  rw [is_valid, h]

/-- A recorded checkpoint belongs to its trigger. -/
theorem triggered_rows (j : Journal) {checkpoint : Json} (h : checkpoint ∈ j.checkpoints.docs) :
    triggered (rows j.events.docs) checkpoint = true := by
  have hstored := j.checkpoints.stored checkpoint h
  obtain ⟨_, hcheck⟩ := j.anchored checkpoint h
  obtain ⟨trigger, position, event, htrigger, hfind, hprocess, hrun, hbranch, hcursor, -, rfl⟩ :=
    check_trigger_ok.mp hcheck
  obtain ⟨n, id, hn, hevent, hid, heq⟩ := find_event_get hfind
  obtain rfl : position = n := by omega
  have he := j.events.stored event (List.mem_of_getElem? hevent)
  obtain rfl := Except.ok.inj (he.item_id.symm.trans hid)
  -- The trigger's ID is a string, so the search in the report finds the event too.
  have htext : text checkpoint "trigger_event_id" = event_kind.id event := by
    obtain ⟨s, hs⟩ : ∃ s, checkpoint.get? "trigger_event_id" = some (.str s) :=
      string_field rfl hstored.valid (by simp [checkpoint_kind, CHECKPOINT_SCHEMA]) rfl rfl
    obtain rfl := Option.some.inj (hs.symm.trans (item_ok.mp htrigger))
    obtain rfl : PyStr.text (event_kind.id event) = s := by simpa [py_eq] using heq
    rw [text, hs]
  have hfound := (event_by_id_rows j.events).mpr ⟨hevent, rfl⟩
  have hint : int? checkpoint "event_cursor" = some (position : ℤ) := by
    obtain ⟨v, hv, hint⟩ := bind_ok.mp hcursor
    rw [int?, item_ok.mp hv]
    cases v with
    | int k => rw [Except.ok.inj hint]
    | _ => cases hint
  have hvalid : is_valid checkpoint CHECKPOINT_SCHEMA = true := is_valid_of hstored.valid
  rw [triggered, htext, hfound]
  simp only [hvalid, hint, beq_self_eq_true, Bool.true_and, List.all_cons,
    List.all_nil, Bool.and_true, text_eq_of_items hprocess, text_eq_of_items hrun,
    text_eq_of_items hbranch]
  exact beq_self_eq_true (some (position : ℤ))

/-- **Every journal is verified.** -/
theorem verified_rows (j : Journal) :
    verified (rows j.events.docs) (rows j.checkpoints.docs) = true := by
  have hvalid : (rows j.events.docs).all (fun row => is_valid row.2 EVENT_SCHEMA) = true := by
    rw [List.all_eq_true]
    rintro ⟨i, doc⟩ hrow
    exact is_valid_of (j.events.stored doc (List.mem_of_getElem? (mem_rows.mp hrow))).valid
  have hids : ((rows j.events.docs).map fun row => text row.2 "event_id").Nodup := by
    rw [map_rows (fun doc => text doc "event_id")]
    exact j.events.ids
  have htriggered : (rows j.checkpoints.docs).all
      (fun row => triggered (rows j.events.docs) row.2) = true := by
    rw [List.all_eq_true]
    rintro ⟨i, doc⟩ hrow
    exact triggered_rows j (List.mem_of_getElem? (mem_rows.mp hrow))
  rw [verified, counted_rows, counted_rows, hvalid, htriggered, decide_eq_true hids]
  rfl

/-! ## What is selected -/

/-- The selectors on process, run and branch. -/
def chosen (s : Selectors) (process_id run_id branch_id : String) : Bool :=
  matches_selector s.process_id process_id && matches_selector s.run_id run_id &&
    matches_selector s.branch_id branch_id

/-- An event up to a cursor that the selectors match. -/
def picks (s : Selectors) (c : ℤ) (row : ℕ × Event) : Bool :=
  decide ((row.1 : ℤ) ≤ c) && chosen s row.2.process_id row.2.run_id row.2.branch_id

/-- A checkpoint dated up to a cursor that the selectors match. -/
def picks_checkpoint (s : Selectors) (c : ℤ) (row : ℕ × Checkpoint) : Bool :=
  decide (row.2.event_cursor ≤ c) && chosen s row.2.process_id row.2.run_id row.2.branch_id

section Selection

variable {s : Selectors} {c : ℤ}

theorem select_events_as_of (hc : s.as_of_cursor = some c) (all : List (ℕ × Event)) :
    select_events s ⟨none, none⟩ all = .ok (all.filter (picks s c)) := by
  induction all with
  | nil => rfl
  | cons row rest ih =>
    obtain ⟨cursor, event⟩ := row
    have hkeep : selects s ⟨none, none⟩ cursor event = .ok (picks s c (cursor, event)) := by
      rw [selects, hc]
      by_cases hle : (cursor : ℤ) ≤ c
      · have hlt : ¬ c < (cursor : ℤ) := by omega
        simp [hlt, hle, within, picks, chosen, bind, Except.bind, pure, Except.pure]
      · have hlt : c < (cursor : ℤ) := by omega
        simp [hlt, hle, picks]
    rw [select_events, hkeep, ok_bind, ih, ok_bind, List.filter_cons]
    rfl

theorem select_checkpoints_as_of (hc : s.as_of_cursor = some c) (selected_ids : List String)
    (all : List (ℕ × Checkpoint)) :
    select_checkpoints s ⟨none, none⟩ selected_ids all = .ok (all.filter (picks_checkpoint s c)) := by
  induction all with
  | nil => rfl
  | cons row rest ih =>
    obtain ⟨cursor, checkpoint⟩ := row
    have hkeep : selects_checkpoint s ⟨none, none⟩ selected_ids checkpoint =
        .ok (picks_checkpoint s c (cursor, checkpoint)) := by
      rw [selects_checkpoint, hc]
      by_cases hle : checkpoint.event_cursor ≤ c
      · have hlt : ¬ c < checkpoint.event_cursor := by omega
        simp [hlt, hle, available, picks_checkpoint, chosen, bind, Except.bind, pure, Except.pure]
      · have hlt : c < checkpoint.event_cursor := by omega
        simp [hlt, hle, picks_checkpoint]
    rw [select_checkpoints, hkeep, ok_bind, ih, ok_bind, List.filter_cons]
    rfl

/-- With a cursor, a report that passes the checks has no cutoff. -/
theorem check_selectors_as_of (hc : s.as_of_cursor = some c) {events : List (ℕ × Json)}
    {cutoffs : Cutoffs} (h : check_selectors s events = .ok cutoffs) : cutoffs = ⟨none, none⟩ := by
  unfold check_selectors at h
  obtain ⟨_, -, h⟩ := bind_ok.mp h
  obtain ⟨_, -, h⟩ := bind_ok.mp h
  obtain ⟨_, -, h⟩ := bind_ok.mp h
  rw [hc] at h
  cases hrecorded : s.as_of_recorded_at with
  | some _ => simp [hrecorded] at h
  | none =>
    cases habout : s.about_occurred_at with
    | some _ => simp [hrecorded, habout] at h
    | none =>
      simp only [hrecorded, habout, parse_cutoff, ok_bind] at h
      split_ifs at h
      exact (Except.ok.inj h).symm

/-- The checks depend on the journal by its last cursor only. -/
theorem check_selectors_extend (hc : s.as_of_cursor = some c) {events events' : List (ℕ × Json)}
    (hin : c < max 1 (events.length : ℤ)) (hin' : c < max 1 (events'.length : ℤ)) :
    check_selectors s events' = check_selectors s events := by
  have hcursor : ∀ all : List (ℕ × Json), c < max 1 (all.length : ℤ) →
      (s.as_of_cursor.any fun c => c < 0 ∨ max 1 (all.length : ℤ) ≤ c) = decide (c < 0) := by
    intro all hall
    have hle : ¬ max 1 (all.length : ℤ) ≤ c := by omega
    rw [hc, Option.any_some]
    simp only [hle, or_false]
  unfold check_selectors
  rw [hcursor events hin, hcursor events' hin']

end Selection

/-! ## Causes -/

/-- The gap of a cause that no event has. -/
def is_missing (g : Gap) : Bool := g.code == "causal_reference_missing"

/-- The causes of an event. -/
def causes (e : Event) : List String := e.causal_event_ids.getD []

section Causes

variable {find find' : String → Option ℕ}

/-- A longer journal finds at least what the shorter one found, at its place. -/
def Finds (find find' : String → Option ℕ) : Prop :=
  ∀ event_id cursor, find event_id = some cursor → find' event_id = some cursor

theorem count_causal_gaps (selected_ids : List String) (cursor : ℕ) (e : Event) :
    (causal_gaps find selected_ids cursor e).countP is_missing =
      (causes e).countP fun id => (find id).isNone := by
  rw [causal_gaps, causes]
  induction e.causal_event_ids.getD [] with
  | nil => rfl
  | cons id rest ih =>
    rw [List.flatMap_cons, List.countP_append, ih, List.countP_cons]
    cases hfind : find id with
    | none => simp [is_missing, gap, Nat.add_comm]
    | some cause =>
      -- The other gaps of a cause have other codes.
      by_cases hle : cursor ≤ cause <;> by_cases hout : id ∈ selected_ids <;>
        simp [is_missing, gap, gap_if, hle, hout]

theorem causal_gaps_congr {e : Event} (h : ∀ id ∈ causes e, find' id = find id)
    (selected_ids : List String) (cursor : ℕ) :
    causal_gaps find' selected_ids cursor e = causal_gaps find selected_ids cursor e := by
  rw [causal_gaps, causal_gaps]
  apply List.flatMap_congr
  intro id hid
  rw [h id hid]

/-- If one test passes less often, it fails somewhere the other passes. -/
theorem agree_of_countP {α : Type} {p q : α → Bool} {l : List α}
    (himp : ∀ x ∈ l, q x = true → p x = true) (hcount : l.countP q = l.countP p) :
    ∀ x ∈ l, p x = true → q x = true := by
  induction l with
  | nil => simp
  | cons x rest ih =>
    rw [List.forall_mem_cons] at himp ⊢
    have hle := List.countP_mono_left himp.2
    rw [List.countP_cons, List.countP_cons] at hcount
    by_cases hp : p x = true <;> by_cases hq : q x = true
    · rw [if_pos hp, if_pos hq] at hcount
      exact ⟨fun _ => hq, ih himp.2 (by omega)⟩
    · rw [if_pos hp, if_neg hq] at hcount
      omega
    · exact absurd (himp.1 hq) hp
    · rw [if_neg hp, if_neg hq] at hcount
      exact ⟨fun h => absurd h hp, ih himp.2 (by omega)⟩

theorem count_missing_le (h : Finds find find') (ids : List String) :
    ids.countP (fun id => (find' id).isNone) ≤ ids.countP fun id => (find id).isNone := by
  apply List.countP_mono_left
  intro id _ hnone
  cases hfind : find id with
  | none => rfl
  | some cursor => simp [h id cursor hfind] at hnone

/-- As many missing causes, the same causes. -/
theorem causes_agree (h : Finds find find') {ids : List String}
    (hcount : ids.countP (fun id => (find' id).isNone) = ids.countP fun id => (find id).isNone) :
    ∀ id ∈ ids, find' id = find id := by
  intro id hid
  cases hfind : find id with
  | some cursor => exact h id cursor hfind
  | none =>
    have hnone := agree_of_countP ?_ hcount id hid (by rw [hfind]; rfl)
    · exact Option.isNone_iff_eq_none.mp hnone
    · intro id _ hnone
      cases hfind : find id with
      | none => rfl
      | some cursor => simp [h id cursor hfind] at hnone

variable {selected_ids : List String} {c : Cutoffs} {resolver : Option Resolver}

/-- The loop looks up the causes of its events and nothing else. -/
theorem event_loop_congr {selected : List (ℕ × Event)}
    (h : ∀ row ∈ selected, ∀ id ∈ causes row.2, find' id = find id) (acc : Artifacts) :
    event_loop find' selected_ids c resolver selected acc =
      event_loop find selected_ids c resolver selected acc := by
  induction selected generalizing acc with
  | nil => rfl
  | cons row rest ih =>
    obtain ⟨cursor, e⟩ := row
    rw [List.forall_mem_cons] at h
    rw [event_loop, event_loop, causal_gaps_congr h.1]
    simp only [ih h.2]

/-- What a round of the loop adds. -/
theorem event_loop_cons {cursor : ℕ} {e : Event} {rest : List (ℕ × Event)} {acc : Artifacts}
    {facts : List Fact} {gaps : List Gap} {acc' : Artifacts}
    (h : event_loop find selected_ids c resolver ((cursor, e) :: rest) acc = .ok (facts, gaps, acc')) :
    ∃ fact outcomes acc₁ facts₁ gaps₁, event_fact c cursor e = .ok fact ∧
      use_refs c resolver e.event_id (event_refs e) acc = .ok (outcomes, acc₁) ∧
      event_loop find selected_ids c resolver rest acc₁ = .ok (facts₁, gaps₁, acc') ∧
      facts = fact :: facts₁ ∧
      gaps = event_gaps e ++ causal_gaps find selected_ids cursor e ++
        gap_if (outcomes.any (· ≠ .resolved)) "artifact_content_unresolved" e.event_id ++ gaps₁ := by
  unfold event_loop at h
  obtain ⟨fact, hfact, h⟩ := bind_ok.mp h
  obtain ⟨⟨outcomes, acc₁⟩, huse, h⟩ := bind_ok.mp h
  obtain ⟨⟨facts₁, gaps₁, acc₂⟩, hloop, h⟩ := bind_ok.mp h
  obtain ⟨rfl, rfl, rfl⟩ : fact :: facts₁ = facts ∧ _ = gaps ∧ acc₂ = acc' := by
    simpa only [Prod.mk.injEq] using Except.ok.inj h
  exact ⟨fact, outcomes, acc₁, facts₁, gaps₁, hfact, huse, hloop, rfl, rfl⟩

theorem event_loop_length {selected : List (ℕ × Event)} {acc acc' : Artifacts}
    {facts : List Fact} {gaps : List Gap}
    (h : event_loop find selected_ids c resolver selected acc = .ok (facts, gaps, acc')) :
    facts.length = selected.length := by
  induction selected generalizing acc facts gaps with
  | nil =>
    obtain ⟨rfl, -⟩ := Prod.mk.inj (Except.ok.inj h)
    rfl
  | cons row rest ih =>
    obtain ⟨_, _, _, facts₁, _, _, _, hloop, rfl, _⟩ := event_loop_cons h
    rw [List.length_cons, List.length_cons, ih hloop]

/-- **Two journals, one loop.** The longer journal leaves as many artifacts and at
most as many missing causes; as many only if it knows no cause the shorter one
does not. -/
theorem event_loop_missing (hfinds : Finds find find') {selected : List (ℕ × Event)}
    {acc acc₁ acc₁' : Artifacts} {facts facts' : List Fact} {gaps gaps' : List Gap}
    (h : event_loop find selected_ids c resolver selected acc = .ok (facts, gaps, acc₁))
    (h' : event_loop find' selected_ids c resolver selected acc = .ok (facts', gaps', acc₁')) :
    acc₁' = acc₁ ∧ gaps'.countP is_missing ≤ gaps.countP is_missing ∧
      (gaps'.countP is_missing = gaps.countP is_missing →
        ∀ row ∈ selected, ∀ id ∈ causes row.2, find' id = find id) := by
  -- on the selected events: both loops use the same references, so only the causes can differ
  induction selected generalizing acc facts facts' gaps gaps' with
  | nil =>
    obtain ⟨-, rfl, rfl⟩ : _ ∧ [] = gaps ∧ acc = acc₁ := by
      simpa only [Prod.mk.injEq] using Except.ok.inj h
    obtain ⟨-, rfl, rfl⟩ : _ ∧ [] = gaps' ∧ acc = acc₁' := by
      simpa only [Prod.mk.injEq] using Except.ok.inj h'
    exact ⟨rfl, le_rfl, by simp⟩
  | cons row rest ih =>
    obtain ⟨cursor, e⟩ := row
    obtain ⟨_, outcomes, acc₂, _, gaps₂, -, huse, hloop, -, rfl⟩ := event_loop_cons h
    obtain ⟨_, outcomes', acc₂', _, gaps₂', -, huse', hloop', -, rfl⟩ := event_loop_cons h'
    obtain ⟨rfl, rfl⟩ := Prod.mk.inj (Except.ok.inj (huse.symm.trans huse'))
    obtain ⟨rfl, hle, heq⟩ := ih hloop hloop'
    have hhead := count_missing_le hfinds (causes e)
    refine ⟨rfl, ?_, fun hcount => ?_⟩
    · simp only [List.countP_append, count_causal_gaps]
      omega
    · simp only [List.countP_append, count_causal_gaps] at hcount
      have hcauses : ∀ id ∈ causes e, find' id = find id := causes_agree hfinds (by omega)
      exact List.forall_mem_cons.mpr ⟨hcauses, heq (by omega)⟩

end Causes

/-! ## Two views -/

section Views

variable {s : Selectors} {c : Cutoffs} {resolver : Option Resolver} {find find' : String → Option ℕ}

/-- The gaps of a view besides those of its events. -/
def other_gaps (c : Cutoffs) (selected : List (ℕ × Event)) (checkpoints : List (ℕ × Checkpoint))
    (more_gaps : List Gap) (acc : Artifacts) : List Gap :=
  header_gaps c checkpoints ++ more_gaps ++ group_gaps selected ++
    if acc.unverified = [] then [] else
      [{ code := "artifact_availability_at_time_unverified",
         event_ids := sorted_ids acc.unverified.dedup }]

/-- What a view shows of the rows it was made from. -/
theorem report_view_ok {selected : List (ℕ × Event)} {checkpoints : List (ℕ × Checkpoint)}
    {r : Report} (h : report_view s c resolver find selected checkpoints = .ok r) :
    ∃ facts gaps acc checkpoint_facts more_gaps acc₁,
      event_loop find (event_ids selected) c resolver selected ⟨[], 0, []⟩ = .ok (facts, gaps, acc) ∧
      checkpoint_loop c resolver checkpoints acc = .ok (checkpoint_facts, more_gaps, acc₁) ∧
      r.event_count = selected.length ∧ r.checkpoint_count = checkpoints.length ∧
      r.gaps.countP is_missing =
        gaps.countP is_missing + (other_gaps c selected checkpoints more_gaps acc₁).countP is_missing := by
  unfold report_view at h
  obtain ⟨⟨facts, gaps, acc⟩, hevents, h⟩ := bind_ok.mp h
  obtain ⟨⟨checkpoint_facts, more_gaps, acc₁⟩, hcheckpoints, h⟩ := bind_ok.mp h
  obtain ⟨-, -, h⟩ := bind_ok.mp h
  obtain rfl := Except.ok.inj h
  refine ⟨facts, gaps, acc, checkpoint_facts, more_gaps, acc₁, hevents, hcheckpoints,
    event_loop_length hevents, rfl, ?_⟩
  -- The sort keeps the gaps.
  rw [(List.perm_insertionSort gap_le _).countP_eq]
  simp only [other_gaps, List.countP_append]
  omega

/-- **One view of two journals** shows the same causes. -/
theorem views_agree (hfinds : Finds find find') {selected : List (ℕ × Event)}
    {checkpoints : List (ℕ × Checkpoint)} {r : Report}
    (h : report_view s c resolver find selected checkpoints = .ok r)
    (h' : report_view s c resolver find' selected checkpoints = .ok r) :
    ∀ row ∈ selected, ∀ id ∈ causes row.2, find' id = find id := by
  obtain ⟨_, gaps, acc, _, more, acc₁, hloop, hcheckpoints, -, -, hcount⟩ := report_view_ok h
  obtain ⟨_, gaps', acc', _, more', acc₁', hloop', hcheckpoints', -, -, hcount'⟩ := report_view_ok h'
  obtain ⟨rfl, -, heq⟩ := event_loop_missing hfinds hloop hloop'
  rw [hcheckpoints, Except.ok.injEq, Prod.mk.injEq, Prod.mk.injEq] at hcheckpoints'
  obtain ⟨-, rfl, rfl⟩ := hcheckpoints'
  exact heq (by omega)

end Views

/-! ## Two journals -/

/-- The events a report as of a cursor selects. -/
def events_as_of (s : Selectors) (c : ℤ) (all : List (ℕ × Json)) : List (ℕ × Event) :=
  (all.map fun row => (row.1, Event.of row.2)).filter (picks s c)

/-- The checkpoints a report as of a cursor selects. -/
def checkpoints_as_of (s : Selectors) (c : ℤ) (all : List (ℕ × Json)) : List (ℕ × Checkpoint) :=
  (all.map fun row => (row.1, Checkpoint.of row.2)).filter (picks_checkpoint s c)

/-- The longer journal shows nothing new to a report as of a cursor: it is not too
long, its later events and checkpoints are not selected, and none of its later
events is the cause of a selected one. -/
@[mk_iff]
structure Unaffected (s : Selectors) (c : ℤ)
    (events checkpoints events' checkpoints' : List (ℕ × Json)) : Prop where
  within_limit : events'.length + checkpoints'.length ≤ MAX_RECORDS
  no_event : ∀ row ∈ events'.drop events.length, picks s c (row.1, Event.of row.2) = false
  no_checkpoint : ∀ row ∈ checkpoints'.drop checkpoints.length,
    picks_checkpoint s c (row.1, Checkpoint.of row.2) = false
  no_cause : ∀ row ∈ events, picks s c (row.1, Event.of row.2) = true →
    ∀ later ∈ events'.drop events.length, text later.2 "event_id" ∉ causes (Event.of row.2)

instance {s : Selectors} {c : ℤ} {events checkpoints events' checkpoints' : List (ℕ × Json)} :
    Decidable (Unaffected s c events checkpoints events' checkpoints') :=
  decidable_of_iff _ (unaffected_iff s c events checkpoints events' checkpoints').symm

section Journals

variable {s : Selectors} {c : ℤ} {j j' : Journal} {resolver : Option Resolver}

/-- A report as of a cursor, with the selection written out. -/
theorem report_as_of (hc : s.as_of_cursor = some c) (j : Journal) :
    journal_report j.db s resolver =
      if MAX_RECORDS < (rows j.events.docs).length + (rows j.checkpoints.docs).length then
        .error (report_error "journal is unavailable")
      else check_selectors s (rows j.events.docs) >>= fun _ =>
        report_view s ⟨none, none⟩ resolver (cursor_by_event_id (rows j.events.docs))
          (events_as_of s c (rows j.events.docs)) (checkpoints_as_of s c (rows j.checkpoints.docs)) := by
  rw [journal_report_db, build_history_report]
  by_cases hmax : MAX_RECORDS < (rows j.events.docs).length + (rows j.checkpoints.docs).length
  · rw [if_pos hmax, if_pos hmax]
  · rw [if_neg hmax, if_neg hmax, if_neg (by rw [verified_rows]; decide)]
    cases hcheck : check_selectors s (rows j.events.docs) with
    | error e => rfl
    | ok cutoffs =>
      obtain rfl := check_selectors_as_of hc hcheck
      rw [ok_bind, ok_bind, select_events_as_of hc, ok_bind, select_checkpoints_as_of hc, ok_bind]
      rfl

theorem rows_extend (h : j.Extends j') (name : TableName) :
    rows (j.log name).docs <+: rows (j'.log name).docs := by
  obtain ⟨more, hmore⟩ := h name
  rw [← hmore, rows_append]
  exact List.prefix_append _ _

/-- A longer journal finds what the shorter one found. -/
theorem cursors_extend (h : j.Extends j') :
    Finds (cursor_by_event_id (rows j.events.docs)) (cursor_by_event_id (rows j'.events.docs)) := by
  intro event_id cursor hfind
  obtain ⟨doc, hget, hid⟩ := (cursor_of_id j.events).mp hfind
  have hget' : j'.events.docs[cursor]? = some doc :=
    @Journal.Extends.get _ _ h .observation_events _ _ hget
  exact (cursor_of_id j'.events).mpr ⟨doc, hget', hid⟩

/-- No selected event names a later one exactly if both journals find its causes
alike. -/
theorem causes_of_unaffected (h : j.Extends j')
    (hcause : ∀ row ∈ rows j.events.docs, picks s c (row.1, Event.of row.2) = true →
      ∀ later ∈ (rows j'.events.docs).drop (rows j.events.docs).length,
        text later.2 "event_id" ∉ causes (Event.of row.2)) :
    ∀ row ∈ events_as_of s c (rows j.events.docs), ∀ id ∈ causes row.2,
      cursor_by_event_id (rows j'.events.docs) id = cursor_by_event_id (rows j.events.docs) id := by
  intro row hrow id hid
  rw [events_as_of, List.mem_filter, List.mem_map] at hrow
  obtain ⟨⟨raw, hraw, rfl⟩, hpick⟩ := hrow
  cases hfind : cursor_by_event_id (rows j.events.docs) id with
  | some cursor => exact cursors_extend h id cursor hfind
  | none =>
    rw [Option.eq_none_iff_forall_ne_some]
    intro cursor hfind'
    obtain ⟨doc, hget, hdoc⟩ := (cursor_of_id j'.events).mp hfind'
    by_cases hold : cursor < j.events.docs.length
    · -- An event of the shorter journal: it was found there too.
      have hget₀ : j'.events.docs[cursor]? = some j.events.docs[cursor] :=
        @Journal.Extends.get _ _ h .observation_events _ _ (List.getElem?_eq_getElem hold)
      rw [hget, Option.some.injEq] at hget₀
      have hknown := (cursor_of_id j.events).mpr
        ⟨doc, by rw [List.getElem?_eq_getElem hold, hget₀], hdoc⟩
      rw [hfind] at hknown
      exact absurd hknown (by simp)
    · refine hcause raw hraw hpick (cursor, doc) ?_ ?_
      · rw [mem_rows_drop, length_rows]
        exact ⟨by omega, hget⟩
      · show event_kind.id doc ∈ _
        rw [hdoc]
        exact hid

theorem unaffected_of_causes (h : ∀ row ∈ events_as_of s c (rows j.events.docs), ∀ id ∈ causes row.2,
      cursor_by_event_id (rows j'.events.docs) id = cursor_by_event_id (rows j.events.docs) id) :
    ∀ row ∈ rows j.events.docs, picks s c (row.1, Event.of row.2) = true →
      ∀ later ∈ (rows j'.events.docs).drop (rows j.events.docs).length,
        text later.2 "event_id" ∉ causes (Event.of row.2) := by
  intro row hrow hpick later hlater hmem
  rw [mem_rows_drop, length_rows] at hlater
  have hsel : (row.1, Event.of row.2) ∈ events_as_of s c (rows j.events.docs) := by
    rw [events_as_of, List.mem_filter]
    exact ⟨List.mem_map_of_mem hrow, hpick⟩
  have hfind' := (cursor_of_id j'.events).mpr ⟨later.2, hlater.2, rfl⟩
  change cursor_by_event_id _ (text later.2 "event_id") = _ at hfind'
  rw [h _ hsel _ hmem] at hfind'
  obtain ⟨doc, hget, -⟩ := (cursor_of_id j.events).mp hfind'
  have hlt := (List.getElem?_eq_some_iff.mp hget).1
  omega

theorem no_causes_iff (h : j.Extends j') :
    (∀ row ∈ events_as_of s c (rows j.events.docs), ∀ id ∈ causes row.2,
      cursor_by_event_id (rows j'.events.docs) id = cursor_by_event_id (rows j.events.docs) id) ↔
    ∀ row ∈ rows j.events.docs, picks s c (row.1, Event.of row.2) = true →
      ∀ later ∈ (rows j'.events.docs).drop (rows j.events.docs).length,
        text later.2 "event_id" ∉ causes (Event.of row.2) :=
  ⟨unaffected_of_causes, causes_of_unaffected h⟩

end Journals

section Selecting

variable {α β : Type} {f : α → β} {p : β → Bool} {all all' : List α}

/-- What is selected of a longer list. -/
theorem selected_extend (h : all <+: all') :
    (all'.map f).filter p =
      (all.map f).filter p ++ ((all'.drop all.length).map f).filter p := by
  have hsplit : all ++ all'.drop all.length = all' := List.prefix_iff_eq_append.mp h
  rw [← List.filter_append, ← List.map_append, hsplit]

theorem selected_eq_nil : (all.map f).filter p = [] ↔ ∀ row ∈ all, p (f row) = false := by
  rw [List.filter_eq_nil_iff, List.forall_mem_map]
  simp only [Bool.not_eq_true]

theorem selected_same (h : all <+: all') (hno : ∀ row ∈ all'.drop all.length, p (f row) = false) :
    (all'.map f).filter p = (all.map f).filter p := by
  rw [selected_extend h, selected_eq_nil.mpr hno, List.append_nil]

/-- Nothing new is selected exactly if as much is selected. -/
theorem selected_length (h : all <+: all') :
    ((all'.map f).filter p).length = ((all.map f).filter p).length ↔
      ∀ row ∈ all'.drop all.length, p (f row) = false := by
  rw [selected_extend h, List.length_append, ← selected_eq_nil, ← List.length_eq_zero_iff]
  omega

end Selecting

section Stability

variable {s : Selectors} {c : ℤ} {j j' : Journal} {resolver : Option Resolver}

/-- The report of a journal to which nothing new is shown stays the same. -/
theorem report_unaffected (hc : s.as_of_cursor = some c)
    (hin : c < max 1 ((rows j.events.docs).length : ℤ)) (h : j.Extends j')
    (hsame : Unaffected s c (rows j.events.docs) (rows j.checkpoints.docs) (rows j'.events.docs)
      (rows j'.checkpoints.docs)) :
    journal_report j'.db s resolver = journal_report j.db s resolver := by
  have hevents : rows j.events.docs <+: rows j'.events.docs := rows_extend h .observation_events
  have hcheckpoints : rows j.checkpoints.docs <+: rows j'.checkpoints.docs :=
    rows_extend h .observation_checkpoints
  have hle := hevents.length_le
  have hle' := hcheckpoints.length_le
  have hselected : events_as_of s c (rows j'.events.docs) = events_as_of s c (rows j.events.docs) :=
    selected_same hevents hsame.no_event
  have hselected' : checkpoints_as_of s c (rows j'.checkpoints.docs) =
      checkpoints_as_of s c (rows j.checkpoints.docs) :=
    selected_same hcheckpoints hsame.no_checkpoint
  have hcauses := (no_causes_iff h).mpr hsame.no_cause
  have hlimit := hsame.within_limit
  rw [report_as_of hc j', report_as_of hc j, if_neg (by omega), if_neg (by omega),
    check_selectors_extend hc hin (by omega), hselected, hselected']
  refine congrArg _ (funext fun _ => ?_)
  rw [report_view, report_view, event_loop_congr hcauses]

/-- A report that stays the same was shown nothing new. -/
theorem unaffected_of_report (hc : s.as_of_cursor = some c) (h : j.Extends j') {r : Report}
    (hr : journal_report j.db s resolver = .ok r) (hr' : journal_report j'.db s resolver = .ok r) :
    Unaffected s c (rows j.events.docs) (rows j.checkpoints.docs) (rows j'.events.docs)
      (rows j'.checkpoints.docs) := by
  have hevents : rows j.events.docs <+: rows j'.events.docs := rows_extend h .observation_events
  have hcheckpoints : rows j.checkpoints.docs <+: rows j'.checkpoints.docs :=
    rows_extend h .observation_checkpoints
  rw [report_as_of hc] at hr hr'
  split_ifs at hr with hmax
  split_ifs at hr' with hmax'
  obtain ⟨_, -, hview⟩ := bind_ok.mp hr
  obtain ⟨_, -, hview'⟩ := bind_ok.mp hr'
  obtain ⟨_, _, _, _, _, _, _, _, hcount, hcount_checkpoints, _⟩ := report_view_ok hview
  obtain ⟨_, _, _, _, _, _, _, _, hcount', hcount_checkpoints', _⟩ := report_view_ok hview'
  -- The counts of the report show that nothing more was selected.
  have hno_event := (selected_length hevents).mp (hcount'.symm.trans hcount)
  have hno_checkpoint := (selected_length hcheckpoints).mp
    (hcount_checkpoints'.symm.trans hcount_checkpoints)
  have hselected : events_as_of s c (rows j'.events.docs) = events_as_of s c (rows j.events.docs) :=
    selected_same hevents hno_event
  have hselected' : checkpoints_as_of s c (rows j'.checkpoints.docs) =
      checkpoints_as_of s c (rows j.checkpoints.docs) :=
    selected_same hcheckpoints hno_checkpoint
  rw [hselected, hselected'] at hview'
  exact ⟨by omega, hno_event, hno_checkpoint,
    (no_causes_iff h).mp (views_agree (cursors_extend h) hview hview')⟩

/-- **Reports as of a cursor under a growing journal.** A report that was given
stays the same exactly if nothing new is shown to it. -/
theorem as_of_report_stable {cfg cfg' : Config Call Op Res Exn (Option ℕ) Db} (h : Run cfg)
    (hrun : Relation.ReflTransGen (Step body sem) cfg cfg') {s : Selectors} {c : ℤ}
    (hc : s.as_of_cursor = some c) (hin : c < max 1 (cfg.shared.events.length : ℤ))
    (resolver : Option Resolver) :
    (Unaffected s c (journal_rows cfg.shared.events) (journal_rows cfg.shared.checkpoints)
        (journal_rows cfg'.shared.events) (journal_rows cfg'.shared.checkpoints) →
      journal_report cfg'.shared s resolver = journal_report cfg.shared s resolver) ∧
    ∀ r, journal_report cfg.shared s resolver = .ok r →
      (journal_report cfg'.shared s resolver = .ok r ↔
        Unaffected s c (journal_rows cfg.shared.events) (journal_rows cfg.shared.checkpoints)
          (journal_rows cfg'.shared.events) (journal_rows cfg'.shared.checkpoints)) := by
  obtain ⟨j, hj⟩ := run_sound h
  have hgrows := h.guarantees sound_empty sound_body hrun
  rw [hj] at hgrows
  -- the later journal extends the earlier one, and a report reads nothing but the two
  obtain ⟨j', hj', hext⟩ := Grows.run hgrows
  have hevents : ∀ j : Journal, journal_rows j.db.events = rows j.events.docs :=
    fun j => journal_rows_table j.events
  have hcheckpoints : ∀ j : Journal, journal_rows j.db.checkpoints = rows j.checkpoints.docs :=
    fun j => journal_rows_table j.checkpoints
  have hlength : j.db.events.length = (rows j.events.docs).length := by
    rw [length_rows]
    exact j.events.length_table
  rw [hj, hlength] at hin
  rw [hj, hj', hevents, hevents, hcheckpoints, hcheckpoints]
  have hsame := @report_unaffected s c j j' resolver hc hin hext
  refine ⟨hsame, fun r hr => ⟨unaffected_of_report hc hext hr, fun hunaffected => ?_⟩⟩
  rw [hsame hunaffected, hr]

end Stability

/-! ### A cause that comes later -/

/-- An event with an ID, a sequence number and a cause. -/
def caused_event (event_id : String) (sequence : ℤ) (causal_id : String) : PyValue :=
  ⟨.obj
    [(.text "schema_version", .int 1), (.text "event_id", .str (.text event_id)),
      (.text "event_type", .str (.text "decision_proposed")),
      (.text "process_id", .str (.text "process-1")), (.text "run_id", .str (.text "run-1")),
      (.text "branch_id", .str (.text "branch-1")), (.text "task_id", .str (.text "task-1")),
      (.text "agent_id", .str (.text "agent-1")), (.text "sequence", .int sequence),
      (.text "occurred_at", .str (.text "2026-01-01T00:00:00Z")),
      (.text "recorded_at", .str (.text "2026-01-01T00:00:00Z")),
      (.text "causal_event_ids", .arr [.str (.text causal_id)]),
      (.text "classification", .str (.text "internal")),
      (.text "redaction_status", .str (.text "complete"))],
    by simp [Json.wf, Json.wf_fields, Json.wf_items]⟩

/-- The database after an append. -/
def appended (db : Db) (event : PyValue) : Db := ((body (.append event)).exec answer db).2

/-- A run that appends one event, and one that goes on to append another. -/
theorem append_twice (event event' : PyValue) :
    ∃ cfg cfg' : Config Call Op Res Exn (Option ℕ) Db, Run cfg ∧
      Relation.ReflTransGen (Step body sem) cfg cfg' ∧ cfg.shared = appended Db.empty event ∧
      cfg'.shared = appended (appended Db.empty event) event' := by
  have hrun := @Step.serve _ _ _ _ _ _ body sem answer sem_answer ⟨Db.empty, []⟩ (.append event)
  exact ⟨_, _, hrun, @Step.serve _ _ _ _ _ _ body sem answer sem_answer _ (.append event'), rfl, rfl⟩

/-- A checked event with a fresh ID goes to the end of the log. -/
theorem append_fresh {l : Log event_kind} {event : PyValue} (hc : Checked event_kind event.val)
    (hf : event_kind.id event.val.norm ∉ l.docs.map event_kind.id) (checkpoints : Table) :
    appended ⟨l.table, checkpoints⟩ event = ⟨(l.add event.val.norm hc.stored hf).table, checkpoints⟩ := by
  have hv : validate event.val EVENT_SCHEMA = .ok () := hc.valid
  have hp : prepare event.val "event_id" = .ok (digest event.val, event_kind.id event.val) := hc.prepared
  have hfind : l.table.find (event_kind.id event.val) = none := by
    rw [Log.find_table_none, ← hc.id_norm]
    exact hf
  have hrow : (⟨event_kind.id event.val, l.docs.length,
      String.ofList (event.val.norm.print true), digest event.val⟩ : Row) =
        event_kind.row l.docs.length event.val.norm := by
    rw [Kind.row, hc.id_norm, digest_norm]
  have hinsert := Log.insert_table_fresh hc.stored hf
  rw [← hrow] at hinsert
  unfold appended body append store_record
  simp only [Prog.map_eq, Prog.bind_eq, Prog.perform_bind, Prog.call_bind, Prog.exec, hv, hp, answer, Db.table,
    hfind, Log.next_cursor_table, hc.dumped, Prog.lift_ok, Prog.ret_bind, hinsert, cond_true, Db.set_table]

/-- A checked event recorded first. -/
def first_log {event : PyValue} (hc : Checked event_kind event.val) : Log event_kind :=
  Log.empty.add event.val.norm hc.stored List.not_mem_nil

/-- The database after one event, and after another with an ID of its own. -/
theorem append_both {event event' : PyValue} (hc : Checked event_kind event.val)
    (hc' : Checked event_kind event'.val)
    (hids : event_kind.id event'.val.norm ≠ event_kind.id event.val.norm) :
    ∃ l l' : Log event_kind, l.docs = [event.val.norm] ∧ l'.docs = [event.val.norm, event'.val.norm] ∧
      appended Db.empty event = ⟨l.table, []⟩ ∧
      appended (appended Db.empty event) event' = ⟨l'.table, []⟩ := by
  have hf : event_kind.id event'.val.norm ∉ (first_log hc).docs.map event_kind.id := by
    simpa [first_log, Log.add, Log.empty] using hids
  have hfirst : appended Db.empty event = ⟨(first_log hc).table, []⟩ :=
    @append_fresh Log.empty event hc List.not_mem_nil []
  refine ⟨first_log hc, (first_log hc).add event'.val.norm hc'.stored hf, rfl, rfl, hfirst, ?_⟩
  rw [hfirst]
  exact append_fresh hc' hf []

/-- The view as of the first event. -/
def first_view : Selectors := { as_of_cursor := some 0 }

theorem checked_event {event_id causal_id : String} {sequence : ℤ}
    (h : validate (caused_event event_id sequence causal_id).val EVENT_SCHEMA = .ok () ∧
      (caused_event event_id sequence causal_id).val.encodable false = true) :
    Checked event_kind (caused_event event_id sequence causal_id).val :=
  ⟨(caused_event event_id sequence causal_id).property, h.1, h.2⟩

/-- An event with a cause that is never recorded: a report as of it stays the same
when another event follows. -/
theorem as_of_report_stable_unrelated :
    ∃ cfg cfg' : Config Call Op Res Exn (Option ℕ) Db, Run cfg ∧
      Relation.ReflTransGen (Step body sem) cfg cfg' ∧
      cfg'.shared.events.map Row.id = ["event-1", "event-2"] ∧
      journal_report cfg'.shared first_view none = journal_report cfg.shared first_view none := by
  obtain ⟨cfg, cfg', h, hrun, hs, hs'⟩ :=
    append_twice (caused_event "event-1" 0 "event-3") (caused_event "event-2" 1 "event-1")
  obtain ⟨l, l', hdocs, hdocs', hl, hl'⟩ := append_both
    (@checked_event "event-1" "event-3" 0 (by decide +kernel))
    (@checked_event "event-2" "event-1" 1 (by decide +kernel))
    (by decide +kernel)
  rw [hl] at hs
  rw [hl'] at hs'
  have hids : cfg'.shared.events.map Row.id = ["event-1", "event-2"] := by
    rw [hs', Log.row_ids, hdocs']
    decide +kernel
  have hin : (0 : ℤ) < max 1 (cfg.shared.events.length : ℤ) := by omega
  have hsame : Unaffected first_view 0 (journal_rows cfg.shared.events)
      (journal_rows cfg.shared.checkpoints) (journal_rows cfg'.shared.events)
      (journal_rows cfg'.shared.checkpoints) := by
    rw [hs, hs']
    dsimp only
    rw [journal_rows_table, journal_rows_table, hdocs, hdocs']
    decide +kernel
  exact ⟨cfg, cfg', h, hrun, hids, (as_of_report_stable h hrun rfl hin none).1 hsame⟩

/-- The cause of the first event is recorded after it: the report as of the first
event no longer says that the cause is missing. -/
theorem as_of_report_changes :
    ∃ cfg cfg' : Config Call Op Res Exn (Option ℕ) Db, Run cfg ∧
      Relation.ReflTransGen (Step body sem) cfg cfg' ∧ cfg.shared.events.length = 1 ∧
      (journal_report cfg.shared first_view none).map (·.gaps.map Gap.code) =
        .ok ["causal_reference_missing", "collector_coverage_unverified"] ∧
      (journal_report cfg'.shared first_view none).map (·.gaps.map Gap.code) =
        .ok ["causal_reference_not_prior", "causal_reference_out_of_view",
          "collector_coverage_unverified"] := by
  obtain ⟨cfg, cfg', h, hrun, hs, hs'⟩ :=
    append_twice (caused_event "event-1" 0 "event-2") (caused_event "event-2" 1 "event-1")
  obtain ⟨l, l', hdocs, hdocs', hl, hl'⟩ := append_both
    (@checked_event "event-1" "event-2" 0 (by decide +kernel))
    (@checked_event "event-2" "event-1" 1 (by decide +kernel))
    (by decide +kernel)
  rw [hl] at hs
  rw [hl'] at hs'
  -- the cause is missing in the first report and out of view in the second
  refine ⟨cfg, cfg', h, hrun, ?_, ?_, ?_⟩
  · rw [hs, Log.length_table, hdocs]
    rfl
  · rw [hs, journal_report]
    dsimp only
    rw [journal_rows_table, hdocs]
    decide +kernel
  · rw [hs', journal_report]
    dsimp only
    rw [journal_rows_table, hdocs']
    decide +kernel

end AppContracts.HistoryReport
