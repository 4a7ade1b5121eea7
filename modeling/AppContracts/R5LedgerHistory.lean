/-
The attempt ledger under any interleaving: every attempt is spent at most once,
and every state of the database is one the reopening validation accepts.

The invariant is `Sound`: the stored list is the text of the attempts table, the
attempts are distinct, sorted and within the schedule, and the events of each
attempt have one of the four shapes of `Lifecycle`. The validation is written
independently of the writers, so that it accepts is proved from the invariant
and not from the code paths that established it (`open_existing_accepts`).

That an attempt is claimed once is not read off the rows. The claims in the database are those
that workers have committed, in order (`sem_claims`), and a lifecycle has at most one.
-/
import AppContracts.R5AttemptLedger
import Mathlib.Data.List.Perm.Subperm

set_option autoImplicit false

namespace AppContracts.R5AttemptLedger

open Interleave

/-! ## Attempt lists -/

/-- A list of attempts as the ledger stores it. -/
structure ValidIds (ids : List String) : Prop where
  nonempty : ids ≠ []
  nodup : ids.Nodup
  sorted : ids = sort_by_number ids
  scheduled : ∀ id ∈ ids, is_attempt_id id = true

/-- The decimal digits. -/
def digit_chars : List Char := ['0', '1', '2', '3', '4', '5', '6', '7', '8', '9']

theorem mem_digit_chars {c : Char} (h : c.isDigit = true) : c ∈ digit_chars := by
  have hlt : c.toNat < 58 ∧ 48 ≤ c.toNat := by
    simp only [Char.isDigit, Bool.and_eq_true, decide_eq_true_eq] at h
    have h1 : c.toNat = c.val.toNat := rfl
    have h2 := UInt32.le_iff_toNat_le.mp h.1
    have h3 := UInt32.le_iff_toNat_le.mp h.2
    simp at h2 h3
    omega
  have hall : ∀ n < 58, 48 ≤ n → Char.ofNat n ∈ digit_chars := by decide
  rw [← Char.ofNat_toNat c]
  exact hall _ hlt.1 hlt.2

/-- The whole schedule, `R5-001` to `R5-100`, as characters. -/
def schedule : List (List Char) :=
  (digit_chars.tail.map fun c => ['R', '5', '-', '0', '0', c]) ++
    (digit_chars.tail.flatMap fun b => digit_chars.map fun c => ['R', '5', '-', '0', b, c]) ++
    [['R', '5', '-', '1', '0', '0']]

theorem attempt_id_scheduled {id : String} (h : is_attempt_id id = true) :
    id.toList ∈ schedule := by
  have htail : ∀ c : Char, c.isDigit = true → c ≠ '0' → c ∈ digit_chars.tail := by
    intro c hc hne
    have := mem_digit_chars hc
    simp only [digit_chars, List.mem_cons, List.not_mem_nil, or_false, List.tail_cons] at this ⊢
    exact this.resolve_left hne
  unfold is_attempt_id at h
  split at h
  · rename_i a b c heq
    simp only [Bool.or_eq_true, Bool.and_eq_true, decide_eq_true_eq] at h
    rw [heq, schedule, List.mem_append, List.mem_append]
    rcases h with (⟨⟨⟨rfl, rfl⟩, hc⟩, hne⟩ | ⟨⟨⟨rfl, hb⟩, hne⟩, hc⟩) | ⟨⟨rfl, rfl⟩, rfl⟩
    · exact .inl (.inl (List.mem_map.mpr ⟨c, htail c hc hne, rfl⟩))
    · exact .inl (.inr (List.mem_flatMap.mpr
        ⟨b, htail b hb hne, List.mem_map.mpr ⟨c, mem_digit_chars hc, rfl⟩⟩))
    · exact .inr (by simp)
  · cases h

/-- There are only a hundred attempts to schedule. -/
theorem ValidIds.length_le {ids : List String} (h : ValidIds ids) : ids.length ≤ 100 := by
  have hsub : ids.map String.toList ⊆ schedule := by
    intro cs hcs
    obtain ⟨id, hid, rfl⟩ := List.mem_map.mp hcs
    exact attempt_id_scheduled (h.scheduled id hid)
  have hnodup : (ids.map String.toList).Nodup :=
    h.nodup.map fun a b hab => String.toList_inj.mp hab
  have hlen := (List.subperm_of_subset hnodup hsub).length_le
  rw [List.length_map] at hlen
  exact hlen.trans (by decide)

theorem mapM_attempt_id {ids : List String} (h : ∀ id ∈ ids, is_attempt_id id = true) :
    (ids.map fun id => Json.str (.text id)).mapM attempt_id? = some ids := by
  induction ids with
  | nil => rfl
  | cons id ids ih =>
    rw [List.map_cons, List.mapM_cons, ih fun i hi => h i (List.mem_cons_of_mem _ hi)]
    simp [attempt_id?, h id (by simp)]

/-- A valid list passes the validation. -/
theorem ValidIds.validate {ids : List String} (h : ValidIds ids) :
    validate_attempt_ids (ids.map fun id => Json.str (.text id)) = some ids := by
  have hlen := h.length_le
  have hok : ¬ (ids.map (fun id => Json.str (.text id)) = [] ∨
      100 < (ids.map fun id => Json.str (.text id)).length) := by
    simp only [List.map_eq_nil_iff, List.length_map, not_or, not_lt]
    exact ⟨h.nonempty, hlen⟩
  rw [validate_attempt_ids, if_neg hok, mapM_attempt_id h.scheduled]
  exact if_pos ⟨h.nodup, h.sorted⟩

theorem mapM_attempt_id_some {values : List Json} {ids : List String}
    (h : values.mapM attempt_id? = some ids) : ∀ id ∈ ids, is_attempt_id id = true := by
  induction values generalizing ids with
  | nil =>
    obtain rfl : ids = [] := by simpa [eq_comm] using h
    simp
  | cons v values ih =>
    rw [List.mapM_cons] at h
    simp only [Option.bind_eq_bind, Option.bind_eq_some_iff, Option.pure_def,
      Option.some.injEq] at h
    obtain ⟨id, hid, rest, hrest, rfl⟩ := h
    have hv : is_attempt_id id = true := by
      unfold attempt_id? at hid
      split at hid
      · simp only [Option.ite_none_right_eq_some, Option.some.injEq] at hid
        exact hid.2 ▸ hid.1
      · cases hid
    simpa [hv] using ih hrest

/-- What passes the validation is a valid list. -/
theorem validate_attempt_ids_some {values : List Json} {ids : List String}
    (h : validate_attempt_ids values = some ids) : ValidIds ids := by
  unfold validate_attempt_ids at h
  split_ifs at h with hlen
  split at h
  · cases h
  · rename_i ids' hmap
    split_ifs at h with hok
    obtain rfl := Option.some.inj h
    refine ⟨?_, hok.1, hok.2, mapM_attempt_id_some hmap⟩
    rintro rfl
    have hnil : values = [] := by
      cases values with
      | nil => rfl
      | cons v values =>
        rw [List.mapM_cons] at hmap
        simp [Option.bind_eq_some_iff] at hmap
    exact hlen (.inl hnil)

/-- The stored text of a valid list is read back as the list. -/
theorem ValidIds.loads {ids : List String} (h : ValidIds ids) :
    loads_ids (dumps_ids ids) = some ids := by
  have hnorm : (Json.arr (ids.map fun id => .str (.text id))).norm =
      .arr (ids.map fun id => .str (.text id)) := by
    simp [Json.norm, Json.norm_items_eq]
  have hwf : (Json.arr (ids.map fun id => .str (.text id))).wf := by
    simp [Json.wf, Json.wf_items_iff]
  have hplain : (Json.arr (ids.map fun id => .str (.text id))).plain := by
    simp [Json.plain, Json.plain_items_iff]
  have henc : (Json.arr (ids.map fun id => .str (.text id))).encodable false = true := by
    simp [Json.encodable, Json.encodable_items_iff, Json.encodable_str]
  have hload := Json.loads_print true hwf hplain henc
  rw [hnorm] at hload
  simp only [loads_ids, dumps_ids, hload, tuple_of_json, Option.bind_eq_bind, Option.bind_some,
    h.validate]

/-! ## Lifecycles -/

/-- The events of one attempt: none, a claim, or a claim and a terminal event
with the same input digest. -/
inductive Lifecycle : List EventRow → Prop
  | pending : Lifecycle []
  | claimed (e : EventRow) (he : e.state = .CLAIMED) (hv : valid_record e = true) : Lifecycle [e]
  | ended (e last : EventRow) (he : e.state = .CLAIMED) (hv : valid_record e = true)
      (hlast : last.state = .COMPLETED ∨ last.state = .UNKNOWN)
      (hdigest : last.input_digest = e.input_digest) (hlv : valid_record last = true) :
      Lifecycle [e, last]

/-- The reopening validation accepts a lifecycle. -/
theorem Lifecycle.valid {events : List EventRow} (h : Lifecycle events) :
    valid_events events = true ∧ events.getLast?.all valid_record = true := by
  cases h with
  | pending => exact ⟨rfl, rfl⟩
  | claimed e he hv =>
    refine ⟨?_, by simpa using hv⟩
    simp only [valid_record, he, Bool.and_eq_true] at hv
    simp [valid_events, he, hv]
  | ended e last he hv hlast hdigest hlv =>
    refine ⟨?_, by simpa using hlv⟩
    simp only [valid_record, he, Bool.and_eq_true] at hv
    rcases hlast with hlast | hlast <;> simp [valid_events, he, hv, hdigest, hlast]

/-! ## The invariant -/

/-- A ledger every reopening accepts. -/
structure Sound (db : Db) : Prop where
  user_version : db.user_version = SCHEMA_VERSION
  schema_version : db.schema_version = SCHEMA_VERSION
  ids : ValidIds db.attempts
  listed : db.allowed_attempt_ids = dumps_ids db.attempts
  lifecycles : ∀ id, Lifecycle (db.history id)

/-- What the other connections may do: append events and attempts. -/
def Appends (db db' : Db) : Prop := db.events <+: db'.events ∧ db.attempts <+: db'.attempts

theorem sound_created : Sound Db.created := by
  refine ⟨rfl, rfl, ⟨by decide, by decide, by decide, by decide⟩, rfl, fun id => ?_⟩
  exact .pending

/-- The history of an attempt after one more event. -/
theorem history_append (db : Db) (e : EventRow) (id : String) :
    Db.history { db with events := db.events ++ [e] } id =
      if e.attempt_id = id then db.history id ++ [e] else db.history id := by
  by_cases h : e.attempt_id = id <;> simp [Db.history, List.filter_append, h]

/-- An event row that passes its check and continues its attempt's lifecycle
keeps the invariant. -/
theorem sound_insert_event {db : Db} (hI : Sound db) {e : EventRow}
    (hlife : ∀ n, Lifecycle (db.history e.attempt_id ++ [{ e with event_id := n }]))
    {r : Outcome} {db' : Db} (h : db.insert_event e = (r, db')) :
    Sound db' ∧ Appends db db' := by
  unfold Db.insert_event at h
  split_ifs at h
  · obtain ⟨rfl, rfl⟩ := Prod.mk.inj h
    refine ⟨⟨hI.user_version, hI.schema_version, hI.ids, hI.listed, fun id => ?_⟩,
      List.prefix_append _ _, List.prefix_rfl⟩
    rw [history_append]
    by_cases hid : e.attempt_id = id
    · subst hid
      rw [if_pos rfl]
      exact hlife _
    · rw [if_neg hid]
      exact hI.lifecycles id
  · obtain ⟨rfl, rfl⟩ := Prod.mk.inj h
    exact ⟨hI, List.prefix_rfl, List.prefix_rfl⟩

theorem sound_claim {db : Db} (hI : Sound db) (id : String) {digest : String}
    (hd : is_digest digest = true) {r : Outcome} {db' : Db} (h : db.claim id digest = (r, db')) :
    Sound db' ∧ Appends db db' := by
  unfold Db.claim at h
  split_ifs at h with hc
  · obtain ⟨rfl, rfl⟩ := Prod.mk.inj h
    exact ⟨hI, List.prefix_rfl, List.prefix_rfl⟩
  · simp only [not_or, not_not, List.getLast?_eq_none_iff] at hc
    refine sound_insert_event hI (fun n => ?_) h
    rw [hc.2]
    exact .claimed _ rfl (by simp [valid_record, hd])

/-- The terminal event of a claimed attempt. What it records is valid when the
claim's digest is put in. -/
theorem sound_transition {db : Db} (hI : Sound db) (id : String) {state : EventState}
    (hstate : state = .COMPLETED ∨ state = .UNKNOWN) {digest outcome : Option String}
    {reason : String}
    (hv : ∀ n input, is_digest input = true →
      valid_record ⟨n, id, state, input, digest, outcome, some reason⟩ = true) {r : Outcome}
    {db' : Db} (h : db.transition id state digest outcome reason = (r, db')) :
    Sound db' ∧ Appends db db' := by
  unfold Db.transition at h
  split at h
  · obtain ⟨rfl, rfl⟩ := Prod.mk.inj h
    exact ⟨hI, List.prefix_rfl, List.prefix_rfl⟩
  · rename_i last hlast
    split_ifs at h with hclaimed
    · obtain ⟨rfl, rfl⟩ := Prod.mk.inj h
      exact ⟨hI, List.prefix_rfl, List.prefix_rfl⟩
    · rw [not_not] at hclaimed
      refine sound_insert_event hI (fun n => ?_) h
      -- The last event is a claim, so it is the only one.
      cases hl : db.history id with
      | nil =>
        rw [hl] at hlast
        cases hlast
      | cons e rest =>
        have hlife := hI.lifecycles id
        rw [hl] at hlife hlast
        cases hlife with
        | claimed _ he hev =>
          obtain rfl := Option.some.inj hlast
          have hin : is_digest e.input_digest = true := by
            simp only [valid_record, Bool.and_eq_true] at hev
            exact hev.1
          exact .ended e _ he hev hstate rfl (hv n _ hin)
        | ended _ last' he hev hend =>
          obtain rfl : last' = last := Option.some.inj hlast
          rcases hend with hend | hend <;> rw [hend] at hclaimed <;> cases hclaimed

theorem sound_extend {db : Db} (hI : Sound db) {additions : List String}
    (hadd : ∀ id ∈ additions, is_attempt_id id = true) {r : Option (List String)} {db' : Db}
    (h : db.extend additions = (r, db')) : Sound db' ∧ Appends db db' := by
  unfold Db.extend at h
  rw [hI.listed, hI.ids.loads] at h
  simp only at h
  split_ifs at h with hok
  · obtain ⟨rfl, rfl⟩ := Prod.mk.inj h
    obtain ⟨hacc, hfresh, hnodup⟩ := hok
    simp only [extension_accepted, Bool.and_eq_true, decide_eq_true_eq] at hacc
    refine ⟨⟨hI.user_version, hI.schema_version, ⟨?_, ?_, hacc.1.2, ?_⟩, rfl,
      hI.lifecycles⟩, List.prefix_rfl, List.prefix_append _ _⟩
    · simp [hI.ids.nonempty]
    · rw [List.nodup_append]
      exact ⟨hI.ids.nodup, hnodup, fun a ha b hb hab => hfresh b hb (hab ▸ ha)⟩
    · intro id hid
      rcases List.mem_append.mp hid with hid | hid
      · exact hI.ids.scheduled id hid
      · exact hadd id hid
  · obtain ⟨rfl, rfl⟩ := Prod.mk.inj h
    exact ⟨hI, List.prefix_rfl, List.prefix_rfl⟩

/-! ## Reopening -/

/-- The loop of the validation accepts attempts the ledger knows. -/
theorem validate_attempts_accepts {db : Db} (hI : Sound db) {ids : List String}
    (h : ∀ id ∈ ids, id ∈ db.attempts) : (validate_attempts ids).exec answer db = (.ok (), db) := by
  induction ids with
  | nil => rfl
  | cons id ids ih =>
    have hrest := ih fun i hi => h i (List.mem_cons_of_mem _ hi)
    obtain ⟨hevents, hlast⟩ := (hI.lifecycles id).valid
    have hmem : decide (id ∈ db.attempts) = true := decide_eq_true (h id (by simp))
    have hrecord : (read_record id).exec answer db = (.ok (), db) := by
      simp only [read_record, Prog.bind_eq, Prog.perform_bind, Prog.exec, answer, hmem, require,
        if_true, Prog.lift_ok, Prog.ret_bind, hlast]
    simp only [validate_attempts, Prog.bind_eq, Prog.perform_bind, Prog.exec, answer, hevents,
      require, if_true, Prog.lift_ok, Prog.ret_bind]
    cases (db.history id).isEmpty with
    | true => exact hrest
    | false =>
      rw [cond_false, Prog.exec_bind, hrecord]
      exact hrest

theorem mem_sort_ids {ids : List String} {id : String} : id ∈ sort_ids ids ↔ id ∈ ids :=
  List.mem_insertionSort _

/-- **Reopening accepts every sound ledger and leaves it as it is.** -/
theorem open_existing_accepts {db : Db} (hI : Sound db) :
    open_existing.exec answer db = (.ok (), db) := by
  have hmeta : meta_ids (db.schema_version, db.allowed_attempt_ids) = .ok db.attempts := by
    rw [meta_ids, if_neg (not_not.mpr hI.schema_version), hI.listed, hI.ids.loads]
  have hsame : same_ids (sort_ids db.attempts) db.attempts = true := by
    have hlen : (sort_ids db.attempts).length = db.attempts.length := List.length_insertionSort _ _
    simp [same_ids, mem_sort_ids, hlen]
  have hvalid : validate_existing_schema.exec answer db = (.ok (), db) := by
    simp only [validate_existing_schema, Prog.bind_eq, Prog.perform_bind, Prog.exec, answer,
      hI.user_version, decide_true, require, if_true, Prog.lift_ok, Prog.ret_bind, hmeta, hsame]
    exact validate_attempts_accepts hI fun _ hid => hid
  rw [open_existing, Prog.tryCatch_eq, Prog.exec_handle, hvalid]

/-! ## What a call commits -/

/-- The transaction an operation committed, if it did. -/
def committed : (op : Op) → Res op → List Op
  | .claim id digest, Outcome.committed => [.claim id digest]
  | .transition id state digest outcome reason, Outcome.committed =>
    [.transition id state digest outcome reason]
  | .extend additions, some _ => [.extend additions]
  | _, _ => []

/-- The monitor of a worker's commits. -/
def commits (m : List Op) (op : Op) (r : Res op) : List Op := m ++ committed op r

/-- What a call that returns has committed. -/
def Committed : Call → List Op → Prop
  | .claim _ id digest, ops => ∃ i d, id = .text i ∧ digest = .of (.text d) ∧ ops = [.claim i d]
  | .complete _ id _ _ _, ops => ∃ i d o r, id = .text i ∧
      ops = [.transition i .COMPLETED (some d) (some o) r]
  | .mark_unknown _ id _ _, ops => ∃ i d r, id = .text i ∧ ops = [.transition i .UNKNOWN d none r]
  | .extend_allowed_attempt_ids _ _, ops => ∃ additions, ops = [.extend additions]
  | .open_existing, ops => ops = []

/-- An operation that commits nothing changes nothing. -/
theorem sem_unchanged {db db' : Db} {op : Op} {r : Res op} (h : sem db op r db')
    (hc : committed op r = []) : db' = db := by
  rcases h with h | ⟨-, rfl⟩
  · have hinsert {db db' : Db} {e : EventRow} {r : Outcome} (h : db.insert_event e = (r, db'))
        (hr : r ≠ .committed) : db' = db := by
      unfold Db.insert_event at h
      split_ifs at h
      · exact absurd (Prod.mk.inj h).1.symm hr
      · exact (Prod.mk.inj h).2.symm
    -- the two kinds of events that are inserted, and the extension of the schedule
    cases op with
    | claim id digest =>
      have hr : r ≠ Outcome.committed := by rintro rfl; cases hc
      simp only [answer, Db.claim] at h
      split_ifs at h
      · exact (Prod.mk.inj h).2.symm
      · exact hinsert h hr
    | transition id state digest outcome reason =>
      have hr : r ≠ Outcome.committed := by rintro rfl; cases hc
      simp only [answer, Db.transition] at h
      split at h
      · exact (Prod.mk.inj h).2.symm
      · split_ifs at h
        · exact (Prod.mk.inj h).2.symm
        · exact hinsert h hr
    | extend additions =>
      simp only [answer, Db.extend] at h
      split at h
      · exact (Prod.mk.inj h).2.symm
      · split_ifs at h
        · obtain ⟨rfl, -⟩ := Prod.mk.inj h
          cases hc
        · exact (Prod.mk.inj h).2.symm
    | _ => exact (Prod.mk.inj h).2.symm
  · rfl

/-! ## The methods are safe -/

section Methods

/-- Code of the ledger, run among connections that keep `Sound` and append. -/
abbrev LedgerSafe {α : Type} (Q : List Op → α → Db → Prop) (X : List Op → Exn → Db → Prop)
    (m : List Op) (p : Program α) (s : Db) : Prop :=
  Safe sem Sound Appends commits Q X m p s

theorem Appends.refl (db : Db) : Appends db db := ⟨List.prefix_rfl, List.prefix_rfl⟩

/-- A writing operation followed by its error check. -/
theorem write_safe {op : Op} {check : Res op → Except Exn Unit} {P : List Op → Prop} {s : Db}
    (hsound : ∀ db r db', Sound db → answer op db = (r, db') → Sound db' ∧ Appends db db')
    (hok : ∀ r, check r = .ok () → P (committed op r))
    (herr : ∀ r e, check r = .error e → committed op r = []) :
    LedgerSafe (fun m' _ _ => P m') (fun m' _ _ => m' = []) []
      ((Prog.perform op).bind fun r => Prog.lift (check r)) s := by
  intro s₁ hI _ r s₂ hsem
  have hstep : Sound s₂ ∧ Appends s₁ s₂ := by
    rcases hsem with h | ⟨-, rfl⟩
    · exact hsound s₁ r s₂ hI h
    · exact ⟨hI, Appends.refl _⟩
  refine ⟨hstep.1, hstep.2, ?_⟩
  have hm : commits [] op r = committed op r := List.nil_append _
  rw [hm]
  change LedgerSafe _ _ _ (Prog.lift (check r)) s₂
  cases hc : check r with
  | ok u => exact fun _ _ _ => hok r hc
  | error e => exact fun _ _ _ => herr r e hc

theorem validate_digest_ok {value : Arg PyStr} {digest : String}
    (h : validate_digest value = .ok digest) :
    value = .of (.text digest) ∧ is_digest digest = true := by
  unfold validate_digest at h
  split at h
  · split_ifs at h with hd
    obtain rfl := Except.ok.inj h
    exact ⟨rfl, hd⟩
  · cases h

theorem one_of_ok {texts : List String} {value : Arg PyStr} {text : String}
    (h : one_of texts value = .ok text) : text ∈ texts := by
  unfold one_of at h
  split at h
  · split_ifs at h with ht
    obtain rfl := Except.ok.inj h
    exact ht
  · cases h

theorem bind_id_ok {id : PyStr} {message i : String} (h : bind_id id message = .ok i) :
    id = .text i := by
  cases id with
  | text t =>
    obtain rfl := Except.ok.inj h
    rfl
  | surrogates codes lone => cases h

theorem outcome_error_ok {name : String} {r : Outcome} (h : outcome_error name r = .ok ()) :
    r = .committed := by
  cases r with
  | committed => rfl
  | unavailable => cases h
  | failed => cases h

theorem outcome_error_error {name : String} {r : Outcome} {e : Exn}
    (h : outcome_error name r = .error e) : r ≠ .committed := by
  rintro rfl
  cases h

variable {s : Db}

theorem claim_safe (closed : Bool) (id : PyStr) (digest : Arg PyStr) :
    LedgerSafe (fun m' _ _ => Committed (.claim closed id digest) m') (fun m' _ _ => m' = []) []
      (claim closed id digest) s := by
  unfold claim
  simp only [Prog.bind_eq]
  refine Safe.lift_bind (fun _ _ _ _ _ => rfl) fun d hd => ?_
  refine Safe.lift_bind (fun _ _ _ _ _ => rfl) fun _ _ => ?_
  refine Safe.lift_bind (fun _ _ _ _ _ => rfl) fun i hi => ?_
  obtain ⟨rfl, hvalid⟩ := validate_digest_ok hd
  obtain rfl := bind_id_ok hi
  refine write_safe (fun db r db' hI h => sound_claim hI i hvalid h) ?_ ?_
  · intro r hr
    obtain rfl := outcome_error_ok hr
    exact ⟨i, d, rfl, rfl, rfl⟩
  · intro r e he
    have := outcome_error_error he
    cases r <;> first | rfl | exact absurd rfl this

/-- The shared tail of `complete` and `mark_unknown`. -/
theorem transition_safe (closed : Bool) (id : PyStr) {state : EventState}
    (hstate : state = .COMPLETED ∨ state = .UNKNOWN) {digest outcome : Option String}
    {reason : String}
    (hv : ∀ i n input, is_digest input = true →
      valid_record ⟨n, i, state, input, digest, outcome, some reason⟩ = true) {P : List Op → Prop}
    (hP : ∀ i, id = .text i → P [.transition i state digest outcome reason]) :
    LedgerSafe (fun m' _ _ => P m') (fun m' _ _ => m' = []) []
      (transition closed id state digest outcome reason) s := by
  unfold transition
  simp only [Prog.bind_eq]
  refine Safe.lift_bind (fun _ _ _ _ _ => rfl) fun _ _ => ?_
  refine Safe.lift_bind (fun _ _ _ _ _ => rfl) fun i hi => ?_
  obtain rfl := bind_id_ok hi
  refine write_safe (fun db r db' hI h => sound_transition hI i hstate (hv i) h) ?_ ?_
  · intro r hr
    obtain rfl := outcome_error_ok hr
    exact hP i rfl
  · intro r e he
    have := outcome_error_error he
    cases r <;> first | rfl | exact absurd rfl this

theorem complete_safe (closed : Bool) (id : PyStr) (digest outcome reason : Arg PyStr) :
    LedgerSafe (fun m' _ _ => Committed (.complete closed id digest outcome reason) m')
      (fun m' _ _ => m' = []) [] (complete closed id digest outcome reason) s := by
  unfold complete
  simp only [Prog.bind_eq]
  refine Safe.lift_bind (fun _ _ _ _ _ => rfl) fun d hd => ?_
  refine Safe.lift_bind (fun _ _ _ _ _ => rfl) fun o ho => ?_
  refine Safe.lift_bind (fun _ _ _ _ _ => rfl) fun r hr => ?_
  refine transition_safe closed id (.inl rfl) ?_ fun i hi => ⟨i, d, o, r, hi, rfl⟩
  intro i n input hin
  simp [valid_record, hin, (validate_digest_ok hd).2, one_of_ok ho, one_of_ok hr]

theorem optional_digest_ok {result_digest : Option (Arg PyStr)} {digest : Option String}
    (h : optional_digest result_digest = .ok digest) : digest.all is_digest = true := by
  cases result_digest with
  | none =>
    obtain rfl := Except.ok.inj h
    rfl
  | some value =>
    simp only [optional_digest] at h
    cases hv : validate_digest value with
    | error e =>
      rw [hv] at h
      cases h
    | ok d =>
      rw [hv] at h
      obtain rfl := Except.ok.inj h
      exact (validate_digest_ok hv).2

theorem mark_unknown_safe (closed : Bool) (id : PyStr) (reason : Arg PyStr)
    (digest : Option (Arg PyStr)) :
    LedgerSafe (fun m' _ _ => Committed (.mark_unknown closed id reason digest) m')
      (fun m' _ _ => m' = []) [] (mark_unknown closed id reason digest) s := by
  unfold mark_unknown
  simp only [Prog.bind_eq]
  refine Safe.lift_bind (fun _ _ _ _ _ => rfl) fun r hr => ?_
  refine Safe.lift_bind (fun _ _ _ _ _ => rfl) fun d hd => ?_
  refine transition_safe closed id (.inr rfl) ?_ fun i hi => ⟨i, d, r, hi, rfl⟩
  intro i n input hin
  have hall := optional_digest_ok hd
  simp only [valid_record, hin, hall, Option.isNone_none, Option.any_some, one_of_ok hr,
    decide_true, Bool.and_self]

theorem extend_safe (closed : Bool) (ids : Arg (List Json)) :
    LedgerSafe (fun m' _ _ => Committed (.extend_allowed_attempt_ids closed ids) m')
      (fun m' _ _ => m' = []) [] (extend_allowed_attempt_ids closed ids) s := by
  unfold extend_allowed_attempt_ids
  simp only [Prog.bind_eq]
  refine Safe.lift_bind (fun _ _ _ _ _ => rfl) fun additions hadd => ?_
  refine Safe.lift_bind (fun _ _ _ _ _ => rfl) fun _ _ => ?_
  have hvalid : ValidIds additions := by
    unfold check_additions at hadd
    split at hadd
    · cases hadd
    · split at hadd
      · cases hadd
      · rename_i hv
        obtain rfl := Except.ok.inj hadd
        exact validate_attempt_ids_some hv
  refine write_safe (fun db r db' hI h => sound_extend hI hvalid.scheduled h) ?_ ?_
  · intro r hr
    cases r with
    | none => cases hr
    | some updated => exact ⟨additions, rfl⟩
  · intro r e he
    cases r with
    | none => rfl
    | some updated => cases he

/-- An operation of the reopening validation. -/
def IsRead : Op → Prop
  | .claim _ _ => False
  | .transition _ _ _ _ _ => False
  | .extend _ => False
  | _ => True

theorem read_record_reads (id : String) : (read_record id).All IsRead :=
  ⟨trivial, fun _ => (Prog.All.lift _).bind fun _ => ⟨trivial, fun _ => Prog.All.lift _⟩⟩

theorem validate_attempts_reads (ids : List String) : (validate_attempts ids).All IsRead := by
  induction ids with
  | nil => trivial
  | cons id ids ih =>
    refine ⟨trivial, fun events => (Prog.All.lift _).bind fun _ => ?_⟩
    cases events.isEmpty with
    | true => exact ih
    | false => exact (read_record_reads id).bind fun _ => ih

/-- Reopening only reads. -/
theorem open_existing_reads : open_existing.All IsRead := by
  refine Prog.All.handle ?_ fun _ => trivial
  refine ⟨trivial, fun version => (Prog.All.lift _).bind fun _ => ⟨trivial, fun meta_row => ?_⟩⟩
  refine (Prog.All.lift _).bind fun validated => ⟨trivial, fun actual => ?_⟩
  exact (Prog.All.lift _).bind fun _ => validate_attempts_reads validated

theorem sem_read {m : List Op} {db db' : Db} {op : Op} {r : Res op} (hop : IsRead op)
    (h : sem db op r db') : db' = db ∧ Appends db db ∧ commits m op r = m := by
  have hnone : committed op r = [] := by
    cases op <;> first | rfl | cases hop
  exact ⟨sem_unchanged h hnone, Appends.refl db, by rw [commits, hnone, List.append_nil]⟩

/-- **Every call is safe**: it keeps the invariant, it commits exactly its
transaction when it returns, and nothing when it raises. -/
theorem body_safe (c : Call) (s : Db) :
    LedgerSafe (fun m' _ _ => Committed c m') (fun m' _ _ => m' = []) [] (body c) s := by
  cases c with
  | claim closed id digest => exact claim_safe closed id digest
  | complete closed id digest outcome reason => exact complete_safe closed id digest outcome reason
  | mark_unknown closed id reason digest => exact mark_unknown_safe closed id reason digest
  | extend_allowed_attempt_ids closed ids => exact extend_safe closed ids
  | open_existing =>
    exact Safe.reads open_existing_reads (fun _ _ _ _ _ hop _ h => sem_read hop h) s

end Methods

theorem run_safe {cfg : Config Call Op Res Exn Unit Db} (h : Run cfg) :
    SafeConfig sem Sound Appends commits [] (fun c m _ _ => Committed c m) (fun _ m _ _ => m = [])
      cfg :=
  h.safe sound_created fun c s _ => body_safe c s

/-! ## Claims -/

/-- The attempts that have been claimed, in order. -/
def Db.claimed (db : Db) : List String :=
  (db.events.filter fun e => e.state = .CLAIMED).map EventRow.attempt_id

/-- The claims of one attempt are the claims in its history. -/
theorem claimed_count (db : Db) (id : String) :
    db.claimed.countP (· = id) = (db.history id).countP (fun e => e.state = .CLAIMED) := by
  rw [Db.claimed, List.countP_map, List.countP_filter, Db.history, List.countP_filter]
  refine List.countP_congr fun e _ => ?_
  simp [and_comm]

/-- A lifecycle has at most one claim. -/
theorem Lifecycle.claims_le {events : List EventRow} (h : Lifecycle events) :
    events.countP (fun e => e.state = .CLAIMED) ≤ 1 := by
  cases h with
  | pending => simp
  | claimed e he => simp [he]
  | ended e last he hv hlast => rcases hlast with hlast | hlast <;> simp [he, hlast]

/-- The attempt a transaction claims. -/
def Op.claims : Op → List String
  | .claim id _ => [id]
  | _ => []

/-- An operation appends the claims it commits. -/
theorem sem_claims {db db' : Db} {op : Op} {r : Res op} (h : sem db op r db') :
    db'.claimed = db.claimed ++ (committed op r).flatMap Op.claims := by
  by_cases hc : committed op r = []
  · rw [sem_unchanged h hc, hc]
    simp
  rcases h with h | ⟨hfail, -⟩
  · have hinsert {db db' : Db} {e : EventRow} {r : Outcome} (h : db.insert_event e = (r, db')) :
        db'.claimed = db.claimed ++
          if r = .committed ∧ e.state = .CLAIMED then [e.attempt_id] else [] := by
      unfold Db.insert_event at h
      split_ifs at h
      · obtain ⟨rfl, rfl⟩ := Prod.mk.inj h
        by_cases he : e.state = .CLAIMED <;> simp [Db.claimed, List.filter_append, he]
      · obtain ⟨rfl, rfl⟩ := Prod.mk.inj h
        simp
    cases op with
    | claim id digest =>
      have hr : r = Outcome.committed := by
        cases r <;> first | rfl | exact absurd rfl hc
      subst hr
      simp only [answer, Db.claim] at h
      split_ifs at h
      · cases h
      · simpa [committed, Op.claims] using hinsert h
    | transition id state digest outcome reason =>
      have hr : r = Outcome.committed := by
        cases r <;> first | rfl | exact absurd rfl hc
      subst hr
      simp only [answer, Db.transition] at h
      split at h
      · cases h
      · split_ifs at h with hlast
        · cases h
        · have hd := hinsert h
          by_cases hstate : state = .CLAIMED
          · -- A second claim would break the `CHECK` of its own row.
            simp only [Db.insert_event, hstate, EventRow.check] at h
            simp at h
          · simpa [committed, Op.claims, hstate] using hd
    | extend additions =>
      simp only [answer, Db.extend] at h
      split at h
      · obtain ⟨rfl, -⟩ := Prod.mk.inj h
        exact absurd rfl hc
      · split_ifs at h
        · obtain ⟨rfl, rfl⟩ := Prod.mk.inj h
          simp [Db.claimed, committed, Op.claims]
        · obtain ⟨rfl, -⟩ := Prod.mk.inj h
          exact absurd rfl hc
    | _ => exact absurd rfl hc
  · exact absurd (by cases op <;> cases hfail <;> rfl) hc

/-- A worker of the ledger. -/
abbrev Worker : Type := Thread Call Op Res Exn Unit Db

/-- The worker has successfully claimed the attempt. -/
def Worker.Claimed (t : Worker) (id : String) : Prop :=
  t.status = .running (.ret ()) ∧ ∃ closed digest, t.call = .claim closed (.text id) digest

/-- No two workers claim one attempt. -/
theorem claimed_once {cfg : Config Call Op Res Exn Unit Db} (h : Run cfg) {i j : ℕ}
    {t u : Worker} {id : String} (hi : cfg.pool[i]? = some t) (hj : cfg.pool[j]? = some u)
    (ht : t.Claimed id) (hu : u.Claimed id) : i = j := by
  have hI : ∀ cfg : Config Call Op Res Exn Unit Db, Run cfg → Sound cfg.shared :=
    fun cfg h => (run_safe h).1
  have hperm := h.append_only Db.claimed rfl hI fun s op r s' _ hsem =>
    ⟨_, sem_claims hsem⟩
  have hone : (cfg.pool.flatMap (Thread.appended Db.claimed)).countP (· = id) ≤ 1 := by
    rw [← hperm.countP_eq, claimed_count]
    exact ((hI cfg h).lifecycles id).claims_le
  -- A claim that returned has appended its attempt to the claims.
  have hpos : ∀ t ∈ cfg.pool, Worker.Claimed t id →
      0 < (Thread.appended Db.claimed t).countP (· = id) := by
    rintro t ht ⟨hret, closed, digest, hcall⟩
    have hcommit := h.returned sound_created (fun c s _ => body_safe c s) ht hret
    rw [hcall] at hcommit
    obtain ⟨k, d, hk, -, hops⟩ := hcommit
    obtain rfl := PyStr.text.inj hk
    have happ : (t.appended Db.claimed).map (fun x => x) = (t.monitor commits []).flatMap Op.claims :=
      Thread.appended_monitor Db.claimed fun e he => by
        have hsem := (h.records hI t ht e he).2
        rw [Record.appended, sem_claims hsem, List.drop_left, List.map_id']
    rw [List.map_id'] at happ
    rw [happ, hops]
    simp [Op.claims]
  exact unique_source hone hi hj (hpos t (List.mem_of_getElem? hi) ht)
    (hpos u (List.mem_of_getElem? hj) hu)

/-! ## Ledger integrity -/

/-- The four histories of an attempt. -/
def FourHistories (events : List EventRow) : Prop :=
  events = [] ∨
  (∃ e, events = [e] ∧ e.state = .CLAIMED) ∨
  (∃ e last, events = [e, last] ∧ e.state = .CLAIMED ∧ last.state = .COMPLETED ∧
    last.input_digest = e.input_digest) ∨
  ∃ e last, events = [e, last] ∧ e.state = .CLAIMED ∧ last.state = .UNKNOWN ∧
    last.input_digest = e.input_digest

theorem Lifecycle.four {events : List EventRow} (h : Lifecycle events) : FourHistories events := by
  cases h with
  | pending => exact .inl rfl
  | claimed e he => exact .inr (.inl ⟨e, rfl, he⟩)
  | ended e last he hv hlast hdigest =>
    rcases hlast with hlast | hlast
    · exact .inr (.inr (.inl ⟨e, last, rfl, he, hlast, hdigest⟩))
    · exact .inr (.inr (.inr ⟨e, last, rfl, he, hlast, hdigest⟩))

theorem Lifecycle.length_le {events : List EventRow} (h : Lifecycle events) :
    events.length ≤ 2 := by
  cases h <;> simp

/-- Events are only ever appended, in every continuation of a run. -/
theorem events_grow {cfg cfg' : Config Call Op Res Exn Unit Db} (h : Run cfg)
    (hgo : Relation.ReflTransGen (Step body sem) cfg cfg') :
    cfg.shared.events <+: cfg'.shared.events := by
  induction hgo with
  | refl => exact List.prefix_rfl
  | @tail cfg₁ cfg₂ hgo hs ih =>
    have hrun : Run cfg₁ := h.trans hgo
    have hguar := hrun.guarantee (Q := fun c m _ _ => Committed c m) (X := fun _ m _ _ => m = [])
      sound_created (fun c s _ => body_safe c s) hs
    rcases hguar with hsame | happ
    · rw [hsame]
      exact ih
    · exact ih.trans happ.1

/-- **Ledger integrity.** Whatever any number of connections do: each attempt is
claimed successfully at most once; its events are one of the four histories; no
event changes later and none follows a terminal one; a call that raised never
changed the database; and reopening accepts the database and leaves it as it
is. -/
theorem r5_ledger_integrity {cfg : Config Call Op Res Exn Unit Db} (h : Run cfg) :
    (∀ (i j : ℕ) (t u : Worker) (id : String), cfg.pool[i]? = some t → cfg.pool[j]? = some u →
      t.Claimed id → u.Claimed id → i = j) ∧
    (∀ id, FourHistories (cfg.shared.history id)) ∧
    (∀ cfg', Relation.ReflTransGen (Step body sem) cfg cfg' → ∀ id,
      cfg.shared.history id <+: cfg'.shared.history id ∧
      ∀ e last, cfg.shared.history id = [e, last] → cfg'.shared.history id = [e, last]) ∧
    (∀ t ∈ cfg.pool, ∀ e, t.status = .running (.raise e) →
      ∀ step ∈ t.past, step.after = step.before) ∧
    open_existing.exec answer cfg.shared = (.ok (), cfg.shared) := by
  have hI : ∀ cfg : Config Call Op Res Exn Unit Db, Run cfg → Sound cfg.shared :=
    fun cfg h => (run_safe h).1
  refine ⟨fun i j t u id hi hj ht hu => claimed_once h hi hj ht hu,
    fun id => ((hI cfg h).lifecycles id).four, ?_, ?_, open_existing_accepts (hI cfg h)⟩
  · intro cfg' hgo id
    have hgrow : cfg.shared.history id <+: cfg'.shared.history id := by
      exact (events_grow h hgo).filter _
    refine ⟨hgrow, fun e last hfull => ?_⟩
    rw [hfull] at hgrow
    -- A history has at most two events, so a terminal one is the last.
    have hlen := ((hI cfg' (h.trans hgo)).lifecycles id).length_le
    exact (hgrow.eq_of_length (Nat.le_antisymm hgrow.length_le hlen)).symm
  · intro t ht e hraise step hstep
    have hm := h.raised sound_created (fun c s _ => body_safe c s) ht hraise
    rw [show t.monitor commits [] = _ from Thread.monitor_append committed t,
      List.flatMap_eq_nil_iff] at hm
    exact sem_unchanged (h.records hI t ht step hstep).2 (hm step hstep)

/-- A digest of one repeated digit. -/
def digest_of (c : Char) : String := "sha256:" ++ String.ofList (List.replicate 64 c)

/-- A claim that completes and a claim that is refused. -/
def claim_calls : List Call :=
  [.claim false (.text "R5-001") (.of (.text (digest_of 'a'))),
    .complete false (.text "R5-001")
      (.of (.text (digest_of 'b'))) (.of (.text "verified"))
      (.of (.text "none")),
    .claim false (.text "R5-001") (.of (.text (digest_of 'a')))]

/-- After such calls the attempt has two events, and the ledger reopens. -/
theorem r5_ledger_integrity_completed :
    ∃ cfg : Config Call Op Res Exn Unit Db, Run cfg ∧
      (cfg.shared.history "R5-001").map EventRow.state = [.CLAIMED, .COMPLETED] ∧
      FourHistories (cfg.shared.history "R5-001") ∧
      open_existing.exec answer cfg.shared = (.ok (), cfg.shared) := by
  obtain ⟨cfg, hr, hs, -⟩ := Reachable.sequence body Db.created sem_answer
    claim_calls
  refine ⟨cfg, hr, ?_, (r5_ledger_integrity hr).2.1 _, (r5_ledger_integrity hr).2.2.2.2⟩
  rw [hs]
  decide +kernel

end AppContracts.R5AttemptLedger
