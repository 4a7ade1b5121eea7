/-
Whose attempt it is: calls of `run_controlled_local_publication` for the rows of one journal.

A call that loses its row to another fails in `execute_publication`, and its handler reads the row
again. A row that is `attempting` is taken for the call's own, and that is also how it looks while
the other call publishes. The theorem says that this one read is all that can go wrong: unless a
handler finds a row in `attempting` that its call has not moved, a call that has moved no row
changes no status.

The work is in following a call through its program (`Follows.bind_cases`, `Follows.handle_cases`).
Up to the handler its steps set no status, or are the update that claims the row, or come after it
(`controlled_owned`); the handler's first read is where it ends (`handler_ends`).
-/
import AppContracts.PublicationOutcomes

set_option autoImplicit false

namespace AppContracts.PublicationRuns

open Interleave PublicationJournal Validator

/-! ## Steps that set no status -/

/-- What a worker has done, and to which states. -/
abbrev Past : Type := List (Record Op Op.Res Db)

/-- The claim that a past tells of. -/
def claimed (past : Past) : Option String := (past.foldl (fun m e => noted m e.op e.res) .idle).claim

/-- The rows that are there stay, each in its status. -/
def Kept (before after : Db) : Prop :=
  ∀ process_id row, before.row? process_id = some row →
    ∃ row', after.row? process_id = some row' ∧ row'.status = row.status

/-- The steps of a call that set no status. -/
def still : Op → Prop
  | .recovery (.journal (.set_status _ _ _)) => False
  | .recovery (.journal (.complete _ _ _ _)) => False
  | .recovery (.record_verified_files _ _ _ _ _) => False
  | _ => True

theorem still_kept {db db' : Db} {op : Op} {r : op.Res} (h : still op) (hsem : Sem db op r db') :
    Kept db db' := by
  intro process_id row hrow
  cases hsem with
  | before_publish => exact ⟨row, hrow, rfl⟩
  | find_by_key => exact ⟨row, hrow, rfl⟩
  | observe => exact ⟨row, hrow, rfl⟩
  | recovery hstep =>
    cases hstep with
    | insert _ new => exact ⟨row, row?_insert_some hrow new, rfl⟩
    | set_status => exact absurd h id
    | complete => exact absurd h id
    | record_verified_files => exact absurd h id
    | _ => exact ⟨row, hrow, rfl⟩

/-- An update that claims nothing changes nothing. -/
theorem unclaimed_kept {m : Attempt} {db db' : Db} {process_id : String} {target : Status}
    {r : Except Exn ℕ}
    (hsem : Sem db (.recovery (.journal (.set_status process_id .prepared target))) r db')
    (h : (noted m (.recovery (.journal (.set_status process_id .prepared target))) r).claim = none) :
    Kept db db' := by
  intro id row hrow
  cases hsem with
  | recovery hstep =>
    cases hstep with
    | journal_failed => exact ⟨row, hrow, rfl⟩
    | set_status =>
      rcases PublicationRecovery.row?_where (row?_set_status db id process_id .prepared target) hrow with
        hsame | ⟨rfl, hprepared, -⟩
      · exact ⟨row, hsame, rfl⟩
      · have hone : (db.set_status process_id .prepared target).1 = 1 := by
          rw [Db.set_status, count_row hrow, if_pos hprepared]
        simp [noted, Attempt.claims, hone, Attempt.claim] at h

/-- A claim is not given up. -/
theorem noted_unclaimed {m : Attempt} {op : Op} {r : op.Res} (h : (noted m op r).claim = none) :
    m.claim = none := by
  cases m with
  | idle => rfl
  | read => rfl
  | claimed process_id =>
    revert h
    unfold noted
    split
    · exact nofun
    · unfold Attempt.claims
      split <;> exact nofun
    · exact nofun
    · exact nofun
  | published process_id =>
    revert h
    unfold noted
    split
    · exact nofun
    · unfold Attempt.claims
      split <;> exact nofun
    · exact nofun
    · exact nofun

theorem foldl_unclaimed {past : Past} {m : Attempt}
    (h : (past.foldl (fun m e => noted m e.op e.res) m).claim = none) : m.claim = none := by
  induction past generalizing m with
  | nil => exact h
  | cons e past ih => exact noted_unclaimed (ih h)

/-- A past that claims nothing has no part that does. -/
theorem claimed_append {front back : Past} (h : claimed (front ++ back) = none) :
    claimed front = none := by
  rw [claimed, List.foldl_append] at h
  exact foldl_unclaimed h

/-! ## Up to the handler -/

section Owned

variable {urlparse : UrlParse} {m : Attempt}

/-- The steps before the handler: they set no status, or claim the row, or follow the claim. -/
def Owned (m : Attempt) (op : Op) : Prop :=
  still op ∨ (∃ process_id target, op = .recovery (.journal (.set_status process_id .prepared target))) ∨
    m.claim ≠ none

/-- The steps of a call that claims nothing leave the statuses. -/
theorem owned_kept {past : Past} (hclaim : (past.foldl (fun m e => noted m e.op e.res) m).claim = none)
    (howned : ∀ front e back, past = front ++ e :: back →
      Owned (front.foldl (fun m e => noted m e.op e.res) m) e.op)
    (hsem : ∀ e ∈ past, Sem e.before e.op e.res e.after) : ∀ e ∈ past, Kept e.before e.after := by
  intro e he
  obtain ⟨front, back, rfl⟩ := List.append_of_mem he
  have hstep := hsem e he
  have hop := howned front e back rfl
  rw [List.foldl_append, List.foldl_cons] at hclaim
  have hnoted := foldl_unclaimed hclaim
  obtain ⟨op, r, before, after⟩ := e
  rcases hop with hstill | ⟨process_id, target, rfl⟩ | hclaimed
  · exact still_kept hstill hstep
  · exact unclaimed_kept hstep hnoted
  · exact absurd (noted_unclaimed hnoted) hclaimed

/-- Once the row is claimed, all is allowed. -/
theorem claimed_owned {α : Type} (p : PublicationJournal.Program α) (h : m.claim ≠ none) :
    JournalKeeps Owned (fun _ _ => True) m p := by
  have hall : p.All fun _ => True := Prog.All.of_forall (fun _ => trivial) p
  refine (Obeys.keeps (J := fun m => m.claim ≠ none) hall (fun _ _ hclaim _ => ?_) h).mono
    (fun _ _ _ => trivial) fun _ _ _ => trivial
  exact ⟨.inr (.inr hclaim), fun _ hnone => hclaim (noted_unclaimed hnone)⟩

/-- `execute_publication` claims its row before it sets another status. -/
theorem execute_owned {request : Json} {hook : Bool} :
    JournalKeeps Owned (fun _ _ => True) m (execute_publication urlparse request false hook) := by
  refine PublicationRecovery.keeps_lift fun _ _ => Obeys.bind ?_
  have hget : JournalKeeps Owned (fun _ _ => True) m
      (get (argument request "process_id")) :=
    (Obeys.keeps (J := fun _ => True) (get_all (P := fun op => still (.recovery (.journal op)))
      (fun _ => trivial) _) (fun _ _ _ hop => ⟨.inl hop, fun _ => trivial⟩) trivial).mono
        (fun _ _ _ => trivial) fun _ _ _ => trivial
  refine hget.mono (fun m' record _ => ?_) fun _ _ _ => trivial
  refine PublicationRecovery.keeps_lift fun _ _ => ?_
  have hmark : JournalKeeps Owned (fun m' _ => m'.claim ≠ none) m'
      (mark_attempting (.of (.text record.process_id))) := by
    refine PublicationRecovery.keeps_lift fun _ _ => PublicationRecovery.keeps_lift fun _ _ => ?_
    refine ⟨.inr (.inl ⟨_, _, rfl⟩), fun rowcount => Obeys.lift (fun _ hone => ?_) fun _ _ => trivial⟩
    have hcount : rowcount = 1 := not_not.mp (raise_if_ok.mp hone)
    rw [hcount]
    exact nofun
  exact Obeys.bind (hmark.mono (fun _ _ hclaim => claimed_owned _ hclaim) fun _ _ _ => trivial)

theorem controlled_owned {request : Json} {observed hook : Bool} :
    Keeps Owned m (run_controlled_step observed
      (journal (execute_publication urlparse request false hook))) :=
  controlled_step_keeps (fun _ => .inl trivial) execute_owned.journal

end Owned

/-! ## The handler -/

section Handler

variable {urlparse : UrlParse} {gated : Gated}

theorem get_still (process_id : Arg PyStr) : (journal (get process_id)).All still :=
  Prog.All.embed (Prog.All.embed (get_all (fun _ => trivial) process_id))

/-- `get` returns the answer to its one step. -/
theorem get_follows {process_id : Arg PyStr} {past : Past} {row : PublicationRecord}
    (h : Follows (journal (get process_id)) past (.ret row)) : ∃ asked before after,
      process_id = .of (.text asked) ∧
        past = [⟨.recovery (.journal (.select asked)), .ok (some row), before, after⟩] := by
  cases process_id with
  | other => cases h
  | of s =>
    cases s with
    | surrogates codes lone => cases h
    | text s =>
      by_cases hs : s = ""
      · subst hs
        cases h
      · have hnonempty : nonempty_str (.of (.text s)) (value_error "publication process ID is invalid") =
            .ok (.text s) :=
          PublicationKeys.nonempty_str_ok.mpr ⟨rfl, fun heq => hs (PyStr.text.inj heq)⟩
        unfold PublicationJournal.get at h
        rw [hnonempty] at h
        cases h with
        | @step _ _ answer before after _ _ h =>
          cases answer with
          | error e => cases h
          | ok found =>
            cases found with
            | none => cases h
            | some row =>
              cases h with
              | done => exact ⟨s, before, after, rfl, rfl⟩

/-- What a read answers is the row that is there. -/
theorem select_row {db db' : Db} {asked : String} {r : Except Exn (Option PublicationRecord)}
    (hsem : Sem db (.recovery (.journal (.select asked))) r db') {row : PublicationRecord}
    (h : r = .ok (some row)) : db.row? asked = some row := by
  cases hsem with
  | recovery hstep =>
    cases hstep with
    | select => exact Except.ok.inj h
    | journal_failed => cases h

/-- **The handler ends with its first read**, if the row that it reads is not `attempting`. -/
theorem handler_ends {e : Exn} {past : Past} {q : Program (Arg PullRequest)}
    (h : Follows (after_failure urlparse gated e) past q)
    (hsem : ∀ r ∈ past, Sem r.before r.op r.res r.after)
    (hcalm : ∀ r back, past = r :: back → ∀ row, gated_row gated r.before = some row →
      row.status ≠ .attempting) : ∀ r ∈ past, Kept r.before r.after := by
  unfold after_failure at h
  split_ifs at h with hcrash
  · cases h with
    | done => simp
  · rcases Follows.bind_cases h with ⟨mid, hread⟩ | ⟨row, front, back, rfl, hread, hrest⟩
    · exact fun r hr => still_kept (hread.all (get_still _) r hr) (hsem r hr)
    · obtain ⟨asked, before, after, hid, rfl⟩ := get_follows hread
      have hrow : before.row? asked = some row := select_row (hsem _ (List.mem_cons_self ..)) rfl
      have hstatus : row.status ≠ .attempting :=
        hcalm _ back rfl row (by rw [gated_row, Arg.of.inj hid]; exact hrow)
      rw [if_pos hstatus] at hrest
      cases hrest with
      | done =>
        rintro r hr
        exact still_kept (hread.all (get_still _) r (by simpa using hr)) (hsem r hr)

end Handler

/-! ## Calls -/

/-- The call starts the handler of a failed dispatch. -/
def Handles (urlparse : UrlParse) (gated : Gated) (front : Past) : Prop :=
  ∃ e, Follows ((Job.run_controlled_local_publication gated).body urlparse) front
    (Sum.inr <$> after_failure urlparse gated e)

/-- No handler finds a row in `attempting` that its call has not claimed. -/
def Calm (urlparse : UrlParse) (gated : Gated) (past : Past) : Prop :=
  ∀ front r back, past = front ++ r :: back → Handles urlparse gated front → claimed front = none →
    ∀ row, gated_row gated r.before = some row → row.status ≠ .attempting

section Calls

variable {urlparse : UrlParse} {gated : Gated}

theorem prepare_still (process_id key request_digest repository_id : Arg PyStr)
    (verified : Option (Arg PyStr)) :
    (journal (PublicationKeys.prepare process_id key request_digest repository_id verified)).All still :=
  Prog.All.embed (Prog.All.embed (prepare_all (fun _ => trivial) (fun _ _ => trivial) _ _ _ _ _))

/-- **A call that claims no row changes no status**, if it is calm. -/
theorem call_kept {past : Past} {q : Program (PublicationRecord ⊕ Arg PullRequest)}
    (h : Follows ((Job.run_controlled_local_publication gated).body urlparse) past q)
    (hsem : ∀ r ∈ past, Sem r.before r.op r.res r.after) (hclaim : claimed past = none)
    (hcalm : Calm urlparse gated past) : ∀ r ∈ past, Kept r.before r.after := by
  obtain ⟨mid, hrun⟩ : ∃ mid, Follows (run_controlled_local_publication urlparse gated) past mid := by
    rcases Follows.bind_cases h with hmid | ⟨a, front, back, rfl, hfront, hback⟩
    · exact hmid
    · cases hback with
      | done => exact ⟨_, by rwa [List.append_nil]⟩
  rcases Follows.bind_cases hrun with ⟨mid, hprepare⟩ | ⟨row, front, back, rfl, hprepare, hpublish⟩
  · exact fun r hr => still_kept (hprepare.all (prepare_still _ _ _ _ _) r hr) (hsem r hr)
  have hfront : ∀ r ∈ front, Kept r.before r.after := fun r hr =>
    still_kept (hprepare.all (prepare_still _ _ _ _ _) r hr) (hsem r (List.mem_append_left _ hr))
  have hback : ∀ r ∈ back, Kept r.before r.after := by
    rcases Follows.bind_cases hpublish with ⟨mid, hcheck⟩ | ⟨_, check, rest, rfl, hcheck, hdispatch⟩
    · rw [hcheck.lift]
      simp
    obtain rfl := hcheck.lift
    rw [List.nil_append] at hclaim hcalm hsem ⊢
    rcases Follows.handle_cases hdispatch with ⟨mid, hstep⟩ | ⟨e, step, tail, rfl, hstep, htail⟩
    · rw [claimed, List.foldl_append] at hclaim
      exact owned_kept hclaim (hstep.obeys controlled_owned).1
        fun r hr => hsem r (List.mem_append_right _ hr)
    · rw [← List.append_assoc] at hclaim
      have hstart : claimed (front ++ step) = none := claimed_append hclaim
      have hstep_kept : ∀ r ∈ step, Kept r.before r.after := by
        rw [claimed, List.foldl_append] at hstart
        exact owned_kept hstart (hstep.obeys controlled_owned).1
          fun r hr => hsem r (List.mem_append_right _ (List.mem_append_left _ hr))
      have hhandles : Handles urlparse gated (front ++ step) := by
        have hpublish' : Follows (publish_after_broker urlparse gated) ([] ++ step)
            (after_failure urlparse gated e) :=
          (hcheck.bind _).append (hstep.handle _)
        have hrun' : Follows (run_controlled_local_publication urlparse gated) (front ++ step)
            (after_failure urlparse gated e) :=
          (hprepare.bind fun _ => publish_after_broker urlparse gated).append hpublish'
        exact ⟨e, hrun'.bind _⟩
      have htail_kept : ∀ r ∈ tail, Kept r.before r.after := by
        refine handler_ends htail
          (fun r hr => hsem r (List.mem_append_right _ (List.mem_append_right _ hr)))
          fun r rest heq => ?_
        exact hcalm (front ++ step) r rest (by rw [heq, List.append_assoc]) hhandles hstart
      exact fun r hr => (List.mem_append.mp hr).elim (hstep_kept r) (htail_kept r)
  exact fun r hr => (List.mem_append.mp hr).elim (hfront r) (hback r)

end Calls

/-! ## Runs -/

/-- **A call that has moved no row changes no status**, in every run in which no handler finds a
row in `attempting` that its call has not moved. -/
theorem attempt_owned (urlparse : UrlParse) (db : Db)
    (cfg : Config Job Op Op.Res Exn (PublicationRecord ⊕ Arg PullRequest) Db) (h : Run urlparse db cfg)
    (hcalm : ∀ t ∈ cfg.pool, ∀ gated, t.call = .run_controlled_local_publication gated →
      Calm urlparse gated t.past) :
    ∀ t ∈ cfg.pool, ∀ gated, t.call = .run_controlled_local_publication gated →
      claimed t.past = none → ∀ r ∈ t.past, Kept r.before r.after := by
  intro t ht gated hcall hclaim
  obtain ⟨q, hfollows, -⟩ := Reachable.follows h t ht
  rw [hcall] at hfollows
  refine call_kept hfollows (fun r hr => ?_) hclaim (hcalm t ht gated hcall)
  obtain ⟨front, back, heq⟩ := List.append_of_mem hr
  exact (((run_steps h).1 t ht).2 front r back heq).2.2

/-! ## Two calls for one publication -/

/-- The row of the publication is prepared. -/
def sample_gated_db : Db := ⟨[sample_gated_row], List.nodup_singleton _, List.nodup_singleton _⟩

/-- Two calls for it: the first takes some steps, then the second, then the first goes on. -/
def sample_race (n m k : ℕ) : Config Job Op Op.Res Exn (PublicationRecord ⊕ Arg PullRequest) Db :=
  race (Job.body sample_urlparse) sample_answer sample_gated_db
    (.run_controlled_local_publication sample_gated)
    (.run_controlled_local_publication sample_gated) n m k

/-- The status of the row. -/
def sample_status (db : Db) : Option Status := (db.row? "process-1").map PublicationRecord.status

/-- The first call has claimed the row and publishes. The second one is refused, finds the row in
`attempting`, and gives up the attempt of the first. -/
theorem lost_call_gives_up :
    Run sample_urlparse sample_gated_db (sample_race 3 20 0) ∧
      ∃ t ∈ (sample_race 3 20 0).pool, claimed t.past = none ∧ ∃ r ∈ t.past,
        sample_status r.before = some .attempting ∧
          sample_status r.after = some .reconciliation_required ∧ ¬ Kept r.before r.after := by
  refine ⟨Reachable.race sample_answer_sem _ _ _ _ _ _, ?_⟩
  have hrace : ((sample_race 3 20 0).pool.any fun t => claimed t.past = none ∧
      t.past.any fun r => sample_status r.before = some .attempting ∧
        sample_status r.after = some .reconciliation_required) = true := by decide +kernel
  obtain ⟨t, ht, hpast⟩ := List.any_eq_true.mp hrace
  obtain ⟨hclaim, hany⟩ := of_decide_eq_true hpast
  obtain ⟨r, hr, hstatus⟩ := List.any_eq_true.mp hany
  obtain ⟨hbefore, hafter⟩ := of_decide_eq_true hstatus
  refine ⟨t, ht, hclaim, r, hr, hbefore, hafter, fun hkept => ?_⟩
  obtain ⟨row, hrow, hattempting⟩ := Option.map_eq_some_iff.mp hbefore
  obtain ⟨row', hrow', hsame⟩ := hkept _ row hrow
  rw [sample_status, hrow', Option.map_some, hsame, hattempting] at hafter
  cases hafter

/-- The first call reads the row before the second one claims it, and goes on when that one is done:
it is refused, and changes nothing. -/
theorem attempt_owned_sample :
    Run sample_urlparse sample_gated_db (sample_race 2 20 20) ∧
      (sample_race 2 20 20).pool.map (fun t => claimed t.past) = [none, some "process-1"] ∧
      ∀ t ∈ (sample_race 2 20 20).pool, claimed t.past = none → ∀ r ∈ t.past, Kept r.before r.after := by
  have hrun : Run sample_urlparse sample_gated_db (sample_race 2 20 20) :=
    Reachable.race sample_answer_sem _ _ _ _ _ _
  have hcall : ∀ t ∈ (sample_race 2 20 20).pool,
      t.call = .run_controlled_local_publication sample_gated := by
    intro t ht
    rcases List.mem_cons.mp ht with heq | ht
    · rw [heq]
    · rw [List.mem_singleton.mp ht]
  refine ⟨hrun, by decide +kernel, fun t ht => ?_⟩
  refine attempt_owned _ _ _ hrun (fun u hu gated hgated => ?_) t ht _ (hcall t ht)
  obtain rfl := Job.run_controlled_local_publication.inj (hgated.symm.trans (hcall u hu))
  -- a row that was read without a claim was never `attempting`
  have hreads : ((sample_race 2 20 20).pool.all fun t => (List.range t.past.length).all fun i =>
      claimed (t.past.take i) = none → (t.past[i]?).all fun r =>
        sample_status r.before ≠ some .attempting) = true := by decide +kernel
  rintro front r back heq - hclaim row hrow hattempting
  have hread := of_decide_eq_true
    (List.all_eq_true.mp (List.all_eq_true.mp hreads u hu) front.length (by simp [heq]))
  rw [heq, List.take_left, List.getElem?_append_right le_rfl, Nat.sub_self] at hread
  have hother : sample_status r.before ≠ some .attempting := of_decide_eq_true (hread hclaim)
  have hfound : r.before.row? "process-1" = some row := hrow
  rw [sample_status, hfound, Option.map_some, hattempting] at hother
  exact hother rfl

end AppContracts.PublicationRuns
