/-
What a refused gate leaves behind.

`run_gated_dispatch` records a checkpoint and an intent before it calls. Both
stores hold one journal (`Held`), and each record has a standing in it: refused,
known or new. From the two standings follows what a gated write does:

* the durable store records the pair in one transaction, or nothing;
* the in-memory store records the checkpoint first. Where the intent is then
  refused, the checkpoint stays (`Halves`).

A callback that raises after the records were written leaves them behind in
both stores. `refused_gate_records_nothing_iff` says that these are the only
ways in which a gate that never called leaves a record.
-/
import AppContracts.GatedDispatch

set_option autoImplicit false

namespace AppContracts.GatedDispatch

open Stateful ObservationStore Validator

/-! ## Standings -/

/-- What a store makes of a record. -/
inductive Standing : Type
  | refused
  | known
  | new
  deriving DecidableEq

/-- A record that fails its checks is refused; so is one whose ID has another
digest. -/
def standing (accepted : Bool) (found : Option (ℕ × String)) (digest : String) : Standing :=
  if accepted then
    match found with
    | none => .new
    | some (_, known) => if known = digest then .known else .refused
  else .refused

/-- The standing of a checkpoint in a journal. -/
def checkpoint_standing (j : Journal) (checkpoint : Json) : Standing :=
  standing ((check_checkpoint j.events.docs checkpoint).isOk && checkpoint.encodable false)
    (j.checkpoints.table.find (checkpoint_kind.id checkpoint)) (digest checkpoint)

/-- The standing of an intent in a journal. -/
def intent_standing (j : Journal) (intent : Json) : Standing :=
  standing ((validate intent EVENT_SCHEMA).isOk && intent.encodable false)
    (j.events.table.find (event_kind.id intent)) (digest intent)

/-- The cursor of an intent: its own, or the next one. -/
def intent_cursor (j : Journal) (intent : Json) : ℕ :=
  match j.events.table.find (event_kind.id intent) with
  | some (cursor, _) => cursor
  | none => j.events.docs.length

/-- What both stores hold: one journal, and a memory that mirrors it. -/
structure Held : Type where
  journal : Journal
  store : Memory
  mirrors : Mirrors store journal

theorem isOk_iff {α : Type} {x : Except Exn α} : x.isOk = true ↔ ∃ a, x = .ok a := by
  cases x with
  | ok a => simp [Except.isOk, Except.toBool]
  | error e => simp [Except.isOk, Except.toBool]

section Standings

variable {j : Journal} {checkpoint intent : Json}

/-- A record that is not refused was accepted. -/
theorem accepted_of_standing {accepted : Bool} {found : Option (ℕ × String)} {d : String}
    (h : standing accepted found d ≠ .refused) : accepted = true := by
  cases accepted with
  | true => rfl
  | false => exact absurd rfl h

/-- A checkpoint that is not refused passed its check. -/
theorem checkpoint_checked (hw : checkpoint.wf)
    (h : checkpoint_standing j checkpoint ≠ .refused) :
    (∃ cursor, check_checkpoint j.events.docs checkpoint = .ok cursor) ∧
      Checked checkpoint_kind checkpoint := by
  have ha := accepted_of_standing h
  rw [Bool.and_eq_true, isOk_iff] at ha
  obtain ⟨⟨cursor, hc⟩, he⟩ := ha
  obtain ⟨u, hshape, -⟩ := bind_ok.mp hc
  exact ⟨⟨cursor, hc⟩, hw, check_checkpoint_shape_ok.mp hshape, he⟩

/-- An intent that is not refused passed its checks. -/
theorem intent_checked (hw : intent.wf) (h : intent_standing j intent ≠ .refused) :
    Checked event_kind intent := by
  have ha := accepted_of_standing h
  rw [Bool.and_eq_true, isOk_iff] at ha
  obtain ⟨⟨u, hv⟩, he⟩ := ha
  exact ⟨hw, hv, he⟩

theorem standing_checked_checkpoint {cursor : ℤ}
    (hc : check_checkpoint j.events.docs checkpoint = .ok cursor)
    (hk : Checked checkpoint_kind checkpoint) :
    checkpoint_standing j checkpoint =
      standing true (j.checkpoints.table.find (checkpoint_kind.id checkpoint)) (digest checkpoint) := by
  rw [checkpoint_standing, hc, hk.encodable]
  rfl

theorem standing_checked_intent (hi : Checked event_kind intent) :
    intent_standing j intent =
      standing true (j.events.table.find (event_kind.id intent)) (digest intent) := by
  have hv : validate intent EVENT_SCHEMA = .ok () := hi.valid
  rw [intent_standing, hv, hi.encodable]
  rfl

/-- What the standing of an accepted record says about the lookup. -/
theorem standing_known {found : Option (ℕ × String)} {d : String}
    (h : standing true found d = .known) : ∃ cursor, found = some (cursor, d) := by
  rcases found with _ | ⟨cursor, known⟩
  · exact nomatch h
  · by_cases heq : known = d
    · exact ⟨cursor, by rw [heq]⟩
    · simp [standing, heq] at h

theorem standing_new {found : Option (ℕ × String)} {d : String}
    (h : standing true found d = .new) : found = none := by
  rcases found with _ | ⟨cursor, known⟩
  · rfl
  · by_cases heq : known = d <;> simp [standing, heq] at h

theorem standing_refused {found : Option (ℕ × String)} {d : String}
    (h : standing true found d = .refused) : ∃ cursor known, found = some (cursor, known) ∧ known ≠ d := by
  rcases found with _ | ⟨cursor, known⟩
  · exact nomatch h
  · by_cases heq : known = d
    · simp [standing, heq] at h
    · exact ⟨cursor, known, rfl, heq⟩

end Standings

/-! ## The in-memory store -/

/-- Recording a checked document on a shelf, by its standing. -/
theorem shelf_record {k : Kind} {shelf : Shelf} {l : Log k} (h : shelf.Mirrors l) (doc : Json)
    (message : String) :
    match standing true (l.table.find (k.id doc)) (digest doc) with
    | .refused => shelf.record doc k.key (.text (k.id doc)) (digest doc) message =
        (.error (conflict message), shelf)
    | .known => ∃ cursor, l.table.find (k.id doc) = some (cursor, digest doc) ∧
        shelf.record doc k.key (.text (k.id doc)) (digest doc) message = (.ok cursor, shelf)
    | .new => l.table.find (k.id doc) = none ∧
        shelf.record doc k.key (.text (k.id doc)) (digest doc) message =
          (.ok l.docs.length,
            ⟨shelf.docs ++ [doc], shelf.digests ++ [(.text (k.id doc), digest doc)]⟩) := by
  unfold Shelf.record
  rcases Shelf.known_or_unknown k shelf (k.id doc) with ⟨i, known, hget, hid⟩ | hid
  · obtain ⟨hlookup, hposition, hfind⟩ := h.known hget
    rw [hid] at hlookup hposition hfind
    rw [hfind, hlookup]
    by_cases heq : digest known = digest doc
    · simp [standing, heq, hposition]
    · simp [standing, heq]
  · obtain ⟨hlookup, hfind⟩ := h.unknown hid
    rw [hfind, hlookup]
    simp [standing, h.length]

section Memory

variable {store : Memory} {j : Journal} {checkpoint intent : Json}

/-- **`append`, by the standing of the event.** -/
theorem memory_append (h : Mirrors store j) (hw : intent.wf) :
    match intent_standing j intent with
    | .refused => ∃ e, store.append intent = (.error e, store)
    | .known => store.append intent = (.ok (intent_cursor j intent), store)
    | .new => ∃ store', store.append intent = (.ok (intent_cursor j intent), store') ∧
        store' ≠ store := by
  rcases checked_or_error event_kind hw with hd | ⟨e, hv⟩ | ⟨hv, he⟩
  -- the record passes its checks, fails its schema, or cannot be digested
  · have hm : store.events.Mirrors j.events := h .observation_events
    have hrecord := shelf_record hm intent "event id conflict"
    have happend := store.append_checked hd
    rw [standing_checked_intent hd]
    cases hstanding : standing true (j.events.table.find (event_kind.id intent)) (digest intent) with
    | refused =>
      rw [hstanding] at hrecord
      exact ⟨_, by rw [happend, hrecord]; rfl⟩
    | known =>
      rw [hstanding] at hrecord
      obtain ⟨cursor, hfind, hrecord⟩ := hrecord
      show store.append intent = _
      rw [happend, hrecord, intent_cursor, hfind]
      rfl
    | new =>
      rw [hstanding] at hrecord
      obtain ⟨hfind, hrecord⟩ := hrecord
      refine ⟨_, by rw [happend, hrecord, intent_cursor, hfind], fun heq => ?_⟩
      have hlen := congrArg (fun m : Memory => m.events.docs.length) heq
      simp [Memory.set_shelf] at hlen
  · have hv : validate intent EVENT_SCHEMA = .error e := hv
    have hstanding : intent_standing j intent = .refused := by
      simp [intent_standing, hv, standing, Except.isOk, Except.toBool]
    rw [hstanding]
    exact ⟨e, by simp [Memory.append, hv]⟩
  · have hv : validate intent EVENT_SCHEMA = .ok () := hv
    have hstanding : intent_standing j intent = .refused := by
      simp [intent_standing, he, standing]
    rw [hstanding]
    exact ⟨undigestible, by
      simp only [Memory.append, hv, sha256_digest_error he, ok_bind, error_bind, undigestible]⟩

/-- **`record_checkpoint`, by the standing of the checkpoint.** -/
theorem memory_record_checkpoint (h : Mirrors store j) (hw : checkpoint.wf) :
    match checkpoint_standing j checkpoint with
    | .refused => ∃ e, store.record_checkpoint checkpoint = (.error e, store)
    | .known => ∃ cursor, store.record_checkpoint checkpoint = (.ok cursor, store)
    | .new => ∃ cursor store' j', store.record_checkpoint checkpoint = (.ok cursor, store') ∧
        Mirrors store' j' ∧ j'.events = j.events ∧
        store.checkpoints.docs.length < store'.checkpoints.docs.length := by
  have hcheck := h.check_checkpoint checkpoint
  cases hc : check_checkpoint store.events.docs checkpoint with
  | error e =>
    have hstanding : checkpoint_standing j checkpoint = .refused := by
      rw [checkpoint_standing, hcheck, hc]
      rfl
    rw [hstanding]
    exact ⟨e, by simp only [Memory.record_checkpoint, hc, error_bind]⟩
  -- the checkpoint is anchored at a recorded event; what is left is its ID and its digest
  | ok cursor =>
    obtain ⟨hv, hanchor⟩ := h.anchored hw hc
    rcases checked_or_error checkpoint_kind hw with hd | ⟨e, hv'⟩ | ⟨-, he⟩
    · have hm : store.checkpoints.Mirrors j.checkpoints := h .observation_checkpoints
      have hrecord := shelf_record hm checkpoint "checkpoint id conflict"
      have hcall := store.record_checkpoint_checked hc hd
      rw [standing_checked_checkpoint (hcheck.trans hc) hd]
      cases hstanding : standing true (j.checkpoints.table.find (checkpoint_kind.id checkpoint))
          (digest checkpoint) with
      | refused =>
        rw [hstanding] at hrecord
        exact ⟨_, by rw [hcall, hrecord]; rfl⟩
      | known =>
        rw [hstanding] at hrecord
        obtain ⟨cursor, -, hrecord⟩ := hrecord
        exact ⟨cursor, by rw [hcall, hrecord]; rfl⟩
      | new =>
        rw [hstanding] at hrecord
        obtain ⟨hfind, hrecord⟩ := hrecord
        have hf : checkpoint_kind.id checkpoint.norm ∉ j.checkpoints.docs.map checkpoint_kind.id := by
          rw [hd.id_norm]
          exact Log.find_table_none.mp hfind
        refine ⟨j.checkpoints.docs.length, store.set_shelf .observation_checkpoints
          ⟨store.checkpoints.docs ++ [checkpoint], store.checkpoints.digests ++
            [(PyStr.text (checkpoint_kind.id checkpoint), digest checkpoint)]⟩,
          j.add_checkpoint checkpoint.norm hd.stored hf hanchor, ?_,
          h.add .observation_checkpoints hd hf hanchor, rfl, ?_⟩
        · rw [hcall, hrecord]
        · simp [Memory.set_shelf]
    · cases hv.symm.trans hv'
    · have hstanding : checkpoint_standing j checkpoint = .refused := by
        simp [checkpoint_standing, he, standing]
      rw [hstanding]
      exact ⟨undigestible, store.record_checkpoint_undigestible hc he⟩

/-- The standing of an intent is a matter of the events alone. -/
theorem intent_standing_congr {j' : Journal} (h : j'.events = j.events) (intent : Json) :
    intent_standing j' intent = intent_standing j intent ∧
      intent_cursor j' intent = intent_cursor j intent := by
  rw [intent_standing, intent_standing, intent_cursor, intent_cursor, h]
  exact ⟨rfl, rfl⟩

end Memory

/-! ## What a gated write does -/

/-- The write succeeds and makes a record that was not there. -/
def Records (j : Journal) (checkpoint intent : Json) (once : Bool) : Prop :=
  checkpoint_standing j checkpoint ≠ .refused ∧
    if once then intent_standing j intent = .new
    else intent_standing j intent ≠ .refused ∧
      (checkpoint_standing j checkpoint = .new ∨ intent_standing j intent = .new)

/-- The in-memory store records the checkpoint and refuses the intent after it.
In one-shot mode an intent that fails its schema or is recorded already is
refused before. -/
def Halves (h : Held) (checkpoint intent : Json) (once : Bool) : Prop :=
  checkpoint_standing h.journal checkpoint = .new ∧ intent_standing h.journal intent = .refused ∧
    (once = true → validate intent EVENT_SCHEMA = .ok () ∧ ¬ Repeated h.store intent)

/-- What a program that records does from a state. -/
structure Effect {σ ρ : Type} (records : σ → ρ) (program : Prog Exn σ ℕ) (s : σ) (halves recorded : Prop)
    (cursor : ℕ) : Prop where
  halved : halves → ∃ e t, program.exec s = (.error e, t) ∧ records t ≠ records s
  written : recorded → ∃ t, program.exec s = (.ok cursor, t) ∧ records t ≠ records s
  unchanged : ¬ halves → ¬ recorded → records (program.exec s).2 = records s

/-- The in-memory store, checkpoint first. -/
theorem memory_pair (h : Held) {checkpoint intent : Json} (hc : checkpoint.wf) (hi : intent.wf) :
    Effect id (.of fun store => match store.record_checkpoint checkpoint with
        | (.error e, store) => (.error e, store)
        | (.ok _, store) => store.append intent) h.store
      (checkpoint_standing h.journal checkpoint = .new ∧ intent_standing h.journal intent = .refused)
      (Records h.journal checkpoint intent false) (intent_cursor h.journal intent) := by
  have hrecord := memory_record_checkpoint h.mirrors hc
  have happend := memory_append h.mirrors hi
  cases hcp : checkpoint_standing h.journal checkpoint with
  | refused =>
    rw [hcp] at hrecord
    obtain ⟨e, hrecord⟩ := hrecord
    refine ⟨fun hh => (nomatch hh.1), fun hr => absurd hcp hr.1, fun _ _ => ?_⟩
    simp [hrecord]
  | known =>
    rw [hcp] at hrecord
    obtain ⟨cursor, hrecord⟩ := hrecord
    refine ⟨fun hh => (nomatch hh.1), fun hr => ?_, fun _ hr => ?_⟩
    · have hnew : intent_standing h.journal intent = .new := by simpa [hcp] using hr.2.2
      rw [hnew] at happend
      obtain ⟨store', happend, hne⟩ := happend
      exact ⟨store', by simp [hrecord, happend], hne⟩
    · cases hev : intent_standing h.journal intent with
      | refused =>
        rw [hev] at happend
        obtain ⟨e, happend⟩ := happend
        simp [hrecord, happend]
      | known =>
        rw [hev] at happend
        have happend : h.store.append intent = _ := happend
        simp [hrecord, happend]
      | new => exact absurd ⟨by simp [hcp], by simp [hev]⟩ hr
  | new =>
    rw [hcp] at hrecord
    obtain ⟨cursor, store', j', hrecord, hm, hevents, hlt⟩ := hrecord
    obtain ⟨hstanding, hcursor⟩ := intent_standing_congr hevents intent
    have happend' := memory_append hm hi
    rw [hstanding, hcursor] at happend'
    -- the checkpoint was new, so whatever the append does, the store is not the old one
    have hkept : ∀ r store'', store'.append intent = (r, store'') → store'' ≠ h.store := by
      rintro r store'' hr rfl
      have hcheckpoints := store'.append_checkpoints intent
      rw [hr] at hcheckpoints
      rw [← hcheckpoints] at hlt
      exact absurd hlt (lt_irrefl _)
    cases hev : intent_standing h.journal intent with
    | refused =>
      rw [hev] at happend'
      obtain ⟨e, happend'⟩ := happend'
      refine ⟨fun _ => ⟨e, store', by simp [hrecord, happend'], hkept _ _ happend'⟩, fun hr => ?_,
        fun hh => absurd ⟨rfl, rfl⟩ hh⟩
      exact absurd hev hr.2.1
    | known =>
      rw [hev] at happend'
      have happend' : store'.append intent = _ := happend'
      refine ⟨fun hh => (nomatch hh.2), fun _ => ⟨store', by simp [hrecord, happend'],
        hkept _ _ happend'⟩, fun _ hr => ?_⟩
      exact absurd ⟨by simp [hcp], by simp [hev, hcp]⟩ hr
    | new =>
      rw [hev] at happend'
      obtain ⟨store'', happend', -⟩ := happend'
      refine ⟨fun hh => (nomatch hh.2), fun _ => ⟨store'', by simp [hrecord, happend'],
        hkept _ _ happend'⟩, fun _ hr => ?_⟩
      exact absurd ⟨by simp [hcp], by simp [hev]⟩ hr

/-- In one-shot mode an intent that is known was recorded before. -/
theorem repeated_of_known (h : Held) {intent : Json} (hw : intent.wf)
    (hs : intent_standing h.journal intent = .known) : Repeated h.store intent := by
  have hi := intent_checked hw (by rw [hs]; exact nofun)
  rw [standing_checked_intent hi] at hs
  obtain ⟨cursor, hfind⟩ := standing_known hs
  rw [repeated_iff h.mirrors hi, hfind]
  rfl

/-- An intent that is new was not recorded before. -/
theorem not_repeated_of_new (h : Held) {intent : Json} (hw : intent.wf)
    (hs : intent_standing h.journal intent = .new) : ¬ Repeated h.store intent := by
  have hi := intent_checked hw (by rw [hs]; exact nofun)
  rw [standing_checked_intent hi] at hs
  rw [repeated_iff h.mirrors hi, standing_new hs]
  exact nofun

/-- **What the in-memory store does with a gated write.** -/
theorem memory_persist (h : Held) {checkpoint intent : Json} (hc : checkpoint.wf) (hi : intent.wf)
    (once : Bool) :
    Effect id (persist memory_store (fun doc => .of (·.record_checkpoint doc))
        (fun doc => .of (·.append doc)) checkpoint intent once) h.store
      (Halves h checkpoint intent once) (Records h.journal checkpoint intent once)
      (intent_cursor h.journal intent) := by
  have hpair := memory_pair h hc hi
  cases once with
  | false =>
    have hpersist : persist memory_store (fun doc => .of (·.record_checkpoint doc))
        (fun doc => .of (·.append doc)) checkpoint intent false =
          Prog.of fun store => match store.record_checkpoint checkpoint with
            | (.error e, store) => (.error e, store)
            | (.ok _, store) => store.append intent := by
      refine Prog.ext fun store => ?_
      simp only [persist, memory_store, Bool.false_eq_true, if_false, Prog.exec_bind, Prog.exec_of]
      rcases store.record_checkpoint checkpoint with ⟨_ | _, _⟩ <;> rfl
    rw [hpersist]
    simpa [Halves] using hpair
  | true =>
    have hexec : (persist memory_store (fun doc => .of (·.record_checkpoint doc))
        (fun doc => .of (·.append doc)) checkpoint intent true).exec h.store =
          h.store.record_checkpoint_and_intent_once checkpoint intent := rfl
    by_cases hv : validate intent EVENT_SCHEMA = .ok ()
    · by_cases hrep : Repeated h.store intent
      · -- The intent is recorded already: the call stops at its first check.
        obtain ⟨id, hid, hlookup⟩ := hrep
        have hcall := h.store.once_repeated checkpoint hv ⟨id, hid, hlookup⟩
        refine ⟨fun hh => absurd ⟨id, hid, hlookup⟩ (hh.2.2 rfl).2, fun hr => ?_, fun _ _ => ?_⟩
        · exact absurd ⟨id, hid, hlookup⟩ (not_repeated_of_new h hi (by simpa using hr.2))
        · rw [hexec, hcall]
      · have hcall := h.store.once_new checkpoint hv hrep
        have hknown : intent_standing h.journal intent ≠ .known :=
          fun hk => hrep (repeated_of_known h hi hk)
        have hnew : ∀ {b : Prop}, intent_standing h.journal intent ≠ .refused ∧
            (b ∨ intent_standing h.journal intent = .new) ↔ intent_standing h.journal intent = .new := by
          intro b
          cases hs : intent_standing h.journal intent <;> simp_all
        refine ⟨fun hh => ?_, fun hr => ?_, fun hh hr => ?_⟩
        · obtain ⟨e, t, hrun, hne⟩ := hpair.halved ⟨hh.1, hh.2.1⟩
          exact ⟨e, t, by rw [hexec, hcall]; exact hrun, hne⟩
        · obtain ⟨t, hrun, hne⟩ := hpair.written ⟨hr.1, by simpa [hnew] using hr.2⟩
          exact ⟨t, by rw [hexec, hcall]; exact hrun, hne⟩
        · rw [hexec, hcall]
          refine hpair.unchanged (fun hp => hh ⟨hp.1, hp.2, fun _ => ⟨hv, hrep⟩⟩) fun hp => hr ⟨hp.1, ?_⟩
          simpa [hnew] using hp.2
    · -- The intent fails its schema: the call stops there.
      have hrefused : intent_standing h.journal intent = .refused := by
        by_contra hs
        exact hv (intent_checked hi hs).valid
      refine ⟨fun hh => absurd (hh.2.2 rfl).1 hv, fun hr => ?_, fun _ _ => ?_⟩
      · have hnew : intent_standing h.journal intent = .new := by simpa using hr.2
        rw [hrefused] at hnew
        cases hnew
      · obtain ⟨e, he⟩ : ∃ e, validate intent EVENT_SCHEMA = .error e := by
          cases hx : validate intent EVENT_SCHEMA with
          | ok u => exact absurd hx hv
          | error e => exact ⟨e, rfl⟩
        rw [hexec]
        simp [Memory.record_checkpoint_and_intent_once, he]

/-! ## The durable store -/

/-- A program whose writes come last: a refused one raises, and nothing follows
one that is done. -/
def LastWrite {α : Type} : Program α → Prop
  | .ret _ => True
  | .raise _ => True
  | .call op next => match refused op with
    | none => ∀ answer, LastWrite (next answer)
    | some r => (∃ e, next r = .raise e) ∧
      ∀ answer, (∃ a, next answer = .ret a) ∨ ∃ e, next answer = .raise e

/-- An operation that cannot be refused. -/
def Unrefused (op : Op) : Prop := refused op = none

theorem LastWrite.after {α β : Type} {p : Program α} {f : α → Program β} (hp : p.All Unrefused)
    (hf : ∀ a, LastWrite (f a)) : LastWrite (p.bind f) := by
  induction p with
  | ret a => exact hf a
  | raise e => trivial
  | call op next ih =>
    have hop : refused op = none := hp.1
    simp only [Interleave.Prog.call_bind, LastWrite, hop]
    exact fun answer => ih answer (hp.2 answer)

theorem LastWrite.check {α β : Type} {x : Except Exn α} {f : α → Program β}
    (hf : ∀ a, LastWrite (f a)) : LastWrite ((Interleave.Prog.lift x).bind f) :=
  .after (.lift x) hf

/-- Where the next write is not refused, a method ends as on the plain database:
the write is its last statement. -/
theorem exec_accepted {α : Type} {p : Program α} (hp : LastWrite p)
    (hreads : ∀ op db, Unrefused op → (answer op db).2 = db) (db : Db) {refusals : List Bool}
    (h : refusals.head? ≠ some true) :
    ∃ rest, p.exec answer_or_refuse (db, refusals) =
      ((p.exec answer db).1, (p.exec answer db).2, rest) := by
  -- a request that can be refused is the last one, so one refusal is all that is used
  induction p with
  | ret a => exact ⟨refusals, rfl⟩
  | raise e => exact ⟨refusals, rfl⟩
  | call op next ih =>
    cases hop : refused op with
    | none =>
      have hrun : answer_or_refuse op (db, refusals) = ((answer op db).1, db, refusals) := by
        simp only [answer_or_refuse, hop, hreads op db hop]
      simp only [LastWrite, hop] at hp
      rw [Interleave.Prog.exec, hrun, Interleave.Prog.exec, hreads op db hop]
      exact ih _ (hp _)
    | some r =>
      have hrun : answer_or_refuse op (db, refusals) =
          ((answer op db).1, (answer op db).2, refusals.tail) := by
        rcases refusals with _ | ⟨_ | _, rest⟩
        · simp only [answer_or_refuse, hop, List.tail_nil]
        · simp only [answer_or_refuse, hop, List.tail_cons]
        · exact absurd rfl h
      simp only [LastWrite, hop] at hp
      refine ⟨refusals.tail, ?_⟩
      rw [Interleave.Prog.exec, hrun, Interleave.Prog.exec]
      rcases hp.2 (answer op db).1 with ⟨a, ha⟩ | ⟨e, he⟩
      · rw [ha]
        rfl
      · rw [he]
        rfl

/-- **A refusal changes nothing**: the method raises at its write, or it never
writes. -/
theorem exec_refused {α : Type} {p : Program α} (hp : LastWrite p)
    (hreads : ∀ op db, Unrefused op → (answer op db).2 = db) (db : Db) (rest : List Bool) :
    (p.exec answer_or_refuse (db, true :: rest)).2.1 = db := by
  induction p with
  | ret a => rfl
  | raise e => rfl
  | call op next ih =>
    cases hop : refused op with
    | none =>
      have hrun : answer_or_refuse op (db, true :: rest) = ((answer op db).1, db, true :: rest) := by
        simp only [answer_or_refuse, hop, hreads op db hop]
      simp only [LastWrite, hop] at hp
      rw [Interleave.Prog.exec, hrun]
      exact ih _ (hp _)
    | some r =>
      have hrun : answer_or_refuse op (db, true :: rest) = (r, db, rest) := by
        simp only [answer_or_refuse, hop]
      simp only [LastWrite, hop] at hp
      obtain ⟨⟨e, hraise⟩, -⟩ := hp
      rw [Interleave.Prog.exec, hrun, hraise]
      rfl

/-- Statements that cannot be refused only read. -/
theorem answer_unrefused (op : Op) (db : Db) (h : Unrefused op) : (answer op db).2 = db := by
  cases op with
  | rows => rfl
  | find => rfl
  | next_cursor => rfl
  | insert => exact nomatch h
  | insert_pair => exact nomatch h
  | insert_once => exact nomatch h

section Durable

variable {j : Journal} {checkpoint intent : Json}

theorem check_recorded_unrefused (checkpoint : Json) : (check_recorded checkpoint).All Unrefused := by
  unfold check_recorded documents
  simp only [Interleave.Prog.bind_eq, Interleave.Prog.perform_bind]
  exact (Interleave.Prog.All.lift _).bind fun _ =>
    Interleave.Prog.All.bind ⟨rfl, fun _ => .lift _⟩ fun _ => .lift _

/-- The pair's only write is its last statement. -/
theorem pair_last_write (checkpoint intent : Json) :
    LastWrite (record_checkpoint_and_intent checkpoint intent) := by
  unfold record_checkpoint_and_intent
  simp only [Interleave.Prog.bind_eq, Interleave.Prog.perform_bind]
  refine LastWrite.check fun _ => LastWrite.check fun _ =>
    LastWrite.after (check_recorded_unrefused checkpoint) fun _ => LastWrite.check fun _ => ?_
  refine fun known_checkpoint => LastWrite.check fun _ => ?_
  refine fun known_event => LastWrite.check fun _ => ?_
  unfold write_pair
  simp only [Interleave.Prog.bind_eq, Interleave.Prog.perform_bind]
  rcases known_checkpoint with _ | _ <;> rcases known_event with _ | ⟨event_cursor, _⟩
  · refine fun _ => LastWrite.check fun _ => LastWrite.check fun _ => ⟨⟨_, rfl⟩, fun stored => ?_⟩
    cases stored with
    | some cursor => exact .inl ⟨cursor, rfl⟩
    | none => exact .inr ⟨_, rfl⟩
  · refine fun _ => LastWrite.check fun _ => ⟨⟨_, rfl⟩, fun stored => ?_⟩
    cases stored with
    | true => exact .inl ⟨_, rfl⟩
    | false => exact .inr ⟨_, rfl⟩
  · refine fun cursor => LastWrite.check fun _ => ⟨⟨_, rfl⟩, fun stored => ?_⟩
    cases stored with
    | true => exact .inl ⟨_, rfl⟩
    | false => exact .inr ⟨_, rfl⟩
  · trivial

/-- The one-shot pair is one transaction. -/
theorem once_last_write (checkpoint intent : Json) :
    LastWrite (record_checkpoint_and_intent_once checkpoint intent) := by
  unfold record_checkpoint_and_intent_once
  simp only [Interleave.Prog.bind_eq, Interleave.Prog.perform_bind]
  refine LastWrite.check fun _ => LastWrite.check fun _ => ⟨⟨_, rfl⟩, fun stored => ?_⟩
  rcases stored with e | _ | cursor
  · exact .inr ⟨_, rfl⟩
  · exact .inr ⟨_, rfl⟩
  · exact .inl ⟨cursor, rfl⟩

/-- An intent without a digest stops the durable store before it reads. -/
theorem prepare_intent_refused (hi : intent.wf) (h : ¬ Checked event_kind intent) :
    ∃ e, prepare_intent intent = .error e := by
  cases hp : prepare_intent intent with
  | error e => exact ⟨e, rfl⟩
  | ok p => exact absurd (prepare_intent_ok hi hp).1 h

theorem prepare_intent_checked (hi : Checked event_kind intent) :
    prepare_intent intent = .ok (digest intent, event_kind.id intent) := by
  have hv : validate intent EVENT_SCHEMA = .ok () := hi.valid
  have hprepared : prepare intent "event_id" = _ := hi.prepared
  rw [prepare_intent, hv, hprepared, ok_bind]

theorem dict_digest_checked (hc : Checked checkpoint_kind checkpoint) :
    dict_digest checkpoint = .ok (digest checkpoint) := by
  obtain ⟨fields, rfl⟩ := object_valid checkpoint_kind.object hc.valid
  exact hc.sha256

/-- A checkpoint that is refused with a digest fails its check, or its ID has
another digest. -/
theorem checkpoint_refused (hc : checkpoint.wf) {d : String} (hd : dict_digest checkpoint = .ok d)
    (h : checkpoint_standing j checkpoint = .refused) :
    (∃ e, check_checkpoint j.events.docs checkpoint = .error e) ∨
      (∃ cursor, check_checkpoint j.events.docs checkpoint = .ok cursor) ∧
        Checked checkpoint_kind checkpoint ∧
        ∃ cursor known, j.checkpoints.table.find (checkpoint_kind.id checkpoint) = some (cursor, known) ∧
          known ≠ digest checkpoint := by
  cases hcheck : check_checkpoint j.events.docs checkpoint with
  | error e => exact .inl ⟨e, rfl⟩
  | ok cursor =>
    obtain ⟨u, hshape, -⟩ := bind_ok.mp hcheck
    obtain ⟨hchecked, -⟩ := dict_digest_ok hc hshape hd
    rw [standing_checked_checkpoint hcheck hchecked] at h
    exact .inr ⟨⟨cursor, rfl⟩, hchecked, standing_refused h⟩

/-- What a gated write does to the database of a journal. -/
def Writes (program : Program ℕ) (j : Journal) (recorded : Prop) (cursor : ℕ) : Prop :=
  (recorded → ∃ db, program.exec answer j.db = (.ok cursor, db) ∧ db ≠ j.db) ∧
    (¬ recorded → ∃ result, program.exec answer j.db = (result, j.db))

theorem add_event_ne {doc : Json} (hs : Stored event_kind doc)
    (hf : event_kind.id doc ∉ j.events.docs.map event_kind.id) : (j.add_event doc hs hf).db ≠ j.db := by
  intro heq
  have hdocs := Journal.db_inj heq .observation_events
  have hlen := congrArg List.length hdocs
  simp [Journal.log, Journal.add_event, Log.add] at hlen

theorem add_checkpoint_ne {doc : Json} (hs : Stored checkpoint_kind doc)
    (hf : checkpoint_kind.id doc ∉ j.checkpoints.docs.map checkpoint_kind.id) (ha : j.Anchors doc) :
    (j.add_checkpoint doc hs hf ha).db ≠ j.db := by
  intro heq
  have hdocs := Journal.db_inj heq .observation_checkpoints
  have hlen := congrArg List.length hdocs
  simp [Journal.log, Journal.add_checkpoint, Log.add] at hlen

theorem answer_find_checkpoint (j : Journal) (id : String) :
    answer (.find .observation_checkpoints id) j.db = (j.checkpoints.table.find id, j.db) := rfl

theorem answer_find_event (j : Journal) (id : String) :
    answer (.find .observation_events id) j.db = (j.events.table.find id, j.db) := rfl

theorem exec_next_checkpoint {α : Type} (j : Journal) (next : ℕ → Program α) :
    (Interleave.Prog.call (.next_cursor .observation_checkpoints) next).exec answer j.db =
      (next j.checkpoints.docs.length).exec answer j.db :=
  congrArg (fun n => (next n).exec answer j.db) (Log.next_cursor_table _)

theorem exec_next_event {α : Type} (j : Journal) (next : ℕ → Program α) :
    (Interleave.Prog.call (.next_cursor .observation_events) next).exec answer j.db =
      (next j.events.docs.length).exec answer j.db :=
  congrArg (fun n => (next n).exec answer j.db) (Log.next_cursor_table _)

theorem exec_insert {α : Type} {db : Db} {name : TableName} {row : Row} {table : Table}
    (h : (db.table name).insert row = some table) (next : Bool → Program α) :
    (Interleave.Prog.call (.insert name row) next).exec answer db =
      (next true).exec answer (db.set_table name table) := by
  simp only [Interleave.Prog.exec, answer, h]

theorem exec_insert_pair {α : Type} {db db' : Db} {row : Row} {parameters : Parameters} {cursor : ℕ}
    (h : db.insert_pair row parameters = some (cursor, db')) (next : Option ℕ → Program α) :
    (Interleave.Prog.call (.insert_pair row parameters) next).exec answer db =
      (next (some cursor)).exec answer db' := by
  simp only [Interleave.Prog.exec, answer, h]

/-- The pair with checked records: both are looked up, and then written. -/
theorem pair_exec {n : ℤ} (hn : check_checkpoint j.events.docs checkpoint = .ok n)
    (hc : Checked checkpoint_kind checkpoint) (hi : Checked event_kind intent) :
    (record_checkpoint_and_intent checkpoint intent).exec answer j.db =
      match check_known (j.checkpoints.table.find (checkpoint_kind.id checkpoint)) (digest checkpoint)
          "checkpoint id conflict" with
      | .error e => (.error e, j.db)
      | .ok () =>
        match check_known (j.events.table.find (event_kind.id intent)) (digest intent)
            "event id conflict" with
        | .error e => (.error e, j.db)
        | .ok () => (write_pair checkpoint intent (checkpoint_kind.id checkpoint) (digest checkpoint)
            (event_kind.id intent) (digest intent)
            (j.checkpoints.table.find (checkpoint_kind.id checkpoint))
            (j.events.table.find (event_kind.id intent))).exec answer j.db := by
  have hid : bound_item checkpoint "checkpoint_id" = .ok (checkpoint_kind.id checkpoint) := by
    have hget : str_item checkpoint "checkpoint_id" = _ := hc.str_item_id
    rw [bound_item, hget]
    rfl
  unfold record_checkpoint_and_intent
  simp only [Interleave.Prog.bind_eq, Interleave.Prog.perform_bind, prepare_intent_checked hi,
    dict_digest_checked hc, Interleave.Prog.exec_bind, check_recorded_exec, hn, hid,
    Interleave.Prog.exec_lift, Interleave.Prog.exec, answer_find_checkpoint]
  cases check_known (j.checkpoints.table.find (checkpoint_kind.id checkpoint)) (digest checkpoint)
    "checkpoint id conflict" with
  | error e => rfl
  | ok u =>
    simp only [answer_find_event]
    cases check_known (j.events.table.find (event_kind.id intent)) (digest intent)
      "event id conflict" <;> rfl

/-- The writes of a pair with at most known records. -/
theorem write_pair_exec {n : ℤ} (hn : check_checkpoint j.events.docs checkpoint = .ok n)
    (hc : Checked checkpoint_kind checkpoint) (hi : Checked event_kind intent) :
    let result := (write_pair checkpoint intent (checkpoint_kind.id checkpoint) (digest checkpoint)
      (event_kind.id intent) (digest intent)
      (j.checkpoints.table.find (checkpoint_kind.id checkpoint))
      (j.events.table.find (event_kind.id intent))).exec answer j.db
    result.1 = .ok (intent_cursor j intent) ∧
      (result.2 = j.db ↔ (j.checkpoints.table.find (checkpoint_kind.id checkpoint)).isSome = true ∧
        (j.events.table.find (event_kind.id intent)).isSome = true) := by
  obtain ⟨u, hshape, htrigger⟩ := bind_ok.mp hn
  have hanchor : j.Anchors checkpoint.norm := anchors_norm hc.wf hshape ⟨n, htrigger⟩
  have hfresh_checkpoint : j.checkpoints.table.find (checkpoint_kind.id checkpoint) = none →
      checkpoint_kind.id checkpoint.norm ∉ j.checkpoints.docs.map checkpoint_kind.id := by
    rw [hc.id_norm]
    exact Log.find_table_none.mp
  have hfresh_intent : j.events.table.find (event_kind.id intent) = none →
      event_kind.id intent.norm ∉ j.events.docs.map event_kind.id := by
    rw [hi.id_norm]
    exact Log.find_table_none.mp
  unfold write_pair intent_cursor
  simp only [Interleave.Prog.bind_eq, Interleave.Prog.perform_bind]
  cases hkc : j.checkpoints.table.find (checkpoint_kind.id checkpoint) with
  | none =>
    have hf := hfresh_checkpoint hkc
    have hne := add_checkpoint_ne hc.stored hf hanchor
    cases hke : j.events.table.find (event_kind.id intent) with
    | none =>
      -- Both are new: one transaction.
      have hf' := hfresh_intent hke
      have hinsert := insert_pair_fresh hc.stored hf hanchor hi.stored hf'
      rw [← checked_row hc, ← checked_parameters hi] at hinsert
      rw [exec_next_checkpoint]
      simp only [hc.dumped, hi.dumped, Interleave.Prog.lift_ok, Interleave.Prog.ret_bind]
      rw [exec_insert_pair hinsert]
      refine ⟨rfl, fun heq => ?_, fun hh => absurd hh.1 nofun⟩
      have hevents := Journal.db_inj (heq : Journal.db _ = j.db) .observation_events
      have hlen := congrArg List.length hevents
      simp [Journal.log, Journal.add_event, Journal.add_checkpoint, Log.add] at hlen
    | some known =>
      have hinsert : (j.db.table .observation_checkpoints).insert
          (checkpoint_kind.row j.checkpoints.docs.length checkpoint.norm) = _ :=
        Log.insert_table_fresh hc.stored hf
      rw [← checked_row hc] at hinsert
      rw [exec_next_checkpoint]
      simp only [hc.dumped, Interleave.Prog.lift_ok, Interleave.Prog.ret_bind]
      rw [exec_insert hinsert]
      exact ⟨rfl, fun heq => absurd heq hne, fun hh => absurd hh.1 nofun⟩
  | some known =>
    cases hke : j.events.table.find (event_kind.id intent) with
    | none =>
      have hf' := hfresh_intent hke
      have hne := add_event_ne hi.stored hf'
      have hinsert : (j.db.table .observation_events).insert
          (event_kind.row j.events.docs.length intent.norm) = _ := Log.insert_table_fresh hi.stored hf'
      rw [← checked_row hi] at hinsert
      rw [exec_next_event]
      simp only [hi.dumped, Interleave.Prog.lift_ok, Interleave.Prog.ret_bind]
      rw [exec_insert hinsert]
      exact ⟨rfl, fun heq => absurd heq hne, fun hh => absurd hh.2 nofun⟩
    | some known' => exact ⟨rfl, fun _ => ⟨rfl, rfl⟩, fun _ => rfl⟩

/-- A lookup that is not refused passes its check. -/
theorem check_known_standing {found : Option (ℕ × String)} {d : String} (message : String)
    (h : standing true found d ≠ .refused) : check_known found d message = .ok () := by
  rcases found with _ | ⟨cursor, known⟩
  · rfl
  · by_cases heq : known = d
    · simp [check_known, heq]
    · simp [standing, heq] at h

theorem check_known_refused {found : Option (ℕ × String)} {d : String} (message : String)
    (h : standing true found d = .refused) : check_known found d message = .error (conflict message) := by
  obtain ⟨cursor, known, rfl, hne⟩ := standing_refused h
  simp [check_known, hne]

/-- A record that is not refused is found exactly when it is not new. -/
theorem found_iff {found : Option (ℕ × String)} {d : String} (h : standing true found d ≠ .refused) :
    found.isSome = true ↔ standing true found d ≠ .new := by
  rcases found with _ | ⟨cursor, known⟩
  · simp [standing]
  · by_cases heq : known = d
    · simp [standing, heq]
    · simp [standing, heq] at h

/-- **What the durable store does with a pair**: both records or none. -/
theorem durable_pair (hc : checkpoint.wf) (hi : intent.wf) :
    Writes (record_checkpoint_and_intent checkpoint intent) j (Records j checkpoint intent false)
      (intent_cursor j intent) := by
  -- the checks come in this order: the intent, the checkpoint's digest, its anchor, the two
  -- IDs; only then is anything written
  by_cases hintent : Checked event_kind intent
  · cases hd : dict_digest checkpoint with
    | error e =>
      refine ⟨fun hr => ?_, fun _ => ⟨.error e, ?_⟩⟩
      · have hchecked := (checkpoint_checked hc hr.1).2
        rw [dict_digest_checked hchecked] at hd
        exact nomatch hd
      · unfold record_checkpoint_and_intent
        simp only [Interleave.Prog.bind_eq, Interleave.Prog.exec_lift_bind,
          prepare_intent_checked hintent, hd]
    | ok d =>
      cases hn : check_checkpoint j.events.docs checkpoint with
      | error e =>
        refine ⟨fun hr => ?_, fun _ => ⟨.error e, ?_⟩⟩
        · obtain ⟨⟨n, hn'⟩, -⟩ := checkpoint_checked hc hr.1
          exact nomatch hn.symm.trans hn'
        · unfold record_checkpoint_and_intent
          simp only [Interleave.Prog.bind_eq, prepare_intent_checked hintent, hd,
            Interleave.Prog.exec_bind, Interleave.Prog.exec_lift, check_recorded_exec, hn]
      | ok n =>
        obtain ⟨u, hshape, -⟩ := bind_ok.mp hn
        obtain ⟨hchecked, -⟩ := dict_digest_ok hc hshape hd
        have hcp := standing_checked_checkpoint hn hchecked
        have hev := standing_checked_intent (j := j) hintent
        unfold Writes
        rw [pair_exec hn hchecked hintent]
        by_cases hcp' : checkpoint_standing j checkpoint = .refused
        · rw [check_known_refused _ (hcp ▸ hcp')]
          exact ⟨fun hr => absurd hcp' hr.1, fun _ => ⟨_, rfl⟩⟩
        · rw [check_known_standing _ (hcp ▸ hcp')]
          by_cases hev' : intent_standing j intent = .refused
          · rw [check_known_refused _ (hev ▸ hev')]
            refine ⟨fun hr => absurd hev' ?_, fun _ => ⟨_, rfl⟩⟩
            exact hr.2.1
          · rw [check_known_standing _ (hev ▸ hev')]
            obtain ⟨hresult, hsame⟩ := write_pair_exec hn hchecked hintent
            rw [found_iff (hcp ▸ hcp'), found_iff (hev ▸ hev'), ← hcp, ← hev] at hsame
            refine ⟨fun hr => ⟨_, Prod.ext hresult rfl, fun heq => ?_⟩, fun hr => ⟨_, Prod.ext rfl ?_⟩⟩
            · obtain ⟨hc', hi'⟩ := hsame.mp heq
              rcases hr.2.2 with h | h
              · exact hc' h
              · exact hi' h
            · refine hsame.mpr ⟨fun h => hr ⟨hcp', ?_⟩, fun h => hr ⟨hcp', ?_⟩⟩
              · exact ⟨hev', .inl h⟩
              · exact ⟨hev', .inr h⟩
  · obtain ⟨e, he⟩ := prepare_intent_refused hi hintent
    refine ⟨fun hr => absurd (intent_checked hi (by simpa using hr.2.1)) hintent,
      fun _ => ⟨.error e, ?_⟩⟩
    unfold record_checkpoint_and_intent
    simp only [Interleave.Prog.bind_eq, Interleave.Prog.exec_lift_bind, he]

/-- **What the durable store does with a one-shot pair**: both records or none,
and none when the intent is known. -/
theorem durable_once (hc : checkpoint.wf) (hi : intent.wf) :
    Writes (record_checkpoint_and_intent_once checkpoint intent) j (Records j checkpoint intent true)
      (intent_cursor j intent) := by
  by_cases hintent : Checked event_kind intent
  · cases hd : dict_digest checkpoint with
    | error e =>
      refine ⟨fun hr => ?_, fun _ => ⟨.error e, ?_⟩⟩
      · have hchecked := (checkpoint_checked hc hr.1).2
        rw [dict_digest_checked hchecked] at hd
        cases hd
      · unfold record_checkpoint_and_intent_once
        simp only [Interleave.Prog.bind_eq, Interleave.Prog.exec_lift_bind,
          prepare_intent_checked hintent, hd]
    | ok d =>
      unfold Writes
      rw [once_exec hintent hd]
      cases hn : check_checkpoint j.events.docs checkpoint with
      | error e =>
        rw [insert_once_refused hn]
        refine ⟨fun hr => ?_, fun _ => ⟨.error e, rfl⟩⟩
        obtain ⟨⟨n, hn'⟩, -⟩ := checkpoint_checked hc hr.1
        cases hn.symm.trans hn'
      | ok n =>
        obtain ⟨u, hshape, htrigger⟩ := bind_ok.mp hn
        obtain ⟨hchecked, rfl⟩ := dict_digest_ok hc hshape hd
        have hanchor : j.Anchors checkpoint.norm := anchors_norm hc hshape ⟨n, htrigger⟩
        have hcp := standing_checked_checkpoint hn hchecked
        have hev := standing_checked_intent (j := j) hintent
        -- in one-shot mode a known intent is a failure, also with the same digest
        cases hke : j.events.table.find (event_kind.id intent) with
        | some known =>
          rw [insert_once_repeated hn (by rw [hke]; rfl)]
          refine ⟨fun hr => ?_, fun _ => ⟨_, rfl⟩⟩
          have hnew : intent_standing j intent = .new := by simpa using hr.2
          rw [hev, hke] at hnew
          cases standing_new hnew
        | none =>
          have hnew : intent_standing j intent = .new := by rw [hev, hke]; rfl
          have hf' : event_kind.id intent.norm ∉ j.events.docs.map event_kind.id := by
            rw [hintent.id_norm]
            exact Log.find_table_none.mp hke
          have hcursor : intent_cursor j intent = j.events.docs.length := by rw [intent_cursor, hke]
          rw [insert_once_new hn hchecked hintent hke]
          cases hkc : j.checkpoints.table.find (checkpoint_kind.id checkpoint) with
          | none =>
            have hf : checkpoint_kind.id checkpoint.norm ∉ j.checkpoints.docs.map checkpoint_kind.id := by
              rw [hchecked.id_norm]
              exact Log.find_table_none.mp hkc
            have hstanding : checkpoint_standing j checkpoint = .new := by rw [hcp, hkc]; rfl
            simp only [insert_pair_fresh hchecked.stored hf hanchor hintent.stored hf', hcursor]
            refine ⟨fun _ => ⟨_, rfl, fun heq => ?_⟩, fun hr => ?_⟩
            · have hevents := Journal.db_inj heq .observation_events
              have hlen := congrArg List.length hevents
              simp [Journal.log, Journal.add_event, Journal.add_checkpoint, Log.add] at hlen
            · exact absurd ⟨by rw [hstanding]; rintro ⟨⟩, by simpa using hnew⟩ hr
          | some known =>
            -- a known checkpoint is kept; only the intent is inserted
            by_cases hsame : known.2 = digest checkpoint
            · have hstanding : checkpoint_standing j checkpoint = .known := by
                rw [hcp, hkc, standing]
                simp [hsame]
              simp only [hsame, ne_eq, not_true, if_false,
                insert_intent_fresh hintent.stored hf', hcursor]
              exact ⟨fun _ => ⟨_, rfl, add_event_ne hintent.stored hf'⟩, fun hr =>
                absurd ⟨by rw [hstanding]; rintro ⟨⟩, by simpa using hnew⟩ hr⟩
            · have hstanding : checkpoint_standing j checkpoint = .refused := by
                rw [hcp, hkc, standing]
                simp [hsame]
              simp only [ne_eq, hsame, not_false_eq_true, if_true]
              exact ⟨fun hr => absurd hstanding hr.1, fun _ => ⟨_, rfl⟩⟩
  · obtain ⟨e, he⟩ := prepare_intent_refused hi hintent
    refine ⟨fun hr => ?_, fun _ => ⟨.error e, ?_⟩⟩
    · have hnew : intent_standing j intent = .new := by simpa using hr.2
      exact absurd (intent_checked hi (by rw [hnew]; rintro ⟨⟩)) hintent
    · unfold record_checkpoint_and_intent_once
      simp only [Interleave.Prog.bind_eq, Interleave.Prog.exec_lift_bind, he]

end Durable

/-! ## The gate over both stores -/

section Atomic

variable {σ ρ : Type}

/-- The callback is callable and raises for the cursor. -/
def CallbackRaises (callback : Option (Arg (ℕ → Except Exn Unit))) (cursor : ℕ) : Prop :=
  ∃ f e, callback = some (.of f) ∧ f cursor = .error e

/-- A callback that only returns or raises. -/
def as_callback (callback : Option (Arg (ℕ → Except Exn Unit))) :
    Option (Arg (ℕ → Prog Exn σ Unit)) :=
  callback.map fun callback => match callback with
    | .of f => .of fun cursor => liftM (f cursor)
    | .other => .other

/-- The gate, if it raises without a call, has recorded nothing new. -/
def Atomic {α : Type} (records : σ → ρ) (store : Store (Prog Exn σ)) (checkpoint intent : Json)
    (dispatch : Option (Prog Exn σ α)) (once : Bool)
    (callback : Option (Arg (ℕ → Except Exn Unit))) (s : σ) : Prop :=
  ∀ (e : Exn) (t : Counted σ),
    (gate store checkpoint intent dispatch once (as_callback callback)).exec ⟨s, 0⟩ = (.error e, t) →
      t.calls = 0 → records t.state = records s

/-- What a callback answers; none answers nothing. -/
def callback_answer (callback : Option (ℕ → Except Exn Unit)) (cursor : ℕ) : Except Exn Unit :=
  match callback with
  | none => .ok ()
  | some f => f cursor

theorem callback_raises_iff (callback : Option (ℕ → Except Exn Unit)) (cursor : ℕ) :
    CallbackRaises (callback.map Arg.of) cursor ↔ ∃ e, callback_answer callback cursor = .error e := by
  cases callback with
  | none => simp [CallbackRaises, callback_answer]
  | some f => simp [CallbackRaises, callback_answer]

/-- The gate up to the call, with a callback that only returns or raises. -/
theorem recorded_exec (store : Store (Prog Exn σ)) (record_checkpoint append : Json → Prog Exn σ ℕ)
    (checkpoint intent : Json) (once : Bool) (callback : Option (ℕ → Except Exn Unit)) (s : σ) :
    (recorded store record_checkpoint append checkpoint intent once
      (callback.map fun f cursor => liftM (f cursor))).exec s =
      match (persist store record_checkpoint append checkpoint intent once).exec s with
      | (.error e, t) => (.error e, t)
      | (.ok cursor, t) => match callback_answer callback cursor with
        | .error e => (.error e, t)
        | .ok () => (.ok cursor, t) := by
  unfold recorded
  rw [Prog.exec_bind]
  rcases (persist store record_checkpoint append checkpoint intent once).exec s with ⟨e | cursor, t⟩
  · rfl
  · cases callback with
    | none => rfl
    | some f =>
      simp only [Option.map_some, Prog.exec_bind, Prog.exec_lift, callback_answer]
      cases f cursor <;> rfl

/-- A gate with all its collaborators, run to its end. -/
theorem gate_exec (store : Store (Prog Exn σ)) {record_checkpoint append : Json → Prog Exn σ ℕ}
    (hr : store.record_checkpoint = some record_checkpoint) (ha : store.append = some append)
    (checkpoint intent : Json) {α : Type} (call : Prog Exn σ α) (once : Bool)
    (callback : Option (ℕ → Except Exn Unit)) (s : σ) :
    (gate store checkpoint intent (some call) once (as_callback (callback.map Arg.of))).exec ⟨s, 0⟩ =
      match (persist store record_checkpoint append checkpoint intent once).exec s with
      | (.error e, t) => (.error (gate_error e), ⟨t, 0⟩)
      | (.ok cursor, t) => match callback_answer callback cursor with
        | .error e => (.error (gate_error e), ⟨t, 0⟩)
        | .ok () => match call.exec t with
          | (.ok value, u) => (.ok (cursor, value), ⟨u, 1⟩)
          | (.error e, u) => (.error (if once then gate_error e else e), ⟨u, 1⟩) := by
  have hcallback : as_callback (σ := σ) (callback.map Arg.of) =
      (callback.map fun f cursor => (liftM (f cursor) : Prog Exn σ Unit)).map Arg.of := by
    cases callback <;> rfl
  rw [hcallback, gate_present _ hr ha, record_and_dispatch_exec, Prog.exec_silent, recorded_exec]
  rcases (persist store record_checkpoint append checkpoint intent once).exec s with ⟨e | cursor, t⟩
  · rfl
  · cases hf : callback_answer callback cursor with
    | error e => simp [hf]
    | ok u => rcases hcall : call.exec t with ⟨e | value, u⟩ <;> simp [hf, hcall]

/-- A gate that refuses at once records nothing. -/
theorem atomic_of_throw {α : Type} (records : σ → ρ) {store : Store (Prog Exn σ)}
    {checkpoint intent : Json} {dispatch : Option (Prog Exn σ α)} {once : Bool}
    {callback : Option (Arg (ℕ → Except Exn Unit))} (s : σ) {message : String}
    (h : gate store checkpoint intent dispatch once (as_callback callback) = throw (refusal message)) :
    Atomic records store checkpoint intent dispatch once callback s := by
  intro e t hgate _
  rw [h, Prog.exec_throw] at hgate
  obtain ⟨-, rfl⟩ := Prod.mk.inj hgate
  rfl

/-- How the recording ended leaves nothing new behind a refusal: it raised and
changed nothing, or no callback raises for its cursor, or nothing was new. -/
def Kept (records : σ → ρ) (callback : Option (Arg (ℕ → Except Exn Unit))) (s : σ) :
    Except Exn ℕ × σ → Prop
  | (.error _, t) => records t = records s
  | (.ok cursor, t) => CallbackRaises callback cursor → records t = records s

theorem kept_of_same {records : σ → ρ} {callback : Option (Arg (ℕ → Except Exn Unit))} {s : σ}
    {ended : Except Exn ℕ × σ} (h : records ended.2 = records s) : Kept records callback s ended := by
  obtain ⟨e | cursor, t⟩ := ended
  · exact h
  · exact fun _ => h

/-- **What decides whether a refused gate leaves a record**: a callable and a
callback that are not there to be called are refused first; after them decide
the methods that record, and the callback. -/
theorem atomic_iff {α : Type} (records : σ → ρ) {store : Store (Prog Exn σ)}
    {record_checkpoint append : Json → Prog Exn σ ℕ}
    (hr : store.record_checkpoint = some record_checkpoint) (ha : store.append = some append)
    (checkpoint intent : Json) (dispatch : Option (Prog Exn σ α)) (once : Bool)
    (callback : Option (Arg (ℕ → Except Exn Unit))) (s : σ) :
    Atomic records store checkpoint intent dispatch once callback s ↔
      dispatch = none ∨ callback = some .other ∨
        Kept records callback s
          ((persist store record_checkpoint append checkpoint intent once).exec s) := by
  by_cases hnone : dispatch = none
  · refine ⟨fun _ => .inl hnone, fun _ => ?_⟩
    rcases gate_cases store checkpoint intent dispatch once (as_callback callback) with
      ⟨message, hthrow⟩ | ⟨_, _, _, _, -, -, hcall, -⟩
    · exact atomic_of_throw records s hthrow
    · rw [hnone] at hcall
      cases hcall
  by_cases hother : callback = some .other
  · refine ⟨fun _ => .inr (.inl hother), fun _ => ?_⟩
    rcases gate_cases store checkpoint intent dispatch once (as_callback callback) with
      ⟨message, hthrow⟩ | ⟨_, _, _, f, -, -, -, hf⟩
    · exact atomic_of_throw records s hthrow
    · subst hother
      cases f <;> cases hf
  -- Both are there: the gate records, and the callback has the last word.
  obtain ⟨call, rfl⟩ : ∃ call, dispatch = some call := Option.ne_none_iff_exists'.mp hnone
  obtain ⟨f, rfl⟩ : ∃ f : Option (ℕ → Except Exn Unit), callback = f.map Arg.of := by
    rcases callback with _ | f | _
    · exact ⟨none, rfl⟩
    · exact ⟨some f, rfl⟩
    · exact absurd rfl hother
  simp only [reduceCtorEq, hother, false_or]
  unfold Atomic
  rw [gate_exec _ hr ha]
  rcases (persist store record_checkpoint append checkpoint intent once).exec s with ⟨e | cursor, u⟩
  · constructor
    · intro hatomic
      exact hatomic _ _ rfl rfl
    · intro h e' t hgate _
      obtain ⟨-, rfl⟩ := Prod.mk.inj hgate
      exact h
  · constructor
    · intro hatomic hraises
      obtain ⟨e, he⟩ := (callback_raises_iff f cursor).mp hraises
      simp only [he] at hatomic
      exact hatomic _ _ rfl rfl
    · intro h e t hgate hcalls
      cases hc : callback_answer f cursor with
      | error e' =>
        simp only [hc] at hgate
        obtain ⟨-, rfl⟩ := Prod.mk.inj hgate
        exact h ((callback_raises_iff f cursor).mpr ⟨e', hc⟩)
      | ok _ =>
        -- The call was made, so the count is one.
        simp only [hc] at hgate
        rcases hcall : call.exec u with ⟨e'' | value, v⟩ <;> simp only [hcall] at hgate
        · obtain ⟨-, rfl⟩ := Prod.mk.inj hgate
          exact absurd hcalls Nat.one_ne_zero
        · cases (Prod.mk.inj hgate).1

end Atomic

/-! ## Captured checkpoints -/

/-- A store, or the store that captures checkpoint artifacts in front of it. -/
def fronted {σ : Type} (artifacts : Option ArtifactStore) (store : Store (Prog Exn σ)) :
    Store (Prog Exn σ) :=
  match artifacts with
  | none => store
  | some artifacts => capturing artifacts store

/-- The checkpoint that reaches the journal. -/
def captured (artifacts : Option ArtifactStore) (checkpoint intent : Json) : Except Exn Json :=
  match artifacts with
  | none => .ok checkpoint
  | some artifacts => capture artifacts checkpoint intent

/-- A captured checkpoint is recorded as the journal behind records it. -/
theorem persist_fronted {σ : Type} (store : Store (Prog Exn σ))
    {record_checkpoint append : Json → Prog Exn σ ℕ} {persist_once : Json → Json → Prog Exn σ ℕ}
    (hr : store.record_checkpoint = some record_checkpoint) (ha : store.append = some append)
    (ho : store.record_checkpoint_and_intent_once = some persist_once)
    (artifacts : Option ArtifactStore) (checkpoint intent : Json) (once : Bool) (s : σ) :
    (persist (fronted artifacts store) record_checkpoint append checkpoint intent once).exec s =
      match captured artifacts checkpoint intent with
      | .error e => (.error e, s)
      | .ok enriched => (persist store record_checkpoint append enriched intent once).exec s := by
  cases artifacts with
  | none => rfl
  | some artifacts =>
    have hlift : ∀ x : Except Exn Json, (lift x : Prog Exn σ Json).exec s = (x, s) := by
      rintro (_ | _) <;> rfl
    unfold persist fronted capturing captured
    cases once with
    | true =>
      simp only [if_true, ho, Prog.exec_bind, hlift]
      cases capture artifacts checkpoint intent <;> rfl
    | false =>
      simp only [Bool.false_eq_true, if_false, hr, ha, Prog.exec_bind, hlift]
      cases capture artifacts checkpoint intent with
      | error e => rfl
      | ok enriched => cases store.record_checkpoint_and_intent <;> rfl

theorem wf_captured {artifacts : Option ArtifactStore} {checkpoint intent enriched : Json}
    (hw : checkpoint.wf) (h : captured artifacts checkpoint intent = .ok enriched) : enriched.wf := by
  cases artifacts with
  | none => exact Except.ok.inj h ▸ hw
  | some artifacts => exact wf_capture hw h

/-! ## What a refused gate leaves behind -/

/-- The methods of the durable store that a gate calls. -/
def gated_program (checkpoint intent : Json) (once : Bool) : Program ℕ :=
  if once then record_checkpoint_and_intent_once checkpoint intent
  else record_checkpoint_and_intent checkpoint intent

theorem sqlite_persist (record_checkpoint append : Json → Prog Exn (Db × List Bool) ℕ)
    (checkpoint intent : Json) (once : Bool) :
    persist sqlite_store record_checkpoint append checkpoint intent once =
      durable (gated_program checkpoint intent once) := by
  cases once <;> rfl

theorem gated_last_write (checkpoint intent : Json) (once : Bool) :
    LastWrite (gated_program checkpoint intent once) := by
  cases once with
  | true => exact once_last_write checkpoint intent
  | false => exact pair_last_write checkpoint intent

theorem gated_writes {j : Journal} {checkpoint intent : Json} (hc : checkpoint.wf) (hi : intent.wf)
    (once : Bool) :
    Writes (gated_program checkpoint intent once) j (Records j checkpoint intent once)
      (intent_cursor j intent) := by
  cases once with
  | true => exact durable_once hc hi
  | false => exact durable_pair hc hi

/-- What is left where the write is not refused: everything, unless nothing new was
to be recorded. -/
theorem gated_accepted {j : Journal} {checkpoint intent : Json} (hc : checkpoint.wf) (hi : intent.wf)
    (once : Bool) {refusals : List Bool} (h : refusals.head? ≠ some true) :
    (Records j checkpoint intent once → ∃ t, t.1 ≠ j.db ∧
      (durable (gated_program checkpoint intent once)).exec (j.db, refusals) =
        (.ok (intent_cursor j intent), t)) ∧
      (¬ Records j checkpoint intent once →
        ((durable (gated_program checkpoint intent once)).exec (j.db, refusals)).2.1 = j.db) := by
  obtain ⟨hwrites, hkeeps⟩ := gated_writes (j := j) hc hi once
  obtain ⟨rest, hexec⟩ := exec_accepted (gated_last_write checkpoint intent once) answer_unrefused
    j.db h
  rw [durable, Prog.exec_of, hexec]
  constructor
  · intro hr
    obtain ⟨db, hrun, hne⟩ := hwrites hr
    exact ⟨(db, rest), hne, by rw [hrun]⟩
  · intro hr
    obtain ⟨result, hrun⟩ := hkeeps hr
    rw [hrun]

/-- **When a refused gate leaves no new record.** The conditions are on the call:
what it is to dispatch, its callback, the standing of its two records and, for the
durable store, whether the database refuses the write. In the in-memory store a
new checkpoint of a refused intent stays; in both, what is new stays when the
callback raises. -/
theorem refused_gate_records_nothing_iff {α β : Type} (h : Held) (checkpoint intent : PyValue)
    (artifacts : Option ArtifactStore) (dispatch : Option (Prog Exn Memory α))
    (durable_dispatch : Option (Prog Exn (Db × List Bool) β)) (once : Bool)
    (callback : Option (Arg (ℕ → Except Exn Unit))) (refusals : List Bool) :
    (Atomic id (fronted artifacts memory_store) checkpoint.val intent.val dispatch once callback
        h.store ↔
      dispatch = none ∨ callback = some .other ∨
        ∀ enriched, captured artifacts checkpoint.val intent.val = .ok enriched →
          ¬ Halves h enriched intent.val once ∧
          ¬ (Records h.journal enriched intent.val once ∧
            CallbackRaises callback (intent_cursor h.journal intent.val))) ∧
    (Atomic Prod.fst (fronted artifacts sqlite_store) checkpoint.val intent.val durable_dispatch once
        callback (h.journal.db, refusals) ↔
      durable_dispatch = none ∨ callback = some .other ∨ refusals.head? = some true ∨
        ∀ enriched, captured artifacts checkpoint.val intent.val = .ok enriched →
          ¬ (Records h.journal enriched intent.val once ∧
            CallbackRaises callback (intent_cursor h.journal intent.val))) := by
  have hfront : ∀ {σ : Type} (store : Store (Prog Exn σ)),
      (fronted artifacts store).record_checkpoint = store.record_checkpoint ∧
        (fronted artifacts store).append = store.append := by
    intro σ store
    cases artifacts <;> exact ⟨rfl, rfl⟩
  constructor
  · rw [atomic_iff id (hfront memory_store).1 (hfront memory_store).2, persist_fronted _ rfl rfl rfl]
    refine or_congr_right (or_congr_right ?_)
    cases hcap : captured artifacts checkpoint.val intent.val with
    | error e => exact iff_of_true (kept_of_same rfl) (fun _ heq => by cases heq)
    | ok enriched =>
      have heffect := memory_persist h (wf_captured checkpoint.property hcap) intent.property once
      simp only [Except.ok.injEq, forall_eq']
      by_cases hh : Halves h enriched intent.val once
      · obtain ⟨e, t, hrun, hne⟩ := heffect.halved hh
        rw [hrun]
        exact ⟨fun heq => absurd heq hne, fun hn => absurd hh hn.1⟩
      by_cases hr : Records h.journal enriched intent.val once
      · obtain ⟨t, hrun, hne⟩ := heffect.written hr
        rw [hrun]
        exact ⟨fun hcr => ⟨hh, fun hboth => hne (hcr hboth.2)⟩,
          fun hn hcr => absurd ⟨hr, hcr⟩ hn.2⟩
      · exact ⟨fun _ => ⟨hh, fun hboth => hr hboth.1⟩,
          fun _ => kept_of_same (heffect.unchanged hh hr)⟩
  · rw [atomic_iff Prod.fst (hfront sqlite_store).1 (hfront sqlite_store).2,
      persist_fronted sqlite_store rfl rfl rfl]
    refine or_congr_right (or_congr_right ?_)
    cases hcap : captured artifacts checkpoint.val intent.val with
    | error e => exact iff_of_true (kept_of_same rfl) (.inr fun _ heq => by cases heq)
    | ok enriched =>
      simp only [Except.ok.injEq, forall_eq', sqlite_persist]
      by_cases hhead : refusals.head? = some true
      · -- The database refuses the write, so nothing is recorded.
        obtain ⟨rest, rfl⟩ := List.head?_eq_some_iff.mp hhead
        refine ⟨fun _ => .inl rfl, fun _ => kept_of_same ?_⟩
        exact exec_refused (gated_last_write enriched intent.val once) answer_unrefused _ rest
      obtain ⟨hwrites, hkeeps⟩ := gated_accepted (j := h.journal)
        (wf_captured checkpoint.property hcap) intent.property once hhead
      by_cases hr : Records h.journal enriched intent.val once
      · obtain ⟨t, hne, hrun⟩ := hwrites hr
        rw [hrun]
        refine ⟨fun hcr => .inr fun hboth => hne (hcr hboth.2), fun hn hcr => ?_⟩
        exact absurd ⟨hr, hcr⟩ (hn.resolve_left hhead)
      · exact ⟨fun _ => .inr fun hboth => hr hboth.1, fun _ => kept_of_same (hkeeps hr)⟩

/-- Every memory a sequence of calls leaves is held: it mirrors some journal. -/
theorem reached_held (calls : List StoreCall) :
    ∃ j, Mirrors (calls.foldl (fun store call => (store.serve call).2) Memory.empty) j := by
  have hstep : ∀ (store : Memory) (j : Journal) (call : StoreCall), Mirrors store j →
      ∃ j', Mirrors (store.serve call).2 j' := by
    intro store j call h
    cases call with
    | append event =>
      obtain ⟨j', -, hm⟩ := append_mirrors h event.property
      exact ⟨j', hm⟩
    | record_checkpoint checkpoint =>
      obtain ⟨j', -, hm⟩ := record_checkpoint_mirrors h checkpoint.property
      exact ⟨j', hm⟩
    | record_checkpoint_and_intent_once checkpoint intent =>
      -- The call stops before it writes, or it is the other two calls in a row.
      unfold Memory.serve Memory.record_checkpoint_and_intent_once
      simp only
      split
      · exact ⟨j, h⟩
      · split_ifs
        · exact ⟨j, h⟩
        · obtain ⟨j', -, hm⟩ := record_checkpoint_mirrors h checkpoint.property
          rcases hr : store.record_checkpoint checkpoint.val with ⟨e | n, store'⟩
          · exact ⟨j', by simpa [hr] using hm⟩
          · rw [hr] at hm
            obtain ⟨j'', -, hm'⟩ := append_mirrors hm intent.property
            exact ⟨j'', hm'⟩
    | check_result_causality result => exact ⟨j, h⟩
  suffices hgen : ∀ (calls : List StoreCall) (store : Memory) (j : Journal), Mirrors store j →
      ∃ j', Mirrors (calls.foldl (fun store call => (store.serve call).2) store) j' from
    hgen calls _ _ mirrors_empty
  intro calls
  induction calls with
  | nil => exact fun store j h => ⟨j, h⟩
  | cons call rest ih =>
    intro store j h
    obtain ⟨j', h'⟩ := hstep store j call h
    exact ih _ j' h'

/-- A memory that holds the sample event. -/
def sample_store : Memory := (Memory.empty.append sample_event.val).2

theorem sample_store_events : sample_store.events.docs = [sample_event.val] ∧
    sample_store.events.digests = [(.text "event-1", digest sample_event.val)] ∧
    sample_store.checkpoints = ⟨[], []⟩ := by
  have hd : Checked event_kind sample_event.val :=
    ⟨sample_event.property, by decide +kernel, by decide +kernel⟩
  rw [sample_store, Memory.append_checked _ hd]
  exact ⟨rfl, rfl, rfl⟩

/-- The sample checkpoint is recorded in it. -/
theorem sample_checkpoint_recorded :
    ∃ store', sample_store.record_checkpoint sample_checkpoint.val = (.ok 0, store') ∧
      store'.events = sample_store.events ∧ store'.checkpoints.docs = [sample_checkpoint.val] := by
  obtain ⟨hdocs, -, hcheckpoints⟩ := sample_store_events
  have hd : Checked checkpoint_kind sample_checkpoint.val :=
    ⟨sample_checkpoint.property, by decide +kernel, by decide +kernel⟩
  have hc : check_checkpoint sample_store.events.docs sample_checkpoint.val = .ok 0 := by
    rw [hdocs]
    decide +kernel
  refine ⟨{ sample_store with checkpoints := ⟨[sample_checkpoint.val],
    [(.text "checkpoint-1", digest sample_checkpoint.val)]⟩ }, ?_, rfl, rfl⟩
  rw [sample_store.record_checkpoint_checked hc hd, Shelf.record, hcheckpoints]
  rfl

/-- An in-memory gate is refused for an empty intent and leaves the checkpoint
it had recorded. -/
theorem refused_gate_keeps_its_checkpoint :
    ∃ e t, (gate memory_store sample_checkpoint.val (.obj []) (some (pure ())) false none).exec
        ⟨sample_store, 0⟩ = (.error e, t) ∧ e.cls = .PreDispatchError ∧ t.calls = 0 ∧
      sample_store.checkpoints.docs = [] ∧ t.state.checkpoints.docs = [sample_checkpoint.val] := by
  obtain ⟨store', hrecord, -, hdocs⟩ := sample_checkpoint_recorded
  obtain ⟨e, hv, hclass⟩ : ∃ e, validate (.obj []) EVENT_SCHEMA = .error e ∧
      e.is_any store_classes = true := ⟨_, rfl, by decide +kernel⟩
  have happend : store'.append (.obj []) = (.error e, store') := by simp [Memory.append, hv]
  have hgate := gate_exec memory_store rfl rfl sample_checkpoint.val (.obj [])
    (pure () : Prog Exn Memory Unit) false none sample_store
  have hpersist : (persist memory_store (fun doc => .of (·.record_checkpoint doc))
      (fun doc => .of (·.append doc)) sample_checkpoint.val (.obj []) false).exec sample_store =
      (.error e, store') := by
    simp only [persist, memory_store, Bool.false_eq_true, if_false, Prog.exec_bind, Prog.exec_of,
      hrecord, happend]
  rw [hpersist] at hgate
  refine ⟨_, _, hgate, ?_, rfl, by rw [sample_store_events.2.2], hdocs⟩
  rw [gate_error, if_pos hclass]
  rfl

/-! ## What the error proves -/

/-- The classes an exception of the call must not have for the error to be a
proof: its own, and in one-shot mode those the gate turns into it. -/
def confusing_classes (once : Bool) : List ExnClass :=
  if once then .PreDispatchError :: store_classes else [.PreDispatchError]

/-- What the gate makes of an exception is a refusal in two ways only. -/
theorem gate_error_refuses (e : Exn) :
    (gate_error e).cls.is_a .PreDispatchError = true ↔
      e.is_any (.PreDispatchError :: store_classes) = true := by
  unfold gate_error
  by_cases h : e.is_any store_classes = true
  · rw [if_pos h]
    refine ⟨fun _ => ?_, fun _ => rfl⟩
    rw [Exn.is_any, List.any_cons, Bool.or_eq_true]
    exact .inr h
  · rw [if_neg h, Exn.is_any, List.any_cons, Bool.or_eq_true]
    exact ⟨.inl, fun hor => hor.resolve_right h⟩

/-- The gate gets as far as the call: both records are made, the callback takes
them, and the call finds the state `t`. -/
def Reaches {σ : Type} (store : Store (Prog Exn σ)) (checkpoint intent : Json) (once : Bool)
    (callback : Option (Arg (ℕ → Prog Exn σ Unit))) (s t : σ) : Prop :=
  ∃ record_checkpoint append f cursor, store.record_checkpoint = some record_checkpoint ∧
    store.append = some append ∧ callback = Option.map Arg.of f ∧
    (recorded store record_checkpoint append checkpoint intent once f).exec s = (.ok cursor, t)

/-- What the gate makes of an exception of the call reads as a refusal for the
confusing classes only. -/
theorem raised_refuses (once : Bool) (e : Exn) :
    (if once then gate_error e else e).cls.is_a .PreDispatchError = true ↔
      e.is_any (confusing_classes once) = true := by
  cases once with
  | true => exact gate_error_refuses e
  | false => simp [confusing_classes, Exn.is_any]

/-- A gate that reaches the call makes it once, in the state it finds. -/
theorem gate_reached {σ α : Type} {store : Store (Prog Exn σ)} {checkpoint intent : Json} {once : Bool}
    {callback : Option (Arg (ℕ → Prog Exn σ Unit))} {s t : σ}
    (h : Reaches store checkpoint intent once callback s t) (call : Prog Exn σ α) :
    ∃ cursor, (gate store checkpoint intent (some call) once callback).exec ⟨s, 0⟩ =
      match call.exec t with
      | (.ok value, u) => (.ok (cursor, value), ⟨u, 1⟩)
      | (.error e, u) => (.error (if once then gate_error e else e), ⟨u, 1⟩) := by
  obtain ⟨record_checkpoint, append, f, cursor, hr, ha, rfl, hrec⟩ := h
  refine ⟨cursor, ?_⟩
  rw [gate_present _ hr ha, record_and_dispatch_exec, Prog.exec_silent, hrec]
  simp only [Prog.exec_counted]
  rcases call.exec t with ⟨e | value, u⟩ <;> rfl

/-- **When `PreDispatchError` proves that the callable was not invoked**: exactly
where the gate does not get as far as the call, or the call, in the state it
finds, raises no exception that reads as a refusal. -/
theorem pre_dispatch_error_iff {σ α : Type} (store : Store (Prog Exn σ)) (checkpoint intent : Json)
    (dispatch : Option (Prog Exn σ α)) (once : Bool)
    (callback : Option (Arg (ℕ → Prog Exn σ Unit))) (s : σ) :
    (∀ (e : Exn) (t : Counted σ),
        (gate store checkpoint intent dispatch once callback).exec ⟨s, 0⟩ = (.error e, t) →
          e.cls.is_a .PreDispatchError = true → t.calls = 0) ↔
      ∀ call t e, dispatch = some call → Reaches store checkpoint intent once callback s t →
        (call.exec t).1 = .error e → ¬ e.is_any (confusing_classes once) = true := by
  constructor
  · rintro hproof call t e rfl hreaches hraise hclass
    obtain ⟨cursor, hgate⟩ := gate_reached hreaches call
    rcases hcall : call.exec t with ⟨e' | value, u⟩
    · rw [hcall] at hgate hraise
      obtain rfl : e' = e := Except.error.inj hraise
      exact absurd (hproof _ _ hgate ((raised_refuses once e').mpr hclass)) Nat.one_ne_zero
    · rw [hcall] at hraise
      cases hraise
  · intro hclean e t hgate hclass
    rcases gate_cases store checkpoint intent dispatch once callback with
      ⟨message, hthrow⟩ | ⟨record_checkpoint, append, call, f, hr, ha, rfl, rfl⟩
    · rw [hthrow, Prog.exec_throw] at hgate
      obtain ⟨-, rfl⟩ := Prod.mk.inj hgate
      rfl
    rcases hrec : (recorded store record_checkpoint append checkpoint intent once f).exec s with
      ⟨e' | cursor, u⟩
    · rw [gate_present _ hr ha, record_and_dispatch_exec, Prog.exec_silent, hrec] at hgate
      obtain ⟨-, rfl⟩ := Prod.mk.inj hgate
      rfl
    · -- The call is reached: what it raises does not read as a refusal.
      have hreaches : Reaches store checkpoint intent once (Option.map Arg.of f) s u :=
        ⟨record_checkpoint, append, f, cursor, hr, ha, rfl, hrec⟩
      obtain ⟨cursor', hrun⟩ := gate_reached hreaches call
      rw [hrun] at hgate
      rcases hcall : call.exec u with ⟨e'' | value, v⟩ <;> rw [hcall] at hgate
      · obtain ⟨hexn, -⟩ := Prod.mk.inj hgate
        rw [← Except.error.inj hexn, raised_refuses] at hclass
        exact absurd hclass (hclean call u e'' rfl hreaches (by rw [hcall]))
      · cases (Prod.mk.inj hgate).1

/-- An intent after the sample event. -/
def sample_intent : PyValue :=
  ⟨.obj
    [(.text "schema_version", .int 1), (.text "event_id", .str (.text "event-2")),
      (.text "event_type", .str (.text "tool_requested")),
      (.text "process_id", .str (.text "process-1")), (.text "run_id", .str (.text "run-1")),
      (.text "branch_id", .str (.text "branch-1")), (.text "task_id", .str (.text "task-1")),
      (.text "agent_id", .str (.text "agent-1")), (.text "sequence", .int 1),
      (.text "occurred_at", .str (.text "2026-01-01T00:00:00Z")),
      (.text "recorded_at", .str (.text "2026-01-01T00:00:00Z")),
      (.text "classification", .str (.text "internal")),
      (.text "redaction_status", .str (.text "complete"))],
    by simp [Json.wf, Json.wf_fields]⟩

/-- A one-shot gate of the in-memory store calls, and reports the contract error
of the call as a refusal before it. -/
theorem one_shot_gate_hides_a_call :
    ∃ e t, (gate memory_store sample_checkpoint.val sample_intent.val
        (some (throw (contract_error "downstream") : Prog Exn Memory Unit)) true none).exec
        ⟨sample_store, 0⟩ = (.error e, t) ∧ e.cls = .PreDispatchError ∧ t.calls = 1 := by
  obtain ⟨store', hrecord, hevents, -⟩ := sample_checkpoint_recorded
  have hd : Checked event_kind sample_intent.val :=
    ⟨sample_intent.property, by decide +kernel, by decide +kernel⟩
  have hnew : ¬ Repeated sample_store sample_intent.val := by
    rintro ⟨id, hid, hlookup⟩
    obtain rfl : PyStr.text "event-2" = id := by
      have hget : str_item sample_intent.val "event_id" = .ok (.text "event-2") := by decide +kernel
      exact Except.ok.inj (hget.symm.trans hid)
    rw [sample_store_events.2.1] at hlookup
    exact nomatch hlookup
  obtain ⟨cursor, store'', happend⟩ :
      ∃ cursor store'', store'.append sample_intent.val = (.ok cursor, store'') := by
    have hlookup : store'.events.digests.lookup (.text (event_kind.id sample_intent.val)) = none := by
      rw [hevents, sample_store_events.2.1]
      decide +kernel
    rw [Memory.append_checked _ hd, Shelf.record, hlookup]
    exact ⟨_, _, rfl⟩
  have hpersist : (persist memory_store (fun doc => .of (·.record_checkpoint doc))
      (fun doc => .of (·.append doc)) sample_checkpoint.val sample_intent.val true).exec sample_store =
      (.ok cursor, store'') := by
    have hcall := Memory.once_new sample_store sample_checkpoint.val hd.valid hnew
    rw [hrecord] at hcall
    exact hcall.trans happend
  -- the call stands inside the `try`, so what it raises is refused like a recording failure
  have hgate := gate_exec memory_store rfl rfl sample_checkpoint.val sample_intent.val
    (throw (contract_error "downstream") : Prog Exn Memory Unit) true none sample_store
  rw [hpersist] at hgate
  exact ⟨_, _, hgate, by decide, rfl⟩

end AppContracts.GatedDispatch
