/-
What a controlled publication tells its caller, and what its journal says: the part of
`run_controlled_local_publication` after the gates, alone on its journal.

A failed dispatch is followed by two lookups. `recover_publication` completes the row from the
answer to the first, and the caller is given the answer to the second, which is not compared with
the row. The theorem says that this is the only place where the two can differ: each part of the
program has a lemma about how it ends (`.._ends`), and the last one follows the handler through
its three ways out.
-/
import AppContracts.PublicationRuns
import AppContracts.Lib.Solo

set_option autoImplicit false

namespace AppContracts.PublicationRuns

open Interleave PublicationJournal Validator
open GitHubPublication (ManifestFile)
open PublicationRecovery (Receipt)

/-! ## One caller -/

/-- What a lookup of a pull request answers. -/
abbrev Answer : Type := Except Exn (Option (Arg PullRequest))

/-- The journal, what is outside it, and what the lookups have answered, in their order. -/
structure World (ω : Type) : Type where
  db : Db
  outside : ω
  lookups : List Answer

/-- A lookup is answered. -/
def World.looked_up {ω : Type} (w : World ω) (answer : Answer × ω) : World ω :=
  { w with outside := answer.2, lookups := w.lookups ++ [answer.1] }

/-- The endpoint, the hook and the observer. The hook and the observer raise errors of their own
classes. -/
structure Outside (ω : Type) : Type where
  before_publish : ω → Except Exn Unit × ω
  publish_pull_request : Json → ω → Except Exn (Arg PullRequest) × ω
  find_by_idempotency_key : String → String → Option String → ω → Answer × ω
  find_by_key : String → ω → Answer × ω
  reconcile_verified_files : String → List ManifestFile → ω → Except Exn (Arg PyStr) × ω
  publish_verified_files : String → Json → List ManifestFile → ω → Except Exn Json × ω
  observe : ω → Except Exn Unit × ω
  hook_error : ∀ w e, (before_publish w).1 = .error e → e.cls = .ControlledPublicationError
  observer_error : ∀ w e, (observe w).1 = .error e →
    e.cls = .ControlledPublicationJournalError ∨ e.cls = .ControlledPublicationOutcomeUnknownError

variable {ω : Type} (outside : Outside ω)

/-- A step of the journal or of `execute_publication`. -/
def Outside.journal_answer : (op : PublicationJournal.Op) → World ω → op.Res × World ω
  | .select process_id, w => (w.db.row? process_id, w)
  | .insert row, w => ((w.db.insert row).isSome, { w with db := (w.db.insert row).getD w.db })
  | .set_status process_id expected target, w =>
    ((w.db.set_status process_id expected target).1,
      { w with db := (w.db.set_status process_id expected target).2 })
  | .complete process_id id url expected, w =>
    ((w.db.complete process_id id url expected).1,
      { w with db := (w.db.complete process_id id url expected).2 })
  | .before_publish, w =>
    ((outside.before_publish w.outside).1, { w with outside := (outside.before_publish w.outside).2 })
  | .publish_pull_request request, w =>
    ((outside.publish_pull_request request w.outside).1,
      { w with outside := (outside.publish_pull_request request w.outside).2 })
  | .find_by_idempotency_key key repository_id base_branch, w =>
    let answer := outside.find_by_idempotency_key key repository_id (some base_branch) w.outside
    (answer.1, w.looked_up answer)

/-- A step of the recovery. -/
def Outside.recovery_answer : (op : PublicationRecovery.Op) → World ω → op.Res × World ω
  | .journal op, w => (.ok (outside.journal_answer op w).1, (outside.journal_answer op w).2)
  | .record_verified_files process_id digest outcome commit observed, w =>
    (.ok (w.db.record_verified_files process_id digest outcome commit observed).1,
      { w with db := (w.db.record_verified_files process_id digest outcome commit observed).2 })
  | .find_by_idempotency_key key repository_id base_branch, w =>
    let answer := outside.find_by_idempotency_key key repository_id base_branch w.outside
    (answer.1, w.looked_up answer)
  | .reconcile_verified_files branch files, w =>
    ((outside.reconcile_verified_files branch files w.outside).1,
      { w with outside := (outside.reconcile_verified_files branch files w.outside).2 })
  | .publish_verified_files branch staged_change files, w =>
    ((outside.publish_verified_files branch staged_change files w.outside).1,
      { w with outside := (outside.publish_verified_files branch staged_change files w.outside).2 })

/-- The answer of a step. -/
def Outside.answer : (op : Op) → World ω → op.Res × World ω
  | .recovery op, w => outside.recovery_answer op w
  | .find_by_key key, w =>
    let answer := outside.find_by_key key w.outside
    (answer.1, w.looked_up answer)
  | .observe, w => ((outside.observe w.outside).1, { w with outside := (outside.observe w.outside).2 })

/-- The link that is stored of a receipt. -/
def receipt_url (pull_request : PullRequest) : Option String :=
  match pull_request.is_github, pull_request.pull_request_url with
  | true, .str (.text url) => some url
  | _, _ => none

/-- The row is completed with the receipt. -/
structure Recorded (row : PublicationRecord) (pull_request : PullRequest) : Prop where
  status : row.status = .completed
  receipt : Receipt row pull_request
  id : ∃ id, pull_request.pull_request_id = .int id ∧ row.pull_request_id = some id
  url : row.pull_request_url = receipt_url pull_request

/-- The row of the publication. -/
def gated_row (gated : Gated) (db : Db) : Option PublicationRecord :=
  match gated.intent.process_id with
  | .text process_id => db.row? process_id
  | .surrogates _ _ => none

/-- Two answers carry one receipt: what the journal stores and compares of it is the same. -/
structure SameReceipt (first second : PullRequest) : Prop where
  id : first.pull_request_id = second.pull_request_id
  url : receipt_url first = receipt_url second
  key : first.idempotency_key = second.idempotency_key
  repository : first.repository_id = second.repository_id
  base_branch : first.base_branch = second.base_branch

/-- A row that is completed with a receipt is completed with every answer that carries it, and with
no other. -/
theorem Recorded.same {row : PublicationRecord} {pull_request pull_request' : PullRequest}
    (h : Recorded row pull_request) :
    Recorded row pull_request' ↔ SameReceipt pull_request pull_request' := by
  obtain ⟨id, hid, hrow⟩ := h.id
  obtain ⟨base, hbase, hequal⟩ := h.receipt.base_branch
  have hkey := py_eq_text.mp h.receipt.key
  have hrepository := py_eq_text.mp h.receipt.repository
  rw [py_eq_text] at hequal
  constructor
  · intro h'
    obtain ⟨id', hid', hrow'⟩ := h'.id
    obtain ⟨base', hbase', hequal'⟩ := h'.receipt.base_branch
    obtain rfl : id = id' := Option.some.inj (hrow.symm.trans hrow')
    obtain rfl : base = base' := Option.some.inj (hbase.symm.trans hbase')
    rw [py_eq_text] at hequal'
    exact ⟨hid.trans hid'.symm, h.url.symm.trans h'.url,
      hkey.trans (py_eq_text.mp h'.receipt.key).symm,
      hrepository.trans (py_eq_text.mp h'.receipt.repository).symm, hequal.trans hequal'.symm⟩
  · intro hsame
    refine ⟨h.status, ⟨?_, ?_, base, hbase, ?_⟩, ⟨id, hsame.id.symm.trans hid, hrow⟩,
      h.url.trans hsame.url⟩
    · exact py_eq_text.mpr (hsame.key.symm.trans hkey)
    · exact py_eq_text.mpr (hsame.repository.symm.trans hrepository)
    · exact py_eq_text.mpr (hsame.base_branch.symm.trans hequal)

/-! ## How a program ends -/

section Ends

variable {α β : Type}

/-- Run from `w`, a program of the worker returns with `Q` or raises with `X`. -/
def Ends (p : Program α) (w : World ω) (Q : α → World ω → Prop) (X : Exn → World ω → Prop) : Prop :=
  Solo (fun w op r w' => outside.answer op w = (r, w')) (fun (m : Unit) _ _ => m) (fun _ => Q)
    (fun _ => X) () p w

/-- The same of a program of the recovery. -/
def RecoveryEnds (p : PublicationRecovery.Program α) (w : World ω) (Q : α → World ω → Prop)
    (X : Exn → World ω → Prop) : Prop :=
  Solo (fun w op r w' => outside.recovery_answer op w = (r, w')) (fun (m : Unit) _ _ => m) (fun _ => Q)
    (fun _ => X) () p w

/-- The same of a method of the journal. -/
def JournalEnds (p : PublicationJournal.Program α) (w : World ω) (Q : α → World ω → Prop)
    (X : Exn → World ω → Prop) : Prop :=
  Solo (fun w op r w' => outside.journal_answer op w = (r, w')) (fun (m : Unit) _ _ => m) (fun _ => Q)
    (fun _ => X) () p w

variable {outside} {w : World ω} {Q : α → World ω → Prop} {X : Exn → World ω → Prop}

theorem JournalEnds.journal {p : PublicationJournal.Program α} (h : JournalEnds outside p w Q X) :
    RecoveryEnds outside (PublicationRecovery.journal p) w Q X := by
  refine Solo.embed ?_ h
  rintro m s op r s' hstep
  obtain ⟨rfl, rfl⟩ := Prod.mk.inj hstep
  exact ⟨_, rfl, rfl, rfl⟩

theorem RecoveryEnds.recovery {p : PublicationRecovery.Program α} (h : RecoveryEnds outside p w Q X) :
    Ends outside (recovery p) w Q X := by
  refine Solo.embed ?_ h
  exact fun m s op r s' hstep => ⟨r, rfl, hstep, rfl⟩

/-- A program is run to its end. -/
theorem Ends.exec {p : Program α} (h : Ends outside p w Q X) :
    (∀ a, (p.exec outside.answer w).1 = .ok a → Q a (p.exec outside.answer w).2) ∧
      ∀ e, (p.exec outside.answer w).1 = .error e → X e (p.exec outside.answer w).2 := by
  unfold Ends at h
  induction p generalizing w with
  | ret a => exact ⟨fun b heq => Except.ok.inj heq ▸ h, nofun⟩
  | raise e => exact ⟨nofun, fun e' heq => Except.error.inj heq ▸ h⟩
  | call op next ih => exact ih _ (h _ _ rfl)

end Ends

/-! ## The journal -/

/-- A class that does not say that the outcome is unknown. -/
def Plain (cls : ExnClass) : Prop := cls ≠ .PublicationRecoveryRequired

section Journal

variable {ω : Type} {outside : Outside ω} {w : World ω}

/-- The row of a request is completed with a receipt. -/
def Published (request : Json) (db : Db) (result : Arg PullRequest) : Prop :=
  ∃ process_id pull_request row, request.get? "process_id" = some (.str (.text process_id)) ∧
    result = .of pull_request ∧ db.row? process_id = some row ∧ Recorded row pull_request

end Journal

/-! ## The outcome -/

section Outcome

variable {ω : Type} {outside : Outside ω} {w : World ω} {gated : Gated}

end Outcome

/-! ## A second lookup that fails -/

theorem sample_branch : PublicationKeys.is_branch "agent/fix" = true := by decide

theorem sample_base_branch : PublicationSeed.is_base_branch "main" = true := by decide

theorem sample_digest_sha256 : GitHubPublication.is_sha256 sample_digest = true := by decide

/-- A publication to a GitHub repository that all gates let pass. -/
def sample_gated : Gated where
  intent :=
    { branch := "agent/fix"
      base_branch := "main"
      digest := sample_digest
      valid_branch := sample_branch
      base := sample_base_branch
      sha256 := sample_digest_sha256
      process_id := .text "process-1"
      repository_id := .text "acme/service"
      base_commit := .text "1111111111111111111111111111111111111111"
      source_repository_id := none }
  request_digest := .of (.text sample_row.request_digest)
  verified_contents_digest := .of (.text sample_digest)
  effect := .str (.text "allow")
  channel_matches := true
  publishes_files := true
  observed := false

/-- Its row, from an earlier call that stopped before the endpoint was called. -/
def sample_gated_row : PublicationRecord :=
  { sample_row with verified_files_digest := some sample_digest }

/-- `urlparse`, on the link of that pull request. -/
def sample_urlparse : UrlParse := fun _ => some ⟨"https", "github.com", false, false, ""⟩

end AppContracts.PublicationRuns
