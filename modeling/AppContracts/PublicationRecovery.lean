/-
Reconciliation after a restart: `recover_publication` of `publication.py` and
`reconcile_controlled_attempt_after_restart` of `controlled_publication.py`.

A reconciler looks an unfinished attempt up with the provider. It completes the row
from a receipt, or it compares the verified files with the branch and records what
it found. It never publishes. Any number of reconcilers may work on one journal,
each may stop anywhere, a transaction may fail, and the channel answers what it
likes.

A reconciler compares a receipt with a row it read before, and another one may have moved
the row since. `Knows` is what survives: the row it read is an earlier state of the row that
is there now, and no step changes what the comparison was about (`Receipt.later`). One
lemma says what a step does to a row (`step_row`), one that every step of the program is
allowed by what it has seen (`reconcile_keeps`); the run theorem is an induction over the
steps from these two.
-/
import AppContracts.PublicationKeys
import AppContracts.SnapshotContents
import AppContracts.Lib.UtcTime

set_option autoImplicit false

namespace AppContracts.PublicationJournal

/-! ## Evidence in the table -/

/-- The update of `record_verified_file_reconciliation`. -/
def Db.record_verified_files (db : Db) (process_id manifest_digest outcome : String)
    (branch_commit_sha : Option String) (observed : String) : ℕ × Db :=
  (db.count process_id .reconciliation_required,
    db.update (where_status process_id .reconciliation_required fun row =>
        { row with
          verified_files_digest := some manifest_digest
          verified_files_outcome := some outcome
          verified_branch_commit_sha := branch_commit_sha
          verified_files_observed_at := some observed })
      (fun row => by unfold where_status; split_ifs <;> rfl)
      (fun row => by unfold where_status; split_ifs <;> rfl))

theorem row?_record_verified_files (db : Db) (process_id id manifest_digest outcome : String)
    (branch_commit_sha : Option String) (observed : String) :
    (db.record_verified_files id manifest_digest outcome branch_commit_sha observed).2.row? process_id =
      (db.row? process_id).map (where_status id .reconciliation_required fun row =>
        { row with
          verified_files_digest := some manifest_digest
          verified_files_outcome := some outcome
          verified_branch_commit_sha := branch_commit_sha
          verified_files_observed_at := some observed }) :=
  row?_update (fun row => by unfold where_status; split_ifs <;> rfl)
    (fun row => by unfold where_status; split_ifs <;> rfl) process_id

end AppContracts.PublicationJournal

namespace AppContracts.PublicationRecovery

open Interleave PublicationJournal Validator
open GitHubPublication (ManifestFile safe_manifest_path is_sha256)
open GitHubSnapshot (is_oid)

/-! ## Steps -/

/-- The steps of a reconciliation: the transactions of the journal, the update with
the evidence, and the calls of the channel. `publish_verified_files` is the method
that no reconciliation calls. -/
inductive Op : Type
  | journal (op : PublicationJournal.Op)
  | record_verified_files (process_id manifest_digest outcome : String)
      (branch_commit_sha : Option String) (observed : String)
  | find_by_idempotency_key (idempotency_key repository_id : String) (base_branch : Option String)
  | reconcile_verified_files (branch : String) (files : List ManifestFile)
  | publish_verified_files (branch : String) (staged_change : Json) (files : List ManifestFile)

/-- The answers of a step. A transaction that fails changes nothing. -/
abbrev Op.Res : Op → Type
  | .journal op => Except Exn op.Res
  | .record_verified_files _ _ _ _ _ => Except Exn ℕ
  | .find_by_idempotency_key _ _ _ => Except Exn (Option (Arg PullRequest))
  | .reconcile_verified_files _ _ => Except Exn (Arg PyStr)
  | .publish_verified_files _ _ _ => Except Exn Json

/-- Code of the reconciliation. -/
abbrev Program (α : Type) : Type := Prog Op Op.Res Exn α

/-- A method of the journal. -/
def journal {α : Type} (p : PublicationJournal.Program α) : Program α := p.embed Op.journal fun _ r => r

/-- A step that may raise. -/
def attempt {α : Type} (p : Program (Except Exn α)) : Program α := do
  let answer ← p
  Prog.lift answer

/-- The transactions of one journal, and a channel that answers anything. -/
inductive Sem : Semantics Op Op.Res Db
  | select (db : Db) (process_id : String) :
      Sem db (.journal (.select process_id)) (.ok (db.row? process_id)) db
  | insert (db : Db) (row : PublicationRecord) :
      Sem db (.journal (.insert row)) (.ok (db.insert row).isSome) ((db.insert row).getD db)
  | set_status (db : Db) (process_id : String) (expected target : Status) :
      Sem db (.journal (.set_status process_id expected target))
        (.ok (db.set_status process_id expected target).1) (db.set_status process_id expected target).2
  | complete (db : Db) (process_id : String) (id : ℤ) (url : Option String) (expected : Status) :
      Sem db (.journal (.complete process_id id url expected))
        (.ok (db.complete process_id id url expected).1) (db.complete process_id id url expected).2
  | publish_pull_request (db : Db) (request : Json) (answer : Except Exn (Arg PullRequest)) :
      Sem db (.journal (.publish_pull_request request)) (.ok answer) db
  | journal_failed (db : Db) (op : PublicationJournal.Op) (e : Exn) : Sem db (.journal op) (.error e) db
  | record_verified_files (db : Db) (process_id manifest_digest outcome : String)
      (branch_commit_sha : Option String) (observed : String) :
      Sem db (.record_verified_files process_id manifest_digest outcome branch_commit_sha observed)
        (.ok (db.record_verified_files process_id manifest_digest outcome branch_commit_sha observed).1)
        (db.record_verified_files process_id manifest_digest outcome branch_commit_sha observed).2
  | record_failed (db : Db) (process_id manifest_digest outcome : String)
      (branch_commit_sha : Option String) (observed : String) (e : Exn) :
      Sem db (.record_verified_files process_id manifest_digest outcome branch_commit_sha observed)
        (.error e) db
  | find_by_idempotency_key (db : Db) (key repository_id : String) (base_branch : Option String)
      (answer : Except Exn (Option (Arg PullRequest))) :
      Sem db (.find_by_idempotency_key key repository_id base_branch) answer db
  | reconcile_verified_files (db : Db) (branch : String) (files : List ManifestFile)
      (answer : Except Exn (Arg PyStr)) : Sem db (.reconcile_verified_files branch files) answer db
  | publish_verified_files (db : Db) (branch : String) (staged_change : Json)
      (files : List ManifestFile) (answer : Except Exn Json) :
      Sem db (.publish_verified_files branch staged_change files) answer db

/-! ## Arguments -/

/-- The fields of a `PublicationSeed` that a reconciliation reads. -/
structure PublicationSeed : Type where
  process_id : PyStr
  repository_id : PyStr
  base_commit : PyStr
  staged_change_digest : String
  verified_contents_digest : String
  source_repository_id : Option PyStr

/-- `PublicationIntent`. -/
structure PublicationIntent extends PublicationKeys.Intent where
  process_id : PyStr
  repository_id : PyStr
  base_commit : PyStr
  source_repository_id : Option PyStr

/-- A `datetime` with a time zone: its equivalent in UTC, `none` where no `datetime`
can name it. -/
abbrev Clock : Type := Option { d : Datetime // d.IsUtc }

/-- The arguments of a reconciliation: `.other` is one of another type than the
source asks for, for the channel one that is not registered. -/
structure Call : Type where
  seed : Arg PublicationSeed
  intent : Arg PublicationIntent
  verified_files : Arg (List (Arg ManifestFile))
  journal : Arg Unit
  channel : Arg Unit
  now : Arg Clock

/-- `ControlledPublicationError("controlled publication: " + message)`. -/
def controlled_error (message : String) : Exn :=
  ⟨.ControlledPublicationError, "controlled publication: " ++ message⟩

/-- `PublicationRecoveryRequired("publication recovery required")`. -/
def recovery_required : Exn := ⟨.PublicationRecoveryRequired, "publication recovery required"⟩

/-- `type(value) is ..`. -/
def of_type {α : Type} (value : Arg α) (message : String) : Except Exn α :=
  match value with
  | .of a => .ok a
  | .other => .error (controlled_error message)

/-- `value.astimezone(timezone.utc)`. -/
def astimezone (value : Clock) : Except Exn { d : Datetime // d.IsUtc } :=
  match value with
  | some utc => .ok utc
  | none => .error ⟨.OverflowError, "date value out of range"⟩

/-- `_require_clock(now)`. -/
def _require_clock (now : Arg Clock) : Except Exn { d : Datetime // d.IsUtc } := do
  let now ← of_type now "clock is invalid"
  astimezone now

/-- One round of the loop of `_validate_verified_files`. -/
def verified_file (item : Arg ManifestFile) : Except Exn (PyStr × String) := do
  let item ← of_type item "verified file manifest is invalid"
  let path ← of_type item.path "verified file manifest is invalid"
  raise_if (safe_manifest_path path = false) (controlled_error "verified file manifest is invalid")
  let content ← of_type item.content "verified file manifest is invalid"
  let content ← bind_text content
  raise_if (item.content_digest ≠ .of (.text (sha256_bytes (utf8_bytes content))))
    (controlled_error "verified file manifest is invalid")
  return (path, content)

/-- `sha256_digest(tuple(contents))`. -/
def contents_digest (contents : List (PyStr × String)) : Except Exn String :=
  sha256_digest (.arr (contents.map fun item => .arr [.str item.1, .str (.text item.2)]))

/-- The files of a manifest. -/
def manifest_of (files : List (Arg ManifestFile)) : List ManifestFile :=
  files.filterMap fun item => match item with
    | .of file => some file
    | .other => none

/-- `_validate_verified_files(seed, files)`. -/
def _validate_verified_files (seed : PublicationSeed) (files : Arg (List (Arg ManifestFile))) :
    Except Exn (List ManifestFile) := do
  let files ← of_type files "verified file manifest is invalid"
  raise_if (files = []) (controlled_error "verified file manifest is invalid")
  let contents ← files.mapM verified_file
  raise_if (¬ ((contents.map Prod.fst).Nodup ∧ (contents.map Prod.fst).Pairwise PyStr.le))
    (controlled_error "verified file digest mismatch")
  let digest ← contents_digest contents
  raise_if (digest ≠ seed.verified_contents_digest) (controlled_error "verified file digest mismatch")
  return manifest_of files

/-- `_require_seed_intent_binding(seed, intent)`. -/
def _require_seed_intent_binding (seed : PublicationSeed) (intent : PublicationIntent) :
    Except Exn Unit :=
  raise_if (seed.process_id ≠ intent.process_id ∨ seed.repository_id ≠ intent.repository_id ∨
      seed.source_repository_id ≠ intent.source_repository_id ∨
      seed.base_commit ≠ intent.base_commit ∨ seed.staged_change_digest ≠ intent.digest)
    (controlled_error "seed binding mismatch")

/-- The arguments that passed the checks. -/
structure Checked : Type where
  seed : PublicationSeed
  intent : PublicationIntent
  manifest : List ManifestFile
  moment : { d : Datetime // d.IsUtc }

/-- The seed and the intent, if they are of their types. -/
def typed_binding (c : Call) : Except Exn (PublicationSeed × PublicationIntent) :=
  match c.seed, c.intent with
  | .of seed, .of intent => .ok (seed, intent)
  | _, _ => .error (controlled_error "recovery binding is invalid")

/-- The checks of the arguments. -/
def check_call (c : Call) : Except Exn Checked := do
  let binding ← typed_binding c
  of_type c.journal "local journal is required"
  of_type c.channel "GitHub channel type is required"
  let moment ← _require_clock c.now
  let manifest ← _validate_verified_files binding.1 c.verified_files
  _require_seed_intent_binding binding.1 binding.2
  return ⟨binding.1, binding.2, manifest, moment⟩

/-! ## The lookup -/

/-- `channel.find_by_idempotency_key(..)` with the fields of a record. -/
def find_receipt (record : PublicationRecord) : Program (Option (Arg PullRequest)) :=
  attempt (Prog.perform (Op.find_by_idempotency_key record.idempotency_key record.repository_id
    record.base_branch))

/-- `recover_publication` for a row that is attempting. -/
def recover_attempting (urlparse : UrlParse) (process_id : Arg PyStr) (record : PublicationRecord) :
    Program PublicationRecord := do
  let external ← find_receipt record
  match external with
  | some external => do
    journal (mark_completed urlparse process_id external)
    journal (get process_id)
  | none => do
    journal (mark_reconciliation_required process_id)
    throw recovery_required

/-- `recover_publication(journal, endpoint, process_id)`. -/
def recover_publication (urlparse : UrlParse) (process_id : Arg PyStr) : Program PublicationRecord := do
  let record ← journal (get process_id)
  match record.status with
  | .completed => return record
  | .prepared => return record
  | .reconciliation_required => throw recovery_required
  | .attempting =>
    if record.base_branch = none ∨ record.base_branch = some "" then do
      journal (mark_reconciliation_required process_id)
      throw recovery_required
    else recover_attempting urlparse process_id record

/-- The row after `recover_publication` has raised. -/
def reread (process_id : Arg PyStr) : Program PublicationRecord := do
  let record ← journal (get process_id)
  if record.status = .attempting then do
    journal (mark_reconciliation_required process_id)
    journal (get process_id)
  else return record

/-- The row of an attempt after its lookup. -/
def recovered (urlparse : UrlParse) (process_id : Arg PyStr) : Program PublicationRecord :=
  (recover_publication urlparse process_id).handle fun _ =>
    (reread process_id).handle fun _ => throw recovery_required

/-- `is_registered_provider_adapter_type(type(receipt), "receipt")`. -/
def is_receipt (receipt : Option (Arg PullRequest)) : Bool :=
  match receipt with
  | some (.of pull_request) => pull_request.is_github
  | _ => false

/-- The completed row, if the provider has the receipt. -/
def complete_from_receipt (urlparse : UrlParse) (process_id : Arg PyStr)
    (receipt : Option (Arg PullRequest)) : Program (Option PublicationRecord) :=
  match receipt with
  | none => return none
  | some pull_request =>
    if is_receipt (some pull_request) then do
      journal (mark_completed_from_reconciliation urlparse process_id pull_request)
      let record ← journal (get process_id)
      return some record
    else return none

/-- The lookup for a row that requires reconciliation: whatever fails is passed. -/
def look_up (urlparse : UrlParse) (process_id : Arg PyStr) (record : PublicationRecord) :
    Program (Option PublicationRecord) :=
  (do
    let receipt ← find_receipt record
    complete_from_receipt urlparse process_id receipt : Program _).handle fun _ => return none

/-! ## The evidence -/

/-- `re.fullmatch(r"[0-9a-f]{40}", value)`. -/
def commit_of (value : Arg PyStr) : Option String :=
  match value with
  | .of (.text commit) => if is_oid commit then some commit else none
  | _ => none

/-- `ValueError("publication reconciliation evidence is invalid")`. -/
def invalid_evidence : Exn := value_error "publication reconciliation evidence is invalid"

/-- The digest, the outcome and the commit that `record_verified_file_reconciliation`
stores. -/
def check_evidence (record : PublicationRecord) (manifest_digest outcome : Arg PyStr)
    (branch_commit_sha : Option (Arg PyStr)) : Except Exn (String × String × Option String) :=
  match manifest_digest, outcome with
  | .of (.text digest), .of (.text outcome) => do
    raise_if (is_sha256 digest = false ∨ some digest ≠ record.verified_files_digest ∨
      outcome ∉ ["verified", "unverified"]) invalid_evidence
    if outcome = "verified" then
      match branch_commit_sha.bind commit_of with
      | some commit => .ok (digest, outcome, some commit)
      | none => .error invalid_evidence
    else if branch_commit_sha = none then .ok (digest, outcome, none)
    else .error invalid_evidence
  | _, _ => .error invalid_evidence

/-- `record_verified_file_reconciliation(process_id, manifest_digest=..,
outcome=.., branch_commit_sha=.., observed_at=..)`. -/
def record_verified_file_reconciliation (process_id manifest_digest outcome : Arg PyStr)
    (branch_commit_sha : Option (Arg PyStr)) (observed_at : Arg Clock) : Program Unit := do
  let record ← journal (get process_id)
  Prog.lift (raise_if (record.status ≠ .reconciliation_required)
    (value_error "publication is not awaiting reconciliation"))
  let (digest, outcome, commit) ←
    Prog.lift (check_evidence record manifest_digest outcome branch_commit_sha)
  let observed_at ← Prog.lift (match observed_at with
    | .of observed_at => astimezone observed_at
    | .other => .error invalid_evidence)
  let rowcount ← attempt (Prog.perform (Op.record_verified_files record.process_id digest outcome commit
    observed_at.1.format_utc))
  Prog.lift (raise_if (rowcount ≠ 1) (value_error "publication is not awaiting reconciliation"))

/-- `reconcile_verified_manifest(channel, branch=branch, files=manifest)`; a registered
channel has the method. -/
def branch_commit (branch : String) (manifest : List ManifestFile) : Program (Option String) :=
  (do
    let answer ← attempt (Prog.perform (Op.reconcile_verified_files branch manifest))
    return commit_of answer : Program _).handle fun _ => return none

/-- The part that compares the files and records the evidence. -/
def record_files (checked : Checked) : Program PublicationRecord := do
  let commit ← branch_commit checked.intent.branch checked.manifest
  let outcome := if commit.isSome then "verified" else "unverified"
  (do
    record_verified_file_reconciliation (.of checked.intent.process_id)
      (.of (.text checked.seed.verified_contents_digest)) (.of (.text outcome))
      (commit.map fun commit => .of (.text commit)) (.of (some checked.moment))
    journal (get (.of checked.intent.process_id)) : Program _).handle fun _ =>
      throw (controlled_error "recovery evidence could not be persisted")

/-! ## Reconciliation -/

/-- `journal.get(intent.process_id)`, bound to the arguments. -/
def bound_record (checked : Checked) : Program PublicationRecord := do
  let record ← (journal (get (.of checked.intent.process_id))).handle fun _ =>
    throw (controlled_error "recovery record is unavailable")
  Prog.lift (raise_if (record.idempotency_key ≠ checked.intent.key ∨
      .text record.repository_id ≠ checked.intent.repository_id ∨
      record.verified_files_digest ≠ some checked.seed.verified_contents_digest)
    (controlled_error "recovery binding mismatch"))
  return record

/-- A row that was attempting. -/
def after_recovery (checked : Checked) (record : PublicationRecord) : Program PublicationRecord :=
  if record.status = .completed then return record
  else if record.status ≠ .reconciliation_required then throw recovery_required
  else record_files checked

/-- A row that required reconciliation. -/
def after_lookup (checked : Checked) (found : Option PublicationRecord) : Program PublicationRecord :=
  match found with
  | some record => return record
  | none => record_files checked

/-- `reconcile_controlled_attempt_after_restart(seed, intent, verified_files, journal,
channel, now=now)`. -/
def reconcile_controlled_attempt_after_restart (urlparse : UrlParse) (c : Call) :
    Program PublicationRecord := do
  let checked ← Prog.lift (check_call c)
  let record ← bound_record checked
  let process_id := Arg.of checked.intent.process_id
  match record.status with
  | .completed => return record
  | .prepared => throw recovery_required
  | .attempting => do
    let record ← recovered urlparse process_id
    after_recovery checked record
  | .reconciliation_required => do
    let found ← look_up urlparse process_id record
    after_lookup checked found

/-! ## What a reconciler has seen -/

/-- A step and its answer. -/
abbrev Event : Type := Σ op : Op, op.Res

/-- What a reconciler has seen so far. -/
def seen (past : List Event) (op : Op) (r : op.Res) : List Event := past ++ [⟨op, r⟩]

/-- The row of a process was read. -/
def Read (past : List Event) (process_id : String) (row : PublicationRecord) : Prop :=
  row.process_id = process_id ∧ ∃ asked, ⟨.journal (.select asked), .ok (some row)⟩ ∈ past

/-- The provider was asked and has the receipt. -/
def Found (past : List Event) (pull_request : PullRequest) : Prop :=
  ∃ key repository_id base_branch,
    ⟨.find_by_idempotency_key key repository_id base_branch, .ok (some (.of pull_request))⟩ ∈ past

/-- The receipt is that of the row: its key, its repository and its base branch. -/
structure Receipt (row : PublicationRecord) (pull_request : PullRequest) : Prop where
  key : py_eq pull_request.idempotency_key (.str (.text row.idempotency_key)) = true
  repository : py_eq pull_request.repository_id (.str (.text row.repository_id)) = true
  base_branch : ∃ base, row.base_branch = some base ∧
    py_eq pull_request.base_branch (.str (.text base)) = true

/-- The files of a branch were compared with a manifest of this digest, and the
answer was the commit. -/
def Compared (past : List Event) (branch digest commit : String) : Prop :=
  ∃ files contents, files.mapM verified_file = .ok contents ∧ contents_digest contents = .ok digest ∧
    ⟨.reconcile_verified_files branch (manifest_of files), .ok (.of (.text commit))⟩ ∈ past

/-- What a reconciler that has seen `past` may do next. -/
def allowed (c : Call) (past : List Event) : Op → Prop
  | .journal (.select _) => True
  | .journal (.set_status _ expected target) => expected = .attempting ∧ target =
    .reconciliation_required
  | .journal (.complete process_id id _ expected) =>
    (expected = .attempting ∨ expected = .reconciliation_required) ∧
      ∃ row pull_request, Read past process_id row ∧ Found past pull_request ∧
        Receipt row pull_request ∧ pull_request.pull_request_id = .int id
  | .record_verified_files process_id digest outcome commit _ =>
    ∃ row, Read past process_id row ∧ row.verified_files_digest = some digest ∧
      (outcome = "verified" → ∃ sha intent, commit = some sha ∧ is_oid sha = true ∧
        c.intent = .of intent ∧ Compared past intent.branch digest sha)
  | .find_by_idempotency_key _ _ _ => True
  | .reconcile_verified_files _ _ => True
  | _ => False

/-- A later state of a row: what binds it is the same, and a row that is prepared or
completed is the same row. -/
structure Later (row row' : PublicationRecord) : Prop where
  idempotency_key : row'.idempotency_key = row.idempotency_key
  repository_id : row'.repository_id = row.repository_id
  base_branch : row'.base_branch = row.base_branch
  verified_files_digest : row'.verified_files_digest = row.verified_files_digest
  settled : row.status = .completed ∨ row.status = .prepared → row' = row

theorem Later.refl (row : PublicationRecord) : Later row row := ⟨rfl, rfl, rfl, rfl, fun _ => rfl⟩

theorem Later.trans {a b c : PublicationRecord} (hab : Later a b) (hbc : Later b c) : Later a c where
  idempotency_key := hbc.idempotency_key.trans hab.idempotency_key
  repository_id := hbc.repository_id.trans hab.repository_id
  base_branch := hbc.base_branch.trans hab.base_branch
  verified_files_digest := hbc.verified_files_digest.trans hab.verified_files_digest
  settled := fun h => by
    obtain rfl := hab.settled h
    exact hbc.settled h

/-- Every row has a later state in the journal. -/
def Onward (db db' : Db) : Prop :=
  ∀ process_id row, db.row? process_id = some row → ∃ row', db'.row? process_id = some row' ∧
    Later row row'

/-- What was read is an earlier state of what is stored. -/
def Knows (past : List Event) (db : Db) : Prop :=
  ∀ process_id row, Read past process_id row → ∃ row', db.row? process_id = some row' ∧ Later row row'

theorem Knows.onward {past : List Event} {db db' : Db} (h : Knows past db) (hon : Onward db db') :
    Knows past db' := by
  intro process_id row hread
  obtain ⟨mid, hmid, hlater⟩ := h process_id row hread
  obtain ⟨row', hrow', hlater'⟩ := hon process_id mid hmid
  exact ⟨row', hrow', hlater.trans hlater'⟩

/-- A row is stored under its process. -/
theorem row?_process_id {db : Db} {process_id : String} {row : PublicationRecord}
    (h : db.row? process_id = some row) : row.process_id = process_id := by
  simpa using List.find?_some h

/-- An update of the rows in a status leaves a row alone, or finds it in that status. -/
theorem row?_where {db db' : Db} {id process_id : String} {expected : Status}
    {f : PublicationRecord → PublicationRecord} {row : PublicationRecord}
    (hupdate : db'.row? process_id = (db.row? process_id).map (where_status id expected f))
    (hrow : db.row? process_id = some row) :
    db'.row? process_id = some row ∨
      id = process_id ∧ row.status = expected ∧ db'.row? process_id = some (f row) := by
  rw [hrow, Option.map_some, where_status] at hupdate
  by_cases hcond : row.process_id = id ∧ row.status = expected
  · rw [if_pos hcond] at hupdate
    exact .inr ⟨hcond.1.symm.trans (row?_process_id hrow), hcond.2, hupdate⟩
  · rw [if_neg hcond] at hupdate
    exact .inl hupdate

/-- What one step of a reconciler that has seen `past` may make of a row. -/
inductive Moved (c : Call) (past : List Event) (row : PublicationRecord) : PublicationRecord → Prop
  | same : Moved c past row row
  | required (h : row.status = .attempting) :
    Moved c past row { row with status := .reconciliation_required }
  | completed (pull_request : PullRequest) (id : ℤ) (url : Option String)
      (hstatus : row.status = .attempting ∨ row.status = .reconciliation_required)
      (hfound : Found past pull_request) (hreceipt : Receipt row pull_request)
      (hid : pull_request.pull_request_id = .int id) :
      Moved c past row
        { row with status := .completed, pull_request_id := some id, pull_request_url := url }
  | recorded (digest outcome : String) (commit : Option String) (observed : String)
      (hstatus : row.status = .reconciliation_required)
        (hdigest : row.verified_files_digest = some digest)
      (hverified : outcome = "verified" → ∃ sha intent, commit = some sha ∧ is_oid sha = true ∧
        c.intent = .of intent ∧ Compared past intent.branch digest sha) :
      Moved c past row
        { row with
          verified_files_digest := some digest
          verified_files_outcome := some outcome
          verified_branch_commit_sha := commit
          verified_files_observed_at := some observed }

theorem Moved.later {c : Call} {past : List Event} {row row' : PublicationRecord}
    (h : Moved c past row row') : Later row row' := by
  cases h with
  | same => exact Later.refl row
  | required hstatus => exact ⟨rfl, rfl, rfl, rfl, fun h => by simp [hstatus] at h⟩
  | completed pull_request id url hstatus =>
    exact ⟨rfl, rfl, rfl, rfl, fun h => by rcases hstatus with hs | hs <;> simp [hs] at h⟩
  | recorded digest outcome commit observed hstatus hdigest =>
    exact ⟨rfl, rfl, rfl, hdigest.symm, fun h => by simp [hstatus] at h⟩

theorem Receipt.later {row row' : PublicationRecord} {pull_request : PullRequest}
    (h : Receipt row pull_request) (hlater : Later row row') : Receipt row' pull_request where
  key := by rw [hlater.idempotency_key]; exact h.key
  repository := by rw [hlater.repository_id]; exact h.repository
  base_branch := by rw [hlater.base_branch]; exact h.base_branch

/-- **What one step does to a row.** -/
theorem step_row {c : Call} {past : List Event} {db db' : Db} {op : Op} {r : op.Res}
    (hknows : Knows past db) (hallowed : allowed c past op) (hsem : Sem db op r db')
    {process_id : String} {row : PublicationRecord} (hrow : db.row? process_id = some row) :
    ∃ row', db'.row? process_id = some row' ∧ Moved c past row row' := by
  cases hsem with
  | set_status _ id expected target =>
    obtain ⟨rfl, rfl⟩ := hallowed
    rcases row?_where (row?_set_status ..) hrow with hsame | ⟨-, hstatus, hnew⟩
    · exact ⟨row, hsame, .same⟩
    · exact ⟨_, hnew, .required hstatus⟩
  | complete _ id number url expected =>
    obtain ⟨hexpected, old, pull_request, hread, hfound, hreceipt, hid⟩ := hallowed
    rcases row?_where (row?_complete db process_id id number url expected) hrow with hsame | ⟨rfl,
      rfl, hnew⟩
    · exact ⟨row, hsame, .same⟩
    · -- The receipt was compared with an earlier state of the row.
      obtain ⟨row', hrow', hlater⟩ := hknows id old hread
      obtain rfl : row' = row := Option.some.inj (hrow'.symm.trans hrow)
      exact ⟨_, hnew, .completed pull_request number url hexpected hfound (hreceipt.later hlater) hid⟩
  | record_verified_files _ id digest outcome commit observed =>
    obtain ⟨old, hread, hdigest, hverified⟩ := hallowed
    have hupdate := row?_record_verified_files db process_id id digest outcome commit observed
    rcases row?_where hupdate hrow with hsame | ⟨rfl, hstatus, hnew⟩
    · exact ⟨row, hsame, .same⟩
    · obtain ⟨row', hrow', hlater⟩ := hknows id old hread
      obtain rfl : row' = row := Option.some.inj (hrow'.symm.trans hrow)
      have hdigest' : row'.verified_files_digest = some digest :=
        hlater.verified_files_digest.trans hdigest
      exact ⟨_, hnew, .recorded digest outcome commit observed hstatus hdigest' hverified⟩
  | insert row => exact absurd hallowed id
  | publish_pull_request request answer => exact absurd hallowed id
  | publish_verified_files => exact absurd hallowed id
  | select => exact ⟨row, hrow, .same⟩
  | journal_failed => exact ⟨row, hrow, .same⟩
  | record_failed => exact ⟨row, hrow, .same⟩
  | find_by_idempotency_key => exact ⟨row, hrow, .same⟩
  | reconcile_verified_files => exact ⟨row, hrow, .same⟩

theorem step_onward {c : Call} {past : List Event} {db db' : Db} {op : Op} {r : op.Res}
    (hknows : Knows past db) (hallowed : allowed c past op) (hsem : Sem db op r db') :
      Onward db db' := by
  intro process_id row hrow
  obtain ⟨row', hrow', hmoved⟩ := step_row hknows hallowed hsem hrow
  exact ⟨row', hrow', hmoved.later⟩

/-- A read that found a row. -/
theorem Sem.read {db db' : Db} {op : Op} {r : op.Res} (hsem : Sem db op r db') {asked : String}
    {row : PublicationRecord} (h : (⟨op, r⟩ : Event) = ⟨.journal (.select asked), .ok (some row)⟩) :
    db.row? asked = some row ∧ db' = db := by
  obtain ⟨hop, hr⟩ := Sigma.mk.inj h
  cases hsem with
  | select id =>
    cases hop
    exact ⟨Except.ok.inj (eq_of_heq hr), rfl⟩
  | journal_failed op e =>
    cases hop
    cases eq_of_heq hr
  | _ => cases hop

/-- A reconciler knows what it has read. -/
theorem step_knows {c : Call} {past : List Event} {db db' : Db} {op : Op} {r : op.Res}
    (hknows : Knows past db) (hallowed : allowed c past op) (hsem : Sem db op r db') :
    Knows (seen past op r) db' := by
  rintro process_id row ⟨hid, asked, hmem⟩
  rcases List.mem_append.mp hmem with hmem | hmem
  · exact hknows.onward (step_onward hknows hallowed hsem) process_id row ⟨hid, asked, hmem⟩
  · obtain ⟨hstored, rfl⟩ := hsem.read (List.mem_singleton.mp hmem).symm
    rw [← hid, row?_process_id hstored]
    exact ⟨row, hstored, Later.refl row⟩

/-! ## What a reconciler does -/

section Keeps

variable {α β : Type} {c : Call} {past : List Event}

/-- Every step of a program is allowed by what was seen before it. -/
abbrev Keeps (c : Call) (Q : List Event → α → Prop) (past : List Event) (p : Program α) : Prop :=
  Obeys seen (allowed c) Q (fun _ _ => True) past p

/-- The same of a method of the journal. -/
abbrev JournalKeeps (c : Call) (Q : List Event → α → Prop) (past : List Event)
    (p : PublicationJournal.Program α) : Prop :=
  Obeys (fun past op r => seen past (.journal op) (.ok r))
    (fun past op => allowed c past (.journal op)) Q
    (fun _ _ => True) past p

theorem JournalKeeps.journal {Q : List Event → α → Prop} {p : PublicationJournal.Program α}
    (h : JournalKeeps c Q past p) : Keeps c Q past (journal p) := by
  show Obeys seen (allowed c) Q (fun _ _ => True) past (Prog.embed Op.journal (fun _ r => r) p)
  refine Obeys.embed ?_ ?_ ?_ h
  · rintro past op r answer rfl
    rfl
  · exact fun past op hallowed => hallowed
  · exact fun _ _ _ _ _ => trivial

/-- A check that passes. -/
theorem keeps_lift {Op' : Type} {Res' : Op' → Type} {M : Type} {δ : M → (op : Op') → Res' op → M}
    {allowed' : M → Op' → Prop} {m : M} {Q : M → β → Prop} {x : Except Exn α}
    {f : α → Prog Op' Res' Exn β} (h : ∀ a, x = .ok a → Obeys δ allowed' Q (fun _ _ => True) m (f a)) :
    Obeys δ allowed' Q (fun _ _ => True) m ((Prog.lift x).bind f) :=
  Obeys.bind (Obeys.lift h fun _ _ => trivial)

/-- A handler that is fine whatever was seen. -/
theorem keeps_handle {Q : List Event → α → Prop} {p : Program α} {handler : Exn → Program α}
    (hp : Keeps c Q past p) (hh : ∀ past e, Keeps c Q past (handler e)) :
    Keeps c Q past (p.handle handler) :=
  Obeys.handle (hp.mono (fun _ _ h => h) fun past e _ => hh past e)

theorem get_keeps (process_id : Arg PyStr) :
    JournalKeeps c (fun past' row => ∃ asked, process_id = .of (.text asked) ∧
      past' = seen past (.journal (.select asked)) (.ok (some row))) past (get process_id) := by
  refine keeps_lift fun id hid => keeps_lift fun asked hasked => ⟨trivial, fun row => ?_⟩
  have hprocess : process_id = .of (.text asked) := by
    rw [(PublicationKeys.nonempty_str_ok.mp hid).1]
    cases id with
    | text s => rw [Except.ok.inj hasked]
    | surrogates codes lone => cases hasked
  cases row with
  | some row => exact ⟨asked, hprocess, rfl⟩
  | none => trivial

theorem mark_keeps (process_id : Arg PyStr) :
    JournalKeeps c (fun _ _ => True) past (mark_reconciliation_required process_id) := by
  refine keeps_lift fun id hid => keeps_lift fun asked hasked => ⟨⟨rfl, rfl⟩, fun count => ?_⟩
  exact Obeys.lift (fun _ _ => trivial) fun _ _ => trivial

theorem Found.seen {pull_request : PullRequest} (h : Found past pull_request) (op : Op) (r : op.Res) :
    Found (seen past op r) pull_request := by
  obtain ⟨key, repository_id, base_branch, hmem⟩ := h
  exact ⟨key, repository_id, base_branch, List.mem_append_left _ hmem⟩

theorem receipt_matches_ok {row : PublicationRecord} {pull_request : PullRequest}
    (h : receipt_matches row pull_request = .ok ()) : Receipt row pull_request := by
  unfold receipt_matches at h
  split at h
  · obtain ⟨expected_key, -, h⟩ := bind_ok.mp h
    rw [raise_if_ok] at h
    push Not at h
    obtain ⟨-, hkey, hrepository, base, hbase, hsame⟩ := h
    exact ⟨by simpa using hkey, by simpa using hrepository, base, hbase, hsame⟩
  · cases h

/-- **An accepted receipt is that of its row.** -/
theorem check_receipt_ok {urlparse : UrlParse} {row : PublicationRecord} {receipt : Arg PullRequest}
    {id : ℤ} {url : Option PyStr} (h : check_receipt urlparse row receipt = .ok (id, url)) :
    ∃ pull_request, receipt = .of pull_request ∧ Receipt row pull_request ∧
      pull_request.pull_request_id = .int id := by
  unfold check_receipt at h
  cases receipt with
  | other => cases h
  | of pull_request =>
    simp only [bind_ok, exists_unit, raise_if_ok, pure, Except.pure] at h
    obtain ⟨number, hnumber, -, -, hmatches, hpair⟩ := h
    obtain ⟨rfl, -⟩ := Prod.mk.inj (Except.ok.inj hpair)
    refine ⟨pull_request, rfl, receipt_matches_ok hmatches, ?_⟩
    unfold receipt_id at hnumber
    split at hnumber
    · split_ifs at hnumber
      rwa [← Except.ok.inj hnumber]
    · cases hnumber

theorem mark_completed_keeps {urlparse : UrlParse} {receipt : Arg PullRequest} {expected : Status}
    (hfound : ∀ pull_request, receipt = .of pull_request → Found past pull_request)
    (hexpected : expected = .attempting ∨ expected = .reconciliation_required)
    (process_id : Arg PyStr) :
    JournalKeeps c (fun _ _ => True) past (_mark_completed urlparse process_id receipt expected) := by
  refine Obeys.bind ((get_keeps process_id).mono ?_ fun _ _ _ => trivial)
  rintro past' row ⟨asked, -, rfl⟩
  refine keeps_lift fun _ _ => keeps_lift fun checked hchecked => ?_
  obtain ⟨id, url⟩ := checked
  obtain ⟨pull_request, hreceipt, hrow, hid⟩ := check_receipt_ok hchecked
  refine keeps_lift fun url _ => ⟨⟨hexpected, row, pull_request, ⟨rfl, asked, ?_⟩, ?_, hrow, hid⟩, ?_⟩
  · exact List.mem_append_right _ (List.mem_singleton_self _)
  · exact (hfound pull_request hreceipt).seen _ _
  · exact fun count => Obeys.lift (fun _ _ => trivial) fun _ _ => trivial

/-- The last step read the row of the intent's process. -/
def LastRead (c : Call) (past : List Event) (row : PublicationRecord) : Prop :=
  ∃ intent front asked, c.intent = .of intent ∧ intent.process_id = .text asked ∧
    past = front ++ [⟨.journal (.select asked), .ok (some row)⟩]

variable {intent : PublicationIntent} (hintent : c.intent = .of intent)

include hintent

theorem read_keeps : Keeps c (LastRead c) past (journal (get (.of intent.process_id))) := by
  refine ((get_keeps _).journal).mono ?_ fun _ _ _ => trivial
  rintro past' row ⟨asked, hasked, rfl⟩
  exact ⟨intent, past, asked, hintent, Arg.of.inj hasked, rfl⟩

omit hintent in
theorem find_keeps (record : PublicationRecord) :
    Keeps c (fun past' receipt => ∀ pull_request, receipt = some (.of pull_request) →
      Found past' pull_request) past (find_receipt record) := by
  refine Obeys.bind ⟨trivial, fun answer => Obeys.lift (fun receipt hanswer => ?_) fun _ _ => trivial⟩
  rintro pull_request rfl
  subst hanswer
  exact ⟨_, _, _, List.mem_append_right _ (List.mem_singleton_self _)⟩

theorem recover_attempting_keeps {urlparse : UrlParse} (record : PublicationRecord) :
    Keeps c (LastRead c) past (recover_attempting urlparse (.of intent.process_id) record) := by
  refine Obeys.bind ((find_keeps record).mono (fun past' receipt hfound => ?_) fun _ _ _ => trivial)
  cases receipt with
  | some receipt =>
    have hmark : JournalKeeps c (fun _ _ => True) past'
      (mark_completed urlparse (.of intent.process_id) receipt) :=
      mark_completed_keeps (fun pull_request heq => hfound pull_request (heq ▸ rfl)) (.inl rfl) _
    exact Obeys.bind (hmark.journal.mono (fun _ _ _ => read_keeps hintent) fun _ _ _ => trivial)
  | none => exact Obeys.bind ((mark_keeps _).journal.mono (fun _ _ _ => trivial) fun _ _ _ => trivial)

theorem recover_keeps {urlparse : UrlParse} :
    Keeps c (LastRead c) past (recover_publication urlparse (.of intent.process_id)) := by
  refine Obeys.bind ((read_keeps hintent).mono (fun past' record hread => ?_) fun _ _ _ => trivial)
  cases record.status with
  | completed => exact hread
  | prepared => exact hread
  | reconciliation_required => trivial
  | attempting =>
    show Keeps c (LastRead c) past' (ite _ _ _)
    split_ifs
    · exact Obeys.bind ((mark_keeps _).journal.mono (fun _ _ _ => trivial) fun _ _ _ => trivial)
    · exact recover_attempting_keeps hintent record

theorem reread_keeps : Keeps c (LastRead c) past (reread (.of intent.process_id)) := by
  refine Obeys.bind ((read_keeps hintent).mono (fun past' record hread => ?_) fun _ _ _ => trivial)
  show Keeps c (LastRead c) past' (ite _ _ _)
  split_ifs
  · exact Obeys.bind ((mark_keeps _).journal.mono
      (fun _ _ _ => read_keeps hintent) fun _ _ _ => trivial)
  · exact hread

theorem recovered_keeps {urlparse : UrlParse} :
    Keeps c (LastRead c) past (recovered urlparse (.of intent.process_id)) :=
  keeps_handle (recover_keeps hintent) fun _ _ =>
    keeps_handle (reread_keeps hintent) fun _ _ => trivial

theorem complete_keeps {urlparse : UrlParse} {receipt : Option (Arg PullRequest)}
    (hfound : ∀ pull_request, receipt = some (.of pull_request) → Found past pull_request) :
    Keeps c (fun past' found => ∀ row, found = some row → LastRead c past' row) past
      (complete_from_receipt urlparse (.of intent.process_id) receipt) := by
  unfold complete_from_receipt
  cases receipt with
  | none => rintro row ⟨⟩
  | some receipt =>
    show Keeps c _ past (ite _ _ _)
    split_ifs
    · have hmark : JournalKeeps c (fun _ _ => True) past
          (mark_completed_from_reconciliation urlparse (.of intent.process_id) receipt) :=
        mark_completed_keeps (fun pull_request heq => hfound pull_request (heq ▸ rfl)) (.inr rfl) _
      refine Obeys.bind (hmark.journal.mono (fun past₁ _ _ => ?_) fun _ _ _ => trivial)
      refine Obeys.bind ((read_keeps hintent).mono (fun past₂ row hread => ?_) fun _ _ _ => trivial)
      rintro _ ⟨⟩
      exact hread
    · rintro row ⟨⟩

theorem look_up_keeps {urlparse : UrlParse} (record : PublicationRecord) :
    Keeps c (fun past' found => ∀ row, found = some row → LastRead c past' row) past
      (look_up urlparse (.of intent.process_id) record) := by
  refine keeps_handle ?_ fun _ _ => by rintro row ⟨⟩
  exact Obeys.bind ((find_keeps record).mono (fun past' receipt hfound => complete_keeps hintent hfound)
    fun _ _ _ => trivial)

omit hintent in
/-- The channel's answer, if it is a commit. -/
theorem branch_commit_keeps {branch : String} {files : List (Arg ManifestFile)} {digest : String}
    {contents : List (PyStr × String)} (hfiles : files.mapM verified_file = .ok contents)
    (hdigest : contents_digest contents = .ok digest) :
    Keeps c (fun past' commit => ∀ sha, commit = some sha → is_oid sha = true ∧
      Compared past' branch digest sha) past (branch_commit branch (manifest_of files)) := by
  refine keeps_handle (Obeys.bind (Obeys.bind ⟨trivial,
    fun answer => Obeys.lift (fun value hanswer => ?_)
    fun _ _ => trivial⟩)) fun _ _ => by rintro sha ⟨⟩
  rintro sha hsha
  subst hanswer
  unfold commit_of at hsha
  split at hsha
  · split_ifs at hsha with hoid
    obtain rfl := Option.some.inj hsha
    exact ⟨hoid, files, contents, hfiles, hdigest, List.mem_append_right _ (List.mem_singleton_self _)⟩
  · cases hsha

omit hintent in
theorem commit_of_ok {value : Arg PyStr} {sha : String} (h : commit_of value = some sha) :
    value = .of (.text sha) ∧ is_oid sha = true := by
  unfold commit_of at h
  split at h
  · split_ifs at h with hoid
    obtain rfl := Option.some.inj h
    exact ⟨rfl, hoid⟩
  · cases h

omit hintent in
/-- **Accepted evidence** has the digest of the row, and a commit if it says that the
files were verified. -/
theorem check_evidence_ok {record : PublicationRecord} {digest : String} {outcome : Arg PyStr}
    {value : Option (Arg PyStr)} {evidence : String × String × Option String}
    (h : check_evidence record (.of (.text digest)) outcome value = .ok evidence) :
    evidence.1 = digest ∧ record.verified_files_digest = some digest ∧
      (evidence.2.1 = "verified" → ∃ sha, value.bind commit_of = some sha ∧ evidence.2.2 =
        some sha) := by
  unfold check_evidence at h
  split at h
  · rename_i d o hd
    obtain rfl := PyStr.text.inj (Arg.of.inj hd)
    obtain ⟨⟨⟩, hguard, h⟩ := bind_ok.mp h
    rw [raise_if_ok] at hguard
    push Not at hguard
    obtain ⟨-, hdigest, -⟩ := hguard
    split_ifs at h with hverified hnone
    · split at h
      · rename_i sha hsha
        obtain rfl := Except.ok.inj h
        exact ⟨rfl, hdigest.symm, fun _ => ⟨sha, hsha, rfl⟩⟩
      · cases h
    · obtain rfl := Except.ok.inj h
      exact ⟨rfl, hdigest.symm, fun heq => absurd heq hverified⟩
  · cases h

omit hintent in
theorem Compared.seen {branch digest sha : String} (h : Compared past branch digest sha) (op : Op)
    (r : op.Res) : Compared (seen past op r) branch digest sha := by
  obtain ⟨files, contents, hfiles, hdigest, hmem⟩ := h
  exact ⟨files, contents, hfiles, hdigest, List.mem_append_left _ hmem⟩

theorem record_keeps {digest : String} {value : Option (Arg PyStr)}
    (hvalue : ∀ sha, value.bind commit_of = some sha → is_oid sha = true ∧
      Compared past intent.branch digest sha)
    (process_id outcome : Arg PyStr) (observed_at : Arg Clock) :
    Keeps c (fun _ _ => True) past (record_verified_file_reconciliation process_id (.of (.text digest))
      outcome value observed_at) := by
  refine Obeys.bind ((get_keeps process_id).journal.mono ?_ fun _ _ _ => trivial)
  rintro past' row ⟨asked, -, rfl⟩
  refine keeps_lift fun _ _ => keeps_lift fun evidence hevidence => ?_
  obtain ⟨digest', outcome', commit⟩ := evidence
  obtain ⟨hsame, hrow, hverified⟩ := check_evidence_ok hevidence
  dsimp only at hsame hverified
  subst hsame
  refine keeps_lift fun moment _ => Obeys.bind
    (Obeys.bind ⟨⟨row, ⟨rfl, asked, ?_⟩, hrow, fun houtcome => ?_⟩,
    fun answer => Obeys.lift (fun _ _ => ?_) fun _ _ => trivial⟩)
  · exact List.mem_append_right _ (List.mem_singleton_self _)
  · obtain ⟨sha, hsha, hcommit⟩ := hverified houtcome
    obtain ⟨hoid, hcompared⟩ := hvalue sha hsha
    exact ⟨sha, intent, hcommit, hoid, hintent, hcompared.seen _ _⟩
  · exact Obeys.lift (fun _ _ => trivial) fun _ _ => trivial

omit hintent in
theorem typed_binding_ok {binding : PublicationSeed × PublicationIntent}
    (h : typed_binding c = .ok binding) : c.intent = .of binding.2 := by
  unfold typed_binding at h
  split at h
  · rename_i hintent
    rw [← Except.ok.inj h, hintent]
  · cases h

omit hintent in
/-- A manifest that passed has the digest of the seed. -/
theorem validate_verified_files_ok {seed : PublicationSeed} {files : Arg (List (Arg ManifestFile))}
    {manifest : List ManifestFile} (h : _validate_verified_files seed files = .ok manifest) :
    ∃ items contents, manifest = manifest_of items ∧ items.mapM verified_file = .ok contents ∧
      contents_digest contents = .ok seed.verified_contents_digest := by
  unfold _validate_verified_files at h
  obtain ⟨items, -, h⟩ := bind_ok.mp h
  obtain ⟨-, -, h⟩ := bind_ok.mp h
  obtain ⟨contents, hcontents, h⟩ := bind_ok.mp h
  obtain ⟨-, -, h⟩ := bind_ok.mp h
  obtain ⟨digest, hdigest, h⟩ := bind_ok.mp h
  obtain ⟨⟨⟩, hsame, h⟩ := bind_ok.mp h
  rw [raise_if_ok, not_not] at hsame
  rw [hsame] at hdigest
  exact ⟨items, contents, (Except.ok.inj h).symm, hcontents, hdigest⟩

omit hintent in
/-- The arguments that passed: the manifest is that of the seed. -/
theorem check_call_ok {checked : Checked} (h : check_call c = .ok checked) :
    c.intent = .of checked.intent ∧ ∃ files contents, checked.manifest = manifest_of files ∧
      files.mapM verified_file = .ok contents ∧
      contents_digest contents = .ok checked.seed.verified_contents_digest := by
  unfold check_call at h
  obtain ⟨binding, hbinding, h⟩ := bind_ok.mp h
  obtain ⟨-, -, h⟩ := bind_ok.mp h
  obtain ⟨-, -, h⟩ := bind_ok.mp h
  obtain ⟨moment, -, h⟩ := bind_ok.mp h
  obtain ⟨manifest, hmanifest, h⟩ := bind_ok.mp h
  obtain ⟨-, -, h⟩ := bind_ok.mp h
  obtain rfl := Except.ok.inj h
  exact ⟨typed_binding_ok hbinding, validate_verified_files_ok hmanifest⟩

omit hintent in
theorem record_files_keeps {checked : Checked} (hcall : check_call c = .ok checked) :
    Keeps c (LastRead c) past (record_files checked) := by
  obtain ⟨hintent, files, contents, hmanifest, hfiles, hdigest⟩ := check_call_ok hcall
  unfold record_files
  rw [hmanifest]
  refine Obeys.bind ((branch_commit_keeps hfiles hdigest).mono (fun past' commit hcommit => ?_)
    fun _ _ _ => trivial)
  refine keeps_handle (Obeys.bind ((record_keeps hintent (fun sha hsha => ?_) _ _ _).mono
    (fun _ _ _ => read_keeps hintent) fun _ _ _ => trivial)) fun _ _ => trivial
  obtain ⟨value, hvalue, hsha⟩ := Option.bind_eq_some_iff.mp hsha
  obtain ⟨commit, rfl, rfl⟩ := Option.map_eq_some_iff.mp hvalue
  obtain ⟨hof, -⟩ := commit_of_ok hsha
  exact hcommit sha (congrArg some (PyStr.text.inj (Arg.of.inj hof)))

omit hintent in
/-- **What a reconciliation does**: every step is allowed by what it has seen, and it
returns what it read last. -/
theorem reconcile_keeps (urlparse : UrlParse) (c : Call) :
    Keeps c (LastRead c) [] (reconcile_controlled_attempt_after_restart urlparse c) := by
  refine keeps_lift fun checked hcall => ?_
  obtain ⟨hintent, -⟩ := check_call_ok hcall
  have hbound : Keeps c (LastRead c) [] (bound_record checked) := by
    have hget : Keeps c (LastRead c) [] ((journal (get (.of checked.intent.process_id))).handle fun _ =>
        Prog.raise (controlled_error "recovery record is unavailable")) :=
      keeps_handle (read_keeps hintent) fun _ _ => trivial
    refine Obeys.bind (hget.mono (fun past' record hread => ?_) fun _ _ _ => trivial)
    exact keeps_lift fun _ _ => hread
  refine Obeys.bind (hbound.mono (fun past' record hread => ?_) fun _ _ _ => trivial)
  cases record.status with
  | completed => exact hread
  | prepared => trivial
  -- the row may have been left by a process that stopped in the middle of its call
  | attempting =>
    refine Obeys.bind ((recovered_keeps hintent).mono
      (fun past' record hread => ?_) fun _ _ _ => trivial)
    unfold after_recovery
    split_ifs
    · exact hread
    · trivial
    · exact record_files_keeps hcall
  | reconciliation_required =>
    refine Obeys.bind ((look_up_keeps hintent record).mono (fun past' found hfound => ?_)
      fun _ _ _ => trivial)
    cases found with
    | some row => exact hfound row rfl
    | none => exact record_files_keeps hcall

end Keeps

/-! ## Runs -/

/-- A reconciler of a run. -/
abbrev Reconciler : Type := Thread Call Op Op.Res Exn PublicationRecord Db

/-- The states that reconcilers of one journal can reach: any number of them, with any
arguments, one step at a time, and each may stop anywhere. -/
def Run (urlparse : UrlParse) (db : Db) (cfg : Config Call Op Op.Res Exn PublicationRecord Db) : Prop :=
  Reachable (reconcile_controlled_attempt_after_restart urlparse) Sem db cfg

/-- The steps and their answers. -/
def events (past : List (Record Op Op.Res Db)) : List Event := past.map fun e => ⟨e.op, e.res⟩

theorem foldl_seen (past : List (Record Op Op.Res Db)) (m : List Event) :
    past.foldl (fun m e => seen m e.op e.res) m = m ++ events past := by
  induction past generalizing m with
  | nil => exact (List.append_nil m).symm
  | cons e past ih =>
    rw [List.foldl_cons, ih, seen, List.append_assoc]
    rfl

/-- The steps that write to the provider. -/
def Op.publishes : Op → Bool
  | .journal .before_publish => true
  | .journal (.publish_pull_request _) => true
  | .publish_verified_files _ _ _ => true
  | _ => false

/-- The verified-file evidence of a row. -/
def evidence (row : PublicationRecord) : Option String × Option String × Option String :=
  (row.verified_files_outcome, row.verified_branch_commit_sha, row.verified_files_observed_at)

/-- What restart reconciliation promises of the steps of a run: `front` is what the
reconciler of the step `e` had done before it. -/
structure Conservative (cfg : Config Call Op Op.Res Exn PublicationRecord Db) : Prop where
  /-- Only the lookup and the manifest check of the channel are called. -/
  read_only : ∀ t ∈ cfg.pool, ∀ e ∈ t.past, e.op.publishes = false
  /-- A row that is completed or prepared is not changed. -/
  settled : ∀ t ∈ cfg.pool, ∀ e ∈ t.past, ∀ process_id row, e.before.row? process_id = some row →
    row.status = .completed ∨ row.status = .prepared → e.after.row? process_id = some row
  /-- A row is completed with a receipt that the provider returned for it. -/
  completes : ∀ t ∈ cfg.pool, ∀ front e back, t.past = front ++ e :: back →
    ∀ process_id row row', e.before.row? process_id = some row → row.status ≠ .completed →
      e.after.row? process_id = some row' → row'.status = .completed →
      ∃ pull_request id, Found (events front) pull_request ∧ Receipt row pull_request ∧
        pull_request.pull_request_id = .int id ∧ row'.pull_request_id = some id
  /-- Evidence is recorded on a row that requires reconciliation, and says that the files were
  verified if the check of the manifest with the row's digest returned the commit. -/
  records : ∀ t ∈ cfg.pool, ∀ front e back, t.past = front ++ e :: back →
    ∀ process_id row row', e.before.row? process_id = some row → e.after.row? process_id = some row' →
      row'.verified_files_digest = row.verified_files_digest ∧
      (evidence row' ≠ evidence row → row.status = .reconciliation_required ∧
        (row'.verified_files_outcome = some "verified" → ∃ intent digest sha,
          t.call.intent = .of intent ∧ row.verified_files_digest = some digest ∧
          row'.verified_branch_commit_sha = some sha ∧ is_oid sha = true ∧
          Compared (events front) intent.branch digest sha))
  /-- The record that is returned was read in the last step, and a completed one is still
  stored. -/
  returned : ∀ t ∈ cfg.pool, ∀ row, t.status = .running (.ret row) → ∃ intent front e asked,
    t.call.intent = .of intent ∧ intent.process_id = .text asked ∧ t.past = front ++ [e] ∧
      e.op = .journal (.select asked) ∧ e.before.row? asked = some row ∧ e.after = e.before ∧
      (row.status = .completed → cfg.shared.row? asked = some row)

/-- Every step of a run was allowed, in a state its reconciler knew. -/
theorem run_steps {urlparse : UrlParse} {db : Db} {cfg : Config Call Op Op.Res Exn PublicationRecord Db}
    (h : Run urlparse db cfg) {t : Reconciler} (ht : t ∈ cfg.pool) :
    Knows (events t.past) cfg.shared ∧ ∀ front e back, t.past = front ++ e :: back →
      Knows (events front) e.before ∧ allowed t.call (events front) e.op ∧
        Sem e.before e.op e.res e.after := by
  have hrun := Reachable.undisturbed (I := fun _ => True) (K := fun _ => Knows)
    (R := fun _ _ _ _ => True) trivial (reconcile_keeps urlparse)
    (fun _ _ _ _ _ hread => by obtain ⟨-, asked, hmem⟩ := hread; cases hmem)
    (fun _ _ _ _ _ => trivial) (fun _ _ _ => trivial)
    (fun _ _ _ _ _ _ _ hknows hallowed hsem => ⟨trivial, step_knows hknows hallowed hsem⟩)
    (fun _ _ _ _ _ _ _ hknows hallowed hsem _ _ hother _ =>
      ⟨hother.onward (step_onward hknows hallowed hsem), trivial⟩) h
  obtain ⟨hnow, hpast⟩ := hrun.2.1 t ht
  rw [Thread.monitor, foldl_seen] at hnow
  refine ⟨hnow, fun front e back heq => ?_⟩
  obtain ⟨-, hknows, hallowed, hsem⟩ := hpast front e back heq
  rw [foldl_seen] at hknows hallowed
  exact ⟨hknows, hallowed, hsem⟩

/-- **Restart reconciliation is read-only and conservative**, in every run. -/
theorem reconciliation_conservative (urlparse : UrlParse) (db : Db)
    (cfg : Config Call Op Op.Res Exn PublicationRecord Db) (h : Run urlparse db cfg) :
    Conservative cfg where
  read_only := by
    intro t ht e he
    obtain ⟨front, back, heq⟩ := List.append_of_mem he
    obtain ⟨-, hallowed, -⟩ := (run_steps h ht).2 front e back heq
    cases hop : e.op with
    | journal op =>
      rw [hop] at hallowed
      cases op with
      | before_publish => exact absurd hallowed id
      | publish_pull_request request => exact absurd hallowed id
      | _ => rfl
    | publish_verified_files branch staged_change files =>
      rw [hop] at hallowed
      exact absurd hallowed id
    | _ => rfl
  settled := by
    intro t ht e he process_id row hrow hstatus
    obtain ⟨front, back, heq⟩ := List.append_of_mem he
    -- every step is judged by what its own reconciler has read before it, which later steps of
    -- others do not unsettle
    obtain ⟨hknows, hallowed, hsem⟩ := (run_steps h ht).2 front e back heq
    obtain ⟨row', hrow', hlater⟩ := step_onward hknows hallowed hsem process_id row hrow
    rw [hrow', hlater.settled hstatus]
  completes := by
    intro t ht front e back heq process_id row row' hrow hstatus hrow' hcompleted
    obtain ⟨hknows, hallowed, hsem⟩ := (run_steps h ht).2 front e back heq
    obtain ⟨new, hnew, hmoved⟩ := step_row hknows hallowed hsem hrow
    obtain rfl : new = row' := Option.some.inj (hnew.symm.trans hrow')
    -- of the four things a step does to a row, one completes it
    cases hmoved with
    | same => exact absurd hcompleted hstatus
    | required => cases hcompleted
    | completed pull_request id url _ hfound hreceipt hid =>
      exact ⟨pull_request, id, hfound, hreceipt, hid, rfl⟩
    | recorded => exact absurd hcompleted hstatus
  records := by
    intro t ht front e back heq process_id row row' hrow hrow'
    obtain ⟨hknows, hallowed, hsem⟩ := (run_steps h ht).2 front e back heq
    obtain ⟨new, hnew, hmoved⟩ := step_row hknows hallowed hsem hrow
    obtain rfl : new = row' := Option.some.inj (hnew.symm.trans hrow')
    refine ⟨hmoved.later.verified_files_digest, fun hevidence => ?_⟩
    cases hmoved with
    | same => exact absurd rfl hevidence
    | required => exact absurd rfl hevidence
    | completed => exact absurd rfl hevidence
    | recorded digest outcome commit observed hstatus hdigest hverified =>
      refine ⟨hstatus, fun houtcome => ?_⟩
      obtain ⟨sha, intent, hcommit, hoid, hintent, hcompared⟩ := hverified (Option.some.inj houtcome)
      exact ⟨intent, digest, sha, hintent, hdigest, hcommit, hoid, hcompared⟩
  returned := by
    intro t ht row hret
    have hlast := Reachable.obeys_returned (reconcile_keeps urlparse) h ht hret
    rw [Thread.monitor, foldl_seen] at hlast
    obtain ⟨intent, seen_before, asked, hintent, hasked, hpast⟩ := hlast
    obtain ⟨front, last, heq, -, hlast⟩ := List.map_eq_append_iff.mp hpast
    obtain ⟨e, rfl, hevent⟩ := List.map_eq_singleton_iff.mp hlast
    obtain ⟨hknows, hsteps⟩ := run_steps h ht
    obtain ⟨-, -, hsem⟩ := hsteps front e [] heq
    obtain ⟨hstored, hunchanged⟩ := hsem.read hevent
    refine ⟨intent, front, e, asked, hintent, hasked, heq, (Sigma.mk.inj hevent).1, hstored, hunchanged,
      fun hcompleted => ?_⟩
    rw [List.nil_append] at hpast
    have hread : Read (events t.past) asked row :=
      ⟨row?_process_id hstored, asked, hpast ▸ List.mem_append_right _ (List.mem_singleton_self _)⟩
    obtain ⟨row', hrow', hlater⟩ := hknows asked row hread
    rw [hrow', hlater.settled (.inl hcompleted)]

/-! ## A verified branch -/

/-- A file of a manifest. -/
def sample_file : ManifestFile where
  path := .of (.text "README.md")
  content := .of (.text "hello")
  content_digest := .of (.text (sha256_bytes (utf8_bytes "hello")))

/-- The digest of the manifest with this file. -/
def sample_manifest_digest : String :=
  sha256_bytes (canonical_bytes (.arr [.arr [.str (.text "README.md"), .str (.text "hello")]]))

theorem sample_moment_utc : (⟨2026, 1, 2, 3, 4, 5, 0, some 0⟩ : Datetime).IsUtc := by decide

def sample_seed : PublicationSeed where
  process_id := .text "process-1"
  repository_id := .text "acme/service"
  base_commit := .text "main"
  staged_change_digest := PublicationKeys.sample_intent.digest
  verified_contents_digest := sample_manifest_digest
  source_repository_id := none

def sample_publication : PublicationIntent :=
  { PublicationKeys.sample_intent with
    process_id := .text "process-1"
    repository_id := .text "acme/service"
    base_commit := .text "main"
    source_repository_id := none }

/-- A reconciliation of the manifest with this file. -/
def sample_call : Call where
  seed := .of sample_seed
  intent := .of sample_publication
  verified_files := .of [.of sample_file]
  journal := .of ()
  channel := .of ()
  now := .of (some ⟨_, sample_moment_utc⟩)

/-- The row of a publication that broke off. -/
def sample_row : PublicationRecord where
  process_id := "process-1"
  idempotency_key := PublicationKeys.sample_intent.key
  request_digest :=
    "sha256:1111111111111111111111111111111111111111111111111111111111111111"
  repository_id := "acme/service"
  base_branch := some "release/1"
  status := .reconciliation_required
  pull_request_id := none
  pull_request_url := none
  verified_files_digest := some sample_manifest_digest
  verified_files_outcome := none
  verified_branch_commit_sha := none
  verified_files_observed_at := none

def sample_db : Db := ⟨[sample_row], List.nodup_singleton _, List.nodup_singleton _⟩

/-- The head of the branch. -/
def sample_commit : String := String.ofList (List.replicate 40 'c')

/-- A journal without failures, and a channel that finds no pull request, but the
files on the branch. -/
def sample_answer (op : Op) (db : Db) : op.Res × Db :=
  match op with
  | .journal (.select process_id) => (.ok (db.row? process_id), db)
  | .journal (.set_status process_id expected target) =>
    (.ok (db.set_status process_id expected target).1, (db.set_status process_id expected target).2)
  | .journal (.insert row) => (.ok (db.insert row).isSome, (db.insert row).getD db)
  | .journal (.complete process_id id url expected) =>
    (.ok (db.complete process_id id url expected).1, (db.complete process_id id url expected).2)
  | .journal _ => (.error ⟨.RuntimeError, "no endpoint"⟩, db)
  | .record_verified_files process_id digest outcome commit observed =>
    (.ok (db.record_verified_files process_id digest outcome commit observed).1,
      (db.record_verified_files process_id digest outcome commit observed).2)
  | .find_by_idempotency_key _ _ _ => (.ok none, db)
  | .reconcile_verified_files _ _ => (.ok (.of (.text sample_commit)), db)
  | .publish_verified_files _ _ _ => (.error ⟨.RuntimeError, "read-only"⟩, db)

theorem sample_answer_sem (db : Db) (op : Op) :
    Sem db op (sample_answer op db).1 (sample_answer op db).2 := by
  cases op with
  | journal op =>
    cases op with
    | select => exact .select db _
    | set_status => exact .set_status db _ _ _
    | insert => exact .insert db _
    | complete => exact .complete db _ _ _ _
    | _ => exact .journal_failed db _ _
  | record_verified_files => exact .record_verified_files db _ _ _ _ _
  | find_by_idempotency_key => exact .find_by_idempotency_key db _ _ _ _
  | reconcile_verified_files => exact .reconcile_verified_files db _ _ _
  | publish_verified_files => exact .publish_verified_files db _ _ _ _

theorem sample_verified_file : verified_file (.of sample_file) = .ok (.text "README.md", "hello") := by
  have hpath : safe_manifest_path (.text "README.md") = true := by decide +kernel
  simp [verified_file, of_type, sample_file, raise_if, hpath, bind_text]

/-- The arguments pass. -/
theorem sample_checked :
    check_call sample_call = .ok ⟨sample_seed, sample_publication, [sample_file],
      ⟨_, sample_moment_utc⟩⟩ := by
  have hdigest : contents_digest [(.text "README.md", "hello")] = .ok sample_manifest_digest :=
    sha256_digest_ok.mpr ⟨by decide, rfl⟩
  have hfiles : _validate_verified_files sample_seed (.of [.of sample_file]) = .ok [sample_file] := by
    simp [_validate_verified_files, of_type, sample_verified_file, raise_if, hdigest, manifest_of,
      sample_seed]
  unfold check_call
  rw [show typed_binding sample_call = .ok (sample_seed, sample_publication) from rfl, ok_bind]
  simp only [sample_call, of_type, ok_bind, _require_clock, astimezone, hfiles]
  rfl

/-- The row of the sample is read. -/
theorem exec_get {db : Db} {row : PublicationRecord} (h : db.row? "process-1" = some row) :
    (journal (PublicationJournal.get (.of (.text "process-1")))).exec sample_answer db =
      (.ok row, db) := by
  simp [journal, PublicationJournal.get, nonempty_str, bind_text, step, Prog.embed, Prog.exec,
    sample_answer, h, Prog.perform]

theorem sample_read : sample_db.row? "process-1" = some sample_row := rfl

/-- The row with the evidence. -/
def sample_recorded : PublicationRecord :=
  { sample_row with
    verified_files_outcome := some "verified"
    verified_branch_commit_sha := some sample_commit
    verified_files_observed_at := some (⟨2026, 1, 2, 3, 4, 5, 0, some 0⟩ : Datetime).format_utc }

/-- The evidence of a reconciler is recorded. -/
def sample_evidenced (db : Db) : ℕ × Db :=
  db.record_verified_files "process-1" sample_manifest_digest "verified" (some sample_commit)
    (⟨2026, 1, 2, 3, 4, 5, 0, some 0⟩ : Datetime).format_utc

section Reconciler

variable {db db' : Db} {row : PublicationRecord}

/-- The row waits for the reconciliation of the sample. -/
structure Waits (row : PublicationRecord) : Prop where
  process_id : row.process_id = "process-1"
  key : row.idempotency_key = sample_publication.key
  repository_id : row.repository_id = "acme/service"
  digest : row.verified_files_digest = some sample_manifest_digest
  status : row.status = .reconciliation_required

theorem sample_row_waits : Waits sample_row := ⟨rfl, rfl, rfl, rfl, rfl⟩

theorem sample_recorded_waits : Waits sample_recorded := ⟨rfl, rfl, rfl, rfl, rfl⟩

theorem sample_bound (hwaits : Waits row) (hrow : db.row? "process-1" = some row) :
    (bound_record ⟨sample_seed, sample_publication, [sample_file], ⟨_, sample_moment_utc⟩⟩).exec
      sample_answer db = (.ok row, db) := by
  unfold bound_record
  rw [Prog.bind_eq, Prog.exec_bind, Prog.exec_handle,
    show sample_publication.process_id = .text "process-1" from rfl, exec_get hrow]
  simp only [Prog.bind_eq, Prog.exec_lift_bind]
  simp [raise_if, hwaits.key, hwaits.repository_id, hwaits.digest, sample_publication, sample_seed, Prog.exec]

theorem sample_looked_up (urlparse : UrlParse) :
    (look_up urlparse (.of (.text "process-1")) row).exec sample_answer db = (.ok none, db) := rfl

theorem sample_commit_read (files : List ManifestFile) :
    (branch_commit sample_publication.branch files).exec sample_answer db =
      (.ok (some sample_commit), db) := by
  have hoid : is_oid sample_commit = true := by decide
  simp [branch_commit, attempt, Prog.perform, Prog.exec, sample_answer, commit_of, hoid]

theorem sample_evidence (hwaits : Waits row) (hrow : db.row? "process-1" = some row)
    (hone : (sample_evidenced db).1 = 1) :
    (record_verified_file_reconciliation (.of (.text "process-1")) (.of (.text sample_manifest_digest))
      (.of (.text "verified")) (some (.of (.text sample_commit)))
        (.of (some ⟨_, sample_moment_utc⟩))).exec sample_answer db = (.ok (), (sample_evidenced db).2) := by
  have hdigest : is_sha256 sample_manifest_digest = true := GitHubSnapshot.is_digest_sha256_bytes _
  have hoid : is_oid sample_commit = true := by decide
  unfold record_verified_file_reconciliation
  rw [Prog.bind_eq, Prog.exec_bind, exec_get hrow]
  simp only [Prog.bind_eq, Prog.exec_lift_bind]
  simp [raise_if, check_evidence, hdigest, commit_of, hoid, hwaits.status, hwaits.digest,
    hwaits.process_id, Prog.exec, attempt, Prog.perform, sample_answer, astimezone]
  rw [sample_evidenced] at hone ⊢
  simp [hone]

/-- A reconciler that finds the files on the branch records that they were verified. -/
theorem sample_reconciled (urlparse : UrlParse) (hwaits : Waits row)
    (hrow : db.row? "process-1" = some row) (hone : (sample_evidenced db).1 = 1)
    (hafter : (sample_evidenced db).2.row? "process-1" = some sample_recorded) :
    (reconcile_controlled_attempt_after_restart urlparse sample_call).exec sample_answer db =
      (.ok sample_recorded, (sample_evidenced db).2) := by
  unfold reconcile_controlled_attempt_after_restart
  rw [Prog.bind_eq, Prog.exec_lift_bind, sample_checked]
  dsimp only
  rw [Prog.bind_eq, Prog.exec_bind, sample_bound hwaits hrow]
  dsimp only
  rw [hwaits.status]
  dsimp only
  rw [Prog.bind_eq, Prog.exec_bind, show sample_publication.process_id = .text "process-1" from rfl,
    sample_looked_up]
  dsimp only [after_lookup]
  unfold record_files
  rw [Prog.bind_eq, Prog.exec_bind, sample_commit_read]
  dsimp only
  rw [Prog.exec_handle, Prog.bind_eq, Prog.exec_bind]
  rw [show sample_publication.process_id = .text "process-1" from rfl]
  rw [show (if (some sample_commit).isSome = true then "verified" else "unverified") =
    "verified" from rfl,
    show (⟨sample_seed, sample_publication, [sample_file], ⟨_, sample_moment_utc⟩⟩ :
      Checked).seed.verified_contents_digest = sample_manifest_digest from rfl,
    Option.map_some, sample_evidence hwaits hrow hone]
  dsimp only
  rw [exec_get hafter]

end Reconciler

/-- Two reconcilers, one after the other: both find the files on the branch, and the row is
not completed. -/
theorem reconciliation_conservative_sample :
    ∃ past past', Conservative ⟨(sample_evidenced (sample_evidenced sample_db).2).2,
        [⟨sample_call, past, .running (.ret sample_recorded)⟩,
          ⟨sample_call, past', .running (.ret sample_recorded)⟩]⟩ ∧
      (sample_evidenced (sample_evidenced sample_db).2).2.row? "process-1" = some sample_recorded ∧
      sample_recorded.status = .reconciliation_required := by
  have hstart : Run (fun _ => none) sample_db ⟨sample_db, []⟩ := Relation.ReflTransGen.refl
  have hfirst := Reachable.serve sample_answer_sem hstart sample_call
  rw [Prog.finished, sample_reconciled _ sample_row_waits sample_read rfl rfl] at hfirst
  have hsecond := Reachable.serve sample_answer_sem hfirst sample_call
  rw [Prog.finished, sample_reconciled _ sample_recorded_waits rfl rfl rfl] at hsecond
  exact ⟨_, _, reconciliation_conservative (fun _ => none) sample_db _ hsecond, rfl, rfl⟩

end AppContracts.PublicationRecovery
