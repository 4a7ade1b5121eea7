/-
Model results: `parse_model_result` of `openai_worker.py` and
`validate_worker_proposal` of `executor.py`.

Both walk over the proposed changes with the paths seen so far and the bytes so far, and
both compare normalized paths. The parser reads them out of JSON, the executor out of a
tuple of any objects; what passes either is `Admitted`.
-/
import AppContracts.Lib.JsonCodec
import AppContracts.SnapshotWorkspace
import AppContracts.Wire

set_option autoImplicit false

namespace AppContracts.Proposal

open GitHubSnapshot (_is_safe_relative_path)

/-! ## Limits -/

/-- `MAX_PROPOSAL_FILES`. -/
def MAX_PROPOSAL_FILES : ℕ := 20

/-- `MAX_PROPOSAL_PATH_BYTES`. -/
def MAX_PROPOSAL_PATH_BYTES : ℕ := 240

/-- `MAX_PROPOSAL_FILE_BYTES`. -/
def MAX_PROPOSAL_FILE_BYTES : ℕ := 100000

/-- `MAX_PROPOSAL_TOTAL_BYTES`. -/
def MAX_PROPOSAL_TOTAL_BYTES : ℕ := 1000000

/-- `MAX_MODEL_OUTPUT_BYTES`. -/
def MAX_MODEL_OUTPUT_BYTES : ℕ := 32768

/-- `len(text.encode("utf-8"))`. -/
def bytes_of (text : String) : ℕ := (utf8_bytes text).length

/-- A change: a relative path and the text proposed for it. -/
abbrev Change : Type := String × String

/-- `WorkerProposal.changes`, detached. -/
abbrev WorkerProposal : Type := List Change

/-- `total_bytes` after a change. -/
def total_after (total_bytes : ℕ) (change : Change) : ℕ :=
  total_bytes + (bytes_of change.1 + bytes_of change.2)

/-- The UTF-8 encoding of a string, as its text. -/
def encoded (error : Exn) : PyStr → Except Exn String
  | .text text => .ok text
  | .surrogates _ _ => .error error

/-! ## What is admitted -/

/-- The changes of a proposal, one after the other: each has a safe path within its limit
that is declared and new, and the contents stay within theirs. -/
def Admitted (declared : List String) : WorkerProposal → List String → ℕ → Prop
  | [], _, _ => True
  | change :: rest, seen, total_bytes =>
    (_is_safe_relative_path change.1 = true ∧ bytes_of change.1 ≤ MAX_PROPOSAL_PATH_BYTES ∧
      bytes_of change.2 ≤ MAX_PROPOSAL_FILE_BYTES ∧ normpath change.1 ∉ seen ∧
      normpath change.1 ∈ declared ∧ total_after total_bytes change ≤ MAX_PROPOSAL_TOTAL_BYTES) ∧
    Admitted declared rest (normpath change.1 :: seen) (total_after total_bytes change)

/-- A safe path is not empty. -/
theorem safe_ne_empty {path : String} (h : _is_safe_relative_path path = true) : path ≠ "" := by
  rintro rfl
  exact absurd h (by decide)

section Admitted

variable {declared : List String} {changes : WorkerProposal} {seen : List String} {total_bytes : ℕ}

/-- Every change that is admitted is in scope. -/
theorem Admitted.scope (h : Admitted declared changes seen total_bytes) :
    ∀ change ∈ changes, _is_safe_relative_path change.1 = true ∧ normpath change.1 ∈ declared ∧
      bytes_of change.1 ≤ MAX_PROPOSAL_PATH_BYTES ∧ bytes_of change.2 ≤ MAX_PROPOSAL_FILE_BYTES := by
  induction changes generalizing seen total_bytes with
  | nil => exact fun _ hchange => nomatch hchange
  | cons change rest ih =>
    obtain ⟨⟨hsafe, hpath, hcontent, -, hdeclared, -⟩, hrest⟩ := h
    exact List.forall_mem_cons.mpr ⟨⟨hsafe, hdeclared, hpath, hcontent⟩, ih hrest⟩

/-- No two admitted changes have the same normalized path. -/
theorem Admitted.distinct (h : Admitted declared changes seen total_bytes) :
    (changes.map fun change => normpath change.1).Nodup ∧
      ∀ change ∈ changes, normpath change.1 ∉ seen := by
  induction changes generalizing seen total_bytes with
  | nil => exact ⟨List.nodup_nil, fun _ hchange => nomatch hchange⟩
  | cons change rest ih =>
    obtain ⟨⟨-, -, -, hnew, -, -⟩, hrest⟩ := h
    obtain ⟨hnodup, hseen⟩ := ih hrest
    refine ⟨List.nodup_cons.mpr ⟨fun hmem => ?_, hnodup⟩, List.forall_mem_cons.mpr ⟨hnew, ?_⟩⟩
    · obtain ⟨other, hother, heq⟩ := List.mem_map.mp hmem
      exact hseen other hother (heq ▸ List.mem_cons_self)
    · exact fun other hother hmem => hseen other hother (.tail _ hmem)

/-- The bytes of all admitted changes. -/
theorem Admitted.total (h : Admitted declared changes seen total_bytes) (hne : changes ≠ []) :
    changes.foldl total_after total_bytes ≤ MAX_PROPOSAL_TOTAL_BYTES := by
  induction changes generalizing seen total_bytes with
  | nil => exact absurd rfl hne
  | cons change rest ih =>
    obtain ⟨⟨-, -, -, -, -, htotal⟩, hrest⟩ := h
    by_cases hnil : rest = []
    · subst hnil
      exact htotal
    · exact ih hrest hnil

end Admitted

/-! ## The parser -/

/-- `ResponsesModelResult`. -/
structure ResponsesModelResult : Type where
  status : PyStr
  output_text : Option PyStr
  refusal : Option PyStr

/-- What a worker returns: a `WorkerProposal` or a `WorkerTerminalOutcome`. -/
inductive WorkerResult : Type
  | proposal (changes : WorkerProposal)
  | terminal (outcome reason_code : String)
  deriving DecidableEq

/-- `ExecutionError("execution worker: provider response is invalid")`. -/
def response_error : Exn := ⟨.ExecutionError, "execution worker: provider response is invalid"⟩

/-- `expected_reasons`. -/
def EXPECTED_REASONS : List (String × String) :=
  [("clarification_required", "conflicting_requirements"), ("blocked", "target_test_outcome_unknown"),
    ("denied", "publication_not_authorized")]

/-- `value is None`. -/
def is_null : Json → Bool
  | .null => true
  | _ => false

/-- `_is_safe_relative_path(value)` of `openai_worker.py`: the body is that of the
executor's. -/
def is_safe_relative_path (value : String) : Bool := _is_safe_relative_path value

/-- `json.loads(output, object_pairs_hook=_reject_duplicate_keys,
parse_constant=_reject_constant)` of a bounded output. -/
def parsed_output (output : PyStr) : Except Exn Json := do
  raise_if (output = .text "") response_error
  let output ← encoded response_error output
  raise_if (MAX_MODEL_OUTPUT_BYTES < bytes_of output) response_error
  or_raise response_error (Json.loads_with Json.strict_hooks output)

/-- The path and the content of an entry of `changes`. -/
def entry_texts (entry : Json) : Except Exn (PyStr × PyStr) := do
  raise_if (entry.has_keys ["path", "content"] = false) response_error
  match entry.get? "path", entry.get? "content" with
  | some (.str path), some (.str content) => .ok (path, content)
  | _, _ => .error response_error

/-- The checks of one change. A string that cannot be encoded is refused with the same
error as an unsafe one. -/
def checked_entry (declared_normalized seen : List String) (total_bytes : ℕ) (entry : Json) :
    Except Exn Change := do
  let (path, content) ← entry_texts entry
  let path ← encoded response_error path
  raise_if (path = "" ∨ is_safe_relative_path path = false) response_error
  let content ← encoded response_error content
  raise_if (MAX_PROPOSAL_PATH_BYTES < bytes_of path) response_error
  raise_if (MAX_PROPOSAL_FILE_BYTES < bytes_of content) response_error
  raise_if (normpath path ∈ seen ∨ normpath path ∉ declared_normalized) response_error
  raise_if (MAX_PROPOSAL_TOTAL_BYTES < total_after total_bytes (path, content)) response_error
  return (path, content)

/-- The loop over the changes. -/
def parse_changes (declared_normalized : List String) :
    List Json → List String → ℕ → Except Exn WorkerProposal
  | [], _, _ => .ok []
  | entry :: rest, seen, total_bytes => do
    let change ← checked_entry declared_normalized seen total_bytes entry
    let detached ← parse_changes declared_normalized rest (normpath change.1 :: seen)
      (total_after total_bytes change)
    return change :: detached

/-- `changes`, as a list. -/
def entries_of : Option Json → Except Exn (List Json)
  | some (.arr entries) => .ok entries
  | _ => .error response_error

/-- What follows from `changes = parsed["changes"]`. -/
def parse_proposal (changes : Option Json) (declared_change_paths : List String) :
    Except Exn WorkerResult := do
  let entries ← entries_of changes
  raise_if (entries = []) response_error
  raise_if (declared_change_paths = []) response_error
  let detached ← parse_changes (declared_change_paths.map normpath) entries [] 0
  raise_if (MAX_PROPOSAL_FILES < detached.length) response_error
  return .proposal detached

/-- An outcome without changes: the one reason code of its own. -/
def parse_terminal (parsed : Json) : Except Exn WorkerResult :=
  match (parsed.get? "outcome").bind Json.text? with
  | none => .error response_error
  | some outcome =>
    match EXPECTED_REASONS.lookup outcome with
    | none => .error response_error
    | some reason_code =>
      if (parsed.get? "changes").any is_null = false ∨
          (parsed.get? "reason_code").bind Json.text? ≠ some reason_code then .error response_error
      else .ok (.terminal outcome reason_code)

/-- The two forms of a result: one of the second version has one of its keys. -/
def parse_parsed (parsed : Json) (declared_change_paths : List String) : Except Exn WorkerResult :=
  if ["schema", "outcome", "reason_code"].any fun key => (parsed.get? key).isSome then do
    raise_if (parsed.has_keys ["schema", "outcome", "changes", "reason_code"] = false ∨
      (parsed.get? "schema").bind Json.text? ≠ some "agent00x-worker-result/v2") response_error
    if (parsed.get? "outcome").bind Json.text? = some "changes" then do
      raise_if ((parsed.get? "reason_code").any is_null = false) response_error
      parse_proposal (parsed.get? "changes") declared_change_paths
    else parse_terminal parsed
  else do
    raise_if (parsed.has_keys ["changes"] = false) response_error
    parse_proposal (parsed.get? "changes") declared_change_paths

/-- `type(result) is ResponsesModelResult`. -/
def result_of : Arg ResponsesModelResult → Except Exn ResponsesModelResult
  | .of result => .ok result
  | .other => .error response_error

/-- `parse_model_result(result, declared_change_paths)`. -/
def parse_model_result (result : Arg ResponsesModelResult) (declared_change_paths : List String) :
    Except Exn WorkerResult := do
  let result ← result_of result
  raise_if (result.refusal ≠ none) response_error
  raise_if (result.status ≠ .text "completed") response_error
  let output ← or_raise response_error result.output_text
  let parsed ← parsed_output output
  raise_if (parsed.is_dict = false) response_error
  parse_parsed parsed declared_change_paths

/-! ## The executor's check -/

/-- An element of `WorkerProposal.changes`, which a worker may have built of anything. -/
abbrev RawChange : Type := Arg (Arg PyStr × Arg PyStr)

/-- What a worker gives as its proposal. -/
abbrev RawProposal : Type := Arg (Arg (List RawChange))

/-- `ExecutionError("execution proposal: " + message)`. -/
def proposal_error (message : String) : Exn := ⟨.ExecutionError, "execution proposal: " ++ message⟩

/-- The two strings of a change. -/
def raw_texts : RawChange → Except Exn (PyStr × PyStr)
  | .of (.of path, .of content) => do
    raise_if (path = .text "") (proposal_error "shape is invalid")
    return (path, content)
  | _ => .error (proposal_error "shape is invalid")

/-- The checks of one change of a proposal. -/
def validated_change (declared_paths normalized_paths : List String) (total_bytes : ℕ) (change : RawChange) :
    Except Exn Change := do
  let (path, content) ← raw_texts change
  let path ← encoded (proposal_error "scope is invalid") path
  raise_if (_is_safe_relative_path path = false ∨ MAX_PROPOSAL_PATH_BYTES < bytes_of path ∨
    normpath path ∈ normalized_paths ∨ normpath path ∉ declared_paths)
    (proposal_error "scope is invalid")
  let content ← encoded (proposal_error "content is invalid") content
  raise_if (MAX_PROPOSAL_FILE_BYTES < bytes_of content) (proposal_error "limits exceeded")
  raise_if (MAX_PROPOSAL_TOTAL_BYTES < total_after total_bytes (path, content))
    (proposal_error "limits exceeded")
  return (path, content)

/-- The loop over the changes of a proposal. -/
def validate_changes (declared_paths : List String) :
    List RawChange → List String → ℕ → Except Exn WorkerProposal
  | [], _, _ => .ok []
  | entry :: rest, normalized_paths, total_bytes => do
    let change ← validated_change declared_paths normalized_paths total_bytes entry
    let detached ← validate_changes declared_paths rest (normpath change.1 :: normalized_paths)
      (total_after total_bytes change)
    return change :: detached

/-- The changes of a `WorkerProposal` that has a tuple of them. -/
def raw_changes : RawProposal → Except Exn (List RawChange)
  | .of (.of changes) => .ok changes
  | _ => .error (proposal_error "shape is invalid")

/-- `validate_worker_proposal(value, request)`, for the declared paths of the request. -/
def validate_worker_proposal (value : RawProposal) (declared_change_paths : List String) :
    Except Exn WorkerProposal := do
  let changes ← raw_changes value
  raise_if (changes = []) (proposal_error "shape is invalid")
  let detached ← validate_changes (declared_change_paths.map normpath) changes [] 0
  raise_if (MAX_PROPOSAL_FILES < detached.length) (proposal_error "limits exceeded")
  return detached

/-! ## Both admit the same -/

/-- A change as a worker builds it. -/
def raw_change (change : Change) : RawChange := .of (.of (.text change.1), .of (.text change.2))

/-- A proposal as a worker builds it. -/
def raw_proposal (changes : WorkerProposal) : RawProposal := .of (.of (changes.map raw_change))

theorem encoded_ok {error : Exn} {s : PyStr} {text : String} (h : encoded error s = .ok text) :
    s = .text text := by
  cases s with
  | text t => rw [← Except.ok.inj h]
  | surrogates _ _ => cases h

section Loops

variable {declared seen : List String} {total_bytes : ℕ}

/-- What the parser's checks of a change establish. -/
theorem checked_entry_ok {entry : Json} {change : Change}
    (h : checked_entry declared seen total_bytes entry = .ok change) :
    entry_texts entry = .ok (.text change.1, .text change.2) ∧
      _is_safe_relative_path change.1 = true ∧ bytes_of change.1 ≤ MAX_PROPOSAL_PATH_BYTES ∧
      bytes_of change.2 ≤ MAX_PROPOSAL_FILE_BYTES ∧ normpath change.1 ∉ seen ∧
      normpath change.1 ∈ declared ∧ total_after total_bytes change ≤ MAX_PROPOSAL_TOTAL_BYTES := by
  rw [checked_entry] at h
  obtain ⟨⟨path, content⟩, htexts, h⟩ := bind_ok.mp h
  obtain ⟨path', hpath, h⟩ := bind_ok.mp h
  obtain ⟨hsafe, h⟩ := raise_if_bind.mp h
  obtain ⟨content', hcontent, h⟩ := bind_ok.mp h
  obtain ⟨hlength, h⟩ := raise_if_bind.mp h
  obtain ⟨hsize, h⟩ := raise_if_bind.mp h
  obtain ⟨hscope, h⟩ := raise_if_bind.mp h
  obtain ⟨htotal, h⟩ := raise_if_bind.mp h
  obtain rfl := Except.ok.inj h
  obtain rfl := encoded_ok hpath
  obtain rfl := encoded_ok hcontent
  obtain ⟨hnew, hdeclared⟩ := not_or.mp hscope
  have hsafe' : _is_safe_relative_path path' = true := by simpa [is_safe_relative_path] using
    (not_or.mp hsafe).2
  exact ⟨htexts, hsafe', Nat.not_lt.mp hlength, Nat.not_lt.mp hsize, hnew, not_not.mp hdeclared,
    Nat.not_lt.mp htotal⟩

theorem checked_entry_of {entry : Json} {change : Change}
    (htexts : entry_texts entry = .ok (.text change.1, .text change.2))
    (h : _is_safe_relative_path change.1 = true ∧ bytes_of change.1 ≤ MAX_PROPOSAL_PATH_BYTES ∧
      bytes_of change.2 ≤ MAX_PROPOSAL_FILE_BYTES ∧ normpath change.1 ∉ seen ∧
      normpath change.1 ∈ declared ∧ total_after total_bytes change ≤ MAX_PROPOSAL_TOTAL_BYTES) :
    checked_entry declared seen total_bytes entry = .ok change := by
  obtain ⟨hsafe, hpath, hcontent, hnew, hdeclared, htotal⟩ := h
  have hne := safe_ne_empty hsafe
  rw [checked_entry, htexts, ok_bind]
  dsimp only [encoded]
  rw [ok_bind, raise_if_ok.mpr (by simp [is_safe_relative_path, hne, hsafe]), ok_bind, ok_bind,
    raise_if_ok.mpr (Nat.not_lt.mpr hpath), ok_bind, raise_if_ok.mpr (Nat.not_lt.mpr hcontent), ok_bind,
    raise_if_ok.mpr (by simp [hnew, hdeclared]), ok_bind, raise_if_ok.mpr (Nat.not_lt.mpr htotal)]
  rfl

/-- The parser's loop returns what it admits, entry by entry. -/
theorem parse_changes_iff {entries : List Json} {changes : WorkerProposal} :
    parse_changes declared entries seen total_bytes = .ok changes ↔
      List.Forall₂ (fun entry change => entry_texts entry = .ok (.text change.1, .text change.2))
        entries changes ∧ Admitted declared changes seen total_bytes := by
  -- on the entries, with the paths seen and the bytes counted so far
  induction entries generalizing changes seen total_bytes with
  | nil =>
    rw [parse_changes]
    constructor
    · rintro h
      obtain rfl := Except.ok.inj h
      exact ⟨.nil, trivial⟩
    · rintro ⟨h, -⟩
      cases h
      rfl
  | cons entry rest ih =>
    rw [parse_changes]
    constructor
    · intro h
      obtain ⟨change, hchange, h⟩ := bind_ok.mp h
      obtain ⟨detached, hrest, h⟩ := bind_ok.mp h
      obtain rfl := Except.ok.inj h
      obtain ⟨htexts, hadmitted⟩ := checked_entry_ok hchange
      obtain ⟨hentries, hchanges⟩ := ih.mp hrest
      exact ⟨.cons htexts hentries, hadmitted, hchanges⟩
    · rintro ⟨hentries, hadmitted⟩
      cases hentries with
      | @cons _ change _ detached htexts hentries =>
        rw [checked_entry_of htexts hadmitted.1, ok_bind, ih.mpr ⟨hentries, hadmitted.2⟩]
        rfl

/-- What the executor's checks of a change establish. -/
theorem validated_change_ok {raw : RawChange} {change : Change}
    (h : validated_change declared seen total_bytes raw = .ok change) : raw = raw_change change ∧
      _is_safe_relative_path change.1 = true ∧ bytes_of change.1 ≤ MAX_PROPOSAL_PATH_BYTES ∧
      bytes_of change.2 ≤ MAX_PROPOSAL_FILE_BYTES ∧ normpath change.1 ∉ seen ∧
      normpath change.1 ∈ declared ∧ total_after total_bytes change ≤ MAX_PROPOSAL_TOTAL_BYTES := by
  rw [validated_change] at h
  obtain ⟨⟨path, content⟩, htexts, h⟩ := bind_ok.mp h
  obtain ⟨path', hpath, h⟩ := bind_ok.mp h
  obtain ⟨hscope, h⟩ := raise_if_bind.mp h
  obtain ⟨content', hcontent, h⟩ := bind_ok.mp h
  obtain ⟨hsize, h⟩ := raise_if_bind.mp h
  obtain ⟨htotal, h⟩ := raise_if_bind.mp h
  obtain rfl := Except.ok.inj h
  obtain rfl := encoded_ok hpath
  obtain rfl := encoded_ok hcontent
  simp only [not_or, Bool.not_eq_false, not_lt, not_not] at hscope
  obtain ⟨hsafe, hlength, hnew, hdeclared⟩ := hscope
  refine ⟨?_, hsafe, hlength, Nat.not_lt.mp hsize, hnew, hdeclared, Nat.not_lt.mp htotal⟩
  unfold raw_texts at htexts
  split at htexts
  · obtain ⟨-, htexts⟩ := raise_if_bind.mp htexts
    obtain ⟨rfl, rfl⟩ := Prod.mk.inj (Except.ok.inj htexts)
    rfl
  · cases htexts

theorem validated_change_of {change : Change}
    (h : _is_safe_relative_path change.1 = true ∧ bytes_of change.1 ≤ MAX_PROPOSAL_PATH_BYTES ∧
      bytes_of change.2 ≤ MAX_PROPOSAL_FILE_BYTES ∧ normpath change.1 ∉ seen ∧
      normpath change.1 ∈ declared ∧ total_after total_bytes change ≤ MAX_PROPOSAL_TOTAL_BYTES) :
    validated_change declared seen total_bytes (raw_change change) = .ok change := by
  obtain ⟨hsafe, hpath, hcontent, hnew, hdeclared, htotal⟩ := h
  have hne := safe_ne_empty hsafe
  have htexts : raw_texts (raw_change change) = .ok (.text change.1, .text change.2) := by
    rw [raw_change, raw_texts, raise_if_ok.mpr (by simpa using hne)]
    rfl
  rw [validated_change, htexts, ok_bind]
  dsimp only [encoded]
  rw [ok_bind, raise_if_ok.mpr (by simp [hsafe, hnew, hdeclared, hpath]), ok_bind, ok_bind,
    raise_if_ok.mpr (Nat.not_lt.mpr hcontent), ok_bind, raise_if_ok.mpr (Nat.not_lt.mpr htotal)]
  rfl

/-- The executor's loop returns what it admits. -/
theorem validate_changes_iff {raw : List RawChange} {changes : WorkerProposal} :
    validate_changes declared raw seen total_bytes = .ok changes ↔
      raw = changes.map raw_change ∧ Admitted declared changes seen total_bytes := by
  -- the same induction for changes that are given as pairs already
  induction raw generalizing changes seen total_bytes with
  | nil =>
    rw [validate_changes]
    constructor
    · intro h
      obtain rfl := Except.ok.inj h
      exact ⟨rfl, trivial⟩
    · rintro ⟨h, -⟩
      rw [List.map_eq_nil_iff.mp h.symm]
  | cons entry rest ih =>
    rw [validate_changes]
    constructor
    · intro h
      obtain ⟨change, hchange, h⟩ := bind_ok.mp h
      obtain ⟨detached, hrest, h⟩ := bind_ok.mp h
      obtain rfl := Except.ok.inj h
      obtain ⟨rfl, hadmitted⟩ := validated_change_ok hchange
      obtain ⟨rfl, hchanges⟩ := ih.mp hrest
      exact ⟨rfl, hadmitted, hchanges⟩
    · rintro ⟨hraw, hadmitted⟩
      obtain ⟨change, detached, rfl⟩ : ∃ change detached, changes = change :: detached := by
        cases changes with
        | nil => cases hraw
        | cons change detached => exact ⟨change, detached, rfl⟩
      rw [List.map_cons] at hraw
      obtain ⟨rfl, rfl⟩ := List.cons.inj hraw
      rw [validated_change_of hadmitted.1, ok_bind, ih.mpr ⟨rfl, hadmitted.2⟩]
      rfl

end Loops

/-- What the executor accepts. -/
theorem validate_ok_iff {value : RawProposal} {declared_change_paths : List String}
    {changes : WorkerProposal} :
    validate_worker_proposal value declared_change_paths = .ok changes ↔
      value = raw_proposal changes ∧ changes ≠ [] ∧ changes.length ≤ MAX_PROPOSAL_FILES ∧
        Admitted (declared_change_paths.map normpath) changes [] 0 := by
  rw [validate_worker_proposal]
  constructor
  · intro h
    obtain ⟨raw, hraw, h⟩ := bind_ok.mp h
    obtain ⟨hne, h⟩ := raise_if_bind.mp h
    obtain ⟨detached, hdetached, h⟩ := bind_ok.mp h
    obtain ⟨hlength, h⟩ := raise_if_bind.mp h
    obtain rfl := Except.ok.inj h
    obtain ⟨rfl, hadmitted⟩ := validate_changes_iff.mp hdetached
    refine ⟨?_, fun hnil => hne (by rw [hnil]; rfl), by omega, hadmitted⟩
    unfold raw_changes at hraw
    split at hraw
    · rw [Except.ok.inj hraw]
      rfl
    · cases hraw
  · rintro ⟨rfl, hne, hlength, hadmitted⟩
    rw [raw_proposal, raw_changes, ok_bind, raise_if_ok.mpr (by simpa using hne), ok_bind,
      validate_changes_iff.mpr ⟨rfl, hadmitted⟩, ok_bind, raise_if_ok.mpr (by omega)]
    rfl

/-- What the parser returns as a proposal has been admitted. -/
theorem parse_proposal_ok {changes : Option Json} {declared_change_paths : List String}
    {result : WorkerResult} (h : parse_proposal changes declared_change_paths = .ok result) :
    ∃ detached, result = .proposal detached ∧ detached ≠ [] ∧ detached.length ≤ MAX_PROPOSAL_FILES ∧
      Admitted (declared_change_paths.map normpath) detached [] 0 := by
  rw [parse_proposal] at h
  obtain ⟨entries, -, h⟩ := bind_ok.mp h
  obtain ⟨hne, h⟩ := raise_if_bind.mp h
  obtain ⟨-, h⟩ := raise_if_bind.mp h
  obtain ⟨detached, hdetached, h⟩ := bind_ok.mp h
  obtain ⟨hlength, h⟩ := raise_if_bind.mp h
  obtain rfl := Except.ok.inj h
  obtain ⟨hentries, hadmitted⟩ := parse_changes_iff.mp hdetached
  refine ⟨detached, rfl, fun hnil => ?_, by omega, hadmitted⟩
  subst hnil
  cases hentries
  exact hne rfl

theorem parse_terminal_ok {parsed : Json} {result : WorkerResult} (h : parse_terminal parsed = .ok result) :
    ∃ outcome reason_code, result = .terminal outcome reason_code ∧
      EXPECTED_REASONS.lookup outcome = some reason_code := by
  rw [parse_terminal] at h
  split at h
  · cases h
  · rename_i outcome _
    split at h
    · cases h
    · rename_i reason_code hreason
      split_ifs at h
      exact ⟨outcome, reason_code, (Except.ok.inj h).symm, hreason⟩

/-- **Every proposal that the parser returns** has been admitted for the declared paths. -/
theorem parse_model_result_proposal {result : Arg ResponsesModelResult}
    {declared_change_paths : List String} {changes : WorkerProposal}
    (h : parse_model_result result declared_change_paths = .ok (.proposal changes)) :
    changes ≠ [] ∧ changes.length ≤ MAX_PROPOSAL_FILES ∧
      Admitted (declared_change_paths.map normpath) changes [] 0 := by
  have hproposal {value : Option Json}
      (h : parse_proposal value declared_change_paths = .ok (.proposal changes)) :
      changes ≠ [] ∧ changes.length ≤ MAX_PROPOSAL_FILES ∧
        Admitted (declared_change_paths.map normpath) changes [] 0 := by
    obtain ⟨detached, heq, hrest⟩ := parse_proposal_ok h
    obtain rfl := WorkerResult.proposal.inj heq
    exact hrest
  rw [parse_model_result] at h
  obtain ⟨_, -, h⟩ := bind_ok.mp h
  obtain ⟨-, h⟩ := raise_if_bind.mp h
  obtain ⟨-, h⟩ := raise_if_bind.mp h
  obtain ⟨_, -, h⟩ := bind_ok.mp h
  obtain ⟨parsed, -, h⟩ := bind_ok.mp h
  obtain ⟨-, h⟩ := raise_if_bind.mp h
  rw [parse_parsed] at h
  -- the legacy form, the terminal form and the proposal form, of which two give a proposal
  split_ifs at h with hkeys houtcome
  · obtain ⟨-, h⟩ := raise_if_bind.mp h
    obtain ⟨-, h⟩ := raise_if_bind.mp h
    exact hproposal h
  · obtain ⟨-, h⟩ := raise_if_bind.mp h
    obtain ⟨outcome, reason_code, heq, -⟩ := parse_terminal_ok h
    cases heq
  · obtain ⟨-, h⟩ := raise_if_bind.mp h
    exact hproposal h

/-- **The executor accepts what the parser returns**, unchanged. -/
theorem parsed_validated {result : Arg ResponsesModelResult} {declared_change_paths : List String}
    {changes : WorkerProposal}
    (h : parse_model_result result declared_change_paths = .ok (.proposal changes)) :
    validate_worker_proposal (raw_proposal changes) declared_change_paths = .ok changes :=
  validate_ok_iff.mpr ⟨rfl, parse_model_result_proposal h⟩

end AppContracts.Proposal
