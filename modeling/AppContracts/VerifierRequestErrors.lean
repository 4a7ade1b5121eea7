/-
What the parser of verifier requests raises, on every byte string.

The JSON of a request can escape lone surrogates, and such a string passes the
checks of its shape. It fails where its bytes are counted, with an exception of
the codec and not with the parser's own. So the request is read here with the
strings that Python has, and the bounds are a list of checks in the order in
which they are made: the first that refuses decides the exception.
-/
import AppContracts.SignedVerifierAgreement

set_option autoImplicit false

namespace AppContracts

/-! ## What a codec raises -/

namespace Codec

variable {ε α β γ : Type}

/-- Only errors with `P` are raised in reading. -/
def OnlyRaises (c : Codec ε α) (P : ε → Prop) : Prop := ∀ j e, c.read j = .error e → P e

variable {P : ε → Prop} {e : ε}

theorem OnlyRaises.int (he : P e) : (Codec.int e).OnlyRaises P := by
  intro j e' h
  simp only [Codec.int] at h
  split at h
  · cases h
  · rwa [← Except.error.inj h]

theorem OnlyRaises.nullable {c : Codec ε α} (hc : c.OnlyRaises P) (h : ∀ a, c.json a ≠ .null) :
    (c.nullable h).OnlyRaises P := by
  intro j e' hread
  by_cases hj : j = .null
  · subst hj
    exact nomatch hread
  · have hsome : c.read_nullable j = .error e' := hread
    rw [c.read_nullable_some hj] at hsome
    cases hinner : c.read j with
    | ok a => rw [hinner] at hsome; exact nomatch hsome
    | error e'' =>
      rw [hinner] at hsome
      exact Except.error.inj hsome ▸ hc j e'' hinner

theorem OnlyRaises.list {c : Codec ε α} (he : P e) (hc : c.OnlyRaises P) :
    (Codec.list e c).OnlyRaises P := by
  have hitems : ∀ items e', c.read_items items = .error e' → P e' := by
    intro items
    induction items with
    | nil => exact fun _ h => nomatch h
    | cons j rest ih =>
      intro e' h
      rw [read_items] at h
      cases hj : c.read j with
      | error e'' => simp only [hj, Except.error.injEq] at h; exact h ▸ hc j e'' hj
      | ok a =>
        cases hrest : c.read_items rest with
        | error e'' => simp only [hj, hrest, Except.error.injEq] at h; exact h ▸ ih e'' hrest
        | ok l => simp [hj, hrest] at h
  intro j e' h
  simp only [Codec.list] at h
  split at h
  · exact hitems _ _ h
  · rwa [← Except.error.inj h]

theorem OnlyRaises.pair {c : Codec ε α} {d : Codec ε β} (he : P e) (hc : c.OnlyRaises P)
    (hd : d.OnlyRaises P) : (Codec.pair e c d).OnlyRaises P := by
  intro j e' h
  simp only [Codec.pair] at h
  split at h
  · rename_i j k
    cases hj : c.read j with
    | error e'' => simp only [hj, Except.error.injEq] at h; exact h ▸ hc j e'' hj
    | ok a =>
      cases hk : d.read k with
      | error e'' => simp only [hj, hk, Except.map, Except.error.injEq] at h; exact h ▸ hd k e'' hk
      | ok b => simp [hj, hk, Except.map] at h
  · rwa [← Except.error.inj h]

theorem OnlyRaises.triple {c : Codec ε α} {d : Codec ε β} {f : Codec ε γ} (he : P e)
    (hc : c.OnlyRaises P) (hd : d.OnlyRaises P) (hf : f.OnlyRaises P) :
    (Codec.triple e c d f).OnlyRaises P := by
  intro j e' h
  simp only [Codec.triple] at h
  split at h
  · rename_i i j k
    cases hi : c.read i with
    | error e'' => simp only [hi, Except.error.injEq] at h; exact h ▸ hc i e'' hi
    | ok a =>
      cases hj : d.read j with
      | error e'' => simp only [hi, hj, Except.error.injEq] at h; exact h ▸ hd j e'' hj
      | ok b =>
        cases hk : f.read k with
        | error e'' => simp only [hi, hj, hk, Except.map,
          Except.error.injEq] at h; exact h ▸ hf k e'' hk
        | ok g => simp [hi, hj, hk, Except.map] at h
  · rwa [← Except.error.inj h]

theorem OnlyRaises.field {c : Codec ε α} (he : P e) (hc : c.OnlyRaises P) {raw : Json} {key : String}
    {e' : ε} (h : c.field e raw key = .error e') : P e' := by
  rw [Codec.field] at h
  cases hget : raw.get? key with
  | none => rw [hget] at h; rwa [← Except.error.inj h]
  | some j => rw [hget] at h; exact hc j e' h

theorem OnlyRaises.any_str (he : P e) : (Codec.any_str e).OnlyRaises P := by
  intro j e' h
  simp only [Codec.any_str] at h
  split at h
  · cases h
  · rwa [← Except.error.inj h]

end Codec

namespace VerifierRequestErrors

open GitHubSnapshot (TreeFile is_digest verifier_snapshot_tree_digest)
open VerifierProcess

/-! ## Requests as the parser reads them -/

/-- A `VerifierInput` whose strings may have lone surrogates. -/
structure RawInput : Type where
  process_id : PyStr
  repository_id : PyStr
  base_commit : PyStr
  snapshot_tree_digest : Option PyStr
  declared_change_paths : List PyStr
  verified_contents : List (PyStr × PyStr)
  test_command : List PyStr
  test_timeout_seconds : ℤ
  patch_digest : PyStr
  evidence_digest : PyStr
  verification_digest : PyStr
  verified_contents_digest : PyStr
  evidence_origin : PyStr
  replay_result_digest : Option PyStr
  snapshot_files : List (PyStr × PyStr × Bytes)
  snapshot_claim_digest : Option PyStr

/-- A string field. -/
def str : Codec Exn PyStr := Codec.any_str fields_error

/-- A string field that may be `None`. -/
def optional_str : Codec Exn (Option PyStr) := str.nullable fun _ h => nomatch h

/-- A list of strings. -/
def str_list : Codec Exn (List PyStr) := Codec.list fields_error str

/-- `verified_contents`. -/
def contents : Codec Exn (List (PyStr × PyStr)) :=
  Codec.list fields_error (Codec.pair fields_error str str)

/-- `snapshot_files`, the contents in Base64. -/
def encoded_files : Codec Exn (List (PyStr × PyStr × PyStr)) :=
  let text := Codec.any_str snapshot_error
  Codec.list snapshot_error (Codec.triple snapshot_error text text text)

/-- `_decode_snapshot_base64(value)`: a string beyond ASCII is no Base64. -/
def _decode_snapshot_base64 (value : PyStr) : Except Exn Bytes :=
  match value with
  | .text value => VerifierProcess._decode_snapshot_base64 value
  | .surrogates _ _ => .error (process_error "snapshot encoding is invalid")

/-- The files of `snapshot_files`. -/
def decode_files : List (PyStr × PyStr × PyStr) → Except Exn (List (PyStr × PyStr × Bytes))
  | [] => .ok []
  | (path, mode, encoded) :: rest => do
    let content ← _decode_snapshot_base64 encoded
    let files ← decode_files rest
    return (path, mode, content) :: files

/-- `_validate_verifier_input_shape(raw_input)`, and the input of the raw fields. -/
def read_input (raw : Json) : Except Exn RawInput := do
  let process_id ← str.field fields_error raw "process_id"
  let repository_id ← str.field fields_error raw "repository_id"
  let base_commit ← str.field fields_error raw "base_commit"
  let patch_digest ← str.field fields_error raw "patch_digest"
  let evidence_digest ← str.field fields_error raw "evidence_digest"
  let verification_digest ← str.field fields_error raw "verification_digest"
  let verified_contents_digest ← str.field fields_error raw "verified_contents_digest"
  let evidence_origin ← str.field fields_error raw "evidence_origin"
  let snapshot_tree_digest ← optional_str.field fields_error raw "snapshot_tree_digest"
  let replay_result_digest ← optional_str.field fields_error raw "replay_result_digest"
  let snapshot_claim_digest ← optional_str.field fields_error raw "snapshot_claim_digest"
  let test_timeout_seconds ← whole.field fields_error raw "test_timeout_seconds"
  raise_if (evidence_origin ≠ .text "local_test") fields_error
  let declared_change_paths ← str_list.field fields_error raw "declared_change_paths"
  let test_command ← str_list.field fields_error raw "test_command"
  let verified_contents ← contents.field fields_error raw "verified_contents"
  let encoded ← encoded_files.field fields_error raw "snapshot_files"
  let snapshot_files ← decode_files encoded
  return ⟨process_id, repository_id, base_commit, snapshot_tree_digest, declared_change_paths,
    verified_contents, test_command, test_timeout_seconds, patch_digest, evidence_digest,
    verification_digest, verified_contents_digest, evidence_origin, replay_result_digest,
    snapshot_files, snapshot_claim_digest⟩

/-- The JSON of a request, up to its `VerifierInput`. -/
def read_payload (payload : Json) : Except Exn RawInput := do
  raise_if (payload.is_dict = false) (process_error "request payload is invalid")
  let version ← (version_int "request").field (process_error "request version is invalid") payload
    "schema_version"
  raise_if (version ≠ VERIFIER_PROCESS_SCHEMA_VERSION) (process_error "request version is invalid")
  raise_if (payload.has_keys ["schema_version", "verifier_input"] = false) fields_error
  let raw_input ← or_raise fields_error (payload.get? "verifier_input")
  raise_if (raw_input.has_keys VERIFIER_INPUT_FIELDS = false) fields_error
  read_input raw_input

/-- `parse_verifier_request(data)`, up to its `VerifierInput`. -/
def read_request (data : Bytes) : Except Exn RawInput := do
  raise_if (MAX_VERIFIER_REQUEST_BYTES < data.length) (process_error "request size exceeds limit")
  let text ← or_raise (process_error "request encoding is invalid") (decode_utf8 data)
  let payload ← or_raise (process_error "request payload is invalid")
    (Json.loads_with Json.strict_hooks text)
  read_payload payload

/-! ## Bounds -/

/-- `_STR_FIELDS`. -/
def STR_FIELDS : List (RawInput → PyStr) :=
  [RawInput.process_id, RawInput.repository_id, RawInput.base_commit, RawInput.patch_digest,
    RawInput.evidence_digest, RawInput.verification_digest, RawInput.verified_contents_digest,
    RawInput.evidence_origin]

/-- `_OPTIONAL_STR_FIELDS`. -/
def OPTIONAL_STR_FIELDS : List (RawInput → Option PyStr) :=
  [RawInput.snapshot_tree_digest, RawInput.replay_result_digest, RawInput.snapshot_claim_digest]

/-- The order in which Python goes through the two sets of fields. -/
structure FieldOrder : Type where
  required : List (RawInput → PyStr)
  optional : List (RawInput → Option PyStr)
  required_perm : required.Perm STR_FIELDS
  optional_perm : optional.Perm OPTIONAL_STR_FIELDS

/-- The texts that are counted first. -/
def FieldOrder.texts (order : FieldOrder) (x : RawInput) : List PyStr :=
  order.required.map (fun field => field x) ++ order.optional.filterMap fun field => field x

/-- `len(value.encode("utf-8"))`. -/
def encoded_length (value : PyStr) : Except Exn ℕ :=
  match value with
  | .text value => .ok (utf8_length value)
  | .surrogates _ _ => .error lone_surrogate

/-- `bounded_text(value)`, with the bytes counted so far: the new count, and the
bytes of the value. -/
def bounded_text (total : ℕ) (value : PyStr) : Except Exn (ℕ × ℕ) := do
  raise_if (MAX_VERIFIER_REQUEST_BYTES < value.codes.length)
    (process_error "request size exceeds limit")
  let byte_count ← encoded_length value
  raise_if (MAX_VERIFIER_REQUEST_BYTES < total + byte_count)
    (process_error "request size exceeds limit")
  return (total + byte_count, byte_count)

/-- `bounded_text` of a text with no bound of its own. -/
def counted_text (total : ℕ) (value : PyStr) : Except Exn ℕ := do
  let counted ← bounded_text total value
  return counted.1

/-- `bounded_text` of a path. -/
def bounded_path (total : ℕ) (path : PyStr) : Except Exn ℕ := do
  raise_if (MAX_VERIFIER_REQUEST_PATH_BYTES < path.codes.length)
    (process_error "request path exceeds limit")
  let counted ← bounded_text total path
  raise_if (MAX_VERIFIER_REQUEST_PATH_BYTES < counted.2) (process_error "request path exceeds limit")
  return counted.1

/-- An entry of `verified_contents`, with the bytes and the content bytes counted
so far. -/
def bounded_content (totals : ℕ × ℕ) (entry : PyStr × PyStr) : Except Exn (ℕ × ℕ) := do
  raise_if (MAX_VERIFIER_REQUEST_PATH_BYTES < entry.1.codes.length)
    (process_error "request path exceeds limit")
  raise_if (MAX_VERIFIER_REQUEST_CONTENT_BYTES < entry.2.codes.length)
    (process_error "request content exceeds limit")
  let path ← bounded_text totals.1 entry.1
  let content ← bounded_text path.1 entry.2
  raise_if (MAX_VERIFIER_REQUEST_PATH_BYTES < path.2) (process_error "request path exceeds limit")
  raise_if (MAX_VERIFIER_REQUEST_CONTENT_BYTES < content.2)
    (process_error "request content exceeds limit")
  raise_if (MAX_VERIFIER_REQUEST_CONTENTS_BYTES < totals.2 + content.2)
    (process_error "request contents exceed limit")
  return (content.1, totals.2 + content.2)

/-- `_is_safe_snapshot_path(value)`. Plain parts are what `normpath` keeps, so a
string with a lone surrogate is judged by its parts; `/` is 47, `\` 92 and `.` 46. -/
def _is_safe_snapshot_path (value : PyStr) : Bool :=
  match value with
  | .text value => VerifierProcess._is_safe_snapshot_path value
  | .surrogates codes _ =>
    !codes.contains 92 && !codes.contains 0 &&
      (codes.splitOn 47).all fun part => part ∉ [[], [46], [46, 46]]

/-- What the loop over `snapshot_files` carries along. -/
structure SnapshotProgress : Type where
  total_text_bytes : ℕ
  snapshot_total_bytes : ℕ
  previous_path : Option PyStr

/-- An entry of `snapshot_files`. -/
def bounded_file (progress : SnapshotProgress) (file : PyStr × PyStr × Bytes) :
    Except Exn SnapshotProgress := do
  raise_if (MAX_VERIFIER_SNAPSHOT_PATH_BYTES < file.1.codes.length ∨
    _is_safe_snapshot_path file.1 = false ∨ file.2.1 ∉ [PyStr.text "100644", .text "100755"])
    (process_error "snapshot fields are invalid")
  let counted ← bounded_text progress.total_text_bytes file.1
  raise_if (MAX_VERIFIER_SNAPSHOT_PATH_BYTES < counted.2) (process_error "snapshot path exceeds limit")
  raise_if (progress.previous_path.any fun previous => decide (file.1.le previous))
    (process_error "snapshot paths are invalid")
  raise_if (MAX_VERIFIER_SNAPSHOT_FILE_BYTES < file.2.2.length)
    (process_error "snapshot file exceeds limit")
  raise_if (MAX_VERIFIER_SNAPSHOT_TOTAL_BYTES < progress.snapshot_total_bytes + file.2.2.length)
    (process_error "snapshot exceeds limit")
  return ⟨counted.1, progress.snapshot_total_bytes + file.2.2.length, some file.1⟩

/-- `re.fullmatch` of a digest. -/
def is_digest_str : PyStr → Bool
  | .text value => is_digest value
  | .surrogates _ _ => false

/-- A file whose path and mode are text, as those are that the loop has counted. -/
def text_file : PyStr × PyStr × Bytes → Option TreeFile
  | (.text path, .text mode, content) => some (path, mode, content)
  | _ => none

/-- The last check of the bounds: the files are those of the tree. -/
def check_snapshot_binding (x : RawInput) : Except Exn Unit :=
  match x.snapshot_tree_digest with
  | none => raise_if (x.snapshot_files ≠ []) (process_error "snapshot binding is invalid")
  | some expected => do
    let files ← or_raise (process_error "snapshot binding is invalid") (x.snapshot_files.mapM text_file)
    let digest ← verifier_snapshot_tree_digest files
    raise_if (.text digest ≠ expected) (process_error "snapshot binding is invalid")

/-- `_check_verifier_request_bounds(verifier_input)`. -/
def _check_verifier_request_bounds (order : FieldOrder) (x : RawInput) : Except Exn Unit := do
  let total ← (order.texts x).foldlM counted_text 0
  raise_if (x.evidence_origin ≠ .text "local_test") (process_error "request fields are invalid")
  raise_if (x.snapshot_claim_digest.any fun digest =>
    x.snapshot_tree_digest.isNone || !is_digest_str digest) (process_error "request fields are invalid")
  raise_if (x.test_timeout_seconds < 1 ∨ 86400 < x.test_timeout_seconds)
    (process_error "request fields are invalid")
  raise_if (MAX_VERIFIER_REQUEST_FILES < x.declared_change_paths.length)
    (process_error "request size exceeds limit")
  let total ← x.declared_change_paths.foldlM bounded_path total
  raise_if (MAX_VERIFIER_REQUEST_COMMAND_ARGS < x.test_command.length)
    (process_error "request size exceeds limit")
  let total ← x.test_command.foldlM counted_text total
  raise_if (MAX_VERIFIER_REQUEST_FILES < x.verified_contents.length)
    (process_error "request file count exceeds limit")
  let totals ← x.verified_contents.foldlM bounded_content (total, 0)
  raise_if (MAX_VERIFIER_SNAPSHOT_FILES < x.snapshot_files.length)
    (process_error "snapshot file count exceeds limit")
  let _ ← x.snapshot_files.foldlM bounded_file ⟨totals.1, 0, none⟩
  check_snapshot_binding x

/-- `parse_verifier_request(data)`: the input of the request. -/
def parse_verifier_request (order : FieldOrder) (data : Bytes) : Except Exn RawInput := do
  let verifier_input ← read_request data
  _check_verifier_request_bounds order verifier_input
  return verifier_input

/-! ## The checks in their order -/

/-- A bound, and whether it is violated; or a text whose bytes are counted. -/
inductive Check : Type
  | bound (violated : Bool)
  | text (value : PyStr)

/-- A string with a lone surrogate. -/
def is_lone : PyStr → Bool
  | .text _ => false
  | .surrogates _ _ => true

/-- The check ends the parsing. -/
def Check.ends : Check → Bool
  | .bound violated => violated
  | .text value => is_lone value

/-- The result of a part of the bounds is that of its checks: the first that ends
the parsing raises its exception. -/
def Follows {α : Type} (x : Except Exn α) (cs : List Check) (a : α) : Prop :=
  match cs.find? Check.ends with
  | none => x = .ok a
  | some (.bound _) => ∃ e, x = .error e ∧ e.cls = .VerifierProcessError
  | some (.text _) => x = .error lone_surrogate

namespace Follows

variable {α β : Type}

theorem pure (a : α) : Follows (.ok a) [] a := rfl

theorem bind {x : Except Exn α} {f : α → Except Exn β} {cs ds : List Check} {a : α} {b : β}
    (hx : Follows x cs a) (hf : x = .ok a → Follows (f a) ds b) :
    Follows (x >>= f) (cs ++ ds) b := by
  unfold Follows at hx ⊢
  rw [List.find?_append]
  cases hcs : cs.find? Check.ends with
  | none =>
    rw [hcs] at hx
    obtain rfl : x = .ok a := hx
    exact hf rfl
  | some c =>
    rw [hcs] at hx
    cases c with
    | bound violated =>
      obtain ⟨e, rfl, he⟩ := hx
      exact ⟨e, rfl, he⟩
    | text value =>
      obtain rfl : x = .error lone_surrogate := hx
      rfl

/-- A bound and what follows it. -/
theorem guard {p : Prop} [Decidable p] {message : String} {f : Unit → Except Exn β} {ds : List Check}
    {b : β} (hf : ¬ p → Follows (f ()) ds b) :
    Follows (raise_if p (process_error message) >>= f) (.bound (decide p) :: ds) b := by
  have hbound : Follows (raise_if p (process_error message)) [.bound (decide p)] () := by
    by_cases hp : p
    · have hends : Check.ends (.bound (decide p)) = true := decide_eq_true hp
      simp only [Follows, List.find?_cons, hends]
      exact ⟨process_error message, if_pos hp, rfl⟩
    · simp [Follows, Check.ends, hp, raise_if]
  refine bind hbound fun hok => hf ?_
  exact raise_if_ok.mp hok

/-- A loop follows its steps. -/
theorem foldlM {σ : Type} {f : σ → α → Except Exn σ} {next : σ → α → σ} {checks : σ → α → List Check}
    (h : ∀ s a, Follows (f s a) (checks s a) (next s a)) {loop : σ → List α → List Check}
    (hnil : ∀ s, loop s [] = []) (hcons : ∀ s a rest, loop s (a :: rest) =
      checks s a ++ loop (next s a) rest)
    (l : List α) (s : σ) : Follows (l.foldlM f s) (loop s l) (l.foldl next s) := by
  induction l generalizing s with
  | nil =>
    rw [hnil]
    exact rfl
  | cons a rest ih =>
    rw [List.foldlM_cons, hcons]
    exact bind (h s a) fun _ => ih _

end Follows

/-- The bytes of a text. -/
def size : PyStr → ℕ
  | .text value => utf8_length value
  | .surrogates _ _ => 0

/-- The checks of a loop, where `next` is what a step hands to the next one. -/
def loop_checks {σ α : Type} (next : σ → α → σ) (checks : σ → α → List Check) : σ → List α → List Check
  | _, [] => []
  | s, a :: rest => checks s a ++ loop_checks next checks (next s a) rest

/-- The checks of `bounded_text`. -/
def text_checks (total : ℕ) (value : PyStr) : List Check :=
  [.bound (decide (MAX_VERIFIER_REQUEST_BYTES < value.codes.length)), .text value,
    .bound (decide (MAX_VERIFIER_REQUEST_BYTES < total + size value))]

/-- The count after a text. -/
def count (total : ℕ) (value : PyStr) : ℕ := total + size value

/-- The checks of a path. -/
def path_checks (total : ℕ) (path : PyStr) : List Check :=
  .bound (decide (MAX_VERIFIER_REQUEST_PATH_BYTES < path.codes.length)) :: (text_checks total path ++
    [.bound (decide (MAX_VERIFIER_REQUEST_PATH_BYTES < size path))])

/-- The counts after an entry of `verified_contents`. -/
def count_content (totals : ℕ × ℕ) (entry : PyStr × PyStr) : ℕ × ℕ :=
  (totals.1 + size entry.1 + size entry.2, totals.2 + size entry.2)

/-- The checks of an entry of `verified_contents`. -/
def content_checks (totals : ℕ × ℕ) (entry : PyStr × PyStr) : List Check :=
  .bound (decide (MAX_VERIFIER_REQUEST_PATH_BYTES < entry.1.codes.length)) ::
    .bound (decide (MAX_VERIFIER_REQUEST_CONTENT_BYTES < entry.2.codes.length)) ::
    (text_checks totals.1 entry.1 ++ (text_checks (totals.1 + size entry.1) entry.2 ++
      [.bound (decide (MAX_VERIFIER_REQUEST_PATH_BYTES < size entry.1)),
        .bound (decide (MAX_VERIFIER_REQUEST_CONTENT_BYTES < size entry.2)),
        .bound (decide (MAX_VERIFIER_REQUEST_CONTENTS_BYTES < totals.2 + size entry.2))]))

/-- What the loop over `snapshot_files` knows after a file. -/
def count_file (progress : SnapshotProgress) (file : PyStr × PyStr × Bytes) : SnapshotProgress :=
  ⟨progress.total_text_bytes + size file.1, progress.snapshot_total_bytes + file.2.2.length,
    some file.1⟩

/-- The checks of an entry of `snapshot_files`. -/
def file_checks (progress : SnapshotProgress) (file : PyStr × PyStr × Bytes) : List Check :=
  .bound (decide (MAX_VERIFIER_SNAPSHOT_PATH_BYTES < file.1.codes.length ∨
      _is_safe_snapshot_path file.1 = false ∨ file.2.1 ∉ [PyStr.text "100644", .text "100755"])) ::
    (text_checks progress.total_text_bytes file.1 ++
      [.bound (decide (MAX_VERIFIER_SNAPSHOT_PATH_BYTES < size file.1)),
        .bound (decide ((progress.previous_path.any fun previous => decide (file.1.le previous)) =
          true)),
        .bound (decide (MAX_VERIFIER_SNAPSHOT_FILE_BYTES < file.2.2.length)),
        .bound (decide (MAX_VERIFIER_SNAPSHOT_TOTAL_BYTES <
          progress.snapshot_total_bytes + file.2.2.length))])

/-- The files are not those of the tree. -/
def unbound (x : RawInput) : Bool :=
  match check_snapshot_binding x with
  | .ok () => false
  | .error _ => true

/-- The checks of `_check_verifier_request_bounds`, in their order. -/
def RawInput.checks (order : FieldOrder) (x : RawInput) : List Check :=
  let texts := order.texts x
  let total := texts.foldl count 0
  let paths := x.declared_change_paths.foldl count total
  let command := x.test_command.foldl count paths
  let totals := x.verified_contents.foldl count_content (command, 0)
  loop_checks count text_checks 0 texts ++
    (.bound (decide (x.evidence_origin ≠ .text "local_test")) ::
    .bound (decide ((x.snapshot_claim_digest.any fun digest =>
      x.snapshot_tree_digest.isNone || !is_digest_str digest) = true)) ::
    .bound (decide (x.test_timeout_seconds < 1 ∨ 86400 < x.test_timeout_seconds)) ::
    .bound (decide (MAX_VERIFIER_REQUEST_FILES < x.declared_change_paths.length)) ::
    (loop_checks count path_checks total x.declared_change_paths ++
    (.bound (decide (MAX_VERIFIER_REQUEST_COMMAND_ARGS < x.test_command.length)) ::
    (loop_checks count text_checks paths x.test_command ++
    (.bound (decide (MAX_VERIFIER_REQUEST_FILES < x.verified_contents.length)) ::
    (loop_checks count_content content_checks (command, 0) x.verified_contents ++
    (.bound (decide (MAX_VERIFIER_SNAPSHOT_FILES < x.snapshot_files.length)) ::
    (loop_checks count_file file_checks ⟨totals.1, 0, none⟩ x.snapshot_files ++
    [.bound (unbound x)]))))))))

/-! ### Each part follows its checks -/

theorem follows_encoded (value : PyStr) :
    Follows (encoded_length value) [.text value] (size value) := by
  cases value <;> simp [Follows, Check.ends, is_lone, encoded_length, size]

theorem follows_text (total : ℕ) (value : PyStr) :
    Follows (bounded_text total value) (text_checks total value) (count total value, size value) := by
  refine Follows.guard fun _ => ?_
  refine Follows.bind (follows_encoded value) fun _ => ?_
  exact Follows.guard fun _ => Follows.pure _

theorem follows_counted (total : ℕ) (value : PyStr) :
    Follows (counted_text total value) (text_checks total value) (count total value) := by
  have h : Follows (counted_text total value) (text_checks total value ++ []) (count total value) :=
    Follows.bind (follows_text total value) fun _ => Follows.pure _
  rwa [List.append_nil] at h

theorem follows_path (total : ℕ) (path : PyStr) :
    Follows (bounded_path total path) (path_checks total path) (count total path) := by
  refine Follows.guard fun _ => ?_
  refine Follows.bind (follows_text total path) fun _ => ?_
  exact Follows.guard fun _ => Follows.pure _

theorem follows_content (totals : ℕ × ℕ) (entry : PyStr × PyStr) :
    Follows (bounded_content totals entry) (content_checks totals entry)
      (count_content totals entry) := by
  refine Follows.guard fun _ => Follows.guard fun _ => ?_
  refine Follows.bind (follows_text totals.1 entry.1) fun _ => ?_
  refine Follows.bind (follows_text _ entry.2) fun _ => ?_
  exact Follows.guard fun _ => Follows.guard fun _ => Follows.guard fun _ => Follows.pure _

theorem follows_file (progress : SnapshotProgress) (file : PyStr × PyStr × Bytes) :
    Follows (bounded_file progress file) (file_checks progress file) (count_file progress file) := by
  refine Follows.guard fun _ => ?_
  refine Follows.bind (follows_text _ file.1) fun _ => ?_
  exact Follows.guard fun _ => Follows.guard fun _ => Follows.guard fun _ => Follows.guard fun _ =>
    Follows.pure _

theorem follows_loop {σ α : Type} {f : σ → α → Except Exn σ} {next : σ → α → σ}
    {checks : σ → α → List Check} (h : ∀ s a, Follows (f s a) (checks s a) (next s a)) (l : List α)
    (s : σ) : Follows (l.foldlM f s) (loop_checks next checks s l) (l.foldl next s) :=
  Follows.foldlM h (fun _ => rfl) (fun _ _ _ => rfl) l s

theorem follows_binding (x : RawInput) :
    Follows (check_snapshot_binding x) [.bound (unbound x)] () := by
  have hraises : ∀ e, check_snapshot_binding x = .error e → e.cls = .VerifierProcessError := by
    intro e h
    unfold check_snapshot_binding at h
    split at h
    · unfold raise_if at h
      split_ifs at h
      exact Except.error.inj h ▸ rfl
    · cases hfiles : x.snapshot_files.mapM text_file with
      | none => rw [hfiles] at h; exact Except.error.inj h ▸ rfl
      | some files =>
        rw [hfiles, or_raise, ok_bind, SignedVerifier.tree_digest_ok, ok_bind] at h
        unfold raise_if at h
        split_ifs at h
        exact Except.error.inj h ▸ rfl
  -- the binding is one bound, whatever of it fails
  unfold Follows
  cases hbinding : check_snapshot_binding x with
  | ok u =>
    have hbound : unbound x = false := by rw [unbound, hbinding]
    simp [Check.ends, hbound]
  | error e =>
    have hbound : unbound x = true := by rw [unbound, hbinding]
    simp only [List.find?_cons, Check.ends, hbound]
    exact ⟨e, rfl, hraises e hbinding⟩

/-- **The bounds follow their checks.** -/
theorem bounds_follow (order : FieldOrder) (x : RawInput) :
    Follows (_check_verifier_request_bounds order x) (x.checks order) () := by
  refine Follows.bind (follows_loop follows_counted _ _) fun _ => ?_
  refine Follows.guard fun _ => Follows.guard fun _ => Follows.guard fun _ => Follows.guard fun _ => ?_
  refine Follows.bind (follows_loop follows_path _ _) fun _ => Follows.guard fun _ => ?_
  refine Follows.bind (follows_loop follows_counted _ _) fun _ => Follows.guard fun _ => ?_
  refine Follows.bind (follows_loop follows_content _ _) fun _ => Follows.guard fun _ => ?_
  exact Follows.bind (follows_loop follows_file _ _) fun _ => follows_binding x

/-! ## What the parser raises -/

/-- The parser's own error. -/
abbrev Own {α : Type} (x : Except Exn α) : Prop := Raises (· = .VerifierProcessError) x

theorem own_if (p : Prop) [Decidable p] (message : String) :
    Own (raise_if p (process_error message)) :=
  Raises.raise_if rfl

theorem own_or {α : Type} (message : String) (value : Option α) :
    Own (or_raise (process_error message) value) :=
  Raises.or_raise rfl

section Shape

variable {α : Type} {c : Codec Exn α}

theorem own_field (hc : c.OnlyRaises (·.cls = .VerifierProcessError)) (message : String) (raw : Json)
    (key : String) : Own (c.field (process_error message) raw key) :=
  fun _ h => Codec.OnlyRaises.field (P := fun e => e.cls = .VerifierProcessError) rfl hc h

theorem str_raises : str.OnlyRaises (·.cls = .VerifierProcessError) := Codec.OnlyRaises.any_str rfl

theorem str_list_raises : str_list.OnlyRaises (·.cls = .VerifierProcessError) :=
  Codec.OnlyRaises.list rfl str_raises

theorem contents_raises : contents.OnlyRaises (·.cls = .VerifierProcessError) :=
  Codec.OnlyRaises.list rfl (Codec.OnlyRaises.pair rfl str_raises str_raises)

theorem encoded_files_raises : encoded_files.OnlyRaises (·.cls = .VerifierProcessError) :=
  have htext : (Codec.any_str snapshot_error).OnlyRaises (·.cls = .VerifierProcessError) :=
    Codec.OnlyRaises.any_str rfl
  Codec.OnlyRaises.list rfl (Codec.OnlyRaises.triple rfl htext htext htext)

end Shape

theorem decode_base64_raises (value : PyStr) : Own (_decode_snapshot_base64 value) := by
  cases value with
  | surrogates codes lone => exact Raises.error rfl
  | text value =>
    refine (own_or _ _).bind fun decoded _ => (own_if _ _).bind fun _ _ => ?_
    exact Raises.ok decoded

theorem decode_files_raises (encoded : List (PyStr × PyStr × PyStr)) : Own (decode_files encoded) := by
  induction encoded with
  | nil => exact Raises.ok _
  | cons entry rest ih =>
    exact (decode_base64_raises _).bind fun _ _ => ih.bind fun _ _ => Raises.ok _

theorem read_input_raises (raw : Json) : Own (read_input raw) := by
  have hstr := own_field str_raises "request fields are invalid" raw
  have hoptional := own_field (str_raises.nullable fun _ h => nomatch h) "request fields are invalid" raw
  have hlist := own_field str_list_raises "request fields are invalid" raw
  refine (hstr _).bind fun _ _ => (hstr _).bind fun _ _ => (hstr _).bind fun _ _ => ?_
  refine (hstr _).bind fun _ _ => (hstr _).bind fun _ _ => (hstr _).bind fun _ _ => ?_
  refine (hstr _).bind fun _ _ => (hstr _).bind fun _ _ => ?_
  refine (hoptional _).bind fun _ _ => (hoptional _).bind fun _ _ => (hoptional _).bind fun _ _ => ?_
  refine (own_field (Codec.OnlyRaises.int rfl) _ raw _).bind fun _ _ => (own_if _ _).bind fun _ _ => ?_
  refine (hlist _).bind fun _ _ => (hlist _).bind fun _ _ => ?_
  refine (own_field contents_raises _ raw _).bind fun _ _ => ?_
  refine (own_field encoded_files_raises _ raw _).bind fun encoded _ => ?_
  exact (decode_files_raises encoded).bind fun _ _ => Raises.ok _

theorem read_payload_raises (payload : Json) : Own (read_payload payload) := by
  refine (own_if _ _).bind fun _ _ => ?_
  refine (own_field (Codec.OnlyRaises.int rfl) _ payload _).bind fun version _ => ?_
  refine (own_if _ _).bind fun _ _ => (own_if _ _).bind fun _ _ => (own_or _ _).bind fun raw _ => ?_
  exact (own_if _ _).bind fun _ _ => read_input_raises raw

/-- The parser refuses a request of another shape with its own error. -/
theorem read_request_raises (data : Bytes) : Own (read_request data) :=
  (own_if _ _).bind fun _ _ => (own_or _ _).bind fun _ _ => (own_or _ _).bind fun payload _ =>
    read_payload_raises payload

/-- Every text with a lone surrogate stands behind a bound that is violated. -/
def Shielded (cs : List Check) : Prop :=
  ∀ front value rest, cs = front ++ .text value :: rest → is_lone value = true → .bound true ∈ front

theorem shielded_iff {cs : List Check} :
    Shielded cs ↔ ∀ value, cs.find? Check.ends ≠ some (.text value) := by
  constructor
  · intro h value hfind
    obtain ⟨hends, front, rest, rfl, hfront⟩ := List.find?_eq_some_iff_append.mp hfind
    have hbound := hfront _ (h front value rest rfl hends)
    exact nomatch hbound
  · rintro h front value rest rfl hlone
    cases hfront : front.find? Check.ends with
    | none =>
      refine absurd ?_ (h value)
      have hends : Check.ends (.text value) = true := hlone
      rw [List.find?_append, hfront, Option.none_or, List.find?_cons_of_pos hends]
    | some c =>
      cases c with
      | text other =>
        refine absurd ?_ (h other)
        rw [List.find?_append, hfront, Option.some_or]
      | bound violated =>
        have hviolated : violated = true := List.find?_some hfront
        rw [← hviolated]
        exact List.mem_of_find?_eq_some hfront

/-- **When the parser raises nothing but its own error**: of a request of the right
shape, every counted text with a lone surrogate stands behind a bound that the
request violates. -/
theorem parse_raises_own_iff (order : FieldOrder) (data : Bytes) :
    Own (parse_verifier_request order data) ↔
      ∀ x, read_request data = .ok x → Shielded (x.checks order) := by
  cases hread : read_request data with
  | error e =>
    have hparse : parse_verifier_request order data = .error e := by
      rw [parse_verifier_request, hread, error_bind]
    have hcls : e.cls = .VerifierProcessError := read_request_raises data e hread
    rw [hparse]
    exact iff_of_true (Raises.error hcls) fun x h => absurd h (by simp)
  | ok x =>
    have hfollow := bounds_follow order x
    have hparse : parse_verifier_request order data =
        _check_verifier_request_bounds order x >>= fun _ => .ok x := by
      rw [parse_verifier_request, hread, ok_bind]
      rfl
    simp only [Except.ok.injEq, forall_eq', shielded_iff]
    rw [hparse]
    unfold Follows at hfollow
    -- the first check that ends the parse decides the class: a bound raises the module's own error,
    -- a text raises the codec's
    cases hfind : (x.checks order).find? Check.ends with
    | none =>
      rw [hfind] at hfollow
      rw [show _check_verifier_request_bounds order x = .ok () from hfollow]
      exact iff_of_true (Raises.ok x) nofun
    | some c =>
      rw [hfind] at hfollow
      cases c with
      | bound violated =>
        obtain ⟨e, herror, he⟩ := hfollow
        rw [herror]
        exact iff_of_true (Raises.error he) nofun
      | text value =>
        rw [show _check_verifier_request_bounds order x = .error lone_surrogate from hfollow]
        refine iff_of_false (fun h => ?_) fun h => h value rfl
        exact nomatch h lone_surrogate rfl

/-! ## A lone surrogate in a request -/

theorem lone_code : [0xd800].any is_surrogate = true := by decide

/-- What JSON reads from `"\ud800"`. -/
def lone_id : PyStr := .surrogates [0xd800] lone_code

/-- A request whose other texts are empty. -/
def lone_input : RawInput :=
  ⟨lone_id, .text "", .text "", none, [], [], [], 1, .text "", .text "", .text "", .text "",
    .text "local_test", none, [], none⟩

/-- The dict `verifier_input` of the request. -/
def lone_fields : List (PyStr × Json) :=
  [(.text "base_commit", .str (.text "")), (.text "declared_change_paths", .arr []),
    (.text "evidence_digest", .str (.text "")), (.text "evidence_origin", .str (.text "local_test")),
    (.text "patch_digest", .str (.text "")), (.text "process_id", .str lone_id),
    (.text "replay_result_digest", .null), (.text "repository_id", .str (.text "")),
    (.text "snapshot_claim_digest", .null), (.text "snapshot_files", .arr []),
    (.text "snapshot_tree_digest", .null), (.text "test_command", .arr []),
    (.text "test_timeout_seconds", .int 1), (.text "verification_digest", .str (.text "")),
    (.text "verified_contents", .arr []), (.text "verified_contents_digest", .str (.text ""))]

/-- Its JSON. -/
def lone_json : Json :=
  .obj [(.text "schema_version", .int 3), (.text "verifier_input", .obj lone_fields)]

theorem reads_lone {hooks : Json.Hooks} : Json.Reads hooks true (.str lone_id) := by
  intro n rest _ _
  have hscan := Json.scan_string_unicode_escape (u := 0xd800) (by decide) ('"' :: rest)
  have hend : Json.scan_string ('"' :: rest) = some ([], rest) := by
    rw [Json.scan_string.eq_def]
    exact if_pos rfl
  have hparse : Json.parse_string (Json.unicode_escape 0xd800 ++ '"' :: rest) =
    some (lone_id, rest) := by
    rw [Json.parse_string, hscan, hend]
    rfl
  have hprint : Json.print true (.str lone_id) = '"' :: (Json.unicode_escape 0xd800 ++ ['"']) := rfl
  rw [hprint]
  simp only [List.cons_append, List.append_assoc, List.nil_append, Json.parse_value_with, hparse,
    Option.map_some]

theorem lone_wf : lone_json.wf := by
  simp [lone_json, lone_fields, Json.wf, Json.wf_fields, Json.wf_items]

theorem lone_plain : lone_json.plain := by
  simp [lone_json, lone_fields, Json.plain, Json.plain_fields, Json.plain_items]

theorem lone_reads : Json.Reads Json.strict_hooks true lone_json := by
  have hkeeps : Json.strict_hooks.Keeps := fun _ h => if_pos h
  have hencodable : ∀ f ∈ lone_fields, Json.encodable_str false f.1 = true ∧
      (f.2.encodable false = true ∨ f.2 = .str lone_id) := by
    simp [lone_fields, Json.encodable_str, Json.encodable, Json.encodable_items]
    decide
  have hwf : (Json.obj lone_fields).wf := lone_wf.2.2.1
  have hplain : Json.plain_fields lone_fields := lone_plain.2.1
  have hinner : Json.Reads Json.strict_hooks true (.obj lone_fields) := by
    refine Json.Reads.obj hkeeps hwf.1 hwf.2 hplain fun f hf => ⟨(hencodable f hf).1, ?_⟩
    rcases (hencodable f hf).2 with htext | hlone
    · exact Json.reads_encodable hkeeps (Json.wf_fields_iff.mp hwf.2 f hf)
        (Json.plain_fields_iff.mp hplain f hf) htext
    · rw [hlone]
      exact reads_lone
  refine Json.Reads.obj hkeeps lone_wf.1 lone_wf.2 lone_plain ?_
  intro f hf
  rcases List.mem_cons.mp hf with rfl | hf
  · exact ⟨rfl, Json.reads_encodable hkeeps trivial trivial rfl⟩
  · rw [List.mem_singleton.mp hf]
    exact ⟨rfl, hinner⟩

set_option maxRecDepth 100000 in
theorem lone_length : (lone_json.print true).length ≤ 1000 := by
  simp only [lone_json, lone_fields, Json.print, Json.print_fields, Json.print_items,
    Json.print_str, PyStr.codes,
    lone_id]
  decide

/-- The fields in the order of the code's sets. -/
def declared_order : FieldOrder := ⟨STR_FIELDS, OPTIONAL_STR_FIELDS, .refl _, .refl _⟩

/-- The bytes of the request: ASCII, with the surrogate escaped. -/
def lone_bytes : Bytes := encode_utf8 (String.ofList (lone_json.print true))

theorem lone_payload : read_payload lone_json = .ok lone_input := by
  rfl

theorem lone_read : read_request lone_bytes = .ok lone_input := by
  have hlength : lone_bytes.length ≤ MAX_VERIFIER_REQUEST_BYTES := by
    have hprint := lone_length
    have hwidth := width_le (lone_json.print true)
    rw [lone_bytes, length_encode_utf8, String.toList_ofList, MAX_VERIFIER_REQUEST_BYTES]
    omega
  have hdecode : decode_utf8 lone_bytes = some (String.ofList (lone_json.print true)) :=
    decode_utf8_some.mpr rfl
  have hloads : Json.loads_with Json.strict_hooks (String.ofList (lone_json.print true)) =
    some lone_json :=
    Json.loads_with_reads lone_wf lone_plain lone_reads
  rw [read_request, raise_if_ok.mpr (Nat.not_lt.mpr hlength), ok_bind, or_raise_ok.mpr hdecode, ok_bind,
    or_raise_ok.mpr hloads, ok_bind, lone_payload]

theorem lone_bounds : _check_verifier_request_bounds declared_order lone_input =
    .error lone_surrogate := by
  rfl

/-- `"process_id": "\ud800"`: the error of `value.encode("utf-8")` leaves the parser. -/
theorem lone_surrogate_escapes :
    parse_verifier_request declared_order lone_bytes = .error lone_surrogate ∧
      ¬ Own (parse_verifier_request declared_order lone_bytes) := by
  have hparse : parse_verifier_request declared_order lone_bytes = .error lone_surrogate := by
    rw [parse_verifier_request, lone_read, ok_bind, lone_bounds, error_bind]
  exact ⟨hparse, fun h => nomatch h _ hparse⟩

/-! ## What is read -/

/-- `[path, mode, base64.b64encode(content).decode("ascii")]`. -/
def encode_file (file : PyStr × PyStr × Bytes) : PyStr × PyStr × PyStr :=
  (file.1, file.2.1, .text (b64encode file.2.2))

/-- The fields of an input on the wire. -/
def RawInput.fields (x : RawInput) : List (String × Json) :=
  [("process_id", str.json x.process_id), ("repository_id", str.json x.repository_id),
    ("base_commit", str.json x.base_commit),
    ("snapshot_tree_digest", optional_str.json x.snapshot_tree_digest),
    ("declared_change_paths", str_list.json x.declared_change_paths),
    ("verified_contents", contents.json x.verified_contents),
    ("test_command", str_list.json x.test_command),
    ("test_timeout_seconds", whole.json x.test_timeout_seconds),
    ("patch_digest", str.json x.patch_digest), ("evidence_digest", str.json x.evidence_digest),
    ("verification_digest", str.json x.verification_digest),
    ("verified_contents_digest", str.json x.verified_contents_digest),
    ("evidence_origin", str.json x.evidence_origin),
    ("replay_result_digest", optional_str.json x.replay_result_digest),
    ("snapshot_files", encoded_files.json (x.snapshot_files.map encode_file)),
    ("snapshot_claim_digest", optional_str.json x.snapshot_claim_digest)]

theorem decode_base64_str_ok {value : PyStr} {content : Bytes} :
    _decode_snapshot_base64 value = .ok content ↔ value = .text (b64encode content) := by
  cases value with
  | surrogates codes lone => simp [_decode_snapshot_base64]
  | text value => rw [_decode_snapshot_base64, decode_base64_ok, PyStr.text.injEq]

theorem decode_files_ok {encoded : List (PyStr × PyStr × PyStr)}
    {files : List (PyStr × PyStr × Bytes)} :
    decode_files encoded = .ok files ↔ encoded = files.map encode_file := by
  induction encoded generalizing files with
  | nil => cases files <;> simp [decode_files]
  | cons entry rest ih =>
    obtain ⟨path, mode, text⟩ := entry
    simp only [decode_files, bind_ok, decode_base64_str_ok, ih, pure, Except.pure, Except.ok.injEq]
    constructor
    · rintro ⟨content, rfl, files, rfl, rfl⟩
      rfl
    · intro h
      cases files with
      | nil => cases h
      | cons file files =>
        rw [List.map_cons, List.cons.injEq] at h
        obtain ⟨hfile, hrest⟩ := h
        obtain ⟨path', mode', content⟩ := file
        simp only [encode_file, Prod.mk.injEq] at hfile
        obtain ⟨rfl, rfl, rfl⟩ := hfile
        exact ⟨content, rfl, files, hrest, rfl⟩

/-- The parser reads the fields that are on the wire. -/
theorem read_input_ok {raw : Json} {x : RawInput} :
    read_input raw = .ok x ↔
      x.evidence_origin = .text "local_test" ∧ ∀ f ∈ x.fields, raw.get? f.1 = some f.2 := by
  simp only [RawInput.fields, List.forall_mem_cons, List.not_mem_nil, false_imp_iff, implies_true,
    and_true, read_input, bind_ok, Codec.field_ok, exists_unit, raise_if_ok, not_not, ne_eq,
    decode_files_ok, pure, Except.pure, Except.ok.injEq]
  constructor
  · rintro ⟨_, h1, _, h2, _, h3, _, h4, _, h5, _, h6, _, h7, _, h8, _, h9, _, h10, _, h11, _, h12,
      horigin, _, h13, _, h14, _, h15, _, h16, _, rfl, rfl⟩
    exact ⟨horigin, h1, h2, h3, h9, h13, h15, h14, h12, h4, h5, h6, h7, h8, h10, h16, h11⟩
  · rintro ⟨horigin, h1, h2, h3, h9, h13, h15, h14, h12, h4, h5, h6, h7, h8, h10, h16, h11⟩
    exact ⟨_, h1, _, h2, _, h3, _, h4, _, h5, _, h6, _, h7, _, h8, _, h9, _, h10, _, h11, _, h12,
      horigin, _, h13, _, h14, _, h15, _, h16, _, rfl, rfl⟩

end VerifierRequestErrors

end AppContracts
