/-
The bytes of one file as GitHub answers for them: `parse_github_blob` of
`github_snapshot.py`.

The content is Base64 in lines. An answer is accepted when it decodes to bytes of the
size and the object ID that the listing of the tree names.
-/
import AppContracts.ArchiveReader
import AppContracts.GitTree
import AppContracts.WireSize

set_option autoImplicit false

namespace AppContracts.GitHubSnapshot

open SecretScan
open ArchiveReader (blob_claim blob_claim_ok checked)

/-- `_MAX_BLOB_WIRE_BYTES`. -/
def MAX_BLOB_WIRE_BYTES : ℕ := MAX_SNAPSHOT_FILE_BYTES * 2

/-- `GitHubSnapshotError("github snapshot: blob response is invalid")`. -/
def response_error : Exn := snapshot_error "blob response is invalid"

/-- `GitHubSnapshotError("github snapshot: blob size exceeds limit")`. -/
def limit_error : Exn := snapshot_error "blob size exceeds limit"

/-! ## The content of a response -/

/-- `encoded.encode("ascii")`, a character for each byte, `none` when it raises. -/
def encode_ascii : PyStr → Option (List Char)
  | .text s => if s.toList.all (fun c => c.toNat < 128) then some s.toList else none
  | .surrogates _ _ => none

/-- `wire_bytes.replace(b"\r\n", b"\n")`. -/
def replace_crlf : List Char → List Char
  | [] => []
  | [c] => [c]
  | c :: d :: rest =>
    if c = '\r' ∧ d = '\n' then '\n' :: replace_crlf rest else c :: replace_crlf (d :: rest)

/-- `wire_bytes.split(b"\n")`, without the empty line after the last end of a line. -/
def blob_lines (wire_bytes : List Char) : List (List Char) :=
  let lines := wire_bytes.splitOn '\n'
  if lines.getLast? = some [] then lines.dropLast else lines

/-- The wire bytes without the ends of their lines. -/
def join_lines (wire_bytes : List Char) : Except Exn (List Char) :=
  if '\n' ∈ wire_bytes then do
    raise_if ([] ∈ blob_lines wire_bytes) response_error
    return (blob_lines wire_bytes).flatten
  else .ok wire_bytes

/-- `encoded`: the text of the response. -/
def encoded_content : Option Json → Option (List Char)
  | some (.str encoded) => encode_ascii encoded
  | _ => none

/-- From `encoded = response.get("content")` to `content`. -/
def decode_content (encoded : Option Json) : Except Exn Bytes := do
  let wire_bytes ← or_raise response_error (encoded_content encoded)
  raise_if (MAX_BLOB_WIRE_BYTES < wire_bytes.length) limit_error
  raise_if ('\r' ∈ replace_crlf wire_bytes) response_error
  let joined ← join_lines (replace_crlf wire_bytes)
  or_raise response_error (Base64.decode joined)

/-! ## The response -/

/-- The checks on the entry. -/
def check_blob_entry : Arg GitHubTreeEntry → Except Exn GitHubTreeEntry
  | .other => .error (snapshot_error "blob entry is invalid")
  | .of entry => do
    raise_if (entry.entry_type ≠ "blob") (snapshot_error "blob entry is invalid")
    raise_if (entry.size.any (· < 0)) (snapshot_error "blob entry is invalid")
    raise_if (entry.size.any ((MAX_SNAPSHOT_FILE_BYTES : ℤ) < ·)) limit_error
    return entry

/-- `content_bytes_used`, an `int` that is not negative. -/
def bytes_used : Json → Option ℤ
  | .int used => if used < 0 then none else some used
  | _ => none

/-- `type(value) is int and value == n`. -/
def is_count (n : ℤ) : Option Json → Bool
  | some (.int k) => k == n
  | _ => false

/-- `value == text`. -/
def is_text (text : String) : Option Json → Bool
  | some (.str value) => value == .text text
  | _ => false

/-- `parse_github_blob(entry, response, content_bytes_used=..)`. -/
def parse_github_blob (entry : Arg GitHubTreeEntry) (response content_bytes_used : Json) :
    Except Exn GitHubBlobClaim := do
  let entry ← check_blob_entry entry
  raise_if (response.is_dict = false) response_error
  raise_if (is_text "base64" (response.get? "encoding") = false) response_error
  let used ← or_raise response_error (bytes_used content_bytes_used)
  let content ← decode_content (response.get? "content")
  raise_if (is_count content.length (response.get? "size") = false) (snapshot_error "blob size mismatch")
  raise_if (entry.size.any (· ≠ (content.length : ℤ))) (snapshot_error "blob size mismatch")
  raise_if (MAX_SNAPSHOT_FILE_BYTES < content.length) limit_error
  raise_if ((MAX_SNAPSHOT_TOTAL_BYTES : ℤ) < used + content.length)
    (snapshot_error "blob contents exceed limit")
  raise_if (git_blob_oid content ≠ entry.sha) (snapshot_error "blob OID mismatch")
  raise_if (is_text entry.sha (response.get? "sha") = false) (snapshot_error "blob OID mismatch")
  blob_claim ⟨entry.path, entry.mode, entry.sha, content.length, content, sha256_bytes (octets content),
    "github_rest_api_claim"⟩

/-! ## Lines -/

/-- Text in lines of at least one character. A line ends in `\n` or in `\r\n`, the
last one may end without either. -/
inductive Wrapped : List Char → List Char → Prop
  | nil : Wrapped [] []
  | last {line : List Char} : line ≠ [] → Wrapped line line
  | line {line rest wire ending : List Char} : line ≠ [] → ending = ['\n'] ∨ ending = ['\r', '\n'] →
      Wrapped rest wire → Wrapped (line ++ rest) (line ++ (ending ++ wire))

/-- Characters other than the ends of lines are kept. -/
theorem replace_crlf_append {line : List Char} (h : '\r' ∉ line) (rest : List Char) :
    replace_crlf (line ++ rest) = line ++ replace_crlf rest := by
  induction line with
  | nil => rfl
  | cons c line ih =>
    rw [List.mem_cons, not_or] at h
    have hkept := ih h.2
    cases hrest : line ++ rest with
    | nil =>
      rw [hrest] at hkept
      rw [List.cons_append, hrest, List.cons_append, ← hkept]
      rfl
    | cons d tail =>
      rw [List.cons_append, hrest, replace_crlf, if_neg fun heq => h.1 heq.1.symm, ← hrest, hkept,
        List.cons_append]

/-- Either end of a line becomes `\n`. -/
theorem replace_crlf_ending {ending : List Char} (h : ending = ['\n'] ∨ ending = ['\r', '\n'])
    (rest : List Char) : replace_crlf (ending ++ rest) = '\n' :: replace_crlf rest := by
  rcases h with rfl | rfl
  · cases rest with
    | nil => rfl
    | cons c rest =>
      rw [List.cons_append, List.nil_append, replace_crlf, if_neg fun heq => absurd heq.1 (by decide)]
  · rw [List.cons_append, List.cons_append, List.nil_append, replace_crlf, if_pos ⟨rfl, rfl⟩]

/-- What `split` makes of wrapped text: its lines, and an empty one after a last end. -/
structure Lines (text wire : List Char) (lines : List (List Char)) : Prop where
  ne_nil : [] ∉ lines
  flatten : lines.flatten = text
  split : wire.splitOn '\n' = lines ∨ wire.splitOn '\n' = lines ++ [[]]
  single : '\n' ∉ wire → wire = text
  clean : '\r' ∉ wire

/-- Wrapped text is split into its lines. -/
theorem Wrapped.lines {text wire : List Char} (h : Wrapped text wire)
    (hclean : ∀ c ∈ text, c ≠ '\n' ∧ c ≠ '\r') : ∃ lines, Lines text (replace_crlf wire) lines := by
  -- on the wrapping: each line ending that the text does not have is taken off again
  induction h with
  | nil => exact ⟨[], List.not_mem_nil, rfl, .inr rfl, fun _ => rfl, List.not_mem_nil⟩
  | @last line hne =>
    have hr : '\r' ∉ line := fun hmem => (hclean _ hmem).2 rfl
    have hn : '\n' ∉ line := fun hmem => (hclean _ hmem).1 rfl
    have hkept : replace_crlf line = line := by
      have := replace_crlf_append hr []
      rwa [List.append_nil, replace_crlf, List.append_nil] at this
    rw [hkept]
    refine ⟨[line], fun hmem => hne (List.mem_singleton.mp hmem).symm, List.flatten_singleton, .inl ?_,
      fun _ => rfl, hr⟩
    exact List.splitOn_eq_singleton hn
  | @line line rest wire ending hne hending _ ih =>
    obtain ⟨lines, hlines⟩ := ih fun c hc => hclean c (List.mem_append_right _ hc)
    have hr : '\r' ∉ line := fun hmem => (hclean _ (List.mem_append_left _ hmem)).2 rfl
    have hn : '\n' ∉ line := fun hmem => (hclean _ (List.mem_append_left _ hmem)).1 rfl
    rw [replace_crlf_append hr, replace_crlf_ending hending]
    have hsplit : (line ++ '\n' :: replace_crlf wire).splitOn '\n' =
        line :: (replace_crlf wire).splitOn '\n' := by
      rw [List.splitOn_append_cons_self, List.splitOn_eq_singleton hn, List.singleton_append]
    refine ⟨line :: lines, ?_, ?_, ?_, ?_, ?_⟩
    · rw [List.mem_cons, not_or]
      exact ⟨fun heq => hne heq.symm, hlines.ne_nil⟩
    · rw [List.flatten_cons, hlines.flatten]
    · rw [hsplit]
      exact hlines.split.imp (congrArg (line :: ·)) (congrArg (line :: ·))
    · intro habsent
      exact absurd (List.mem_append_right line List.mem_cons_self) habsent
    · rw [List.mem_append, List.mem_cons, not_or, not_or]
      exact ⟨hr, by decide, hlines.clean⟩

/-- **Lines are joined to the text they were cut from.** -/
theorem join_wrapped {text wire : List Char} (h : Wrapped text wire)
    (hclean : ∀ c ∈ text, c ≠ '\n' ∧ c ≠ '\r') :
    '\r' ∉ replace_crlf wire ∧ join_lines (replace_crlf wire) = .ok text := by
  obtain ⟨lines, hlines⟩ := h.lines hclean
  refine ⟨hlines.clean, ?_⟩
  by_cases hmem : '\n' ∈ replace_crlf wire
  · have hkept : blob_lines (replace_crlf wire) = lines := by
      rw [blob_lines]
      rcases hlines.split with hsplit | hsplit
      · rw [hsplit]
        refine if_neg fun hlast => hlines.ne_nil (List.mem_of_getLast? hlast)
      · rw [hsplit]
        simp only [List.getLast?_append, List.getLast?_singleton, Option.some_or, if_true,
          List.dropLast_concat]
    rw [join_lines, if_pos hmem, hkept, raise_if_ok.mpr hlines.ne_nil, ok_bind, hlines.flatten]
    rfl
  · rw [join_lines, if_neg hmem, hlines.single hmem]

/-! ## Blobs of the provider -/

/-- The entry of a listing for a file with this content. -/
structure GitHubTreeEntry.Names (entry : GitHubTreeEntry) (content : Bytes) : Prop where
  entry_type : entry.entry_type = "blob"
  path : safe_tree_path entry.path = true
  mode : entry.mode ∈ BLOB_MODES
  sha : entry.sha = git_blob_oid content
  size : entry.size.all (· = (content.length : ℤ)) = true

/-- The answer for a file with this content, as wrapped on the wire. -/
structure BlobAnswer (response : Json) (content : Bytes) (wire : List Char) : Prop where
  encoding : response.get? "encoding" = some (.str (.text "base64"))
  wired : response.get? "content" = some (.str (.text (String.ofList wire)))
  size : response.get? "size" = some (.int content.length)
  sha : response.get? "sha" = some (.str (.text (git_blob_oid content)))

theorem Wrapped.ascii {text wire : List Char} (h : Wrapped text wire) (hascii : ∀ c ∈ text, c.toNat < 128) :
    ∀ c ∈ wire, c.toNat < 128 := by
  induction h with
  | nil => exact List.forall_mem_nil _
  | last => exact hascii
  | @line line rest wire ending _ hending _ ih =>
    intro c hc
    rcases List.mem_append.mp hc with hc | hc
    · exact hascii c (List.mem_append_left _ hc)
    · rcases List.mem_append.mp hc with hc | hc
      · have hall : ∀ c ∈ ending, c.toNat < 128 := by
          rcases hending with rfl | rfl
          · exact List.forall_mem_singleton.mpr (by decide)
          · exact List.forall_mem_cons.mpr ⟨by decide, List.forall_mem_singleton.mpr (by decide)⟩
        exact hall c hc
      · exact ih (fun c hc => hascii c (List.mem_append_right _ hc)) c hc

theorem encode_plain (content : Bytes) :
    ∀ c ∈ Base64.encode content, c.toNat < 128 ∧ c ≠ '\n' ∧ c ≠ '\r' := by
  intro c hc
  have hbare := bare_b64encode content
  rw [b64encode, String.toList_ofList] at hbare
  have hc := List.all_eq_true.mp hbare c hc
  simp only [is_bare, Bool.and_eq_true, decide_eq_true_eq] at hc
  refine ⟨by omega, ?_, ?_⟩
  · rintro rfl
    exact absurd hc.1.1.1 (by decide)
  · rintro rfl
    exact absurd hc.1.1.1 (by decide)

/-- Wrapped content is ASCII text. -/
theorem encoded_wrapped {content : Bytes} {wire : List Char} (h : Wrapped (Base64.encode content) wire) :
    encoded_content (some (.str (.text (String.ofList wire)))) = some wire := by
  have hascii := h.ascii fun c hc => (encode_plain content c hc).1
  rw [encoded_content, encode_ascii, String.toList_ofList]
  exact if_pos (List.all_eq_true.mpr fun c hc => decide_eq_true (hascii c hc))

/-- **Wrapped content is decoded.** -/
theorem decode_wrapped {content : Bytes} {wire : List Char} (h : Wrapped (Base64.encode content) wire)
    (hbytes : wire.length ≤ MAX_BLOB_WIRE_BYTES) :
    decode_content (some (.str (.text (String.ofList wire)))) = .ok content := by
  have hplain := encode_plain content
  obtain ⟨hclean, hjoined⟩ := join_wrapped h fun c hc => (hplain c hc).2
  rw [decode_content, encoded_wrapped h, or_raise_ok.mpr rfl, ok_bind, raise_if_ok.mpr (Nat.not_lt.mpr hbytes),
    ok_bind, raise_if_ok.mpr hclean, ok_bind, hjoined, ok_bind, Base64.decode_encode]
  rfl

theorem checked_entry {entry : GitHubTreeEntry} {content : Bytes} (h : entry.Names content)
    (hsize : content.length ≤ MAX_SNAPSHOT_FILE_BYTES) : check_blob_entry (.of entry) = .ok entry := by
  have hbounds : ¬ entry.size.any (· < 0) = true ∧
      ¬ entry.size.any ((MAX_SNAPSHOT_FILE_BYTES : ℤ) < ·) = true := by
    have hall := h.size
    cases hentry : entry.size with
    | none => exact ⟨nofun, nofun⟩
    | some n =>
      rw [hentry, Option.all_some, decide_eq_true_eq] at hall
      simp only [Option.any_some, decide_eq_true_eq]
      omega
  rw [check_blob_entry, raise_if_ok.mpr (not_not.mpr h.entry_type), ok_bind,
    raise_if_ok.mpr hbounds.1, ok_bind, raise_if_ok.mpr hbounds.2]
  rfl

/-- **Every wrapped form within the limits is parsed.** -/
theorem parse_wrapped {entry : GitHubTreeEntry} {response : Json} {content : Bytes} {wire : List Char}
    {used : ℕ} (hentry : entry.Names content) (hanswer : BlobAnswer response content wire)
    (hwire : Wrapped (Base64.encode content) wire) (hsize : content.length ≤ MAX_SNAPSHOT_FILE_BYTES)
    (hbytes : wire.length ≤ MAX_BLOB_WIRE_BYTES) (htotal : used + content.length ≤ MAX_SNAPSHOT_TOTAL_BYTES) :
    ∃ blob, parse_github_blob (.of entry) response (.int used) = .ok blob ∧ blob.path = entry.path ∧
      blob.mode = entry.mode ∧ blob.content = content ∧ blob.sha = git_blob_oid content := by
  have horigin : "github_rest_api_claim" ∈ REMOTE_SNAPSHOT_EVIDENCE_ORIGINS := by decide
  have hoid' : is_oid entry.sha = true := by
    rw [hentry.sha]
    exact is_oid_hexdigest _
  let fields : BlobFields := ⟨entry.path, entry.mode, entry.sha, content.length, content,
    sha256_bytes (octets content), "github_rest_api_claim"⟩
  have hfields : fields.post_init = .ok () :=
    BlobFields.post_init_ok.mpr ⟨hentry.path, hentry.mode, hoid', rfl, hsize,
      is_digest_sha256_bytes _, rfl, hentry.sha, horigin⟩
  refine ⟨⟨fields, hfields⟩, ?_, rfl, rfl, rfl, hentry.sha⟩
  have hdict : ¬ response.is_dict = false := by
    intro hdict
    have hnone : response.get? "encoding" = none := by
      cases response <;> first | rfl | cases hdict
    rw [hanswer.encoding] at hnone
    cases hnone
  have hencoding : ¬ is_text "base64" (response.get? "encoding") = false := by
    rw [hanswer.encoding]
    decide
  have hused : bytes_used (.int used) = some (used : ℤ) := by
    rw [bytes_used]
    exact if_neg (by omega)
  have hcount : ¬ is_count content.length (response.get? "size") = false := by
    rw [hanswer.size, is_count, beq_self_eq_true]
    rintro ⟨⟩
  have hlisted : ¬ entry.size.any (· ≠ (content.length : ℤ)) = true := by
    have hall := hentry.size
    cases hsize : entry.size with
    | none => rintro ⟨⟩
    | some n =>
      rw [hsize, Option.all_some, decide_eq_true_eq] at hall
      rw [Option.any_some, decide_eq_true_eq, not_not]
      exact hall
  have hsha : ¬ is_text entry.sha (response.get? "sha") = false := by
    rw [hanswer.sha, is_text, hentry.sha, beq_self_eq_true]
    rintro ⟨⟩
  have hsum : ¬ (MAX_SNAPSHOT_TOTAL_BYTES : ℤ) < used + content.length := by omega
  have hoid : ¬ git_blob_oid content ≠ entry.sha := not_not.mpr hentry.sha.symm
  -- the checks in their order, each with the fact above it that passes it
  rw [parse_github_blob, checked_entry hentry hsize, ok_bind, raise_if_ok.mpr hdict, ok_bind,
    raise_if_ok.mpr hencoding, ok_bind, or_raise_ok.mpr hused, ok_bind, hanswer.wired,
    decode_wrapped hwire hbytes, ok_bind, raise_if_ok.mpr hcount, ok_bind, raise_if_ok.mpr hlisted,
    ok_bind, raise_if_ok.mpr (Nat.not_lt.mpr hsize), ok_bind, raise_if_ok.mpr hsum, ok_bind,
    raise_if_ok.mpr hoid, ok_bind, raise_if_ok.mpr hsha, ok_bind]
  exact blob_claim_ok.mpr rfl

/-- An accepted blob holds the decoded content, which has the entry's object ID. -/
theorem parse_github_blob_ok {entry : GitHubTreeEntry} {response used : Json} {blob : GitHubBlobClaim}
    (h : parse_github_blob (.of entry) response used = .ok blob) :
    decode_content (response.get? "content") = .ok blob.content ∧ blob.sha = entry.sha ∧
      git_blob_oid blob.content = entry.sha := by
  rw [parse_github_blob] at h
  obtain ⟨checked, hchecked, h⟩ := bind_ok.mp h
  simp only [check_blob_entry, raise_if_bind, pure, Except.pure, Except.ok.injEq] at hchecked
  obtain ⟨-, -, -, rfl⟩ := hchecked
  obtain ⟨-, h⟩ := raise_if_bind.mp h
  obtain ⟨-, h⟩ := raise_if_bind.mp h
  obtain ⟨bytes, -, h⟩ := bind_ok.mp h
  obtain ⟨content, hcontent, h⟩ := bind_ok.mp h
  simp only [raise_if_bind, not_not, ne_eq, blob_claim_ok] at h
  obtain ⟨-, -, -, -, hoid, -, hfields⟩ := h
  rw [hfields]
  exact ⟨hcontent, rfl, hoid⟩

theorem own_if {p : Prop} [Decidable p] {e : Exn} (h : e.cls = .GitHubSnapshotError) :
    Raises (· = .GitHubSnapshotError) (raise_if p e) := Raises.raise_if h

theorem own_or {α : Type} {e : Exn} {x : Option α} (h : e.cls = .GitHubSnapshotError) :
    Raises (· = .GitHubSnapshotError) (or_raise e x) := Raises.or_raise h

/-- What the parser raises is its own error. -/
theorem own_blob (entry : Arg GitHubTreeEntry) (response used : Json) :
    Raises (· = .GitHubSnapshotError) (parse_github_blob entry response used) := by
  have hdecode : ∀ encoded, Raises (· = .GitHubSnapshotError) (decode_content encoded) := by
    intro encoded
    refine (own_or rfl).bind fun wire _ => (own_if rfl).bind fun _ _ =>
      (own_if rfl).bind fun _ _ => Raises.bind ?_ fun joined _ => own_or rfl
    rw [join_lines]
    split_ifs
    · exact (own_if rfl).bind fun _ _ => Raises.ok _
    · exact Raises.ok _
  have hentry : Raises (· = .GitHubSnapshotError) (check_blob_entry entry) := by
    cases entry with
    | other => exact Raises.error rfl
    | of entry =>
      exact (own_if rfl).bind fun _ _ => (own_if rfl).bind fun _ _ =>
        (own_if rfl).bind fun _ _ => Raises.ok _
  have hclaim : ∀ fields, Raises (· = .GitHubSnapshotError) (blob_claim fields) := by
    intro fields
    refine Raises.bind ?_ fun _ _ => Raises.ok _
    intro e he
    rw [checked] at he
    split at he
    · exact nomatch he
    · rename_i e' hpost
      obtain rfl := Except.error.inj he
      rw [BlobFields.post_init] at hpost
      split_ifs at hpost <;> exact Except.error.inj hpost ▸ rfl
  -- one check after another, each of which raises the class or goes on
  exact hentry.bind fun _ _ => (own_if rfl).bind fun _ _ => (own_if rfl).bind fun _ _ =>
    (own_or rfl).bind fun _ _ => (hdecode _).bind fun _ _ => (own_if rfl).bind fun _ _ =>
    (own_if rfl).bind fun _ _ => (own_if rfl).bind fun _ _ =>
    (own_if rfl).bind fun _ _ => (own_if rfl).bind fun _ _ =>
    (own_if rfl).bind fun _ _ => hclaim _

/-- **What is parsed of an answer.** A file within the limits comes back with its bytes
and their object ID, however its Base64 text is wrapped into lines, as long as the wrapped
text is within its own limit. An answer whose content has another object ID is refused. -/
theorem blob_responses :
    (∀ (entry : GitHubTreeEntry) (response : Json) (content : Bytes) (wire : List Char) (used : ℕ),
      entry.Names content → BlobAnswer response content wire → Wrapped (Base64.encode content) wire →
      content.length ≤ MAX_SNAPSHOT_FILE_BYTES → used + content.length ≤ MAX_SNAPSHOT_TOTAL_BYTES →
      wire.length ≤ MAX_BLOB_WIRE_BYTES →
      ∃ blob, parse_github_blob (.of entry) response (.int used) = .ok blob ∧ blob.path = entry.path ∧
        blob.mode = entry.mode ∧ blob.content = content ∧ blob.sha = git_blob_oid content) ∧
    ∀ (entry : GitHubTreeEntry) (response used : Json) (content : Bytes),
      decode_content (response.get? "content") = .ok content → git_blob_oid content ≠ entry.sha →
      ∃ e, parse_github_blob (.of entry) response used = .error e ∧ e.cls = .GitHubSnapshotError := by
  constructor
  · intro entry response content wire used hentry hanswer hwire hsize htotal hbytes
    exact parse_wrapped hentry hanswer hwire hsize hbytes htotal
  · intro entry response used content hcontent hoid
    cases hparsed : parse_github_blob (.of entry) response used with
    | error e => exact ⟨e, rfl, own_blob _ _ _ e hparsed⟩
    | ok blob =>
      obtain ⟨hcontent', -, hoid'⟩ := parse_github_blob_ok hparsed
      obtain rfl := Except.ok.inj (hcontent.symm.trans hcontent')
      exact absurd hoid' hoid

/-- The entry of a file `a`. -/
def blob_entry (content : Bytes) : GitHubTreeEntry := ⟨"a", "100644", "blob", git_blob_oid content, none⟩

theorem blob_entry_names (content : Bytes) : (blob_entry content).Names content :=
  ⟨rfl, (by decide : safe_tree_path "a" = true), (by decide : "100644" ∈ BLOB_MODES), rfl, rfl⟩

/-- The answer for it. -/
def blob_response (content : Bytes) (wire : List Char) : Json :=
  .obj [(.text "encoding", .str (.text "base64")), (.text "content", .str (.text (String.ofList wire))),
    (.text "size", .int content.length), (.text "sha", .str (.text (git_blob_oid content)))]

theorem blob_response_answer (content : Bytes) (wire : List Char) :
    BlobAnswer (blob_response content wire) content wire := ⟨rfl, rfl, rfl, rfl⟩

/-- Two bytes in two lines, with both ends, and another file's answer. -/
theorem two_lines_parsed :
    (∃ blob, parse_github_blob (.of (blob_entry [0x68, 0x69]))
      (blob_response [0x68, 0x69] "aG\nk=\r\n".toList) (.int 0) = .ok blob ∧
        blob.content = [0x68, 0x69]) ∧
    ∃ e, parse_github_blob (.of (blob_entry [])) (blob_response [0x68, 0x69] "aGk=".toList) (.int 0) =
      .error e := by
  have hwire : Wrapped (Base64.encode [0x68, 0x69]) "aG\nk=\r\n".toList :=
    @Wrapped.line ['a', 'G'] ['k', '='] ['k', '=', '\r', '\n'] ['\n'] nofun (.inl rfl)
      (@Wrapped.line ['k', '='] [] [] ['\r', '\n'] nofun (.inr rfl) .nil)
  have hdecoded : decode_content (some (.str (.text (String.ofList "aGk=".toList)))) = .ok [0x68, 0x69] :=
    decode_wrapped (@Wrapped.last ['a', 'G', 'k', '='] nofun) (by decide)
  have hoid : git_blob_oid [0x68, 0x69] ≠ git_blob_oid [] := by decide +kernel
  obtain ⟨blob, hblob, -, -, hcontent, -⟩ := blob_responses.1 (blob_entry [0x68, 0x69]) _ [0x68, 0x69] _ 0
    (blob_entry_names _) (blob_response_answer _ "aG\nk=\r\n".toList) hwire (by decide) (by decide)
    (by decide)
  obtain ⟨e, he, -⟩ := blob_responses.2 (blob_entry []) (blob_response [0x68, 0x69] "aGk=".toList)
    (.int 0) [0x68, 0x69] hdecoded hoid
  exact ⟨⟨blob, hblob, hcontent⟩, e, he⟩

/-- Every character in a line of its own. -/
def narrow (text : List Char) : List Char := text.flatMap fun c => [c, '\n']

theorem wrapped_narrow (text : List Char) : Wrapped text (narrow text) := by
  induction text with
  | nil => exact .nil
  | cons c rest ih => exact @Wrapped.line [c] rest _ ['\n'] nofun (.inl rfl) ih

/-- A file of the largest size, one character a line, is refused for the length of the
wrapped text. -/
theorem narrow_lines_refused : ∃ (content : Bytes) (wire : List Char),
    content.length = MAX_SNAPSHOT_FILE_BYTES ∧ Wrapped (Base64.encode content) wire ∧
      (blob_entry content).Names content ∧ BlobAnswer (blob_response content wire) content wire ∧
      parse_github_blob (.of (blob_entry content)) (blob_response content wire) (.int 0) =
        .error limit_error := by
  let content : Bytes := List.replicate MAX_SNAPSHOT_FILE_BYTES 0
  have hlength : content.length = MAX_SNAPSHOT_FILE_BYTES := List.length_replicate
  clear_value content
  have hwire := wrapped_narrow (Base64.encode content)
  -- a line of one character doubles the text, and the limit is the text's with its usual lines
  have hlong : MAX_BLOB_WIRE_BYTES < (narrow (Base64.encode content)).length := by
    have hdigits := length_b64encode content
    rw [b64encode, String.length_ofList] at hdigits
    have htwice : ∀ text : List Char, (narrow text).length = 2 * text.length := by
      intro text
      induction text with
      | nil => rfl
      | cons c rest ih =>
        show (narrow rest).length + 1 + 1 = 2 * (rest.length + 1)
        omega
    rw [htwice, hdigits, hlength, MAX_BLOB_WIRE_BYTES, MAX_SNAPSHOT_FILE_BYTES]
    decide
  refine ⟨content, _, hlength, hwire, blob_entry_names _, blob_response_answer _ _, ?_⟩
  have hdict : ¬ (blob_response content (narrow (Base64.encode content))).is_dict = false := by rintro ⟨⟩
  have hencoding : ¬ is_text "base64"
      ((blob_response content (narrow (Base64.encode content))).get? "encoding") = false := by
    rw [(blob_response_answer _ _).encoding]
    decide
  rw [parse_github_blob, checked_entry (blob_entry_names content) hlength.le, ok_bind,
    raise_if_ok.mpr hdict, ok_bind, raise_if_ok.mpr hencoding, ok_bind, or_raise_ok.mpr (by rfl), ok_bind,
    (blob_response_answer _ _).wired, decode_content, encoded_wrapped hwire, or_raise_ok.mpr rfl, ok_bind, raise_if,
    if_pos hlong]
  rfl

end AppContracts.GitHubSnapshot
