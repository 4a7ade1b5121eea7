/-
The idempotency key of a publication, and the two decoders of it:
`PublicationJournal.prepare` of `publication.py` and `find_by_idempotency_key` of
`github_app.py`.

A key is two quoted branches and a digest between slashes. Quoting is undone by
`unquote` and leaves no slash, so a key has one reading, and both decoders find
it. Neither looks at the head branch it reads: the keys that `prepare` takes are
those of every head in the agent's namespace. The reconciliation that follows the
second decoder does, and takes the heads of the agent's processes only.
-/
import AppContracts.PublicationBoundary
import AppContracts.PullRequestLookup

set_option autoImplicit false

namespace AppContracts.PublicationKeys

open Interleave PublicationSeed PublicationJournal
open GitHubPublication (Config is_sha256 actuator_error)
open PullRequestLookup (unquote unquote_parts unquote_run unquote_to_bytes is_quoted parse_key Listing
  Sought is_process_branch find_by_idempotency_key)

/-! ## Quoting -/

/-- A character of a quoted text. -/
def is_quoted_char (c : Char) : Bool := c.isAlphanum || c ∈ "._%~-".toList

set_option maxRecDepth 4096 in
theorem quote_byte_chars {b : ℕ} (hb : b < 256) : (quote_byte b).all is_quoted_char = true := by
  have hall : ∀ b < 256, (quote_byte b).all is_quoted_char = true := by decide
  exact hall b hb

theorem hex_value_upper_hex {n : ℕ} (hn : n < 16) : GitHubSnapshot.hex_value (upper_hex n) = some n := by
  have hall : ∀ n < 16, GitHubSnapshot.hex_value (upper_hex n) = some n := by decide
  exact hall n hn

set_option maxRecDepth 4096 in
/-- A byte that is kept is no percent sign. -/
theorem unreserved_char {b : ℕ} (hb : b < 256) (h : is_unreserved b = true) :
    Char.ofNat b ≠ '%' ∧ (Char.ofNat b).toNat = b := by
  have hall : ∀ b < 256, is_unreserved b = true → Char.ofNat b ≠ '%' ∧ (Char.ofNat b).toNat = b := by
    decide
  exact hall b hb h

theorem unquote_to_bytes_cons {c : Char} (h : c ≠ '%') (rest : List Char) :
    unquote_to_bytes (c :: rest) = UInt8.ofNat c.toNat :: unquote_to_bytes rest := by
  rw [unquote_to_bytes]
  rintro _ _ _ rfl
  exact absurd rfl h

/-- A quoted byte is read back. -/
theorem unquote_quote_byte {b : ℕ} (hb : b < 256) (rest : List Char) :
    unquote_to_bytes (quote_byte b ++ rest) = UInt8.ofNat b :: unquote_to_bytes rest := by
  unfold quote_byte
  split_ifs with hkept
  · obtain ⟨hne, hval⟩ := unreserved_char hb hkept
    rw [List.singleton_append, unquote_to_bytes_cons hne, hval]
  · show unquote_to_bytes ('%' :: upper_hex (b / 16) :: upper_hex (b % 16) :: rest) = _
    have hhigh := hex_value_upper_hex (n := b / 16) (by omega)
    have hlow := hex_value_upper_hex (n := b % 16) (by omega)
    simp only [unquote_to_bytes, hhigh, hlow]
    rw [show 16 * (b / 16) + b % 16 = b by omega]

theorem unquote_quote_bytes (value : Bytes) :
    unquote_to_bytes ((octets value).flatMap quote_byte) = value := by
  induction value with
  | nil => rfl
  | cons b rest ih =>
    show unquote_to_bytes ((b.toNat :: octets rest).flatMap quote_byte) = _
    rw [List.flatMap_cons, unquote_quote_byte b.toNat_lt, ih, UInt8.ofNat_toNat]

/-- The characters of a quoted text. -/
theorem quote_chars (value : String) : (quote value).toList.all is_quoted_char = true := by
  rw [quote, String.toList_ofList, List.all_flatMap, List.all_eq_true]
  intro b hb
  obtain ⟨u, -, rfl⟩ := List.mem_map.mp hb
  exact quote_byte_chars u.toNat_lt

theorem quoted_char_ascii {c : Char} (h : is_quoted_char c = true) : c.toNat < 0x80 ∧ c ≠ '/' := by
  have hall : "._%~-".toList.all fun c => decide (c.toNat < 0x80 ∧ c ≠ '/') := by decide
  rw [is_quoted_char, Bool.or_eq_true, decide_eq_true_eq] at h
  rcases h with halpha | hmark
  · simp only [Char.isAlphanum, alpha_eq, upper_eq, lower_eq, Char.isDigit,
      Bool.or_eq_true, Bool.and_eq_true, decide_eq_true_eq, UInt32.le_iff_toNat_le] at halpha
    have hval : c.toNat = c.val.toNat := rfl
    refine ⟨by rw [hval]; simp at halpha; omega, ?_⟩
    rintro rfl
    exact absurd halpha (by decide)
  · exact of_decide_eq_true (List.all_eq_true.mp hall c hmark)

/-! ## Unquoting -/

/-- An ASCII text is one run. -/
theorem unquote_parts_ascii {run cs : List Char} (h : ∀ c ∈ cs, c.toNat < 0x80) :
    unquote_parts run cs = unquote_run (run ++ cs) := by
  induction cs generalizing run with
  | nil => rw [unquote_parts, List.append_nil]
  | cons c rest ih =>
    rw [unquote_parts, if_pos (h c List.mem_cons_self), ih fun d hd => h d (List.mem_cons_of_mem _ hd),
      List.append_assoc, List.singleton_append]

/-- **Unquoting undoes quoting.** -/
@[simp] theorem unquote_quote (value : String) : unquote (quote value) = value := by
  have hascii : ∀ c ∈ (quote value).toList, c.toNat < 0x80 := fun c hc =>
    (quoted_char_ascii (List.all_eq_true.mp (quote_chars value) c hc)).1
  have hbytes : unquote_to_bytes (quote value).toList = encode_utf8 value := by
    rw [quote, String.toList_ofList, ← octets_encode, unquote_quote_bytes]
  rw [unquote, unquote_parts_ascii hascii, List.nil_append, unquote_run, hbytes,
    decode_utf8_some.mpr rfl, String.ofList_toList]

/-- A text has one quoted form. -/
theorem quote_inj {a b : String} (h : quote a = quote b) : a = b := by
  rw [← unquote_quote a, h, unquote_quote]

theorem quote_ne_empty {value : String} (h : value ≠ "") : quote value ≠ "" := by
  intro heq
  refine h (quote_inj (heq.trans ?_))
  decide

/-! ## Keys -/

theorem quote_slash (value : String) : '/' ∉ (quote value).toList := fun hmem =>
  (quoted_char_ascii (List.all_eq_true.mp (quote_chars value) _ hmem)).2 rfl

theorem sha256_slash {digest : String} (h : is_sha256 digest = true) : '/' ∉ digest.toList := by
  simp only [is_sha256, Bool.and_eq_true, List.isPrefixOf_iff_prefix] at h
  obtain ⟨⟨⟨rest, hrest⟩, -⟩, hdigits⟩ := h
  rw [← hrest, ← String.length_toList, List.drop_left] at hdigits
  rw [← hrest, List.mem_append, not_or]
  refine ⟨by decide, fun hmem => ?_⟩
  exact absurd (List.all_eq_true.mp hdigits _ hmem) (by decide)

theorem sha256_ne_empty {digest : String} (h : is_sha256 digest = true) : digest ≠ "" := by
  rintro rfl
  exact nomatch h

/-- A head of the agent's namespace, a base branch and a digest, as a key names
them. -/
structure Named : Type where
  suffix : String
  base_branch : String
  digest : String
  nonempty : suffix ≠ ""
  base : is_base_branch base_branch = true
  sha256 : is_sha256 digest = true

namespace Named

/-- The head branch. -/
def branch (named : Named) : String := BRANCH_NAMESPACE ++ named.suffix

/-- The key. -/
def key (named : Named) : String :=
  publication_idempotency_key named.branch named.base_branch named.digest

/-- The three parts of a key. -/
def parts (named : Named) : List String := [quote named.suffix, quote named.base_branch, named.digest]

theorem removeprefix_branch (named : Named) :
    removeprefix named.branch BRANCH_NAMESPACE = named.suffix := by
  have hstart : BRANCH_NAMESPACE.toList.isPrefixOf named.branch.toList = true := by
    rw [branch, String.toList_append, List.isPrefixOf_iff_prefix]
    exact List.prefix_append _ _
  have hdrop : named.branch.toList.drop BRANCH_NAMESPACE.length = named.suffix.toList := by
    rw [branch, String.toList_append, ← String.length_toList, List.drop_left]
  rw [ removeprefix, if_pos hstart, hdrop, String.ofList_toList]

theorem parts_slash (named : Named) : ∀ part ∈ named.parts, '/' ∉ part.toList := by
  simp only [parts, List.mem_cons, List.not_mem_nil, or_false, forall_eq_or_imp, forall_eq]
  exact ⟨quote_slash _, quote_slash _, sha256_slash named.sha256⟩

theorem key_eq (named : Named) : named.key = "publish/" ++ join_path named.parts := by
  rw [key, publication_idempotency_key, removeprefix_branch]
  apply String.toList_inj.mp
  simp [join_path, parts, List.intercalate, String.toList_append]

theorem split_key (named : Named) : split_path named.key = "publish" :: named.parts := by
  have hjoin : named.key = join_path ("publish" :: named.parts) := by
    rw [key_eq]
    apply String.toList_inj.mp
    simp [join_path, parts, List.intercalate, String.toList_append]
  rw [hjoin]
  refine split_join_path (List.forall_mem_cons.mpr ⟨by decide, named.parts_slash⟩) (by rintro ⟨⟩)

theorem key_ne (named : Named) : PyStr.text named.key ≠ .text "" := by
  intro heq
  have hlist := congrArg String.toList (PyStr.text.inj heq)
  rw [key_eq] at hlist
  exact absurd hlist (by simp)

/-- **A key has one reading.** -/
theorem key_inj {a b : Named} (h : a.key = b.key) : a = b := by
  have hparts := (a.split_key.symm.trans (congrArg split_path h)).trans b.split_key
  simp only [parts, List.cons.injEq, true_and, and_true] at hparts
  obtain ⟨hsuffix, hbase, hdigest⟩ := hparts
  obtain ⟨suffix, base_branch, digest⟩ := a
  obtain ⟨suffix', base_branch', digest'⟩ := b
  obtain rfl : suffix = suffix' := quote_inj hsuffix
  obtain rfl : base_branch = base_branch' := quote_inj hbase
  obtain rfl : digest = digest' := hdigest
  rfl

end Named

/-! ## The decoder of the channel -/

theorem is_quoted_quote {value : String} (h : value ≠ "") : is_quoted (quote value) = true := by
  rw [is_quoted, Bool.and_eq_true]
  exact ⟨bne_iff_ne.mpr (quote_ne_empty h), quote_chars value⟩

theorem base_ne_empty {base : String} (h : is_base_branch base = true) : base ≠ "" := by
  rintro rfl
  exact nomatch h

/-- The channel reads a key as it was made. -/
theorem parse_named (named : Named) :
    parse_key named.key = .ok (named.branch, named.base_branch, named.digest) := by
  have hquoted := is_quoted_quote named.nonempty
  have hbase := is_quoted_quote (base_ne_empty named.base)
  simp only [parse_key, named.split_key, Named.parts, hquoted, hbase, named.sha256, unquote_quote,
    named.base, raise_if, ne_eq, not_true_eq_false, or_self, Bool.true_eq_false, if_false, ok_bind]
  rfl

/-- The lookup of a key goes on with the publication the key was made for. -/
theorem find_named (config : Config) (listing : Listing) (named : Named) :
    find_by_idempotency_key config listing (.of (.text named.key)) none none =
      PullRequestLookup.reconcile_pull_request config listing (.of (.text named.branch))
        (.of (.text named.base_branch)) (.of (.text named.key)) (.of (.text named.digest)) := by
  simp only [find_by_idempotency_key, PullRequestLookup.key_text, parse_named,
    PullRequestLookup.check_expected, raise_if, ok_bind, ne_eq, not_true_eq_false, false_and, if_false]

/-- The publication that the lookup seeks, where the head is a process branch. -/
def Named.sought (named : Named) (h : is_process_branch (.of (.text named.branch)) = true) : Sought :=
  ⟨named.branch, named.base_branch, named.digest, h, named.base, named.sha256⟩

/-- The lookup of a process branch answers with what the search for the publication finds. -/
theorem find_sought (config : Config) (listing : Listing) (named : Named)
    (h : is_process_branch (.of (.text named.branch)) = true) :
    find_by_idempotency_key config listing (.of (.text named.key)) none none =
      .ok (((named.sought h).find listing).toOption.join.map ((named.sought h).receipt config)) := by
  have hreconcile := (named.sought h).reconcile_eq config listing
  rw [find_named]
  refine Eq.trans hreconcile ?_
  cases (named.sought h).find listing with
  | error e => rfl
  | ok found => rfl

/-- The lookup of any other head is refused. -/
theorem find_refused (config : Config) (listing : Listing) (named : Named)
    (h : is_process_branch (.of (.text named.branch)) = false) :
    find_by_idempotency_key config listing (.of (.text named.key)) none none =
      .error (actuator_error "branch is outside the agent namespace") := by
  rw [find_named, PullRequestLookup.reconcile_pull_request, raise_if, if_pos h]
  rfl

/-! ## The decoder of the journal -/

/-- `(key[len("publish/"):] if key.startswith("publish/") else "").split("/")`. -/
def key_parts (key : PyStr) : List PyStr :=
  match key with
  | .text key =>
    if starts key "publish/" then
      (split_path (String.ofList (key.toList.drop "publish/".length))).map .text
    else [.text ""]
  | .surrogates codes _ =>
    if (PyStr.text "publish/").codes.isPrefixOf codes then
      ((codes.drop "publish/".length).splitOn 47).map PyStr.of_codes
    else [.text ""]

/-- A part of a key that is quoted: what it quotes. A lone surrogate stays in an
unquoted text, and `quote` does not encode it. -/
def canonical_part (part : PyStr) (error : Exn) : Except Exn String :=
  match part with
  | .text part => if quote (unquote part) = part then .ok (unquote part) else .error error
  | .surrogates _ _ => .error ⟨.UnicodeEncodeError, "surrogates not allowed"⟩

/-- `re.fullmatch(r"sha256:[0-9a-f]{64}", value)`. -/
def sha256_str (value : PyStr) (error : Exn) : Except Exn String :=
  match value with
  | .text value => if is_sha256 value then .ok value else .error error
  | .surrogates _ _ => .error error

/-- The base branch of a canonical key. -/
def key_base_branch (key : PyStr) : Except Exn String :=
  let refused := value_error "publication idempotency key is not canonical"
  match key_parts key with
  | [head, base, digest] => do
    raise_if (head = .text "" ∨ base = .text "" ∨ digest = .text "") refused
    let _head ← canonical_part head refused
    let base_branch ← canonical_part base refused
    let _digest ← sha256_str digest refused
    PullRequestLookup.check_base_branch (.of (.text base_branch)) refused
  | _ => .error refused

theorem key_parts_named (named : Named) : key_parts (.text named.key) = named.parts.map .text := by
  have hstart : starts named.key "publish/" = true := by
    rw [named.key_eq, starts, String.toList_append, List.isPrefixOf_iff_prefix]
    exact List.prefix_append _ _
  have hdrop : named.key.toList.drop "publish/".length = (join_path named.parts).toList := by
    rw [named.key_eq, String.toList_append, ← String.length_toList, List.drop_left]
  rw [key_parts, if_pos hstart, hdrop, String.ofList_toList, split_join_path named.parts_slash nofun]

theorem canonical_part_ok {part : PyStr} {error : Exn} {value : String} :
    canonical_part part error = .ok value ↔ part = .text (quote value) := by
  unfold canonical_part
  cases part with
  | surrogates codes lone => simp
  | text part =>
    simp only [PyStr.text.injEq]
    split_ifs with h
    · rw [Except.ok.injEq]
      constructor
      · rintro rfl
        exact h.symm
      · rintro rfl
        exact unquote_quote value
    · refine iff_of_false nofun ?_
      rintro rfl
      exact h (congrArg quote (unquote_quote value))

theorem sha256_str_ok {value : PyStr} {error : Exn} {digest : String} :
    sha256_str value error = .ok digest ↔ value = .text digest ∧ is_sha256 digest = true := by
  unfold sha256_str
  cases value with
  | surrogates codes lone => simp
  | text value =>
    simp only [PyStr.text.injEq]
    split_ifs with h
    · rw [Except.ok.injEq]
      exact ⟨fun heq => ⟨heq, heq ▸ h⟩, fun heq => heq.1⟩
    · refine iff_of_false nofun ?_
      rintro ⟨rfl, hsha⟩
      exact h hsha

theorem check_base_ok {value : Arg PyStr} {error : Exn} {base : String} :
    PullRequestLookup.check_base_branch value error = .ok base ↔
      value = .of (.text base) ∧ is_base_branch base = true := by
  unfold PullRequestLookup.check_base_branch
  split
  · split_ifs with h
    · simp only [Except.ok.injEq, Arg.of.injEq, PyStr.text.injEq]
      exact ⟨fun heq => ⟨heq, heq ▸ h⟩, fun heq => heq.1⟩
    · simp only [Arg.of.injEq, PyStr.text.injEq, false_iff, not_and]
      rintro rfl
      exact h
  · next hnot =>
    refine iff_of_false nofun ?_
    rintro ⟨rfl, -⟩
    exact hnot base rfl

/-- A string that is its own text has no lone surrogate. -/
theorem of_codes_text {codes : List ℕ} {text : String} (h : PyStr.of_codes codes = .text text) :
    codes.any is_surrogate = false := by
  unfold PyStr.of_codes at h
  split_ifs at h with hlone
  exact Bool.eq_false_iff.mpr hlone

/-- A key with a lone surrogate has one in a part. -/
theorem key_parts_lone {codes : List ℕ} {lone : codes.any is_surrogate = true} {a b c : String} :
    key_parts (.surrogates codes lone) ≠ [.text a, .text b, .text c] := by
  simp only [key_parts]
  split_ifs with hstart
  · intro hparts
    obtain ⟨rest, hcodes⟩ := List.isPrefixOf_iff_prefix.mp hstart
    have hlength : "publish/".length = (PyStr.text "publish/").codes.length := by decide
    rw [hlength, ← hcodes, List.drop_left] at hparts
    have hjoin : [47].intercalate (rest.splitOn 47) = rest := List.intercalate_splitOn 47
    obtain ⟨x, y, z, hsplit⟩ : ∃ x y z, rest.splitOn 47 = [x, y, z] := by
      refine List.length_eq_three.mp ?_
      rw [← List.length_map (f := PyStr.of_codes), hparts]
      rfl
    rw [hsplit] at hparts hjoin
    simp only [List.map_cons, List.map_nil, List.cons.injEq, and_true] at hparts
    have hx := of_codes_text hparts.1
    have hy := of_codes_text hparts.2.1
    have hz := of_codes_text hparts.2.2
    -- parts that are all texts join to a text, which a lone surrogate is not
    have hrest : rest.any is_surrogate = false := by
      rw [← hjoin]
      simp [List.intercalate, hx, hy, hz, is_surrogate]
    have hfront : (PyStr.text "publish/").codes.any is_surrogate = false := by decide
    rw [← hcodes, List.any_append, hfront, hrest] at lone
    cases lone
  · rintro ⟨⟩

/-- A key with three parts is these parts. -/
theorem key_parts_text {key a b c : String}
    (h : key_parts (.text key) = [.text a, .text b, .text c]) :
    key = "publish/" ++ join_path [a, b, c] := by
  simp only [key_parts] at h
  split_ifs at h with hstart
  · obtain ⟨rest, hkey⟩ := List.isPrefixOf_iff_prefix.mp hstart
    have hdrop : key.toList.drop "publish/".length = rest := by
      rw [← hkey, ← String.length_toList, List.drop_left]
    rw [hdrop] at h
    have hsplit : split_path (String.ofList rest) = [a, b, c] :=
      List.map_injective_iff.mpr (fun _ _ => PyStr.text.inj) h
    have hrest : (String.ofList rest).toList = rest := String.toList_ofList
    apply String.toList_inj.mp
    rw [String.toList_append, ← hsplit, join_split_path, hrest]
    exact hkey.symm
  · exact absurd h nofun

/-- **The journal takes the keys of the agent's namespace**, and reads the base
branch that a key was made from. -/
theorem key_base_branch_ok {key : PyStr} {base : String} :
    key_base_branch key = .ok base ↔
      ∃ named : Named, key = .text named.key ∧ named.base_branch = base := by
  constructor
  · intro h
    unfold key_base_branch at h
    match hparts : key_parts key with
    | [head, quoted, last] =>
      simp only [hparts, bind_ok, exists_unit, raise_if_ok, canonical_part_ok, sha256_str_ok,
        check_base_ok, Arg.of.injEq, PyStr.text.injEq] at h
      obtain ⟨hnonempty, suffix, rfl, base', rfl, digest, ⟨rfl, hdigest⟩, rfl, hbase⟩ := h
      have hsuffix : suffix ≠ "" := by
        rintro rfl
        exact hnonempty (.inl (by decide))
      refine ⟨⟨suffix, base', digest, hsuffix, hbase, hdigest⟩, ?_, rfl⟩
      cases key with
      -- the parts of such a key are not all texts
      | surrogates codes lone => exact absurd hparts key_parts_lone
      | text key => rw [key_parts_text hparts, Named.key_eq, Named.parts]
    | [] => simp [hparts] at h
    | [_] => simp [hparts] at h
    | [_, _] => simp [hparts] at h
    | _ :: _ :: _ :: _ :: _ => simp [hparts] at h
  · rintro ⟨named, rfl, rfl⟩
    have hbase := base_ne_empty named.base
    have hnonempty : ¬ (quote named.suffix = "" ∨ quote named.base_branch = "" ∨ named.digest = "") := by
      simp only [not_or]
      exact ⟨quote_ne_empty named.nonempty, quote_ne_empty hbase, sha256_ne_empty named.sha256⟩
    unfold key_base_branch
    rw [key_parts_named]
    simp only [Named.parts, List.map_cons, List.map_nil, bind_ok, exists_unit, raise_if_ok,
      canonical_part_ok, sha256_str_ok, check_base_ok, Arg.of.injEq, PyStr.text.injEq]
    exact ⟨hnonempty, _, rfl, _, rfl, _, ⟨rfl, named.sha256⟩, rfl, named.base⟩

/-! ## Preparing a publication -/

/-- `verified_files_digest is None`, or it is a digest. -/
def check_verified (verified_files_digest : Option (Arg PyStr)) : Except Exn (Option String) :=
  let refused := value_error "publication verified-files digest is invalid"
  match verified_files_digest with
  | none => .ok none
  | some .other => .error refused
  | some (.of digest) => do
    let digest ← sha256_str digest refused
    return some digest

/-- `self.get(process_id)`, or nothing for a `KeyError`. -/
def existing_row (process_id : PyStr) : Program (Option PublicationRecord) :=
  tryCatch (do
    let row ← get (.of process_id)
    return some row) fun e => if e.is_any [.KeyError] then return none else throw e

/-- The row is of the same payload. -/
def same_payload (existing : PublicationRecord) (key : PyStr) (request_digest : String)
    (repository_id : PyStr) (base_branch : String) (verified : Option String) : Prop :=
  .text existing.idempotency_key = key ∧ existing.request_digest = request_digest ∧
    .text existing.repository_id = repository_id ∧ existing.base_branch = some base_branch ∧
    (verified = none ∨ existing.verified_files_digest = verified)

instance (existing : PublicationRecord) (key : PyStr) (request_digest : String)
    (repository_id : PyStr) (base_branch : String) (verified : Option String) :
    Decidable (same_payload existing key request_digest repository_id base_branch verified) :=
  inferInstanceAs (Decidable (_ ∧ _))

/-- The parameters of the `INSERT`. -/
def new_row (process_id key : PyStr) (request_digest : String) (repository_id : PyStr)
    (base_branch : String) (verified : Option String) : Except Exn PublicationRecord := do
  let process_id ← bind_text process_id
  let key ← bind_text key
  let repository_id ← bind_text repository_id
  return ⟨process_id, key, request_digest, repository_id, some base_branch, .prepared, none, none, verified,
    none, none, none⟩

/-- The `INSERT`; its `IntegrityError` is a conflict. -/
def insert_row (row : PublicationRecord) : Program Unit := do
  let inserted ← step (.insert row)
  Prog.lift (raise_if (inserted = false) (value_error "publication payload conflict"))

/-- `prepare(process_id, idempotency_key=.., request_digest=.., repository_id=..,
verified_files_digest=..)`. -/
def prepare (process_id idempotency_key request_digest repository_id : Arg PyStr)
    (verified_files_digest : Option (Arg PyStr)) : Program PublicationRecord := do
  let process_id ← Prog.lift (nonempty_str process_id (value_error "publication process ID is invalid"))
  let key ← Prog.lift
    (nonempty_str idempotency_key (value_error "publication idempotency key is invalid"))
  let base_branch ← Prog.lift (key_base_branch key)
  let request_digest ← Prog.lift
    (nonempty_str request_digest (value_error "publication request digest is invalid"))
  let request_digest ← Prog.lift
    (sha256_str request_digest (value_error "publication request digest is not canonical"))
  let repository_id ← Prog.lift
    (nonempty_str repository_id (value_error "publication repository is invalid"))
  let verified ← Prog.lift (check_verified verified_files_digest)
  let existing ← existing_row process_id
  match existing with
  -- the process is prepared already: only the same payload is accepted again
  | some existing => do
    Prog.lift (raise_if
      (¬ same_payload existing key request_digest repository_id base_branch verified)
      (value_error "publication payload conflict"))
    return existing
  | none => do
    let row ← Prog.lift
      (new_row process_id key request_digest repository_id base_branch verified)
    insert_row row
    get (.of process_id)

section Prepare

variable {ω : Type} (outside : Outside ω)

/-- A sequence returns if each step does. -/
theorem exec_bind_ok {α β : Type} {p : Program α} {f : α → Program β} {w w' : World ω} {b : β} :
    (p.bind f).exec outside.answer w = (.ok b, w') ↔
      ∃ a w₁, p.exec outside.answer w = (.ok a, w₁) ∧ (f a).exec outside.answer w₁ = (.ok b, w') := by
  rw [Prog.exec_bind]
  cases p.exec outside.answer w with
  | mk result w₁ => cases result <;> simp

theorem exec_lift_ok {α : Type} {x : Except Exn α} {w w' : World ω} {a : α} :
    (Prog.lift x : Program α).exec outside.answer w = (.ok a, w') ↔ x = .ok a ∧ w' = w := by
  rw [Prog.exec_lift, Prod.mk.injEq]
  exact and_congr_right fun _ => eq_comm

theorem nonempty_str_ok {value : Arg PyStr} {e : Exn} {s : PyStr} :
    nonempty_str value e = .ok s ↔ value = .of s ∧ s ≠ .text "" := by
  unfold nonempty_str
  cases value with
  | other => simp
  | of t =>
    simp only [Arg.of.injEq]
    split_ifs with h
    · refine iff_of_false nofun ?_
      rintro ⟨rfl, hne⟩
      exact hne h
    · rw [Except.ok.injEq]
      exact ⟨fun heq => ⟨heq, heq ▸ h⟩, fun heq => heq.1⟩

/-- `get` reads the row of a process. -/
theorem get_text {process_id : String} (h : process_id ≠ "") (w : World ω) :
    (get (.of (.text process_id))).exec outside.answer w = (match w.db.row? process_id with
      | some row => .ok row
      | none => .error ⟨.KeyError, process_id⟩, w) := by
  have htext : PyStr.text process_id ≠ .text "" := fun heq => h (PyStr.text.inj heq)
  simp only [PublicationJournal.get, nonempty_str, htext, if_false, bind_text, Prog.bind_eq, Prog.lift_ok,
    Prog.ret_bind, step, Prog.perform_bind, Prog.exec, Outside.answer]
  cases w.db.row? process_id <;> rfl

theorem existing_row_ok {process_id : PyStr} (hne : process_id ≠ .text "") {w w' : World ω}
    {existing : Option PublicationRecord} :
    (existing_row process_id).exec outside.answer w = (.ok existing, w') ↔
      ∃ id, process_id = .text id ∧ existing = w.db.row? id ∧ w' = w := by
  cases process_id with
  -- such an ID cannot be bound, and `prepare` lets the error through
  | surrogates codes lone =>
    refine iff_of_false ?_ nofun
    have hraise : get (.of (.surrogates codes lone)) =
        .raise ⟨.UnicodeEncodeError, "surrogates not allowed"⟩ := by
      simp [PublicationJournal.get, nonempty_str, bind_text]
    rw [existing_row, hraise]
    simp [Prog.exec, Exn.is_any, ExnClass.is_a, ExnClass.derives, ExnClass.base]
  | text id =>
    have hid : id ≠ "" := fun heq => hne (congrArg _ heq)
    have hexec : (existing_row (.text id)).exec outside.answer w = (.ok (w.db.row? id), w) := by
      rw [existing_row, Prog.tryCatch_eq, Prog.exec_handle, Prog.bind_eq, Prog.exec_bind,
        get_text outside hid]
      cases w.db.row? id <;> rfl
    rw [hexec, Prod.mk.injEq, Except.ok.injEq]
    constructor
    · rintro ⟨rfl, rfl⟩
      exact ⟨id, rfl, rfl, rfl⟩
    · rintro ⟨_, heq, rfl, rfl⟩
      cases heq
      exact ⟨rfl, rfl⟩

theorem insert_row_ok {row : PublicationRecord} {w w' : World ω} :
    (insert_row row).exec outside.answer w = (.ok (), w') ↔
      (w.db.insert row).isSome ∧ w' = { w with db := (w.db.insert row).getD w.db } := by
  simp only [insert_row, Prog.bind_eq, step, Prog.perform_bind, Prog.exec, exec_lift_ok,
    Outside.answer]
  exact and_congr_left fun _ => raise_if_ok.trans (iff_of_eq (Bool.not_eq_false _))

theorem new_row_text {process_id key digest base : String} {repository_id : PyStr}
    {verified : Option String} {row : PublicationRecord} :
    new_row (.text process_id) (.text key) digest repository_id base verified = .ok row ↔
      ∃ repository, repository_id = .text repository ∧
        row = ⟨process_id, key, digest, repository, some base, .prepared, none, none, verified, none, none,
          none⟩ := by
  cases repository_id with
  | surrogates codes lone => simp [new_row, bind_text]
  | text repository => simp [new_row, bind_text, eq_comm]

/-- What `prepare` returns has the key and its base branch. -/
theorem prepare_sound {process_id key request_digest repository_id : Arg PyStr}
    {verified : Option (Arg PyStr)} {record : PublicationRecord} {w w' : World ω}
    (h : (prepare process_id key request_digest repository_id verified).exec outside.answer w =
      (.ok record, w')) :
    ∃ named : Named, key = .of (.text named.key) ∧ record.idempotency_key = named.key ∧
      record.base_branch = some named.base_branch := by
  simp only [prepare, Prog.bind_eq, exec_bind_ok, exec_lift_ok, nonempty_str_ok,
    key_base_branch_ok] at h
  obtain ⟨id, _, ⟨⟨rfl, hid⟩, rfl⟩, _, _, ⟨⟨rfl, -⟩, rfl⟩, _, _, ⟨⟨named, rfl, rfl⟩, rfl⟩, h⟩ := h
  obtain ⟨_, _, ⟨-, rfl⟩, digest, _, ⟨-, rfl⟩, repo, _, ⟨-, rfl⟩, files, _, ⟨-, rfl⟩, h⟩ := h
  obtain ⟨existing, w₁, hexisting, h⟩ := h
  refine ⟨named, rfl, ?_⟩
  rw [existing_row_ok outside hid] at hexisting
  obtain ⟨process, rfl, rfl, rfl⟩ := hexisting
  have hprocess : process ≠ "" := fun heq => hid (congrArg _ heq)
  -- the row found has the same payload; a new one is read back after its insertion
  cases hrow : w₁.db.row? process with
  | some existing =>
    simp only [hrow, exec_bind_ok, exec_lift_ok, raise_if_ok, not_not, exists_unit] at h
    obtain ⟨_, ⟨⟨hkey, -, -, hbase, -⟩, rfl⟩, hret⟩ := h
    cases hret
    exact ⟨PyStr.text.inj hkey, hbase⟩
  | none =>
    simp only [hrow, exec_bind_ok, exec_lift_ok] at h
    obtain ⟨row, _, ⟨hnew, rfl⟩, _, w₂, hinsert, hget⟩ := h
    rw [insert_row_ok] at hinsert
    obtain ⟨hsome, rfl⟩ := hinsert
    rw [new_row_text] at hnew
    obtain ⟨repository, rfl, rfl⟩ := hnew
    rw [get_text outside hprocess, row?_insert, if_pos ⟨hsome, rfl⟩] at hget
    cases hget
    exact ⟨rfl, rfl⟩

/-- **A key of the agent's namespace is prepared**, where the process and the key
are new and the other arguments are well formed. -/
theorem prepare_complete (named : Named) {process_id request_digest repository_id : String}
    {verified : Option String} {w : World ω} (hid : process_id ≠ "") (hdigest : is_sha256 request_digest = true)
    (hrepository : repository_id ≠ "") (hverified : ∀ digest ∈ verified, is_sha256 digest = true)
    (hprocess : ∀ row ∈ w.db.rows, row.process_id ≠ process_id)
    (hkey : ∀ row ∈ w.db.rows, row.idempotency_key ≠ named.key) :
    ∃ record w', (prepare (.of (.text process_id)) (.of (.text named.key)) (.of (.text request_digest))
        (.of (.text repository_id)) (verified.map fun digest => .of (.text digest))).exec
          outside.answer w = (.ok record, w') ∧
      record.idempotency_key = named.key ∧ record.base_branch = some named.base_branch := by
  obtain ⟨row, hrow⟩ : ∃ row : PublicationRecord, row = ⟨process_id, named.key, request_digest,
      repository_id, some named.base_branch, .prepared, none, none, verified, none, none, none⟩ := ⟨_, rfl⟩
  have htext : ∀ {s : String}, s ≠ "" → PyStr.text s ≠ .text "" := fun h heq => h (PyStr.text.inj heq)
  have hnone : w.db.row? process_id = none :=
    List.find?_eq_none.mpr fun other hother => by simpa using hprocess other hother
  have hsome : (w.db.insert row).isSome := by
    have hfresh : row.process_id ∉ w.db.rows.map PublicationRecord.process_id ∧
        row.idempotency_key ∉ w.db.rows.map PublicationRecord.idempotency_key := by
      rw [hrow]
      simpa using ⟨hprocess, hkey⟩
    rw [Db.insert, dif_pos hfresh]
    rfl
  have hcheck : check_verified (verified.map fun digest => .of (.text digest)) = .ok verified := by
    cases verified with
    | none => rfl
    | some digest => simp [check_verified, sha256_str, hverified digest rfl]
  have hexisting := (existing_row_ok outside (htext hid)).mpr ⟨process_id, rfl, hnone.symm, rfl⟩
  have hnew : new_row (.text process_id) (.text named.key) request_digest (.text repository_id)
      named.base_branch verified = .ok row := new_row_text.mpr ⟨repository_id, rfl, hrow⟩
  have hget : (get (.of (.text process_id))).exec outside.answer
      { w with db := (w.db.insert row).getD w.db } =
        (.ok row, { w with db := (w.db.insert row).getD w.db }) := by
    rw [get_text outside hid, row?_insert, if_pos ⟨hsome, by rw [hrow]⟩]
  refine ⟨row, { w with db := (w.db.insert row).getD w.db }, ?_, by rw [hrow], by rw [hrow]⟩
  simp only [prepare, Prog.bind_eq, exec_bind_ok, exec_lift_ok, nonempty_str_ok, key_base_branch_ok]
  refine ⟨_, w, ⟨⟨rfl, htext hid⟩, rfl⟩, _, w, ⟨⟨rfl, named.key_ne⟩, rfl⟩, _, w, ⟨⟨named, rfl, rfl⟩, rfl⟩, ?_⟩
  refine ⟨_, w, ⟨⟨rfl, htext (sha256_ne_empty hdigest)⟩, rfl⟩, request_digest, w,
    ⟨sha256_str_ok.mpr ⟨rfl, hdigest⟩, rfl⟩, _, w, ⟨⟨rfl, htext hrepository⟩, rfl⟩, verified, w,
    ⟨hcheck, rfl⟩, none, w, hexisting, ?_⟩
  simp only [exec_bind_ok, exec_lift_ok]
  exact ⟨row, w, ⟨hnew, rfl⟩, (), _, (insert_row_ok outside).mpr ⟨hsome, rfl⟩, hget⟩

end Prepare

/-! ## Publications -/

/-- `_validate_branch(value)`, for a text. -/
def is_branch (value : String) : Bool :=
  let suffix := removeprefix value BRANCH_NAMESPACE
  value != "" && value == strip value && !value.toList.any (fun c => is_space c || is_control c) &&
    !contains value "\\" && starts value BRANCH_NAMESPACE && suffix != "" &&
    (split_path suffix).all fun part => part != ""

/-- The branches and the digest of a `PublicationIntent`. -/
structure Intent : Type where
  branch : String
  base_branch : String
  digest : String
  valid_branch : is_branch branch = true
  base : is_base_branch base_branch = true
  sha256 : is_sha256 digest = true

/-- `intent.idempotency_key`. -/
def Intent.key (intent : Intent) : String :=
  publication_idempotency_key intent.branch intent.base_branch intent.digest

/-- The head of an intent is in the agent's namespace. -/
def Intent.named (intent : Intent) : Named where
  suffix := removeprefix intent.branch BRANCH_NAMESPACE
  base_branch := intent.base_branch
  digest := intent.digest
  nonempty := by
    have hbranch := intent.valid_branch
    simp only [is_branch, Bool.and_eq_true, bne_iff_ne] at hbranch
    exact hbranch.1.2
  base := intent.base
  sha256 := intent.sha256

theorem Intent.branch_named (intent : Intent) : intent.named.branch = intent.branch := by
  have hbranch := intent.valid_branch
  simp only [is_branch, Bool.and_eq_true] at hbranch
  have hstart : BRANCH_NAMESPACE.toList.isPrefixOf intent.branch.toList = true := hbranch.1.1.2
  obtain ⟨rest, hrest⟩ := List.isPrefixOf_iff_prefix.mp hstart
  have hdrop : intent.branch.toList.drop BRANCH_NAMESPACE.length = rest := by
    rw [← hrest, ← String.length_toList, List.drop_left]
  have hsuffix : removeprefix intent.branch BRANCH_NAMESPACE = String.ofList rest := by
    rw [ removeprefix, if_pos hstart, hdrop]
  have hlist : (String.ofList rest).toList = rest := String.toList_ofList
  apply String.toList_inj.mp
  rw [Named.branch, String.toList_append]
  show BRANCH_NAMESPACE.toList ++ ( removeprefix intent.branch BRANCH_NAMESPACE).toList = _
  rw [hsuffix, hlist]
  exact hrest

theorem Intent.key_named (intent : Intent) : intent.key = intent.named.key := by
  rw [Intent.key, Named.key, intent.branch_named]
  rfl

theorem Intent.key_inj {a b : Intent} (h : a.key = b.key) : a = b := by
  rw [a.key_named, b.key_named] at h
  have hnamed := Named.key_inj h
  have hbranch := congrArg Named.branch hnamed
  have hbase := congrArg Named.base_branch hnamed
  have hdigest := congrArg Named.digest hnamed
  rw [a.branch_named, b.branch_named] at hbranch
  obtain ⟨branch, base_branch, digest⟩ := a
  obtain ⟨branch', base_branch', digest'⟩ := b
  obtain rfl : branch = branch' := hbranch
  obtain rfl : base_branch = base_branch' := hbase
  obtain rfl : digest = digest' := hdigest
  rfl

/-- **One key, one publication**: the key of an intent determines its branches
and its digest; the journal prepares exactly the keys of the agent's namespace and
records their base branch; and the channel's decoder reads the head, the base and
the digest from each of them. The lookup answers with what it finds for these three
where the head is a process branch of the agent, and refuses any other head. -/
theorem publication_keys {ω : Type} (outside : Outside ω) (config : Config) (listing : Listing) :
    (∀ a b : Intent, a.key = b.key → a = b) ∧
    (∀ intent : Intent, ∃ named : Named, intent.key = named.key ∧ intent.branch = named.branch ∧
      intent.base_branch = named.base_branch ∧ intent.digest = named.digest) ∧
    (∀ (process_id key request_digest repository_id : Arg PyStr) (verified : Option (Arg PyStr))
      (w w' : World ω) (record : PublicationRecord),
      (prepare process_id key request_digest repository_id verified).exec outside.answer w =
        (.ok record, w') →
      ∃ named : Named, key = .of (.text named.key) ∧ record.idempotency_key = named.key ∧
        record.base_branch = some named.base_branch) ∧
    (∀ (named : Named) (process_id request_digest repository_id : String) (verified : Option String)
      (w : World ω), process_id ≠ "" → is_sha256 request_digest = true → repository_id ≠ "" →
      (∀ digest ∈ verified, is_sha256 digest = true) →
      (∀ row ∈ w.db.rows, row.process_id ≠ process_id) →
      (∀ row ∈ w.db.rows, row.idempotency_key ≠ named.key) →
      ∃ record w', (prepare (.of (.text process_id)) (.of (.text named.key)) (.of (.text request_digest))
          (.of (.text repository_id)) (verified.map fun digest => .of (.text digest))).exec
            outside.answer w = (.ok record, w') ∧
        record.idempotency_key = named.key ∧ record.base_branch = some named.base_branch) ∧
    (∀ named : Named,
      parse_key named.key = .ok (named.branch, named.base_branch, named.digest) ∧
      (∀ h : is_process_branch (.of (.text named.branch)) = true,
        find_by_idempotency_key config listing (.of (.text named.key)) none none =
          .ok (((named.sought h).find listing).toOption.join.map ((named.sought h).receipt config))) ∧
      (is_process_branch (.of (.text named.branch)) = false →
        find_by_idempotency_key config listing (.of (.text named.key)) none none =
          .error (actuator_error "branch is outside the agent namespace"))) :=
  ⟨fun _ _ => Intent.key_inj,
    fun intent => ⟨intent.named, intent.key_named, intent.branch_named.symm, rfl, rfl⟩,
    fun _ _ _ _ _ _ _ _ => prepare_sound outside,
    fun named _ _ _ _ _ => prepare_complete outside named,
    fun named => ⟨parse_named named, find_sought config listing named, find_refused config listing named⟩⟩

/-- A branch with a slash, an escape and a letter beyond ASCII. -/
def sample_intent : Intent where
  branch := "agent/process-1/50%-ü"
  base_branch := "release/1"
  digest := "sha256:" ++ String.ofList (List.replicate 64 'a')
  valid_branch := by decide
  base := by decide
  sha256 := by decide

/-! ## A head that is no branch -/

/-- A key whose head is a blank. -/
def blank_head : Named where
  suffix := " "
  base_branch := "main"
  digest := "sha256:" ++ String.ofList (List.replicate 64 '0')
  nonempty := by decide
  base := PullRequestLookup.sample.base
  sha256 := PullRequestLookup.sample.sha256

/-- A journal without a row, and an endpoint that is not called. -/
def empty_world : World Unit := ⟨⟨[], List.nodup_nil, List.nodup_nil⟩, (), []⟩

/-- Nothing happens outside. -/
def idle_outside : Outside Unit where
  before_publish := fun () => (.ok (), ())
  publish_pull_request := fun _ () => (.error ⟨.RuntimeError, "unavailable"⟩, ())
  find_by_idempotency_key := fun _ _ _ () => (.ok none, ())

/-- The sample's key, and the branches that the lookup reads from it: it answers the key,
with no pull request listed, and refuses that of a blank head. -/
theorem sample_key_read :
    sample_intent.key = "publish/process-1%2F50%25-%C3%BC/release%2F1/" ++ sample_intent.digest ∧
      parse_key sample_intent.key =
        .ok (sample_intent.branch, sample_intent.base_branch, sample_intent.digest) ∧
      find_by_idempotency_key ⟨1, 2⟩ (fun _ => .ok (.arr [])) (.of (.text sample_intent.key)) none none =
        .ok none ∧
      find_by_idempotency_key ⟨1, 2⟩ (fun _ => .ok (.arr [])) (.of (.text blank_head.key)) none none =
        .error (actuator_error "branch is outside the agent namespace") := by
  have hkeys := publication_keys idle_outside ⟨1, 2⟩ fun _ => .ok (.arr [])
  obtain ⟨named, hkey, hbranch, hbase, hdigest⟩ := hkeys.2.1 sample_intent
  obtain ⟨hparse, hfind, -⟩ := hkeys.2.2.2.2 named
  have hprocess : is_process_branch (.of (.text named.branch)) = true := by
    rw [← hbranch]
    decide
  refine ⟨by decide, ?_, ?_, (hkeys.2.2.2.2 blank_head).2.2 (by decide)⟩
  · rw [hkey, hbranch, hbase, hdigest]
    exact hparse
  · rw [hkey, hfind hprocess]
    rfl

/-- The journal prepares a key that no intent has: it does not check the head. -/
theorem blank_head_prepared :
    (∃ record w', (prepare (.of (.text "process-1")) (.of (.text blank_head.key))
        (.of (.text blank_head.digest)) (.of (.text "repository")) none).exec idle_outside.answer
          empty_world = (.ok record, w')) ∧
      ∀ intent : Intent, intent.key ≠ blank_head.key := by
  constructor
  · have hid : "process-1" ≠ "" := by decide
    have hrepository : "repository" ≠ "" := by decide
    have hverified : ∀ digest ∈ (none : Option String), is_sha256 digest = true := nofun
    have hrun := prepare_complete idle_outside blank_head (w := empty_world) hid blank_head.sha256
      hrepository hverified (fun _ h => (nomatch h)) fun _ h => (nomatch h)
    obtain ⟨record, w', hrun, -⟩ := hrun
    exact ⟨record, w', hrun⟩
  · intro intent heq
    rw [intent.key_named] at heq
    have hbranch := congrArg Named.branch (Named.key_inj heq)
    rw [intent.branch_named] at hbranch
    have hvalid := intent.valid_branch
    rw [hbranch] at hvalid
    exact absurd hvalid (by decide)

end AppContracts.PublicationKeys
