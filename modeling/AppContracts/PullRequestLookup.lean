/-
The lookup of a pull request by its idempotency key: `find_by_idempotency_key`,
`reconcile_pull_request` and `_find_existing_pull_request` of `github_app.py`.

The provider lists the pull requests of a head branch, and the one of a
publication carries the key in a comment of its body. The search stops at the
first entry that decides it: one that carries the comment, or one whose body the
search cannot look into.
-/
import AppContracts.GitHubPublication
import AppContracts.PublicationSeed
import AppContracts.Validator

set_option autoImplicit false

namespace AppContracts.PullRequestLookup

open GitHubPublication PublicationSeed Validator

/-! ## Percent decoding -/

/-- `_unquote_impl(text)`: `%` and two digits are a byte. -/
def unquote_to_bytes : List Char → Bytes
  | [] => []
  | '%' :: a :: b :: rest =>
    match GitHubSnapshot.hex_value a, GitHubSnapshot.hex_value b with
    | some high, some low => UInt8.ofNat (16 * high + low) :: unquote_to_bytes rest
    | _, _ => 37 :: unquote_to_bytes (a :: b :: rest)
  | c :: rest => UInt8.ofNat c.toNat :: unquote_to_bytes rest

/-- The range of the second byte of a UTF-8 character, and how many bytes follow
the first. -/
def lead_byte (b : ℕ) : Option (ℕ × ℕ × ℕ) :=
  if 0xc2 ≤ b ∧ b ≤ 0xdf then some (1, 0x80, 0xbf)
  else if b = 0xe0 then some (2, 0xa0, 0xbf)
  else if b = 0xed then some (2, 0x80, 0x9f)
  else if 0xe1 ≤ b ∧ b ≤ 0xef then some (2, 0x80, 0xbf)
  else if b = 0xf0 then some (3, 0x90, 0xbf)
  else if b = 0xf4 then some (3, 0x80, 0x8f)
  else if 0xf1 ≤ b ∧ b ≤ 0xf3 then some (3, 0x80, 0xbf)
  else none

/-- The length of the longest start of a character after its first byte: `more`
bytes may follow, the next of them between `low` and `high`. -/
def continuation (more low high : ℕ) : List ℕ → ℕ
  | [] => 0
  | b :: rest =>
    if 0 < more ∧ low ≤ b ∧ b ≤ high then continuation (more - 1) 0x80 0xbf rest + 1 else 0

/-- `value.decode("utf-8", "replace")` of bytes that are not UTF-8: each longest
start of a character that is not one is replaced. -/
def decode_replace : List ℕ → List Char
  | [] => []
  | b :: rest =>
    if b < 0x80 then Char.ofNat b :: decode_replace rest
    else match lead_byte b with
      | none => '\uFFFD' :: decode_replace rest
      | some (more, low, high) =>
        let length := continuation more low high rest
        let bytes := (b :: rest.take length).map UInt8.ofNat
        match (decode_utf8 bytes).map String.toList with
        | some cs => cs ++ decode_replace (rest.drop length)
        | none => '\uFFFD' :: decode_replace (rest.drop length)
termination_by bytes => bytes.length
decreasing_by all_goals simp only [List.length_cons, List.length_drop]; omega

/-- A run of ASCII characters, unquoted. -/
def unquote_run (run : List Char) : List Char :=
  let bytes := unquote_to_bytes run
  match decode_utf8 bytes with
  | some text => text.toList
  | none => decode_replace (octets bytes)

/-- `_generate_unquoted_parts`: the runs of ASCII characters are unquoted. -/
def unquote_parts (run : List Char) : List Char → List Char
  | [] => unquote_run run
  | c :: rest =>
    if c.toNat < 0x80 then unquote_parts (run ++ [c]) rest
    else unquote_run run ++ c :: unquote_parts [] rest

/-- `unquote(value)`. -/
def unquote (value : String) : String := String.ofList (unquote_parts [] value.toList)

/-! ## The entries of a listing -/

/-- `type(value).__name__` of a value of a JSON text: what is no JSON there is a
float that is not finite. -/
def type_name : Json → String
  | .null => "NoneType"
  | .bool _ => "bool"
  | .int _ => "int"
  | .float _ => "float"
  | .str _ => "str"
  | .arr _ => "list"
  | .obj _ => "dict"
  | .number _ => "number"
  | .other _ _ => "float"

/-- `marker in body`: only strings, lists and dicts have members. -/
def contains_marker (marker : String) (body : Json) : Except Exn Bool :=
  match body with
  | .str body => .ok (decide ((PyStr.text marker).codes <:+: body.codes))
  | .arr items => .ok (items.any fun item => py_eq item (.str (.text marker)))
  | .obj fields => .ok (fields.any fun field => field.1 == .text marker)
  | other => .error ⟨.TypeError, "argument of type '" ++ type_name other ++ "' is not iterable"⟩

/-- `marker in item.get("body", "")`, false for an entry that is no dict. -/
def carries (marker : String) (item : Json) : Except Exn Bool :=
  if is_dict item = true then contains_marker marker ((item.get? "body").getD (.str (.text "")))
  else .ok false

/-- A link of the secure web. -/
def is_https : Json → Option PyStr
  | .str url => if (PyStr.text "https://").codes <+: url.codes then some url else none
  | _ => none

/-- `value.get("ref")` is the branch. -/
def has_ref (value : Json) (branch : String) : Bool :=
  is_dict value && py_eq ((value.get? "ref").getD .null) (.str (.text branch))

/-- The number and the link of an entry. -/
def entry_receipt (item : Json) : Option (ℤ × PyStr) :=
  match item.get? "number", (item.get? "html_url").bind is_https with
  | some (.int number), some url => if 0 < number then some (number, url) else none
  | _, _ => none

/-- `value is None`. -/
def is_none : Json → Bool
  | .null => true
  | _ => false

/-- What the search makes of an entry that carries the marker. -/
def check_entry (branch base_branch : String) (item : Json) : Except Exn (ℤ × PyStr) := do
  let head := (item.get? "head").getD .null
  raise_if (is_none head = false ∧ has_ref head branch = false)
    (broker_error "GitHub pull-request entry conflicts with requested branch")
  raise_if (has_ref ((item.get? "base").getD .null) base_branch = false)
    (broker_error "GitHub pull-request entry conflicts with requested base branch")
  match entry_receipt item with
  | some found => .ok found
  | none => .error (broker_error "GitHub pull-request entry is malformed")

/-- The loop of `_find_existing_pull_request`. -/
def scan (branch base_branch marker : String) : List Json → Except Exn (Option (ℤ × PyStr))
  | [] => .ok none
  | item :: rest => do
    let carried ← carries marker item
    if carried then do
      let found ← check_entry branch base_branch item
      return some found
    else scan branch base_branch marker rest

/-- `_get_json` of the pull requests of a head branch. -/
abbrev Listing : Type := String → Except Exn Json

/-- `_find_existing_pull_request(branch, base_branch, marker)`. -/
def _find_existing_pull_request (listing : Listing) (branch base_branch marker : String) :
    Except Exn (Option (ℤ × PyStr)) := do
  let response ← listing branch
  match response with
  | .arr items => scan branch base_branch marker items
  | _ => .error (broker_error "GitHub pull-request reconciliation response must be a list")

/-! ## The lookup -/

/-- `GitHubPullRequest`. -/
structure GitHubPullRequest : Type where
  pull_request_id : ℤ
  pull_request_url : PyStr
  repository_id : String
  branch : String
  staged_change_digest : String
  idempotency_key : String
  base_branch : String

/-- `<!-- agent-process-idempotency: key -->`. -/
def marker_of (idempotency_key : String) : String :=
  "<!-- agent-process-idempotency: " ++ idempotency_key ++ " -->"

/-- A string of the agent's process branches. -/
def is_process_branch : Arg PyStr → Bool
  | .of branch =>
    let start := (PyStr.text "agent/process-").codes
    start.isPrefixOf branch.codes && start.length < branch.codes.length
  | .other => false

/-- `validate_publication_base_branch` of an argument. -/
def check_base_branch (value : Arg PyStr) (error : Exn) : Except Exn String :=
  match value with
  | .of (.text base) => if is_base_branch base then .ok base else .error error
  | _ => .error error

/-- The digest of a key. -/
def check_digest (value : Arg PyStr) : Except Exn String :=
  match value with
  | .other => .error (actuator_error "staged change digest is invalid")
  | .of (.text digest) =>
    if is_sha256 digest then .ok digest
    else .error (actuator_error "idempotency key does not match publication intent")
  | .of (.surrogates _ _) =>
    .error (actuator_error "idempotency key does not match publication intent")

/-- The text of a branch, which `quote` encodes. -/
def quotable (branch : Arg PyStr) : Except Exn String :=
  match branch with
  | .of branch => bind_text branch
  | .other => .error (actuator_error "branch is outside the agent namespace")

/-- `reconcile_pull_request(branch=.., base_branch=.., idempotency_key=..,
staged_change_digest=..)`. -/
def reconcile_pull_request (config : Config) (listing : Listing)
    (branch base_branch idempotency_key staged_change_digest : Arg PyStr) :
    Except Exn (Option GitHubPullRequest) := do
  raise_if (is_process_branch branch = false) (actuator_error "branch is outside the agent namespace")
  let key ← nonempty_str idempotency_key (actuator_error "idempotency key is invalid")
  let base ← check_base_branch base_branch (actuator_error "base branch is invalid")
  let digest ← check_digest staged_change_digest
  let head ← quotable branch
  raise_if (key ≠ .text (publication_idempotency_key head base digest))
    (actuator_error "idempotency key does not match publication intent")
  let idempotency_key := publication_idempotency_key head base digest
  match _find_existing_pull_request listing head base (marker_of idempotency_key) with
  | .ok (some (number, html_url)) =>
    .ok (some ⟨number, html_url, config.repository, head, digest, idempotency_key, base⟩)
  | .ok none => .ok none
  | .error _ => .ok none

/-- `re.fullmatch(r"[A-Za-z0-9._%~-]+", value)`. -/
def is_quoted (value : String) : Bool :=
  value != "" && value.toList.all fun c => c.isAlphanum || c ∈ "._%~-".toList

/-- The head branch, the base branch and the digest that a key names. -/
def parse_key (idempotency_key : String) : Except Exn (String × String × String) :=
  let malformed := actuator_error "idempotency key is not canonical"
  match split_path idempotency_key with
  | [start, head, base, digest] => do
    raise_if (start ≠ "publish" ∨ is_quoted head = false ∨ is_quoted base = false ∨
      is_sha256 digest = false) malformed
    raise_if (quote (unquote head) ≠ head ∨ quote (unquote base) ≠ base) malformed
    raise_if (is_base_branch (unquote base) = false) malformed
    return ("agent/" ++ unquote head, unquote base, digest)
  | _ => .error malformed

/-- The text of a key: the patterns accept no lone surrogate. -/
def key_text (idempotency_key : Arg PyStr) : Except Exn String :=
  match idempotency_key with
  | .of (.text key) => .ok key
  | .of (.surrogates _ _) => .error (actuator_error "idempotency key is not canonical")
  | .other => .error (actuator_error "idempotency key is invalid")

/-- An argument that must be the text, where it is given. -/
def check_expected (argument : Option (Arg PyStr)) (value : String) (error : Exn) : Except Exn Unit :=
  raise_if (argument ≠ none ∧ argument ≠ some (.of (.text value))) error

/-- `find_by_idempotency_key(idempotency_key, repository_id=.., base_branch=..)`. -/
def find_by_idempotency_key (config : Config) (listing : Listing) (idempotency_key : Arg PyStr)
    (repository_id base_branch : Option (Arg PyStr)) : Except Exn (Option GitHubPullRequest) := do
  let key ← key_text idempotency_key
  let (branch, parsed_base_branch, digest) ← parse_key key
  check_expected base_branch parsed_base_branch
    (actuator_error "lookup base branch conflicts with idempotency key")
  check_expected repository_id config.repository (actuator_error "lookup repository is not allowlisted")
  reconcile_pull_request config listing (.of (.text branch)) (.of (.text parsed_base_branch))
    (.of (.text key)) (.of (.text digest))

/-! ## The entry that decides the search -/

section Search

variable {branch base_branch marker : String}

/-- The entry carries the marker. -/
def is_carrier (marker : String) (item : Json) : Bool :=
  match carries marker item with
  | .ok carried => carried
  | .error _ => false

/-- The search does not go past the entry. -/
def decides (marker : String) (item : Json) : Bool :=
  match carries marker item with
  | .ok carried => carried
  | .error _ => true

theorem decides_of_carrier {item : Json} (h : is_carrier marker item = true) :
    decides marker item = true := by
  unfold is_carrier at h
  unfold decides
  cases hcarries : carries marker item with
  | ok carried => simpa [hcarries] using h
  | error e => rfl

/-- The search is that of the first entry that decides it. -/
theorem scan_eq (items : List Json) :
    scan branch base_branch marker items = match items.find? (decides marker) with
      | some item => scan branch base_branch marker [item]
      | none => .ok none := by
  induction items with
  | nil => rfl
  | cons item rest ih =>
    rw [List.find?_cons]
    cases hcarries : carries marker item with
    | error e => simp [decides, scan, hcarries]
    | ok carried =>
      cases carried with
      | true => simp [decides, scan, hcarries]
      | false => simpa [decides, scan, hcarries] using ih

/-- A body without members is a `TypeError`. -/
theorem carries_raises (item : Json) : Raises (· = .TypeError) (carries marker item) := by
  unfold carries contains_marker
  split_ifs
  · split
    · exact Raises.ok _
    · exact Raises.ok _
    · exact Raises.ok _
    · exact Raises.error rfl
  · exact Raises.ok _

/-- An entry that carries the marker is refused by the channel. -/
theorem check_entry_raises (item : Json) :
    Raises (· = .GitHubAppBrokerError) (check_entry branch base_branch item) := by
  have hcheck : ∀ (p : Prop) [Decidable p] (message : String),
      Raises (· = .GitHubAppBrokerError) (raise_if p (broker_error message)) := by
    intro p _ message
    unfold raise_if
    split_ifs
    · exact Raises.error rfl
    · exact Raises.ok _
  refine (hcheck _ _).bind fun _ _ => (hcheck _ _).bind fun _ _ => ?_
  split
  · exact Raises.ok _
  · exact Raises.error rfl

/-! ## What the search is to answer -/

/-- The entries that carry the marker. -/
def carriers (marker : String) (items : List Json) : List Json := items.filter (is_carrier marker)

/-- The result depends on the entries that carry the marker: there is none, or it
is the one, or the listing is ambiguous, which is no error of a single entry. -/
def Answers (branch base_branch marker : String) (items : List Json)
    (result : Except Exn (Option (ℤ × PyStr))) : Prop :=
  match carriers marker items with
  | [] => result = .ok none
  | [item] => result = (check_entry branch base_branch item).map some
  | _ => ∃ e, result = .error e ∧ ∀ item, scan branch base_branch marker [item] ≠ .error e

/-- No more than one entry carries the marker, and an entry whose body cannot be
looked into stands behind it. -/
def Undisturbed (marker : String) (items : List Json) : Prop :=
  (carriers marker items).length ≤ 1 ∧ ∀ front item rest e, items = front ++ item :: rest →
    carries marker item = .error e → ∃ carrier ∈ front, is_carrier marker carrier = true

/-- What the search raises, it raises for one entry. -/
theorem scan_error {items : List Json} {e : Exn} (h : scan branch base_branch marker items = .error e) :
    ∃ item, scan branch base_branch marker [item] = .error e := by
  rw [scan_eq] at h
  cases hfind : items.find? (decides marker) with
  | none => rw [hfind] at h; exact nomatch h
  | some first => rw [hfind] at h; exact ⟨first, h⟩

/-- An entry that carries the marker is what the search finds of it alone. -/
theorem scan_carrier {item : Json} (h : is_carrier marker item = true) :
    scan branch base_branch marker [item] = (check_entry branch base_branch item).map some := by
  have hcarries : carries marker item = .ok true := by
    unfold is_carrier at h
    cases hc : carries marker item with
    | ok carried => rw [hc] at h; exact congrArg _ h
    | error e => rw [hc] at h; exact nomatch h
  simp only [scan, hcarries, ok_bind, if_true]
  cases check_entry branch base_branch item <;> rfl

/-- In an undisturbed listing the first entry that decides carries the marker. -/
theorem first_carries {items : List Json} (h : Undisturbed marker items) {first : Json}
    (hfind : items.find? (decides marker) = some first) : is_carrier marker first = true := by
  obtain ⟨hdecides, front, rest, hitems, hbefore⟩ := List.find?_eq_some_iff_append.mp hfind
  cases hcarries : carries marker first with
  | ok carried => simpa [decides, is_carrier, hcarries] using hdecides
  | error e =>
    obtain ⟨carrier, hmem, hcarrier⟩ := h.2 front first rest e hitems hcarries
    have hnot := hbefore carrier hmem
    rw [decides_of_carrier hcarrier] at hnot
    exact nomatch hnot

theorem answers_of_undisturbed {items : List Json} (h : Undisturbed marker items) :
    Answers branch base_branch marker items (scan branch base_branch marker items) := by
  have hone := h.1
  rw [scan_eq]
  cases hfind : items.find? (decides marker) with
  | none =>
    have hnone : carriers marker items = [] := by
      refine List.filter_eq_nil_iff.mpr fun item hitem hcarrier => ?_
      exact List.find?_eq_none.mp hfind item hitem (decides_of_carrier hcarrier)
    rw [Answers, hnone]
  | some first =>
    have hcarrier := first_carries h hfind
    have hmem : first ∈ carriers marker items :=
      List.mem_filter.mpr ⟨List.mem_of_find?_eq_some hfind, hcarrier⟩
    have hsingle : carriers marker items = [first] := by
      obtain ⟨item, hitem⟩ := List.length_eq_one_iff.mp
        (Nat.le_antisymm hone (List.length_pos_of_mem hmem))
      rw [hitem, List.mem_singleton] at hmem
      rw [hitem, hmem]
    rw [Answers, hsingle]
    exact scan_carrier hcarrier

/-- A body that cannot be looked into stops the search. -/
theorem scan_disturbed {front rest : List Json} {item : Json} {e : Exn}
    (hcarries : carries marker item = .error e)
    (hnone : ¬ ∃ carrier ∈ front, is_carrier marker carrier = true) :
    ∃ e', scan branch base_branch marker (front ++ item :: rest) = .error e' ∧ e'.cls = .TypeError := by
  have hdecides : decides marker item = true := by simp [decides, hcarries]
  have hraises : ∀ first, decides marker first = true → is_carrier marker first = false →
      ∃ e', scan branch base_branch marker [first] = .error e' ∧ e'.cls = .TypeError := by
    intro first hfirst hnot
    cases hc : carries marker first with
    | ok carried =>
      simp only [decides, hc] at hfirst
      simp only [is_carrier, hc] at hnot
      exact absurd (hfirst.symm.trans hnot) nofun
    | error e' => exact ⟨e', by simp [scan, hc], carries_raises first e' hc⟩
  rw [scan_eq, List.find?_append]
  cases hfront : front.find? (decides marker) with
  | some first =>
    refine hraises first (List.find?_some hfront) (Bool.eq_false_iff.mpr fun hcarrier => ?_)
    exact hnone ⟨first, List.mem_of_find?_eq_some hfront, hcarrier⟩
  | none =>
    rw [Option.none_or, List.find?_cons_of_pos hdecides]
    exact hraises item hdecides (by simp [is_carrier, hcarries])

theorem undisturbed_of_answers {items : List Json}
    (h : Answers branch base_branch marker items (scan branch base_branch marker items)) :
    Undisturbed marker items := by
  -- an error that answers is the broker's own, and the loop found at most one carrier
  have hnot : ∀ e, scan branch base_branch marker items = .error e →
      (carriers marker items).length ≤ 1 ∧ e.cls = .GitHubAppBrokerError := by
    intro e hresult
    rw [Answers, hresult] at h
    match hcarriers : carriers marker items, h with
    | [item], h =>
      refine ⟨Nat.le_refl _, ?_⟩
      cases hcheck : check_entry branch base_branch item with
      | ok found => simp [hcheck, Except.map] at h
      | error e' =>
        simp only [hcheck, Except.map, Except.error.injEq] at h
        exact h ▸ check_entry_raises item e' hcheck
    | item :: other :: rest, ⟨e', herror, hsingle⟩ =>
      obtain ⟨one, hone⟩ := scan_error hresult
      exact absurd (hone.trans herror) (hsingle one)
  refine ⟨?_, fun front item rest e hitems hcarries => ?_⟩
  · cases hresult : scan branch base_branch marker items with
    | error e => exact (hnot e hresult).1
    | ok found =>
      rw [Answers, hresult] at h
      match hcarriers : carriers marker items, h with
      | [], _ => exact Nat.zero_le _
      | [item], _ => exact Nat.le_refl _
      | item :: other :: rest, ⟨e, herror, _⟩ => exact nomatch herror
  · by_contra hnone
    have hscan : ∃ e', scan branch base_branch marker (front ++ item :: rest) = .error e' ∧
        e'.cls = .TypeError := scan_disturbed hcarries hnone
    obtain ⟨e', hresult, hcls⟩ := hscan
    rw [← hitems] at hresult
    exact absurd (hcls.symm.trans (hnot e' hresult).2) nofun

end Search

/-! ## The lookup of a publication -/

/-- A head branch, a base branch and a digest that the lookup takes. -/
structure Sought : Type where
  branch : String
  base_branch : String
  digest : String
  process_branch : is_process_branch (.of (.text branch)) = true
  base : is_base_branch base_branch = true
  sha256 : is_sha256 digest = true

namespace Sought

/-- The key of a publication. -/
def key (sought : Sought) : String :=
  publication_idempotency_key sought.branch sought.base_branch sought.digest

/-- The receipt of a pull request that was found. -/
def receipt (sought : Sought) (config : Config) (found : ℤ × PyStr) : GitHubPullRequest :=
  ⟨found.1, found.2, config.repository, sought.branch, sought.digest, sought.key, sought.base_branch⟩

/-- `reconcile_pull_request` of a publication, with its key. -/
def reconcile (sought : Sought) (config : Config) (listing : Listing) :
    Except Exn (Option GitHubPullRequest) :=
  reconcile_pull_request config listing (.of (.text sought.branch)) (.of (.text sought.base_branch))
    (.of (.text sought.key)) (.of (.text sought.digest))

/-- The search for a publication. -/
def find (sought : Sought) (listing : Listing) : Except Exn (Option (ℤ × PyStr)) :=
  _find_existing_pull_request listing sought.branch sought.base_branch (marker_of sought.key)

theorem key_ne (sought : Sought) : PyStr.text sought.key ≠ .text "" := by
  intro heq
  have hlist := congrArg String.toList (PyStr.text.inj heq)
  simp [key, publication_idempotency_key, String.toList_append] at hlist

/-- The lookup makes a receipt of what the search finds, and nothing of what it
raises. -/
theorem reconcile_eq (sought : Sought) (config : Config) (listing : Listing) :
    sought.reconcile config listing = match sought.find listing with
      | .ok found => .ok (found.map (sought.receipt config))
      | .error _ => .ok none := by
  have hkey : ¬ PyStr.text sought.key ≠ .text (publication_idempotency_key sought.branch
      sought.base_branch sought.digest) := not_not.mpr rfl
  simp only [reconcile, reconcile_pull_request, sought.process_branch, nonempty_str,
    if_neg sought.key_ne, check_base_branch, sought.base, check_digest, sought.sha256, quotable,
    bind_text, raise_if, if_neg hkey, Bool.true_eq_false, if_true, if_false, ok_bind]
  show (match sought.find listing with
    | .ok (some (number, html_url)) => Except.ok (some (sought.receipt config (number, html_url)))
    | .ok none => .ok none
    | .error _ => .ok none) = _
  cases sought.find listing with
  | error e => rfl
  | ok found => cases found <;> rfl

/-- What the lookup is to answer: as the search, where an error of the one entry
leaves the pull request unknown. -/
def Reconciles (sought : Sought) (config : Config) (items : List Json)
    (result : Except Exn (Option GitHubPullRequest)) : Prop :=
  match carriers (marker_of sought.key) items with
  | [] => result = .ok none
  | [item] => result = .ok ((check_entry sought.branch sought.base_branch item).toOption.map
      (sought.receipt config))
  | _ => ∃ e, result = .error e

end Sought

/-- **When the other entries of a listing do not matter**: no second entry
carries the marker, and every entry whose body cannot be looked into stands
behind the one that does. -/
theorem lookup_unaffected_iff (config : Config) (listing : Listing) (sought : Sought)
    (items : List Json) (hlisting : listing sought.branch = .ok (.arr items)) :
    (Answers sought.branch sought.base_branch (marker_of sought.key) items (sought.find listing) ∧
      sought.Reconciles config items (sought.reconcile config listing)) ↔
      Undisturbed (marker_of sought.key) items := by
  have hfind : sought.find listing =
      scan sought.branch sought.base_branch (marker_of sought.key) items := by
    rw [Sought.find, _find_existing_pull_request, hlisting, ok_bind]
  rw [hfind]
  constructor
  · exact fun h => undisturbed_of_answers h.1
  · intro h
    have hanswers : Answers sought.branch sought.base_branch (marker_of sought.key) items _ :=
      answers_of_undisturbed h
    refine ⟨hanswers, ?_⟩
    rw [Sought.reconcile_eq, hfind]
    unfold Answers at hanswers
    unfold Sought.Reconciles
    -- no carrier, one, or two and more, as in the loop of the lookup
    match hcarriers : carriers (marker_of sought.key) items, hanswers with
    | [], hanswers => simp only [hanswers, Option.map_none]
    | [item], hanswers =>
      simp only [hanswers]
      cases check_entry sought.branch sought.base_branch item <;> rfl
    | item :: other :: rest, _ =>
      have hone := h.1
      rw [hcarriers] at hone
      exact absurd hone (by simp)

/-! ## An entry without a body -/

/-- A publication of the agent. -/
def sample : Sought where
  branch := "agent/process-1"
  base_branch := "main"
  digest := "sha256:" ++ String.ofList (List.replicate 64 '0')
  process_branch := by decide
  base := by decide
  sha256 := by decide

/-- A pull request of another author, without a body. -/
def foreign_entry : Json := .obj [(.text "number", .int 6), (.text "body", .null)]

/-- The pull request of the publication. -/
def own_entry : Json :=
  .obj [(.text "number", .int 7), (.text "html_url", .str (.text "https://github.com/o/r/pull/7")),
    (.text "body", .str (.text (marker_of sample.key))),
    (.text "base", .obj [(.text "ref", .str (.text "main"))])]

/-- The provider's answer. -/
def sample_listing (items : List Json) : Listing := fun _ => .ok (.arr items)

theorem foreign_raises : carries (marker_of sample.key) foreign_entry =
    .error ⟨.TypeError, "argument of type 'NoneType' is not iterable"⟩ := by
  simp [carries, foreign_entry, is_dict, contains_marker, type_name]

theorem own_carries : is_carrier (marker_of sample.key) own_entry = true := by
  simp [is_carrier, carries, own_entry, is_dict, contains_marker]

/-- The pull request in front of an entry without a body is found. -/
theorem lookup_unaffected_behind :
    sample_listing [own_entry, foreign_entry] sample.branch = .ok (.arr [own_entry, foreign_entry]) ∧
      ((Answers sample.branch sample.base_branch (marker_of sample.key) [own_entry, foreign_entry]
          (sample.find (sample_listing [own_entry, foreign_entry])) ∧
        sample.Reconciles ⟨1, 2⟩ [own_entry, foreign_entry]
          (sample.reconcile ⟨1, 2⟩ (sample_listing [own_entry, foreign_entry]))) ↔
        Undisturbed (marker_of sample.key) [own_entry, foreign_entry]) :=
  ⟨rfl, lookup_unaffected_iff ⟨1, 2⟩ (sample_listing [own_entry, foreign_entry]) sample
    [own_entry, foreign_entry] rfl⟩

/-- An entry without a body hides the pull request behind it, from the search and
from the lookup. -/
theorem entry_without_body_hides :
    carriers (marker_of sample.key) [foreign_entry, own_entry] = [own_entry] ∧
      check_entry sample.branch sample.base_branch own_entry =
        .ok (7, .text "https://github.com/o/r/pull/7") ∧
      sample.find (sample_listing [foreign_entry, own_entry]) =
        .error ⟨.TypeError, "argument of type 'NoneType' is not iterable"⟩ ∧
      sample.reconcile ⟨1, 2⟩ (sample_listing [foreign_entry, own_entry]) = .ok none ∧
      ¬ Answers sample.branch sample.base_branch (marker_of sample.key) [foreign_entry, own_entry]
        (sample.find (sample_listing [foreign_entry, own_entry])) := by
  have hforeign : is_carrier (marker_of sample.key) foreign_entry = false := by
    simp [is_carrier, foreign_raises]
  have hcarriers : carriers (marker_of sample.key) [foreign_entry, own_entry] = [own_entry] := by
    simp [carriers, hforeign, own_carries]
  have hfind : sample.find (sample_listing [foreign_entry, own_entry]) =
      .error ⟨.TypeError, "argument of type 'NoneType' is not iterable"⟩ := by
    simp [Sought.find, _find_existing_pull_request, sample_listing, scan, foreign_raises]
  have hcheck : check_entry sample.branch sample.base_branch own_entry =
      .ok (7, .text "https://github.com/o/r/pull/7") := by
    simp [check_entry, own_entry, is_none, has_ref, is_dict, py_eq, sample, entry_receipt, is_https,
      raise_if]
    decide
  refine ⟨hcarriers, hcheck, hfind, ?_, ?_⟩
  · rw [Sought.reconcile_eq, hfind]
  · simp only [Answers, hcarriers, hfind, hcheck]
    rintro ⟨⟩

end AppContracts.PullRequestLookup
