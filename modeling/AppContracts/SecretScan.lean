/-
The scan for credential-shaped bytes: `find_credential_pattern_content` of
`secret_scan.py`.

The rules are patterns over bytes, searched for anywhere in a file. The scan also
refuses records out of order and beyond the limits of a snapshot.
-/
import AppContracts.GitHubSnapshot
import AppContracts.Lib.Regex

set_option autoImplicit false

namespace AppContracts.SecretScan

open GitHubSnapshot (MAX_SNAPSHOT_FILES MAX_SNAPSHOT_PATH_BYTES)

/-- `MAX_SNAPSHOT_FILE_BYTES`. -/
def MAX_SNAPSHOT_FILE_BYTES : ℕ := 262144

/-- `MAX_SNAPSHOT_TOTAL_BYTES`. -/
def MAX_SNAPSHOT_TOTAL_BYTES : ℕ := 1000000

/-! ## Rules -/

/-- `[A-Za-z0-9_]`. -/
def word : CharClass := ⟨[(0x41, 0x5a), (0x61, 0x7a), (0x30, 0x39), (0x5f, 0x5f)], false⟩

/-- `\s` of a bytes pattern. -/
def space : CharClass := ⟨[(0x09, 0x0d), (0x20, 0x20)], false⟩

/-- One of some characters. -/
def one_of (characters : String) : CharClass :=
  ⟨characters.toList.map fun c => (c.toNat, c.toNat), false⟩

/-- One character of a class. -/
def once (c : CharClass) : Regex := .cls c 1 (some 1)

/-- A character of a class, or none. -/
def optional (c : CharClass) : Regex := .cls c 0 (some 1)

/-- Expressions one after the other. -/
def sequence (parts : List Regex) : Regex := parts.foldr .seq (.lit "")

/-- One of some expressions. -/
def choice (first : Regex) (rest : List Regex) : Regex := rest.foldl .alt first

/-- A text under `(?i)`: letters in either case. -/
def any_case (text : String) : Regex :=
  sequence (text.toList.map fun c => once (one_of (String.ofList [c.toLower, c.toUpper])))

/-- `[_-]?`. -/
def joint : Regex := optional (one_of "_-")

/-- `_CONTENT_RULES`. -/
def CONTENT_RULES : List (String × Regex) := [
  ("github-token", choice
    (sequence [.lit "gh", once (one_of "pousr"), .lit "_", .cls word 20 (some 255)])
    [sequence [.lit "github_pat_", .cls word 20 (some 255)]]),
  ("aws-access-key", sequence [.lit "AKIA", .cls ⟨[(0x30, 0x39), (0x41, 0x5a)], false⟩ 16 (some 16)]),
  ("private-key-pem", sequence [.lit "-----BEGIN ",
    choice (.lit "RSA ") [.lit "EC ", .lit "OPENSSH ", .lit ""], .lit "PRIVATE KEY-----"]),
  ("credential-assignment", sequence [
    choice (sequence [any_case "api", joint, any_case "key"])
      [sequence [any_case "access", joint, any_case "token"],
        sequence [any_case "auth", joint, any_case "token"], any_case "secret", any_case "password",
        any_case "passwd"],
    .cls space 0 none, once (one_of ":="), .cls space 0 none, once (one_of "'\""),
    .cls ⟨[(0x27, 0x27), (0x22, 0x22), (0x0d, 0x0d), (0x0a, 0x0a)], true⟩ 8 none,
    once (one_of "'\"")])]

/-- `pattern.search(content) is not None`. -/
def found_in (rule : Regex) (content : Bytes) : Bool :=
  Pattern.search ⟨rule, false, false⟩ (octets content)

/-! ## The scan -/

/-- `CredentialPatternFinding`: the path and the rule. -/
abbrev Finding : Type := String × String

/-- `ValueError("credential content input is invalid")`. -/
def input_error : Exn := ⟨.ValueError, "credential content input is invalid"⟩

/-- What the loop checks of a record by itself. -/
def record_ok (path : String) (content : Bytes) : Bool :=
  path != "" && path == strip path && decide ((utf8_bytes path).length ≤ MAX_SNAPSHOT_PATH_BYTES) &&
    !"/".toList.isPrefixOf path.toList && !path.toList.contains '\\' &&
    (split_path path).all plain_part && !path.toList.any is_control &&
    decide (content.length ≤ MAX_SNAPSHOT_FILE_BYTES)

/-- The rules that match a file. -/
def findings_of (path : String) (content : Bytes) : List Finding :=
  (CONTENT_RULES.filter fun rule => found_in rule.2 content).map fun rule => (path, rule.1)

/-- The loop over the records. -/
def scan : List (String × Bytes) → Option String → ℕ → Except Exn (List Finding)
  | [], _, _ => .ok []
  | (path, content) :: rest, previous_path, total_bytes =>
    if record_ok path content = false ∨ previous_path.any fun previous => path ≤ previous then
      .error input_error
    else if MAX_SNAPSHOT_TOTAL_BYTES < total_bytes + content.length then .error input_error
    else do
      let findings ← scan rest (some path) (total_bytes + content.length)
      return findings_of path content ++ findings

/-- `find_credential_pattern_content(files)`. -/
def find_credential_pattern_content (files : List (String × Bytes)) : Except Exn (List Finding) :=
  if MAX_SNAPSHOT_FILES < files.length then .error input_error else scan files none 0

/-- `assert_no_credential_pattern_content(files)`. -/
def assert_no_credential_pattern_content (files : List (String × Bytes)) : Except Exn Unit := do
  let findings ← find_credential_pattern_content files
  if findings = [] then .ok ()
  else .error ⟨.CredentialLeakDetected, "credential-shaped content detected"⟩

/-- A file no rule matches. -/
def is_clean (content : Bytes) : Bool := CONTENT_RULES.all fun rule => !found_in rule.2 content

theorem findings_of_clean {path : String} {content : Bytes} :
    findings_of path content = [] ↔ is_clean content = true := by
  simp [findings_of, is_clean, List.filter_eq_nil_iff]

/-- The bytes of some files. -/
def scanned_bytes (files : List (String × Bytes)) : ℕ := (files.map fun f => f.2.length).sum

/-- **The scan finds nothing** in records that are in order and within the limits,
and that no rule matches. -/
theorem scan_ok {files : List (String × Bytes)} {previous : Option String} {total : ℕ}
    (htotal : total ≤ MAX_SNAPSHOT_TOTAL_BYTES) :
    scan files previous total = .ok [] ↔ (∀ f ∈ files, record_ok f.1 f.2 = true) ∧
      (previous.toList ++ files.map Prod.fst).IsChain (· < ·) ∧
      total + scanned_bytes files ≤ MAX_SNAPSHOT_TOTAL_BYTES ∧ ∀ f ∈ files, is_clean f.2 = true := by
  -- on the files, with the path before and the bytes counted so far
  induction files generalizing previous total with
  | nil =>
    cases previous with
    | none => simpa [scan, scanned_bytes] using htotal
    | some p => simpa [scan, scanned_bytes] using htotal
  | cons f rest ih =>
    obtain ⟨path, content⟩ := f
    have hchain : (previous.toList ++ ((path, content) :: rest).map Prod.fst).IsChain (· < ·) ↔
        (previous.any fun p => decide (path ≤ p)) = false ∧
          ((some path).toList ++ rest.map Prod.fst).IsChain (· < ·) := by
      cases previous with
      | none => simp
      | some p =>
        simp only [Option.toList_some, List.singleton_append, List.map_cons, List.isChain_cons_cons,
          Option.any_some, decide_eq_false_iff_not, String.not_le]
    have hbytes : scanned_bytes ((path, content) :: rest) = content.length + scanned_bytes rest := by
      rw [scanned_bytes, List.map_cons, List.sum_cons]
      rfl
    rw [scan, guard_ok, guard_ok, not_or, not_lt, bind_ok, hchain, hbytes, List.forall_mem_cons,
      List.forall_mem_cons]
    simp only [Bool.not_eq_false, Bool.not_eq_true]
    constructor
    · rintro ⟨⟨hrecord, hprevious⟩, hle, findings, hrest, hnil⟩
      obtain ⟨hfile, hfindings⟩ := List.append_eq_nil_iff.mp (Except.ok.inj hnil)
      rw [hfindings] at hrest
      obtain ⟨hall, horder, htotal₁, hclean⟩ := (ih hle).mp hrest
      exact ⟨⟨hrecord, hall⟩, ⟨hprevious, horder⟩, by omega, findings_of_clean.mp hfile, hclean⟩
    · rintro ⟨⟨hrecord, hall⟩, ⟨hprevious, horder⟩, hle, hfile, hclean⟩
      have hle₁ : total + content.length ≤ MAX_SNAPSHOT_TOTAL_BYTES := by omega
      refine ⟨⟨hrecord, hprevious⟩, hle₁, [], (ih hle₁).mpr ⟨hall, horder, by omega, hclean⟩, ?_⟩
      rw [findings_of_clean.mpr hfile]
      rfl

/-- Distinct paths in order are in strict order. -/
theorem isChain_of_sorted {paths : List String} (hle : paths.Pairwise (· ≤ ·)) (hnodup : paths.Nodup) :
    paths.IsChain (· < ·) := by
  refine List.Pairwise.isChain ((hle.and hnodup).imp ?_)
  rintro a b ⟨hab, hne⟩
  exact String.not_le.mp fun hba => hne (String.le_antisymm hab hba)

/-- **What passes the assertion.** -/
theorem assert_ok {files : List (String × Bytes)} :
    assert_no_credential_pattern_content files = .ok () ↔ files.length ≤ MAX_SNAPSHOT_FILES ∧
      (∀ f ∈ files, record_ok f.1 f.2 = true) ∧ (files.map Prod.fst).IsChain (· < ·) ∧
      scanned_bytes files ≤ MAX_SNAPSHOT_TOTAL_BYTES ∧ ∀ f ∈ files, is_clean f.2 = true := by
  have hscan := @scan_ok files none 0 (Nat.zero_le _)
  rw [Option.toList_none, List.nil_append, Nat.zero_add] at hscan
  rw [assert_no_credential_pattern_content, bind_ok, find_credential_pattern_content, ← hscan]
  constructor
  · rintro ⟨findings, hfind, h⟩
    obtain ⟨hlength, hfind⟩ := guard_ok.mp hfind
    split_ifs at h with hnil
    exact ⟨by omega, hnil ▸ hfind⟩
  · rintro ⟨hlength, hfind⟩
    exact ⟨[], guard_ok.mpr ⟨by omega, hfind⟩, if_pos rfl⟩

/-- A file of bytes that no rule can do with alone is clean. -/
theorem is_clean_of {codes : List ℕ} {content : Bytes}
    (hrules : ∀ rule ∈ CONTENT_RULES, rule.2.needs_other codes = true)
    (h : ∀ code ∈ octets content, code ∈ codes) : is_clean content = true := by
  rw [is_clean, List.all_eq_true]
  intro rule hrule
  rw [Bool.not_eq_true', Bool.eq_false_iff]
  intro hfound
  obtain ⟨code, hcode, hne⟩ := Pattern.search_has_other hfound (hrules rule hrule)
  exact hne (h code hcode)

/-- A file that holds one byte only is clean, if that byte is zero. -/
theorem is_clean_zeros {content : Bytes} (h : ∀ b ∈ content, b = 0) : is_clean content = true := by
  refine @is_clean_of [0] _ (by decide) fun code hcode => ?_
  obtain ⟨b, hb, rfl⟩ := List.mem_map.mp hcode
  rw [h b hb]
  exact List.mem_singleton.mpr rfl

end AppContracts.SecretScan
