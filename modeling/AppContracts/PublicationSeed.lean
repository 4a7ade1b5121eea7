/-
Branches and idempotency keys of a publication: `publication_seed.py`.
-/
import AppContracts.Digests
import AppContracts.Paths

set_option autoImplicit false

namespace AppContracts.PublicationSeed

/-- `PublicationSeedError(message)`. -/
def seed_error (message : String) : Exn := ⟨.PublicationSeedError, message⟩

/-- `_BRANCH_NAMESPACE`. -/
def BRANCH_NAMESPACE : String := "agent/"

/-! ## Idempotency keys -/

/-- The characters that `quote(value, safe="")` keeps. -/
def is_unreserved (b : ℕ) : Bool :=
  (48 ≤ b && b ≤ 57) || (65 ≤ b && b ≤ 90) || (97 ≤ b && b ≤ 122) || b == 45 || b == 46 || b == 95 ||
    b == 126

/-- A hexadecimal digit, upper case. -/
def upper_hex (n : ℕ) : Char := n.digitChar.toUpper

/-- One byte in a quoted text. -/
def quote_byte (b : ℕ) : List Char :=
  if is_unreserved b then [Char.ofNat b] else ['%', upper_hex (b / 16), upper_hex (b % 16)]

/-- `quote(value, safe="")`. -/
def quote (value : String) : String := String.ofList ((utf8_bytes value).flatMap quote_byte)

/-- `value.removeprefix(start)`. -/
def removeprefix (value start : String) : String :=
  if start.toList.isPrefixOf value.toList then String.ofList (value.toList.drop start.length) else value

/-- `publication_idempotency_key(branch, base_branch, staged_change_digest)`. -/
def publication_idempotency_key (branch base_branch staged_change_digest : String) : String :=
  "publish/" ++ quote ( removeprefix branch BRANCH_NAMESPACE) ++ "/" ++ quote base_branch ++ "/" ++
    staged_change_digest

example : publication_idempotency_key "agent/a b" "release/1" "sha256:0" =
    "publish/a%20b/release%2F1/sha256:0" := by decide

/-! ## Branches -/

/-- `value.startswith(start)`. -/
def starts (value start : String) : Bool := start.toList.isPrefixOf value.toList

/-- `value.endswith(last)`. -/
def ends_with (value last : String) : Bool := last.toList.isSuffixOf value.toList

/-- `part in value`. -/
def contains (value part : String) : Bool := decide (part.toList <:+: value.toList)

/-- A character no base branch has. -/
def is_banned (c : Char) : Bool := is_space c || is_control c || c ∈ "~^:?*[\\".toList

/-- The base branches that `validate_publication_base_branch` accepts. -/
def is_base_branch (value : String) : Bool :=
  value != "" && decide ((utf8_bytes value).length ≤ 255) && value == strip value &&
    !starts value "-" && !ends_with value "/" && !ends_with value "." && !contains value "//" &&
    !contains value ".." && !contains value "@\x7b" && !value.toList.any is_banned &&
    (split_path value).all fun part =>
      part != "" && part != "." && part != ".." && !ends_with part ".lock"

/-- `validate_publication_base_branch(value)`: the branch it accepts. -/
def validate_publication_base_branch : Json → Except Exn String
  | .str (.text value) =>
    if is_base_branch value then .ok value
    else .error (seed_error "publication intent: base branch is invalid")
  | _ => .error (seed_error "publication intent: base branch is invalid")

/-- An accepted base branch is a text. -/
theorem base_branch_text {value : Json} {base : String}
    (h : validate_publication_base_branch value = .ok base) : value = .str (.text base) := by
  unfold validate_publication_base_branch at h
  split at h
  · split_ifs at h
    rw [Except.ok.inj h]
  · cases h

end AppContracts.PublicationSeed
