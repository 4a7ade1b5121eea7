/-
Sequences of attempts, and the check that ends them.

`reconcile_verified_files` only reads. On a branch that has every target it returns
the branch's commit, for a manifest that lists its paths in order; it refuses a
manifest in another order, which the writer takes.
-/
import AppContracts.PublicationRetries

set_option autoImplicit false

namespace AppContracts.GitHubPublication

open Stateful

/-! ## Reading with every answer -/

section Reading

variable {branch : String} {b : Branch}

end Reading

/-! ## One manifest, two checks -/

/-- The path of a manifest's file, if it is a string. -/
def file_path (file : ManifestFile) : Option PyStr :=
  match file.path with
  | .of path => some path
  | .other => none

/-- The manifest lists its paths in code point order. -/
abbrev InOrder (files : List ManifestFile) : Prop := (files.filterMap file_path).Pairwise PyStr.le

section Runs

variable (config : Config) (branch : String) (staged_change : Json) (files : List ManifestFile)

/-- An attempt on a fresh channel, whose requests have the given fate. -/
def attempt (provider : Provider) (outcomes : List Outcome) : Except Exn String × Session :=
  Prog.exec (publish_verified_files config branch staged_change files) ⟨provider, outcomes, [], []⟩

/-- The provider between attempts. -/
inductive After (p₀ : Provider) : Provider → Prop
  | start : After p₀ p₀
  | attempt {p : Provider} (outcomes : List Outcome) (h : After p₀ p) :
      After p₀ (attempt config branch staged_change files p outcomes).2.provider

/-- The provider between attempts or after a write of one. -/
inductive During (p₀ : Provider) : Provider → Prop
  | between {p : Provider} (h : After config branch staged_change files p₀ p) : During p₀ p
  | within {p q : Provider} {outcomes : List Outcome} (h : After config branch staged_change files p₀ p)
      (hq : q ∈ (attempt config branch staged_change files p outcomes).2.history) : During p₀ q

variable {config branch staged_change files}

/-- The path has its base entry or its target. -/
def Clean (branch : String) (base_commit : Oid) (p : Provider) (path content : String) : Prop :=
  p.tree branch base_commit path = p.commits base_commit path ∨
    p.tree branch base_commit path = some (.file (_git_blob_sha content))

/-- Every state of a run comes from the first one by writes of the manifest. -/
theorem During.published {base_commit : Oid} {p₀ p : Provider}
    (hbase : check_staged_change config staged_change = .ok base_commit)
    (h : During config branch staged_change files p₀ p) :
    Published branch base_commit (manifest files) p₀ p := by
  have hsafe : ∀ p outcomes, Safe branch base_commit (manifest files) p
      (attempt config branch staged_change files p outcomes).2.provider
      (attempt config branch staged_change files p outcomes).2.history := by
    intro p outcomes
    have hrun := @publish_on config branch staged_change files _ p hbase
      ⟨p, outcomes, [], []⟩ ⟨rfl, rfl⟩
    unfold attempt
    generalize Prog.exec (publish_verified_files config branch staged_change files)
      ⟨p, outcomes, [], []⟩ = r at hrun
    obtain ⟨x, t⟩ := r
    cases x with
    | ok commit => exact hrun.1
    | error e => exact hrun
  -- on the attempts before: each one leaves what the next may start from
  have hafter : ∀ p, After config branch staged_change files p₀ p →
      Published branch base_commit (manifest files) p₀ p := by
    intro p hp
    induction hp with
    | start => exact Published.refl p₀
    | attempt outcomes _ ih => exact ih.trans (hsafe _ outcomes).1
  cases h with
  | between h => exact hafter _ h
  | within h hq => exact (hafter _ h).trans ((hsafe _ _).2 _ hq)

end Runs

/-! ### Two orders of one manifest -/

/-- A repository of two files, without a branch of the agent. -/
def two_files : Provider where
  commits _ path := if path = "a" ∨ path = "b" then
    some (.file ⟨"e69de29bb2d1d6434b8b29ae775ad8c2e48c5391", by decide⟩) else none
  branches _ := none

/-- A file of a manifest. -/
def text_file (path content : String) : ManifestFile :=
  ⟨.of (.text path), .of (.text content), .of (.text (sha256_bytes (utf8_bytes content)))⟩

/-- Requests that are answered. -/
def answers (n : ℕ) : List Outcome :=
  List.replicate n (.answered ⟨"45b983be36b73c0788dc9cbcb76cbb80fc7bb057", by decide⟩)

end AppContracts.GitHubPublication
