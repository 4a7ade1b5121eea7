/-
What the modelled code takes from Python: its exceptions, arguments that may be
of the wrong type, and UTC timestamps.

An exception is its class and its text. The classes are those the modelled
functions raise, with the part of Python's class tree their `except` clauses
look at.
-/
import AppContracts.Lib.Interleave
import AppContracts.Lib.JsonRoundTrip

set_option autoImplicit false

namespace AppContracts

/-! ## Exceptions -/

/-- The exception classes of the modelled code. A class that no modelled
`except` clause tells from one of its bases is that base, in the end
`Exception`. -/
inductive ExnClass : Type
  | ValueError
  | TypeError
  | AttributeError
  | KeyError
  | IndexError
  | MemoryError
  | RuntimeError
  | OverflowError
  | UnicodeEncodeError
  | sqlite3_IntegrityError
  | sqlite3_OperationalError
  | ContractValidationError
  | InvalidTransition
  | ProcessStoreError
  | ProcessNotFound
  | VersionConflict
  | R5AttemptLedgerError
  | EventConflictError
  | PreDispatchError
  | ObservationStoreError
  | GitHubSnapshotError
  | GitHubArchiveSnapshotError
  | GitHubAppBrokerError
  | FileNotFoundError
  | NotADirectoryError
  | OSError
  | ObserverArtifactStoreError
  | ApprovalRequestError
  | SignedApprovalError
  | StagePreviewError
  | ControlledPublicationError
  | R5BatchCLIError
  | HistoryReportError
  | CredentialLeakDetected
  | RemoteSnapshotWorkspaceError
  | ExecutionError
  | VerifierProcessError
  | DurableStageError
  | DurableStageStoreError
  | DurableStageNotFound
  | DurableStageConflict
  | RemoteExecutionPermitError
  | WorkerJournalError
  | ExecutionAuthorizationJournalError
  | ExecutionAuthorizationOutcomeUnknownError
  | R5BatchRunnerError
  | SimulationBranchError
  | PublicationSeedError
  | SignedGitHubPublicationError
  | SignedGitHubReconciliationError
  | SignedVerifierClientError
  | SignedVerifierProtocolError
  | SignedVerifierServiceError
  | VerifierAttestationError
  | VerifierHostTrustDecisionError
  | VerifierProvenanceError
  | VerifierTrustEnrollmentError
  | Exception
  | AllowlistedTestFailureError
  | LocalModelObserverGateError
  | LocalModelObserverOutcomeUnknownError
  | PublicationRecoveryRequired
  | SimulatedCrash
  | WorkerOutcomeUnknownError
  | WorkerProposalFailedError
  | VerifierJournalError
  | VerifierOutcomeUnknownError
  | VerifierCallFailedError
  | SandboxJournalError
  | SandboxOutcomeUnknownError
  | SandboxCallFailedError
  | StageJournalError
  | StageOutcomeUnknownError
  | StageCallFailedError
  | SnapshotJournalError
  | SnapshotOutcomeUnknownError
  | SnapshotCallFailedError
  | SnapshotPinDecisionError
  | SnapshotPinDecisionOutcomeUnknownError
  | ControlledPublicationJournalError
  | ControlledPublicationOutcomeUnknownError
  | ControlledPublicationCallFailedError
  | WorkerModelIPCError
  | ModelRequestProtocolError
  | SystemExit
  deriving DecidableEq

/-- A raised exception. -/
structure Exn : Type where
  cls : ExnClass
  message : String
  deriving DecidableEq

namespace ExnClass

/-- The direct base class, for the classes that have one here. -/
def base : ExnClass → Option ExnClass
  | UnicodeEncodeError => some ValueError
  | FileNotFoundError => some OSError
  | NotADirectoryError => some OSError
  | ObserverArtifactStoreError => some ValueError
  | ApprovalRequestError => some ValueError
  | SignedApprovalError => some ValueError
  | StagePreviewError => some ValueError
  | ControlledPublicationError => some ValueError
  | ContractValidationError => some ValueError
  | InvalidTransition => some ValueError
  | ProcessStoreError => some RuntimeError
  | ProcessNotFound => some ProcessStoreError
  | VersionConflict => some ProcessStoreError
  | R5AttemptLedgerError => some ValueError
  | EventConflictError => some ValueError
  | PreDispatchError => some RuntimeError
  | ObservationStoreError => some RuntimeError
  | GitHubSnapshotError => some ValueError
  | GitHubArchiveSnapshotError => some ValueError
  | GitHubAppBrokerError => some RuntimeError
  | HistoryReportError => some ValueError
  | CredentialLeakDetected => some RuntimeError
  | RemoteSnapshotWorkspaceError => some ValueError
  | ExecutionError => some ValueError
  | VerifierProcessError => some ValueError
  | DurableStageError => some ValueError
  | DurableStageStoreError => some RuntimeError
  | DurableStageNotFound => some DurableStageStoreError
  | DurableStageConflict => some DurableStageStoreError
  | RemoteExecutionPermitError => some ValueError
  | R5BatchRunnerError => some ValueError
  | R5BatchCLIError => some ValueError
  | SimulationBranchError => some ValueError
  | PublicationSeedError => some ValueError
  | SignedGitHubPublicationError => some ValueError
  | SignedGitHubReconciliationError => some ValueError
  | SignedVerifierClientError => some ValueError
  | SignedVerifierProtocolError => some ValueError
  | SignedVerifierServiceError => some ValueError
  | VerifierAttestationError => some ValueError
  | VerifierHostTrustDecisionError => some ValueError
  | VerifierProvenanceError => some ValueError
  | VerifierTrustEnrollmentError => some ValueError
  | WorkerJournalError => some RuntimeError
  | ExecutionAuthorizationJournalError => some WorkerJournalError
  | ExecutionAuthorizationOutcomeUnknownError => some ExecutionAuthorizationJournalError
  | AllowlistedTestFailureError => some ContractValidationError
  | LocalModelObserverGateError => some RuntimeError
  | LocalModelObserverOutcomeUnknownError => some LocalModelObserverGateError
  | PublicationRecoveryRequired => some RuntimeError
  | SimulatedCrash => some RuntimeError
  | WorkerOutcomeUnknownError => some RuntimeError
  | WorkerProposalFailedError => some RuntimeError
  | VerifierJournalError => some RuntimeError
  | VerifierOutcomeUnknownError => some RuntimeError
  | VerifierCallFailedError => some RuntimeError
  | SandboxJournalError => some RuntimeError
  | SandboxOutcomeUnknownError => some RuntimeError
  | SandboxCallFailedError => some RuntimeError
  | StageJournalError => some RuntimeError
  | StageOutcomeUnknownError => some RuntimeError
  | StageCallFailedError => some RuntimeError
  | SnapshotJournalError => some RuntimeError
  | SnapshotOutcomeUnknownError => some RuntimeError
  | SnapshotCallFailedError => some RuntimeError
  | SnapshotPinDecisionError => some WorkerJournalError
  | SnapshotPinDecisionOutcomeUnknownError => some SnapshotPinDecisionError
  | ControlledPublicationJournalError => some RuntimeError
  | ControlledPublicationOutcomeUnknownError => some ControlledPublicationJournalError
  | ControlledPublicationCallFailedError => some ControlledPublicationJournalError
  | WorkerModelIPCError => some ValueError
  | _ => none

/-- The class is one of the first `n` bases of `c`, or `c` itself. -/
def derives (d : ExnClass) : ℕ → ExnClass → Bool
  | 0, c => c = d
  | n + 1, c => c = d || (match c.base with
    | some b => derives d n b
    | none => false)

/-- `issubclass(c, d)`: no chain of bases here is longer than four. -/
def is_a (c d : ExnClass) : Bool := derives d 4 c

end ExnClass

/-- `except (C, D, ..)`: whether a clause with these classes catches the
exception. -/
def Exn.is_any (e : Exn) (classes : List ExnClass) : Bool := classes.any e.cls.is_a

@[simp] theorem ok_bind {α β : Type} (a : α) (f : α → Except Exn β) :
    (Except.ok a >>= f) = f a := rfl

@[simp] theorem error_bind {α β : Type} (e : Exn) (f : α → Except Exn β) :
    (Except.error e >>= f) = .error e := rfl

/-- A computation in steps returns if each step does. -/
theorem bind_ok {α β : Type} {x : Except Exn α} {f : α → Except Exn β} {b : β} :
    (x >>= f) = .ok b ↔ ∃ a, x = .ok a ∧ f a = .ok b := by
  cases x <;> simp

/-- A check that raises, and what follows it. -/
theorem guard_ok {α : Type} {p : Prop} [Decidable p] {e : Exn} {x : Except Exn α} {a : α} :
    (if p then .error e else x) = .ok a ↔ ¬ p ∧ x = .ok a := by
  by_cases h : p <;> simp [h]

/-- `if p: raise e`. -/
def raise_if (p : Prop) [Decidable p] (e : Exn) : Except Exn Unit := if p then .error e else .ok ()

/-- A check in a sequence of steps. -/
theorem raise_if_bind {α : Type} {p : Prop} [Decidable p] {e : Exn} {f : Unit → Except Exn α} {a : α} :
    (raise_if p e >>= f) = .ok a ↔ ¬ p ∧ f () = .ok a := by
  by_cases h : p <;> simp [raise_if, h]

theorem raise_if_ok {p : Prop} [Decidable p] {e : Exn} : raise_if p e = .ok () ↔ ¬ p := by
  by_cases h : p <;> simp [raise_if, h]

/-- A step without a value. -/
theorem exists_unit {p : Unit → Prop} : (∃ u, p u) ↔ p () := ⟨fun ⟨(), h⟩ => h, fun h => ⟨(), h⟩⟩

/-- What a computation raises has a class with `P`. -/
def Raises {β : Type} (P : ExnClass → Prop) (x : Except Exn β) : Prop :=
  ∀ e, x = .error e → P e.cls

namespace Raises

variable {β γ : Type} {P Q : ExnClass → Prop}

theorem ok (b : β) : Raises P (.ok b) := fun _ h => nomatch h

theorem error {e : Exn} (h : P e.cls) : Raises P (.error e : Except Exn β) := by
  rintro _ ⟨⟩
  exact h

theorem mono {x : Except Exn β} (h : Raises P x) (hPQ : ∀ c, P c → Q c) : Raises Q x :=
  fun e he => hPQ _ (h e he)

theorem bind {x : Except Exn β} {f : β → Except Exn γ} (hx : Raises P x)
    (hf : ∀ b, x = .ok b → Raises P (f b)) : Raises P (x >>= f) := by
  cases x with
  | error e => exact error (hx e rfl)
  | ok b => exact hf b rfl

theorem raise_if {p : Prop} [Decidable p] {e : Exn} (h : P e.cls) : Raises P (raise_if p e) := by
  by_cases hp : p
  · rw [AppContracts.raise_if, if_pos hp]
    exact error h
  · rw [AppContracts.raise_if, if_neg hp]
    exact ok ()

end Raises

/-! ## Arguments -/

/-- An argument: a value of the declared type, or one of another type. -/
inductive Arg (α : Type) : Type
  | of (a : α)
  | other
  deriving DecidableEq

/-- A bound SQL parameter: SQLite takes text, not lone surrogates. -/
def bind_text : PyStr → Except Exn String
  | .text s => .ok s
  | .surrogates _ _ => .error ⟨.UnicodeEncodeError, "surrogates not allowed"⟩

/-- An argument the code checks with `isinstance(v, str) and v`. -/
def nonempty_str (v : Arg PyStr) (e : Exn) : Except Exn PyStr :=
  match v with
  | .of s => if s = .text "" then .error e else .ok s
  | .other => .error e

/-! ## Dicts -/

/-- What a dict gives for a key is one of its items. -/
theorem mem_of_lookup {κ ν : Type} [BEq κ] [LawfulBEq κ] {l : List (κ × ν)} {k : κ} {v : ν}
    (h : l.lookup k = some v) : (k, v) ∈ l := by
  obtain ⟨front, rest, rfl, -⟩ := List.lookup_eq_some_iff.mp h
  simp

/-- A dict with distinct keys gives each of its items. -/
theorem lookup_of_mem {κ ν : Type} [BEq κ] [LawfulBEq κ] {l : List (κ × ν)}
    (hnodup : (l.map Prod.fst).Nodup) {k : κ} {v : ν} (h : (k, v) ∈ l) : l.lookup k = some v := by
  obtain ⟨front, rest, rfl⟩ := List.append_of_mem h
  refine List.lookup_eq_some_iff.mpr ⟨front, rest, rfl, fun p hp => ?_⟩
  rw [List.map_append, List.map_cons] at hnodup
  rw [bne_iff_ne]
  rintro rfl
  exact (List.nodup_append.mp hnodup).2.2 _ (List.mem_map_of_mem hp) _ List.mem_cons_self rfl

/-! ## Strings -/

/-- `str.replace` on the characters; `skip` characters of a match are still to
be passed over. -/
def replace_chars (old new : List Char) : ℕ → List Char → List Char
  | _, [] => []
  | skip + 1, _ :: rest => replace_chars old new skip rest
  | 0, c :: rest =>
    if old.isPrefixOf (c :: rest) then new ++ replace_chars old new (old.length - 1) rest
    else c :: replace_chars old new 0 rest

/-- `s.replace(old, new)`, for a text `old` that is not empty. -/
def str_replace (s old new : String) : String :=
  String.ofList (replace_chars old.toList new.toList 0 s.toList)

example : str_replace "2026-01-01T00:00:00+00:00" "+00:00" "Z" = "2026-01-01T00:00:00Z" := by
  decide

/-! ## Time -/

/-- The value of a `now` argument, or of the clock where it is omitted: not an
aware datetime, one that has no UTC equivalent, or the instant with the
`isoformat()` of its UTC equivalent. -/
inductive Moment : Type
  | invalid
  | out_of_range
  | at (isoformat : String)
  deriving DecidableEq

end AppContracts
