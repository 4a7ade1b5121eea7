import AppContracts.Lib.Interleave
import AppContracts.Lib.Json
import AppContracts.Lib.JsonRoundTrip
import AppContracts.ProcessGates
import AppContracts.R5AttemptLedger
import AppContracts.R5LedgerHistory
import AppContracts.Digests
import AppContracts.Lib.Datetime
import AppContracts.Lib.Regex
import AppContracts.ObservationEquivalence
import AppContracts.GitArchive
import AppContracts.GitHubPublication
import AppContracts.HistoryReport
import AppContracts.PublicationReconcile
import AppContracts.CredentialBroker
import AppContracts.RemotePermit
import AppContracts.R5BatchHistory
import AppContracts.BatchReport
import AppContracts.Chain
import AppContracts.BranchHistory
import AppContracts.Wire
import AppContracts.SignedVerifierAgreement
import AppContracts.GateRefusal
import AppContracts.SandboxLease
import AppContracts.HistoryStability
import AppContracts.SnapshotAgreement
import AppContracts.SandboxFacts
import AppContracts.PublicationBoundary
import AppContracts.HistoryTotality
import AppContracts.PublishManifest
import AppContracts.SchemaValidity
import AppContracts.PublicationKeys
import AppContracts.PublicationRecovery
import AppContracts.PublicationRuns
import AppContracts.PublicationOutcomes
import AppContracts.PublicationOwners
import AppContracts.StagedReplayRuns
import AppContracts.VerifierRequestErrors
import AppContracts.ArchiveRoundTrip
import AppContracts.WorkerModelResult
import AppContracts.CanaryScan
import AppContracts.SimulationStep
import AppContracts.BlobResponse
import AppContracts.SandboxTeardown
import AppContracts.ModelResult
import AppContracts.ProposalPaths
import AppContracts.LocalModelGate
import AppContracts.HostBundle
import AppContracts.TrustCurrency
import AppContracts.ContainerTransparency
import AppContracts.ArtifactDurability
