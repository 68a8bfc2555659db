import NetStrike.Foundation.Json
import NetStrike.Foundation.Raising
import NetStrike.Foundation.Runs
import NetStrike.Foundation.Text
import NetStrike.Foundation.Journal
import NetStrike.Foundation.Tracking
import NetStrike.Foundation.Simulation
import NetStrike.Foundation.Stopwatch
import NetStrike.Shared.Exceptions
import NetStrike.Shared.EventSchema
import NetStrike.Shared.Events
import NetStrike.Shared.SharedRun
import NetStrike.Shared.ActionSchema
import NetStrike.Shared.Actions
import NetStrike.Shared.ActionFrames
import NetStrike.Shared.ActionPaths
import NetStrike.Shared.FailSafe
import NetStrike.Shared.Authorization
import NetStrike.Shared.Idempotency
import NetStrike.Shared.Effects
import NetStrike.Shared.Numbering
import NetStrike.Orchestrator.Scenario
import NetStrike.Orchestrator.Controller
import NetStrike.Orchestrator.ControllerFrames
import NetStrike.Orchestrator.Writes
import NetStrike.Orchestrator.Ledger
import NetStrike.Orchestrator.Replay
import NetStrike.Orchestrator.Determinism
import NetStrike.Orchestrator.Conformance
import NetStrike.Orchestrator.Persistence
import NetStrike.Orchestrator.Finality
import NetStrike.Orchestrator.Branches
import NetStrike.Orchestrator.Resolution
import NetStrike.Orchestrator.Scheduler
import NetStrike.Dashboard.SpoolFiles
import NetStrike.Dashboard.SpoolSource
import NetStrike.Dashboard.SpoolSoundness
import NetStrike.Dashboard.SpoolExport
import NetStrike.Dashboard.ClockLatch
import NetStrike.Dashboard.SpoolVerification
import NetStrike.Orchestrator.SupportIndex
import NetStrike.Orchestrator.SupportLedger
import NetStrike.Dashboard.SupportWorkflow
import NetStrike.Dashboard.SupportAgreement
import NetStrike.Dashboard.SupportRecords
import NetStrike.Dashboard.SupportHistory
import NetStrike.Shared.SimulatedActions
import NetStrike.Orchestrator.SmallSteps
import NetStrike.Orchestrator.CloudExposure
import NetStrike.Dashboard.EvidencePaging
import NetStrike.Dashboard.ParticipantRuns
import NetStrike.Orchestrator.ElapsedTime
import NetStrike.Dashboard.SsoWorkflow
import NetStrike.Orchestrator.MfaLifecycle
import NetStrike.Modules.Rollbacks
import NetStrike.Shared.Redaction
import NetStrike.Dashboard.Telemetry
import NetStrike.Shared.LedgerReload
import NetStrike.Dashboard.ReleaseCheck
import NetStrike.Scripts.BundleChecksums
import NetStrike.Scripts.ArchiveContainment
import NetStrike.Foundation.Escaping
import NetStrike.Foundation.PythonText
import NetStrike.Orchestrator.Aar
import NetStrike.Orchestrator.AarMarkdown
import NetStrike.Orchestrator.AarOutline
import NetStrike.Orchestrator.AarForgery
import NetStrike.Foundation.Compensation
import NetStrike.Modules.ImpactFixture
import NetStrike.Modules.ImpactRecovery
import NetStrike.Modules.ImpactRuns
import NetStrike.Modules.ImpactOriginals
import NetStrike.Modules.ImpactUndo
import NetStrike.Dashboard.Archive
import NetStrike.Dashboard.Store
import NetStrike.Dashboard.StoreRuns
import NetStrike.Dashboard.StoreAudit
import NetStrike.Dashboard.StoreArchives
import NetStrike.Dashboard.StorePages
