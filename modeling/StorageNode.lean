import StorageNode.Admission.BackOff
import StorageNode.Admission.Controller
import StorageNode.Admission.WriteBudget
import StorageNode.Config.Helpers
import StorageNode.Config.Load
import StorageNode.Config.Loaded
import StorageNode.Config.Migration
import StorageNode.Config.PolicySource
import StorageNode.Config.Target
import StorageNode.Config.TargetPolicies
import StorageNode.Files.Volume
import StorageNode.FloatingPoint.Nearest
import StorageNode.FloatingPoint.Number
import StorageNode.Generation.Contracts
import StorageNode.Generation.Creation
import StorageNode.Generation.Guarantees
import StorageNode.Generation.Lifecycle
import StorageNode.Generation.Programs
import StorageNode.Generation.Protocol
import StorageNode.Generation.Resolver
import StorageNode.Generation.World
import StorageNode.Guardian.Acceptance
import StorageNode.Guardian.Detach
import StorageNode.Guardian.Drain
import StorageNode.Guardian.Footprint
import StorageNode.Guardian.Invariant
import StorageNode.Guardian.Keeps
import StorageNode.Guardian.Parking
import StorageNode.Guardian.Programs
import StorageNode.Guardian.Readiness
import StorageNode.Guardian.RouteHelpers
import StorageNode.Guardian.RouteRuns
import StorageNode.Guardian.RouteService
import StorageNode.Guardian.RouteTermination
import StorageNode.Guardian.Routes
import StorageNode.Guardian.RunSafety
import StorageNode.Guardian.Seaweed
import StorageNode.Guardian.Serving
import StorageNode.Guardian.Startup
import StorageNode.Guardian.Termination
import StorageNode.Guardian.World
import StorageNode.Health.Lock
import StorageNode.Health.StableStatus
import StorageNode.Health.StatusViews
import StorageNode.Health.VolumeStatus
import StorageNode.History.Accounting
import StorageNode.History.Effects
import StorageNode.History.Numbers
import StorageNode.History.Persistence
import StorageNode.History.State
import StorageNode.History.Survival
import StorageNode.History.Trust
import StorageNode.IndexHelper.Bounds
import StorageNode.IndexHelper.BuildFrame
import StorageNode.IndexHelper.Encoding
import StorageNode.IndexHelper.Inspection
import StorageNode.IndexHelper.Model
import StorageNode.IndexHelper.TailSafety
import StorageNode.IndexRepair.AdmitContract
import StorageNode.IndexRepair.Alone
import StorageNode.IndexRepair.Authorization
import StorageNode.IndexRepair.BatchRepair
import StorageNode.IndexRepair.BatchValidation
import StorageNode.IndexRepair.Controller
import StorageNode.IndexRepair.CrashContract
import StorageNode.IndexRepair.CrashRecovery
import StorageNode.IndexRepair.Detected
import StorageNode.IndexRepair.FailureRecords
import StorageNode.IndexRepair.Finality
import StorageNode.IndexRepair.Guard
import StorageNode.IndexRepair.GuardianFlow
import StorageNode.IndexRepair.InFlight
import StorageNode.IndexRepair.InstallContract
import StorageNode.IndexRepair.InstallCrash
import StorageNode.IndexRepair.InstallSafety
import StorageNode.IndexRepair.Interleaving
import StorageNode.IndexRepair.JournalContract
import StorageNode.IndexRepair.Keeps
import StorageNode.IndexRepair.Ledger
import StorageNode.IndexRepair.Locality
import StorageNode.IndexRepair.OperatorRetry
import StorageNode.IndexRepair.PlainParts
import StorageNode.IndexRepair.Pool
import StorageNode.IndexRepair.PreflightFailures
import StorageNode.IndexRepair.Programs
import StorageNode.IndexRepair.Records
import StorageNode.IndexRepair.Repair
import StorageNode.IndexRepair.RepairContract
import StorageNode.IndexRepair.RepairFrame
import StorageNode.IndexRepair.RepeatedVolumes
import StorageNode.IndexRepair.Requests
import StorageNode.IndexRepair.RollbackCrash
import StorageNode.IndexRepair.RollbackIsolation
import StorageNode.IndexRepair.SoleRepair
import StorageNode.IndexRepair.Stamps
import StorageNode.IndexRepair.TailRecovery
import StorageNode.IndexRepair.TailRecursion
import StorageNode.IndexRepair.Transaction
import StorageNode.IndexRepair.VolumeNames
import StorageNode.IndexRepair.Watch
import StorageNode.IndexRepair.World
import StorageNode.Journal.Availability
import StorageNode.Journal.Guarantees
import StorageNode.Journal.Programs
import StorageNode.Journal.Protocol
import StorageNode.Journal.Reading
import StorageNode.Journal.Records
import StorageNode.Journal.System
import StorageNode.Journal.World
import StorageNode.Journal.Writing
import StorageNode.Json.Dumpable
import StorageNode.Json.Fuel
import StorageNode.Json.Members
import StorageNode.Json.Reader
import StorageNode.Json.RoundTrip
import StorageNode.Json.Scanning
import StorageNode.Json.Value
import StorageNode.Json.Writer
import StorageNode.Program.Confined
import StorageNode.Program.Contract
import StorageNode.Program.Core
import StorageNode.Program.Interference
import StorageNode.Program.Machine
import StorageNode.Program.Matching
import StorageNode.Program.Parallel
import StorageNode.Program.Relational
import StorageNode.Program.Safety
import StorageNode.Program.Sequential
import StorageNode.Seaweed.Processes
import StorageNode.Storage.CifsCertification
import StorageNode.Storage.CifsDebugData
import StorageNode.Storage.CifsMount
import StorageNode.Storage.ManagedRoot
import StorageNode.Storage.MountIdentity
import StorageNode.Storage.MountInfo
import StorageNode.Storage.Sentinel
import StorageNode.Storage.SshCredentials
import StorageNode.Storage.SshfsMount
import StorageNode.Text.Basic
import StorageNode.Text.Csv
import StorageNode.Text.Fields
import StorageNode.Text.PosixPath
import StorageNode.Text.Scan
import StorageNode.Text.Shlex
import StorageNode.Transport.Failover
import StorageNode.Transport.Fingerprint
import StorageNode.Transport.Selector
import StorageNode.Transport.SelectorSafety
import StorageNode.Transport.StartupVerification
import StorageNode.Transport.VerificationSafety
