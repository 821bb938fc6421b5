import ModHost.Main
import ModHost.Programs
import ModHost.Proofs.Attribution
import ModHost.Proofs.PlayerHooks
import ModHost.Proofs.GoldenFiles
import ModHost.Proofs.ProxyFaults
import ModHost.Proofs.StartReports
import ModHost.Proofs.Isolation
import ModHost.Proofs.HostCalls
import ModHost.Proofs.ProxySessions
import ModHost.Proofs.FreshStarts
import ModHost.Proofs.FailureQueue
import ModHost.Proofs.Reloads
import ModHost.Proofs.Activity
import ModHost.Proofs.HookOwners
import ModHost.Proofs.SetupErrors
import ModHost.Proofs.PublishedPlayers
import ModHost.Proofs.FramePhases
import ModHost.Proofs.NameResolution
import ModHost.Proofs.ConsoleHistories
import ModHost.Proofs.UnitLoads
import ModHost.Proofs.BindingInstalls
import ModHost.Proofs.HarnessVerdicts
import ModHost.Proofs.RegistryHistories
import ModHost.Proofs.NamespaceHistories
import ModHost.Proofs.BindingCalls
import ModHost.Proofs.FieldAccess
import ModHost.Proofs.HostFlags
import ModHost.Proofs.IntegerSteps
import ModHost.Proofs.FailureStacks
import ModHost.Proofs.HarnessArguments
import ModHost.Proofs.EntryPaths
import ModHost.Proofs.GoldenNames
