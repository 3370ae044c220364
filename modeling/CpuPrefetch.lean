import CpuPrefetch.Proofs.Analysis.Accounting
import CpuPrefetch.Proofs.Analysis.Dependence
import CpuPrefetch.Proofs.Analysis.EncodedRows
import CpuPrefetch.Proofs.Analysis.Refit
import CpuPrefetch.Proofs.Analysis.Sizing
import CpuPrefetch.Proofs.Calibration.Rationals
import CpuPrefetch.Proofs.Calibration.RingStates
import CpuPrefetch.Proofs.Calibration.RingTrace
import CpuPrefetch.Proofs.Calibration.UsableDistances
import CpuPrefetch.Proofs.Lifecycle.Fabrication
import CpuPrefetch.Proofs.Lifecycle.Termination
import CpuPrefetch.Proofs.Orchestration.Predecessors
import CpuPrefetch.Proofs.Orchestration.SizedPools
import CpuPrefetch.Proofs.Orchestration.Timestamps
import CpuPrefetch.Proofs.Platform.Inventories
import CpuPrefetch.Proofs.Platform.Prestates
import CpuPrefetch.Proofs.Protocol.Reread
import CpuPrefetch.Proofs.Queue.Audits
import CpuPrefetch.Proofs.Reconciliation.Estimability
import CpuPrefetch.Proofs.Runner.Admission
import CpuPrefetch.Proofs.Schedule.Derivation
import CpuPrefetch.Proofs.Schedule.InlineSchedules
import CpuPrefetch.Proofs.Schedule.Uses
import CpuPrefetch.Proofs.Storage.Arrivals
import CpuPrefetch.Proofs.Storage.Budget
import CpuPrefetch.Proofs.Storage.CompleteRuns
import CpuPrefetch.Proofs.Storage.RoundTrip
import CpuPrefetch.Proofs.Timing.CrossCore
import CpuPrefetch.Proofs.Timing.Intervals
import CpuPrefetch.Proofs.Tools.Canonicalizers
import CpuPrefetch.Proofs.Tools.MatrixProbes
import CpuPrefetch.Proofs.Tools.StandBundle
import CpuPrefetch.Proofs.Workload.AddressDeltas
import CpuPrefetch.Proofs.Workload.Preimages
import CpuPrefetch.Proofs.Workload.RollingChecksum
import CpuPrefetch.Proofs.Workload.WorkingSet
