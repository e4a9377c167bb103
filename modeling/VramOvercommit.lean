import VramOvercommit.Abi.Process
import VramOvercommit.NatMap.Lookup
import VramOvercommit.Simulation.Bench
import VramOvercommit.Proofs.Ensures
import VramOvercommit.Proofs.PriorityList.Chain
import VramOvercommit.Proofs.PriorityList.Entries
import VramOvercommit.Proofs.PriorityList.Operations
import VramOvercommit.Proofs.PriorityList.Refinement
import VramOvercommit.Proofs.Vbar.Pages
import VramOvercommit.Proofs.Vbar.Shrinking
import VramOvercommit.Proofs.Holdings
import VramOvercommit.Proofs.Ledger
import VramOvercommit.Proofs.ReclaimOrder
import VramOvercommit.Proofs.Eviction
import VramOvercommit.Proofs.EvictionForVbar
import VramOvercommit.Proofs.Sound
import VramOvercommit.Proofs.Actions
import VramOvercommit.Proofs.Recording
import VramOvercommit.Proofs.FaultProgress
import VramOvercommit.Proofs.Faulting
import VramOvercommit.Proofs.VbarOperations
import VramOvercommit.Proofs.VbarLifecycle
import VramOvercommit.Proofs.BufferOperations
import VramOvercommit.Proofs.Operations
import VramOvercommit.Proofs.Run
import VramOvercommit.Proofs.AnyDriver
import VramOvercommit.Proofs.Priority
import VramOvercommit.Proofs.OperationActions
import VramOvercommit.Proofs.Serials
import VramOvercommit.Proofs.Simulation.Addresses
import VramOvercommit.Proofs.Simulation.Memory
import VramOvercommit.Proofs.Simulation.BenchLedger
import VramOvercommit.Proofs.Simulation.Facade
import VramOvercommit.Proofs.Simulation.Accounts
import VramOvercommit.Proofs.Simulation.QuietLedger
import VramOvercommit.Proofs.Simulation.FaultOutcome
import VramOvercommit.Proofs.Simulation.AllocationOutcome
import VramOvercommit.Proofs.Barriers
import VramOvercommit.Proofs.Discarding
import VramOvercommit.Proofs.Handles
import VramOvercommit.Proofs.PriorityList.Generations
import VramOvercommit.Proofs.Simulation.AddressSpace
import VramOvercommit.Proofs.Simulation.DeviceEffects
import VramOvercommit.Proofs.Simulation.DeviceTables
import VramOvercommit.Proofs.Simulation.DeviceBooks
import VramOvercommit.Proofs.Addressing
import VramOvercommit.Proofs.Closing
import VramOvercommit.Proofs.Simulation.ReservationOutcome
import VramOvercommit.Proofs.Simulation.TracedBench
import VramOvercommit.Proofs.Simulation.Teardown
import VramOvercommit.Proofs.Auditing
import VramOvercommit.Proofs.Likeness
import VramOvercommit.Proofs.RequestLikeness
import VramOvercommit.Proofs.Simulation.Journals
import VramOvercommit.Proofs.RefusedRequests
import VramOvercommit.Proofs.Reentrancy
import VramOvercommit.Proofs.TouchedPages
import VramOvercommit.Proofs.FaultedPages
import VramOvercommit.Proofs.FaultedRanges
import VramOvercommit.Proofs.ExactEvictions
import VramOvercommit.Proofs.BufferShape
import VramOvercommit.Proofs.Simulation.BufferGrowth
import VramOvercommit.Proofs.SupplyCalls
import VramOvercommit.Proofs.Retries
import VramOvercommit.Proofs.PassRecords
import VramOvercommit.Proofs.Simulation.SteadyLedger
import VramOvercommit.Proofs.Simulation.FailedAllocations
import VramOvercommit.Proofs.Simulation.PagedLedger
import VramOvercommit.Proofs.Simulation.FaultReclaims
import VramOvercommit.Proofs.BudgetHistory
import VramOvercommit.Proofs.Simulation.Headroom
import VramOvercommit.Proofs.Simulation.UnpinOrder
