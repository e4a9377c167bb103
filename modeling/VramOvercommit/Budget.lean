import VramOvercommit.Abort
import VramOvercommit.Host

set_option autoImplicit false

/-!
The account of committed memory, and the shortage that committing more would lead to. Estimates are
computed in unbounded integers and cut to a word at the very end.
-/

namespace VramOvercommit

/-- A reading of the platform, and how much was committed when it was taken. -/
structure Reading where
  platform : PlatformBudget
  usage : Nat
  deriving DecidableEq, Repr

structure Budget where
  /-- Physical memory of the device. -/
  capacity : Nat
  /-- Bytes of physical memory that are committed. -/
  residentUsage : Nat := 0
  headroom : Nat
  platformHeadroom : Nat
  /-- Milliseconds between two readings of the platform. -/
  pollInterval : Nat
  lastPoll : Option Nat := none
  lastReading : Option Reading := none
  deriving DecidableEq, Repr

/-- By how much memory falls short, and which estimate says so. -/
structure Shortfall where
  bytes : Int
  source : DeficitSource
  deriving DecidableEq, Repr

/-- The greater shortfall; of two equal ones the first. -/
def Shortfall.max (first second : Shortfall) : Shortfall :=
  if first.bytes < second.bytes then second else first

theorem Shortfall.max_bytes (first second : Shortfall) :
    (first.max second).bytes = Max.max first.bytes second.bytes := by
  rw [Shortfall.max]
  split <;> omega

namespace Budget

def recordCommit (budget : Budget) (size : Nat) : Except Abort Budget :=
  if budget.residentUsage + size < wordLimit then
    .ok { budget with residentUsage := budget.residentUsage + size }
  else .error .overflow

def recordRelease (budget : Budget) (size : Nat) : Except Abort Budget :=
  if size ≤ budget.residentUsage then
    .ok { budget with residentUsage := budget.residentUsage - size }
  else .error .overRelease

/-- Asking the platform is expensive, so a reading is taken once per interval. -/
def pollDue (budget : Budget) (now : Nat) : Bool :=
  match budget.lastPoll with
  | none => true
  | some last => budget.pollInterval ≤ now - last

def recordPoll (budget : Budget) (now : Nat) (answer : Option PlatformBudget) : Budget :=
  { budget with
    lastPoll := some now
    lastReading := answer.map (fun platform => ⟨platform, budget.residentUsage⟩) }

/-- The shortfall by the account of this process. -/
def accountingShortfall (budget : Budget) (extra : Nat) : Shortfall :=
  ⟨(budget.residentUsage : Int) + extra + budget.headroom - budget.capacity, .accounting⟩

/-- The shortfall by the free memory that the driver reports. -/
def driverShortfall (budget : Budget) (extra free : Nat) : Shortfall :=
  ⟨(budget.headroom : Int) + extra - free, .driverMemory⟩

/-- The shortfall by the budget of the platform. Between readings the usage is advanced by what was
committed or released since. -/
def platformShortfall (budget : Budget) (extra : Nat) (reading : Reading) : Shortfall :=
  ⟨(reading.platform.currentUsage : Int) + budget.residentUsage - reading.usage + extra +
    budget.platformHeadroom - reading.platform.budget, .platformBudget⟩

/-- The worst of all estimates that are available. -/
def shortfall (budget : Budget) (extra : Nat) (free : Option Nat) : Shortfall :=
  let known := match free with
    | none => budget.accountingShortfall extra
    | some free => (budget.accountingShortfall extra).max (budget.driverShortfall extra free)
  match budget.lastReading with
  | none => known
  | some reading => known.max (budget.platformShortfall extra reading)

/-- The bytes to reclaim before `extra` more are committed. -/
def deficit (budget : Budget) (extra : Nat) (free : Option Nat) : Nat :=
  saturate (budget.shortfall extra free).bytes

end Budget

end VramOvercommit
