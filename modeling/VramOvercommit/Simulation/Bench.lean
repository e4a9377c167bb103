import VramOvercommit.Simulation.Device
import VramOvercommit.Simulation.Trace

set_option autoImplicit false

/-!
A host for trying out an engine: a simulated device, calls that are made to fail, a platform budget
that can be set, a clock that stands still, host memory without end and a journal of notices.
-/

namespace VramOvercommit.Simulation

/-- A failure of a call of one kind, after `skip` calls of the kind went through. -/
structure Failure where
  kind : CallKind
  cause : DriverError
  skip : Nat := 0
  deriving DecidableEq, Repr

/-- Whether a call of the kind fails. The first failure planned for the kind decides: it is used up
if no more calls are to be skipped, and comes one call closer otherwise. -/
def Failure.take (kind : CallKind) : List Failure → Option DriverError × List Failure
  | [] => (none, [])
  | failure :: rest =>
      if failure.kind = kind then
        match failure.skip with
        | 0 => (some failure.cause, rest)
        | skip + 1 => (none, { failure with skip } :: rest)
      else
        let (cause, rest) := Failure.take kind rest
        (cause, failure :: rest)

/-- The notices that passed the limit of their moment. -/
structure Journal where
  limit : Option Level := none
  notices : Array Notice := #[]
  deriving DecidableEq, Repr

def Journal.record (journal : Journal) (notice : Notice) : Journal :=
  if notice.level.passes journal.limit then
    { journal with notices := journal.notices.push notice }
  else journal

structure Bench where
  device : Device
  failures : List Failure := []
  /-- Whether the device tells its name. -/
  tellsName : Bool := true
  /-- The platform budget: no source at all, or a source with its current reading. -/
  platform : Option (Option PlatformBudget) := none
  /-- How often the platform was asked. -/
  polls : Nat := 0
  journal : Journal := {}

namespace Bench

def log (bench : Bench) (notice : Notice) : Bench :=
  { bench with journal := bench.journal.record notice }

/-- A reservation of the device is reported. -/
def announce (bench : Bench) : (call : DriverCall) → Except DriverError call.Answer → Bench
  | .reserve size, .ok vaddr => bench.log (.reserved size vaddr)
  | _, _ => bench

/-- A call reaches the device unless it is made to fail. -/
def call (c : DriverCall) : EStateM Overflow Bench (Except DriverError c.Answer) := fun bench =>
  let (cause, failures) := Failure.take c.kind bench.failures
  let bench := { bench with failures }
  match cause with
  | some cause => .ok (.error cause) bench
  | none =>
      match Device.call c bench.device with
      | .ok answer device => .ok answer ({ bench with device }.announce c answer)
      | .error overflow device => .error overflow { bench with device }

def deviceName (bench : Bench) : Option String :=
  if bench.tellsName then some Device.name else none

/-- The current reading of the platform; asking a source is counted. -/
def pollPlatform : StateM Bench (Option PlatformBudget) := fun bench =>
  match bench.platform with
  | none => (none, bench)
  | some reading => (reading, { bench with polls := bench.polls + 1 })

instance : Host Bench where
  call := Bench.call
  deviceName _ := fun bench => (bench.deviceName, bench)
  clock := fun bench => (0, bench)
  platformBudget := pollPlatform
  allocates _ _ := fun bench => (true, bench)
  log notice := fun bench => bench.log notice
  limitLog limit := fun bench => { bench with journal := { bench.journal with limit } }

/-- Benches of one process keep one journal. -/
instance : SharedHost Bench where
  share first second := { second with journal := first.journal }

end Bench

end VramOvercommit.Simulation
