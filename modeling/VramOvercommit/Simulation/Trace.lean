import VramOvercommit.Host

set_option autoImplicit false

/-! A record of the calls that reach a host, with their answers. -/

namespace VramOvercommit

/-- The name of a call in a written trace. -/
def CallKind.name : CallKind → String
  | totalMemory => "total_mem"
  | memoryInfo => "mem_info"
  | reserve => "reserve"
  | freeAddress => "free_address"
  | create => "create"
  | map => "map"
  | setAccess => "set_access"
  | unmap => "unmap"
  | release => "release"
  | synchronize => "sync"

def CallKind.all : List CallKind :=
  [.totalMemory, .memoryInfo, .reserve, .freeAddress, .create, .map, .setAccess, .unmap, .release,
    .synchronize]

def CallKind.ofName? (name : String) : Option CallKind :=
  CallKind.all.find? (fun kind => kind.name == name)

namespace Simulation

/-- Something the engine asked of the device. -/
inductive Event where
  | called (call : DriverCall) (answer : Except DriverError call.Answer)
  | named (device : Int) (name : Option String)

namespace Event

def arguments : DriverCall → List String
  | .totalMemory device => [toString device]
  | .memoryInfo | .synchronize => []
  | .reserve size => [toString size]
  | .freeAddress vaddr size | .unmap vaddr size => [toString vaddr, toString size]
  | .create size device => [toString size, toString device]
  | .map vaddr size memory => [toString vaddr, toString size, toString memory.id]
  | .setAccess vaddr size device => [toString vaddr, toString size, toString device]
  | .release memory => [toString memory.id]

def result : (call : DriverCall) → call.Answer → String
  | .totalMemory _, bytes => toString bytes
  | .memoryInfo, info => toString info.free ++ "/" ++ toString info.total
  | .reserve _, vaddr => toString vaddr
  | .create _ _, memory => toString memory.id
  | .freeAddress _ _, _ | .map _ _ _, _ | .setAccess _ _ _, _ | .unmap _ _, _ | .release _, _
  | .synchronize, _ => "ok"

def refusal : DriverError → String
  | .outOfMemory => "oom"
  | .failed code => "err " ++ toString code

/-- The line of a call in a written trace: its name, its arguments and its result. -/
def text : Event → String
  | called call answer =>
      call.kind.name ++ "(" ++ ",".intercalate (arguments call) ++ ")=" ++
        match answer with
        | .ok value => result call value
        | .error cause => refusal cause
  | named device name => "name(" ++ toString device ++ ")=" ++ name.getD "none"

end Event

/-- A host with the record of what it was asked. -/
structure Traced (σ : Type) where
  host : σ
  events : Array Event := #[]

namespace Traced

variable {σ : Type}

def record (traced : Traced σ) (host : σ) (event : Event) : Traced σ :=
  ⟨host, traced.events.push event⟩

/-- Every call is recorded with its answer, in the order of the answers. -/
instance [Host σ] : Host (Traced σ) where
  call c := fun traced =>
    match Host.call c traced.host with
    | .ok answer host => .ok answer (traced.record host (.called c answer))
    | .error overflow host => .error overflow { traced with host }
  deviceName device := fun traced =>
    let (name, host) := Host.deviceName device traced.host
    (name, traced.record host (.named device name))
  clock := fun traced =>
    let (now, host) := (Host.clock : StateM σ Nat) traced.host
    (now, { traced with host })
  platformBudget := fun traced =>
    let (reading, host) := (Host.platformBudget : StateM σ (Option PlatformBudget)) traced.host
    (reading, { traced with host })
  allocates table count := fun traced =>
    let (granted, host) := Host.allocates table count traced.host
    (granted, { traced with host })
  log notice := fun traced => { traced with host := Host.log notice traced.host }
  limitLog limit := fun traced => { traced with host := Host.limitLog limit traced.host }

instance [SharedHost σ] : SharedHost (Traced σ) where
  share first second := { second with host := SharedHost.share first.host second.host }

end Traced

end Simulation

end VramOvercommit
