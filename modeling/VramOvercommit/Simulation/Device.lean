import VramOvercommit.Host
import VramOvercommit.NatMap

set_option autoImplicit false

/-!
A device whose driver keeps all of its state on the host. No memory is touched, but capacity,
mappings and reservations are tracked exactly, so running out of memory behaves as on real hardware.
-/

namespace VramOvercommit.Simulation

/-- The calls that can be made to fail once. -/
inductive FailurePoint where
  | reserve
  | create
  | map
  | setAccess
  deriving DecidableEq, Repr

/-- Physical memory that is in use until it is both released and unmapped. -/
structure Allocation where
  size : Nat
  mapped : Bool := false
  released : Bool := false
  deriving DecidableEq, Repr

structure Mapping where
  size : Nat
  memory : PhysicalHandle
  deriving DecidableEq, Repr

/-- The first address the device hands out. -/
def addressBase : Nat := 0x7f0000000000

structure Device where
  capacity : Nat
  /-- Memory used by other processes. -/
  foreignUsage : Nat := 0
  physicalInUse : Nat := 0
  physical : NatMap Allocation := {}
  nextHandle : Nat := 1
  /-- By start address. -/
  mappings : NatMap Mapping := {}
  /-- Sizes by start address. -/
  reservations : NatMap Nat := {}
  reservedBytes : Nat := 0
  addressSpaceLimit : Nat := wordLimit - 1 - addressBase
  /-- Addresses are never handed out twice. -/
  nextAddress : Nat := addressBase
  syncCount : Nat := 0
  /-- A failure for the next call of a kind. -/
  injected : Option (FailurePoint × DriverError) := none
  deriving DecidableEq

/-- The status code of an invalid argument. -/
def invalidValue : DriverError := .failed 1

/-- Driver calls; an error keeps the state, a sum that is no word ends the program. -/
abbrev DeviceM := ExceptT DriverError (EStateM Overflow Device)

namespace Device

def overflow {α : Type} : DeviceM α := ExceptT.lift fun device => .error ⟨⟩ device

def word (value : Nat) : DeviceM Nat :=
  if value < wordLimit then return value else overflow

/-- Fails if a failure was set up for this kind of call, once. -/
def takeFailure (point : FailurePoint) : DeviceM Unit := do
  match (← get).injected with
  | some (injected, cause) =>
      if injected = point then
        modify ({ · with injected := none })
        throw cause
      else return
  | none => return

/-- Whether the range lies within the reservation that starts at or before it. -/
def isReserved (vaddr size : Nat) : DeviceM Bool := do
  match (← get).reservations.floor? vaddr with
  | some (start, length) => return (← word (vaddr + size)) ≤ (← word (start + length))
  | none => return false

/-- Whether the range shares an address with a mapping, or one starts in it. -/
def overlapsMapping (vaddr size : Nat) : DeviceM Bool := do
  let mappings := (← get).mappings
  let reaches ← match mappings.floor? vaddr with
    | some (start, mapping) => do pure (decide (vaddr < (← word (start + mapping.size))))
    | none => pure false
  if reaches then return true
  else return mappings.anyIn vaddr (← word (vaddr + size))

/-- Takes an allocation off the books. -/
def dropPhysical (id : Nat) : DeviceM Unit := do
  match (← get).physical.get? id with
  | some allocation =>
      modify fun device => { device with
        physical := device.physical.erase id
        physicalInUse := device.physicalInUse - allocation.size }
  | none => return

def memoryInfo : DeviceM MemoryInfo := do
  let device ← get
  return ⟨device.capacity - device.physicalInUse - device.foreignUsage, device.capacity⟩

def reserve (size : Nat) : DeviceM Nat := do
  takeFailure .reserve
  if size = 0 then throw invalidValue
  else
    let device ← get
    let reservedBytes ← word (device.reservedBytes + size)
    if device.addressSpaceLimit < reservedBytes then throw .outOfMemory
    else
      let nextAddress ← word (device.nextAddress + size)
      set { device with
        nextAddress, reservedBytes
        reservations := device.reservations.insert device.nextAddress size }
      return device.nextAddress

/-- Gives a whole reservation back; it must not hold any mapping. -/
def freeAddress (vaddr size : Nat) : DeviceM Unit := do
  let device ← get
  if device.reservations.get? vaddr ≠ some size then throw invalidValue
  else if ← overlapsMapping vaddr size then throw invalidValue
  else
    set { device with
      reservations := device.reservations.erase vaddr
      reservedBytes := device.reservedBytes - size }

def create (size : Nat) : DeviceM PhysicalHandle := do
  takeFailure .create
  let device ← get
  if device.capacity < (← word (device.physicalInUse + device.foreignUsage + size)) then
    throw .outOfMemory
  else
    set { device with
      nextHandle := device.nextHandle + 1
      physical := device.physical.insert device.nextHandle { size }
      physicalInUse := device.physicalInUse + size }
    return ⟨device.nextHandle⟩

/-- Maps a whole allocation that is neither mapped nor released at a free part of a reservation. -/
def map (vaddr size : Nat) (memory : PhysicalHandle) : DeviceM Unit := do
  takeFailure .map
  if !(← isReserved vaddr size) then throw invalidValue
  else if ← overlapsMapping vaddr size then throw invalidValue
  else
    match (← get).physical.get? memory.id with
    | some allocation =>
        if allocation.size = size ∧ allocation.mapped = false ∧ allocation.released = false then
          modify fun device => { device with
            physical := device.physical.insert memory.id { allocation with mapped := true }
            mappings := device.mappings.insert vaddr ⟨size, memory⟩ }
        else throw invalidValue
    | none => throw invalidValue

def setAccess (vaddr size : Nat) : DeviceM Unit := do
  takeFailure .setAccess
  if ((← get).mappings.get? vaddr).map Mapping.size = some size then return
  else throw invalidValue

/-- Takes a whole mapping away, and the memory behind it if that is released already. -/
def unmap (vaddr size : Nat) : DeviceM Unit := do
  match (← get).mappings.get? vaddr with
  | none => throw invalidValue
  | some mapping =>
      if mapping.size ≠ size then throw invalidValue
      else
        modify fun device => { device with mappings := device.mappings.erase vaddr }
        match (← get).physical.get? mapping.memory.id with
        | none => return
        | some allocation =>
            modify fun device => { device with
              physical :=
                device.physical.insert mapping.memory.id { allocation with mapped := false } }
            if allocation.released then dropPhysical mapping.memory.id else return

/-- Releases an allocation; its memory comes back once the mapping is gone. -/
def release (memory : PhysicalHandle) : DeviceM Unit := do
  match (← get).physical.get? memory.id with
  | none => throw invalidValue
  | some allocation =>
      if allocation.released then throw invalidValue
      else
        modify fun device => { device with
          physical := device.physical.insert memory.id { allocation with released := true } }
        if allocation.mapped then return else dropPhysical memory.id

def synchronize : DeviceM Unit :=
  modify fun device => { device with syncCount := device.syncCount + 1 }

/-- The answer to a driver call. -/
def call : (call : DriverCall) → EStateM Overflow Device (Except DriverError call.Answer)
  | .totalMemory _ => fun device => .ok (.ok device.capacity) device
  | .memoryInfo => memoryInfo.run
  | .reserve size => (reserve size).run
  | .freeAddress vaddr size => (freeAddress vaddr size).run
  | .create size _ => (create size).run
  | .map vaddr size memory => (map vaddr size memory).run
  | .setAccess vaddr size _ => (setAccess vaddr size).run
  | .unmap vaddr size => (unmap vaddr size).run
  | .release memory => (release memory).run
  | .synchronize => synchronize.run

/-- The name of every simulated device. -/
def name : String := "Simulated GPU"

def mappedBytes (device : Device) : Nat :=
  (device.mappings.values.map Mapping.size).foldr (· + ·) 0

def isMapped (device : Device) (vaddr : Nat) : Bool := device.mappings.contains vaddr

/-- The next call of a kind fails. -/
def failNext (device : Device) (point : FailurePoint) (cause : DriverError) : Device :=
  { device with injected := some (point, cause) }

end Device

end VramOvercommit.Simulation
