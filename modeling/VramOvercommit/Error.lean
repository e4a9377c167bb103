set_option autoImplicit false

/-! Causes of failure, of a driver call and of an operation, and their texts. -/

namespace VramOvercommit

/-- Why the driver refused a call. -/
inductive DriverError where
  /-- Physical device memory or address space ran out; reclaiming may help. -/
  | outOfMemory
  /-- Any other failure, with the status code of the driver. -/
  | failed (code : Int)
  deriving DecidableEq, Repr

namespace DriverError

def message : DriverError → String
  | outOfMemory => "out of device memory"
  | failed code => s!"driver call failed (code: {code})"

/-- The name of the cause alone. -/
def kind : DriverError → String
  | outOfMemory => "OutOfMemory"
  | failed _ => "Failed"

/-- The cause as a term: its name, with its data in brackets. -/
def term : DriverError → String
  | outOfMemory => "OutOfMemory"
  | failed code => "Failed(" ++ toString code ++ ")"

def isOutOfMemory : DriverError → Bool
  | outOfMemory => true
  | failed _ => false

end DriverError

/-- Why a configuration is refused. -/
inductive ConfigFault where
  | zeroSize
  | pageNotInChunks
  | chunkNotInUnits
  deriving DecidableEq, Repr

def ConfigFault.message : ConfigFault → String
  | zeroSize => "sizes have to be greater than zero"
  | pageNotInChunks => "VBAR page size has to be a multiple of the chunk size"
  | chunkNotInUnits => "chunk size has to be a multiple of the minimum allocation size"

/-- Why an operation failed. -/
inductive Error where
  /-- Host bookkeeping memory could not be allocated. -/
  | hostOutOfMemory
  /-- Virtual address space could not be reserved. -/
  | addressSpace (cause : DriverError)
  /-- Physical memory is exhausted even after reclaiming. -/
  | outOfMemory
  | driver (cause : DriverError)
  /-- The handle or pointer does not refer to anything live. -/
  | invalidHandle
  | exceedsReservation (requested max : Nat)
  | invalidConfig (fault : ConfigFault)
  /-- No context is installed behind the binary interface. -/
  | notInitialized
  | alreadyInitialized
  /-- The installed context is in use by another caller. -/
  | busy
  deriving DecidableEq, Repr

namespace Error

/-- An exhausted device is an outcome of its own; every other cause is kept. -/
def ofDriver : DriverError → Error
  | .outOfMemory => outOfMemory
  | .failed code => driver (.failed code)

def message : Error → String
  | hostOutOfMemory => "host out of memory"
  | addressSpace cause => "could not reserve virtual address space: " ++ cause.message
  | outOfMemory => "out of VRAM"
  | driver cause => cause.message
  | invalidHandle => "invalid handle"
  | exceedsReservation requested max =>
      s!"requested {requested} bytes, but only {max} bytes are reserved"
  | invalidConfig fault => "invalid configuration: " ++ fault.message
  | notInitialized => "aimdo is not initialized"
  | alreadyInitialized => "aimdo is already initialized"
  | busy => "aimdo is used concurrently"

/-- The name of the cause alone. -/
def kind : Error → String
  | hostOutOfMemory => "HostOutOfMemory"
  | addressSpace _ => "AddressSpace"
  | outOfMemory => "OutOfMemory"
  | driver _ => "Driver"
  | invalidHandle => "InvalidHandle"
  | exceedsReservation _ _ => "ExceedsReservation"
  | invalidConfig _ => "InvalidConfig"
  | notInitialized => "NotInitialized"
  | alreadyInitialized => "AlreadyInitialized"
  | busy => "Busy"

/-- The cause as a term: its name, with its data in brackets. -/
def term : Error → String
  | addressSpace cause => "AddressSpace(" ++ cause.term ++ ")"
  | driver cause => "Driver(" ++ cause.term ++ ")"
  | exceedsReservation requested max =>
      "ExceedsReservation \x7b requested: " ++ toString requested ++ ", max: " ++ toString max ++ " \x7d"
  | invalidConfig fault => "InvalidConfig(\"" ++ fault.message ++ "\")"
  | other => other.kind

end Error

end VramOvercommit
