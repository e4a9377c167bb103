import VramOvercommit.Engine.Basic

set_option autoImplicit false

/-!
Physical memory, shared by VBARs and buffers. Every commit and release goes through here, so the
budget always knows how much is committed.
-/

namespace VramOvercommit.Memory

open EngineM

variable {σ : Type} [Host σ]

def reserve (size : Nat) : EngineM σ (Except DriverError Nat) := call (.reserve size)

def freeAddress (vaddr size : Nat) : EngineM σ Unit := do
  match ← call (.freeAddress vaddr size) with
  | .ok _ => pure ()
  | .error cause => log (.freeAddressFailed vaddr size cause)

/-- Gives physical memory back; a refusal is only reported, as nobody could do better. -/
def giveBack (memory : PhysicalHandle) : EngineM σ Unit := do
  match ← call (.release memory) with
  | .ok _ => pure ()
  | .error cause => log (.releaseFailed cause)

def recordCommit (size : Nat) : EngineM σ Unit := do
  setBudget (← ensure ((← engine).budget.recordCommit size))

def recordRelease (size : Nat) : EngineM σ Unit := do
  setBudget (← ensure ((← engine).budget.recordRelease size))

/-- Takes physical memory, maps it at `vaddr` and makes it accessible to `device`. Whatever was
taken or mapped is undone as soon as one of these fails. -/
def commit (vaddr size : Nat) (device : Int) : EngineM σ (Except DriverError PhysicalHandle) := do
  match ← call (.create size device) with
  | .error cause => return .error cause
  | .ok memory =>
    match ← call (.map vaddr size memory) with
    | .error cause =>
        giveBack memory
        return .error cause
    | .ok _ =>
      match ← call (.setAccess vaddr size device) with
      | .error cause =>
          match ← call (.unmap vaddr size) with
          | .ok _ => pure ()
          | .error unmapCause => log (.rollbackUnmapFailed vaddr unmapCause)
          giveBack memory
          return .error cause
      | .ok _ =>
          recordCommit size
          log (.committed size vaddr)
          return .ok memory

/-- Undoes a commit. The account is settled even if the driver refuses. -/
def release (vaddr size : Nat) (memory : PhysicalHandle) : EngineM σ Unit := do
  match ← call (.unmap vaddr size) with
  | .ok _ => pure ()
  | .error cause => log (.unmapFailed vaddr size cause)
  giveBack memory
  recordRelease size
  log (.released size vaddr)

/-- Waits until the device uses no memory any more that might get unmapped. -/
def synchronize : EngineM σ Unit := do
  match ← call .synchronize with
  | .ok _ => pure ()
  | .error cause => log (.synchronizeFailed cause)

/-- Device memory as the driver sees it, if it answers. -/
def info : EngineM σ (Option MemoryInfo) := do
  match ← call .memoryInfo with
  | .ok info => return some info
  | .error cause =>
      log (.memoryQueryFailed cause)
      return none

/-- Takes a new reading of the platform if one is due. -/
def poll : EngineM σ Unit := do
  let now ← onHost (HostM.ask Host.clock)
  let budget := (← engine).budget
  if budget.pollDue now then
    let answer ← onHost (HostM.ask Host.platformBudget)
    setBudget (budget.recordPoll now answer)

/-- The bytes to reclaim before `extra` more are committed. -/
def deficit (device : Int) (extra : Nat) : EngineM σ Nat := do
  let free := (← info).map MemoryInfo.free
  poll
  let shortfall := (← engine).budget.shortfall extra free
  if 0 < shortfall.bytes then
    log (.deficitFound device shortfall.bytes shortfall.source)
  return saturate shortfall.bytes

end VramOvercommit.Memory
