import VramOvercommit.Engine.Buffers
import VramOvercommit.Engine.Vbars

set_option autoImplicit false

/-! Opening and closing a context, and its summary of memory usage. -/

namespace VramOvercommit

/-- Memory usage by the account of the engine and by the driver. -/
structure MemoryStats where
  recordedUsage : Nat
  capacity : Nat
  /-- What the driver answered, if it did. -/
  driver : Option MemoryInfo
  deriving DecidableEq, Repr

namespace Engine

variable {σ : Type}

/-- The engine of a device of `capacity` bytes. -/
def fresh (device : Int) (config : Config) (capacity : Nat) : Engine where
  device
  config
  budget :=
    { capacity
      headroom := config.vramHeadroom
      platformHeadroom := config.platformHeadroom
      pollInterval := config.budgetPollInterval }

/-- Runs an operation of the engine on a host. -/
def run {α : Type} (engine : Engine) (step : EngineM σ α) : HostM σ (α × Engine) := fun host =>
  match step ⟨engine, host⟩ with
  | .ok value context => .ok (value, context.engine) context.host
  | .error cause context => .error cause context.host

variable [Host σ]

/-- An engine for `device`, whose memory the driver has to know. -/
def create (device : Int) (config : Config) : HostM σ (Except Error Engine) := do
  match config.validate with
  | .error fault => return .error (.invalidConfig fault)
  | .ok () =>
      match ← HostM.call (.totalMemory device) with
      | .error cause =>
          HostM.log (.totalMemoryFailed device cause)
          return .error (.driver cause)
      | .ok capacity =>
          let name ← HostM.ask (Host.deviceName device)
          HostM.log (.contextOpened (name.getD "<unknown>") capacity)
          return .ok (fresh device config capacity)

/-- Frees every VBAR and every buffer. -/
def close : EngineM σ Unit := do
  Vbars.freeAll
  Buffers.destroyAll
  EngineM.log (.contextClosed (← EngineM.engine).device)

def stats : EngineM σ MemoryStats := do
  let driver ← Memory.info
  let budget := (← EngineM.engine).budget
  return ⟨budget.residentUsage, budget.capacity, driver⟩

/-- Reports the memory usage, audits the VBARs and lists the buffers. -/
def analyze : EngineM σ (Option AuditReport) := do
  let stats ← stats
  EngineM.log .statsHeader
  EngineM.log (.statsUsage stats.recordedUsage)
  match stats.driver with
  | some info => EngineM.log (.statsDriver info.free info.total)
  | none => pure ()
  let report ← Vbars.audit
  Buffers.report
  return report

end Engine

end VramOvercommit
