import VramOvercommit.Audit
import VramOvercommit.Budget
import VramOvercommit.Buffer
import VramOvercommit.NatMap
import VramOvercommit.PriorityList

set_option autoImplicit false

/-!
The state of an overcommit context and the steps its operations are made of. The bookkeeping is a
value of its own, so that it can be kept while no operation runs; an operation works on it together
with the host.
-/

namespace VramOvercommit

/-- The bookkeeping of one device. -/
structure Engine where
  device : Int
  config : Config
  budget : Budget
  vbars : PriorityList Vbar := {}
  /-- Set by every change of a VBAR, cleared by an audit. -/
  dirty : Bool := false
  /-- Live buffers by their base address. -/
  buffers : NatMap Buffer := {}
  deriving DecidableEq

/-- Steps of the host; an abort ends the program. -/
abbrev HostM (σ : Type) := EStateM Abort σ

namespace HostM

variable {σ : Type} [Host σ]

def call (driverCall : DriverCall) : HostM σ (Except DriverError driverCall.Answer) := fun host =>
  match Host.call driverCall host with
  | .ok answer host => .ok answer host
  | .error _ host => .error .overflow host

def log (notice : Notice) : HostM σ Unit := fun host => .ok () (Host.log notice host)

def ask {α : Type} (question : StateM σ α) : HostM σ α := fun host =>
  let (answer, host) := question host
  .ok answer host

end HostM

/-- An engine at work. -/
structure Context (σ : Type) where
  engine : Engine
  host : σ

/-- Steps of an operation. -/
abbrev EngineM (σ : Type) := EStateM Abort (Context σ)

/-- Operations that can fail. A failure keeps whatever was done before it. -/
abbrev Attempt (σ : Type) := ExceptT Error (EngineM σ)

namespace EngineM

variable {σ : Type}

def abort {α : Type} (cause : Abort) : EngineM σ α := fun context => .error cause context

/-- Runs a step that aborts on a broken assumption. -/
def ensure {α : Type} : Except Abort α → EngineM σ α
  | .ok value => pure value
  | .error cause => abort cause

/-- A sum or product that has to be a word. -/
def word (value : Nat) : EngineM σ Nat :=
  if value < wordLimit then pure value else abort .overflow

def engine : EngineM σ Engine := fun context => .ok context.engine context

def modifyEngine (change : Engine → Engine) : EngineM σ Unit := fun context =>
  .ok () { context with engine := change context.engine }

def setVbars (vbars : PriorityList Vbar) : EngineM σ Unit :=
  modifyEngine ({ · with vbars })

def setBudget (budget : Budget) : EngineM σ Unit :=
  modifyEngine ({ · with budget })

def markDirty : EngineM σ Unit := modifyEngine ({ · with dirty := true })

def pageSize : EngineM σ Nat := return (← engine).config.vbarPageSize

/-- The VBAR behind a handle, if it is live. -/
def vbar? (handle : Handle) : EngineM σ (Option Vbar) :=
  return (← engine).vbars.get? handle

def putVbar (handle : Handle) (vbar : Vbar) : EngineM σ Unit :=
  modifyEngine fun engine => { engine with vbars := engine.vbars.set handle vbar }

def putBuffer (buffer : Buffer) : EngineM σ Unit :=
  modifyEngine fun engine => { engine with buffers := engine.buffers.insert buffer.base buffer }

/-- Aborts unless every VBAR is consistent. -/
def checkVbars : EngineM σ Unit := do
  (← engine).vbars.values.forM fun vbar => ensure vbar.check

/-- A step of the host alone. -/
def onHost {α : Type} (step : HostM σ α) : EngineM σ α := fun context =>
  match step context.host with
  | .ok value host => .ok value { context with host }
  | .error cause host => .error cause { context with host }

variable [Host σ]

def call (driverCall : DriverCall) : EngineM σ (Except DriverError driverCall.Answer) :=
  onHost (HostM.call driverCall)

def log (notice : Notice) : EngineM σ Unit := onHost (HostM.log notice)

/-- Whether the host has memory for more entries of a table. -/
def allocates (table : HostTable) (count : Nat) : EngineM σ Bool :=
  onHost (HostM.ask (Host.room table count))

/-- Whether it has memory for more entries beside those that a table holds. -/
def allocatesBeside (table : HostTable) (held count bytesEach : Nat) : EngineM σ Bool :=
  onHost (HostM.ask (Host.roomBeside table held count bytesEach))

end EngineM

namespace Attempt

variable {σ : Type}

/-- A step that cannot fail, as part of an operation that can. -/
def lift {α : Type} (step : EngineM σ α) : Attempt σ α := ExceptT.lift step

/-- The VBAR behind a handle; a stale handle is an error. -/
def vbar (handle : Handle) : Attempt σ Vbar := do
  match ← lift (EngineM.vbar? handle) with
  | some vbar => return vbar
  | none => throw .invalidHandle

/-- The buffer at an address; an unknown address is an error. -/
def buffer (base : Nat) : Attempt σ Buffer := do
  match (← lift EngineM.engine).buffers.get? base with
  | some buffer => return buffer
  | none => throw .invalidHandle

end Attempt

end VramOvercommit
