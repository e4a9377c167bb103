import VramOvercommit.Abi.Access

set_option autoImplicit false

/-!
The binary interface: what another program can ask of the context of the process. Failures never
cross it as such; they are reported and answered with a null pointer, `false`, zero or a code.
-/

namespace VramOvercommit.Abi

/-- The levels another program can set. -/
inductive LogSetting where
  | none
  | critical
  | error
  | warning
  | info
  | debug
  | verbose
  deriving DecidableEq, Repr

/-- There is no level above error, so critical notices count as errors. -/
def LogSetting.limit : LogSetting → Option Level
  | none => Option.none
  | critical | error => some .error
  | warning => some .warn
  | info => some .info
  | debug => some .debug
  | verbose => some .trace

/-- A call from another program. VBARs and buffers are words that may be anything; zero is null. -/
inductive Request where
  | init (device : Int)
  | cleanup
  /-- Takes the context out and closes it. -/
  | uninstall
  | analyze
  | totalUsage
  | setLogLevel (setting : LogSetting)
  | allocate (size : Nat) (device : Int)
  | free (ptr : Nat)
  | createBuffer (device : Int) (maxSize : Nat)
  | growBuffer (ptr size : Nat)
  | bufferBase (ptr : Nat)
  | destroyBuffer (ptr : Nat)
  | allocateVbar (size : Nat) (device : Int)
  | vbarBase (vbar : Nat)
  | prioritize (vbar : Nat)
  | deprioritize (vbar : Nat)
  | setWatermarkLimit (vbar size : Nat)
  | resetWatermarkLimits
  /-- Backs and pins a range; serials go to a signature buffer, if there is one. -/
  | fault (vbar offset size : Nat) (hasSignature : Bool)
  | unpin (vbar offset size : Nat)
  | freeVbar (vbar : Nat)
  | loadedSize (vbar : Nat)
  | freeVbarMemory (vbar size : Nat)
  | evictGlobal (size : Nat)
  deriving DecidableEq, Repr

/-- How a fault ended. -/
inductive FaultCode where
  | success
  /-- The range is above the watermark, or no memory could be reclaimed. -/
  | outOfMemory
  | error
  deriving DecidableEq, Repr

def FaultCode.toNat : FaultCode → Nat
  | success => 0
  | outOfMemory => 1
  | error => 2

/-- The device and the usage of a context that was taken out. -/
structure Removed where
  device : Int
  usage : Nat
  deriving DecidableEq, Repr

inductive Reply where
  | done
  | flag (value : Bool)
  /-- A size, an address or a packed handle. -/
  | word (value : Nat)
  /-- The code of a fault and the words written to the signature buffer, from its start on. -/
  | fault (code : FaultCode) (written : List UInt32)
  /-- The context that was taken out, if there was one. -/
  | removed (context : Option Removed)
  | refused (cause : Error)
  deriving DecidableEq, Repr

variable {σ : Type} [AccessHost σ]

/-- Runs an operation for an entry point and reports a failure. -/
def call {α : Type} (entry : String) (operation : Attempt σ α) : HostM σ (Option α) := do
  match ← Access.use operation with
  | .ok value => return some value
  | .error cause =>
      HostM.log (.callFailed entry cause)
      return none

def callDone (entry : String) (operation : Attempt σ Unit) : HostM σ Reply := do
  let _ ← call entry operation
  return .done

/-- A failed call answers zero. -/
def callWord (entry : String) (operation : Attempt σ Nat) : HostM σ Reply :=
  return .word ((← call entry operation).getD 0)

/-- A packed handle, unless it is null. -/
def handle (raw : Nat) : Attempt σ Handle := do
  match Handle.ofRaw? raw with
  | some handle => return handle
  | none => throw .invalidHandle

/-- Closes a context that was taken out. -/
def close (engine : Engine) : HostM σ Unit := do
  let _ ← engine.run Engine.close

def cleanup : HostM σ Reply := do
  match ← Access.uninstall with
  | .ok (some engine) =>
      HostM.log (.cleanupStarted engine.device)
      close engine
  | .ok none => HostM.log .cleanupIdle
  | .error cause => HostM.log (.cleanupFailed cause)
  return .done

def uninstall : HostM σ Reply := do
  match ← Access.uninstall with
  | .ok (some engine) =>
      close engine
      return .removed (some ⟨engine.device, engine.totalUsage⟩)
  | .ok none => return .removed none
  | .error cause => return .refused cause

/-- Only a fault that did not merely run out of memory is reported. -/
def fault (vbar offset size : Nat) (hasSignature : Bool) : HostM σ Reply := do
  if hasSignature then
    match ← Access.use (do Vbars.fault (← handle vbar) offset size) with
    | .ok serials => return .fault .success serials
    | .error .outOfMemory => return .fault .outOfMemory []
    | .error cause =>
        HostM.log (.faultFailed cause)
        return .fault .error []
  else
    HostM.log .noSignature
    return .fault .error []

def evictGlobal (size : Nat) : HostM σ Reply := do
  let freed := (← call "vbars_free" (Attempt.lift (Eviction.evictGlobal size))).getD 0
  HostM.log (.vbarsFreed freed size)
  return .word freed

/-- Runs a call that a null pointer turns into nothing. -/
def unlessNull (ptr : Nat) (nothing : Reply) (run : HostM σ Reply) : HostM σ Reply :=
  if ptr = 0 then return nothing else run

namespace Request

open Attempt (lift)

/-- Answers a call. -/
def run : Request → HostM σ Reply
  | init device => do
      HostM.log (.deviceUnavailable device)
      return .flag false
  | cleanup => Abi.cleanup
  | uninstall => Abi.uninstall
  | analyze => callDone "aimdo_analyze" (lift (do let _ ← Engine.analyze))
  | totalUsage =>
      callWord "get_total_vram_usage" (lift (return (← EngineM.engine).totalUsage))
  | setLogLevel setting => fun host => .ok .done (Host.limitLog setting.limit host)
  | allocate size device => callWord "alloc_fn" (Buffers.allocate size device)
  | free ptr => unlessNull ptr .done (callDone "free_fn" (lift (Buffers.free ptr)))
  | createBuffer device maxSize => callWord "vrambuf_create" (Buffers.create device maxSize)
  | growBuffer ptr size => unlessNull ptr (.flag false) do
      return .flag (← call "vrambuf_grow" (Buffers.grow ptr size)).isSome
  | bufferBase ptr => unlessNull ptr (.word 0)
      (callWord "vrambuf_get" (return (← Attempt.buffer ptr).base))
  | destroyBuffer ptr => unlessNull ptr .done (callDone "vrambuf_destroy" (Buffers.destroy ptr))
  | allocateVbar size device =>
      callWord "vbar_allocate" (return (← Vbars.allocate size device).toRaw)
  | vbarBase vbar => callWord "vbar_get" (return (← Attempt.vbar (← handle vbar)).base)
  | prioritize vbar => callDone "vbar_prioritize" (do Vbars.prioritize (← handle vbar))
  | deprioritize vbar => callDone "vbar_deprioritize" (do Vbars.deprioritize (← handle vbar))
  | setWatermarkLimit vbar size =>
      callDone "vbar_set_watermark_limit" (do Vbars.setWatermarkLimit (← handle vbar) size)
  | resetWatermarkLimits =>
      callDone "vbars_reset_watermark_limits" (lift Vbars.resetWatermarkLimits)
  | fault vbar offset size hasSignature => Abi.fault vbar offset size hasSignature
  | unpin vbar offset size => callDone "vbar_unpin" (do Vbars.unpin (← handle vbar) offset size)
  | freeVbar vbar => callDone "vbar_free" (do Vbars.free (← handle vbar))
  | loadedSize vbar => callWord "vbar_loaded_size" do
      let vbar ← Attempt.vbar (← handle vbar)
      return vbar.residentCount * (← lift EngineM.pageSize)
  | freeVbarMemory vbar size =>
      callWord "vbar_free_memory" (do Eviction.shrinkVbar (← handle vbar) size)
  | evictGlobal size => Abi.evictGlobal size

end Request

end VramOvercommit.Abi
