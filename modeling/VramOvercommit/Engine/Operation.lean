import VramOvercommit.Engine.Lifecycle
import VramOvercommit.Engine.Query

set_option autoImplicit false

/-! The operations of a context as values, so that a run is a list of them. -/

namespace VramOvercommit

inductive Operation where
  /-- Reserves a VBAR of the highest priority. -/
  | allocateVbar (size : Nat) (device : Int)
  /-- Makes a range resident and pins it. -/
  | fault (vbar : Handle) (offset size : Nat)
  | unpin (vbar : Handle) (offset size : Nat)
  | freeVbar (vbar : Handle)
  | prioritize (vbar : Handle)
  | deprioritize (vbar : Handle)
  /-- Protects the first bytes of a VBAR from being reclaimed. -/
  | setWatermarkLimit (vbar : Handle) (size : Nat)
  | resetWatermarkLimits
  /-- Shrinks one VBAR from its tail. -/
  | freeVbarMemory (vbar : Handle) (size : Nat)
  /-- Reclaims memory from the VBARs of the lowest priority. -/
  | evictGlobal (size : Nat)
  /-- Reclaims memory until a VBAR could hold all pages below `target`. -/
  | evictForVbar (vbar : Handle) (target : Nat)
  /-- Reserves and backs a buffer of fixed size. -/
  | allocate (size : Nat) (device : Int)
  | free (ptr : Nat)
  /-- Reserves a buffer that can grow. -/
  | createBuffer (device : Int) (maxSize : Nat)
  | growBuffer (ptr size : Nat)
  | destroyBuffer (ptr : Nat)
  /-- The shortage that committing more would lead to. -/
  | deficit (extra : Nat)
  | stats
  | analyze
  deriving DecidableEq, Repr

/-- What an operation hands out. -/
inductive Outcome where
  | done
  | vbar (handle : Handle)
  | address (ptr : Nat)
  | bytes (count : Nat)
  | serials (serials : List UInt32)
  | stats (stats : MemoryStats)
  | report (report : Option AuditReport)
  deriving DecidableEq, Repr

namespace Operation

variable {σ : Type} [Host σ]

open Attempt (lift)

def attempt : Operation → Attempt σ Outcome
  | allocateVbar size device => return .vbar (← Vbars.allocate size device)
  | fault vbar offset size => return .serials (← Vbars.fault vbar offset size)
  | unpin vbar offset size => do Vbars.unpin vbar offset size; return .done
  | freeVbar vbar => do Vbars.free vbar; return .done
  | prioritize vbar => do Vbars.prioritize vbar; return .done
  | deprioritize vbar => do Vbars.deprioritize vbar; return .done
  | setWatermarkLimit vbar size => do Vbars.setWatermarkLimit vbar size; return .done
  | resetWatermarkLimits => do lift Vbars.resetWatermarkLimits; return .done
  | freeVbarMemory vbar size => return .bytes (← Eviction.shrinkVbar vbar size)
  | evictGlobal size => return .bytes (← lift (Eviction.evictGlobal size))
  | evictForVbar vbar target => do lift (Eviction.evictForVbar vbar target); return .done
  | allocate size device => return .address (← Buffers.allocate size device)
  | free ptr => do lift (Buffers.free ptr); return .done
  | createBuffer device maxSize => return .address (← Buffers.create device maxSize)
  | growBuffer ptr size => do Buffers.grow ptr size; return .done
  | destroyBuffer ptr => do Buffers.destroy ptr; return .done
  | deficit extra => lift do
      return .bytes (← Memory.deficit (← EngineM.engine).device extra)
  | stats => return .stats (← lift Engine.stats)
  | analyze => return .report (← lift Engine.analyze)

/-- Runs an operation; an error is a result like any other. -/
def run (operation : Operation) : EngineM σ (Except Error Outcome) := operation.attempt.run

/-- Runs operations one after the other, whether they succeed or not. -/
def runAll : List Operation → EngineM σ (List (Except Error Outcome))
  | [] => return []
  | operation :: rest => do
      let outcome ← operation.run
      let outcomes ← runAll rest
      return outcome :: outcomes

end Operation

end VramOvercommit
