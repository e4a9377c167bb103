import VramOvercommit.Engine.Eviction

set_option autoImplicit false

/-! The life of a buffer: reserving it, backing more of it, destroying it. -/

namespace VramOvercommit.Buffers

open EngineM
open Attempt (lift)

variable {σ : Type} [Host σ]

/-- A size in whole allocation units. One so close to the end of the word range that it cannot be
rounded can never be reserved. -/
def roundToUnit (size : Nat) : Attempt σ Nat := do
  match roundUp? size (← lift engine).config.minAllocSize with
  | some rounded => return rounded
  | none =>
      lift (log (.sizeUnreservable size))
      throw (.addressSpace .outOfMemory)

/-- Reserves a buffer of up to `maxSize` bytes without backing and returns its base. -/
def create (device : Int) (maxSize : Nat) : Attempt σ Nat := do
  let maxSize ← roundToUnit maxSize
  if ← lift (allocates .buffers 1) then
    match ← lift (Memory.reserve maxSize) with
    | .ok base =>
        lift (putBuffer { base, device, maxSize })
        return base
    | .error cause =>
        lift (log (.bufferReservationFailed cause))
        throw (.addressSpace cause)
  else throw .hostOutOfMemory

/-- Physical memory for the next chunk. An exhausted device leads to one round of reclaiming and one
more attempt. -/
def backChunk (vaddr size : Nat) (device : Int) : Attempt σ PhysicalHandle := do
  match ← lift (Memory.commit vaddr size device) with
  | .ok memory => return memory
  | .error (.failed code) =>
      lift (log (.commitFailed (.failed code)))
      throw (.ofDriver (.failed code))
  | .error .outOfMemory =>
      lift do
        log .growReclaims
        let _ ← Eviction.evictGlobal (← engine).config.vramChunkSize
      match ← lift (Memory.commit vaddr size device) with
      | .ok memory => return memory
      | .error cause =>
          lift (log (if cause.isOutOfMemory then .commitExhausted else .retryFailed cause))
          throw (.ofDriver cause)

/-- Adds up to `count` chunks, until `target` bytes are backed. Hands the buffer back together with
the failure that stopped it, if any. -/
def addChunks (target : Nat) : (count : Nat) → Buffer → EngineM σ (Buffer × Except Error Unit)
  | 0, buffer => return (buffer, .ok ())
  | count + 1, buffer => do
      let size := min (target - buffer.allocated) (← engine).config.vramChunkSize
      let vaddr ← word (buffer.base + buffer.allocated)
      match ← (backChunk vaddr size buffer.device).run with
      | .error cause => return (buffer, .error cause)
      | .ok backing =>
          log (.chunkAllocated vaddr size)
          addChunks target count (buffer.addChunk { size, backing })

/-- Backs at least `required` bytes. The shortage that the budget predicts is reclaimed up front.
Chunks added before a failure stay. -/
def grow (base required : Nat) : Attempt σ Unit := do
  let buffer ← Attempt.buffer base
  if buffer.maxSize < required then throw (.exceedsReservation required buffer.maxSize)
  else if required ≤ buffer.allocated then return
  else
    let chunkSize := (← lift engine).config.vramChunkSize
    let target := buffer.growTarget chunkSize required
    let missing := target - buffer.allocated
    let count := blocksFor missing chunkSize
    if ← lift (allocatesBeside .chunks buffer.chunks.size count Buffer.chunkEntrySize) then
      ExceptT.mk do
        let deficit ← Memory.deficit buffer.device missing
        let _ ← Eviction.evictGlobal deficit
        let (buffer, result) ← addChunks target count buffer
        putBuffer buffer
        return result
    else throw .hostOutOfMemory

/-- Gives back the chunks that lie from `vaddr` on. -/
def releaseChunks : List Chunk → (vaddr : Nat) → EngineM σ Unit
  | [], _ => return
  | chunk :: rest, vaddr => do
      let vaddr ← word vaddr
      Memory.release vaddr chunk.size chunk.backing
      releaseChunks rest (vaddr + chunk.size)

/-- Gives back the chunks of a buffer and its address range. -/
def discard (buffer : Buffer) : EngineM σ Unit := do
  releaseChunks buffer.chunks.toList buffer.base
  Memory.freeAddress buffer.base buffer.maxSize

def destroy (base : Nat) : Attempt σ Unit := do
  let buffer ← Attempt.buffer base
  lift do
    modifyEngine fun engine => { engine with buffers := engine.buffers.erase base }
    discard buffer

/-- Reserves and backs `size` bytes; a failure leaves no buffer behind. -/
def allocate (size : Nat) (device : Int) : Attempt σ Nat := do
  lift (log (.allocationStarted size device))
  let size ← roundToUnit size
  let base ← create device size
  match ← lift (grow base size).run with
  | .ok _ =>
      lift (log (.allocationReturned base))
      return base
  | .error cause =>
      lift (log (.allocationFailed cause))
      destroy base
      throw cause

/-- Frees an allocation; null and unknown addresses are ignored. -/
def free (base : Nat) : EngineM σ Unit := do
  if base = 0 then return
  else
    match ← (destroy base).run with
    | .ok _ => log (.allocationFreed base)
    | .error _ => log (.unknownPointer base)

/-- Destroys every buffer, by ascending address. -/
def destroyAll : EngineM σ Unit := do
  let buffers := (← engine).buffers.values
  modifyEngine ({ · with buffers := {} })
  buffers.forM discard

/-- Lists every live buffer, by ascending address. -/
def report : EngineM σ Unit := do
  log .bufferHeader
  let buffers := (← engine).buffers.values
  if buffers.isEmpty then log .bufferNone
  else buffers.forM fun buffer =>
    log (.bufferListed buffer.base buffer.allocated buffer.maxSize)

end VramOvercommit.Buffers
