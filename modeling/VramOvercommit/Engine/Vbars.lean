import VramOvercommit.Engine.Eviction

set_option autoImplicit false

/-! The life of a VBAR: reserving it, ordering it, backing and pinning its pages, freeing it. -/

namespace VramOvercommit.Vbars

open EngineM
open Attempt (lift)

variable {σ : Type} [Host σ]

/-- The addresses of a VBAR of so many pages and `size` bytes, if the page map fits the host and the
driver grants the range. -/
def reservePages (nrPages size : Nat) : Attempt σ Nat := do
  if ← lift (allocatesBeside .pageMap 0 nrPages Vbar.pageEntrySize) then
    match ← lift (Memory.reserve size) with
    | .ok base => return base
    | .error cause =>
        lift (log (.vbarReservationFailed cause))
        throw (.addressSpace cause)
  else
    lift (log .pageMapRefused)
    throw .hostOutOfMemory

/-- Whether the host has memory for the slot of one more VBAR. A slot for reuse needs none; a new one
has to find room among the slots for reuse as well, so that it can be freed. -/
def allocatesSlot : EngineM σ Bool := do
  let vbars := (← engine).vbars
  if vbars.freeSlots.isEmpty then
    if ← allocates .slots 1 then allocates .freeSlots (vbars.slots.size + 1)
    else return false
  else return true

/-- Adds a VBAR of `size` reserved bytes with the highest priority. The addresses are given back if
the host has no memory for it. -/
def insert (vbar : Vbar) (size : Nat) : Attempt σ Handle := do
  if ← lift allocatesSlot then
    lift do
      let (vbars, handle) ← ensure ((← engine).vbars.pushHighest vbar)
      setVbars vbars
      return handle
  else
    lift do
      log .vbarSlotRefused
      Memory.freeAddress vbar.base size
    throw .hostOutOfMemory

/-- Reserves a VBAR of the highest priority. It never gets more pages than the device can back. -/
def allocate (size : Nat) (device : Int) : Attempt σ Handle := do
  lift (log (.vbarRequested size device))
  let engine ← lift engine
  let pageSize := engine.config.vbarPageSize
  let nrPages := min (blocksFor size pageSize) (blocksFor engine.budget.capacity pageSize)
  let reserved ← lift (word (nrPages * pageSize))
  let base ← reservePages nrPages reserved
  let handle ← insert (.fresh base device nrPages) reserved
  lift do
    markDirty
    checkVbars
    log (.vbarAllocated base)
  return handle

/-- Gives a VBAR the highest priority and lets it use all of its pages again. -/
def prioritize (handle : Handle) : Attempt σ Unit := do
  lift (log (.vbarPrioritized handle))
  let vbar ← Attempt.vbar handle
  lift do
    let (vbars, _) ← ensure ((← engine).vbars.moveToHighest handle)
    setVbars vbars
    putVbar handle { vbar with watermark := vbar.nrPages }
    markDirty
    checkVbars

/-- Gives a VBAR the lowest priority; its watermark stays. -/
def deprioritize (handle : Handle) : Attempt σ Unit := do
  lift (log (.vbarDeprioritized handle))
  let _ ← Attempt.vbar handle
  lift do
    let (vbars, _) ← ensure ((← engine).vbars.moveToLowest handle)
    setVbars vbars
    markDirty

/-- Protects the first `size` bytes of a VBAR from being reclaimed. They stay usable as well, so the
watermark is raised to the limit if it is below. -/
def setWatermarkLimit (handle : Handle) (size : Nat) : Attempt σ Unit := do
  let vbar ← Attempt.vbar handle
  lift do
    let limit := min (blocksFor size (← pageSize)) vbar.nrPages
    putVbar handle { vbar with watermarkLimit := limit, watermark := max vbar.watermark limit }
    log (.limitSet vbar.base limit)
    markDirty
    checkVbars

/-- Takes the protection away from one VBAR. -/
def clearLimit (handle : Handle) : EngineM σ Unit := do
  match ← vbar? handle with
  | some vbar => putVbar handle { vbar with watermarkLimit := 0 }
  | none => pure ()

/-- Takes the protection away from all VBARs. -/
def resetWatermarkLimits : EngineM σ Unit := do
  log .limitsReset
  (← engine).vbars.handles.forM clearLimit
  markDirty

/-- Physical memory for the page `index`. An exhausted device leads to one round of reclaiming and
one more attempt, unless reclaiming cut the page off. -/
def backPage (handle : Handle) (vaddr index stop : Nat) (device : Int) :
    Attempt σ PhysicalHandle := do
  let pageSize ← lift pageSize
  match ← lift (Memory.commit vaddr pageSize device) with
  | .ok memory => return memory
  | .error (.failed code) =>
      lift (log (.commitFailed (.failed code)))
      throw (.driver (.failed code))
  | .error .outOfMemory =>
      lift do
        log .faultReclaims
        Eviction.evictForVbar handle stop
      if (← Attempt.vbar handle).watermark ≤ index then
        lift (log .faultCancelled)
        throw .outOfMemory
      else
        match ← lift (Memory.commit vaddr pageSize device) with
        | .ok memory => return memory
        | .error (.failed code) =>
            lift (log (.retryFailed (.failed code)))
            throw (.driver (.failed code))
        | .error .outOfMemory =>
            lift (log .commitExhausted)
            throw .outOfMemory

/-- Makes one page resident and returns its serial, which advances if the backing is new. The page
may be out of reach although it was not at the start, as reclaiming can shrink this VBAR too. -/
def faultPage (handle : Handle) (index stop : Nat) : Attempt σ UInt32 := do
  let vbar ← Attempt.vbar handle
  if vbar.watermark ≤ index then throw .outOfMemory
  else
    let page ← lift (ensure (vbar.pageAt index))
    if page.isResident then return page.serial
    else
      let pageSize ← lift pageSize
      let vaddr ← lift (ensure (vbar.pageAddress pageSize index))
      let memory ← backPage handle vaddr index stop vbar.device
      let vbar ← Attempt.vbar handle
      lift do
        let page ← ensure (vbar.pageAt index)
        let serial := page.serial + 1
        let vbar := vbar.putPage index { page with backing := some memory, serial }
        putVbar handle { vbar with residentCount := vbar.residentCount + 1 }
        return serial

/-- Makes `count` pages from `index` on resident and returns their serials. -/
def faultPages (handle : Handle) (stop : Nat) : (count : Nat) → (index : Nat) →
    Attempt σ (List UInt32)
  | 0, _ => return []
  | count + 1, index => do
      let serial ← faultPage handle index stop
      let rest ← faultPages handle stop count (index + 1)
      return serial :: rest

/-- Pins `count` pages from `index` on. -/
def pinPages (vbar : Vbar) : (count : Nat) → (index : Nat) → Except Abort Vbar
  | 0, _ => .ok vbar
  | count + 1, index => do
      let page ← vbar.pageAt index
      pinPages (vbar.putPage index { page with pinned := true }) count (index + 1)

/-- Backs the pages and, once all of them are resident, pins them. Pages that were backed before a
failure stay resident, but are not pinned. -/
def faultAndPin (handle : Handle) (start stop : Nat) : Attempt σ (List UInt32) := do
  let serials ← faultPages handle stop (stop - start) start
  let vbar ← Attempt.vbar handle
  lift (do putVbar handle (← ensure (pinPages vbar (stop - start) start)))
  return serials

/-- Makes `[offset, offset + size)` resident and pins it; returns the serial of every page in the
range. A range that reaches beyond the watermark, or has more pages than the host can hold serials
of, is refused without any effect. -/
def fault (handle : Handle) (offset size : Nat) : Attempt σ (List UInt32) := do
  lift (log (.faultStarted offset size))
  let vbar ← Attempt.vbar handle
  let pageSize ← lift pageSize
  let start := offset / pageSize
  let stop := match rangeEnd? offset size with
    | some stop => blocksFor stop pageSize
    | none => wordLimit - 1
  if vbar.watermark < stop then
    lift (log .faultAboveWatermark)
    throw .outOfMemory
  else if ← lift (allocates .serials (stop - start)) then
    let result ← lift do
      markDirty
      let result ← (faultAndPin handle start stop).run
      checkVbars
      log (.faultReturned (match result with | .ok _ => none | .error cause => some cause))
      return result
    match result with
    | .ok serials => return serials
    | .error cause => throw cause
  else throw .hostOutOfMemory

/-- Unpins `count` pages from `index` on; those the watermark passed meanwhile are freed. -/
def unpinPages : (count : Nat) → (index : Nat) → Vbar → EngineM σ Vbar
  | 0, _, vbar => return vbar
  | count + 1, index, vbar => do
      let (vbar, _) ← Eviction.evictPage vbar index ⟨vbar.watermark ≤ index, true⟩
      unpinPages count (index + 1) vbar

/-- Unpins `[offset, offset + size)`, as far as the VBAR reaches. -/
def unpin (handle : Handle) (offset size : Nat) : Attempt σ Unit := do
  let vbar ← Attempt.vbar handle
  lift do
    let pageSize ← pageSize
    let stop := match rangeEnd? offset size with
      | some stop => min (blocksFor stop pageSize) vbar.nrPages
      | none => vbar.nrPages
    let start := min (offset / pageSize) stop
    if vbar.watermark < stop then Memory.synchronize
    let vbar ← unpinPages (stop - start) start vbar
    putVbar handle vbar
    markDirty
    checkVbars

/-- Takes the backing of `count` pages from `index` on away, pinned or not. -/
def releasePages : (count : Nat) → (index : Nat) → Vbar → EngineM σ Vbar
  | 0, _, vbar => return vbar
  | count + 1, index, vbar => do
      let (vbar, _) ← Eviction.evictPage vbar index ⟨true, true⟩
      releasePages count (index + 1) vbar

/-- Frees a VBAR with all of its pages and its address range. -/
def free (handle : Handle) : Attempt σ Unit := do
  lift (log (.vbarFreed handle))
  let vbar ← Attempt.vbar handle
  lift do
    Memory.synchronize
    let (vbars, _) ← ensure ((← engine).vbars.remove handle)
    setVbars vbars
    let vbar ← releasePages vbar.nrPages 0 vbar
    Memory.freeAddress vbar.base (← word (vbar.nrPages * (← pageSize)))
    markDirty
    checkVbars

/-- Frees the VBARs behind the handles; one that is gone already is left out. -/
def freeEach : List Handle → EngineM σ Unit
  | [] => return
  | handle :: rest => do
      let _ ← (free handle).run
      freeEach rest

/-- Frees every VBAR, from the highest priority to the lowest. -/
def freeAll : EngineM σ Unit := do freeEach (← engine).vbars.handles

/-- Audits all page maps and reports every inconsistency; nothing is corrected. There is no report
if nothing changed since the last one. -/
def audit : EngineM σ (Option AuditReport) := do
  let engine ← engine
  if engine.dirty then
    modifyEngine ({ · with dirty := false })
    log .auditHeader
    let pageSize := engine.config.vbarPageSize
    let audits := engine.vbars.toList.map fun (handle, vbar) => VbarAudit.of handle vbar
    (audits.flatMap (VbarAudit.notices · pageSize)).forM log
    let residentBytes := (audits.map (VbarAudit.countedResident · * pageSize)).foldr (· + ·) 0
    log (.auditTotal residentBytes)
    return some ⟨audits, residentBytes⟩
  else return none

end VramOvercommit.Vbars
