import VramOvercommit.Error
import VramOvercommit.Handle
import VramOvercommit.Word

set_option autoImplicit false

/-! What a context reports while it works: each notice with its level and its wording. -/

namespace VramOvercommit

/-- How urgent a notice is. -/
inductive Level where
  | error
  | warn
  | info
  | debug
  | trace
  deriving DecidableEq, Repr

namespace Level

def rank : Level → Nat
  | error => 1
  | warn => 2
  | info => 3
  | debug => 4
  | trace => 5

def name : Level → String
  | error => "ERROR"
  | warn => "WARN"
  | info => "INFO"
  | debug => "DEBUG"
  | trace => "TRACE"

/-- A notice passes a limit that is not more urgent than it; no limit at all lets nothing pass. -/
def passes (level : Level) : Option Level → Bool
  | none => false
  | some limit => level.rank ≤ limit.rank

end Level

/-- Which estimate of a shortage was the worst. -/
inductive DeficitSource where
  | accounting
  | driverMemory
  | platformBudget
  deriving DecidableEq, Repr

def DeficitSource.name : DeficitSource → String
  | accounting => "internal accounting"
  | driverMemory => "driver free memory"
  | platformBudget => "platform budget"

inductive Notice where
  -- the context
  | totalMemoryFailed (device : Int) (cause : DriverError)
  | contextOpened (deviceName : String) (capacity : Nat)
  | contextClosed (device : Int)
  | statsHeader
  | statsUsage (usage : Nat)
  | statsDriver (free total : Nat)
  -- physical memory
  | memoryQueryFailed (cause : DriverError)
  | deficitFound (device : Int) (bytes : Int) (source : DeficitSource)
  | committed (size vaddr : Nat)
  | released (size vaddr : Nat)
  | rollbackUnmapFailed (vaddr : Nat) (cause : DriverError)
  | unmapFailed (vaddr size : Nat) (cause : DriverError)
  | releaseFailed (cause : DriverError)
  | synchronizeFailed (cause : DriverError)
  | freeAddressFailed (vaddr size : Nat) (cause : DriverError)
  | reserved (size vaddr : Nat)
  | commitExhausted
  | retryFailed (cause : DriverError)
  | commitFailed (cause : DriverError)
  -- VBARs
  | vbarRequested (size : Nat) (device : Int)
  | pageMapRefused
  | vbarReservationFailed (cause : DriverError)
  | vbarSlotRefused
  | vbarAllocated (base : Nat)
  | vbarPrioritized (vbar : Handle)
  | vbarDeprioritized (vbar : Handle)
  | limitSet (base limit : Nat)
  | limitsReset
  | faultStarted (offset size : Nat)
  | faultAboveWatermark
  | faultReclaims
  | faultCancelled
  | faultReturned (failure? : Option Error)
  | vbarFreed (vbar : Handle)
  | shrinkStarted (size : Nat)
  | shrinkReturned (freed : Nat)
  | evictionStarted (size : Nat)
  | evictionReturned (freed : Nat)
  | auditHeader
  | auditedVbar (base resident watermark nrPages limit pinned : Nat)
  | residentMismatch (base cached counted : Nat)
  | residentAboveWatermark (base count watermark : Nat)
  | watermarkOutside (base watermark limit nrPages : Nat)
  | auditTotal (resident : Nat)
  -- buffers
  | allocationStarted (size : Nat) (device : Int)
  | allocationFailed (cause : Error)
  | allocationReturned (ptr : Nat)
  | allocationFreed (ptr : Nat)
  | unknownPointer (ptr : Nat)
  | sizeUnreservable (size : Nat)
  | bufferReservationFailed (cause : DriverError)
  | growReclaims
  | chunkAllocated (vaddr size : Nat)
  | bufferHeader
  | bufferListed (base allocated maxSize : Nat)
  | bufferNone
  -- the binary interface
  | callFailed (entry : String) (cause : Error)
  | noSignature
  | faultFailed (cause : Error)
  | deviceUnavailable (device : Int)
  | cleanupStarted (device : Int)
  | cleanupIdle
  | cleanupFailed (cause : Error)
  | vbarsFreed (freed size : Nat)
  deriving DecidableEq, Repr

namespace Notice

def level : Notice → Level
  | totalMemoryFailed .. | memoryQueryFailed .. | rollbackUnmapFailed .. | unmapFailed ..
  | releaseFailed .. | synchronizeFailed .. | freeAddressFailed .. | retryFailed ..
  | commitFailed .. | pageMapRefused | vbarReservationFailed .. | vbarSlotRefused
  | sizeUnreservable .. | bufferReservationFailed .. | noSignature | faultFailed ..
  | deviceUnavailable .. | cleanupFailed .. => .error
  | residentMismatch .. | residentAboveWatermark .. | watermarkOutside .. | unknownPointer ..
  | cleanupIdle => .warn
  | contextOpened .. | commitExhausted | cleanupStarted .. => .info
  | committed .. | released .. | reserved .. | chunkAllocated .. => .trace
  | callFailed _ .outOfMemory => .debug
  | callFailed _ _ => .error
  | _ => .debug

/-- An address: lower case hexadecimal digits after `0x`. -/
def address (n : Nat) : String := "0x" ++ String.ofList (Nat.toDigits 16 n)

/-- A number flush right in a column of the given width. -/
def column (width n : Nat) : String := String.ofList ((toString n).toList.leftpad width ' ')

def inMib (bytes : Nat) : String := toString (bytes / mib)

def inKib (bytes : Nat) : String := toString (bytes / kib)

def text : Notice → String
  | totalMemoryFailed device cause =>
      s!"Could not query the memory of device {device}: " ++ cause.message
  | contextOpened deviceName capacity =>
      "aimdo inited for GPU: " ++ deviceName ++ " (VRAM: " ++ inMib capacity ++ " MB)"
  | contextClosed device => s!"aimdo context of device {device} dropped"
  | statsHeader => "--- VRAM Stats ---"
  | statsUsage usage => "  Aimdo Recorded Usage: " ++ column 7 (usage / mib) ++ " MB"
  | statsDriver free total =>
      "  Driver: " ++ column 7 (free / mib) ++ " MB / " ++ column 7 (total / mib) ++ " MB Free"
  | memoryQueryFailed cause => "Could not query free device memory: " ++ cause.message
  | deficitFound device bytes source =>
      s!"Imminent VRAM OOM detected on device {device}. Deficit: " ++ toString (bytes.tdiv mib) ++
        " MB (" ++ source.name ++ ")"
  | committed size vaddr => s!"Committed {size} bytes at " ++ address vaddr
  | released size vaddr => s!"Released {size} bytes at " ++ address vaddr
  | rollbackUnmapFailed vaddr cause =>
      "Could not unmap " ++ address vaddr ++ " after failed access setup: " ++ cause.message
  | unmapFailed vaddr size cause =>
      "Could not unmap " ++ address vaddr ++ s!" ({size} bytes): " ++ cause.message
  | releaseFailed cause => "Could not release physical memory: " ++ cause.message
  | synchronizeFailed cause => "Device synchronization failed: " ++ cause.message
  | freeAddressFailed vaddr size cause =>
      "Could not free virtual address range " ++ address vaddr ++ s!" ({size} bytes): " ++
        cause.message
  | reserved size vaddr => s!"Reserved {size} bytes at " ++ address vaddr
  | commitExhausted => "VRAM allocation failed (OOM)"
  | retryFailed cause => "VRAM allocation failed: " ++ cause.message
  | commitFailed cause => "VRAM allocation failed (non OOM): " ++ cause.message
  | vbarRequested size device =>
      "vbar_allocate (start): size=" ++ inMib size ++ s!"M, device={device}"
  | pageMapRefused => "Host OOM while allocating the page map of a VBAR"
  | vbarSlotRefused => "Host OOM while inserting VBAR"
  | vbarReservationFailed cause =>
      "Could not reserve virtual address space for VBAR: " ++ cause.message
  | vbarAllocated base => "vbar_allocate (return): vbar=" ++ address base
  | vbarPrioritized vbar => "vbar_prioritize: vbar=" ++ vbar.term
  | vbarDeprioritized vbar => "vbar_deprioritize: vbar=" ++ vbar.term
  | limitSet base limit =>
      "vbar_set_watermark_limit: vbar=" ++ address base ++ s!", limit={limit} pages"
  | limitsReset => "vbars_reset_watermark_limits"
  | faultStarted offset size =>
      "vbar_fault (start): offset=" ++ inKib offset ++ "k, size=" ++ inKib size ++ "k"
  | faultAboveWatermark => "VBAR allocation is above watermark"
  | faultReclaims => "VBAR allocation attempt exceeds available VRAM, reclaiming memory"
  | faultCancelled => "VBAR allocation cancelled due to watermark reduction"
  | faultReturned none => "vbar_fault (return): Ok(())"
  | faultReturned (some cause) => "vbar_fault (return): Err(" ++ cause.term ++ ")"
  | vbarFreed vbar => "vbar_free: vbar=" ++ vbar.term
  | shrinkStarted size => "vbar_free_memory (start): size=" ++ inKib size ++ "k"
  | shrinkReturned freed => "vbar_free_memory (return): freed=" ++ inKib freed ++ "k"
  | evictionStarted size => "vbars_free: size=" ++ inMib size ++ "M"
  | evictionReturned freed => "vbars_free: freed=" ++ inMib freed ++ "M"
  | auditHeader => "--- VBAR Usage ---"
  | auditedVbar base resident watermark nrPages limit pinned =>
      "  VBAR " ++ address base ++ ": " ++ column 5 (resident / mib) ++
        s!" MB resident, watermark {watermark}/{nrPages} (limit {limit}), {pinned} pinned"
  | residentMismatch base cached counted =>
      "VBAR " ++ address base ++
        s!": resident count mismatch (cached: {cached}, actual: {counted})"
  | residentAboveWatermark base count watermark =>
      "VBAR " ++ address base ++
        s!": {count} unpinned pages resident above watermark {watermark}"
  | watermarkOutside base watermark limit nrPages =>
      "VBAR " ++ address base ++ s!": watermark {watermark} outside of [{limit}, {nrPages}]"
  | auditTotal resident => "  Total VBAR resident: " ++ column 7 (resident / mib) ++ " MB"
  | allocationStarted size device => s!"alloc_fn (start): size={size}, device={device}"
  | allocationFailed cause => "alloc_fn (FAILED): " ++ cause.message
  | allocationReturned ptr => "alloc_fn (return): ptr=" ++ address ptr
  | allocationFreed ptr => "free_fn: ptr=" ++ address ptr
  | unknownPointer ptr =>
      "free_fn could not find pointer " ++ address ptr ++ " in lookup table"
  | sizeUnreservable size => s!"Could not reserve virtual address space for {size} bytes"
  | bufferReservationFailed cause =>
      "Could not reserve virtual address space for VRAM buffer: " ++ cause.message
  | growReclaims => "VRAM buffer allocation attempt exceeds available VRAM, reclaiming memory"
  | chunkAllocated vaddr size =>
      "Allocated VRAM buffer chunk @" ++ address vaddr ++ ", size " ++ inKib size ++ "k"
  | bufferHeader => "--- Allocated Buffers ---"
  | bufferListed base allocated maxSize =>
      "  " ++ address base ++ ": " ++ column 7 (allocated / mib) ++ " MB / " ++
        column 7 (maxSize / mib) ++ " MB"
  | bufferNone => "  (none)"
  | callFailed entry cause => entry ++ ": " ++ cause.message
  | noSignature => "vbar_fault: no signature buffer"
  | faultFailed cause => "vbar_fault: " ++ cause.message
  | deviceUnavailable device =>
      s!"aimdo_init: built without a device driver, cannot initialize device {device}"
  | cleanupStarted device => s!"aimdo_cleanup: releasing device {device}"
  | cleanupIdle => "aimdo_cleanup: aimdo is not initialized"
  | cleanupFailed cause => "aimdo_cleanup: " ++ cause.message
  | vbarsFreed freed size => s!"vbars_free: freed {freed} of {size} bytes"

/-- The line a journal keeps: the name of the level and the wording. -/
def line (notice : Notice) : String := notice.level.name ++ " " ++ notice.text

end Notice

end VramOvercommit
