import VramOvercommit.Engine.Memory

set_option autoImplicit false

/-!
Reclaiming memory: from the VBAR of the lowest priority upwards, and from the tail of a VBAR
downwards. A watermark moves past absent and pinned pages as well, but only pages that were freed
count.
-/

namespace VramOvercommit.Eviction

open EngineM
open Attempt (lift)

variable {σ : Type} [Host σ]

/-- What to do with a page: take its backing away, take its pin away, or both. A pinned page keeps
its backing unless it is unpinned by the same step. -/
structure PageAction where
  free : Bool
  unpin : Bool
  deriving DecidableEq, Repr

/-- Applies an action to a page; tells whether the page was freed. -/
def evictPage (vbar : Vbar) (index : Nat) (action : PageAction) : EngineM σ (Vbar × Bool) := do
  let pageSize ← pageSize
  let vaddr ← ensure (vbar.pageAddress pageSize index)
  let page ← ensure (vbar.pageAt index)
  let pinned := page.pinned && !action.unpin
  match if action.free && !pinned then page.backing else none with
  | some memory =>
      Memory.release vaddr pageSize memory
      let vbar ← ensure (vbar.putPage index { page with backing := none, pinned }).dropResident
      return (vbar, true)
  | none => return (vbar.putPage index { page with pinned }, false)

/-- Moves the watermark down by at most `steps` pages, until `wanted` pages were freed. -/
def lowerWatermark : (steps : Nat) → Vbar → (wanted : Nat) → EngineM σ (Vbar × Nat)
  | 0, vbar, _ => return (vbar, 0)
  | steps + 1, vbar, wanted => do
      if wanted = 0 then return (vbar, 0)
      else
        let index := vbar.watermark - 1
        let (vbar, freed) ← evictPage { vbar with watermark := index } index ⟨true, false⟩
        if freed then
          let (vbar, count) ← lowerWatermark steps vbar (wanted - 1)
          return (vbar, count + 1)
        else lowerWatermark steps vbar wanted

/-- Shrinks a VBAR from its tail until `wanted` pages were freed or its limit is reached; returns
the number of freed pages. -/
def shrinkTail (handle : Handle) (wanted : Nat) : EngineM σ Nat := do
  match ← vbar? handle with
  | none => return 0
  | some vbar =>
      let (vbar, count) ← lowerWatermark (vbar.watermark - vbar.watermarkLimit) vbar wanted
      putVbar handle vbar
      return count

/-- Shrinks one VBAR after the other until `wanted` pages were freed; returns how many are still
missing. -/
def shrinkEach (wanted : Nat) : List Handle → EngineM σ Nat
  | [] => return wanted
  | handle :: rest => do
      let count ← shrinkTail handle wanted
      shrinkEach (wanted - count) rest

/-- Reclaims at least `size` bytes if possible; returns the bytes that were freed. -/
def evictGlobal (size : Nat) : EngineM σ Nat := do
  let pageSize ← pageSize
  let wanted := blocksFor size pageSize
  if wanted = 0 then return 0
  else
    log (.evictionStarted size)
    Memory.synchronize
    let missing ← shrinkEach wanted (← engine).vbars.ascending
    let freed ← word ((wanted - missing) * pageSize)
    markDirty
    checkVbars
    log (.evictionReturned freed)
    return freed

/-- Whether a fault that needs the pages below `target` has enough: the absent page it waits for is
out of reach. -/
def needMet (own : Vbar) (target cursor : Nat) : Bool :=
  target ≤ cursor || own.watermark ≤ cursor

/-- Shrinks `victim` page by page, for at most `steps` pages, until the need of the VBAR behind
`handle` is met. `cursor` is the absent page it waits for; every page freed stands for one more
absent page that can be backed, so the cursor moves on to the next. -/
def shrinkUntil (handle victim : Handle) (target : Nat) :
    (steps : Nat) → (cursor : Nat) → EngineM σ Nat
  | 0, cursor => return cursor
  | steps + 1, cursor => do
      let some own ← vbar? handle | return cursor
      let some vbar ← vbar? victim | return cursor
      if needMet own target cursor || vbar.watermark ≤ vbar.watermarkLimit then return cursor
      else
        let index := vbar.watermark - 1
        let (vbar, freed) ← evictPage { vbar with watermark := index } index ⟨true, false⟩
        putVbar victim vbar
        if freed then
          let some own ← vbar? handle | return cursor
          shrinkUntil handle victim target steps (← ensure (own.firstAbsent (cursor + 1)))
        else shrinkUntil handle victim target steps cursor

/-- Shrinks one VBAR after the other on behalf of a fault; once the need is met none changes. -/
def shrinkEachUntil (handle : Handle) (target : Nat) : List Handle → (cursor : Nat) → EngineM σ Unit
  | [], _ => return
  | victim :: rest, cursor => do
      match ← vbar? victim with
      | none => shrinkEachUntil handle target rest cursor
      | some vbar =>
          let steps := vbar.watermark - vbar.watermarkLimit
          shrinkEachUntil handle target rest (← shrinkUntil handle victim target steps cursor)

/-- Reclaims memory for a fault that needs the pages below `target`. The VBAR itself can be shrunk
as well, once all VBARs of lower priority are. -/
def evictForVbar (handle : Handle) (target : Nat) : EngineM σ Unit := do
  match ← vbar? handle with
  | none => return
  | some own =>
      let cursor ← ensure (own.firstAbsent 0)
      Memory.synchronize
      shrinkEachUntil handle target (← engine).vbars.ascending cursor
      markDirty
      checkVbars

/-- Shrinks one VBAR by up to `size` bytes from its tail; returns the bytes that were freed. -/
def shrinkVbar (handle : Handle) (size : Nat) : Attempt σ Nat := do
  lift (log (.shrinkStarted size))
  let pageSize ← lift pageSize
  let wanted := blocksFor size pageSize
  let _ ← Attempt.vbar handle
  if wanted = 0 then return 0
  else lift do
    Memory.synchronize
    let freed ← word ((← shrinkTail handle wanted) * pageSize)
    markDirty
    checkVbars
    log (.shrinkReturned freed)
    return freed

end VramOvercommit.Eviction
