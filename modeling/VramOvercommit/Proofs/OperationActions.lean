import VramOvercommit.Engine.Operation
import VramOvercommit.Proofs.Actions
import VramOvercommit.Proofs.VbarOperations

set_option autoImplicit false

/-!
The actions of every operation. Memory changes hands in three places only: a commit takes it,
reclaiming gives it back behind a barrier, and discarding a buffer gives its chunks back. All else is
bookkeeping.
-/

namespace VramOvercommit

open EngineM
open Attempt (lift)

variable {σ : Type} [Host σ] {kinds : List ActionKind} {passage : Passage σ}

open ActionKind (bookkeeping inserting marking reserving)
open Eviction (reclaiming)
open Memory (committing)

/-! ## Reserving and asking -/

namespace Memory

theorem reserve_only (reserves : .call .reserve ∈ kinds) (size : Nat) :
    Only kinds (reserve size : EngineM σ (Except DriverError Nat)) :=
  .call .reserve reserves

theorem freeAddress_only (frees : .call .freeAddress ∈ kinds) (vaddr size : Nat) :
    Only kinds (freeAddress vaddr size : EngineM σ Unit) :=
  .call_bind .freeAddress frees (fun _ => .pure ()) fun _ => .log _

theorem info_only (asks : .call .memoryInfo ∈ kinds) :
    Only kinds (info : EngineM σ (Option MemoryInfo)) :=
  .call_bind .memoryInfo asks (fun _ => .pure _) fun _ => (Only.log _).bind fun _ => .pure _

theorem poll_only : Only kinds (poll : EngineM σ Unit) := by
  refine Only.clock.bind fun now context => (Passes.engine context).bind fun engine after read => ?_
  cases read
  dsimp only
  split
  · refine (Only.platformBudget context).bind fun answer after asked => ?_
    cases asked
    exact .of_ok rfl (.single (.setBudget ⟨rfl, rfl, rfl, rfl⟩))
  · exact Passes.pure () context

theorem deficit_only (asks : .call .memoryInfo ∈ kinds) (device : Int) (extra : Nat) :
    Only kinds (deficit device extra : EngineM σ Nat) := by
  refine (info_only asks).bind fun _ => poll_only.bind fun _ => Passes.engine.bind fun engine => ?_
  dsimp only
  split
  · exact (Only.log _).bind fun _ => .pure _
  · exact .pure _

end Memory

/-! ## Unpinning a page -/

namespace Eviction

/-- Taking nothing but a pin away asks nothing of the driver. -/
theorem evictPage_unpin (vbar : Vbar) (index : Nat) :
    Passes passage (evictPage vbar index ⟨false, true⟩ : EngineM σ (Vbar × Bool)) :=
  Passes.pageSize.bind fun _ => (Passes.ensure _).bind fun _ => (Passes.ensure _).bind fun _ =>
    .pure _

theorem evictPage_unpin_watermark {vbar : Vbar} {index : Nat} {context : Context σ} :
    Ensures (fun _ => True) (evictPage vbar index ⟨false, true⟩) context
      (fun result _ => result.1.watermark = vbar.watermark) := by
  unfold evictPage
  rw [ensures_bind, ensures_pageSize, ensures_bind]
  cases vbar.pageAddress context.engine.config.vbarPageSize index with
  | error cause => trivial
  | ok vaddr =>
    rw [ensures_ensure_ok, ensures_bind]
    cases vbar.pageAt index with
    | error cause => trivial
    | ok page => rfl

end Eviction

/-! ## VBARs -/

namespace Vbars

theorem reservePages_only (reserves : .call .reserve ∈ kinds) (nrPages size : Nat) :
    Only kinds (reservePages nrPages size : Attempt σ Nat).run := by
  refine (Only.allocatesBeside _ _ _ _).lift_bind fun granted => ?_
  split
  · refine (Memory.reserve_only reserves size).lift_bind fun answer => ?_
    cases answer with
    | ok base => exact .pure _
    | error cause => exact (Only.log _).lift_bind fun _ => .pure _
  · exact (Only.log _).lift_bind fun _ => .pure _

theorem allocatesSlot_only : Only kinds (allocatesSlot : EngineM σ Bool) := by
  refine Passes.engine.bind fun engine => ?_
  dsimp only
  split
  · refine (Only.allocates _ _).bind fun granted => ?_
    split
    · exact Only.allocates _ _
    · exact .pure _
  · exact .pure _

theorem insert_only (frees : .call .freeAddress ∈ kinds) (adds : .addVbar ∈ kinds) (vbar : Vbar)
    (size : Nat) : Only kinds (insert vbar size : Attempt σ Handle).run := by
  refine allocatesSlot_only.lift_bind fun granted => ?_
  split
  · exact (Only.changeVbars (·.pushHighest _) fun added =>
      Only.setVbars_bind (.addVbar adds added) fun _ => .pure _).run_lift
  · exact ((Only.log _).bind fun _ => Memory.freeAddress_only frees _ _).lift_bind fun _ => .pure _

theorem allocate_only (reserves : .call .reserve ∈ kinds) (frees : .call .freeAddress ∈ kinds)
    (adds : .addVbar ∈ kinds) (size : Nat) (device : Int) :
    Only kinds (allocate size device : Attempt σ Handle).run :=
  (Only.log _).lift_bind fun _ => Passes.engine.lift_bind fun _ =>
    (Passes.word _).lift_bind fun _ => (reservePages_only reserves _ _).run_bind fun _ =>
      (insert_only frees adds _ _).run_bind fun _ => (Only.mark.bind fun _ =>
        Passes.checkVbars.bind fun _ => Only.log _).lift_bind fun _ => .pure _

theorem prioritize_only (moves : .moveVbar ∈ kinds) (writes : .writeVbar ∈ kinds)
    (handle : Handle) : Only kinds (prioritize handle : Attempt σ Unit).run :=
  (Only.log _).lift_bind fun _ => (Passes.run_vbar handle).run_bind fun _ =>
    (Only.changeVbars (·.moveToHighest handle) fun moved =>
      Only.setVbars_bind (.moveVbar moves (.inl moved)) fun _ =>
        (Only.putVbar writes _ _).bind fun _ => Only.mark.bind fun _ =>
        Passes.checkVbars).run_lift

theorem deprioritize_only (moves : .moveVbar ∈ kinds) (handle : Handle) :
    Only kinds (deprioritize handle : Attempt σ Unit).run :=
  (Only.log _).lift_bind fun _ => (Passes.run_vbar handle).run_bind fun _ =>
    (Only.changeVbars (·.moveToLowest handle) fun moved =>
      Only.setVbars_bind (.moveVbar moves (.inr moved)) fun _ => Only.mark).run_lift

theorem setWatermarkLimit_only (writes : .writeVbar ∈ kinds) (handle : Handle) (size : Nat) :
    Only kinds (setWatermarkLimit handle size : Attempt σ Unit).run :=
  (Passes.run_vbar handle).run_bind fun _ => (Passes.pageSize.bind fun _ =>
    (Only.putVbar writes _ _).bind fun _ => (Only.log _).bind fun _ =>
    Only.mark.bind fun _ => Passes.checkVbars).run_lift

theorem clearLimit_only (writes : .writeVbar ∈ kinds) (handle : Handle) :
    Only kinds (clearLimit handle : EngineM σ Unit) := by
  refine (Passes.vbar? handle).bind fun found => ?_
  cases found with
  | none => exact .pure ()
  | some vbar => exact Only.putVbar writes _ _

theorem resetWatermarkLimits_only (writes : .writeVbar ∈ kinds) :
    Only kinds (resetWatermarkLimits : EngineM σ Unit) :=
  (Only.log _).bind fun _ => Passes.engine.bind fun _ =>
    (Passes.forM (clearLimit_only writes)).bind fun _ => Only.mark

theorem audit_only : Only bookkeeping (audit : EngineM σ (Option AuditReport)) := by
  refine Passes.engine.bind fun engine => ?_
  dsimp only
  split
  · exact (Only.clearMark (by decide)).bind fun _ => (Only.log _).bind fun _ =>
      (Passes.forM fun _ => Only.log _).bind fun _ => (Only.log _).bind fun _ => .pure _
  · exact .pure none

theorem unpinPages_only {count index : Nat} {vbar : Vbar} :
    Only Eviction.shrinking (unpinPages count index vbar : EngineM σ Vbar) := by
  induction count generalizing index vbar with
  | zero => exact .pure vbar
  | succ count ih => exact (Eviction.evictPage_only _ _ _).bind fun _ => ih

/-- What is left to do of an unpin once the device was waited for. -/
theorem unpinTail_only (handle : Handle) (vbar : Vbar) (start stop : Nat) :
    Only Eviction.shrinking (do
      let vbar ← unpinPages (stop - start) start vbar
      EngineM.putVbar handle vbar
      EngineM.markDirty
      EngineM.checkVbars : EngineM σ Unit) :=
  unpinPages_only.bind fun _ => (Only.putVbar (by decide) _ _).bind fun _ => Only.mark.bind fun _ =>
    Passes.checkVbars

/-- Pages below the watermark are only unpinned. -/
theorem unpinPages_below {count index : Nat} {vbar : Vbar} (below : index + count ≤ vbar.watermark) :
    Passes passage (unpinPages count index vbar : EngineM σ Vbar) := by
  induction count generalizing index vbar with
  | zero => exact .pure vbar
  | succ count ih =>
    unfold unpinPages
    rw [decide_eq_false (by omega : ¬ vbar.watermark ≤ index)]
    intro context
    refine (Eviction.evictPage_unpin vbar index context).bind fun result after ran => ?_
    have watermark := Eviction.evictPage_unpin_watermark.of_ok ran
    exact ih (by omega) after

theorem unpinRange_passes (admits : passage.Admits) (handle : Handle) (vbar : Vbar)
    (start stop : Nat) : Passes passage (unpinRange handle vbar start stop : EngineM σ Unit) := by
  rw [unpinRange_eq]
  split
  · exact admits.barrier fun _ =>
      Only.mono (unpinTail_only handle vbar start stop) Eviction.shrinking_subset
  · rename_i within
    by_cases none : stop ≤ start
    · have empty : stop - start = 0 := by omega
      rw [empty]
      exact (Passes.pure ()).bind fun _ => (Passes.pure vbar).bind fun _ =>
        (admits.putVbar _ _).bind fun _ => (admits.marking Only.mark).bind fun _ =>
        Passes.checkVbars
    · exact (Passes.pure ()).bind fun _ => (unpinPages_below (by omega)).bind fun _ =>
        (admits.putVbar _ _).bind fun _ => (admits.marking Only.mark).bind fun _ =>
        Passes.checkVbars

theorem unpin_passes (admits : passage.Admits) (handle : Handle) (offset size : Nat) :
    Passes passage (unpin handle offset size : Attempt σ Unit).run := by
  rw [unpin_eq]
  exact (Passes.run_vbar handle).run_bind fun _ =>
    (Passes.pageSize.bind fun _ => unpinRange_passes admits _ _ _ _).run_lift

/-- Pages beyond the watermark are freed, so unpinning is a kind of reclaiming. -/
theorem unpin_reclaims (handle : Handle) (offset size : Nat) :
    Only reclaiming (unpin handle offset size : Attempt σ Unit).run := by
  rw [unpin_eq]
  refine (Passes.run_vbar handle).run_bind fun vbar => (Passes.pageSize.bind fun _ => ?_).run_lift
  have waits : ∀ stop, Only reclaiming
      (if vbar.watermark < stop then Memory.synchronize else pure () : EngineM σ Unit) := by
    intro stop
    split
    · exact Memory.synchronize_only (by decide)
    · exact .pure ()
  rw [unpinRange_eq]
  exact (waits _).bind fun _ => Only.mono (unpinTail_only _ _ _ _) Eviction.shrinking_subset

theorem releasePages_only {count index : Nat} {vbar : Vbar} :
    Only Eviction.shrinking (releasePages count index vbar : EngineM σ Vbar) := by
  induction count generalizing index vbar with
  | zero => exact .pure vbar
  | succ count ih => exact (Eviction.evictPage_only _ _ _).bind fun _ => ih

/-- What freeing a VBAR takes. -/
def freeing : List ActionKind := .removeVbar :: .call .freeAddress :: reclaiming

/-- What is left to do once a VBAR is out of the table. -/
theorem freeTail_only (vbar : Vbar) :
    Only (.call .freeAddress :: reclaiming) (do
      let vbar ← releasePages vbar.nrPages 0 vbar
      Memory.freeAddress vbar.base (← word (vbar.nrPages * (← pageSize)))
      markDirty
      checkVbars : EngineM σ Unit) :=
  (Only.mono releasePages_only (by decide)).bind fun _ => Passes.pageSize.bind fun _ =>
    (Passes.word _).bind fun _ => (Memory.freeAddress_only (by decide) _ _).bind fun _ =>
    Only.mark.bind fun _ => Passes.checkVbars

/-- The part of a `free` behind the barrier. -/
theorem freeRest_only (handle : Handle) (vbar : Vbar) :
    Only freeing (do
      let (vbars, _) ← ensure ((← engine).vbars.remove handle)
      setVbars vbars
      let vbar ← releasePages vbar.nrPages 0 vbar
      Memory.freeAddress vbar.base (← word (vbar.nrPages * (← pageSize)))
      markDirty
      checkVbars : EngineM σ Unit) :=
  Only.changeVbars (·.remove handle) fun removed =>
    Only.setVbars_bind (.removeVbar (by decide) removed) fun _ =>
      Only.mono (freeTail_only vbar) (by decide)

theorem free_passes (logs : ∀ notice, Passes passage (EngineM.log notice))
    (barrier : ∀ {rest : Unit → EngineM σ Unit}, (∀ value, Only freeing (rest value)) →
      Passes passage (Memory.synchronize >>= rest)) (handle : Handle) :
    Passes passage (free handle : Attempt σ Unit).run :=
  (logs _).lift_bind fun _ => (Passes.run_vbar handle).run_bind fun vbar =>
    (barrier fun _ => freeRest_only handle vbar).run_lift

theorem freeAll_passes (logs : ∀ notice, Passes passage (EngineM.log notice))
    (barrier : ∀ {rest : Unit → EngineM σ Unit}, (∀ value, Only freeing (rest value)) →
      Passes passage (Memory.synchronize >>= rest)) :
    Passes passage (freeAll : EngineM σ Unit) := by
  have each : ∀ handles : List Handle, Passes passage (freeEach handles : EngineM σ Unit) := by
    intro handles
    induction handles with
    | nil => exact .pure ()
    | cons handle rest ih => exact (free_passes logs barrier handle).bind fun _ => ih
  exact Passes.engine.bind fun _ => each _

theorem freeing_barrier {rest : Unit → EngineM σ Unit} (only : ∀ value, Only freeing (rest value)) :
    Only freeing (Memory.synchronize >>= rest) :=
  (Memory.synchronize_only (by decide)).bind only

/-! ### Faults -/

section Faults

variable (admits : passage.Admits) (commits : ∀ vaddr size device,
  Passes passage (Memory.commit vaddr size device))

include admits commits

theorem backPage_passes (handle : Handle) (vaddr index stop : Nat) (device : Int) :
    Passes passage (backPage handle vaddr index stop device : Attempt σ PhysicalHandle).run := by
  refine Passes.pageSize.lift_bind fun pageSize => (commits _ _ _).lift_bind fun result => ?_
  rcases result with (_ | code) | memory
  · refine ((admits.log _).bind fun _ =>
      Eviction.evictForVbar_passes admits handle stop).lift_bind fun _ =>
      (Passes.run_vbar handle).run_bind fun vbar => ?_
    split
    · exact (admits.log _).lift_bind fun _ => .pure _
    · refine (commits _ _ _).lift_bind fun result => ?_
      rcases result with (_ | code) | memory
      · exact (admits.log _).lift_bind fun _ => .pure _
      · exact (admits.log _).lift_bind fun _ => .pure _
      · exact .pure _
  · exact (admits.log _).lift_bind fun _ => .pure _
  · exact .pure _

theorem faultPage_passes (handle : Handle) (index stop : Nat) :
    Passes passage (faultPage handle index stop : Attempt σ UInt32).run := by
  refine (Passes.run_vbar handle).run_bind fun vbar => ?_
  split
  · exact .pure _
  · refine (Passes.ensure _).lift_bind fun page => ?_
    split
    · exact .pure _
    · exact Passes.pageSize.lift_bind fun _ => (Passes.ensure _).lift_bind fun _ =>
        (backPage_passes admits commits _ _ _ _ _).run_bind fun _ =>
        (Passes.run_vbar handle).run_bind fun _ => ((Passes.ensure _).bind fun _ =>
          (admits.putVbar _ _).bind fun _ => .pure _).run_lift

theorem faultPages_passes {handle : Handle} {stop count index : Nat} :
    Passes passage (faultPages handle stop count index : Attempt σ (List UInt32)).run := by
  induction count generalizing index with
  | zero => exact .pure _
  | succ count ih =>
    exact (faultPage_passes admits commits handle index stop).run_bind fun _ =>
      ih.run_bind fun _ => .pure _

theorem faultAndPin_passes (handle : Handle) (start stop : Nat) :
    Passes passage (faultAndPin handle start stop : Attempt σ (List UInt32)).run :=
  (faultPages_passes admits commits).run_bind fun _ => (Passes.run_vbar handle).run_bind fun _ =>
    ((Passes.ensure _).bind fun _ => admits.putVbar _ _).lift_bind fun _ => .pure _

theorem fault_passes (handle : Handle) (offset size : Nat) :
    Passes passage (fault handle offset size : Attempt σ (List UInt32)).run := by
  rw [fault_eq]
  refine (admits.log _).lift_bind fun _ => (Passes.run_vbar handle).run_bind fun vbar =>
    Passes.pageSize.lift_bind fun pageSize => ?_
  unfold faultRange
  split
  · exact (admits.log _).lift_bind fun _ => .pure _
  refine (admits.marking (Only.allocates _ _)).lift_bind fun granted => ?_
  split
  · refine ((admits.marking Only.mark).bind fun _ =>
      (faultAndPin_passes admits commits _ _ _).bind fun _ => Passes.checkVbars.bind fun _ =>
      (admits.log _).bind fun _ => .pure _).lift_bind fun result => ?_
    cases result <;> exact .pure _
  · exact .pure _

end Faults

end Vbars

/-! ## Buffers -/

namespace Buffers

/-- What growing a buffer takes besides commits and reclaiming. -/
def growing : List ActionKind := [.call .memoryInfo, .writeBuffers]

/-- What reserving a buffer takes. -/
def opening : List ActionKind := .call .reserve :: growing

theorem roundToUnit_only (size : Nat) : Only growing (roundToUnit size : Attempt σ Nat).run := by
  refine Passes.engine.lift_bind fun engine => ?_
  split
  · exact .pure _
  · exact (Only.log _).lift_bind fun _ => .pure _

theorem create_only (device : Int) (maxSize : Nat) :
    Only opening (create device maxSize : Attempt σ Nat).run := by
  refine (Only.mono (roundToUnit_only maxSize) (by decide)).run_bind fun size =>
    (Only.allocates _ _).lift_bind fun granted => ?_
  split
  · refine (Memory.reserve_only (by decide) size).lift_bind fun answer => ?_
    cases answer with
    | ok base => exact (Only.putBuffer (by decide) _).lift_bind fun _ => .pure _
    | error cause => exact (Only.log _).lift_bind fun _ => .pure _
  · exact .pure _

/-- A passage for growing a buffer, which leaves the VBARs to reclaiming. -/
structure Grows (passage : Passage σ) : Prop where
  growing : ∀ {α : Type} {step : EngineM σ α}, Only growing step → Passes passage step
  commits : ∀ vaddr size device, Passes passage (Memory.commit vaddr size device)
  reclaims : ∀ size, Passes passage (Eviction.evictGlobal size)

section Growing

variable (grows : Grows passage)

include grows

theorem backChunk_passes (vaddr size : Nat) (device : Int) :
    Passes passage (backChunk vaddr size device : Attempt σ PhysicalHandle).run := by
  have logs : ∀ notice, Passes passage (EngineM.log notice) := fun notice =>
    grows.growing (Only.log notice)
  refine (grows.commits _ _ _).lift_bind fun result => ?_
  rcases result with (_ | code) | memory
  · refine ((logs _).bind fun _ => Passes.engine.bind fun _ =>
      (grows.reclaims _).bind fun _ => .pure _).lift_bind fun _ =>
      (grows.commits _ _ _).lift_bind fun result => ?_
    cases result with
    | ok memory => exact .pure _
    | error cause => exact (logs _).lift_bind fun _ => .pure _
  · exact (logs _).lift_bind fun _ => .pure _
  · exact .pure _

theorem addChunks_passes {target count : Nat} {buffer : Buffer} :
    Passes passage (addChunks target count buffer : EngineM σ (Buffer × Except Error Unit)) := by
  induction count generalizing buffer with
  | zero => exact .pure _
  | succ count ih =>
    refine Passes.engine.bind fun _ => (Passes.word _).bind fun _ =>
      (backChunk_passes grows _ _ _).bind fun result => ?_
    cases result with
    | error cause => exact .pure _
    | ok backing => exact (grows.growing (Only.log _)).bind fun _ => ih

theorem grow_within (base required : Nat) :
    Passes passage (grow base required : Attempt σ Unit).run := by
  refine (Passes.run_buffer base).run_bind fun buffer => ?_
  split
  · exact .pure _
  · split
    · exact .pure _
    · refine Passes.engine.lift_bind fun engine =>
        (grows.growing (Only.allocatesBeside _ _ _ _)).lift_bind fun granted => ?_
      split
      · exact (grows.growing (Memory.deficit_only (by decide) _ _)).bind fun _ =>
          (grows.reclaims _).bind fun _ => (addChunks_passes grows).bind fun _ =>
          (grows.growing (Only.putBuffer (by decide) _)).bind fun _ => .pure _
      · exact .pure _

end Growing

theorem grow_passes (admits : passage.Admits)
    (commits : ∀ vaddr size device, Passes passage (Memory.commit vaddr size device))
    (base required : Nat) : Passes passage (grow base required : Attempt σ Unit).run :=
  grow_within ⟨fun only => admits.marking (Only.mono only (by decide)), commits,
    Eviction.evictGlobal_passes admits⟩ base required

theorem grow_only (base required : Nat) :
    Only (committing ++ reclaiming ++ growing ++ bookkeeping)
      (grow base required : Attempt σ Unit).run :=
  grow_within ⟨fun only => Only.mono only (by decide),
      fun _ _ _ => Only.mono (Memory.commit_only _ _ _) (by decide),
      Eviction.evictGlobal_passes (admits_acting (by decide) (by decide))⟩ base required

/-- What discarding a buffer takes. -/
def discarding : List ActionKind :=
  [.call .unmap, .call .release, .call .freeAddress, .writeBuffers]

theorem releaseChunks_only (unmaps : .call .unmap ∈ kinds) (releases : .call .release ∈ kinds)
    {chunks : List Chunk} {vaddr : Nat} :
    Only kinds (releaseChunks chunks vaddr : EngineM σ Unit) := by
  induction chunks generalizing vaddr with
  | nil => exact .pure ()
  | cons chunk rest ih =>
    exact (Passes.word _).bind fun _ =>
      (Memory.release_only unmaps releases _ _ _).bind fun _ => ih

theorem discard_only (buffer : Buffer) : Only discarding (discard buffer : EngineM σ Unit) :=
  (releaseChunks_only (by decide) (by decide)).bind fun _ =>
    Memory.freeAddress_only (by decide) _ _

theorem destroy_only (base : Nat) : Only discarding (destroy base : Attempt σ Unit).run :=
  (Passes.run_buffer base).run_bind fun _ =>
    ((Only.writeBuffers (by decide) (·.erase base)).bind fun _ => discard_only _).run_lift

theorem free_only (base : Nat) : Only discarding (free base : EngineM σ Unit) := by
  unfold free
  split
  · exact .pure ()
  · refine (destroy_only base).bind fun result => ?_
    cases result <;> exact Only.log _

theorem destroyAll_only : Only discarding (destroyAll : EngineM σ Unit) :=
  Passes.engine.bind fun _ => (Only.writeBuffers (by decide) fun _ => {}).bind fun _ =>
    Passes.forM discard_only

/-- An allocation discards the buffer that it cannot back. -/
theorem allocate_within (grows : Grows passage)
    (others : ∀ {α : Type} {step : EngineM σ α}, Only (opening ++ discarding) step →
      Passes passage step) (size : Nat) (device : Int) :
    Passes passage (allocate size device : Attempt σ Nat).run := by
  have logs : ∀ notice, Passes passage (EngineM.log notice) := fun notice => others (Only.log notice)
  refine (logs _).lift_bind fun _ =>
    (others (Only.mono (roundToUnit_only size) (by decide))).run_bind fun size =>
    (others (Only.mono (create_only device size) (by decide))).run_bind fun base =>
    (grow_within grows base size).lift_bind fun result => ?_
  cases result with
  | ok _ => exact (logs _).lift_bind fun _ => .pure _
  | error cause =>
    exact (logs _).lift_bind fun _ =>
      (others (Only.mono (destroy_only base) (by decide))).run_bind fun _ => .pure _

/-- What an allocation takes. -/
def allocating : List ActionKind := committing ++ reclaiming ++ reserving ++ discarding

theorem allocate_only (size : Nat) (device : Int) :
    Only allocating (allocate size device : Attempt σ Nat).run :=
  allocate_within ⟨fun only => Only.mono only (by decide),
      fun _ _ _ => Only.mono (Memory.commit_only _ _ _) (by decide),
      Eviction.evictGlobal_passes (admits_acting (by decide) (by decide))⟩
    (fun only => Only.mono only (by decide)) size device

theorem report_only : Only bookkeeping (report : EngineM σ Unit) := by
  refine (Only.log _).bind fun _ => Passes.engine.bind fun engine => ?_
  dsimp only
  split
  · exact Only.log _
  · exact Passes.forM fun _ => Only.log _

end Buffers

/-! ## Operations -/

namespace Engine

theorem stats_only : Only bookkeeping (stats : EngineM σ MemoryStats) :=
  (Memory.info_only (by decide)).bind fun _ => Passes.engine.bind fun _ => .pure _

/-- What a drop takes. -/
def closing : List ActionKind := Vbars.freeing ++ Buffers.discarding

theorem close_only : Only closing (close : EngineM σ Unit) :=
  (Only.mono (Vbars.freeAll_passes Only.log Vbars.freeing_barrier) (by decide)).bind fun _ =>
    (Only.mono Buffers.destroyAll_only (by decide)).bind fun _ => Passes.engine.bind fun _ =>
    Only.log _

theorem analyze_only : Only bookkeeping (analyze : EngineM σ (Option AuditReport)) := by
  refine stats_only.bind fun stats => (Only.log _).bind fun _ => (Only.log _).bind fun _ => ?_
  have others : Only bookkeeping (do
      let report ← Vbars.audit
      Buffers.report
      return report : EngineM σ (Option AuditReport)) :=
    Vbars.audit_only.bind fun _ => Buffers.report_only.bind fun _ => .pure _
  split
  · exact (Only.log _).bind fun _ => others
  · exact (Passes.pure ()).bind fun _ => others

end Engine

namespace Operation

/-- The kinds of actions that an operation may take. -/
def actionKinds : Operation → List ActionKind
  | fault _ _ _ | growBuffer _ _ => committing ++ reclaiming ++ bookkeeping
  | allocate _ _ => Buffers.allocating
  | freeVbar _ => Vbars.freeing
  | unpin _ _ _ | freeVbarMemory _ _ | evictGlobal _ | evictForVbar _ _ => reclaiming ++ bookkeeping
  | free _ | destroyBuffer _ => Buffers.discarding
  | allocateVbar _ _ => inserting
  | createBuffer _ _ => reserving
  | _ => bookkeeping

theorem admits_working : (acting (committing ++ reclaiming ++ bookkeeping) : Passage σ).Admits :=
  admits_acting (by decide) (by decide)

theorem commits_working (vaddr size : Nat) (device : Int) :
    Only (committing ++ reclaiming ++ bookkeeping) (Memory.commit vaddr size device :
      EngineM σ (Except DriverError PhysicalHandle)) :=
  Only.mono (Memory.commit_only vaddr size device) (by decide)

theorem admits_reclaiming : (acting (reclaiming ++ bookkeeping) : Passage σ).Admits :=
  admits_acting (by decide) (by decide)

omit [Host σ] in
/-- Handing a result out stays within every passage. -/
theorem handOut_passes {α : Type} {step : Attempt σ α} {handOut : α → Outcome}
    (passes : Passes passage step.run) :
    Passes passage (do let value ← step; return handOut value : Attempt σ Outcome).run :=
  passes.run_bind fun _ => .pure _

theorem run_only (operation : Operation) :
    Only operation.actionKinds (operation.run : EngineM σ (Except Error Outcome)) := by
  have moves : ActionKind.moveVbar ∈ bookkeeping := by decide
  have writes : ActionKind.writeVbar ∈ bookkeeping := by decide
  have reserves : ActionKind.call .reserve ∈ inserting := by decide
  have frees : ActionKind.call .freeAddress ∈ inserting := by decide
  have adds : ActionKind.addVbar ∈ inserting := by decide
  cases operation with
  | allocateVbar size device =>
    exact handOut_passes (Vbars.allocate_only reserves frees adds size device)
  | fault vbar offset size =>
    exact handOut_passes (Vbars.fault_passes admits_working commits_working vbar offset size)
  | unpin vbar offset size => exact handOut_passes (Vbars.unpin_passes admits_reclaiming _ _ _)
  | freeVbar vbar =>
    exact handOut_passes (Vbars.free_passes Only.log Vbars.freeing_barrier vbar)
  | prioritize vbar => exact handOut_passes (Vbars.prioritize_only moves writes vbar)
  | deprioritize vbar => exact handOut_passes (Vbars.deprioritize_only moves vbar)
  | setWatermarkLimit vbar size => exact handOut_passes (Vbars.setWatermarkLimit_only writes vbar size)
  | resetWatermarkLimits => exact handOut_passes (Vbars.resetWatermarkLimits_only writes).run_lift
  | freeVbarMemory vbar size =>
    exact handOut_passes (Eviction.shrinkVbar_passes admits_reclaiming vbar size)
  | evictGlobal size =>
    exact handOut_passes (Eviction.evictGlobal_passes admits_reclaiming size).run_lift
  | evictForVbar vbar target =>
    exact handOut_passes (Eviction.evictForVbar_passes admits_reclaiming vbar target).run_lift
  | allocate size device =>
    exact handOut_passes (Buffers.allocate_only size device)
  | free ptr => exact handOut_passes (Buffers.free_only ptr).run_lift
  | createBuffer device maxSize =>
    have opens : Buffers.opening ⊆ reserving := by decide
    exact handOut_passes (Only.mono (Buffers.create_only device maxSize) opens)
  | growBuffer ptr size =>
    exact handOut_passes (Buffers.grow_passes admits_working commits_working ptr size)
  | destroyBuffer ptr => exact handOut_passes (Buffers.destroy_only ptr)
  | deficit extra =>
    have asks : ActionKind.call .memoryInfo ∈ bookkeeping := by decide
    exact (Passes.engine.bind fun _ => (Memory.deficit_only asks _ extra).bind fun _ =>
      .pure _).run_lift
  | stats => exact handOut_passes Engine.stats_only.run_lift
  | analyze => exact handOut_passes Engine.analyze_only.run_lift

end Operation

end VramOvercommit
