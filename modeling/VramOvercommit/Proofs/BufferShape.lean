import VramOvercommit.Proofs.OperationActions
import VramOvercommit.Proofs.Operations

set_option autoImplicit false

/-!
The shape of a buffer. It grows in whole chunks and only the end of its range cuts one short, so a
buffer that stopped short of its target is made of full chunks and can be grown again with any other
target.
-/

namespace VramOvercommit

open EngineM
open Attempt (lift)
open ActionKind (bookkeeping)
open Eviction (reclaiming)
open Memory (committing)

namespace Buffer

variable {chunkSize target required : Nat} {buffer before middle after : Buffer}

/-- All chunks have the full size, but the last may be shorter where it ends with the range. -/
structure Shaped (chunkSize : Nat) (buffer : Buffer) : Prop extends buffer.Tidy where
  sizes : ∀ {index : Nat} {chunk : Chunk}, buffer.chunks[index]? = some chunk →
    chunk.size = chunkSize ∨ index + 1 = buffer.chunks.size ∧ 0 < chunk.size ∧
      chunk.size < chunkSize ∧ buffer.allocated = buffer.maxSize

theorem shaped_fresh (chunkSize base maxSize : Nat) (device : Int) :
    Shaped chunkSize { base, device, maxSize } :=
  ⟨⟨rfl, Nat.zero_le _⟩, fun found => by simp at found⟩

/-- Short of its range a buffer has full chunks only. -/
theorem Shaped.whole (shaped : buffer.Shaped chunkSize)
    (short : buffer.allocated < buffer.maxSize) : chunkSize ∣ buffer.allocated := by
  have full : ∀ size ∈ buffer.chunks.toList.map Chunk.size, size = chunkSize := by
    intro size member
    obtain ⟨chunk, listed, rfl⟩ := List.mem_map.mp member
    obtain ⟨index, found⟩ := List.getElem?_of_mem listed
    rw [Array.getElem?_toList] at found
    rcases shaped.sizes found with full | ⟨-, -, -, ended⟩
    · exact full
    · omega
  rw [← shaped.total, List.eq_replicate_of_mem full, List.sum_replicate_nat]
  exact Nat.dvd_mul_left _ _

/-- The next chunk on the way to a target that is a whole number of chunks or the end of the
range. -/
theorem Shaped.addChunk (shaped : buffer.Shaped chunkSize) (less : buffer.allocated < target)
    (fits : target ≤ buffer.maxSize) (whole : chunkSize ∣ target ∨ target = buffer.maxSize)
    (backing : PhysicalHandle) :
    (buffer.addChunk ⟨min (target - buffer.allocated) chunkSize, backing⟩).Shaped chunkSize := by
  have full := shaped.whole (Nat.lt_of_lt_of_le less fits)
  refine ⟨shaped.toTidy.addChunk (by dsimp only; omega), fun {index chunk} found => ?_⟩
  change (buffer.chunks.push _)[index]? = some chunk at found
  rw [Array.getElem?_push] at found
  split at found
  · rename_i last
    cases found
    dsimp only
    by_cases room : chunkSize ≤ target - buffer.allocated
    · exact .inl (Nat.min_eq_right room)
    · -- what is left is less than a chunk, so the target is no whole number of them
      have cut : target = buffer.maxSize := by
        refine whole.resolve_left fun whole => ?_
        exact room (Nat.le_of_dvd (by omega) (Nat.dvd_sub whole full))
      refine .inr ⟨?_, by omega, by omega, ?_⟩
      · change index + 1 = (buffer.chunks.push _).size
        rw [Array.size_push, last]
      · change buffer.allocated + min _ _ = buffer.maxSize
        omega
  · rcases shaped.sizes found with full | ⟨-, -, -, ended⟩
    · exact .inl full
    · omega

/-- The same range, with all chunks that were there. -/
structure Extends (before after : Buffer) : Prop where
  base : after.base = before.base
  device : after.device = before.device
  maxSize : after.maxSize = before.maxSize
  chunks : before.chunks.toList <+: after.chunks.toList

theorem Extends.refl (buffer : Buffer) : buffer.Extends buffer := ⟨rfl, rfl, rfl, List.prefix_rfl⟩

theorem Extends.trans (first : before.Extends middle) (second : middle.Extends after) :
    before.Extends after :=
  ⟨second.base.trans first.base, second.device.trans first.device,
    second.maxSize.trans first.maxSize, first.chunks.trans second.chunks⟩

theorem extends_addChunk (buffer : Buffer) (chunk : Chunk) :
    buffer.Extends (buffer.addChunk chunk) := by
  refine ⟨rfl, rfl, rfl, ?_⟩
  change _ <+: (buffer.chunks.push chunk).toList
  rw [Array.toList_push]
  exact List.prefix_append _ _

/-! ## Targets -/

theorem growTarget_whole (buffer : Buffer) (chunkSize required : Nat) :
    chunkSize ∣ buffer.growTarget chunkSize required ∨
      buffer.growTarget chunkSize required = buffer.maxSize := by
  unfold growTarget
  split
  · rename_i size rounded
    rw [(roundUp?_eq_some_iff.mp rounded).1]
    rcases Nat.le_total (blocksFor required chunkSize * chunkSize) buffer.maxSize with fits | cut
    · rw [Nat.min_eq_left fits]
      exact .inl (Nat.dvd_mul_left _ _)
    · exact .inr (Nat.min_eq_right cut)
  · exact .inr rfl

/-- A target that cannot be rounded up within a word lies beyond every range. -/
theorem growTarget_eq (buffer : Buffer) (chunkSize required : Nat)
    (small : buffer.maxSize < wordLimit) :
    buffer.growTarget chunkSize required =
      min (blocksFor required chunkSize * chunkSize) buffer.maxSize := by
  unfold growTarget
  split
  · rename_i size rounded
    rw [(roundUp?_eq_some_iff.mp rounded).1]
  · rename_i overflows
    unfold roundUp? at overflows
    dsimp only at overflows
    split at overflows
    · cases overflows
    · omega

theorem le_growTarget (buffer : Buffer) (positive : 0 < chunkSize)
    (fits : required ≤ buffer.maxSize) : required ≤ buffer.growTarget chunkSize required := by
  unfold growTarget
  split
  · rename_i size rounded
    rw [(roundUp?_eq_some_iff.mp rounded).1]
    exact Nat.le_min.mpr ⟨le_blocksFor_mul required positive, fits⟩
  · exact fits

end Buffer

/-! ## Growing -/

/-- The causes for which physical memory cannot be committed. -/
def Error.Uncommitted (cause : Error) : Prop :=
  cause = .outOfMemory ∨ ∃ code, cause = .driver (.failed code)

theorem Error.uncommitted_ofDriver (cause : DriverError) : (ofDriver cause).Uncommitted := by
  cases cause with
  | outOfMemory => exact .inl rfl
  | failed code => exact .inr ⟨code, rfl⟩

namespace Buffers

variable {σ : Type} [Host σ] {ledger : Ledger σ} {context : Context σ} {regions : List Region}
  {buffer : Buffer} {target required : Nat}

theorem backChunk_uncommitted {vaddr size : Nat} {device : Int} :
    Ensures (fun _ => True) (backChunk vaddr size device).run context
      (fun result _ => ∀ cause, result = .error cause → cause.Uncommitted) := by
  unfold backChunk
  rw [ensures_run_bind, ensures_run_lift]
  refine ensures_any fun result after => ?_
  rcases result with (_ | code) | memory
  · dsimp only
    rw [ensures_run_bind, ensures_run_lift]
    refine ensures_any fun _ after => ?_
    dsimp only
    rw [ensures_run_bind, ensures_run_lift]
    refine ensures_any fun result after => ?_
    cases result with
    | ok memory => exact fun _ failed => nomatch failed
    | error cause =>
      dsimp only
      rw [ensures_run_bind, ensures_run_lift, ensures_log, ensures_run_throw]
      rintro _ ⟨⟩
      exact Error.uncommitted_ofDriver cause
  · dsimp only
    rw [ensures_run_bind, ensures_run_lift, ensures_log, ensures_run_throw]
    rintro _ ⟨⟩
    exact Error.uncommitted_ofDriver (.failed code)
  · exact fun _ failed => nomatch failed

/-- Chunks are added until one cannot be backed. -/
theorem addChunks_uncommitted {count : Nat} :
    Ensures (fun _ => True) (addChunks target count buffer) context
      (fun result _ => ∀ cause, result.2 = .error cause → cause.Uncommitted) := by
  induction count generalizing buffer context with
  | zero => exact fun _ failed => nomatch failed
  | succ count ih =>
    unfold addChunks
    rw [ensures_bind, ensures_engine, ensures_bind]
    refine ensures_word (.inr trivial) fun _ => ?_
    rw [ensures_bind]
    refine backChunk_uncommitted.mono fun result after uncommitted => ?_
    cases result with
    | error cause =>
      rintro _ ⟨⟩
      exact uncommitted cause rfl
    | ok memory =>
      dsimp only
      rw [ensures_bind, ensures_log]
      exact ih

theorem backChunk_config {vaddr size : Nat} {device : Int} :
    Ensures (fun _ => True) (backChunk vaddr size device).run context
      (fun _ after => after.engine.config = context.engine.config) := by
  have only : Only (committing ++ reclaiming ++ bookkeeping)
      (backChunk vaddr size device : Attempt σ PhysicalHandle).run :=
    backChunk_passes ⟨fun only => Only.mono only (by decide), Operation.commits_working,
      Eviction.evictGlobal_passes Operation.admits_working⟩ vaddr size device
  exact (only context).ensures.mono fun _ _ actions => actions.config

/-- How far a buffer got on its way to a target. -/
structure Filled {α : Type} (chunkSize target : Nat) (before : Buffer) (result : Except Error α)
    (after : Buffer) : Prop where
  shaped : after.Shaped chunkSize
  extended : before.Extends after
  full : ∀ value, result = .ok value → after.allocated = target
  short : ∀ cause, result = .error cause → before.allocated ≤ after.allocated ∧
    after.allocated < target

omit [Host σ] in
theorem Filled.map {α β : Type} {chunkSize : Nat} {before after : Buffer} {result : Except Error α}
    (filled : Filled chunkSize target before result after) (change : α → β) :
    Filled chunkSize target before (result.map change) after := by
  obtain ⟨shaped, extended, full, short⟩ := filled
  cases result with
  | ok value => exact ⟨shaped, extended, fun _ _ => full value rfl, fun _ failed => nomatch failed⟩
  | error cause =>
    refine ⟨shaped, extended, (fun _ filled => nomatch filled), ?_⟩
    rintro _ ⟨⟩
    exact short cause rfl

/-- Chunk by chunk the buffer keeps its shape, and it misses its target only if a chunk could not be
added. -/
theorem addChunks_fills {chunkSize count : Nat} (shaped : buffer.Shaped chunkSize)
    (config : context.engine.config.vramChunkSize = chunkSize)
    (growing : Growing regions chunkSize target count buffer)
    (whole : chunkSize ∣ target ∨ target = buffer.maxSize) (below : buffer.allocated ≤ target) :
    Ensures (fun _ => True) (addChunks target count buffer) context
      (fun result _ => Filled chunkSize target buffer result.2 result.1) := by
  induction count generalizing buffer context with
  | zero =>
    have covered := growing.covered
    refine ⟨shaped, .refl buffer, fun _ _ => ?_, fun _ failed => nomatch failed⟩
    dsimp only
    omega
  | succ count ih =>
    have size_pos := growing.size_pos
    have less : buffer.allocated < target := by omega
    unfold addChunks
    rw [ensures_bind, ensures_engine, ensures_bind, config]
    refine ensures_word (.inr trivial) fun _ => ?_
    rw [ensures_bind]
    refine backChunk_config.mono fun result middle config' => ?_
    cases result with
    | error cause =>
      exact ⟨shaped, .refl buffer, by rintro _ ⟨⟩, fun _ _ => ⟨Nat.le_refl _, less⟩⟩
    | ok memory =>
      dsimp only
      rw [ensures_bind, ensures_log]
      refine (ih (shaped.addChunk less growing.fits whole memory) (by rw [config', config])
        (growing.addChunk memory) whole ?_).mono ?_
      · change buffer.allocated + min _ _ ≤ target
        omega
      · intro result last outcome
        obtain ⟨shaped', extended, full, short⟩ := outcome
        refine ⟨shaped', (buffer.extends_addChunk _).trans extended, full, fun cause failed => ?_⟩
        obtain ⟨more, less⟩ := short cause failed
        exact ⟨Nat.le_trans (Nat.le_add_right _ _) more, less⟩

section Growth

variable {base : Nat}

/-- More than the range holds is refused before anything else happens. -/
theorem grow_exceeds (found : context.engine.buffers.get? base = some buffer)
    (exceeds : buffer.maxSize < required) :
    (grow base required).run context =
      .ok (.error (.exceedsReservation required buffer.maxSize)) context := by
  have refused : Ensures (fun _ => False) (grow base required).run context (fun result after =>
      result = .error (.exceedsReservation required buffer.maxSize) ∧ after = context) := by
    unfold grow
    rw [ensures_run_bind, Attempt.ensures_buffer, found]
    dsimp only
    rw [if_pos exceeds]
    exact ⟨rfl, rfl⟩
  obtain ⟨_, _, ran, rfl, rfl⟩ := refused.exists_ok
  exact ran

/-- What is backed already needs nothing. -/
theorem grow_backed (found : context.engine.buffers.get? base = some buffer)
    (fits : required ≤ buffer.maxSize) (backed : required ≤ buffer.allocated) :
    (grow base required).run context = .ok (.ok ()) context := by
  have idle : Ensures (fun _ => False) (grow base required).run context (fun result after =>
      result = .ok () ∧ after = context) := by
    unfold grow
    rw [ensures_run_bind, Attempt.ensures_buffer, found]
    dsimp only
    rw [if_neg (Nat.not_lt.mpr fits), if_pos backed]
    exact ⟨rfl, rfl⟩
  obtain ⟨_, _, ran, rfl, rfl⟩ := idle.exists_ok
  exact ran

/-- Otherwise the buffer grows toward its target, and gets there unless a chunk cannot be backed or
the host cannot hold the table of chunks. -/
theorem grow_fills (sound : Sound ledger context)
    (sizes : ∀ size ≤ context.engine.config.vramChunkSize, ledger.sizes size)
    (found : context.engine.buffers.get? base = some buffer)
    (shaped : buffer.Shaped context.engine.config.vramChunkSize)
    (fits : required ≤ buffer.maxSize) (missing : buffer.allocated < required) :
    Ensures ledger.aborts (grow base required).run context (fun result after =>
      ∃ grown, after.engine.buffers.get? base = some grown ∧
        Filled context.engine.config.vramChunkSize
          (buffer.growTarget context.engine.config.vramChunkSize required) buffer result grown ∧
        ∀ cause, result = .error cause → cause = .hostOutOfMemory ∨ cause.Uncommitted) := by
  have chunk_pos := (Config.validate_ok sound.valid).2.1
  have below : buffer.allocated < buffer.growTarget context.engine.config.vramChunkSize required :=
    Nat.lt_of_lt_of_le missing (buffer.le_growTarget chunk_pos fits)
  have keyed := sound.buffers.keyed found
  unfold grow
  rw [ensures_run_bind, Attempt.ensures_buffer, found]
  dsimp only
  rw [if_neg (Nat.not_lt.mpr fits), if_neg (Nat.not_le.mpr missing), ensures_run_bind,
    ensures_run_lift, ensures_engine]
  dsimp only
  rw [ensures_run_bind, ensures_run_lift, ensures_allocatesBeside]
  dsimp only
  have asked := sound.roomBeside .chunks buffer.chunks.size
    (blocksFor (buffer.growTarget context.engine.config.vramChunkSize required - buffer.allocated)
      context.engine.config.vramChunkSize) Buffer.chunkEntrySize
  split
  · rw [ensures_run_mk]
    refine reclaimAndAdd_spec asked found (growTarget_le ..) rfl rfl
      fun {middle} reclaimed kept growing => ?_
    have config := reclaimed.config
    rw [config] at growing
    refine ((addChunks_spec kept (by rwa [config]) (by rwa [config])).also
      ((addChunks_fills shaped (by rw [config]) growing (buffer.growTarget_whole ..)
        (Nat.le_of_lt below)).and addChunks_uncommitted)).mono ?_
    rintro ⟨grown, result⟩ last ⟨-, filled, uncommitted⟩
    dsimp only at filled uncommitted ⊢
    refine ⟨grown, ?_, filled, fun cause failed => .inr (uncommitted cause failed)⟩
    rw [NatMap.get?_insert, if_pos (by rw [filled.extended.base, keyed])]
  · rw [ensures_run_throw]
    refine ⟨buffer, found, ⟨shaped, .refl buffer, (fun _ full => nomatch full), fun _ _ => ?_⟩, ?_⟩
    · exact ⟨Nat.le_refl _, below⟩
    · rintro _ ⟨⟩
      exact .inl rfl

end Growth

end Buffers

/-! ## Every operation -/

/-- Every live buffer has its shape. -/
def Engine.ShapedBuffers (engine : Engine) : Prop :=
  ∀ (base : Nat) (buffer : Buffer), engine.buffers.get? base = some buffer →
    buffer.Shaped engine.config.vramChunkSize

section Shapes

variable {before after : Engine} {base : Nat}

theorem shapedBuffers_fresh (device : Int) (config : Config) (capacity : Nat) :
    (Engine.fresh device config capacity).ShapedBuffers :=
  fun _ _ found => by simp [Engine.fresh] at found

theorem Engine.ShapedBuffers.congr (shaped : before.ShapedBuffers)
    (config : after.config = before.config) (buffers : after.buffers = before.buffers) :
    after.ShapedBuffers := by
  intro base buffer found
  rw [buffers] at found
  rw [config]
  exact shaped base buffer found

/-- Where only the buffer at one address changed, no other has to be looked at. -/
theorem Buffers.WorkedAt.shapedBuffers (worked : Buffers.WorkedAt base before after)
    (shaped : before.ShapedBuffers)
    (here : ∀ {buffer : Buffer}, after.buffers.get? base = some buffer →
      buffer.Shaped before.config.vramChunkSize) : after.ShapedBuffers := by
  intro other buffer found
  rw [worked.config]
  by_cases same : other = base
  · exact here (same ▸ found)
  · exact shaped other buffer (worked.get?_of_ne same ▸ found)

theorem Buffers.Discarded.shapedBuffers (discarded : Buffers.Discarded base before after)
    (shaped : before.ShapedBuffers) : after.ShapedBuffers := by
  intro other buffer found
  rw [discarded.buffers, NatMap.get?_erase] at found
  rw [discarded.config]
  split at found
  · cases found
  · exact shaped other buffer found

end Shapes

namespace Buffers

variable {σ : Type} [Host σ] {ledger : Ledger σ} {context : Context σ}

theorem create_shapes {device : Int} {maxSize : Nat} (sound : Sound ledger context)
    (allowed : ledger.aborts .overflow) (shaped : context.engine.ShapedBuffers) :
    Ensures ledger.aborts (create device maxSize).run context
      (fun _ after => after.engine.ShapedBuffers) := by
  apply (create_opens sound allowed).mono
  intro result after outcome
  obtain ⟨-, opened⟩ := outcome
  cases result with
  | error cause => exact opened ▸ shaped
  | ok base =>
    obtain ⟨size, engine, -⟩ := opened
    rw [engine]
    intro other buffer found
    rcases NatMap.get?_insert_eq_some_iff.mp found with ⟨-, rfl⟩ | ⟨-, found⟩
    · exact Buffer.shaped_fresh _ _ _ _
    · exact shaped other buffer found

theorem grow_shapes {base required : Nat} (sound : Sound ledger context)
    (sizes : ∀ size ≤ context.engine.config.vramChunkSize, ledger.sizes size)
    (shaped : context.engine.ShapedBuffers) :
    Ensures ledger.aborts (grow base required).run context
      (fun _ after => after.engine.ShapedBuffers) := by
  cases found : context.engine.buffers.get? base with
  | none =>
    unfold grow
    rw [ensures_run_bind, Attempt.ensures_buffer, found]
    exact shaped
  | some buffer =>
    by_cases exceeds : buffer.maxSize < required
    · unfold Ensures
      rw [grow_exceeds found exceeds]
      exact shaped
    · have fits := Nat.not_lt.mp exceeds
      by_cases backed : required ≤ buffer.allocated
      · unfold Ensures
        rw [grow_backed found fits backed]
        exact shaped
      · refine ((grow_works sound sizes).and
          (grow_fills sound sizes found (shaped base buffer found) fits (Nat.not_le.mp backed))).mono ?_
        intro result after outcome
        obtain ⟨⟨-, worked⟩, grown, found', filled, -⟩ := outcome
        refine worked.shapedBuffers shaped fun {buffer'} live => ?_
        rw [found'] at live
        cases live
        exact filled.shaped

theorem allocate_shapes {size : Nat} {device : Int} (sound : Sound ledger context)
    (allowed : ledger.aborts .overflow) (sizes : ∀ size, ledger.sizes size)
    (shaped : context.engine.ShapedBuffers) :
    Ensures ledger.aborts (allocate size device).run context
      (fun _ after => after.engine.ShapedBuffers) := by
  unfold allocate
  rw [ensures_run_bind, ensures_run_lift, ensures_log]
  dsimp only
  rw [ensures_run_bind]
  apply (roundToUnit_spec (sound.log _)).mono
  intro rounded first outcome
  obtain ⟨sound₁, same⟩ := outcome
  have shaped₁ : first.engine.ShapedBuffers := same ▸ shaped
  cases rounded with
  | error cause => exact shaped₁
  | ok size =>
    dsimp only
    rw [ensures_run_bind]
    apply ((create_spec sound₁ allowed).and (create_shapes sound₁ allowed shaped₁)).mono
    intro created second outcome
    obtain ⟨⟨sound₂, -⟩, shaped₂⟩ := outcome
    cases created with
    | error cause => exact shaped₂
    | ok base =>
      have sizes₂ : ∀ size ≤ second.engine.config.vramChunkSize, ledger.sizes size :=
        fun size _ => sizes size
      dsimp only
      rw [ensures_run_bind, ensures_run_lift]
      apply ((grow_spec sound₂ sizes₂).and (grow_shapes sound₂ sizes₂ shaped₂)).mono
      intro grown third outcome
      obtain ⟨⟨sound₃, -⟩, shaped₃⟩ := outcome
      cases grown with
      | ok _ =>
        dsimp only
        rw [ensures_run_bind, ensures_run_lift, ensures_log, ensures_run_pure]
        exact shaped₃
      | error cause =>
        dsimp only
        rw [ensures_run_bind, ensures_run_lift, ensures_log]
        dsimp only
        rw [ensures_run_bind]
        apply (destroy_discards (sound₃.log _)).mono
        intro destroyed last outcome
        have shaped₄ := outcome.2.shapedBuffers shaped₃
        cases destroyed with
        | ok _ => exact shaped₄
        | error other => exact shaped₄

end Buffers

namespace Operation

/-- The buffers that an operation may change. -/
def rewrites : Operation → Nat → Prop
  | growBuffer ptr _, base => base = ptr
  | destroyBuffer ptr, base => base = ptr
  | free ptr, base => base = ptr
  | _, _ => False

variable {σ : Type} [Host σ] {ledger : Ledger σ} {context : Context σ}

/-- The operations that work on buffers. -/
def onBuffers : Operation → Bool
  | allocate _ _ | free _ | createBuffer _ _ | growBuffer _ _ | destroyBuffer _ => true
  | _ => false

/-- What it takes to arrange the table of VBARs. -/
def arranging : List ActionKind :=
  [.call .reserve, .call .freeAddress, .writeVbar, .moveVbar, .addVbar]

/-- Working on VBARs leaves the table of buffers alone. -/
theorem buffers_kept (operation : Operation) (sound : Sound ledger context)
    (apart : operation.onBuffers = false) :
    Ensures (fun _ => True) operation.run context
      (fun _ after => after.engine.buffers = context.engine.buffers) := by
  have keeps : ∀ {α : Type} {kinds : List ActionKind} {step : EngineM σ α}, Only kinds step →
      .writeBuffers ∉ kinds → Ensures (fun _ => True) step context
        (fun _ after => after.engine.buffers = context.engine.buffers) :=
    fun only denied => (only context).ensures.mono fun _ _ actions => actions.buffers denied
  have reserves : ActionKind.call .reserve ∈ arranging := by decide
  have frees : ActionKind.call .freeAddress ∈ arranging := by decide
  have adds : ActionKind.addVbar ∈ arranging := by decide
  have moves : ActionKind.moveVbar ∈ arranging := by decide
  have writes : ActionKind.writeVbar ∈ arranging := by decide
  cases operation with
  | allocateVbar size device =>
    exact keeps (handOut_passes (Vbars.allocate_only reserves frees adds size device)) (by decide)
  | fault vbar offset size =>
    refine ensures_handOut_result (((Vbars.fault_spec sound).weaken fun _ _ => trivial).mono ?_)
    exact fun _ after ⟨_, faulted, _⟩ => faulted.worked.buffers
  | unpin vbar offset size =>
    exact keeps (handOut_passes (Vbars.unpin_reclaims vbar offset size)) (by decide)
  | freeVbar vbar =>
    exact keeps (handOut_passes (Vbars.free_passes Only.log Vbars.freeing_barrier vbar)) (by decide)
  | prioritize vbar =>
    exact keeps (handOut_passes (Vbars.prioritize_only moves writes vbar)) (by decide)
  | deprioritize vbar =>
    exact keeps (handOut_passes (Vbars.deprioritize_only moves vbar)) (by decide)
  | setWatermarkLimit vbar size =>
    exact keeps (handOut_passes (Vbars.setWatermarkLimit_only writes vbar size)) (by decide)
  | resetWatermarkLimits =>
    exact keeps (handOut_passes (Vbars.resetWatermarkLimits_only writes).run_lift) (by decide)
  | freeVbarMemory vbar size =>
    refine ensures_handOut_result
      (((Eviction.shrinkVbar_spec sound.vbarBooks).weaken fun _ _ => trivial).mono ?_)
    exact fun _ after ⟨reclaimed, _⟩ => reclaimed.buffers
  | evictGlobal size =>
    refine ensures_handOut_result (ensures_run_lift.mpr
      (((Eviction.evictGlobal_spec sound.vbarBooks).weaken fun _ _ => trivial).mono ?_))
    exact fun _ after ⟨reclaimed, _⟩ => reclaimed.buffers
  | evictForVbar vbar target =>
    refine ensures_handOut_result (ensures_run_lift.mpr
      (((Eviction.evictForVbar_spec sound.vbarBooks).weaken fun _ _ => trivial).mono ?_))
    exact fun _ after ⟨reclaimed, _⟩ => reclaimed.buffers
  | deficit extra =>
    change Ensures _ (Attempt.lift _).run context _
    rw [ensures_run_lift, ensures_bind, ensures_engine, ensures_bind]
    exact ((Memory.deficit_spec sound.books).weaken fun _ _ => trivial).mono
      fun _ after ⟨tables, _⟩ => tables.buffers
  | stats =>
    refine ensures_handOut_result (ensures_run_lift.mpr
      (((Engine.stats_spec sound).weaken fun _ _ => trivial).mono ?_))
    exact fun _ after ⟨_, same⟩ => congrArg Engine.buffers same
  | analyze =>
    refine ensures_handOut_result (ensures_run_lift.mpr
      (((Engine.analyze_spec sound).weaken fun _ _ => trivial).mono ?_))
    exact fun _ after ⟨_, audited⟩ => by rw [audited.engine]
  | allocate | free | createBuffer | growBuffer | destroyBuffer => cases apart

/-- No operation breaks the shape of a buffer. -/
theorem run_shapes (operation : Operation) (sound : Sound ledger context)
    (allowed : ledger.aborts .overflow) (sizes : ∀ size, ledger.sizes size)
    (shaped : context.engine.ShapedBuffers) :
    Ensures ledger.aborts operation.run context (fun _ after => after.engine.ShapedBuffers) := by
  cases onBuffers : operation.onBuffers with
  | false =>
    refine ((operation.run_spec sound allowed sizes).also
      (operation.buffers_kept sound onBuffers)).mono fun _ after outcome => ?_
    obtain ⟨respected, buffers⟩ := outcome
    exact shaped.congr respected.setting.config buffers
  | true =>
    cases operation with
    | allocate size device =>
      exact ensures_handOut (Buffers.allocate_shapes sound allowed sizes shaped)
    | free ptr =>
      refine ensures_handOut_lift ((Buffers.free_discards sound).mono fun _ after outcome => ?_)
      rcases outcome.2 with same | discarded
      · exact same ▸ shaped
      · exact discarded.shapedBuffers shaped
    | createBuffer device maxSize =>
      exact ensures_handOut (Buffers.create_shapes sound allowed shaped)
    | growBuffer ptr size =>
      exact ensures_handOut (Buffers.grow_shapes sound (fun size _ => sizes size) shaped)
    | destroyBuffer ptr =>
      refine ensures_handOut ((Buffers.destroy_discards sound).mono fun _ after outcome => ?_)
      exact outcome.2.shapedBuffers shaped
    | _ => cases onBuffers

/-- A buffer changes only by an operation on it: the addresses of new buffers are their own. -/
theorem run_keepsBuffer (operation : Operation) {base : Nat} {buffer : Buffer}
    (sound : Sound ledger context) (distinct : ledger.distinct) (allowed : ledger.aborts .overflow)
    (sizes : ∀ size, ledger.sizes size) (found : context.engine.buffers.get? base = some buffer)
    (other : ¬ operation.rewrites base) :
    Ensures ledger.aborts operation.run context
      (fun _ after => after.engine.buffers.get? base = some buffer) := by
  have apart : ∀ {ptr : Nat}, context.engine.buffers.get? ptr = none → base ≠ ptr := by
    rintro ptr absent rfl
    rw [found] at absent
    cases absent
  cases onBuffers : operation.onBuffers with
  | false =>
    refine ((operation.run_spec sound allowed sizes).also
      (operation.buffers_kept sound onBuffers)).mono fun _ after outcome => ?_
    rw [outcome.2]
    exact found
  | true =>
    cases operation with
    | allocate size device =>
      refine ensures_handOut ((Buffers.allocate_works sound allowed sizes).mono ?_)
      intro result after outcome
      obtain ⟨-, worked⟩ := outcome
      cases result with
      | ok ptr =>
        exact (worked.1.get?_of_ne (apart (worked.2 distinct))).trans found
      | error cause =>
        rw [(worked.2 distinct).buffers]
        exact found
    | free ptr =>
      refine ensures_handOut_lift ((Buffers.free_discards sound).mono fun _ after outcome => ?_)
      rcases outcome.2 with same | discarded
      · exact same ▸ found
      · exact (discarded.get?_of_ne other).trans found
    | createBuffer device maxSize =>
      refine ensures_handOut ((Buffers.create_opens sound allowed).mono ?_)
      intro result after outcome
      obtain ⟨-, opened⟩ := outcome
      cases result with
      | ok ptr =>
        obtain ⟨size, engine, absent⟩ := opened
        rw [engine]
        dsimp only
        rw [NatMap.get?_insert, if_neg (apart (absent distinct))]
        exact found
      | error cause =>
        rw [opened]
        exact found
    | growBuffer ptr size =>
      refine ensures_handOut ((Buffers.grow_works sound fun size _ => sizes size).mono ?_)
      exact fun _ after ⟨_, worked⟩ => (worked.get?_of_ne other).trans found
    | destroyBuffer ptr =>
      refine ensures_handOut ((Buffers.destroy_discards sound).mono ?_)
      exact fun _ after ⟨_, discarded⟩ => (discarded.get?_of_ne other).trans found
    | _ => cases onBuffers

end Operation

end VramOvercommit
