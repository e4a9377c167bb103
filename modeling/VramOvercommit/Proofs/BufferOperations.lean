import VramOvercommit.Engine.Buffers
import VramOvercommit.Proofs.Sound

set_option autoImplicit false

/-!
The life of a buffer. While a buffer grows, the table still holds it as it was: the chunks that were
added lie beside the memory of the table until the buffer is put back.
-/

namespace VramOvercommit.Buffers

open EngineM
open Attempt (lift)

variable {σ : Type} [Host σ] {ledger : Ledger σ} {context : Context σ} {regions : List Region}
  {rest : List Holding} {buffer : Buffer}

/-- A context whose buffers were exchanged, with their memory on the books. -/
theorem sound_of_buffers {after : Context σ} {buffers : NatMap Buffer}
    (sound : Sound ledger context) (kept : VbarBooks ledger after
      (vbarRegions context.engine.vbars context.engine.config.vbarPageSize ++ bufferRegions buffers)
      (bufferHoldings buffers))
    (worked : Reclaimed context.engine after.engine) (tidy : SoundBuffers buffers) :
    Sound ledger { after with engine := { after.engine with buffers } } := by
  have sameRegions := vbarRegions_eq sound.vbars.linked kept.sound.linked worked.vbars.handles
    worked.vbars.spares context.engine.config.vbarPageSize
  have books := kept.books
  rw [worked.config, ← sameRegions] at books
  exact sound.of_parts ⟨worked.device, worked.config, worked.capacity⟩ kept.sound tidy
    (books.engine rfl)

/-! ## Reserving -/

theorem roundToUnit_spec {size : Nat} (sound : Sound ledger context) :
    Ensures ledger.aborts (roundToUnit size).run context (fun _ after =>
      Sound ledger after ∧ after.engine = context.engine) := by
  unfold roundToUnit
  rw [ensures_run_bind, ensures_run_lift, ensures_engine]
  dsimp only
  split
  · exact ⟨sound, rfl⟩
  · rw [ensures_run_bind, ensures_run_lift, ensures_log, ensures_run_throw]
    exact ⟨sound.log _, rfl⟩

/-- A buffer at its address takes the place of one that lay there before, which a host that keeps
books never lets happen. -/
theorem insert_fresh {base size : Nat} {host : σ} (sound : Sound ledger context) (device : Int)
    (books : Books ledger ⟨context.engine, host⟩ (⟨base, size⟩ :: context.engine.regions)
      context.engine.holdings)
    (apart : ledger.distinct → ∀ region ∈ context.engine.regions, region.base ≠ base) :
    Sound ledger ⟨{ context.engine with
      buffers := context.engine.buffers.insert base { base, device, maxSize := size } }, host⟩ := by
  have tidy : Buffer.Tidy { base, device, maxSize := size } := ⟨rfl, Nat.zero_le _⟩
  have values := perm_bufferValues_insert context.engine.buffers base
    { base, device, maxSize := size }
  have regions := values.map Buffer.region
  have holdings := values.flatMap_right Buffer.holdings
  rw [List.map_cons] at regions
  rw [List.flatMap_cons] at holdings
  refine ⟨sound.vbars, sound.buffers.insert tidy, sound.valid, sound.allowed, ?_⟩
  cases found : context.engine.buffers.get? base with
  | none =>
    rw [NatMap.erase_of_none found] at regions holdings
    have settled : Books ledger ⟨{ context.engine with
      buffers := context.engine.buffers.insert base { base, device, maxSize := size } }, host⟩
      _ _ :=
      books.engine rfl
    refine settled.perm ?_ ?_
    · exact List.perm_middle.symm.trans (regions.symm.append_left _)
    · exact holdings.symm.append_left _
  | some old =>
    have clash : ¬ ledger.distinct := by
      intro distinct
      refine apart distinct old.region ?_ (sound.buffers.keyed found)
      refine List.mem_append_right _ (List.mem_map_of_mem (mem_bufferValues.mpr ⟨base, found⟩))
    refine ⟨ledger.unkept clash _ _ _ _, ?_, fun distinct => absurd distinct clash,
      books.accounted.word⟩
    have before := heldBytes_perm ((perm_bufferValues found).flatMap_right Buffer.holdings)
    have after := heldBytes_perm holdings
    have held : heldBytes context.engine.holdings ≤ context.engine.budget.residentUsage :=
      books.accounted.held_le
    rw [List.flatMap_cons, heldBytes_append] at before
    rw [heldBytes_append, tidy.heldBytes_holdings] at after
    unfold Engine.holdings bufferHoldings at held ⊢
    rw [heldBytes_append] at held ⊢
    dsimp only at after ⊢
    omega

/-- No buffer lies at an address at which no range starts. -/
theorem absent_of_apart {base : Nat} (sound : Sound ledger context)
    (apart : ∀ region ∈ context.engine.regions, region.base ≠ base) :
    context.engine.buffers.get? base = none := by
  cases found : context.engine.buffers.get? base with
  | none => rfl
  | some buffer =>
    have listed : buffer.region ∈ context.engine.regions :=
      List.mem_append_right _ (List.mem_map_of_mem (mem_bufferValues.mpr ⟨base, found⟩))
    exact absurd (sound.buffers.keyed found) (apart _ listed)

/-- A buffer that was reserved is new, and nothing else changed. -/
theorem create_opens {device : Int} {maxSize : Nat} (sound : Sound ledger context)
    (allowed : ledger.aborts .overflow) :
    Ensures ledger.aborts (create device maxSize).run context (fun result after =>
      Sound ledger after ∧
        match result with
        | .ok base => ∃ size,
            after.engine = { context.engine with
              buffers := context.engine.buffers.insert base { base, device, maxSize := size } } ∧
            (ledger.distinct → context.engine.buffers.get? base = none)
        | .error _ => after.engine = context.engine) := by
  unfold create
  rw [ensures_run_bind]
  apply (roundToUnit_spec sound).mono
  intro result first outcome
  obtain ⟨sound, same⟩ := outcome
  cases result with
  | error cause => exact ⟨sound, same⟩
  | ok size =>
    have asked := sound.room .buffers 1
    dsimp only
    rw [ensures_run_bind, ensures_run_lift, ensures_allocates]
    dsimp only
    split
    · rw [ensures_run_bind, ensures_run_lift]
      apply (Memory.reserve_spec asked.books allowed).mono
      rintro answer ⟨engine, host⟩ ⟨same', outcome⟩
      dsimp only at same'
      subst same'
      cases answer with
      | ok base =>
        dsimp only
        rw [ensures_run_bind, ensures_run_lift, ensures_putBuffer, ensures_run_pure]
        have inserted := insert_fresh asked device outcome.1 outcome.2
        refine ⟨inserted, size, ?_, fun distinct => ?_⟩
        · dsimp only
          rw [same]
        · rw [← same]
          exact absent_of_apart sound (outcome.2 distinct)
      | error cause =>
        dsimp only
        rw [ensures_run_bind, ensures_run_lift, ensures_log, ensures_run_throw]
        have sound : Sound ledger ⟨first.engine, host⟩ := asked.congr (.refl _) outcome
        exact ⟨sound.log _, same⟩
    · exact ⟨asked, same⟩

theorem create_spec {device : Int} {maxSize : Nat} (sound : Sound ledger context)
    (allowed : ledger.aborts .overflow) :
    Ensures ledger.aborts (create device maxSize).run context (fun _ after =>
      Sound ledger after ∧ Undisturbed context.engine after.engine) := by
  apply (create_opens sound allowed).mono
  intro result after outcome
  obtain ⟨done, opened⟩ := outcome
  refine ⟨done, ?_⟩
  cases result with
  | ok base =>
    obtain ⟨size, engine, -⟩ := opened
    rw [engine]
    exact ⟨⟨rfl, rfl, rfl⟩, .refl _⟩
  | error cause => exact .of_eq opened

/-! ## Growing -/

/-- The ways in which a chunk gets no memory. On an exhausted device a page was reclaimed for it if
any could be. -/
inductive Unbacked (ledger : Ledger σ) (config : Config) (rest : List Holding) (vaddr size : Nat)
    (vbars after : PriorityList Vbar) : Prop where
  | failed {code : Int} (refused : ledger.refuses (.failed code) vaddr size
      (vbarHoldings vbars config.vbarPageSize ++ rest))
  | exhausted {cause : DriverError} (shrunk : Shrunk vbars after) (sound : SoundVbars after)
      (evicted : totalResident after + blocksFor config.vramChunkSize config.vbarPageSize ≤
          totalResident vbars ∨ totalReclaimable after = 0)
      (refused : ledger.refuses cause vaddr size (vbarHoldings after config.vbarPageSize ++ rest))

/-- Either there is new memory beside that of the VBARs, or nothing was added. -/
theorem backChunk_spec {vaddr size : Nat} {device : Int}
    (kept : VbarBooks ledger context regions rest) (sizes : ledger.sizes size) (positive : 0 < size)
    (inside : ∃ region ∈ regions, region.base ≤ vaddr ∧ vaddr + size ≤ region.base + region.size) :
    Ensures ledger.aborts (backChunk vaddr size device).run context (fun result after =>
      Reclaimed context.engine after.engine ∧
        match result with
        | .ok memory => VbarBooks ledger after regions (⟨vaddr, size, memory⟩ :: rest)
        | .error _ => VbarBooks ledger after regions rest ∧
            Unbacked ledger context.engine.config rest vaddr size context.engine.vbars
              after.engine.vbars) := by
  unfold backChunk
  rw [ensures_run_bind, ensures_run_lift]
  apply (kept.commit device sizes positive inside).mono
  intro result first outcome
  obtain ⟨tables, outcome⟩ := outcome
  rcases result with (_ | code) | memory
  · -- one round of reclaiming, and one more attempt
    obtain ⟨kept₁, -⟩ := outcome
    dsimp only
    rw [ensures_run_bind, ensures_run_lift, ensures_bind, ensures_log, ensures_bind,
      ensures_engine, ensures_bind]
    apply ((Eviction.evictGlobal_spec (kept₁.log _)).weaken ledger.stops_aborts).mono
    intro _ second outcome
    obtain ⟨shrunk, kept₂, evicted, -⟩ := outcome
    have reclaimed := (kept.sound.reclaimed tables).trans shrunk
    dsimp only at evicted
    rw [tables.vbars, tables.config] at evicted
    rw [ensures_pure]
    dsimp only
    rw [ensures_run_bind, ensures_run_lift]
    apply (kept₂.commit device sizes positive inside).mono
    intro result third outcome
    obtain ⟨tables', outcome⟩ := outcome
    have reclaimed := reclaimed.trans (kept₂.sound.reclaimed tables')
    cases result with
    | ok memory => exact ⟨reclaimed, outcome⟩
    | error cause =>
      obtain ⟨kept₃, refused⟩ := outcome
      rw [shrunk.config, tables.config, ← tables'.vbars] at refused
      rw [← tables'.vbars] at evicted
      dsimp only
      rw [ensures_run_bind, ensures_run_lift, ensures_log, ensures_run_throw]
      exact ⟨reclaimed, kept₃.log _, .exhausted reclaimed.vbars kept₃.sound evicted refused⟩
  · dsimp only
    rw [ensures_run_bind, ensures_run_lift, ensures_log, ensures_run_throw]
    exact ⟨kept.sound.reclaimed tables, outcome.1.log _, .failed outcome.2⟩
  · exact ⟨kept.sound.reclaimed tables, outcome⟩

/-- A buffer that still gets `count` chunks. Every chunk but the last has the full size, so each has
at least one byte and all of them fit the range of the buffer. -/
structure Growing (regions : List Region) (chunkSize target count : Nat) (buffer : Buffer) :
    Prop where
  tidy : buffer.Tidy
  region : buffer.region ∈ regions
  fits : target ≤ buffer.maxSize
  chunkSize_pos : 0 < chunkSize
  missing : ∀ full < count, full * chunkSize < target - buffer.allocated
  covered : target - buffer.allocated ≤ count * chunkSize

section Growing

variable {chunkSize target count : Nat}

theorem Growing.size_pos (growing : Growing regions chunkSize target (count + 1) buffer) :
    0 < min (target - buffer.allocated) chunkSize := by
  have missing := growing.missing 0 (Nat.succ_pos count)
  have positive := growing.chunkSize_pos
  omega

/-- The next chunk lies within the range of the buffer. -/
theorem Growing.inside (growing : Growing regions chunkSize target (count + 1) buffer) :
    ∃ region ∈ regions, region.base ≤ buffer.base + buffer.allocated ∧
      buffer.base + buffer.allocated + min (target - buffer.allocated) chunkSize ≤
        region.base + region.size := by
  have below := growing.tidy.allocated_le
  have fits := growing.fits
  refine ⟨buffer.region, growing.region, Nat.le_add_right _ _, ?_⟩
  change _ ≤ buffer.base + buffer.maxSize
  omega

theorem Growing.start_lt {holdings : List Holding}
    (growing : Growing regions chunkSize target count buffer)
    (books : Books ledger context regions holdings) :
    buffer.base + buffer.allocated < wordLimit ∨ ledger.aborts .overflow := by
  refine (books.region_lt growing.region).imp (fun ends => ?_) (ledger.stops_aborts _)
  have below := growing.tidy.allocated_le
  change buffer.base + buffer.maxSize < wordLimit at ends
  omega

theorem Growing.addChunk (growing : Growing regions chunkSize target (count + 1) buffer)
    (backing : PhysicalHandle) : Growing regions chunkSize target count
      (buffer.addChunk ⟨min (target - buffer.allocated) chunkSize, backing⟩) := by
  have below := growing.tidy.allocated_le
  have fits := growing.fits
  have covered := growing.covered
  rw [Nat.add_one_mul] at covered
  refine ⟨growing.tidy.addChunk ?_, growing.region, fits, growing.chunkSize_pos, ?_, ?_⟩
  · change buffer.allocated + min _ _ ≤ _
    omega
  · intro full less
    change full * chunkSize < target - (buffer.allocated + min _ _)
    have more := growing.missing (full + 1) (by omega)
    rw [Nat.add_one_mul] at more
    omega
  · change target - (buffer.allocated + min _ _) ≤ _
    omega

/-- A buffer at the start of its growth. -/
theorem growing_start (tidy : buffer.Tidy) (region : buffer.region ∈ regions)
    (fits : target ≤ buffer.maxSize) (positive : 0 < chunkSize) :
    Growing regions chunkSize target (blocksFor (target - buffer.allocated) chunkSize) buffer :=
  ⟨tidy, region, fits, positive, fun _ less => Nat.lt_of_not_le fun le =>
    Nat.not_le_of_lt less ((blocksFor_le_iff positive).mpr le), le_blocksFor_mul _ positive⟩

/-- The chunk that was added lies beside the memory of all others. -/
theorem addChunk_books {chunk : Chunk} (tidy : buffer.Tidy)
    (kept : VbarBooks ledger context regions
      (⟨buffer.base + buffer.allocated, chunk.size, chunk.backing⟩ :: (buffer.holdings ++ rest))) :
    VbarBooks ledger context regions ((buffer.addChunk chunk).holdings ++ rest) := by
  apply kept.perm
  rw [tidy.holdings_addChunk, List.append_assoc]
  exact List.perm_middle.symm

end Growing

theorem addChunks_spec {target count : Nat} (kept : VbarBooks ledger context regions
      (buffer.holdings ++ rest))
    (sizes : ∀ size ≤ context.engine.config.vramChunkSize, ledger.sizes size)
    (growing : Growing regions context.engine.config.vramChunkSize target count buffer) :
    Ensures ledger.aborts (addChunks target count buffer) context (fun result after =>
      Reclaimed context.engine after.engine ∧ result.1.Tidy ∧ result.1.base = buffer.base ∧
        result.1.region = buffer.region ∧
        VbarBooks ledger after regions (result.1.holdings ++ rest)) := by
  induction count generalizing buffer context with
  | zero => exact ⟨.refl kept, growing.tidy, rfl, rfl, kept⟩
  | succ count ih =>
    unfold addChunks
    rw [ensures_bind, ensures_engine]
    dsimp only
    rw [ensures_bind]
    apply ensures_word (growing.start_lt kept.books)
    intro _
    rw [ensures_bind]
    apply (backChunk_spec kept (sizes _ (Nat.min_le_right _ _)) growing.size_pos
      growing.inside).mono
    intro result middle outcome
    obtain ⟨reclaimed, outcome⟩ := outcome
    cases result with
    | error cause => exact ⟨reclaimed, growing.tidy, rfl, rfl, outcome.1⟩
    | ok memory =>
      dsimp only
      rw [ensures_bind, ensures_log]
      have config := reclaimed.config
      have added := growing.addChunk memory
      refine (ih ((addChunk_books growing.tidy outcome).log _) (by rwa [config])
        (by rwa [config])).mono ?_
      intro result after outcome
      obtain ⟨reclaimed', tidy', base, region', kept⟩ := outcome
      exact ⟨reclaimed.trans reclaimed', tidy', base, region', kept⟩

theorem growTarget_le (buffer : Buffer) (chunkSize required : Nat) :
    buffer.growTarget chunkSize required ≤ buffer.maxSize := by
  unfold Buffer.growTarget
  split
  · exact Nat.min_le_right _ _
  · exact Nat.le_refl _

theorem growTarget_maxSize (buffer : Buffer) {chunkSize : Nat} (positive : 0 < chunkSize) :
    buffer.growTarget chunkSize buffer.maxSize = buffer.maxSize := by
  unfold Buffer.growTarget
  split
  · rename_i covering round
    obtain ⟨rfl, -⟩ := roundUp?_eq_some_iff.mp round
    exact Nat.min_eq_right (le_blocksFor_mul buffer.maxSize positive)
  · rfl

/-- The part of the memory that lies behind one buffer, and the table with that buffer changed. -/
theorem perm_bufferHoldings {buffers : NatMap Buffer} {base : Nat}
    (found : buffers.get? base = some buffer) :
    (bufferHoldings buffers).Perm (buffer.holdings ++ bufferHoldings (buffers.erase base)) ∧
      ∀ new : Buffer, (bufferHoldings (buffers.insert base new)).Perm
        (new.holdings ++ bufferHoldings (buffers.erase base)) :=
  ⟨(perm_bufferValues found).flatMap_right Buffer.holdings,
    fun new => (perm_bufferValues_insert buffers base new).flatMap_right Buffer.holdings⟩

/-- A buffer keeps its range whatever happens to its chunks. -/
theorem perm_bufferRegions {buffers : NatMap Buffer} {base : Nat} {new : Buffer}
    (found : buffers.get? base = some buffer) (same : new.region = buffer.region) :
    (bufferRegions buffers).Perm (bufferRegions (buffers.insert base new)) := by
  have changed := (perm_bufferValues_insert buffers base new).map Buffer.region
  have original := (perm_bufferValues found).map Buffer.region
  rw [List.map_cons, same] at changed
  exact original.trans changed.symm

/-- The chunks of a buffer are added once the shortage that was predicted is reclaimed, and then the
buffer is put back. -/
theorem reclaimAndAdd_spec {base target missing count : Nat}
    {post : Except Error Unit → Context σ → Prop} (sound : Sound ledger context)
    (found : context.engine.buffers.get? base = some buffer) (fits : target ≤ buffer.maxSize)
    (lacks : missing = target - buffer.allocated)
    (enough : count = blocksFor missing context.engine.config.vramChunkSize)
    (added : ∀ {middle : Context σ}, Reclaimed context.engine middle.engine →
      VbarBooks ledger middle context.engine.regions
        (buffer.holdings ++ bufferHoldings (context.engine.buffers.erase base)) →
      Growing context.engine.regions middle.engine.config.vramChunkSize target count buffer →
      Ensures ledger.aborts (addChunks target count buffer) middle (fun outcome last =>
        post outcome.2 { last with engine := { last.engine with
          buffers := last.engine.buffers.insert outcome.1.base outcome.1 } })) :
    Ensures ledger.aborts (do
      let deficit ← Memory.deficit buffer.device missing
      let _ ← Eviction.evictGlobal deficit
      let (buffer, result) ← addChunks target count buffer
      putBuffer buffer
      return result) context post := by
  subst lacks enough
  rw [ensures_bind]
  apply (Memory.deficit_spec sound.books).mono
  intro size first outcome
  obtain ⟨tables, books⟩ := outcome
  rw [ensures_bind]
  apply ((Eviction.evictGlobal_spec (sound.vbarBooks.congr tables books)).weaken
    ledger.stops_aborts).mono
  intro _ second outcome
  obtain ⟨evicted, kept, -⟩ := outcome
  have reclaimed := (sound.vbars.reclaimed tables).trans evicted
  have inside : buffer.region ∈ context.engine.regions :=
    List.mem_append_right _ (List.mem_map_of_mem (mem_bufferValues.mpr ⟨base, found⟩))
  have growing := growing_start (sound.buffers.tidy found) inside fits
    (Config.validate_ok sound.valid).2.1
  have config := reclaimed.config
  rw [ensures_bind]
  apply (added reclaimed (kept.perm (perm_bufferHoldings found).1) (by rwa [config])).mono
  intro outcome last done
  rw [ensures_bind, ensures_putBuffer, ensures_pure]
  exact done

/-- VBARs may have been cut, and of the buffers none but the one at an address changed. -/
structure WorkedAt (base : Nat) (before after : Engine) : Prop extends SameSetting before after where
  vbars : Shrunk before.vbars after.vbars
  others : after.buffers.erase base = before.buffers.erase base

section WorkedAt

variable {base : Nat} {before middle after : Engine}

theorem WorkedAt.of_eq (sound : SoundVbars before.vbars) (same : after = before) :
    WorkedAt base before after := by
  subst same
  exact ⟨.refl _, .refl sound, rfl⟩

theorem WorkedAt.trans (first : WorkedAt base before middle) (second : WorkedAt base middle after) :
    WorkedAt base before after :=
  ⟨first.toSameSetting.trans second.toSameSetting, first.vbars.trans second.vbars,
    second.others.trans first.others⟩

theorem WorkedAt.undisturbed (worked : WorkedAt base before after) : Undisturbed before after :=
  ⟨worked.toSameSetting, worked.vbars.endures⟩

/-- A buffer at another address is as it was. -/
theorem WorkedAt.get?_of_ne (worked : WorkedAt base before after) {other : Nat}
    (ne : other ≠ base) : after.buffers.get? other = before.buffers.get? other := by
  have same := congrArg (fun buffers : NatMap Buffer => buffers.get? other) worked.others
  rwa [NatMap.get?_erase, NatMap.get?_erase, if_neg ne, if_neg ne] at same

end WorkedAt

/-- Whatever becomes of the chunks, nothing but the buffer itself changes beside what is
reclaimed. -/
theorem grow_works {base required : Nat} (sound : Sound ledger context)
    (sizes : ∀ size ≤ context.engine.config.vramChunkSize, ledger.sizes size) :
    Ensures ledger.aborts (grow base required).run context (fun _ after =>
      Sound ledger after ∧ WorkedAt base context.engine after.engine) := by
  have unchanged : Sound ledger context ∧ WorkedAt base context.engine context.engine :=
    ⟨sound, .of_eq sound.vbars rfl⟩
  unfold grow
  rw [ensures_run_bind, Attempt.ensures_buffer]
  cases found : context.engine.buffers.get? base with
  | none => exact unchanged
  | some buffer =>
    dsimp only
    split
    · exact unchanged
    · split
      · exact unchanged
      · rw [ensures_run_bind, ensures_run_lift, ensures_engine]
        dsimp only
        rw [ensures_run_bind, ensures_run_lift, ensures_allocatesBeside]
        dsimp only
        have asked := sound.roomBeside .chunks buffer.chunks.size
          (blocksFor (buffer.growTarget context.engine.config.vramChunkSize required -
            buffer.allocated) context.engine.config.vramChunkSize) Buffer.chunkEntrySize
        split
        · rw [ensures_run_mk]
          refine reclaimAndAdd_spec asked found (growTarget_le ..) rfl rfl
            fun {middle} reclaimed kept growing => ?_
          have config := reclaimed.config
          refine (addChunks_spec kept (by rwa [config]) growing).mono ?_
          rintro ⟨grown, result⟩ last ⟨added, tidy, base', region, kept⟩
          dsimp only at tidy base' region kept ⊢
          have worked := reclaimed.trans added
          rw [sound.buffers.keyed found] at base'
          have settled := (kept.perm ((perm_bufferHoldings found).2 grown).symm).perm_regions
            ((perm_bufferRegions found region).append_left _)
          have done := sound_of_buffers sound settled worked (base' ▸ sound.buffers.insert tidy)
          rw [base', worked.buffers]
          exact ⟨done, ⟨worked.device, worked.config, worked.capacity⟩, worked.vbars,
            NatMap.erase_insert _ _ _⟩
        · exact ⟨asked, .of_eq sound.vbars rfl⟩

theorem grow_spec {base required : Nat} (sound : Sound ledger context)
    (sizes : ∀ size ≤ context.engine.config.vramChunkSize, ledger.sizes size) :
    Ensures ledger.aborts (grow base required).run context (fun _ after =>
      Sound ledger after ∧ Undisturbed context.engine after.engine) :=
  (grow_works sound sizes).mono fun _ _ ⟨done, worked⟩ => ⟨done, worked.undisturbed⟩

/-! ## Destroying -/

theorem releaseChunks_spec {chunks : List Chunk} {vaddr : Nat}
    (books : Books ledger context regions (Buffer.chunkHoldings vaddr chunks ++ rest))
    (small : vaddr + (chunks.map Chunk.size).sum < wordLimit ∨ ledger.aborts .overflow) :
    Ensures ledger.aborts (releaseChunks chunks vaddr) context (fun _ after =>
      SameTables context.engine after.engine ∧ Books ledger after regions rest) := by
  induction chunks generalizing vaddr context with
  | nil => exact ⟨.refl _, books⟩
  | cons chunk others ih =>
    rw [List.map_cons, List.sum_cons] at small
    unfold releaseChunks
    rw [ensures_bind]
    apply ensures_word (small.imp_left fun small => by omega)
    intro _
    rw [ensures_bind]
    apply ((Memory.release_spec books).weaken ledger.stops_aborts).mono
    intro _ middle outcome
    obtain ⟨recounted, books⟩ := outcome
    apply (ih books (small.imp_left fun small => by omega)).mono
    intro _ after outcome
    obtain ⟨tables', books⟩ := outcome
    exact ⟨recounted.tables.trans tables', books⟩

/-- A buffer leaves with all of its memory and its range. -/
theorem discard_spec (books : Books ledger context (buffer.region :: regions)
      (buffer.holdings ++ rest))
    (small : buffer.base + (buffer.chunks.toList.map Chunk.size).sum < wordLimit ∨
      ledger.aborts .overflow) :
    Ensures ledger.aborts (discard buffer) context (fun _ after =>
      SameTables context.engine after.engine ∧ Books ledger after regions rest) := by
  unfold discard
  rw [ensures_bind]
  apply (releaseChunks_spec books small).mono
  intro _ middle outcome
  obtain ⟨tables, books⟩ := outcome
  apply (Memory.freeAddress_spec books).mono
  intro _ after outcome
  obtain ⟨same, books⟩ := outcome
  exact ⟨same ▸ tables, books⟩

/-- One buffer is gone. -/
structure Discarded (base : Nat) (before after : Engine) : Prop extends SameSetting before after where
  vbars : after.vbars = before.vbars
  buffers : after.buffers = before.buffers.erase base

section Discarded

variable {base : Nat} {before after : Engine}

theorem Discarded.of_absent (absent : before.buffers.get? base = none) :
    Discarded base before before := ⟨.refl _, rfl, (NatMap.erase_of_none absent).symm⟩

theorem Discarded.worked (discarded : Discarded base before after) (sound : SoundVbars before.vbars) :
    WorkedAt base before after := by
  obtain ⟨setting, vbars, buffers⟩ := discarded
  refine ⟨setting, ?_, ?_⟩
  · rw [vbars]
    exact .refl sound
  · rw [buffers]
    exact NatMap.erase_of_none (by rw [NatMap.get?_erase, if_pos rfl])

theorem Discarded.get?_of_ne (discarded : Discarded base before after) {other : Nat}
    (ne : other ≠ base) : after.buffers.get? other = before.buffers.get? other := by
  rw [discarded.buffers, NatMap.get?_erase, if_neg ne]

theorem Discarded.undisturbed (discarded : Discarded base before after) :
    Undisturbed before after := by
  refine ⟨discarded.toSameSetting, ?_⟩
  rw [discarded.vbars]
  exact .refl _

end Discarded

/-- A buffer that leaves the table, with its memory beside that of all others. -/
theorem take_buffer {base : Nat} (sound : Sound ledger context)
    (found : context.engine.buffers.get? base = some buffer) :
    Books ledger ⟨{ context.engine with buffers := context.engine.buffers.erase base },
        context.host⟩
      (buffer.region :: (vbarRegions context.engine.vbars context.engine.config.vbarPageSize ++
        bufferRegions (context.engine.buffers.erase base)))
      (buffer.holdings ++ (vbarHoldings context.engine.vbars
        context.engine.config.vbarPageSize ++
        bufferHoldings (context.engine.buffers.erase base))) ∧
    (buffer.base + (buffer.chunks.toList.map Chunk.size).sum < wordLimit ∨
      ledger.aborts .overflow) := by
  have opened : Books ledger context
      (buffer.region :: (vbarRegions context.engine.vbars context.engine.config.vbarPageSize ++
        bufferRegions (context.engine.buffers.erase base)))
      (buffer.holdings ++ (vbarHoldings context.engine.vbars
        context.engine.config.vbarPageSize ++
        bufferHoldings (context.engine.buffers.erase base))) := by
    refine sound.books.perm ?_ ?_
    · exact (((perm_bufferValues found).map Buffer.region).append_left _).trans List.perm_middle
    · apply ((perm_bufferHoldings found).1.append_left _).trans
      rw [← List.append_assoc, ← List.append_assoc]
      exact List.perm_append_comm.append_right _
  have tidy := sound.buffers.tidy found
  refine ⟨opened.engine rfl, ?_⟩
  refine (opened.region_lt List.mem_cons_self).imp (fun ends => ?_) (ledger.stops_aborts _)
  have below := tidy.allocated_le
  change buffer.base + buffer.maxSize < wordLimit at ends
  rw [tidy.total]
  omega

theorem destroy_discards {base : Nat} (sound : Sound ledger context) :
    Ensures ledger.aborts (destroy base).run context (fun _ after =>
      Sound ledger after ∧ Discarded base context.engine after.engine) := by
  unfold destroy
  rw [ensures_run_bind, Attempt.ensures_buffer]
  cases found : context.engine.buffers.get? base with
  | none => exact ⟨sound, .of_absent found⟩
  | some buffer =>
    dsimp only
    rw [ensures_run_lift, ensures_bind, ensures_modifyEngine]
    obtain ⟨erased, small⟩ := take_buffer sound found
    apply (discard_spec erased small).mono
    intro _ after outcome
    obtain ⟨tables, books⟩ := outcome
    have vbars : after.engine.vbars = context.engine.vbars := tables.vbars
    have buffers : after.engine.buffers = context.engine.buffers.erase base := tables.buffers
    have setting : SameSetting context.engine after.engine :=
      ⟨tables.device, tables.config, tables.capacity⟩
    refine ⟨sound.of_buffers setting vbars ?_ ?_, setting, vbars, buffers⟩
    · rw [buffers]
      exact sound.buffers.erase base
    · rw [buffers]
      exact books

/-- A buffer that is there can be destroyed. -/
theorem destroy_live {base : Nat} (live : context.engine.buffers.get? base = some buffer) :
    Ensures (fun _ => True) (destroy base).run context (fun result _ => result = .ok ()) := by
  unfold destroy
  rw [ensures_run_bind, Attempt.ensures_buffer, live]
  dsimp only
  rw [ensures_run_lift]
  exact ensures_any fun _ _ => rfl

theorem destroy_spec {base : Nat} (sound : Sound ledger context) :
    Ensures ledger.aborts (destroy base).run context (fun _ after =>
      Sound ledger after ∧ Undisturbed context.engine after.engine) :=
  (destroy_discards sound).mono fun _ _ ⟨done, discarded⟩ => ⟨done, discarded.undisturbed⟩

/-- An allocation adds the buffer it hands out, and one that fails takes its buffer away again:
what is left of it is what was reclaimed. -/
theorem allocate_works {size : Nat} {device : Int} (sound : Sound ledger context)
    (allowed : ledger.aborts .overflow) (sizes : ∀ size, ledger.sizes size) :
    Ensures ledger.aborts (allocate size device).run context (fun result after =>
      Sound ledger after ∧
        match result with
        | .ok base => WorkedAt base context.engine after.engine ∧
            (ledger.distinct → context.engine.buffers.get? base = none)
        | .error _ => Undisturbed context.engine after.engine ∧
            (ledger.distinct → Reclaimed context.engine after.engine)) := by
  have idle : ∀ {engine : Engine}, engine = context.engine → Undisturbed context.engine engine ∧
      (ledger.distinct → Reclaimed context.engine engine) := by
    rintro engine rfl
    exact ⟨.refl _, fun _ => ⟨.refl _, rfl, .refl sound.vbars⟩⟩
  unfold allocate
  rw [ensures_run_bind, ensures_run_lift, ensures_log]
  dsimp only
  rw [ensures_run_bind]
  apply (roundToUnit_spec (sound.log _)).mono
  intro rounded first outcome
  obtain ⟨sound₁, same⟩ := outcome
  dsimp only at same
  cases rounded with
  | error cause => exact ⟨sound₁, idle same⟩
  | ok size =>
    dsimp only
    rw [ensures_run_bind]
    apply (create_opens sound₁ allowed).mono
    intro created second outcome
    obtain ⟨sound₂, opened⟩ := outcome
    rw [same] at opened
    cases created with
    | error cause => exact ⟨sound₂, idle opened⟩
    | ok base =>
      obtain ⟨size', engine, absent⟩ := opened
      have opened : WorkedAt base context.engine second.engine := by
        rw [engine]
        exact ⟨⟨rfl, rfl, rfl⟩, .refl sound.vbars, NatMap.erase_insert _ _ _⟩
      dsimp only
      rw [ensures_run_bind, ensures_run_lift]
      apply (grow_works sound₂ fun size _ => sizes size).mono
      intro grown third outcome
      obtain ⟨sound₃, grew⟩ := outcome
      have worked := opened.trans grew
      cases grown with
      | ok _ =>
        dsimp only
        rw [ensures_run_bind, ensures_run_lift, ensures_log, ensures_run_pure]
        exact ⟨sound₃.log _, worked, absent⟩
      | error cause =>
        dsimp only
        rw [ensures_run_bind, ensures_run_lift, ensures_log]
        dsimp only
        rw [ensures_run_bind]
        apply (destroy_discards (sound₃.log _)).mono
        intro destroyed last outcome
        obtain ⟨sound₄, discarded⟩ := outcome
        have done := worked.trans (discarded.worked sound₃.vbars)
        have settled : Undisturbed context.engine last.engine ∧
            (ledger.distinct → Reclaimed context.engine last.engine) := by
          refine ⟨done.undisturbed, fun distinct => ⟨done.toSameSetting, ?_, done.vbars⟩⟩
          rw [discarded.buffers]
          exact worked.others.trans (NatMap.erase_of_none (absent distinct))
        cases destroyed with
        | ok _ => exact ⟨sound₄, settled⟩
        | error other => exact ⟨sound₄, settled⟩

theorem allocate_spec {size : Nat} {device : Int} (sound : Sound ledger context)
    (allowed : ledger.aborts .overflow) (sizes : ∀ size, ledger.sizes size) :
    Ensures ledger.aborts (allocate size device).run context (fun _ after =>
      Sound ledger after ∧ Undisturbed context.engine after.engine) := by
  apply (allocate_works sound allowed sizes).mono
  intro result after outcome
  obtain ⟨done, worked⟩ := outcome
  cases result with
  | ok base => exact ⟨done, worked.1.undisturbed⟩
  | error cause => exact ⟨done, worked.1⟩

theorem free_discards {base : Nat} (sound : Sound ledger context) :
    Ensures ledger.aborts (free base) context (fun _ after => Sound ledger after ∧
      (after.engine = context.engine ∨ Discarded base context.engine after.engine)) := by
  unfold free
  split
  · exact ⟨sound, .inl rfl⟩
  · rw [ensures_bind]
    apply (destroy_discards sound).mono
    intro result after outcome
    obtain ⟨done, discarded⟩ := outcome
    cases result with
    | ok _ => exact ⟨done.log _, .inr discarded⟩
    | error cause => exact ⟨done.log _, .inr discarded⟩

theorem free_spec {base : Nat} (sound : Sound ledger context) :
    Ensures ledger.aborts (free base) context (fun _ after =>
      Sound ledger after ∧ Undisturbed context.engine after.engine) :=
  (free_discards sound).mono fun _ _ ⟨done, discarded⟩ =>
    ⟨done, discarded.elim .of_eq Discarded.undisturbed⟩

end VramOvercommit.Buffers
