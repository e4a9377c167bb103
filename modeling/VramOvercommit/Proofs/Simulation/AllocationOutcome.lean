import VramOvercommit.Proofs.BufferShape
import VramOvercommit.Proofs.Simulation.Accounts
import VramOvercommit.Proofs.Simulation.QuietLedger

set_option autoImplicit false

/-!
When an allocation gets its memory. The shortage that is predicted may be anything, so what is
reclaimed ahead of the chunks may be too little or too much. But a chunk that finds no room reclaims
a page, and a page is at least a chunk. So a request fails only if reclaiming all that could be
reclaimed would not do.
-/

namespace VramOvercommit

open Simulation

/-- A page of a valid configuration is at least a chunk. -/
theorem Config.chunk_le_page {config : Config} (valid : config.validate = .ok ()) :
    config.vramChunkSize ≤ config.vbarPageSize := by
  have positive := (Config.validate_ok valid).1
  unfold Config.validate at valid
  split at valid
  · cases valid
  · split at valid
    · cases valid
    · rename_i whole
      exact Nat.le_of_dvd positive (Nat.dvd_of_mod_eq_zero (Classical.not_not.mp whole))

namespace Buffers

/-- What is free and what reclaiming could free cover a number of bytes. -/
def Covered (around : Surroundings) (pageSize : Nat) (vbars : PriorityList Vbar)
    (rest : List Holding) (bytes : Nat) : Prop :=
  around.inUse (heldBytes (vbarHoldings vbars pageSize ++ rest)) + bytes ≤
    around.capacity + totalReclaimable vbars * pageSize

/-- All that is mapped lies below an address. -/
def Below (around : Surroundings) (pageSize : Nat) (vbars : PriorityList Vbar)
    (rest : List Holding) (start : Nat) : Prop :=
  ∀ entry ∈ around.strays ++ (vbarHoldings vbars pageSize ++ rest).map Holding.mapping,
    entry.1 < start ∧ entry.1 + entry.2.size ≤ start

variable {around : Surroundings} {vbars after : PriorityList Vbar} {rest : List Holding}
  {pageSize bytes start : Nat} {buffer : Buffer} {chunk : Chunk}

theorem covered_perm_iff {rest' : List Holding} (same : rest.Perm rest') :
    Covered around pageSize vbars rest bytes ↔ Covered around pageSize vbars rest' bytes := by
  unfold Covered
  rw [heldBytes_perm (same.append_left _)]

theorem Below.perm {rest' : List Holding} (below : Below around pageSize vbars rest start)
    (same : rest.Perm rest') : Below around pageSize vbars rest' start := fun entry inside =>
  below entry ((((same.append_left _).map Holding.mapping).append_left _).mem_iff.mpr inside)

/-- Reclaiming turns what could be freed into what is free. -/
theorem covered_shrunk_iff (shrunk : Shrunk vbars after) (sound : SoundVbars vbars)
    (sound' : SoundVbars after) :
    Covered around pageSize after rest bytes ↔ Covered around pageSize vbars rest bytes := by
  have total := congrArg (· * pageSize) (shrunk.conserves sound sound')
  simp only [Nat.add_mul] at total
  unfold Covered Surroundings.inUse
  simp only [heldBytes_append, sound.heldBytes, sound'.heldBytes]
  omega

/-- A chunk takes up as much as there is less to back. -/
theorem covered_addChunk_iff {target : Nat} (tidy : buffer.Tidy)
    (size_le : chunk.size ≤ target - buffer.allocated) :
    Covered around pageSize vbars ((buffer.addChunk chunk).holdings ++ rest)
        (target - (buffer.addChunk chunk).allocated) ↔
      Covered around pageSize vbars (buffer.holdings ++ rest) (target - buffer.allocated) := by
  have allocated : (buffer.addChunk chunk).allocated = buffer.allocated + chunk.size := rfl
  unfold Covered Surroundings.inUse
  simp only [tidy.holdings_addChunk, heldBytes_append, heldBytes_cons, heldBytes_nil, allocated]
  omega

theorem Below.not_overlaps (below : Below around pageSize vbars rest start) {size : Nat} :
    ∀ entry ∈ around.strays ++ (vbarHoldings vbars pageSize ++ rest).map Holding.mapping,
      ¬ Device.Overlaps entry start size := by
  rintro entry inside ⟨-, starts | reaches⟩
  · exact Nat.not_le_of_lt (below entry inside).1 starts
  · exact Nat.not_le_of_lt reaches (below entry inside).2

theorem Below.shrunk (below : Below around pageSize vbars rest start) (shrunk : Shrunk vbars after)
    (sound : SoundVbars vbars) (sound' : SoundVbars after) :
    Below around pageSize after rest start := by
  intro entry inside
  apply below
  rcases List.mem_append.mp inside with stray | mapped
  · exact List.mem_append_left _ stray
  · obtain ⟨holding, held, rfl⟩ := List.mem_map.mp mapped
    refine List.mem_append_right _ (List.mem_map_of_mem ?_)
    rcases List.mem_append.mp held with ofVbar | other
    · exact List.mem_append_left _ (shrunk.mem_vbarHoldings sound.linked sound'.linked ofVbar)
    · exact List.mem_append_right _ other

/-- A chunk that is added at the start lies below the next one. -/
theorem Below.addChunk (below : Below around pageSize vbars (buffer.holdings ++ rest)
      (buffer.base + buffer.allocated)) (tidy : buffer.Tidy) (positive : 0 < chunk.size) :
    Below around pageSize vbars ((buffer.addChunk chunk).holdings ++ rest)
      ((buffer.addChunk chunk).base + (buffer.addChunk chunk).allocated) := by
  have ends : (buffer.addChunk chunk).base + (buffer.addChunk chunk).allocated =
      buffer.base + buffer.allocated + chunk.size := (Nat.add_assoc _ _ _).symm
  intro entry inside
  rw [ends]
  have known : entry = (buffer.base + buffer.allocated, ⟨chunk.size, chunk.backing⟩) ∨
      entry ∈ around.strays ++ (vbarHoldings vbars pageSize ++
        (buffer.holdings ++ rest)).map Holding.mapping := by
    rw [tidy.holdings_addChunk] at inside
    simp only [List.mem_append, List.map_append, List.map_cons, List.map_nil,
      List.mem_singleton] at inside ⊢
    change _ ∨ _ ∨ (_ ∨ entry = (buffer.base + buffer.allocated, ⟨chunk.size, chunk.backing⟩)) ∨ _
      at inside
    tauto
  rcases known with rfl | old
  · dsimp only
    omega
  · have before := below entry old
    omega

section Unbacked

variable {σ : Type} [Host σ] {facade : Facade σ} {config : Config} {vaddr size : Nat}

/-- A chunk gets no memory only if all that could be reclaimed would not do. -/
theorem Unbacked.not_covered
    (unbacked : Unbacked (facade.quietBooks around) config rest vaddr size vbars after)
    (sound : SoundVbars vbars) (valid : config.validate = .ok ())
    (fits : around.inUse (heldBytes (vbarHoldings vbars config.vbarPageSize ++ rest)) ≤
      around.capacity)
    (below : Below around config.vbarPageSize vbars rest vaddr)
    (size_le : size ≤ config.vramChunkSize) (bytes_le : size ≤ bytes) :
    ¬ Covered around config.vbarPageSize vbars rest bytes := by
  cases unbacked with
  | failed refused =>
    rcases refused with ⟨impossible, -⟩ | ⟨entry, inside, overlaps⟩
    · cases impossible
    · exact absurd overlaps (below.not_overlaps entry inside)
  | exhausted shrunk sound' evicted refused =>
    rcases refused with ⟨-, full⟩ | ⟨entry, inside, overlaps⟩
    · have chunk_le := Config.chunk_le_page valid
      have positive := (Config.validate_ok valid).2.1
      have some_page : 0 < blocksFor config.vramChunkSize config.vbarPageSize := by
        by_contra none
        have covered := le_blocksFor_mul config.vramChunkSize (Config.validate_ok valid).1
        rw [Nat.eq_zero_of_not_pos none] at covered
        omega
      rw [← covered_shrunk_iff shrunk sound sound']
      rcases evicted with freed | nothing
      · -- a page was freed, which has room for the chunk
        have room := Nat.mul_le_mul_right config.vbarPageSize
          (Nat.le_trans (Nat.add_le_add_left some_page _) freed)
        rw [Nat.add_one_mul] at room
        unfold Surroundings.inUse at full fits
        rw [heldBytes_append, sound'.heldBytes] at full
        rw [heldBytes_append, sound.heldBytes] at fits
        omega
      · unfold Covered
        rw [nothing]
        unfold Surroundings.inUse at full ⊢
        omega
    · exact absurd overlaps ((below.shrunk shrunk sound sound').not_overlaps entry inside)

end Unbacked

/-! ## Growing -/

section Growing

variable {σ : Type} [Host σ] {facade : Facade σ} {context : Context σ} {regions : List Region}

theorem quiet_fits (kept : VbarBooks (facade.quietBooks around) context regions rest) :
    around.inUse (heldBytes (vbarHoldings context.engine.vbars context.engine.config.vbarPageSize ++
      rest)) ≤ around.capacity := by
  have books : Bench.QuietBooks around (facade.bench context.host) regions none _ :=
    kept.books.agrees
  have fits := books.fits
  rwa [Option.toList_none, List.map_nil, List.sum_nil, Nat.zero_add] at fits

/-- Where a page may be asked for, a chunk may be. -/
theorem quiet_sizes (valid : context.engine.config.validate = .ok ())
    (allowed : (facade.quietBooks around).sizes context.engine.config.vbarPageSize) :
    ∀ size ≤ context.engine.config.vramChunkSize, (facade.quietBooks around).sizes size := by
  intro size size_le
  have chunk_le := Config.chunk_le_page valid
  change around.capacity + context.engine.config.vbarPageSize < wordLimit at allowed
  change around.capacity + size < wordLimit
  omega

/-- All chunks can be had exactly if the bytes that are left to back are covered. -/
theorem addChunks_served {target count : Nat}
    (kept : VbarBooks (facade.quietBooks around) context regions (buffer.holdings ++ rest))
    (valid : context.engine.config.validate = .ok ())
    (growing : Growing regions context.engine.config.vramChunkSize target count buffer)
    (below : Below around context.engine.config.vbarPageSize context.engine.vbars
      (buffer.holdings ++ rest) (buffer.base + buffer.allocated)) :
    Ensures (fun _ => False) (addChunks target count buffer) context (fun result _ =>
      result.2.isOk = true ↔ Covered around context.engine.config.vbarPageSize
        context.engine.vbars (buffer.holdings ++ rest) (target - buffer.allocated)) := by
  -- whether the rest is covered changes neither when pages are reclaimed nor when a chunk is added
  induction count generalizing buffer context with
  | zero =>
    have fits := quiet_fits kept
    have covered := growing.covered
    refine ⟨fun _ => ?_, fun _ => rfl⟩
    unfold Covered
    omega
  | succ count ih =>
    unfold addChunks
    rw [ensures_bind, EngineM.ensures_engine]
    dsimp only
    rw [ensures_bind]
    apply EngineM.ensures_word (growing.start_lt kept.books)
    intro _
    rw [ensures_bind]
    apply (backChunk_spec kept (quiet_sizes valid kept.allowed _ (Nat.min_le_right _ _))
      growing.size_pos growing.inside).mono
    intro result middle outcome
    obtain ⟨reclaimed, outcome⟩ := outcome
    cases result with
    | error cause =>
      have uncovered := outcome.2.not_covered kept.sound valid (quiet_fits kept) below
        (Nat.min_le_right _ _) (Nat.min_le_left _ _)
      exact ⟨fun ok => absurd ok Bool.false_ne_true, fun covered => absurd covered uncovered⟩
    | ok memory =>
      dsimp only at outcome ⊢
      rw [ensures_bind, EngineM.ensures_log]
      have config := reclaimed.config
      have kept' : VbarBooks (facade.quietBooks around) middle regions
        ((buffer.addChunk ⟨_, memory⟩).holdings ++ rest) := addChunk_books growing.tidy outcome
      have below' : Below around context.engine.config.vbarPageSize middle.engine.vbars
          ((buffer.addChunk ⟨_, memory⟩).holdings ++ rest) _ :=
        (below.shrunk reclaimed.vbars kept.sound outcome.sound).addChunk growing.tidy
          growing.size_pos
      refine (ih (kept'.log _) (by rwa [config]) (by rw [config]; exact growing.addChunk memory)
        (by rw [config]; exact below')).mono fun result last served => ?_
      rw [served]
      dsimp only
      rw [config]
      exact (covered_addChunk_iff growing.tidy (Nat.min_le_left _ _)).trans
        (covered_shrunk_iff reclaimed.vbars kept.sound outcome.sound)

/-- A buffer behind all that is mapped grows exactly if the bytes that it lacks are covered and the
host holds its chunks. What is reclaimed up front makes no difference. -/
theorem grow_served {base required target : Nat} (sound : Sound (facade.quietBooks around) context)
    (found : context.engine.buffers.get? base = some buffer)
    (short : buffer.allocated < required) (within : required ≤ buffer.maxSize)
    (aim : target = buffer.growTarget context.engine.config.vramChunkSize required)
    (holds : hostHolds (buffer.chunks.size +
      blocksFor (target - buffer.allocated) context.engine.config.vramChunkSize)
      Buffer.chunkEntrySize = true)
    (below : Below around context.engine.config.vbarPageSize context.engine.vbars
      (bufferHoldings context.engine.buffers) (buffer.base + buffer.allocated)) :
    Ensures (fun _ => False) (grow base required).run context (fun result _ =>
      Starved σ result ∨ (result.isOk = true ↔ Covered around context.engine.config.vbarPageSize
        context.engine.vbars (bufferHoldings context.engine.buffers)
        (target - buffer.allocated))) := by
  subst aim
  unfold grow
  rw [ensures_run_bind, Attempt.ensures_buffer, found]
  dsimp only
  rw [if_neg (Nat.not_lt.mpr within), if_neg (Nat.not_le.mpr short), ensures_run_bind,
    ensures_run_lift, EngineM.ensures_engine]
  dsimp only
  rw [ensures_run_bind, ensures_run_lift, EngineM.ensures_allocatesBeside]
  dsimp only
  have asked := sound.roomBeside .chunks buffer.chunks.size
    (blocksFor (buffer.growTarget context.engine.config.vramChunkSize required - buffer.allocated)
      context.engine.config.vramChunkSize) Buffer.chunkEntrySize
  split
  · rw [ensures_run_mk]
    refine reclaimAndAdd_spec asked found (growTarget_le ..) rfl rfl
      fun {middle} reclaimed kept growing => ?_
    have config := reclaimed.config
    have apart := (perm_bufferHoldings found).1
    have below' := (below.perm apart).shrunk reclaimed.vbars sound.vbars kept.sound
    refine (addChunks_served kept (by rw [config]; exact sound.valid) growing
      (by rw [config]; exact below')).mono fun outcome last served => ?_
    rw [config, covered_shrunk_iff reclaimed.vbars sound.vbars kept.sound,
      ← covered_perm_iff apart] at served
    exact .inr served
  · rename_i refused
    rw [ensures_run_throw]
    refine .inl ⟨rfl, fun ample => refused ?_⟩
    rw [ample.roomBeside_eq]
    exact holds

end Growing

/-! ## Allocating -/

section Allocating

variable {σ : Type} [Host σ] {facade : Facade σ} {context : Context σ} {size rounded : Nat}
  {device : Int}

theorem roundToUnit_served {aborts : Abort → Prop} {post : Except Error Nat → Context σ → Prop}
    (round : roundUp? size context.engine.config.minAllocSize = some rounded)
    (done : post (.ok rounded) context) : Ensures aborts (roundToUnit size).run context post := by
  unfold roundToUnit
  rw [ensures_run_bind, ensures_run_lift, EngineM.ensures_engine]
  dsimp only
  rw [round]
  exact done

/-- A size in whole units stays as it is. -/
theorem roundUp?_rounded {unit : Nat} (positive : 0 < unit)
    (round : roundUp? size unit = some rounded) : roundUp? rounded unit = some rounded := by
  obtain ⟨rfl, small⟩ := roundUp?_eq_some_iff.mp round
  exact roundUp?_eq_some_iff.mpr ⟨by rw [blocksFor_mul _ positive], small⟩

/-- A new buffer gets all of its range exactly if that is covered and the host holds its chunks. -/
theorem grow_new_served {base : Nat} (sound : Sound (facade.quietBooks around) context)
    (found : context.engine.buffers.get? base = some { base, device, maxSize := size })
    (positive : 0 < size)
    (holds : hostHolds (blocksFor size context.engine.config.vramChunkSize)
      Buffer.chunkEntrySize = true)
    (below : Below around context.engine.config.vbarPageSize context.engine.vbars
      (bufferHoldings context.engine.buffers) base) :
    Ensures (fun _ => False) (grow base size).run context (fun result _ =>
      Starved σ result ∨ (result.isOk = true ↔ Covered around context.engine.config.vbarPageSize
        context.engine.vbars (bufferHoldings context.engine.buffers) size)) := by
  have aim := growTarget_maxSize { base, device, maxSize := size }
    (Config.validate_ok sound.valid).2.1
  rw [← Nat.zero_add (blocksFor _ _)] at holds
  exact grow_served sound found positive (Nat.le_refl _) aim.symm holds below

/-- A buffer whose range can be reserved lies behind all that is mapped, and holds nothing yet. It is
refused only for lack of memory of the host. -/
theorem create_served (sound : Sound (facade.quietBooks around) context)
    (round : roundUp? size context.engine.config.minAllocSize = some size)
    (possible : (facade.bench context.host).device.CanReserve size) :
    Ensures (fun _ => False) (create device size).run context (fun result after =>
      match result with
      | .ok base => Sound (facade.quietBooks around) after ∧
          after.engine.config = context.engine.config ∧
          after.engine.vbars = context.engine.vbars ∧
          after.engine.buffers.get? base = some { base, device, maxSize := size } ∧
          (bufferHoldings context.engine.buffers).Perm (bufferHoldings after.engine.buffers) ∧
          Below around context.engine.config.vbarPageSize context.engine.vbars
            (bufferHoldings context.engine.buffers) base
      | .error _ => Starved σ result) := by
  have asked := sound.room .buffers 1
  have known : Bench.QuietBooks around (facade.bench _) _ none _ := asked.books.agrees
  rw [← (facade.room_alike .buffers 1 context.host).device] at possible
  unfold create
  rw [ensures_run_bind]
  apply roundToUnit_served round
  dsimp only
  rw [ensures_run_bind, ensures_run_lift, EngineM.ensures_allocates]
  dsimp only
  split
  · rw [ensures_run_bind, ensures_run_lift]
    unfold Memory.reserve
    rw [EngineM.ensures_call]
    have other : DriverCall.reserve size ≠ .memoryInfo := by simp
    apply (facade.ensures_call other (known.reserve possible)).mono
    rintro answer host ⟨base, rfl, agrees, distinct, below⟩
    dsimp only
    rw [ensures_run_bind, ensures_run_lift, EngineM.ensures_putBuffer, ensures_run_pure]
    have fresh : context.engine.buffers.get? base = none := absent_of_apart sound distinct
    have put := (perm_bufferValues_insert context.engine.buffers base
      { base, device, maxSize := size }).flatMap_right Buffer.holdings
    rw [NatMap.erase_of_none fresh, List.flatMap_cons] at put
    refine ⟨insert_fresh asked device (asked.books.host agrees) fun _ => distinct, rfl, rfl, ?_,
      put.symm, below⟩
    rw [NatMap.get?_insert, if_pos rfl]
  · rename_i refused
    rw [ensures_run_throw]
    exact ⟨rfl, fun ample => refused (ample.room ..)⟩

/-- An allocation succeeds exactly if its size in whole units is covered and the host has memory for
its buffer. -/
theorem allocate_served (sound : Sound (facade.quietBooks around) context)
    (round : roundUp? size context.engine.config.minAllocSize = some rounded)
    (positive : 0 < rounded)
    (possible : (facade.bench context.host).device.CanReserve rounded)
    (holds : hostHolds (blocksFor rounded context.engine.config.vramChunkSize)
      Buffer.chunkEntrySize = true) :
    Ensures (fun _ => False) (allocate size device).run context (fun result _ =>
      Starved σ result ∨ (result.isOk = true ↔ Covered around context.engine.config.vbarPageSize
        context.engine.vbars (bufferHoldings context.engine.buffers) rounded)) := by
  have sameDevice := (facade.log (.allocationStarted size device) context.host).device
  rw [← sameDevice] at possible
  unfold allocate
  rw [ensures_run_bind, ensures_run_lift, EngineM.ensures_log]
  dsimp only
  rw [ensures_run_bind]
  apply roundToUnit_served (by exact round)
  dsimp only
  rw [ensures_run_bind]
  apply (create_served (sound.log _)
    (roundUp?_rounded (Config.validate_ok sound.valid).2.2 round) possible).mono
  intro created second outcome
  cases created with
  | error cause => exact .inl outcome
  | ok base =>
    obtain ⟨sound₂, config, vbars, found, unchanged, below⟩ := outcome
    have below₂ := below.perm unchanged
    dsimp only at config vbars unchanged below₂ ⊢
    rw [← config] at holds
    rw [← config, ← vbars] at below₂
    have sizes := quiet_sizes sound₂.valid sound₂.allowed
    have grown := grow_new_served sound₂ found positive holds below₂
    rw [config, vbars, ← covered_perm_iff unchanged] at grown
    rw [ensures_run_bind, ensures_run_lift]
    refine (((grow_spec sound₂ sizes).and grown).and (grow_fills sound₂ sizes found
      (Buffer.shaped_fresh ..) (Nat.le_refl _) positive)).mono ?_
    rintro result third ⟨⟨⟨sound₃, -⟩, served⟩, buffer, live, -⟩
    cases result with
    | ok _ =>
      dsimp only
      rw [ensures_run_bind, ensures_run_lift, EngineM.ensures_log, ensures_run_pure]
      exact served.imp_left fun starved => starved.map fun _ => base
    | error cause =>
      dsimp only
      rw [ensures_run_bind, ensures_run_lift, EngineM.ensures_log]
      dsimp only
      rw [ensures_run_bind]
      apply ((destroy_spec (sound₃.log _)).also (destroy_live live)).mono
      rintro destroyed last ⟨-, rfl⟩
      exact served.imp_left fun starved => starved.map fun _ => base

end Allocating

end Buffers

/-! ## Requests -/

section Requests

variable {σ : Type} [Host σ] {facade : Facade σ} {context : Context σ} {size rounded : Nat}

/-- A request in a state in which no call that handles memory is to fail and the device is not
overcommitted, for a size whose address range and whose table of chunks can be had. -/
structure Requestable (facade : Facade σ) (context : Context σ) (size rounded : Nat) : Prop where
  quiet : troubles (facade.bench context.host).failures = []
  injected : (facade.bench context.host).device.injected = none
  fits : (facade.bench context.host).device.physicalInUse +
    (facade.bench context.host).device.foreignUsage ≤ (facade.bench context.host).device.capacity
  small : (facade.bench context.host).device.capacity + context.engine.config.vbarPageSize <
    wordLimit
  round : roundUp? size context.engine.config.minAllocSize = some rounded
  positive : 0 < rounded
  reservable : (facade.bench context.host).device.CanReserve rounded
  holds : hostHolds (blocksFor rounded context.engine.config.vramChunkSize)
    Buffer.chunkEntrySize = true

instance (facade : Facade σ) (context : Context σ) (size rounded : Nat) :
    Decidable (Requestable facade context size rounded) :=
  decidable_of_iff
    (troubles (facade.bench context.host).failures = [] ∧
      (facade.bench context.host).device.injected = none ∧
      (facade.bench context.host).device.physicalInUse +
        (facade.bench context.host).device.foreignUsage ≤
          (facade.bench context.host).device.capacity ∧
      (facade.bench context.host).device.capacity + context.engine.config.vbarPageSize <
        wordLimit ∧
      roundUp? size context.engine.config.minAllocSize = some rounded ∧ 0 < rounded ∧
      (facade.bench context.host).device.CanReserve rounded ∧
      hostHolds (blocksFor rounded context.engine.config.vramChunkSize)
        Buffer.chunkEntrySize = true)
    ⟨fun ⟨quiet, injected, fits, small, round, positive, reservable, holds⟩ =>
      ⟨quiet, injected, fits, small, round, positive, reservable, holds⟩,
      fun ⟨quiet, injected, fits, small, round, positive, reservable, holds⟩ =>
        ⟨quiet, injected, fits, small, round, positive, reservable, holds⟩⟩

/-- While nothing that handles memory is made to fail, the books are those of a bench on which
nothing of the kind fails. -/
theorem Simulation.Facade.sound_quiet {kept : Nat} (sound : Sound (facade.books kept) context)
    (quiet : troubles (facade.bench context.host).failures = [])
    (injected : (facade.bench context.host).device.injected = none)
    (fits : (facade.bench context.host).device.physicalInUse +
      (facade.bench context.host).device.foreignUsage ≤
        (facade.bench context.host).device.capacity)
    (small : (facade.bench context.host).device.capacity + context.engine.config.vbarPageSize <
      wordLimit) :
    ∃ around, around.capacity = (facade.bench context.host).device.capacity ∧
      Sound (facade.quietBooks around) context := by
  have books : (facade.bench context.host).Books kept context.engine.regions none
    context.engine.holdings := sound.books.agrees
  obtain ⟨around, capacity, known⟩ := books.quiet quiet injected fits
    (Nat.lt_of_le_of_lt (Nat.le_add_right _ _) small)
  rw [← capacity] at small
  exact ⟨around, capacity, sound.vbars, sound.buffers, sound.valid, small, known,
    sound.books.accounted.held_le, sound.books.accounted.held_eq, sound.books.accounted.word⟩

theorem Requestable.quietly {kept : Nat} (requestable : Requestable facade context size rounded)
    (sound : Sound (facade.books kept) context) :
    ∃ around, around.capacity = (facade.bench context.host).device.capacity ∧
      Sound (facade.quietBooks around) context :=
  facade.sound_quiet sound requestable.quiet requestable.injected requestable.fits
    requestable.small

/-- An allocation gives up only where reclaiming all that can be reclaimed would not help, whatever
the host says of the memory that is free and of the platform: it always comes to an end, and unless
the host refuses memory for the buffer, it succeeds exactly if its size in whole units fits the device
beside what others use and what is in use, less the unpinned resident pages of all VBARs at or above
their limits. -/
theorem allocate_succeeds_iff {device : Int} {config : Config} {host host' : σ} {engine : Engine}
    (unused : (facade.bench host).device.Unused)
    (opened : Engine.create device config host = .ok (.ok engine) host')
    (run : Run facade.Adjusted anyOperation ⟨engine, host'⟩ context)
    (requestable : Requestable facade context size rounded) (owner : Int) :
    ∃ outcome after, (Operation.allocate size owner).run context = .ok outcome after ∧
      (Starved σ outcome ∨
        ((∃ pointer, outcome = .ok (.address pointer)) ↔
          (rounded : Int) + (facade.bench context.host).device.foreignUsage +
              (facade.bench context.host).device.physicalInUse -
              context.engine.config.vbarPageSize * totalReclaimable context.engine.vbars ≤
            (facade.bench context.host).device.capacity)) := by
  obtain ⟨kept, sound⟩ := facade.accounts_of_run run ⟨_, facade.sound_opened unused opened⟩
  obtain ⟨around, capacity, sound⟩ := requestable.quietly sound
  have known : Bench.QuietBooks around (facade.bench context.host) context.engine.regions none
    context.engine.holdings := sound.books.agrees
  have used := known.physicalInUse
  have covered_iff : Buffers.Covered around context.engine.config.vbarPageSize
        context.engine.vbars (bufferHoldings context.engine.buffers) rounded ↔
      (rounded : Int) + (facade.bench context.host).device.foreignUsage +
          (facade.bench context.host).device.physicalInUse -
          context.engine.config.vbarPageSize * totalReclaimable context.engine.vbars ≤
        (facade.bench context.host).device.capacity := by
    unfold Buffers.Covered
    change around.inUse (heldBytes context.engine.holdings) + rounded ≤ _ ↔ _
    rw [← used, capacity, Nat.mul_comm]
    omega
  rw [← covered_iff]
  apply Ensures.exists_ok
  change Ensures _ (do
    let pointer ← Buffers.allocate size owner
    return Outcome.address pointer : Attempt σ Outcome).run context _
  rw [ensures_run_bind]
  apply (Buffers.allocate_served sound requestable.round requestable.positive
    requestable.reservable requestable.holds).mono
  intro result after served
  cases result with
  | ok pointer =>
    refine served.imp (·.map Outcome.address) fun served => ?_
    exact ⟨fun _ => served.mp rfl, fun _ => ⟨pointer, rfl⟩⟩
  | error cause =>
    refine served.imp (·.map Outcome.address) fun served =>
      ⟨fun ⟨pointer, ok⟩ => ?_, fun covered => ?_⟩
    · cases ok
    · exact absurd (served.mpr covered) Bool.false_ne_true

end Requests

/-- Two unpinned pages of two bytes fill a device whose host says at times that much is free and at
times nothing: all of it can be had for a buffer, and not a byte more. -/
theorem allocate_succeeds_by_reclaiming :
    ∃ context : Context Rumours, context.host.bench.device.physicalInUse = 4 ∧
      (∃ pointer after,
        (Operation.allocate 4 0).run context = .ok (.ok (.address pointer)) after) ∧
      ∃ outcome after, (Operation.allocate 5 0).run context = .ok outcome after ∧
        ∀ pointer, outcome ≠ .ok (.address pointer) := by
  have reached : reaches 0 { Config.bytewise with vbarPageSize := 2 }
      { bench := { device := { capacity := 4 } }
        infos := fun asked => if asked % 2 = 0 then .ok ⟨9, 9⟩ else .error (.failed 1)
        moments := id
        readings := fun asked => if asked % 3 = 0 then none else some ⟨0, asked⟩ : Rumours }
      anyOperation [.allocateVbar 4 0, .fault ⟨0, 0⟩ 0 4, .unpin ⟨0, 0⟩ 0 4]
      (fun context => context.host.bench.device.physicalInUse = 4 ∧
        context.host.bench.device.capacity = 4 ∧ context.host.bench.device.foreignUsage = 0 ∧
        context.engine.config.vbarPageSize = 2 ∧ totalReclaimable context.engine.vbars = 2 ∧
        Requestable Rumours.facade context 4 4 ∧ Requestable Rumours.facade context 5 5) =
      true := by
    decide +kernel
  obtain ⟨engine, host, context, opened, run, passed⟩ :=
    exists_run_of_reaches Rumours.facade.Adjusted reached
  obtain ⟨used, capacity, foreign, pageSize, reclaimable, whole, more⟩ := of_decide_eq_true passed
  have unused : Device.Unused { capacity := 4 } := ⟨rfl, rfl, rfl, rfl, rfl⟩
  have ample : Host.Ample Rumours := fun _ _ _ => rfl
  obtain ⟨outcome, after, ran, served⟩ := allocate_succeeds_iff unused opened run whole 0
  obtain ⟨outcome', after', ran', served'⟩ := allocate_succeeds_iff unused opened run more 0
  have succeeds := served.resolve_left fun starved => starved.2 ample
  have succeeds' := served'.resolve_left fun starved => starved.2 ample
  change _ ↔ (_ : Int) + context.host.bench.device.foreignUsage +
    context.host.bench.device.physicalInUse - _ ≤ context.host.bench.device.capacity
    at succeeds succeeds'
  rw [used, capacity, foreign, pageSize, reclaimable] at succeeds succeeds'
  obtain ⟨pointer, rfl⟩ := succeeds.mpr (by decide)
  refine ⟨context, used, ⟨pointer, after, ran⟩, outcome', after', ran', fun pointer ok => ?_⟩
  exact absurd (succeeds'.mp ⟨pointer, ok⟩) (by decide)

end VramOvercommit
