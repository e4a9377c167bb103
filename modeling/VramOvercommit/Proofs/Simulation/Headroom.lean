import VramOvercommit.Proofs.AnyDriver
import VramOvercommit.Proofs.BudgetHistory
import VramOvercommit.Proofs.BufferShape
import VramOvercommit.Proofs.Simulation.AllocationOutcome
import VramOvercommit.Proofs.Simulation.PagedLedger

set_option autoImplicit false

/-!
What an allocation reclaims. A shortage that covers the whole request is reclaimed in whole pages
before the first chunk is backed, so no chunk reclaims a page of its own: either every chunk finds
room, or there is nothing left to reclaim. On a device whose driver tells how much of it is free the
headroom is part of that shortage.
-/

namespace VramOvercommit

open Simulation
open EngineM

namespace Eviction

/-- As many pages were freed as were wanted, or all that could be. -/
structure Frees (before after : PriorityList Vbar) (wanted : Nat) : Prop where
  freed : totalResident after + min wanted (totalReclaimable before) = totalResident before
  left : wanted ≤ totalReclaimable before ∨ totalReclaimable after = 0

section Frees

variable {before middle after : PriorityList Vbar} {wanted : Nat}

/-- Once nothing is left to reclaim, nothing is reclaimed any more. -/
theorem Frees.shrunk (frees : Frees before middle wanted) (shrunk : Shrunk middle after)
    (sound : SoundVbars middle) (sound' : SoundVbars after)
    (short : ¬ wanted ≤ totalReclaimable before) : Frees before after wanted := by
  have exhausted := frees.left.resolve_left short
  have totals := shrunk.totals sound sound'
  rw [exhausted] at totals
  refine ⟨?_, .inr (Nat.le_zero.mp totals.2)⟩
  have freed := frees.freed
  omega

end Frees

variable {σ : Type} [Host σ] {ledger : Ledger σ} {context : Context σ} {regions : List Region}
  {rest : List Holding}

theorem evictGlobal_frees {size : Nat} (kept : VbarBooks ledger context regions rest) :
    Ensures ledger.stops (evictGlobal size) context (fun _ after =>
      Reclaimed context.engine after.engine ∧ VbarBooks ledger after regions rest ∧
        Frees context.engine.vbars after.engine.vbars
          (blocksFor size context.engine.config.vbarPageSize)) := by
  apply (evictGlobal_spec kept).mono
  intro _ after outcome
  obtain ⟨reclaimed, kept', enough, missing, -, shrunk⟩ := outcome
  have totals := reclaimed.vbars.totals kept.sound kept'.sound
  have total := shrunk.total
  have fewer := shrunk.fewer
  exact ⟨reclaimed, kept', by omega, by omega⟩

end Eviction

namespace Buffers

open Eviction (Frees)

/-- What is held leaves room for a number of bytes. -/
def Roomy (around : Surroundings) (holdings : List Holding) (bytes : Nat) : Prop :=
  around.inUse (heldBytes holdings) + bytes ≤ around.capacity

section Roomy

variable {around : Surroundings} {holdings holdings' : List Holding} {bytes : Nat}

theorem Roomy.perm (roomy : Roomy around holdings bytes) (same : holdings.Perm holdings') :
    Roomy around holdings' bytes := by
  unfold Roomy at *
  rwa [← heldBytes_perm same]

theorem Roomy.less {fewer : Nat} (roomy : Roomy around holdings bytes) (le : fewer ≤ bytes) :
    Roomy around holdings fewer := Nat.le_trans (Nat.add_le_add_left le _) roomy

/-- A chunk that is added leaves room for what is still missing. -/
theorem Roomy.addChunk {buffer : Buffer} {target size : Nat} {front rest : List Holding}
    (roomy : Roomy around (front ++ (buffer.holdings ++ rest)) (target - buffer.allocated))
    (tidy : buffer.Tidy) (memory : PhysicalHandle) (le : size ≤ target - buffer.allocated) :
    Roomy around (front ++ ((buffer.addChunk ⟨size, memory⟩).holdings ++ rest))
      (target - (buffer.addChunk ⟨size, memory⟩).allocated) := by
  have allocated : (buffer.addChunk ⟨size, memory⟩).allocated = buffer.allocated + size := rfl
  unfold Roomy Surroundings.inUse at *
  simp only [tidy.holdings_addChunk, heldBytes_append, heldBytes_cons, heldBytes_nil,
    allocated] at roomy ⊢
  omega

end Roomy

/-- Pages that cover what is lacking leave room once they are freed. -/
theorem roomy_of_frees {around : Surroundings} {before after : PriorityList Vbar}
    {wanted pageSize bytes : Nat} {rest : List Holding}
    (frees : Frees before after wanted) (sound : SoundVbars before) (sound' : SoundVbars after)
    (enough : wanted ≤ totalReclaimable before)
    (covers : around.inUse (heldBytes (vbarHoldings before pageSize ++ rest)) + bytes ≤
      around.capacity + wanted * pageSize) :
    Roomy around (vbarHoldings after pageSize ++ rest) bytes := by
  have freed := congrArg (· * pageSize) frees.freed
  simp only [Nat.min_eq_left enough, Nat.add_mul] at freed
  unfold Roomy Surroundings.inUse at *
  simp only [heldBytes_append, sound.heldBytes, sound'.heldBytes] at covers ⊢
  omega

variable {σ : Type} [Host σ] {facade : Facade σ} {context : Context σ} {around : Surroundings}
  {regions : List Region} {rest : List Holding} {buffer : Buffer}

/-- A chunk that finds room reclaims nothing. -/
theorem backChunk_roomy {vaddr size : Nat} {device : Int}
    (kept : VbarBooks (facade.quietBooks around) context regions rest)
    (sizes : (facade.quietBooks around).sizes size) (positive : 0 < size)
    (inside : ∃ region ∈ regions, region.base ≤ vaddr ∧ vaddr + size ≤ region.base + region.size)
    (below : Below around context.engine.config.vbarPageSize context.engine.vbars rest vaddr)
    (roomy : Roomy around (vbarHoldings context.engine.vbars
      context.engine.config.vbarPageSize ++ rest) size) :
    Ensures (fun _ => False) (backChunk vaddr size device).run context (fun result after =>
      SameTables context.engine after.engine ∧ ∃ memory, result = .ok memory ∧
        VbarBooks (facade.quietBooks around) after regions (⟨vaddr, size, memory⟩ :: rest)) := by
  have accepted : ∀ {cause : DriverError}, ¬ (facade.quietBooks around).refuses cause vaddr size
      (vbarHoldings context.engine.vbars context.engine.config.vbarPageSize ++ rest) := by
    rintro cause (⟨-, full⟩ | ⟨entry, mapped, overlaps⟩)
    · exact Nat.not_le_of_lt full roomy
    · exact below.not_overlaps entry mapped overlaps
  unfold backChunk
  rw [ensures_run_bind, ensures_run_lift]
  apply (kept.commit device sizes positive inside).mono
  intro result after outcome
  obtain ⟨tables, outcome⟩ := outcome
  cases result with
  | ok memory => exact ⟨tables, memory, rfl, outcome⟩
  | error cause => exact absurd outcome.2 accepted

/-- Chunks for which there is room reclaim nothing. -/
theorem addChunks_roomy {target count : Nat}
    (kept : VbarBooks (facade.quietBooks around) context regions (buffer.holdings ++ rest))
    (valid : context.engine.config.validate = .ok ())
    (growing : Growing regions context.engine.config.vramChunkSize target count buffer)
    (below : Below around context.engine.config.vbarPageSize context.engine.vbars
      (buffer.holdings ++ rest) (buffer.base + buffer.allocated))
    (roomy : Roomy around (vbarHoldings context.engine.vbars
      context.engine.config.vbarPageSize ++ (buffer.holdings ++ rest))
      (target - buffer.allocated)) :
    Ensures (fun _ => False) (addChunks target count buffer) context (fun _ after =>
      after.engine.vbars = context.engine.vbars) := by
  induction count generalizing buffer context with
  | zero => exact rfl
  | succ count ih =>
    unfold addChunks
    rw [ensures_bind, ensures_engine]
    dsimp only
    rw [ensures_bind]
    apply ensures_word (growing.start_lt kept.books)
    intro _
    rw [ensures_bind]
    have size_le := Nat.min_le_left (target - buffer.allocated)
      context.engine.config.vramChunkSize
    apply (backChunk_roomy kept (quiet_sizes valid kept.allowed _ (Nat.min_le_right _ _))
      growing.size_pos growing.inside below (roomy.less size_le)).mono
    rintro result middle ⟨tables, memory, rfl, outcome⟩
    dsimp only
    rw [ensures_bind, ensures_log]
    have config := tables.config
    have vbars := tables.vbars
    have kept' : VbarBooks (facade.quietBooks around) middle regions
        ((buffer.addChunk ⟨_, memory⟩).holdings ++ rest) := addChunk_books growing.tidy outcome
    have below' : Below around context.engine.config.vbarPageSize context.engine.vbars
        ((buffer.addChunk ⟨_, memory⟩).holdings ++ rest) _ :=
      below.addChunk growing.tidy growing.size_pos
    have roomy' := roomy.addChunk growing.tidy memory size_le
    refine (ih (kept'.log _) (by rwa [config]) (by rw [config]; exact growing.addChunk memory)
      (by rw [config, vbars]; exact below') (by rw [config, vbars]; exact roomy')).mono ?_
    exact fun _ after same => same.trans vbars

/-- A buffer behind all that is mapped grows by what the shortage that is found makes it reclaim,
if that many pages leave room for all that the buffer lacks. -/
theorem grow_frees {base required target deficit : Nat} {asked : Context σ}
    (sound : Sound (facade.quietBooks around) context)
    (found : context.engine.buffers.get? base = some buffer)
    (short : buffer.allocated < required) (within : required ≤ buffer.maxSize)
    (aim : target = buffer.growTarget context.engine.config.vramChunkSize required)
    (below : Below around context.engine.config.vbarPageSize context.engine.vbars
      (bufferHoldings context.engine.buffers) (buffer.base + buffer.allocated))
    (estimated : Memory.deficit buffer.device (target - buffer.allocated)
      { context with
        host := (Host.roomBeside .chunks buffer.chunks.size
          (blocksFor (target - buffer.allocated) context.engine.config.vramChunkSize)
          Buffer.chunkEntrySize context.host).2 } = .ok deficit asked)
    (covers : blocksFor deficit context.engine.config.vbarPageSize ≤
        totalReclaimable context.engine.vbars →
      around.inUse (heldBytes (vbarHoldings context.engine.vbars
          context.engine.config.vbarPageSize ++ bufferHoldings context.engine.buffers)) +
          (target - buffer.allocated) ≤
        around.capacity + blocksFor deficit context.engine.config.vbarPageSize *
          context.engine.config.vbarPageSize) :
    Ensures (fun _ => False) (grow base required).run context (fun result after =>
      result = .ok () → Frees context.engine.vbars after.engine.vbars
        (blocksFor deficit context.engine.config.vbarPageSize)) := by
  have fits : target ≤ buffer.maxSize := aim ▸ growTarget_le ..
  unfold grow
  rw [ensures_run_bind, Attempt.ensures_buffer, found]
  dsimp only
  rw [if_neg (Nat.not_lt.mpr within), if_neg (Nat.not_le.mpr short), ensures_run_bind,
    ensures_run_lift, EngineM.ensures_engine]
  dsimp only
  rw [← aim, ensures_run_bind, ensures_run_lift, ensures_allocatesBeside]
  dsimp only
  have roomed := sound.roomBeside .chunks buffer.chunks.size
    (blocksFor (target - buffer.allocated) context.engine.config.vramChunkSize)
    Buffer.chunkEntrySize
  split
  · have apart := (perm_bufferHoldings found).1
    have inside : buffer.region ∈ context.engine.regions :=
      List.mem_append_right _ (List.mem_map_of_mem (mem_bufferValues.mpr ⟨base, found⟩))
    obtain ⟨tables, books⟩ := (Memory.deficit_spec roomed.books).of_ok estimated
    rw [ensures_run_mk, ensures_bind_of_ok estimated, ensures_bind]
    apply ((Eviction.evictGlobal_frees (sound.vbarBooks.congr tables books)).weaken
      (facade.quietBooks around).stops_aborts).mono
    intro _ middle outcome
    obtain ⟨evicted, kept, frees⟩ := outcome
    have reclaimed := (sound.vbars.reclaimed tables).trans evicted
    have config := reclaimed.config
    rw [tables.vbars, tables.config] at frees
    have kept' := kept.perm apart
    have growing := growing_start (sound.buffers.tidy found) inside fits
      (Config.validate_ok sound.valid).2.1
    have below' := (below.perm apart).shrunk reclaimed.vbars sound.vbars kept.sound
    rw [← config] at frees covers growing below' ⊢
    have valid : middle.engine.config.validate = .ok () := config ▸ sound.valid
    rw [ensures_bind]
    by_cases enough : blocksFor deficit middle.engine.config.vbarPageSize ≤
        totalReclaimable context.engine.vbars
    · have roomy := roomy_of_frees frees sound.vbars kept.sound enough (covers enough)
      apply (addChunks_roomy kept' valid growing below' (roomy.perm (apart.append_left _))).mono
      intro outcome last same
      rw [ensures_bind, ensures_putBuffer, ensures_pure]
      exact fun _ => same ▸ frees
    · apply (addChunks_spec kept' (quiet_sizes valid kept.allowed) growing).mono
      intro outcome last grown
      obtain ⟨reclaimed', -, -, -, kept''⟩ := grown
      rw [ensures_bind, ensures_putBuffer, ensures_pure]
      exact fun _ => frees.shrunk reclaimed'.vbars kept.sound kept''.sound enough
  · rw [ensures_run_throw]
    exact fun done => nomatch done

end Buffers

/-! ## Estimates of a simulated driver -/

/-- A shortage that is no more than a word covers the headroom and what the driver lacks. -/
theorem Budget.le_deficit (budget : Budget) (extra free : Nat) :
    budget.headroom + extra ≤ free + budget.deficit extra (some free) ∨
      budget.deficit extra (some free) = wordLimit - 1 := by
  have covered : (budget.headroom : Int) + extra - free ≤
      (budget.shortfall extra (some free)).bytes := by
    unfold Budget.shortfall
    cases budget.lastReading <;>
      simp only [Shortfall.max_bytes, Budget.driverShortfall] <;> omega
  unfold Budget.deficit saturate
  omega

namespace Simulation

namespace Situated

/-- The account once the clock was read and, where that is due, the platform was asked. -/
def consult (host : Situated) (budget : Budget) : Budget :=
  if budget.pollDue (host.moments host.asked) then
    budget.recordPoll (host.moments host.asked) (host.readings (host.asked + 1))
  else budget

theorem consult_headroom (host : Situated) (budget : Budget) :
    (host.consult budget).headroom = budget.headroom := by
  unfold consult
  split <;> rfl

/-- The shortage of all sources before `extra` more bytes are committed. -/
def shortage (context : Context Situated) (extra : Nat) : Nat :=
  (context.host.consult context.engine.budget).deficit extra
    (some (context.host.bench.device.capacity - context.host.bench.device.physicalInUse -
      context.host.bench.device.foreignUsage))

variable {context : Context Situated}

theorem info_eq (quiet : context.host.bench.failures = []) :
    Memory.info context = .ok (some
      ⟨context.host.bench.device.capacity - context.host.bench.device.physicalInUse -
        context.host.bench.device.foreignUsage, context.host.bench.device.capacity⟩) context := by
  obtain ⟨engine, ⟨⟨device, failures⟩⟩⟩ := context
  cases quiet
  rfl

theorem poll_eq (context : Context Situated) :
    Ensures (fun _ => False) Memory.poll context (fun _ after =>
      after.engine.budget = context.host.consult context.engine.budget) := by
  unfold Memory.poll
  rw [ensures_bind, ensures_ask, ensures_bind, ensures_engine]
  unfold consult
  dsimp only
  split
  · rename_i due
    rw [ensures_bind, ensures_ask, ensures_setBudget]
    exact (if_pos due).symm
  · rename_i undue
    exact (if_neg undue).symm

/-- Asking for memory of the host is counted, and changes nothing else. -/
theorem room_eq (table : HostTable) (count : Nat) (host : Situated) :
    ∃ requests, (Host.room table count host).2 = { host with requests } := by
  rcases Host.room_cases table count host with same | asked
  · exact ⟨host.requests, same⟩
  · exact ⟨host.requests + 1, asked⟩

theorem roomBeside_eq (table : HostTable) (held count bytesEach : Nat) (host : Situated) :
    ∃ requests, (Host.roomBeside table held count bytesEach host).2 = { host with requests } := by
  rcases Host.roomBeside_cases table held count bytesEach host with same | asked
  · exact ⟨host.requests, same⟩
  · exact ⟨host.requests + 1, asked⟩

/-- Without failures an estimate is the shortage of all sources. -/
theorem deficit_eq (quiet : context.host.bench.failures = []) (device : Int) (extra : Nat) :
    ∃ asked, Memory.deficit device extra context = .ok (shortage context extra) asked := by
  obtain ⟨⟨⟩, polled, read, budget⟩ := (poll_eq context).exists_ok
  obtain ⟨_, asked, ran, rfl, -⟩ := (Accounting.deficit_found (info_eq quiet) read).exists_ok
  exact ⟨asked, by rw [ran, budget]; rfl⟩

/-- The same answers and the same failures to come. -/
structure SameProspects (before after : Situated) : Prop where
  moments : after.moments = before.moments
  readings : after.readings = before.readings
  asked : after.asked = before.asked
  failures : after.bench.failures = before.bench.failures

theorem call_keeps {host : Situated} (quiet : host.bench.failures = []) (c : DriverCall) :
    Ensures (fun _ => True) (Host.call c) host (fun _ after => host.SameProspects after) := by
  have answered : Ensures (fun _ => True) (Host.call c) host.bench
      (fun _ after => after.failures = host.bench.failures) := by
    refine Bench.ensures_unfailing (by simp [quiet]) (ensures_any fun answer device => ?_)
    cases c <;> cases answer <;> rfl
  change Ensures _ (fun host => host.withBench (Host.call c host.bench)) host _
  unfold Ensures at *
  dsimp only
  cases ran : Host.call c host.bench with
  | ok answer bench =>
    rw [ran] at answered
    exact ⟨rfl, rfl, rfl, answered⟩
  | error overflow bench => exact trivial

theorem create_keeps {size rounded : Nat} {device : Int}
    (quiet : context.host.bench.failures = [])
    (round : roundUp? size context.engine.config.minAllocSize = some rounded) :
    Ensures (fun _ => True) (Buffers.create device size).run context (fun _ after =>
      after.engine.budget = context.engine.budget ∧ context.host.SameProspects after.host) := by
  unfold Buffers.create
  rw [ensures_run_bind]
  apply Buffers.roundToUnit_served round
  dsimp only
  obtain ⟨requests, asked⟩ := room_eq .buffers 1 context.host
  rw [ensures_run_bind, ensures_run_lift, ensures_allocates, asked]
  dsimp only
  split
  · rw [ensures_run_bind, ensures_run_lift]
    unfold Memory.reserve
    rw [EngineM.ensures_call]
    apply (call_keeps (by exact quiet) _).mono
    intro answer host same
    cases answer with
    | ok base =>
      dsimp only
      rw [ensures_run_bind, ensures_run_lift, ensures_putBuffer, ensures_run_pure]
      exact ⟨rfl, same.moments, same.readings, same.asked, same.failures⟩
    | error cause =>
      dsimp only
      rw [ensures_run_bind, ensures_run_lift, ensures_log, ensures_run_throw]
      exact ⟨rfl, same.moments, same.readings, same.asked, same.failures⟩
  · exact ⟨rfl, rfl, rfl, rfl, rfl⟩

end Situated

variable {context : Context Situated} {around : Surroundings}

/-- Reclaimable pages that cover the shortage cover the headroom as well. -/
theorem Situated.shortage_covers (sound : Sound (Situated.facade.quietBooks around) context)
    {extra : Nat}
    (enough : blocksFor (shortage context extra) context.engine.config.vbarPageSize ≤
      totalReclaimable context.engine.vbars) :
    around.inUse (heldBytes context.engine.holdings) + extra + context.engine.budget.headroom ≤
      around.capacity + blocksFor (shortage context extra) context.engine.config.vbarPageSize *
        context.engine.config.vbarPageSize := by
  have positive := (Config.validate_ok sound.valid).1
  have known : Bench.QuietBooks around context.host.bench context.engine.regions none
    context.engine.holdings := sound.books.agrees
  have used := known.physicalInUse
  have capacity := known.capacity
  have allowed : around.capacity + context.engine.config.vbarPageSize < wordLimit := sound.allowed
  have fits : around.inUse (heldBytes context.engine.holdings) ≤ around.capacity :=
    Buffers.quiet_fits sound.vbarBooks
  have covered := le_blocksFor_mul (shortage context extra) positive
  -- what is reclaimed is in use, so a shortage that was cut to a word cannot be covered
  have most := Nat.mul_le_mul_right context.engine.config.vbarPageSize
    (Nat.le_trans enough sound.vbars.totalReclaimable_le)
  have resident : totalResident context.engine.vbars * context.engine.config.vbarPageSize ≤
      around.inUse (heldBytes context.engine.holdings) := by
    rw [← sound.vbars.heldBytes]
    unfold Engine.holdings Surroundings.inUse
    rw [heldBytes_append]
    omega
  rcases (context.host.consult context.engine.budget).le_deficit extra
    (context.host.bench.device.capacity - context.host.bench.device.physicalInUse -
      context.host.bench.device.foreignUsage) with headroom | cut
  · rw [consult_headroom] at headroom
    change _ ≤ _ + shortage context extra at headroom
    omega
  · change shortage context extra = _ at cut
    simp only [wordLimit] at cut allowed
    omega

/-- What is found depends on the bytes that are held, and not on what they are held for. -/
theorem Situated.shortage_eq {after : Context Situated}
    (sound : Sound (Situated.facade.quietBooks around) context)
    (sound' : Sound (Situated.facade.quietBooks around) after)
    (budget : after.engine.budget = context.engine.budget)
    (same : context.host.SameProspects after.host)
    (held : heldBytes after.engine.holdings = heldBytes context.engine.holdings) (extra : Nat) :
    shortage after extra = shortage context extra := by
  have known : Bench.QuietBooks around context.host.bench context.engine.regions none
    context.engine.holdings := sound.books.agrees
  have known' : Bench.QuietBooks around after.host.bench after.engine.regions none
    after.engine.holdings := sound'.books.agrees
  have used := known.physicalInUse
  have used' := known'.physicalInUse
  have foreign := known'.foreignUsage.trans known.foreignUsage.symm
  have inUse : after.host.bench.device.physicalInUse =
      context.host.bench.device.physicalInUse := by
    rw [held] at used'
    omega
  have consulted : after.host.consult after.engine.budget =
      context.host.consult context.engine.budget := by
    unfold consult
    rw [budget, same.moments, same.readings, same.asked]
  unfold shortage
  rw [consulted, known'.capacity.trans known.capacity.symm, inUse, foreign]

theorem Bench.QuietBooks.reserve_possible {bench : Bench} {regions : List Region}
    {holdings : List Holding} {size : Nat} (books : QuietBooks around bench regions none holdings) :
    Ensures (fun _ => True) (Host.call (.reserve size)) bench
      (fun answer _ => ∀ base, answer = .ok base → bench.device.CanReserve size) := by
  have answered : Ensures (fun _ => True) (Device.call (.reserve size)) bench.device
      (fun _ _ => True) := ensures_any fun _ _ => trivial
  refine books.call_spec rfl (answered.result.mono ?_)
  rintro answer device ⟨ran, -⟩ base rfl
  exact ⟨base, device, ran⟩

end Simulation

namespace Buffers

open Eviction (Frees)

variable {σ : Type} [Host σ] {facade : Facade σ} {context : Context σ} {around : Surroundings}
  {size : Nat} {device : Int}

/-- A buffer gets only addresses that the device can reserve. -/
theorem create_possible (sound : Sound (facade.quietBooks around) context)
    (round : roundUp? size context.engine.config.minAllocSize = some size) :
    Ensures (fun _ => True) (create device size).run context (fun result _ =>
      ∀ base, result = .ok base → (facade.bench context.host).device.CanReserve size) := by
  have asked := sound.room .buffers 1
  have known : Bench.QuietBooks around (facade.bench _) _ none _ := asked.books.agrees
  rw [← (facade.room_alike .buffers 1 context.host).device]
  unfold create
  rw [ensures_run_bind]
  apply roundToUnit_served round
  dsimp only
  rw [ensures_run_bind, ensures_run_lift, ensures_allocates]
  dsimp only
  split
  · rw [ensures_run_bind, ensures_run_lift]
    unfold Memory.reserve
    rw [EngineM.ensures_call]
    apply (facade.ensures_call (by rintro ⟨⟩) known.reserve_possible).mono
    intro answer host possible
    cases answer with
    | ok base => exact fun _ _ => possible base rfl
    | error cause =>
      dsimp only
      rw [ensures_run_bind, ensures_run_lift, ensures_log, ensures_run_throw]
      exact fun _ failed => nomatch failed
  · rw [ensures_run_throw]
    exact fun _ failed => nomatch failed

/-- A size that cannot be rounded up to whole units is refused. -/
theorem allocate_unrounded (none : roundUp? size context.engine.config.minAllocSize = none) :
    Ensures (fun _ => True) (allocate size device).run context
      (fun result _ => ∀ base, result ≠ .ok base) := by
  unfold allocate roundToUnit
  rw [ensures_run_bind, ensures_run_lift, EngineM.ensures_log]
  dsimp only
  rw [ensures_run_bind, ensures_run_bind, ensures_run_lift, EngineM.ensures_engine]
  dsimp only
  rw [none]
  dsimp only
  rw [ensures_run_bind, ensures_run_lift, EngineM.ensures_log, ensures_run_throw]
  exact fun _ refused => nomatch refused

/-- An allocation that was served: it backs its size in whole units, for which it freed as many pages
as the shortage that it found asks for, or all that could be freed. -/
structure Served (around : Surroundings) (context after : Context Situated) (base rounded : Nat) :
    Prop where
  sound : Sound (Situated.facade.quietBooks around) after
  config : after.engine.config = context.engine.config
  shrunk : Shrunk context.engine.vbars after.engine.vbars
  backed : ∃ buffer, after.engine.buffers.get? base = some buffer ∧ buffer.allocated = rounded
  held : heldBytes (bufferHoldings after.engine.buffers) =
    heldBytes (bufferHoldings context.engine.buffers) + rounded
  frees : Frees context.engine.vbars after.engine.vbars
    (blocksFor (Situated.shortage context rounded) context.engine.config.vbarPageSize)

/-- A new buffer is backed with all of its range. -/
theorem grow_new_frees {context : Context Situated} {base : Nat}
    (sound : Sound (Situated.facade.quietBooks around) context)
    (quiet : context.host.bench.failures = [])
    (found : context.engine.buffers.get? base = some { base, device, maxSize := size })
    (positive : 0 < size)
    (below : Below around context.engine.config.vbarPageSize context.engine.vbars
      (bufferHoldings context.engine.buffers) base) :
    Ensures (fun _ => False) (grow base size).run context (fun result after =>
      result = .ok () → Served around context after base size) := by
  have sizes := quiet_sizes sound.valid sound.allowed
  have aim := growTarget_maxSize { base, device, maxSize := size }
    (Config.validate_ok sound.valid).2.1
  obtain ⟨requests, roomed⟩ := Situated.roomBeside_eq .chunks 0
    (blocksFor size context.engine.config.vramChunkSize) Buffer.chunkEntrySize context.host
  obtain ⟨asked, estimated⟩ : ∃ asked, Memory.deficit device size
      { context with host := { context.host with requests } } =
        .ok (Situated.shortage context size) asked :=
    Situated.deficit_eq (by exact quiet) device size
  have frees := grow_frees sound found positive (Nat.le_refl _) aim.symm below
    (by rw [← roomed] at estimated; exact estimated) fun enough => by
      have covered := Situated.shortage_covers sound enough
      unfold Engine.holdings at covered
      dsimp only
      omega
  have fills := grow_fills sound sizes found (Buffer.shaped_fresh _ _ _ _) (Nat.le_refl _) positive
  refine ((grow_works sound sizes).and (fills.and frees)).mono ?_
  rintro result after ⟨⟨sound', worked⟩, ⟨grown, found', filled, -⟩, frees⟩ rfl
  have backed : grown.allocated = size := (filled.full () rfl).trans aim
  refine ⟨sound', worked.config, worked.vbars, ⟨grown, found', backed⟩, ?_, frees rfl⟩
  have before := heldBytes_perm (perm_bufferHoldings found).1
  have after_eq := heldBytes_perm (perm_bufferHoldings found').1
  rw [heldBytes_append, (sound.buffers.tidy found).heldBytes_holdings] at before
  rw [heldBytes_append, (sound'.buffers.tidy found').heldBytes_holdings, worked.others,
    backed] at after_eq
  dsimp only at before
  omega

theorem allocate_frees {context : Context Situated} {rounded : Nat}
    (sound : Sound (Situated.facade.quietBooks around) context)
    (quiet : context.host.bench.failures = [])
    (round : roundUp? size context.engine.config.minAllocSize = some rounded) :
    Ensures (fun _ => True) (allocate size device).run context (fun result after =>
      ∀ base, result = .ok base → Served around context after base rounded) := by
  have sameDevice := (Situated.facade.log (.allocationStarted size device) context.host).device
  have round' := roundUp?_rounded (Config.validate_ok sound.valid).2.2 round
  unfold allocate
  rw [ensures_run_bind, ensures_run_lift, EngineM.ensures_log]
  dsimp only
  rw [ensures_run_bind]
  apply roundToUnit_served (by exact round)
  dsimp only
  rw [ensures_run_bind]
  by_cases possible : context.host.bench.device.CanReserve rounded
  · refine Ensures.mono (Ensures.and
      (Ensures.weaken (create_served (sound.log _) round' (by exact possible)) fun _ => False.elim)
      (Situated.create_keeps quiet round')) ?_
    intro created second outcome
    cases created with
    | error cause => exact fun _ failed => nomatch failed
    | ok base =>
      obtain ⟨⟨sound₂, config, vbars, found, unchanged, below⟩, budget, same⟩ := outcome
      dsimp only at config vbars unchanged below budget ⊢
      have listed : (⟨base, rounded⟩ : Region) ∈ second.engine.regions :=
        List.mem_append_right _ (List.mem_map_of_mem (mem_bufferValues.mpr ⟨base, found⟩))
      have known : Bench.QuietBooks around second.host.bench second.engine.regions none
        second.engine.holdings := sound₂.books.agrees
      have positive : 0 < rounded := known.addresses.positive (known.addresses.reserved _ listed)
      have held := heldBytes_perm unchanged
      have holdings : heldBytes second.engine.holdings = heldBytes context.engine.holdings := by
        unfold Engine.holdings
        rw [heldBytes_append, heldBytes_append, vbars, config, held]
      have foreseen := Situated.shortage_eq sound sound₂ budget
        ⟨same.moments, same.readings, same.asked, same.failures⟩ holdings rounded
      have below₂ := below.perm unchanged
      rw [← config, ← vbars] at below₂
      have grown := grow_new_frees sound₂ (same.failures.trans quiet) found positive below₂
      rw [ensures_run_bind, ensures_run_lift]
      refine (grown.weaken fun _ => False.elim).mono fun result third served => ?_
      cases result with
      | ok _ =>
        dsimp only
        rw [ensures_run_bind, ensures_run_lift, EngineM.ensures_log, ensures_run_pure]
        rintro _ ⟨⟩
        obtain ⟨sound₃, config', shrunk, backed, held', frees⟩ := served rfl
        rw [vbars] at shrunk
        rw [vbars, config, foreseen] at frees
        rw [← held] at held'
        exact ⟨sound₃.log _, config'.trans config, shrunk, backed, held', frees⟩
      | error cause =>
        dsimp only
        rw [ensures_run_bind, ensures_run_lift, EngineM.ensures_log]
        dsimp only
        rw [ensures_run_bind]
        refine ensures_any fun destroyed last => ?_
        cases destroyed with
        | ok _ => exact fun _ failed => nomatch failed
        | error other => exact fun _ failed => nomatch failed
  · refine (create_possible (sound.log _) round').mono fun result second possible' => ?_
    cases result with
    | ok base => exact absurd (possible' base rfl) possible
    | error cause => exact fun _ failed => nomatch failed

/-- What an allocation takes and what it frees make up the change of what is in use. -/
theorem Served.balance {context after : Context Situated} {base rounded : Nat}
    (served : Served around context after base rounded)
    (sound : Sound (Situated.facade.quietBooks around) context) :
    after.host.bench.device.physicalInUse +
        min (blocksFor (Situated.shortage context rounded) context.engine.config.vbarPageSize)
          (totalReclaimable context.engine.vbars) * context.engine.config.vbarPageSize =
      context.host.bench.device.physicalInUse + rounded := by
  obtain ⟨sound', config, -, -, held, frees⟩ := served
  have used := (show Bench.QuietBooks around context.host.bench _ none context.engine.holdings
    from sound.books.agrees)
  have used' := (show Bench.QuietBooks around after.host.bench _ none after.engine.holdings
    from sound'.books.agrees)
  have inUse := used.physicalInUse
  have inUse' := used'.physicalInUse
  have foreign := used'.foreignUsage.trans used.foreignUsage.symm
  have freed := congrArg (· * context.engine.config.vbarPageSize) frees.freed
  simp only [Nat.add_mul] at freed
  unfold Engine.holdings Surroundings.inUse at inUse inUse'
  rw [heldBytes_append, sound.vbars.heldBytes] at inUse
  rw [heldBytes_append, sound'.vbars.heldBytes, config, held] at inUse'
  omega

end Buffers

/-- While no failure is to come, an allocation that succeeds has reclaimed what the shortage for its
bytes asked for when it began, in whole pages and if there were that many, and not a page more. It
left the headroom free beside what others use, or no unpinned page of any VBAR at or above its
limit. -/
theorem allocation_keeps_headroom {device owner : Int} {config : Config} {host host' : Situated}
    {engine : Engine} {context after : Context Situated} {size base : Nat}
    (unused : host.bench.device.Unused)
    (opened : Engine.create device config host = .ok (.ok engine) host')
    (run : Run Situated.facade.Adjusted anyOperation ⟨engine, host'⟩ context)
    (unfailing : context.host.bench.Unfailing)
    (small : context.host.bench.device.capacity + config.vbarPageSize < wordLimit)
    (ran : (Operation.allocate size owner).run context = .ok (.ok (.address base)) after) :
    ∃ (buffer : Buffer) (deficit pages : Nat) (asked : Context Situated),
      after.engine.buffers.get? base = some buffer ∧
      roundUp? size config.minAllocSize = some buffer.allocated ∧
      Memory.deficit owner buffer.allocated context = .ok deficit asked ∧
      pages = min (blocksFor deficit config.vbarPageSize)
        (totalReclaimable context.engine.vbars) ∧
      Shrunk context.engine.vbars after.engine.vbars ∧
      totalResident after.engine.vbars + pages = totalResident context.engine.vbars ∧
      after.host.bench.device.physicalInUse + pages * config.vbarPageSize =
        context.host.bench.device.physicalInUse + buffer.allocated ∧
      (after.host.bench.device.physicalInUse + after.host.bench.device.foreignUsage +
          config.vramHeadroom ≤ after.host.bench.device.capacity ∨
        ∀ (handle : Handle) (vbar : Vbar), after.engine.vbars.get? handle = some vbar →
          ∀ (index : Nat) (page : Page), vbar.pages[index]? = some page →
            vbar.watermarkLimit ≤ index → page.isResident = true → page.pinned = true) := by
  obtain ⟨kept, sound⟩ :=
    Situated.facade.accounts_of_run run ⟨_, Situated.facade.sound_opened unused opened⟩
  obtain ⟨-, total, rfl⟩ := fresh_of_opened opened
  obtain ⟨same, limits⟩ := limits_of_run run
  have configured : context.engine.config = config := same
  have headroom : context.engine.budget.headroom = config.vramHeadroom := limits.headroom
  rw [← configured] at small
  obtain ⟨around, capacity, sound⟩ := Situated.facade.sound_quiet sound
    (by rw [show (Situated.facade.bench context.host).failures = [] from unfailing.failures]; rfl)
    unfailing.injected unfailing.fits small
  have allocated : Ensures (fun _ => True) (Operation.allocate size owner).run context
      (fun result after => result = .ok (.address base) → ∃ rounded,
        roundUp? size context.engine.config.minAllocSize = some rounded ∧
          Buffers.Served around context after base rounded) := by
    change Ensures _ (do
      let pointer ← Buffers.allocate size owner
      return Outcome.address pointer : Attempt Situated Outcome).run context _
    rw [ensures_run_bind]
    cases round : roundUp? size context.engine.config.minAllocSize with
    | none =>
      refine (Buffers.allocate_unrounded round).mono fun result last refused => ?_
      cases result with
      | ok pointer => exact absurd rfl (refused pointer)
      | error cause => exact fun failed => nomatch failed
    | some rounded =>
      refine (Buffers.allocate_frees sound unfailing.failures round).mono
        fun result last served => ?_
      cases result with
      | ok pointer =>
        rintro ⟨⟩
        exact ⟨rounded, rfl, served base rfl⟩
      | error cause => exact fun failed => nomatch failed
  obtain ⟨rounded, round, served⟩ := allocated.of_ok ran rfl
  have balance := served.balance sound
  obtain ⟨sound', config', shrunk, ⟨buffer, found, rfl⟩, held, frees⟩ := served
  obtain ⟨asked, estimated⟩ := Situated.deficit_eq unfailing.failures owner buffer.allocated
  rw [configured] at round frees balance
  refine ⟨buffer, _, _, asked, found, round, estimated, rfl, shrunk, frees.freed, balance, ?_⟩
  rcases frees.left with enough | exhausted
  · left
    have covered := Situated.shortage_covers sound (configured ▸ enough)
    rw [Nat.min_eq_left enough] at balance
    rw [configured, headroom] at covered
    have known : Bench.QuietBooks around context.host.bench _ none context.engine.holdings :=
      sound.books.agrees
    have known' : Bench.QuietBooks around after.host.bench _ none after.engine.holdings :=
      sound'.books.agrees
    have used := known.physicalInUse
    rw [known'.foreignUsage, known'.capacity]
    rw [known.foreignUsage] at used
    omega
  · right
    intro handle vbar live
    exact Vbar.reclaimable_eq_zero_iff.mp (reclaimable_of_total sound'.vbars.linked exhausted live)

/-- Two bytes on a device that has one left and has to keep one: of two pages of two bytes each, one
is reclaimed for them. -/
theorem allocation_keeps_headroom_for_one_page :
    ∃ (context after : Context Situated) (base : Nat),
      context.host.bench.device.physicalInUse = 4 ∧
      (Operation.allocate 2 0).run context = .ok (.ok (.address base)) after ∧
      totalResident after.engine.vbars + 1 = totalResident context.engine.vbars ∧
      after.host.bench.device.physicalInUse = 4 := by
  have reached : reaches 0 { Config.bytewise with vbarPageSize := 2, vramHeadroom := 1 }
      { bench := { device := { capacity := 6, foreignUsage := 1 } }
        moments := id
        readings := fun asked => if asked % 2 = 0 then none else some ⟨0, asked⟩ : Situated }
      anyOperation [.allocateVbar 4 0, .fault ⟨0, 0⟩ 0 4, .unpin ⟨0, 0⟩ 0 4]
      (fun context => context.host.bench.device.physicalInUse = 4 ∧
        context.host.bench.Unfailing ∧ context.host.bench.device.capacity = 6 ∧
        totalReclaimable context.engine.vbars = 2 ∧
        (Ensures (fun _ => False) (Memory.deficit 0 2) context fun deficit _ => deficit = 2) ∧
        Ensures (fun _ => False) (Operation.allocate 2 0).run context fun outcome _ =>
          outcome = .ok (.address (addressBase + 4))) = true := by
    decide +kernel
  obtain ⟨engine, host, context, opened, run, passed⟩ :=
    exists_run_of_reaches Situated.facade.Adjusted reached
  obtain ⟨used, unfailing, capacity, reclaimable, estimated, allocates⟩ := of_decide_eq_true passed
  obtain ⟨_, after, ran, rfl⟩ := allocates.exists_ok
  have unused : Device.Unused { capacity := 6, foreignUsage := 1 } := ⟨rfl, rfl, rfl, rfl, rfl⟩
  obtain ⟨buffer, deficit, pages, asked, -, round, found, rfl, -, freed, balance, -⟩ :=
    allocation_keeps_headroom unused opened run unfailing (by rw [capacity]; decide) ran
  have size : buffer.allocated = 2 := (Option.some.inj round).symm
  rw [size] at found balance
  obtain rfl : deficit = 2 := estimated.of_ok found
  rw [reclaimable] at freed balance
  rw [used] at balance
  exact ⟨context, after, _, used, ran, freed, Nat.add_right_cancel balance⟩

end VramOvercommit
