import VramOvercommit.Proofs.Barriers
import VramOvercommit.Proofs.Holdings

set_option autoImplicit false

/-!
What a buffer is backed with and how it is discarded, in the calls of the driver. Chunks go without a
wait, so every unmap of an operation either stands behind a barrier or belongs to a buffer that the
operation discards at its end.
-/

namespace VramOvercommit

open EngineM
open Attempt (lift)
open Simulation (Event Traced)
open ActionKind (bookkeeping inserting reserving)

variable {σ : Type} [Host σ] {context middle : Context (Traced σ)} {events : List Event}

/-! ## Backing -/

/-- A buffer whose range and chunks were all obtained by recorded calls. -/
structure Buffer.Backed (events : List Event) (base : Nat) (buffer : Buffer) : Prop where
  keyed : buffer.base = base
  reserved : .called (.reserve buffer.maxSize) (.ok buffer.base) ∈ events
  total : (buffer.chunks.toList.map Chunk.size).sum = buffer.allocated
  mapped : ∀ holding ∈ buffer.holdings, Mapped events holding

section Backed

variable {base : Nat} {buffer : Buffer}

theorem Buffer.Backed.append (backed : buffer.Backed events base) (more : List Event) :
    buffer.Backed (events ++ more) base :=
  ⟨backed.keyed, List.mem_append_left _ backed.reserved, backed.total, fun holding held =>
    List.mem_append_left _ (backed.mapped holding held)⟩

theorem Buffer.Backed.addChunk (backed : buffer.Backed events base) {chunk : Chunk}
    (mapped : Mapped events ⟨buffer.base + buffer.allocated, chunk.size, chunk.backing⟩) :
    (buffer.addChunk chunk).Backed events base := by
  refine ⟨backed.keyed, backed.reserved, total_addChunk backed.total chunk, fun holding held => ?_⟩
  rw [holdings_addChunk backed.total] at held
  rcases List.mem_append.mp held with old | new
  · exact backed.mapped holding old
  · cases List.mem_singleton.mp new
    exact mapped

end Backed

namespace Buffers

theorem backChunk_recorded (vaddr size : Nat) (device : Int) :
    Recorded (backChunk vaddr size device).run context fun events result _ =>
      ∀ memory, result = .ok memory → Mapped events ⟨vaddr, size, memory⟩ := by
  unfold backChunk
  rw [Attempt.run_lift_bind]
  refine (commit_recorded vaddr size device context).bind fun events result middle mapped => ?_
  rcases result with (_ | code) | memory
  · -- one round of reclaiming, and one more attempt
    dsimp only
    rw [Attempt.run_lift_bind]
    have reclaimed : Passes waiting (do
        log .growReclaims
        let _ ← Eviction.evictGlobal (← engine).config.vramChunkSize : EngineM (Traced σ) Unit) :=
      (admits_waiting.log _).bind fun _ => Passes.engine.bind fun _ =>
        (Eviction.evictGlobal_passes admits_waiting _).bind fun _ => .pure _
    refine reclaimed.recorded.bind fun more _ middle _ => ?_
    rw [Attempt.run_lift_bind]
    refine (commit_recorded vaddr size device middle).bind fun last result middle mapped => ?_
    cases result with
    | ok memory =>
      refine Recorded.pure fun memory' same => ?_
      cases same
      rw [List.append_nil]
      exact List.mem_append_right _ (List.mem_append_right _ (mapped memory rfl))
    | error cause =>
      dsimp only
      rw [Attempt.run_lift_bind]
      exact (admits_waiting.log _).recorded.bind fun _ _ _ _ => Recorded.pure nofun
  · dsimp only
    rw [Attempt.run_lift_bind]
    exact (admits_waiting.log _).recorded.bind fun _ _ _ _ => Recorded.pure nofun
  · refine Recorded.pure fun memory' same => ?_
    cases same
    rw [List.append_nil]
    exact mapped memory rfl

theorem addChunks_recorded {target count base : Nat} {buffer : Buffer}
    (backed : buffer.Backed events base) :
    Recorded (addChunks target count buffer) context fun more result _ =>
      result.1.Backed (events ++ more) base := by
  induction count generalizing buffer context events with
  | zero =>
    refine Recorded.pure ?_
    rwa [List.append_nil]
  | succ count ih =>
    unfold addChunks
    refine Passes.engine.recorded.bind fun first engine middle _ =>
      (Recorded.word _).bind fun second vaddr middle found => ?_
    subst found
    refine (backChunk_recorded _ _ _).bind fun third result middle mapped => ?_
    have backed := ((backed.append first).append second).append third
    cases result with
    | error cause =>
      refine Recorded.pure ?_
      simpa only [List.append_nil, List.append_assoc] using backed
    | ok backing =>
      refine (admits_waiting.log _).recorded.bind fun last _ middle _ => ?_
      have added := backed.addChunk (List.mem_append_right _ (mapped backing rfl) :
        Mapped _ (Holding.mk _ (Chunk.size ⟨_, backing⟩) (Chunk.backing ⟨_, backing⟩)))
      simpa only [List.append_assoc] using ih (added.append last)

/-- The buffer at an address is backed by what is on record. -/
def Lists (context : Context (Traced σ)) (events : List Event) (base : Nat) : Prop :=
  ∃ buffer, context.engine.buffers.get? base = some buffer ∧ buffer.Backed events base

theorem create_recorded (device : Int) (size : Nat) :
    Recorded (create device size).run context fun events result after =>
      ∀ base, result = .ok base → Lists after events base := by
  unfold create
  refine (waits_of_only (roundToUnit_only size) (by decide)).recorded.run_bind
    (fun first size middle _ => ?_) fun _ _ _ _ => nofun
  rw [Attempt.run_lift_bind]
  refine (Recorded.allocates _ _).bind fun second granted middle outcome => ?_
  obtain ⟨rfl, -⟩ := outcome
  split
  · rw [Attempt.run_lift_bind]
    refine (reserve_recorded size).bind fun third answer middle called => ?_
    subst called
    cases answer with
    | ok base =>
      dsimp only
      rw [Attempt.run_lift_bind]
      refine ⟨[], ⟨.refl middle.host, barriered_nil⟩, fun base' same => ?_⟩
      cases same
      refine ⟨_, (NatMap.get?_insert ..).trans (if_pos rfl), rfl, ?_, rfl, nofun⟩
      simp
    | error cause =>
      dsimp only
      rw [Attempt.run_lift_bind]
      exact (admits_waiting.log _).recorded.bind fun _ _ _ _ => Recorded.pure nofun
  · exact Recorded.pure nofun

/-- A buffer that grows is backed by what was on record and by what its growth adds. -/
theorem grow_recorded {base : Nat} (required : Nat) (listed : Lists context events base) :
    Recorded (grow base required).run context fun more _ after =>
      Lists after (events ++ more) base := by
  obtain ⟨buffer, found, backed⟩ := listed
  have listed : Lists context (events ++ []) base := ⟨buffer, found, backed.append []⟩
  unfold grow
  refine Ends.run_buffer_bind (fun buffer' found' => ?_) fun absent =>
    absurd (found.symm.trans absent) nofun
  cases found.symm.trans found'
  split
  · exact Recorded.pure listed
  · split
    · exact Recorded.pure listed
    · rw [Attempt.run_lift_bind]
      apply Ends.engine_bind
      dsimp only
      rw [Attempt.run_lift_bind]
      refine (Recorded.allocatesBeside _ _ _ _).bind fun asked granted middle outcome => ?_
      obtain ⟨rfl, same⟩ := outcome
      split
      · refine (waits_of_only (Memory.deficit_only (List.mem_singleton_self _) _ _)
          (by decide)).recorded.bind fun first _ _ _ =>
          (Eviction.evictGlobal_passes admits_waiting _).recorded.bind
          fun second _ _ _ => (addChunks_recorded ((backed.append first).append second)).bind
          fun third result middle grown => ?_
        refine ⟨[], ⟨.refl middle.host, barriered_nil⟩, result.1, ?_, ?_⟩
        · change (middle.engine.buffers.insert result.1.base result.1).get? base = _
          rw [grown.keyed, NatMap.get?_insert, if_pos rfl]
        · simpa only [List.append_nil, List.nil_append, List.append_assoc] using grown
      · refine Recorded.pure ?_
        unfold Lists
        rw [same]
        exact listed

/-- The first part of an allocation, up to the buffer with all memory it could get. -/
def reserveAndBack (size : Nat) (device : Int) : Attempt (Traced σ) (Nat × Except Error Unit) := do
  lift (log (.allocationStarted size device))
  let size ← roundToUnit size
  let base ← create device size
  let result ← lift (grow base size).run
  return (base, result)

/-- The second part either hands the buffer out or destroys it. -/
def handOutOrDestroy (base : Nat) : Except Error Unit → Attempt (Traced σ) Nat
  | .ok _ => do
      lift (log (.allocationReturned base))
      return base
  | .error cause => do
      lift (log (.allocationFailed cause))
      destroy base
      throw cause

theorem allocate_eq (size : Nat) (device : Int) :
    (allocate size device : Attempt (Traced σ) Nat) = (do
      let (base, result) ← reserveAndBack size device
      handOutOrDestroy base result) := by
  unfold allocate reserveAndBack
  simp only [bind_assoc, pure_bind]
  rfl

theorem reserveAndBack_recorded (size : Nat) (device : Int) :
    Recorded (reserveAndBack size device).run context fun events result after =>
      ∀ base outcome, result = .ok (base, outcome) → Lists after events base := by
  unfold reserveAndBack
  rw [Attempt.run_lift_bind]
  refine (admits_waiting.log _).recorded.bind fun first _ _ _ => ?_
  refine (waits_of_only (roundToUnit_only size) (by decide)).recorded.run_bind
    (fun second size _ _ => ?_) fun _ _ _ _ => nofun
  refine (create_recorded device size).run_bind (fun third base _ listed => ?_) fun _ _ _ _ => nofun
  rw [Attempt.run_lift_bind]
  refine (grow_recorded size (listed base rfl)).bind fun last result _ listed => Recorded.pure ?_
  rintro base' outcome ⟨⟩
  obtain ⟨buffer, found, backed⟩ := listed
  refine ⟨buffer, found, backed.keyed, ?_, backed.total, fun holding held => ?_⟩
  · have reserved := backed.reserved
    simp only [List.mem_append] at reserved ⊢
    tauto
  · have mapped := backed.mapped holding held
    unfold Mapped at mapped ⊢
    simp only [List.mem_append] at mapped ⊢
    tauto

end Buffers

/-! ## Discarding -/

/-- The calls that give back the memory of a buffer and its range. -/
def Buffer.discardCalls (buffer : Buffer) : List DriverCall :=
  buffer.holdings.flatMap (fun holding =>
    [.unmap holding.vaddr holding.size, .release holding.memory]) ++
  [.freeAddress buffer.base buffer.maxSize]

/-- The step makes exactly these calls, unless it is cut short. -/
def Performs {α : Type} (calls : List DriverCall) (step : EngineM (Traced σ) α)
    (context : Context (Traced σ)) : Prop :=
  Ends step context
    (fun _ after => ∃ events, context.host.Adds after.host events ∧
      events.map Event.call? = calls.map some)
    fun after => ∃ events, context.host.Adds after.host events ∧
      events.map Event.call? <+: calls.map some

section Performs

variable {α β : Type} {calls earlier later : List DriverCall}

omit [Host σ] in
theorem Performs.bind {step : EngineM (Traced σ) α} {next : α → EngineM (Traced σ) β}
    (first : Performs earlier step context)
    (others : ∀ value middle, Performs later (next value) middle) :
    Performs (earlier ++ later) (step >>= next) context := by
  refine Ends.bind (first.mono (fun _ _ => id) ?_) ?_
  · rintro after ⟨events, adds, same⟩
    rw [List.map_append]
    exact ⟨events, adds, same.trans (List.prefix_append _ _)⟩
  · rintro value middle - ⟨events, adds, same⟩
    refine (others value middle).mono ?_ ?_
    · rintro _ after ⟨more, adds', same'⟩
      exact ⟨_, adds.trans adds', by rw [List.map_append, List.map_append, same, same']⟩
    · rintro after ⟨more, adds', same'⟩
      refine ⟨_, adds.trans adds', ?_⟩
      rw [List.map_append, List.map_append, same]
      exact (List.prefix_append_right_inj _).mpr same'

/-- A step that asks nothing of the driver. -/
theorem Performs.of_only {step : EngineM (Traced σ) α} (only : Only [.writeBuffers] step) :
    Performs [] step context := by
  have none : ∀ {events : List Event}, Allowed [.writeBuffers] events → events = [] :=
    fun allowed => List.eq_nil_iff_forall_not_mem.mpr fun event member =>
      (allowed event member).elim fun _ ⟨_, listed⟩ => nomatch List.mem_singleton.mp listed
  refine (only.records context).mono ?_ ?_
  · rintro _ after ⟨events, adds, allowed⟩
    cases none allowed
    exact ⟨[], adds, rfl⟩
  · rintro after ⟨events, adds, allowed⟩
    cases none allowed
    exact ⟨[], adds, List.prefix_rfl⟩

/-- The same with calls of its own behind the step. -/
theorem Performs.of_only_bind {step : EngineM (Traced σ) α} {next : α → EngineM (Traced σ) β}
    (only : Only [.writeBuffers] step)
    (others : ∀ value middle, Performs calls (next value) middle) :
    Performs calls (step >>= next) context :=
  (Performs.of_only only).bind others

theorem Performs.call_bind {driverCall : DriverCall}
    {next : Except DriverError driverCall.Answer → EngineM (Traced σ) β}
    (others : ∀ answer middle, Performs calls (next answer) middle) :
    Performs (driverCall :: calls) (call driverCall >>= next) context := by
  refine ends_call_bind (fun after adds => ⟨[], adds, List.nil_prefix⟩) fun answer middle adds => ?_
  refine (others answer middle).mono ?_ ?_
  · rintro _ after ⟨more, adds', same⟩
    exact ⟨_, adds.trans adds', congrArg (some driverCall :: ·) same⟩
  · rintro after ⟨more, adds', same⟩
    exact ⟨_, adds.trans adds', List.cons_prefix_cons.mpr ⟨rfl, same⟩⟩

omit [Host σ] in
/-- A word is itself, wherever it is one. -/
theorem Performs.word_bind {value : Nat} {next : Nat → EngineM (Traced σ) β}
    (others : Performs calls (next value) context) :
    Performs calls (word value >>= next) context := by
  unfold EngineM.word
  split
  · exact others
  · exact ⟨[], .refl context.host, List.nil_prefix⟩

end Performs

namespace Memory

theorem giveBack_performs (memory : PhysicalHandle) :
    Performs [.release memory] (giveBack memory) context := by
  refine Performs.call_bind fun answer _ => ?_
  cases answer with
  | ok _ => exact .of_only (.pure ())
  | error cause => exact .of_only (Only.log _)

theorem freeAddress_performs (vaddr size : Nat) :
    Performs [.freeAddress vaddr size] (freeAddress vaddr size) context := by
  refine Performs.call_bind fun answer _ => ?_
  cases answer with
  | ok _ => exact .of_only (.pure ())
  | error cause => exact .of_only (Only.log _)

theorem release_performs (vaddr size : Nat) (memory : PhysicalHandle) :
    Performs [.unmap vaddr size, .release memory] (release vaddr size memory) context := by
  have rest : ∀ middle : Context (Traced σ), Performs [.release memory] (do
      giveBack memory
      recordRelease size
      log (.released size vaddr)) middle := fun _ =>
    (giveBack_performs memory).bind fun _ _ =>
      .of_only ((recordRelease_only size).bind fun _ => Only.log _)
  refine Performs.call_bind fun answer _ => ?_
  cases answer with
  | ok _ => exact rest _
  | error cause => exact .of_only_bind (Only.log _) fun _ => rest

end Memory

namespace Buffers

theorem releaseChunks_performs (chunks : List Chunk) (vaddr : Nat) :
    Performs ((Buffer.chunkHoldings vaddr chunks).flatMap fun holding =>
      [.unmap holding.vaddr holding.size, .release holding.memory])
      (releaseChunks chunks vaddr) context := by
  induction chunks generalizing vaddr context with
  | nil => exact .of_only (.pure ())
  | cons chunk rest ih =>
    exact .word_bind ((Memory.release_performs vaddr chunk.size chunk.backing).bind fun _ _ => ih _)

theorem discard_performs (buffer : Buffer) :
    Performs buffer.discardCalls (discard buffer) context :=
  (releaseChunks_performs _ _).bind fun _ _ => Memory.freeAddress_performs _ _

theorem discardEach_performs (buffers : List Buffer) :
    Performs (buffers.flatMap Buffer.discardCalls) (buffers.forM discard) context := by
  induction buffers generalizing context with
  | nil => exact .of_only (.pure ())
  | cons buffer rest ih => exact (discard_performs buffer).bind fun _ _ => ih

/-- The buffer at an address goes, if there is one. -/
theorem destroy_performs (base : Nat) :
    Performs ((context.engine.buffers.get? base).toList.flatMap Buffer.discardCalls)
      (destroy base).run context := by
  unfold destroy
  refine Ends.run_buffer_bind (fun buffer found => ?_) fun absent => ?_
  · rw [found]
    have gone : Performs buffer.discardCalls (do
        modifyEngine fun engine => { engine with buffers := engine.buffers.erase base }
        discard buffer) context :=
      .of_only_bind (Only.writeBuffers (by decide) (·.erase base)) fun _ _ => discard_performs buffer
    exact gone.bind fun _ _ => .of_only (.pure (Except.ok ()))
  · rw [absent]
    exact ⟨[], .refl context.host, rfl⟩

theorem destroyAll_performs :
    Performs (context.engine.buffers.values.flatMap Buffer.discardCalls) destroyAll context := by
  unfold destroyAll
  apply Ends.engine_bind
  exact Performs.of_only_bind (Only.writeBuffers (by decide) fun _ => {}) fun _ _ =>
    discardEach_performs _

end Buffers

/-! ## Operations -/

/-- The events of a step come in two parts: those of pages, where every unmap is behind a barrier,
and the calls that discard some buffers, as far as the step got. -/
def Parts (discards : List Event → List Buffer → Prop) (context after : Context (Traced σ)) : Prop :=
  ∃ pages chunks buffers, context.host.Adds after.host (pages ++ chunks) ∧ Barriered pages ∧
    discards pages buffers ∧
    chunks.map Event.call? <+: (buffers.flatMap Buffer.discardCalls).map some

/-- The buffers that an operation discards: at most one, which is given by its address or which the
operation has reserved and backed itself. -/
def Operation.Discards (operation : Operation) (engine : Engine) (pages : List Event)
    (buffers : List Buffer) : Prop :=
  match operation with
  | .free ptr | .destroyBuffer ptr =>
      buffers = [] ∨ ∃ buffer, engine.buffers.get? ptr = some buffer ∧ buffers = [buffer]
  | .allocate _ _ => buffers = [] ∨ ∃ base buffer, buffer.Backed pages base ∧ buffers = [buffer]
  | _ => buffers = []

section Parts

variable {α : Type} {discards : List Event → List Buffer → Prop} {after : Context (Traced σ)}

omit [Host σ] in
theorem parts_of_since {buffers : List Buffer} (allowed : ∀ pages, discards pages buffers)
    (since : Since context after events) : Parts discards context after :=
  ⟨events, [], buffers, by rw [List.append_nil]; exact since.adds, since.barriered, allowed events,
    List.nil_prefix⟩

omit [Host σ] in
theorem parts_of_waiting {buffers : List Buffer} (allowed : ∀ pages, discards pages buffers)
    (waits : waiting.breaks context after) : Parts discards context after :=
  waits.elim fun _ ⟨adds, barriered⟩ => parts_of_since allowed ⟨adds, barriered⟩

omit [Host σ] in
/-- A step that discards no buffer. -/
theorem Passes.parts {step : EngineM (Traced σ) α} (passes : Passes waiting step)
    (none : ∀ pages, discards pages []) :
    Ends step context (fun _ => Parts discards context) (Parts discards context) :=
  (passes context).mono (fun _ _ => parts_of_waiting none) fun _ => parts_of_waiting none

omit [Host σ] in
/-- The calls that discard buffers come after all that happened to pages. -/
theorem Since.performs {step : EngineM (Traced σ) α} {buffers : List Buffer}
    (since : Since context middle events) (allowed : discards events buffers)
    (performs : Performs (buffers.flatMap Buffer.discardCalls) step middle) :
    Ends step middle (fun _ => Parts discards context) (Parts discards context) := by
  refine performs.mono ?_ ?_
  · rintro _ after ⟨chunks, adds, calls⟩
    exact ⟨events, chunks, buffers, since.adds.trans adds, since.barriered, allowed, calls ▸
      List.prefix_rfl⟩
  · rintro after ⟨chunks, adds, calls⟩
    exact ⟨events, chunks, buffers, since.adds.trans adds, since.barriered, allowed, calls⟩

end Parts

namespace Buffers

omit [Host σ] in
/-- The buffer at an address, if there is one. -/
theorem listed_at (base : Nat) : (context.engine.buffers.get? base).toList = [] ∨
    ∃ buffer, context.engine.buffers.get? base = some buffer ∧
      (context.engine.buffers.get? base).toList = [buffer] := by
  cases context.engine.buffers.get? base with
  | none => exact .inl rfl
  | some buffer => exact .inr ⟨buffer, rfl, rfl⟩

theorem destroy_parts (base : Nat) {discards : List Event → List Buffer → Prop}
    (here : ∀ pages, discards pages (context.engine.buffers.get? base).toList) :
    Ends (destroy base).run context (fun _ => Parts discards context) (Parts discards context) :=
  (Since.refl context).performs (here []) (destroy_performs base)

/-- Null and unknown addresses ask nothing of the driver. -/
theorem free_parts (base : Nat) {discards : List Event → List Buffer → Prop}
    (none : ∀ pages, discards pages [])
    (here : ∀ pages, discards pages (context.engine.buffers.get? base).toList) :
    Ends (free base) context (fun _ => Parts discards context) (Parts discards context) := by
  unfold free
  split
  · exact parts_of_since none (.refl context)
  · refine (Since.refl context).performs (here []) ?_
    rw [← List.append_nil (List.flatMap _ _)]
    refine (destroy_performs base).bind fun result _ => ?_
    cases result <;> exact .of_only (Only.log _)

theorem allocate_parts (size : Nat) (device : Int) {discards : List Event → List Buffer → Prop}
    (none : ∀ pages, discards pages [])
    (own : ∀ pages base buffer, buffer.Backed pages base → discards pages [buffer]) :
    Ends (allocate size device).run context (fun _ => Parts discards context)
      (Parts discards context) := by
  rw [allocate_eq]
  refine Ends.run_bind ((reserveAndBack_recorded size device).mono (fun _ _ => id)
    fun _ => parts_of_waiting none) (fun (base, result) middle outcome => ?_)
    fun _ _ ⟨_, since, _⟩ => parts_of_since none since
  obtain ⟨events, since, listed⟩ := outcome
  cases result with
  | ok _ =>
    exact (since.passes ((admits_waiting.log _).lift_bind fun _ => .pure _)).mono
      (fun _ _ ⟨_, since⟩ => parts_of_since none since) fun _ => parts_of_waiting none
  | error cause =>
    obtain ⟨buffer, found, backed⟩ := listed base _ rfl
    dsimp only [handOutOrDestroy]
    rw [Attempt.run_lift_bind]
    apply Ends.log_bind
    generalize here : { middle with host := Host.log (.allocationFailed cause) middle.host } = last
    have since : Since context last events := here ▸ ⟨since.adds, since.barriered⟩
    have thrown : Performs (buffer.discardCalls ++ [])
        (destroy base >>= fun _ => throw cause : Attempt (Traced σ) Nat).run last := by
      have gone : Performs _ (destroy base : Attempt (Traced σ) Unit).run last :=
        destroy_performs base
      rw [← here] at gone ⊢
      dsimp only at gone
      rw [found, Option.toList_some, List.flatMap_singleton] at gone
      exact gone.bind fun result _ => by cases result <;> exact .of_only (.pure _)
    exact since.performs (own events base buffer backed) thrown

end Buffers

theorem Engine.close_parts :
    Ends Engine.close context
      (fun _ => Parts (fun _ buffers => buffers = context.engine.buffers.values) context)
      (Parts (fun _ buffers => buffers = context.engine.buffers.values) context) := by
  have waits : Passes waiting (Vbars.freeAll : EngineM (Traced σ) Unit) :=
    Vbars.freeAll_passes admits_waiting.log fun only => waits_of_synchronize only (by decide)
  have only : Only Vbars.freeing (Vbars.freeAll : EngineM (Traced σ) Unit) :=
    Vbars.freeAll_passes Only.log Vbars.freeing_barrier
  refine Ends.bind (((waits context).also (only context)).mono (fun _ _ => id)
    fun _ ⟨waited, _⟩ => parts_of_waiting (fun _ => rfl) waited) fun _ middle _ outcome => ?_
  obtain ⟨⟨events, adds, barriered⟩, actions⟩ := outcome
  have rest : Performs (middle.engine.buffers.values.flatMap Buffer.discardCalls ++ []) (do
      Buffers.destroyAll
      log (.contextClosed (← engine).device)) middle :=
    Buffers.destroyAll_performs.bind fun _ _ => .of_only (Passes.engine.bind fun _ => Only.log _)
  rw [List.append_nil, actions.buffers (by decide)] at rest
  exact Since.performs ⟨adds, barriered⟩ rfl rest

namespace Operation

omit [Host σ] in
/-- Handing a result out asks nothing. -/
theorem handOut_ends {α : Type} {step : Attempt (Traced σ) α} {handOut : α → Outcome}
    {done aborted : Context (Traced σ) → Prop}
    (ended : Ends step.run context (fun _ => done) aborted) :
    Ends (do let value ← step; return handOut value : Attempt (Traced σ) Outcome).run context
      (fun _ => done) aborted :=
  ended.run_bind (fun _ _ held => held) fun _ _ held => held

theorem bookkeeping_parts {operation : Operation} {discards : List Event → List Buffer → Prop}
    (books : operation.actionKinds ⊆ inserting) (none : ∀ pages, discards pages []) :
    Ends operation.run context (fun _ => Parts discards context) (Parts discards context) :=
  (waits_of_only (Only.mono operation.run_only books) (by decide)).parts none

/-- In the events of every operation, and of the drop of a context, each unmap of a page stands
behind a wait for the device in the same operation, after which nothing was mapped, or undoes a
commit whose access was refused. All other unmaps belong to buffers that are discarded. -/
theorem unmaps_wait (context : Context (Traced σ)) :
    (∀ operation : Operation, Ends operation.run context
      (fun _ => Parts (operation.Discards context.engine) context)
      (Parts (operation.Discards context.engine) context)) ∧
    Ends Engine.close context
      (fun _ => Parts (fun _ buffers => buffers = context.engine.buffers.values) context)
      (Parts (fun _ buffers => buffers = context.engine.buffers.values) context) := by
  refine ⟨fun operation => ?_, Engine.close_parts⟩
  cases operation with
  | fault vbar offset size =>
    exact (handOut_passes (Vbars.fault_passes admits_waiting commit_waits vbar offset size)).parts
      fun _ => rfl
  | unpin vbar offset size =>
    exact (handOut_passes (Vbars.unpin_passes admits_waiting vbar offset size)).parts fun _ => rfl
  | freeVbar vbar =>
    exact (handOut_passes (Vbars.free_passes admits_waiting.log
      (fun only => waits_of_synchronize only (by decide)) vbar)).parts fun _ => rfl
  | freeVbarMemory vbar size =>
    exact (handOut_passes (Eviction.shrinkVbar_passes admits_waiting vbar size)).parts fun _ => rfl
  | evictGlobal size =>
    exact (handOut_passes (Eviction.evictGlobal_passes admits_waiting size).run_lift).parts
      fun _ => rfl
  | evictForVbar vbar target =>
    exact (handOut_passes (Eviction.evictForVbar_passes admits_waiting vbar target).run_lift).parts
      fun _ => rfl
  | growBuffer ptr size =>
    exact (handOut_passes (Buffers.grow_passes admits_waiting commit_waits ptr size)).parts
      fun _ => rfl
  | allocate size device =>
    exact handOut_ends (Buffers.allocate_parts size device (fun _ => .inl rfl)
      fun _ _ _ backed => .inr ⟨_, _, backed, rfl⟩)
  | free ptr =>
    exact handOut_ends (Ends.bind (Buffers.free_parts ptr (fun _ => .inl rfl)
      fun _ => Buffers.listed_at ptr) fun _ _ _ held => held)
  | destroyBuffer ptr =>
    exact handOut_ends (Buffers.destroy_parts ptr fun _ => Buffers.listed_at ptr)
  | allocateVbar => exact bookkeeping_parts (List.Subset.refl _) fun _ => rfl
  | createBuffer => exact bookkeeping_parts (List.subset_cons_self _ _) fun _ => rfl
  | _ => exact bookkeeping_parts (by decide : bookkeeping ⊆ inserting) fun _ => rfl

end Operation

end VramOvercommit
