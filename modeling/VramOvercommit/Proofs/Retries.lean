import VramOvercommit.Proofs.AnyDriver
import VramOvercommit.Proofs.BufferShape
import VramOvercommit.Proofs.Discarding
import VramOvercommit.Proofs.Faulting
import VramOvercommit.Proofs.SupplyCalls

set_option autoImplicit false

/-!
An exhausted device leads to one pass of reclaiming and one more attempt, and whatever else the driver
answers to an attempt ends the operation. Pages and chunks have a loop of their own each; both loops
leave the calls of the same protocol behind.
-/

namespace VramOvercommit

open EngineM
open Attempt (lift)
open Simulation (Bench Event Traced)
open ActionKind (bookkeeping)
open Eviction (reclaiming shrinking)

/-! ## Steps and their events -/

section Traces

variable {σ α β : Type} {context : Context (Traced σ)}

/-- The record goes on with events of which something is known where the step is done. -/
abbrev Traces (step : EngineM (Traced σ) α) (context : Context (Traced σ))
    (holds : List Event → α → Context (Traced σ) → Prop) : Prop :=
  Ensures (fun _ => True) step context fun value after =>
    ∃ events, context.host.Adds after.host events ∧ holds events value after

variable {holds : List Event → α → Context (Traced σ) → Prop}
  {goal : List Event → β → Context (Traced σ) → Prop}

theorem Traces.from {middle : Context (Traced σ)} {earlier : List Event}
    {step : EngineM (Traced σ) α} (adds : context.host.Adds middle.host earlier)
    (traces : Traces step middle fun more => holds (earlier ++ more)) :
    Ensures (fun _ => True) step middle fun value after =>
      ∃ events, context.host.Adds after.host events ∧ holds events value after :=
  traces.mono fun _ _ ⟨_, more, held⟩ => ⟨_, adds.trans more, held⟩

theorem Traces.pure {value : α} (held : holds [] value context) :
    Traces (Pure.pure value : EngineM (Traced σ) α) context holds :=
  ⟨[], .refl context.host, held⟩

theorem Traces.bind {step : EngineM (Traced σ) α} {next : α → EngineM (Traced σ) β}
    (first : Traces step context holds)
    (others : ∀ events value middle, holds events value middle →
      Traces (next value) middle fun more => goal (events ++ more)) :
    Traces (step >>= next) context goal := by
  unfold Traces
  rw [ensures_bind]
  exact first.mono fun value middle ⟨events, adds, held⟩ =>
    Traces.from adds (others events value middle held)

theorem Traces.run_bind {step : Attempt (Traced σ) α} {next : α → Attempt (Traced σ) β}
    {holds : List Event → Except Error α → Context (Traced σ) → Prop}
    {goal : List Event → Except Error β → Context (Traced σ) → Prop}
    (first : Traces step.run context holds)
    (ok : ∀ events value middle, holds events (.ok value) middle →
      Traces (next value).run middle fun more => goal (events ++ more))
    (error : ∀ events cause middle, holds events (.error cause) middle →
      goal events (.error cause) middle) :
    Traces (step >>= next).run context goal := by
  unfold Traces
  rw [ensures_run_bind]
  apply first.mono
  rintro result middle ⟨events, adds, held⟩
  cases result with
  | ok value => exact Traces.from adds (ok events value middle held)
  | error cause => exact ⟨events, adds, error events cause middle held⟩

theorem Traces.and {step : EngineM (Traced σ) α} {aborts : Abort → Prop}
    {more : α → Context (Traced σ) → Prop} (traces : Traces step context holds)
    (other : Ensures aborts step context more) :
    Traces step context fun events value after => holds events value after ∧ more value after :=
  (Ensures.and traces (other.weaken fun _ _ => trivial)).mono
    fun _ _ ⟨⟨events, adds, held⟩, also⟩ => ⟨events, adds, held, also⟩

variable [Host σ] {kinds : List ActionKind}

/-- What is known of the actions of a step is known of its events. -/
theorem Traces.of_only {step : EngineM (Traced σ) α} (only : Only kinds step) :
    Traces step context fun events _ after => Allowed kinds events ∧ Actions kinds context after :=
  (only context).ensures.mono fun _ _ actions =>
    actions.adds.elim fun events ⟨adds, allowed⟩ => ⟨events, adds, allowed, actions⟩

/-- A step that asks nothing of the driver leaves no events. -/
theorem Traces.silent {step : EngineM (Traced σ) α} (only : Only kinds step)
    (denied : ∀ kind : CallKind, .call kind ∉ kinds) :
    Traces step context fun events _ after => events = [] ∧ Actions kinds context after :=
  (Traces.of_only only).mono fun _ _ ⟨events, adds, allowed, actions⟩ =>
    ⟨events, adds, List.eq_nil_iff_forall_not_mem.mpr fun event member =>
      (allowed event member).elim fun kind ⟨_, listed⟩ => denied kind listed, actions⟩

omit [Host σ] in
theorem Traces.engine_bind {next : Engine → EngineM (Traced σ) β}
    (others : Traces (next context.engine) context goal) :
    Traces (engine >>= next) context goal := others

omit [Host σ] in
theorem Traces.pageSize_bind {next : Nat → EngineM (Traced σ) β}
    (others : Traces (next context.engine.config.vbarPageSize) context goal) :
    Traces (pageSize >>= next) context goal := others

omit [Host σ] in
theorem Traces.vbar?_bind {handle : Handle} {next : Option Vbar → EngineM (Traced σ) β}
    (others : Traces (next (context.engine.vbars.get? handle)) context goal) :
    Traces (vbar? handle >>= next) context goal := others

omit [Host σ] in
theorem Traces.putVbar_bind {handle : Handle} {vbar : Vbar} {next : Unit → EngineM (Traced σ) β}
    (others : Traces (next ()) { context with engine :=
      { context.engine with vbars := context.engine.vbars.set handle vbar } } goal) :
    Traces (putVbar handle vbar >>= next) context goal := others

omit [Host σ] in
/-- A value that a step may abort for is there where the step goes on. -/
theorem Traces.ensure_bind {value : Except Abort α} {next : α → EngineM (Traced σ) β}
    (others : ∀ found, value = .ok found → Traces (next found) context goal) :
    Traces (ensure value >>= next) context goal := by
  cases value with
  | ok found => exact others found rfl
  | error cause => exact trivial

omit [Host σ] in
/-- A word is itself, wherever it is one. -/
theorem Traces.word_bind {value : Nat} {next : Nat → EngineM (Traced σ) β}
    (others : Traces (next value) context goal) : Traces (word value >>= next) context goal := by
  unfold EngineM.word
  split
  · exact others
  · exact trivial

theorem Traces.log_bind {notice : Notice} {next : Unit → EngineM (Traced σ) β}
    (others : Traces (next ()) { context with host := Host.log notice context.host } goal) :
    Traces (log notice >>= next) context goal := others

theorem Traces.allocates_bind {table : HostTable} {count : Nat} {next : Bool → EngineM (Traced σ) β}
    (others : Traces (next (Host.room table count context.host).1)
      { context with host := (Host.room table count context.host).2 } goal) :
    Traces (allocates table count >>= next) context goal := by
  unfold Traces
  rw [ensures_bind, ensures_allocates]
  exact Traces.from (Traced.adds_room table count context.host) others

theorem Traces.allocatesBeside_bind {table : HostTable} {held count bytesEach : Nat}
    {next : Bool → EngineM (Traced σ) β}
    (others : Traces (next (Host.roomBeside table held count bytesEach context.host).1)
      { context with host := (Host.roomBeside table held count bytesEach context.host).2 } goal) :
    Traces (allocatesBeside table held count bytesEach >>= next) context goal := by
  unfold Traces
  rw [ensures_bind, ensures_allocatesBeside]
  exact Traces.from (Traced.adds_roomBeside table held count bytesEach context.host) others

/-- A call of which something is known, with its answer on record. -/
theorem Traces.call_bind_of {driverCall : DriverCall} {aborts : Overflow → Prop}
    {post : Except DriverError driverCall.Answer → Traced σ → Prop}
    {next : Except DriverError driverCall.Answer → EngineM (Traced σ) β}
    (answered : Ensures aborts (Host.call driverCall) context.host post)
    (others : ∀ answer host, post answer host → Traces (next answer) { context with host }
      fun more => goal (.called driverCall answer :: more)) :
    Traces (call driverCall >>= next) context goal := by
  unfold Traces
  rw [ensures_bind, ensures_call]
  refine (answered.result.weaken fun _ _ => trivial).mono fun answer host outcome => ?_
  exact Traces.from (Traced.adds_of_call outcome.1) (others answer host outcome.2)

theorem Traces.call_bind {driverCall : DriverCall}
    {next : Except DriverError driverCall.Answer → EngineM (Traced σ) β}
    (others : ∀ answer middle, Traces (next answer) middle fun more =>
      goal (.called driverCall answer :: more)) :
    Traces (call driverCall >>= next) context goal :=
  Traces.call_bind_of (ensures_any fun _ _ => trivial) fun answer host _ =>
    others answer { context with host }

end Traces

/-! ## Attempts -/

variable {σ : Type} [Host σ] {context : Context (Traced σ)}

namespace Memory

theorem giveBack_calls (memory : PhysicalHandle) :
    Traces (giveBack memory) context fun events _ _ =>
      ∃ answer, events = [.called (.release memory) answer] := by
  refine Traces.call_bind fun answer _ => ?_
  cases answer with
  | ok _ => exact Traces.pure ⟨_, rfl⟩
  | error cause => exact ⟨[], .refl _, _, rfl⟩

theorem commit_calls (vaddr size : Nat) (device : Int) :
    Traces (commit vaddr size device) context fun events answer _ =>
      CommitCalls vaddr size device (answer.map fun _ => ()) events := by
  have undone : ∀ (middle : Context (Traced σ)) (earlier : List Event) {cause : DriverError}
      (memory : PhysicalHandle), (∀ answer, CommitCalls vaddr size device (.error cause)
        (earlier ++ [.called (.release memory) answer])) →
      Traces (do
          giveBack memory
          return .error cause : EngineM (Traced σ) (Except DriverError PhysicalHandle)) middle
        fun events answer _ =>
          CommitCalls vaddr size device (answer.map fun _ => ()) (earlier ++ events) := by
    intro middle earlier cause memory calls
    refine (giveBack_calls memory).bind fun _ _ _ released => ?_
    obtain ⟨answer, rfl⟩ := released
    exact Traces.pure (calls answer)
  unfold commit
  refine Traces.call_bind fun created _ => ?_
  cases created with
  | error cause => exact Traces.pure (.refused cause)
  | ok memory =>
    refine Traces.call_bind fun mapped _ => ?_
    cases mapped with
    | error cause =>
      exact undone _ [_, _] memory fun answer => .unmapped memory cause answer
    | ok _ =>
      refine Traces.call_bind fun granted _ => ?_
      cases granted with
      | error cause =>
        refine Traces.call_bind fun unmapped _ => ?_
        have rest : ∀ middle, Traces _ middle _ := fun middle =>
          undone middle [_, _, _, _] memory fun answer =>
            .inaccessible memory cause unmapped answer
        cases unmapped with
        | ok _ => exact rest _
        | error cause' => exact Traces.log_bind (rest _)
      | ok _ =>
        refine (Traces.silent (recordCommit_only size : Only [] _) (by simp)).bind
          fun events _ _ silent => ?_
        obtain ⟨rfl, -⟩ := silent
        exact Traces.log_bind (Traces.pure (.committed memory))

end Memory

/-! ## Passes of reclaiming -/

/-- A VBAR that is written in its place stays live. -/
theorem Actions.live {kinds : List ActionKind} {after : Context (Traced σ)} {handle : Handle}
    {own : Vbar} (actions : Actions kinds context after)
    (denied : ∀ kind ∈ [ActionKind.moveVbar, .addVbar, .removeVbar], kind ∉ kinds)
    (live : context.engine.vbars.get? handle = some own) :
    ∃ left, after.engine.vbars.get? handle = some left := by
  simp only [List.forall_mem_cons] at denied
  obtain ⟨move, add, remove, -⟩ := denied
  induction actions with
  | refl => exact ⟨own, live⟩
  | tail _ action ih =>
    obtain ⟨left, live⟩ := ih
    cases action with
    | writeVbar _ other vbar =>
      by_cases same : handle = other
      · subst same
        exact ⟨vbar, PriorityList.get?_set_self live vbar⟩
      · exact ⟨left, (PriorityList.get?_set_of_ne same).trans live⟩
    | moveVbar allowed => exact absurd allowed move
    | addVbar allowed => exact absurd allowed add
    | removeVbar allowed => exact absurd allowed remove
    | _ => exact ⟨left, live⟩

namespace Eviction

theorem synchronize_bind_calls {α : Type} {next : Unit → EngineM (Traced σ) α}
    (only : ∀ value, Only shrinking (next value)) :
    Traces (Memory.synchronize >>= next) context fun events _ _ => ReclaimCalls events := by
  unfold Memory.synchronize
  rw [bind_assoc]
  refine Traces.call_bind fun answer middle => ?_
  have rest : ∀ {middle : Context (Traced σ)}, Traces (next ()) middle fun pages _ _ =>
      ReclaimCalls (.called .synchronize answer :: pages) := fun {middle} =>
    (Traces.of_only (only ())).mono fun _ _ ⟨pages, adds, allowed, _⟩ =>
      ⟨pages, adds, answer, pages, rfl, allowed⟩
  cases answer with
  | ok _ => exact rest
  | error cause => exact Traces.log_bind rest

theorem evictGlobal_calls {size : Nat}
    (positive : 0 < context.engine.config.vbarPageSize) (asked : 0 < size) :
    Traces (evictGlobal size) context fun events _ _ => ReclaimCalls events := by
  have wanted : blocksFor size context.engine.config.vbarPageSize ≠ 0 := by
    have first : 0 < blocksFor size context.engine.config.vbarPageSize :=
      (lt_blocksFor_iff positive).mpr (by rwa [Nat.zero_mul])
    exact Nat.ne_of_gt first
  unfold evictGlobal
  refine Traces.pageSize_bind ?_
  dsimp only
  rw [if_neg wanted]
  refine Traces.log_bind (synchronize_bind_calls fun _ => ?_)
  exact Passes.engine.bind fun _ => shrinkEach_only.bind fun _ => (Passes.word _).bind fun _ =>
    Only.mark.bind fun _ => Passes.checkVbars.bind fun _ => (Only.log _).bind fun _ => .pure _

/-- The VBAR that memory is reclaimed for stays. -/
theorem evictForVbar_calls {handle : Handle} (target : Nat)
    (live : ∃ own, context.engine.vbars.get? handle = some own) :
    Traces (evictForVbar handle target) context fun events _ after =>
      ReclaimCalls events ∧ ∃ left, after.engine.vbars.get? handle = some left := by
  have shrinks : ∀ cursor : Nat, Only shrinking (do
      shrinkEachUntil handle target (← engine).vbars.ascending cursor
      markDirty
      checkVbars : EngineM (Traced σ) Unit) := fun cursor =>
    Passes.engine.bind fun _ => shrinkEachUntil_only.bind fun _ =>
      Only.mark.bind fun _ => Passes.checkVbars
  obtain ⟨own, live⟩ := live
  unfold evictForVbar
  refine Traces.vbar?_bind ?_
  rw [live]
  refine Traces.ensure_bind fun cursor _ => ?_
  have only : Only reclaiming (do
      Memory.synchronize
      shrinkEachUntil handle target (← engine).vbars.ascending cursor
      markDirty
      checkVbars : EngineM (Traced σ) Unit) :=
    (Memory.synchronize_only (by decide)).bind fun _ => Only.mono (shrinks cursor) shrinking_subset
  exact (synchronize_bind_calls fun _ => shrinks cursor).and
    ((only context).ensures.mono fun _ _ actions => actions.live (by decide) live)

end Eviction

/-! ## Ranges -/

namespace Buffers

variable {regions : List Region} {buffer : Buffer}

/-- A chunk gets its memory by the protocol of a range. -/
theorem backChunk_calls {vaddr size : Nat} {device : Int}
    (valid : context.engine.config.validate = .ok ()) :
    Traces (backChunk vaddr size device).run context fun events result _ =>
      BackCalls vaddr size device (result.map fun _ => ()) events := by
  unfold backChunk
  rw [Attempt.run_lift_bind]
  have only : Only Memory.committing (Memory.commit vaddr size device :
      EngineM (Traced σ) (Except DriverError PhysicalHandle)) := Memory.commit_only vaddr size device
  refine ((Memory.commit_calls vaddr size device).and (only context).ensures).bind
    fun first answer middle outcome => ?_
  obtain ⟨attempt, actions⟩ := outcome
  rcases answer with (_ | code) | memory
  · -- one pass of reclaiming, and one more attempt
    dsimp only
    rw [Attempt.run_lift_bind]
    obtain ⟨page_pos, chunk_pos, -⟩ := Config.validate_ok valid
    rw [← actions.config] at page_pos chunk_pos
    have reclaimed : Traces (do
        log .growReclaims
        let _ ← Eviction.evictGlobal (← engine).config.vramChunkSize) middle
        fun events _ _ => ReclaimCalls events := by
      refine Traces.log_bind (Traces.engine_bind ?_)
      refine (Eviction.evictGlobal_calls ?_ ?_).bind fun pass _ _ reclaim => ?_
      · exact page_pos
      · exact chunk_pos
      · exact Traces.pure (by rwa [List.append_nil])
    refine reclaimed.bind fun pass _ middle reclaim => ?_
    rw [Attempt.run_lift_bind]
    refine (Memory.commit_calls vaddr size device).bind fun second answer middle again => ?_
    cases answer with
    | ok memory =>
      refine Traces.pure ?_
      rw [List.append_nil, ← List.append_assoc]
      exact .twice attempt reclaim again
    | error cause =>
      dsimp only
      rw [Attempt.run_lift_bind]
      refine Traces.log_bind (Traces.pure ?_)
      rw [List.append_nil, ← List.append_assoc]
      exact .twice attempt reclaim again
  · dsimp only
    rw [Attempt.run_lift_bind]
    refine Traces.log_bind (Traces.pure ?_)
    rw [List.append_nil]
    exact .once attempt nofun
  · refine Traces.pure ?_
    rw [List.append_nil]
    exact .once attempt nofun

/-- Chunk by chunk, each behind the one before. -/
theorem addChunks_calls {chunkSize target count : Nat}
    (valid : context.engine.config.validate = .ok ())
    (config : context.engine.config.vramChunkSize = chunkSize)
    (growing : Growing regions chunkSize target count buffer) :
    Traces (addChunks target count buffer) context fun events result _ =>
      SupplyCalls (buffer.base + buffer.allocated) (result.2.map fun _ => ()) events := by
  induction count generalizing buffer context with
  | zero => exact Traces.pure (.done _)
  | succ count ih =>
    unfold addChunks
    refine Traces.engine_bind ?_
    dsimp only
    rw [config]
    refine Traces.word_bind (((backChunk_calls valid).and backChunk_config).bind
      fun events result middle outcome => ?_)
    obtain ⟨backed, config'⟩ := outcome
    cases result with
    | error cause =>
      refine Traces.pure ?_
      rw [List.append_nil]
      exact .stopped (Nat.le_refl _) growing.size_pos backed
    | ok memory =>
      dsimp only
      refine Traces.log_bind ((ih (by rwa [config']) (by rwa [config'])
        (growing.addChunk memory)).mono ?_)
      rintro ⟨grown, result⟩ after ⟨more, adds, calls⟩
      refine ⟨more, adds, .next (Nat.le_refl _) growing.size_pos backed ?_⟩
      rw [Nat.add_assoc]
      exact calls

/-- The shortage that is foreseen is reclaimed before the supply starts. -/
theorem reclaimAndAdd_calls {chunkSize target missing count : Nat}
    (valid : context.engine.config.validate = .ok ())
    (config : context.engine.config.vramChunkSize = chunkSize)
    (growing : Growing regions chunkSize target count buffer) :
    Traces (do
      let deficit ← Memory.deficit buffer.device missing
      let _ ← Eviction.evictGlobal deficit
      let (buffer, result) ← addChunks target count buffer
      putBuffer buffer
      return result) context fun events result _ => SuppliedOnce result events := by
  have asks : Only bookkeeping (Memory.deficit buffer.device missing : EngineM (Traced σ) Nat) :=
    Memory.deficit_only (by decide) _ _
  have reclaims : ∀ size, Only (reclaiming ++ bookkeeping)
      (Eviction.evictGlobal size : EngineM (Traced σ) Nat) :=
    Eviction.evictGlobal_passes (admits_acting (by decide) (by decide))
  refine (Traces.of_only asks).bind fun first deficit second outcome => ?_
  obtain ⟨allowed, actions⟩ := outcome
  refine (Traces.of_only (reclaims deficit)).bind fun pass _ third outcome => ?_
  obtain ⟨allowed', actions'⟩ := outcome
  have same : third.engine.config = context.engine.config := actions'.config.trans actions.config
  refine (addChunks_calls (by rwa [same]) (by rwa [same]) growing).bind
    fun supply result last calls => ?_
  refine ⟨[], .refl last.host, ?_⟩
  dsimp only
  rw [List.append_nil]
  exact ((SuppliedOnce.of_supply calls).behind (allowed'.uncommitting (by decide))).behind
    (allowed.uncommitting (by decide))

theorem grow_calls {base required : Nat} {ledger : Ledger (Traced σ)}
    (sound : Sound ledger context) :
    Traces (grow base required).run context fun events result _ => SuppliedOnce result events := by
  have unasked : ∀ {cause : Error}, (∀ refusal, cause ≠ .driver refusal) →
      SuppliedOnce (.error cause : Except Error Unit) [] :=
    fun other => .left other uncommitting_nil
  unfold grow Traces
  rw [ensures_run_bind, Attempt.ensures_buffer]
  cases found : context.engine.buffers.get? base with
  | none => exact ⟨[], .refl _, unasked nofun⟩
  | some buffer =>
    dsimp only
    split
    · exact ⟨[], .refl _, unasked nofun⟩
    · split
      · exact ⟨[], .refl _, .of_supply (.done 0)⟩
      · rw [ensures_run_bind, ensures_run_lift, ensures_engine]
        dsimp only
        rw [Attempt.run_lift_bind]
        refine Traces.allocatesBeside_bind ?_
        split
        · have growing := growing_start (sound.buffers.tidy found) (List.mem_singleton_self _)
            (growTarget_le buffer context.engine.config.vramChunkSize required)
            (Config.validate_ok sound.valid).2.1
          exact reclaimAndAdd_calls sound.valid rfl growing
        · exact Traces.pure (unasked nofun)

/-- A buffer that is there is destroyed before the allocation fails. -/
theorem destroy_throw_calls {base : Nat} (cause : Error)
    (live : ∃ buffer, context.engine.buffers.get? base = some buffer) :
    Traces (do destroy base; throw cause : Attempt (Traced σ) Nat).run context
      fun events result _ => Uncommitting events ∧ result = .error cause := by
  obtain ⟨buffer, found⟩ := live
  refine ((Traces.of_only (destroy_only base)).and (destroy_live found)).run_bind
    (fun events _ after outcome => ?_) fun _ _ _ outcome => nomatch outcome.2
  refine ⟨[], .refl after.host, ?_, rfl⟩
  rw [List.append_nil]
  exact outcome.1.1.uncommitting (by decide)

theorem roundToUnit_undriven {size : Nat} :
    Ensures (fun _ => True) (roundToUnit size).run context fun result _ =>
      ∀ cause refusal, result = .error cause → cause ≠ .driver refusal := by
  unfold roundToUnit
  rw [ensures_run_bind, ensures_run_lift, ensures_engine]
  dsimp only
  split
  · rw [ensures_run_pure]
    exact fun cause refusal failed => nomatch failed
  · rw [ensures_run_bind, ensures_run_lift, ensures_log, ensures_run_throw]
    rintro _ refusal ⟨⟩
    exact nofun

/-- The addresses of a buffer are not refused by a commit. -/
theorem create_undriven {device : Int} {maxSize : Nat} :
    Ensures (fun _ => True) (create device maxSize).run context fun result _ =>
      ∀ cause refusal, result = .error cause → cause ≠ .driver refusal := by
  unfold create
  rw [ensures_run_bind]
  apply roundToUnit_undriven.mono
  intro rounded first refuses
  cases rounded with
  | error cause =>
    rintro _ refusal ⟨⟩
    exact refuses cause refusal rfl
  | ok size =>
    dsimp only
    rw [ensures_run_bind, ensures_run_lift, ensures_allocates]
    dsimp only
    split
    · rw [ensures_run_bind, ensures_run_lift]
      refine ensures_any fun answer second => ?_
      cases answer with
      | ok base =>
        dsimp only
        rw [ensures_run_bind, ensures_run_lift, ensures_putBuffer, ensures_run_pure]
        exact fun cause refusal failed => nomatch failed
      | error cause =>
        dsimp only
        rw [ensures_run_bind, ensures_run_lift, ensures_log, ensures_run_throw]
        rintro _ refusal ⟨⟩
        exact nofun
    · rw [ensures_run_throw]
      rintro _ refusal ⟨⟩
      exact nofun

/-- An allocation that gets no memory destroys its buffer, which asks for none. -/
theorem allocate_calls {size : Nat} {device : Int} {ledger : Ledger (Traced σ)}
    (sound : Sound ledger context) (allowed : ledger.aborts .overflow) :
    Traces (allocate size device).run context fun events result _ =>
      SuppliedOnce result events := by
  unfold allocate
  rw [Attempt.run_lift_bind]
  refine Traces.log_bind ?_
  refine (((Traces.of_only (roundToUnit_only size)).and roundToUnit_undriven).and
    (roundToUnit_spec (sound.log _))).run_bind
    (fun rounding rounded second outcome => ?_) fun rounding cause second outcome => ?_
  · obtain ⟨⟨⟨quiet, -⟩, -⟩, sound, -⟩ := outcome
    refine ((((Traces.of_only (create_only device rounded)).and create_undriven).and
      (create_recorded device rounded).ensures).and (create_spec sound allowed)).run_bind
      (fun opening base third outcome => ?_) fun opening cause third outcome => ?_
    · obtain ⟨⟨⟨⟨quiet', -⟩, -⟩, recorded, -, listed⟩, sound, -⟩ := outcome
      rw [Attempt.run_lift_bind]
      refine ((grow_calls sound).and (grow_recorded rounded (listed base rfl)).ensures).bind
        fun growing result fourth outcome => ?_
      obtain ⟨supplied, more, -, buffer, found, -⟩ := outcome
      have quiet := (quiet.uncommitting (by decide)).append (quiet'.uncommitting (by decide))
      cases result with
      | ok _ =>
        dsimp only
        rw [Attempt.run_lift_bind]
        refine Traces.log_bind (Traces.pure ?_)
        rw [List.append_nil, ← List.append_assoc]
        exact (supplied.congr rfl).behind quiet
      | error cause =>
        dsimp only
        rw [Attempt.run_lift_bind]
        refine Traces.log_bind ((destroy_throw_calls cause ?_).mono ?_)
        · exact ⟨buffer, found⟩
        · rintro result last ⟨events, adds, quiet', rfl⟩
          have whole : SuppliedOnce (.error cause : Except Error Nat) (_ ++ (growing ++ events)) :=
            ((supplied.congr rfl).before quiet').behind quiet
          rw [List.append_assoc] at whole
          exact ⟨events, adds, whole⟩
    · obtain ⟨⟨⟨⟨quiet', -⟩, refuses⟩, -⟩, -⟩ := outcome
      exact .left (fun refusal => refuses cause refusal rfl)
        ((quiet.uncommitting (by decide)).append (quiet'.uncommitting (by decide)))
  · obtain ⟨⟨⟨quiet, -⟩, refuses⟩, -⟩ := outcome
    exact .left (fun refusal => refuses cause refusal rfl) (quiet.uncommitting (by decide))

end Buffers

namespace Vbars

variable {ledger : Ledger (Traced σ)} {regions : List Region} {rest : List Holding}
  {handle : Handle} {own : Vbar} {index stop : Nat}

/-- A page gets its memory by the protocol of a range, unless reclaiming puts it out of reach. -/
theorem backPage_calls {vaddr : Nat} {device : Int}
    (live : context.engine.vbars.get? handle = some own) :
    Traces (backPage handle vaddr index stop device).run context fun events result _ =>
      BackCalls vaddr context.engine.config.vbarPageSize device (result.map fun _ => ()) events := by
  have only : ∀ size, Only Memory.committing (Memory.commit vaddr size device :
      EngineM (Traced σ) (Except DriverError PhysicalHandle)) := fun size =>
    Memory.commit_only vaddr size device
  unfold backPage
  rw [Attempt.run_lift_bind]
  refine Traces.pageSize_bind ?_
  rw [Attempt.run_lift_bind]
  refine ((Memory.commit_calls _ _ _).and (only _ context).ensures).bind
    fun first answer middle outcome => ?_
  obtain ⟨attempt, actions⟩ := outcome
  rcases answer with (_ | code) | memory
  · -- one pass of reclaiming, and one more attempt
    dsimp only
    rw [Attempt.run_lift_bind]
    have reclaimed : Traces (do
        log .faultReclaims
        Eviction.evictForVbar handle stop) middle fun events _ after =>
        ReclaimCalls events ∧ ∃ left, after.engine.vbars.get? handle = some left := by
      refine Traces.log_bind (Eviction.evictForVbar_calls stop ⟨own, ?_⟩)
      dsimp only
      rw [actions.vbars (by decide), live]
    refine reclaimed.bind fun pass _ middle outcome => ?_
    obtain ⟨reclaim, left, remains⟩ := outcome
    unfold Traces
    rw [ensures_run_bind, Attempt.ensures_vbar, remains]
    dsimp only
    split
    · rw [ensures_run_bind, ensures_run_lift, ensures_log, ensures_run_throw]
      refine ⟨[], .refl middle.host, ?_⟩
      rw [List.append_nil]
      exact .cancelled attempt reclaim
    · change Traces _ middle fun more result _ => _
      rw [Attempt.run_lift_bind]
      refine (Memory.commit_calls _ _ _).bind fun second answer middle again => ?_
      have whole := BackCalls.twice attempt reclaim again
      rw [List.append_assoc, ← List.append_nil second] at whole
      rcases answer with (_ | code) | memory
      · dsimp only
        rw [Attempt.run_lift_bind]
        exact Traces.log_bind (Traces.pure whole)
      · dsimp only
        rw [Attempt.run_lift_bind]
        exact Traces.log_bind (Traces.pure whole)
      · exact Traces.pure whole
  · dsimp only
    rw [Attempt.run_lift_bind]
    refine Traces.log_bind (Traces.pure ?_)
    rw [List.append_nil]
    exact .once attempt nofun
  · refine Traces.pure ?_
    rw [List.append_nil]
    exact .once attempt nofun

/-- A page that got memory belongs to a VBAR that is still there. -/
theorem backPage_remains {device : Int} (kept : VbarBooks ledger context regions rest)
    (live : context.engine.vbars.get? handle = some own) (reach : index < own.watermark) :
    Ensures (fun _ => True) (backPage handle
        (own.base + index * context.engine.config.vbarPageSize) index stop device).run context
      fun result after => ∀ memory, result = .ok memory →
        ∃ left, after.engine.vbars.get? handle = some left := by
  refine ((backPage_spec kept live reach).weaken fun _ _ => trivial).mono ?_
  rintro result after ⟨-, -, -, outcome⟩ memory rfl
  obtain ⟨-, left, readied, -⟩ := outcome
  exact ⟨left, (readied.cut kept.sound live).1⟩

omit [Host σ] in
theorem pageAddress_ok {pageSize vaddr : Nat}
    (address : own.pageAddress pageSize index = .ok vaddr) :
    vaddr = own.base + index * pageSize := by
  unfold Vbar.pageAddress at address
  split at address <;> cases address
  rfl

/-- A page that is absent and in reach is one range of a supply; any other asks for nothing. -/
theorem faultPage_calls (kept : VbarBooks ledger context regions rest)
    (live : context.engine.vbars.get? handle = some own) :
    Traces (faultPage handle index stop).run context fun events result _ =>
      (events = [] ∧ ∀ refusal, result ≠ .error (.driver refusal)) ∨
      BackCalls (own.base + index * context.engine.config.vbarPageSize)
        context.engine.config.vbarPageSize own.device (result.map fun _ => ()) events := by
  unfold faultPage Traces
  rw [ensures_run_bind, Attempt.ensures_vbar, live]
  dsimp only
  split
  · exact ⟨[], .refl _, .inl ⟨rfl, nofun⟩⟩
  · rename_i reach
    change Traces _ context fun events result _ => _
    rw [Attempt.run_lift_bind]
    refine Traces.ensure_bind fun page _ => ?_
    split
    · exact Traces.pure (.inl ⟨rfl, nofun⟩)
    · rw [Attempt.run_lift_bind]
      refine Traces.pageSize_bind ?_
      rw [Attempt.run_lift_bind]
      refine Traces.ensure_bind fun vaddr address => ?_
      have placed := pageAddress_ok address
      subst placed
      refine ((backPage_calls live).and (backPage_remains kept live (Nat.not_le.mp reach))).run_bind
        (fun events memory middle outcome => ?_) fun events cause middle outcome => .inr outcome.1
      obtain ⟨calls, remains⟩ := outcome
      obtain ⟨left, remains⟩ := remains memory rfl
      change Ensures _ _ middle _
      rw [ensures_run_bind, Attempt.ensures_vbar, remains]
      dsimp only
      rw [ensures_run_lift, ensures_bind]
      cases left.pageAt index with
      | error cause => exact trivial
      | ok page =>
        rw [ensures_ensure_ok, ensures_bind, ensures_putVbar, ensures_pure]
        refine ⟨[], .refl middle.host, .inr ?_⟩
        rw [List.append_nil]
        exact calls

/-- Page by page, each behind the one before. -/
theorem faultPages_calls {count : Nat} (kept : VbarBooks ledger context regions rest)
    (live : context.engine.vbars.get? handle = some own) :
    Traces (faultPages handle stop count index).run context fun events result _ =>
      SupplyCalls (own.base + index * context.engine.config.vbarPageSize) (result.map fun _ => ())
        events := by
  induction count generalizing context index own with
  | zero => exact Traces.pure (.done _)
  | succ count ih =>
    unfold faultPages
    refine ((faultPage_calls kept live).and (faultPage_spec kept)).run_bind
      (fun events serial middle outcome => ?_)
      fun events cause middle outcome => ?_
    · obtain ⟨calls, worked, -, kept', -⟩ := outcome
      obtain ⟨left, remains, spares⟩ := worked.spares handle own live
      have next : ∀ {result : Except Error Unit} {more : List Event},
          SupplyCalls (left.base + (index + 1) * middle.engine.config.vbarPageSize) result more →
          SupplyCalls (own.base + index * context.engine.config.vbarPageSize) result
            (events ++ more) := by
        intro result more rest
        rw [spares.base, worked.config, Nat.add_one_mul, ← Nat.add_assoc] at rest
        rcases calls with ⟨rfl, -⟩ | backed
        · exact rest.mono (Nat.le_add_right _ _)
        · exact .next (Nat.le_refl _) kept.positive backed rest
      refine (ih kept' remains).run_bind (fun more serials last rest => ?_)
        fun more cause last rest => next rest
      refine Traces.pure ?_
      rw [List.append_nil]
      exact next rest
    · rcases outcome.1 with ⟨rfl, other⟩ | refused
      · exact .left _ fun refusal same => other refusal (congrArg _ same)
      · exact .stopped (Nat.le_refl _) kept.positive refused

/-- Nothing is asked for but the pages. -/
theorem faultAndPin_calls {start : Nat} (kept : VbarBooks ledger context regions rest)
    (live : context.engine.vbars.get? handle = some own) :
    Traces (faultAndPin handle start stop).run context fun events result _ =>
      SuppliedOnce result events := by
  unfold faultAndPin
  refine ((faultPages_calls kept live).and (faultPages_spec kept)).run_bind
    (fun events serials middle outcome => ?_)
    fun events cause middle outcome => .of_supply outcome.1
  obtain ⟨calls, worked, -⟩ := outcome
  obtain ⟨left, remains, -⟩ := worked.spares handle own live
  change Ensures _ _ middle _
  rw [ensures_run_bind, Attempt.ensures_vbar, remains]
  dsimp only
  rw [ensures_run_bind, ensures_run_lift, ensures_bind]
  cases pinPages left (stop - start) start with
  | error cause => exact trivial
  | ok pinned =>
    rw [ensures_ensure_ok, ensures_putVbar, ensures_run_pure]
    refine ⟨[], .refl middle.host, ?_⟩
    rw [List.append_nil]
    exact .of_supply calls

theorem fault_calls {offset size : Nat} (sound : Sound ledger context) :
    Traces (fault handle offset size).run context fun events result _ =>
      SuppliedOnce result events := by
  rw [fault_eq]
  unfold Traces
  rw [ensures_run_bind, ensures_run_lift, ensures_log]
  dsimp only
  rw [ensures_run_bind, Attempt.ensures_vbar]
  cases live : context.engine.vbars.get? handle with
  | none => exact ⟨[], .refl _, .left nofun uncommitting_nil⟩
  | some own =>
    dsimp only
    rw [ensures_run_bind, ensures_run_lift, ensures_pageSize]
    dsimp only
    unfold faultRange
    split
    · rw [ensures_run_bind, ensures_run_lift, ensures_log, ensures_run_throw]
      exact ⟨[], .refl _, .left nofun uncommitting_nil⟩
    · have kept := ((sound.log (.faultStarted offset size)).room .serials
        (faultEnd offset size context.engine.config.vbarPageSize -
          offset / context.engine.config.vbarPageSize)).vbarBooks.markDirty
      rw [Attempt.run_lift_bind]
      refine Traces.allocates_bind ?_
      split
      · unfold Traces
        rw [ensures_run_bind, ensures_run_lift, ensures_bind, ensures_markDirty, ensures_bind]
        apply ((faultAndPin_calls kept live).and (faultAndPin_spec kept)).mono
        rintro result after ⟨events, adds, supplied, -, kept', -⟩
        rw [ensures_bind]
        apply Eviction.checkVbars_spec kept'.sound
        rw [ensures_bind, ensures_log, ensures_pure]
        cases result with
        | ok serials => exact ⟨events, adds, supplied⟩
        | error cause => exact ⟨events, adds, supplied⟩
      · exact Traces.pure (.left nofun uncommitting_nil)

end Vbars

/-! ## Every operation -/

/-- An operation that backs pages or chunks. -/
def Operation.backs : Operation → Prop
  | fault _ _ _ | growBuffer _ _ | allocate _ _ => True
  | _ => False

omit [Host σ] in
/-- What an operation hands out is not in its calls. -/
theorem handOut_calls {α : Type} {step : Attempt (Traced σ) α} {handOut : α → Outcome}
    (calls : Traces step.run context fun events result _ => SuppliedOnce result events) :
    Traces (do let value ← step; return handOut value : Attempt (Traced σ) Outcome).run context
      fun events outcome _ => SuppliedOnce outcome events := by
  refine calls.run_bind (fun events value middle supplied => ?_)
    fun events cause middle supplied => supplied.congr rfl
  refine ⟨[], .refl middle.host, ?_⟩
  dsimp only
  rw [List.append_nil]
  exact supplied.congr rfl

/-- The calls of a fault, of the growth of a buffer and of an allocation. Memory is asked for range by
range, each with one attempt, or with two that have one pass of reclaiming between them if the device
was exhausted at the first. The first other failure of a step of a commit ends the operation with
that failure and no further call for memory; a second exhaustion ends it as out of memory. An
operation fails for the driver only in this way, so never for an exhausted device. -/
theorem ranges_retried_once {alters : Traced σ → Traced σ → Prop} {device : Int} {config : Config}
    {host host' : Traced σ} {engine : Engine}
    (opened : Engine.create device config host = .ok (.ok engine) host')
    (run : Run alters anyOperation ⟨engine, host'⟩ context) {operation : Operation}
    (backs : operation.backs) :
    Ensures (· = .overflow) operation.run context (fun outcome after =>
      ∃ events, context.host.Adds after.host events ∧ SuppliedOnce outcome events ∧
        StopsAtFailure outcome events ∧ FailsForCommit outcome events) := by
  have sound := sound_of_run run (sound_of_opened opened)
  have calls : Traces operation.run context fun events outcome _ => SuppliedOnce outcome events := by
    cases operation with
    | fault vbar offset size => exact handOut_calls (Vbars.fault_calls sound)
    | growBuffer ptr size => exact handOut_calls (Buffers.grow_calls sound)
    | allocate size device => exact handOut_calls (Buffers.allocate_calls sound rfl)
    | _ => exact backs.elim
  refine ((operation.run_spec sound rfl fun _ => trivial).also calls).mono ?_
  rintro outcome after ⟨-, events, adds, supplied⟩
  exact ⟨events, adds, supplied, supplied.decides.stops, supplied.decides.caused⟩

/-- A page is refused memory at first, and cannot be mapped after the page of another VBAR was
reclaimed for it. -/
theorem ranges_retried_once_after_exhaustion :
    ∃ (context after : Context (Traced Bench)) (events : List Event),
      (Operation.fault ⟨1, 0⟩ 0 1).run context = .ok (.error (.driver (.failed 7))) after ∧
      context.host.Adds after.host events ∧
      SuppliedOnce (.error (.driver (.failed 7)) : Except Error Outcome) events ∧
      ∃ event ∈ events, event.FailsCommit 7 := by
  have reached : reaches 0 .bytewise
      (⟨{ device := { capacity := 2 }
          failures := [⟨.create, .outOfMemory, 1⟩, ⟨.map, .failed 7, 1⟩] }, #[]⟩ : Traced Bench)
      anyOperation [.allocateVbar 1 0, .fault ⟨0, 0⟩ 0 1, .unpin ⟨0, 0⟩ 0 1, .allocateVbar 1 0]
      (fun context => decide (Ensures (fun _ => False) (Operation.fault ⟨1, 0⟩ 0 1).run context
        fun outcome _ => outcome = .error (.driver (.failed 7)))) = true := by
    decide +kernel
  obtain ⟨engine, host, context, opened, run, passed⟩ :=
    exists_run_of_reaches (fun _ _ => False) reached
  obtain ⟨_, after, ran, rfl⟩ := (of_decide_eq_true passed).exists_ok
  have backs : (Operation.fault ⟨1, 0⟩ 0 1).backs := trivial
  obtain ⟨events, adds, supplied, -, caused⟩ := (ranges_retried_once opened run backs).of_ok ran
  obtain ⟨_, same, event, member, fails⟩ := caused _ rfl
  cases same
  exact ⟨context, after, events, ran, adds, supplied, event, member, fails⟩

end VramOvercommit
