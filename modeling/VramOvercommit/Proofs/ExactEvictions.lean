import VramOvercommit.Proofs.AnyDriver
import VramOvercommit.Proofs.Simulation.TracedBench

set_option autoImplicit false

/-!
Which pages an eviction takes. Every walk takes a beginning of the order in which pages are
reclaimed, and nothing but the watermarks tells how far it went: an eviction of a size ends right at
the last page that it needs, and one on behalf of a fault takes no more pages than the VBAR lacks.
-/

namespace VramOvercommit

open EngineM
open Simulation (Bench Traced Device)

/-- The VBARs behind the handles have given up all that lies above their limits. -/
def AtLimit (vbars : PriorityList Vbar) (handles : List Handle) : Prop :=
  ∀ handle ∈ handles, ∀ vbar, vbars.get? handle = some vbar → vbar.watermark = vbar.watermarkLimit

/-- The first pages of an order were given up, and nothing else changed but watermarks. -/
structure Evicted (before after : Engine) (order : List (Handle × Nat)) (freed : Nat) : Prop
    extends SameSetting before after where
  handles : after.vbars.handles = before.vbars.handles
  buffers : after.buffers = before.buffers
  gaveUp : ∀ (handle : Handle) (vbar : Vbar), before.vbars.get? handle = some vbar →
    ∃ left, after.vbars.get? handle = some left ∧
      vbar.GaveUp left fun index => (handle, index) ∈ order.take freed

/-- An eviction of a number of pages from victims. It takes as many pages as are wanted, or all that
there are. If there are enough, the watermark of the VBAR that the last one belongs to is at that
page, those before it are at their limits, and those behind it are as they were. -/
structure EvictedExactly (before after : Engine) (victims : List Handle) (wanted freed : Nat) : Prop
    extends Evicted before after (reclaimOrder before.vbars victims) freed where
  count : freed = min wanted (reclaimOrder before.vbars victims).length
  outside : ∀ handle, handle ∉ victims → after.vbars.get? handle = before.vbars.get? handle
  drained : (reclaimOrder before.vbars victims).length < wanted → AtLimit after.vbars victims
  stopped : wanted ≤ (reclaimOrder before.vbars victims).length →
    ∃ lower owner higher left, victims = lower ++ owner :: higher ∧
      after.vbars.get? owner = some left ∧
      (reclaimOrder before.vbars victims)[wanted - 1]? = some (owner, left.watermark) ∧
      AtLimit after.vbars lower ∧
      ∀ handle ∈ higher, after.vbars.get? handle = before.vbars.get? handle

/-- An eviction on behalf of a VBAR, which becomes `left`. It takes no more pages than the VBAR
lacked below the target, and fewer than it lacked of those that are still in reach only if all VBARs
are at their limits. -/
structure EvictedFor (before after : Engine) (handle : Handle) (own : Vbar) (target freed : Nat)
    (left : Vbar) : Prop extends
      Evicted before after (reclaimOrder before.vbars before.vbars.handles.reverse) freed where
  remains : after.vbars.get? handle = some left
  most : freed ≤ (reclaimOrder before.vbars before.vbars.handles.reverse).length
  bounded : freed ≤ own.absentBelow (min target own.watermark)
  ended : own.absentBelow (min target left.watermark) ≤ freed ∨
    AtLimit after.vbars before.vbars.handles

section Walks

variable {before after : Engine} {victims : List Handle} {wanted freed missing : Nat}

theorem atLimit_of_drained
    (all : ∀ victim ∈ victims, Drained before.vbars after.vbars victim) :
    AtLimit after.vbars victims := fun victim member _ live => (all victim member).at_limit live

/-- Victims give up the first pages of their order, and the other VBARs nothing. -/
theorem Walked.evicted (walked : Walked before.vbars after.vbars victims freed)
    (sound : SoundVbars before.vbars) (distinct : victims.Nodup)
    (reclaimed : Reclaimed before after)
    (outside : ∀ handle, handle ∉ victims → after.vbars.get? handle = before.vbars.get? handle) :
    Evicted before after (reclaimOrder before.vbars victims) freed := by
  refine ⟨reclaimed.toSameSetting, reclaimed.vbars.handles, reclaimed.buffers,
    fun handle vbar live => ?_⟩
  by_cases member : handle ∈ victims
  · exact walked.gaveUp sound distinct member live
  · refine ⟨vbar, (outside handle member).trans live, .refl fun index taken => member ?_⟩
    exact ((mem_reclaimOrder live).mp (List.mem_of_mem_take taken)).1

theorem Eviction.ShrunkEach.evicted
    (shrunk : ShrunkEach before.vbars after.vbars victims wanted missing)
    (sound : SoundVbars before.vbars) (distinct : victims.Nodup)
    (reclaimed : Reclaimed before after) (positive : 0 < wanted) :
    EvictedExactly before after victims wanted (wanted - missing) := by
  have supplied := shrunk.supplied positive
  refine ⟨supplied.walked.evicted sound distinct reclaimed shrunk.outside, supplied.freed_eq sound,
    shrunk.outside, fun few => atLimit_of_drained (supplied.drained sound few), fun enough => ?_⟩
  obtain ⟨lower, owner, higher, own, index, split, last, here⟩ := supplied.stopped sound enough
  exact ⟨lower, owner, higher, own.cut index, split, here.cut, last,
    atLimit_of_drained here.drained, here.same⟩

theorem Eviction.SweptUntil.evictedFor {handle : Handle} {own left : Vbar} {target : Nat}
    (swept : SweptUntil before.vbars after.vbars before.vbars.handles.reverse own target 0 left
      freed)
    (sound : SoundVbars before.vbars) (live : before.vbars.get? handle = some own)
    (remains : after.vbars.get? handle = some left) (reclaimed : Reclaimed before after) :
    EvictedFor before after handle own target freed left := by
  obtain ⟨taken, total, walked⟩ := swept.walked
  obtain rfl : freed = taken := by omega
  have distinct := List.nodup_reverse.mpr sound.linked.handles_nodup
  have bounded := swept.bounded
  refine ⟨walked.evicted sound distinct reclaimed swept.outside, remains, walked.freed_le sound,
    by omega, swept.ended.imp (fun enough => ?_) fun all handle member vbar found => ?_⟩
  · -- what is still in reach was not touched
    obtain ⟨watermark, -, -, cut⟩ := reclaimed.vbars.cut live
    rw [remains] at cut
    cases cut
    rwa [Vbar.cut_watermark, Vbar.absentBelow_cut (Nat.min_le_right _ _)] at enough
  · exact (all handle (List.mem_reverse.mpr member)).at_limit found

end Walks

/-! ## Operations -/

namespace Operation

/-- The VBARs that an operation evicts a size from, the lowest priority first. -/
inductive EvictsFrom (vbars : PriorityList Vbar) : Operation → (victims : List Handle) →
    (size : Nat) → Prop where
  | all (size : Nat) : EvictsFrom vbars (.evictGlobal size) vbars.handles.reverse size
  | one {handle : Handle} {vbar : Vbar} (live : vbars.get? handle = some vbar) (size : Nat) :
      EvictsFrom vbars (.freeVbarMemory handle size) [handle] size

variable {σ : Type} [Host σ] {ledger : Ledger σ} {context : Context σ} {operation : Operation}
  {victims : List Handle} {size target : Nat} {handle : Handle} {own : Vbar}

/-- The outcome of an eviction of a size. -/
structure EvictsExactly (context after : Context σ) (victims : List Handle) (size : Nat)
    (outcome : Except Error Outcome) (freed : Nat) : Prop
    extends EvictedExactly context.engine after.engine victims
      (blocksFor size context.engine.config.vbarPageSize) freed where
  outcome : outcome = .ok (.bytes (freed * context.engine.config.vbarPageSize))

/-- An exact account loses the bytes of the pages that are on it no more. -/
theorem usage_of_freed {after : Context σ} {regions : List Region} {rest : List Holding}
    {freed : Nat} (kept : VbarBooks ledger context regions rest)
    (kept' : VbarBooks ledger after regions rest)
    (config : after.engine.config = context.engine.config)
    (total : totalResident after.engine.vbars + freed = totalResident context.engine.vbars)
    (exact : ledger.distinct) :
    after.engine.budget.residentUsage + freed * context.engine.config.vbarPageSize =
      context.engine.budget.residentUsage := by
  have held := kept.books.accounted.held_eq exact
  have held' := kept'.books.accounted.held_eq exact
  rw [heldBytes_append, kept.sound.heldBytes] at held
  rw [heldBytes_append, kept'.sound.heldBytes, config] at held'
  rw [← total, Nat.add_mul] at held
  omega

theorem EvictsFrom.nodup (evicts : operation.EvictsFrom context.engine.vbars victims size)
    (sound : Sound ledger context) : victims.Nodup := by
  cases evicts with
  | all => exact List.nodup_reverse.mpr sound.vbars.linked.handles_nodup
  | one _ => exact List.nodup_singleton _

theorem EvictsFrom.run_spec (evicts : operation.EvictsFrom context.engine.vbars victims size)
    (sound : Sound ledger context) (positive : 0 < size) :
    Ensures ledger.stops operation.run context (fun outcome after =>
      ∃ freed, EvictsExactly context after victims size outcome freed ∧
        (ledger.distinct → after.engine.budget.residentUsage +
          freed * context.engine.config.vbarPageSize = context.engine.budget.residentUsage)) := by
  have kept := sound.vbarBooks
  have distinct := evicts.nodup sound
  have wanted : 0 < blocksFor size context.engine.config.vbarPageSize := by
    by_contra none
    have covered := (blocksFor_le_iff kept.positive).mp (Nat.le_of_not_lt none)
    omega
  -- both walks leave the same kind of result
  have result : ∀ {outcome : Except Error Outcome} {after : Context σ} {missing : Nat},
      Reclaimed context.engine after.engine →
      VbarBooks ledger after context.engine.regions (bufferHoldings context.engine.buffers) →
      Eviction.ShrunkEach context.engine.vbars after.engine.vbars victims
        (blocksFor size context.engine.config.vbarPageSize) missing →
      outcome = .ok (.bytes ((blocksFor size context.engine.config.vbarPageSize - missing) *
        context.engine.config.vbarPageSize)) →
      ∃ freed, EvictsExactly context after victims size outcome freed ∧
        (ledger.distinct → after.engine.budget.residentUsage +
          freed * context.engine.config.vbarPageSize = context.engine.budget.residentUsage) := by
    intro outcome after missing reclaimed kept' shrunk handedOut
    have fewer := shrunk.fewer
    have total := shrunk.total
    exact ⟨_, ⟨shrunk.evicted sound.vbars distinct reclaimed wanted, handedOut⟩,
      usage_of_freed kept kept' reclaimed.config (by omega)⟩
  cases evicts with
  | all =>
    apply ensures_handOut_result
    rw [ensures_run_lift]
    refine (Eviction.evictGlobal_spec kept).mono fun freed after outcome => ?_
    obtain ⟨reclaimed, kept', -, missing, rfl, shrunk⟩ := outcome
    exact result reclaimed kept' shrunk rfl
  | one live =>
    apply ensures_handOut_result
    refine (Eviction.shrinkVbar_spec kept).mono fun answer after outcome => ?_
    obtain ⟨reclaimed, kept', shrinks⟩ := outcome
    obtain ⟨missing, rfl, shrunk⟩ := shrinks (by rw [live]; rfl)
    exact result reclaimed kept' shrunk rfl

theorem evictForVbar_run_spec (sound : Sound ledger context)
    (live : context.engine.vbars.get? handle = some own) :
    Ensures ledger.stops (Operation.evictForVbar handle target).run context (fun outcome after =>
      outcome = .ok .done ∧ ∃ freed left,
        EvictedFor context.engine after.engine handle own target freed left) := by
  apply ensures_handOut_result
  rw [ensures_run_lift]
  refine (Eviction.evictForVbar_spec sound.vbarBooks).mono fun _ after outcome => ?_
  obtain ⟨reclaimed, -, walked⟩ := outcome
  obtain ⟨left, freed, shrunk, swept⟩ := walked own live
  exact ⟨rfl, freed, left, swept.evictedFor sound.vbars live shrunk.remains reclaimed⟩

end Operation

/-! ## Drivers that answer -/

/-- The calls that an eviction makes. -/
def DriverCall.Evicts : DriverCall → Prop
  | .synchronize | .unmap _ _ | .release _ => True
  | _ => False

/-- The driver answers every call of an eviction; its answers may be anything. -/
def AnswersEvictions (σ : Type) [Host σ] : Prop :=
  ∀ {call : DriverCall} (host : σ), call.Evicts →
    Ensures (fun _ => False) (Host.call call) host fun _ _ => True

namespace Addressing

variable {σ : Type} [Host σ] {addressing : Addressing σ}

/-- What a call leaves, if it always answers. -/
theorem answered {call : DriverCall} {host : σ} {aborts never : Overflow → Prop}
    {post : Except DriverError call.Answer → σ → Prop} (answers : AnswersEvictions σ)
    (evicts : call.Evicts) (ensured : Ensures aborts (Host.call call) host post) :
    Ensures never (Host.call call) host post := by
  have both := (answers host evicts).also (ensured.weaken fun _ _ => trivial)
  exact (both.mono fun _ _ => And.right).weaken fun _ => False.elim

/-- The books of a driver that keeps its address ranges apart and answers evictions. -/
def answeringLedger (addressing : Addressing σ) (answers : AnswersEvictions σ) : Ledger σ :=
  { addressing.ledger with
    mayStop := False
    regionEnds := fun agrees => .inl (addressing.ends agrees)
    synchronize := fun agrees => answered answers trivial (addressing.ledger.synchronize agrees)
    unmap := fun agrees => answered answers trivial (addressing.ledger.unmap agrees)
    release := fun agrees => answered answers trivial (addressing.ledger.release agrees) }

theorem sound_answering {context : Context σ} (answers : AnswersEvictions σ)
    (sound : Sound addressing.ledger context) :
    Sound (addressing.answeringLedger answers) context :=
  ⟨sound.vbars, sound.buffers, sound.valid, sound.allowed, sound.books.agrees,
    sound.books.accounted.held_le, sound.books.accounted.held_eq, sound.books.accounted.word⟩

end Addressing

/-- A bench with a record answers every call of an eviction. -/
theorem Simulation.Traced.answersEvictions : AnswersEvictions (Traced Bench) := by
  intro call host evicts
  refine ensures_call (Bench.ensures_call (fun _ => trivial) fun _ => ?_)
  cases call with
  | synchronize => exact trivial
  | unmap vaddr size => exact (Device.unmap_effect vaddr size).mono fun _ _ _ => trivial
  | release memory => exact (Device.release_effect memory).mono fun _ _ _ => trivial
  | _ => exact evicts.elim

/-! ## Evictions in a run -/

variable {σ : Type} [Host σ] {alters : σ → σ → Prop} {device : Int} {config : Config}
  {host host' : σ} {engine : Engine} {context : Context σ} {operation : Operation}
  {victims : List Handle} {size : Nat} {handle : Handle} {own : Vbar}

/-- An eviction of a size takes exactly the first pages of the order in which its victims give them
up, and returns their bytes, which always are a word. On a driver that keeps its address ranges
apart and answers, it always returns, and these bytes are off the account. -/
theorem evictions_exact (opened : Engine.create device config host = .ok (.ok engine) host')
    (run : Run alters anyOperation ⟨engine, host'⟩ context)
    (evicts : operation.EvictsFrom context.engine.vbars victims size) (positive : 0 < size) :
    min (blocksFor size context.engine.config.vbarPageSize)
        (reclaimOrder context.engine.vbars victims).length *
      context.engine.config.vbarPageSize < wordLimit ∧
    Ensures (fun cause => cause = .overflow) operation.run context (fun outcome after =>
      ∃ freed, Operation.EvictsExactly context after victims size outcome freed) ∧
    ∀ addressing : Addressing σ, addressing.Keeps alters → addressing.reserves host [] →
      AnswersEvictions σ → ∃ outcome after freed, operation.run context = .ok outcome after ∧
        Operation.EvictsExactly context after victims size outcome freed ∧
        after.engine.budget.residentUsage + freed * context.engine.config.vbarPageSize =
          context.engine.budget.residentUsage := by
  have sound := sound_of_run run (sound_of_opened opened)
  refine ⟨?_, ?_, ?_⟩
  · have resident := length_reclaimOrder_le sound.vbars (evicts.nodup sound)
    exact Eviction.freed_small sound.vbarBooks (by omega)
  · apply ((evicts.run_spec sound positive).weaken fun _ => And.right).mono
    intro outcome after done
    obtain ⟨freed, exact, -⟩ := done
    exact ⟨freed, exact⟩
  · intro addressing keeps unused answers
    have sound := Addressing.sound_answering answers
      (Addressing.sound_of_run keeps run (Addressing.sound_of_opened unused opened))
    have returned : Ensures (fun _ => False) operation.run context _ :=
      (evicts.run_spec sound positive).weaken fun _ => And.left
    obtain ⟨outcome, after, ran, freed, exact, usage⟩ := returned.exists_ok
    exact ⟨outcome, after, freed, ran, exact, usage trivial⟩

/-- Two bytes of two VBARs, of which the lower one has one page pinned. -/
theorem evictions_exact_two_vbars : ∃ context after : Context (Traced Bench),
    (Operation.evictGlobal 2).run context = .ok (.ok (.bytes 2)) after ∧
    reclaimOrder context.engine.vbars [⟨0, 0⟩, ⟨1, 0⟩] =
      [(⟨0, 0⟩, 0), (⟨1, 0⟩, 1), (⟨1, 0⟩, 0)] ∧
    EvictedExactly context.engine after.engine [⟨0, 0⟩, ⟨1, 0⟩] 2 2 := by
  have reached : reaches 0 .bytewise (⟨{ device := { capacity := 4 } }, #[]⟩ : Traced Bench)
      anyOperation [.allocateVbar 2 0, .fault ⟨0, 0⟩ 0 2, .unpin ⟨0, 0⟩ 0 1, .allocateVbar 2 0,
        .fault ⟨1, 0⟩ 0 2, .unpin ⟨1, 0⟩ 0 2]
      (fun context => decide (context.engine.config.vbarPageSize = 1 ∧
        context.engine.vbars.handles.reverse = [⟨0, 0⟩, ⟨1, 0⟩] ∧
        reclaimOrder context.engine.vbars [⟨0, 0⟩, ⟨1, 0⟩] =
          [(⟨0, 0⟩, 0), (⟨1, 0⟩, 1), (⟨1, 0⟩, 0)])) = true := by
    decide +kernel
  obtain ⟨engine, host, context, opened, run, passed⟩ :=
    exists_run_of_reaches Traced.Adjusted reached
  obtain ⟨pageSize, handles, order⟩ := of_decide_eq_true passed
  have unused : Device.Unused { capacity := 4 } := ⟨rfl, rfl, rfl, rfl, rfl⟩
  have evicts : (Operation.evictGlobal 2).EvictsFrom context.engine.vbars [⟨0, 0⟩, ⟨1, 0⟩] 2 := by
    rw [← handles]
    exact .all 2
  obtain ⟨outcome, after, freed, ran, exact, -⟩ := (evictions_exact opened run evicts
    (by decide)).2.2 Traced.addressing Traced.keeps_adjusted (Traced.reserves_of_unused unused rfl)
    Traced.answersEvictions
  have evicted := exact.toEvictedExactly
  have handedOut := exact.outcome
  rw [pageSize] at evicted handedOut
  obtain rfl : freed = 2 := by rw [evicted.count, order]; rfl
  subst handedOut
  exact ⟨context, after, ran, order, evicted⟩

/-- An eviction on behalf of a VBAR takes a beginning of the order in which all VBARs give up their
pages: it stops where the pages that the VBAR lacked can be backed, or there are no others. On a
driver that keeps its address ranges apart and answers, it always returns. -/
theorem eviction_for_vbar_in_order
    (opened : Engine.create device config host = .ok (.ok engine) host')
    (run : Run alters anyOperation ⟨engine, host'⟩ context)
    (live : context.engine.vbars.get? handle = some own) (target : Nat) :
    Ensures (fun cause => cause = .overflow) (Operation.evictForVbar handle target).run context
      (fun outcome after => outcome = .ok .done ∧ ∃ freed left,
        EvictedFor context.engine after.engine handle own target freed left) ∧
    ∀ addressing : Addressing σ, addressing.Keeps alters → addressing.reserves host [] →
      AnswersEvictions σ → ∃ after freed left,
        (Operation.evictForVbar handle target).run context = .ok (.ok .done) after ∧
        EvictedFor context.engine after.engine handle own target freed left := by
  constructor
  · have sound := sound_of_run run (sound_of_opened opened)
    exact (Operation.evictForVbar_run_spec sound live).weaken fun _ => And.right
  · intro addressing keeps unused answers
    have sound := Addressing.sound_answering answers
      (Addressing.sound_of_run keeps run (Addressing.sound_of_opened unused opened))
    have returned : Ensures (fun _ => False) (Operation.evictForVbar handle target).run context _ :=
      (Operation.evictForVbar_run_spec sound live).weaken fun _ => And.left
    obtain ⟨_, after, ran, rfl, freed, left, evicted⟩ := returned.exists_ok
    exact ⟨after, freed, left, ran, evicted⟩

/-- A VBAR of two absent pages, above one of two pages that can be given up. -/
theorem eviction_for_vbar_in_order_two_absent : ∃ (context after : Context (Traced Bench))
    (own left : Vbar) (freed : Nat),
    (Operation.evictForVbar ⟨1, 0⟩ 2).run context = .ok (.ok .done) after ∧
    reclaimOrder context.engine.vbars context.engine.vbars.handles.reverse =
      [(⟨0, 0⟩, 1), (⟨0, 0⟩, 0)] ∧
    own.absentBelow 2 = 2 ∧ EvictedFor context.engine after.engine ⟨1, 0⟩ own 2 freed left := by
  have reached : reaches 0 .bytewise (⟨{ device := { capacity := 2 } }, #[]⟩ : Traced Bench)
      anyOperation [.allocateVbar 2 0, .fault ⟨0, 0⟩ 0 2, .unpin ⟨0, 0⟩ 0 2, .allocateVbar 2 0]
      (fun context => decide (reclaimOrder context.engine.vbars
          context.engine.vbars.handles.reverse = [(⟨0, 0⟩, 1), (⟨0, 0⟩, 0)]) &&
        (context.engine.vbars.get? ⟨1, 0⟩).any fun own => own.absentBelow 2 = 2) = true := by
    decide +kernel
  obtain ⟨engine, host, context, opened, run, passed⟩ :=
    exists_run_of_reaches Traced.Adjusted reached
  obtain ⟨order, lacks⟩ := Bool.and_eq_true_iff.mp passed
  obtain ⟨own, live, absent⟩ := (Option.any_eq_true _ _).mp lacks
  have unused : Device.Unused { capacity := 2 } := ⟨rfl, rfl, rfl, rfl, rfl⟩
  obtain ⟨after, freed, left, ran, evicted⟩ := (eviction_for_vbar_in_order opened run live 2).2
    Traced.addressing Traced.keeps_adjusted (Traced.reserves_of_unused unused rfl)
    Traced.answersEvictions
  exact ⟨context, after, own, left, freed, ran, of_decide_eq_true order, of_decide_eq_true absent,
    evicted⟩

end VramOvercommit
