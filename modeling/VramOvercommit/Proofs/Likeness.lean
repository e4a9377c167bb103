import VramOvercommit.Engine.Lifecycle
import VramOvercommit.Proofs.VbarOperations

set_option autoImplicit false

/-!
Two runs of one step. An engine learns about its host only by asking it, so it cannot tell hosts
apart that answer alike and stay alike: it comes to the same result with the same bookkeeping over
both. A relation between hosts has one clause for each question, and every step keeps it.
-/

namespace VramOvercommit

open EngineM
open Attempt (lift)

/-! ## Runs side by side -/

/-- Two runs that end in the same way, with the same result, in related states. -/
inductive SameEnd {ε σ τ α : Type} (related : σ → τ → Prop) :
    EStateM.Result ε σ α → EStateM.Result ε τ α → Prop where
  | ok {value : α} {first : σ} {second : τ} (same : related first second) :
      SameEnd related (.ok value first) (.ok value second)
  | error {cause : ε} {first : σ} {second : τ} (same : related first second) :
      SameEnd related (.error cause first) (.error cause second)

/-- Two steps, run from related states, end in the same way. -/
def InStep {ε σ τ α : Type} (related : σ → τ → Prop) (step : EStateM ε σ α)
    (other : EStateM ε τ α) : Prop :=
  ∀ ⦃first : σ⦄ ⦃second : τ⦄, related first second → SameEnd related (step first) (other second)

section Runs

variable {ε σ τ α β : Type} {related more : σ → τ → Prop} {step : EStateM ε σ α}
  {other : EStateM ε τ α} {next : α → EStateM ε σ β} {otherNext : α → EStateM ε τ β}

theorem SameEnd.mono {one : EStateM.Result ε σ α} {other : EStateM.Result ε τ α}
    (same : SameEnd related one other)
    (weaker : ∀ {first : σ} {second : τ}, related first second → more first second) :
    SameEnd more one other := by
  cases same with
  | ok same => exact .ok (weaker same)
  | error same => exact .error (weaker same)

/-- The two ends of runs that end in the same way. -/
theorem SameEnd.exists_ends {one : EStateM.Result ε σ α} {two : EStateM.Result ε τ α}
    (same : SameEnd related one two) :
    (∃ value first second, one = .ok value first ∧ two = .ok value second ∧
      related first second) ∨
    ∃ cause first second, one = .error cause first ∧ two = .error cause second ∧
      related first second := by
  cases same with
  | ok same => exact .inl ⟨_, _, _, rfl, rfl, same⟩
  | error same => exact .inr ⟨_, _, _, rfl, rfl, same⟩

/-- The rest of two runs that end in the same way up to here. -/
theorem SameEnd.bind {first : σ} {second : τ} (same : SameEnd related (step first) (other second))
    (ok : ∀ value {first : σ} {second : τ}, related first second →
      SameEnd more (next value first) (otherNext value second))
    (error : ∀ {first : σ} {second : τ}, related first second → more first second) :
    SameEnd more ((step >>= next) first) ((other >>= otherNext) second) := by
  change SameEnd more (EStateM.bind step next first) (EStateM.bind other otherNext second)
  unfold EStateM.bind
  obtain ⟨value, _, _, ran, ran', same⟩ | ⟨cause, _, _, ran, ran', same⟩ := same.exists_ends
  · rw [ran, ran']
    exact ok value same
  · rw [ran, ran']
    exact .error (error same)

theorem InStep.bind (steps : InStep related step other)
    (others : ∀ value, InStep related (next value) (otherNext value)) :
    InStep related (step >>= next) (other >>= otherNext) :=
  fun _ _ same => (steps same).bind (fun value _ _ same => others value same) id

theorem InStep.pure (value : α) :
    InStep related (Pure.pure value : EStateM ε σ α) (Pure.pure value) :=
  fun _ _ same => .ok same

end Runs

/-- Two questions have the same answer at related hosts, which are related again after it. -/
def Agrees {σ τ α : Type} (related : σ → τ → Prop) (question : StateM σ α)
    (other : StateM τ α) : Prop :=
  ∀ ⦃first : σ⦄ ⦃second : τ⦄, related first second →
    (question first).1 = (other second).1 ∧ related (question first).2 (other second).2

/-- A relation between hosts that answer alike whatever an engine asks, and stay alike. -/
structure Likeness (σ τ : Type) [Host σ] [Host τ] where
  alike : σ → τ → Prop
  call : ∀ driverCall, InStep alike (Host.call driverCall) (Host.call driverCall)
  log : ∀ (notice : Notice) {first : σ} {second : τ}, alike first second →
    alike (Host.log notice first) (Host.log notice second)
  clock : Agrees alike Host.clock Host.clock
  platformBudget : Agrees alike Host.platformBudget Host.platformBudget
  allocates : ∀ (table : HostTable) (count : Nat),
    Agrees alike (Host.allocates table count) (Host.allocates table count)

namespace Likeness

variable {σ τ α : Type} [Host σ] [Host τ]

theorem room (likeness : Likeness σ τ) (table : HostTable) (count : Nat) :
    Agrees likeness.alike (Host.room table count) (Host.room table count) := by
  unfold Host.room
  split
  · exact fun _ _ alike => ⟨rfl, alike⟩
  · exact likeness.allocates table count

/-- The same engine at work on hosts that are alike. -/
def contexts (likeness : Likeness σ τ) (first : Context σ) (second : Context τ) : Prop :=
  first.engine = second.engine ∧ likeness.alike first.host second.host

/-- Over hosts that are alike, the steps of an engine end in the same way, with the same engine. -/
abbrev Keeps (likeness : Likeness σ τ) (step : EngineM σ α) (other : EngineM τ α) : Prop :=
  InStep likeness.contexts step other

end Likeness

variable {σ τ α β : Type} [Host σ] [Host τ] {likeness : Likeness σ τ}

/-! ## What steps are made of -/

namespace InStep

theorem abort (cause : Abort) :
    likeness.Keeps (EngineM.abort cause : EngineM σ α) (EngineM.abort cause) :=
  fun _ _ same => .error same

theorem engine : likeness.Keeps EngineM.engine EngineM.engine := by
  rintro ⟨engine, first⟩ ⟨_, second⟩ ⟨rfl, alike⟩
  exact .ok ⟨rfl, alike⟩

theorem modifyEngine (change : Engine → Engine) :
    likeness.Keeps (EngineM.modifyEngine change) (EngineM.modifyEngine change) := by
  rintro ⟨engine, first⟩ ⟨_, second⟩ ⟨rfl, alike⟩
  exact .ok ⟨rfl, alike⟩

theorem log (notice : Notice) : likeness.Keeps (EngineM.log notice) (EngineM.log notice) := by
  rintro ⟨engine, first⟩ ⟨_, second⟩ ⟨rfl, alike⟩
  exact .ok ⟨rfl, likeness.log notice alike⟩

theorem ask {question : StateM σ α} {other : StateM τ α}
    (agrees : Agrees likeness.alike question other) :
    likeness.Keeps (onHost (HostM.ask question)) (onHost (HostM.ask other)) := by
  rintro ⟨engine, first⟩ ⟨_, second⟩ ⟨rfl, alike⟩
  obtain ⟨answer, alike⟩ := agrees alike
  change SameEnd likeness.contexts (.ok (question first).1 ⟨engine, (question first).2⟩)
    (.ok (other second).1 ⟨engine, (other second).2⟩)
  rw [show (question first).1 = (other second).1 from answer]
  exact .ok ⟨rfl, alike⟩

theorem allocates (table : HostTable) (count : Nat) :
    likeness.Keeps (EngineM.allocates table count) (EngineM.allocates table count) :=
  ask (likeness.room table count)

theorem allocatesBeside (table : HostTable) (held count bytesEach : Nat) :
    likeness.Keeps (EngineM.allocatesBeside table held count bytesEach)
      (EngineM.allocatesBeside table held count bytesEach) := by
  refine ask ?_
  unfold Host.roomBeside
  split
  · exact likeness.room table count
  · exact fun _ _ alike => ⟨rfl, alike⟩

theorem call (driverCall : DriverCall) :
    likeness.Keeps (EngineM.call driverCall) (EngineM.call driverCall) := by
  rintro ⟨engine, first⟩ ⟨_, second⟩ ⟨rfl, alike⟩
  unfold EngineM.call onHost HostM.call
  dsimp only
  obtain ⟨answer, _, _, ran, ran', alike⟩ | ⟨overflow, _, _, ran, ran', alike⟩ :=
    (likeness.call driverCall alike).exists_ends
  · rw [ran, ran']
    exact .ok ⟨rfl, alike⟩
  · rw [ran, ran']
    exact .error ⟨rfl, alike⟩

/-- A call with what follows each of its answers. -/
theorem call_bind {driverCall : DriverCall}
    {next : Except DriverError driverCall.Answer → EngineM σ β}
    {otherNext : Except DriverError driverCall.Answer → EngineM τ β}
    (ok : ∀ answer, likeness.Keeps (next (.ok answer)) (otherNext (.ok answer)))
    (error : ∀ cause, likeness.Keeps (next (.error cause)) (otherNext (.error cause))) :
    likeness.Keeps (EngineM.call driverCall >>= next) (EngineM.call driverCall >>= otherNext) :=
  (call driverCall).bind fun answer => match answer with
    | .ok answer => ok answer
    | .error cause => error cause

theorem pageSize : likeness.Keeps EngineM.pageSize EngineM.pageSize :=
  engine.bind fun _ => pure _

theorem vbar? (handle : Handle) : likeness.Keeps (EngineM.vbar? handle) (EngineM.vbar? handle) :=
  engine.bind fun _ => pure _

theorem ensure (value : Except Abort α) :
    likeness.Keeps (EngineM.ensure value) (EngineM.ensure value) := by
  cases value with
  | ok value => exact pure value
  | error cause => exact abort cause

theorem word (value : Nat) : likeness.Keeps (EngineM.word value) (EngineM.word value) := by
  unfold EngineM.word
  split
  · exact pure value
  · exact abort .overflow

theorem forM {items : List α} {step : α → EngineM σ Unit} {other : α → EngineM τ Unit}
    (each : ∀ item, likeness.Keeps (step item) (other item)) :
    likeness.Keeps (items.forM step) (items.forM other) := by
  induction items with
  | nil => exact pure ()
  | cons item rest ih => exact (each item).bind fun _ => ih

theorem checkVbars : likeness.Keeps EngineM.checkVbars EngineM.checkVbars :=
  engine.bind fun _ => forM fun _ => ensure _

theorem putVbar (handle : Handle) (vbar : Vbar) :
    likeness.Keeps (EngineM.putVbar handle vbar) (EngineM.putVbar handle vbar) :=
  modifyEngine _

theorem markDirty : likeness.Keeps EngineM.markDirty EngineM.markDirty :=
  modifyEngine _

/-! ### Steps that can fail -/

theorem run_lift {step : EngineM σ α} {other : EngineM τ α} (steps : likeness.Keeps step other) :
    likeness.Keeps (lift step).run (lift other).run :=
  steps.bind fun value => pure (Except.ok value)

section Binds

variable {next : α → Attempt σ β} {otherNext : α → Attempt τ β}
  (others : ∀ value, likeness.Keeps (next value).run (otherNext value).run)

include others

theorem run_bind {step : Attempt σ α} {other : Attempt τ α}
    (steps : likeness.Keeps step.run other.run) :
    likeness.Keeps (step >>= next).run (other >>= otherNext).run :=
  steps.bind fun result => match result with
    | .ok value => others value
    | .error cause => pure (Except.error cause)

/-- A step that cannot fail before those that can. -/
theorem lift_bind {step : EngineM σ α} {other : EngineM τ α} (steps : likeness.Keeps step other) :
    likeness.Keeps (lift step >>= next).run (lift other >>= otherNext).run :=
  steps.run_lift.run_bind others

end Binds

theorem run_vbar (handle : Handle) :
    likeness.Keeps (Attempt.vbar handle).run (Attempt.vbar handle).run := by
  refine (vbar? handle).lift_bind fun found => ?_
  cases found <;> exact pure _

theorem run_buffer (base : Nat) :
    likeness.Keeps (Attempt.buffer base).run (Attempt.buffer base).run := by
  refine engine.lift_bind fun engine => ?_
  split <;> exact pure _

end InStep

/-! ## Memory -/

namespace Memory

theorem freeAddress_alike (vaddr size : Nat) :
    likeness.Keeps (freeAddress vaddr size) (freeAddress vaddr size) :=
  .call_bind (fun _ => .pure ()) fun _ => .log _

theorem giveBack_alike (memory : PhysicalHandle) :
    likeness.Keeps (giveBack memory) (giveBack memory) :=
  .call_bind (fun _ => .pure ()) fun _ => .log _

theorem recordCommit_alike (size : Nat) : likeness.Keeps (recordCommit size) (recordCommit size) :=
  InStep.engine.bind fun _ => (InStep.ensure _).bind fun _ => .modifyEngine _

theorem recordRelease_alike (size : Nat) :
    likeness.Keeps (recordRelease size) (recordRelease size) :=
  InStep.engine.bind fun _ => (InStep.ensure _).bind fun _ => .modifyEngine _

theorem commit_alike (vaddr size : Nat) (device : Int) :
    likeness.Keeps (commit vaddr size device) (commit vaddr size device) := by
  have undone : ∀ (memory : PhysicalHandle) (cause : DriverError), likeness.Keeps
      (do giveBack memory; return (.error cause : Except DriverError PhysicalHandle))
      (do giveBack memory; return .error cause) := fun memory cause =>
    (giveBack_alike memory).bind fun _ => .pure _
  refine .call_bind (fun memory => ?_) fun cause => .pure _
  refine .call_bind (fun _ => ?_) fun cause => undone memory cause
  refine .call_bind (fun _ => ?_) fun cause => ?_
  · exact (recordCommit_alike size).bind fun _ => (InStep.log _).bind fun _ => .pure _
  · exact .call_bind (fun _ => (InStep.pure ()).bind fun _ => undone memory cause)
      fun _ => (InStep.log _).bind fun _ => undone memory cause

theorem release_alike (vaddr size : Nat) (memory : PhysicalHandle) :
    likeness.Keeps (release vaddr size memory) (release vaddr size memory) := by
  have others : likeness.Keeps
      (do giveBack memory; recordRelease size; EngineM.log (.released size vaddr))
      (do giveBack memory; recordRelease size; EngineM.log (.released size vaddr)) :=
    (giveBack_alike memory).bind fun _ => (recordRelease_alike size).bind fun _ => .log _
  exact .call_bind (fun _ => (InStep.pure ()).bind fun _ => others)
    fun _ => (InStep.log _).bind fun _ => others

theorem synchronize_alike : likeness.Keeps synchronize synchronize :=
  .call_bind (fun _ => .pure ()) fun _ => .log _

theorem info_alike : likeness.Keeps info info :=
  .call_bind (fun _ => .pure _) fun _ => (InStep.log _).bind fun _ => .pure _

theorem poll_alike : likeness.Keeps poll poll := by
  refine (InStep.ask likeness.clock).bind fun now => InStep.engine.bind fun engine => ?_
  dsimp only
  split
  · exact (InStep.ask likeness.platformBudget).bind fun _ => .modifyEngine _
  · exact .pure ()

theorem deficit_alike (device : Int) (extra : Nat) :
    likeness.Keeps (deficit device extra) (deficit device extra) := by
  refine info_alike.bind fun _ => poll_alike.bind fun _ => InStep.engine.bind fun engine => ?_
  dsimp only
  split
  · exact (InStep.log _).bind fun _ => .pure _
  · exact .pure _

end Memory

/-! ## Reclaiming -/

namespace Eviction

theorem evictPage_alike (vbar : Vbar) (index : Nat) (action : PageAction) :
    likeness.Keeps (evictPage vbar index action) (evictPage vbar index action) := by
  refine InStep.pageSize.bind fun pageSize => (InStep.ensure _).bind fun vaddr =>
    (InStep.ensure _).bind fun page => ?_
  dsimp only
  split
  · exact (Memory.release_alike _ _ _).bind fun _ => (InStep.ensure _).bind fun _ => .pure _
  · exact .pure _

theorem lowerWatermark_alike {steps wanted : Nat} {vbar : Vbar} :
    likeness.Keeps (lowerWatermark steps vbar wanted) (lowerWatermark steps vbar wanted) := by
  induction steps generalizing vbar wanted with
  | zero => exact .pure _
  | succ steps ih =>
    unfold lowerWatermark
    split
    · exact .pure _
    · refine (evictPage_alike _ _ _).bind fun evicted => ?_
      obtain ⟨vbar, freed⟩ := evicted
      cases freed with
      | true => exact ih.bind fun _ => .pure _
      | false => exact ih

theorem shrinkTail_alike (handle : Handle) (wanted : Nat) :
    likeness.Keeps (shrinkTail handle wanted) (shrinkTail handle wanted) := by
  refine (InStep.vbar? handle).bind fun found => ?_
  cases found with
  | none => exact .pure 0
  | some vbar =>
    exact lowerWatermark_alike.bind fun _ => (InStep.putVbar _ _).bind fun _ => .pure _

theorem shrinkEach_alike {wanted : Nat} {handles : List Handle} :
    likeness.Keeps (shrinkEach wanted handles) (shrinkEach wanted handles) := by
  induction handles generalizing wanted with
  | nil => exact .pure wanted
  | cons handle rest ih => exact (shrinkTail_alike handle wanted).bind fun _ => ih

theorem evictGlobal_alike (size : Nat) : likeness.Keeps (evictGlobal size) (evictGlobal size) := by
  refine InStep.pageSize.bind fun pageSize => ?_
  dsimp only
  split
  · exact .pure 0
  · exact (InStep.log _).bind fun _ => Memory.synchronize_alike.bind fun _ =>
      InStep.engine.bind fun _ => shrinkEach_alike.bind fun _ => (InStep.word _).bind fun _ =>
      InStep.markDirty.bind fun _ => InStep.checkVbars.bind fun _ => (InStep.log _).bind fun _ =>
      .pure _

theorem shrinkUntil_alike {handle victim : Handle} {target steps cursor : Nat} :
    likeness.Keeps (shrinkUntil handle victim target steps cursor)
      (shrinkUntil handle victim target steps cursor) := by
  induction steps generalizing cursor with
  | zero => exact .pure cursor
  | succ steps ih =>
    unfold shrinkUntil
    refine (InStep.vbar? handle).bind fun own => ?_
    cases own with
    | none => exact .pure cursor
    | some own =>
      refine (InStep.vbar? victim).bind fun vbar => ?_
      cases vbar with
      | none => exact .pure cursor
      | some vbar =>
        dsimp only
        split
        · exact .pure cursor
        · refine (evictPage_alike _ _ _).bind fun evicted =>
            (InStep.putVbar _ _).bind fun _ => ?_
          obtain ⟨vbar, freed⟩ := evicted
          cases freed with
          | false => exact ih
          | true =>
            refine (InStep.vbar? handle).bind fun own => ?_
            cases own with
            | none => exact .pure cursor
            | some own => exact (InStep.ensure _).bind fun _ => ih

theorem shrinkEachUntil_alike {handle : Handle} {target cursor : Nat} {victims : List Handle} :
    likeness.Keeps (shrinkEachUntil handle target victims cursor)
      (shrinkEachUntil handle target victims cursor) := by
  induction victims generalizing cursor with
  | nil => exact .pure ()
  | cons victim rest ih =>
    unfold shrinkEachUntil
    refine (InStep.vbar? victim).bind fun vbar => ?_
    cases vbar with
    | none => exact ih
    | some vbar => exact shrinkUntil_alike.bind fun _ => ih

theorem evictForVbar_alike (handle : Handle) (target : Nat) :
    likeness.Keeps (evictForVbar handle target) (evictForVbar handle target) := by
  refine (InStep.vbar? handle).bind fun own => ?_
  cases own with
  | none => exact .pure ()
  | some own =>
    exact (InStep.ensure _).bind fun _ => Memory.synchronize_alike.bind fun _ =>
      InStep.engine.bind fun _ => shrinkEachUntil_alike.bind fun _ =>
      InStep.markDirty.bind fun _ => .checkVbars

theorem shrinkVbar_alike (handle : Handle) (size : Nat) :
    likeness.Keeps (shrinkVbar handle size).run (shrinkVbar handle size).run := by
  refine (InStep.log _).lift_bind fun _ => InStep.pageSize.lift_bind fun pageSize =>
    (InStep.run_vbar handle).run_bind fun _ => ?_
  split
  · exact .pure _
  · exact (Memory.synchronize_alike.bind fun _ => (shrinkTail_alike _ _).bind fun _ =>
      (InStep.word _).bind fun _ => InStep.markDirty.bind fun _ =>
      InStep.checkVbars.bind fun _ => (InStep.log _).bind fun _ => .pure _).run_lift

end Eviction

/-! ## VBARs -/

namespace Vbars

theorem reservePages_alike (nrPages size : Nat) :
    likeness.Keeps (reservePages nrPages size).run (reservePages nrPages size).run := by
  refine (InStep.allocatesBeside _ _ _ _).lift_bind fun granted => ?_
  split
  · refine (InStep.call _).lift_bind fun answer => ?_
    cases answer with
    | ok base => exact .pure _
    | error cause => exact (InStep.log _).lift_bind fun _ => .pure _
  · exact (InStep.log _).lift_bind fun _ => .pure _

theorem allocatesSlot_alike : likeness.Keeps allocatesSlot allocatesSlot := by
  refine InStep.engine.bind fun engine => ?_
  dsimp only
  split
  · refine (InStep.allocates _ _).bind fun granted => ?_
    split
    · exact .allocates _ _
    · exact .pure _
  · exact .pure _

theorem insert_alike (vbar : Vbar) (size : Nat) :
    likeness.Keeps (insert vbar size).run (insert vbar size).run := by
  refine allocatesSlot_alike.lift_bind fun granted => ?_
  split
  · exact (InStep.engine.bind fun _ => (InStep.ensure _).bind fun _ =>
      (InStep.modifyEngine _).bind fun _ => .pure _).run_lift
  · exact ((InStep.log _).bind fun _ => Memory.freeAddress_alike _ _).lift_bind fun _ => .pure _

theorem allocate_alike (size : Nat) (device : Int) :
    likeness.Keeps (allocate size device).run (allocate size device).run :=
  (InStep.log _).lift_bind fun _ => InStep.engine.lift_bind fun _ =>
    (InStep.word _).lift_bind fun _ => (reservePages_alike _ _).run_bind fun _ =>
      (insert_alike _ _).run_bind fun _ => (InStep.markDirty.bind fun _ =>
        InStep.checkVbars.bind fun _ => .log _).lift_bind fun _ => .pure _

theorem prioritize_alike (handle : Handle) :
    likeness.Keeps (prioritize handle).run (prioritize handle).run :=
  (InStep.log _).lift_bind fun _ => (InStep.run_vbar handle).run_bind fun _ =>
    (InStep.engine.bind fun _ => (InStep.ensure _).bind fun _ =>
      (InStep.modifyEngine _).bind fun _ => (InStep.putVbar _ _).bind fun _ =>
      InStep.markDirty.bind fun _ => .checkVbars).run_lift

theorem deprioritize_alike (handle : Handle) :
    likeness.Keeps (deprioritize handle).run (deprioritize handle).run :=
  (InStep.log _).lift_bind fun _ => (InStep.run_vbar handle).run_bind fun _ =>
    (InStep.engine.bind fun _ => (InStep.ensure _).bind fun _ =>
      (InStep.modifyEngine _).bind fun _ => .markDirty).run_lift

theorem setWatermarkLimit_alike (handle : Handle) (size : Nat) :
    likeness.Keeps (setWatermarkLimit handle size).run (setWatermarkLimit handle size).run :=
  (InStep.run_vbar handle).run_bind fun _ => (InStep.pageSize.bind fun _ =>
    (InStep.putVbar _ _).bind fun _ => (InStep.log _).bind fun _ =>
    InStep.markDirty.bind fun _ => .checkVbars).run_lift

theorem clearLimit_alike (handle : Handle) :
    likeness.Keeps (clearLimit handle) (clearLimit handle) := by
  refine (InStep.vbar? handle).bind fun found => ?_
  cases found with
  | none => exact .pure ()
  | some vbar => exact .putVbar _ _

theorem resetWatermarkLimits_alike : likeness.Keeps resetWatermarkLimits resetWatermarkLimits :=
  (InStep.log _).bind fun _ => InStep.engine.bind fun _ =>
    (InStep.forM clearLimit_alike).bind fun _ => .markDirty

theorem audit_alike : likeness.Keeps audit audit := by
  refine InStep.engine.bind fun engine => ?_
  dsimp only
  split
  · exact (InStep.modifyEngine _).bind fun _ => (InStep.log _).bind fun _ =>
      (InStep.forM fun _ => .log _).bind fun _ => (InStep.log _).bind fun _ => .pure _
  · exact .pure none

theorem unpinPages_alike {count index : Nat} {vbar : Vbar} :
    likeness.Keeps (unpinPages count index vbar) (unpinPages count index vbar) := by
  induction count generalizing index vbar with
  | zero => exact .pure vbar
  | succ count ih => exact (Eviction.evictPage_alike _ _ _).bind fun _ => ih

theorem unpin_alike (handle : Handle) (offset size : Nat) :
    likeness.Keeps (unpin handle offset size).run (unpin handle offset size).run := by
  rw [unpin_eq, unpin_eq]
  refine (InStep.run_vbar handle).run_bind fun vbar =>
    (InStep.pageSize.bind fun pageSize => ?_).run_lift
  rw [unpinRange_eq, unpinRange_eq]
  split
  · exact Memory.synchronize_alike.bind fun _ => unpinPages_alike.bind fun _ =>
      (InStep.putVbar _ _).bind fun _ => InStep.markDirty.bind fun _ => .checkVbars
  · exact (InStep.pure ()).bind fun _ => unpinPages_alike.bind fun _ =>
      (InStep.putVbar _ _).bind fun _ => InStep.markDirty.bind fun _ => .checkVbars

theorem releasePages_alike {count index : Nat} {vbar : Vbar} :
    likeness.Keeps (releasePages count index vbar) (releasePages count index vbar) := by
  induction count generalizing index vbar with
  | zero => exact .pure vbar
  | succ count ih => exact (Eviction.evictPage_alike _ _ _).bind fun _ => ih

theorem free_alike (handle : Handle) : likeness.Keeps (free handle).run (free handle).run :=
  (InStep.log _).lift_bind fun _ => (InStep.run_vbar handle).run_bind fun _ =>
    (Memory.synchronize_alike.bind fun _ => InStep.engine.bind fun _ =>
      (InStep.ensure _).bind fun _ => (InStep.modifyEngine _).bind fun _ =>
      releasePages_alike.bind fun _ => InStep.pageSize.bind fun _ => (InStep.word _).bind fun _ =>
      (Memory.freeAddress_alike _ _).bind fun _ => InStep.markDirty.bind fun _ =>
      .checkVbars).run_lift

theorem freeAll_alike : likeness.Keeps freeAll freeAll := by
  have each : ∀ handles : List Handle,
      likeness.Keeps (freeEach handles) (freeEach handles) := by
    intro handles
    induction handles with
    | nil => exact .pure ()
    | cons handle rest ih => exact (free_alike handle).bind fun _ => ih
  exact InStep.engine.bind fun _ => each _

/-! ### Faults -/

theorem backPage_alike (handle : Handle) (vaddr index stop : Nat) (device : Int) :
    likeness.Keeps (backPage handle vaddr index stop device).run
      (backPage handle vaddr index stop device).run := by
  refine InStep.pageSize.lift_bind fun pageSize =>
    (Memory.commit_alike _ _ _).lift_bind fun result => ?_
  rcases result with (_ | code) | memory
  · refine ((InStep.log _).bind fun _ => Eviction.evictForVbar_alike handle stop).lift_bind
      fun _ => (InStep.run_vbar handle).run_bind fun vbar => ?_
    split
    · exact (InStep.log _).lift_bind fun _ => .pure _
    · refine (Memory.commit_alike _ _ _).lift_bind fun result => ?_
      rcases result with (_ | code) | memory
      · exact (InStep.log _).lift_bind fun _ => .pure _
      · exact (InStep.log _).lift_bind fun _ => .pure _
      · exact .pure _
  · exact (InStep.log _).lift_bind fun _ => .pure _
  · exact .pure _

theorem faultPage_alike (handle : Handle) (index stop : Nat) :
    likeness.Keeps (faultPage handle index stop).run (faultPage handle index stop).run := by
  refine (InStep.run_vbar handle).run_bind fun vbar => ?_
  split
  · exact .pure _
  · refine (InStep.ensure _).lift_bind fun page => ?_
    split
    · exact .pure _
    · exact InStep.pageSize.lift_bind fun _ => (InStep.ensure _).lift_bind fun _ =>
        (backPage_alike _ _ _ _ _).run_bind fun _ => (InStep.run_vbar handle).run_bind fun _ =>
        ((InStep.ensure _).bind fun _ => (InStep.putVbar _ _).bind fun _ => .pure _).run_lift

theorem faultPages_alike {handle : Handle} {stop count index : Nat} :
    likeness.Keeps (faultPages handle stop count index).run
      (faultPages handle stop count index).run := by
  induction count generalizing index with
  | zero => exact .pure _
  | succ count ih =>
    exact (faultPage_alike handle index stop).run_bind fun _ => ih.run_bind fun _ => .pure _

theorem faultAndPin_alike (handle : Handle) (start stop : Nat) :
    likeness.Keeps (faultAndPin handle start stop).run (faultAndPin handle start stop).run :=
  faultPages_alike.run_bind fun _ => (InStep.run_vbar handle).run_bind fun _ =>
    ((InStep.ensure _).bind fun _ => .putVbar _ _).lift_bind fun _ => .pure _

theorem fault_alike (handle : Handle) (offset size : Nat) :
    likeness.Keeps (fault handle offset size).run (fault handle offset size).run := by
  rw [fault_eq, fault_eq]
  refine (InStep.log _).lift_bind fun _ => (InStep.run_vbar handle).run_bind fun vbar =>
    InStep.pageSize.lift_bind fun pageSize => ?_
  unfold faultRange
  split
  · exact (InStep.log _).lift_bind fun _ => .pure _
  refine (InStep.allocates _ _).lift_bind fun granted => ?_
  split
  · refine (InStep.markDirty.bind fun _ => (faultAndPin_alike _ _ _).bind fun _ =>
      InStep.checkVbars.bind fun _ => (InStep.log _).bind fun _ => .pure _).lift_bind
      fun result => ?_
    cases result <;> exact .pure _
  · exact .pure _

end Vbars

/-! ## Buffers -/

namespace Buffers

theorem roundToUnit_alike (size : Nat) :
    likeness.Keeps (roundToUnit size).run (roundToUnit size).run := by
  refine InStep.engine.lift_bind fun engine => ?_
  split
  · exact .pure _
  · exact (InStep.log _).lift_bind fun _ => .pure _

theorem create_alike (device : Int) (maxSize : Nat) :
    likeness.Keeps (create device maxSize).run (create device maxSize).run := by
  refine (roundToUnit_alike maxSize).run_bind fun size =>
    (InStep.allocates _ _).lift_bind fun granted => ?_
  split
  · refine (InStep.call _).lift_bind fun answer => ?_
    cases answer with
    | ok base => exact (InStep.modifyEngine _).lift_bind fun _ => .pure _
    | error cause => exact (InStep.log _).lift_bind fun _ => .pure _
  · exact .pure _

theorem backChunk_alike (vaddr size : Nat) (device : Int) :
    likeness.Keeps (backChunk vaddr size device).run (backChunk vaddr size device).run := by
  refine (Memory.commit_alike _ _ _).lift_bind fun result => ?_
  rcases result with (_ | code) | memory
  · refine ((InStep.log _).bind fun _ => InStep.engine.bind fun _ =>
      (Eviction.evictGlobal_alike _).bind fun _ => .pure _).lift_bind fun _ =>
      (Memory.commit_alike _ _ _).lift_bind fun result => ?_
    cases result with
    | ok memory => exact .pure _
    | error cause => exact (InStep.log _).lift_bind fun _ => .pure _
  · exact (InStep.log _).lift_bind fun _ => .pure _
  · exact .pure _

theorem addChunks_alike {target count : Nat} {buffer : Buffer} :
    likeness.Keeps (addChunks target count buffer) (addChunks target count buffer) := by
  induction count generalizing buffer with
  | zero => exact .pure _
  | succ count ih =>
    refine InStep.engine.bind fun _ => (InStep.word _).bind fun _ =>
      (backChunk_alike _ _ _).bind fun result => ?_
    cases result with
    | error cause => exact .pure _
    | ok backing => exact (InStep.log _).bind fun _ => ih

theorem grow_alike (base required : Nat) :
    likeness.Keeps (grow base required).run (grow base required).run := by
  refine (InStep.run_buffer base).run_bind fun buffer => ?_
  split
  · exact .pure _
  · split
    · exact .pure _
    · refine InStep.engine.lift_bind fun engine =>
        (InStep.allocatesBeside _ _ _ _).lift_bind fun granted => ?_
      split
      · exact (Memory.deficit_alike _ _).bind fun _ => (Eviction.evictGlobal_alike _).bind
          fun _ => addChunks_alike.bind fun _ => (InStep.modifyEngine _).bind fun _ => .pure _
      · exact .pure _

theorem releaseChunks_alike {chunks : List Chunk} {vaddr : Nat} :
    likeness.Keeps (releaseChunks chunks vaddr) (releaseChunks chunks vaddr) := by
  induction chunks generalizing vaddr with
  | nil => exact .pure ()
  | cons chunk rest ih =>
    exact (InStep.word _).bind fun _ => (Memory.release_alike _ _ _).bind fun _ => ih

theorem discard_alike (buffer : Buffer) : likeness.Keeps (discard buffer) (discard buffer) :=
  releaseChunks_alike.bind fun _ => Memory.freeAddress_alike _ _

theorem destroy_alike (base : Nat) : likeness.Keeps (destroy base).run (destroy base).run :=
  (InStep.run_buffer base).run_bind fun _ =>
    ((InStep.modifyEngine _).bind fun _ => discard_alike _).run_lift

theorem allocate_alike (size : Nat) (device : Int) :
    likeness.Keeps (allocate size device).run (allocate size device).run := by
  refine (InStep.log _).lift_bind fun _ => (roundToUnit_alike size).run_bind fun size =>
    (create_alike device size).run_bind fun base => (grow_alike base size).lift_bind
    fun result => ?_
  cases result with
  | ok _ => exact (InStep.log _).lift_bind fun _ => .pure _
  | error cause =>
    exact (InStep.log _).lift_bind fun _ => (destroy_alike base).run_bind fun _ => .pure _

theorem free_alike (base : Nat) : likeness.Keeps (free base) (free base) := by
  unfold free
  split
  · exact .pure ()
  · refine (destroy_alike base).bind fun result => ?_
    cases result <;> exact .log _

theorem destroyAll_alike : likeness.Keeps destroyAll destroyAll :=
  InStep.engine.bind fun _ => (InStep.modifyEngine _).bind fun _ => .forM discard_alike

theorem report_alike : likeness.Keeps report report := by
  refine (InStep.log _).bind fun _ => InStep.engine.bind fun engine => ?_
  dsimp only
  split
  · exact .log _
  · exact .forM fun _ => .log _

end Buffers

/-! ## Contexts as a whole -/

namespace Engine

theorem close_alike : likeness.Keeps close close :=
  Vbars.freeAll_alike.bind fun _ => Buffers.destroyAll_alike.bind fun _ =>
    InStep.engine.bind fun _ => .log _

theorem analyze_alike : likeness.Keeps analyze analyze := by
  have stats : likeness.Keeps stats stats :=
    Memory.info_alike.bind fun _ => InStep.engine.bind fun _ => .pure _
  have others : likeness.Keeps
      (do let report ← Vbars.audit; Buffers.report; return report)
      (do let report ← Vbars.audit; Buffers.report; return report) :=
    Vbars.audit_alike.bind fun _ => Buffers.report_alike.bind fun _ => .pure _
  refine stats.bind fun stats => (InStep.log _).bind fun _ => (InStep.log _).bind fun _ => ?_
  split
  · exact (InStep.log _).bind fun _ => others
  · exact (InStep.pure ()).bind fun _ => others

/-- Over hosts that are alike, an engine ends up as the same one. -/
theorem run_alike {step : EngineM σ α} {other : EngineM τ α} (steps : likeness.Keeps step other)
    (engine : Engine) : InStep likeness.alike (engine.run step) (engine.run other) := by
  intro first second alike
  have start : likeness.contexts ⟨engine, first⟩ ⟨engine, second⟩ := ⟨rfl, alike⟩
  unfold run
  obtain ⟨value, _, _, ran, ran', engines, alike⟩ | ⟨cause, _, _, ran, ran', _, alike⟩ :=
    (steps start).exists_ends
  · rw [ran, ran']
    dsimp only
    rw [engines]
    exact .ok alike
  · rw [ran, ran']
    exact .error alike

end Engine

end VramOvercommit
