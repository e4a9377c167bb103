import Mathlib.Algebra.BigOperators.Ring.List
import Mathlib.Algebra.Ring.Nat
import VramOvercommit.Proofs.Addressing
import VramOvercommit.Proofs.AnyDriver
import VramOvercommit.Proofs.AuditReports
import VramOvercommit.Proofs.OperationActions
import VramOvercommit.Proofs.Simulation.TracedBench

set_option autoImplicit false

/-!
Audits that are left out. A report is only given if a change was marked since the last one, so every
change of a VBAR has to be marked before the operation that made it is over.
-/

namespace VramOvercommit

open EngineM
open Attempt (lift)
open Simulation (Bench Device Traced)

variable {σ : Type} [Host σ] {context after : Context σ} {kinds : List ActionKind}

/-! ## Changes that are marked -/

/-- The engine is marked, unless its VBARs are as they were. -/
def Noted (before after : Engine) : Prop :=
  after.dirty = true ∨ after.vbars = before.vbars ∧ after.dirty = before.dirty

theorem Noted.refl (engine : Engine) : Noted engine engine := .inr ⟨rfl, rfl⟩

theorem Noted.trans {before middle after : Engine} (first : Noted before middle)
    (second : Noted middle after) : Noted before after := by
  rcases second with marked | ⟨vbars, dirty⟩
  · exact .inl marked
  · unfold Noted
    rw [vbars, dirty]
    exact first

/-- The actions that change VBARs or take their mark away. -/
def touching : List ActionKind := [.writeVbar, .moveVbar, .addVbar, .removeVbar, .clearMark]

/-- Actions that do not touch VBARs. -/
theorem Actions.noted (actions : Actions kinds context after)
    (denied : ∀ kind ∈ touching, kind ∉ kinds) : Noted context.engine after.engine := by
  simp only [touching, List.forall_mem_cons] at denied
  obtain ⟨write, move, add, remove, clear, -⟩ := denied
  induction actions with
  | refl => exact .refl _
  | tail _ action ih =>
    refine ih.trans ?_
    cases action with
    | mark => exact .inl rfl
    | clearMark allowed => exact absurd allowed clear
    | writeVbar allowed => exact absurd allowed write
    | moveVbar allowed => exact absurd allowed move
    | addVbar allowed => exact absurd allowed add
    | removeVbar allowed => exact absurd allowed remove
    | _ => exact .inr ⟨rfl, rfl⟩

/-- Only one action takes a mark away. -/
theorem Actions.marked (actions : Actions kinds context after) (denied : .clearMark ∉ kinds)
    (marked : context.engine.dirty = true) : after.engine.dirty = true := by
  induction actions with
  | refl => exact marked
  | tail _ action ih =>
    cases action with
    | mark => rfl
    | clearMark allowed => exact absurd allowed denied
    | _ => exact ih

/-- Steps that leave no change without a mark. -/
def noting : Passage σ where
  leads before after := Noted before.engine after.engine
  breaks _ _ := True
  refl context := .refl context.engine
  trans := .trans
  stop _ := trivial
  late _ _ := trivial

/-- Steps that leave a mark where it is. -/
def keepingMarks : Passage σ where
  leads before after := before.engine.dirty = true → after.engine.dirty = true
  breaks _ _ := True
  refl _ := id
  trans first second := second ∘ first
  stop _ := trivial
  late _ _ := trivial

variable {α β : Type}

theorem notes_of_only {step : EngineM σ α} (only : Only kinds step)
    (denied : ∀ kind ∈ touching, kind ∉ kinds) : Passes noting step :=
  Passes.weaken only (fun actions => Actions.noted actions denied) fun _ => trivial

theorem keepsMarks_of_only {step : EngineM σ α} (only : Only kinds step)
    (denied : .clearMark ∉ kinds) : Passes keepingMarks step :=
  Passes.weaken only (fun actions => Actions.marked actions denied) fun _ => trivial

section Marks

omit [Host σ]

/-- The step sets the mark, whatever else it does. -/
def Marks (step : EngineM σ α) : Prop :=
  ∀ context : Context σ, Ensures (fun _ => True) step context
    fun _ after => after.engine.dirty = true

theorem Marks.notes {step : EngineM σ α} (marks : Marks step) : Passes noting step := by
  intro context
  have marked := marks context
  unfold Ensures at marked
  unfold PassesFrom Ends
  split
  · rename_i value after ran
    rw [ran] at marked
    exact .inl marked
  · trivial

/-- A mark that is set at the end makes up for all that comes before. -/
theorem Marks.late {step : EngineM σ α} {next : α → EngineM σ β}
    (marks : ∀ value, Marks (next value)) : Marks (step >>= next) := by
  intro context
  rw [ensures_bind]
  exact ensures_any fun value after => marks value after

/-- A mark that is set stays. -/
theorem Marks.stays {rest : Unit → EngineM σ β}
    (keeps : ∀ value, Passes keepingMarks (rest value)) : Marks (markDirty >>= rest) := by
  intro context
  rw [ensures_bind, ensures_markDirty]
  exact (keeps () _).ensures.mono fun _ after leads => leads rfl

theorem Marks.lift {step : EngineM σ α} (marks : Marks step) :
    Passes noting (lift step : Attempt σ α).run :=
  marks.notes.run_lift

theorem Marks.marked : Marks (markDirty : EngineM σ Unit) := fun _ => rfl

theorem Marks.checked : Marks (do markDirty; checkVbars : EngineM σ Unit) :=
  .stays fun _ => Passes.checkVbars

end Marks

theorem logs_note (notice : Notice) : Passes noting (log notice : EngineM σ Unit) :=
  notes_of_only (Only.log notice : Only [] _) (by decide)

theorem logs_keepMarks (notice : Notice) : Passes keepingMarks (log notice : EngineM σ Unit) :=
  keepsMarks_of_only (Only.log notice : Only [] _) (by decide)

/-! ## Operation by operation -/

namespace Eviction

theorem evictGlobal_notes (size : Nat) : Passes noting (evictGlobal size : EngineM σ Nat) := by
  refine Passes.pageSize.bind fun pageSize => ?_
  dsimp only
  split
  · exact .pure 0
  · refine Marks.notes (.late fun _ => .late fun _ => .late fun _ => .late fun _ => .late fun _ =>
      .stays fun _ => ?_)
    exact Passes.checkVbars.bind fun _ => (logs_keepMarks _).bind fun _ => .pure _

theorem evictForVbar_notes (handle : Handle) (target : Nat) :
    Passes noting (evictForVbar handle target : EngineM σ Unit) := by
  refine (Passes.vbar? handle).bind fun own => ?_
  cases own with
  | none => exact .pure ()
  | some own =>
    exact Marks.notes (.late fun _ => .late fun _ => .late fun _ => .late fun _ => .checked)

theorem shrinkVbar_notes (handle : Handle) (size : Nat) :
    Passes noting (shrinkVbar handle size : Attempt σ Nat).run := by
  refine (logs_note _).lift_bind fun _ => Passes.pageSize.lift_bind fun pageSize =>
    (Passes.run_vbar handle).run_bind fun _ => ?_
  split
  · exact .pure _
  · refine Marks.lift (.late fun _ => .late fun _ => .late fun _ => .stays fun _ => ?_)
    exact Passes.checkVbars.bind fun _ => (logs_keepMarks _).bind fun _ => .pure _

end Eviction

namespace Vbars

theorem allocate_notes (size : Nat) (device : Int) :
    Passes noting (allocate size device : Attempt σ Handle).run := by
  refine (logs_note _).lift_bind fun _ => Passes.engine.lift_bind fun _ =>
    (Passes.word _).lift_bind fun _ =>
    (notes_of_only (reservePages_only (List.mem_singleton_self _) _ _) (by decide)).run_bind
      fun base => ?_
  unfold insert
  rw [bind_assoc]
  refine (notes_of_only (allocatesSlot_only : Only [] _) (by decide)).lift_bind fun granted => ?_
  cases granted with
  | true =>
    refine Marks.notes ?_
    rw [if_pos rfl, Attempt.run_lift_bind]
    refine .late fun handle => ?_
    rw [Attempt.run_lift_bind, bind_assoc]
    exact .stays fun _ => (Passes.checkVbars.bind fun _ => logs_keepMarks _).bind fun _ => .pure _
  | false =>
    rw [if_neg Bool.false_ne_true, bind_assoc]
    refine (notes_of_only ((Only.log _).bind fun _ => Memory.freeAddress_only
      (List.mem_singleton_self _) _ _) (by decide)).lift_bind fun _ => ?_
    exact .pure _

theorem prioritize_notes (handle : Handle) :
    Passes noting (prioritize handle : Attempt σ Unit).run :=
  (logs_note _).lift_bind fun _ => (Passes.run_vbar handle).run_bind fun _ =>
    Marks.lift (.late fun _ => .late fun _ => .late fun _ => .late fun _ => .checked)

theorem deprioritize_notes (handle : Handle) :
    Passes noting (deprioritize handle : Attempt σ Unit).run :=
  (logs_note _).lift_bind fun _ => (Passes.run_vbar handle).run_bind fun _ =>
    Marks.lift (.late fun _ => .late fun _ => .late fun _ => .marked)

theorem setWatermarkLimit_notes (handle : Handle) (size : Nat) :
    Passes noting (setWatermarkLimit handle size : Attempt σ Unit).run :=
  (Passes.run_vbar handle).run_bind fun _ =>
    Marks.lift (.late fun _ => .late fun _ => .late fun _ => .checked)

theorem resetWatermarkLimits_marks : Marks (resetWatermarkLimits : EngineM σ Unit) :=
  .late fun _ => .late fun _ => .late fun _ => .marked

/-- A fault marks the change before it makes it. -/
theorem fault_notes (handle : Handle) (offset size : Nat) :
    Passes noting (fault handle offset size : Attempt σ (List UInt32)).run := by
  have admits : (keepingMarks : Passage σ).Admits :=
    ⟨fun only => keepsMarks_of_only only (by decide), fun only =>
      keepsMarks_of_only ((Memory.synchronize_only (by decide)).bind only) (by decide)⟩
  have commits : ∀ vaddr size device, Passes keepingMarks (Memory.commit vaddr size device :
      EngineM σ (Except DriverError PhysicalHandle)) := fun _ _ _ =>
    keepsMarks_of_only (Memory.commit_only _ _ _) (by decide)
  rw [fault_eq]
  refine (logs_note _).lift_bind fun _ => (Passes.run_vbar handle).run_bind fun vbar =>
    Passes.pageSize.lift_bind fun pageSize => ?_
  unfold faultRange
  split
  · exact (logs_note _).lift_bind fun _ => .pure _
  · refine (notes_of_only (Only.allocates _ _ : Only [] _) (by decide)).lift_bind fun granted => ?_
    split
    · refine (Marks.notes (.stays fun _ => (faultAndPin_passes admits commits _ _ _).bind fun _ =>
        Passes.checkVbars.bind fun _ => (logs_keepMarks _).bind fun _ =>
        .pure _)).lift_bind fun result => ?_
      cases result <;> exact .pure _
    · exact .pure _

theorem unpin_notes (handle : Handle) (offset size : Nat) :
    Passes noting (unpin handle offset size : Attempt σ Unit).run := by
  rw [unpin_eq]
  refine (Passes.run_vbar handle).run_bind fun vbar => (Passes.pageSize.bind fun _ => ?_).run_lift
  rw [unpinRange_eq]
  exact Marks.notes (.late fun _ => .late fun _ => .late fun _ => .checked)

theorem free_notes (handle : Handle) : Passes noting (free handle : Attempt σ Unit).run :=
  (logs_note _).lift_bind fun _ => (Passes.run_vbar handle).run_bind fun _ =>
    Marks.lift (.late fun _ => .late fun _ => .late fun _ => .late fun _ => .late fun _ =>
      .late fun _ => .late fun _ => .late fun _ => .checked)

end Vbars

namespace Buffers

theorem grows_noting : Grows (noting : Passage σ) :=
  ⟨fun only => notes_of_only only (by decide),
    fun _ _ _ => notes_of_only (Memory.commit_only _ _ _) (by decide), Eviction.evictGlobal_notes⟩

end Buffers

/-- Every operation but an audit marks the changes that it makes. -/
theorem Operation.run_notes {operation : Operation} (other : operation ≠ .analyze) :
    Passes noting (operation.run : EngineM σ (Except Error Outcome)) := by
  cases operation with
  | allocateVbar size device => exact handOut_passes (Vbars.allocate_notes size device)
  | fault vbar offset size => exact handOut_passes (Vbars.fault_notes vbar offset size)
  | unpin vbar offset size => exact handOut_passes (Vbars.unpin_notes vbar offset size)
  | freeVbar vbar => exact handOut_passes (Vbars.free_notes vbar)
  | prioritize vbar => exact handOut_passes (Vbars.prioritize_notes vbar)
  | deprioritize vbar => exact handOut_passes (Vbars.deprioritize_notes vbar)
  | setWatermarkLimit vbar size => exact handOut_passes (Vbars.setWatermarkLimit_notes vbar size)
  | resetWatermarkLimits => exact handOut_passes (Marks.lift Vbars.resetWatermarkLimits_marks)
  | freeVbarMemory vbar size => exact handOut_passes (Eviction.shrinkVbar_notes vbar size)
  | evictGlobal size => exact handOut_passes (Eviction.evictGlobal_notes size).run_lift
  | evictForVbar vbar target =>
    exact handOut_passes (Eviction.evictForVbar_notes vbar target).run_lift
  | allocate size device =>
    exact handOut_passes (Buffers.allocate_within Buffers.grows_noting
      (fun only => notes_of_only only (by decide)) size device)
  | growBuffer ptr size => exact handOut_passes (Buffers.grow_within Buffers.grows_noting ptr size)
  | free ptr =>
    exact handOut_passes (notes_of_only (Buffers.free_only ptr) (by decide)).run_lift
  | createBuffer device maxSize =>
    exact handOut_passes (notes_of_only (Buffers.create_only device maxSize) (by decide))
  | destroyBuffer ptr =>
    exact handOut_passes (notes_of_only (Buffers.destroy_only ptr) (by decide))
  | deficit extra =>
    have deficit : ∀ device, Passes noting (Memory.deficit device extra : EngineM σ Nat) :=
      fun device => notes_of_only
        (Memory.deficit_only (List.mem_singleton_self _) device extra) (by decide)
    exact (Passes.engine.bind fun _ => (deficit _).bind fun _ => .pure _).run_lift
  | stats =>
    exact handOut_passes (Passes.run_lift
      ((notes_of_only (Memory.info_only (List.mem_singleton_self _)) (by decide)).bind fun _ =>
        Passes.engine.bind fun _ => .pure _))
  | analyze => exact absurd rfl other

/-! ## Runs with audits in between -/

/-- The resident bytes are those of all resident pages. -/
theorem Engine.residentBytes_eq {engine : Engine} :
    engine.audit.residentBytes + (engine.buffers.values.map Buffer.allocated).sum =
      backedBytes engine := by
  unfold Engine.audit backedBytes
  exact congrArg (· + _) (List.sum_map_mul_right engine.vbars.values Vbar.countResident _)

/-- Operations one after the other, with the last report that an audit in between has given. -/
inductive AuditedRun (alters : σ → σ → Prop) (start : Context σ) :
    Context σ → Option AuditReport → Prop
  | start : AuditedRun alters start start none
  | alter {context : Context σ} {last : Option AuditReport} {host : σ} :
      AuditedRun alters start context last → alters context.host host →
      AuditedRun alters start { context with host } last
  | perform {context after : Context σ} {last : Option AuditReport} {operation : Operation}
      {outcome : Except Error Outcome} : AuditedRun alters start context last →
      operation ≠ .analyze → operation.run context = .ok outcome after →
      AuditedRun alters start after last
  | analyze {context after : Context σ} {last report : Option AuditReport} :
      AuditedRun alters start context last → Engine.analyze context = .ok report after →
      AuditedRun alters start after (report.or last)

namespace AuditedRun

variable {alters : σ → σ → Prop} {start : Context σ} {last : Option AuditReport}

/-- An audit is an operation like any other. -/
theorem run (audited : AuditedRun alters start context last) :
    Run alters anyOperation start context := by
  induction audited with
  | start => exact .start
  | alter _ altered ih => exact .alter ih altered
  | perform _ _ ran ih => exact .perform ih ran trivial
  | @analyze context after last report _ ran ih =>
    have handed : Operation.analyze.run context = .ok (.ok (.report report)) after := by
      change (lift Engine.analyze >>= fun report => return .report report : Attempt σ Outcome).run
        context = _
      rw [Attempt.run_lift_bind]
      change EStateM.bind Engine.analyze _ context = _
      unfold EStateM.bind
      rw [ran]
      rfl
    exact .perform ih handed trivial

/-- Operations without an audit. -/
theorem of_run (run : Run alters (fun _ operation _ => operation ≠ .analyze) start context) :
    AuditedRun alters start context none := by
  induction run with
  | start => exact .start
  | alter _ altered ih => exact .alter ih altered
  | perform _ ran other ih => exact .perform ih other ran

/-- As long as no change is marked, a fresh report would be the last one. -/
theorem current (audited : AuditedRun alters start context last)
    (sound : Sound (Ledger.unknown σ) start) (none : start.engine.audit = ⟨[], 0⟩)
    (unmarked : context.engine.dirty = false) :
    context.engine.audit = last.getD ⟨[], 0⟩ := by
  induction audited with
  | start => exact none
  | alter _ _ ih => exact ih unmarked
  | @perform context after last operation outcome earlier other ran ih =>
    have respected := (operation.run_spec (sound_of_run earlier.run sound) rfl
      fun _ => trivial).of_ok ran
    rcases (Operation.run_notes other context).ensures.of_ok ran with marked | ⟨vbars, dirty⟩
    · rw [unmarked] at marked
      cases marked
    · rw [← ih (dirty ▸ unmarked)]
      unfold Engine.audit
      rw [vbars, respected.setting.config]
  | @analyze context after last report earlier ran ih =>
    obtain ⟨-, same, given⟩ := (Engine.analyze_spec (sound_of_run earlier.run sound)).of_ok ran
    have tables : after.engine.audit = context.engine.audit := by
      rw [same]
      rfl
    rw [tables, given]
    cases marked : context.engine.dirty with
    | true => rfl
    | false => exact ih marked

end AuditedRun

variable {alters : σ → σ → Prop} {device : Int} {config : Config} {host host' : σ} {engine : Engine}
  {last : Option AuditReport}

/-- An audit without a report has missed nothing since the last one, whatever the driver answers: the
last report still tells what every VBAR is like, and a fresh one would say the same. An audit with a
report tells what every VBAR is like, and its numbers agree. Together with the buffers the resident
bytes add up to the usage, if the driver keeps its address ranges apart. -/
theorem audits_hide_nothing (opened : Engine.create device config host = .ok (.ok engine) host')
    (audited : AuditedRun alters ⟨engine, host'⟩ context last) :
    Ensures (fun cause => cause = .overflow) Engine.analyze context fun report after =>
      match report with
      | none => (last.getD ⟨[], 0⟩).Describes after.engine ∧
          Ensures (fun cause => cause = .overflow) Engine.analyze
            { after with engine := { after.engine with dirty := true } }
            fun fresh _ => fresh = some (last.getD ⟨[], 0⟩)
      | some report => report.Describes after.engine ∧ report.isConsistent = true ∧
          (∀ audit ∈ report.vbars, audit.Coherent) ∧
          ∀ addressing : Addressing σ, addressing.Keeps alters → addressing.reserves host [] →
            report.residentBytes + (after.engine.buffers.values.map Buffer.allocated).sum =
              after.engine.totalUsage := by
  have start := sound_of_opened opened
  obtain ⟨-, capacity, rfl⟩ := fresh_of_opened opened
  have sound := sound_of_run audited.run start
  have current := audited.current start rfl
  apply (Engine.analyze_spec sound).result.mono
  intro report after outcome
  obtain ⟨ran, sound', same, given⟩ := outcome
  have tables : after.engine.audit = context.engine.audit := by
    rw [same]
    rfl
  cases marked : context.engine.dirty with
  | false =>
    rw [marked] at given
    subst given
    rw [← current marked, ← tables]
    refine ⟨Engine.audit_describes sound'.vbars, ?_⟩
    exact (Engine.analyze_spec (sound'.dirty true)).mono fun fresh _ outcome => outcome.2.report
  | true =>
    rw [marked] at given
    subst given
    rw [if_pos rfl, ← tables]
    have consistent := Engine.isConsistent_audit sound'.vbars
    refine ⟨Engine.audit_describes sound'.vbars, consistent,
      (AuditReport.isConsistent_iff _).mp consistent, fun addressing keeps unused => ?_⟩
    have apart := Addressing.sound_of_run keeps (audited.analyze ran).run
      (Addressing.sound_of_opened unused opened)
    rw [Engine.residentBytes_eq, ← apart.heldBytes]
    exact apart.books.accounted.held_eq trivial

/-- A fault that failed at its second page, next to an allocation of one byte: the first audit tells
of the page that was left, and the second one has nothing to add. -/
theorem audits_hide_nothing_failed_fault :
    ∃ (context first second : Context (Traced Bench)) (report : AuditReport),
      Engine.analyze context = .ok (some report) first ∧ report.residentBytes = 1 ∧
      report.residentBytes + (first.engine.buffers.values.map Buffer.allocated).sum =
        first.engine.totalUsage ∧
      Engine.analyze first = .ok none second ∧ report.Describes second.engine := by
  have reached : reaches 0 .bytewise
      (⟨{ device := { capacity := 4 }, failures := [⟨.map, .failed 1, 1⟩] }, #[]⟩ : Traced Bench)
      (fun _ operation _ => operation ≠ .analyze)
      [.allocateVbar 2 0, .fault ⟨0, 0⟩ 0 2, .allocate 1 0]
      (fun context => decide (Ensures (fun _ => False) Engine.analyze context fun report first =>
        report.map AuditReport.residentBytes = some 1 ∧
          Ensures (fun _ => False) Engine.analyze first fun again _ => again = none)) = true := by
    decide +kernel
  obtain ⟨engine, host, context, opened, run, passed⟩ :=
    exists_run_of_reaches Traced.Adjusted reached
  obtain ⟨_, first, ran, some_byte, again⟩ := (of_decide_eq_true passed).exists_ok
  obtain ⟨report, rfl, bytes⟩ := Option.map_eq_some_iff.mp some_byte
  obtain ⟨_, second, ran', rfl⟩ := again.exists_ok
  have audited := AuditedRun.of_run run
  have unused : Device.Unused { capacity := 4 } := ⟨rfl, rfl, rfl, rfl, rfl⟩
  have told := (audits_hide_nothing opened audited).of_ok ran
  have silent := (audits_hide_nothing opened (audited.analyze ran)).of_ok ran'
  exact ⟨context, first, second, report, ran, bytes, told.2.2.2 Traced.addressing
    Traced.keeps_adjusted (Traced.reserves_of_unused unused rfl), ran', silent.1⟩

end VramOvercommit
