import VramOvercommit.Engine.Operation
import VramOvercommit.Proofs.BufferOperations
import VramOvercommit.Proofs.Faulting
import VramOvercommit.Proofs.VbarLifecycle

set_option autoImplicit false

/-!
Every operation at once: it leaves a sound context, and it takes nothing from a VBAR that it has no
right to take.
-/

namespace VramOvercommit

open EngineM
open Attempt (lift)

variable {σ : Type} [Host σ] {ledger : Ledger σ} {context : Context σ}

/-! ## Questions -/

theorem logEach_spec {α : Type} {items : List α} {notice : α → Notice}
    (sound : Sound ledger context) :
    Ensures ledger.aborts (items.forM fun item => log (notice item)) context (fun _ after =>
      Sound ledger after ∧ after.engine = context.engine) := by
  induction items generalizing context with
  | nil => exact ⟨sound, rfl⟩
  | cons item others ih =>
    change Ensures ledger.aborts
      (log (notice item) >>= fun _ => others.forM fun item => log (notice item)) context _
    rw [ensures_bind, ensures_log]
    exact ih (sound.log _)

/-- What an audit of all VBARs reports. -/
def Engine.audit (engine : Engine) : AuditReport where
  vbars := engine.vbars.toList.map fun entry => VbarAudit.of entry.1 entry.2
  residentBytes := (engine.vbars.values.map fun vbar =>
    vbar.countResident * engine.config.vbarPageSize).sum

/-- An audit takes the mark of a change away, and reports if there is one. -/
structure Engine.Audited (before : Engine) (report : Option AuditReport) (after : Engine) :
    Prop where
  engine : after = { before with dirty := false }
  report : report = if before.dirty then some before.audit else none

theorem Engine.Audited.undisturbed {before after : Engine} {report : Option AuditReport}
    (audited : before.Audited report after) : Undisturbed before after := by
  rw [audited.engine]
  exact ⟨⟨rfl, rfl, rfl⟩, .refl _⟩

theorem Vbars.audit_spec (sound : Sound ledger context) :
    Ensures ledger.aborts audit context (fun report after =>
      Sound ledger after ∧ context.engine.Audited report after.engine) := by
  unfold audit
  rw [ensures_bind, ensures_engine]
  cases marked : context.engine.dirty with
  | true =>
    rw [if_pos rfl, ensures_bind, ensures_modifyEngine, ensures_bind, ensures_log]
    dsimp only
    rw [ensures_bind]
    apply (logEach_spec ((sound.dirty false).log _)).mono
    intro _ after outcome
    obtain ⟨done, same⟩ := outcome
    rw [ensures_bind, ensures_log, ensures_pure]
    refine ⟨done.log _, same, ?_⟩
    rw [if_pos marked]
    unfold Engine.audit PriorityList.values
    rw [List.map_map, List.map_map]
    rfl
  | false =>
    have same : { context.engine with dirty := false } = context.engine := by rw [← marked]
    exact ⟨sound, same.symm, by rw [marked]; rfl⟩

theorem Buffers.report_spec (sound : Sound ledger context) :
    Ensures ledger.aborts report context (fun _ after =>
      Sound ledger after ∧ after.engine = context.engine) := by
  unfold report
  rw [ensures_bind, ensures_log, ensures_bind, ensures_engine]
  dsimp only
  split
  · exact ⟨(sound.log _).log _, rfl⟩
  · exact logEach_spec (sound.log _)

theorem Engine.stats_spec (sound : Sound ledger context) :
    Ensures ledger.aborts stats context (fun _ after =>
      Sound ledger after ∧ after.engine = context.engine) := by
  unfold stats
  rw [ensures_bind]
  apply (Memory.info_spec sound.books).mono
  intro _ after outcome
  obtain ⟨same, books⟩ := outcome
  rw [ensures_bind, ensures_engine, ensures_pure]
  exact ⟨sound.congr (by rw [same]; exact .refl _) books, same⟩

theorem Engine.analyze_spec (sound : Sound ledger context) :
    Ensures ledger.aborts analyze context (fun report after =>
      Sound ledger after ∧ context.engine.Audited report after.engine) := by
  unfold analyze
  rw [ensures_bind]
  apply (stats_spec sound).mono
  intro stats first outcome
  obtain ⟨sound₁, same⟩ := outcome
  have report : ∀ {between : Context σ}, Sound ledger between → between.engine = context.engine →
      Ensures ledger.aborts (do
          let report ← Vbars.audit
          Buffers.report
          return report) between (fun report after =>
        Sound ledger after ∧ context.engine.Audited report after.engine) := by
    intro between sound same
    rw [ensures_bind]
    apply (Vbars.audit_spec sound).mono
    intro _ second outcome
    obtain ⟨sound, audited⟩ := outcome
    rw [same] at audited
    rw [ensures_bind]
    apply (Buffers.report_spec sound).mono
    intro _ after outcome
    obtain ⟨sound, same⟩ := outcome
    exact ⟨sound, same.trans audited.engine, audited.report⟩
  rw [ensures_bind, ensures_log, ensures_bind, ensures_log]
  cases stats.driver with
  | some info =>
    dsimp only
    rw [ensures_bind, ensures_log]
    exact report (((sound₁.log _).log _).log _) same
  | none => exact report ((sound₁.log _).log _) same

/-! ## Closing -/

theorem Vbars.freeEach_spec {handles : List Handle} (sound : Sound ledger context) :
    Ensures ledger.aborts (freeEach handles) context (fun _ after => Sound ledger after) := by
  induction handles generalizing context with
  | nil => exact sound
  | cons handle others ih =>
    unfold freeEach
    rw [ensures_bind]
    exact (free_spec sound).mono fun _ after ⟨done, _⟩ => ih done

/-- Discarding buffers that the table holds no more leaves the memory of the VBARs. -/
theorem Buffers.discardEach_spec {buffers : List Buffer} {regions : List Region}
    {rest : List Holding}
    (books : Books ledger context (buffers.map Buffer.region ++ regions)
      (buffers.flatMap Buffer.holdings ++ rest)) (allowed : ledger.aborts .overflow) :
    Ensures ledger.aborts (buffers.forM discard) context (fun _ after =>
      SameTables context.engine after.engine ∧ Books ledger after regions rest) := by
  induction buffers generalizing context with
  | nil => exact ⟨.refl _, books⟩
  | cons buffer others ih =>
    change Ensures ledger.aborts (discard buffer >>= fun _ => others.forM discard) context _
    rw [List.flatMap_cons, List.append_assoc] at books
    rw [ensures_bind]
    apply (discard_spec books (.inr allowed)).mono
    intro _ middle outcome
    obtain ⟨tables, books⟩ := outcome
    apply (ih books).mono
    intro _ after outcome
    obtain ⟨tables', books⟩ := outcome
    exact ⟨tables.trans tables', books⟩

theorem Buffers.destroyAll_spec (sound : Sound ledger context) (allowed : ledger.aborts .overflow) :
    Ensures ledger.aborts destroyAll context (fun _ after => Sound ledger after) := by
  unfold destroyAll
  rw [ensures_bind, ensures_engine]
  dsimp only
  rw [ensures_bind, ensures_modifyEngine]
  have books : Books ledger ⟨{ context.engine with buffers := {} }, context.host⟩
      (context.engine.buffers.values.map Buffer.region ++
        vbarRegions context.engine.vbars context.engine.config.vbarPageSize)
      (context.engine.buffers.values.flatMap Buffer.holdings ++
        vbarHoldings context.engine.vbars context.engine.config.vbarPageSize) :=
    (sound.books.perm List.perm_append_comm List.perm_append_comm).engine rfl
  apply (discardEach_spec books allowed).mono
  intro _ after outcome
  obtain ⟨tables, books⟩ := outcome
  have buffers : after.engine.buffers = {} := tables.buffers
  refine sound.of_buffers ⟨tables.device, tables.config, tables.capacity⟩ tables.vbars ?_ ?_
  · rw [buffers]
    exact soundBuffers_empty
  · rw [buffers]
    exact books.perm (.of_eq (List.append_nil _).symm) (.of_eq (List.append_nil _).symm)

/-- Closing a context is sound to its end. -/
theorem Engine.close_spec (sound : Sound ledger context) (allowed : ledger.aborts .overflow) :
    Ensures ledger.aborts close context (fun _ after => Sound ledger after) := by
  unfold close Vbars.freeAll
  rw [ensures_bind, ensures_bind, ensures_engine]
  apply (Vbars.freeEach_spec sound).mono
  intro _ middle sound
  rw [ensures_bind]
  apply (Buffers.destroyAll_spec sound allowed).mono
  intro _ after sound
  rw [ensures_bind, ensures_engine, ensures_log]
  exact sound.log _

/-! ## What an operation may take -/

namespace Operation

/-- The VBARs that an operation frees. -/
def frees : Operation → Handle → Prop
  | freeVbar vbar, handle => handle = vbar
  | _, _ => False

/-- The VBARs whose pages an operation may give new backing. -/
def faults : Operation → Handle → Prop
  | fault vbar _ _, handle => handle = vbar
  | _, _ => False

/-- The VBARs whose watermark limit an operation sets. -/
def relimits : Operation → Handle → Prop
  | setWatermarkLimit vbar _, handle => handle = vbar
  | resetWatermarkLimits, _ => True
  | _, _ => False

/-- The pages that an operation unpins. -/
def unpins (pageSize : Nat) : Operation → Handle → Nat → Prop
  | unpin vbar offset size, handle, index => handle = vbar ∧ Vbars.Covers pageSize offset size index
  | _, _, _ => False

/-- What holds after an operation: the context is sound, and every VBAR that the operation did not
free is still there with all pages that it had no right to take. VBARs that come have no memory. -/
structure Respected (operation : Operation) (ledger : Ledger σ) (context after : Context σ) :
    Prop where
  sound : Sound ledger after
  setting : SameSetting context.engine after.engine
  outlive : Vbars.OutliveAll context.engine.vbars after.engine.vbars operation.frees
    operation.faults operation.relimits (operation.unpins context.engine.config.vbarPageSize)
  arrives : Arrives context.engine.vbars after.engine.vbars
  gone : ∀ handle, operation.frees handle → after.engine.vbars.get? handle = none

variable {operation : Operation} {after : Context σ}

theorem Respected.of_undisturbed (spares : ∀ handle, ¬ operation.frees handle)
    (sound : Sound ledger after) (kept : Undisturbed context.engine after.engine) :
    operation.Respected ledger context after :=
  ⟨sound, kept.toSameSetting, Vbars.outliveAll_of_endures kept.toEndures, kept.arrives,
    fun handle freed => absurd freed (spares handle)⟩

theorem Respected.of_reclaimed (spares : ∀ handle, ¬ operation.frees handle)
    (sound : Sound ledger context)
    (reclaimed : Reclaimed context.engine after.engine)
    (kept : VbarBooks ledger after context.engine.regions
      (bufferHoldings context.engine.buffers)) : operation.Respected ledger context after :=
  .of_undisturbed spares (sound.worked reclaimed.worked kept) reclaimed.undisturbed

omit [Host σ] in
/-- Handing a result out changes nothing more. -/
theorem ensures_handOut_result {aborts : Abort → Prop} {α : Type} {step : Attempt σ α}
    {handOut : α → Outcome} {post : Except Error Outcome → Context σ → Prop}
    (ensured : Ensures aborts step.run context
      (fun result after => post (result.map handOut) after)) :
    Ensures aborts (do let value ← step; return handOut value : Attempt σ Outcome).run
      context post := by
  rw [ensures_run_bind]
  apply ensured.mono
  intro result after done
  cases result with
  | ok value => exact done
  | error cause => exact done

theorem ensures_handOut {α : Type} {step : Attempt σ α} {handOut : α → Outcome}
    {post : Context σ → Prop}
    (ensured : Ensures ledger.aborts step.run context (fun _ after => post after)) :
    Ensures ledger.aborts (do let value ← step; return handOut value : Attempt σ Outcome).run
      context (fun _ after => post after) := ensures_handOut_result ensured

theorem ensures_handOut_lift {α : Type} {step : EngineM σ α} {handOut : α → Outcome}
    {post : Context σ → Prop}
    (ensured : Ensures ledger.aborts step context (fun _ after => post after)) :
    Ensures ledger.aborts (do let value ← lift step; return handOut value : Attempt σ Outcome).run
      context (fun _ after => post after) :=
  ensures_handOut (ensures_run_lift.mpr ensured)

/-- No operation breaks the books or takes what is protected, whatever the driver answers. -/
theorem run_spec (operation : Operation) (sound : Sound ledger context)
    (allowed : ledger.aborts .overflow) (sizes : ∀ size, ledger.sizes size) :
    Ensures ledger.aborts operation.run context (fun _ after =>
      operation.Respected ledger context after) := by
  cases operation with
  | allocateVbar size device =>
    refine ensures_handOut ((Vbars.allocate_spec sound allowed).mono ?_)
    exact fun _ after ⟨sound, kept⟩ => .of_undisturbed (fun _ => id) sound kept
  | fault vbar offset size =>
    cases live : context.engine.vbars.get? vbar with
    | none =>
      refine ensures_handOut (((Vbars.fault_spec sound).and (Vbars.fault_stale live)).mono ?_)
      exact fun _ after ⟨⟨done, _⟩, same⟩ => .of_undisturbed (fun _ => id) done (.of_eq same)
    | some own =>
      refine ensures_handOut ((Vbars.fault_spec sound).mono fun _ after outcome => ?_)
      obtain ⟨done, faulted, -⟩ := outcome
      obtain ⟨commits, progress, -⟩ := faulted.advanced own live
      exact ⟨done, faulted.worked.toSameSetting,
        Vbars.outliveAll_of_spares faulted.worked.spares fun _ _ => progress.fades,
        Vbars.arrives_of_handles faulted.worked.handles, fun _ => False.elim⟩
  | unpin vbar offset size =>
    refine ensures_handOut ((Vbars.unpin_spec sound).mono ?_)
    exact fun _ after ⟨sound, setting, outlive, arrives⟩ =>
      ⟨sound, setting, outlive, arrives, fun _ => False.elim⟩
  | freeVbar vbar =>
    refine ensures_handOut ((Vbars.free_spec sound).mono ?_)
    exact fun _ after ⟨sound, setting, outlive, arrives, gone⟩ =>
      ⟨sound, setting, outlive, arrives, fun _ freed => freed ▸ gone⟩
  | prioritize vbar =>
    refine ensures_handOut ((Vbars.prioritize_spec sound).mono ?_)
    exact fun _ after ⟨sound, kept⟩ => .of_undisturbed (fun _ => id) sound kept
  | deprioritize vbar =>
    refine ensures_handOut ((Vbars.deprioritize_spec sound).mono ?_)
    exact fun _ after ⟨sound, kept⟩ => .of_undisturbed (fun _ => id) sound kept
  | setWatermarkLimit vbar size =>
    refine ensures_handOut ((Vbars.setWatermarkLimit_spec sound).mono ?_)
    exact fun _ after ⟨sound, setting, outlive, arrives⟩ =>
      ⟨sound, setting, outlive, arrives, fun _ => False.elim⟩
  | resetWatermarkLimits =>
    refine ensures_handOut_lift ((Vbars.resetWatermarkLimits_spec sound).mono ?_)
    exact fun _ after ⟨sound, setting, outlive, arrives⟩ =>
      ⟨sound, setting, outlive, arrives, fun _ => False.elim⟩
  | freeVbarMemory vbar size =>
    refine ensures_handOut
      (((Eviction.shrinkVbar_spec sound.vbarBooks).weaken ledger.stops_aborts).mono ?_)
    exact fun _ after ⟨reclaimed, kept, _⟩ => .of_reclaimed (fun _ => id) sound reclaimed kept
  | evictGlobal size =>
    refine ensures_handOut_lift
      (((Eviction.evictGlobal_spec sound.vbarBooks).weaken ledger.stops_aborts).mono ?_)
    exact fun _ after ⟨reclaimed, kept, _⟩ => .of_reclaimed (fun _ => id) sound reclaimed kept
  | evictForVbar vbar target =>
    refine ensures_handOut_lift
      (((Eviction.evictForVbar_spec sound.vbarBooks).weaken ledger.stops_aborts).mono ?_)
    exact fun _ after ⟨reclaimed, kept, _⟩ => .of_reclaimed (fun _ => id) sound reclaimed kept
  | allocate size device =>
    refine ensures_handOut ((Buffers.allocate_spec sound allowed sizes).mono ?_)
    exact fun _ after ⟨sound, kept⟩ => .of_undisturbed (fun _ => id) sound kept
  | free ptr =>
    refine ensures_handOut_lift ((Buffers.free_spec sound).mono ?_)
    exact fun _ after ⟨sound, kept⟩ => .of_undisturbed (fun _ => id) sound kept
  | createBuffer device maxSize =>
    refine ensures_handOut ((Buffers.create_spec sound allowed).mono ?_)
    exact fun _ after ⟨sound, kept⟩ => .of_undisturbed (fun _ => id) sound kept
  | growBuffer ptr size =>
    refine ensures_handOut ((Buffers.grow_spec sound fun size _ => sizes size).mono ?_)
    exact fun _ after ⟨sound, kept⟩ => .of_undisturbed (fun _ => id) sound kept
  | destroyBuffer ptr =>
    refine ensures_handOut ((Buffers.destroy_spec sound).mono ?_)
    exact fun _ after ⟨sound, kept⟩ => .of_undisturbed (fun _ => id) sound kept
  | deficit extra =>
    change Ensures ledger.aborts (Attempt.lift _).run context _
    rw [ensures_run_lift, ensures_bind, ensures_engine, ensures_bind]
    apply (Memory.deficit_spec sound.books).mono
    intro _ after outcome
    obtain ⟨tables, books⟩ := outcome
    exact .of_undisturbed (fun _ => id) (sound.congr tables books) tables.undisturbed
  | stats =>
    refine ensures_handOut_lift ((Engine.stats_spec sound).mono fun _ after ⟨sound, same⟩ => ?_)
    exact .of_undisturbed (fun _ => id) sound (.of_eq same)
  | analyze =>
    refine ensures_handOut_lift ((Engine.analyze_spec sound).mono ?_)
    exact fun _ after ⟨sound, audited⟩ =>
      .of_undisturbed (fun _ => id) sound audited.undisturbed

end Operation

end VramOvercommit
