import VramOvercommit.Proofs.AnyDriver

set_option autoImplicit false

/-!
Reclaiming on behalf of a VBAR goes from the lowest priority upwards and does not look for the VBAR
itself. It ends there nevertheless: once the VBAR was shrunk, either its need is met, or it is at
its limit and waits for no page any more.
-/

namespace VramOvercommit

open Simulation (Bench)

variable {σ : Type} [Host σ] {alters : σ → σ → Prop} {device : Int} {config : Config}
  {host host' : σ} {engine : Engine} {context : Context σ} {handle : Handle} {own : Vbar}

/-- Whatever the steps of a fault are, the VBARs of higher priority come first and unchanged. -/
theorem Vbars.Progress.front_eq {stop : Nat} {vbars after : PriorityList Vbar} {commits : List Nat}
    {front back : List (Handle × Vbar)} (progress : Progress handle stop vbars commits after)
    (linked : vbars.WellLinked) (split : vbars.toList = front ++ (handle, own) :: back)
    (backed : own.BackedToLimit) : ∃ left rest, after.toList = front ++ (handle, left) :: rest := by
  have live : vbars.get? handle = some own := linked.mem_toList.mp (by simp [split])
  have order : vbars.handles = front.map Prod.fst ++ handle :: back.map Prod.fst := by
    unfold PriorityList.handles
    rw [split, List.map_append, List.map_cons]
  obtain ⟨linked', handles, -, same⟩ := progress.shields linked live backed order
  exact linked.front_eq linked' handles split fun entry member =>
    same entry.1 (List.mem_map_of_mem member)

/-- Where all pages below the watermark limit of a VBAR are resident, as for a VBAR without a limit,
neither a fault of it nor reclaiming for it changes a VBAR of higher priority: not its pages with
their memory, pins and serials, nor its watermark or its limit, nor its place in the order. -/
theorem higher_vbars_unchanged (opened : Engine.create device config host = .ok (.ok engine) host')
    (run : Run alters anyOperation ⟨engine, host'⟩ context) {front back : List (Handle × Vbar)}
    (split : context.engine.vbars.toList = front ++ (handle, own) :: back)
    (backed : own.BackedToLimit) :
    (∀ (offset size : Nat) (outcome : Except Error Outcome) (after : Context σ),
      (Operation.fault handle offset size).run context = .ok outcome after →
      ∃ left rest, after.engine.vbars.toList = front ++ (handle, left) :: rest) ∧
    ∀ (target : Nat) (outcome : Except Error Outcome) (after : Context σ),
      (Operation.evictForVbar handle target).run context = .ok outcome after →
      ∃ left rest, after.engine.vbars.toList = front ++ (handle, left) :: rest := by
  have sound := sound_of_run run (sound_of_opened opened)
  have linked := sound.vbars.linked
  have live : context.engine.vbars.get? handle = some own := linked.mem_toList.mp (by simp [split])
  refine ⟨fun offset size outcome after ran => ?_, fun target outcome after ran => ?_⟩
  · have kept : Ensures (Ledger.unknown σ).aborts (Operation.fault handle offset size).run context
        (fun _ after => ∃ left rest,
          after.engine.vbars.toList = front ++ (handle, left) :: rest) := by
      refine Operation.ensures_handOut ((Vbars.fault_spec sound).mono fun _ after outcome => ?_)
      obtain ⟨-, faulted, -⟩ := outcome
      obtain ⟨commits, progress, -⟩ := faulted.advanced own live
      exact progress.front_eq linked split backed
    exact kept.of_ok ran
  · have kept : Ensures (Ledger.unknown σ).aborts (Operation.evictForVbar handle target).run context
        (fun _ after => ∃ left rest,
          after.engine.vbars.toList = front ++ (handle, left) :: rest) := by
      refine Operation.ensures_handOut_lift (((Eviction.evictForVbar_spec sound.vbarBooks).weaken
        (Ledger.unknown σ).stops_aborts).mono fun _ after outcome => ?_)
      obtain ⟨reclaimed, kept, walked⟩ := outcome
      obtain ⟨left, freed, walked, -⟩ := walked own live
      have progress : Vbars.Progress handle target context.engine.vbars [] after.engine.vbars :=
        .squeeze live kept.sound.linked reclaimed.vbars walked (.done _)
      exact progress.front_eq linked split backed
    exact kept.of_ok ran

/-- On a device of one byte, which belongs to the VBAR of higher priority. -/
theorem higher_vbars_unchanged_exhausted :
    ∃ (context : Context Bench) (higher own : Vbar), higher.residentCount = 1 ∧
      context.engine.vbars.toList = [(⟨1, 0⟩, higher), (⟨0, 0⟩, own)] ∧
      ∀ (outcome : Except Error Outcome) (after : Context Bench),
        (Operation.fault ⟨0, 0⟩ 0 1).run context = .ok outcome after →
        ∃ left rest, after.engine.vbars.toList = [(⟨1, 0⟩, higher)] ++ (⟨0, 0⟩, left) :: rest := by
  have reached : reaches 0 .bytewise { device := { capacity := 1 } : Bench } anyOperation
      [.allocateVbar 1 0, .allocateVbar 1 0, .fault ⟨1, 0⟩ 0 1, .unpin ⟨1, 0⟩ 0 1]
      (fun context => match context.engine.vbars.toList with
        | [(⟨1, 0⟩, higher), (⟨0, 0⟩, own)] =>
            decide (higher.residentCount = 1 ∧ own.watermarkLimit = 0)
        | _ => false) = true := by
    decide +kernel
  obtain ⟨engine, host, context, opened, run, passed⟩ :=
    exists_run_of_reaches (fun _ _ => False) reached
  split at passed
  · rename_i higher own entries
    obtain ⟨resident, unlimited⟩ := of_decide_eq_true passed
    have backed : own.BackedToLimit := fun index _ below _ => by omega
    have split : context.engine.vbars.toList = [(⟨1, 0⟩, higher)] ++ (⟨0, 0⟩, own) :: [] := entries
    exact ⟨context, higher, own, resident, entries,
      (higher_vbars_unchanged opened run split backed).1 0 1⟩
  · cases passed

end VramOvercommit
