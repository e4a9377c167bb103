import VramOvercommit.Proofs.AnyDriver
import VramOvercommit.Proofs.Simulation.SteadyLedger
import VramOvercommit.Proofs.Unpinning

set_option autoImplicit false

/-!
Unpins on a simulated device, in any order. What is left of the engine and of the device depends on
the ranges alone: the pages that they reach together, and how many of them end beyond the watermark.
-/

namespace VramOvercommit

namespace Simulation

open Eviction (shrinking)
open Vbars (spans spanned Unpins)

/-! ## The device -/

namespace Device

variable {device after : Device} {strays : List (Nat × Mapping)} {leaks : List (Nat × Allocation)}
  {gone kept : List Holding}

/-- The device after some of what is held was given back. -/
def without (device : Device) (gone : List Holding) : Device :=
  { device with
    mappings := device.mappings.eraseAll (gone.map Holding.vaddr)
    physical := device.physical.eraseAll (gone.map fun holding => holding.memory.id)
    physicalInUse := device.physicalInUse - heldBytes gone }

/-- Nothing may differ but the tables of memory, and how often the device was waited for. -/
def GaveBack (before after : Device) (waited : Nat) : Prop :=
  after = { before with
    mappings := after.mappings
    physical := after.physical
    physicalInUse := after.physicalInUse
    syncCount := before.syncCount + waited }

theorem GaveBack.refl (device : Device) : device.GaveBack device 0 := rfl

theorem GaveBack.trans {middle : Device} {waited more : Nat} (first : device.GaveBack middle waited)
    (second : middle.GaveBack after more) : device.GaveBack after (waited + more) := by
  unfold GaveBack at *
  rw [second, first]
  simp only [Nat.add_assoc]

theorem settle_gaveBack (device : Device) (id : Nat) (allocation : Allocation) :
    device.GaveBack (device.settle id allocation) 0 := by
  unfold settle
  split <;> rfl

theorem Effect.gaveBack {call : DriverCall} {answer : Except DriverError call.Answer}
    (effect : Effect device call answer after)
    (gives : call.kind = .unmap ∨ call.kind = .release) : device.GaveBack after 0 := by
  cases effect with
  | refuse => exact .refl device
  | fail kind => cases call <;> simp [DriverCall.kind, failurePoint?] at gives kind
  | tell asks => cases call <;> simp [DriverCall.kind, Asks] at gives asks
  | unmapStray => rfl
  | @unmap vaddr =>
    have unmapped : device.GaveBack (device.withoutMapping vaddr) 0 := rfl
    exact unmapped.trans (settle_gaveBack _ _ _)
  | release => exact settle_gaveBack _ _ _
  | _ => simp [DriverCall.kind] at gives

/-- A device is known from what is held on it, but for what giving memory back leaves alone. -/
theorem GaveBack.eq_without {waited : Nat} (gave : device.GaveBack after waited)
    (before : device.MemoryBook strays leaks none (gone ++ kept))
    (left : after.MemoryBook strays leaks none kept) :
    after = { device.without gone with syncCount := device.syncCount + waited } := by
  have front : ∀ {α : Type} (entry : Holding → Nat × α) (more : List (Nat × α)),
      (more ++ (gone ++ kept).map entry).Perm (gone.map entry ++ (more ++ kept.map entry)) := by
    intro α entry more
    rw [List.map_append]
    exact List.perm_append_comm_assoc _ _ _
  have mappings : after.mappings = device.mappings.eraseAll (gone.map Holding.vaddr) := by
    have rest := NatMap.perm_eraseAll (before.mappings.trans (front Holding.mapping strays))
    rw [List.map_map] at rest
    exact NatMap.eq_of_perm (left.mappings.trans rest.symm)
  have physical : after.physical =
      device.physical.eraseAll (gone.map fun holding => holding.memory.id) := by
    have rest := NatMap.perm_eraseAll (before.physical.trans (front Holding.allocation leaks))
    rw [List.map_map] at rest
    exact NatMap.eq_of_perm (left.physical.trans rest.symm)
  have inUse : after.physicalInUse = device.physicalInUse - heldBytes gone := by
    rw [before.physicalInUse, left.physicalInUse, heldBytes_append]
    omega
  rw [gave, mappings, physical, inUse]
  rfl

end Device

/-! ## Benches -/

namespace Bench

/-- No call is to fail that gives memory back or waits for the device. -/
def Yields (bench : Bench) : Prop :=
  ∀ failure ∈ bench.failures,
    failure.kind ≠ .unmap ∧ failure.kind ≠ .release ∧ failure.kind ≠ .synchronize

instance (bench : Bench) : Decidable bench.Yields :=
  inferInstanceAs (Decidable (∀ failure ∈ bench.failures, _ ∧ _ ∧ _))

variable {bench middle after : Bench} {waited more : Nat}

theorem Yields.planned (yields : bench.Yields) : plannedRefusals bench.failures = 0 := by
  refine List.countP_eq_zero.mpr fun failure member => ?_
  obtain ⟨unmaps, releases, -⟩ := yields failure member
  revert unmaps releases
  cases failure.kind <;> simp [givesBack]

/-- Memory was given back and the device was waited for, and the same failures are still to come. -/
structure GaveBack (before after : Bench) (waited : Nat) : Prop where
  device : before.device.GaveBack after.device waited
  failures : after.failures = before.failures

theorem GaveBack.refl (bench : Bench) : bench.GaveBack bench 0 := ⟨.refl _, rfl⟩

theorem GaveBack.trans (first : bench.GaveBack middle waited)
    (second : middle.GaveBack after more) : bench.GaveBack after (waited + more) :=
  ⟨first.device.trans second.device, second.failures.trans first.failures⟩

theorem GaveBack.yields (gave : bench.GaveBack after waited) (yields : bench.Yields) :
    after.Yields := by
  unfold Yields
  rwa [gave.failures]

theorem call_gaveBack {c : DriverCall} (yields : bench.Yields)
    (gives : c.kind = .unmap ∨ c.kind = .release) :
    Ensures (fun _ => True) (Host.call c) bench fun _ after => bench.GaveBack after 0 := by
  refine ensures_unfailing (fun failure member => ?_)
    ((Device.call_effect c).mono fun answer device effect => ?_)
  · obtain ⟨unmaps, releases, -⟩ := yields failure member
    rcases gives with same | same <;> rw [same] <;> assumption
  · have gave := effect.gaveBack gives
    cases c <;> simp [DriverCall.kind] at gives <;> exact ⟨gave, rfl⟩

theorem synchronize_gaveBack (yields : bench.Yields) :
    Ensures (fun _ => False) (Host.call .synchronize) bench fun answer after =>
      answer = .ok () ∧ bench.GaveBack after 1 :=
  ensures_unfailing (fun failure member => (yields failure member).2.2) ⟨rfl, rfl, rfl⟩

end Bench

/-! ## Unpins -/

namespace Situated

variable {context after : Context Situated}

/-- What shrinking a VBAR takes only gives memory back. -/
theorem gaveBack_of_actions (actions : Actions shrinking context after)
    (yields : context.host.bench.Yields) : context.host.bench.GaveBack after.host.bench 0 := by
  induction actions with
  | refl => exact .refl _
  | @tail middle last _ action ih =>
    suffices gave : middle.host.bench.GaveBack last.host.bench 0 from ih.trans gave
    cases action with
    | @call driverCall answer host allowed answered =>
      have gives : driverCall.kind = .unmap ∨ driverCall.kind = .release := by
        simpa [shrinking] using allowed
      have asks : driverCall ≠ .memoryInfo := by
        rintro rfl
        simp [DriverCall.kind] at gives
      exact (facade.ensures_call asks (Bench.call_gaveBack (ih.yields yields) gives)).of_ok answered
    | log notice => exact ⟨rfl, rfl⟩
    | _ => exact .refl _

theorem synchronize_spec (yields : context.host.bench.Yields) :
    Ensures (fun _ => True) Memory.synchronize context fun _ after =>
      context.host.bench.GaveBack after.host.bench 1 := by
  unfold Memory.synchronize
  rw [ensures_bind, EngineM.ensures_call]
  refine ((facade.ensures_call (by rintro ⟨⟩) (Bench.synchronize_gaveBack yields)).weaken
    fun _ => False.elim).mono ?_
  rintro _ host ⟨rfl, gave⟩
  exact gave

/-- An unpin waits for the device at most once, before it gives any memory back. -/
theorem unpinRange_gaveBack (yields : context.host.bench.Yields) (handle : Handle) (vbar : Vbar)
    (start stop : Nat) :
    Ensures (fun _ => True) (Vbars.unpinRange handle vbar start stop) context fun _ after =>
      context.host.bench.GaveBack after.host.bench (if vbar.watermark < stop then 1 else 0) := by
  have waited : Ensures (fun _ => True)
      (if vbar.watermark < stop then Memory.synchronize else pure ()) context fun _ between =>
        context.host.bench.GaveBack between.host.bench
          (if vbar.watermark < stop then 1 else 0) := by
    split
    · exact synchronize_spec yields
    · exact .refl _
  rw [Vbars.unpinRange_eq, ensures_bind]
  refine waited.mono fun _ between gave => ?_
  have tail := (Vbars.unpinTail_only handle vbar start stop between).ensures
  refine tail.mono fun _ after actions => ?_
  exact gave.trans (gaveBack_of_actions actions (gave.yields yields))

variable {strays : List (Nat × Mapping)} {leaks : List (Nat × Allocation)} {handle : Handle}
  {vbar : Vbar}

/-- One unpin: the pages of its range lose what they can, and the device is waited for at most
once. -/
theorem unpin_spec (sound : Sound (facade.steadyBooks strays leaks) context)
    (yields : context.host.bench.Yields) (live : context.engine.vbars.get? handle = some vbar)
    (range : Nat × Nat) :
    Ensures (fun _ => False) (Operation.unpin handle range.1 range.2).run context
      fun outcome after => outcome = .ok .done ∧
        Sound (facade.steadyBooks strays leaks) after ∧
        Unpins handle vbar (spans context.engine.config.vbarPageSize range) true context.engine
          after.engine ∧
        context.host.bench.GaveBack after.host.bench
          (if vbar.awaits context.engine.config.vbarPageSize range then 1 else 0) := by
  have never : ¬ (facade.steadyBooks strays leaks).mayStop := id
  change Ensures _ (do
    Vbars.unpin handle range.1 range.2
    return Outcome.done : Attempt Situated Outcome).run context _
  rw [ensures_run_bind, Vbars.ensures_unpin never sound live]
  refine ((Vbars.unpinRange_unpins never sound live range).also
    (unpinRange_gaveBack yields handle vbar _ _)).mono fun _ after outcome => ?_
  obtain ⟨⟨sound', unpins⟩, gave⟩ := outcome
  refine ⟨rfl, sound', unpins, ?_⟩
  simpa only [Vbar.awaits, decide_eq_true_eq] using gave

/-- Unpins one after the other. -/
theorem unpins_spec (sound : Sound (facade.steadyBooks strays leaks) context)
    (yields : context.host.bench.Yields) (live : context.engine.vbars.get? handle = some vbar)
    (ranges : List (Nat × Nat)) :
    Ensures (fun _ => False)
      (Operation.runAll (ranges.map fun range => .unpin handle range.1 range.2)) context
      fun outcomes after => outcomes = ranges.map (fun _ => .ok .done) ∧
        Sound (facade.steadyBooks strays leaks) after ∧
        Unpins handle vbar (spanned context.engine.config.vbarPageSize ranges) (!ranges.isEmpty)
          context.engine after.engine ∧
        context.host.bench.GaveBack after.host.bench
          (ranges.countP (vbar.awaits context.engine.config.vbarPageSize)) := by
  induction ranges generalizing context vbar with
  | nil => exact ⟨rfl, sound, .none live (sound.vbars.consistent live).counted, .refl _⟩
  | cons range others ih =>
    rw [List.map_cons, Operation.runAll, ensures_bind]
    refine (unpin_spec sound yields live range).mono fun _ middle outcome => ?_
    obtain ⟨rfl, sound', unpins, gave⟩ := outcome
    have config : middle.engine.config = context.engine.config := by rw [unpins]
    rw [ensures_bind]
    refine (ih sound' (gave.yields yields) (unpins.live live)).mono fun _ after outcome => ?_
    obtain ⟨rfl, sound'', unpins', gave'⟩ := outcome
    rw [config] at unpins' gave'
    rw [Vbar.awaits_unpinned] at gave'
    refine ⟨rfl, sound'', unpins.trans unpins', ?_⟩
    have both := gave.trans gave'
    rwa [Nat.add_comm, ← List.countP_cons] at both

end Situated

end Simulation

open Simulation

/-- Ranges of a VBAR that are unpinned in any order leave one and the same engine and device, while
no call is to fail that gives memory back or waits. Exactly the pages that some range reaches have
lost their pins, and exactly those of them that the watermark has passed their memory; the device
was waited for once for each range that ends beyond the watermark. -/
theorem unpins_in_any_order {device : Int} {config : Config} {host host' : Situated}
    {engine : Engine} {context : Context Situated} {handle : Handle} {vbar : Vbar}
    {ranges order : List (Nat × Nat)} (unused : host.bench.device.Unused)
    (opened : Engine.create device config host = .ok (.ok engine) host')
    (run : Run Situated.facade.Adjusted anyOperation ⟨engine, host'⟩ context)
    (yields : context.host.bench.Yields) (live : context.engine.vbars.get? handle = some vbar)
    (same : order.Perm ranges) :
    ∃ after : Context Situated,
      Operation.runAll (order.map fun range => .unpin handle range.1 range.2) context =
        .ok (order.map fun _ => .ok .done) after ∧
      after.engine = context.engine.unpinned handle vbar ranges ∧
      after.host.bench.device =
        { context.host.bench.device.without (vbar.released config.vbarPageSize
            (Vbars.spanned config.vbarPageSize ranges)) with
          syncCount := context.host.bench.device.syncCount +
            ranges.countP (vbar.awaits config.vbarPageSize) } ∧
      after.host.bench.failures = context.host.bench.failures := by
  obtain ⟨kept, sound⟩ :=
    Situated.facade.accounts_of_run run ⟨_, Situated.facade.sound_opened unused opened⟩
  obtain ⟨-, total, rfl⟩ := fresh_of_opened opened
  obtain rfl : context.engine.config = config := (limits_of_run run).1
  obtain ⟨strays, leaks, sound⟩ := Situated.facade.sound_steady sound yields.planned
  obtain ⟨_, after, ran, rfl, sound', unpins, gave⟩ :=
    (Situated.unpins_spec sound yields live order).exists_ok
  have distinct : (Situated.facade.steadyBooks strays leaks).distinct := trivial
  have held := unpins.perm_holdings sound.vbars.linked live
  have engine' := unpins.eq_unpinned distinct sound sound' live
  have books : Bench.SteadyBooks strays leaks context.host.bench _ none _ := sound.books.agrees
  have books' : Bench.SteadyBooks strays leaks after.host.bench _ none _ := sound'.books.agrees
  have left := gave.device.eq_without (books.memory.perm held) books'.memory
  rw [Vbars.spanned_perm same, same.countP_eq] at left
  rw [Engine.unpinned_perm same] at engine'
  exact ⟨after, ran, engine', left, gave.failures⟩

/-- Four pages of two bytes each, all pinned, of which the watermark has passed two. One range lies
beyond the end, one wraps around, and one ends in a page that the watermark has passed. -/
theorem unpins_in_any_order_past_the_end :
    ∃ context after : Context Situated, context.host.bench.device.physicalInUse = 8 ∧
      Operation.runAll [.unpin ⟨0, 0⟩ 100 1, .unpin ⟨0, 0⟩ 6 (wordLimit - 1), .unpin ⟨0, 0⟩ 1 5]
        context = .ok [.ok .done, .ok .done, .ok .done] after ∧
      after.host.bench.device.physicalInUse = 4 ∧
      after.host.bench.device.syncCount = context.host.bench.device.syncCount + 3 := by
  have reached : reaches 0 { Config.bytewise with vbarPageSize := 2 }
      { bench :=
          { device := { capacity := 8 }
            failures := [{ kind := .map, cause := .outOfMemory, skip := 4 }] }
        moments := id
        readings := fun _ => none : Situated }
      anyOperation [.allocateVbar 8 0, .fault ⟨0, 0⟩ 0 8, .setWatermarkLimit ⟨0, 0⟩ 4,
        .freeVbarMemory ⟨0, 0⟩ 8]
      (fun context => decide (context.host.bench.device.physicalInUse = 8) &&
        decide context.host.bench.Yields &&
        (context.engine.vbars.get? ⟨0, 0⟩).any fun vbar =>
          heldBytes (vbar.released 2 (Vbars.spanned 2 [(1, 5), (6, wordLimit - 1), (100, 1)])) = 4 ∧
            [(1, 5), (6, wordLimit - 1), (100, 1)].countP (vbar.awaits 2) = 3) = true := by
    decide +kernel
  obtain ⟨engine, host, context, opened, run, passed⟩ :=
    exists_run_of_reaches Situated.facade.Adjusted reached
  simp only [Bool.and_eq_true, decide_eq_true_eq, Option.any_eq_true] at passed
  obtain ⟨⟨used, yields⟩, vbar, live, freed, waits⟩ := passed
  have unused : Device.Unused { capacity := 8 } := ⟨rfl, rfl, rfl, rfl, rfl⟩
  obtain ⟨after, ran, -, left, -⟩ := unpins_in_any_order unused opened run yields live
    (List.reverse_perm [(1, 5), (6, wordLimit - 1), (100, 1)])
  refine ⟨context, after, used, ran, ?_, ?_⟩
  · rw [left]
    change context.host.bench.device.physicalInUse - heldBytes _ = 4
    rw [used, freed]
  · rw [left, waits]

end VramOvercommit
