import VramOvercommit.Proofs.Simulation.AllocationOutcome
import VramOvercommit.Proofs.Simulation.FaultSupply

set_option autoImplicit false

/-!
Faults that fail although the memory would suffice, and the exact condition under which a fault
succeeds in any state that a run can reach.
-/

namespace VramOvercommit

open Simulation

/-- The bytes of a device that nobody uses. -/
def Simulation.Device.freeBytes (device : Device) : Nat :=
  device.capacity - device.foreignUsage - device.physicalInUse

/-- A range of a VBAR while nothing is made to fail: it lies below the watermark, and what is free
and what the VBARs of strictly lower priority can give up cover its absent pages. -/
structure RangeCovered {σ : Type} [Host σ] (facade : Facade σ) (context : Context σ)
    (handle : Handle) (vbar : Vbar) (start stop : Nat) : Prop where
  failures : (facade.bench context.host).failures = []
  injected : (facade.bench context.host).device.injected = none
  fits : (facade.bench context.host).device.physicalInUse +
    (facade.bench context.host).device.foreignUsage ≤ (facade.bench context.host).device.capacity
  small : (facade.bench context.host).device.capacity + context.engine.config.vbarPageSize <
    wordLimit
  live : context.engine.vbars.get? handle = some vbar
  reach : stop ≤ vbar.watermark
  enough : vbar.absentIn start stop * context.engine.config.vbarPageSize ≤
    (facade.bench context.host).device.freeBytes +
      Eviction.supplyBelow context.engine.vbars handle * context.engine.config.vbarPageSize

instance {σ : Type} [Host σ] (facade : Facade σ) (context : Context σ) (handle : Handle)
    (vbar : Vbar) (start stop : Nat) :
    Decidable (RangeCovered facade context handle vbar start stop) :=
  decidable_of_iff
    ((facade.bench context.host).failures = [] ∧
      (facade.bench context.host).device.injected = none ∧
      (facade.bench context.host).device.physicalInUse +
        (facade.bench context.host).device.foreignUsage ≤
          (facade.bench context.host).device.capacity ∧
      (facade.bench context.host).device.capacity + context.engine.config.vbarPageSize <
        wordLimit ∧
      context.engine.vbars.get? handle = some vbar ∧ stop ≤ vbar.watermark ∧
      vbar.absentIn start stop * context.engine.config.vbarPageSize ≤
        (facade.bench context.host).device.freeBytes +
          Eviction.supplyBelow context.engine.vbars handle * context.engine.config.vbarPageSize)
    ⟨fun ⟨failures, injected, fits, small, live, reach, enough⟩ =>
      ⟨failures, injected, fits, small, live, reach, enough⟩,
      fun ⟨failures, injected, fits, small, live, reach, enough⟩ =>
        ⟨failures, injected, fits, small, live, reach, enough⟩⟩

/-- No mapping lies in the way of an absent page of a range. -/
def Unobstructed (device : Device) (vbar : Vbar) (pageSize start stop : Nat) : Prop :=
  ∀ index < stop, start ≤ index → ∀ page ∈ vbar.pages[index]?, page.isResident = false →
    ∀ entry ∈ device.mappings.entries,
      ¬ Device.Overlaps entry (vbar.base + index * pageSize) pageSize

instance (device : Device) (vbar : Vbar) (pageSize start stop : Nat) :
    Decidable (Unobstructed device vbar pageSize start stop) :=
  inferInstanceAs (Decidable (∀ index < stop, start ≤ index → ∀ page ∈ vbar.pages[index]?, _))

/-- Covered ranges whose faults fail. In the first case the pages of the VBAR below the range are
absent as well, so reclaiming goes on until it has cut the range off. In the second case a mapping
that could not be taken away is in the way. -/
theorem covered_faults_fail :
    (∃ engine bench context vbar after,
      Engine.create 0 .bytewise { device := { capacity := 3, foreignUsage := 2 } : Bench } =
        .ok (.ok engine) bench ∧
      Run Bench.facade.Adjusted anyOperation ⟨engine, bench⟩ context ∧
      RangeCovered Bench.facade context ⟨1, 0⟩ vbar 2 3 ∧ Unobstructed context.host.device vbar 1 2 3 ∧
      (Operation.fault ⟨1, 0⟩ 2 1).run context = .ok (.error .outOfMemory) after) ∧
    ∃ engine bench context vbar after,
      Engine.create 0 .bytewise
          { device := { capacity := 2 }, failures := [{ kind := .unmap, cause := .failed 1 }] } =
        .ok (.ok engine) bench ∧
      Run Bench.facade.Adjusted anyOperation ⟨engine, bench⟩ context ∧
      RangeCovered Bench.facade context ⟨0, 0⟩ vbar 0 1 ∧
      (Operation.fault ⟨0, 0⟩ 0 1).run context = .ok (.error (.driver (.failed 1))) after := by
  constructor
  · have reached : reaches 0 .bytewise { device := { capacity := 3, foreignUsage := 2 } : Bench }
        anyOperation [.allocateVbar 1 0, .fault ⟨0, 0⟩ 0 1, .unpin ⟨0, 0⟩ 0 1, .allocateVbar 3 0]
        (fun context => (context.engine.vbars.get? ⟨1, 0⟩).any fun vbar =>
          decide (RangeCovered Bench.facade context ⟨1, 0⟩ vbar 2 3 ∧
            Unobstructed context.host.device vbar 1 2 3 ∧
            Ensures (fun _ => False) (Operation.fault ⟨1, 0⟩ 2 1).run context
              (fun outcome _ => outcome = .error .outOfMemory))) = true := by
      decide +kernel
    obtain ⟨engine, bench, context, opened, run, passed⟩ :=
      exists_run_of_reaches Bench.facade.Adjusted reached
    obtain ⟨vbar, -, passed⟩ := (Option.any_eq_true _ _).mp passed
    obtain ⟨covered, clear, fails⟩ := of_decide_eq_true passed
    obtain ⟨_, after, ran, rfl⟩ := fails.exists_ok
    exact ⟨engine, bench, context, vbar, after, opened, run, covered, clear, ran⟩
  · have reached : reaches 0 .bytewise
        { device := { capacity := 2 }, failures := [{ kind := .unmap, cause := .failed 1 }] }
        anyOperation [.allocateVbar 1 0, .fault ⟨0, 0⟩ 0 1, .unpin ⟨0, 0⟩ 0 1,
          .freeVbarMemory ⟨0, 0⟩ 1, .prioritize ⟨0, 0⟩]
        (fun context => (context.engine.vbars.get? ⟨0, 0⟩).any fun vbar =>
          decide (RangeCovered Bench.facade context ⟨0, 0⟩ vbar 0 1 ∧
            Ensures (fun _ => False) (Operation.fault ⟨0, 0⟩ 0 1).run context
              (fun outcome _ => outcome = .error (.driver (.failed 1))))) = true := by
      decide +kernel
    obtain ⟨engine, bench, context, opened, run, passed⟩ :=
      exists_run_of_reaches Bench.facade.Adjusted reached
    obtain ⟨vbar, -, passed⟩ := (Option.any_eq_true _ _).mp passed
    obtain ⟨covered, fails⟩ := of_decide_eq_true passed
    obtain ⟨_, after, ran, rfl⟩ := fails.exists_ok
    exact ⟨engine, bench, context, vbar, after, opened, run, covered, ran⟩

section Outcome

variable {σ : Type} [Host σ] {facade : Facade σ} {device : Int} {config : Config} {host host' : σ}
  {engine : Engine} {context : Context σ} {handle : Handle} {vbar : Vbar}

/-- While nothing is made to fail, the books are those of a bench on which nothing fails. -/
theorem RangeCovered.quietly {kept start stop : Nat}
    (covered : RangeCovered facade context handle vbar start stop)
    (sound : Sound (facade.books kept) context) :
    ∃ around, Sound (facade.quietBooks around) context := by
  have quiet : troubles (facade.bench context.host).failures = [] := by
    rw [covered.failures]
    rfl
  obtain ⟨around, -, sound⟩ :=
    facade.sound_quiet sound quiet covered.injected covered.fits covered.small
  exact ⟨around, sound⟩

variable {around : Surroundings}

theorem Sound.freeWith_eq (sound : Sound (facade.quietBooks around) context) :
    Vbars.freeWith around context.engine.config.vbarPageSize
        (bufferHoldings context.engine.buffers) context.engine.vbars =
      (facade.bench context.host).device.freeBytes := by
  have books : Bench.QuietBooks around (facade.bench context.host) context.engine.regions none
    context.engine.holdings := sound.books.agrees
  have used := books.physicalInUse
  have capacity := books.capacity
  unfold Vbars.freeWith Device.freeBytes
  change around.capacity - around.inUse (VramOvercommit.heldBytes context.engine.holdings) = _
  omega

/-- A fault of a covered range, before its first page. -/
theorem Sound.pending {start stop : Nat} (sound : Sound (facade.quietBooks around) context)
    (covered : RangeCovered facade context handle vbar start stop)
    (unobstructed : Unobstructed (facade.bench context.host).device vbar
      context.engine.config.vbarPageSize start stop) :
    Vbars.Pending around context.engine.config.vbarPageSize (bufferHoldings context.engine.buffers)
      handle stop context.engine.vbars vbar start := by
  have books : Bench.QuietBooks around (facade.bench context.host) context.engine.regions none
    context.engine.holdings := sound.books.agrees
  have fits := books.fits
  rw [Option.toList_none, List.map_nil, List.sum_nil, Nat.zero_add] at fits
  refine ⟨sound.vbars, covered.live, covered.reach, fits, ?_, ?_⟩
  · intro index page low high found absent entry member
    exact unobstructed index high low page found absent entry
      (books.memory.mappings.mem_iff.mpr member)
  · rw [sound.freeWith_eq]
    exact covered.enough

/-- A range below the watermark of a VBAR ends at a word. -/
theorem Sound.range_lt {offset size : Nat} (sound : Sound (facade.quietBooks around) context)
    (live : context.engine.vbars.get? handle = some vbar)
    (reach : blocksFor (offset + size) context.engine.config.vbarPageSize ≤ vbar.watermark) :
    offset + size < wordLimit := by
  have positive := (Config.validate_ok sound.valid).1
  have within := (sound.vbars.consistent live).watermark_le
  have ends := (sound.books.region_lt (sound.vbarBooks.inside live)).resolve_right And.left
  have covers := le_blocksFor_mul (offset + size) positive
  have inside := Nat.mul_le_mul_right context.engine.config.vbarPageSize
    (Nat.le_trans reach within)
  change vbar.base + vbar.nrPages * context.engine.config.vbarPageSize < wordLimit at ends
  omega

/-- A fault of a covered range in front of a bench always comes to an end. It succeeds exactly if the
host has memory for its serials and its absent pages fit what is free, or its VBAR is protected up to
the end of the range, or all of its pages that are absent below the end of the range are covered by
what is free, what the VBARs of strictly lower priority can give up, and what the VBAR itself can
give up behind the range. -/
theorem fault_succeeds_iff (facade : Facade σ) (unused : (facade.bench host).device.Unused)
    (opened : Engine.create device config host = .ok (.ok engine) host')
    (run : Run facade.Adjusted anyOperation ⟨engine, host'⟩ context) {offset size start stop : Nat}
    (first : start = offset / context.engine.config.vbarPageSize)
    (last : stop = blocksFor (offset + size) context.engine.config.vbarPageSize)
    (covered : RangeCovered facade context handle vbar start stop)
    (unobstructed : Unobstructed (facade.bench context.host).device vbar
      context.engine.config.vbarPageSize start stop) :
    ∃ outcome after, (Operation.fault handle offset size).run context = .ok outcome after ∧
      ((∃ serials, outcome = .ok (.serials serials)) ↔
        (Vbars.serialsAsked context offset size).1 = true ∧
          Vbars.Affordable context.engine.config.vbarPageSize
            (facade.bench context.host).device.freeBytes
            (Eviction.supplyBelow context.engine.vbars handle) vbar start stop) := by
  obtain ⟨kept, sound⟩ := facade.accounts_of_run run ⟨_, facade.sound_opened unused opened⟩
  obtain ⟨around, sound⟩ := covered.quietly sound
  have pending : Vbars.Pending around context.engine.config.vbarPageSize
      (bufferHoldings context.engine.buffers) handle stop
      (Vbars.faultStarted context offset size).engine.vbars vbar start :=
    sound.pending covered unobstructed
  have small := sound.range_lt covered.live (last ▸ covered.reach)
  have ordered : start ≤ stop := by
    have le := Nat.div_le_div_right (c := context.engine.config.vbarPageSize)
      (Nat.le_add_right offset size)
    rw [first, last, blocksFor]
    omega
  have all : start + (stop - start) = stop := Nat.add_sub_of_le ordered
  have books : VbarBooks (facade.quietBooks around) (Vbars.faultStarted context offset size)
      context.engine.regions (bufferHoldings context.engine.buffers) :=
    ((sound.log (.faultStarted offset size)).room .serials _).vbarBooks.markDirty
  apply Ensures.exists_ok
  change Ensures _ (do
    let serials ← Vbars.fault handle offset size
    return Outcome.serials serials : Attempt σ Outcome).run context _
  rw [← Vbars.faultEnd_eq small] at last
  rw [ensures_run_bind]
  by_cases granted : (Vbars.serialsAsked context offset size).1 = true
  · apply Ensures.mono (Vbars.fault_spec sound)
    intro result after outcome
    obtain ⟨_, _, backed⟩ := outcome
    obtain ⟨pages, middle, went, same⟩ :=
      backed vbar covered.live start first stop last covered.reach granted
    have served : pages.isOk = true ↔ Vbars.Served around context.engine.config.vbarPageSize
        (bufferHoldings context.engine.buffers) handle stop context.engine.vbars vbar start :=
      (Vbars.faultPages_served pending books rfl all).of_ok went
    rw [← same] at served
    unfold Vbars.Served at served
    rw [sound.freeWith_eq] at served
    cases result with
    | ok serials => exact ⟨fun _ => ⟨granted, served.mp rfl⟩, fun _ => ⟨serials, rfl⟩⟩
    | error cause =>
      constructor
      · rintro ⟨serials, ⟨⟩⟩
      · rintro ⟨-, affordable⟩
        exact absurd (served.mpr affordable) Bool.false_ne_true
  · unfold Ensures
    rw [Vbars.fault_unserialed covered.live (last ▸ covered.reach) (Bool.eq_false_iff.mpr granted)]
    refine ⟨?_, fun affordable => absurd affordable.1 granted⟩
    rintro ⟨serials, ⟨⟩⟩

end Outcome

instance (size free supply : Nat) (own : Vbar) (start stop : Nat) :
    Decidable (Vbars.Affordable size free supply own start stop) :=
  inferInstanceAs (Decidable (_ ∨ _ ∨ _))

/-- The first page of a VBAR on a full device takes the memory of another VBAR. -/
theorem fault_succeeds_by_reclaiming :
    ∃ context : Context Bench, context.host.device.freeBytes = 0 ∧ ∃ serials after,
      (Operation.fault ⟨1, 0⟩ 0 1).run context = .ok (.ok (.serials serials)) after := by
  have reached : reaches 0 .bytewise { device := { capacity := 3, foreignUsage := 2 } : Bench }
      anyOperation [.allocateVbar 1 0, .fault ⟨0, 0⟩ 0 1, .unpin ⟨0, 0⟩ 0 1, .allocateVbar 3 0]
      (fun context =>
        (context.engine.vbars.get? ⟨1, 0⟩).any fun vbar =>
          context.engine.config.vbarPageSize = 1 ∧ context.host.device.freeBytes = 0 ∧
          RangeCovered Bench.facade context ⟨1, 0⟩ vbar 0 1 ∧
          Unobstructed context.host.device vbar context.engine.config.vbarPageSize 0 1 ∧
          Vbars.Affordable 1 0 (Eviction.supplyBelow context.engine.vbars ⟨1, 0⟩) vbar 0 1) =
        true := by
    decide +kernel
  obtain ⟨engine, bench, context, opened, run, passed⟩ :=
    exists_run_of_reaches Bench.facade.Adjusted reached
  obtain ⟨vbar, -, passed⟩ := (Option.any_eq_true _ _).mp passed
  obtain ⟨bytewise, full, covered, unobstructed, affordable⟩ := of_decide_eq_true passed
  have ample : Host.Ample Bench := fun _ _ _ => rfl
  have first : 0 = 0 / context.engine.config.vbarPageSize := (Nat.zero_div _).symm
  have last : 1 = blocksFor (0 + 1) context.engine.config.vbarPageSize := by
    rw [bytewise]
    rfl
  obtain ⟨outcome, after, ran, succeeds⟩ :=
    fault_succeeds_iff Bench.facade ⟨rfl, rfl, rfl, rfl, rfl⟩ opened run first last covered
      unobstructed
  change _ ↔ _ ∧ Vbars.Affordable _ context.host.device.freeBytes _ _ _ _ at succeeds
  rw [bytewise, full] at succeeds
  obtain ⟨serials, rfl⟩ := succeeds.mpr ⟨ample.room .serials _ _, affordable⟩
  exact ⟨context, full, serials, after, ran⟩

end VramOvercommit
