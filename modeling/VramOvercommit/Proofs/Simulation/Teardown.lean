import VramOvercommit.Proofs.Closing
import VramOvercommit.Proofs.Simulation.TracedBench

set_option autoImplicit false

/-!
Dropping a context on a bench. If everything that was to be given back in a run was taken back, the
device has nothing left of it after the drop.
-/

namespace VramOvercommit

namespace Simulation

/-! ## Drivers that answer -/

/-- Giving back makes no table longer. -/
theorem Device.Bounded.effect {device after : Device} {call : DriverCall}
    {answer : Except DriverError call.Answer} (bounded : device.Bounded) (closes : call.Closes)
    (effect : device.Effect call answer after) : after.Bounded := by
  have unmapped : ∀ vaddr, (device.withoutMapping vaddr).Bounded := fun vaddr =>
    ⟨bounded.reservations, fun entry member => bounded.mappings entry
      (NatMap.get?_eq_some_iff.mp
        (NatMap.get?_erase_eq_some_iff.mp (NatMap.get?_eq_some_iff.mpr member)).2)⟩
  have settled : ∀ {device : Device} {id : Nat} {allocation : Allocation}, device.Bounded →
      (device.settle id allocation).Bounded := by
    intro device id allocation bounded
    unfold Device.settle
    split <;> exact ⟨bounded.reservations, bounded.mappings⟩
  cases effect with
  | refuse | tell => exact bounded
  | fail | synchronize => exact ⟨bounded.reservations, bounded.mappings⟩
  | free =>
    exact ⟨fun found => bounded.reservations (NatMap.get?_erase_eq_some_iff.mp found).2,
      bounded.mappings⟩
  | unmapStray => exact unmapped _
  | unmap => exact settled (unmapped _)
  | release => exact settled bounded
  | reserve | create | map => exact closes.elim

/-- A bench answers every call of a drop. -/
def Bench.answering : Answering Bench where
  ready bench := bench.device.Bounded
  call {bench call} closes bounded := by
    have effect : Ensures (fun _ => False) (Device.call call) bench.device
        (bench.device.Effect call) := by
      cases call with
      | synchronize => exact Device.Effect.synchronize
      | unmap vaddr size => exact Device.unmap_effect vaddr size
      | release memory => exact Device.release_effect memory
      | freeAddress vaddr size =>
        exact Device.freeAddress_effect fun found =>
          .inl ⟨bounded.reservations found, bounded.mappings⟩
      | _ => exact closes.elim
    refine Bench.ensures_call (fun _ => bounded) fun _ => effect.mono fun answer device effect => ?_
    have after := bounded.effect closes effect
    unfold Bench.announce
    split <;> exact after
  log _ bounded := bounded

/-! ## The device after a drop -/

/-- Nothing of what was taken from the device is left. -/
structure Device.Clear (device : Device) : Prop where
  physicalInUse : device.physicalInUse = 0
  mappedBytes : device.mappedBytes = 0
  reservedBytes : device.reservedBytes = 0
  physical : device.physical.size = 0

theorem Bench.Books.clear {bench : Bench}
    (books : bench.Books (plannedRefusals bench.failures) [] none [])
    {returned : Prop} (reserves : bench.device.Reserves returned []) (all : returned) :
    bench.device.Clear := by
  obtain ⟨-, -, strays, leaks, book, none_lost⟩ := books
  obtain ⟨rfl, rfl, -⟩ := none_lost rfl
  refine ⟨book.physicalInUse, mappedBytes_eq book.mappings, ?_, ?_⟩
  · rw [reserves.total]
    exact (bench.device.reservations.perm_values.trans ((reserves.all all).map Prod.snd)).sum_nat
  · exact book.physical.length_eq

end Simulation

open Simulation

namespace Simulation.Traced

variable {context after : Context (Traced Bench)}

/-- A drop that nothing was refused to clears the device. -/
theorem clear_of_closed (reserved : Sound addressing.ledger context)
    (exact : context.host.AllReturned →
      Sound (facade.books (plannedRefusals context.host.host.failures)) context)
    (closed : Engine.close context = .ok () after) (vbars : after.engine.vbars.toList = [])
    (buffers : after.engine.buffers = {}) (all : after.host.AllReturned) :
    after.host.host.device.Clear := by
  have values : after.engine.vbars.values = [] := congrArg (List.map Prod.snd) vbars
  have holdings : after.engine.holdings = [] := by
    unfold Engine.holdings vbarHoldings
    rw [values, buffers]
    rfl
  have regions : after.engine.regions = [] := by
    unfold Engine.regions vbarRegions
    rw [values, buffers]
    rfl
  obtain ⟨earlier, same⟩ := planned_of_actions ((Engine.close_only context).ensures.of_ok closed) all
  have books := ((Engine.close_spec (exact earlier) rfl).of_ok closed).books.agrees
  have reserves := ((Engine.close_spec reserved rfl).of_ok closed).books.agrees
  rw [regions, holdings, ← same] at books
  rw [regions] at reserves
  exact Bench.Books.clear books reserves all

end Simulation.Traced

/-- Whatever the driver was that a context was used on, and whatever the driver answers while it is
dropped: the drop ends, all that was held is given back, and nothing is left. On a bench that took
back all of it, the device is as empty as it was. -/
theorem teardown_complete :
    (∀ {σ τ : Type} [Host σ] [Host τ] {addressing : Addressing σ} {alters : σ → σ → Prop}
        {device : Int} {config : Config} {host host' : σ} {engine : Engine} {context : Context σ}
        (answers : Answering τ) {last : τ},
      addressing.Keeps alters → addressing.reserves host [] →
      Engine.create device config host = .ok (.ok engine) host' →
      Run alters anyOperation ⟨engine, host'⟩ context → answers.ready last →
      ∃ middle after : Context (Traced τ),
        Vbars.freeAll ⟨context.engine, ⟨last, #[]⟩⟩ = .ok () middle ∧
        Vbars.Emptied ⟨context.engine, ⟨last, #[]⟩⟩ middle ∧
        Engine.close ⟨context.engine, ⟨last, #[]⟩⟩ = .ok () after ∧
        ∃ calls, after.host.events.toList.map Event.call? = calls.map some ∧
          context.engine.Dropped calls after.engine) ∧
    ∀ {device : Int} {config : Config} {bench : Bench} {host' : Traced Bench} {engine : Engine}
        {context : Context (Traced Bench)},
      bench.device.Unused → bench.device.reservedBytes = 0 →
      Engine.create device config (⟨bench, #[]⟩ : Traced Bench) = .ok (.ok engine) host' →
      Run Traced.Adjusted anyOperation ⟨engine, host'⟩ context →
      ∃ after, Engine.close context = .ok () after ∧
        (after.host.AllReturned → after.host.host.device.Clear) := by
  refine ⟨fun {σ τ} _ _ {addressing alters device config host host' engine context} answers {last}
    keeps unused opened run ready => ?_, fun {device config bench host' engine context} unused
    unreserved opened run => ?_⟩
  · have sound := Addressing.sound_of_run keeps run (Addressing.sound_of_opened unused opened)
    have closable := Addressing.closable sound
    have freed : Ensures (fun _ => False) Vbars.freeAll
        (⟨context.engine, ⟨last, #[]⟩⟩ : Context (Traced τ)) _ :=
      Vbars.freeAll_closes closable ready
    have closed : Ensures (fun _ => False) Engine.close
        (⟨context.engine, ⟨last, #[]⟩⟩ : Context (Traced τ)) _ :=
      Engine.close_closes closable ready
    obtain ⟨_, middle, freed, emptied, -⟩ := freed.exists_ok
    obtain ⟨_, after, closed, vbars, buffers, usage, given⟩ := closed.exists_ok
    obtain ⟨events, adds, same⟩ := given.calls
    refine ⟨middle, after, freed, emptied, closed, _, ?_, Engine.dropped vbars buffers usage⟩
    exact (congrArg (List.map Event.call?) adds).trans same
  · have reserved := Addressing.sound_of_run Traced.keeps_adjusted run
      (Addressing.sound_of_opened (Traced.reserves_of_unused unused unreserved) opened)
    have unused : (Traced.facade.bench ⟨bench, #[]⟩).device.Unused := unused
    have start : Sound (Traced.facade.books _) ⟨engine, host'⟩ :=
      Traced.facade.sound_opened unused opened
    obtain ⟨kept, sound⟩ := Traced.facade.accounts_of_run
      (run.loosen fun _ _ => Traced.Adjusted.bench) ⟨_, start⟩
    have ready : Bench.answering.ready context.host.host := Bench.Books.bounded sound.books.agrees
    obtain ⟨_, after, closed, vbars, buffers, -, -⟩ :=
      (Engine.close_closes (Addressing.closable reserved) ready).exists_ok
    exact ⟨after, closed, Traced.clear_of_closed reserved (Traced.exact_of_run run start) closed
      vbars buffers⟩

/-- A pinned page, the first page of a fault that failed at the second, and one chunk of a buffer of
two. They are dropped once by a device that refuses everything, and once by the device that they are
on. -/
theorem teardown_complete_after_failure : ∃ context : Context (Traced Bench),
    context.engine.totalUsage = 3 ∧
    (∃ after : Context (Traced Bench),
      Engine.close ⟨context.engine, ⟨{ device := { capacity := 0 } }, #[]⟩⟩ = .ok () after ∧
        after.engine.totalUsage = 0) ∧
    ∃ after, Engine.close context = .ok () after ∧ after.host.host.device.Clear := by
  have reached : reaches 0 .bytewise
      (⟨{ device := { capacity := 4 }, failures := [⟨.map, .failed 1, 2⟩] }, #[]⟩ : Traced Bench)
      anyOperation [.allocateVbar 1 0, .fault ⟨0, 0⟩ 0 1, .allocateVbar 2 0, .fault ⟨1, 0⟩ 0 2,
        .createBuffer 0 2, .growBuffer (addressBase + 3) 1]
      (fun context => decide (context.engine.totalUsage = 3 ∧
        Ensures (fun _ => False) Engine.close context fun _ after => after.host.AllReturned)) =
      true := by
    decide +kernel
  obtain ⟨engine, host, context, opened, run, passed⟩ :=
    exists_run_of_reaches Traced.Adjusted reached
  obtain ⟨usage, returned⟩ := of_decide_eq_true passed
  have unused : Device.Unused { capacity := 4 } := ⟨rfl, rfl, rfl, rfl, rfl⟩
  have bounded : Device.Bounded { capacity := 0 } := ⟨nofun, nofun⟩
  have ready : Bench.answering.ready { device := { capacity := 0 } } := bounded
  obtain ⟨-, emptied, -, -, closed, calls, -, dropped⟩ := teardown_complete.1 Bench.answering
    Traced.keeps_adjusted (Traced.reserves_of_unused unused rfl) opened run ready
  obtain ⟨after, closed', clear⟩ := teardown_complete.2 unused rfl opened run
  exact ⟨context, usage, ⟨emptied, closed, dropped.usage⟩, after, closed',
    clear (returned.of_ok closed')⟩

end VramOvercommit
