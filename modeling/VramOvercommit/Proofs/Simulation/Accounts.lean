import VramOvercommit.Proofs.Run
import VramOvercommit.Proofs.Simulation.Facade

set_option autoImplicit false

/-!
The account of an engine on a bench, whatever calls are made to fail: it covers the pages and chunks
that are backed, and as long as memory can be given back, the device holds these and nothing else.
-/

namespace VramOvercommit

open Simulation

/-! ## What is held, in bytes -/

section Bytes

variable {σ : Type} [Host σ] {ledger : Ledger σ} {context : Context σ}

theorem SoundBuffers.heldBytes {buffers : NatMap Buffer} (sound : SoundBuffers buffers) :
    heldBytes (bufferHoldings buffers) = (buffers.values.map Buffer.allocated).sum := by
  have each : ∀ values : List Buffer, (∀ buffer ∈ values, buffer.Tidy) →
      VramOvercommit.heldBytes (values.flatMap Buffer.holdings) =
        (values.map Buffer.allocated).sum := by
    intro values
    induction values with
    | nil => simp
    | cons buffer rest ih =>
      intro tidy
      have others := ih fun other member => tidy other (List.mem_cons_of_mem _ member)
      have first := (tidy buffer List.mem_cons_self).heldBytes_holdings
      simp only [List.flatMap_cons, heldBytes_append, first, others, List.map_cons, List.sum_cons]
  apply each _
  intro buffer member
  obtain ⟨base, found⟩ := mem_bufferValues.mp member
  exact sound.tidy found

theorem SoundVbars.totalResident_eq {vbars : PriorityList Vbar} (sound : SoundVbars vbars) :
    totalResident vbars =
      (vbars.values.map fun vbar => vbar.pages.countP Page.isResident).sum := by
  unfold totalResident
  congr 1
  apply List.map_congr_left
  intro vbar member
  obtain ⟨handle, live⟩ := sound.linked.mem_values.mp member
  exact (sound.consistent live).counted.symm

/-- The bytes of all resident pages and of all chunks. -/
def backedBytes (engine : Engine) : Nat :=
  (engine.vbars.values.map fun vbar => vbar.pages.countP Page.isResident).sum *
    engine.config.vbarPageSize + (engine.buffers.values.map Buffer.allocated).sum

theorem Sound.heldBytes (sound : Sound ledger context) :
    heldBytes context.engine.holdings = backedBytes context.engine := by
  unfold Engine.holdings backedBytes
  rw [heldBytes_append, sound.vbars.heldBytes, sound.buffers.heldBytes,
    sound.vbars.totalResident_eq]

end Bytes

/-! ## Benches -/

namespace Simulation

/-- A device that nothing was asked of. -/
structure Device.Unused (device : Device) : Prop where
  mappings : device.mappings = {}
  physical : device.physical = {}
  reservations : device.reservations = {}
  physicalInUse : device.physicalInUse = 0
  nextAddress : device.nextAddress = addressBase

/-- What may change between two operations: the memory that others use, the failures to come, and
whatever does not concern the device. -/
def Bench.Adjusted (before after : Bench) : Prop :=
  after.device = { before.device with
    foreignUsage := after.device.foreignUsage
    injected := after.device.injected }

theorem Device.Unused.books {bench : Bench} (unused : bench.device.Unused) (kept : Nat)
    (planned : plannedRefusals bench.failures ≤ kept) : bench.Books kept [] none [] := by
  obtain ⟨mappings, physical, reservations, physicalInUse, nextAddress⟩ := unused
  refine ⟨⟨by simp, by simp, ?_, ?_, ?_, ?_⟩, planned, [], [], ⟨?_, ?_, ?_, ?_, ?_, ?_⟩,
    fun _ => ⟨rfl, rfl, Bench.nothing_mapped⟩⟩
  · simp [reservations]
  · simp [reservations]
  · simp [reservations]
  · rw [nextAddress]
    decide
  · rw [mappings]
    exact .refl _
  · rw [physical]
    exact .refl _
  · rw [physical, physicalInUse]
    rfl
  · rw [physicalInUse]
    exact Nat.zero_le _
  · simp [physical]
  · simp [mappings]

theorem Bench.Books.adjusted {before after : Bench} {kept kept' : Nat} {regions : List Region}
    {holdings : List Holding} (books : before.Books kept regions none holdings)
    (adjusted : before.Adjusted after) (planned : plannedRefusals after.failures ≤ kept')
    (clean : plannedRefusals after.failures = kept' → plannedRefusals before.failures = kept) :
    after.Books kept' regions none holdings := by
  obtain ⟨addresses, -, strays, leaks, book, none_lost⟩ := books
  refine ⟨?_, planned, strays, leaks, ?_, fun all => none_lost (clean all)⟩
  · rw [adjusted]
    exact ⟨addresses.reserved, addresses.distinct, addresses.positive, addresses.ends,
      addresses.apart, addresses.next_lt⟩
  · rw [adjusted]
    exact ⟨book.mappings, book.physical, book.inUse, book.fits, book.ids, book.ends⟩

section Facades

variable {σ : Type} [Host σ] (facade : Facade σ)

/-- The books of a bench on which any call can be made to fail, kept for the host in front of it. -/
def Facade.books (kept : Nat) : Ledger σ := facade.ledger (benchLedger kept) Bench.Books.alike

/-- What may change of a host between two operations: what it makes up, and the bench behind it. -/
def Facade.Adjusted (before after : σ) : Prop := (facade.bench before).Adjusted (facade.bench after)

/-- Opening a context asks an unused device for nothing but its size. -/
theorem Facade.create_spec {device : Int} {config : Config} {host : σ}
    (unused : (facade.bench host).device.Unused) :
    Ensures (fun _ => True) (Engine.create device config) host (fun result after =>
      match result with
      | .ok engine => (facade.bench after).device.Unused ∧ config.validate = .ok () ∧
          ∃ capacity, engine = Engine.fresh device config capacity
      | .error _ => True) := by
  have alike : ∀ {before after : Bench}, before.Alike after → before.device.Unused →
      after.device.Unused := fun same unused => same.device.symm ▸ unused
  have asked : Ensures (fun _ => True) (Host.call (.totalMemory device)) (facade.bench host)
      fun _ after => after.device.Unused := Bench.call_spec (fun _ => unused) fun _ => unused
  exact Engine.create_spec (fun after => (facade.bench after).device.Unused)
    (facade.ensures_call (by nofun) asked) (alike (facade.deviceName device _))
    fun notice => alike (facade.log notice _)

variable {context : Context σ}

/-- The books of a bench can be kept for another number of refusals to come. -/
theorem Facade.rekept {host : σ} {kept kept' : Nat} (sound : Sound (facade.books kept) context)
    (books : (facade.bench host).Books kept' context.engine.regions none context.engine.holdings) :
    Sound (facade.books kept') ⟨context.engine, host⟩ :=
  ⟨sound.vbars, sound.buffers, sound.valid, trivial, books, sound.books.accounted.held_le,
    sound.books.accounted.held_eq, sound.books.accounted.word⟩

/-- A context that was just opened is sound. -/
theorem Facade.sound_opened {device : Int} {config : Config} {host host' : σ} {engine : Engine}
    (unused : (facade.bench host).device.Unused)
    (opened : Engine.create device config host = .ok (.ok engine) host') :
    Sound (facade.books (plannedRefusals (facade.bench host').failures)) ⟨engine, host'⟩ := by
  obtain ⟨unused', valid, capacity, rfl⟩ := (facade.create_spec unused).of_ok opened
  exact sound_fresh valid trivial (unused'.books _ (Nat.le_refl _))

/-- A run leaves the account sound whatever is made to fail. -/
theorem Facade.accounts_of_run {admits : Context σ → Operation → Context σ → Prop}
    {start : Context σ} (run : Run facade.Adjusted admits start context)
    (sound : ∃ kept, Sound (facade.books kept) start) :
    ∃ kept, Sound (facade.books kept) context := by
  refine run.preserves (fun context => ∃ kept, Sound (facade.books kept) context)
    (fun {context host} sound adjusted => ?_)
    (fun {context after operation outcome} sound ran _ => ?_) sound
  · obtain ⟨kept, sound⟩ := sound
    have books : (facade.bench context.host).Books kept context.engine.regions none
      context.engine.holdings := sound.books.agrees
    exact ⟨plannedRefusals (facade.bench host).failures + 1, facade.rekept sound
      (books.adjusted adjusted (Nat.le_succ _) fun all => absurd all (by omega))⟩
  · obtain ⟨kept, sound⟩ := sound
    exact ⟨kept, ((operation.run_spec sound rfl fun _ => trivial).of_ok ran).sound⟩

end Facades

end Simulation

/-- No call that gives memory back was made to fail. -/
def Simulation.Facade.allGivenBack {σ : Type} [Host σ] (facade : Facade σ) (before : Context σ)
    (_ : Operation) (after : Context σ) : Prop :=
  plannedRefusals (facade.bench after.host).failures =
    plannedRefusals (facade.bench before.host).failures

section Runs

variable {σ : Type} [Host σ] {facade : Facade σ} {context : Context σ}

instance (before : Context σ) (operation : Operation) (after : Context σ) :
    Decidable (facade.allGivenBack before operation after) :=
  inferInstanceAs (Decidable (plannedRefusals (facade.bench after.host).failures = _))

/-- A run in which all is given back leaves neither strays nor leaks. -/
theorem Simulation.Facade.exact_of_run {start : Context σ}
    (run : Run facade.Adjusted facade.allGivenBack start context)
    (sound : Sound (facade.books (plannedRefusals (facade.bench start.host).failures)) start) :
    Sound (facade.books (plannedRefusals (facade.bench context.host).failures)) context := by
  induction run with
  | start => exact sound
  | alter _ adjusted ih =>
    exact facade.rekept ih (ih.books.agrees.adjusted adjusted (Nat.le_refl _) fun _ => rfl)
  | perform _ ran given ih =>
    have done := ((Operation.run_spec _ ih rfl fun _ => trivial).of_ok ran).sound
    unfold Facade.allGivenBack at given
    rwa [given]

theorem mappedBytes_eq {device : Device} {holdings : List Holding}
    (same : device.mappings.entries.Perm (holdings.map Holding.mapping)) :
    device.mappedBytes = heldBytes holdings := by
  have entries := (device.mappings.perm_values.trans (same.map Prod.snd)).map Mapping.size
  unfold heldBytes
  change (device.mappings.values.map Mapping.size).sum = _
  rw [entries.sum_nat, List.map_map, List.map_map]
  rfl

/-- A piece of memory stands behind one page or one chunk. -/
theorem owners_nodup {device : Device} {holdings : List Holding}
    (same : device.physical.entries.Perm (holdings.map Holding.allocation)) :
    (holdings.map Holding.memory).Nodup := by
  have ids := ((same.map Prod.fst).nodup_iff).mp device.physical.keys_nodup
  rw [List.map_map] at ids
  apply List.Nodup.of_map PhysicalHandle.id
  rw [List.map_map]
  exact ids

/-- The account of a context covers its resident pages and its chunks after every run in front of a
bench, whatever calls are made to fail and whatever the host makes up, and nothing aborts but a sum
that is no word. If moreover every call that gives memory back went through, the device maps exactly
these pages and chunks, and each piece of its physical memory belongs to exactly one of them. -/
theorem usage_accounted (facade : Facade σ) {device : Int} {config : Config} {host host' : σ}
    {engine : Engine} (unused : (facade.bench host).device.Unused)
    (opened : Engine.create device config host = .ok (.ok engine) host')
    (run : Run facade.Adjusted anyOperation ⟨engine, host'⟩ context) :
    context.engine.totalUsage = backedBytes context.engine ∧
    (∀ (operation : Operation) (cause : Abort) (after : Context σ),
      operation.run context = .error cause after → cause = .overflow) ∧
    (∀ (cause : Abort) (after : Context σ),
      Engine.close context = .error cause after → cause = .overflow) ∧
    (Run facade.Adjusted facade.allGivenBack ⟨engine, host'⟩ context →
      (facade.bench context.host).device.mappings.entries.Perm
        (context.engine.holdings.map Holding.mapping) ∧
      (facade.bench context.host).device.physical.entries.Perm
        (context.engine.holdings.map Holding.allocation) ∧
      (context.engine.holdings.map Holding.memory).Nodup ∧
      (facade.bench context.host).device.physicalInUse = context.engine.totalUsage ∧
      (facade.bench context.host).device.mappedBytes = context.engine.totalUsage ∧
      context.engine.totalUsage ≤ (facade.bench context.host).device.capacity) := by
  have start := facade.sound_opened unused opened
  obtain ⟨kept, sound⟩ := facade.accounts_of_run run ⟨_, start⟩
  have usage := sound.books.accounted.held_eq trivial
  refine ⟨?_, fun operation cause after ran => ?_, fun cause after ran => ?_, fun clean => ?_⟩
  · rw [← sound.heldBytes]
    exact usage.symm
  · exact (operation.run_spec sound rfl fun _ => trivial).of_error ran
  · exact (Engine.close_spec sound rfl).of_error ran
  · obtain ⟨-, -, strays, leaks, book, none_lost⟩ := (facade.exact_of_run clean start).books.agrees
    obtain ⟨rfl, rfl, -⟩ := none_lost rfl
    have bytes : (facade.bench context.host).device.physicalInUse =
        0 + 0 + heldBytes context.engine.holdings := book.physicalInUse
    have inUse : (facade.bench context.host).device.physicalInUse = context.engine.totalUsage := by
      rw [bytes, Nat.zero_add]
      exact usage
    refine ⟨book.mappings, book.physical, owners_nodup book.physical, inUse, ?_, ?_⟩
    · rw [mappedBytes_eq book.mappings]
      exact usage
    · rw [← inUse]
      exact book.fits

/-- Two pages and a chunk on a device of four bytes, with a failure to map in between. -/
theorem usage_accounted_after_failure :
    ∃ context : Context Bench, context.host.device.physicalInUse = 3 ∧
      context.engine.totalUsage = backedBytes context.engine ∧
      context.host.device.mappings.entries.Perm
        (context.engine.holdings.map Holding.mapping) := by
  have reached : reaches 0 .bytewise
      { device := { capacity := 4 }, failures := [{ kind := .map, cause := .outOfMemory }] : Bench }
      Bench.facade.allGivenBack [.allocateVbar 2 0, .fault ⟨0, 0⟩ 0 2,
        .prioritize ⟨0, 0⟩, .fault ⟨0, 0⟩ 0 2, .allocate 1 0]
      (fun after => after.host.device.physicalInUse = 3) = true := by
    decide +kernel
  obtain ⟨engine, host, context, opened, run, passed⟩ :=
    exists_run_of_reaches Bench.facade.Adjusted reached
  have accounted := usage_accounted Bench.facade ⟨rfl, rfl, rfl, rfl, rfl⟩ opened
    (run.weaken fun _ _ _ _ => trivial)
  exact ⟨context, of_decide_eq_true passed, accounted.1, (accounted.2.2.2 run).1⟩

end Runs

end VramOvercommit
