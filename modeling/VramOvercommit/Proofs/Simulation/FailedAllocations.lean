import VramOvercommit.Proofs.PassRecords
import VramOvercommit.Proofs.Simulation.ReservationOutcome
import VramOvercommit.Proofs.Simulation.SteadyLedger
import VramOvercommit.Proofs.Simulation.TracedBench

set_option autoImplicit false

/-!
What an allocation leaves behind that fails. As long as the driver takes back what it is given, a
range that could not be had costs nothing, a VBAR without a slot leaves nothing but used up
addresses, and a buffer that could not be backed nothing but the pages that were reclaimed for it.
-/

namespace VramOvercommit

open EngineM
open Attempt (lift)
open Simulation

variable {σ : Type} [Host σ] {facade : Facade σ} {strays : List (Nat × Mapping)}
  {leaks : List (Nat × Allocation)}

/-! ## Steps that change nothing -/

section Steps

variable {context middle after : Context σ}

/-- Nothing changed but a failure that was set up on the device, which may be used up. -/
structure Untouched (facade : Facade σ) (before after : Context σ) : Prop where
  engine : after.engine = before.engine
  device : (facade.bench after.host).device = { (facade.bench before.host).device with
    injected := (facade.bench after.host).device.injected }

theorem Untouched.refl (facade : Facade σ) (context : Context σ) :
    Untouched facade context context := ⟨rfl, rfl⟩

theorem Untouched.trans (first : Untouched facade context middle)
    (second : Untouched facade middle after) : Untouched facade context after := by
  refine ⟨second.engine.trans first.engine, ?_⟩
  rw [second.device, first.device]

/-- What is asked of the host does not touch the device. -/
theorem Untouched.alike (untouched : Untouched facade context middle) {host : σ}
    (alike : (facade.bench middle.host).Alike (facade.bench host)) :
    Untouched facade context { middle with host } :=
  untouched.trans ⟨rfl, by rw [alike.device]⟩

theorem Untouched.log (untouched : Untouched facade context middle) (notice : Notice) :
    Untouched facade context { middle with host := Host.log notice middle.host } :=
  untouched.alike (facade.log notice _)

theorem Untouched.sameSpace (untouched : Untouched facade context after) :
    (facade.bench context.host).device.SameSpace (facade.bench after.host).device := by
  rw [untouched.device]
  exact ⟨rfl, rfl, rfl, rfl⟩

/-- A range that was just reserved and is given back leaves nothing but used up addresses. -/
theorem Simulation.Device.freed_reserved {device : Device}
    (fresh : device.reservations.get? device.nextAddress = none) (size : Nat) :
    (device.reserved size).freed device.nextAddress size =
      { device with nextAddress := device.nextAddress + size } := by
  unfold freed reserved
  dsimp only
  rw [NatMap.erase_insert, NatMap.erase_of_none fresh, Nat.add_sub_cancel]

/-- Nothing is left of a reservation but that its addresses will not be handed out again. -/
structure Restored (facade : Facade σ) (before after : Context σ) : Prop where
  engine : after.engine = before.engine
  device : (facade.bench after.host).device = { (facade.bench before.host).device with
    nextAddress := (facade.bench after.host).device.nextAddress
    injected := (facade.bench after.host).device.injected }

theorem Untouched.restored (untouched : Untouched facade context after) :
    Restored facade context after := by
  refine ⟨untouched.engine, ?_⟩
  rw [untouched.device]

/-- A call that is refused leaves the device alone. -/
theorem Simulation.Device.Effect.untouched {device after : Device} {call : DriverCall}
    {cause : DriverError} (effect : device.Effect call (.error cause) after) :
    after = { device with injected := after.injected } := by
  cases effect <;> rfl

/-- A reservation that is refused changes nothing, and one that is granted starts where all others
have ended. -/
theorem Memory.reserve_takes (facade : Facade σ) (size : Nat) :
    Ensures (fun _ => True) (Memory.reserve size) context fun answer after =>
      match answer with
      | .ok base => base = (facade.bench context.host).device.nextAddress ∧
          after.engine = context.engine ∧
          (facade.bench after.host).device = (facade.bench context.host).device.reserved size
      | .error _ => Untouched facade context after := by
  unfold Memory.reserve
  rw [ensures_call]
  have asked : DriverCall.reserve size ≠ .memoryInfo := by rintro ⟨⟩
  refine (facade.ensures_call asked (Bench.call_effect _)).mono fun answer host effect => ?_
  cases answer with
  | error cause => exact ⟨rfl, effect.untouched⟩
  | ok base =>
    have granted : ∀ {after : Device},
        (facade.bench context.host).device.Effect (.reserve size) (.ok base) after →
          base = (facade.bench context.host).device.nextAddress ∧
            after = (facade.bench context.host).device.reserved size := by
      intro after effect
      cases effect with
      | tell asks => exact asks.elim
      | reserve => exact ⟨rfl, rfl⟩
    exact ⟨(granted effect).1, rfl, (granted effect).2⟩

namespace Buffers

theorem roundToUnit_untouched (facade : Facade σ) (size : Nat) :
    Ensures (fun _ => True) (roundToUnit size).run context fun _ after =>
      Untouched facade context after := by
  unfold roundToUnit
  rw [ensures_run_bind, ensures_run_lift, ensures_engine]
  dsimp only
  split
  · exact .refl facade context
  · rw [ensures_run_bind, ensures_run_lift, ensures_log, ensures_run_throw]
    exact (Untouched.refl facade context).log _

/-- A buffer that cannot be reserved leaves everything as it was. Any other starts where all
reservations have ended. -/
theorem create_reserves (facade : Facade σ) (device : Int) (maxSize : Nat) :
    Ensures (fun _ => True) (create device maxSize).run context fun result after =>
      match result with
      | .ok base => base = (facade.bench context.host).device.nextAddress ∧ ∃ size,
          ((facade.bench context.host).device.reserved size).SameSpace
            (facade.bench after.host).device
      | .error _ => Untouched facade context after := by
  unfold create
  rw [ensures_run_bind]
  apply (roundToUnit_untouched facade maxSize).mono
  intro rounded first untouched
  cases rounded with
  | error cause => exact untouched
  | ok size =>
    dsimp only
    rw [ensures_run_bind, ensures_run_lift, ensures_allocates]
    have asked := untouched.alike (facade.room_alike .buffers 1 first.host)
    dsimp only
    split
    · rw [ensures_run_bind, ensures_run_lift]
      apply (Memory.reserve_takes facade size).mono
      intro answer second outcome
      cases answer with
      | ok base =>
        obtain ⟨start, -, device⟩ := outcome
        dsimp only
        rw [ensures_run_bind, ensures_run_lift, ensures_putBuffer, ensures_run_pure]
        dsimp only
        rw [device, start, asked.device]
        exact ⟨rfl, size, rfl, rfl, rfl, rfl⟩
      | error cause =>
        dsimp only
        rw [ensures_run_bind, ensures_run_lift, ensures_log, ensures_run_throw]
        exact (asked.trans outcome).log _
    · rw [ensures_run_throw]
      exact asked

end Buffers

/-! ## The way back -/

/-- No action sets up a failure to give something back. -/
theorem Simulation.Facade.takesBack (facade : Facade σ) {kinds : List ActionKind}
    (takes : (facade.bench context.host).TakesBack) (actions : Actions kinds context after) :
    (facade.bench after.host).TakesBack := by
  induction actions with
  | refl => exact takes
  | tail _ action ih =>
    cases action with
    | @call driverCall answer host allowed answered =>
      by_cases asks : driverCall = .memoryInfo
      · subst asks
        exact ih.alike ((facade.ensures_memoryInfo _ : Ensures (fun _ => True) _ _ _).of_ok
          answered)
      · exact (facade.ensures_call asks (ih.call driverCall)).of_ok answered
    | platformBudget => exact ih.alike (facade.platformBudget _)
    | clock => exact ih.alike (facade.clock _)
    | allocates => exact ih.alike (facade.allocates _ _ _)
    | log notice => exact ih.alike (facade.log notice _)
    | _ => exact ih

/-- A range behind all that is mapped is given back. -/
theorem Memory.freeAddress_granted {vaddr size : Nat} {regions : List Region}
    {holdings : List Holding}
    (books : Books (facade.steadyBooks strays leaks) context (⟨vaddr, size⟩ :: regions) holdings)
    (takes : (facade.bench context.host).TakesBack)
    (behind : ∀ entry ∈ strays ++ holdings.map Holding.mapping,
      entry.1 < vaddr ∧ entry.1 + entry.2.size ≤ vaddr) :
    Ensures (fun _ => True) (Memory.freeAddress vaddr size) context fun _ after =>
      after.engine = context.engine ∧
        (facade.bench after.host).device = (facade.bench context.host).device.freed vaddr size := by
  have steady : Bench.SteadyBooks strays leaks (facade.bench context.host)
    (⟨vaddr, size⟩ :: regions) none holdings := books.agrees
  have asked : DriverCall.freeAddress vaddr size ≠ .memoryInfo := by rintro ⟨⟩
  unfold Memory.freeAddress
  rw [ensures_bind, ensures_call]
  refine (facade.ensures_call asked (steady.freeAddress_granted takes behind)).mono ?_
  rintro answer host ⟨rfl, device⟩
  exact ⟨rfl, device⟩

namespace Buffers

/-- A buffer behind all that is mapped leaves no reservation when it is destroyed. -/
theorem destroy_frees {base : Nat} {buffer : Buffer}
    (sound : Sound (facade.steadyBooks strays leaks) context)
    (takes : (facade.bench context.host).TakesBack)
    (found : context.engine.buffers.get? base = some buffer)
    (behind : ∀ entry ∈ strays ++ (vbarHoldings context.engine.vbars
        context.engine.config.vbarPageSize ++
        bufferHoldings (context.engine.buffers.erase base)).map Holding.mapping,
      entry.1 < base ∧ entry.1 + entry.2.size ≤ base) :
    Ensures (fun _ => True) (destroy base).run context fun result after => result = .ok () ∧
      (facade.bench after.host).device.reservations =
        (facade.bench context.host).device.reservations.erase base ∧
      (facade.bench after.host).device.reservedBytes =
        (facade.bench context.host).device.reservedBytes - buffer.maxSize := by
  obtain rfl : buffer.base = base := sound.buffers.keyed found
  obtain ⟨erased, small⟩ := take_buffer sound found
  have only : Only [.call .unmap, .call .release] (releaseChunks buffer.chunks.toList buffer.base :
      EngineM σ Unit) := releaseChunks_only (by decide) (by decide)
  unfold destroy discard
  rw [ensures_run_bind, Attempt.ensures_buffer, found]
  dsimp only
  rw [ensures_run_lift, ensures_bind, ensures_modifyEngine, ensures_bind]
  apply (((releaseChunks_spec erased small).weaken fun _ _ => trivial).and (only _).ensures).mono
  rintro _ middle ⟨⟨-, books⟩, actions⟩
  have space := facade.sameSpace actions (by decide) (by decide)
  have takes' : (facade.bench middle.host).TakesBack := by
    refine facade.takesBack ?_ actions
    exact takes
  refine (Memory.freeAddress_granted books takes' behind).mono ?_
  rintro _ after ⟨-, device⟩
  rw [device]
  exact ⟨rfl, congrArg (NatMap.erase · buffer.base) space.reservations,
    congrArg (· - buffer.maxSize) space.reservedBytes⟩

end Buffers

namespace Vbars

/-- The pages of a new VBAR are reserved where all reservations have ended, or nothing changed. -/
theorem reservePages_takes (facade : Facade σ) (nrPages size : Nat) :
    Ensures (fun _ => True) (reservePages nrPages size).run context fun result after =>
      match result with
      | .ok base => base = (facade.bench context.host).device.nextAddress ∧
          after.engine = context.engine ∧
          (facade.bench after.host).device = (facade.bench context.host).device.reserved size
      | .error _ => Untouched facade context after := by
  have alike := facade.roomBeside_alike .pageMap 0 nrPages Vbar.pageEntrySize context.host
  have asked := (Untouched.refl facade context).alike alike
  unfold reservePages
  rw [ensures_run_bind, ensures_run_lift, ensures_allocatesBeside]
  dsimp only
  split
  · rw [ensures_run_bind, ensures_run_lift]
    apply (Memory.reserve_takes facade size).mono
    intro answer after outcome
    cases answer with
    | ok base =>
      obtain ⟨start, engine, device⟩ := outcome
      dsimp only at start engine device
      rw [alike.device] at start device
      exact ⟨start, engine, device⟩
    | error cause =>
      dsimp only
      rw [ensures_run_bind, ensures_run_lift, ensures_log, ensures_run_throw]
      exact (asked.trans outcome).log _
  · rw [ensures_run_bind, ensures_run_lift, ensures_log, ensures_run_throw]
    exact asked.log _

/-- A VBAR without a slot gives its range back. -/
theorem insert_frees (vbar : Vbar) {size : Nat} {regions : List Region} {holdings : List Holding}
    (books : Books (facade.steadyBooks strays leaks) context (⟨vbar.base, size⟩ :: regions)
      holdings)
    (takes : (facade.bench context.host).TakesBack)
    (behind : ∀ entry ∈ strays ++ holdings.map Holding.mapping,
      entry.1 < vbar.base ∧ entry.1 + entry.2.size ≤ vbar.base) :
    Ensures (fun _ => True) (insert vbar size).run context fun result after =>
      ∀ cause, result = .error cause → cause = .hostOutOfMemory ∧
        after.engine = context.engine ∧ (facade.bench after.host).device =
          (facade.bench context.host).device.freed vbar.base size := by
  unfold insert
  rw [ensures_run_bind, ensures_run_lift]
  refine ((allocatesSlot_settles facade).and (allocatesSlot_spec books)).mono ?_
  rintro granted middle ⟨⟨engine, alike, -⟩, -, books⟩
  dsimp only
  split
  · rw [ensures_run_lift]
    exact ensures_any fun _ _ => nofun
  · have logged := alike.trans (facade.log .vbarSlotRefused middle.host)
    rw [ensures_run_bind, ensures_run_lift, ensures_bind, ensures_log]
    refine (Memory.freeAddress_granted (books.log _) (takes.alike logged) behind).mono ?_
    rintro _ after ⟨unchanged, device⟩
    rw [logged.device] at device
    rintro cause ⟨⟩
    exact ⟨rfl, unchanged.trans engine, device⟩

/-- A VBAR that cannot be had leaves everything as it was, but for the addresses of one without a
slot. -/
theorem allocate_restores (size : Nat) (device : Int)
    (sound : Sound (facade.steadyBooks strays leaks) context)
    (takes : (facade.bench context.host).TakesBack) :
    Ensures (fun _ => True) (allocate size device).run context fun result after =>
      ∀ cause, result = .error cause → Restored facade context after ∧
        (cause ≠ .hostOutOfMemory → Untouched facade context after) := by
  have started := (Untouched.refl facade context).log (.vbarRequested size device)
  have alike := facade.log (.vbarRequested size device) context.host
  have steady : Bench.SteadyBooks strays leaks (facade.bench context.host)
    context.engine.regions none context.engine.holdings := sound.books.agrees
  unfold allocate
  rw [ensures_run_bind, ensures_run_lift, ensures_log]
  dsimp only
  rw [ensures_run_bind, ensures_run_lift, ensures_engine]
  dsimp only
  rw [ensures_run_bind, ensures_run_lift]
  refine ensures_word (.inr trivial) fun _ => ?_
  dsimp only
  rw [ensures_run_bind]
  refine (((reservePages_takes facade _ _).and ((reservePages_spec (sound.log _) rfl).weaken
    fun _ _ => trivial)).and (reservePages_only (List.mem_singleton_self _) _ _ _).ensures).mono ?_
  rintro result middle ⟨⟨reserved, engine, books⟩, actions⟩
  cases result with
  | error cause =>
    have untouched := started.trans reserved
    exact fun _ _ => ⟨untouched.restored, fun _ => untouched⟩
  | ok base =>
    obtain ⟨start, -, taken⟩ := reserved
    obtain ⟨-, books⟩ := books
    dsimp only at start engine taken
    rw [alike.device] at start taken
    -- all that is mapped ends where the new range starts
    have behind : ∀ entry ∈ strays ++ context.engine.holdings.map Holding.mapping,
        entry.1 < base ∧ entry.1 + entry.2.size ≤ base := fun entry member =>
      start ▸ steady.memory.ends (NatMap.get?_eq_some_iff.mpr
        (steady.memory.mappings.mem_iff.mpr member))
    dsimp only
    rw [ensures_run_bind]
    refine (insert_frees (.fresh base device _) books
      (facade.takesBack (takes.alike alike) actions) behind).mono fun result after outcome => ?_
    cases result with
    | ok handle =>
      dsimp only
      rw [ensures_run_bind, ensures_run_lift]
      exact ensures_any fun _ _ => nofun
    | error cause =>
      obtain ⟨starved, unchanged, freed⟩ := outcome cause rfl
      rintro _ ⟨⟩
      refine ⟨⟨unchanged.trans engine, ?_⟩, fun other => absurd starved other⟩
      rw [freed, taken, start]
      exact Device.freed_reserved steady.addresses.fresh _

end Vbars

end Steps

/-! ## Allocations that are undone -/

section Allocations

variable {context middle after : Context (Traced σ)} {events : List Event} {lost : List Holding}

/-- An allocation that failed has given its range back, and of the VBARs its passes took what is
lost. -/
structure Undone (facade : Facade σ) (before after : Context (Traced σ)) (lost : List Holding)
    (events : List Event) : Prop where
  reservations : (facade.bench after.host.host).device.reservations =
    (facade.bench before.host.host).device.reservations
  reservedBytes : (facade.bench after.host.host).device.reservedBytes =
    (facade.bench before.host.host).device.reservedBytes
  passes : PassesAmong (facade.bench before.host.host).device.nextAddress lost events
  loses : Loses before.engine after.engine lost

theorem Untouched.undone (untouched : Untouched facade.traced context after)
    (linked : context.engine.vbars.WellLinked)
    (beside : Beside (facade.bench context.host.host).device.nextAddress events) :
    Undone facade context after [] events := by
  obtain ⟨reservations, reservedBytes, -, -⟩ := untouched.sameSpace
  refine ⟨reservations, reservedBytes, .beside beside, .nothing linked ?_ ?_⟩ <;>
    rw [untouched.engine]

/-- Steps that change nothing may come before. -/
theorem Undone.behind {earlier later : List Event} (undone : Undone facade middle after lost later)
    (untouched : Untouched facade.traced context middle)
    (beside : Beside (facade.bench context.host.host).device.nextAddress earlier) :
    Undone facade context after lost (earlier ++ later) := by
  obtain ⟨reservations, reservedBytes, passes, loses⟩ := undone
  have space : (facade.bench context.host.host).device.SameSpace
    (facade.bench middle.host.host).device := untouched.sameSpace
  rw [space.nextAddress] at passes
  rw [untouched.engine] at loses
  exact ⟨reservations.trans space.reservations, reservedBytes.trans space.reservedBytes,
    passes.behind beside, loses⟩

namespace Buffers

/-- A new buffer behind all that was mapped before, with what passes took for it so far. -/
structure Opened (facade : Facade σ) (strays : List (Nat × Mapping))
    (leaks : List (Nat × Allocation)) (before middle : Context (Traced σ)) (base : Nat)
    (lost : List Holding) (events : List Event) : Prop where
  sound : Sound (facade.traced.steadyBooks strays leaks) middle
  takes : (facade.bench middle.host.host).TakesBack
  listed : ∃ earlier, Lists middle earlier base
  start : base = (facade.bench before.host.host).device.nextAddress
  space : ∃ size, ((facade.bench before.host.host).device.reserved size).SameSpace
    (facade.bench middle.host.host).device
  fresh : before.engine.buffers.get? base = none
  worked : WorkedAt base before.engine middle.engine
  passes : PassesAmong base lost events
  loses : Loses before.engine middle.engine lost

/-- Either there is a new buffer, or nothing changed. -/
theorem create_opened (device : Int) (size : Nat)
    (sound : Sound (facade.traced.steadyBooks strays leaks) context)
    (takes : (facade.bench context.host.host).TakesBack) :
    Traces (create device size).run context fun events result after =>
      match result with
      | .ok base => Opened facade strays leaks context after base [] events
      | .error _ => Undone facade context after [] events := by
  refine ((((Traces.of_only (create_only device size)).and
    (create_reserves facade.traced device size)).and
    (create_recorded device size).ensures).and (create_opens sound rfl)).mono ?_
  rintro result after
    ⟨events, adds, ⟨⟨⟨allowed, actions⟩, reserves⟩, recorded⟩, sound', opens⟩
  refine ⟨events, adds, ?_⟩
  have beside : Beside (facade.bench context.host.host).device.nextAddress events :=
    allowed.beside (by decide)
  cases result with
  | error cause => exact reserves.undone sound.vbars.linked beside
  | ok base =>
    obtain ⟨start, space⟩ := reserves
    obtain ⟨earlier, -, listed⟩ := recorded
    obtain ⟨size', engine, fresh⟩ := opens
    have worked : WorkedAt base context.engine after.engine := by
      rw [engine]
      exact ⟨⟨rfl, rfl, rfl⟩, .refl sound.vbars, NatMap.erase_insert _ _ _⟩
    exact ⟨sound', facade.traced.takesBack takes actions, ⟨earlier, listed base rfl⟩, start, space,
      fresh trivial, worked, .beside (start ▸ beside), .nothing sound.vbars.linked actions.config
        (actions.vbars (by decide))⟩

variable {before : Context (Traced σ)} {base : Nat}

theorem Opened.log (opened : Opened facade strays leaks before middle base lost events)
    (notice : Notice) : Opened facade strays leaks before
      { middle with host := Host.log notice middle.host } base lost events := by
  have alike := facade.log notice middle.host.host
  obtain ⟨size, space⟩ := opened.space
  rw [← alike.device] at space
  exact ⟨opened.sound.log notice, opened.takes.alike alike, opened.listed, opened.start,
    ⟨size, space⟩, opened.fresh, opened.worked, opened.passes, opened.loses⟩

/-- The buffer stays open while it grows. -/
theorem Opened.grow (opened : Opened facade strays leaks before middle base lost events)
    (required : Nat) :
    Traces (Buffers.grow base required).run middle fun more _ after =>
      ∃ lost, Opened facade strays leaks before after base lost (events ++ more) := by
  obtain ⟨earlier, listed⟩ := opened.listed
  refine ((((grow_takes opened.sound.buffers (Nat.le_refl base) opened.sound.vbars.linked).and
    (grow_works opened.sound fun _ _ => trivial)).and
    (grow_only base required middle).ensures).and (grow_recorded required listed).ensures).mono ?_
  rintro result after
    ⟨more, adds, ⟨⟨⟨lost, passes, loses⟩, sound, worked⟩, actions⟩, _, -, listed⟩
  obtain ⟨size, space⟩ := opened.space
  exact ⟨more, adds, _, sound, facade.traced.takesBack opened.takes actions, ⟨_, listed⟩,
    opened.start, ⟨size, space.trans (facade.traced.sameSpace actions (by decide) (by decide))⟩,
    opened.fresh, opened.worked.trans worked, opened.passes.append passes, opened.loses.trans loses⟩

/-- All that is mapped beside the new buffer lies in front of it. -/
theorem Opened.behind (opened : Opened facade strays leaks before middle base lost events)
    (sound : Sound (facade.traced.steadyBooks strays leaks) before) :
    ∀ entry ∈ strays ++ (vbarHoldings middle.engine.vbars
        middle.engine.config.vbarPageSize ++
        bufferHoldings (middle.engine.buffers.erase base)).map Holding.mapping,
      entry.1 < base ∧ entry.1 + entry.2.size ≤ base := by
  have steady : Bench.SteadyBooks strays leaks (facade.bench before.host.host)
    before.engine.regions none before.engine.holdings := sound.books.agrees
  intro entry inside
  rw [opened.start]
  refine steady.memory.ends (NatMap.get?_eq_some_iff.mpr
    (steady.memory.mappings.mem_iff.mpr ?_))
  rw [opened.worked.config, opened.worked.others, NatMap.erase_of_none opened.fresh] at inside
  rcases List.mem_append.mp inside with stray | mapped
  · exact List.mem_append_left _ stray
  · obtain ⟨holding, held, rfl⟩ := List.mem_map.mp mapped
    refine List.mem_append_right _ (List.mem_map_of_mem ?_)
    rcases List.mem_append.mp held with page | chunk
    · exact List.mem_append_left _ (opened.worked.vbars.mem_vbarHoldings sound.vbars.linked
        opened.sound.vbars.linked page)
    · exact List.mem_append_right _ chunk

/-- Destroying the new buffer gives its range back. -/
theorem Opened.destroy (opened : Opened facade strays leaks before middle base lost events)
    (sound : Sound (facade.traced.steadyBooks strays leaks) before) :
    Traces (Buffers.destroy base).run middle fun more result after =>
      result = .ok () ∧ Undone facade before after lost (events ++ more) := by
  have steady : Bench.SteadyBooks strays leaks (facade.bench before.host.host)
    before.engine.regions none before.engine.holdings := sound.books.agrees
  have steady' : Bench.SteadyBooks strays leaks (facade.bench middle.host.host)
    middle.engine.regions none middle.engine.holdings := opened.sound.books.agrees
  obtain ⟨earlier, buffer, found, -⟩ := opened.listed
  obtain ⟨size, space⟩ := opened.space
  have sized : buffer.maxSize = size := by
    have reserved := steady'.addresses.reserved buffer.region
      (List.mem_append_right _ (List.mem_map_of_mem (mem_bufferValues.mpr ⟨base, found⟩)))
    change (facade.bench middle.host.host).device.reservations.get? buffer.base =
      some buffer.maxSize at reserved
    rw [opened.sound.buffers.keyed found, space.reservations, opened.start] at reserved
    change ((facade.bench before.host.host).device.reservations.insert _ size).get? _ =
      _ at reserved
    rw [NatMap.get?_insert, if_pos rfl] at reserved
    exact (Option.some.inj reserved).symm
  refine ((destroy_beside opened.sound.buffers (Nat.le_refl base) opened.sound.vbars.linked).and
    (destroy_frees opened.sound opened.takes found (opened.behind sound))).mono ?_
  rintro result after ⟨more, adds, ⟨beside, loses⟩, done, reservations, reservedBytes⟩
  refine ⟨more, adds, done, ?_, ?_, ?_, ?_⟩
  · refine reservations.trans ((congrArg (NatMap.erase · base) space.reservations).trans ?_)
    rw [opened.start]
    change (NatMap.insert _ _ size).erase _ = _
    rw [NatMap.erase_insert, NatMap.erase_of_none steady.addresses.fresh]
  · refine reservedBytes.trans ((congrArg (· - buffer.maxSize) space.reservedBytes).trans ?_)
    rw [sized]
    exact Nat.add_sub_cancel _ _
  · rw [← opened.start, ← List.append_nil lost]
    exact opened.passes.append (.beside beside)
  · rw [← List.append_nil lost]
    exact opened.loses.trans loses

/-- An allocation that fails leaves nothing but the pages that were reclaimed for it. -/
theorem allocate_undone (size : Nat) (owner : Int)
    (sound : Sound (facade.traced.steadyBooks strays leaks) context)
    (takes : (facade.bench context.host.host).TakesBack) :
    Traces (allocate size owner).run context fun events result after =>
      ∀ cause, result = .error cause → ∃ lost, Undone facade context after lost events := by
  unfold allocate
  rw [Attempt.run_lift_bind]
  refine Traces.log_bind ?_
  have started := (Untouched.refl facade.traced context).log (.allocationStarted size owner)
  refine (((Traces.of_only (roundToUnit_only size)).and
    (roundToUnit_untouched facade.traced size)).and (roundToUnit_spec (sound.log _))).run_bind
    (fun rounding rounded second outcome => ?_) fun rounding cause second outcome => ?_
  · obtain ⟨⟨⟨allowed, actions⟩, untouched⟩, sound₂, -⟩ := outcome
    have logged : (facade.traced.bench
        (Host.log (.allocationStarted size owner) context.host)).TakesBack :=
      takes.alike (facade.log (.allocationStarted size owner) context.host.host)
    have takes₂ : (facade.bench second.host.host).TakesBack :=
      facade.traced.takesBack logged actions
    have back : ∀ {later : List Event} {last : Context (Traced σ)} {lost : List Holding},
        Undone facade second last lost later →
          ∃ lost, Undone facade context last lost (rounding ++ later) :=
      fun undone => ⟨_, undone.behind (started.trans untouched) (allowed.beside (by decide))⟩
    refine (create_opened owner rounded sound₂ takes₂).run_bind
      (fun opening base third opened => ?_) fun opening cause third undone _ _ => back undone
    rw [Attempt.run_lift_bind]
    refine (opened.grow rounded).bind fun growing result fourth outcome => ?_
    obtain ⟨lost, opened⟩ := outcome
    cases result with
    | ok _ =>
      dsimp only
      rw [Attempt.run_lift_bind]
      exact Traces.log_bind (Traces.pure nofun)
    | error cause =>
      dsimp only
      rw [Attempt.run_lift_bind]
      refine Traces.log_bind (((opened.log _).destroy sound₂).run_bind
        (fun destroying _ last outcome => ⟨[], .refl last.host, fun _ _ => ?_⟩)
        fun _ _ _ outcome => nomatch outcome.1)
      rw [List.append_nil, ← List.append_assoc opening]
      exact back outcome.2
  · obtain ⟨⟨⟨allowed, -⟩, untouched⟩, -⟩ := outcome
    exact fun _ _ => ⟨[], (started.trans untouched).undone sound.vbars.linked
      (allowed.beside (by decide))⟩

end Buffers

/-! ## Requests -/

/-- What an allocation that failed has left of everything: the buffers, the reservations and the
priorities are as they were. The pages that lost their memory are those that its passes gave back,
and the account, the mappings and the memory in use fell by exactly these. -/
structure RolledBack (facade : Facade σ) (before after : Context (Traced σ))
    (lost : List Holding) (events : List Event) : Prop where
  buffers : after.engine.buffers = before.engine.buffers
  reservations : (facade.bench after.host.host).device.reservations =
    (facade.bench before.host.host).device.reservations
  reservedBytes : (facade.bench after.host.host).device.reservedBytes =
    (facade.bench before.host.host).device.reservedBytes
  handles : after.engine.vbars.handles = before.engine.vbars.handles
  gaveUp : ∀ handle vbar, before.engine.vbars.get? handle = some vbar →
    ∃ left, after.engine.vbars.get? handle = some left ∧ left.watermark ≤ vbar.watermark ∧
      vbar.GaveUp left (vbar.PageAmong before.engine.config.vbarPageSize lost)
  /-- All unmaps but those of the passes lie behind all VBARs. -/
  passes : ∃ base, PassesAmong base lost events ∧
    ∀ region ∈ vbarRegions before.engine.vbars before.engine.config.vbarPageSize,
      region.base + region.size ≤ base
  taken : (vbarHoldings before.engine.vbars before.engine.config.vbarPageSize).Perm
    (lost ++ vbarHoldings after.engine.vbars before.engine.config.vbarPageSize)
  mappings : (facade.bench before.host.host).device.mappings.entries.Perm
    (lost.map Holding.mapping ++ (facade.bench after.host.host).device.mappings.entries)
  usage : before.engine.totalUsage = heldBytes lost + after.engine.totalUsage
  inUse : (facade.bench before.host.host).device.physicalInUse =
    heldBytes lost + (facade.bench after.host.host).device.physicalInUse

/-- No two holdings of an engine lie at one address. -/
theorem Simulation.Bench.SteadyBooks.holdings_nodup {bench : Bench} {regions : List Region}
    {holdings : List Holding} (books : bench.SteadyBooks strays leaks regions none holdings) :
    holdings.Nodup := by
  have keys := (books.memory.mappings.map Prod.fst).nodup_iff.mp bench.device.mappings.keys_nodup
  rw [List.map_append, List.map_map] at keys
  exact (List.nodup_append.mp keys).2.1.of_map

theorem Undone.rolledBack (undone : Undone facade context after lost events)
    (sound : Sound (facade.traced.steadyBooks strays leaks) context)
    (sound' : Sound (facade.traced.steadyBooks strays leaks) after)
    (reclaimed : Reclaimed context.engine after.engine) :
    RolledBack facade context after lost events := by
  have steady : Bench.SteadyBooks strays leaks (facade.bench context.host.host)
    context.engine.regions none context.engine.holdings := sound.books.agrees
  have steady' : Bench.SteadyBooks strays leaks (facade.bench after.host.host)
    after.engine.regions none after.engine.holdings := sound'.books.agrees
  obtain ⟨reservations, reservedBytes, passes, loses⟩ := undone
  have distinct := (List.nodup_append.mp steady.holdings_nodup).1
  have held : context.engine.holdings.Perm (lost ++ after.engine.holdings) := by
    unfold Engine.holdings
    rw [reclaimed.config, reclaimed.buffers, ← List.append_assoc]
    exact loses.taken.append_right _
  have bytes := heldBytes_perm held
  rw [heldBytes_append] at bytes
  have used := steady.memory.physicalInUse
  have used' := steady'.memory.physicalInUse
  have accounted := sound.books.accounted.held_eq trivial
  have accounted' := sound'.books.accounted.held_eq trivial
  refine ⟨reclaimed.buffers, reservations, reservedBytes, reclaimed.vbars.handles,
    fun handle vbar live => ?_, ⟨_, passes, fun region member => ?_⟩, loses.taken, ?_, ?_, ?_⟩
  · exact loses.gaveUp reclaimed.vbars sound.vbars sound'.vbars
      (Config.validate_ok sound.valid).1 distinct live
  · exact steady.addresses.ends (steady.addresses.reserved region
      (List.mem_append_left _ member))
  · refine steady.memory.mappings.trans (((held.map _).append_left _).trans ?_)
    rw [List.map_append]
    refine (List.perm_append_comm_assoc _ _ _).trans (List.Perm.append_left _ ?_)
    exact steady'.memory.mappings.symm
  · change context.engine.budget.residentUsage = _ + after.engine.budget.residentUsage
    omega
  · omega

end Allocations

omit [Host σ] in
/-- What is left where a step fails is left where the operation of it fails. -/
theorem handOut_failed {context : Context σ} {α : Type} {step : Attempt σ α}
    {handOut : α → Outcome} {failed : Error → Context σ → Prop}
    (ensured : Ensures (fun _ => True) step.run context fun result after =>
      ∀ cause, result = .error cause → failed cause after) :
    Ensures (fun _ => True) (do let value ← step; return handOut value : Attempt σ Outcome).run
      context fun outcome after => ∀ cause, outcome = .error cause → failed cause after := by
  refine Operation.ensures_handOut_result (ensured.mono fun result after failed => ?_)
  cases result with
  | ok value => exact nofun
  | error cause =>
    rintro _ ⟨⟩
    exact failed cause rfl

/-- Requests for memory that fail, whichever calls that ask for something fail and whatever tables
the host has no memory for, as long as no call fails that gives something back. A buffer that cannot
be reserved leaves everything as it was, and so does a VBAR, but for the addresses of one without a
slot. An allocation that cannot be backed leaves the pages absent that its passes took, and beside
these nothing is lost and nothing is left behind. -/
theorem failed_allocations_roll_back (facade : Facade σ) {device : Int} {config : Config}
    {host host' : Traced σ} {engine : Engine} {context : Context (Traced σ)}
    (unused : (facade.bench host.host).device.Unused)
    (opened : Engine.create device config host = .ok (.ok engine) host')
    (run : Run facade.traced.Adjusted anyOperation ⟨engine, host'⟩ context)
    (takes : (facade.bench context.host.host).TakesBack) (size : Nat) (owner : Int) :
    Ensures (· = .overflow) (Operation.allocateVbar size owner).run context (fun outcome after =>
      ∀ cause, outcome = .error cause → Restored facade.traced context after ∧
        (cause ≠ .hostOutOfMemory → Untouched facade.traced context after)) ∧
    Ensures (· = .overflow) (Operation.createBuffer owner size).run context (fun outcome after =>
      ∀ cause, outcome = .error cause → Untouched facade.traced context after) ∧
    Ensures (· = .overflow) (Operation.allocate size owner).run context (fun outcome after =>
      ∀ cause, outcome = .error cause → ∃ events lost,
        context.host.Adds after.host events ∧ RolledBack facade context after lost events) := by
  obtain ⟨kept, sound⟩ := facade.traced.accounts_of_run run
    ⟨_, facade.traced.sound_opened unused opened⟩
  obtain ⟨strays, leaks, sound⟩ := facade.traced.sound_steady sound takes.planned
  have ends : ∀ (operation : Operation) (failed : Error → Context (Traced σ) → Prop),
      (Ensures (fun _ => True) operation.run context fun outcome after =>
        ∀ cause, outcome = .error cause → failed cause after) →
      Ensures (· = .overflow) operation.run context fun outcome after =>
        ∀ cause, outcome = .error cause → failed cause after := fun operation failed ensured =>
    ((operation.run_spec sound rfl fun _ => trivial).also ensured).mono fun _ _ outcome => outcome.2
  refine ⟨ends _ _ (handOut_failed (Vbars.allocate_restores size owner sound takes)),
    ends _ (fun _ => _)
      (handOut_failed ((Buffers.create_reserves facade.traced owner size).mono ?_)),
    ends _ (fun _ => _)
      (handOut_failed (((Buffers.allocate_undone size owner sound takes).and
        ((Buffers.allocate_works sound rfl fun _ => trivial).weaken fun _ _ => trivial)).mono ?_))⟩
  · intro result after outcome cause failed
    subst failed
    exact outcome
  · rintro result after ⟨events, adds, undone, sound', worked⟩ cause failed
    subst failed
    obtain ⟨lost, undone⟩ := undone cause rfl
    exact ⟨events, lost, adds, undone.rolledBack sound sound' (worked.2 trivial)⟩

/-- Two unpinned pages on a device of four bytes. One is reclaimed for an allocation of three bytes,
the first of these gets its memory, and the second is refused access: nothing is left of the
allocation but the absent page. And a VBAR on a host with memory for its page map but not for its
slot: nothing is left of it but the addresses that it had. -/
theorem failed_allocations_roll_back_chunk :
    (∃ (context after : Context (Traced Bench)) (events : List Event) (lost : List Holding),
      (Operation.allocate 3 0).run context = .ok (.error (.driver (.failed 7))) after ∧
      context.host.Adds after.host events ∧ RolledBack Bench.facade context after lost events ∧
      heldBytes lost = 1) ∧
    ∃ context after : Context (Traced Situated),
      (Operation.allocateVbar 2 0).run context = .ok (.error .hostOutOfMemory) after ∧
      Restored Situated.facade.traced context after ∧
      after.host.host.bench.device.nextAddress =
        context.host.host.bench.device.nextAddress + 2 := by
  constructor
  · have reached : reaches 0 .bytewise
        (⟨{ device := { capacity := 4 }
            failures := [⟨.setAccess, .failed 7, 3⟩] }, #[]⟩ : Traced Bench)
        anyOperation [.allocateVbar 2 0, .fault ⟨0, 0⟩ 0 2, .unpin ⟨0, 0⟩ 0 2]
        (fun context => context.host.host.TakesBack ∧ context.engine.totalUsage = 2 ∧
          Ensures (fun _ => False) (Operation.allocate 3 0).run context fun outcome after =>
            outcome = .error (.driver (.failed 7)) ∧ after.engine.totalUsage = 1) = true := by
      decide +kernel
    obtain ⟨engine, host, context, opened, run, passed⟩ :=
      exists_run_of_reaches Bench.facade.traced.Adjusted reached
    obtain ⟨takes, before, failed⟩ := of_decide_eq_true passed
    obtain ⟨_, after, ran, rfl, left⟩ := failed.exists_ok
    obtain ⟨-, -, allocated⟩ :=
      failed_allocations_roll_back Bench.facade ⟨rfl, rfl, rfl, rfl, rfl⟩ opened run takes 3 0
    obtain ⟨events, lost, adds, back⟩ := allocated.of_ok ran (.driver (.failed 7)) rfl
    have usage := back.usage
    exact ⟨context, after, events, lost, ran, adds, back, by omega⟩
  · have reached : reaches 0 .bytewise
        (⟨{ bench := { device := { capacity := 4 } }, moments := fun _ => 0
            readings := fun _ => none, grants := fun request => request = 0 }, #[]⟩ :
          Traced Situated)
        anyOperation []
        (fun context => context.host.host.bench.TakesBack ∧
          Ensures (fun _ => False) (Operation.allocateVbar 2 0).run context fun outcome after =>
            outcome = .error .hostOutOfMemory ∧ after.host.host.bench.device.nextAddress =
              context.host.host.bench.device.nextAddress + 2) = true := by
      decide +kernel
    obtain ⟨engine, host, context, opened, run, passed⟩ :=
      exists_run_of_reaches Situated.facade.traced.Adjusted reached
    obtain ⟨takes, failed⟩ := of_decide_eq_true passed
    obtain ⟨_, after, ran, rfl, moved⟩ := failed.exists_ok
    have restored := (failed_allocations_roll_back Situated.facade ⟨rfl, rfl, rfl, rfl, rfl⟩ opened
      run takes 2 0).1
    exact ⟨context, after, ran, (restored.of_ok ran .hostOutOfMemory rfl).1, moved⟩

end VramOvercommit
