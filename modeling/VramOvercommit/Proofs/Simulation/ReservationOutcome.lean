import VramOvercommit.Proofs.BufferShape
import VramOvercommit.Proofs.Simulation.AddressSpace
import VramOvercommit.Proofs.Simulation.AllocationOutcome

set_option autoImplicit false

/-!
What becomes of a request for addresses. It is decided by two sums, of the bytes that are reserved
and of the next address: where these are words, the request is granted exactly if it keeps to the
limit, and where one is not, the program ends.
-/

namespace VramOvercommit

open EngineM
open Attempt (lift)
open Simulation

/-! ## One reservation -/

namespace Simulation

/-- What the sums of a device come to. -/
inductive Device.Decision where
  | granted
  | refused
  | overflows
  deriving DecidableEq, Repr

namespace Device

variable {device after : Device} {size : Nat} {aborts : Overflow → Prop}

/-- The sums that decide about a reservation, in the order in which they are formed. -/
def decision (device : Device) (size : Nat) : Decision :=
  if wordLimit ≤ device.reservedBytes + size then .overflows
  else if device.addressSpaceLimit < device.reservedBytes + size then .refused
  else if wordLimit ≤ device.nextAddress + size then .overflows
  else .granted

theorem ends_lt_of_granted (granted : device.decision size = .granted) :
    device.nextAddress + size < wordLimit := by
  grind [decision]

/-- The end of a reservation that was decided about. -/
def Decides (device : Device) (size : Nat) (answer : Except DriverError Nat) (after : Device) :
    Prop :=
  match device.decision size with
  | .granted => answer = .ok device.nextAddress ∧ after = device.reserved size
  | .refused => answer = .error .outOfMemory ∧ after = device
  | .overflows => False

/-- A call for which no failure is injected goes on. -/
theorem takeFailure_passes {point : FailurePoint} {post : Except DriverError Unit → Device → Prop}
    (clear : device.injected.map Prod.fst ≠ some point) (passed : post (.ok ()) device) :
    Ensures aborts (takeFailure point).run device post := by
  unfold takeFailure
  rw [ensures_run_bind, ensures_run_get]
  dsimp only
  split
  · rename_i injected cause found
    rw [found] at clear
    rw [if_neg fun same => clear (congrArg some same)]
    exact passed
  · exact passed

/-- The sums decide about every reservation that is not made to fail. -/
theorem reserve_decides (positive : 0 < size)
    (clear : device.injected.map Prod.fst ≠ some .reserve) :
    Ensures (fun _ => device.decision size = .overflows) (Device.call (.reserve size)) device
      (device.Decides size) := by
  change Ensures _ (reserve size).run device _
  unfold reserve
  rw [ensures_run_bind]
  refine takeFailure_passes clear ?_
  dsimp only
  rw [if_neg (Nat.ne_of_gt positive), ensures_run_bind, ensures_run_get]
  dsimp only
  rw [ensures_run_bind]
  refine ensures_word ((Nat.lt_or_ge _ _).imp_right fun exceeds => if_pos exceeds) fun total => ?_
  dsimp only
  have total := Nat.not_le_of_lt total
  split
  · rename_i beyond
    have refused : device.decision size = .refused := (if_neg total).trans (if_pos beyond)
    unfold Decides
    rw [refused]
    exact ⟨rfl, rfl⟩
  · rename_i within
    have decided : device.decision size =
        if wordLimit ≤ device.nextAddress + size then .overflows else .granted :=
      (if_neg total).trans (if_neg within)
    rw [ensures_run_bind]
    refine ensures_word ((Nat.lt_or_ge _ _).imp_right fun exceeds =>
      decided.trans (if_pos exceeds)) fun fits => ?_
    have granted : device.decision size = .granted :=
      decided.trans (if_neg (Nat.not_le_of_lt fits))
    unfold Decides
    rw [granted]
    exact ⟨rfl, rfl⟩

end Device

/-- No reservation is to fail. -/
structure Bench.Clear (bench : Bench) : Prop where
  planned : (Failure.take .reserve bench.failures).1 = none
  injected : bench.device.injected.map Prod.fst ≠ some .reserve

instance (bench : Bench) : Decidable bench.Clear :=
  decidable_of_iff
    ((Failure.take .reserve bench.failures).1 = none ∧
      bench.device.injected.map Prod.fst ≠ some .reserve)
    ⟨fun ⟨planned, injected⟩ => ⟨planned, injected⟩,
      fun ⟨planned, injected⟩ => ⟨planned, injected⟩⟩

theorem Bench.reserve_decides {bench : Bench} {size : Nat} (positive : 0 < size)
    (clear : bench.Clear) :
    Ensures (fun _ => bench.device.decision size = .overflows) (Host.call (.reserve size)) bench
      (fun answer after => bench.device.Decides size answer after.device) := by
  refine ensures_call (fun {cause failures} failed => ?_) fun _ => ?_
  · exact nomatch clear.planned.symm.trans (congrArg Prod.fst failed)
  · refine (Device.reserve_decides positive clear.injected).mono fun answer device decided => ?_
    unfold Bench.announce
    split <;> exact decided

theorem Bench.Clear.alike {before after : Bench} (clear : before.Clear)
    (alike : before.Alike after) : after.Clear := by
  refine ⟨?_, ?_⟩
  · rw [← take_handled rfl, alike.troubles, take_handled rfl]
    exact clear.planned
  · rw [alike.device]
    exact clear.injected

end Simulation

/-! ## Steps that ask for addresses -/

section Steps

variable {σ : Type} [Host σ] {facade : Facade σ} {α β : Type} {context : Context σ}
  {engine : Engine} {device : Device} {size : Nat} {aborts : Abort → Prop}
  {granted : Except Error α → Context σ → Prop}

/-- A refusal for lack of addresses, which leaves the engine and the device as they were. -/
structure RefusedAddresses (facade : Facade σ) (engine : Engine) (device : Device)
    (result : Except Error α) (after : Context σ) : Prop where
  result : result = .error (.addressSpace .outOfMemory)
  engine : after.engine = engine
  device : (facade.bench after.host).device = device

theorem RefusedAddresses.map {result : Except Error α} {after : Context σ} {f : α → β}
    (refused : RefusedAddresses facade engine device result after) :
    RefusedAddresses facade engine device (result.map f) after := by
  obtain ⟨rfl, engine, device⟩ := refused
  exact ⟨rfl, engine, device⟩

/-- What follows a refusal is left out. -/
theorem RefusedAddresses.bind {step : Attempt σ α} {next : α → Attempt σ β}
    (refuses : Ensures aborts step.run context (RefusedAddresses facade engine device)) :
    Ensures aborts (step >>= next).run context (RefusedAddresses facade engine device) := by
  rw [ensures_run_bind]
  refine refuses.mono fun result after refused => ?_
  obtain ⟨rfl, engine, device⟩ := refused
  exact ⟨rfl, engine, device⟩

/-- The end of a step that asks for addresses, with what is known where they are granted. The host
may refuse memory for a table. -/
def Settled (facade : Facade σ) (engine : Engine) (device : Device) (size : Nat)
    (granted : Except Error α → Context σ → Prop) (result : Except Error α)
    (after : Context σ) : Prop :=
  Starved σ result ∨
    match device.decision size with
    | .granted => granted result after
    | .refused => RefusedAddresses facade engine device result after
    | .overflows => False

theorem Settled.map {result : Except Error α} {after : Context σ} {f : α → β}
    {done : Except Error β → Context σ → Prop}
    (settled : Settled facade engine device size granted result after)
    (others : ∀ result after, granted result after → done (result.map f) after) :
    Settled facade engine device size done (result.map f) after := by
  unfold Settled at settled ⊢
  refine settled.imp (·.map f) fun settled => ?_
  cases decided : device.decision size with
  | granted =>
    rw [decided] at settled
    exact others result after settled
  | refused =>
    rw [decided] at settled
    exact settled.map
  | overflows =>
    rw [decided] at settled
    exact settled.elim

/-- A step that goes on where its addresses are granted. -/
theorem Settled.bind {step : Attempt σ α} {next : α → Attempt σ β}
    {placed : α → Context σ → Prop} {done : Except Error β → Context σ → Prop}
    (first : Ensures aborts step.run context (Settled facade engine device size
      fun result after => ∃ value, result = .ok value ∧ placed value after))
    (others : device.decision size = .granted → ∀ value after, placed value after →
      Ensures aborts (next value).run after fun result last =>
        Starved σ result ∨ done result last) :
    Ensures aborts (step >>= next).run context (Settled facade engine device size done) := by
  rw [ensures_run_bind]
  refine first.mono fun result after settled => ?_
  unfold Settled at settled ⊢
  rcases settled with ⟨rfl, scarce⟩ | settled
  · exact .inl ⟨rfl, scarce⟩
  · cases decided : device.decision size with
    | granted =>
      rw [decided] at settled
      obtain ⟨value, rfl, place⟩ := settled
      exact others decided value after place
    | refused =>
      rw [decided] at settled
      obtain ⟨rfl, engine, device⟩ := settled
      exact .inr ⟨rfl, engine, device⟩
    | overflows =>
      rw [decided] at settled
      exact settled.elim

/-- A range is asked for, and a refusal is reported. -/
theorem Memory.reserve_settles {notice : DriverError → Notice} {next : Nat → Attempt σ α}
    (positive : 0 < size) (clear : (facade.bench context.host).Clear)
    (same : (facade.bench context.host).device = device)
    (exceeds : device.decision size = .overflows → aborts .overflow)
    (others : device.decision size = .granted → ∀ host : σ,
      (facade.bench host).device = device.reserved size →
      Ensures aborts (next device.nextAddress).run ⟨context.engine, host⟩ granted) :
    Ensures aborts (do
      match ← lift (Memory.reserve size) with
      | .ok base => next base
      | .error cause => do
          lift (log (notice cause))
          throw (.addressSpace cause) : Attempt σ α).run context
      (Settled facade context.engine device size granted) := by
  subst same
  rw [ensures_run_bind, ensures_run_lift]
  unfold Memory.reserve
  rw [ensures_call]
  have asked : DriverCall.reserve size ≠ .memoryInfo := by rintro ⟨⟩
  refine (facade.ensures_call asked
    ((Bench.reserve_decides positive clear).weaken fun _ => exceeds)).mono
    fun answer host decides => ?_
  unfold Device.Decides at decides
  unfold Settled
  cases decided : (facade.bench context.host).device.decision size with
  | granted =>
    rw [decided] at decides
    obtain ⟨rfl, same⟩ := decides
    exact (others decided host same).mono fun _ _ => .inr
  | refused =>
    rw [decided] at decides
    obtain ⟨rfl, same⟩ := decides
    exact .inr ⟨rfl, rfl, (facade.log _ host).device.trans same⟩
  | overflows =>
    rw [decided] at decides
    exact decides.elim

end Steps

/-! ## Buffers -/

namespace Buffers

variable {σ : Type} [Host σ] {facade : Facade σ} {context middle : Context σ} {device : Device}
  {size rounded : Nat} {owner : Int} {aborts : Abort → Prop}

/-- A buffer comes where the next address was. -/
structure Created (facade : Facade σ) (device : Device) (rounded base : Nat) (after : Context σ) :
    Prop where
  base : base = device.nextAddress
  device : (facade.bench after.host).device = device.reserved rounded

theorem create_settles (positive : 0 < rounded) (clear : (facade.bench context.host).Clear)
    (same : (facade.bench context.host).device = device)
    (round : roundUp? size context.engine.config.minAllocSize = some rounded)
    (exceeds : device.decision rounded = .overflows → aborts .overflow) :
    Ensures aborts (create owner size).run context
      (Settled facade context.engine device rounded fun result after =>
        ∃ base, result = .ok base ∧ Created facade device rounded base after) := by
  have asked := facade.room_alike .buffers 1 context.host
  unfold create
  rw [ensures_run_bind]
  refine roundToUnit_served round ?_
  dsimp only
  rw [ensures_run_bind, ensures_run_lift, ensures_allocates]
  dsimp only
  split
  · refine Memory.reserve_settles positive (clear.alike asked) (asked.device.trans same) exceeds
      fun _ host same => ?_
    rw [ensures_run_bind, ensures_run_lift, ensures_putBuffer]
    exact ⟨_, rfl, rfl, same⟩
  · rename_i refused
    exact .inl ⟨rfl, fun ample => refused (ample.room ..)⟩

/-- A size that cannot be rounded is refused without asking the driver. -/
theorem roundToUnit_refuses (same : (facade.bench context.host).device = device)
    (round : roundUp? size context.engine.config.minAllocSize = none) :
    Ensures aborts (roundToUnit size).run context
      (RefusedAddresses facade context.engine device) := by
  unfold roundToUnit
  rw [ensures_run_bind, ensures_run_lift, ensures_engine]
  dsimp only
  rw [round]
  dsimp only
  rw [ensures_run_bind, ensures_run_lift, ensures_log]
  exact ⟨rfl, rfl, (facade.log _ context.host).device.trans same⟩

theorem create_refuses (same : (facade.bench context.host).device = device)
    (round : roundUp? size context.engine.config.minAllocSize = none) :
    Ensures aborts (create owner size).run context
      (RefusedAddresses facade context.engine device) := by
  unfold create
  exact RefusedAddresses.bind (roundToUnit_refuses same round)

/-! ### Allocating -/

/-- Whatever the step fails for, it is not a lack of addresses. -/
def Admitted {α : Type} (result : Except Error α) : Prop :=
  ∀ cause, result ≠ .error (.addressSpace cause)

theorem admitted_ok {α : Type} (value : α) : Admitted (.ok value) := fun _ => nofun

theorem Admitted.of_uncommitted {α : Type} {result : Except Error α}
    (uncommitted : ∀ cause, result = .error cause → cause.Uncommitted) : Admitted result := by
  intro cause refused
  rcases uncommitted _ refused with same | ⟨code, same⟩ <;> cases same

theorem grow_admitted {base required : Nat} :
    Ensures (fun _ => True) (grow base required).run context
      (fun result _ => Admitted result) := by
  unfold grow
  rw [ensures_run_bind, Attempt.ensures_buffer]
  cases context.engine.buffers.get? base with
  | none => exact fun _ => nofun
  | some buffer =>
    dsimp only
    split
    · exact fun _ => nofun
    · split
      · exact admitted_ok ()
      · rw [ensures_run_bind, ensures_run_lift, ensures_engine]
        dsimp only
        rw [ensures_run_bind, ensures_run_lift, ensures_allocatesBeside]
        dsimp only
        split
        · rw [ensures_run_mk, ensures_bind]
          refine ensures_any fun _ _ => ?_
          rw [ensures_bind]
          refine ensures_any fun _ _ => ?_
          rw [ensures_bind]
          refine addChunks_uncommitted.mono fun result _ uncommitted => ?_
          rw [ensures_bind, ensures_putBuffer]
          exact .of_uncommitted uncommitted
        · exact fun _ => nofun

theorem destroy_admitted {base : Nat} :
    Ensures (fun _ => True) (destroy base).run context (fun result _ => Admitted result) := by
  unfold destroy
  rw [ensures_run_bind, Attempt.ensures_buffer]
  cases context.engine.buffers.get? base with
  | none => exact fun _ => nofun
  | some buffer =>
    dsimp only
    rw [ensures_run_lift]
    exact ensures_any fun value _ => admitted_ok value

/-- Growing a buffer takes no addresses. -/
theorem grow_sameSpace (facade : Facade σ) {base required : Nat} :
    Ensures (fun _ => True) (grow base required).run context (fun _ after =>
      (facade.bench context.host).device.SameSpace (facade.bench after.host).device) := by
  have only := grow_passes Operation.admits_working Operation.commits_working base required context
  exact only.ensures.mono fun _ _ actions => facade.sameSpace actions (by decide) (by decide)

/-- An allocation whose addresses are granted gets them where the next address was, and fails for
nothing but memory. -/
structure Allocated (facade : Facade σ) (device : Device) (rounded : Nat)
    (result : Except Error Nat) (after : Context σ) : Prop where
  admitted : Admitted result
  placed : ∀ base, result = .ok base → base = device.nextAddress ∧
    (device.reserved rounded).SameSpace (facade.bench after.host).device

/-- The part of an allocation behind its reservation. -/
theorem backed_allocated {base : Nat} (sameBase : base = device.nextAddress)
    (same : (facade.bench middle.host).device = device.reserved size) :
    Ensures (fun _ => True) (do
      match ← lift (grow base size).run with
      | .ok _ =>
          lift (log (.allocationReturned base))
          return base
      | .error cause =>
          lift (log (.allocationFailed cause))
          destroy base
          throw cause : Attempt σ Nat).run middle (Allocated facade device size) := by
  rw [ensures_run_bind, ensures_run_lift]
  refine (grow_admitted.and (grow_sameSpace facade)).mono
    fun result after ⟨admitted, space⟩ => ?_
  rw [same] at space
  cases result with
  | ok _ =>
    dsimp only
    rw [ensures_run_bind, ensures_run_lift, ensures_log]
    refine ⟨admitted_ok base, fun value ok => ?_⟩
    cases ok
    exact ⟨sameBase, space.trans ((facade.log _ after.host).device ▸ .refl _)⟩
  | error cause =>
    dsimp only
    rw [ensures_run_bind, ensures_run_lift, ensures_log]
    dsimp only
    rw [ensures_run_bind]
    refine destroy_admitted.mono fun destroyed last gone => ?_
    cases destroyed with
    | ok _ => exact ⟨fun other same => admitted other (by cases same; rfl), nofun⟩
    | error other => exact ⟨fun other same => gone other (by cases same; rfl), nofun⟩

theorem allocate_settles (positive : 0 < rounded) (clear : (facade.bench context.host).Clear)
    (same : (facade.bench context.host).device = device)
    (unit : 0 < context.engine.config.minAllocSize)
    (round : roundUp? size context.engine.config.minAllocSize = some rounded)
    (exceeds : device.decision rounded ≠ .refused → ∀ cause, aborts cause) :
    Ensures aborts (allocate size owner).run context
      (Settled facade context.engine device rounded (Allocated facade device rounded)) := by
  have logged := facade.log (.allocationStarted size owner) context.host
  unfold allocate
  rw [ensures_run_bind, ensures_run_lift, ensures_log]
  dsimp only
  rw [ensures_run_bind]
  refine roundToUnit_served round ?_
  have created : Ensures aborts (create owner rounded).run
      ⟨context.engine, Host.log (.allocationStarted size owner) context.host⟩ _ :=
    create_settles positive (clear.alike logged) (logged.device.trans same)
      (roundUp?_rounded unit round)
      fun overflows => exceeds (fun refused => nomatch overflows.symm.trans refused) _
  refine Settled.bind created fun granted base middle place => ?_
  exact ((backed_allocated place.base place.device).weaken fun cause _ =>
    exceeds (fun refused => nomatch granted.symm.trans refused) cause).mono fun _ _ => .inr

theorem allocate_refuses (same : (facade.bench context.host).device = device)
    (round : roundUp? size context.engine.config.minAllocSize = none) :
    Ensures aborts (allocate size owner).run context
      (RefusedAddresses facade context.engine device) := by
  have logged := facade.log (.allocationStarted size owner) context.host
  unfold allocate
  rw [ensures_run_bind, ensures_run_lift, ensures_log]
  have refuses : Ensures aborts (roundToUnit size).run
      ⟨context.engine, Host.log (.allocationStarted size owner) context.host⟩ _ :=
    roundToUnit_refuses (logged.device.trans same) round
  exact RefusedAddresses.bind refuses

end Buffers

/-! ## VBARs -/

/-- The pages that a new VBAR gets: no more than the device can back. -/
def Engine.pagesFor (engine : Engine) (size : Nat) : Nat :=
  min (blocksFor size engine.config.vbarPageSize)
    (blocksFor engine.budget.capacity engine.config.vbarPageSize)

namespace Vbars

open Eviction (checkVbars_spec)

variable {σ : Type} [Host σ] {facade : Facade σ} {context : Context σ} {device : Device}
  {size nrPages reserved : Nat} {owner : Int} {aborts : Abort → Prop}

theorem reservePages_settles (positive : 0 < reserved)
    (holds : hostHolds nrPages Vbar.pageEntrySize = true)
    (clear : (facade.bench context.host).Clear)
    (same : (facade.bench context.host).device = device)
    (exceeds : device.decision reserved = .overflows → aborts .overflow) :
    Ensures aborts (reservePages nrPages reserved).run context
      (Settled facade context.engine device reserved fun result after =>
        ∃ base, result = .ok base ∧ base = device.nextAddress ∧ after.engine = context.engine ∧
          (facade.bench after.host).device = device.reserved reserved) := by
  have asked := facade.roomBeside_alike .pageMap 0 nrPages Vbar.pageEntrySize context.host
  unfold reservePages
  rw [ensures_run_bind, ensures_run_lift, ensures_allocatesBeside]
  dsimp only
  split
  · exact Memory.reserve_settles positive (clear.alike asked) (asked.device.trans same) exceeds
      fun _ host same => ⟨_, rfl, rfl, rfl, same⟩
  · rename_i refused
    refine .inl ⟨rfl, fun ample => refused ?_⟩
    rw [ample.roomBeside_eq, Nat.zero_add]
    exact holds

theorem allocatesSlot_settles (facade : Facade σ) :
    Ensures aborts allocatesSlot context (fun granted after =>
      after.engine = context.engine ∧
        (facade.bench context.host).Alike (facade.bench after.host) ∧
        (granted = false → ¬ Host.Ample σ)) := by
  have first := facade.room_alike .slots 1 context.host
  unfold allocatesSlot
  rw [ensures_bind, ensures_engine]
  dsimp only
  split
  · rw [ensures_bind, ensures_allocates]
    split
    · rw [ensures_allocates]
      refine ⟨rfl, first.trans (facade.room_alike ..), fun refused ample => ?_⟩
      rw [ample.room] at refused
      cases refused
    · rename_i refused
      exact ⟨rfl, first, fun _ ample => refused (ample.room ..)⟩
  · exact ⟨rfl, .refl _, nofun⟩

/-- A new VBAR gets a slot, or its addresses are given back. -/
theorem insert_settles (vbar : Vbar) (sound : SoundVbars context.engine.vbars)
    (bounded : (facade.bench context.host).device.Bounded)
    (full : context.engine.vbars.toList.length = slotLimit → aborts .overflow) :
    Ensures aborts (insert vbar size).run context (fun result after =>
      Starved σ result ∨ ∃ handle whole, result = .ok handle ∧
        OneMore context.engine.vbars whole handle vbar ∧
        after.engine = { context.engine with vbars := whole } ∧
        (facade.bench after.host).device = (facade.bench context.host).device) := by
  unfold insert
  rw [ensures_run_bind, ensures_run_lift]
  refine (allocatesSlot_settles facade).mono fun granted middle asked => ?_
  obtain ⟨engine, alike, scarce⟩ := asked
  dsimp only
  split
  · rw [ensures_run_lift, ensures_bind, ensures_engine, ensures_bind, engine]
    obtain ⟨whole, handle, pushed, more⟩ | ⟨pushed, all⟩ := sound.pushHighest vbar
    · rw [pushed, ensures_ensure_ok, ensures_bind, ensures_setVbars]
      exact .inr ⟨handle, whole, rfl, more, by rw [engine], alike.device⟩
    · rw [pushed]
      exact full all
  · rename_i refused
    -- the range is reserved, so giving it back forms no sum that is no word
    have freed : Ensures (fun _ => False) (Host.call (.freeAddress vbar.base size))
        (Host.log .vbarSlotRefused middle.host) fun _ _ => True := by
      have bounded' : (facade.bench (Host.log .vbarSlotRefused middle.host)).device.Bounded := by
        rw [(facade.log .vbarSlotRefused middle.host).device, alike.device]
        exact bounded
      have asked : DriverCall.freeAddress vbar.base size ≠ .memoryInfo := by rintro ⟨⟩
      have answers : Ensures (fun _ => False) (Host.call (.freeAddress vbar.base size))
          (facade.bench (Host.log .vbarSlotRefused middle.host)) fun _ _ => True :=
        Bench.ensures_call (fun _ => trivial) fun _ => (Device.freeAddress_effect fun found =>
          .inl ⟨bounded'.reservations found, bounded'.mappings⟩).mono fun _ _ _ => trivial
      exact facade.ensures_call asked answers
    rw [ensures_run_bind, ensures_run_lift, ensures_bind, ensures_log]
    unfold Memory.freeAddress
    rw [ensures_bind, ensures_call]
    refine (freed.weaken fun _ => False.elim).mono fun answer host _ => ?_
    have starved : Starved σ (.error .hostOutOfMemory : Except Error Handle) :=
      ⟨rfl, scarce (Bool.eq_false_iff.mpr refused)⟩
    cases answer with
    | ok _ => exact .inl starved
    | error cause => exact .inl starved

/-- A VBAR whose addresses are granted is live where the next address was. -/
structure Allocated (facade : Facade σ) (device : Device) (bytes : Nat) (handle : Handle)
    (after : Context σ) : Prop where
  placed : ∃ vbar, after.engine.vbars.get? handle = some vbar ∧ vbar.base = device.nextAddress ∧
    vbar.nrPages * after.engine.config.vbarPageSize = bytes
  device : (facade.bench after.host).device = device.reserved bytes

theorem allocate_settles {bytes : Nat} (sound : SoundVbars context.engine.vbars)
    (bounded : device.Bounded) (positive : 0 < bytes) (small : bytes < wordLimit)
    (clear : (facade.bench context.host).Clear)
    (same : (facade.bench context.host).device = device)
    (asked : context.engine.pagesFor size * context.engine.config.vbarPageSize = bytes)
    (holds : hostHolds (context.engine.pagesFor size) Vbar.pageEntrySize = true)
    (exceeds : device.decision bytes = .overflows → aborts .overflow)
    (full : device.decision bytes = .granted →
      context.engine.vbars.toList.length = slotLimit → aborts .overflow) :
    Ensures aborts (allocate size owner).run context
      (Settled facade context.engine device bytes fun result after =>
        ∃ handle, result = .ok handle ∧ Allocated facade device bytes handle after) := by
  subst asked
  have logged := facade.log (.vbarRequested size owner) context.host
  unfold allocate
  rw [ensures_run_bind, ensures_run_lift, ensures_log]
  dsimp only
  rw [ensures_run_bind, ensures_run_lift, ensures_engine]
  dsimp only
  rw [ensures_run_bind, ensures_run_lift]
  refine ensures_word (.inl small) fun _ => ?_
  have reserved : Ensures aborts (reservePages (context.engine.pagesFor size) _).run
      ⟨context.engine, Host.log (.vbarRequested size owner) context.host⟩ _ :=
    reservePages_settles positive holds (clear.alike logged) (logged.device.trans same) exceeds
  refine Settled.bind reserved fun granted base middle place => ?_
  obtain ⟨sameBase, engine, placed⟩ := place
  rw [ensures_run_bind]
  refine (insert_settles (.fresh base owner (context.engine.pagesFor size))
    (by rw [engine]; exact sound)
    (by rw [placed]; exact bounded.reserved (Device.ends_lt_of_granted granted))
    (by rw [engine]; exact full granted)).mono fun result after inserted => ?_
  rcases inserted with ⟨rfl, scarce⟩ | ⟨handle, whole, rfl, more, added, unchanged⟩
  · exact .inl ⟨rfl, scarce⟩
  · rw [engine] at more added
    have tables : after.engine.vbars = whole := by rw [added]
    have config : after.engine.config = context.engine.config := by rw [added]
    dsimp only
    rw [ensures_run_bind, ensures_run_lift, ensures_bind, ensures_markDirty, ensures_bind]
    refine checkVbars_spec ?_ ?_
    · rw [tables]
      exact more.sound_whole sound (Vbar.consistent_fresh _ _ _)
    rw [ensures_log]
    have live := more.get?_eq_some_iff.mpr (.inl ⟨rfl, rfl⟩)
    refine .inr ⟨handle, rfl, ⟨_, tables ▸ live, sameBase, ?_⟩,
      (facade.log _ after.host).device.trans (unchanged.trans placed)⟩
    change _ * after.engine.config.vbarPageSize = _
    rw [config]
    unfold Vbar.nrPages Vbar.fresh
    rw [Array.size_replicate]

/-- Pages whose bytes are no word end the program before the driver is asked. -/
theorem allocate_overflows
    (exceeds : wordLimit ≤ context.engine.pagesFor size * context.engine.config.vbarPageSize) :
    Ensures (fun cause => cause = .overflow) (allocate size owner).run context
      fun _ _ => False := by
  unfold allocate
  rw [ensures_run_bind, ensures_run_lift, ensures_log]
  dsimp only
  rw [ensures_run_bind, ensures_run_lift, ensures_engine]
  dsimp only
  rw [ensures_run_bind, ensures_run_lift]
  exact ensures_word (.inr rfl) fun small => absurd exceeds (Nat.not_le_of_lt small)

end Vbars

/-! ## Operations -/

/-- What an operation hands out starts at an address. -/
def Outcome.StartsAt (engine : Engine) (base size : Nat) : Outcome → Prop
  | .address ptr => ptr = base
  | .vbar handle => ∃ vbar, engine.vbars.get? handle = some vbar ∧ vbar.base = base ∧
      vbar.nrPages * engine.config.vbarPageSize = size
  | _ => False

namespace Operation

variable {σ : Type} [Host σ] {facade : Facade σ} {context : Context σ} {bytes : Nat}
  {aborts : Abort → Prop}

/-- The bytes of addresses that an operation asks the driver for. -/
def asked? (engine : Engine) : Operation → Option Nat
  | allocateVbar size _ =>
      let bytes := engine.pagesFor size * engine.config.vbarPageSize
      if hostHolds (engine.pagesFor size) Vbar.pageEntrySize ∧ bytes < wordLimit then some bytes
      else none
  | allocate size _ | createBuffer _ size => roundUp? size engine.config.minAllocSize
  | _ => none

theorem asked?_allocateVbar {engine : Engine} {size : Nat} {owner : Int} :
    asked? engine (allocateVbar size owner) = some bytes ↔
      hostHolds (engine.pagesFor size) Vbar.pageEntrySize = true ∧ bytes < wordLimit ∧
        engine.pagesFor size * engine.config.vbarPageSize = bytes := by
  grind [asked?]

def IsAllocation : Operation → Prop
  | allocate _ _ => True
  | _ => False

theorem IsAllocation.exists_eq {operation : Operation} (allocation : operation.IsAllocation) :
    ∃ size owner, operation = allocate size owner := by
  cases operation with
  | allocate size owner => exact ⟨size, owner, rfl⟩
  | _ => exact allocation.elim

/-- A VBAR is asked for where every slot has one. -/
def FindsNoSlot (engine : Engine) : Operation → Prop
  | allocateVbar _ _ => engine.vbars.toList.length = slotLimit
  | _ => False

/-- The end of an operation whose addresses are granted. It comes to nothing only if it is an
allocation, which asks for memory as well. -/
structure Granted (facade : Facade σ) (operation : Operation) (device : Device) (bytes : Nat)
    (outcome : Except Error Outcome) (after : Context σ) : Prop where
  admitted : Buffers.Admitted outcome
  placed : ∀ value, outcome = .ok value →
    value.StartsAt after.engine device.nextAddress bytes ∧
      (device.reserved bytes).SameSpace (facade.bench after.host).device
  failed : ∀ cause, outcome = .error cause → operation.IsAllocation

/-- The sums decide about every operation that asks for addresses. -/
theorem run_settles {device : Device} (operation : Operation)
    (sound : SoundVbars context.engine.vbars) (unit : 0 < context.engine.config.minAllocSize)
    (bounded : device.Bounded) (clear : (facade.bench context.host).Clear)
    (same : (facade.bench context.host).device = device)
    (asked : operation.asked? context.engine = some bytes) (positive : 0 < bytes) :
    Ensures (fun _ => device.decision bytes = .overflows ∨ device.decision bytes = .granted ∧
        (operation.FindsNoSlot context.engine ∨ operation.IsAllocation))
      operation.run context (Settled facade context.engine device bytes
        (operation.Granted facade device bytes)) := by
  cases operation with
  | allocateVbar size owner =>
    obtain ⟨holds, small, pages⟩ := asked?_allocateVbar.mp asked
    refine ensures_handOut_result ((Vbars.allocate_settles sound bounded positive small clear same
      pages holds .inl fun granted full => .inr ⟨granted, .inl full⟩).mono
      fun _ _ settled => settled.map fun result after placed => ?_)
    obtain ⟨handle, rfl, live, space⟩ := placed
    refine ⟨Buffers.admitted_ok _, fun value ok => ?_, nofun⟩
    cases ok
    refine ⟨live, ?_⟩
    rw [space]
    exact .refl _
  | createBuffer owner size =>
    refine ensures_handOut_result ((Buffers.create_settles positive clear same asked .inl).mono
      fun _ _ settled => settled.map fun result after placed => ?_)
    obtain ⟨base, rfl, created⟩ := placed
    refine ⟨Buffers.admitted_ok _, fun value ok => ?_, nofun⟩
    cases ok
    refine ⟨created.base, ?_⟩
    rw [created.device]
    exact .refl _
  | allocate size owner =>
    refine ensures_handOut_result ((Buffers.allocate_settles positive clear same unit asked
      fun notRefused cause => ?_).mono fun _ _ settled => settled.map
        fun result after allocated => ?_)
    · cases decided : device.decision bytes with
      | granted => exact .inr ⟨rfl, .inr trivial⟩
      | refused => exact absurd decided notRefused
      | overflows => exact .inl rfl
    · cases result with
      | ok base =>
        refine ⟨Buffers.admitted_ok _, fun value ok => ?_, nofun⟩
        cases ok
        exact allocated.placed base rfl
      | error cause =>
        refine ⟨fun other same => allocated.admitted other (by cases same; rfl), nofun, ?_⟩
        exact fun _ _ => trivial
  | _ => cases asked

/-- A sum of the operation is no word, which ends the program. -/
def Overflows (operation : Operation) (context : Context σ) : Prop :=
  ∃ after, operation.run context = .error .overflow after

instance (operation : Operation) (context : Context σ) :
    Decidable (operation.Overflows context) :=
  match ran : operation.run context with
  | .ok _ _ => .isFalse fun ⟨_, ended⟩ => nomatch ran.symm.trans ended
  | .error cause after => decidable_of_iff (cause = .overflow)
      ⟨fun same => ⟨after, same ▸ ran⟩, fun ⟨_, ended⟩ => by cases ran.symm.trans ended; rfl⟩

/-- The end of an operation that the sums decide about, unless the host refuses memory for a table.
Granted addresses make it abort only if there is no slot for a VBAR, or if it is an allocation, and
then only where nothing is known of the memory that it asks for. -/
structure Decided (facade : Facade σ) (operation : Operation) (context : Context σ)
    (bytes : Nat) : Prop where
  small : (facade.bench context.host).device.decision bytes = .granted →
    (facade.bench context.host).device.nextAddress + bytes < wordLimit
  granted : (facade.bench context.host).device.decision bytes = .granted →
    Ensures (fun cause => cause = .overflow ∧ (operation.FindsNoSlot context.engine ∨
        ∃ size owner, operation = .allocate size owner ∧
          ¬ Requestable facade context size bytes))
      operation.run context (fun outcome after => Starved σ outcome ∨
        operation.Granted facade (facade.bench context.host).device bytes outcome after)
  refused : (facade.bench context.host).device.decision bytes = .refused →
    ∃ outcome after, operation.run context = .ok outcome after ∧ (Starved σ outcome ∨
      RefusedAddresses facade context.engine (facade.bench context.host).device outcome after)
  overflows : (facade.bench context.host).device.decision bytes = .overflows →
    operation.Overflows context ∨
      ∃ outcome after, operation.run context = .ok outcome after ∧ Starved σ outcome

/-- While backing a buffer is safe, an allocation comes to an end. -/
theorem allocate_returns {kept size : Nat} {owner : Int} (sound : Sound (facade.books kept) context)
    (requestable : Requestable facade context size bytes) :
    ∃ outcome after, (allocate size owner).run context = .ok outcome after := by
  obtain ⟨around, -, quiet⟩ := requestable.quietly sound
  have served : Ensures (fun _ => False) (Buffers.allocate size owner).run context _ :=
    Buffers.allocate_served quiet requestable.round requestable.positive requestable.reservable
      requestable.holds
  have returns : Ensures (fun _ => False) (allocate size owner).run context fun _ _ => True :=
    ensures_handOut_result (served.mono fun _ _ _ => trivial)
  obtain ⟨outcome, after, ran, -⟩ := returns.exists_ok
  exact ⟨outcome, after, ran⟩

/-- The sums decide, and what is left over is refused by the host. -/
theorem decided_of_sound {kept : Nat} (operation : Operation)
    (sound : Sound (facade.books kept) context) (clear : (facade.bench context.host).Clear)
    (asked : operation.asked? context.engine = some bytes) (positive : 0 < bytes) :
    operation.Decided facade context bytes := by
  have books : (facade.bench context.host).Books kept context.engine.regions none
    context.engine.holdings := sound.books.agrees
  have settles := operation.run_settles sound.vbars (Config.validate_ok sound.valid).2.2
    books.bounded clear rfl asked positive
  have overflow : ∀ {cause : Abort} {after : Context σ},
      operation.run context = .error cause after → cause = .overflow := fun ran =>
    (operation.run_spec sound rfl fun _ => trivial).of_error ran
  unfold Settled at settles
  refine ⟨Device.ends_lt_of_granted, fun granted => ?_, fun refused => ?_, fun overflows => ?_⟩
  · rw [granted] at settles
    unfold Ensures
    cases ran : operation.run context with
    | ok outcome after => exact settles.of_ok ran
    | error cause after =>
      refine ⟨overflow ran, ?_⟩
      rcases settles.of_error ran with overflows | ⟨-, full | allocation⟩
      · cases overflows
      · exact .inl full
      · obtain ⟨size, owner, rfl⟩ := allocation.exists_eq
        refine .inr ⟨size, owner, rfl, fun requestable => ?_⟩
        obtain ⟨outcome, other, returned⟩ := allocate_returns sound requestable
        cases ran.symm.trans returned
  · rw [refused] at settles
    have returns : Ensures (fun _ => False) operation.run context _ :=
      settles.weaken fun _ never => never.elim nofun fun never => nomatch never.1
    exact returns.exists_ok
  · rw [overflows] at settles
    cases ran : operation.run context with
    | ok outcome after => exact .inr ⟨outcome, after, rfl, (settles.of_ok ran).resolve_right id⟩
    | error cause after =>
      cases overflow ran
      exact .inl ⟨after, ran⟩

/-- A size too large to be rounded is refused whoever asks for it. -/
theorem run_refuses {operation : Operation} {size : Nat} {owner : Int}
    (asks : operation = .allocate size owner ∨ operation = .createBuffer owner size)
    (round : roundUp? size context.engine.config.minAllocSize = none) :
    Ensures (fun _ => False) operation.run context
      (RefusedAddresses facade context.engine (facade.bench context.host).device) := by
  rcases asks with rfl | rfl
  · exact ensures_handOut_result
      ((Buffers.allocate_refuses rfl round).mono fun _ _ refused => refused.map)
  · exact ensures_handOut_result
      ((Buffers.create_refuses rfl round).mono fun _ _ refused => refused.map)

end Operation

/-- After every run in front of a bench the bytes reserved are those of the ranges not yet given
back, which lie apart behind the base address and in front of the next one. While no reservation is
to fail, and the host refuses no memory for a table, the two sums of the device decide about every
request: one within the limit is granted at the next address, one beyond it is refused for lack of
addresses, and one whose sum is no word ends the program. So does a VBAR whose bytes are no word,
while a buffer size that cannot be rounded is refused. -/
theorem reservations_decided {σ : Type} [Host σ] (facade : Facade σ) {context : Context σ}
    {device : Int} {config : Config} {host host' : σ} {engine : Engine}
    (pristine : (facade.bench host).device.Pristine)
    (opened : Engine.create device config host = .ok (.ok engine) host')
    (run : Run facade.Adjusted anyOperation ⟨engine, host'⟩ context)
    (clear : (facade.bench context.host).Clear) :
    (facade.bench context.host).device.Laid ∧
    (∀ region ∈ context.engine.regions,
      (facade.bench context.host).device.reservations.get? region.base = some region.size) ∧
    (∀ (operation : Operation) (bytes : Nat), operation.asked? context.engine = some bytes →
      0 < bytes → operation.Decided facade context bytes) ∧
    (∀ (operation : Operation) (size : Nat) (owner : Int),
      operation = .allocate size owner ∨ operation = .createBuffer owner size →
      roundUp? size context.engine.config.minAllocSize = none →
        ∃ outcome after, operation.run context = .ok outcome after ∧
          RefusedAddresses facade context.engine (facade.bench context.host).device outcome
            after) ∧
    ∀ (size : Nat) (owner : Int),
      wordLimit ≤ context.engine.pagesFor size * context.engine.config.vbarPageSize →
        (Operation.allocateVbar size owner).Overflows context := by
  obtain ⟨kept, sound⟩ := facade.accounts_of_run run ⟨_, facade.sound_opened pristine.toUnused opened⟩
  have books : (facade.bench context.host).Books kept context.engine.regions none
    context.engine.holdings := sound.books.agrees
  refine ⟨facade.laid_of_run run (facade.laid_of_opened pristine opened),
    books.addresses.reserved, fun operation bytes => operation.decided_of_sound sound clear,
    fun operation size owner asks round => (Operation.run_refuses asks round).exists_ok,
    fun size owner exceeds => ?_⟩
  have overflows : Ensures _ (Operation.allocateVbar size owner).run context fun _ _ => False :=
    Operation.ensures_handOut_result
      ((Vbars.allocate_overflows exceeds).mono fun _ _ never => never.elim)
  obtain ⟨cause, after, ran, rfl⟩ := overflows.exists_error
  exact ⟨after, ran⟩

/-- Behind a buffer of half the words, a byte is granted, the rest of the words is refused, and the
other half ends the program. -/
theorem reservations_decided_three_ways :
    ∃ context : Context Bench, context.host.device.reservedBytes = 2 ^ 63 ∧
      (∃ outcome after, (Operation.createBuffer 0 1).run context = .ok outcome after ∧
        (Operation.createBuffer 0 1).Granted Bench.facade context.host.device 1 outcome after) ∧
      (∃ outcome after,
        (Operation.createBuffer 0 0x7fffffffffffffff).run context = .ok outcome after ∧
        RefusedAddresses Bench.facade context.engine context.host.device outcome after) ∧
      (Operation.createBuffer 0 (2 ^ 63)).Overflows context := by
  have reached : reaches 0 .bytewise { device := { capacity := 4 } : Bench } anyOperation
      [.createBuffer 0 (2 ^ 63)] (fun context =>
        context.host.device.reservedBytes = 2 ^ 63 ∧ context.host.Clear ∧
        (Operation.createBuffer 0 1).asked? context.engine = some 1 ∧
        (Operation.createBuffer 0 0x7fffffffffffffff).asked? context.engine =
          some 0x7fffffffffffffff ∧
        (Operation.createBuffer 0 (2 ^ 63)).asked? context.engine = some (2 ^ 63) ∧
        context.host.device.decision 1 = .granted ∧
        context.host.device.decision 0x7fffffffffffffff = .refused ∧
        context.host.device.decision (2 ^ 63) = .overflows) = true := by
    decide +kernel
  obtain ⟨engine, bench, context, opened, run, passed⟩ :=
    exists_run_of_reaches Bench.facade.Adjusted reached
  obtain ⟨reserved, clear, one, most, half, granted, refused, overflows⟩ :=
    of_decide_eq_true passed
  have ample : ∀ {outcome : Except Error Outcome}, ¬ Starved Bench outcome :=
    fun starved => starved.2 fun _ _ _ => rfl
  obtain ⟨-, -, decided, -, -⟩ := reservations_decided Bench.facade
    ⟨⟨rfl, rfl, rfl, rfl, rfl⟩, rfl, rfl⟩ opened run clear
  have first := (decided _ _ one (by omega)).granted granted
  have second := (decided _ _ most (by omega)).refused refused
  have third := (decided _ _ half (by omega)).overflows overflows
  refine ⟨context, reserved, ?_, ?_, third.resolve_right ?_⟩
  · have other : ¬ ∃ size owner, Operation.createBuffer 0 1 = .allocate size owner ∧
        ¬ Requestable Bench.facade context size 1 := by
      rintro ⟨_, _, ⟨⟩, _⟩
    obtain ⟨outcome, after, ran, done⟩ :=
      (first.weaken fun _ aborted => aborted.2.elim id other).exists_ok
    exact ⟨outcome, after, ran, done.resolve_left ample⟩
  · obtain ⟨outcome, after, ran, done⟩ := second
    exact ⟨outcome, after, ran, done.resolve_left ample⟩
  · rintro ⟨outcome, after, -, starved⟩
    exact ample starved

/-- Half the words were reserved and given back, and then a quarter was reserved. Another quarter
keeps to the limit, and all words together do not, yet the program ends over either. -/
theorem requests_overflow :
    ∃ (bench bench' : Bench) (engine : Engine) (context : Context Bench),
      bench.device.Pristine ∧ Engine.create 0 .bytewise bench = .ok (.ok engine) bench' ∧
      Run Bench.facade.Adjusted anyOperation ⟨engine, bench'⟩ context ∧ context.host.Clear ∧
      (context.host.device.reservedBytes + 2 ^ 62 ≤ context.host.device.addressSpaceLimit ∧
        (Operation.createBuffer 0 (2 ^ 62)).Overflows context) ∧
      (context.host.device.addressSpaceLimit < context.host.device.reservedBytes + (2 ^ 64 - 1) ∧
        (Operation.createBuffer 0 (2 ^ 64 - 1)).Overflows context) := by
  have reached : reaches 0 .bytewise { device := { capacity := 4 } : Bench } anyOperation
      [.createBuffer 0 (2 ^ 63), .destroyBuffer addressBase, .createBuffer 0 (2 ^ 62)]
      (fun context => context.host.Clear ∧
        (context.host.device.reservedBytes + 2 ^ 62 ≤ context.host.device.addressSpaceLimit ∧
          (Operation.createBuffer 0 (2 ^ 62)).Overflows context) ∧
        context.host.device.addressSpaceLimit < context.host.device.reservedBytes + (2 ^ 64 - 1) ∧
          (Operation.createBuffer 0 (2 ^ 64 - 1)).Overflows context) = true := by
    decide +kernel
  obtain ⟨engine, bench, context, opened, run, passed⟩ :=
    exists_run_of_reaches Bench.facade.Adjusted reached
  obtain ⟨clear, fits, exceeds⟩ := of_decide_eq_true passed
  exact ⟨_, bench, engine, context, ⟨⟨rfl, rfl, rfl, rfl, rfl⟩, rfl, rfl⟩, opened, run, clear, fits,
    exceeds⟩

end VramOvercommit
